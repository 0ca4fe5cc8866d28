import CoverAudit.Text.Split

/-!
# Options on a command line

Options start with a dash. A value is the next argument, whatever it looks like, or stands behind
`=`; `--` ends the options. Where arguments are mixed, options may also follow them; otherwise the
first argument ends the options.
-/

namespace CoverAudit

/-- Why a command line is refused. -/
inductive UsageError where
  | noSuchOption (name : String)
  | missingValue (name : String)
  | unexpectedValue (name : String)
  | noSuchCommand (name : String)
  | missingCommand
  | unexpectedArguments (arguments : List String)
  /-- Nothing at all is asked for. -/
  | noArguments
  deriving DecidableEq, Repr

/-- The error in words. -/
def UsageError.message : UsageError → String
  | .noSuchOption name => "No such option: " ++ name
  | .missingValue name => "Option '" ++ name ++ "' requires an argument."
  | .unexpectedValue name => "Option '" ++ name ++ "' does not take a value."
  | .noSuchCommand name => "No such command '" ++ name ++ "'."
  | .missingCommand => "Missing command."
  | .unexpectedArguments [argument] => "Got unexpected extra argument (" ++ argument ++ ")"
  | .unexpectedArguments arguments =>
    "Got unexpected extra arguments (" ++ Text.join ' ' arguments ++ ")"
  | .noArguments => "Nothing to do."

/-- An option with its value, if it has one. -/
structure GivenOption where
  name : String
  value : Option String := none
  deriving DecidableEq, Repr

/-- What options a command has. -/
structure OptionGrammar where
  /-- The options with a value. -/
  valued : List String
  /-- The options without one. -/
  flags : List String
  /-- Whether options may follow arguments. -/
  mixed : Bool

namespace OptionGrammar

/-- Whether an argument is an option. -/
def isOption (argument : String) : Bool :=
  match argument.toList with
  | '-' :: _ :: _ => true
  | _ => false

/-- The name of an option and the value attached to it. -/
def splitOption (argument : String) : GivenOption :=
  match Text.split '=' argument with
  | name :: first :: rest => ⟨name, some (Text.join '=' (first :: rest))⟩
  | _ => ⟨argument, none⟩

/-- The options on a command line, and the arguments that are left. -/
def parse (grammar : OptionGrammar) :
    List String → Except UsageError (List GivenOption × List String)
  | [] => .ok ([], [])
  | argument :: rest =>
    if argument = "--" then .ok ([], rest)
    else if isOption argument then
      let option := splitOption argument
      if grammar.valued.contains option.name then
        match option.value, rest with
        | some _, rest => do
          let (options, arguments) ← parse grammar rest
          return (option :: options, arguments)
        | none, value :: rest => do
          let (options, arguments) ← parse grammar rest
          return (⟨option.name, some value⟩ :: options, arguments)
        | none, [] => .error (.missingValue option.name)
      else if grammar.flags.contains option.name then
        if option.value.isSome then .error (.unexpectedValue option.name)
        else do
          let (options, arguments) ← parse grammar rest
          return (option :: options, arguments)
      else .error (.noSuchOption option.name)
    else if grammar.mixed then do
      let (options, arguments) ← parse grammar rest
      return (options, argument :: arguments)
    else .ok ([], argument :: rest)
termination_by arguments => arguments.length

end OptionGrammar

namespace GivenOption

/-- The values of an option, in order. -/
def valuesOf (name : String) (options : List GivenOption) : List String :=
  options.filterMap fun option => if option.name = name then option.value else none

/-- The value of an option: the last one. -/
def valueOf? (name : String) (options : List GivenOption) : Option String :=
  (valuesOf name options).getLast?

/-- Whether an option is given. -/
def isGiven (name : String) (options : List GivenOption) : Bool :=
  options.any fun option => option.name = name

end GivenOption

end CoverAudit
