import CoverAudit.Annotations
import CoverAudit.Audit.Violation
import CoverAudit.Log
import CoverAudit.Reference
import CoverAudit.Suite.TestNode
import CoverAudit.Symbol.Member
import CoverAudit.Text.Quoted

/-!
# Checking the annotations of a test

Holds the coverage annotations of a test against the symbol index. The default class is judged
first, because targets without a type fall back to it; then every target is judged on its own.
Members of classes outside of the index are a matter of `inspect`, whatever it knows.
-/

namespace CoverAudit.Check

/-- The default class that targets fall back to. -/
structure DefaultClass where
  /-- Empty when none is declared. -/
  name : String := ""
  /-- It is a class of the index. -/
  isValid : Bool := false
  deriving DecidableEq, Repr

/-- The default class of some annotations. -/
def defaultClassOf (index : SymbolIndex) (annotations : Annotations) : DefaultClass :=
  match annotations.defaultClass with
  | none => {}
  | some name => { name, isValid := index.typeExists name }

/-- The problems of the declared default classes. Only the first one is looked up. -/
def defaultClassProblems (index : SymbolIndex) (defaultClasses : List String) : List Problem :=
  match defaultClasses with
  | [] => []
  | name :: rest =>
    (if rest.isEmpty then [] else [.manyDefaultClasses]) ++
      (if index.typeExists name then []
       else if index.isInterface name then [.defaultClassIsInterface name]
       else [.defaultClassMissing name])

/-- Whether a text holds an empty pair of parentheses. -/
def hasParentheses : List Char → Bool
  | '(' :: ')' :: _ => true
  | _ :: rest => hasParentheses rest
  | [] => false

/-- Whether the class that `typeName` stands for has a member. -/
def memberExists (index : SymbolIndex) (inspect : SymbolIndex.Inspection)
    (typeName member : String) : Bool :=
  match index.findMemberBy inspect typeName member with
  | some search => search.holds
  | none => false

/-- The class and the member that a target asks for, when the class is known to exist. -/
def memberQuery (index : SymbolIndex) (fallback : DefaultClass) (target : String) :
    Option (String × String) :=
  if Text.isBlankText target then none
  else
    let ref := Reference.parse target
    if ref.memberName.isEmpty then none
    else if !ref.typeName.isEmpty then
      if index.typeExists ref.typeName then some (ref.typeName, ref.memberName) else none
    else if !fallback.name.isEmpty && fallback.isValid then some (fallback.name, ref.memberName)
    else none

/-- The problem of the member that a target asks for. -/
def memberProblems (index : SymbolIndex) (inspect : SymbolIndex.Inspection)
    (fallback : DefaultClass) (target : String) : List Problem :=
  match memberQuery index fallback target with
  | some (typeName, member) =>
    if memberExists index inspect typeName member then [] else [.methodMissing typeName member]
  | none => []

/-- The problem of the type that a target names, or of the function when it names no type and there
is no default class. -/
def nameProblems (index : SymbolIndex) (fallback : DefaultClass) (target : String) :
    List Problem :=
  let ref := Reference.parse target
  if !ref.typeName.isEmpty then
    if index.typeExists ref.typeName then []
    else if ref.memberName.isEmpty then [.noSeparator target]
    else if index.isInterface ref.typeName then [.typeIsInterface ref.typeName]
    else [.typeMissing ref.typeName]
  else if fallback.name.isEmpty && !index.functionExists ref.memberName then
    [.functionMissing ref.memberName]
  else []

/-- The problems of one target. -/
def targetProblems (index : SymbolIndex) (inspect : SymbolIndex.Inspection)
    (fallback : DefaultClass) (target : String) : List Problem :=
  if Text.isBlankText target then [.emptyTarget]
  else
    (if hasParentheses target.toList then [.parentheses] else []) ++
      nameProblems index fallback target ++ memberProblems index inspect fallback target

/-- The problems of the annotations of a test, in the order in which they are found. -/
def problems (index : SymbolIndex) (inspect : SymbolIndex.Inspection)
    (annotations : Annotations) : List Problem :=
  defaultClassProblems index annotations.defaultClasses ++
    annotations.covers.flatMap (targetProblems index inspect (defaultClassOf index annotations))

/-- The violations of a test. -/
def violations (index : SymbolIndex) (inspect : SymbolIndex.Inspection)
    (annotations : Annotations) (test : TestCase) : List Violation :=
  (problems index inspect annotations).map fun problem => ⟨problem.message, test.identifier⟩

/-- The entry for a member that is taken to exist because some bases can not be inspected. -/
def undecidedEntry (typeName member : String) (bases : List String) : Log.Entry :=
  ⟨.debug, .index, "Can not rule out " ++ typeName ++ "::" ++ member ++ ", bases "
    ++ Text.quotedList bases ++ " are not inspectable"⟩

/-- What the search for a member has to say. -/
def memberLog (index : SymbolIndex) (inspect : SymbolIndex.Inspection)
    (typeName member : String) : List Log.Entry :=
  match index.findMemberBy inspect typeName member with
  | some (.undecided bases) => [undecidedEntry typeName member bases]
  | _ => []

/-- What the check of the annotations of a test has to say besides its violations. -/
def log (index : SymbolIndex) (inspect : SymbolIndex.Inspection) (annotations : Annotations) :
    List Log.Entry :=
  annotations.covers.flatMap fun target =>
    match memberQuery index (defaultClassOf index annotations) target with
    | some (typeName, member) => memberLog index inspect typeName member
    | none => []

end CoverAudit.Check
