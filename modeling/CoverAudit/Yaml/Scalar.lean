import CoverAudit.Text.Blank
import CoverAudit.Text.Digit
import CoverAudit.Text.Lower
import CoverAudit.Text.Split
import CoverAudit.Yaml.Fault
import CoverAudit.Yaml.Tag

/-!
# Values of scalars

What a scalar with a tag stands for. The tag may be spelled out, so the text need not look like a
value of its type; each type has its own way to refuse a text. Settings hold no numbers, dates and
bytes: of these only the type is kept, once the text has been found to be one.
-/

namespace CoverAudit.Yaml

/-- The value of a scalar. -/
inductive Scalar where
  | null
  | truth (value : Bool)
  | text (value : String)
  | number
  | timestamp
  | binary
  deriving DecidableEq, Repr

namespace Scalar

/-- The most digits of a decimal numeral. -/
def maxDigits : Nat := 4300

/-- Whether digits to a base follow to the end, at least one. The base may be announced. -/
def isDigits (base : Nat) (mark : Char) (cs : List Char) : Bool :=
  let digits :=
    match cs with
    | '0' :: c :: rest => if c.toLower = mark && base ≠ 10 then rest else cs
    | _ => cs
  !digits.isEmpty && digits.all (fun c => (Text.digitIn? base c).isSome) &&
    (base ≠ 10 || digits.length ≤ maxDigits)

/-- Whether a text is a numeral to a base, with blanks around it and a sign if need be. -/
def isNumeral (base : Nat) (mark : Char) (cs : List Char) : Bool :=
  isDigits base mark (Tag.dropSign (Text.stripChars cs))

/-- Whether a text is a decimal numeral. -/
def isDecimalNumeral (cs : List Char) : Bool :=
  isNumeral 10 ' ' cs

/-- Whether a text is nothing, or an exponent. -/
def isExponent : List Char → Bool
  | [] => true
  | 'e' :: rest =>
    let digits := Tag.dropSign rest
    !digits.isEmpty && digits.all Text.isDecimalDigit
  | _ => false

/-- Whether a text in small letters is a number with or without a point, or a word for one. -/
def isFloating (cs : List Char) : Bool :=
  let cs := Tag.dropSign (Text.stripChars cs)
  let whole := cs.takeWhile Text.isDecimalDigit
  let rest := cs.dropWhile Text.isDecimalDigit
  ["inf", "infinity", "nan"].contains (String.ofList cs) ||
    match rest with
    | '.' :: rest =>
      let fraction := rest.takeWhile Text.isDecimalDigit
      !(whole.isEmpty && fraction.isEmpty) &&
        isExponent (rest.dropWhile Text.isDecimalDigit)
    | _ => !whole.isEmpty && isExponent rest

/-- A number if the condition holds. -/
def numberIf (valid : Bool) : Except Fault Scalar :=
  if valid then .ok .number else .error .invalidValue

/-- An integer. Underscores do not count. -/
def integer (text : String) : Except Fault Scalar :=
  let cs := text.toList.filter (· ≠ '_')
  if cs.isEmpty then .error .emptyNumber
  else
    let cs := Tag.dropSign cs
    match cs with
    | [] => .error .emptyNumber
    | ['0'] => .ok .number
    | '0' :: 'b' :: rest => numberIf (isNumeral 2 'b' rest)
    | '0' :: 'x' :: rest => numberIf (isNumeral 16 'x' rest)
    | '0' :: _ => numberIf (isNumeral 8 'o' cs)
    | _ =>
      if cs.contains ':' then
        numberIf ((Text.split ':' (String.ofList cs)).all fun part => isDecimalNumeral part.toList)
      else numberIf (isDecimalNumeral cs)

/-- A number with a point, or one of the words for infinity and for no number. -/
def decimal (text : String) : Except Fault Scalar :=
  let cs := (Text.lower text).toList.filter (· ≠ '_')
  if cs.isEmpty then .error .emptyNumber
  else
    let cs := Tag.dropSign cs
    if cs = [] then .error .invalidValue
    else if [".inf", ".nan"].contains (String.ofList cs) then .ok .number
    else if cs.contains ':' then
      numberIf ((Text.split ':' (String.ofList cs)).all fun part => isFloating part.toList)
    else numberIf (isFloating cs)

/-- A truth value, in letters of any size. -/
def truthValue (text : String) : Except Fault Scalar :=
  let word := Text.lower text
  if ["yes", "true", "on"].contains word then .ok (.truth true)
  else if ["no", "false", "off"].contains word then .ok (.truth false)
  else .error (.unknownTruthValue word)

/-- A date, or a date with a time. A line end behind it does not count. -/
def moment (text : String) : Except Fault Scalar :=
  let cs := match text.toList.reverse with
    | '\n' :: rest => rest.reverse
    | _ => text.toList
  match Timestamp.read? false cs with
  | none => .error .notATimestamp
  | some t => if t.isValid then .ok .timestamp else .error .invalidValue

/-- Whether a character stands for six bits. -/
def isSextet (c : Char) : Bool :=
  c.isAlphanum || c = '+' || c = '/'

/-- Whether groups of four characters end properly: `place` characters of a group have gone by, and
`pads` of the marks that fill it up. Other characters mean nothing. -/
def groupsEnd : Nat → Nat → List Char → Bool
  | place, _, [] => place = 0
  | place, pads, c :: rest =>
    if c = '=' then
      if 2 ≤ place then (4 ≤ place + pads + 1) || groupsEnd place (pads + 1) rest
      else groupsEnd place pads rest
    else if isSextet c then groupsEnd ((place + 1) % 4) 0 rest
    else groupsEnd place pads rest

/-- Bytes, four characters for three of them. -/
def bytes (text : String) : Except Fault Scalar :=
  let cs := text.toList
  if cs.all (·.toNat < 128) && groupsEnd 0 0 cs then .ok .binary else .error .malformed

/-- The value of a scalar with a tag. -/
def read (tag : Tag) (text : String) : Except Fault Scalar :=
  match tag with
  | .null => .ok .null
  | .truth => truthValue text
  | .integer => integer text
  | .decimal => decimal text
  | .timestamp => moment text
  | .binary => bytes text
  | .text => .ok (.text text)
  | _ => .error .malformed

end Scalar

end CoverAudit.Yaml
