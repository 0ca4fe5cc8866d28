/-!
# Types of plain scalars

A scalar without a tag and without quotes has the type that its text looks like, by the rules of
YAML 1.1: `yes` is a truth value, `010` an octal number, `1:30` a number to the base 60, and
`2020-01-01` a date, while `1e3`, `09` and `0o17` are texts.
-/

namespace CoverAudit.Yaml

/-- What a node claims to be. -/
inductive Tag where
  | null
  | truth
  | integer
  | decimal
  | timestamp
  | binary
  | text
  | sequence
  | mapping
  | set
  | orderedMap
  | pairs
  /-- The key `<<`, behind which other mappings are merged in. -/
  | merge
  /-- The key `=`, behind which a mapping has a value of its own. -/
  | defaultValue
  /-- A type that has no values here. -/
  | unknown
  deriving DecidableEq, Repr

namespace Tag

/-- The tag that is spelled out. -/
def ofString (text : String) : Tag :=
  match text with
  | "tag:yaml.org,2002:null" => .null
  | "tag:yaml.org,2002:bool" => .truth
  | "tag:yaml.org,2002:int" => .integer
  | "tag:yaml.org,2002:float" => .decimal
  | "tag:yaml.org,2002:timestamp" => .timestamp
  | "tag:yaml.org,2002:binary" => .binary
  | "tag:yaml.org,2002:str" => .text
  | "tag:yaml.org,2002:seq" => .sequence
  | "tag:yaml.org,2002:map" => .mapping
  | "tag:yaml.org,2002:set" => .set
  | "tag:yaml.org,2002:omap" => .orderedMap
  | "tag:yaml.org,2002:pairs" => .pairs
  | "tag:yaml.org,2002:merge" => .merge
  | "tag:yaml.org,2002:value" => .defaultValue
  | _ => .unknown

/-! ### What a text looks like -/

/-- The spellings of the truth values. -/
def truthWords : List String :=
  ["yes", "Yes", "YES", "no", "No", "NO", "true", "True", "TRUE", "false", "False", "FALSE",
    "on", "On", "ON", "off", "Off", "OFF"]

/-- Digits and underscores. -/
def isGroupedDigit (c : Char) : Bool :=
  c.isDigit || c = '_'

/-- The text without a sign in front. -/
def dropSign : List Char → List Char
  | '+' :: rest => rest
  | '-' :: rest => rest
  | cs => cs

/-- Whether `:` and a number below 60 follow, once or more, and then `finish`. -/
def sexagesimalFrom (finish : List Char → Bool) : Nat → List Char → Bool
  | 0, _ => false
  | fuel + 1, ':' :: c :: d :: rest =>
    if '0' ≤ c && c ≤ '5' && d.isDigit then
      finish rest || sexagesimalFrom finish fuel rest
    else c.isDigit && (finish (d :: rest) || sexagesimalFrom finish fuel (d :: rest))
  | _ + 1, [':', c] => c.isDigit && finish []
  | _ + 1, _ => false

/-- Whether a text is an integer: binary, octal, decimal, hexadecimal or to the base 60. -/
def isInteger (text : List Char) : Bool :=
  match dropSign text with
  | ['0'] => true
  | '0' :: 'b' :: rest => !rest.isEmpty && rest.all fun c => c = '0' || c = '1' || c = '_'
  | '0' :: 'x' :: rest =>
    !rest.isEmpty && rest.all fun c =>
      isGroupedDigit c || ('a' ≤ c && c ≤ 'f') || ('A' ≤ c && c ≤ 'F')
  | '0' :: rest => rest.all fun c => ('0' ≤ c && c ≤ '7') || c = '_'
  | c :: rest =>
    let more := rest.dropWhile isGroupedDigit
    c.isDigit && (more.isEmpty || sexagesimalFrom List.isEmpty text.length more)
  | [] => false

/-- Whether a text is nothing, or an exponent with a sign. -/
def isExponent : List Char → Bool
  | [] => true
  | e :: s :: rest =>
    (e = 'e' || e = 'E') && (s = '+' || s = '-') && !rest.isEmpty && rest.all Char.isDigit
  | _ => false

/-- Whether a text is a point with digits behind it, and nothing else. -/
def isPointed : List Char → Bool
  | '.' :: rest => rest.all isGroupedDigit
  | _ => false

/-- Whether a text is a decimal number, which has a point. -/
def isDecimal (text : List Char) : Bool :=
  let unsigned := dropSign text
  match unsigned with
  | '.' :: c :: rest =>
    -- Without digits in front of the point a number has no sign.
    (unsigned = text && c.isDigit && isExponent (rest.dropWhile isGroupedDigit))
      || [".inf", ".Inf", ".INF"].contains (String.ofList unsigned)
      || [".nan", ".NaN", ".NAN"].contains (String.ofList text)
  | c :: rest =>
    let more := rest.dropWhile isGroupedDigit
    c.isDigit &&
      match more with
      | '.' :: fraction => isExponent (fraction.dropWhile isGroupedDigit)
      | _ => sexagesimalFrom isPointed text.length more
  | [] => false

/-- The spellings of no value. -/
def nullWords : List String := ["", "~", "null", "Null", "NULL"]

/-- Takes at least `least` and at most `most` digits off the front. -/
def takeDigits (least most : Nat) (cs : List Char) : Option (List Char × List Char) :=
  let digits := (cs.take most).takeWhile Char.isDigit
  if digits.length < least then none else some (digits, cs.drop digits.length)

/-- Takes one given character off the front. -/
def takeChar (c : Char) : List Char → Option (List Char)
  | d :: rest => if d = c then some rest else none
  | [] => none

end Tag

/-- The parts of a timestamp. -/
structure Timestamp where
  year : Nat
  month : Nat
  day : Nat
  /-- The time of day: hour, minute and second. -/
  time : Option (Nat × Nat × Nat) := none
  /-- How far the clock is from the standard one, in minutes. -/
  offset : Nat := 0
  deriving DecidableEq, Repr

namespace Timestamp

open Tag

/-- The number that decimal digits stand for. -/
def numberOf (digits : List Char) : Nat :=
  digits.foldl (fun n d => 10 * n + (d.toNat - '0'.toNat)) 0

/-- Spaces and tabs. -/
def isGap (c : Char) : Bool :=
  c = ' ' || c = '\t'

/-- The time zone at the end of a timestamp: its distance in minutes. -/
def zone? (cs : List Char) : Option Nat :=
  match cs with
  | [] => some 0
  | _ =>
    match cs.dropWhile isGap with
    | ['Z'] => some 0
    | sign :: rest => do
      guard (sign = '+' || sign = '-')
      let (hours, rest) ← takeDigits 1 2 rest
      if rest.isEmpty then return 60 * numberOf hours
      let rest ← takeChar ':' rest
      let (minutes, rest) ← takeDigits 2 2 rest
      guard rest.isEmpty
      return 60 * numberOf hours + numberOf minutes
    | [] => none

/-- The time of day and the zone behind a date. -/
def time? (cs : List Char) : Option ((Nat × Nat × Nat) × Nat) := do
  let rest ← match cs with
    | 'T' :: rest => some rest
    | 't' :: rest => some rest
    | c :: rest => if isGap c then some (rest.dropWhile isGap) else none
    | [] => none
  let (hour, rest) ← takeDigits 1 2 rest
  let rest ← takeChar ':' rest
  let (minute, rest) ← takeDigits 2 2 rest
  let rest ← takeChar ':' rest
  let (second, rest) ← takeDigits 2 2 rest
  let rest := match rest with
    | '.' :: rest => rest.dropWhile Char.isDigit
    | rest => rest
  let offset ← zone? rest
  return ((numberOf hour, numberOf minute, numberOf second), offset)

/-- Reads a timestamp. A date alone has two digits for month and day when `strict`. -/
def read? (strict : Bool) (cs : List Char) : Option Timestamp := do
  let (year, rest) ← takeDigits 4 4 cs
  let rest ← takeChar '-' rest
  let (month, rest) ← takeDigits 1 2 rest
  let rest ← takeChar '-' rest
  let (day, rest) ← takeDigits 1 2 rest
  let date : Timestamp := { year := numberOf year, month := numberOf month, day := numberOf day }
  if rest.isEmpty then
    guard (!strict || (month.length = 2 && day.length = 2))
    return date
  else
    let (time, offset) ← time? rest
    return { date with time := some time, offset }

/-- The number of days in a month. -/
def daysIn (year month : Nat) : Nat :=
  if month = 2 then
    if year % 4 = 0 && (year % 100 ≠ 0 || year % 400 = 0) then 29 else 28
  else if [4, 6, 9, 11].contains month then 30
  else 31

/-- Whether the calendar and the clock have such a timestamp. -/
def isValid (t : Timestamp) : Bool :=
  1 ≤ t.year && 1 ≤ t.month && t.month ≤ 12 && 1 ≤ t.day && t.day ≤ daysIn t.year t.month &&
    t.offset < 24 * 60 &&
    match t.time with
    | some (hour, minute, second) => hour < 24 && minute < 60 && second < 60
    | none => true

end Timestamp

namespace Tag

/-- The type that a plain text looks like. -/
def ofText (text : String) : Tag :=
  let cs := text.toList
  if truthWords.contains text then .truth
  else if isDecimal cs then .decimal
  else if isInteger cs then .integer
  else if text = "<<" then .merge
  else if nullWords.contains text then .null
  else if (Timestamp.read? true cs).isSome then .timestamp
  else if text = "=" then .defaultValue
  else .text

/-- The type that a scalar looks like; a line end behind it does not count. -/
def implicit (text : String) : Tag :=
  match ofText text, text.toList.reverse with
  | .text, '\n' :: rest@(_ :: _) => ofText (String.ofList rest.reverse)
  | tag, _ => tag

end Tag

end CoverAudit.Yaml
