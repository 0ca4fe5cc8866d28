import CoverAudit.Text.Quoted

/-!
# Plain values

A value that is no test: what a caller may hand in where a test is expected. A value has a kind and
can be shown.
-/

namespace CoverAudit

/-- A plain value. `decimal m e` is the number `m · 10⁻ᵉ`. -/
inductive Datum where
  | null
  | bool (value : Bool)
  | integer (value : Int)
  | decimal (mantissa : Int) (exponent : Nat)
  | text (value : String)
  | list (items : List Datum)
  | record (fields : List (String × Datum))
  /-- A value of any other kind: what the kind is called, how messages show the value, and the
  value as a text of its own. -/
  | object (kind shown plain : String)
  deriving Repr, Inhabited

namespace Datum

/-- The name of a value's kind. -/
def kind : Datum → String
  | .null => "NoneType"
  | .bool _ => "bool"
  | .integer _ => "int"
  | .decimal _ _ => "float"
  | .text _ => "str"
  | .list _ => "list"
  | .record _ => "dict"
  | .object kind _ _ => kind

/-- Leaves out the zeros at the end of a list of digits: the digits left, and how many went. -/
def dropZeros (digits : List Char) : List Char × Nat :=
  let kept := (digits.reverse.dropWhile (· = '0')).reverse
  (kept, digits.length - kept.length)

/-- A number by its significant digits and the place of its decimal point, which stands `point`
digits behind the first one. The notation is positional from 10⁻⁴ up to below 10¹⁶. -/
def showDigits (digits : List Char) (point : Int) : String :=
  let count : Int := digits.length
  if point ≤ -4 || 16 < point then
    let exponent : Int := point - 1
    let mark := if exponent < 0 then "e-" else "e+"
    let size := ToString.toString exponent.natAbs
    let size := if size.length < 2 then "0" ++ size else size
    let fraction := if digits.length ≤ 1 then "" else "." ++ String.ofList (digits.drop 1)
    String.ofList (digits.take 1) ++ fraction ++ mark ++ size
  else if point ≤ 0 then
    "0." ++ String.ofList (List.replicate (-point).toNat '0' ++ digits)
  else if count ≤ point then
    String.ofList (digits ++ List.replicate (point - count).toNat '0') ++ ".0"
  else String.ofList (digits.take point.toNat) ++ "." ++ String.ofList (digits.drop point.toNat)

/-- The number `m · 10⁻ᵉ`. -/
def showDecimal (mantissa : Int) (exponent : Nat) : String :=
  let sign := if mantissa < 0 then "-" else ""
  let (digits, dropped) := dropZeros (Nat.toDigits 10 mantissa.natAbs)
  if mantissa = 0 then "0.0"
  else sign ++ showDigits digits (digits.length + dropped - exponent)

mutual

/-- The value as messages show it. -/
def shown : Datum → String
  | .null => "None"
  | .bool value => if value then "True" else "False"
  | .integer value => ToString.toString value
  | .decimal mantissa exponent => showDecimal mantissa exponent
  | .text value => Text.quoted value
  | .list items => "[" ++ shownItems items ++ "]"
  | .record fields => "\x7b" ++ shownFields fields ++ "\x7d"
  | .object _ shown _ => shown

/-- The items of a list as messages show them. -/
def shownItems : List Datum → String
  | [] => ""
  | [item] => item.shown
  | item :: rest => item.shown ++ ", " ++ shownItems rest

/-- The fields of a record as messages show them. -/
def shownFields : List (String × Datum) → String
  | [] => ""
  | [(name, value)] => Text.quoted name ++ ": " ++ value.shown
  | (name, value) :: rest => Text.quoted name ++ ": " ++ value.shown ++ ", " ++ shownFields rest

end

/-- The value as a text of its own: a text without quotes, collections and numbers as messages show
them. -/
def plain : Datum → String
  | .text value => value
  | .object _ _ plain => plain
  | value => value.shown

end Datum

end CoverAudit
