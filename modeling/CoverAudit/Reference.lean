/-!
# References to covered code

A `@covers` value names a type (`Type`), a member of a type (`Type::member`), or a member of the
default class or a function (`::member`). It is cut at the first `::`; a second `::` and what
follows it is dropped.
-/

namespace CoverAudit

/-- The parts before and behind the first `::`. -/
def cutSeparator : List Char → Option (List Char × List Char)
  | ':' :: ':' :: rest => some ([], rest)
  | c :: rest => (cutSeparator rest).map fun (before, behind) => (c :: before, behind)
  | [] => none

/-- One parsed `@covers` value. -/
structure Reference where
  text : String
  typeName : String := ""
  memberName : String := ""
  /-- No type stands before the `::`. -/
  usesDefaultClass : Bool := false
  deriving DecidableEq, Repr

/-- Reads a `@covers` value. -/
def Reference.parse (text : String) : Reference :=
  match cutSeparator text.toList with
  | none => { text, typeName := text }
  | some (typeName, rest) =>
    let memberName := ((cutSeparator rest).map Prod.fst).getD rest
    { text
      typeName := String.ofList typeName
      memberName := String.ofList memberName
      usesDefaultClass := typeName.isEmpty }

end CoverAudit
