import CoverAudit.Annotations
import CoverAudit.Source.Tree

/-!
# Markers in the source

Coverage annotations that the source of a test declares by markers: decorators such as
`@pytest.mark.covers("shop.Widget")`, and assignments to `pytestmark` in the body of a module or of
a class. Only arguments that are string literals count; blanks around them do not.
-/

namespace CoverAudit

/-- The values that markers of one scope declare. -/
structure Markers where
  defaultClasses : List String := []
  covers : List String := []
  deriving DecidableEq, Repr, Inhabited

namespace Markers

/-- The values of two scopes, one behind the other. -/
def append (a b : Markers) : Markers where
  defaultClasses := a.defaultClasses ++ b.defaultClasses
  covers := a.covers ++ b.covers

/-- The values of some scopes, in order. -/
def concat (scopes : List Markers) : Markers :=
  scopes.foldr append {}

/-- The attributes that an expression ends in, with the name they start from if there is one. -/
def attributePath : Source.Expr → List String
  | .name id => [id]
  | .attribute value attr => attributePath value ++ [attr]
  | _ => []

/-- The marker that an expression names: what stands behind the attribute `mark`. -/
def markerName? (function : Source.Expr) : Option String :=
  match (attributePath function).reverse with
  | name :: "mark" :: _ => some name
  | _ => none

/-- The string literals among the arguments of a call, without blanks around them. -/
def textArguments (arguments : List Source.Expr) : List String :=
  arguments.filterMap fun
    | .text value => some (Text.strip value)
    | _ => none

/-- What one expression declares, if it is a call of a coverage marker. -/
def ofExpr : Source.Expr → Markers
  | .call function arguments =>
    match markerName? function with
    | some name =>
      if name = Annotations.coversTag then { covers := textArguments arguments }
      else if name = Annotations.defaultClassMarker then
        { defaultClasses := textArguments arguments }
      else {}
    | none => {}
  | _ => {}

/-- What some expressions declare, in order. -/
def ofExprs (exprs : List Source.Expr) : Markers :=
  concat (exprs.map ofExpr)

/-- Whether an expression is the name that markers are assigned to. -/
def isTarget : Source.Expr → Bool
  | .name id => id = "pytestmark"
  | _ => false

/-- Whether a statement assigns to `pytestmark`, and the markers it assigns. -/
def assigned? : Source.Stmt → Option (List Source.Expr)
  | .assign targets value =>
    if targets.any isTarget then
      match value with
      | .list items => some items
      | .tuple items => some items
      | value => some [value]
    else none
  | _ => none

/-- What a body declares by its first assignment to `pytestmark`. -/
def ofBody (body : List Source.Stmt) : Markers :=
  ofExprs ((body.findSome? assigned?).getD [])

end Markers

end CoverAudit
