import CoverAudit.Symbol.Index

/-!
# Resolution of names

A name may go through imports: `shop.Widget` may stand for `shop.widgets.Widget`. One step of
resolution replaces the longest leading part of a name that is an alias; parts are whole
components, so `shop.util` has no effect on `shop.utility`. Resolution takes such steps until it
meets a symbol, or a name that no alias changes, and gives up after `maxHops` steps.
-/

namespace CoverAudit.SymbolIndex

/-- The most steps that a resolution takes. -/
def maxHops : Nat := 20

/-- The ways to cut a list in two with something in the first part, longest first part first. -/
def cuts {α : Type} : List α → List (List α × List α)
  | [] => []
  | a :: rest => (cuts rest).map (fun (front, back) => (a :: front, back)) ++ [([a], rest)]

/-- Replaces the longest leading part of `name` that is an alias. -/
def expandAlias (index : SymbolIndex) (name : String) : Option String :=
  (cuts (Text.split '.' name)).findSome? fun (front, back) =>
    (index.aliases.get? (Text.join '.' front)).map fun target => Text.join '.' (target :: back)

/-- Whether a name is that of a class or of a function. -/
def isSymbol (index : SymbolIndex) (name : String) : Bool :=
  index.types.contains name || index.functions.contains name

/-- Takes at most `hops` steps of resolution. -/
def resolveWithin (index : SymbolIndex) : Nat → String → String
  | 0, name => name
  | hops + 1, name =>
    if index.isSymbol name then name
    else
      match index.expandAlias name with
      | none => name
      | some target => if target = name then name else index.resolveWithin hops target

/-- The name that a name stands for. -/
def canonical (index : SymbolIndex) (name : String) : String :=
  index.resolveWithin maxHops name

/-- The class or interface that a name stands for. The empty name stands for none. -/
def lookup (index : SymbolIndex) (name : String) : Option TypeSymbol :=
  if name.isEmpty then none else index.types.get? (index.canonical name)

/-- Whether a name stands for a class that is no interface. -/
def typeExists (index : SymbolIndex) (name : String) : Bool :=
  match index.lookup name with
  | some symbol => !symbol.isInterface
  | none => false

/-- Whether a name stands for an interface. -/
def isInterface (index : SymbolIndex) (name : String) : Bool :=
  match index.lookup name with
  | some symbol => symbol.isInterface
  | none => false

/-- Whether a name stands for a function. A name without a dot may be the last component of any
function's name. -/
def functionExists (index : SymbolIndex) (name : String) : Bool :=
  if name.isEmpty then false
  else if name.toList.contains '.' then index.functions.contains (index.canonical name)
  else index.functionNames.contains name

end CoverAudit.SymbolIndex
