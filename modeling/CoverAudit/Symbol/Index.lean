import CoverAudit.Table
import CoverAudit.Text.Split

/-!
# The symbol index

What is known about the code under test: its classes and interfaces, its module-level functions,
and the names that imports make stand for other names. Names are dotted (`shop.widgets.Widget`).

Functions are kept twice, by full name and by their last component, because tests may name them
either way.

* `lastComponent_append`, `parentName_append`: a component without a dot can be told from what it
  stands in, so the two determine the name and are determined by it (`append_component_inj`).
-/

namespace CoverAudit

/-- A class or an interface. -/
structure TypeSymbol where
  name : String
  /-- The methods declared in the class itself. -/
  methods : List String := []
  /-- The names of the bases, as seen from the module of the class. -/
  bases : List String := []
  isInterface : Bool := false
  /-- The module that declares the class; empty when none does. -/
  module : String := ""
  deriving DecidableEq, Repr

/-- The symbols of the code under test. -/
structure SymbolIndex where
  /-- A class that derives from one of these is an interface. -/
  interfaceBases : List String
  types : Table TypeSymbol := Table.empty
  functions : List String := []
  functionNames : List String := []
  aliases : Table String := Table.empty

namespace SymbolIndex

/-- The interface bases of an index that is not told otherwise. -/
def defaultInterfaceBases : List String := ["Protocol", "Interface"]

/-- The index without symbols. -/
def empty (interfaceBases : List String) : SymbolIndex := { interfaceBases }

/-- What stands behind the last dot of a name. -/
def lastComponent (name : String) : String :=
  (Text.split '.' name).getLastD ""

/-- What stands before the last dot of a name; nothing if there is no dot. -/
def parentName (name : String) : String :=
  Text.join '.' (Text.split '.' name).dropLast

theorem lastComponent_append (scope : String) {component : String}
    (h : '.' ∉ component.toList) : lastComponent (scope ++ "." ++ component) = component := by
  have hsplit : Text.split '.' (scope ++ "." ++ component) = _ :=
    Text.split_append '.' scope component
  rw [lastComponent, hsplit, Text.split_of_notMem h, List.getLastD_concat]

theorem parentName_append (scope : String) {component : String}
    (h : '.' ∉ component.toList) : parentName (scope ++ "." ++ component) = scope := by
  have hsplit : Text.split '.' (scope ++ "." ++ component) = _ :=
    Text.split_append '.' scope component
  rw [parentName, hsplit, Text.split_of_notMem h, List.dropLast_concat, Text.join_split]

/-- A name determines its last component and what that stands in. -/
theorem append_component_inj {scope other a b : String} (ha : '.' ∉ a.toList)
    (hb : '.' ∉ b.toList) (h : scope ++ "." ++ a = other ++ "." ++ b) : scope = other ∧ a = b := by
  constructor
  · rw [← parentName_append scope ha, h, parentName_append other hb]
  · rw [← lastComponent_append scope ha, h, lastComponent_append other hb]

/-- Adds a class; one of the same name is replaced. -/
def addType (index : SymbolIndex) (symbol : TypeSymbol) : SymbolIndex :=
  { index with types := index.types.insert symbol.name symbol }

/-- Adds a module-level function. -/
def addFunction (index : SymbolIndex) (name : String) : SymbolIndex :=
  { index with
    functions := index.functions.insert name
    functionNames := index.functionNames.insert (lastComponent name) }

/-- Makes `name` stand for `target`. -/
def addAlias (index : SymbolIndex) (name target : String) : SymbolIndex :=
  { index with aliases := index.aliases.insert name target }

end SymbolIndex

end CoverAudit
