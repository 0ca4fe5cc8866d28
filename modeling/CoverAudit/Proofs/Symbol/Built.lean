import CoverAudit.Symbol.Resolve
import CoverAudit.Symbol.SourceRoot

/-!
# Indexes that can be built

`Built index`: `index` comes from an empty one by operations that add symbols. These are single
classes, functions and aliases, the source of a module, and the files below a source root.

* `KeyedByName`: every class is stored under its own name. Each operation keeps this
  (`KeyedByName.addType`, `KeyedByName.addBody`, `KeyedByName.addRoot`), so it holds of every index
  that can be built (`Built.keyedByName`).
* `KeyedByName.holds_of_lookup`: what a name stands for is found again under its own name, so a
  class is known by its name.
-/

namespace CoverAudit.SymbolIndex

/-- The indexes that building reaches. -/
inductive Built : SymbolIndex → Prop
  | empty (interfaceBases : List String) : Built (empty interfaceBases)
  | addType {index : SymbolIndex} (h : Built index) (symbol : TypeSymbol) :
      Built (index.addType symbol)
  | addFunction {index : SymbolIndex} (h : Built index) (name : String) :
      Built (index.addFunction name)
  | addAlias {index : SymbolIndex} (h : Built index) (name target : String) :
      Built (index.addAlias name target)
  | addModule {index after : SymbolIndex} (h : Built index) {module source : String}
      {isPackage : Bool} (hm : index.addModule module source isPackage = .ok after) : Built after
  | addRoot {index : SymbolIndex} (h : Built index) (tree : FileTree) (parse : Source.Reader)
      (root : Path) : Built (index.addRoot tree parse root).1

/-- Every class is stored under its own name. -/
def KeyedByName (index : SymbolIndex) : Prop :=
  ∀ key symbol, index.types.get? key = some symbol → symbol.name = key

/-- `symbol` is what the index stores under its name. -/
def Holds (index : SymbolIndex) (symbol : TypeSymbol) : Prop :=
  index.types.get? symbol.name = some symbol

variable {index : SymbolIndex}

/-! ## What the operations do to the classes -/

@[simp] theorem types_addFunction (name : String) :
    (index.addFunction name).types = index.types := rfl

@[simp] theorem types_addAlias (name target : String) :
    (index.addAlias name target).types = index.types := rfl

/-- A part of the index that no step of a loop changes is not changed by the loop. -/
theorem foldl_unchanged {α β : Type} (part : SymbolIndex → β) {step : SymbolIndex → α → SymbolIndex}
    (items : List α) (index : SymbolIndex) (h : ∀ index a, part (step index a) = part index) :
    part (items.foldl step index) = part index := by
  induction items generalizing index with
  | nil => rfl
  | cons item rest ih => rw [List.foldl_cons, ih, h]

/-- Of what a module declares, only the classes change the classes of the index. -/
theorem types_addDeclarations (declared : Declarations) :
    (index.addDeclarations declared).types = (declared.types.foldl addType index).types := by
  unfold addDeclarations
  rw [foldl_unchanged types, foldl_unchanged types]
  all_goals exact fun _ _ => rfl

/-! ## Classes are stored under their own names -/

theorem KeyedByName.of_types {other : SymbolIndex} (h : index.KeyedByName)
    (ht : other.types = index.types) : other.KeyedByName := by
  intro key symbol hg
  rw [ht] at hg
  exact h key symbol hg

theorem keyedByName_empty (interfaceBases : List String) : (empty interfaceBases).KeyedByName := by
  intro key symbol hg
  simp [empty] at hg

theorem KeyedByName.addType (h : index.KeyedByName) (symbol : TypeSymbol) :
    (index.addType symbol).KeyedByName := by
  intro key other hg
  simp only [SymbolIndex.addType, Table.get?_insert] at hg
  split at hg
  · rename_i hk
    cases hg
    exact hk.symm
  · exact h key other hg

theorem KeyedByName.foldl_addType (h : index.KeyedByName) (symbols : List TypeSymbol) :
    (symbols.foldl SymbolIndex.addType index).KeyedByName := by
  induction symbols generalizing index with
  | nil => exact h
  | cons symbol rest ih => exact ih (h.addType symbol)

theorem KeyedByName.addBody (h : index.KeyedByName) (module : String) (isPackage : Bool)
    (body : List Source.Stmt) : (index.addBody module isPackage body).KeyedByName :=
  (h.foldl_addType _).of_types (types_addDeclarations _)

theorem KeyedByName.addModule {after : SymbolIndex} (h : index.KeyedByName)
    {module source : String} {isPackage : Bool}
    (hm : index.addModule module source isPackage = .ok after) : after.KeyedByName := by
  unfold SymbolIndex.addModule at hm
  cases hp : Source.parse source with
  | error error => rw [hp] at hm; cases hm
  | ok body => rw [hp] at hm; cases hm; exact h.addBody module isPackage body

section Files

variable (h : index.KeyedByName) (tree : FileTree) (parse : Source.Reader)
include h

theorem KeyedByName.addFile (path : Path) (module : String) (isPackage : Bool) :
    (index.addFile tree parse path module isPackage).1.KeyedByName := by
  unfold SymbolIndex.addFile
  split
  · exact h.addBody module isPackage _
  · exact h

theorem KeyedByName.addFiles (files : List (Path × String × Bool)) :
    (index.addFiles tree parse files).1.KeyedByName := by
  induction files generalizing index with
  | nil => exact h
  | cons file rest ih => exact ih (h.addFile tree parse file.1 file.2.1 file.2.2)

theorem KeyedByName.addRoot (root : Path) : (index.addRoot tree parse root).1.KeyedByName := by
  unfold SymbolIndex.addRoot
  split
  · exact h.addFiles tree parse _
  · exact h

end Files

theorem Built.keyedByName (hb : index.Built) : index.KeyedByName := by
  induction hb with
  | empty interfaceBases => exact keyedByName_empty interfaceBases
  | addType h symbol ih => exact ih.addType symbol
  | addFunction h name ih => exact ih.of_types (types_addFunction name)
  | addAlias h name target ih => exact ih.of_types (types_addAlias name target)
  | addModule h hm ih => exact ih.addModule hm
  | addRoot h tree parse root ih => exact ih.addRoot tree parse root

/-- What a name stands for is found again under its own name. -/
theorem KeyedByName.holds_of_lookup (h : index.KeyedByName) {name : String} {symbol : TypeSymbol}
    (hl : index.lookup name = some symbol) : index.Holds symbol := by
  unfold lookup at hl
  split at hl
  · cases hl
  · unfold Holds
    rw [h _ _ hl]
    exact hl

/-- Two classes of one name are one class. -/
theorem Holds.eq_of_name_eq {a b : TypeSymbol} (ha : index.Holds a) (hb : index.Holds b)
    (h : a.name = b.name) : a = b := by
  unfold Holds at ha hb
  rw [h, hb] at ha
  exact (Option.some.inj ha).symm

end CoverAudit.SymbolIndex
