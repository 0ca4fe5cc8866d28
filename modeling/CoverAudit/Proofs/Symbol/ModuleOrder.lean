import CoverAudit.Proofs.Symbol.LocalBase
import Mathlib.Data.List.Nodup

/-!
# The order of modules

Modules may be added to an index in any order, as long as no two of them have the same name or
declare a class of the same name. Then what one module writes, no other overwrites.

* `SameSymbols`: two indexes with the same tables, seen as maps and sets. They answer every query
  alike (`SameSymbols.canonical`, `SameSymbols.lookup`, `SameSymbols.findMemberBy`).
* `exists_component_of_import`: an import binds a single component in its own module, so modules of
  different names bind different names.
* `SameSymbols.add_add`: two modules may change places.
* `addModules_of_perm`: hence any number of them.
-/

namespace CoverAudit

/-! ## Indexes with the same symbols -/

namespace SymbolIndex

/-- Two indexes with the same tables, whatever the order in which they were filled. -/
structure SameSymbols (a b : SymbolIndex) : Prop where
  interfaceBases : a.interfaceBases = b.interfaceBases
  types (name : String) : a.types.get? name = b.types.get? name
  functions (name : String) : name ∈ a.functions ↔ name ∈ b.functions
  functionNames (name : String) : name ∈ a.functionNames ↔ name ∈ b.functionNames
  aliases (name : String) : a.aliases.get? name = b.aliases.get? name

namespace SameSymbols

variable {a b c : SymbolIndex}

theorem refl (a : SymbolIndex) : a.SameSymbols a :=
  ⟨rfl, fun _ => rfl, fun _ => .rfl, fun _ => .rfl, fun _ => rfl⟩

theorem trans (h : a.SameSymbols b) (h' : b.SameSymbols c) : a.SameSymbols c where
  interfaceBases := h.interfaceBases.trans h'.interfaceBases
  types name := (h.types name).trans (h'.types name)
  functions name := (h.functions name).trans (h'.functions name)
  functionNames name := (h.functionNames name).trans (h'.functionNames name)
  aliases name := (h.aliases name).trans (h'.aliases name)

section Queries

variable (h : a.SameSymbols b)
include h

theorem isSymbol (name : String) : a.isSymbol name = b.isSymbol name := by
  have hfunctions : a.functions.contains name = b.functions.contains name := by
    rw [Bool.eq_iff_iff, List.contains_iff_mem, List.contains_iff_mem]
    exact h.functions name
  unfold SymbolIndex.isSymbol Table.contains
  rw [h.types, hfunctions]

theorem expandAlias (name : String) : a.expandAlias name = b.expandAlias name := by
  unfold SymbolIndex.expandAlias
  simp only [h.aliases]

theorem resolveWithin (hops : Nat) (name : String) :
    a.resolveWithin hops name = b.resolveWithin hops name := by
  induction hops generalizing name with
  | zero => rfl
  | succ hops ih =>
    unfold SymbolIndex.resolveWithin
    rw [h.isSymbol, h.expandAlias]
    simp only [ih]

theorem canonical (name : String) : a.canonical name = b.canonical name :=
  h.resolveWithin maxHops name

theorem lookup (name : String) : a.lookup name = b.lookup name := by
  unfold SymbolIndex.lookup
  rw [h.canonical, h.types]

theorem typeExists (name : String) : a.typeExists name = b.typeExists name := by
  unfold SymbolIndex.typeExists
  rw [h.lookup]

theorem isInterface (name : String) : a.isInterface name = b.isInterface name := by
  unfold SymbolIndex.isInterface
  rw [h.lookup]

theorem functionExists (name : String) : a.functionExists name = b.functionExists name := by
  have hfull : a.functions.contains (a.canonical name) =
      b.functions.contains (b.canonical name) := by
    rw [Bool.eq_iff_iff, List.contains_iff_mem, List.contains_iff_mem, h.canonical]
    exact h.functions _
  have hlast : a.functionNames.contains name = b.functionNames.contains name := by
    rw [Bool.eq_iff_iff, List.contains_iff_mem, List.contains_iff_mem]
    exact h.functionNames name
  unfold SymbolIndex.functionExists
  rw [hfull, hlast]

theorem externalName (owner : TypeSymbol) (base : String) :
    a.externalName owner base = b.externalName owner base := by
  unfold SymbolIndex.externalName
  rw [h.canonical]

theorem inspectBases (inspect : Inspection) (member : String) (owner : TypeSymbol)
    (bases : List String) :
    a.inspectBases inspect member owner bases = b.inspectBases inspect member owner bases := by
  induction bases with
  | nil => rfl
  | cons base rest ih =>
    unfold SymbolIndex.inspectBases
    rw [h.lookup, h.externalName, ih]

theorem searchFrom (inspect : Inspection) (member : String) (fuel : Nat) (stack : List TypeSymbol)
    (seen unknown : List String) :
    a.searchFrom inspect member fuel stack seen unknown =
      b.searchFrom inspect member fuel stack seen unknown := by
  induction fuel generalizing stack seen unknown with
  | zero => cases stack <;> rfl
  | succ fuel ih =>
    cases stack with
    | nil => rfl
    | cons current stack =>
      unfold SymbolIndex.searchFrom
      rw [h.inspectBases]
      simp only [ih]

/-- The entries of the two tables of classes are the same up to order. -/
theorem types_perm : a.types.toList.Perm b.types.toList := by
  have hnodup (table : Table TypeSymbol) : table.toList.Nodup :=
    List.Nodup.of_map Prod.fst table.nodup
  rw [List.perm_ext_iff_of_nodup (hnodup a.types) (hnodup b.types)]
  rintro ⟨name, symbol⟩
  rw [← Table.get?_eq_some_iff, ← Table.get?_eq_some_iff, h.types]

theorem searchBound (start : TypeSymbol) : a.searchBound start = b.searchBound start := by
  unfold SymbolIndex.searchBound
  rw [(h.types_perm.flatMap_right _).length_eq]

theorem findMemberBy (inspect : Inspection) (typeName member : String) :
    a.findMemberBy inspect typeName member = b.findMemberBy inspect typeName member := by
  unfold SymbolIndex.findMemberBy SymbolIndex.searchMember
  rw [h.lookup]
  simp only [h.searchBound, h.searchFrom]

end Queries

end SameSymbols

end SymbolIndex

/-! ## What a module writes -/

/-- An import binds a single component in its own module. -/
theorem Declarations.exists_component_of_import {module package : String}
    {statement : Source.Stmt} {entry : String × String}
    (h : entry ∈ importAliases module package statement) :
    ∃ component, '.' ∉ component.toList ∧ entry.1 = module ++ "." ++ component := by
  unfold importAliases at h
  split at h
  · obtain ⟨imported, -, rfl⟩ := List.mem_map.mp h
    cases imported.boundAs with
    | some bound => exact ⟨bound.text, bound.dot_notMem, rfl⟩
    | none =>
      obtain ⟨hdot, -⟩ := SymbolIndex.headD_split_eq_iff.mp
        (Eq.refl ((Text.split '.' imported.name).headD ""))
      exact ⟨_, hdot, rfl⟩
  · split at h
    · cases h
    · obtain ⟨imported, -, rfl⟩ := List.mem_map.mp h
      exact ⟨imported.bound.text, imported.bound.dot_notMem, rfl⟩
  · cases h

/-- No class is declared under one name by both modules. -/
def SourceModule.Apart (a b : SourceModule) : Prop :=
  ∀ first ∈ a.classes, ∀ second ∈ b.classes, first.name ≠ second.name

instance (a b : SourceModule) : Decidable (a.Apart b) :=
  inferInstanceAs (Decidable (∀ first ∈ a.classes, ∀ second ∈ b.classes, _))

namespace SourceModule

variable {a b : SourceModule}

theorem Apart.symm (h : a.Apart b) : b.Apart a :=
  fun second hs first hf he => h first hf second hs he.symm

/-- Modules of different names bind different names. -/
theorem imports_apart (h : a.name ≠ b.name) :
    ∀ key ∈ a.imports.map Prod.fst, key ∉ b.imports.map Prod.fst := by
  intro key ha hb
  obtain ⟨first, hf, rfl⟩ := List.mem_map.mp ha
  obtain ⟨second, hs, hkey⟩ := List.mem_map.mp hb
  obtain ⟨_, -, hf⟩ := List.mem_flatMap.mp hf
  obtain ⟨_, -, hs⟩ := List.mem_flatMap.mp hs
  obtain ⟨component, hc, hfirst⟩ := Declarations.exists_component_of_import hf
  obtain ⟨other, ho, hsecond⟩ := Declarations.exists_component_of_import hs
  rw [hfirst, hsecond] at hkey
  exact h (SymbolIndex.append_component_inj ho hc hkey).1.symm

end SourceModule

namespace SymbolIndex

/-- Adds modules from their sources in order. -/
def addModules (index : SymbolIndex) (modules : List SourceModule) :
    Except Source.ParseError SymbolIndex :=
  modules.foldlM (fun index module =>
    index.addModule module.name module.source module.isPackage) index

theorem addModules_eq_foldl (index : SymbolIndex) (modules : List SourceModule) :
    index.addModules modules = .ok (modules.foldl add index) := by
  induction modules generalizing index with
  | nil => rfl
  | cons module rest ih =>
    unfold addModules at ih ⊢
    rw [List.foldlM_cons, addModule_eq_add]
    exact ih (index.add module)

namespace SameSymbols

variable {a b : SymbolIndex}

/-- A module adds the same symbols to both indexes. -/
theorem add (h : a.SameSymbols b) (module : SourceModule) :
    (a.add module).SameSymbols (b.add module) where
  interfaceBases := by rw [interfaceBases_add, interfaceBases_add, h.interfaceBases]
  types name := by
    rw [types_add, types_add, h.interfaceBases, Table.get?_insertMany, Table.get?_insertMany,
      h.types]
  functions name := by
    unfold SymbolIndex.add addBody
    rw [mem_functions_addDeclarations, mem_functions_addDeclarations, h.functions]
    rfl
  functionNames name := by
    unfold SymbolIndex.add addBody
    rw [mem_functionNames_addDeclarations, mem_functionNames_addDeclarations, h.functionNames]
    rfl
  aliases name := by
    rw [aliases_add, aliases_add, Table.get?_insertMany, Table.get?_insertMany, h.aliases]

theorem foldl_add (h : a.SameSymbols b) (modules : List SourceModule) :
    (modules.foldl SymbolIndex.add a).SameSymbols (modules.foldl SymbolIndex.add b) := by
  induction modules generalizing a b with
  | nil => exact h
  | cons module rest ih => exact ih (h.add module)

/-- Two modules may change places. -/
theorem add_add (index : SymbolIndex) {first second : SourceModule}
    (hname : first.name ≠ second.name) (hclasses : first.Apart second) :
    ((index.add first).add second).SameSymbols ((index.add second).add first) where
  interfaceBases := by simp only [interfaceBases_add]
  types name := by
    simp only [types_add, interfaceBases_add]
    refine Table.get?_insertMany_comm _ (fun key hf hs => ?_) name
    rw [List.map_map] at hf hs
    obtain ⟨declared, hd, rfl⟩ := List.mem_map.mp hf
    obtain ⟨other, ho, hkey⟩ := List.mem_map.mp hs
    exact hclasses declared hd other ho hkey.symm
  functions name := by
    unfold SymbolIndex.add addBody
    simp only [mem_functions_addDeclarations, interfaceBases_addDeclarations]
    exact or_right_comm
  functionNames name := by
    unfold SymbolIndex.add addBody
    simp only [mem_functionNames_addDeclarations, interfaceBases_addDeclarations]
    exact or_right_comm
  aliases name := by
    simp only [aliases_add]
    exact Table.get?_insertMany_comm _ (SourceModule.imports_apart hname) name

end SameSymbols

/-- Modules that keep apart add the same symbols in any order. -/
theorem foldl_add_of_perm (index : SymbolIndex) {modules reordered : List SourceModule}
    (hp : modules.Perm reordered)
    (hapart : modules.Pairwise fun a b => a.name ≠ b.name ∧ a.Apart b) :
    (modules.foldl add index).SameSymbols (reordered.foldl add index) := by
  induction hp generalizing index with
  | nil => exact .refl index
  | cons module _ ih => exact ih (index.add module) (List.pairwise_cons.mp hapart).2
  | swap first second rest =>
    obtain ⟨hname, hclasses⟩ := (List.pairwise_cons.mp hapart).1 first List.mem_cons_self
    exact (SameSymbols.add_add index hname hclasses).foldl_add rest
  | trans hp _ ih ih' =>
    have hsymm {a b : SourceModule} (h : a.name ≠ b.name ∧ a.Apart b) :
        b.name ≠ a.name ∧ b.Apart a := ⟨h.1.symm, h.2.symm⟩
    exact (ih index hapart).trans (ih' index (hp.pairwise hapart hsymm))

/-- **The order of modules does not count.** Modules of different names, of which no two declare a
class under one name, are added to an index in one order and in another. Both ways succeed and fill
the tables alike, and every query has the same answer. -/
theorem addModules_of_perm (index : SymbolIndex) {modules reordered : List SourceModule}
    (hp : modules.Perm reordered) (hnames : (modules.map SourceModule.name).Nodup)
    (hclasses : modules.Pairwise SourceModule.Apart) :
    ∃ first second, index.addModules modules = .ok first ∧
      index.addModules reordered = .ok second ∧ first.SameSymbols second ∧
      ∀ name, first.canonical name = second.canonical name ∧
        first.typeExists name = second.typeExists name ∧
        first.isInterface name = second.isInterface name ∧
        first.functionExists name = second.functionExists name ∧
        ∀ inspect member,
          first.findMemberBy inspect name member = second.findMemberBy inspect name member := by
  have hapart : modules.Pairwise fun a b => a.name ≠ b.name ∧ a.Apart b :=
    (List.pairwise_map.mp hnames).and hclasses
  have hsame := foldl_add_of_perm index hp hapart
  exact ⟨_, _, addModules_eq_foldl index modules, addModules_eq_foldl index reordered, hsame,
    fun name => ⟨hsame.canonical name, hsame.typeExists name, hsame.isInterface name,
      hsame.functionExists name, fun inspect member => hsame.findMemberBy inspect name member⟩⟩

/-- A package that declares a class under the name of one of its modules, with a class in it, and
imports a class under that name. -/
def crossedPackage : List SourceModule :=
  [{ name := "pkg", isPackage := true
     source := "from .a import B as a\nclass a:\n    class C: pass\ndef run(): pass\n"
     parses := by decide +kernel },
    { name := "pkg.a", source := "import pkg\nclass B(C):\n    def run(self): pass\n"
      parses := by decide +kernel },
    { name := "run", source := "from pkg.a import B\nclass R(B): pass\n"
      parses := by decide +kernel }]

theorem addModules_of_crossedPackage :
    crossedPackage.Perm crossedPackage.reverse ∧
      (crossedPackage.map SourceModule.name).Nodup ∧
      crossedPackage.Pairwise SourceModule.Apart ∧
      crossedPackage.flatMap (fun module => module.classes.map ClassDeclaration.name) =
        ["pkg.a", "pkg.a.C", "pkg.a.B", "run.R"] ∧
      ∃ first second, (empty []).addModules crossedPackage = .ok first ∧
        (empty []).addModules crossedPackage.reverse = .ok second ∧ first.SameSymbols second ∧
        ∀ inspect, first.findMemberBy inspect "run.R" "run" =
          second.findMemberBy inspect "run.R" "run" := by
  obtain ⟨hnames, hclasses, hdeclared⟩ : (crossedPackage.map SourceModule.name).Nodup ∧
      crossedPackage.Pairwise SourceModule.Apart ∧
      crossedPackage.flatMap (fun module => module.classes.map ClassDeclaration.name) =
        ["pkg.a", "pkg.a.C", "pkg.a.B", "run.R"] := by decide +kernel
  have hperm : crossedPackage.Perm crossedPackage.reverse := (List.reverse_perm _).symm
  obtain ⟨first, second, hfirst, hsecond, hsame, hquery⟩ :=
    addModules_of_perm (empty []) hperm hnames hclasses
  obtain ⟨-, -, -, -, hmember⟩ := hquery "run.R"
  exact ⟨hperm, hnames, hclasses, hdeclared, first, second, hfirst, hsecond, hsame,
    fun inspect => hmember inspect "run"⟩

end SymbolIndex

end CoverAudit
