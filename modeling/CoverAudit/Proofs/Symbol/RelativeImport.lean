import CoverAudit.Symbol.Declarations
import Mathlib.Logic.Function.Iterate

/-!
# Relative imports

A `from` import with leading dots names a module seen from the package of the importing one. The
first dot is the package itself, and each further dot leaves out one more component at its end.

* `components`: the components of a package. With no more dots than these, an import names what is
  left of the package, then the module that is spelled (`absoluteModule_of_le_length`). With at
  least two dots more it names nothing (`absoluteModule_of_length_lt`), and with one dot more what
  it would name without any (`absoluteModule_length_succ`).
* `addBody_of_relative_import`: an import adds to the index what the absolute import of the same
  names adds, and nothing when it names no module.
* `relative_import_beyond_top`: a module outside any package reaches a module at the top by a
  relative import.
-/

namespace CoverAudit

namespace SymbolIndex

theorem split_parentName {name : String} (h : 1 < (Text.split '.' name).length) :
    Text.split '.' (parentName name) = (Text.split '.' name).dropLast := by
  have hne : (Text.split '.' name).dropLast ≠ [] := by
    intro hnil
    have hlength := congrArg List.length hnil
    rw [List.length_dropLast, List.length_nil] at hlength
    omega
  exact Text.split_join hne fun part hpart =>
    Text.notMem_of_mem_split (List.dropLast_subset _ hpart)

/-- A name without some of its last components has the components before them. -/
theorem split_iterate_parentName {k : Nat} {name : String}
    (h : k < (Text.split '.' name).length) :
    Text.split '.' (parentName^[k] name) =
      (Text.split '.' name).take ((Text.split '.' name).length - k) := by
  induction k generalizing name with
  | zero => simp
  | succ k ih =>
    -- The last component goes first, and the hypothesis takes `k` more from the parent.
    have hparent := split_parentName (Nat.lt_of_le_of_lt (Nat.le_add_left 1 k) h)
    have hlength : (Text.split '.' (parentName name)).length =
        (Text.split '.' name).length - 1 := by
      rw [hparent, List.length_dropLast]
    have hcount : min ((Text.split '.' name).length - 1 - k) ((Text.split '.' name).length - 1) =
        (Text.split '.' name).length - (k + 1) := by omega
    rw [Function.iterate_succ_apply, ih (by omega), hlength, hparent, List.dropLast_eq_take,
      List.take_take, hcount]

end SymbolIndex

namespace Declarations

open SymbolIndex (parentName)

/-! ## The module that an import names -/

/-- The components of a package; without a package there are none. -/
def components (package : String) : List String :=
  if package = "" then [] else Text.split '.' package

/-- The module that is spelled, if one is: the empty name spells none. -/
def spelled? : Option String → Option String
  | some name => if name = "" then none else some name
  | none => none

/-- What an import names that takes a module, if it spells one, from `outer`. -/
def within (outer : String) (origin : Option String) : String :=
  match spelled? origin with
  | some name => outer ++ "." ++ name
  | none => outer

section Resolution

variable {package : String} {level : Nat}

/-- Resolution in terms of components: those that are left, then the module that is spelled. -/
theorem absoluteModule_eq (package : String) (origin : Option String) (hl : level ≠ 0) :
    absoluteModule package origin level =
      if (components package).length < level - 1 then none
      else spelled? (some (Text.join '.'
        ((components package).take ((components package).length - (level - 1)) ++
          (spelled? origin).toList))) := by
  unfold absoluteModule components
  rw [if_neg hl]
  cases origin with
  | none => simp [spelled?]
  | some name => by_cases h : name = "" <;> simp [spelled?, h]

theorem join_split_append_spelled? (outer : String) (origin : Option String) :
    Text.join '.' (Text.split '.' outer ++ (spelled? origin).toList) = within outer origin := by
  unfold within
  cases spelled? origin with
  | none => rw [Option.toList_none, List.append_nil, Text.join_split]
  | some name =>
    have hlast : Text.join '.' [name] = name := String.ofList_toList
    rw [Option.toList_some, Text.join_append '.' _ (Text.split_ne_nil '.' outer), Text.join_split,
      Text.join_cons '.' outer (List.cons_ne_nil name []), hlast]
    rfl

/-- With no more dots than the package has components, the import names what is left of it, then
the module that is spelled. -/
theorem absoluteModule_of_le_length (origin : Option String) (hl : level ≠ 0)
    (h : level ≤ (components package).length) :
    absoluteModule package origin level =
      spelled? (some (within (parentName^[level - 1] package) origin)) := by
  have hne : package ≠ "" := by
    rintro rfl
    exact hl (Nat.le_zero.mp h)
  have hparts : components package = Text.split '.' package := if_neg hne
  have hlt : level - 1 < (Text.split '.' package).length := by
    rw [hparts] at h
    omega
  rw [absoluteModule_eq package origin hl, hparts, if_neg (by omega),
    ← SymbolIndex.split_iterate_parentName hlt, join_split_append_spelled?]

theorem absoluteModule_of_length_lt (origin : Option String)
    (h : (components package).length + 1 < level) :
    absoluteModule package origin level = none := by
  rw [absoluteModule_eq package origin (by omega), if_pos (by omega)]

/-- With one dot more than the package has components, the import names what it spells, as if there
were no dots. -/
theorem absoluteModule_length_succ (package : String) (origin : Option String) :
    absoluteModule package origin ((components package).length + 1) = spelled? origin := by
  rw [absoluteModule_eq package origin (Nat.add_one_ne_zero _), Nat.add_sub_cancel,
    if_neg (Nat.lt_irrefl _), Nat.sub_self, List.take_zero, List.nil_append]
  cases origin with
  | none => rfl
  | some name => by_cases h : name = "" <;> simp [spelled?, h, Text.join, Text.joinChars]

end Resolution

/-! ## What an import adds -/

theorem typesIn_append (interfaceBases : List String) (module scope : String)
    (before after : List Source.Stmt) :
    typesIn interfaceBases module scope (before ++ after) =
      typesIn interfaceBases module scope before ++ typesIn interfaceBases module scope after := by
  induction before with
  | nil => rfl
  | cons statement rest ih => rw [List.cons_append, typesIn, typesIn, ih, List.append_assoc]

/-- The names that an import binds take the place of the import. -/
theorem ofBody_importFrom (interfaceBases : List String) (module : String) (isPackage : Bool)
    (level : Nat) (origin : Option String) (names : Source.ImportedNames)
    (before after : List Source.Stmt) :
    ofBody interfaceBases module isPackage (before ++ .importFrom level origin names :: after) =
      { ofBody interfaceBases module isPackage (before ++ after) with
        aliases := before.flatMap (importAliases module (packageOf module isPackage)) ++
          (importAliases module (packageOf module isPackage) (.importFrom level origin names) ++
            after.flatMap (importAliases module (packageOf module isPackage))) } := by
  simp only [ofBody, typesIn_append, typesIn, typesOf, functionNames, List.nil_append,
    List.filterMap_append, List.filterMap_cons, List.flatMap_append, List.flatMap_cons]

theorem importAliases_of_eq_some {module package target : String} {level : Nat}
    {origin : Option String} (h : absoluteModule package origin level = some target)
    (names : Source.ImportedNames) :
    importAliases module package (.importFrom level origin names) =
      importAliases module package (.importFrom 0 (some target) names) := by
  have habsolute : absoluteModule package (some target) 0 = some target := rfl
  cases names with
  | all => rfl
  | listed names => simp only [importAliases, h, habsolute]

theorem importAliases_of_eq_none {module package : String} {level : Nat}
    {origin : Option String} (h : absoluteModule package origin level = none)
    (names : Source.ImportedNames) :
    importAliases module package (.importFrom level origin names) = [] := by
  cases names with
  | all => rfl
  | listed names => simp only [importAliases, h]

end Declarations

namespace SymbolIndex

open Declarations

section Added

variable {module : String} {isPackage : Bool} {level : Nat} {origin : Option String}

/-- An import adds what the absolute import of the same names does. -/
theorem addBody_of_absoluteModule_eq_some {target : String}
    (h : absoluteModule (packageOf module isPackage) origin level = some target)
    (index : SymbolIndex) (names : Source.ImportedNames) (before after : List Source.Stmt) :
    index.addBody module isPackage (before ++ .importFrom level origin names :: after) =
      index.addBody module isPackage (before ++ .importFrom 0 (some target) names :: after) := by
  simp only [addBody, ofBody_importFrom, importAliases_of_eq_some h]

theorem addBody_of_absoluteModule_eq_none
    (h : absoluteModule (packageOf module isPackage) origin level = none)
    (index : SymbolIndex) (names : Source.ImportedNames) (before after : List Source.Stmt) :
    index.addBody module isPackage (before ++ .importFrom level origin names :: after) =
      index.addBody module isPackage (before ++ after) := by
  simp only [addBody, ofBody_importFrom, importAliases_of_eq_none h, List.nil_append,
    ← List.flatMap_append]
  rfl

end Added

/-- **Relative imports.** The body of a module has an import with `level` dots, in any place. With
no more dots than the package of the module has components, it names the package without as many
last components as there are dots beyond the first, then the module that is spelled, and adds to the
index what the absolute import from there adds. An empty name, which is left of a package that
starts with a dot, counts as none. With more dots it names nothing and adds nothing, except that
with a single dot too many it is read as if it had none: what it spells is taken for a module at
the top. -/
theorem addBody_of_relative_import (index : SymbolIndex) (module : String) (isPackage : Bool)
    {level : Nat} (hl : 1 ≤ level) (origin : Option String) (names : Source.ImportedNames)
    (before after : List Source.Stmt) :
    let package := packageOf module isPackage
    let resolved := absoluteModule package origin level
    let added := index.addBody module isPackage (before ++ .importFrom level origin names :: after)
    let addedFrom (target : String) :=
      index.addBody module isPackage (before ++ .importFrom 0 (some target) names :: after)
    let addedWithout := index.addBody module isPackage (before ++ after)
    (level ≤ (components package).length →
      let target := within (parentName^[level - 1] package) origin
      (target ≠ "" → resolved = some target ∧ added = addedFrom target) ∧
        (target = "" → resolved = none ∧ added = addedWithout)) ∧
    ((components package).length < level →
      (level = (components package).length + 1 → spelled? origin = none) →
        resolved = none ∧ added = addedWithout) ∧
    (level = (components package).length + 1 →
      ∀ name, spelled? origin = some name → resolved = some name ∧ added = addedFrom name) := by
  intro package resolved added addedFrom addedWithout
  -- What is added depends on `resolved` alone, so each case is about resolution.
  have hsome {target : String} (h : resolved = some target) :
      resolved = some target ∧ added = addedFrom target :=
    ⟨h, addBody_of_absoluteModule_eq_some h index names before after⟩
  have hnone (h : resolved = none) : resolved = none ∧ added = addedWithout :=
    ⟨h, addBody_of_absoluteModule_eq_none h index names before after⟩
  refine ⟨fun hle => ?_, fun hlt hspelled => hnone ?_, fun heq name hname => hsome ?_⟩
  · have hresolved : resolved = _ :=
      absoluteModule_of_le_length origin (Nat.one_le_iff_ne_zero.mp hl) hle
    exact ⟨fun hne => hsome (hresolved.trans (if_neg hne)),
      fun hempty => hnone (hresolved.trans (if_pos hempty))⟩
  · by_cases heq : level = (components package).length + 1
    · have hresolved : resolved = spelled? origin := by
        simp only [resolved, heq, absoluteModule_length_succ]
      rw [hresolved, hspelled heq]
    · exact absoluteModule_of_length_lt origin (by omega)
  · simp only [resolved, heq, absoluteModule_length_succ, hname]

/-- A module of the package `shop.cart` imports from the package `shop`, from the module `prices` in
it, and from beyond it. -/
theorem addBody_of_relative_import_outwards :
    let added (level : Nat) (origin : Option String) :=
      (empty defaultInterfaceBases).addBody "shop.cart.items" false
        [.importFrom level origin (.listed [{ name := ⟨"total", by decide⟩ }])]
    let addedWithout := (empty defaultInterfaceBases).addBody "shop.cart.items" false []
    (absoluteModule "shop.cart" none 2 = some "shop" ∧ added 2 none = added 0 (some "shop")) ∧
      (absoluteModule "shop.cart" (some "prices") 2 = some "shop.prices" ∧
        added 2 (some "prices") = added 0 (some "shop.prices")) ∧
      (absoluteModule "shop.cart" none 3 = none ∧ added 3 none = addedWithout) ∧
      absoluteModule "shop.cart" (some "prices") 4 = none ∧
        added 4 (some "prices") = addedWithout := by
  have h {level : Nat} (hl : 1 ≤ level) (origin : Option String) :=
    addBody_of_relative_import (empty defaultInterfaceBases) "shop.cart.items" false hl origin
      (.listed [{ name := ⟨"total", by decide⟩ }]) [] []
  exact ⟨((h (by decide) none).1 (by decide)).1 (by decide),
    ((h (by decide) (some "prices")).1 (by decide)).1 (by decide),
    (h (by decide) none).2.1 (by decide) (by decide),
    (h (by decide) (some "prices")).2.1 (by decide) (by decide)⟩

/-- A module outside any package, and one directly in a package: both reach a module at the top by
an import with a dot too many. -/
theorem relative_import_beyond_top :
    (components (packageOf "m" false) = [] ∧
      absoluteModule (packageOf "m" false) (some "x") 1 = some "x" ∧
      (((empty defaultInterfaceBases).addModule "m" "from .x import y\n" false).toOption.map
        fun index => index.aliases.toList) = some [("m.y", "x.y")]) ∧
      components (packageOf "a.m" false) = ["a"] ∧
      absoluteModule (packageOf "a.m" false) (some "x") 2 = some "x" := by
  decide +kernel

end SymbolIndex

end CoverAudit
