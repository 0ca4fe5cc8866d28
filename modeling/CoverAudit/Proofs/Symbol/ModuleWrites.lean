import CoverAudit.Proofs.Source.Places
import CoverAudit.Proofs.Symbol.LocalBase
import CoverAudit.Proofs.Symbol.SpelledBase

/-!
# What a module writes

A module adds its classes, functions and imports to the index and nothing else. Where a name is
declared or bound more than once, what comes last in the document counts; a class that is declared
again keeps the classes that stood in its earlier bodies.

* `ClassAt`, `ImportAt`: which class is declared at a place, and which name is bound there. The
  index goes through them in order of place (`mem_placedIn_iff`, `pairwise_placedIn`).
* `Overridden`: a table with the last entries of a source written over it.
* `Describes`: what the index keeps of a declaration.
* `addModule_writes_declarations`: the tables behind a module that parses, from those before it.
-/

namespace CoverAudit

open Source (Stmt Expr Identifier)

/-! ## Tables with entries of a source written over them -/

/-- `after` has what stands at the places of a source written over `before`. Under a name that
something there has, the last one counts, and `Fits` says what is stored for it. All other names
are as before. -/
structure Overridden {α β : Type} (before after : Table β) (At : Place → α → Prop)
    (key : α → String) (Fits : α → β → Prop) : Prop where
  written : ∀ name, (∃ place item, At place item ∧ key item = name) →
    ∃ place item value, At place item ∧ key item = name ∧
      (∀ other rival, At other rival → key rival = name → other = place ∨ other.Before place) ∧
      after.get? name = some value ∧ Fits item value
  kept : ∀ name, (∀ place item, At place item → key item ≠ name) →
    after.get? name = before.get? name

/-- Writing items in the order of their places overrides a table with them. -/
theorem overridden_insertMany {α β : Type} (before : Table β) {placed : List (Place × α)}
    {At : Place → α → Prop} {key : α → String} {value : α → β} {Fits : α → β → Prop}
    (hmem : ∀ place item, (place, item) ∈ placed ↔ At place item)
    (hsorted : placed.Pairwise fun a b => a.1.Before b.1) (hfits : ∀ item, Fits item (value item)) :
    Overridden before (before.insertMany (placed.map fun p => (key p.2, value p.2))) At key
      Fits where
  written := by
    rintro name ⟨place, item, hat, hkey⟩
    -- The entry that is seen is the last one of its name, so all others stand before it.
    have hfound : (placed.reverse.find? fun p => key p.2 = name).isSome := by
      rw [List.find?_isSome]
      exact ⟨(place, item), List.mem_reverse.mpr ((hmem _ _).mpr hat), by simpa using hkey⟩
    obtain ⟨⟨last, found⟩, hlast⟩ := Option.isSome_iff_exists.mp hfound
    obtain ⟨hname, earlier, later, hplaced, hlater⟩ := Table.split_of_find?_reverse hlast
    refine ⟨last, found, value found, (hmem _ _).mp (by simp [hplaced]), by simpa using hname, ?_,
      ?_, hfits found⟩
    · intro other rival hrival hkeyr
      have hin := (hmem _ _).mpr hrival
      rw [hplaced] at hin hsorted
      rcases List.mem_append.mp hin with hin | hin
      · have hbefore := (List.pairwise_append.mp hsorted).2.2 _ hin _ List.mem_cons_self
        exact .inr hbefore
      · rcases List.mem_cons.mp hin with heq | hin
        · cases heq
          exact .inl rfl
        · have hno := hlater _ hin
          simp [hkeyr] at hno
    · rw [Table.get?_insertMany, ← List.map_reverse, List.find?_map]
      simp only [Function.comp_def, hlast]
      rfl
  kept := by
    intro name hno
    refine Table.get?_insertMany_of_notMem before fun hin => ?_
    rw [List.map_map] at hin
    obtain ⟨p, hp, hkey⟩ := List.mem_map.mp hin
    exact hno p.1 p.2 ((hmem _ _).mp hp) hkey

/-! ## Classes and their places -/

/-- `ClassAt module scope body place declared`: in a body that stands in `scope`, `declared` is the
class at `place`, directly in the body or in the body of the class that the place leads into. -/
inductive ClassAt (module : String) : String → List Stmt → Place → ClassDeclaration → Prop
  | here {scope : String} {body : List Stmt} {i : Nat} {identifier : Identifier}
      {bases decorators : List Expr} {inner : List Stmt}
      (h : body[i]? = some (.classDef identifier bases decorators inner)) :
      ClassAt module scope body [i]
        { module, scope, identifier := identifier.text, bases, body := inner }
  | inside {scope : String} {body : List Stmt} {i : Nat} {identifier : Identifier}
      {bases decorators : List Expr} {inner : List Stmt} {place : Place}
      {declared : ClassDeclaration}
      (h : body[i]? = some (.classDef identifier bases decorators inner))
      (hin : ClassAt module (scope ++ "." ++ identifier.text) inner place declared) :
      ClassAt module scope body (i :: place) declared

namespace Declarations

/-- Looks for classes, at the top and in other classes. -/
def classSurvey (module : String) : Survey String ClassDeclaration where
  own
    | scope, .classDef identifier bases _ body =>
      some { module, scope, identifier := identifier.text, bases, body }
    | _, _ => none
  enter
    | scope, .classDef identifier _ _ _ => some (scope ++ "." ++ identifier.text)
    | _, _ => none

/-- The classes in the statements of a body from position `i` on, with their places. -/
def placedIn (module scope : String) (i : Nat) (body : List Stmt) :
    List (Place × ClassDeclaration) :=
  (classSurvey module).placedIn scope i body

mutual

theorem map_snd_placedOf (module scope : String) (i : Nat) (statement : Stmt) :
    ((classSurvey module).placedOf scope i statement).map Prod.snd =
      classesOf module scope statement := by
  cases statement with
  | classDef identifier bases decorators body =>
    have hinner := map_snd_placedIn module (scope ++ "." ++ identifier.text) 0 body
    rw [classesOf, ← hinner]
    simp [Survey.placedOf, classSurvey, placedIn]
  | _ => rfl

theorem map_snd_placedIn (module scope : String) (i : Nat) (body : List Stmt) :
    (placedIn module scope i body).map Prod.snd = classesIn module scope body := by
  cases body with
  | nil => rfl
  | cons statement rest =>
    rw [classesIn, ← map_snd_placedOf module scope i statement,
      ← map_snd_placedIn module scope (i + 1) rest, ← List.map_append]
    rfl

end

/-- The enumeration of a body holds exactly the classes at its places. -/
theorem mem_placedIn_iff {module scope : String} {body : List Stmt} {place : Place}
    {declared : ClassDeclaration} :
    (place, declared) ∈ placedIn module scope 0 body ↔
      ClassAt module scope body place declared := by
  rw [placedIn, Survey.mem_placedIn_iff]
  constructor
  · intro h
    induction h with
    | @here _ _ _ statement _ h ho =>
      cases statement with
      | classDef => cases ho; exact .here h
      | _ => cases ho
    | inside h he _ ih => cases he; exact .inside h ih
  · intro h
    induction h with
    | here h => exact .here h rfl
    | inside h _ ih => exact .inside h rfl ih

/-- The enumeration of a body is in the order of the document. -/
theorem pairwise_placedIn (module scope : String) (i : Nat) (body : List Stmt) :
    (placedIn module scope i body).Pairwise fun a b => a.1.Before b.1 :=
  Survey.pairwise_placedIn (classSurvey module) scope i body

end Declarations

/-! ## What is kept of a declaration -/

/-- The names that the bases of a class spell, in order; other bases leave none. -/
inductive SpelledBases : List Expr → List (List String) → Prop
  | nil : SpelledBases [] []
  | spelled {base : Expr} {parts : List String} {bases : List Expr} {names : List (List String)}
      (h : base.Spells parts) (hrest : SpelledBases bases names) :
      SpelledBases (base :: bases) (parts :: names)
  | skipped {base : Expr} {bases : List Expr} {names : List (List String)}
      (h : ∀ parts, ¬ base.Spells parts) (hrest : SpelledBases bases names) :
      SpelledBases (base :: bases) names

/-- What the index keeps of a declaration. -/
structure Describes (interfaceBases : List String) (declared : ClassDeclaration)
    (symbol : TypeSymbol) : Prop where
  name : symbol.name = declared.name
  module : symbol.module = declared.module
  methods : ∀ method, method ∈ symbol.methods ↔
    ∃ identifier decorators body,
      .function identifier decorators body ∈ declared.body ∧ identifier.text = method
  bases : ∃ names, SpelledBases declared.bases names ∧
    symbol.bases = names.map declared.baseKey ∧
    (symbol.isInterface = true ↔
      ∃ parts ∈ names, ∃ last, parts.getLast? = some last ∧ last ∈ interfaceBases)

theorem spelledBases_filterMap (bases : List Expr) :
    SpelledBases bases (bases.filterMap Declarations.baseName?) := by
  induction bases with
  | nil => exact .nil
  | cons base rest ih =>
    cases hbase : Declarations.baseName? base with
    | none =>
      rw [List.filterMap_cons_none hbase]
      refine .skipped (fun parts hs => ?_) ih
      rw [Declarations.baseName?_eq_some_iff.mpr hs] at hbase
      cases hbase
    | some parts =>
      rw [List.filterMap_cons_some hbase]
      exact .spelled (Declarations.baseName?_eq_some_iff.mp hbase) ih

theorem Declarations.mem_functionNames {body : List Stmt} {name : String} :
    name ∈ functionNames body ↔
      ∃ identifier decorators inner,
        .function identifier decorators inner ∈ body ∧ identifier.text = name := by
  unfold functionNames
  rw [List.mem_filterMap]
  constructor
  · rintro ⟨statement, hs, hname⟩
    cases statement with
    | function identifier decorators inner =>
      exact ⟨identifier, decorators, inner, hs, Option.some.inj hname⟩
    | _ => cases hname
  · rintro ⟨identifier, decorators, inner, hs, rfl⟩
    exact ⟨_, hs, rfl⟩

/-- The functions of a module are the ones at the top. -/
theorem Declarations.mem_functions_ofBody {interfaceBases : List String} {module : String}
    {isPackage : Bool} {body : List Stmt} {name : String} :
    name ∈ (ofBody interfaceBases module isPackage body).functions ↔
      ∃ identifier decorators inner, .function identifier decorators inner ∈ body ∧
        name = module ++ "." ++ identifier.text := by
  unfold ofBody
  rw [List.mem_map]
  constructor
  · rintro ⟨_, hmem, rfl⟩
    obtain ⟨identifier, decorators, inner, hs, rfl⟩ := mem_functionNames.mp hmem
    exact ⟨identifier, decorators, inner, hs, rfl⟩
  · rintro ⟨identifier, decorators, inner, hs, rfl⟩
    exact ⟨_, mem_functionNames.mpr ⟨identifier, decorators, inner, hs, rfl⟩, rfl⟩

/-- A dotted name has a last component. -/
theorem Source.Expr.Spells.ne_nil {base : Expr} {parts : List String} (h : base.Spells parts) :
    parts ≠ [] := by
  obtain h | h := h <;> cases h <;> simp

theorem describes_symbol (interfaceBases : List String) (declared : ClassDeclaration) :
    Describes interfaceBases declared (declared.symbol interfaceBases) where
  name := rfl
  module := rfl
  methods method := ClassDeclaration.mem_methods_symbol.trans Declarations.mem_functionNames
  bases := by
    refine ⟨declared.baseNames, spelledBases_filterMap declared.bases, rfl, ?_⟩
    show declared.baseNames.any _ = true ↔ _
    rw [List.any_eq_true]
    refine exists_congr fun parts => and_congr_right fun hparts => ?_
    obtain ⟨base, -, hs⟩ := ClassDeclaration.mem_baseNames.mp hparts
    rw [List.contains_iff_mem, List.getLastD_eq_getLast?,
      List.getLast?_eq_some_getLast hs.ne_nil]
    simp

/-! ## Imports and their places -/

/-- `ImportAt module package body place entry`: the name at `place`, the second position being that
among the names of the statement, is bound in `module` and stands for what `entry` says. -/
inductive ImportAt (module package : String) (body : List Stmt) : Place → String × String → Prop
  /-- `import a.b as c` -/
  | renamed {i j : Nat} {modules : List Source.ImportedModule} {name : String} {bound : Identifier}
      (hs : body[i]? = some (.importModules modules)) (hj : modules[j]? = some ⟨name, some bound⟩) :
      ImportAt module package body [i, j] (module ++ "." ++ bound.text, name)
  /-- `import a.b`, which binds the first component. -/
  | top {i j : Nat} {modules : List Source.ImportedModule} {name first : String}
      (hs : body[i]? = some (.importModules modules)) (hj : modules[j]? = some ⟨name, none⟩)
      (hdot : '.' ∉ first.toList) (hlead : SymbolIndex.LeadingPart first name) :
      ImportAt module package body [i, j] (module ++ "." ++ first, first)
  /-- `from a import b` and `from a import b as c`. -/
  | member {i j level : Nat} {origin : Option String} {names : List Source.ImportedName}
      {imported : Source.ImportedName} {home : String}
      (hs : body[i]? = some (.importFrom level origin (.listed names)))
      (hj : names[j]? = some imported)
      (ho : Declarations.absoluteModule package origin level = some home) :
      ImportAt module package body [i, j]
        (module ++ "." ++ imported.bound.text, home ++ "." ++ imported.name.text)

namespace Declarations

/-- The names that the imports of a body bind, with their places. -/
def placedImports (module package : String) (body : List Stmt) : List (Place × String × String) :=
  body.zipIdx.flatMap fun (statement, i) =>
    (importAliases module package statement).zipIdx.map fun (entry, j) => ([i, j], entry)

theorem map_snd_placedImports (module package : String) (body : List Stmt) :
    (placedImports module package body).map Prod.snd =
      body.flatMap (importAliases module package) := by
  have hinner (p : Stmt × Nat) :
      ((importAliases module package p.1).zipIdx.map fun q => ([p.2, q.2], q.1)).map Prod.snd =
        importAliases module package p.1 := by
    rw [List.map_map]
    exact List.zipIdx_map_fst 0 _
  unfold placedImports
  rw [List.map_flatMap]
  simp only [hinner]
  rw [← List.flatMap_map Prod.fst (importAliases module package), List.zipIdx_map_fst]

theorem pairwise_zipIdx {α : Type} (items : List α) :
    items.zipIdx.Pairwise fun a b => a.2 < b.2 := by
  rw [← List.pairwise_map, List.zipIdx_map_snd]
  exact List.pairwise_lt_range'

theorem pairwise_placedImports (module package : String) (body : List Stmt) :
    (placedImports module package body).Pairwise fun a b => a.1.Before b.1 := by
  unfold placedImports
  rw [List.pairwise_flatMap]
  constructor
  · rintro ⟨statement, i⟩ -
    rw [List.pairwise_map]
    refine (pairwise_zipIdx _).imp fun h => ?_
    exact .cons (.rel h)
  · refine (pairwise_zipIdx body).imp fun h x hx y hy => ?_
    obtain ⟨_, -, rfl⟩ := List.mem_map.mp hx
    obtain ⟨_, -, rfl⟩ := List.mem_map.mp hy
    exact .rel h

theorem mem_placedImports_iff {module package : String} {body : List Stmt} {place : Place}
    {entry : String × String} :
    (place, entry) ∈ placedImports module package body ↔
      ImportAt module package body place entry := by
  unfold placedImports
  simp only [List.mem_flatMap, List.mem_map, List.mem_zipIdx_iff_getElem?, Prod.exists,
    Prod.mk.injEq]
  constructor
  · rintro ⟨statement, i, hs, key, target, j, hj, rfl, rfl⟩
    unfold importAliases at hj
    split at hj
    · rw [List.getElem?_map] at hj
      obtain ⟨⟨name, boundAs⟩, hj, he⟩ := Option.map_eq_some_iff.mp hj
      cases boundAs with
      | some bound =>
        rw [← he]
        exact .renamed hs hj
      | none =>
        obtain ⟨hdot, hlead⟩ := SymbolIndex.headD_split_eq_iff.mp (Eq.refl (_ : String))
        rw [← he]
        exact .top hs hj hdot hlead
    · rename_i level origin names
      split at hj
      · cases hj
      · rename_i home ho
        rw [List.getElem?_map] at hj
        obtain ⟨imported, hj, he⟩ := Option.map_eq_some_iff.mp hj
        rw [← he]
        exact .member hs hj ho
    · cases hj
  · intro h
    cases h with
    | @renamed i j modules name bound hs hj =>
      refine ⟨_, i, hs, _, _, j, ?_, rfl, rfl⟩
      simp [importAliases, hj]
    | @top i j modules name first hs hj hdot hlead =>
      refine ⟨_, i, hs, _, _, j, ?_, rfl, rfl⟩
      simp only [importAliases, List.getElem?_map, hj, Option.map_some,
        SymbolIndex.headD_split_eq_iff.mpr ⟨hdot, hlead⟩]
    | @member i j level origin names imported home hs hj ho =>
      refine ⟨_, i, hs, _, _, j, ?_, rfl, rfl⟩
      simp [importAliases, hj, ho]

end Declarations

/-! ## The tables behind a module -/

namespace SymbolIndex

/-- **A module writes what it declares.** Behind a module that parses, the classes are those before
it, overridden under the names of the classes that it declares, at the top or in other classes; the
functions are those before it and the ones at the top; and the aliases are those before it,
overridden under the names that its imports at the top bind. -/
theorem addModule_writes_declarations (index : SymbolIndex) (module : String) (isPackage : Bool)
    {source : String} {body : List Stmt} (hp : Source.parse source = .ok body) :
    ∃ after, index.addModule module source isPackage = .ok after ∧
      after.interfaceBases = index.interfaceBases ∧
      Overridden index.types after.types (ClassAt module module body) ClassDeclaration.name
        (Describes index.interfaceBases) ∧
      (∀ name, name ∈ after.functions ↔ name ∈ index.functions ∨
        ∃ identifier decorators inner, .function identifier decorators inner ∈ body ∧
          name = module ++ "." ++ identifier.text) ∧
      (∀ last, last ∈ after.functionNames ↔ last ∈ index.functionNames ∨
        ∃ identifier decorators inner, .function identifier decorators inner ∈ body ∧
          last = identifier.text) ∧
      Overridden index.aliases after.aliases
        (ImportAt module (Declarations.packageOf module isPackage) body) Prod.fst
        (fun entry target => target = entry.2) := by
  have hmodule : index.addModule module source isPackage =
      .ok (index.addBody module isPackage body) := by
    unfold addModule
    rw [hp]
    rfl
  have htypes : (index.addBody module isPackage body).types =
      index.types.insertMany ((Declarations.placedIn module module 0 body).map fun p =>
        (p.2.name, p.2.symbol index.interfaceBases)) := by
    rw [addBody, types_addDeclarations, types_foldl_addType, Declarations.ofBody,
      Declarations.typesIn_eq_map, ← Declarations.map_snd_placedIn module module 0 body,
      List.map_map, List.map_map]
    rfl
  have haliases : (index.addBody module isPackage body).aliases =
      index.aliases.insertMany ((Declarations.placedImports module
        (Declarations.packageOf module isPackage) body).map fun p => (p.2.1, p.2.2)) := by
    rw [addBody, aliases_addDeclarations, Declarations.ofBody,
      ← Declarations.map_snd_placedImports]
  refine ⟨_, hmodule, interfaceBases_addDeclarations _, ?_, fun name => ?_, fun last => ?_, ?_⟩
  · rw [htypes]
    exact overridden_insertMany index.types (fun _ _ => Declarations.mem_placedIn_iff)
      (Declarations.pairwise_placedIn module module 0 body) (describes_symbol index.interfaceBases)
  · rw [addBody, mem_functions_addDeclarations, Declarations.mem_functions_ofBody]
  · rw [addBody, mem_functionNames_addDeclarations]
    refine or_congr_right ⟨?_, ?_⟩
    · rintro ⟨name, hname, rfl⟩
      obtain ⟨identifier, decorators, inner, hs, rfl⟩ :=
        Declarations.mem_functions_ofBody.mp hname
      exact ⟨identifier, decorators, inner, hs,
        lastComponent_append module identifier.dot_notMem⟩
    · rintro ⟨identifier, decorators, inner, hs, rfl⟩
      exact ⟨_, Declarations.mem_functions_ofBody.mpr ⟨identifier, decorators, inner, hs, rfl⟩,
        lastComponent_append module identifier.dot_notMem⟩
  · rw [haliases]
    exact overridden_insertMany index.aliases (fun _ _ => Declarations.mem_placedImports_iff)
      (Declarations.pairwise_placedImports module _ body) fun _ => rfl

/-- A module that declares a class and binds a name twice. -/
def redeclaring : SourceModule where
  name := "shop.cart"
  source := "import os.path\nimport a.b as c\nfrom . import x as c\n" ++
    "class A(Port[int], make()):\n    class B: pass\n    def f(self): pass\n" ++
    "class A:\n    async def g(self): pass\ndef run(): pass\n"
  parses := by decide +kernel

/-- The class in the first body stays, beside the second declaration of the class around it. -/
theorem addModule_writes_redeclaring :
    Source.parse redeclaring.source = .ok redeclaring.body ∧
      ∃ after, (empty ["Port"]).addModule "shop.cart" redeclaring.source false = .ok after ∧
        Overridden (empty ["Port"]).types after.types
          (ClassAt "shop.cart" "shop.cart" redeclaring.body) ClassDeclaration.name
          (Describes ["Port"]) ∧
        ((after.types.get? "shop.cart.A").map fun symbol => (symbol.methods, symbol.isInterface)) =
          some (["g"], false) ∧
        (after.types.get? "shop.cart.A.B").isSome ∧
        after.aliases.get? "shop.cart.c" = some "shop.x" ∧ "run" ∈ after.functionNames := by
  refine ⟨redeclaring.parse_source, ?_⟩
  obtain ⟨after, hafter, -, htypes, -⟩ :=
    addModule_writes_declarations (empty ["Port"]) "shop.cart" false redeclaring.parse_source
  have hadd : after = (empty ["Port"]).add redeclaring :=
    Except.ok.inj (hafter.symm.trans (addModule_eq_add _ redeclaring))
  refine ⟨after, hafter, htypes, ?_⟩
  rw [hadd]
  decide +kernel

end SymbolIndex

end CoverAudit
