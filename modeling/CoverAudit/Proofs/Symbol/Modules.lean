import CoverAudit.Proofs.Symbol.AliasChain
import CoverAudit.Proofs.Symbol.MemberSearch
import Mathlib.Data.List.Induction

/-!
# Indexes of a list of modules

`ofModules` is the index of what a list of modules declares and imports, and of nothing else.

* `classesIn`: the declarations of classes in a module, as they stand in the source.
* `get?_types_ofModules`: under a name the index holds the class that is declared last with this
  name (`declared?`).
* `exists_import_of_alias`: every alias of the index is an import of one of the modules.
* `Contributes`: what a base adds to the members of a class. A class has the members declared in it
  and those that a base contributes (`derives_offers_iff`).
* `findMemberBy_of_declared`: the search for a member, said of the declaration. Only the bases that
  spell a name count (`baseNames`).
-/

namespace CoverAudit

/-! ## Declarations of classes -/

/-- The declaration of a class. -/
structure ClassDeclaration where
  module : String
  /-- What the class stands in: the module, or the class around it. -/
  scope : String
  identifier : String
  bases : List Source.Expr
  body : List Source.Stmt

namespace ClassDeclaration

/-- The name of the class. -/
def name (declared : ClassDeclaration) : String :=
  declared.scope ++ "." ++ declared.identifier

/-- The bases that spell a dotted name, by its components. -/
def baseNames (declared : ClassDeclaration) : List (List String) :=
  declared.bases.filterMap Declarations.baseName?

/-- What the base that spells `parts` is called in the module of the class. -/
def baseKey (declared : ClassDeclaration) (parts : List String) : String :=
  declared.module ++ "." ++ Text.join '.' parts

/-- The class that is declared. -/
def symbol (interfaceBases : List String) (declared : ClassDeclaration) : TypeSymbol :=
  Declarations.typeSymbol interfaceBases declared.module declared.name declared.bases declared.body

/-- The module, the bases that spell a name and the functions of a declaration. -/
def outline (declared : ClassDeclaration) : String × List (List String) × List String :=
  (declared.module, declared.baseNames, Declarations.functionNames declared.body)

variable {interfaceBases : List String} {declared : ClassDeclaration}

theorem outline_eq_iff {module : String} {bases : List (List String)} {functions : List String} :
    declared.outline = (module, bases, functions) ↔
      declared.module = module ∧ declared.baseNames = bases ∧
        Declarations.functionNames declared.body = functions := by
  simp only [outline, Prod.mk.injEq]

@[simp] theorem bases_symbol :
    (declared.symbol interfaceBases).bases = declared.baseNames.map declared.baseKey := rfl

theorem baseKey_singleton (declared : ClassDeclaration) (base : String) :
    declared.baseKey [base] = declared.module ++ "." ++ base := by
  simp [baseKey, Text.join, Text.joinChars]

theorem mem_methods_symbol {member : String} :
    member ∈ (declared.symbol interfaceBases).methods ↔
      member ∈ Declarations.functionNames declared.body :=
  List.mem_eraseDups

theorem name_ne_empty (declared : ClassDeclaration) : declared.name ≠ "" := by
  intro h
  have := congrArg String.toList h
  simp [name] at this

end ClassDeclaration

namespace Declarations

mutual

/-- The declarations of classes in a statement that stands in `scope`. -/
def classesOf (module scope : String) : Source.Stmt → List ClassDeclaration
  | .classDef identifier bases _ body =>
    { module, scope, identifier := identifier.text, bases, body } ::
      classesIn module (scope ++ "." ++ identifier.text) body
  | _ => []

/-- The declarations of classes in a body that stands in `scope`, in the order of the source. -/
def classesIn (module scope : String) : List Source.Stmt → List ClassDeclaration
  | [] => []
  | statement :: rest => classesOf module scope statement ++ classesIn module scope rest

end

mutual

theorem typesOf_eq_map (interfaceBases : List String) (module scope : String)
    (statement : Source.Stmt) :
    typesOf interfaceBases module scope statement =
      (classesOf module scope statement).map (ClassDeclaration.symbol interfaceBases) := by
  cases statement with
  | classDef identifier bases decorators body =>
    rw [typesOf, classesOf, List.map_cons,
      typesIn_eq_map interfaceBases module (scope ++ "." ++ identifier.text) body]
    rfl
  | _ => rfl

theorem typesIn_eq_map (interfaceBases : List String) (module scope : String)
    (body : List Source.Stmt) :
    typesIn interfaceBases module scope body =
      (classesIn module scope body).map (ClassDeclaration.symbol interfaceBases) := by
  cases body with
  | nil => rfl
  | cons statement rest =>
    rw [typesIn, classesIn, List.map_append,
      typesOf_eq_map interfaceBases module scope statement,
      typesIn_eq_map interfaceBases module scope rest]

end

end Declarations

/-! ## Modules -/

/-- A module whose source parses. -/
structure SourceModule where
  name : String
  source : String
  isPackage : Bool := false
  parses : (Source.parse source).isOk = true

namespace SourceModule

/-- The statements of a module. -/
def body (module : SourceModule) : List Source.Stmt :=
  (Source.parse module.source).toOption.getD []

/-- The declarations of classes in a module. -/
def classes (module : SourceModule) : List ClassDeclaration :=
  Declarations.classesIn module.name module.name module.body

/-- The names that the imports of a module bind, with what they stand for. -/
def imports (module : SourceModule) : List (String × String) :=
  module.body.flatMap
    (Declarations.importAliases module.name (Declarations.packageOf module.name module.isPackage))

theorem parse_source (module : SourceModule) :
    Source.parse module.source = .ok module.body := by
  have h := module.parses
  unfold body
  cases hp : Source.parse module.source with
  | error error => rw [hp] at h; cases h
  | ok body => rfl

end SourceModule

/-- The declaration of a class that counts: the last one of its name. -/
def declared? (modules : List SourceModule) (name : String) : Option ClassDeclaration :=
  (modules.flatMap SourceModule.classes).reverse.find? fun declared => declared.name = name

theorem name_of_declared? {modules : List SourceModule} {name : String}
    {declared : ClassDeclaration} (h : declared? modules name = some declared) :
    declared.name = name := by
  simpa using List.find?_some h

namespace SymbolIndex

/-- Adds a module. -/
def add (index : SymbolIndex) (module : SourceModule) : SymbolIndex :=
  index.addBody module.name module.isPackage module.body

/-- The index of some modules, added in order. -/
def ofModules (interfaceBases : List String) (modules : List SourceModule) : SymbolIndex :=
  modules.foldl add (empty interfaceBases)

variable {index : SymbolIndex} {interfaceBases : List String} {modules : List SourceModule}

theorem addModule_eq_add (index : SymbolIndex) (module : SourceModule) :
    index.addModule module.name module.source module.isPackage = .ok (index.add module) := by
  unfold addModule
  rw [module.parse_source]
  rfl

theorem ofModules_concat (interfaceBases : List String) (modules : List SourceModule)
    (module : SourceModule) :
    ofModules interfaceBases (modules ++ [module]) =
      (ofModules interfaceBases modules).add module := by
  simp [ofModules]

theorem built_ofModules (interfaceBases : List String) (modules : List SourceModule) :
    (ofModules interfaceBases modules).Built := by
  induction modules using List.reverseRecOn with
  | nil => exact .empty interfaceBases
  | append_singleton modules module ih =>
    rw [ofModules_concat]
    exact ih.addModule (addModule_eq_add _ module)

/-! ## What is in the index of some modules -/

theorem types_foldl_addType (symbols : List TypeSymbol) (index : SymbolIndex) :
    (symbols.foldl addType index).types =
      index.types.insertMany (symbols.map fun symbol => (symbol.name, symbol)) := by
  induction symbols generalizing index with
  | nil => rfl
  | cons symbol rest ih => rw [List.foldl_cons, ih]; rfl

theorem aliases_foldl_addAlias (aliases : List (String × String)) (index : SymbolIndex) :
    (aliases.foldl (fun index (name, target) => index.addAlias name target) index).aliases =
      index.aliases.insertMany aliases := by
  induction aliases generalizing index with
  | nil => rfl
  | cons entry rest ih => rw [List.foldl_cons, ih]; rfl

@[simp] theorem interfaceBases_addDeclarations (declared : Declarations) :
    (index.addDeclarations declared).interfaceBases = index.interfaceBases := by
  unfold addDeclarations
  rw [foldl_unchanged SymbolIndex.interfaceBases, foldl_unchanged SymbolIndex.interfaceBases,
    foldl_unchanged SymbolIndex.interfaceBases]
  all_goals exact fun _ _ => rfl

theorem aliases_addDeclarations (declared : Declarations) :
    (index.addDeclarations declared).aliases = index.aliases.insertMany declared.aliases := by
  unfold addDeclarations
  rw [aliases_foldl_addAlias, foldl_unchanged aliases, foldl_unchanged aliases]
  all_goals exact fun _ _ => rfl

theorem mem_functions_foldl_addFunction (names : List String) (index : SymbolIndex)
    {name : String} :
    name ∈ (names.foldl addFunction index).functions ↔ name ∈ index.functions ∨ name ∈ names := by
  induction names generalizing index with
  | nil => simp
  | cons first rest ih =>
    have hstep : name ∈ (index.addFunction first).functions ↔
        name = first ∨ name ∈ index.functions := List.mem_insert_iff
    rw [List.foldl_cons, ih, hstep, List.mem_cons]
    grind

theorem mem_functionNames_foldl_addFunction (names : List String) (index : SymbolIndex)
    {last : String} :
    last ∈ (names.foldl addFunction index).functionNames ↔
      last ∈ index.functionNames ∨ ∃ name ∈ names, lastComponent name = last := by
  induction names generalizing index with
  | nil => simp
  | cons first rest ih =>
    have hstep : last ∈ (index.addFunction first).functionNames ↔
        last = lastComponent first ∨ last ∈ index.functionNames := List.mem_insert_iff
    rw [List.foldl_cons, ih, hstep]
    grind

/-- Of what a module declares, only the functions change the functions of the index. -/
theorem mem_functions_addDeclarations (declared : Declarations) {name : String} :
    name ∈ (index.addDeclarations declared).functions ↔
      name ∈ index.functions ∨ name ∈ declared.functions := by
  have htypes : (declared.types.foldl addType index).functions = index.functions :=
    foldl_unchanged functions _ _ fun _ _ => rfl
  unfold addDeclarations
  rw [foldl_unchanged functions, mem_functions_foldl_addFunction, htypes]
  exact fun _ _ => rfl

theorem mem_functionNames_addDeclarations (declared : Declarations) {last : String} :
    last ∈ (index.addDeclarations declared).functionNames ↔
      last ∈ index.functionNames ∨ ∃ name ∈ declared.functions, lastComponent name = last := by
  have htypes : (declared.types.foldl addType index).functionNames = index.functionNames :=
    foldl_unchanged functionNames _ _ fun _ _ => rfl
  unfold addDeclarations
  rw [foldl_unchanged functionNames, mem_functionNames_foldl_addFunction, htypes]
  exact fun _ _ => rfl

@[simp] theorem interfaceBases_add (module : SourceModule) :
    (index.add module).interfaceBases = index.interfaceBases :=
  interfaceBases_addDeclarations _

/-- A module adds the classes that it declares. -/
theorem types_add (module : SourceModule) :
    (index.add module).types =
      index.types.insertMany (module.classes.map fun declared =>
        (declared.name, declared.symbol index.interfaceBases)) := by
  rw [add, addBody, types_addDeclarations, types_foldl_addType, Declarations.ofBody,
    Declarations.typesIn_eq_map, List.map_map]
  rfl

/-- A module adds the names that its imports bind. -/
theorem aliases_add (module : SourceModule) :
    (index.add module).aliases = index.aliases.insertMany module.imports :=
  aliases_addDeclarations _

@[simp] theorem interfaceBases_ofModules :
    (ofModules interfaceBases modules).interfaceBases = interfaceBases :=
  foldl_unchanged SymbolIndex.interfaceBases modules _ fun _ => interfaceBases_add

theorem types_ofModules (interfaceBases : List String) (modules : List SourceModule) :
    (ofModules interfaceBases modules).types =
      Table.empty.insertMany ((modules.flatMap SourceModule.classes).map fun declared =>
        (declared.name, declared.symbol interfaceBases)) := by
  induction modules using List.reverseRecOn with
  | nil => rfl
  | append_singleton modules module ih =>
    rw [ofModules_concat, types_add, ih, interfaceBases_ofModules, ← Table.insertMany_append,
      List.flatMap_append, List.map_append, List.flatMap_singleton]

theorem aliases_ofModules (interfaceBases : List String) (modules : List SourceModule) :
    (ofModules interfaceBases modules).aliases =
      Table.empty.insertMany (modules.flatMap SourceModule.imports) := by
  induction modules using List.reverseRecOn with
  | nil => rfl
  | append_singleton modules module ih =>
    rw [ofModules_concat, aliases_add, ih, ← Table.insertMany_append, List.flatMap_append,
      List.flatMap_singleton]

/-- The index holds the class that is declared last. -/
theorem get?_types_ofModules (interfaceBases : List String) (modules : List SourceModule)
    (name : String) :
    (ofModules interfaceBases modules).types.get? name =
      (declared? modules name).map (ClassDeclaration.symbol interfaceBases) := by
  rw [types_ofModules, Table.get?_insertMany, ← List.map_reverse, List.find?_map, Table.get?_empty,
    Option.or_none, Option.map_map]
  rfl

/-- Every alias is an import of one of the modules. -/
theorem exists_import_of_alias {key target : String}
    (h : (ofModules interfaceBases modules).aliases.get? key = some target) :
    ∃ module ∈ modules, (key, target) ∈ module.imports := by
  rw [aliases_ofModules, Table.get?_insertMany, Table.get?_empty, Option.or_none] at h
  obtain ⟨entry, hf, rfl⟩ := Option.map_eq_some_iff.mp h
  have hk : entry.1 = key := by simpa using List.find?_some hf
  have hm := List.mem_reverse.mp (List.mem_of_find?_eq_some hf)
  obtain ⟨module, hmod, hent⟩ := List.mem_flatMap.mp hm
  exact ⟨module, hmod, hk ▸ hent⟩

theorem lookup_of_declared {name : String} {declared : ClassDeclaration}
    (h : declared? modules name = some declared) :
    (ofModules interfaceBases modules).lookup name = some (declared.symbol interfaceBases) := by
  have hne : name ≠ "" := name_of_declared? h ▸ declared.name_ne_empty
  refine lookup_of_get? hne ?_
  rw [get?_types_ofModules, h, Option.map_some]

/-! ## What the bases of a class contribute -/

/-- A base adds the member to `owner`: the class it stands for derives from one that offers the
member, or it is outside the index and `inspect` does not say that it lacks the member. -/
def Contributes (index : SymbolIndex) (inspect : Inspection) (member : String)
    (owner : TypeSymbol) (base : String) : Prop :=
  match index.lookup base with
  | some parent => ∃ symbol, index.Derives parent symbol ∧ index.Offers inspect member symbol
  | none => inspect (index.externalName owner base) member ≠ some false

variable {inspect : Inspection} {member : String}

/-- A class has the members that it declares and those that its bases contribute. -/
theorem derives_offers_iff {owner : TypeSymbol} :
    (∃ symbol, index.Derives owner symbol ∧ index.Offers inspect member symbol) ↔
      member ∈ owner.methods ∨
        ∃ base ∈ owner.bases, index.Contributes inspect member owner base := by
  constructor
  · rintro ⟨symbol, hd, ho⟩
    rcases Relation.ReflTransGen.cases_head hd with rfl | ⟨parent, ⟨base, hb, hl⟩, hd⟩
    · obtain hm | ⟨base, hb, hl, hi⟩ := ho
      · exact .inl hm
      · exact .inr ⟨base, hb, by simpa only [Contributes, hl] using hi⟩
    · exact .inr ⟨base, hb, by simpa only [Contributes, hl] using ⟨symbol, hd, ho⟩⟩
  · rintro (hm | ⟨base, hb, hc⟩)
    · exact ⟨owner, .refl, .inl hm⟩
    · unfold Contributes at hc
      split at hc
      · rename_i parent hl
        obtain ⟨symbol, hd, ho⟩ := hc
        exact ⟨symbol, .head ⟨base, hb, hl⟩ hd, ho⟩
      · rename_i hl
        exact ⟨owner, .refl, .inr ⟨base, hb, hl, hc⟩⟩

/-- A declared class has the members of its body and those that the bases contribute which spell a
name. -/
theorem findMemberBy_of_declared {name : String} {declared : ClassDeclaration}
    (h : declared? modules name = some declared) (interfaceBases : List String)
    (inspect : Inspection) (member : String) :
    ∃ result, (ofModules interfaceBases modules).findMemberBy inspect name member = some result ∧
      (result.holds = true ↔
        member ∈ Declarations.functionNames declared.body ∨
          ∃ parts ∈ declared.baseNames, (ofModules interfaceBases modules).Contributes inspect
            member (declared.symbol interfaceBases) (declared.baseKey parts)) := by
  have hk := (built_ofModules interfaceBases modules).keyedByName
  have hl : (ofModules interfaceBases modules).lookup name = _ := lookup_of_declared h
  refine ⟨_, by rw [findMemberBy, hl, Option.map_some], ?_⟩
  rw [(searchMember_holds_iff hk (hk.holds_of_lookup hl)).2, derives_offers_iff,
    ClassDeclaration.mem_methods_symbol, ClassDeclaration.bases_symbol]
  simp only [List.mem_map, exists_exists_and_eq_and]

end SymbolIndex

end CoverAudit
