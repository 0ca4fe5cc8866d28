import CoverAudit.Proofs.Symbol.LocalBase
import CoverAudit.Symbol.KnownClass
import Mathlib.Data.List.Nodup

/-!
# Bases of nested classes

A class in the body of another one may derive from a class beside it, by its plain name. The name of
a base is read in the module, wherever the class stands.

* `ClassDeclaration.nested`: the classes directly in the body of a class. They are declared with the
  class around them (`nested_subset_classesIn`).
* `contributes_iff_has`, `contributes_iff_of_unbound`: a base adds what the class of its name has,
  and where nothing has its name in the module, what a class outside may have.
* `findMemberBy_of_sibling_base`: what the name of the sibling stands for in the module decides
  which members the derived class has. Where it stands for nothing, the methods of the sibling are
  among them unless a class outside is known by the same name.
* `shadowed_sibling_lacks_method`: where it stands for another class, the methods of the sibling are
  missing.
-/

namespace CoverAudit

namespace ClassDeclaration

/-- The classes directly in the body of a class, in the order of the source. -/
def nested (outer : ClassDeclaration) : List ClassDeclaration :=
  outer.body.filterMap fun
    | .classDef identifier bases _ body =>
      some { module := outer.module, scope := outer.name, identifier := identifier.text
             bases, body }
    | _ => none

theorem exists_classDef_of_mem_nested {outer declared : ClassDeclaration}
    (h : declared ∈ outer.nested) :
    ∃ (identifier : Source.Identifier) (bases decorators : List Source.Expr)
      (body : List Source.Stmt), .classDef identifier bases decorators body ∈ outer.body ∧
        declared = { module := outer.module, scope := outer.name, identifier := identifier.text
                     bases, body } := by
  obtain ⟨statement, hmem, hread⟩ := List.mem_filterMap.mp h
  cases statement with
  | classDef identifier bases decorators body =>
    exact ⟨identifier, bases, decorators, body, hmem, (Option.some.inj hread).symm⟩
  | _ => cases hread

theorem module_of_mem_nested {outer declared : ClassDeclaration} (h : declared ∈ outer.nested) :
    declared.module = outer.module := by
  obtain ⟨_, _, _, _, -, rfl⟩ := exists_classDef_of_mem_nested h
  rfl

theorem dot_notMem_of_mem_nested {outer declared : ClassDeclaration}
    (h : declared ∈ outer.nested) : '.' ∉ declared.identifier.toList := by
  obtain ⟨identifier, _, _, _, -, rfl⟩ := exists_classDef_of_mem_nested h
  exact identifier.dot_notMem

end ClassDeclaration

namespace Declarations

theorem mem_classesIn_of_classDef {module scope : String} {body inner : List Source.Stmt}
    {identifier : Source.Identifier} {bases decorators : List Source.Expr}
    (h : .classDef identifier bases decorators inner ∈ body) :
    { module, scope, identifier := identifier.text, bases, body := inner } ∈
      classesIn module scope body := by
  induction body with
  | nil => cases h
  | cons statement rest ih =>
    rw [classesIn, List.mem_append]
    rcases List.mem_cons.mp h with rfl | h
    · exact .inl List.mem_cons_self
    · exact .inr (ih h)

mutual

theorem nested_subset_classesOf {module scope : String} (statement : Source.Stmt)
    {outer : ClassDeclaration} (h : outer ∈ classesOf module scope statement) :
    outer.nested ⊆ classesOf module scope statement := by
  cases statement with
  | classDef identifier bases decorators body =>
    rw [classesOf] at h ⊢
    -- The class itself holds what stands in its body; a class further inside is left to that body.
    rcases List.mem_cons.mp h with rfl | h
    · intro declared hdeclared
      obtain ⟨identifier, bases, decorators, inner, hmem, rfl⟩ :=
        ClassDeclaration.exists_classDef_of_mem_nested hdeclared
      exact List.mem_cons_of_mem _ (mem_classesIn_of_classDef hmem)
    · exact fun declared hdeclared =>
        List.mem_cons_of_mem _ (nested_subset_classesIn body h hdeclared)
  | _ => cases h

/-- The classes in the body of a declared class are declared. -/
theorem nested_subset_classesIn {module scope : String} (body : List Source.Stmt)
    {outer : ClassDeclaration} (h : outer ∈ classesIn module scope body) :
    outer.nested ⊆ classesIn module scope body := by
  cases body with
  | nil => cases h
  | cons statement rest =>
    rw [classesIn] at h ⊢
    rcases List.mem_append.mp h with h | h
    · exact fun declared hdeclared =>
        List.mem_append_left _ (nested_subset_classesOf statement h hdeclared)
    · exact fun declared hdeclared =>
        List.mem_append_right _ (nested_subset_classesIn rest h hdeclared)

end

end Declarations

/-- Where no two classes share a name, each class counts. -/
theorem declared?_of_nodup {modules : List SourceModule} {declared : ClassDeclaration}
    (hn : ((modules.flatMap SourceModule.classes).map ClassDeclaration.name).Nodup)
    (h : declared ∈ modules.flatMap SourceModule.classes) :
    declared? modules declared.name = some declared := by
  cases hf : declared? modules declared.name with
  | none =>
    have hno := List.find?_eq_none.mp hf declared (List.mem_reverse.mpr h)
    simp at hno
  | some found =>
    have hmem := List.mem_reverse.mp (List.mem_of_find?_eq_some hf)
    rw [List.inj_on_of_nodup_map hn hmem h (name_of_declared? hf)]

theorem declared?_of_mem_nested {modules : List SourceModule} {name : String}
    {outer inner : ClassDeclaration}
    (hn : ((modules.flatMap SourceModule.classes).map ClassDeclaration.name).Nodup)
    (ho : declared? modules name = some outer) (h : inner ∈ outer.nested) :
    declared? modules inner.name = some inner := by
  obtain ⟨module, hmodule, houter⟩ :=
    List.mem_flatMap.mp (List.mem_reverse.mp (List.mem_of_find?_eq_some ho))
  exact declared?_of_nodup hn
    (List.mem_flatMap.mpr ⟨module, hmodule, Declarations.nested_subset_classesIn _ houter h⟩)

namespace SymbolIndex

variable {index : SymbolIndex} {interfaceBases : List String} {modules : List SourceModule}
  {inspect : Inspection} {member : String}

/-- The class of a name is found to have a member. -/
def Has (index : SymbolIndex) (inspect : Inspection) (name member : String) : Prop :=
  ∃ result, index.findMemberBy inspect name member = some result ∧ result.holds = true

/-- A base in the index adds the members that its class has. -/
theorem contributes_iff_has (hb : index.Built) {owner parent : TypeSymbol} {base : String}
    (hl : index.lookup base = some parent) :
    index.Contributes inspect member owner base ↔ index.Has inspect base member := by
  have hk := hb.keyedByName
  have hsearch : (index.searchMember inspect parent member).holds = true ↔ _ :=
    (searchMember_holds_iff hk (hk.holds_of_lookup hl)).2
  simp only [Contributes, Has, findMemberBy, hl, Option.map_some, Option.some.injEq,
    exists_eq_left', hsearch]

/-- A base that no class and no import has the name of adds what a class outside may have. -/
theorem contributes_iff_of_unbound {owner : TypeSymbol} {home base : String}
    (howner : owner.module = home) (hm : home ≠ "") (hplain : '.' ∉ base.toList)
    (hnone : declared? modules (home ++ "." ++ base) = none)
    (himport : ∀ module ∈ modules, ∀ entry ∈ module.imports, entry.1 ≠ home ++ "." ++ base)
    (hself : ∀ module ∈ modules, ∀ entry ∈ module.imports,
      LeadingPart entry.1 home → entry.2 = entry.1) :
    (ofModules interfaceBases modules).Contributes inspect member owner (home ++ "." ++ base) ↔
      inspect base member ≠ some false := by
  subst howner
  have hsettled : (ofModules interfaceBases modules).Settled (owner.module ++ "." ++ base) := by
    refine settled_of_alias_fixed fun key target hget hlead => ?_
    obtain ⟨module, hmod, hent⟩ := exists_import_of_alias hget
    obtain rfl | hlead := hlead.of_component hplain
    · exact absurd rfl (himport module hmod _ hent)
    · exact hself module hmod _ hent hlead
  -- A function of the same name does not matter: resolution stops there, but finds no class.
  have hlookup : (ofModules interfaceBases modules).lookup (owner.module ++ "." ++ base) =
      none := by
    apply lookup_eq_none
    rw [canonical, resolveWithin_of_settled hsettled, Table.mem_keys_iff, get?_types_ofModules,
      hnone]
    simp
  rw [Contributes, hlookup, externalName_of_settled hm hsettled]

/-- What a class has from its own body and from all bases but one. -/
def HasApartFrom (index : SymbolIndex) (inspect : Inspection) (owner : TypeSymbol)
    (declared : ClassDeclaration) (base : List String) (member : String) : Prop :=
  member ∈ Declarations.functionNames declared.body ∨
    ∃ parts ∈ declared.baseNames, parts ≠ base ∧
      index.Contributes inspect member owner (declared.baseKey parts)

/-- One base set apart, a class has what this base adds and what it has otherwise. -/
theorem findMemberBy_apart_from {name : String} {declared : ClassDeclaration}
    (hd : declared? modules name = some declared) {base : List String}
    (hb : base ∈ declared.baseNames) (interfaceBases : List String) (inspect : Inspection)
    (member : String) :
    ∃ result, (ofModules interfaceBases modules).findMemberBy inspect name member = some result ∧
      (result.holds = true ↔
        (ofModules interfaceBases modules).HasApartFrom inspect (declared.symbol interfaceBases)
            declared base member ∨
          (ofModules interfaceBases modules).Contributes inspect member
            (declared.symbol interfaceBases) (declared.baseKey base)) := by
  obtain ⟨result, hfind, hholds⟩ := findMemberBy_of_declared hd interfaceBases inspect member
  refine ⟨result, hfind, hholds.trans ⟨?_, ?_⟩⟩
  · rintro (hown | ⟨parts, hp, hc⟩)
    · exact .inl (.inl hown)
    · by_cases hparts : parts = base
      · exact .inr (hparts ▸ hc)
      · exact .inl (.inr ⟨parts, hp, hparts, hc⟩)
  · rintro ((hown | ⟨parts, hp, -, hc⟩) | hc)
    · exact .inl hown
    · exact .inr ⟨parts, hp, hc⟩
    · exact .inr ⟨base, hb, hc⟩

/-- **A base named like a sibling.** Two classes stand in the body of `outer`, at any depth, and one
of them derives from a base spelled as the plain name of the other. The base is read in the module,
so next to the body of the class and its other bases it adds what its name in the module stands for.

* When that is a declared class, it adds the members of this one.
* When no class is declared and nothing is imported under this name, and each import that binds a
  leading part of the module's name binds it to itself, it adds the members that are not known to be
  missing in a class outside called like the sibling. So the class has every method of the sibling
  that is not known to be missing there. -/
theorem findMemberBy_of_sibling_base {outer sibling declared : ClassDeclaration}
    (hsibling : sibling ∈ outer.nested) (hdeclared : declared ∈ outer.nested)
    (hs : declared? modules sibling.name = some sibling)
    (hd : declared? modules declared.name = some declared)
    (hb : [sibling.identifier] ∈ declared.baseNames) (interfaceBases : List String)
    (inspect : Inspection) :
    let index := ofModules interfaceBases modules
    let owner := declared.symbol interfaceBases
    let inModule := outer.module ++ "." ++ sibling.identifier
    (∀ method ∈ Declarations.functionNames sibling.body, index.Has inspect sibling.name method) ∧
      (∀ member, ∃ result, index.findMemberBy inspect declared.name member = some result ∧
        (result.holds = true ↔
          index.HasApartFrom inspect owner declared [sibling.identifier] member ∨
            index.Contributes inspect member owner inModule)) ∧
      (∀ top, declared? modules inModule = some top → ∀ member,
        (index.Contributes inspect member owner inModule ↔ index.Has inspect inModule member)) ∧
      (outer.module ≠ "" → declared? modules inModule = none →
        (∀ module ∈ modules, ∀ entry ∈ module.imports, entry.1 ≠ inModule) →
        (∀ module ∈ modules, ∀ entry ∈ module.imports,
          LeadingPart entry.1 outer.module → entry.2 = entry.1) →
        (∀ member, index.Contributes inspect member owner inModule ↔
          inspect sibling.identifier member ≠ some false) ∧
        ∀ method ∈ Declarations.functionNames sibling.body,
          inspect sibling.identifier method ≠ some false →
            index.Has inspect declared.name method) := by
  intro index owner inModule
  have hmodule := ClassDeclaration.module_of_mem_nested hdeclared
  have hfound (member : String) : ∃ result,
      index.findMemberBy inspect declared.name member = some result ∧
        (result.holds = true ↔
          index.HasApartFrom inspect owner declared [sibling.identifier] member ∨
            index.Contributes inspect member owner inModule) := by
    have h := findMemberBy_apart_from hd hb interfaceBases inspect member
    rwa [declared.baseKey_singleton, hmodule] at h
  refine ⟨fun method hmethod => ?_, hfound, fun top htop member => ?_, ?_⟩
  · obtain ⟨result, hfind, hholds⟩ := findMemberBy_of_declared hs interfaceBases inspect method
    exact ⟨result, hfind, hholds.mpr (.inl hmethod)⟩
  · exact contributes_iff_has (built_ofModules interfaceBases modules) (lookup_of_declared htop)
  · intro hm hnone himport hself
    have houtside (member : String) : index.Contributes inspect member owner inModule ↔
        inspect sibling.identifier member ≠ some false :=
      contributes_iff_of_unbound hmodule hm (ClassDeclaration.dot_notMem_of_mem_nested hsibling)
        hnone himport hself
    refine ⟨houtside, fun method _ hopen => ?_⟩
    obtain ⟨result, hfind, hholds⟩ := hfound method
    exact ⟨result, hfind, hholds.mpr (.inr ((houtside method).mpr hopen))⟩

/-- A class that derives from the class before it, two levels deep. -/
def deepSiblings : List SourceModule :=
  [{ name := "m"
     source := "import os\nclass Top:\n    class Outer:\n        class B:\n" ++
       "            def f(self): pass\n        class X(B): pass\n"
     parses := by decide +kernel }]

theorem findMemberBy_of_deepSiblings :
    let index := ofModules defaultInterfaceBases deepSiblings
    let inspect : Inspection := fun _ _ => none
    ∃ outer sibling declared : ClassDeclaration, outer.nested = [sibling, declared] ∧
      declared? deepSiblings "m.Top.Outer.B" = some sibling ∧
      declared? deepSiblings "m.Top.Outer.X" = some declared ∧
      declared.baseNames = [["B"]] ∧ declared? deepSiblings "m.B" = none ∧
      (∀ module ∈ deepSiblings, ∀ entry ∈ module.imports, entry.1 ≠ "m.B") ∧
      index.Has inspect "m.Top.Outer.X" "f" := by
  intro index inspect
  obtain ⟨hnames, hviews, hnodup⟩ :
      ((declared? deepSiblings "m.Top.Outer").map fun outer =>
        outer.nested.map fun inner => (inner.name, inner.identifier)) =
        some [("m.Top.Outer.B", "B"), ("m.Top.Outer.X", "X")] ∧
      ((declared? deepSiblings "m.Top.Outer").map fun outer =>
        outer.nested.map ClassDeclaration.outline) = some [("m", [], ["f"]), ("m", [["B"]], [])] ∧
      ((deepSiblings.flatMap SourceModule.classes).map ClassDeclaration.name).Nodup := by
    decide +kernel
  obtain ⟨hnone, himport, hself⟩ : (declared? deepSiblings "m.B").isNone = true ∧
      (∀ module ∈ deepSiblings, ∀ entry ∈ module.imports, entry.1 ≠ "m.B") ∧
      ∀ module ∈ deepSiblings, ∀ entry ∈ module.imports,
        LeadingPart entry.1 "m" → entry.2 = entry.1 := by decide +kernel
  obtain ⟨outer, houter, hnames⟩ := Option.map_eq_some_iff.mp hnames
  rw [houter, Option.map_some, Option.some.injEq] at hviews
  obtain ⟨sibling, _, hnested, hsibling, hrest⟩ := List.map_eq_cons_iff.mp hnames
  obtain ⟨declared, _, rfl, hdeclared, hrest⟩ := List.map_eq_cons_iff.mp hrest
  obtain rfl := List.map_eq_nil_iff.mp hrest
  obtain ⟨hname, hidentifier⟩ := Prod.mk.inj hsibling
  have hinner : sibling ∈ outer.nested ∧ declared ∈ outer.nested := by simp [hnested]
  have hs := declared?_of_mem_nested hnodup houter hinner.1
  have hd := declared?_of_mem_nested hnodup houter hinner.2
  simp only [hnested, List.map_cons, List.map_nil, List.cons.injEq, and_true,
    ClassDeclaration.outline_eq_iff] at hviews
  obtain ⟨⟨hmodule, -, hmethods⟩, -, hbases, -⟩ := hviews
  have hhome : outer.module = "m" := ClassDeclaration.module_of_mem_nested hinner.1 ▸ hmodule
  have hb : [sibling.identifier] ∈ declared.baseNames := by simp [hidentifier, hbases]
  have h := findMemberBy_of_sibling_base hinner.1 hinner.2 hs hd hb defaultInterfaceBases inspect
  rw [hidentifier, hhome, hmethods, (Prod.mk.inj hdeclared).1] at h
  have hfree : declared? deepSiblings "m.B" = none := Option.isNone_iff_eq_none.mp hnone
  refine ⟨outer, sibling, declared, hnested, hname ▸ hs, (Prod.mk.inj hdeclared).1 ▸ hd, hbases,
    hfree, himport, ?_⟩
  exact (h.2.2.2 (by decide) hfree himport hself).2 "f" List.mem_cons_self (by decide)

/-- A class that derives from the class before it, in a module that declares another class of the
same name. -/
def shadowedSibling : List SourceModule :=
  [{ name := "m"
     source := "class B: pass\nclass Outer:\n    class B:\n        def f(self): pass\n" ++
       "    class X(B): pass\n"
     parses := by decide +kernel }]

/-- The sibling declares the method, and the class that derives from it is said to lack it. -/
theorem shadowed_sibling_lacks_method :
    let index := ofModules defaultInterfaceBases shadowedSibling
    ((declared? shadowedSibling "m.Outer").map fun outer =>
        outer.nested.map fun inner =>
          (inner.name, inner.baseNames, Declarations.functionNames inner.body)) =
        some [("m.Outer.B", [], ["f"]), ("m.Outer.X", [["B"]], [])] ∧
      index.findMemberBy KnownClass.hasMember? "m.Outer.B" "f" = some .present ∧
      index.findMemberBy KnownClass.hasMember? "m.Outer.X" "f" = some .absent := by
  decide +kernel

end SymbolIndex

end CoverAudit
