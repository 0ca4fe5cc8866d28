import CoverAudit.Proofs.Symbol.Modules

/-!
# Bases that no import touches

A class may name a base that its module neither declares nor imports, a builtin. The base is kept
under its name in the module (`shop.widgets.dict`), and whether it is recognised depends on the
aliases of all leading parts of that name, so also on what other modules import.

* `LeadingPart`: a name, or what stands before one of its dots.
* `expandAlias_eq_some`: a step of resolution puts the target of an alias in the place of a leading
  part. So a name is settled when every alias of a leading part of it stands for itself
  (`settled_of_alias_fixed`), and what all steps lead to, resolution leads to
  (`resolveWithin_of_step`).
* `findMemberBy_of_local_base`: where no import leads a part of the module's name elsewhere, the
  base is known outside by the name that the source spells.
* `builtin_base_behind_import`: a package that imports a function under the name of the module
  that declares it. A builtin base in that module is not recognised.
-/

namespace CoverAudit.SymbolIndex

/-! ## Leading parts of names -/

/-- `key` is `name`, or what stands before one of its dots. -/
def LeadingPart (key name : String) : Prop :=
  name = key ∨ ∃ rest, name = key ++ "." ++ rest

variable {index : SymbolIndex} {key name next : String}

theorem leadingPart_iff_prefix :
    LeadingPart key name ↔ key.toList ++ ['.'] <+: name.toList ++ ['.'] := by
  constructor
  · rintro (rfl | ⟨rest, rfl⟩)
    · exact List.prefix_rfl
    · exact ⟨rest.toList ++ ['.'], by simp⟩
  · rintro ⟨more, h⟩
    -- The last dot of the longer text ends the shorter one, or stands in `more`.
    rcases List.eq_nil_or_concat more with rfl | ⟨rest, last, rfl⟩
    · rw [List.append_nil] at h
      exact .inl (String.toList_injective (List.append_cancel_right h.symm))
    · rw [List.concat_eq_append, ← List.append_assoc] at h
      obtain ⟨hname, -⟩ := List.append_inj' h rfl
      refine .inr ⟨String.ofList rest, String.toList_injective ?_⟩
      simp [← hname]

instance : Decidable (LeadingPart key name) :=
  decidable_of_iff _ leadingPart_iff_prefix.symm

/-- A component without a dot adds no leading part but the whole. -/
theorem LeadingPart.of_component {scope component : String} (hc : '.' ∉ component.toList)
    (h : LeadingPart key (scope ++ "." ++ component)) :
    key = scope ++ "." ++ component ∨ LeadingPart key scope := by
  obtain h | ⟨rest, h⟩ := h
  · exact .inl h.symm
  · have hlist : scope.toList ++ '.' :: component.toList = key.toList ++ '.' :: rest.toList := by
      simpa using congrArg String.toList h
    right
    rcases List.append_eq_append_iff.mp hlist with ⟨more, hkey, hmore⟩ | ⟨more, hscope, hmore⟩
    · cases more with
      | nil => exact .inl (String.toList_injective (by simpa using hkey.symm))
      | cons c more =>
        obtain ⟨-, htail⟩ := List.cons.inj hmore
        exact absurd (by rw [htail]; simp) hc
    · cases more with
      | nil => exact .inl (String.toList_injective (by simpa using hscope))
      | cons c more =>
        obtain ⟨rfl, -⟩ := List.cons.inj hmore
        refine .inr ⟨String.ofList more, String.toList_injective ?_⟩
        simpa using hscope

theorem leadingPart_join_cons (part : String) (rest : List String) :
    LeadingPart part (Text.join '.' (part :: rest)) := by
  cases rest with
  | nil => exact .inl (String.ofList_toList)
  | cons second others =>
    exact .inr ⟨_, Text.join_cons '.' part (List.cons_ne_nil second others)⟩

/-- The first component of a name is the leading part without a dot. -/
theorem headD_split_eq_iff {name first : String} :
    (Text.split '.' name).headD "" = first ↔
      '.' ∉ first.toList ∧ LeadingPart first name := by
  constructor
  · rintro rfl
    cases hs : Text.split '.' name with
    | nil => exact absurd hs (Text.split_ne_nil '.' name)
    | cons top rest =>
      have hlead := leadingPart_join_cons top rest
      rw [← hs, Text.join_split] at hlead
      exact ⟨Text.notMem_of_mem_split (hs ▸ List.mem_cons_self), hlead⟩
  · rintro ⟨hdot, rfl | ⟨rest, rfl⟩⟩
    · rw [Text.split_of_notMem hdot]
      rfl
    · have hsplit : Text.split '.' (first ++ "." ++ rest) = _ := Text.split_append '.' first rest
      rw [hsplit, Text.split_of_notMem hdot]
      rfl

/-! ## Steps of resolution -/

theorem mem_cuts {α : Type} {items front back : List α} (h : (front, back) ∈ cuts items) :
    front ≠ [] ∧ front ++ back = items := by
  induction items generalizing front back with
  | nil => cases h
  | cons item rest ih =>
    rcases List.mem_append.mp h with h | h
    · obtain ⟨cut, hcut, heq⟩ := List.mem_map.mp h
      cases heq
      obtain ⟨-, happ⟩ := ih hcut
      exact ⟨List.cons_ne_nil _ _, by rw [List.cons_append, happ]⟩
    · cases List.mem_singleton.mp h
      exact ⟨List.cons_ne_nil _ _, rfl⟩

/-- A step of resolution puts the target of an alias in the place of a leading part. -/
theorem expandAlias_eq_some (h : index.expandAlias name = some next) :
    ∃ key target, index.aliases.get? key = some target ∧ LeadingPart key name ∧
      LeadingPart target next ∧ (target = key → next = name) := by
  obtain ⟨⟨front, back⟩, hcut, hsome⟩ := List.exists_of_findSome?_eq_some h
  obtain ⟨target, hget, rfl⟩ := Option.map_eq_some_iff.mp hsome
  obtain ⟨hne, happ⟩ := mem_cuts hcut
  have hname : Text.join '.' (Text.join '.' front :: back) = name := by
    rw [← Text.join_append '.' back hne, happ, Text.join_split]
  refine ⟨Text.join '.' front, target, hget, ?_, leadingPart_join_cons target back, ?_⟩
  · have hlead := leadingPart_join_cons (Text.join '.' front) back
    rwa [hname] at hlead
  · rintro rfl
    exact hname

/-- A name is settled when the aliases of its leading parts stand for themselves. -/
theorem settled_of_alias_fixed
    (h : ∀ key target, index.aliases.get? key = some target → LeadingPart key name →
      target = key) : index.Settled name := by
  cases he : index.expandAlias name with
  | none => exact .inr (.inr (.inl he))
  | some next =>
    obtain ⟨key, target, hget, hlead, -, hfix⟩ := expandAlias_eq_some he
    exact .inr (.inr (.inr (by rw [he, hfix (h key target hget hlead)])))

/-- What all steps lead to, resolution leads to from a name that is not settled. -/
theorem resolveWithin_of_step {P : String → Prop}
    (hstep : ∀ name next, index.expandAlias name = some next → P next)
    (hn : ¬ index.Settled name) (fuel : Nat) : P (index.resolveWithin (fuel + 1) name) := by
  induction fuel generalizing name with
  | zero =>
    obtain ⟨next, he⟩ := exists_hop hn
    rw [resolveWithin_succ_of_hop hn he]
    exact hstep name next he
  | succ fuel ih =>
    obtain ⟨next, he⟩ := exists_hop hn
    rw [resolveWithin_succ_of_hop hn he]
    by_cases hs : index.Settled next
    · rw [resolveWithin_of_settled hs]
      exact hstep name next he
    · exact ih hs

/-! ## Bases outside the index -/

theorem lookup_eq_none_of_settled (hs : index.Settled name) (hn : index.isSymbol name = false) :
    index.lookup name = none := by
  apply lookup_eq_none
  rw [canonical, resolveWithin_of_settled hs]
  intro h
  rw [isSymbol_iff.mpr (.inl h)] at hn
  cases hn

theorem externalName_of_settled {owner : TypeSymbol} {spelled : String} (hm : owner.module ≠ "")
    (hs : index.Settled (owner.module ++ "." ++ spelled)) :
    index.externalName owner (owner.module ++ "." ++ spelled) = spelled := by
  have hcan : index.canonical (owner.module ++ "." ++ spelled) = owner.module ++ "." ++ spelled :=
    resolveWithin_of_settled hs maxHops
  have hmodule : owner.module.isEmpty = false := by simpa using hm
  unfold externalName
  simp [hcan, hmodule]

/-- A base that aliases lead away from its module is not looked up by what the source spells. -/
theorem externalName_of_led_away {P : String → Prop}
    (hstep : ∀ name next, index.expandAlias name = some next → P next)
    (hn : ¬ index.Settled name) (hname : ¬ P name) (htypes : ∀ key ∈ index.types.keys, ¬ P key)
    (owner : TypeSymbol) :
    index.lookup name = none ∧ index.externalName owner name = index.canonical name ∧
      P (index.canonical name) := by
  have hcan : P (index.canonical name) := resolveWithin_of_step hstep hn 19
  have hne : index.canonical name ≠ name := fun h => hname (h ▸ hcan)
  refine ⟨lookup_eq_none fun h => htypes _ h hcan, ?_, hcan⟩
  unfold externalName
  simp [hne]

/-- **Bases that no import touches.** A class of a named module has a base spelled `base`, a plain
name with or without type arguments. Neither a class nor a function nor an import of any module has
the name of the base in this module, and each import that binds a leading part of the module's name
binds it to itself. Then the base is looked up outside by the name `base` alone: it contributes
exactly the members that are not known to be missing there, beside those of the body of the class
and of its other bases, whatever else the modules import. -/
theorem findMemberBy_of_local_base {interfaceBases : List String} {modules : List SourceModule}
    {declared : ClassDeclaration} (hd : declared? modules name = some declared)
    (hm : declared.module ≠ "") {base : String} (hb : [base] ∈ declared.baseNames)
    (hplain : '.' ∉ base.toList)
    (hs : (ofModules interfaceBases modules).isSymbol (declared.module ++ "." ++ base) = false)
    (himport : ∀ module ∈ modules, ∀ entry ∈ module.imports,
      entry.1 ≠ declared.module ++ "." ++ base)
    (hself : ∀ module ∈ modules, ∀ entry ∈ module.imports,
      LeadingPart entry.1 declared.module → entry.2 = entry.1)
    (inspect : Inspection) (member : String) :
    let index := ofModules interfaceBases modules
    let owner := declared.symbol interfaceBases
    index.lookup (declared.module ++ "." ++ base) = none ∧
      index.externalName owner (declared.module ++ "." ++ base) = base ∧
      ∃ result, index.findMemberBy inspect name member = some result ∧
        (result.holds = true ↔
          inspect base member ≠ some false ∨
            member ∈ Declarations.functionNames declared.body ∨
            ∃ parts ∈ declared.baseNames, parts ≠ [base] ∧
              index.Contributes inspect member owner (declared.baseKey parts)) := by
  intro index owner
  have hsettled : index.Settled (declared.module ++ "." ++ base) := by
    refine settled_of_alias_fixed fun key target hget hlead => ?_
    obtain ⟨module, hmod, hent⟩ := exists_import_of_alias hget
    obtain rfl | hlead := hlead.of_component hplain
    · exact absurd rfl (himport module hmod _ hent)
    · exact hself module hmod _ hent hlead
  have hlookup : index.lookup (declared.module ++ "." ++ base) = none :=
    lookup_eq_none_of_settled hsettled hs
  have hexternal : index.externalName owner (declared.module ++ "." ++ base) = base :=
    externalName_of_settled hm hsettled
  have hlocal : index.Contributes inspect member owner (declared.baseKey [base]) ↔
      inspect base member ≠ some false := by
    rw [declared.baseKey_singleton, Contributes, hlookup, hexternal]
  obtain ⟨result, hfind, hholds⟩ := findMemberBy_of_declared hd interfaceBases inspect member
  refine ⟨hlookup, hexternal, result, hfind, hholds.trans ?_⟩
  constructor
  · rintro (hown | ⟨parts, hp, hc⟩)
    · exact .inr (.inl hown)
    · by_cases hparts : parts = [base]
      · exact .inl (hlocal.mp (hparts ▸ hc))
      · exact .inr (.inr ⟨parts, hp, hparts, hc⟩)
  · rintro (hi | hown | ⟨parts, hp, -, hc⟩)
    · exact .inr ⟨[base], hb, hlocal.mpr hi⟩
    · exact .inl hown
    · exact .inr ⟨parts, hp, hc⟩

/-- A package that imports one of its modules, under the name that the module has anyway. -/
def plainPackage : List SourceModule :=
  [{ name := "pkg", source := "from . import mod\n", isPackage := true
     parses := by decide +kernel },
    { name := "pkg.mod", source := "import os\nclass C(dict[str, int]): pass\n"
      parses := by decide +kernel }]

theorem findMemberBy_of_plainPackage :
    let index := ofModules defaultInterfaceBases plainPackage
    let inspect : Inspection := fun name _ => if name = "dict" then some false else none
    index.isSymbol "pkg.mod.dict" = false ∧
      (∀ module ∈ plainPackage, ∀ entry ∈ module.imports, entry.1 ≠ "pkg.mod.dict") ∧
      (∀ module ∈ plainPackage, ∀ entry ∈ module.imports,
        LeadingPart entry.1 "pkg.mod" → entry.2 = entry.1) ∧
      ∃ declared, declared? plainPackage "pkg.mod.C" = some declared ∧
        declared.module = "pkg.mod" ∧ ["dict"] ∈ declared.baseNames ∧
        index.lookup "pkg.mod.dict" = none ∧
        index.externalName (declared.symbol defaultInterfaceBases) "pkg.mod.dict" = "dict" ∧
        ∃ result, index.findMemberBy inspect "pkg.mod.C" "nope" = some result ∧
          result.holds = false := by
  intro index inspect
  obtain ⟨hdecl, hs, himport, hself⟩ :
      (declared? plainPackage "pkg.mod.C").map ClassDeclaration.outline =
        some ("pkg.mod", [["dict"]], []) ∧
      index.isSymbol "pkg.mod.dict" = false ∧
      (∀ module ∈ plainPackage, ∀ entry ∈ module.imports, entry.1 ≠ "pkg.mod.dict") ∧
      ∀ module ∈ plainPackage, ∀ entry ∈ module.imports,
        LeadingPart entry.1 "pkg.mod" → entry.2 = entry.1 := by decide +kernel
  obtain ⟨declared, hd, hview⟩ := Option.map_eq_some_iff.mp hdecl
  obtain ⟨hmodule, hbases, hbody⟩ := ClassDeclaration.outline_eq_iff.mp hview
  have hb : ["dict"] ∈ declared.baseNames := by simp [hbases]
  have hne : declared.module ≠ "" := by rw [hmodule]; decide
  have hname : declared.module ++ "." ++ "dict" = "pkg.mod.dict" := by rw [hmodule]; decide
  refine ⟨hs, himport, hself, declared, hd, hmodule, hb, ?_⟩
  rw [← hname] at hs himport ⊢
  rw [← hmodule] at hself
  obtain ⟨hlookup, hexternal, result, hfind, hholds⟩ :=
    findMemberBy_of_local_base hd hne hb (by decide) hs himport hself inspect "nope"
  refine ⟨hlookup, hexternal, result, hfind, Bool.eq_false_iff.mpr fun h => ?_⟩
  have hno := hholds.mp h
  simp [hbody, hbases, inspect] at hno

/-- A package that imports a function, under the name of the module that declares it. -/
def selfNamedPackage : List SourceModule :=
  [{ name := "pkg", source := "from .mod import mod\n", isPackage := true
     parses := by decide +kernel },
    { name := "pkg.mod", source := "def mod(): pass\nclass C(dict): pass\n"
      parses := by decide +kernel }]

/-- Nothing in `pkg.mod` is called `dict`, and its base `dict` is known to lack the member, but what
the package imports hides it. -/
theorem builtin_base_behind_import :
    let index := ofModules defaultInterfaceBases selfNamedPackage
    let inspect : Inspection := fun name _ => if name = "dict" then some false else none
    index.isSymbol "pkg.mod.dict" = false ∧
      (∀ module ∈ selfNamedPackage, module.name = "pkg.mod" → module.imports = []) ∧
      ∃ declared, declared? selfNamedPackage "pkg.mod.C" = some declared ∧
        declared.module = "pkg.mod" ∧ declared.baseNames = [["dict"]] ∧
        index.externalName (declared.symbol defaultInterfaceBases) "pkg.mod.dict" ≠ "dict" ∧
        "nope" ∉ Declarations.functionNames declared.body ∧
        ∃ result, index.findMemberBy inspect "pkg.mod.C" "nope" = some result ∧
          result.holds = true := by
  intro index inspect
  obtain ⟨hdecl, hs, himport, htypes, haliases, hopen⟩ :
      (declared? selfNamedPackage "pkg.mod.C").map ClassDeclaration.outline =
        some ("pkg.mod", [["dict"]], []) ∧
      index.isSymbol "pkg.mod.dict" = false ∧
      (∀ module ∈ selfNamedPackage, module.name = "pkg.mod" → module.imports = []) ∧
      (∀ key ∈ index.types.keys, ¬ LeadingPart "pkg.mod.mod" key) ∧
      index.aliases.toList = [("pkg.mod", "pkg.mod.mod")] ∧
      ¬ index.Settled "pkg.mod.dict" := by decide +kernel
  obtain ⟨declared, hd, hview⟩ := Option.map_eq_some_iff.mp hdecl
  obtain ⟨hmodule, hbases, hbody⟩ := ClassDeclaration.outline_eq_iff.mp hview
  -- The alias applies to its own target, so the name grows with every step.
  have hstep : ∀ name next, index.expandAlias name = some next →
      LeadingPart "pkg.mod.mod" next := by
    intro name next he
    obtain ⟨key, target, hget, -, hlead, -⟩ := expandAlias_eq_some he
    have hmem := Table.mem_toList_of_get? hget
    rw [haliases, List.mem_singleton] at hmem
    cases hmem
    exact hlead
  obtain ⟨hlookup, hexternal, hlead⟩ := externalName_of_led_away hstep hopen (by decide) htypes
    (declared.symbol defaultInterfaceBases)
  have hhidden : index.externalName (declared.symbol defaultInterfaceBases) "pkg.mod.dict" ≠
      "dict" := by
    intro h
    rw [← hexternal, h] at hlead
    exact absurd hlead (by decide)
  have hcontributes : index.Contributes inspect "nope" (declared.symbol defaultInterfaceBases)
      (declared.baseKey ["dict"]) := by
    have hname : declared.module ++ "." ++ "dict" = "pkg.mod.dict" := by rw [hmodule]; decide
    rw [declared.baseKey_singleton, hname, Contributes, hlookup]
    simp [inspect, hhidden]
  obtain ⟨result, hfind, hholds⟩ :=
    findMemberBy_of_declared hd defaultInterfaceBases inspect "nope"
  refine ⟨hs, himport, declared, hd, hmodule, hbases, hhidden, by simp [hbody], result, hfind, ?_⟩
  exact hholds.mpr (.inr ⟨["dict"], by simp [hbases], hcontributes⟩)

end CoverAudit.SymbolIndex
