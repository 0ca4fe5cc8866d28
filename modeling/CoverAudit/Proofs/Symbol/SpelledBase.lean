import CoverAudit.Proofs.Symbol.Modules
import CoverAudit.Symbol.KnownClass

/-!
# Bases that spell a name

A base of a class may be any expression. `Spells` says which ones the index keeps: a dotted name,
or a dotted name with type arguments.

* `baseName?_eq_some_iff`: reading a base gives the components of the name that it spells.
* `findMemberBy_of_spelled_bases`: the other bases of a class contribute no member at all. Where no
  base spells a name, a class has the members of its own body only.
* `call_base_lacks_member`: so a class that derives from the result of a call is said to lack what
  it inherits.
-/

namespace CoverAudit

namespace Source.Expr

/-- The expression is a name, or an attribute of such an expression, with these components. -/
inductive Dotted : Expr → List String → Prop
  | name (id : String) : Dotted (.name id) [id]
  | field {value : Expr} {parts : List String} (h : Dotted value parts) (attr : String) :
      Dotted (.attribute value attr) (parts ++ [attr])

/-- As a base, the expression spells the name with these components. -/
inductive Spells : Expr → List String → Prop
  | dotted {base : Expr} {parts : List String} (h : Dotted base parts) : Spells base parts
  | subscript {value : Expr} {parts : List String} (h : Dotted value parts) :
      Spells (.subscript value) parts

theorem dottedName?_eq_some_iff {expression : Expr} {parts : List String} :
    expression.dottedName? = some parts ↔ Dotted expression parts := by
  constructor
  · intro h
    fun_induction dottedName? expression generalizing parts with
    | case1 id =>
      cases h
      exact .name id
    | case2 value attr ih =>
      obtain ⟨front, hvalue, rfl⟩ := Option.map_eq_some_iff.mp h
      exact .field (ih hvalue) attr
    | case3 => cases h
  · intro h
    induction h with
    | name id => rfl
    | field h attr ih => rw [dottedName?, ih, Option.map_some]

end Source.Expr

theorem Declarations.baseName?_eq_some_iff {base : Source.Expr} {parts : List String} :
    baseName? base = some parts ↔ base.Spells parts := by
  constructor
  · intro h
    unfold baseName? at h
    split at h
    · exact .subscript (Source.Expr.dottedName?_eq_some_iff.mp h)
    · exact .dotted (Source.Expr.dottedName?_eq_some_iff.mp h)
  · rintro (h | h)
    · -- A dotted name is no subscript, so it is read as it stands.
      have hread := Source.Expr.dottedName?_eq_some_iff.mpr h
      cases h <;> exact hread
    · exact Source.Expr.dottedName?_eq_some_iff.mpr h

theorem ClassDeclaration.mem_baseNames {declared : ClassDeclaration} {parts : List String} :
    parts ∈ declared.baseNames ↔ ∃ base ∈ declared.bases, base.Spells parts := by
  unfold baseNames
  simp only [List.mem_filterMap, Declarations.baseName?_eq_some_iff]

namespace SymbolIndex

/-- **Only bases that spell a name count.** A declared class is taken to have a member exactly when
its body declares it, or a base that spells a name contributes it. Whatever else it derives from
contributes nothing, so a class without such a base has the members of its body only. -/
theorem findMemberBy_of_spelled_bases {modules : List SourceModule} {name : String}
    {declared : ClassDeclaration} (hd : declared? modules name = some declared)
    (interfaceBases : List String) (inspect : Inspection) (member : String) :
    let index := ofModules interfaceBases modules
    let owner := declared.symbol interfaceBases
    ∃ result, index.findMemberBy inspect name member = some result ∧
      (result.holds = true ↔
        member ∈ Declarations.functionNames declared.body ∨
          ∃ base ∈ declared.bases, ∃ parts, base.Spells parts ∧
            index.Contributes inspect member owner (declared.baseKey parts)) ∧
      ((∀ base ∈ declared.bases, ∀ parts, ¬ base.Spells parts) →
        (result.holds = true ↔ member ∈ Declarations.functionNames declared.body)) := by
  intro index owner
  obtain ⟨result, hfind, hholds⟩ := findMemberBy_of_declared hd interfaceBases inspect member
  have hspelled : result.holds = true ↔
      member ∈ Declarations.functionNames declared.body ∨
        ∃ base ∈ declared.bases, ∃ parts, base.Spells parts ∧
          index.Contributes inspect member owner (declared.baseKey parts) := by
    rw [hholds]
    simp only [ClassDeclaration.mem_baseNames]
    constructor
    · rintro (hown | ⟨parts, ⟨base, hb, hs⟩, hc⟩)
      · exact .inl hown
      · exact .inr ⟨base, hb, parts, hs, hc⟩
    · rintro (hown | ⟨base, hb, parts, hs, hc⟩)
      · exact .inl hown
      · exact .inr ⟨parts, ⟨base, hb, hs⟩, hc⟩
  refine ⟨result, hfind, hspelled, fun hnone => hspelled.trans ⟨?_, .inl⟩⟩
  rintro (hown | ⟨base, hb, parts, hs, -⟩)
  · exact hown
  · exact absurd hs (hnone base hb parts)

/-- A class whose bases are a call and an attribute of a call. -/
def computedBases : List SourceModule :=
  [{ name := "m", source := "class C(make(), table().Row):\n    def own(self): pass\n"
     parses := by decide +kernel }]

theorem findMemberBy_of_computedBases :
    let index := ofModules defaultInterfaceBases computedBases
    ∃ declared, declared? computedBases "m.C" = some declared ∧
      (∀ base ∈ declared.bases, ∀ parts, ¬ base.Spells parts) ∧
      (∃ result, index.findMemberBy KnownClass.hasMember? "m.C" "own" = some result ∧
        result.holds = true) ∧
      ∃ result, index.findMemberBy KnownClass.hasMember? "m.C" "x" = some result ∧
        result.holds = false := by
  intro index
  have hdecl : (declared? computedBases "m.C").map ClassDeclaration.outline =
      some ("m", [], ["own"]) := by decide +kernel
  obtain ⟨declared, hd, hview⟩ := Option.map_eq_some_iff.mp hdecl
  obtain ⟨-, hbases, hbody⟩ := ClassDeclaration.outline_eq_iff.mp hview
  have hnone : ∀ base ∈ declared.bases, ∀ parts, ¬ base.Spells parts := by
    intro base hb parts hs
    have hmem : parts ∈ declared.baseNames := ClassDeclaration.mem_baseNames.mpr ⟨base, hb, hs⟩
    rw [hbases] at hmem
    cases hmem
  have hown : ∀ member, ∃ result,
      index.findMemberBy KnownClass.hasMember? "m.C" member = some result ∧
        (result.holds = true ↔ member ∈ ["own"]) := by
    intro member
    obtain ⟨result, hfind, -, hholds⟩ := findMemberBy_of_spelled_bases hd defaultInterfaceBases
      KnownClass.hasMember? member
    exact ⟨result, hfind, hbody ▸ hholds hnone⟩
  obtain ⟨found, hfound, hyes⟩ := hown "own"
  obtain ⟨missed, hmissed, hno⟩ := hown "x"
  refine ⟨declared, hd, hnone, ⟨found, hfound, hyes.mpr (by decide)⟩, missed, hmissed, ?_⟩
  exact Bool.eq_false_iff.mpr fun h => absurd (hno.mp h) (by decide)

/-- A class that derives from the result of a call. -/
def callBase : List SourceModule :=
  [{ name := "m"
     source := "from collections import namedtuple\nclass C(namedtuple('P', 'x')):\n    pass\n"
     parses := by decide +kernel }]

/-- The base can not be inspected, and still the class is said to lack the member. -/
theorem call_base_lacks_member :
    ∃ declared, declared? callBase "m.C" = some declared ∧
      (∃ base ∈ declared.bases, ∀ parts, ¬ base.Spells parts) ∧
      (ofModules defaultInterfaceBases callBase).findMemberBy KnownClass.hasMember? "m.C" "x" =
        some .absent := by
  obtain ⟨hdecl, hfind⟩ : ((declared? callBase "m.C").map fun declared =>
        declared.bases.any fun base => (Declarations.baseName? base).isNone) = some true ∧
      (ofModules defaultInterfaceBases callBase).findMemberBy KnownClass.hasMember? "m.C" "x" =
        some .absent := by
    decide +kernel
  obtain ⟨declared, hd, hany⟩ := Option.map_eq_some_iff.mp hdecl
  obtain ⟨base, hb, hread⟩ := List.any_eq_true.mp hany
  refine ⟨declared, hd, ⟨base, hb, fun parts hs => ?_⟩, hfind⟩
  rw [Declarations.baseName?_eq_some_iff.mpr hs] at hread
  cases hread

end SymbolIndex

end CoverAudit
