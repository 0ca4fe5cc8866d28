import CoverAudit.Audit.Check

/-!
# Accepted annotations

Which annotations a check accepts, said without the problems that it reports.

* `AcceptsDefaultClass`, `AcceptsTarget`: what is asked of the declared default classes, and of each
  target. A target that names a type is judged by it alone; one that names none needs a function, or
  a member of the default class.
* `defaultClassProblems_eq_nil_iff`, `targetProblems_eq_nil_iff`: the parts of a check have no
  problem exactly when they are accepted. A target is only judged this way next to an accepted
  default class.
* `violations_eq_nil_iff`: a test has no violation exactly when all its annotations are accepted.
* `declared_of_mem_violations`: a violation begins with an annotation that is declared.
-/

namespace CoverAudit.Check

/-- The class that `typeName` stands for is taken to have `member`. -/
def HasMember (index : SymbolIndex) (inspect : SymbolIndex.Inspection) (typeName member : String) :
    Prop :=
  ∃ search, index.findMemberBy inspect typeName member = some search ∧ search.holds = true

/-- None is declared, or one that is a class of the index. -/
def AcceptsDefaultClass (index : SymbolIndex) (declared : List String) : Prop :=
  declared = [] ∨ ∃ name, declared = [name] ∧ index.typeExists name = true

/-- What a reference names exists, next to the declared default classes. -/
inductive AcceptsReference (index : SymbolIndex) (inspect : SymbolIndex.Inspection)
    (declared : List String) (ref : Reference) : Prop
  | type (ht : ref.typeName ≠ "") (he : index.typeExists ref.typeName = true)
      (hm : ref.memberName = "" ∨ HasMember index inspect ref.typeName ref.memberName)
  | function (ht : ref.typeName = "") (hd : declared = [])
      (hf : index.functionExists ref.memberName = true)
  | fallback {name : String} (ht : ref.typeName = "") (hd : declared.head? = some name)
      (hm : ref.memberName = "" ∨ HasMember index inspect name ref.memberName)

/-- A target is not blank, has no `()`, and names what exists. -/
def AcceptsTarget (index : SymbolIndex) (inspect : SymbolIndex.Inspection) (declared : List String)
    (target : String) : Prop :=
  Text.strip target ≠ "" ∧ ¬ ['(', ')'] <:+: target.toList ∧
    AcceptsReference index inspect declared (Reference.parse target)

variable {index : SymbolIndex} {inspect : SymbolIndex.Inspection}

theorem hasParentheses_iff (cs : List Char) : hasParentheses cs = true ↔ ['(', ')'] <:+: cs := by
  fun_induction hasParentheses cs with
  | case1 rest => simp [List.infix_cons_iff]
  | case2 c rest hne ih =>
    rw [ih, List.infix_cons_iff]
    refine ⟨.inr, fun h => h.resolve_left ?_⟩
    rintro ⟨tail, h⟩
    simp only [List.cons_append, List.nil_append, List.cons.injEq] at h
    obtain ⟨rfl, rfl⟩ := h
    exact hne tail rfl rfl
  | case3 => simp

theorem memberExists_iff {typeName member : String} :
    memberExists index inspect typeName member = true ↔
      HasMember index inspect typeName member := by
  unfold memberExists HasMember
  split <;> simp_all

theorem ne_empty_of_typeExists {name : String} (h : index.typeExists name = true) : name ≠ "" := by
  rintro rfl
  simp [SymbolIndex.typeExists, SymbolIndex.lookup] at h

/-! ## The default class -/

theorem defaultClassProblems_eq_nil_iff (declared : List String) :
    defaultClassProblems index declared = [] ↔ AcceptsDefaultClass index declared := by
  unfold defaultClassProblems AcceptsDefaultClass
  cases declared with
  | nil => simp
  | cons name rest =>
    have hname : (if index.typeExists name then []
        else if index.isInterface name then [Problem.defaultClassIsInterface name]
        else [.defaultClassMissing name]) = [] ↔ index.typeExists name = true := by
      split
      · simp_all
      · split <;> simp_all
    rw [List.append_eq_nil_iff, hname]
    cases rest <;> simp

/-- Next to accepted default classes, targets fall back to nothing or to a class of the index. -/
theorem AcceptsDefaultClass.fallback {annotations : Annotations}
    (hd : AcceptsDefaultClass index annotations.defaultClasses) :
    annotations.defaultClasses = [] ∧ defaultClassOf index annotations = {} ∨
      ∃ name, annotations.defaultClasses = [name] ∧ name ≠ "" ∧
        defaultClassOf index annotations = { name, isValid := true } := by
  unfold defaultClassOf Annotations.defaultClass
  obtain h | ⟨name, h, he⟩ := hd
  · exact .inl ⟨h, by rw [h]; rfl⟩
  · exact .inr ⟨name, h, ne_empty_of_typeExists he, by rw [h]; simp [he]⟩

/-! ## Targets -/

section Targets

variable {fallback : DefaultClass} {target : String} {ref : Reference}

theorem nameProblems_eq_nil_iff (hr : Reference.parse target = ref) :
    nameProblems index fallback target = [] ↔
      ref.typeName ≠ "" ∧ index.typeExists ref.typeName = true ∨
        ref.typeName = "" ∧
          (fallback.name ≠ "" ∨ index.functionExists ref.memberName = true) := by
  unfold nameProblems
  rw [hr]
  by_cases ht : ref.typeName = ""
  · by_cases hn : fallback.name = "" <;> simp [ht, hn]
  · cases he : index.typeExists ref.typeName with
    | true => simp [ht, he]
    | false =>
      simp only [ht, he, String.isEmpty_eq_false_iff.mpr ht, Bool.not_false, if_true,
        Bool.false_eq_true, if_false, and_false, false_and, or_false, iff_false]
      split
      · simp
      · split <;> simp

theorem memberProblems_eq_nil_iff :
    memberProblems index inspect fallback target = [] ↔
      ∀ query, memberQuery index fallback target = some query →
        HasMember index inspect query.1 query.2 := by
  unfold memberProblems
  cases memberQuery index fallback target with
  | none => simp
  | some query =>
    rw [show (∀ q, some query = some q → HasMember index inspect q.1 q.2) ↔
      HasMember index inspect query.1 query.2 by simp, ← memberExists_iff]
    split
    · rename_i typeName member hq
      cases hq
      split <;> simp_all
    · rename_i hq
      cases hq

/-- The member that a target asks for belongs to the type that it names. -/
theorem memberQuery_of_type (hr : Reference.parse target = ref)
    (hb : Text.isBlankText target = false) (ht : ref.typeName ≠ "")
    (he : index.typeExists ref.typeName = true) :
    memberQuery index fallback target =
      if ref.memberName = "" then none else some (ref.typeName, ref.memberName) := by
  unfold memberQuery
  simp [hr, hb, ht, he]

/-- The member that a target without a type asks for belongs to a valid default class. -/
theorem memberQuery_of_fallback (hr : Reference.parse target = ref)
    (hb : Text.isBlankText target = false) (ht : ref.typeName = "") :
    memberQuery index fallback target =
      if ref.memberName ≠ "" ∧ fallback.name ≠ "" ∧ fallback.isValid = true then
        some (fallback.name, ref.memberName)
      else none := by
  unfold memberQuery
  by_cases hm : ref.memberName = "" <;> simp [hr, hb, ht, hm]

/-- A target that is not blank has no problem besides parentheses exactly when what it names
exists. -/
theorem acceptsReference_iff {declared : List String} (hr : Reference.parse target = ref)
    (hb : Text.isBlankText target = false)
    (hd : declared = [] ∧ fallback = {} ∨
      ∃ name, declared = [name] ∧ name ≠ "" ∧ fallback = { name, isValid := true }) :
    nameProblems index fallback target = [] ∧ memberProblems index inspect fallback target = [] ↔
      AcceptsReference index inspect declared ref := by
  rw [nameProblems_eq_nil_iff hr, memberProblems_eq_nil_iff]
  constructor
  · rintro ⟨⟨ht, he⟩ | ⟨ht, hf⟩, hm⟩
    · refine .type ht he (Classical.or_iff_not_imp_left.mpr fun hne => ?_)
      exact hm (ref.typeName, ref.memberName) (by rw [memberQuery_of_type hr hb ht he, if_neg hne])
    · rw [memberQuery_of_fallback hr hb ht] at hm
      obtain ⟨rfl, rfl⟩ | ⟨name, rfl, hne, rfl⟩ := hd
      · exact .function ht rfl (hf.resolve_left fun h => h rfl)
      · refine .fallback ht rfl (Classical.or_iff_not_imp_left.mpr fun hmem => ?_)
        exact hm (name, ref.memberName) (if_pos ⟨hmem, hne, rfl⟩)
  · rintro (⟨ht, he, hm⟩ | ⟨ht, hdecl, hf⟩ | ⟨ht, hdecl, hm⟩)
    · refine ⟨.inl ⟨ht, he⟩, fun query hq => ?_⟩
      rw [memberQuery_of_type hr hb ht he] at hq
      split at hq
      · cases hq
      · cases hq
        exact hm.resolve_left ‹_›
    · obtain ⟨-, rfl⟩ | ⟨name, rfl, -, -⟩ := hd
      · refine ⟨.inr ⟨ht, .inr hf⟩, fun query hq => ?_⟩
        rw [memberQuery_of_fallback hr hb ht, if_neg fun h => h.2.1 rfl] at hq
        cases hq
      · cases hdecl
    · obtain ⟨rfl, -⟩ | ⟨name, rfl, hne, rfl⟩ := hd
      · cases hdecl
      · cases hdecl
        refine ⟨.inr ⟨ht, .inl hne⟩, fun query hq => ?_⟩
        rw [memberQuery_of_fallback hr hb ht] at hq
        split at hq
        · rename_i h
          cases hq
          exact hm.resolve_left h.1
        · cases hq

/-- Next to accepted default classes, a target has no problem exactly when it is accepted. -/
theorem targetProblems_eq_nil_iff {annotations : Annotations}
    (hd : AcceptsDefaultClass index annotations.defaultClasses) :
    targetProblems index inspect (defaultClassOf index annotations) target = [] ↔
      AcceptsTarget index inspect annotations.defaultClasses target := by
  unfold targetProblems AcceptsTarget
  rw [ne_eq, Text.strip_eq_empty_iff, ← hasParentheses_iff]
  cases hb : Text.isBlankText target with
  | true => simp
  | false =>
    rw [← acceptsReference_iff rfl hb hd.fallback]
    cases hasParentheses target.toList <;> simp

end Targets

/-! ## Tests without violations -/

/-- A type that an accepted reference names is a class of the index. -/
theorem AcceptsReference.typeExists {declared : List String} {ref : Reference}
    (h : AcceptsReference index inspect declared ref) (hne : ref.typeName ≠ "") :
    index.typeExists ref.typeName = true := by
  cases h with
  | type ht he hm => exact he
  | function ht hd hf => exact absurd ht hne
  | fallback ht hd hm => exact absurd ht hne

/-- Neither interfaces nor unknown names are classes. -/
theorem typeExists_eq_false {name : String}
    (h : index.isInterface name = true ∨ index.lookup name = none) :
    index.typeExists name = false := by
  unfold SymbolIndex.isInterface at h
  unfold SymbolIndex.typeExists
  cases hl : index.lookup name with
  | none => rfl
  | some symbol =>
    rw [hl] at h
    obtain h | h := h
    · simp [h]
    · cases h

theorem violations_eq_nil_iff_accepts (index : SymbolIndex) (inspect : SymbolIndex.Inspection)
    (annotations : Annotations) (test : TestCase) :
    violations index inspect annotations test = [] ↔
      AcceptsDefaultClass index annotations.defaultClasses ∧
        ∀ target ∈ annotations.covers,
          AcceptsTarget index inspect annotations.defaultClasses target := by
  unfold violations problems
  rw [List.map_eq_nil_iff, List.append_eq_nil_iff, List.flatMap_eq_nil_iff,
    defaultClassProblems_eq_nil_iff]
  exact and_congr_right fun hd => forall₂_congr fun target _ => targetProblems_eq_nil_iff hd

/-- **Exact acceptance.** A test has no violation exactly when its default class is accepted, and
every one of its targets, whatever is known about classes outside of the index. A target that names
an interface, or no class of the index, is a violation whatever else is declared. -/
theorem violations_eq_nil_iff (index : SymbolIndex) (inspect : SymbolIndex.Inspection)
    (annotations : Annotations) (test : TestCase) :
    (violations index inspect annotations test = [] ↔
      AcceptsDefaultClass index annotations.defaultClasses ∧
        ∀ target ∈ annotations.covers,
          AcceptsTarget index inspect annotations.defaultClasses target) ∧
    ∀ target ∈ annotations.covers, (Reference.parse target).typeName ≠ "" →
      (index.isInterface (Reference.parse target).typeName = true ∨
        index.lookup (Reference.parse target).typeName = none) →
      violations index inspect annotations test ≠ [] := by
  have hiff := violations_eq_nil_iff_accepts index inspect annotations test
  refine ⟨hiff, fun target hmem hne hbad hnone => ?_⟩
  obtain ⟨-, -, href⟩ := (hiff.mp hnone).2 target hmem
  have he := href.typeExists hne
  rw [typeExists_eq_false hbad] at he
  cases he

/-- A method of the default class is accepted, and a method of an interface is not. A member of a
class that derives from a builtin is accepted exactly if the builtin is known to have it. -/
theorem violations_of_method_and_interface :
    let index :=
      (((SymbolIndex.empty []).addType { name := "shop.Cart", methods := ["add"] }).addType
        { name := "shop.Port", methods := ["add"], isInterface := true }).addType
        { name := "shop.Lost", bases := ["shop.RuntimeError"], module := "shop" }
    let inspect : SymbolIndex.Inspection := fun name member =>
      if name = "RuntimeError" then some (member = "args") else none
    let test : TestCase := { identifier := "t::test_add", name := "test_add" }
    violations index inspect { defaultClasses := ["shop.Cart"], covers := ["::add"] } test = [] ∧
      violations index inspect { covers := ["shop.Port::add"] } test ≠ [] ∧
      violations index inspect { covers := ["shop.Lost::args"] } test = [] ∧
      violations index inspect { covers := ["shop.Lost::nope"] } test ≠ [] := by
  intro index inspect test
  have hargs : AcceptsTarget index inspect [] "shop.Lost::args" :=
    ⟨by decide +kernel, by decide +kernel, .type (by decide +kernel) (by decide +kernel)
      (.inr ⟨.present, by decide +kernel, rfl⟩)⟩
  have hnope : ¬ AcceptsTarget index inspect [] "shop.Lost::nope" := by
    rintro ⟨-, -, ⟨-, -, hm | ⟨search, hs, hh⟩⟩ | ⟨ht, -, -⟩ | ⟨ht, -, -⟩⟩
    · exact absurd hm (by decide +kernel)
    · have habsent : index.findMemberBy inspect (Reference.parse "shop.Lost::nope").typeName
          (Reference.parse "shop.Lost::nope").memberName = some .absent := by decide +kernel
      rw [habsent] at hs
      cases hs
      cases hh
    · exact absurd ht (by decide +kernel)
    · exact absurd ht (by decide +kernel)
  refine ⟨?_, ?_, ?_, ?_⟩
  · refine (violations_eq_nil_iff index inspect _ test).1.mpr
      ⟨.inr ⟨"shop.Cart", rfl, by decide⟩, ?_⟩
    refine List.forall_mem_singleton.mpr ⟨by decide, by decide, .fallback (by decide) rfl ?_⟩
    exact .inr ⟨.present, by decide, rfl⟩
  · exact (violations_eq_nil_iff index inspect _ test).2 _ List.mem_cons_self (by decide)
      (.inl (by decide))
  · exact (violations_eq_nil_iff index inspect _ test).1.mpr
      ⟨.inl rfl, List.forall_mem_singleton.mpr hargs⟩
  · exact fun hnone => hnope (((violations_eq_nil_iff index inspect _ test).1.mp hnone).2 _
      List.mem_cons_self)

/-! ## What violations say -/

theorem tag_of_mem_defaultClassProblems {problem : Problem} {declared : List String}
    (h : problem ∈ defaultClassProblems index declared) :
    declared ≠ [] ∧ problem.tag = "@coversDefaultClass" := by
  cases declared with
  | nil => cases h
  | cons name rest =>
    refine ⟨List.cons_ne_nil name rest, ?_⟩
    unfold defaultClassProblems at h
    grind [Problem.tag]

theorem tag_of_mem_targetProblems {problem : Problem} {fallback : DefaultClass} {target : String}
    (h : problem ∈ targetProblems index inspect fallback target) : problem.tag = "@covers" := by
  unfold targetProblems at h
  split at h
  · rw [List.mem_singleton.mp h]
    rfl
  obtain h | h := List.mem_append.mp h
  · obtain h | h := List.mem_append.mp h
    · split at h
      · rw [List.mem_singleton.mp h]
        rfl
      · cases h
    · unfold nameProblems at h
      grind [Problem.tag]
  · unfold memberProblems at h
    grind [Problem.tag]

/-- A violation is one of the test that was checked, and begins with an annotation that the test
declares. -/
theorem declared_of_mem_violations {annotations : Annotations} {test : TestCase}
    {violation : Violation} (h : violation ∈ violations index inspect annotations test) :
    violation.test = test.identifier ∧
      (annotations.defaultClasses ≠ [] ∧
          (∃ words, violation.message = "@coversDefaultClass " ++ words) ∨
        annotations.covers ≠ [] ∧ ∃ words, violation.message = "@covers " ++ words) := by
  obtain ⟨problem, hproblem, rfl⟩ := List.mem_map.mp h
  obtain ⟨opening, closing, hmessage⟩ := problem.exists_message_eq
  have hwords : problem.message =
      problem.tag ++ " " ++ (opening ++ problem.culprit ++ closing) := by
    rw [hmessage]
    simp only [String.append_assoc]
  refine ⟨rfl, ?_⟩
  obtain hproblem | hproblem := List.mem_append.mp hproblem
  · obtain ⟨hdeclared, htag⟩ := tag_of_mem_defaultClassProblems hproblem
    rw [htag] at hwords
    exact .inl ⟨hdeclared, _, hwords⟩
  · obtain ⟨target, htarget, hproblem⟩ := List.mem_flatMap.mp hproblem
    rw [tag_of_mem_targetProblems hproblem] at hwords
    exact .inr ⟨List.ne_nil_of_mem htarget, _, hwords⟩

end CoverAudit.Check
