import CoverAudit.Audit.Dispatcher
import CoverAudit.Audit.Validation
import CoverAudit.Proofs.Audit.Acceptance

/-!
# Violations in blocks

What a validation reports is a part about the default class, followed by one block for each target.
A block is a function of the target, the first default class and the resolver, so no target has a
say in what is reported about another. Whatever a sink does with violations, a validation has the
effect of handing it the returned ones in order.

* `defaultClassPart`, `followUp?`, `block`: what is reported about the default class, about the
  symbols of a target, and about a target.
* `settleDefaultClass_eq`, `checkReference_eq`, `checkTarget_eq`: each step of a validation reports
  its part, in any monad.
* `run_report`, `run_forM_report`: what is kept and what the sink is handed stay the same.
* `check_eq_handOver`: a validation hands over its parts, one behind the other.
* `violations_eq_parts`, `dispatcher_check_eq`: with an index, the parts are those of a check, and
  a dispatcher does what a validation does.
* `check_eq_blocks`: the above, with how much there is in each part.
-/

namespace CoverAudit.Validation

/-! ## The parts -/

/-- What targets without a type fall back to, by the first default class. -/
def fallbackOf (resolver : Resolver) : Option String → Check.DefaultClass
  | none => {}
  | some name => { name, isValid := resolver.typeExists name }

/-- What is wrong with a default class that is looked up. -/
def defaultClassProblem? (resolver : Resolver) (name : String) : Option Problem :=
  if resolver.typeExists name then none
  else if resolver.isInterface name then some (.defaultClassIsInterface name)
  else some (.defaultClassMissing name)

/-- What is wrong with the declared default classes. -/
def defaultClassPart (resolver : Resolver) : List String → List Problem
  | [] => []
  | name :: rest =>
    (if rest.isEmpty then [] else [.manyDefaultClasses]) ++
      (defaultClassProblem? resolver name).toList

/-- What is wrong with a member of a class that exists. -/
def memberProblem? (resolver : Resolver) (typeName member : String) : Option Problem :=
  if !member.isEmpty && !resolver.memberExists typeName member then
    some (.methodMissing typeName member)
  else none

/-- What is wrong with the symbols that a target names. One cause has one problem: the member is
only looked at when the type is known to exist. -/
def followUp? (resolver : Resolver) (fallback : Check.DefaultClass) (target : String) :
    Option Problem :=
  let ref := Reference.parse target
  if !ref.typeName.isEmpty then
    if resolver.typeExists ref.typeName then memberProblem? resolver ref.typeName ref.memberName
    else if ref.memberName.isEmpty then some (.noSeparator target)
    else if resolver.isInterface ref.typeName then some (.typeIsInterface ref.typeName)
    else some (.typeMissing ref.typeName)
  else if fallback.name.isEmpty then
    if resolver.functionExists ref.memberName then none
    else some (.functionMissing ref.memberName)
  else if fallback.isValid then memberProblem? resolver fallback.name ref.memberName
  else none

/-- What is wrong with a target, next to the first default class. -/
def block (resolver : Resolver) (first : Option String) (target : String) : List Problem :=
  if Text.isBlankText target then [.emptyTarget]
  else
    (if Check.hasParentheses target.toList then [.parentheses] else []) ++
      (followUp? resolver (fallbackOf resolver first) target).toList

/-- What is wrong with the annotations of a test: the part about the default classes, and the blocks
of the targets. -/
def parts (resolver : Resolver) (annotations : Annotations) : List Problem :=
  defaultClassPart resolver annotations.defaultClasses ++
    annotations.covers.flatMap (block resolver annotations.defaultClasses.head?)

variable {resolver : Resolver}

theorem length_defaultClassPart_le (defaultClasses : List String) :
    (defaultClassPart resolver defaultClasses).length ≤ 2 := by
  cases defaultClasses with
  | nil => exact Nat.zero_le 2
  | cons name rest =>
    have hname : (defaultClassProblem? resolver name).toList.length ≤ 1 :=
      Option.length_toList_le
    cases rest with
    | nil => exact Nat.le_succ_of_le hname
    | cons second rest => exact Nat.succ_le_succ hname

/-- A block goes beyond one problem only by the parentheses of its target. -/
theorem length_block_le (first : Option String) (target : String) :
    (block resolver first target).length ≤ 2 ∧
      ((block resolver first target).length = 2 →
        ['(', ')'] <:+: target.toList ∧ Text.strip target ≠ "") := by
  have hfollow : (followUp? resolver (fallbackOf resolver first) target).toList.length ≤ 1 :=
    Option.length_toList_le
  rw [ne_eq, Text.strip_eq_empty_iff, ← Check.hasParentheses_iff]
  unfold block
  cases Text.isBlankText target with
  | true => simp
  | false =>
    cases Check.hasParentheses target.toList with
    | true => simp
    | false => simp; omega

/-! ## What the steps report -/

section Steps

variable {m : Type → Type} [Monad m] [LawfulMonad m] {fail : Problem → m Unit}

theorem settleDefaultClass_eq (defaultClasses : List String) :
    settleDefaultClass resolver fail defaultClasses = do
      forM (defaultClassPart resolver defaultClasses) fail
      return fallbackOf resolver defaultClasses.head? := by
  cases defaultClasses with
  | nil => simp [settleDefaultClass, defaultClassPart, fallbackOf]
  | cons name rest =>
    unfold settleDefaultClass defaultClassPart defaultClassProblem? fallbackOf
    cases he : resolver.typeExists name with
    | true => cases rest <;> simp [he]
    | false => cases hi : resolver.isInterface name <;> cases rest <;> simp [he, hi]

theorem forM_memberProblem? (typeName member : String) :
    forM (memberProblem? resolver typeName member).toList fail =
      if !member.isEmpty && !resolver.memberExists typeName member then
        fail (.methodMissing typeName member)
      else pure () := by
  unfold memberProblem?
  split <;> simp

/-- No path through the symbols of a target reports twice. -/
theorem checkReference_eq (fallback : Check.DefaultClass) (target : String) :
    checkReference resolver fallback fail target =
      forM (followUp? resolver fallback target).toList fail := by
  unfold checkReference followUp?
  generalize Reference.parse target = ref
  by_cases ht : ref.typeName = ""
  · by_cases hn : fallback.name = ""
    · cases hf : resolver.functionExists ref.memberName <;> simp [ht, hn, hf]
    · cases fallback.isValid <;> simp [ht, hn, forM_memberProblem?]
  · cases he : resolver.typeExists ref.typeName with
    | true => simp [ht, he, forM_memberProblem?]
    | false =>
      by_cases hm : ref.memberName = ""
      · simp [ht, he, hm]
      · cases hi : resolver.isInterface ref.typeName <;> simp [ht, he, hm, hi]

theorem checkTarget_eq (first : Option String) (target : String) :
    checkTarget resolver (fallbackOf resolver first) fail target =
      forM (block resolver first target) fail := by
  unfold checkTarget block
  split
  · simp
  · rw [List.forM_append, checkReference_eq]
    split <;> simp

/-- Going through targets reports their blocks. -/
theorem forM_checkTarget (first : Option String) (covers : List String) :
    covers.forM (checkTarget resolver (fallbackOf resolver first) fail) =
      forM (covers.flatMap (block resolver first)) fail := by
  induction covers with
  | nil => rfl
  | cons target rest ih =>
    rw [List.flatMap_cons, List.forM_append, ← checkTarget_eq, ← ih]
    rfl

end Steps

/-! ## What the sink is handed -/

section Sink

variable {m : Type → Type} [Monad m] {sink : TestCase → Violation → m Unit} {test : TestCase}

/-- Hands violations to a sink in order, and returns them. -/
def handOver (sink : TestCase → Violation → m Unit) (test : TestCase) (found : List Violation) :
    m (List Violation) := do
  forM found (sink test)
  return found

/-- A sink that writes down what it is handed. -/
def logged (test : TestCase) (violation : Violation) : StateM (List (TestCase × Violation)) Unit :=
  modify (· ++ [(test, violation)])

theorem run_handOver_logged (found : List Violation) (log : List (TestCase × Violation)) :
    (handOver logged test found).run log = (found, log ++ found.map (test, ·)) := by
  have hlog : ((forM found (logged test)).run log).2 = log ++ found.map (test, ·) := by
    induction found generalizing log with
    | nil => exact (List.append_nil log).symm
    | cons violation rest ih =>
      show ((forM rest (logged test)).run (log ++ [(test, violation)])).2 = _
      rw [ih, List.append_assoc]
      rfl
  exact congrArg (found, ·) hlog

variable [LawfulMonad m]

theorem handOver_append (before behind : List Violation) :
    handOver sink test (before ++ behind) = do
      let first ← handOver sink test before
      let second ← handOver sink test behind
      return first ++ second := by
  simp [handOver]

theorem run_report (problem : Problem) (found : List Violation) :
    (report sink test problem).run found = do
      sink test (problem.violationOf test)
      return ((), found ++ [problem.violationOf test]) := by
  simp [report]

/-- What is kept and what the sink is handed stay the same, problem by problem. -/
theorem run_forM_report (problems : List Problem) (found : List Violation) :
    (forM problems (report sink test)).run found = do
      forM (problems.map (·.violationOf test)) (sink test)
      return ((), found ++ problems.map (·.violationOf test)) := by
  induction problems generalizing found with
  | nil => simp
  | cons problem rest ih => simp [run_report, ih]

/-- A validation hands over its parts, one behind the other. -/
theorem check_eq_handOver (annotations : Annotations) :
    check resolver sink test annotations =
      handOver sink test ((parts resolver annotations).map (·.violationOf test)) := by
  unfold check handOver parts
  simp only [settleDefaultClass_eq, bind_assoc, pure_bind, forM_checkTarget]
  rw [← List.forM_append, run_forM_report]
  simp

end Sink

/-! ## Indexes -/

section Index

variable {index : SymbolIndex} {inspect : SymbolIndex.Inspection}

theorem defaultClassPart_resolver (defaultClasses : List String) :
    defaultClassPart (index.resolver inspect) defaultClasses =
      Check.defaultClassProblems index defaultClasses := by
  cases defaultClasses with
  | nil => rfl
  | cons name rest =>
    unfold defaultClassPart defaultClassProblem? Check.defaultClassProblems
    cases he : index.typeExists name with
    | true => simp [he]
    | false => cases hi : index.isInterface name <;> simp [he, hi]

theorem fallbackOf_resolver (annotations : Annotations) :
    fallbackOf (index.resolver inspect) annotations.defaultClasses.head? =
      Check.defaultClassOf index annotations := by
  unfold fallbackOf Check.defaultClassOf Annotations.defaultClass
  rfl

theorem memberProblem?_resolver {fallback : Check.DefaultClass} {target typeName member : String}
    (hq : Check.memberQuery index fallback target =
      if member = "" then none else some (typeName, member)) :
    (memberProblem? (index.resolver inspect) typeName member).toList =
      Check.memberProblems index inspect fallback target := by
  unfold memberProblem? Check.memberProblems
  rw [hq]
  by_cases hm : member = ""
  · simp [hm]
  · cases hx : Check.memberExists index inspect typeName member <;> simp [hm, hx]

theorem followUp?_resolver {fallback : Check.DefaultClass} {target : String}
    (hb : Text.isBlankText target = false) :
    (followUp? (index.resolver inspect) fallback target).toList =
      Check.nameProblems index fallback target ++
        Check.memberProblems index inspect fallback target := by
  obtain ⟨ref, hr⟩ : ∃ ref, Reference.parse target = ref := ⟨_, rfl⟩
  unfold followUp? Check.nameProblems
  simp only [hr]
  by_cases ht : ref.typeName = ""
  · have hq : Check.memberQuery index fallback target = _ :=
      Check.memberQuery_of_fallback hr hb ht
    by_cases hn : fallback.name = ""
    · have hnone : Check.memberProblems index inspect fallback target = [] := by
        simp [Check.memberProblems, hq, hn]
      cases hf : index.functionExists ref.memberName <;>
        simp [ht, hn, hf, hnone]
    · cases hv : fallback.isValid with
      | false => simp [ht, hn, Check.memberProblems, hq, hv]
      | true =>
        have hmember : (memberProblem? (index.resolver inspect) fallback.name
            ref.memberName).toList = Check.memberProblems index inspect fallback target :=
          memberProblem?_resolver (hq.trans (by simp [hn, hv]))
        simp [ht, hn, hmember]
  · cases he : index.typeExists ref.typeName with
    | true =>
      have hq : Check.memberQuery index fallback target = _ :=
        Check.memberQuery_of_type hr hb ht he
      have hmember : (memberProblem? (index.resolver inspect) ref.typeName
          ref.memberName).toList = Check.memberProblems index inspect fallback target :=
        memberProblem?_resolver hq
      simp [ht, he, hmember]
    | false =>
      have hnone : Check.memberProblems index inspect fallback target = [] := by
        simp [Check.memberProblems, Check.memberQuery, hr, hb, ht, he]
      by_cases hm : ref.memberName = ""
      · simp [ht, he, hm, hnone]
      · cases hi : index.isInterface ref.typeName <;>
          simp [ht, he, hm, hi, hnone]

theorem block_resolver (annotations : Annotations) (target : String) :
    block (index.resolver inspect) annotations.defaultClasses.head? target =
      Check.targetProblems index inspect (Check.defaultClassOf index annotations) target := by
  unfold block Check.targetProblems
  cases hb : Text.isBlankText target with
  | true => simp
  | false => simp [fallbackOf_resolver, followUp?_resolver hb]

theorem violations_eq_parts (index : SymbolIndex) (inspect : SymbolIndex.Inspection)
    (annotations : Annotations) (test : TestCase) :
    Check.violations index inspect annotations test =
      (parts (index.resolver inspect) annotations).map (·.violationOf test) := by
  have hblock : block (index.resolver inspect) annotations.defaultClasses.head? =
      Check.targetProblems index inspect (Check.defaultClassOf index annotations) :=
    funext (block_resolver annotations)
  unfold parts
  rw [defaultClassPart_resolver, hblock]
  rfl

/-- A dispatcher checks a test by a validation that hands violations to its collector. -/
theorem dispatcher_check_eq (dispatcher : Dispatcher) (test : TestCase) :
    dispatcher.check test = (do
      let annotations ← dispatcher.read test
      Dispatcher.note (Check.log dispatcher.index dispatcher.inspect annotations)
      let violations ← check (dispatcher.index.resolver dispatcher.inspect) Dispatcher.record test
        annotations
      Dispatcher.note (Checker.summary test violations)) := by
  unfold Dispatcher.check
  simp only [check_eq_handOver, handOver, violations_eq_parts, bind_assoc, pure_bind,
    List.forM_eq_forM]

end Index

/-! ## Whole validations -/

/-- **Targets are judged one by one.** What a validation returns is a part about the default
classes, of at most two violations, followed by one block for each target, in the order of the
targets. A block depends on its target, the first default class and the resolver, so more targets
only add blocks behind, and targets in another order have their blocks in that order. A block has at
most two violations, and two only for a target with `()` that is not blank. Whatever the sink does,
the validation has the effect of handing it the returned violations in order, each with the
identifier of the test. With an index, and whatever is known about classes outside of it, they are
the violations that a check finds. -/
theorem check_eq_blocks (resolver : Resolver) (test : TestCase) (defaultClasses : List String) :
    let opening := (defaultClassPart resolver defaultClasses).map (·.violationOf test)
    let blockOf := fun target =>
      (block resolver defaultClasses.head? target).map (·.violationOf test)
    let found := fun covers : List String => opening ++ (covers.map blockOf).flatten
    -- The size of the parts.
    opening.length ≤ 2 ∧
      (∀ target, (blockOf target).length ≤ 2 ∧
        ((blockOf target).length = 2 → ['(', ')'] <:+: target.toList ∧ Text.strip target ≠ "")) ∧
      -- What is returned, and what any sink is handed meanwhile.
      (∀ (m : Type → Type) [Monad m] [LawfulMonad m] (sink : TestCase → Violation → m Unit),
        (∀ covers, check resolver sink test ⟨defaultClasses, covers⟩ =
          handOver sink test (found covers)) ∧
        (∀ covers behind, check resolver sink test ⟨defaultClasses, covers ++ behind⟩ = do
          let before ← check resolver sink test ⟨defaultClasses, covers⟩
          let blocks ← handOver sink test (behind.map blockOf).flatten
          return before ++ blocks) ∧
        ∀ covers reordered : List String, covers.Perm reordered →
          ∃ blocks, (covers.map blockOf).Perm blocks ∧
            check resolver sink test ⟨defaultClasses, reordered⟩ =
              handOver sink test (opening ++ blocks.flatten)) ∧
      (∀ covers log, (check resolver logged test ⟨defaultClasses, covers⟩).run log =
        (found covers, log ++ (found covers).map (test, ·))) ∧
      (∀ covers, ∀ violation ∈ found covers, violation.test = test.identifier) ∧
      ∀ index inspect covers, resolver = SymbolIndex.resolver index inspect →
        found covers = Check.violations index inspect ⟨defaultClasses, covers⟩ test := by
  intro opening blockOf found
  have hfound (covers : List String) : found covers =
      (parts resolver ⟨defaultClasses, covers⟩).map (·.violationOf test) := by
    rw [parts, List.map_append, List.map_flatMap, List.flatMap_def]
  have hcheck {m : Type → Type} [Monad m] [LawfulMonad m] (sink : TestCase → Violation → m Unit)
      (covers : List String) : check resolver sink test ⟨defaultClasses, covers⟩ =
        handOver sink test (found covers) := by
    rw [check_eq_handOver, hfound]
  refine ⟨?_, fun target => ?_, fun m _ _ sink => ⟨hcheck sink, fun covers behind => ?_, ?_⟩,
    fun covers log => ?_, fun covers violation hv => ?_, fun index inspect covers hi => ?_⟩
  · rw [List.length_map]
    exact length_defaultClassPart_le defaultClasses
  · rw [List.length_map]
    exact length_block_le _ target
  · rw [hcheck, hcheck, ← handOver_append, List.append_assoc, ← List.flatten_append,
      ← List.map_append]
  · intro covers reordered hperm
    exact ⟨reordered.map blockOf, hperm.map blockOf, hcheck sink reordered⟩
  · rw [hcheck, run_handOver_logged]
  · rw [hfound, List.mem_map] at hv
    obtain ⟨problem, -, rfl⟩ := hv
    rfl
  · subst hi
    rw [hfound, violations_eq_parts]

/-- Knows the class `m.A`, which has no members. -/
def soleClass : Resolver where
  typeExists name := name == "m.A"
  isInterface _ := false
  functionExists _ := false
  memberExists _ _ := false

/-- Both parts of the first target come before the blank one. -/
theorem check_logged_soleClass :
    let test : TestCase := { name := "test_a", identifier := "t.py::test_a" }
    let found : List Violation :=
      ["@coversDefaultClass has too many values", "@covers invalid syntax: Do not use '()'",
        "@covers method does not exist m.A::f()", "@covers should not be empty"].map
          (⟨·, "t.py::test_a"⟩)
    (check soleClass logged test ⟨["m.A", "m.B"], ["m.A::f()", " "]⟩).run [] =
      (found, found.map (test, ·)) := by
  intro test found
  obtain ⟨-, -, -, hlogged, -⟩ := check_eq_blocks soleClass test ["m.A", "m.B"]
  rw [hlogged]
  exact Prod.ext (by decide) (by decide)

end CoverAudit.Validation
