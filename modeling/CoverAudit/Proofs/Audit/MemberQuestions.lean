import CoverAudit.Audit.Inquiry
import CoverAudit.Proofs.Audit.Blocks

/-!
# Questions about members

A question about the members of a name that stands for no class is an error. A validation never asks
one: before it asks for a member, it has found the class to exist, be it the type that a target
names or the default class in its place.

* `typeExists_of_memberQuery`: the class of a question about a member exists.
* `Asks`: an action does what a plain one does, does not fail, and asks some questions besides. It
  is kept by sequences of actions (`Asks.bind`).
* `asks_checkReference`, `asks_checkTarget`: what one target asks.
* `check_asks_known_classes`: what a whole validation asks, and that it returns.
-/

namespace CoverAudit

section Fields

variable {m : Type → Type} [Monad m] (index : SymbolIndex) (inspect : SymbolIndex.Inspection)
  (name : String)

@[simp] theorem SymbolIndex.typeExists_questions :
    (index.questions inspect : Questions (Asking m)).typeExists name =
      pure (index.typeExists name) := rfl

@[simp] theorem SymbolIndex.isInterface_questions :
    (index.questions inspect : Questions (Asking m)).isInterface name =
      pure (index.isInterface name) := rfl

@[simp] theorem SymbolIndex.functionExists_questions :
    (index.questions inspect : Questions (Asking m)).functionExists name =
      pure (index.functionExists name) := rfl

end Fields

namespace Inquiry

variable {index : SymbolIndex} {inspect : SymbolIndex.Inspection}

/-! ## What is asked -/

/-- The questions about members that the annotations of a test raise, as class and member. -/
def asked (index : SymbolIndex) (annotations : Annotations) : List (String × String) :=
  annotations.covers.filterMap
    (Check.memberQuery index (Check.defaultClassOf index annotations))

/-- What targets fall back to is a class whenever it is taken for one. -/
def Sound (index : SymbolIndex) (fallback : Check.DefaultClass) : Prop :=
  fallback.isValid = true → index.typeExists fallback.name = true

theorem sound_defaultClassOf (index : SymbolIndex) (annotations : Annotations) :
    Sound index (Check.defaultClassOf index annotations) := by
  unfold Sound Check.defaultClassOf
  cases annotations.defaultClass with
  | none => intro h; cases h
  | some name => exact id

theorem exists_class_of_typeExists {name : String} (h : index.typeExists name = true) :
    ∃ symbol, index.lookup name = some symbol ∧ symbol.isInterface = false := by
  unfold SymbolIndex.typeExists at h
  cases hl : index.lookup name with
  | none => rw [hl] at h; cases h
  | some symbol => rw [hl] at h; exact ⟨symbol, rfl, by simpa using h⟩

/-- Members are only asked of classes: of the type that a target names, once it is known to exist,
or of a default class that is valid. -/
theorem typeExists_of_memberQuery {fallback : Check.DefaultClass} (hs : Sound index fallback)
    {target : String} {query : String × String}
    (hq : Check.memberQuery index fallback target = some query) :
    index.typeExists query.1 = true := by
  unfold Check.memberQuery at hq
  simp only [Option.ite_none_left_eq_some] at hq
  obtain ⟨-, -, hq⟩ := hq
  split at hq
  · split at hq
    · cases hq
      assumption
    · cases hq
  · split at hq
    · rename_i hvalid
      cases hq
      exact hs (Bool.and_eq_true_iff.mp hvalid).2
    · cases hq

/-! ## Actions that do not fail -/

section Actions

variable {m : Type → Type} [Monad m] [LawfulMonad m] {σ α β : Type}

/-- `action` does what `plain` does: it does not fail, and what it asks besides is `asked`. -/
def Asks (action : StateT σ (Asking m) α) (asked : List (String × String))
    (plain : StateT σ m α) : Prop :=
  ∀ state log, ((action.run state).run).run log =
    (fun result => (.ok result, log ++ asked)) <$> plain.run state

theorem run_liftM (action : m α) (log : List (String × String)) :
    (ExceptT.run (liftM action : Asking m α)).run log =
      (fun value => (.ok value, log)) <$> action := by
  show (ExceptT.run (ExceptT.lift (StateT.lift action))).run log = _
  simp

theorem run_modify (change : List (String × String) → List (String × String))
    (log : List (String × String)) :
    (ExceptT.run (modify change : Asking m Unit)).run log = pure (.ok (), change log) := by
  show (ExceptT.run (ExceptT.lift (modify change : StateT _ m Unit))).run log = _
  simp

theorem Asks.pure (value : α) :
    Asks (Pure.pure value : StateT σ (Asking m) α) [] (Pure.pure value) := by
  intro state log
  simp

theorem Asks.bind {action : StateT σ (Asking m) α} {plain : StateT σ m α}
    {next : α → StateT σ (Asking m) β} {plainNext : α → StateT σ m β}
    {first second : List (String × String)} (h : Asks action first plain)
    (hnext : ∀ value, Asks (next value) second (plainNext value)) :
    Asks (action >>= next) (first ++ second) (plain >>= plainNext) := by
  intro state log
  have hrun := h state log
  simp only [StateT.run_bind, ExceptT.run_bind, hrun]
  simp [hnext _ _ _]

theorem Asks.modify (change : σ → σ) :
    Asks (modify change : StateT σ (Asking m) Unit) [] (modify change) := by
  intro state log
  rw [StateT.run_modify, StateT.run_modify, ExceptT.run_pure, StateT.run_pure, List.append_nil,
    map_pure]

/-- An action that knows nothing of questions asks none. -/
theorem Asks.lift (action : m α) :
    Asks (liftM (liftM action : Asking m α) : StateT σ (Asking m) α) [] (liftM action) := by
  intro state log
  show (ExceptT.run ((liftM action : Asking m α) >>= fun value =>
    Pure.pure (value, state))).run log = _ <$> (action >>= fun value => Pure.pure (value, state))
  rw [ExceptT.run_bind, StateT.run_bind, run_liftM]
  simp

/-- An action that does not fail leaves the state of the plain one. -/
theorem Asks.run_state {action : StateT σ (Asking m) α} {asked : List (String × String)}
    {plain : StateT σ m α} (h : Asks action asked plain) (state : σ)
    (log : List (String × String)) :
    (do let (_, after) ← action.run state; return after : Asking m σ).run.run log = (do
      let (_, after) ← plain.run state
      return (.ok after, log ++ asked)) := by
  simp [h state log, Except.map]

end Actions

/-! ## Validations that ask an index -/

section Steps

variable {m : Type → Type} [Monad m] [LawfulMonad m] (sink : TestCase → Violation → m Unit)
  (test : TestCase)

/-- A sink that does not fail, among actions that may. -/
def lifted (sink : TestCase → Violation → m Unit) (test : TestCase) (violation : Violation) :
    Asking m Unit :=
  liftM (sink test violation)

theorem asks_report (problem : Problem) :
    Asks (Validation.report (lifted sink) test problem) []
      (Validation.report sink test problem) :=
  (Asks.modify fun found => found ++ [problem.violationOf test]).bind fun _ =>
    .lift (sink test (problem.violationOf test))

theorem asks_forM_report (problems : List Problem) :
    Asks (forM problems (Validation.report (lifted sink) test)) []
      (forM problems (Validation.report sink test)) := by
  induction problems with
  | nil => exact .pure ()
  | cons problem rest ih =>
    simp only [List.forM_cons]
    exact (asks_report sink test problem).bind fun _ => ih

variable (inspect : SymbolIndex.Inspection)

/-- The default class is settled without a question about members. -/
theorem settleDefaultClass_questions (index : SymbolIndex) (defaultClasses : List String) :
    settleDefaultClass (index.questions inspect : Questions (Asking m))
        (Validation.report (lifted sink) test) defaultClasses =
      Validation.settleDefaultClass (index.resolver inspect)
        (Validation.report (lifted sink) test) defaultClasses := by
  cases defaultClasses with
  | nil => rfl
  | cons name rest =>
    unfold settleDefaultClass Validation.settleDefaultClass
    cases he : index.typeExists name <;> cases hi : index.isInterface name <;> simp [he, hi]

/-- A question about a member of a class is written down and has the answer of the index. -/
theorem run_memberExists {typeName : String} (h : index.typeExists typeName = true)
    (member : String) (log : List (String × String)) :
    ((index.questions inspect).memberExists typeName member : Asking m Bool).run.run log =
      pure (.ok ((index.resolver inspect).memberExists typeName member),
        log ++ [(typeName, member)]) := by
  obtain ⟨symbol, hl, -⟩ := exists_class_of_typeExists h
  have hfound : index.findMemberBy inspect typeName member =
      some (index.searchMember inspect symbol member) := by
    simp [SymbolIndex.findMemberBy, hl]
  have hanswer : Check.memberExists index inspect typeName member =
      (index.searchMember inspect symbol member).holds := by
    rw [Check.memberExists, hfound]
  simp only [SymbolIndex.questions, SymbolIndex.memberExists_resolver, hanswer, hfound,
    ExceptT.run_bind, StateT.run_bind, run_modify, pure_bind]
  rfl

theorem asks_memberExists {typeName : String} (h : index.typeExists typeName = true)
    (member : String) :
    Asks (liftM ((index.questions inspect).memberExists typeName member : Asking m Bool) :
        StateT (List Violation) (Asking m) Bool)
      [(typeName, member)]
      (pure ((index.resolver inspect).memberExists typeName member)) := by
  intro found log
  show (ExceptT.run ((StateT.lift ((index.questions inspect).memberExists typeName member)).run
    found)).run log = _
  rw [StateT.run_lift, ExceptT.run_bind, StateT.run_bind, run_memberExists inspect h, pure_bind,
    StateT.run_pure, map_pure]
  rfl

/-- The last step of a target whose class exists: its member, when it names one. -/
theorem asks_member {typeName : String} (h : index.typeExists typeName = true)
    (member : String) :
    Asks
      (if member = "" then pure ()
        else do
          let holds ← liftM ((index.questions inspect).memberExists typeName member : Asking m Bool)
          if holds = false then
            Validation.report (lifted sink) test (.methodMissing typeName member)
          else pure ())
      (if member = "" then none else some (typeName, member)).toList
      (if ¬ member = "" ∧ (index.resolver inspect).memberExists typeName member = false then
        Validation.report sink test (.methodMissing typeName member)
      else pure ()) := by
  by_cases hm : member = ""
  · simpa [hm] using Asks.pure ()
  · have hreport (holds : Bool) :
        Asks (if holds = false then
            Validation.report (lifted sink) test (.methodMissing typeName member) else pure ()) []
          (if holds = false then Validation.report sink test (.methodMissing typeName member)
            else pure ()) := by
      cases holds with
      | true => exact .pure ()
      | false => exact asks_report sink test _
    simpa [hm, -SymbolIndex.memberExists_resolver] using
      (asks_memberExists inspect h member).bind hreport

variable {fallback : Check.DefaultClass} (hs : Sound index fallback)

include hs

/-- A target that is not blank asks at most one question about a member, and only of a class. -/
theorem asks_checkReference {target : String} (hb : Text.isBlankText target = false) :
    Asks (checkReference (index.questions inspect : Questions (Asking m)) fallback
        (Validation.report (lifted sink) test) target)
      (Check.memberQuery index fallback target).toList
      (Validation.checkReference (index.resolver inspect) fallback
        (Validation.report sink test) target) := by
  obtain ⟨ref, hr⟩ : ∃ ref, Reference.parse target = ref := ⟨_, rfl⟩
  unfold checkReference Validation.checkReference
  simp only [hr]
  by_cases ht : ref.typeName = ""
  · rw [Check.memberQuery_of_fallback hr hb ht]
    by_cases hn : fallback.name = ""
    · cases hf : index.functionExists ref.memberName with
      | true => simpa [ht, hn, hf] using Asks.pure ()
      | false => simpa [ht, hn, hf] using asks_report sink test _
    · cases hv : fallback.isValid with
      | false => simpa [ht, hn, hv] using Asks.pure ()
      | true =>
        simpa [ht, hn, hv, -SymbolIndex.memberExists_resolver] using
          asks_member sink test inspect (hs hv) ref.memberName
  · cases he : index.typeExists ref.typeName with
    | true =>
      rw [Check.memberQuery_of_type hr hb ht he]
      simpa [ht, he, -SymbolIndex.memberExists_resolver] using
        asks_member sink test inspect he ref.memberName
    | false =>
      have hnone : Check.memberQuery index fallback target = none := by
        simp [Check.memberQuery, hr, hb, ht, he]
      rw [hnone]
      by_cases hm : ref.memberName = ""
      · simpa [ht, he, hm] using asks_report sink test _
      · cases hi : index.isInterface ref.typeName <;>
          simpa [ht, he, hm, hi] using asks_report sink test _

theorem asks_checkTarget (target : String) :
    Asks (checkTarget (index.questions inspect : Questions (Asking m)) fallback
        (Validation.report (lifted sink) test) target)
      (Check.memberQuery index fallback target).toList
      (Validation.checkTarget (index.resolver inspect) fallback
        (Validation.report sink test) target) := by
  unfold checkTarget Validation.checkTarget
  cases hb : Text.isBlankText target with
  | true =>
    have hnone : Check.memberQuery index fallback target = none := by
      simp [Check.memberQuery, hb]
    rw [hnone]
    simpa using asks_report sink test .emptyTarget
  | false =>
    have href := asks_checkReference sink test inspect hs hb
    cases Check.hasParentheses target.toList with
    | true => simpa using (asks_report sink test .parentheses).bind fun _ => href
    | false => simpa using href

/-- Going through targets asks what each of them asks. -/
theorem asks_forM_checkTarget (covers : List String) :
    Asks (covers.forM (checkTarget (index.questions inspect : Questions (Asking m)) fallback
        (Validation.report (lifted sink) test)))
      (covers.filterMap (Check.memberQuery index fallback))
      (covers.forM (Validation.checkTarget (index.resolver inspect) fallback
        (Validation.report sink test))) := by
  induction covers with
  | nil => exact .pure ()
  | cons target rest ih =>
    have hasked : (target :: rest).filterMap (Check.memberQuery index fallback) =
        (Check.memberQuery index fallback target).toList ++
          rest.filterMap (Check.memberQuery index fallback) := by
      rw [List.filterMap_cons]
      cases Check.memberQuery index fallback target <;> rfl
    rw [hasked]
    exact (asks_checkTarget sink test inspect hs target).bind fun _ => ih

end Steps

/-! ## Whole validations -/

/-- **A validation asks about members of classes only.** With the questions of an index, which fail
when they are asked of a name that stands for no class, a validation whose sink does not fail
returns. It does what a validation by the answers of the index does, whatever the index holds and
the annotations say, and it asks about members exactly where a target names one and its class is
known to exist: each of these names stands for a class that is no interface. The violations that it
returns are those that a check finds. -/
theorem check_asks_known_classes (index : SymbolIndex) (inspect : SymbolIndex.Inspection)
    (test : TestCase) (annotations : Annotations) {m : Type → Type} [Monad m] [LawfulMonad m]
    (sink : TestCase → Violation → m Unit) (log : List (String × String)) :
    (check (index.questions inspect) (lifted sink) test annotations).run.run log = (do
      let found ← Validation.check (index.resolver inspect) sink test annotations
      return (.ok found, log ++ asked index annotations)) ∧
    (∀ query ∈ asked index annotations,
      ∃ symbol, index.lookup query.1 = some symbol ∧ symbol.isInterface = false) ∧
    Validation.check (index.resolver inspect) sink test annotations =
      Validation.handOver sink test (Check.violations index inspect annotations test) := by
  have hsound := sound_defaultClassOf index annotations
  refine ⟨?_, fun query hquery => ?_, ?_⟩
  · unfold check Validation.check asked
    simp only [settleDefaultClass_questions, Validation.settleDefaultClass_eq, bind_assoc,
      pure_bind, Validation.fallbackOf_resolver]
    have hasks := (asks_forM_report sink test
      (Validation.defaultClassPart (index.resolver inspect) annotations.defaultClasses)).bind
        fun _ => asks_forM_checkTarget sink test inspect hsound annotations.covers
    exact hasks.run_state [] log
  · obtain ⟨target, -, hq⟩ := List.mem_filterMap.mp hquery
    exact exists_class_of_typeExists (typeExists_of_memberQuery hsound hq)
  · rw [Validation.check_eq_handOver, Validation.violations_eq_parts]

/-- A class behind an import, an interface, and two imports that lead to each other. -/
def tangledIndex : SymbolIndex :=
  ((((SymbolIndex.empty []).addType { name := "shop.cart.Cart", methods := ["add"] }).addType
    { name := "shop.Port", methods := ["add"], isInterface := true }).addAlias
      "shop.Cart" "shop.cart.Cart").addAlias "a.x" "a.y" |>.addAlias "a.y" "a.x"

/-- Members of the interface and of the imports that lead nowhere are not asked for; to ask for one
would fail. -/
theorem check_asks_tangledIndex :
    let test : TestCase := { name := "test_a", identifier := "t.py::test_a" }
    let annotations : Annotations :=
      { defaultClasses := ["shop.Cart"]
        covers := ["::add", "shop.Port::add", "a.x::add", "::drop", "shop.cart.Cart::add", "::"] }
    let questions : Questions (Asking (StateM (List (TestCase × Violation)))) :=
      tangledIndex.questions fun _ _ => none
    let found : List Violation :=
      ["@covers refers to an interface 'shop.Port' and those can not be tested.",
        "@covers class does not exist a.x", "@covers method does not exist shop.Cart::drop"].map
          (⟨·, "t.py::test_a"⟩)
    let queries := [("shop.Cart", "add"), ("shop.Cart", "drop"), ("shop.cart.Cart", "add")]
    ((check questions (lifted Validation.logged) test annotations).run.run []).run [] =
        ((.ok found, queries), found.map (test, ·)) ∧
      ((questions.memberExists "a.x" "add").run.run []).run [] =
        ((.error ⟨"a.x"⟩, [("a.x", "add")]), []) := by
  intro test annotations questions found queries
  refine ⟨?_, rfl⟩
  obtain ⟨hrun, -⟩ := check_asks_known_classes tangledIndex (fun _ _ => none) test annotations
    Validation.logged []
  have hasked : asked tangledIndex annotations = queries := by decide +kernel
  have hfound : (Validation.parts (tangledIndex.resolver fun _ _ => none) annotations).map
      (·.violationOf test) = found := by decide +kernel
  rw [hrun, Validation.check_eq_handOver, hfound, hasked]
  rfl

end Inquiry

end CoverAudit
