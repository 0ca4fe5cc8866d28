import CoverAudit.Reference
import Mathlib.Data.List.Infix

/-!
# The parts of a reference

A `@covers` value is cut at its first `::`, and what stands behind that at the next one. Colons may
overlap: three in a row hold `::` twice, and the first of the two counts. So a text is cut where no
`::` stands before the cut, not even one that shares a colon with it (`infix_concat_colon`).

* `cutSeparator_eq_some_iff`, `cutSeparator_eq_none_iff`: where a text is cut, and when it is not.
* `exists_rest_of_upToSeparator`: a text up to its next `::`, if there is one.
* `Reference.parse_of_cut`, `Reference.parse_of_undivided`: the parts of a reference.
* `Reference.exists_rest_of_divided`, `Reference.parse_append`: taking a value apart and putting one
  together.
* `Reference.parse_parts`: the parts give the value back, and which texts are parts.
-/

namespace CoverAudit

/-! ## Cutting a text -/

/-- One more colon completes a `::` where a text ends in a colon. -/
theorem infix_concat_colon {text : List Char} :
    [':', ':'] <:+: text ++ [':'] ↔ [':', ':'] <:+: text ∨ [':'] <:+ text := by
  have hpair : [':', ':'] = [':'] ++ [':'] := rfl
  rw [List.infix_concat_iff, or_comm, hpair, List.suffix_append_inj_of_length_eq rfl,
    and_iff_left rfl]

/-- A character that begins no `::` adds none. -/
theorem infix_cons_of_not_pair {c : Char} {rest : List Char}
    (h : c = ':' → rest.head? ≠ some ':') :
    [':', ':'] <:+: c :: rest ↔ [':', ':'] <:+: rest := by
  rw [List.infix_cons_iff, or_iff_right]
  rintro ⟨more, hmore⟩
  obtain ⟨hc, rfl⟩ := List.cons.inj hmore
  exact h hc.symm rfl

theorem head?_ne_of_not_pair {c : Char} {rest : List Char}
    (h : ∀ more, c = ':' → rest = ':' :: more → False) : c = ':' → rest.head? ≠ some ':' := by
  intro hc hhead
  obtain ⟨more, hmore⟩ := List.head?_eq_some_iff.mp hhead
  exact h more hc hmore

/-- A text is cut where `::` stands for the first time. -/
theorem cutSeparator_eq_some_iff {text before behind : List Char} :
    cutSeparator text = some (before, behind) ↔
      text = before ++ ':' :: ':' :: behind ∧ ¬ [':', ':'] <:+: before ++ [':'] := by
  fun_induction cutSeparator text generalizing before with
  | case1 rest =>
    constructor
    · rintro ⟨⟩
      exact ⟨rfl, by decide⟩
    · rintro ⟨htext, hfirst⟩
      match before with
      | [] => simpa using htext
      | [c] =>
        -- A colon before the cut: three in a row, of which the first two are the cut.
        obtain ⟨rfl, -⟩ := List.cons.inj htext
        exact absurd List.infix_rfl hfirst
      | c :: d :: more =>
        simp only [List.cons_append, List.cons.injEq] at htext
        obtain ⟨rfl, rfl, -⟩ := htext
        exact absurd (List.prefix_append [':', ':'] _).isInfix hfirst
  | case2 c rest hpair ih =>
    have hc := head?_ne_of_not_pair hpair
    rw [Option.map_eq_some_iff]
    constructor
    · rintro ⟨⟨front, _⟩, hcut, ⟨⟩⟩
      obtain ⟨rfl, hfirst⟩ := ih.mp hcut
      -- What the text has behind `c` begins as the front does with a colon behind it.
      have hfront : (front ++ [':']).head? = (front ++ ':' :: ':' :: behind).head? := by
        cases front <;> rfl
      refine ⟨rfl, ?_⟩
      rw [List.cons_append, infix_cons_of_not_pair (hfront ▸ hc)]
      exact hfirst
    · rintro ⟨htext, hfirst⟩
      match before with
      | [] =>
        obtain ⟨rfl, rfl⟩ := List.cons.inj htext
        exact absurd rfl (hc rfl)
      | d :: front =>
        obtain ⟨rfl, rfl⟩ := List.cons.inj htext
        exact ⟨(front, behind), ih.mpr ⟨rfl, mt List.infix_cons hfirst⟩, rfl⟩
  | case3 => simp

theorem cutSeparator_eq_none_iff {text : List Char} :
    cutSeparator text = none ↔ ¬ [':', ':'] <:+: text := by
  fun_induction cutSeparator text with
  | case1 rest => simpa using (List.prefix_append [':', ':'] rest).isInfix
  | case2 c rest hpair ih =>
    rw [Option.map_eq_none_iff, ih, infix_cons_of_not_pair (head?_ne_of_not_pair hpair)]
  | case3 => simp

/-- A text up to its first `::`. -/
def upToSeparator (text : List Char) : List Char :=
  ((cutSeparator text).map Prod.fst).getD text

/-- What is left out begins with the first `::`. -/
theorem exists_rest_of_upToSeparator (text : List Char) :
    ∃ rest, text = upToSeparator text ++ rest ∧ ¬ [':', ':'] <:+: upToSeparator text ∧
      (rest = [] ∨ [':', ':'] <+: rest) := by
  unfold upToSeparator
  cases hcut : cutSeparator text with
  | none => exact ⟨[], (List.append_nil text).symm, cutSeparator_eq_none_iff.mp hcut, .inl rfl⟩
  | some cut =>
    obtain ⟨before, behind⟩ := cut
    obtain ⟨htext, hfirst⟩ := cutSeparator_eq_some_iff.mp hcut
    exact ⟨':' :: ':' :: behind, htext, fun h => hfirst (infix_concat_colon.mpr (.inl h)),
      .inr (List.prefix_append [':', ':'] behind)⟩

theorem upToSeparator_of_undivided {text : List Char} (h : ¬ [':', ':'] <:+: text) :
    upToSeparator text = text := by
  rw [upToSeparator, cutSeparator_eq_none_iff.mpr h]
  rfl

/-! ## References -/

namespace Reference

variable {text : String}

theorem parse_of_undivided (h : ¬ [':', ':'] <:+: text.toList) :
    parse text = { text, typeName := text } := by
  rw [parse, cutSeparator_eq_none_iff.mpr h]

theorem parse_of_cut {before behind : List Char}
    (h : cutSeparator text.toList = some (before, behind)) :
    parse text =
      { text
        typeName := String.ofList before
        memberName := String.ofList (upToSeparator behind)
        usesDefaultClass := before.isEmpty } := by
  rw [parse, h]
  rfl

/-- The type and the member of a value with `::`, and what stands behind them. -/
theorem exists_rest_of_divided (h : [':', ':'] <:+: text.toList) :
    ∃ rest, text = (parse text).typeName ++ "::" ++ (parse text).memberName ++ rest ∧
      ¬ [':', ':'] <:+: (parse text).typeName.toList ∧ ¬ [':'] <:+ (parse text).typeName.toList ∧
      ¬ [':', ':'] <:+: (parse text).memberName.toList ∧
      (rest = "" ∨ [':', ':'] <+: rest.toList) := by
  cases hcut : cutSeparator text.toList with
  | none => exact absurd h (cutSeparator_eq_none_iff.mp hcut)
  | some cut =>
    obtain ⟨before, behind⟩ := cut
    obtain ⟨htext, hfirst⟩ := cutSeparator_eq_some_iff.mp hcut
    rw [infix_concat_colon, not_or] at hfirst
    obtain ⟨rest, hbehind, hmember, hrest⟩ := exists_rest_of_upToSeparator behind
    simp only [parse_of_cut hcut, String.toList_ofList]
    refine ⟨String.ofList rest, ?_, hfirst.1, hfirst.2, hmember, ?_⟩
    · apply String.toList_injective
      rw [htext]
      conv_lhs => rw [hbehind]
      simp
    · simpa using hrest

/-- A type and a member are read back from the value that they make, if no `::` comes before the one
between them and none behind it. -/
theorem parse_append {typeName memberName : String} (ht : ¬ [':', ':'] <:+: typeName.toList)
    (hcolon : ¬ [':'] <:+ typeName.toList) (hm : ¬ [':', ':'] <:+: memberName.toList) :
    (parse (typeName ++ "::" ++ memberName)).typeName = typeName ∧
      (parse (typeName ++ "::" ++ memberName)).memberName = memberName := by
  have hcut : cutSeparator (typeName ++ "::" ++ memberName).toList =
      some (typeName.toList, memberName.toList) := by
    refine cutSeparator_eq_some_iff.mpr ⟨by simp, ?_⟩
    rw [infix_concat_colon, not_or]
    exact ⟨ht, hcolon⟩
  rw [parse_of_cut hcut, upToSeparator_of_undivided hm]
  exact ⟨String.ofList_toList, String.ofList_toList⟩

theorem usesDefaultClass_iff :
    (parse text).usesDefaultClass = true ↔ [':', ':'] <+: text.toList := by
  constructor
  · intro h
    cases hcut : cutSeparator text.toList with
    | none =>
      rw [parse_of_undivided (cutSeparator_eq_none_iff.mp hcut)] at h
      cases h
    | some cut =>
      obtain ⟨before, behind⟩ := cut
      rw [parse_of_cut hcut] at h
      obtain rfl := List.isEmpty_iff.mp h
      exact ⟨behind, (cutSeparator_eq_some_iff.mp hcut).1.symm⟩
  · rintro ⟨behind, htext⟩
    have hcut : cutSeparator text.toList = some ([], behind) := by
      rw [← htext]
      rfl
    rw [parse_of_cut hcut]
    rfl

/-- **A reference is made of its parts.** A value with `::` is its type, `::`, its member and a rest
that is empty or begins with `::`. The type and the member hold no `::`, and the type does not end
in a colon. A value without `::` is a type without a member. The other way round, a type and a
member with `::` between them are read back exactly if neither holds a `::` and the type does not
end in a colon. The default class is used exactly if the value begins with `::`. -/
theorem parse_parts (text typeName memberName : String) :
    let ref := parse text
    let joined := parse (typeName ++ "::" ++ memberName)
    ([':', ':'] <:+: text.toList →
      ∃ rest, text = ref.typeName ++ "::" ++ ref.memberName ++ rest ∧
        ¬ [':', ':'] <:+: ref.typeName.toList ∧ ¬ [':'] <:+ ref.typeName.toList ∧
        ¬ [':', ':'] <:+: ref.memberName.toList ∧ (rest = "" ∨ [':', ':'] <+: rest.toList)) ∧
    (¬ [':', ':'] <:+: text.toList → ref.typeName = text ∧ ref.memberName = "") ∧
    (joined.typeName = typeName ∧ joined.memberName = memberName ↔
      ¬ [':', ':'] <:+: typeName.toList ∧ ¬ [':'] <:+ typeName.toList ∧
        ¬ [':', ':'] <:+: memberName.toList) ∧
    (ref.usesDefaultClass = true ↔ [':', ':'] <+: text.toList) := by
  intro ref joined
  refine ⟨exists_rest_of_divided, fun h => ?_, ⟨?_, ?_⟩, usesDefaultClass_iff⟩
  · show (parse text).typeName = text ∧ (parse text).memberName = ""
    rw [parse_of_undivided h]
    exact ⟨rfl, rfl⟩
  · rintro ⟨htype, hmember⟩
    have hdivided : [':', ':'] <:+: (typeName ++ "::" ++ memberName).toList :=
      ⟨typeName.toList, memberName.toList, by simp⟩
    obtain ⟨rest, -, hparts⟩ := exists_rest_of_divided hdivided
    rw [htype, hmember] at hparts
    exact ⟨hparts.1, hparts.2.1, hparts.2.2.1⟩
  · rintro ⟨ht, hcolon, hm⟩
    exact parse_append ht hcolon hm

/-- Of three colons the first two are the cut, and of what follows only the part before the next
`::` is the member. -/
theorem parse_parts_of_overlap :
    [':', ':'] <:+: "A:::b::c".toList ∧ ¬ [':', ':'] <:+: "A:b".toList ∧
      (∃ rest, "A:::b::c" = "A" ++ "::" ++ ":b" ++ rest ∧
        (rest = "" ∨ [':', ':'] <+: rest.toList)) ∧
      (parse "A:b").typeName = "A:b" ∧
      ¬ ((parse ("A:" ++ "::" ++ "b")).typeName = "A:" ∧
        (parse ("A:" ++ "::" ++ "b")).memberName = "b") := by
  have hdivided : [':', ':'] <:+: "A:::b::c".toList := by decide
  have hplain : ¬ [':', ':'] <:+: "A:b".toList := by decide
  obtain ⟨hcut, -, -, -⟩ := parse_parts "A:::b::c" "" ""
  obtain ⟨-, huncut, hjoined, -⟩ := parse_parts "A:b" "A:" "b"
  obtain ⟨rest, htext, -, -, -, hrest⟩ := hcut hdivided
  refine ⟨hdivided, hplain, ⟨rest, ?_, hrest⟩, (huncut hplain).1, fun h => ?_⟩
  · exact htext
  · exact absurd (hjoined.mp h).2.1 (by decide)

end Reference

end CoverAudit
