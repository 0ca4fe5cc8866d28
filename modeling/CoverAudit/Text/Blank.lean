import CoverAudit.Text.Ranges

/-!
# Blank characters

Which characters count as blank around a value, and the removal of blanks at both ends. Blank are
the white-space characters of Unicode together with the four information separators
(U+001C to U+001F); the zero-width characters U+180E, U+200B and U+FEFF are not blank.

* `strip_eq_empty_iff`: a text holds nothing but blanks exactly when nothing is left without them.
* `stripChars_append_append`: blanks that are added at either end are not seen.
-/

namespace CoverAudit.Text

/-- The blank characters, as inclusive ranges of code points in ascending order. -/
def blankRanges : List (Nat × Nat) :=
  [(0x09, 0x0D), (0x1C, 0x20), (0x85, 0x85), (0xA0, 0xA0), (0x1680, 0x1680), (0x2000, 0x200A),
    (0x2028, 0x2029), (0x202F, 0x202F), (0x205F, 0x205F), (0x3000, 0x3000)]

/-- Whether a character is blank. -/
def isBlank (c : Char) : Bool :=
  inRanges blankRanges c

/-- The characters without the blanks at the end. -/
def stripRight (cs : List Char) : List Char :=
  (cs.reverse.dropWhile isBlank).reverse

/-- The characters without the blanks at either end. -/
def stripChars (cs : List Char) : List Char :=
  stripRight (cs.dropWhile isBlank)

/-- The text without the blanks at either end. -/
def strip (s : String) : String :=
  String.ofList (stripChars s.toList)

/-- Whether a text holds nothing but blanks. -/
def isBlankText (s : String) : Bool :=
  s.toList.all isBlank

theorem stripChars_eq_nil_iff (cs : List Char) :
    stripChars cs = [] ↔ ∀ c ∈ cs, isBlank c = true := by
  induction cs with
  | nil => simp [stripChars, stripRight]
  | cons c rest ih =>
    unfold stripChars at ih ⊢
    by_cases h : isBlank c = true
    · rw [List.dropWhile_cons_of_pos h, ih, List.forall_mem_cons]
      exact (and_iff_right h).symm
    · have hne : stripRight (c :: rest) ≠ [] := by
        unfold stripRight
        rw [List.reverse_cons, List.dropWhile_append]
        split <;> simp_all
      rw [List.dropWhile_cons_of_neg h, List.forall_mem_cons]
      exact ⟨fun e => absurd e hne, fun e => absurd e.1 h⟩

/-- A text holds nothing but blanks exactly when nothing is left without them. -/
theorem strip_eq_empty_iff (s : String) : strip s = "" ↔ isBlankText s = true := by
  unfold strip isBlankText
  rw [List.all_eq_true, ← stripChars_eq_nil_iff, ← String.toList_inj]
  simp

/-- Blanks around a text are not seen once it is stripped. -/
theorem stripChars_append_append {front back : List Char} (hfront : ∀ c ∈ front, isBlank c = true)
    (hback : ∀ c ∈ back, isBlank c = true) (cs : List Char) :
    stripChars (front ++ (cs ++ back)) = stripChars cs := by
  have hrev : ∀ c ∈ back.reverse, isBlank c = true := fun c hc => hback c (List.mem_reverse.mp hc)
  unfold stripChars
  rw [List.dropWhile_append_of_pos hfront, List.dropWhile_append]
  split
  · rename_i hempty
    rw [List.isEmpty_iff.mp hempty]
    exact (stripChars_eq_nil_iff back).mpr hback
  · rw [stripRight, List.reverse_append, List.dropWhile_append_of_pos hrev, stripRight]

end CoverAudit.Text
