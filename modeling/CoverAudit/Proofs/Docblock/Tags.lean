import CoverAudit.Docblock

/-!
# Tag lines and tag values

* `TagLine`: which lines declare a tag, and which tag (`readLine_eq_some_iff`).
* `AtName`, `Foreign`: every line has a name behind its `@`, or is no candidate for a tag at all
  (`foreign_or_atName`).
* `Trailer`: what the end of a line may hold without being part of the value; a line that has no
  carriage return can be followed by it (`readLine_append`).
* `keys_group`, `getD_group`: the names of a docblock's tags in order of first appearance, and the
  values of each name in the order of the lines.
-/

namespace CoverAudit.Docblock

/-- `TagLine line tag`: the line is spaces and tabs, `@`, a name that can not be read on, and then
nothing, a carriage return alone, or a space or tab and anything. -/
inductive TagLine : List Char → Tag → Prop
  | mk {indent name remainder : List Char} (hindent : ∀ c ∈ indent, isIndent c = true)
      (hne : name ≠ []) (hname : ∀ c ∈ name, isNameChar c = true)
      (hmaximal : ∀ c ∈ remainder.head?, isNameChar c = false)
      (hremainder : remainder = [] ∨ remainder = ['\r'] ∨
        ∃ c ∈ remainder.head?, isIndent c = true) :
      TagLine (indent ++ '@' :: (name ++ remainder))
        ⟨String.ofList name, String.ofList (Text.stripChars remainder)⟩

/-- `AtName line name remainder`: behind spaces and tabs the line has `@`, a name that can not be
read on and may be empty, and a remainder. -/
inductive AtName : List Char → List Char → List Char → Prop
  | mk {indent name remainder : List Char} (hindent : ∀ c ∈ indent, isIndent c = true)
      (hname : ∀ c ∈ name, isNameChar c = true)
      (hmaximal : ∀ c ∈ remainder.head?, isNameChar c = false) :
      AtName (indent ++ '@' :: (name ++ remainder)) name remainder

/-- The first character of the line other than spaces and tabs, if there is one, is not `@`. -/
def Foreign (line : List Char) : Prop :=
  (line.dropWhile isIndent).head? ≠ some '@'

instance (line : List Char) : Decidable (Foreign line) :=
  inferInstanceAs (Decidable ((line.dropWhile isIndent).head? ≠ some '@'))

/-- Spaces and tabs, and perhaps a carriage return. -/
inductive Trailer : List Char → Prop
  | mk {blanks ret : List Char} (hblanks : ∀ c ∈ blanks, isIndent c = true)
      (hret : ret = [] ∨ ret = ['\r']) : Trailer (blanks ++ ret)

/-! ## Characters -/

theorem isBlank_of_isIndent {c : Char} (h : isIndent c = true) : Text.isBlank c = true := by
  simp only [isIndent, Bool.or_eq_true, decide_eq_true_eq] at h
  obtain rfl | rfl := h <;> decide

theorem isNameChar_of_isIndent {c : Char} (h : isIndent c = true) : isNameChar c = false := by
  simp only [isIndent, Bool.or_eq_true, decide_eq_true_eq] at h
  obtain rfl | rfl := h <;> decide

/-- Spaces and tabs do not end a line. -/
theorem notMem_of_indent {cs : List Char} (h : ∀ c ∈ cs, isIndent c = true) :
    '\n' ∉ cs ∧ '\r' ∉ cs :=
  ⟨fun hmem => absurd (h _ hmem) (by decide), fun hmem => absurd (h _ hmem) (by decide)⟩

theorem endsName_iff (remainder : List Char) :
    endsName remainder = true ↔ remainder = [] ∨ remainder = ['\r'] ∨
      ∃ c ∈ remainder.head?, isIndent c = true := by
  fun_cases endsName remainder <;> simp_all

/-- What may follow a name does not go on with it. -/
theorem isNameChar_head?_of_endsName {remainder : List Char} (h : endsName remainder = true) :
    ∀ c ∈ remainder.head?, isNameChar c = false := by
  intro c hc
  obtain rfl | rfl | ⟨d, hd, hindent⟩ := (endsName_iff remainder).mp h
  · cases hc
  · cases hc
    decide
  · cases Option.mem_unique hc hd
    exact isNameChar_of_isIndent hindent

theorem takeWhile_eq_nil_of_head? {p : Char → Bool} {cs : List Char}
    (h : ∀ c ∈ cs.head?, p c = false) : cs.takeWhile p = [] ∧ cs.dropWhile p = cs := by
  cases cs with
  | nil => exact ⟨rfl, rfl⟩
  | cons c rest => simp [h c rfl]

namespace Trailer

variable {back : List Char}

theorem of_indent {blanks : List Char} (h : ∀ c ∈ blanks, isIndent c = true) : Trailer blanks := by
  simpa using Trailer.mk h (.inl rfl)

theorem of_return {ret : List Char} (h : ret = [] ∨ ret = ['\r']) : Trailer ret :=
  .mk (List.forall_mem_nil _) h

theorem endsName (h : Trailer back) : endsName back = true := by
  rw [endsName_iff]
  obtain ⟨hblanks, hret⟩ := h
  rename_i blanks ret
  cases blanks with
  | nil => exact hret.imp id .inl
  | cons c more => exact .inr (.inr ⟨c, rfl, hblanks c List.mem_cons_self⟩)

theorem isBlank (h : Trailer back) : ∀ c ∈ back, Text.isBlank c = true := by
  obtain ⟨hblanks, hret⟩ := h
  intro c hc
  obtain hc | hc := List.mem_append.mp hc
  · exact isBlank_of_isIndent (hblanks c hc)
  · obtain rfl | rfl := hret
    · cases hc
    · rw [List.mem_singleton.mp hc]
      decide

theorem notMem (h : Trailer back) : '\n' ∉ back := by
  obtain ⟨hblanks, hret⟩ := h
  obtain rfl | rfl := hret <;> simp [(notMem_of_indent hblanks).1]

theorem foreign (h : Trailer back) : Foreign back := by
  obtain ⟨hblanks, hret⟩ := h
  unfold Foreign
  rw [List.dropWhile_append_of_pos hblanks]
  obtain rfl | rfl := hret <;> decide

end Trailer

/-! ## Lines -/

theorem foreign_or_atName (line : List Char) :
    Foreign line ∨ ∃ name remainder, AtName line name remainder := by
  by_cases h : (line.dropWhile isIndent).head? = some '@'
  · obtain ⟨rest, hrest⟩ := List.head?_eq_some_iff.mp h
    have hline : line = line.takeWhile isIndent ++
        '@' :: (rest.takeWhile isNameChar ++ rest.dropWhile isNameChar) := by
      rw [List.takeWhile_append_dropWhile, ← hrest, List.takeWhile_append_dropWhile]
    have hmaximal : ∀ c ∈ (rest.dropWhile isNameChar).head?, isNameChar c = false := by
      intro c hc
      have hnot := List.head?_dropWhile_not isNameChar rest
      rw [Option.mem_def.mp hc] at hnot
      simpa using hnot
    refine .inr ⟨rest.takeWhile isNameChar, rest.dropWhile isNameChar, ?_⟩
    rw [hline]
    exact .mk (List.all_eq_true.mp List.all_takeWhile) (List.all_eq_true.mp List.all_takeWhile)
      hmaximal
  · exact .inl h

theorem Foreign.readLine_eq {line : List Char} (h : Foreign line) : readLine line = none := by
  unfold readLine
  split
  · rename_i rest hdrop
    exact absurd (by rw [hdrop]; rfl) h
  · rfl

theorem AtName.readLine_eq {line name remainder : List Char} (h : AtName line name remainder) :
    readLine line =
      if name ≠ [] ∧ endsName remainder = true then
        some ⟨String.ofList name, String.ofList (Text.stripChars remainder)⟩
      else none := by
  obtain ⟨hindent, hname, hmaximal⟩ := h
  rename_i indent
  obtain ⟨htake, hdrop⟩ := takeWhile_eq_nil_of_head? hmaximal
  have hat : (indent ++ '@' :: (name ++ remainder)).dropWhile isIndent =
      '@' :: (name ++ remainder) := by
    rw [List.dropWhile_append_of_pos hindent]
    rfl
  simp [readLine, hat, List.takeWhile_append_of_pos hname, List.dropWhile_append_of_pos hname,
    htake, hdrop]

/-- A line is read as a tag exactly if it is a tag line. -/
theorem readLine_eq_some_iff {line : List Char} {tag : Tag} :
    readLine line = some tag ↔ TagLine line tag := by
  constructor
  · intro h
    obtain hforeign | ⟨name, remainder, hat⟩ := foreign_or_atName line
    · rw [hforeign.readLine_eq] at h
      cases h
    · rw [hat.readLine_eq] at h
      obtain ⟨⟨hne, hends⟩, htag⟩ := Option.ite_none_right_eq_some.mp h
      cases htag
      obtain ⟨hindent, hname, hmaximal⟩ := hat
      exact .mk hindent hne hname hmaximal ((endsName_iff remainder).mp hends)
  · rintro ⟨hindent, hne, hname, hmaximal, hremainder⟩
    rw [(AtName.mk hindent hname hmaximal).readLine_eq]
    exact if_pos ⟨hne, (endsName_iff _).mpr hremainder⟩

/-! ## Lines that go on -/

theorem Foreign.append {line back : List Char} (h : Foreign line) (hback : Foreign back) :
    Foreign (line ++ back) := by
  unfold Foreign at h ⊢
  rw [List.dropWhile_append]
  split
  · exact hback
  · rename_i hne
    cases hdrop : line.dropWhile isIndent with
    | nil => simp [hdrop] at hne
    | cons c rest => simpa [hdrop] using h

theorem AtName.append {line name remainder back : List Char} (h : AtName line name remainder)
    (hback : Trailer back) : AtName (line ++ back) name (remainder ++ back) := by
  obtain ⟨hindent, hname, hmaximal⟩ := h
  rename_i indent
  have hhead : ∀ c ∈ (remainder ++ back).head?, isNameChar c = false := by
    cases remainder with
    | nil => exact isNameChar_head?_of_endsName hback.endsName
    | cons c rest => exact hmaximal
  have hline := AtName.mk hindent hname hhead
  simpa using hline

theorem endsName_append {remainder back : List Char} (h : '\r' ∉ remainder) (hback : Trailer back) :
    endsName (remainder ++ back) = endsName remainder := by
  cases remainder with
  | nil => rw [List.nil_append, hback.endsName, endsName]
  | cons c rest =>
    have hc : c ≠ '\r' := fun e => h (e ▸ List.mem_cons_self)
    rw [Bool.eq_iff_iff, endsName_iff, endsName_iff]
    simp [hc]

/-- A line without carriage returns declares the same tag with spaces and tabs behind it, and with
a carriage return behind these. -/
theorem readLine_append {line back : List Char} (h : '\r' ∉ line) (hback : Trailer back) :
    readLine (line ++ back) = readLine line := by
  obtain hforeign | ⟨name, remainder, hat⟩ := foreign_or_atName line
  · rw [hforeign.readLine_eq, (hforeign.append hback.foreign).readLine_eq]
  · have hremainder : '\r' ∉ remainder := by
      cases hat
      simp_all
    have hstrip : Text.stripChars (remainder ++ back) = Text.stripChars remainder :=
      Text.stripChars_append_append (List.forall_mem_nil _) hback.isBlank remainder
    rw [hat.readLine_eq, (hat.append hback).readLine_eq, endsName_append hremainder hback, hstrip]

/-! ## Grouping -/

/-- Tags that are added to a table add their values behind those that are there. -/
theorem getD_foldl_append (tags : List Tag) (table : Table (List String)) (name : String) :
    (tags.foldl (fun table tag => table.append tag.name tag.value) table).getD name [] =
      table.getD name [] ++ (tags.filter fun tag => tag.name = name).map Tag.value := by
  induction tags generalizing table with
  | nil => simp
  | cons tag rest ih =>
    rw [List.foldl_cons, ih, Table.getD_append]
    by_cases h : tag.name = name
    · simp [h]
    · simp [h, Ne.symm h]

/-- Tags that are added to a table add their names behind those that are there. -/
theorem keys_foldl_append (tags : List Tag) (table : Table (List String)) :
    (tags.foldl (fun table tag => table.append tag.name tag.value) table).keys =
      table.keys ++ ((tags.map Tag.name).removeAll table.keys).eraseDups := by
  induction tags generalizing table with
  | nil => simp
  | cons tag rest ih =>
    rw [List.foldl_cons, ih, Table.append, Table.keys_insert, List.map_cons, List.cons_removeAll]
    by_cases h : tag.name ∈ table.keys
    · simp [h]
    · have hrest : (rest.map Tag.name).removeAll (table.keys ++ [tag.name]) =
          ((rest.map Tag.name).removeAll table.keys).filter fun name => !name == tag.name := by
        rw [List.removeAll, List.removeAll, List.filter_filter]
        apply List.filter_congr
        intro name _
        rw [Bool.eq_iff_iff]
        simp [and_comm]
      simp [h, hrest, List.eraseDups_cons]

theorem getD_group (tags : List Tag) (name : String) :
    (group tags).getD name [] = (tags.filter fun tag => tag.name = name).map Tag.value :=
  getD_foldl_append tags Table.empty name

theorem keys_group (tags : List Tag) : (group tags).keys = (tags.map Tag.name).eraseDups := by
  have hempty : (Table.empty : Table (List String)).keys = [] := rfl
  rw [group, keys_foldl_append, hempty, List.removeAll_nil, List.nil_append]

end CoverAudit.Docblock
