import CoverAudit.Annotations
import CoverAudit.Proofs.Docblock.Tags
import Mathlib.Logic.Relation

/-!
# Layout of docblocks

A docblock may be laid out anew without a change to what its tags of one name declare: lines may be
indented differently and get blanks at their end, line ends may become carriage returns with line
feeds, and lines that have nothing to do with the tag may come and go.

* `Edit`: one such change to the lines of a docblock.
* `Steady`: the invariant of a line that is kept. A line with a carriage return of its own is only
  safe if it has another name, because nothing but one carriage return may stand behind a name.
* `Edit.steady`, `Edit.declared`: what one change preserves; `declared_of_edits`: what any number of
  them preserves.
* `Annotations.ofDocblocks_relaid`: the annotations of a test.
-/

namespace CoverAudit

namespace Docblock

/-! ## Lines and their ends -/

/-- How a line ends, if another line follows. -/
inductive LineEnd where
  | lf
  | crlf
  deriving DecidableEq, Repr

/-- What stands before the line feed. -/
def LineEnd.ret : LineEnd → List Char
  | .lf => []
  | .crlf => ['\r']

theorem LineEnd.trailer_ret (ending : LineEnd) : Trailer ending.ret := by
  cases ending with
  | lf => exact .of_return (.inl rfl)
  | crlf => exact .of_return (.inr rfl)

/-- A line of a docblock. -/
structure Line where
  text : List Char
  ending : LineEnd := .lf
  deriving DecidableEq, Repr

/-- The text that some lines make up. The end of the last line is not written. -/
def render : List Line → List Char
  | [] => []
  | [line] => line.text
  | line :: rest => line.text ++ line.ending.ret ++ '\n' :: render rest

/-- The lines of a text that has no carriage returns. -/
def linesOf (text : String) : List Line :=
  (Text.splitChars '\n' text.toList).map fun line => { text := line }

/-- A text is made up of its lines. -/
theorem render_linesOf (text : String) : String.ofList (render (linesOf text)) = text := by
  have hrender (parts : List (List Char)) :
      render (parts.map fun line => { text := line }) = Text.joinChars '\n' parts := by
    induction parts with
    | nil => rfl
    | cons part rest ih =>
      cases rest with
      | nil => rfl
      | cons second others =>
        simp only [List.map_cons] at ih ⊢
        simp [render, Text.joinChars, LineEnd.ret, ih]
  rw [linesOf, hrender, Text.joinChars_splitChars, String.ofList_toList]

/-! ## Changes of layout -/

/-- A line that says nothing about the tag `keep`: one whose first character other than spaces and
tabs is not `@`, or a tag line of another name. -/
structure Idle (keep : String) (text : List Char) : Prop where
  line : '\n' ∉ text
  other : Foreign text ∨ ∃ tag, readLine text = some tag ∧ tag.name ≠ keep

/-- One change to the layout of a docblock that is read for the tag `keep`. A line is its text; its
line end stands behind whatever is put at the end of the text. -/
inductive Edit (keep : String) : List Line → List Line → Prop
  /-- Other spaces and tabs stand before the text of a line. -/
  | reindent {before after : List Line} {old new text : List Char} {ending : LineEnd}
      (hold : ∀ c ∈ old, isIndent c = true) (hnew : ∀ c ∈ new, isIndent c = true) :
      Edit keep (before ++ ⟨old ++ text, ending⟩ :: after)
        (before ++ ⟨new ++ text, ending⟩ :: after)
  /-- Spaces and tabs are put at the end of a line. -/
  | pad {before after : List Line} {text blanks : List Char} {ending : LineEnd}
      (hblanks : ∀ c ∈ blanks, isIndent c = true) :
      Edit keep (before ++ ⟨text, ending⟩ :: after) (before ++ ⟨text ++ blanks, ending⟩ :: after)
  /-- Every line feed becomes a carriage return and a line feed. -/
  | carriageReturns {lines : List Line} :
      Edit keep lines (lines.map fun line => { line with ending := .crlf })
  | insert {before after : List Line} {line : Line} (h : Idle keep line.text) :
      Edit keep (before ++ after) (before ++ line :: after)
  | delete {before after : List Line} {line : Line} (h : Idle keep line.text) :
      Edit keep (before ++ line :: after) (before ++ after)

/-- `Relaid keep doc doc'`: the docblock, if there is one, is changed by any number of edits. -/
inductive Relaid (keep : String) : Option String → Option String → Prop
  | missing : Relaid keep none none
  | edited {text : String} {lines : List Line} (hr : '\r' ∉ text.toList)
      (h : Relation.ReflTransGen (Edit keep) (linesOf text) lines) :
      Relaid keep (some text) (some (String.ofList (render lines)))

/-! ## What a line declares -/

/-- The value that a line declares for a tag. -/
def declares? (keep : String) (line : List Char) : Option String :=
  (readLine line).bind fun tag => if tag.name = keep then some tag.value else none

/-- The name behind the `@` of a line, whether or not the line declares a tag. -/
def spelledName? (line : List Char) : Option String :=
  match line.dropWhile isIndent with
  | '@' :: rest => some (String.ofList (rest.takeWhile isNameChar))
  | _ => none

theorem Foreign.spelledName?_eq {line : List Char} (h : Foreign line) :
    spelledName? line = none := by
  unfold spelledName?
  split
  · rename_i rest hdrop
    exact absurd (by rw [hdrop]; rfl) h
  · rfl

theorem AtName.spelledName?_eq {line name remainder : List Char} (h : AtName line name remainder) :
    spelledName? line = some (String.ofList name) := by
  obtain ⟨hindent, hname, hmaximal⟩ := h
  simp [spelledName?, List.dropWhile_append_of_pos hindent, List.takeWhile_append_of_pos hname,
    (takeWhile_eq_nil_of_head? hmaximal).1, isIndent]

theorem spelledName?_append {line back : List Char} (hback : Trailer back) :
    spelledName? (line ++ back) = spelledName? line := by
  obtain hforeign | ⟨name, remainder, hat⟩ := foreign_or_atName line
  · rw [hforeign.spelledName?_eq, (hforeign.append hback.foreign).spelledName?_eq]
  · rw [hat.spelledName?_eq, (hat.append hback).spelledName?_eq]

theorem spelledName?_of_readLine {line : List Char} {tag : Tag} (h : readLine line = some tag) :
    spelledName? line = some tag.name := by
  obtain ⟨hindent, -, hname, hmaximal, -⟩ := readLine_eq_some_iff.mp h
  exact (AtName.mk hindent hname hmaximal).spelledName?_eq

/-- A line of another name declares nothing. -/
theorem declares?_eq_none {keep : String} {line : List Char} (h : spelledName? line ≠ some keep) :
    declares? keep line = none := by
  cases htag : readLine line with
  | none => rw [declares?, htag, Option.bind_none]
  | some tag =>
    have hname : tag.name ≠ keep := by
      rw [spelledName?_of_readLine htag] at h
      exact fun e => h (congrArg some e)
    simp [declares?, htag, hname]

theorem Idle.spelledName?_ne {keep : String} {text : List Char} (h : Idle keep text) :
    spelledName? text ≠ some keep := by
  obtain hforeign | ⟨tag, htag, hname⟩ := h.other
  · rw [hforeign.spelledName?_eq]
    nofun
  · rw [spelledName?_of_readLine htag]
    exact fun e => hname (Option.some.inj e)

/-- The indentation of a line says nothing. -/
theorem spelledName?_indent {indent : List Char} (h : ∀ c ∈ indent, isIndent c = true)
    (text : List Char) : spelledName? (indent ++ text) = spelledName? text := by
  rw [spelledName?, List.dropWhile_append_of_pos h, spelledName?]

theorem declares?_indent (keep : String) {indent : List Char} (h : ∀ c ∈ indent, isIndent c = true)
    (text : List Char) : declares? keep (indent ++ text) = declares? keep text := by
  rw [declares?, readLine, List.dropWhile_append_of_pos h, declares?, readLine]

/-! ## Lines that stay -/

/-- A line that declares the same whatever stands at its end. -/
structure Steady (keep : String) (text : List Char) : Prop where
  notMem_feed : '\n' ∉ text
  returns : '\r' ∉ text ∨ spelledName? text ≠ some keep

namespace Steady

variable {keep : String} {text back : List Char}

theorem of_idle (h : Idle keep text) : Steady keep text :=
  ⟨h.line, .inr h.spelledName?_ne⟩

theorem declares?_append (h : Steady keep text) (hback : Trailer back) :
    declares? keep (text ++ back) = declares? keep text := by
  obtain hr | hname := h.returns
  · rw [declares?, readLine_append hr hback, declares?]
  · rw [declares?_eq_none hname, declares?_eq_none (by rwa [spelledName?_append hback])]

theorem pad (h : Steady keep text) {blanks : List Char}
    (hblanks : ∀ c ∈ blanks, isIndent c = true) : Steady keep (text ++ blanks) := by
  obtain ⟨hfeed, hreturn⟩ := notMem_of_indent hblanks
  refine ⟨by simp [h.notMem_feed, hfeed], ?_⟩
  rw [spelledName?_append (.of_indent hblanks)]
  exact h.returns.imp_left fun hr => by simp [hr, hreturn]

theorem reindent {old new : List Char} (hold : ∀ c ∈ old, isIndent c = true)
    (hnew : ∀ c ∈ new, isIndent c = true) (h : Steady keep (old ++ text)) :
    Steady keep (new ++ text) := by
  obtain ⟨hfeed, hreturn⟩ := notMem_of_indent hnew
  obtain ⟨holdfeed, holdreturns⟩ := h
  rw [spelledName?_indent hold] at holdreturns
  refine ⟨by simp_all, ?_⟩
  rw [spelledName?_indent hnew]
  exact holdreturns.imp_left fun hr => by simp_all

end Steady

/-! ## Edits -/

/-- The values that some lines declare for a tag. -/
def declared (keep : String) (lines : List Line) : List String :=
  lines.filterMap fun line => declares? keep line.text

section Edits

variable {keep : String} {lines edited : List Line}

/-- The lines stay such that they declare the same under further edits. -/
theorem Edit.steady (h : Edit keep lines edited) (hsteady : ∀ line ∈ lines, Steady keep line.text) :
    ∀ line ∈ edited, Steady keep line.text := by
  cases h with
  | reindent hold hnew =>
    simp only [List.forall_mem_append, List.forall_mem_cons] at hsteady ⊢
    exact ⟨hsteady.1, hsteady.2.1.reindent hold hnew, hsteady.2.2⟩
  | pad hblanks =>
    simp only [List.forall_mem_append, List.forall_mem_cons] at hsteady ⊢
    exact ⟨hsteady.1, hsteady.2.1.pad hblanks, hsteady.2.2⟩
  | carriageReturns =>
    intro line hline
    obtain ⟨old, hold, rfl⟩ := List.mem_map.mp hline
    exact hsteady old hold
  | insert hline =>
    simp only [List.forall_mem_append, List.forall_mem_cons] at hsteady ⊢
    exact ⟨hsteady.1, .of_idle hline, hsteady.2⟩
  | delete hline =>
    simp only [List.forall_mem_append, List.forall_mem_cons] at hsteady ⊢
    exact ⟨hsteady.1, hsteady.2.2⟩

/-- One edit leaves the declared values as they are. -/
theorem Edit.declared_eq (h : Edit keep lines edited)
    (hsteady : ∀ line ∈ lines, Steady keep line.text) :
    declared keep edited = declared keep lines := by
  cases h with
  | reindent hold hnew =>
    simp [declared, List.filterMap_cons, declares?_indent keep hold, declares?_indent keep hnew]
  | @pad _ _ text blanks _ hblanks =>
    have htext : Steady keep text := hsteady _ (List.mem_append_right _ List.mem_cons_self)
    simp [declared, List.filterMap_cons, htext.declares?_append (.of_indent hblanks)]
  | carriageReturns =>
    rw [declared, declared, List.filterMap_map]
    rfl
  | insert hline => simp [declared, declares?_eq_none hline.spelledName?_ne]
  | delete hline => simp [declared, declares?_eq_none hline.spelledName?_ne]

/-- Any number of edits leaves them as they are. -/
theorem declared_of_edits (h : Relation.ReflTransGen (Edit keep) lines edited)
    (hsteady : ∀ line ∈ lines, Steady keep line.text) :
    (∀ line ∈ edited, Steady keep line.text) ∧ declared keep edited = declared keep lines := by
  induction h with
  | refl => exact ⟨hsteady, rfl⟩
  | tail _ hedit ih =>
    obtain ⟨hbefore, heq⟩ := ih
    exact ⟨hedit.steady hbefore, (hedit.declared_eq hbefore).trans heq⟩

end Edits

/-! ## Texts -/

/-- The values of a tag, line by line. -/
theorem valuesOf_eq_filterMap (keep text : String) :
    valuesOf keep (some text) =
      (Text.splitChars '\n' text.toList).filterMap (declares? keep) := by
  have hvalues (tags : List Tag) : (tags.filter fun tag => tag.name = keep).map Tag.value =
      tags.filterMap fun tag => if tag.name = keep then some tag.value else none := by
    induction tags with
    | nil => rfl
    | cons tag rest ih => by_cases h : tag.name = keep <;> simp [h, ih]
  calc valuesOf keep (some text)
      = ((tagsOf text).filter fun tag => tag.name = keep).map Tag.value := getD_group _ keep
    _ = (Text.splitChars '\n' text.toList).filterMap (declares? keep) := by
        rw [hvalues, tagsOf, List.filterMap_filterMap]
        rfl

/-- What is read from the text of some lines is what the lines declare. -/
theorem valuesOf_render {keep : String} {lines : List Line}
    (hsteady : ∀ line ∈ lines, Steady keep line.text) :
    valuesOf keep (some (String.ofList (render lines))) = declared keep lines := by
  rw [valuesOf_eq_filterMap, String.toList_ofList]
  induction lines with
  | nil => rfl
  | cons line rest ih =>
    obtain ⟨hline, hrest⟩ := List.forall_mem_cons.mp hsteady
    cases rest with
    | nil =>
      rw [render, Text.splitChars_of_notMem hline.notMem_feed]
      rfl
    | cons second others =>
      have hret : Trailer line.ending.ret := line.ending.trailer_ret
      have hfeed : '\n' ∉ line.text ++ line.ending.ret := by
        simp [hline.notMem_feed, hret.notMem]
      rw [render, Text.splitChars_append hfeed, List.filterMap_cons, hline.declares?_append hret,
        ih hrest]
      · cases hvalue : declares? keep line.text <;> simp [declared, List.filterMap_cons, hvalue]
      · exact List.cons_ne_nil second others

/-- The lines of a text without carriage returns may be edited. -/
theorem steady_linesOf (keep : String) {text : String} (h : '\r' ∉ text.toList) :
    ∀ line ∈ linesOf text, Steady keep line.text := by
  intro line hline
  obtain ⟨part, hpart, rfl⟩ := List.mem_map.mp hline
  have hreturn : '\r' ∉ part := fun hmem => h (Text.mem_of_mem_splitChars hpart hmem)
  exact ⟨Text.notMem_of_mem_splitChars hpart, .inl hreturn⟩

/-- A docblock that is laid out anew has the same values of the tag. -/
theorem Relaid.valuesOf_eq {keep : String} {doc relaid : Option String}
    (h : Relaid keep doc relaid) : valuesOf keep relaid = valuesOf keep doc := by
  cases h with
  | missing => rfl
  | @edited text lines hr h =>
    obtain ⟨hlines, heq⟩ := declared_of_edits h (steady_linesOf keep hr)
    calc valuesOf keep (some (String.ofList (render lines)))
        = declared keep lines := valuesOf_render hlines
      _ = declared keep (linesOf text) := heq
      _ = valuesOf keep (some (String.ofList (render (linesOf text)))) :=
          (valuesOf_render (steady_linesOf keep hr)).symm
      _ = valuesOf keep (some text) := by rw [render_linesOf]

end Docblock

/-- **Layout and foreign text do not count.** The annotations of a test stay as they are when the
docblocks of its class and of itself are laid out anew: by any number of edits that indent lines
differently, put spaces and tabs at their ends, turn all line ends into carriage returns with line
feeds, or insert and delete lines that are no tag lines, tag lines other than `@coversDefaultClass`
in the docblock of the class, and tag lines other than `@covers` in the docblock of the test. -/
theorem Annotations.ofDocblocks_relaid
    {classDoc relaidClassDoc testDoc relaidTestDoc : Option String}
    (hclass : Docblock.Relaid defaultClassTag classDoc relaidClassDoc)
    (htest : Docblock.Relaid coversTag testDoc relaidTestDoc)
    (markedDefaultClasses markedCovers : List String) :
    ofDocblocks relaidClassDoc relaidTestDoc markedDefaultClasses markedCovers =
      ofDocblocks classDoc testDoc markedDefaultClasses markedCovers := by
  rw [ofDocblocks, hclass.valuesOf_eq, htest.valuesOf_eq, ofDocblocks]

/-- A line of the other tag is put before the class's own. -/
theorem relaid_classDoc : Docblock.Relaid Annotations.defaultClassTag
    (some "@coversDefaultClass A") (some "@covers x\r\n@coversDefaultClass A") := by
  have hinsert := @Docblock.Edit.insert Annotations.defaultClassTag []
    (Docblock.linesOf "@coversDefaultClass A") ⟨"@covers x".toList, .lf⟩
    ⟨by decide, .inr ⟨⟨"covers", "x"⟩, by decide, by decide⟩⟩
  have hreturns := @Docblock.Edit.carriageReturns Annotations.defaultClassTag
    (⟨"@covers x".toList, .lf⟩ :: Docblock.linesOf "@coversDefaultClass A")
  exact .edited (by decide) (.tail (.single hinsert) hreturns)

/-- A tag without a value gets blanks behind it, and a line before it goes. -/
theorem relaid_testDoc : Docblock.Relaid Annotations.coversTag
    (some "@covers f\nx\n@covers") (some "\t@covers f\r\n@covers ") := by
  have hdelete := @Docblock.Edit.delete Annotations.coversTag [⟨"@covers f".toList, .lf⟩]
    [⟨"@covers".toList, .lf⟩] ⟨"x".toList, .lf⟩ ⟨by decide, .inl (by decide)⟩
  have hreindent := @Docblock.Edit.reindent Annotations.coversTag [] [⟨"@covers".toList, .lf⟩]
    [] ['\t'] "@covers f".toList .lf (by simp) (by simp [Docblock.isIndent])
  have hpad := @Docblock.Edit.pad Annotations.coversTag [⟨"\t@covers f".toList, .lf⟩] []
    "@covers".toList [' '] .lf (by simp [Docblock.isIndent])
  have hreturns := @Docblock.Edit.carriageReturns Annotations.coversTag
    [⟨"\t@covers f".toList, .lf⟩, ⟨"@covers ".toList, .lf⟩]
  exact .edited (by decide) (.tail (.tail (.tail (.single hdelete) hreindent) hpad) hreturns)

theorem Annotations.ofDocblocks_relaid_both :
    Docblock.Relaid defaultClassTag (some "@coversDefaultClass A")
        (some "@covers x\r\n@coversDefaultClass A") ∧
      Docblock.Relaid coversTag (some "@covers f\nx\n@covers") (some "\t@covers f\r\n@covers ") ∧
      ofDocblocks (some "@coversDefaultClass A") (some "@covers f\nx\n@covers") [] [] =
        ⟨["A"], ["f", ""]⟩ ∧
      ofDocblocks (some "@covers x\r\n@coversDefaultClass A")
          (some "\t@covers f\r\n@covers ") [] [] =
        ⟨["A"], ["f", ""]⟩ := by
  have horiginal : ofDocblocks (some "@coversDefaultClass A") (some "@covers f\nx\n@covers") [] [] =
      ⟨["A"], ["f", ""]⟩ := by decide +kernel
  exact ⟨relaid_classDoc, relaid_testDoc, horiginal,
    (ofDocblocks_relaid relaid_classDoc relaid_testDoc [] []).trans horiginal⟩

end CoverAudit
