import CoverAudit.Proofs.Docblock.Tags
import CoverAudit.Proofs.Text.Pattern

/-!
# Tags as matches of a pattern

A tag line is a line of a docblock that matches `^[ \t]*@[A-Za-z_-]+([ \t]+.*?)?[ \t]*\r?$`. There
are many ways to match the same line. All of them take the whole line and give the same tag, so
that it does not matter which one a search prefers.

* `reads_tagPattern_iff`: the ways to match.
* `readLine_of_reads`, `notMem_of_reads`, `exists_reads_of_readLine`: what they have in common, and
  when there is one.
* `searchFrom_inside`, `searchFrom_line`, `searchFrom_lines`: a search, inside of a line, over one
  line and over all lines.
* `tags_eq_matches`: the tags of a docblock are those that a search finds.
-/

namespace CoverAudit

namespace Docblock

open Text (Pattern Match)

/-- The value of a tag, with the blanks before it. -/
def valuePattern : Pattern :=
  .optional (.seq (.oneOrMore isIndent) (.capture "value" (.lazy (· ≠ '\n'))))

/-- The end of a tag line. -/
def endPattern : Pattern :=
  .seq (.greedy isIndent) (.seq (.optional (.char (· = '\r'))) .lineEnd)

/-- A tag line. -/
def tagPattern : Pattern :=
  .seq .lineStart <| .seq (.greedy isIndent) <| .seq (.char (· = '@')) <|
    .seq (.capture "name" (.oneOrMore isNameChar)) <| .seq valuePattern endPattern

/-- The tag of a match: its name, and its value without blanks at either end. -/
def Tag.ofMatch (m : Match) : Tag where
  name := String.ofList ((m.group "name").getD [])
  value := String.ofList (Text.stripChars ((m.group "value").getD []))

/-! ## The ways to match a line -/

section Ways

variable {before : Option Char} {consumed rest : List Char} {groups : List (String × List Char)}

theorem reads_valuePattern_iff :
    valuePattern.Reads before consumed rest groups ↔
      ∃ front value, consumed = front ++ value ∧ (∀ c ∈ front, isIndent c = true) ∧
        '\n' ∉ value ∧ (front = [] → value = []) ∧
        groups = if front = [] then [] else [("value", value)] := by
  simp only [valuePattern, Pattern.Reads, Pattern.reads_oneOrMore_iff, decide_eq_true_eq]
  constructor
  · rintro (⟨front, value, _, _, rfl, rfl, ⟨hne, hindent, rfl⟩, _, rfl, hvalue, rfl⟩ | ⟨rfl, rfl⟩)
    · exact ⟨front, value, rfl, hindent, fun h => hvalue _ h rfl, fun h => absurd h hne,
        (if_neg hne).symm⟩
    · exact ⟨[], [], rfl, by simp, by simp, fun _ => rfl, rfl⟩
  · rintro ⟨front, value, rfl, hindent, hvalue, hnil, rfl⟩
    by_cases hne : front = []
    · exact .inr ⟨by simp [hne, hnil hne], if_pos hne⟩
    · exact .inl ⟨front, value, [], [("value", value)], rfl, if_neg hne, ⟨hne, hindent, rfl⟩, [],
        rfl, fun c hc h => hvalue (h ▸ hc), rfl⟩

theorem reads_endPattern_iff :
    endPattern.Reads before consumed rest groups ↔
      rest.head?.all (· = '\n') = true ∧ Trailer consumed ∧ groups = [] := by
  simp only [endPattern, Pattern.Reads, decide_eq_true_eq]
  constructor
  · rintro ⟨blanks, _, _, _, rfl, rfl, ⟨hblanks, rfl⟩, ret, _, _, _, rfl, rfl, hret, hrest, rfl,
      rfl⟩
    rw [List.append_nil]
    obtain ⟨⟨_, rfl, rfl⟩, rfl⟩ | ⟨rfl, rfl⟩ := hret
    · exact ⟨hrest, .mk hblanks (.inr rfl), rfl⟩
    · exact ⟨hrest, .mk hblanks (.inl rfl), rfl⟩
  · rintro ⟨hrest, ⟨hblanks, hret⟩, rfl⟩
    rename_i blanks ret
    refine ⟨blanks, ret, [], [], rfl, rfl, ⟨hblanks, rfl⟩, ret, [], [], [],
      (List.append_nil _).symm, rfl, ?_, hrest, rfl, rfl⟩
    obtain rfl | rfl := hret
    · exact .inr ⟨rfl, rfl⟩
    · exact .inl ⟨⟨'\r', rfl, rfl⟩, rfl⟩

/-- What a match takes behind the name: blanks and a value or nothing, and the end of the line. -/
structure Tail (front value back : List Char) : Prop where
  indent_front : ∀ c ∈ front, isIndent c = true
  notMem_value : '\n' ∉ value
  value_eq_nil : front = [] → value = []
  trailer : Trailer back

theorem reads_tagPattern_iff :
    tagPattern.Reads before consumed rest groups ↔
      before.all (· = '\n') = true ∧ rest.head?.all (· = '\n') = true ∧
        ∃ indent name front value back,
          consumed = indent ++ '@' :: (name ++ (front ++ value ++ back)) ∧
          (∀ c ∈ indent, isIndent c = true) ∧ name ≠ [] ∧ (∀ c ∈ name, isNameChar c = true) ∧
          Tail front value back ∧
          groups = ("name", name) :: if front = [] then [] else [("value", value)] := by
  simp only [tagPattern, Pattern.Reads, Pattern.reads_oneOrMore_iff, reads_valuePattern_iff,
    reads_endPattern_iff, decide_eq_true_eq]
  constructor
  · rintro ⟨_, _, _, _, rfl, rfl, ⟨hbefore, rfl, rfl⟩, indent, _, _, _, rfl, rfl, ⟨hindent, rfl⟩,
      _, _, _, _, rfl, rfl, ⟨⟨_, rfl, rfl⟩, rfl⟩, name, _, _, _, rfl, rfl,
      ⟨_, rfl, hne, hname, rfl⟩, _, back, _, _, rfl, rfl,
      ⟨front, value, rfl, hfront, hvalue, hnil, rfl⟩, hrest, hback, rfl⟩
    exact ⟨hbefore, hrest, indent, name, front, value, back, rfl, hindent, hne, hname,
      ⟨hfront, hvalue, hnil, hback⟩, by simp⟩
  · rintro ⟨hbefore, hrest, indent, name, front, value, back, rfl, hindent, hne, hname, htail, rfl⟩
    exact ⟨[], _, [], _, rfl, rfl, ⟨hbefore, rfl, rfl⟩, indent, _, [], _, rfl, rfl, ⟨hindent, rfl⟩,
      ['@'], _, [], _, rfl, rfl, ⟨⟨'@', rfl, rfl⟩, rfl⟩, name, _, [("name", name)], _, rfl, rfl,
      ⟨[], rfl, hne, hname, rfl⟩, front ++ value, back, _, [], rfl, (List.append_nil _).symm,
      ⟨front, value, rfl, htail.indent_front, htail.notMem_value, htail.value_eq_nil, rfl⟩, hrest,
      htail.trailer, rfl⟩

namespace Tail

variable {front value back : List Char}

theorem endsName (h : Tail front value back) : endsName (front ++ value ++ back) = true := by
  cases front with
  | cons c more =>
    exact (endsName_iff _).mpr (.inr (.inr ⟨c, rfl, h.indent_front c List.mem_cons_self⟩))
  | nil =>
    rw [h.value_eq_nil rfl]
    exact h.trailer.endsName

/-- Only the value is left without blanks. -/
theorem stripChars (h : Tail front value back) :
    Text.stripChars (front ++ value ++ back) = Text.stripChars value := by
  rw [List.append_assoc]
  exact Text.stripChars_append_append (fun c hc => isBlank_of_isIndent (h.indent_front c hc))
    h.trailer.isBlank value

/-- What may follow the name of a tag can be matched. -/
theorem exists_of_endsName {remainder : List Char} (h : Docblock.endsName remainder = true)
    (hline : '\n' ∉ remainder) :
    ∃ front value back, remainder = front ++ value ++ back ∧ Tail front value back := by
  have hempty : Trailer [] := .of_return (.inl rfl)
  obtain rfl | rfl | ⟨c, hc, hindent⟩ := (endsName_iff remainder).mp h
  · exact ⟨[], [], [], rfl, by simp, by simp, fun _ => rfl, hempty⟩
  · exact ⟨[], [], ['\r'], rfl, by simp, by simp, fun _ => rfl, .of_return (.inr rfl)⟩
  · obtain ⟨value, rfl⟩ := List.head?_eq_some_iff.mp hc
    exact ⟨[c], value, [], by simp, by simpa using hindent,
      fun h => hline (List.mem_cons_of_mem c h), by simp, hempty⟩

end Tail

/-- Whatever way a line is matched, the tag is the tag of the line. -/
theorem readLine_of_reads (h : tagPattern.Reads before consumed rest groups) :
    readLine consumed = some (.ofMatch ⟨consumed, rest, groups⟩) := by
  obtain ⟨-, -, indent, name, front, value, back, rfl, hindent, hne, hname, htail, rfl⟩ :=
    reads_tagPattern_iff.mp h
  have hends := htail.endsName
  have hat := AtName.mk hindent hname (isNameChar_head?_of_endsName hends)
  rw [hat.readLine_eq, if_pos ⟨hne, hends⟩, htail.stripChars]
  by_cases hfront : front = []
  · simp [Tag.ofMatch, Match.group, hfront, htail.value_eq_nil hfront, List.lookup_cons]
  · simp [Tag.ofMatch, Match.group, hfront, List.lookup_cons]

/-- No match goes beyond a line. -/
theorem notMem_of_reads (h : tagPattern.Reads before consumed rest groups) : '\n' ∉ consumed := by
  obtain ⟨-, -, indent, name, front, value, back, rfl, hindent, -, hname, htail, -⟩ :=
    reads_tagPattern_iff.mp h
  have hnameline : '\n' ∉ name := fun hmem => absurd (hname _ hmem) (by decide)
  simp [(notMem_of_indent hindent).1, hnameline, (notMem_of_indent htail.indent_front).1,
    htail.notMem_value, htail.trailer.notMem]

/-- A line that is read as a tag can be matched. -/
theorem exists_reads_of_readLine {line : List Char} {tag : Tag} (h : readLine line = some tag)
    (hline : '\n' ∉ line) (hbefore : before.all (· = '\n') = true)
    (hrest : rest.head?.all (· = '\n') = true) :
    ∃ groups, tagPattern.Reads before line rest groups := by
  obtain ⟨hindent, hne, hname, -, hremainder⟩ := readLine_eq_some_iff.mp h
  rename_i indent name remainder
  have hremline : '\n' ∉ remainder := fun hmem => hline (by simp [hmem])
  obtain ⟨front, value, back, rfl, htail⟩ :=
    Tail.exists_of_endsName ((endsName_iff remainder).mpr hremainder) hremline
  exact ⟨_, reads_tagPattern_iff.mpr ⟨hbefore, hrest, indent, name, front, value, back, rfl,
    hindent, hne, hname, htail, rfl⟩⟩

end Ways

/-! ## Candidates at the start of a line and inside of it -/

theorem candidates_eq_nil_of_ne {c : Char} (h : c ≠ '\n') (text : List Char) :
    tagPattern.candidates (some c) text = [] := by
  rw [List.eq_nil_iff_forall_not_mem]
  intro m hm
  obtain ⟨-, hreads⟩ := Pattern.mem_candidates_iff.mp hm
  have hbefore := (reads_tagPattern_iff.mp hreads).1
  exact h (by simpa using hbefore)

/-- A text up to its first line feed. -/
theorem takeWhile_line {line rest : List Char} (hline : '\n' ∉ line)
    (hrest : rest.head?.all (· = '\n') = true) :
    (line ++ rest).takeWhile (· ≠ '\n') = line := by
  have hall : ∀ c ∈ line, decide (c ≠ '\n') = true :=
    fun c hc => decide_eq_true fun h => hline (h ▸ hc)
  have hstop : ∀ c ∈ rest.head?, decide (c ≠ '\n') = false := by
    intro c hc
    rw [Option.mem_def.mp hc] at hrest
    simpa using hrest
  rw [List.takeWhile_append_of_pos hall, (takeWhile_eq_nil_of_head? hstop).1, List.append_nil]

/-- A candidate takes the whole line and has its tag. -/
theorem of_mem_candidates {before : Option Char} {line rest : List Char} {m : Match}
    (hline : '\n' ∉ line) (hrest : rest.head?.all (· = '\n') = true)
    (h : m ∈ tagPattern.candidates before (line ++ rest)) :
    m.consumed = line ∧ readLine line = some (.ofMatch m) := by
  obtain ⟨consumed, behind, groups⟩ := m
  obtain ⟨htext, hreads⟩ := Pattern.mem_candidates_iff.mp h
  have hbehind := (reads_tagPattern_iff.mp hreads).2.1
  have hconsumed : consumed = line := by
    rw [← takeWhile_line hline hrest, htext, takeWhile_line (notMem_of_reads hreads) hbehind]
  exact ⟨hconsumed, hconsumed ▸ readLine_of_reads hreads⟩

/-- Two ways to match, which differ in the blank behind the value, and one tag. -/
example :
    (tagPattern.candidates none "@a b ".toList).map Tag.ofMatch = [⟨"a", "b"⟩, ⟨"a", "b"⟩] := by
  decide +kernel

theorem candidates_eq_nil_iff {before : Option Char} {line rest : List Char} (hline : '\n' ∉ line)
    (hbefore : before.all (· = '\n') = true) (hrest : rest.head?.all (· = '\n') = true) :
    tagPattern.candidates before (line ++ rest) = [] ↔ readLine line = none := by
  rw [List.eq_nil_iff_forall_not_mem]
  constructor
  · intro hnone
    rw [Option.eq_none_iff_forall_ne_some]
    intro tag htag
    obtain ⟨groups, hreads⟩ := exists_reads_of_readLine htag hline hbefore hrest
    exact hnone ⟨line, rest, groups⟩ (Pattern.mem_candidates_iff.mpr ⟨rfl, hreads⟩)
  · intro hnone m hm
    obtain ⟨-, hsome⟩ := of_mem_candidates hline hrest hm
    rw [hnone] at hsome
    cases hsome

/-! ## A search goes from line to line -/

/-- What a search finds behind a line. -/
def searchBehind : List Char → List Match
  | [] => []
  | _ :: more => tagPattern.searchFrom (some '\n') 0 more

/-- Inside of a line nothing is found. -/
theorem searchFrom_inside {c : Char} {cs rest : List Char} {skip : Nat} (hc : c ≠ '\n')
    (hcs : '\n' ∉ cs) (hskip : skip ≤ cs.length) (hrest : rest.head?.all (· = '\n') = true) :
    tagPattern.searchFrom (some c) skip (cs ++ rest) = searchBehind rest := by
  induction cs generalizing c skip with
  | nil =>
    obtain rfl : skip = 0 := Nat.le_zero.mp hskip
    have hnone := candidates_eq_nil_of_ne hc
    cases rest with
    | nil => simp [Pattern.searchFrom, hnone, Pattern.found, searchBehind]
    | cons d more =>
      obtain rfl : d = '\n' := by simpa using hrest
      exact Pattern.searchFrom_cons_of_nil (hnone _)
  | cons d more ih =>
    have hd : d ≠ '\n' := fun h => hcs (h ▸ List.mem_cons_self)
    have hmore : '\n' ∉ more := fun h => hcs (List.mem_cons_of_mem d h)
    cases skip with
    | zero =>
      rw [List.cons_append, Pattern.searchFrom_cons_of_nil (candidates_eq_nil_of_ne hc _)]
      exact ih hd hmore (Nat.zero_le _)
    | succ skip => exact ih hd hmore (Nat.le_of_succ_le_succ hskip)

/-- One line: it is found if it is a tag line. -/
theorem searchFrom_line {before : Option Char} {line rest : List Char} (hline : '\n' ∉ line)
    (hbefore : before.all (· = '\n') = true) (hrest : rest.head?.all (· = '\n') = true) :
    (tagPattern.searchFrom before 0 (line ++ rest)).map (fun m => (m.consumed, Tag.ofMatch m)) =
      ((readLine line).map fun tag => (line, tag)).toList ++
        (searchBehind rest).map fun m => (m.consumed, Tag.ofMatch m) := by
  have hnil := candidates_eq_nil_iff hline hbefore hrest
  cases line with
  | nil =>
    have hnone : tagPattern.candidates before rest = [] := hnil.mpr rfl
    cases rest with
    | nil => simp [Pattern.searchFrom, hnone, Pattern.found, searchBehind, readLine]
    | cons d more =>
      obtain rfl : d = '\n' := by simpa using hrest
      rw [List.nil_append, Pattern.searchFrom_cons_of_nil hnone]
      rfl
  | cons c cs =>
    have hc : c ≠ '\n' := fun h => hline (h ▸ List.mem_cons_self)
    have hcs : '\n' ∉ cs := fun h => hline (List.mem_cons_of_mem c h)
    cases hcandidates : tagPattern.candidates before (c :: (cs ++ rest)) with
    | nil =>
      rw [hnil.mp hcandidates, List.cons_append, Pattern.searchFrom_cons_of_nil hcandidates,
        searchFrom_inside hc hcs (Nat.zero_le _) hrest]
      rfl
    | cons m others =>
      have hm : m ∈ tagPattern.candidates before (c :: (cs ++ rest)) :=
        hcandidates ▸ List.mem_cons_self
      obtain ⟨hconsumed, htag⟩ := of_mem_candidates hline hrest hm
      rw [htag, List.cons_append, Pattern.searchFrom_cons_of_cons hcandidates hconsumed,
        searchFrom_inside hc hcs (Nat.le_refl _) hrest, List.map_cons, hconsumed]
      rfl

/-- All lines, by induction on them: a search finds the tag lines in their order. -/
theorem searchFrom_lines {before : Option Char} {lines : List (List Char)} (hne : lines ≠ [])
    (hlines : ∀ line ∈ lines, '\n' ∉ line) (hbefore : before.all (· = '\n') = true) :
    (tagPattern.searchFrom before 0 (Text.joinChars '\n' lines)).map
        (fun m => (m.consumed, Tag.ofMatch m)) =
      lines.filterMap fun line => (readLine line).map fun tag => (line, tag) := by
  induction lines generalizing before with
  | nil => exact absurd rfl hne
  | cons line more ih =>
    obtain ⟨hline, hmore⟩ := List.forall_mem_cons.mp hlines
    cases more with
    | nil =>
      have hlast := searchFrom_line hline hbefore
        (show ([] : List Char).head?.all _ = true from rfl)
      rw [List.append_nil] at hlast
      rw [Text.joinChars, hlast]
      cases htag : readLine line <;> simp [htag, searchBehind]
    | cons second others =>
      have hnext := searchFrom_line hline hbefore
        (show ('\n' :: Text.joinChars '\n' (second :: others)).head?.all _ = true from rfl)
      have hlater := ih (List.cons_ne_nil second others) hmore
        (show (some '\n').all _ = true from rfl)
      rw [Text.joinChars, hnext, searchBehind, hlater]
      · cases htag : readLine line <;> simp [List.filterMap_cons, htag]
      · exact List.cons_ne_nil second others

/-- **Tags line by line.** A search for tag lines in a text takes whole lines only, and takes
exactly those of the lines between line feeds that are read as a tag, in their order. A line is read
as a tag if it is a tag line in the sense of `TagLine`. The tags of a docblock are those that the
search finds: names in order of first appearance, and for each name its values in the order of the
lines, as often as they are declared. -/
theorem tags_eq_matches (text : String) :
    let lines := Text.splitChars '\n' text.toList
    let found := tagPattern.search text.toList
    let declared := found.map Tag.ofMatch
    (∀ line tag, readLine line = some tag ↔ TagLine line tag) ∧
      found.map (fun m => (m.consumed, Tag.ofMatch m)) =
        lines.filterMap (fun line => (readLine line).map fun tag => (line, tag)) ∧
      (tags (some text)).keys = (declared.map Tag.name).eraseDups ∧
      ∀ name, (tags (some text)).getD name [] =
        (declared.filter fun tag => tag.name = name).map Tag.value := by
  intro lines found declared
  have hfound : found.map (fun m => (m.consumed, Tag.ofMatch m)) =
      lines.filterMap fun line => (readLine line).map fun tag => (line, tag) := by
    have hsearch := searchFrom_lines (Text.splitChars_ne_nil '\n' text.toList)
      (fun _ => Text.notMem_of_mem_splitChars) (show none.all _ = true from rfl)
    rwa [Text.joinChars_splitChars] at hsearch
  have hdeclared : tagsOf text = declared := by
    have hread : tagsOf text =
        (lines.filterMap fun line => (readLine line).map fun tag => (line, tag)).map Prod.snd := by
      rw [List.map_filterMap]
      simp [tagsOf, lines, Function.comp_def]
    rw [hread, ← hfound, List.map_map]
    rfl
  refine ⟨fun _ _ => readLine_eq_some_iff, hfound, ?_, fun name => ?_⟩
  · rw [← hdeclared]
    exact keys_group (tagsOf text)
  · rw [← hdeclared]
    exact getD_group (tagsOf text) name

end Docblock

end CoverAudit
