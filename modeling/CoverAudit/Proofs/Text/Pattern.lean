/-!
# Patterns

Patterns of characters with repetitions, optional parts and named groups, as far as they repeat
single characters only. A pattern may match a text in several ways. Which way is taken is a matter
of order: `candidates` lists them, the preferred one first, and a search takes the first candidate
at the leftmost position that has one, then goes on behind it.

* `Pattern.Reads`: the ways to match, without their order.
* `Pattern.mem_candidates_iff`: the candidates are exactly these ways.
* `Pattern.search`: the matches in a text, from left to right, of which no two overlap.
-/

namespace CoverAudit.Text

/-- A pattern. -/
inductive Pattern where
  /-- `^`, the start of the text or of one of its lines. -/
  | lineStart
  /-- `$`, the end of the text or of one of its lines. -/
  | lineEnd
  /-- `[…]`, one character. -/
  | char (allowed : Char → Bool)
  /-- `[…]*`, rather more characters than fewer. -/
  | greedy (allowed : Char → Bool)
  /-- `[…]*?`, rather fewer characters than more. -/
  | lazy (allowed : Char → Bool)
  | seq (first second : Pattern)
  /-- `(…)?`, rather there than not. -/
  | optional (inner : Pattern)
  /-- A group: its text is kept under a name. -/
  | capture (name : String) (inner : Pattern)

/-- One way to match a pattern at a position: what it takes of the text that follows, what it
leaves, and the texts of its groups. -/
structure Match where
  consumed : List Char
  rest : List Char
  groups : List (String × List Char) := []
  deriving DecidableEq, Repr

namespace Match

/-- One match behind the other. -/
def append (first second : Match) : Match where
  consumed := first.consumed ++ second.consumed
  rest := second.rest
  groups := first.groups ++ second.groups

/-- The match as a group of its own. -/
def asGroup (name : String) (m : Match) : Match :=
  { m with groups := m.groups ++ [(name, m.consumed)] }

/-- The text of a group, if the group took part in the match. -/
def group (m : Match) (name : String) : Option (List Char) :=
  m.groups.lookup name

end Match

/-- The character before what follows some text. -/
def lastOr (before : Option Char) (text : List Char) : Option Char :=
  text.getLast?.or before

/-- The ways to cut a text behind allowed characters, shortest first. -/
def stretches (allowed : Char → Bool) (text : List Char) : List Match :=
  (List.range ((text.takeWhile allowed).length + 1)).map fun n =>
    { consumed := text.take n, rest := text.drop n }

namespace Pattern

/-- At least one character, rather more than fewer. -/
def oneOrMore (allowed : Char → Bool) : Pattern :=
  .seq (.char allowed) (.greedy allowed)

/-- The ways to match at the position between a character (if there is one) and a text, the
preferred one first. -/
def candidates : Pattern → Option Char → List Char → List Match
  | .lineStart, before, text => if before.all (· = '\n') then [⟨[], text, []⟩] else []
  | .lineEnd, _, text => if text.head?.all (· = '\n') then [⟨[], text, []⟩] else []
  | .char _, _, [] => []
  | .char allowed, _, c :: rest => if allowed c then [⟨[c], rest, []⟩] else []
  | .greedy allowed, _, text => (stretches allowed text).reverse
  | .lazy allowed, _, text => stretches allowed text
  | .seq first second, before, text =>
    (first.candidates before text).flatMap fun m =>
      (second.candidates (lastOr before m.consumed) m.rest).map m.append
  | .optional inner, before, text => inner.candidates before text ++ [⟨[], text, []⟩]
  | .capture name inner, before, text => (inner.candidates before text).map (.asGroup name)

/-- What a search finds at a position with these candidates: the first one, and where that is
empty, behind it the first one that is not. -/
def found : List Match → List Match
  | [] => []
  | first :: others =>
    if first.consumed.isEmpty then
      first :: (others.find? fun m => !m.consumed.isEmpty).toList
    else [first]

/-- The matches from a position on, of which the first `skip` characters belong to an earlier match
already. -/
def searchFrom (pattern : Pattern) (before : Option Char) (skip : Nat) : List Char → List Match
  | [] => if skip = 0 then found (pattern.candidates before []) else []
  | c :: rest =>
    if skip = 0 then
      let here := found (pattern.candidates before (c :: rest))
      let taken := here.getLast?.elim 0 fun m => m.consumed.length
      here ++ searchFrom pattern (some c) (taken - 1) rest
    else searchFrom pattern (some c) (skip - 1) rest

/-- The matches in a text, leftmost first, of which no two overlap. -/
def search (pattern : Pattern) (text : List Char) : List Match :=
  pattern.searchFrom none 0 text

/-- `Reads pattern before consumed rest groups`: behind the character `before` and before the text
`rest`, the pattern can match `consumed` with these groups. -/
def Reads :
    Pattern → Option Char → List Char → List Char → List (String × List Char) → Prop
  | .lineStart, before, consumed, _, groups =>
    before.all (· = '\n') = true ∧ consumed = [] ∧ groups = []
  | .lineEnd, _, consumed, rest, groups =>
    rest.head?.all (· = '\n') = true ∧ consumed = [] ∧ groups = []
  | .char allowed, _, consumed, _, groups =>
    (∃ c, allowed c = true ∧ consumed = [c]) ∧ groups = []
  | .greedy allowed, _, consumed, _, groups => (∀ c ∈ consumed, allowed c = true) ∧ groups = []
  | .lazy allowed, _, consumed, _, groups => (∀ c ∈ consumed, allowed c = true) ∧ groups = []
  | .seq first second, before, consumed, rest, groups =>
    ∃ xs ys own more, consumed = xs ++ ys ∧ groups = own ++ more ∧
      first.Reads before xs (ys ++ rest) own ∧ second.Reads (lastOr before xs) ys rest more
  | .optional inner, before, consumed, rest, groups =>
    inner.Reads before consumed rest groups ∨ consumed = [] ∧ groups = []
  | .capture name inner, before, consumed, rest, groups =>
    ∃ own, groups = own ++ [(name, consumed)] ∧ inner.Reads before consumed rest own

end Pattern

theorem mem_stretches_iff {allowed : Char → Bool} {text : List Char} {m : Match} :
    m ∈ stretches allowed text ↔
      text = m.consumed ++ m.rest ∧ (∀ c ∈ m.consumed, allowed c = true) ∧ m.groups = [] := by
  simp only [stretches, List.mem_map, List.mem_range, Nat.lt_succ_iff]
  constructor
  · rintro ⟨n, hn, rfl⟩
    refine ⟨(List.take_append_drop n text).symm, fun c hc => ?_, rfl⟩
    have hpre : text.take n <+: text.takeWhile allowed :=
      List.prefix_of_prefix_length_le (List.take_prefix n text) (List.takeWhile_prefix allowed)
        (Nat.le_trans (List.length_take_le n text) hn)
    exact List.all_eq_true.mp List.all_takeWhile c (hpre.subset hc)
  · obtain ⟨consumed, rest, groups⟩ := m
    rintro ⟨rfl, hall, rfl⟩
    refine ⟨consumed.length, ?_, by simp⟩
    rw [List.takeWhile_append_of_pos hall, List.length_append]
    exact Nat.le_add_right _ _

namespace Pattern

/-- The candidates are the ways to match. -/
theorem mem_candidates_iff {pattern : Pattern} {before : Option Char}
    {text consumed rest : List Char} {groups : List (String × List Char)} :
    ⟨consumed, rest, groups⟩ ∈ pattern.candidates before text ↔
      text = consumed ++ rest ∧ pattern.Reads before consumed rest groups := by
  induction pattern generalizing before text consumed rest groups with
  | lineStart => simp only [candidates, Reads, List.mem_ite_nil_right]; grind
  | lineEnd => simp only [candidates, Reads, List.mem_ite_nil_right]; grind
  | char allowed =>
    cases text with
    | nil => simp only [candidates, Reads]; grind
    | cons c more => simp only [candidates, Reads, List.mem_ite_nil_right]; grind
  | greedy allowed => rw [candidates, List.mem_reverse, mem_stretches_iff, Reads]
  | lazy allowed => rw [candidates, mem_stretches_iff, Reads]
  | seq first second ihfirst ihsecond =>
    simp only [candidates, Reads, List.mem_flatMap, List.mem_map]
    constructor
    · rintro ⟨⟨xs, behind, own⟩, hx, ⟨ys, last, more⟩, hy, hm⟩
      obtain ⟨rfl, hfirst⟩ := ihfirst.mp hx
      obtain ⟨rfl, hsecond⟩ := ihsecond.mp hy
      cases hm
      exact ⟨(List.append_assoc ..).symm, xs, ys, own, more, rfl, rfl, hfirst, hsecond⟩
    · rintro ⟨rfl, xs, ys, own, more, rfl, rfl, hfirst, hsecond⟩
      exact ⟨⟨xs, ys ++ rest, own⟩, ihfirst.mpr ⟨List.append_assoc .., hfirst⟩, ⟨ys, rest, more⟩,
        ihsecond.mpr ⟨rfl, hsecond⟩, rfl⟩
  | optional inner ih =>
    rw [candidates, List.mem_append, ih, List.mem_singleton, Reads, and_or_left]
    grind
  | capture name inner ih =>
    simp only [candidates, Reads, List.mem_map]
    constructor
    · rintro ⟨⟨cs, last, own⟩, hx, hm⟩
      obtain ⟨rfl, hreads⟩ := ih.mp hx
      cases hm
      exact ⟨rfl, own, rfl, hreads⟩
    · rintro ⟨rfl, own, rfl, hreads⟩
      exact ⟨⟨consumed, rest, own⟩, ih.mpr ⟨rfl, hreads⟩, rfl⟩

theorem reads_oneOrMore_iff {allowed : Char → Bool} {before : Option Char}
    {consumed rest : List Char} {groups : List (String × List Char)} :
    (oneOrMore allowed).Reads before consumed rest groups ↔
      consumed ≠ [] ∧ (∀ c ∈ consumed, allowed c = true) ∧ groups = [] := by
  simp only [oneOrMore, Reads]
  constructor
  · rintro ⟨xs, ys, own, more, rfl, rfl, ⟨⟨c, hc, rfl⟩, rfl⟩, hys, rfl⟩
    exact ⟨by simp, by simpa using ⟨hc, hys⟩, rfl⟩
  · rintro ⟨hne, hall, rfl⟩
    cases consumed with
    | nil => exact absurd rfl hne
    | cons c ys =>
      rw [List.forall_mem_cons] at hall
      exact ⟨[c], ys, [], [], rfl, rfl, ⟨⟨c, hall.1, rfl⟩, rfl⟩, hall.2, rfl⟩

/-! ## Searching -/

/-- Where nothing matches, a search goes on. -/
theorem searchFrom_cons_of_nil {pattern : Pattern} {before : Option Char} {c : Char}
    {rest : List Char} (h : pattern.candidates before (c :: rest) = []) :
    pattern.searchFrom before 0 (c :: rest) = pattern.searchFrom (some c) 0 rest := by
  simp [searchFrom, h, found]

/-- A match that takes something is followed by a search behind it. -/
theorem searchFrom_cons_of_cons {pattern : Pattern} {before : Option Char} {c : Char}
    {rest taken : List Char} {m : Match} {others : List Match}
    (h : pattern.candidates before (c :: rest) = m :: others) (hm : m.consumed = c :: taken) :
    pattern.searchFrom before 0 (c :: rest) =
      m :: pattern.searchFrom (some c) taken.length rest := by
  simp [searchFrom, h, found, hm]

end Pattern

end CoverAudit.Text
