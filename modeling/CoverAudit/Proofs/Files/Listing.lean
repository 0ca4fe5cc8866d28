import CoverAudit.Files.SourceFiles
import Mathlib.Data.List.Sort
import Mathlib.Data.String.Basic

/-!
# What a directory lists

`FileTree.below` gathers the leading parts of all places below a directory, sorts them and leaves
out neighbours that are equal. What comes out is determined by what stands in the directory.

* `Path.partsLe_iff`: paths are ordered as lists of their components.
* `FileTree.mem_below`: something is listed if there is anything at or below it.
* `FileTree.pairwise_below`: the list is in strict order, so nothing is listed twice, and two
  directories that hold the same list the same.
* `FileTree.mem_sourcesBelow`, `FileTree.pairwise_sourcesBelow`: so do the source files among it.
* `FileTree.WellFormed`: the nodes are those of a system of files.
-/

namespace CoverAudit

/-- Whether a text can be the name of a file. -/
def Path.IsComponent (part : String) : Prop :=
  part ≠ "" ∧ part ≠ "." ∧ part ≠ ".." ∧ '/' ∉ part.toList

instance (part : String) : Decidable (Path.IsComponent part) :=
  inferInstanceAs (Decidable (_ ∧ _))

namespace Path

/-- Paths are ordered as lists of their components. -/
theorem partsLe_iff (a b : List String) : partsLe a b = true ↔ a ≤ b := by
  rw [← not_lt]
  induction a generalizing b with
  | nil => simp [partsLe]
  | cons first rest ih =>
    cases b with
    | nil => simp [partsLe]
    | cons second others =>
      rw [partsLe, List.cons_lt_cons_iff]
      by_cases h : first = second
      · simp [h, ih]
      · have hne : ¬ second = first := fun e => h e.symm
        rw [if_neg h, decide_eq_true_iff, or_iff_left fun both => hne both.1, not_lt]
        exact ⟨le_of_lt, fun hle => lt_of_le_of_ne hle h⟩

@[simp] theorem below_root (directory : Path) (parts : List String) :
    (directory.below parts).root = directory.root := rfl

@[simp] theorem below_parts (directory : Path) (parts : List String) :
    (directory.below parts).parts = directory.parts ++ parts := rfl

theorem below_nil (directory : Path) : directory.below [] = directory := by
  simp [below]

theorem below_below (directory : Path) (outer inner : List String) :
    (directory.below outer).below inner = directory.below (outer ++ inner) := by
  simp [below]

end Path

namespace FileTree

/-! ## Places within places -/

theorem isWithin_iff {outer inner : Place} :
    isWithin outer inner = true ↔ ∃ parts, inner = outer.below parts := by
  obtain ⟨root, parts⟩ := inner
  simp only [isWithin, Bool.and_eq_true, decide_eq_true_eq, List.isPrefixOf_iff_prefix]
  constructor
  · rintro ⟨hroot, rest, hparts⟩
    exact ⟨rest, by simp only [Path.below, hroot, hparts]⟩
  · rintro ⟨rest, h⟩
    cases h
    exact ⟨rfl, List.prefix_append _ _⟩

theorem isWithin_below (place : Place) (parts : List String) :
    isWithin place (place.below parts) = true :=
  isWithin_iff.mpr ⟨parts, rfl⟩

theorem isWithin_refl (place : Place) : isWithin place place = true :=
  isWithin_iff.mpr ⟨[], (Path.below_nil place).symm⟩

theorem isWithin_trans {a b c : Place} (hab : isWithin a b = true) (hbc : isWithin b c = true) :
    isWithin a c = true := by
  obtain ⟨inner, rfl⟩ := isWithin_iff.mp hab
  obtain ⟨innermost, rfl⟩ := isWithin_iff.mp hbc
  rw [Path.below_below]
  exact isWithin_below _ _

/-- Something stands at or below a place. -/
def Occupied (tree : FileTree) (place : Place) : Prop :=
  ∃ entry ∈ tree.nodes, isWithin place entry.1 = true

/-! ## The list of a directory -/

theorem mem_fronts {α : Type} {front whole : List α} :
    front ∈ fronts whole ↔ front ≠ [] ∧ front <+: whole := by
  induction whole generalizing front with
  | nil => simp +contextual [fronts]
  | cons a rest ih =>
    cases front with
    | nil => simp [fronts]
    | cons b front =>
      simp only [fronts, List.mem_cons, List.mem_map, List.cons.injEq, List.cons_prefix_cons, ih]
      by_cases hfront : front = []
      · simp [hfront]
      · simp [hfront, and_comm, eq_comm]

theorem mem_dropRepeats {parts : List String} {sorted : List (List String)} :
    parts ∈ dropRepeats sorted ↔ parts ∈ sorted := by
  fun_induction dropRepeats sorted with
  | case1 a rest ih =>
    rw [ih]
    simp
  | case2 a b rest _ ih =>
    rw [List.mem_cons, ih]
    exact List.mem_cons.symm
  | case3 short => rfl

/-- Neighbours that are equal are all that keeps a sorted list from being in strict order. -/
theorem pairwise_dropRepeats {sorted : List (List String)} (h : sorted.Pairwise (· ≤ ·)) :
    (dropRepeats sorted).Pairwise (· < ·) := by
  fun_induction dropRepeats sorted with
  | case1 a rest ih => exact ih h.of_cons
  | case2 a b rest hne ih =>
    refine List.pairwise_cons.mpr ⟨fun c hc => ?_, ih h.of_cons⟩
    have hab : a < b := lt_of_le_of_ne (List.rel_of_pairwise_cons h List.mem_cons_self) hne
    obtain rfl | hc := List.mem_cons.mp (mem_dropRepeats.mp hc)
    · exact hab
    · exact hab.trans_le (List.rel_of_pairwise_cons h.of_cons hc)
  | case3 short hshort =>
    match short with
    | [] => exact List.Pairwise.nil
    | [a] => exact List.pairwise_singleton _ _
    | a :: b :: rest => exact absurd rfl (hshort a b rest)

variable (tree : FileTree) (place : Place)

/-- A directory lists what there is anything at or below. -/
theorem mem_below {parts : List String} :
    parts ∈ tree.below place ↔ parts ≠ [] ∧ tree.Occupied (place.below parts) := by
  simp only [below, mem_dropRepeats, List.mem_mergeSort, List.mem_flatMap]
  constructor
  · rintro ⟨entry, he, hfront⟩
    split at hfront
    · rename_i hwithin
      obtain ⟨inner, hinner⟩ := isWithin_iff.mp hwithin
      rw [hinner, Path.below_parts, List.drop_left] at hfront
      obtain ⟨hne, rest, rfl⟩ := mem_fronts.mp hfront
      refine ⟨hne, entry, he, ?_⟩
      rw [hinner, ← Path.below_below]
      exact isWithin_below _ _
    · cases hfront
  · rintro ⟨hne, entry, he, hwithin⟩
    refine ⟨entry, he, ?_⟩
    obtain ⟨rest, hrest⟩ := isWithin_iff.mp hwithin
    rw [Path.below_below] at hrest
    rw [if_pos (isWithin_iff.mpr ⟨_, hrest⟩), hrest, Path.below_parts, List.drop_left]
    exact mem_fronts.mpr ⟨hne, List.prefix_append _ _⟩

/-- A directory lists in strict order. -/
theorem pairwise_below : (tree.below place).Pairwise (· < ·) := by
  refine pairwise_dropRepeats (List.Pairwise.imp ?_ (List.pairwise_mergeSort ?_ ?_ _))
  · intro a b h
    exact (Path.partsLe_iff a b).mp h
  · intro a b c hab hbc
    rw [Path.partsLe_iff] at hab hbc ⊢
    exact hab.trans hbc
  · intro a b
    rw [Bool.or_eq_true, Path.partsLe_iff, Path.partsLe_iff]
    exact le_total a b

/-! ## Source files -/

variable {tree place}

/-- Something stands below a place that is named like a source file, and no directory on the way to
it is left out. -/
structure IsSource (tree : FileTree) (place : Place) (parts : List String) : Prop where
  occupied : tree.Occupied (place.below parts)
  named : ['.', 'p', 'y'] <:+ (parts.getLastD "").toList
  visible : ∀ directory ∈ parts.dropLast,
    directory.toList.head? ≠ some '.' ∧ directory ≠ "__pycache__"

theorem IsSource.ne_nil {parts : List String} (h : tree.IsSource place parts) : parts ≠ [] := by
  rintro rfl
  exact absurd (List.suffix_nil.mp h.named) (List.cons_ne_nil _ _)

/-- Which source files a directory contributes. -/
theorem mem_sourcesBelow {directory : Path} (hl : tree.locate directory = .ok place)
    {parts : List String} : parts ∈ tree.sourcesBelow directory ↔ tree.IsSource place parts := by
  have hpath : isSourcePath parts = true ↔ ['.', 'p', 'y'] <:+ (parts.getLastD "").toList ∧
      ∀ directory ∈ parts.dropLast,
        directory.toList.head? ≠ some '.' ∧ directory ≠ "__pycache__" := by
    simp [isSourcePath, hasSourceName, isSkippedDirectory]
  simp only [sourcesBelow, hl, List.mem_filter, mem_below, hpath]
  constructor
  · rintro ⟨⟨-, hoccupied⟩, hnamed, hvisible⟩
    exact ⟨hoccupied, hnamed, hvisible⟩
  · intro h
    exact ⟨⟨h.ne_nil, h.occupied⟩, h.named, h.visible⟩

theorem exists_isSource {directory : Path} {parts : List String}
    (h : parts ∈ tree.sourcesBelow directory) : ∃ place, tree.IsSource place parts := by
  cases hl : tree.locate directory with
  | error error => simp [sourcesBelow, hl] at h
  | ok place => exact ⟨place, (mem_sourcesBelow hl).mp h⟩

/-- The source files of a directory are in strict order. -/
theorem pairwise_sourcesBelow (tree : FileTree) (directory : Path) :
    (tree.sourcesBelow directory).Pairwise (· < ·) := by
  unfold sourcesBelow
  split
  · exact (tree.pairwise_below _).filter _
  · exact List.Pairwise.nil

/-! ## Well-formed trees -/

/-- The nodes are those of a system of files. -/
structure WellFormed (tree : FileTree) : Prop where
  /-- Places are made of names. -/
  named : ∀ entry ∈ tree.nodes, ∀ part ∈ entry.1.parts, Path.IsComponent part
  /-- Where places start is a directory. -/
  rooted : ∀ entry ∈ tree.nodes, entry.2 ≠ .directory → entry.1.parts ≠ []
  /-- Nothing stands below a file, and a file has one content. -/
  leaf : ∀ entry ∈ tree.nodes, entry.2 ≠ .directory →
    ∀ other ∈ tree.nodes, isWithin entry.1 other.1 = true → other = entry

instance : DecidableEq Node
  | .file first, .file second =>
    match ByteArray.instDecidableEq first second with
    | .isTrue h => .isTrue (by rw [h])
    | .isFalse h => .isFalse (by simpa using h)
  | .directory, .directory => .isTrue rfl
  | .file _, .directory => .isFalse nofun
  | .directory, .file _ => .isFalse nofun

instance (tree : FileTree) : Decidable tree.WellFormed :=
  decidable_of_iff
    ((∀ entry ∈ tree.nodes, ∀ part ∈ entry.1.parts, Path.IsComponent part) ∧
      (∀ entry ∈ tree.nodes, entry.2 ≠ .directory → entry.1.parts ≠ []) ∧
      ∀ entry ∈ tree.nodes, entry.2 ≠ .directory →
        ∀ other ∈ tree.nodes, isWithin entry.1 other.1 = true → other = entry)
    ⟨fun ⟨named, rooted, leaf⟩ => ⟨named, rooted, leaf⟩,
      fun ⟨named, rooted, leaf⟩ => ⟨named, rooted, leaf⟩⟩

theorem WellFormed.named_of_occupied {tree : FileTree} (hw : tree.WellFormed) {place : Place}
    {parts : List String} (h : tree.Occupied (place.below parts)) :
    ∀ part ∈ parts, Path.IsComponent part := by
  obtain ⟨entry, he, hwithin⟩ := h
  obtain ⟨rest, hrest⟩ := isWithin_iff.mp hwithin
  intro part hpart
  refine hw.named entry he part ?_
  simp [hrest, hpart]

end FileTree

end CoverAudit
