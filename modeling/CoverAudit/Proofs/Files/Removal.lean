import CoverAudit.Files.SourceFiles
import CoverAudit.Proofs.Files.Listing

/-!
# Removing files

What a file tree looks like after some of its files are removed. Their directories stay, so every
place but those of the files holds what it held before.

* `FileTree.without`: a tree with some files removed; `nodeAt?_without` says what is where.
* `FileTree.below_without`: a directory lists what it listed before, less the files.
* `FileTree.ReadsAs`: one tree has the sources of another, and at most lacks files that are none.
  Removing files that are no sources gives such a tree (`readsAs_without`).
-/

namespace CoverAudit

namespace FileTree

variable {tree : FileTree} {place : Place} {content : ByteArray}

/-! ## What is at a place -/

theorem WellFormed.file_ne_root (hw : tree.WellFormed)
    (h : (place, Node.file content) ∈ tree.nodes) : place.parts ≠ [] :=
  hw.rooted _ h nofun

theorem WellFormed.file_leaf (hw : tree.WellFormed) {entry : Place × Node}
    (h : (place, Node.file content) ∈ tree.nodes) (he : entry ∈ tree.nodes)
    (hwithin : isWithin place entry.1 = true) : entry = (place, .file content) :=
  hw.leaf _ h nofun entry he hwithin

theorem mem_of_nodeAt?_file (h : tree.nodeAt? place = some (.file content)) :
    (place, .file content) ∈ tree.nodes := by
  unfold nodeAt? at h
  split at h
  · rename_i found node hfound
    cases h
    have hat : found = place := by simpa using List.find?_some hfound
    exact hat ▸ List.mem_of_find?_eq_some hfound
  · split at h
    · cases h
    · split at h <;> cases h

theorem nodeAt?_eq_none_iff :
    tree.nodeAt? place = none ↔
      ¬ (place.parts = [] ∧ place.root = .relative) ∧ ¬ tree.Occupied place := by
  unfold nodeAt?
  split
  · rename_i found node hfound
    have hat : found = place := by simpa using List.find?_some hfound
    have hoccupied : tree.Occupied place :=
      ⟨_, List.mem_of_find?_eq_some hfound, hat ▸ isWithin_refl found⟩
    simp [hoccupied]
  · simp only [Bool.and_eq_true, List.isEmpty_iff, decide_eq_true_eq, List.any_eq_true]
    split
    · rename_i hstart
      simp [hstart]
    · rename_i hstart
      split
      · rename_i hoccupied
        simp [Occupied, hoccupied]
      · rename_i hfree
        simp only [true_iff]
        exact ⟨hstart, hfree⟩

/-- What a tree holds at a place is known from the files that it lists and from where something
stands. -/
theorem nodeAt?_congr {first second : FileTree}
    (hfile : ∀ content, first.nodeAt? place = some (.file content) ↔
      second.nodeAt? place = some (.file content))
    (hnone : first.nodeAt? place = none ↔ second.nodeAt? place = none) :
    first.nodeAt? place = second.nodeAt? place := by
  cases hfirst : first.nodeAt? place with
  | none => exact (hnone.mp hfirst).symm
  | some node =>
    cases node with
    | file content => exact ((hfile content).mp hfirst).symm
    | directory =>
      cases hsecond : second.nodeAt? place with
      | none => rw [hnone.mpr hsecond] at hfirst; cases hfirst
      | some node =>
        cases node with
        | file content => rw [(hfile content).mpr hsecond] at hfirst; cases hfirst
        | directory => rfl

namespace WellFormed

variable (hw : tree.WellFormed)
include hw

theorem nodeAt?_file_iff :
    tree.nodeAt? place = some (.file content) ↔ (place, .file content) ∈ tree.nodes := by
  refine ⟨mem_of_nodeAt?_file, fun h => ?_⟩
  unfold nodeAt?
  split
  · rename_i found node hfound
    have hat : found = place := by simpa using List.find?_some hfound
    have hentry := hw.file_leaf h (List.mem_of_find?_eq_some hfound) (hat ▸ isWithin_refl found)
    cases hentry
    rfl
  · rename_i hnone
    have := List.find?_eq_none.mp hnone _ h
    simp at this

/-- What something stands below is a directory. -/
theorem nodeAt?_of_below {parts : List String} (hne : parts ≠ [])
    (h : tree.Occupied (place.below parts)) : tree.nodeAt? place = some .directory := by
  obtain ⟨entry, he, hwithin⟩ := h
  have habove : isWithin place entry.1 = true := isWithin_trans (isWithin_below place parts) hwithin
  cases hnode : tree.nodeAt? place with
  | none => exact absurd ⟨entry, he, habove⟩ (nodeAt?_eq_none_iff.mp hnode).2
  | some node =>
    cases node with
    | directory => rfl
    | file content =>
      have hentry := hw.file_leaf (mem_of_nodeAt?_file hnode) he habove
      obtain ⟨rest, hrest⟩ := isWithin_iff.mp hwithin
      have hparts := congrArg Path.parts hrest
      simp [hentry, hne] at hparts

/-- Along the components of something that is listed, every step leads on. -/
theorem walk_below {parts : List String} (h : tree.Occupied (place.below parts)) :
    tree.walk place parts = .ok (place.below parts) := by
  have hnamed : ∀ part ∈ parts, part ≠ ".." :=
    fun part hpart => (hw.named_of_occupied h part hpart).2.2.1
  induction parts generalizing place with
  | nil => rw [walk, Path.below_nil]
  | cons part rest ih =>
    have hsplit : (place.below [part]).below rest = place.below (part :: rest) :=
      Path.below_below place [part] rest
    rw [walk, hw.nodeAt?_of_below (List.cons_ne_nil part rest) h]
    simp only [if_neg (hnamed part List.mem_cons_self)]
    rw [← hsplit] at h ⊢
    exact ih h fun other hother => hnamed other (List.mem_cons_of_mem part hother)

end WellFormed

/-! ## Where paths lead -/

theorem walk_append (tree : FileTree) (place : Place) (first second : List String) :
    tree.walk place (first ++ second) =
      (tree.walk place first).bind fun reached => tree.walk reached second := by
  induction first generalizing place with
  | nil => rfl
  | cons part rest ih =>
    rw [List.cons_append, walk, walk]
    split
    · rfl
    · rfl
    · split
      · split
        · rfl
        · exact ih _
      · exact ih _

theorem locate_below {path : Path} {parts : List String} (hl : tree.locate path = .ok place)
    (hw : tree.WellFormed) (h : tree.Occupied (place.below parts)) :
    tree.locate (path.below parts) = .ok (place.below parts) := by
  unfold locate at hl ⊢
  rw [Path.below_parts, walk_append]
  show (tree.walk { path with parts := [] } path.parts).bind _ = _
  rw [hl]
  exact hw.walk_below h

theorem toOption_find (tree : FileTree) (path : Path) :
    (tree.find path).toOption = (tree.locate path).toOption.bind tree.nodeAt? := by
  unfold find
  cases tree.locate path with
  | error error => rfl
  | ok place =>
    show _ = tree.nodeAt? place
    simp only [bind, Except.bind]
    cases tree.nodeAt? place <;> rfl

theorem isFile_iff {path : Path} :
    tree.isFile path = true ↔ ∃ content, (tree.find path).toOption = some (.file content) := by
  unfold isFile
  cases tree.find path with
  | error error => simp [Except.toOption]
  | ok node => cases node <;> simp [Except.toOption]

theorem isDirectory_iff {path : Path} :
    tree.isDirectory path = true ↔ (tree.find path).toOption = some .directory := by
  unfold isDirectory
  cases tree.find path with
  | error error => simp [Except.toOption]
  | ok node => cases node <;> simp [Except.toOption]

theorem exists?_iff {path : Path} :
    tree.exists? path = true ↔ tree.isFile path = true ∨ tree.isDirectory path = true := by
  rw [isFile_iff, isDirectory_iff, exists?]
  cases (tree.find path).toOption with
  | none => simp
  | some node => cases node <;> simp

/-- The statements of a node, if it is a source file. -/
def Node.source? (parse : Source.Reader) : Node → Option (List Source.Stmt)
  | .file content => (decode content).toOption.bind fun text => (parse text).toOption
  | .directory => none

theorem toOption_readSource (tree : FileTree) (parse : Source.Reader) (path : Path) :
    (tree.readSource parse path).toOption =
      (tree.find path).toOption.bind (Node.source? parse) := by
  unfold readSource read
  cases tree.find path with
  | error error => rfl
  | ok node =>
    cases node with
    | directory => rfl
    | file content =>
      simp only [bind, Except.bind, Except.toOption, Option.bind_some, Node.source?]
      cases decode content with
      | error error => rfl
      | ok text => cases hparse : parse text <;> simp [hparse]

/-! ## Trees with files removed -/

/-- The directory that something stands in. -/
def parent (place : Place) : Place :=
  { place with parts := place.parts.dropLast }

/-- A tree with some files removed. The directories that they stand in stay. -/
def without (tree : FileTree) (gone : List Place) : FileTree :=
  ⟨tree.nodes.map fun entry => if entry.1 ∈ gone then (parent entry.1, .directory) else entry⟩

/-- All of some places are files of a tree. -/
def AreFiles (tree : FileTree) (gone : List Place) : Prop :=
  ∀ place ∈ gone, ∃ content, (place, Node.file content) ∈ tree.nodes

theorem isWithin_parent (place : Place) : isWithin (parent place) place = true := by
  simp [isWithin, parent, List.dropLast_prefix]

theorem isWithin_parent_of_ne {outer inner : Place} (h : isWithin outer inner = true)
    (hne : outer ≠ inner) : isWithin outer (parent inner) = true := by
  obtain ⟨parts, rfl⟩ := isWithin_iff.mp h
  have hparts : parts ≠ [] := by
    rintro rfl
    exact hne (Path.below_nil outer).symm
  have hparent : parent (outer.below parts) = outer.below parts.dropLast := by
    simp [parent, Path.below, List.dropLast_append_of_ne_nil hparts]
  rw [hparent]
  exact isWithin_below _ _

/-- A file does not stand in itself. -/
theorem not_isWithin_parent (h : place.parts ≠ []) : isWithin place (parent place) = false := by
  rw [Bool.eq_false_iff]
  intro hwithin
  obtain ⟨parts, hparts⟩ := isWithin_iff.mp hwithin
  have hlength := congrArg (fun path : Place => path.parts.length) hparts
  have hpos := List.length_pos_iff.mpr h
  simp only [parent, Path.below_parts, List.length_append, List.length_dropLast] at hlength
  omega

theorem mem_file_without {gone : List Place} :
    (place, .file content) ∈ (tree.without gone).nodes ↔
      (place, .file content) ∈ tree.nodes ∧ place ∉ gone := by
  simp only [without, List.mem_map]
  constructor
  · rintro ⟨entry, he, heq⟩
    split at heq
    · cases heq
    · rename_i hentry
      subst heq
      exact ⟨he, hentry⟩
  · rintro ⟨he, hplace⟩
    exact ⟨_, he, if_neg hplace⟩

theorem WellFormed.without (hw : tree.WellFormed) (gone : List Place) :
    (tree.without gone).WellFormed where
  named := by
    intro entry hentry part hpart
    obtain ⟨old, he, rfl⟩ := List.mem_map.mp hentry
    split at hpart
    · exact hw.named old he part ((List.dropLast_subset _ hpart))
    · exact hw.named old he part hpart
  rooted := by
    intro entry hentry hfile
    obtain ⟨old, he, rfl⟩ := List.mem_map.mp hentry
    split at hfile
    · exact absurd rfl hfile
    · rename_i hstays
      rw [if_neg hstays]
      exact hw.rooted old he hfile
  leaf := by
    rintro ⟨place, node⟩ hentry hfile other hother hwithin
    cases node with
    | directory => exact absurd rfl hfile
    | file content =>
      obtain ⟨hold, hplace⟩ := mem_file_without.mp hentry
      obtain ⟨old, he, rfl⟩ := List.mem_map.mp hother
      split at hwithin
      · -- A file that stays is not above one that is removed.
        rename_i hgone
        have heq := hw.file_leaf hold he (isWithin_trans hwithin (isWithin_parent _))
        rw [heq] at hgone
        exact absurd hgone hplace
      · rename_i hstays
        rw [if_neg hstays]
        exact hw.file_leaf hold he hwithin

section Removal

variable {gone : List Place} (hw : tree.WellFormed) (hg : tree.AreFiles gone)
include hw hg

/-- An entry at or below a file that is removed is that file. -/
theorem fst_mem_of_isWithin {entry : Place × Node} (hplace : place ∈ gone)
    (he : entry ∈ tree.nodes) (hwithin : isWithin place entry.1 = true) : entry.1 = place := by
  obtain ⟨content, hfile⟩ := hg place hplace
  rw [hw.file_leaf hfile he hwithin]

/-- Something stands where it stood before, except at the files that are removed. -/
theorem occupied_without :
    (tree.without gone).Occupied place ↔ tree.Occupied place ∧ place ∉ gone := by
  constructor
  · rintro ⟨new, hnew, hwithin⟩
    obtain ⟨entry, he, rfl⟩ := List.mem_map.mp hnew
    split at hwithin
    · -- The directory of a file that is removed.
      rename_i hentry
      have habove : isWithin place entry.1 = true := isWithin_trans hwithin (isWithin_parent _)
      refine ⟨⟨entry, he, habove⟩, fun hplace => ?_⟩
      have hat := fst_mem_of_isWithin hw hg hplace he habove
      obtain ⟨content, hfile⟩ := hg place hplace
      rw [hat, not_isWithin_parent (hw.file_ne_root hfile)] at hwithin
      cases hwithin
    · rename_i hentry
      refine ⟨⟨entry, he, hwithin⟩, fun hplace => hentry ?_⟩
      rw [fst_mem_of_isWithin hw hg hplace he hwithin]
      exact hplace
  · rintro ⟨⟨entry, he, hwithin⟩, hplace⟩
    refine ⟨_, List.mem_map_of_mem he, ?_⟩
    split
    · rename_i hentry
      exact isWithin_parent_of_ne hwithin fun hat => hplace (hat ▸ hentry)
    · exact hwithin

/-- Every place holds what it held before, except for the files that are removed. -/
theorem nodeAt?_without :
    (tree.without gone).nodeAt? place = if place ∈ gone then none else tree.nodeAt? place := by
  split
  · rename_i hplace
    obtain ⟨content, hfile⟩ := hg place hplace
    refine nodeAt?_eq_none_iff.mpr ⟨fun hstart => hw.file_ne_root hfile hstart.1, fun hocc => ?_⟩
    exact ((occupied_without hw hg).mp hocc).2 hplace
  · rename_i hplace
    refine nodeAt?_congr (fun content => ?_) ?_
    · rw [(hw.without gone).nodeAt?_file_iff, hw.nodeAt?_file_iff, mem_file_without]
      exact and_iff_left hplace
    · rw [nodeAt?_eq_none_iff, nodeAt?_eq_none_iff, occupied_without hw hg, and_iff_left hplace]

theorem toOption_walk_without (parts : List String) :
    ((tree.without gone).walk place parts).toOption = (tree.walk place parts).toOption := by
  induction parts generalizing place with
  | nil => rfl
  | cons part rest ih =>
    rw [walk, walk, nodeAt?_without hw hg]
    by_cases hplace : place ∈ gone
    · -- A path that goes on behind a file leads nowhere, and so it does behind nothing.
      obtain ⟨content, hfile⟩ := hg place hplace
      rw [if_pos hplace, hw.nodeAt?_file_iff.mpr hfile]
      rfl
    · rw [if_neg hplace]
      cases tree.nodeAt? place with
      | none => rfl
      | some node =>
        cases node with
        | file content => rfl
        | directory =>
          simp only
          split
          · split
            · rfl
            · exact ih
          · exact ih

/-- A path leads to what it led to before, unless that was one of the files that are removed. -/
theorem find_without_cases (path : Path) :
    ((tree.without gone).find path).toOption = (tree.find path).toOption ∨
      ∃ place ∈ gone, tree.locate path = .ok place ∧
        ((tree.without gone).find path).toOption = none := by
  have hlocate : ((tree.without gone).locate path).toOption = (tree.locate path).toOption :=
    toOption_walk_without hw hg path.parts
  simp only [toOption_find, hlocate]
  cases hpath : tree.locate path with
  | error error => exact .inl rfl
  | ok place =>
    have hnode : (tree.without gone).nodeAt? place =
        if place ∈ gone then none else tree.nodeAt? place := nodeAt?_without hw hg
    by_cases hplace : place ∈ gone
    · rw [if_pos hplace] at hnode
      exact .inr ⟨place, hplace, rfl, hnode⟩
    · rw [if_neg hplace] at hnode
      exact .inl hnode

/-- A directory lists what it listed before, except for the files that are removed. -/
theorem below_without (place : Place) :
    (tree.without gone).below place =
      (tree.below place).filter fun parts => place.below parts ∉ gone := by
  refine (pairwise_below _ place).eq_of_mem_iff ((pairwise_below tree place).filter _) ?_
  intro parts
  rw [mem_below, List.mem_filter, mem_below, occupied_without hw hg, decide_eq_true_iff, and_assoc]

end Removal

/-! ## Sources that are left -/

variable {parse : Source.Reader}

/-- Content that is no source: it is not UTF-8, or its text does not parse. -/
def Unreadable (parse : Source.Reader) (content : ByteArray) : Prop :=
  String.fromUTF8? content = none ∨
    ∃ text error, decode content = .ok text ∧ parse text = .error error

theorem Unreadable.source?_eq_none (h : Unreadable parse content) :
    (Node.file content).source? parse = none := by
  obtain h | ⟨text, error, hdecode, hparse⟩ := h
  · simp [Node.source?, decode, h, Except.toOption]
  · simp [Node.source?, hdecode, hparse, Except.toOption]

/-- `first` has the sources of `second`: it lacks at most files that can not be read as sources. -/
structure ReadsAs (first : FileTree) (parse : Source.Reader) (second : FileTree) : Prop where
  readSource : ∀ path,
    (first.readSource parse path).toOption = (second.readSource parse path).toOption
  isDirectory : ∀ path, first.isDirectory path = second.isDirectory path
  isFile : ∀ {path}, first.isFile path = true → second.isFile path = true
  unread : ∀ {path}, second.isFile path = true → first.isFile path = false →
    (second.readSource parse path).toOption = none
  sourcesBelow : ∀ {path}, second.isDirectory path = true →
    ∃ keeps : List String → Bool,
      first.sourcesBelow path = (second.sourcesBelow path).filter keeps ∧
        ∀ parts ∈ second.sourcesBelow path, keeps parts = false →
          (second.readSource parse (path.below parts)).toOption = none

theorem isDirectory_of_isFile {path : Path} (h : tree.isFile path = true) :
    tree.isDirectory path = false := by
  unfold isFile at h
  unfold isDirectory
  split at h
  · rename_i hfind
    rw [hfind]
  · cases h

/-- A path is a file to both trees, or it is a file that only the second has and that can not be
read, or it is a file to neither. -/
theorem ReadsAs.isFile_cases {first second : FileTree} (h : first.ReadsAs parse second)
    (path : Path) :
    (first.isFile path = true ∧ second.isFile path = true) ∨
      (first.isFile path = false ∧ second.isFile path = true ∧
        second.isDirectory path = false ∧ (second.readSource parse path).toOption = none) ∨
      (first.isFile path = false ∧ second.isFile path = false) := by
  cases hfirst : first.isFile path with
  | true => exact .inl ⟨rfl, h.isFile hfirst⟩
  | false =>
    cases hsecond : second.isFile path with
    | true => exact .inr (.inl ⟨rfl, rfl, isDirectory_of_isFile hsecond, h.unread hsecond hfirst⟩)
    | false => exact .inr (.inr ⟨rfl, rfl⟩)

/-- What is made of the sources below a directory is the same. -/
theorem ReadsAs.filterMap_sourcesBelow {first second : FileTree} (h : first.ReadsAs parse second)
    {path : Path} (hd : second.isDirectory path = true) {α : Type} (f : List String → Option α)
    (hf : ∀ parts, (second.readSource parse (path.below parts)).toOption = none → f parts = none) :
    (first.sourcesBelow path).filterMap f = (second.sourcesBelow path).filterMap f := by
  obtain ⟨keeps, hsources, hdropped⟩ := h.sourcesBelow hd
  rw [hsources, List.filterMap_filter]
  refine List.filterMap_congr fun parts hparts => ?_
  cases hkept : keeps parts with
  | true => rfl
  | false => exact (hf parts (hdropped parts hparts hkept)).symm

section Unreadable

variable {gone : List Place} (hw : tree.WellFormed)
  (hg : ∀ place ∈ gone, ∃ content,
    (place, Node.file content) ∈ tree.nodes ∧ Unreadable parse content)
include hw hg

omit hw in
theorem areFiles_of_unreadable : tree.AreFiles gone := by
  intro place hplace
  obtain ⟨content, hfile, -⟩ := hg place hplace
  exact ⟨content, hfile⟩

/-- A path that leads to one of the files is read in vain. -/
theorem readSource_of_locate {path : Path} (hplace : place ∈ gone)
    (hl : tree.locate path = .ok place) :
    (tree.readSource parse path).toOption = none ∧
      ∃ content, (tree.find path).toOption = some (.file content) := by
  obtain ⟨content, hfile, hunreadable⟩ := hg place hplace
  have hfind : (tree.find path).toOption = some (.file content) := by
    rw [toOption_find, hl]
    exact hw.nodeAt?_file_iff.mpr hfile
  refine ⟨?_, content, hfind⟩
  rw [toOption_readSource, hfind]
  exact hunreadable.source?_eq_none

/-- Files that can not be read as sources may as well be absent. -/
theorem readsAs_without : (tree.without gone).ReadsAs parse tree where
  readSource := by
    intro path
    obtain hsame | ⟨place, hplace, hl, hnone⟩ :=
      find_without_cases hw (areFiles_of_unreadable hg) path
    · rw [toOption_readSource, toOption_readSource, hsame]
    · rw [(readSource_of_locate hw hg hplace hl).1, toOption_readSource, hnone]
      rfl
  isDirectory := by
    intro path
    rw [Bool.eq_iff_iff, isDirectory_iff, isDirectory_iff]
    obtain hsame | ⟨place, hplace, hl, hnone⟩ :=
      find_without_cases hw (areFiles_of_unreadable hg) path
    · rw [hsame]
    · obtain ⟨-, content, hfind⟩ := readSource_of_locate hw hg hplace hl
      simp [hnone, hfind]
  isFile := by
    intro path hfile
    obtain hsame | ⟨place, hplace, hl, hnone⟩ :=
      find_without_cases hw (areFiles_of_unreadable hg) path
    · rw [isFile_iff] at hfile ⊢
      rwa [hsame] at hfile
    · exact isFile_iff.mpr (readSource_of_locate hw hg hplace hl).2
  unread := by
    intro path hfile hgone
    obtain hsame | ⟨place, hplace, hl, -⟩ :=
      find_without_cases hw (areFiles_of_unreadable hg) path
    · rw [isFile_iff, ← hsame, ← isFile_iff, hgone] at hfile
      cases hfile
    · exact (readSource_of_locate hw hg hplace hl).1
  sourcesBelow := by
    intro path hdirectory
    have hlocate : ((tree.without gone).locate path).toOption = (tree.locate path).toOption :=
      toOption_walk_without hw (areFiles_of_unreadable hg) path.parts
    cases hl : tree.locate path with
    | error error =>
      rw [isDirectory_iff, toOption_find, hl] at hdirectory
      cases hdirectory
    | ok place =>
      have hl' : (tree.without gone).locate path = .ok place := by
        cases hl' : (tree.without gone).locate path with
        | error error => rw [hl, hl'] at hlocate; cases hlocate
        | ok other => rw [hl, hl'] at hlocate; cases hlocate; rfl
      refine ⟨fun parts => place.below parts ∉ gone, ?_, ?_⟩
      · simp only [FileTree.sourcesBelow, hl, hl',
          below_without hw (areFiles_of_unreadable hg), List.filter_filter, Bool.and_comm]
      · intro parts hparts hkept
        simp only [FileTree.sourcesBelow, hl] at hparts
        have hbelow := ((mem_below tree place).mp (List.mem_filter.mp hparts).1).2
        have hplace : place.below parts ∈ gone := by simpa using hkept
        exact (readSource_of_locate hw hg hplace (locate_below hl hw hbelow)).1

end Unreadable

end FileTree

end CoverAudit
