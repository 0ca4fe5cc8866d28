import CoverAudit.Proofs.Files.Removal
import CoverAudit.Symbol.SourceRoot

/-!
# The modules below a root

A source root contributes the source files below it, each under the module that its components from
the root name. A name may be given twice, by the file `p.py` and by the `p/__init__.py` of a
package. These are in order too: the components of the package file come first.

* `NamesModule`: the module that the components of a file name, as `moduleOf` finds it
  (`moduleOf_eq_some_iff`).
* `NamesModule.eq_or_clash`: which files may have a name in common.
* `addFiles_eq_foldl`: files are indexed one after another.
* `addRoot_modules`: what is indexed below a root, in which order and under which names.
-/

namespace CoverAudit

/-! ## Names of source files -/

theorem Path.exists_stem {name : String} (h : ['.', 'p', 'y'] <:+ name.toList) :
    ∃ stem, name = stem ++ ".py" := by
  obtain ⟨front, hfront⟩ := h
  refine ⟨String.ofList front, String.toList_injective ?_⟩
  rw [← hfront, String.toList_append, String.toList_ofList]
  rfl

/-- The stem of a source file is its name without the extension. -/
theorem Path.stemOf_append {stem : String} (h : stem ≠ "") : stemOf (stem ++ ".py") = stem := by
  have hsplit : Text.split '.' (stem ++ ".py") = Text.split '.' stem ++ ["py"] := by
    have hend : stem ++ ".py" = stem ++ String.singleton '.' ++ "py" := by
      rw [String.append_assoc]
      rfl
    rw [hend, Text.split_append]
    rfl
  unfold stemOf
  rw [hsplit, List.reverse_append]
  cases hfront : (Text.split '.' stem).reverse with
  | nil => exact absurd (List.reverse_eq_nil_iff.mp hfront) (Text.split_ne_nil '.' stem)
  | cons part rest =>
    have hstem : Text.join '.' (part :: rest).reverse = stem := by
      rw [← hfront, List.reverse_reverse, Text.join_split]
    show (if "py".isEmpty || (Text.join '.' (part :: rest).reverse).isEmpty then _ else _) = stem
    rw [hstem, if_neg]
    simpa using h

namespace SymbolIndex

/-! ## Names of modules -/

/-- The module that the components of a source file name, and whether it is a package. -/
inductive NamesModule : List String → String × Bool → Prop where
  /-- A package is named by the directories of its file. -/
  | package {directories : List String} (h : directories ≠ []) :
    NamesModule (directories ++ ["__init__.py"]) (Text.join '.' directories, true)
  | module (directories : List String) {stem : String} (hne : stem ≠ "") (h : stem ≠ "__init__") :
    NamesModule (directories ++ [stem ++ ".py"]) (Text.join '.' (directories ++ [stem]), false)
  /-- A name that is nothing but the extension keeps it. -/
  | bare (directories : List String) :
    NamesModule (directories ++ [".py"]) (Text.join '.' (directories ++ [".py"]), false)

variable {parts : List String} {named : String × Bool}

theorem moduleOf_concat (directories : List String) (name : String) :
    moduleOf (directories ++ [name]) =
      if Path.stemOf name = "__init__" then
        if directories = [] then none else some (Text.join '.' directories, true)
      else some (Text.join '.' (directories ++ [Path.stemOf name]), false) := by
  simp only [moduleOf, List.dropLast_concat, List.getLastD_concat]
  by_cases hstem : Path.stemOf name = "__init__"
  · simp [hstem]
  · simp [hstem]

/-- The `__init__.py` of a root is no module. -/
theorem moduleOf_init : moduleOf ["__init__.py"] = none := by
  decide

theorem NamesModule.moduleOf_eq (h : NamesModule parts named) : moduleOf parts = some named := by
  cases h with
  | package hdirectories =>
    have hstem : Path.stemOf "__init__.py" = "__init__" := by decide
    rw [moduleOf_concat, if_pos hstem, if_neg hdirectories]
  | module directories hne hstem =>
    rw [moduleOf_concat, Path.stemOf_append hne, if_neg hstem]
  | bare directories =>
    have hstem : Path.stemOf ".py" = ".py" := by decide
    rw [moduleOf_concat, hstem, if_neg (by decide)]

/-- All source files below a root name a module, except for the `__init__.py` of the root. -/
theorem exists_namesModule {tree : FileTree} {place : FileTree.Place}
    (h : tree.IsSource place parts) :
    parts = ["__init__.py"] ∨ ∃ named, NamesModule parts named := by
  obtain ⟨directories, name, rfl⟩ := (List.eq_nil_or_concat' parts).resolve_left h.ne_nil
  obtain ⟨stem, rfl⟩ : ∃ stem, name = stem ++ ".py" :=
    Path.exists_stem (by simpa using h.named)
  by_cases hne : stem = ""
  · subst hne
    exact .inr ⟨_, .bare directories⟩
  · by_cases hstem : stem = "__init__"
    · subst hstem
      by_cases hdirectories : directories = []
      · subst hdirectories
        exact .inl rfl
      · exact .inr ⟨_, .package hdirectories⟩
    · exact .inr ⟨_, .module directories hne hstem⟩

theorem moduleOf_eq_some_iff {tree : FileTree} {place : FileTree.Place}
    (h : tree.IsSource place parts) : moduleOf parts = some named ↔ NamesModule parts named := by
  refine ⟨fun hmodule => ?_, NamesModule.moduleOf_eq⟩
  obtain rfl | ⟨other, hother⟩ := exists_namesModule h
  · rw [moduleOf_init] at hmodule
    cases hmodule
  · rw [hother.moduleOf_eq] at hmodule
    exact Option.some.inj hmodule ▸ hother

theorem NamesModule.ne_init (h : NamesModule parts named) : parts ≠ ["__init__.py"] := by
  rintro rfl
  cases moduleOf_init.symm.trans h.moduleOf_eq

/-! ## Names in common -/

/-- Neither the directories nor the stem of a source file hold a dot. -/
def Dotless (parts : List String) : Prop :=
  (∀ directory ∈ parts.dropLast, '.' ∉ directory.toList) ∧
    '.' ∉ (Path.stemOf (parts.getLastD "")).toList

instance (parts : List String) : Decidable (Dotless parts) :=
  inferInstanceAs (Decidable (_ ∧ _))

/-- The file of a package, and the source file next to its directory that has the same name. -/
def Clash (package module : List String) : Prop :=
  ∃ outer last, package = outer ++ [last, "__init__.py"] ∧ module = outer ++ [last ++ ".py"]

/-- The components of a package file come before those of the file next to its directory. -/
theorem Clash.lt {package module : List String} (h : Clash package module) : package < module := by
  obtain ⟨outer, last, rfl, rfl⟩ := h
  have hlast : last < last ++ ".py" := by
    have hlonger : last.toList ++ [] < last.toList ++ ['.', 'p', 'y'] :=
      List.append_left_lt (List.nil_lt_cons '.' ['p', 'y'])
    rw [List.append_nil] at hlonger
    exact String.lt_iff.mpr (by simpa using hlonger)
  exact List.append_left_lt (List.cons_lt_cons_iff.mpr (.inl hlast))

/-- The parts of the name of a module, where they hold no dots: the last one is the directory of a
package file and the stem of any other. -/
theorem NamesModule.exists_names (h : NamesModule parts named) (hd : Dotless parts) :
    ∃ outer last, (∀ name ∈ outer ++ [last], '.' ∉ name.toList) ∧
      named.1 = Text.join '.' (outer ++ [last]) ∧
      (parts = outer ++ [last, "__init__.py"] ∧ named.2 = true ∨
        parts = outer ++ [last ++ ".py"] ∧ named.2 = false) := by
  obtain ⟨hdirectories, hstem⟩ := hd
  cases h with
  | @package directories hne =>
    rw [List.dropLast_concat] at hdirectories
    obtain ⟨outer, last, rfl⟩ := (List.eq_nil_or_concat' directories).resolve_left hne
    exact ⟨outer, last, hdirectories, rfl, .inl ⟨by simp, rfl⟩⟩
  | @module directories stem hne _ =>
    rw [List.dropLast_concat] at hdirectories
    rw [List.getLastD_concat, Path.stemOf_append hne] at hstem
    refine ⟨directories, stem, ?_, rfl, .inr ⟨rfl, rfl⟩⟩
    exact List.forall_mem_append.mpr ⟨hdirectories, List.forall_mem_singleton.mpr hstem⟩
  | bare directories =>
    -- The extension alone is its own stem, and begins with a dot.
    rw [List.getLastD_concat] at hstem
    exact absurd hstem (by decide)

/-- Where names have no dots, only a package and the file next to its directory have a name in
common. -/
theorem NamesModule.eq_or_clash {a b : List String} {first second : String × Bool}
    (ha : NamesModule a first) (hb : NamesModule b second) (hda : Dotless a) (hdb : Dotless b)
    (h : first.1 = second.1) :
    a = b ∨ Clash a b ∧ first.2 = true ∧ second.2 = false ∨
      Clash b a ∧ second.2 = true ∧ first.2 = false := by
  obtain ⟨outer, last, hdotless, hfirst, hcase⟩ := ha.exists_names hda
  obtain ⟨outer', last', hdotless', hsecond, hcase'⟩ := hb.exists_names hdb
  have hnames : outer ++ [last] = outer' ++ [last'] :=
    Text.join_inj (by simp) (by simp) hdotless hdotless' (hfirst.symm.trans (h.trans hsecond))
  obtain ⟨rfl, hlast⟩ := List.append_inj' hnames rfl
  obtain rfl := List.singleton_inj.mp hlast
  obtain ⟨rfl, hpackage⟩ | ⟨rfl, hmodule⟩ := hcase
  · obtain ⟨rfl, -⟩ | ⟨rfl, hmodule⟩ := hcase'
    · exact .inl rfl
    · exact .inr (.inl ⟨⟨outer, last, rfl, rfl⟩, hpackage, hmodule⟩)
  · obtain ⟨rfl, hpackage⟩ | ⟨rfl, -⟩ := hcase'
    · exact .inr (.inr ⟨⟨outer, last, rfl, rfl⟩, hpackage, hmodule⟩)
    · exact .inl rfl

/-! ## Indexing a root -/

variable {tree : FileTree} {root : Path} {place : FileTree.Place}

/-- Files are indexed one after another. What is said of each does not depend on the others. -/
theorem addFiles_eq_foldl (tree : FileTree) (parse : Source.Reader) (index : SymbolIndex)
    (files : List (Path × String × Bool)) :
    index.addFiles tree parse files =
      (files.foldl (fun index file => (index.addFile tree parse file.1 file.2.1 file.2.2).1) index,
        files.flatMap fun file => (index.addFile tree parse file.1 file.2.1 file.2.2).2) := by
  have hsame : ∀ (first second : SymbolIndex) (file : Path × String × Bool),
      (first.addFile tree parse file.1 file.2.1 file.2.2).2 =
        (second.addFile tree parse file.1 file.2.1 file.2.2).2 := by
    intro first second file
    unfold addFile
    split <;> rfl
  induction files generalizing index with
  | nil => rfl
  | cons file rest ih =>
    have hentries := List.flatMap_congr (l := rest) fun other _ =>
      hsame (index.addFile tree parse file.1 file.2.1 file.2.2).1 index other
    show (let more := (index.addFile tree parse file.1 file.2.1 file.2.2).1.addFiles tree parse rest
      (more.1, (index.addFile tree parse file.1 file.2.1 file.2.2).2 ++ more.2)) = _
    rw [ih, hentries]
    rfl

/-- A file of a directory is a source file below it, with the module that its components name. -/
theorem mem_rootFiles (hd : tree.isDirectory root = true) (hl : tree.locate root = .ok place)
    {file : Path × String × Bool} :
    file ∈ rootFiles tree root ↔
      ∃ parts, tree.IsSource place parts ∧ NamesModule parts file.2 ∧
        file.1 = root.below parts := by
  have hfile : tree.isFile root = false := by
    rw [Bool.eq_false_iff, Ne, FileTree.isFile_iff, FileTree.isDirectory_iff.mp hd]
    rintro ⟨content, hcontent⟩
    cases hcontent
  rw [rootFiles, if_neg (by simp [hfile]), List.mem_filterMap]
  constructor
  · rintro ⟨parts, hparts, hsome⟩
    have hsource := (FileTree.mem_sourcesBelow hl).mp hparts
    obtain ⟨named, hnamed, rfl⟩ := Option.map_eq_some_iff.mp hsome
    exact ⟨parts, hsource, (moduleOf_eq_some_iff hsource).mp hnamed, rfl⟩
  · rintro ⟨parts, hsource, hnamed, hpath⟩
    refine ⟨parts, (FileTree.mem_sourcesBelow hl).mpr hsource, ?_⟩
    rw [hnamed.moduleOf_eq, Option.map_some, ← hpath]

/-- The files of a root are in strict order. -/
theorem pairwise_rootFiles (tree : FileTree) (root : Path) :
    (rootFiles tree root).Pairwise fun first second => first.1.parts < second.1.parts := by
  unfold rootFiles
  split
  · exact List.pairwise_singleton _ _
  · refine (tree.pairwise_sourcesBelow root).filterMap _ ?_
    intro a b hab first hfirst second hsecond
    obtain ⟨_, -, rfl⟩ := Option.map_eq_some_iff.mp hfirst
    obtain ⟨_, -, rfl⟩ := Option.map_eq_some_iff.mp hsecond
    exact List.append_left_lt hab

theorem pair_sublist_rootFiles {first second : Path × String × Bool}
    (hfirst : first ∈ rootFiles tree root) (hsecond : second ∈ rootFiles tree root)
    (h : first.1.parts < second.1.parts) : [first, second].Sublist (rootFiles tree root) := by
  -- Two files of a list in strict order stand in it in their order.
  have : Std.Antisymm fun first second : Path × String × Bool =>
      first.1.parts < second.1.parts := ⟨fun _ _ hab hba => absurd hba (lt_asymm hab)⟩
  have hne : first ≠ second := by
    rintro rfl
    exact lt_irrefl _ h
  refine List.sublist_of_subperm_of_pairwise (List.subperm_of_subset ?_ ?_)
    (List.pairwise_pair.mpr h) (pairwise_rootFiles tree root)
  · simpa using hne
  · simp [hfirst, hsecond]

theorem Clash.sublist_rootFiles {package module : List String} {first second : String × Bool}
    (h : Clash package module) (hfirst : (root.below package, first) ∈ rootFiles tree root)
    (hsecond : (root.below module, second) ∈ rootFiles tree root) :
    [(root.below package, first), (root.below module, second)].Sublist (rootFiles tree root) :=
  pair_sublist_rootFiles hfirst hsecond (List.append_left_lt h.lt)

/-- **The modules below a root.** Of a directory are indexed, one after another, in strict order and
so each once, all source files below it that no hidden directory and no cache holds, except for the
`__init__.py` of the directory itself. Each is indexed under the module that its components name.
Where names have no dots, two files have a name in common only if they are `p/__init__.py` and
`p.py`; then the first one is a package, the second one is none, and the package is indexed
first. -/
theorem addRoot_modules (tree : FileTree) (parse : Source.Reader) (index : SymbolIndex)
    {root : Path} {place : FileTree.Place} (hd : tree.isDirectory root = true)
    (hl : tree.locate root = .ok place) :
    let files := rootFiles tree root
    index.addRoot tree parse root =
      (files.foldl (fun index file => (index.addFile tree parse file.1 file.2.1 file.2.2).1) index,
        files.flatMap fun file => (index.addFile tree parse file.1 file.2.1 file.2.2).2) ∧
    (∀ path, path ∈ files.map Prod.fst ↔
      ∃ parts, tree.IsSource place parts ∧ parts ≠ ["__init__.py"] ∧ path = root.below parts) ∧
    files.Pairwise (fun first second => first.1.parts < second.1.parts) ∧
    (∀ parts named, (root.below parts, named) ∈ files → NamesModule parts named) ∧
    ∀ a b first second, (root.below a, first) ∈ files → (root.below b, second) ∈ files →
      Dotless a → Dotless b → a ≠ b → first.1 = second.1 →
        Clash a b ∧ first.2 = true ∧ second.2 = false ∧
            [(root.below a, first), (root.below b, second)].Sublist files ∨
          Clash b a ∧ second.2 = true ∧ first.2 = false ∧
            [(root.below b, second), (root.below a, first)].Sublist files := by
  intro files
  have hmem : ∀ parts named, (root.below parts, named) ∈ files ↔
      tree.IsSource place parts ∧ NamesModule parts named := by
    intro parts named
    rw [mem_rootFiles hd hl]
    constructor
    · rintro ⟨other, hsource, hnamed, hpath⟩
      obtain rfl : parts = other := List.append_cancel_left (congrArg Path.parts hpath)
      exact ⟨hsource, hnamed⟩
    · rintro ⟨hsource, hnamed⟩
      exact ⟨parts, hsource, hnamed, rfl⟩
  refine ⟨?_, fun path => ?_, pairwise_rootFiles tree root,
    fun parts named h => ((hmem parts named).mp h).2, ?_⟩
  · rw [addRoot, if_pos (FileTree.exists?_iff.mpr (.inr hd)), addFiles_eq_foldl]
  · rw [List.mem_map]
    constructor
    · rintro ⟨file, hfile, rfl⟩
      obtain ⟨parts, hsource, hnamed, hpath⟩ := (mem_rootFiles hd hl).mp hfile
      exact ⟨parts, hsource, hnamed.ne_init, hpath⟩
    · rintro ⟨parts, hsource, hne, rfl⟩
      obtain ⟨named, hnamed⟩ := (exists_namesModule hsource).resolve_left hne
      exact ⟨(root.below parts, named), (hmem parts named).mpr ⟨hsource, hnamed⟩, rfl⟩
  · intro a b first second ha hb hda hdb hne hsame
    have hnames := ((hmem a first).mp ha).2.eq_or_clash ((hmem b second).mp hb).2 hda hdb hsame
    obtain ⟨hclash, hpackage, hmodule⟩ | ⟨hclash, hpackage, hmodule⟩ := hnames.resolve_left hne
    · exact .inl ⟨hclash, hpackage, hmodule, hclash.sublist_rootFiles ha hb⟩
    · exact .inr ⟨hclash, hpackage, hmodule, hclash.sublist_rootFiles hb ha⟩

/-- A package and a file next to its directory share a name, and the package is indexed first. The
`__init__.py` of the root is not indexed. -/
theorem addRoot_modules_of_clash :
    let file (parts : List String) : FileTree.Place × FileTree.Node :=
      (⟨.relative, "lib" :: parts⟩, .file ⟨#[]⟩)
    let tree : FileTree := ⟨[file ["p.py"], file ["__init__.py"], file ["p", "__init__.py"]]⟩
    let lib : Path := ⟨.relative, ["lib"]⟩
    (tree.isDirectory lib = true ∧ tree.locate lib = .ok lib) ∧
      [(lib.below ["p", "__init__.py"], "p", true), (lib.below ["p.py"], "p", false)].Sublist
        (rootFiles tree lib) ∧
      lib.below ["__init__.py"] ∉ (rootFiles tree lib).map Prod.fst := by
  intro file tree lib
  have hd : tree.isDirectory lib = true := by decide +kernel
  have hl : tree.locate lib = .ok lib := by decide +kernel
  have hoccupied : ∀ parts, file parts ∈ tree.nodes → tree.Occupied (lib.below parts) :=
    fun parts hfile => ⟨file parts, hfile, FileTree.isWithin_refl _⟩
  have hpackage : (lib.below ["p", "__init__.py"], "p", true) ∈ rootFiles tree lib := by
    refine (mem_rootFiles hd hl).mpr ⟨["p", "__init__.py"], ⟨hoccupied _ ?_, ?_, ?_⟩, ?_, rfl⟩
    · simp [tree]
    · decide
    · simp
    · show NamesModule (["p"] ++ ["__init__.py"]) (Text.join '.' ["p"], true)
      exact .package (by decide)
  have hmodule : (lib.below ["p.py"], "p", false) ∈ rootFiles tree lib := by
    refine (mem_rootFiles hd hl).mpr ⟨["p.py"], ⟨hoccupied _ ?_, ?_, ?_⟩, ?_, rfl⟩
    · simp [tree]
    · decide
    · simp
    · show NamesModule ([] ++ ["p" ++ ".py"]) (Text.join '.' ([] ++ ["p"]), false)
      exact .module [] (by decide) (by decide)
  obtain ⟨-, hpaths, -, -, hshared⟩ := addRoot_modules tree Source.parse (empty []) hd hl
  have hcases := hshared _ _ _ _ hpackage hmodule (by decide) (by decide) (by decide) rfl
  refine ⟨⟨hd, hl⟩, ?_, fun hroot => ?_⟩
  · obtain ⟨-, -, -, hsublist⟩ | ⟨-, htrue, -⟩ := hcases
    · exact hsublist
    · cases htrue
  · obtain ⟨parts, -, hne, hpath⟩ := (hpaths _).mp hroot
    exact hne (List.append_cancel_left (congrArg Path.parts hpath)).symm

end SymbolIndex

end CoverAudit
