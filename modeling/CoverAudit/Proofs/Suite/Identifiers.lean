import CoverAudit.Proofs.CommandLine.CheckReport
import CoverAudit.Proofs.Files.Listing
import CoverAudit.Proofs.Suite.Found

/-!
# Identifiers of tests

A test is known by its identifier: the path of its file, the classes around it and its name, with
`::` between them. Collection does not look for repetitions, so the identifiers are distinct only
if the tests are.

* `qualified_inj`: an identifier determines the path of the file and the names, because a name has
  no colon and no dot, and the files of a directory end in `.py`.
* `Collect.nodup_fileNames`: no file of a directory is found twice.
* `Suite.size_annotations`: a suite has annotations for as many tests as it has identifiers.
* `collected_once`: when identifiers are distinct, and what follows for an audit.
-/

namespace CoverAudit

open Source (Identifier)

/-! ## Identifiers as texts -/

/-- A text followed by names, each behind two colons. -/
def qualified (text : List Char) (names : List Identifier) : List Char :=
  text ++ names.flatMap fun name => ':' :: ':' :: name.text.toList

theorem qualified_nil (text : List Char) : qualified text [] = text := by
  simp [qualified]

theorem qualified_concat (text : List Char) (names : List Identifier) (name : Identifier) :
    qualified text (names ++ [name]) =
      qualified text names ++ ':' :: ':' :: name.text.toList := by
  simp [qualified]

/-- A name does not go on behind two more colons: there is none in it. -/
theorem front_eq_nil {front : List Char} {name other : Identifier}
    (h : ':' :: ':' :: name.text.toList = front ++ ':' :: ':' :: other.text.toList) :
    front = [] := by
  have hname : ':' ∉ name.text.toList := name.notMem (by decide)
  match front with
  | [] => rfl
  | [c] =>
    simp only [List.cons_append, List.nil_append, List.cons.injEq] at h
    simp [h.2.2] at hname
  | c :: d :: rest =>
    simp only [List.cons_append, List.cons.injEq] at h
    simp [h.2.2] at hname

/-- What stands behind the last two colons is the last name. -/
theorem last_name_inj {a b : List Char} {name other : Identifier}
    (h : a ++ ':' :: ':' :: name.text.toList = b ++ ':' :: ':' :: other.text.toList) :
    a = b ∧ name = other := by
  have hab : a = b := by
    obtain ⟨front, hb, he⟩ | ⟨front, ha, he⟩ := List.append_eq_append_iff.mp h
    · rw [hb, front_eq_nil he, List.append_nil]
    · rw [ha, front_eq_nil he, List.append_nil]
  subst hab
  have htext : name.text = other.text := String.toList_injective (by simpa using h)
  exact ⟨rfl, Identifier.eq_of_text_eq htext⟩

/-- Where two identifiers are the same text, the shorter chain of names ends the longer one. -/
theorem qualified_eq {a b : List Char} {names others : List Identifier}
    (h : qualified a names = qualified b others) :
    ∃ more, (a = qualified b more ∧ others = more ++ names) ∨
      (b = qualified a more ∧ names = more ++ others) := by
  induction names using List.reverseRecOn generalizing others with
  | nil =>
    rw [qualified_nil] at h
    exact ⟨others, .inl ⟨h, (List.append_nil others).symm⟩⟩
  | append_singleton names name ih =>
    cases others using List.reverseRecOn with
    | nil =>
      rw [qualified_nil] at h
      exact ⟨names ++ [name], .inr ⟨h.symm, (List.append_nil _).symm⟩⟩
    | append_singleton others other =>
      rw [qualified_concat, qualified_concat] at h
      obtain ⟨hfront, rfl⟩ := last_name_inj h
      obtain ⟨more, ⟨ha, hothers⟩ | ⟨hb, hnames⟩⟩ := ih hfront
      · exact ⟨more, .inl ⟨ha, by rw [hothers, List.append_assoc]⟩⟩
      · exact ⟨more, .inr ⟨hb, by rw [hnames, List.append_assoc]⟩⟩

/-- Nothing ends both as a source file and in a name: either the colons before the name would be in
the extension, or the dot of the extension in the name. -/
theorem source_ne_name {front text : List Char} {name : Identifier} :
    front ++ ['.', 'p', 'y'] ≠ text ++ ':' :: ':' :: name.text.toList := by
  intro h
  obtain ⟨rest, -, he⟩ | ⟨rest, -, he⟩ := List.append_eq_append_iff.mp h
  · have hcolon : ':' ∈ ['.', 'p', 'y'] := by simp [he]
    exact absurd hcolon (by decide)
  · have hdot : '.' ∈ ':' :: ':' :: name.text.toList := by simp [he]
    have hname : '.' ∈ name.text.toList := by simpa using hdot
    exact name.dot_notMem hname

/-- A path that can not be taken for a test of another file: it is that of a source file, or it
holds no two colons in a row. -/
def IsPlain (path : String) : Prop :=
  FileTree.hasSourceName path = true ∨ ¬ [':', ':'] <:+: path.toList

instance (path : String) : Decidable (IsPlain path) :=
  inferInstanceAs (Decidable (_ ∨ _))

theorem IsPlain.eq_nil {path : String} (hp : IsPlain path) {text : List Char}
    {names : List Identifier} (h : path.toList = qualified text names) : names = [] := by
  cases names using List.reverseRecOn with
  | nil => rfl
  | append_singleton names name =>
    exfalso
    rw [qualified_concat] at h
    obtain hsource | hcolons := hp
    · obtain ⟨front, hfront⟩ := List.isSuffixOf_iff_suffix.mp hsource
      exact source_ne_name (hfront.trans h)
    · exact hcolons ⟨qualified text names, name.text.toList, by simp [h]⟩

/-- An identifier determines the path of the file and the names. -/
theorem qualified_inj {path other : String} (hp : IsPlain path) (ho : IsPlain other)
    {names others : List Identifier}
    (h : qualified path.toList names = qualified other.toList others) :
    path = other ∧ names = others := by
  obtain ⟨more, ⟨he, hnames⟩ | ⟨he, hnames⟩⟩ := qualified_eq h
  · have hmore := hp.eq_nil he
    subst hmore
    rw [qualified_nil] at he
    exact ⟨String.toList_injective he, hnames.symm⟩
  · have hmore := ho.eq_nil he
    subst hmore
    rw [qualified_nil] at he
    exact ⟨(String.toList_injective he).symm, hnames⟩

theorem DeclaredTest.identifier_eq (module : String) (declared : DeclaredTest) :
    (declared.testCase module).identifier.toList = qualified module.toList declared.path := by
  have hscope : ∀ classes : List TestClass, (scopeName module classes).toList =
      qualified module.toList (classes.map TestClass.name).reverse := by
    intro classes
    induction classes with
    | nil => exact (qualified_nil _).symm
    | cons holder rest ih =>
      show (scopeName module rest ++ "::" ++ holder.name.text).toList = _
      rw [List.map_cons, List.reverse_cons, qualified_concat, ← ih]
      simp
  rw [path, qualified_concat, ← hscope]
  show (scopeName module declared.classes ++ "::" ++ declared.name.text).toList = _
  simp

/-! ## Files that are found -/

namespace Path

theorem isSuffix_join {parts : List String} (hne : parts ≠ []) (front : List String) :
    (parts.getLastD "").toList <:+ (Text.join '/' (front ++ parts)).toList := by
  have hparts := List.dropLast_concat_getLast hne
  rw [← hparts, List.getLastD_concat, ← List.append_assoc]
  exact Text.isSuffix_join_concat '/' _ _

/-- How a path below a directory is written, if the last component is not empty. -/
theorem toString_below (path : Path) {parts : List String} (hlast : parts.getLastD "" ≠ "") :
    (path.below parts).toString = path.root.text ++ Text.join '/' (path.parts ++ parts) := by
  have hne : parts ≠ [] := by
    rintro rfl
    exact hlast rfl
  have htext : path.root.text ++ Text.join '/' (path.parts ++ parts) ≠ "" := by
    intro hempty
    have hsuffix := (isSuffix_join hne path.parts).trans
      (List.suffix_append path.root.text.toList _)
    rw [← String.toList_append, hempty, String.toList_empty, List.suffix_nil] at hsuffix
    exact hlast (String.toList_injective hsuffix)
  show (if _ then _ else _) = _
  rw [if_neg]
  · rfl
  · simpa using htext

theorem getLastD_ne_empty {parts : List String} (hne : parts ≠ [])
    (h : ∀ part ∈ parts, IsComponent part) : parts.getLastD "" ≠ "" := by
  have hparts := List.dropLast_concat_getLast hne
  rw [← hparts, List.getLastD_concat]
  exact (h _ (List.getLast_mem hne)).1

/-- Two paths below a directory are written alike only if they are the same. -/
theorem toString_below_inj (path : Path) {a b : List String} (hane : a ≠ []) (hbne : b ≠ [])
    (ha : ∀ part ∈ a, IsComponent part) (hb : ∀ part ∈ b, IsComponent part)
    (h : (path.below a).toString = (path.below b).toString) : a = b := by
  rw [toString_below path (getLastD_ne_empty hane ha),
    toString_below path (getLastD_ne_empty hbne hb)] at h
  have hwhole : Text.join '/' (path.parts ++ a) = Text.join '/' (path.parts ++ b) := by
    apply String.toList_injective
    simpa using congrArg String.toList h
  have hjoin : Text.join '/' a = Text.join '/' b := by
    by_cases hdirectory : path.parts = []
    · simpa [hdirectory] using hwhole
    · rw [Text.join_append '/' a hdirectory, Text.join_append '/' b hdirectory,
        Text.join_cons '/' _ hane, Text.join_cons '/' _ hbne] at hwhole
      apply String.toList_injective
      simpa using congrArg String.toList hwhole
  exact Text.join_inj hane hbne (fun part hpart => (ha part hpart).2.2.2)
    (fun part hpart => (hb part hpart).2.2.2) hjoin

end Path

namespace Collect

variable {tree : FileTree}

/-- The test files that a path leads to, as their paths are written. -/
def fileNames (tree : FileTree) (path : Path) : List String :=
  (testFiles tree path).1.map Path.toString

/-- A test file is the path itself, or a source file below it. -/
theorem mem_testFiles {path file : Path} (h : file ∈ (testFiles tree path).1) :
    (tree.isFile path = true ∧ file = path) ∨
      ∃ place parts, tree.IsSource place parts ∧ file = path.below parts := by
  unfold testFiles at h
  split at h
  · rename_i hfile
    exact .inl ⟨hfile, List.mem_singleton.mp h⟩
  · split at h
    · obtain ⟨parts, hparts, rfl⟩ := List.mem_map.mp h
      obtain ⟨place, hsource⟩ := FileTree.exists_isSource (List.mem_filter.mp hparts).1
      exact .inr ⟨place, parts, hsource, rfl⟩
    · cases h

theorem isPlain_of_mem_filesBelow {paths : List Path}
    (hp : ∀ path ∈ paths, tree.isFile path = true → IsPlain path.toString) {file : Path}
    (h : file ∈ filesBelow tree paths) : IsPlain file.toString := by
  obtain ⟨path, hpath, hfile⟩ := List.mem_flatMap.mp h
  obtain ⟨hisFile, rfl⟩ | ⟨place, parts, hsource, rfl⟩ := mem_testFiles hfile
  · exact hp file hpath hisFile
  · -- Files of directories are source files.
    have hlast : parts.getLastD "" ≠ "" := by
      intro hempty
      have hnamed := hsource.named
      rw [hempty] at hnamed
      exact absurd (List.suffix_nil.mp hnamed) (by decide)
    refine .inl (List.isSuffixOf_iff_suffix.mpr ?_)
    rw [Path.toString_below path hlast, String.toList_append]
    exact (hsource.named.trans (Path.isSuffix_join hsource.ne_nil _)).trans (List.suffix_append _ _)

theorem named_of_mem_sourcesBelow (hw : tree.WellFormed) {path : Path} {parts : List String}
    (h : parts ∈ tree.sourcesBelow path) :
    parts ≠ [] ∧ ∀ part ∈ parts, Path.IsComponent part := by
  obtain ⟨place, hsource⟩ := FileTree.exists_isSource h
  exact ⟨hsource.ne_nil, hw.named_of_occupied hsource.occupied⟩

/-- No file of a directory is found twice. -/
theorem nodup_fileNames (hw : tree.WellFormed) (path : Path) : (fileNames tree path).Nodup := by
  have hsources : (tree.sourcesBelow path).Nodup :=
    (tree.pairwise_sourcesBelow path).imp ne_of_lt
  unfold fileNames testFiles
  split
  · exact List.nodup_singleton _
  · split
    · rw [List.map_map]
      refine (hsources.filter _).map_on fun a ha b hb h => ?_
      obtain ⟨hane, ha⟩ := named_of_mem_sourcesBelow hw (List.mem_filter.mp ha).1
      obtain ⟨hbne, hb⟩ := named_of_mem_sourcesBelow hw (List.mem_filter.mp hb).1
      exact Path.toString_below_inj path hane hbne ha hb h
    · exact List.nodup_nil

/-- Where no two paths lead to the same file, no file is found twice. -/
theorem nodup_filesBelow (hw : tree.WellFormed) {paths : List Path}
    (h : paths.Pairwise fun path other =>
      (fileNames tree path).Disjoint (fileNames tree other)) :
    ((filesBelow tree paths).map Path.toString).Nodup := by
  rw [filesBelow, List.map_flatMap]
  exact List.nodup_flatMap.mpr ⟨fun path _ => nodup_fileNames hw path, h⟩

theorem map_fst_parsed_sublist (tree : FileTree) (parse : Source.Reader) (files : List Path) :
    ((parsed tree parse files).map Prod.fst).Sublist files := by
  induction files with
  | nil => exact List.Sublist.slnil
  | cons path rest ih =>
    unfold parsed at ih ⊢
    rw [List.filterMap_cons]
    cases (tree.readSource parse path).toOption with
    | none => exact ih.cons path
    | some body => exact ih.cons_cons path

end Collect

/-! ## Tests that are found -/

namespace FoundTest

/-- What tells a test from others: the path of its file, as it is written, and what the test is
called in there. -/
def key (found : FoundTest) : String × List Identifier :=
  (found.file.toString, found.declared.path)

theorem identifier_eq (found : FoundTest) :
    found.testCase.identifier = String.ofList (qualified found.key.1.toList found.key.2) := by
  apply String.toList_injective
  rw [String.toList_ofList]
  exact found.declared.identifier_eq found.file.toString

variable {modules : List (Path × List Source.Stmt)}

theorem file_mem_of_mem {found : FoundTest} (h : found ∈ ofModules modules) :
    ∃ module ∈ modules, found.file = module.1 := by
  obtain ⟨module, hmodule, hfound⟩ := List.mem_flatMap.mp h
  obtain ⟨declared, -, rfl⟩ := List.mem_map.mp hfound
  exact ⟨module, hmodule, rfl⟩

/-- Where files are plain, two tests have one identifier only if they are called the same in the
same file. -/
theorem nodup_identifiers_iff (hp : ∀ module ∈ modules, IsPlain module.1.toString) :
    ((ofModules modules).map fun found => found.testCase.identifier).Nodup ↔
      ((ofModules modules).map key).Nodup := by
  have hmap : ((ofModules modules).map fun found => found.testCase.identifier) =
      ((ofModules modules).map key).map fun key =>
        String.ofList (qualified key.1.toList key.2) := by
    rw [List.map_map]
    exact List.map_congr_left fun found _ => found.identifier_eq
  have hplain : ∀ key ∈ (ofModules modules).map FoundTest.key, IsPlain key.1 := by
    intro key hkey
    obtain ⟨found, hfound, rfl⟩ := List.mem_map.mp hkey
    obtain ⟨module, hmodule, hfile⟩ := file_mem_of_mem hfound
    show IsPlain found.file.toString
    rw [hfile]
    exact hp module hmodule
  rw [hmap]
  refine ⟨List.Nodup.of_map _, fun h => h.map_on fun key hkey other hother he => ?_⟩
  obtain ⟨hfile, hpath⟩ :=
    qualified_inj (hplain key hkey) (hplain other hother) (String.ofList_injective he)
  exact Prod.ext hfile hpath

/-- Where no file is found twice, and in none two tests are called the same, no two tests are. -/
theorem nodup_key (hfiles : (modules.map fun module => module.1.toString).Nodup)
    (hpaths : ∀ module ∈ modules, ((DeclaredTest.ofBody module.2).map DeclaredTest.path).Nodup) :
    ((ofModules modules).map key).Nodup := by
  rw [ofModules, List.map_flatMap, List.nodup_flatMap]
  constructor
  · intro module hmodule
    rw [List.map_map]
    have hpath := hpaths module hmodule
    refine List.Nodup.of_map Prod.snd ?_
    rw [List.map_map]
    exact hpath
  · refine (List.pairwise_map.mp hfiles).imp fun hne key hkey hother => hne ?_
    obtain ⟨found, hfound, rfl⟩ := List.mem_map.mp hkey
    obtain ⟨other, hsame, he⟩ := List.mem_map.mp hother
    obtain ⟨_, -, rfl⟩ := List.mem_map.mp hfound
    obtain ⟨_, -, rfl⟩ := List.mem_map.mp hsame
    exact (congrArg Prod.fst he).symm

end FoundTest

/-! ## Suites -/

namespace Suite

/-- A suite has annotations for as many tests as it has identifiers. -/
theorem size_annotations (modules : List (Path × List Source.Stmt)) :
    (ofModules modules).annotations.size =
      ((ofModules modules).tests.map TestCase.identifier).toFinset.card := by
  obtain ⟨htests, hannotated⟩ := ofModules_found modules
  have hkeys : (ofModules modules).annotations.keys.toFinset =
      ((ofModules modules).tests.map TestCase.identifier).toFinset := by
    ext identifier
    rw [List.mem_toFinset, List.mem_toFinset, htests, List.map_map]
    show identifier ∈ (Table.empty.insertMany _).keys ↔ _
    rw [Table.mem_keys_insertMany, hannotated, List.map_map]
    exact or_iff_right List.not_mem_nil
  rw [← hkeys, List.toFinset_card_of_nodup (ofModules modules).annotations.nodup_keys]
  exact (List.length_map _).symm

/-- Where identifiers are distinct, each test is known by its own annotations. -/
theorem annotationsOf_found {modules : List (Path × List Source.Stmt)}
    (h : ((ofModules modules).tests.map TestCase.identifier).Nodup) {found : FoundTest}
    (hf : found ∈ FoundTest.ofModules modules) :
    (ofModules modules).annotationsOf found.testCase = found.annotations := by
  obtain ⟨htests, hannotated⟩ := ofModules_found modules
  refine annotationsOf_of_mem ?_ ?_
  · show (List.map Prod.fst (List.flatMap _ _)).Nodup
    rw [hannotated, List.map_map]
    rw [htests, List.map_map] at h
    exact h
  · show _ ∈ List.flatMap _ _
    rw [hannotated]
    exact List.mem_map_of_mem hf

/-- Where identifiers are distinct, the violations under one of them are those of its test. -/
theorem filter_violations {suite : Suite} (index : SymbolIndex) (inspect : SymbolIndex.Inspection)
    (h : (suite.tests.map TestCase.identifier).Nodup) {test : TestCase} (ht : test ∈ suite.tests) :
    (suite.violations index inspect).filter (fun violation => violation.test = test.identifier) =
      Check.violations index inspect (suite.annotationsOf test) test := by
  unfold violations
  generalize suite.tests = tests at h ht
  -- A test contributes all of its violations under its own identifier, and none under others.
  have hother : ∀ {other : TestCase}, other.identifier ≠ test.identifier →
      (Check.violations index inspect (suite.annotationsOf other) other).filter
        (fun violation => violation.test = test.identifier) = [] := by
    intro other hne
    refine List.filter_eq_nil_iff.mpr fun violation hv he => hne ?_
    rw [← Check.test_eq_of_mem_violations hv]
    exact of_decide_eq_true he
  have hown : (Check.violations index inspect (suite.annotationsOf test) test).filter
      (fun violation => violation.test = test.identifier) =
        Check.violations index inspect (suite.annotationsOf test) test := by
    refine List.filter_eq_self.mpr fun violation hv => ?_
    exact decide_eq_true (Check.test_eq_of_mem_violations hv)
  induction tests with
  | nil => cases ht
  | cons first rest ih =>
    rw [List.map_cons, List.nodup_cons] at h
    rw [List.flatMap_cons, List.filter_append]
    obtain rfl | ht := List.mem_cons.mp ht
    · have hrest : ∀ other ∈ rest, other.identifier ≠ test.identifier := by
        intro other ho he
        exact h.1 (he ▸ List.mem_map_of_mem ho)
      rw [hown, List.filter_flatMap, List.flatMap_eq_nil_iff.mpr fun other ho =>
        hother (hrest other ho), List.append_nil]
    · have hfirst : first.identifier ≠ test.identifier := by
        intro he
        exact h.1 (he ▸ List.mem_map_of_mem ht)
      rw [hother hfirst, ih h.2 ht, List.nil_append]

end Suite

/-! ## Tests of an audit -/

/-- **Tests are collected as often as they are declared.** Let every test path that is a file be
plain. The tests of an audit are those of the files that the test paths lead to. Two of them have
the same identifier exactly if they are called the same in files whose paths are written the same,
so identifiers are distinct if no two test paths lead to the same file and no file declares two
tests of one name in the same classes. Identifiers are distinct exactly if there are annotations for
as many tests as there are tests. Then every test is checked against its own annotations, and the
violations reported for it are those of one check. -/
theorem collected_once {tree : FileTree} (hw : tree.WellFormed) (parse : Source.Reader)
    (inspect : SymbolIndex.Inspection) (settings : Settings) {testPaths : List String}
    (hp : ∀ path ∈ testPaths, tree.isFile (.ofString path) = true →
      IsPlain (Path.ofString path).toString) :
    let audit := Audit.run tree parse inspect settings testPaths
    let modules := Collect.modulesBelow tree parse (testPaths.map Path.ofString)
    let found := FoundTest.ofModules modules
    let identifiers := audit.suite.tests.map TestCase.identifier
    audit.suite.tests = found.map FoundTest.testCase ∧
      (identifiers.Nodup ↔ (found.map FoundTest.key).Nodup) ∧
      ((testPaths.map Path.ofString).Pairwise (fun path other =>
          (Collect.fileNames tree path).Disjoint (Collect.fileNames tree other)) →
        (∀ module ∈ modules, ((DeclaredTest.ofBody module.2).map DeclaredTest.path).Nodup) →
        identifiers.Nodup) ∧
      (identifiers.Nodup ↔ audit.suite.annotations.size = audit.suite.tests.length) ∧
      (identifiers.Nodup → ∀ test ∈ found,
        audit.suite.annotationsOf test.testCase = test.annotations ∧
          audit.violations.filter (fun violation => violation.test = test.testCase.identifier) =
            Check.violations audit.index inspect test.annotations test.testCase) := by
  intro audit modules found identifiers
  have hsuite : audit.suite = .ofModules modules := Suite.ofPaths_eq_ofModules tree parse _
  have htests : audit.suite.tests = found.map FoundTest.testCase := by
    rw [hsuite, (Suite.ofModules_found modules).1]
  have hidentifiers : identifiers = found.map fun test => test.testCase.identifier := by
    show audit.suite.tests.map _ = _
    rw [htests, List.map_map]
    rfl
  have hplain : ∀ module ∈ modules, IsPlain module.1.toString := by
    rintro ⟨file, body⟩ hmodule
    refine Collect.isPlain_of_mem_filesBelow (fun path hpath => ?_)
      (Collect.mem_parsed hmodule).1
    obtain ⟨text, htext, rfl⟩ := List.mem_map.mp hpath
    exact hp text htext
  have hiff : identifiers.Nodup ↔ (found.map FoundTest.key).Nodup := by
    rw [hidentifiers]
    exact FoundTest.nodup_identifiers_iff hplain
  refine ⟨htests, hiff, fun hdisjoint hpaths => ?_, ?_, fun hnodup test htest => ?_⟩
  · rw [hiff]
    refine FoundTest.nodup_key ?_ hpaths
    have hsub := (Collect.map_fst_parsed_sublist tree parse
      (Collect.filesBelow tree (testPaths.map Path.ofString))).map Path.toString
    rw [List.map_map] at hsub
    exact hsub.nodup (Collect.nodup_filesBelow hw hdisjoint)
  · have hsize : audit.suite.annotations.size = identifiers.toFinset.card := by
      show _ = (audit.suite.tests.map TestCase.identifier).toFinset.card
      rw [hsuite]
      exact Suite.size_annotations modules
    have hlength : audit.suite.tests.length = identifiers.length := (List.length_map _).symm
    rw [hsize, hlength]
    exact (Multiset.toFinset_card_eq_card_iff_nodup (m := (identifiers : Multiset String))).symm
  · have hown : audit.suite.annotationsOf test.testCase = test.annotations := by
      have hnodup : (audit.suite.tests.map TestCase.identifier).Nodup := hnodup
      rw [hsuite] at hnodup ⊢
      exact Suite.annotationsOf_found hnodup htest
    have hmem : test.testCase ∈ audit.suite.tests := htests ▸ List.mem_map_of_mem htest
    refine ⟨hown, ?_⟩
    rw [Audit.violations_run, Suite.filter_violations _ _ hnodup hmem, hown]

/-- A project that declares tests of one name in a module, in a class and in another file. -/
def layeredProject : FileTree :=
  ⟨[(Path.ofString "tests/test_a.py",
      .file "def test_a(): 0\nclass TestA:\n def test_a(s): 0\n".toUTF8),
    (Path.ofString "more", .file "def test_a(): 0\n".toUTF8)]⟩

theorem collected_once_in_layeredProject :
    layeredProject.WellFormed ∧
      (∀ path ∈ ["tests", "more"], layeredProject.isFile (.ofString path) = true →
        IsPlain (Path.ofString path).toString) ∧
      let audit := Audit.run layeredProject Source.parse (fun _ _ => none) {} ["tests", "more"]
      (audit.suite.tests.map TestCase.identifier).Nodup ∧
        audit.suite.annotations.size = audit.suite.tests.length := by
  have hw : layeredProject.WellFormed := by decide +kernel
  have hp : ∀ path ∈ ["tests", "more"], layeredProject.isFile (.ofString path) = true →
      IsPlain (Path.ofString path).toString := by decide +kernel
  have htests : Collect.fileNames layeredProject (.ofString "tests") = ["tests/test_a.py"] := by
    decide +kernel
  have hmore : Collect.fileNames layeredProject (.ofString "more") = ["more"] := by
    decide +kernel
  have hpaths : ∀ module ∈
      Collect.modulesBelow layeredProject Source.parse (["tests", "more"].map Path.ofString),
      ((DeclaredTest.ofBody module.2).map DeclaredTest.path).Nodup := by decide +kernel
  obtain ⟨-, -, hdistinct, hsize, -⟩ := collected_once hw Source.parse (fun _ _ => none) {} hp
  have hnodup := hdistinct (by simp [htests, hmore]) hpaths
  exact ⟨hw, hp, hnodup, hsize.mp hnodup⟩

/-- A project with a test that is declared twice, and a file named like a class of another. -/
def doubledProject : FileTree :=
  ⟨[(Path.ofString "a.py", .file "def test_a(): 0\ndef test_a(): '@covers A'\n".toUTF8),
    (Path.ofString "b.py", .file "class TestB:\n def test_b(s): 0\n".toUTF8),
    (Path.ofString "b.py::TestB", .file "def test_b(): 0\n".toUTF8)]⟩

/-- Identifiers repeat if a path does, if a file is named like a class of another one, and if a test
is declared again. Then annotations are missing, and violations are reported twice. -/
theorem identifiers_repeat :
    let suite := fun paths : List String =>
      (Suite.ofPaths doubledProject Source.parse (paths.map Path.ofString)).1
    doubledProject.WellFormed ∧
      ¬ ((suite ["b.py", "b.py"]).tests.map TestCase.identifier).Nodup ∧
      ¬ ((suite ["b.py", "b.py::TestB"]).tests.map TestCase.identifier).Nodup ∧
      ¬ ((suite ["a.py"]).tests.map TestCase.identifier).Nodup ∧
      (suite ["a.py"]).annotations.size ≠ (suite ["a.py"]).tests.length ∧
      ¬ (Audit.run doubledProject Source.parse (fun _ _ => none) {} ["a.py"]).violations.Nodup := by
  intro suite
  refine ⟨?_, ?_, ?_, ?_, ?_, ?_⟩ <;> decide +kernel

end CoverAudit
