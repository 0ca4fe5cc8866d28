import CoverAudit.Proofs.Files.Removal
import CoverAudit.Proofs.Suite.Found
import CoverAudit.Symbol.SourceRoot

/-!
# Broken files

An audit reads many files, and some may be broken: not UTF-8, or no source. Such a file is as good
as absent, wherever it stands and however many there are. Both sides of an audit are folds over the
sources that could be read, and these are the same with and without the broken files.

* `SymbolIndex.ofRoots_eq_addBodies`: the index is made of the modules below the roots that parse.
* `SymbolIndex.ofRoots_congr`, `Suite.ofPaths_congr`: trees with the same sources have the same
  index and the same suite.
* `FileTree.catchesFailures`: a file that can not be read never stops either side.
* `broken_files_as_absent`: removing broken files changes neither.
-/

namespace CoverAudit

variable {first second tree : FileTree} {parse : Source.Reader}

/-! ## The index -/

namespace SymbolIndex

/-- A module with its statements. -/
structure ParsedModule where
  name : String
  isPackage : Bool
  body : List Source.Stmt

/-- Adds some modules in order. -/
def addBodies (index : SymbolIndex) (modules : List ParsedModule) : SymbolIndex :=
  modules.foldl (fun index module => index.addBody module.name module.isPackage module.body) index

theorem addBodies_append (index : SymbolIndex) (some more : List ParsedModule) :
    index.addBodies (some ++ more) = (index.addBodies some).addBodies more :=
  List.foldl_append

/-- The module in a file, if it parses. -/
def parsed? (tree : FileTree) (parse : Source.Reader) (file : Path × String × Bool) :
    Option ParsedModule :=
  (tree.readSource parse file.1).toOption.map fun body =>
    { name := file.2.1, isPackage := file.2.2, body }

/-- The modules that a source root contributes. -/
def modulesOf (tree : FileTree) (parse : Source.Reader) (root : Path) : List ParsedModule :=
  if tree.exists? root then (rootFiles tree root).filterMap (parsed? tree parse) else []

theorem addFiles_eq_addBodies (index : SymbolIndex) (files : List (Path × String × Bool)) :
    (index.addFiles tree parse files).1 =
      index.addBodies (files.filterMap (parsed? tree parse)) := by
  induction files generalizing index with
  | nil => rfl
  | cons file rest ih =>
    obtain ⟨path, module, isPackage⟩ := file
    show ((index.addFile tree parse path module isPackage).1.addFiles tree parse rest).1 = _
    rw [ih, List.filterMap_cons, parsed?, addFile]
    cases tree.readSource parse path <;> rfl

theorem addRoots_eq_addBodies (index : SymbolIndex) (roots : List Path) :
    (index.addRoots tree parse roots).1 =
      index.addBodies (roots.flatMap (modulesOf tree parse)) := by
  induction roots generalizing index with
  | nil => rfl
  | cons root rest ih =>
    have hroot : (index.addRoot tree parse root).1 =
        index.addBodies (modulesOf tree parse root) := by
      unfold addRoot modulesOf
      split
      · exact addFiles_eq_addBodies index _
      · rfl
    show ((index.addRoot tree parse root).1.addRoots tree parse rest).1 = _
    rw [ih, hroot, List.flatMap_cons, addBodies_append]

/-- The index is made of the modules below the roots that parse. -/
theorem ofRoots_eq_addBodies (interfaceBases roots) :
    (ofRoots tree parse interfaceBases roots).1 =
      (empty interfaceBases).addBodies (roots.flatMap (modulesOf tree parse)) :=
  addRoots_eq_addBodies _ roots

theorem parsed?_congr (h : first.ReadsAs parse second) :
    parsed? first parse = parsed? second parse := by
  funext file
  rw [parsed?, parsed?, h.readSource]

theorem modulesOf_congr (h : first.ReadsAs parse second) (root : Path) :
    modulesOf first parse root = modulesOf second parse root := by
  have hexists : ∀ tree : FileTree, tree.exists? root =
      (tree.isFile root || tree.isDirectory root) := by
    intro tree
    rw [Bool.eq_iff_iff, Bool.or_eq_true, FileTree.exists?_iff]
  simp only [modulesOf, rootFiles, hexists, h.isDirectory, parsed?_congr h]
  obtain ⟨hfirst, hsecond⟩ | ⟨hfirst, hsecond, hno, hunread⟩ | ⟨hfirst, hsecond⟩ :=
    h.isFile_cases root
  · simp [hfirst, hsecond]
  · simp [hfirst, hsecond, hno, parsed?, hunread]
  · by_cases hdirectory : second.isDirectory root = true
    · simp only [hfirst, hsecond, hdirectory, Bool.false_or, Bool.false_eq_true, if_false, if_true,
        List.filterMap_filterMap]
      refine h.filterMap_sourcesBelow hdirectory _ fun parts hparts => ?_
      cases moduleOf parts with
      | none => rfl
      | some module => simp [parsed?, hparts]
    · simp [hfirst, hsecond, hdirectory]

/-- Trees with the same sources have the same index. -/
theorem ofRoots_congr (h : first.ReadsAs parse second) (interfaceBases roots) :
    (ofRoots first parse interfaceBases roots).1 =
      (ofRoots second parse interfaceBases roots).1 := by
  have hmodules : modulesOf first parse = modulesOf second parse := funext (modulesOf_congr h)
  rw [ofRoots_eq_addBodies, ofRoots_eq_addBodies, hmodules]

end SymbolIndex

/-! ## The suite -/

namespace Collect

theorem parsed_testFiles_congr (h : first.ReadsAs parse second) (path : Path) :
    parsed first parse (testFiles first path).1 =
      parsed second parse (testFiles second path).1 := by
  simp only [testFiles, parsed, h.isDirectory, h.readSource]
  obtain ⟨hfirst, hsecond⟩ | ⟨hfirst, hsecond, hno, hunread⟩ | ⟨hfirst, hsecond⟩ :=
    h.isFile_cases path
  · simp [hfirst, hsecond]
  · simp [hfirst, hsecond, hno, hunread]
  · by_cases hdirectory : second.isDirectory path = true
    · simp only [hfirst, hsecond, hdirectory, Bool.false_eq_true, if_false, if_true,
        List.filterMap_map, List.filterMap_filter]
      refine h.filterMap_sourcesBelow hdirectory _ fun parts hparts => ?_
      simp [hparts]
    · simp [hfirst, hsecond, hdirectory]

end Collect

/-- Trees with the same sources have the same suite. -/
theorem Suite.ofPaths_congr (h : first.ReadsAs parse second) (paths : List Path) :
    (Suite.ofPaths first parse paths).1 = (Suite.ofPaths second parse paths).1 := by
  rw [ofPaths_eq_ofModules, ofPaths_eq_ofModules]
  congr 1
  induction paths with
  | nil => rfl
  | cons path rest ih =>
    have hpath := Collect.parsed_testFiles_congr h path
    simp only [Collect.modulesBelow, Collect.filesBelow, Collect.parsed, List.flatMap_cons,
      List.filterMap_append] at hpath ih ⊢
    rw [hpath, ih]

/-! ## Audits of trees with broken files -/

/-- A file that can not be read is caught on both sides of an audit: it leaves the index and the
collected tests as they were, and the log says why. -/
def FileTree.CatchesFailures (tree : FileTree) (parse : Source.Reader) : Prop :=
  ∀ path error, tree.readSource parse path = .error error →
    (∀ (index : SymbolIndex) (module : String) (isPackage : Bool),
      index.addFile tree parse path module isPackage = (index, [error.logEntry .index path])) ∧
        Collect.file tree parse path = (none, [error.logEntry .collection path])

theorem FileTree.catchesFailures (tree : FileTree) (parse : Source.Reader) :
    tree.CatchesFailures parse := by
  intro path error herror
  constructor
  · intro index module isPackage
    rw [SymbolIndex.addFile, herror]
  · rw [Collect.file, herror]

/-- Reading one of the broken files fails: the text can not be decoded, or not be parsed. -/
theorem FileTree.readSource_of_unreadable (hw : tree.WellFormed) {path : Path}
    {place : FileTree.Place} {content : ByteArray}
    (hfile : (place, FileTree.Node.file content) ∈ tree.nodes)
    (hunread : FileTree.Unreadable parse content) (hl : tree.locate path = .ok place) :
    tree.readSource parse path = .error (.file .undecodable) ∨
      ∃ error, tree.readSource parse path = .error (.parse error) := by
  have hfind : tree.find path = .ok (.file content) := by
    simp [FileTree.find, hl, hw.nodeAt?_file_iff.mpr hfile, bind, Except.bind, pure, Except.pure]
  obtain hbytes | ⟨text, error, hdecode, hparse⟩ := hunread
  · left
    simp [FileTree.readSource, FileTree.read, hfind, FileTree.decode, hbytes, bind, Except.bind]
  · right
    exact ⟨error, by
      simp [FileTree.readSource, FileTree.read, hfind, hdecode, hparse, bind, Except.bind]⟩

/-- **Broken files are as good as absent.** Take from a tree some files that are not UTF-8 or whose
text does not parse, wherever they stand, and leave everything else where it is. Whatever the source
roots and the test paths are, the index and the suite with its annotations stay the same. No failure
gets out: a path to one of the files leads to text that can not be decoded or not be parsed, and
both sides catch that, as they catch every file that can not be read in either tree. -/
theorem broken_files_as_absent (hw : tree.WellFormed) {gone : List FileTree.Place}
    (hg : ∀ place ∈ gone, ∃ content,
      (place, FileTree.Node.file content) ∈ tree.nodes ∧ FileTree.Unreadable parse content)
    (interfaceBases : List String) (roots paths : List Path) :
    let rest := tree.without gone
    (∀ place, rest.nodeAt? place = if place ∈ gone then none else tree.nodeAt? place) ∧
      (∀ path, ∀ place ∈ gone, tree.locate path = .ok place →
        tree.readSource parse path = .error (.file .undecodable) ∨
          ∃ error, tree.readSource parse path = .error (.parse error)) ∧
      tree.CatchesFailures parse ∧ rest.CatchesFailures parse ∧
      (SymbolIndex.ofRoots rest parse interfaceBases roots).1 =
        (SymbolIndex.ofRoots tree parse interfaceBases roots).1 ∧
      (Suite.ofPaths rest parse paths).1 = (Suite.ofPaths tree parse paths).1 := by
  intro rest
  have hreads : rest.ReadsAs parse tree := FileTree.readsAs_without hw hg
  refine ⟨fun place => ?_, fun path place hplace hl => ?_, tree.catchesFailures parse,
    rest.catchesFailures parse, ?_, ?_⟩
  · exact FileTree.nodeAt?_without hw (FileTree.areFiles_of_unreadable hg)
  · obtain ⟨content, hfile, hunread⟩ := hg place hplace
    exact FileTree.readSource_of_unreadable hw hfile hunread hl
  · exact SymbolIndex.ofRoots_congr hreads interfaceBases roots
  · exact Suite.ofPaths_congr hreads paths

/-- A project with a source file that is not UTF-8 and a test file that is not finished. -/
def untidyProject : FileTree :=
  ⟨[(Path.ofString "shop.py", .file "def buy(): 0\n".toUTF8),
    (Path.ofString "src/torn.py", .file ⟨#[0xFF]⟩),
    (Path.ofString "test_shop.py", .file "def test_buy(): 0\n".toUTF8),
    (Path.ofString "tests/test_draft.py", .file "def".toUTF8)]⟩

theorem broken_files_as_absent_in_untidyProject :
    let gone := [Path.ofString "src/torn.py", Path.ofString "tests/test_draft.py"]
    let rest := untidyProject.without gone
    untidyProject.WellFormed ∧
      (∀ place ∈ gone, ∃ content, (place, FileTree.Node.file content) ∈ untidyProject.nodes ∧
        FileTree.Unreadable Source.parse content) ∧
      (SymbolIndex.ofRoots rest Source.parse []
        [Path.ofString "src", Path.ofString "shop.py"]).1.functions = ["shop.buy"] ∧
      (Suite.ofPaths rest Source.parse
        [Path.ofString "tests", Path.ofString "test_shop.py"]).1.tests.map TestCase.identifier =
          ["test_shop.py::test_buy"] := by
  intro gone rest
  have hw : untidyProject.WellFormed := by decide +kernel
  have htorn : FileTree.Unreadable Source.parse ⟨#[0xFF]⟩ := .inl (by decide +kernel)
  have hdraft : FileTree.Unreadable Source.parse "def".toUTF8 := by
    have hparse : (Source.parse "def").toOption.isSome = false := by decide +kernel
    cases herror : Source.parse "def" with
    | error error => exact .inr ⟨"def", error, rfl, herror⟩
    | ok body => rw [herror] at hparse; cases hparse
  have hg : ∀ place ∈ gone, ∃ content,
      (place, FileTree.Node.file content) ∈ untidyProject.nodes ∧
        FileTree.Unreadable Source.parse content := by
    intro place hplace
    obtain rfl | rfl : place = Path.ofString "src/torn.py" ∨
        place = Path.ofString "tests/test_draft.py" := by simpa [gone] using hplace
    · exact ⟨_, by simp [untidyProject], htorn⟩
    · exact ⟨_, by simp [untidyProject], hdraft⟩
  obtain ⟨-, -, -, -, hindex, hsuite⟩ := broken_files_as_absent hw hg []
    [Path.ofString "src", Path.ofString "shop.py"]
    [Path.ofString "tests", Path.ofString "test_shop.py"]
  refine ⟨hw, hg, ?_, ?_⟩
  · rw [hindex]
    decide +kernel
  · rw [hsuite]
    decide +kernel

end CoverAudit
