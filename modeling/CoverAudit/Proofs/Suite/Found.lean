import CoverAudit.Proofs.Suite.Declared
import Mathlib.Data.List.Basic

/-!
# Tests below some paths

Collection goes through paths, the files below each, and the tests of each file. Only two things
about the files matter to it: which test files the paths lead to, and what those hold that parse.

* `Collect.filesBelow`: the test files that some paths lead to, each as often as a path leads to it.
* `Collect.modulesBelow`: those of them that parse, with their statements.
* `Suite.ofPaths_eq_ofModules`: the suite depends on these alone.
* `FoundTest`: a test with the file that declares it. `Suite.ofModules_found` lists the tests and
  the annotations of a suite.
-/

namespace CoverAudit

namespace Collect

/-- The test files that some paths lead to, in order, each as often as a path leads to it. -/
def filesBelow (tree : FileTree) (paths : List Path) : List Path :=
  paths.flatMap fun path => (testFiles tree path).1

/-- The files that parse, with their statements. -/
def parsed (tree : FileTree) (parse : Source.Reader) (files : List Path) :
    List (Path × List Source.Stmt) :=
  files.filterMap fun path => (tree.readSource parse path).toOption.map fun body => (path, body)

/-- The test files below some paths that parse, with their statements. -/
def modulesBelow (tree : FileTree) (parse : Source.Reader) (paths : List Path) :
    List (Path × List Source.Stmt) :=
  parsed tree parse (filesBelow tree paths)

variable {tree : FileTree} {parse : Source.Reader}

theorem mem_parsed {files : List Path} {path : Path} {body : List Source.Stmt}
    (h : (path, body) ∈ parsed tree parse files) :
    path ∈ files ∧ tree.readSource parse path = .ok body := by
  obtain ⟨other, ho, hb⟩ := List.mem_filterMap.mp h
  obtain ⟨found, hf, he⟩ := Option.map_eq_some_iff.mp hb
  cases he
  cases hr : tree.readSource parse path with
  | error error => rw [hr] at hf; cases hf
  | ok statements =>
    rw [hr] at hf
    cases hf
    exact ⟨ho, rfl⟩

/-- What is collected from a file that parses. -/
def ofModule (module : Path × List Source.Stmt) : Collected :=
  Collect.module module.1.toString module.2

theorem files_eq_parsed (found : List Path) :
    (files tree parse found).1 = (parsed tree parse found).map ofModule := by
  induction found with
  | nil => rfl
  | cons path rest ih =>
    show (file tree parse path).1.toList ++ (files tree parse rest).1 = _
    rw [ih, file]
    unfold parsed
    rw [List.filterMap_cons]
    cases tree.readSource parse path <;> rfl

theorem paths_eq_modulesBelow (roots : List Path) :
    (paths tree parse roots).1 = (modulesBelow tree parse roots).map ofModule := by
  induction roots with
  | nil => rfl
  | cons path rest ih =>
    show (files tree parse (testFiles tree path).1).1 ++ (paths tree parse rest).1 = _
    rw [ih, files_eq_parsed, ← List.map_append]
    simp only [modulesBelow, parsed, filesBelow, List.flatMap_cons, List.filterMap_append]

end Collect

/-- The suite of all tests of some files. -/
def Suite.ofModules (modules : List (Path × List Source.Stmt)) : Suite :=
  .ofCollected
    { node := .group "session" ((modules.map Collect.ofModule).map Collect.Collected.node)
      annotated := (modules.map Collect.ofModule).flatMap Collect.Collected.annotated }

theorem Suite.ofPaths_eq_ofModules (tree : FileTree) (parse : Source.Reader) (paths : List Path) :
    (Suite.ofPaths tree parse paths).1 = .ofModules (Collect.modulesBelow tree parse paths) := by
  rw [ofModules, ← Collect.paths_eq_modulesBelow]
  rfl

/-! ## Found tests -/

/-- A test with the file that declares it. -/
structure FoundTest where
  file : Path
  module : List Source.Stmt
  declared : DeclaredTest

namespace FoundTest

/-- The tests of some files, in order. -/
def ofModules (modules : List (Path × List Source.Stmt)) : List FoundTest :=
  modules.flatMap fun (file, module) =>
    (DeclaredTest.ofBody module).map fun declared => { file, module, declared }

/-- The test as a leaf of the suite. -/
def testCase (found : FoundTest) : TestCase :=
  found.declared.testCase found.file.toString

/-- The annotations that the file declares for the test. -/
def annotations (found : FoundTest) : Annotations :=
  found.declared.annotations found.module

end FoundTest

/-- The tests and the annotations that a suite is made of. -/
theorem Suite.ofModules_found (modules : List (Path × List Source.Stmt)) :
    (Suite.ofModules modules).tests = (FoundTest.ofModules modules).map FoundTest.testCase ∧
      (modules.map Collect.ofModule).flatMap Collect.Collected.annotated =
        (FoundTest.ofModules modules).map fun found =>
          (found.testCase.identifier, found.annotations) := by
  have htests : (Suite.ofModules modules).tests =
      modules.flatMap fun module => (Collect.ofModule module).node.tests := by
    show (TestNode.group "session" _).tests = _
    rw [TestNode.tests_group, List.flatMap_map]
  constructor
  · rw [htests, FoundTest.ofModules, List.map_flatMap]
    refine List.flatMap_congr fun module _ => ?_
    rw [Collect.ofModule, (Collect.module_eq_declared _ _).1, List.map_map]
    rfl
  · rw [List.flatMap_map, FoundTest.ofModules, List.map_flatMap]
    refine List.flatMap_congr fun module _ => ?_
    rw [Collect.ofModule, (Collect.module_eq_declared _ _).2, List.map_map]
    rfl

end CoverAudit
