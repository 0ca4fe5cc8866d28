import CoverAudit.Suite.Collect

/-!
# Leaves of a suite

The leaves of a tree of tests in the order of a walk, with the values that are neither tests nor
groups kept in their places.

* `OnlyTests`: all leaves of a tree are tests. A group has this property when its members do
  (`OnlyTests.group`).
* `statement_onlyTests`, `module_onlyTests`: so does everything that is collected from a source.
* `ofPaths_onlyTests`: so does the suite of all tests below some paths.
-/

namespace CoverAudit

namespace TestNode

mutual

/-- The leaves of a tree, from left to right: tests, and values that are neither tests nor
groups. -/
def leaves : TestNode → List (TestCase ⊕ Foreign)
  | .test case => [.inl case]
  | .group _ nodes => leavesOf nodes
  | .foreign value => [.inr value]

@[inherit_doc leaves]
def leavesOf : List TestNode → List (TestCase ⊕ Foreign)
  | [] => []
  | node :: rest => node.leaves ++ leavesOf rest

end

/-- All leaves of a tree are tests. -/
def OnlyTests (node : TestNode) : Prop :=
  node.leaves = node.tests.map .inl

theorem OnlyTests.group {nodes : List TestNode} (name : String)
    (h : ∀ node ∈ nodes, node.OnlyTests) : (TestNode.group name nodes).OnlyTests := by
  show leavesOf nodes = (testsOf nodes).map .inl
  induction nodes with
  | nil => rfl
  | cons node rest ih =>
    have hnode : node.leaves = node.tests.map .inl := h node List.mem_cons_self
    have hrest := ih fun other hm => h other (List.mem_cons_of_mem _ hm)
    simp only [leavesOf, testsOf, List.map_append, hnode, hrest]

end TestNode

namespace Collect

/-- A group of collected trees. -/
theorem onlyTests_group {collected : List Collected} (name : String)
    (h : ∀ c ∈ collected, c.node.OnlyTests) :
    (TestNode.group name (collected.map Collected.node)).OnlyTests := by
  refine .group name fun node hm => ?_
  obtain ⟨c, hc, rfl⟩ := List.mem_map.mp hm
  exact h c hc

mutual

theorem statement_onlyTests (scope : Scope) : (stmt : Source.Stmt) →
    ∀ c ∈ statement scope stmt, c.node.OnlyTests
  | .function name decorators body => by
    intro c hc
    simp only [statement] at hc
    split at hc
    · rw [List.mem_singleton.mp hc]
      rfl
    · cases hc
  | .classDef name bases decorators body => by
    intro c hc
    simp only [statement] at hc
    split at hc
    · rw [List.mem_singleton.mp hc]
      exact onlyTests_group _ (statements_onlyTests _ body)
    · cases hc
  | .importModules _ | .importFrom _ _ _ | .assign _ _ | .expr _ | .other => by
    intro c hc
    simp [statement] at hc

theorem statements_onlyTests (scope : Scope) : (body : List Source.Stmt) →
    ∀ c ∈ statements scope body, c.node.OnlyTests
  | [] => fun c hc => by simp [statements] at hc
  | first :: rest => by
    intro c hc
    rw [statements, List.mem_append] at hc
    obtain hc | hc := hc
    · exact statement_onlyTests scope first c hc
    · exact statements_onlyTests scope rest c hc

end

theorem module_onlyTests (identifier : String) (body : List Source.Stmt) :
    (module identifier body).node.OnlyTests :=
  onlyTests_group identifier (statements_onlyTests _ body)

variable {tree : FileTree} {parse : Source.Reader}

theorem file_onlyTests {path : Path} {c : Collected} (hc : (file tree parse path).1 = some c) :
    c.node.OnlyTests := by
  unfold file at hc
  split at hc
  · cases hc
    exact module_onlyTests _ _
  · cases hc

theorem files_onlyTests (found : List Path) :
    ∀ c ∈ (files tree parse found).1, c.node.OnlyTests := by
  induction found with
  | nil => intro c hc; cases hc
  | cons path rest ih =>
    intro c hc
    simp only [files, List.mem_append, Option.mem_toList] at hc
    obtain hc | hc := hc
    · exact file_onlyTests hc
    · exact ih c hc

theorem paths_onlyTests (roots : List Path) :
    ∀ c ∈ (paths tree parse roots).1, c.node.OnlyTests := by
  induction roots with
  | nil => intro c hc; cases hc
  | cons path rest ih =>
    intro c hc
    simp only [paths, List.mem_append] at hc
    obtain hc | hc := hc
    · exact files_onlyTests _ c hc
    · exact ih c hc

end Collect

/-- A collected suite holds tests and groups of them, and nothing else. -/
theorem Suite.ofPaths_onlyTests (tree : FileTree) (parse : Source.Reader) (paths : List Path) :
    (Suite.ofPaths tree parse paths).1.root.OnlyTests :=
  Collect.onlyTests_group "session" (Collect.paths_onlyTests paths)

end CoverAudit
