import CoverAudit.Proofs.Suite.Leaves

/-!
# Tests as they stand in the source

Collection builds a tree of groups and, beside it, a list of annotations. Here the same tests are
listed one by one, each with the classes around it, and everything that collection says about a
test is said of the declaration.

* `DeclaredTest.ofBody`: the tests of a module, in the order of the source.
* `DeclaredTest.scopes`: the scopes whose markers count for a test, closest first.
* `Collect.module_eq_declared`: the tests that are collected from a module, and their annotations,
  are those of its declarations.
-/

namespace CoverAudit

/-! ## Markers of a scope -/

namespace Markers

@[simp] theorem empty_append (markers : Markers) : append {} markers = markers := by
  simp [append]

theorem append_assoc (a b c : Markers) : (a.append b).append c = a.append (b.append c) := by
  simp [append]

theorem concat_cons (first : Markers) (rest : List Markers) :
    concat (first :: rest) = first.append (concat rest) := rfl

theorem concat_append (first second : List Markers) :
    concat (first ++ second) = (concat first).append (concat second) := by
  induction first with
  | nil => exact (empty_append _).symm
  | cons markers rest ih => rw [List.cons_append, concat_cons, concat_cons, ih, append_assoc]

theorem ofExprs_append (first second : List Source.Expr) :
    ofExprs (first ++ second) = (ofExprs first).append (ofExprs second) := by
  rw [ofExprs, List.map_append, concat_append]
  rfl

end Markers

/-- The markers that a scope has in the source. -/
structure MarkerScope where
  /-- The decorators, from top to bottom. -/
  decorators : List Source.Expr := []
  /-- What the body assigns to `pytestmark`, assignment by assignment. -/
  assignments : List (List Source.Expr) := []

namespace MarkerScope

/-- The scope of a body with decorators. -/
def ofBody (decorators : List Source.Expr) (body : List Source.Stmt) : MarkerScope where
  decorators
  assignments := body.filterMap Markers.assigned?

/-- The expressions that collection looks at, in its order: the decorators from top to bottom, then
the first assignment. -/
def written (scope : MarkerScope) : List Source.Expr :=
  scope.decorators ++ scope.assignments.head?.getD []

/-- What a scope declares. -/
def markers (scope : MarkerScope) : Markers :=
  Markers.ofExprs scope.written

theorem markers_ofBody (decorators : List Source.Expr) (body : List Source.Stmt) :
    (ofBody decorators body).markers =
      (Markers.ofExprs decorators).append (Markers.ofBody body) := by
  rw [markers, written, Markers.ofExprs_append, Markers.ofBody,
    ← List.head?_filterMap]
  rfl

end MarkerScope

/-! ## Declared tests -/

/-- A class that holds tests, as it stands in the source. -/
structure TestClass where
  name : Source.Identifier
  decorators : List Source.Expr
  body : List Source.Stmt

/-- A test as it stands in the source. -/
structure DeclaredTest where
  /-- The classes around the test, closest first. -/
  classes : List TestClass
  name : Source.Identifier
  decorators : List Source.Expr
  body : List Source.Stmt

namespace DeclaredTest

mutual

/-- The tests that a statement declares inside of some classes, closest first. -/
def ofStatement (classes : List TestClass) : Source.Stmt → List DeclaredTest
  | .function name decorators body =>
    if Collect.isTestName name.text then [{ classes, name, decorators, body }] else []
  | .classDef name _ decorators body =>
    if Collect.isTestClassName name.text then
      ofStatements ({ name, decorators, body } :: classes) body
    else []
  | _ => []

/-- The tests that the statements of a body declare inside of some classes, in the order of the
source. -/
def ofStatements (classes : List TestClass) : List Source.Stmt → List DeclaredTest
  | [] => []
  | first :: rest => ofStatement classes first ++ ofStatements classes rest

end

/-- The tests of a module, in the order of the source. -/
def ofBody (body : List Source.Stmt) : List DeclaredTest :=
  ofStatements [] body

/-- What a test is called inside of its module: the names of the classes around it, outermost first,
and its own. -/
def path (declared : DeclaredTest) : List Source.Identifier :=
  (declared.classes.map TestClass.name).reverse ++ [declared.name]

/-- What the classes around a test are called together, in a module. -/
def scopeName (module : String) (classes : List TestClass) : String :=
  classes.foldr (fun holder outer => outer ++ "::" ++ holder.name.text) module

/-- The test that is declared in a module. -/
def testCase (module : String) (declared : DeclaredTest) : TestCase where
  identifier := scopeName module declared.classes ++ "::" ++ declared.name.text
  name := declared.name.text
  className := declared.classes.head?.map fun holder => holder.name.text

/-- The docblock that declares default classes for the tests of some classes: that of the closest
one, or that of the module when there is none. -/
def docOf (module : List Source.Stmt) : List TestClass → Option String
  | [] => Source.docstring? module
  | holder :: _ => Source.docstring? holder.body

/-- The scopes of some classes and of the module around them, closest first. -/
def outerScopes (module : List Source.Stmt) (classes : List TestClass) : List MarkerScope :=
  classes.map (fun holder => .ofBody holder.decorators holder.body) ++ [.ofBody [] module]

/-- The scopes whose markers count for a test, closest first. -/
def scopes (module : List Source.Stmt) (declared : DeclaredTest) : List MarkerScope :=
  { decorators := declared.decorators } :: outerScopes module declared.classes

/-- The annotations that are declared for a test in its module. -/
def annotations (module : List Source.Stmt) (declared : DeclaredTest) : Annotations :=
  let marked := Markers.concat ((declared.scopes module).map MarkerScope.markers)
  Annotations.ofDocblocks (docOf module declared.classes) (Source.docstring? declared.body)
    marked.defaultClasses marked.covers

end DeclaredTest

/-! ## Collection of declared tests -/

theorem TestNode.tests_group (name : String) (collected : List Collect.Collected) :
    (TestNode.group name (collected.map Collect.Collected.node)).tests =
      collected.flatMap fun c => c.node.tests := by
  show TestNode.testsOf (collected.map Collect.Collected.node) = _
  induction collected with
  | nil => rfl
  | cons c rest ih => rw [List.map_cons, TestNode.testsOf, ih, List.flatMap_cons]

/-- Where no two tests share an identifier, a suite knows each by its own annotations. -/
theorem Suite.annotationsOf_of_mem {collected : Collect.Collected}
    (h : (collected.annotated.map Prod.fst).Nodup) {test : TestCase} {annotations : Annotations}
    (hm : (test.identifier, annotations) ∈ collected.annotated) :
    (Suite.ofCollected collected).annotationsOf test = annotations := by
  show ((Table.empty.insertMany collected.annotated).get? test.identifier).getD {} = annotations
  rw [Table.get?_insertMany_of_nodup _ h hm, Option.getD_some]

namespace Collect

variable {identifier : String} {module : List Source.Stmt}

/-- What the tests inside of some classes of a module inherit. -/
def scopeOf (identifier : String) (module : List Source.Stmt) (classes : List TestClass) :
    Scope where
  identifier := DeclaredTest.scopeName identifier classes
  className := classes.head?.map fun holder => holder.name.text
  doc := DeclaredTest.docOf module classes
  markers := (DeclaredTest.outerScopes module classes).map MarkerScope.markers

theorem scopeOf_nil :
    scopeOf identifier module [] =
      { identifier, className := none, doc := Source.docstring? module
        markers := [Markers.ofBody module] } := by
  have hmodule := MarkerScope.markers_ofBody [] module
  simp only [Markers.ofExprs, Markers.concat, List.map_nil, List.foldr_nil,
    Markers.empty_append] at hmodule
  simp [scopeOf, DeclaredTest.scopeName, DeclaredTest.docOf, DeclaredTest.outerScopes, hmodule]

theorem scopeOf_cons (holder : TestClass) (classes : List TestClass) :
    scopeOf identifier module (holder :: classes) =
      { identifier := (scopeOf identifier module classes).identifier ++ "::" ++ holder.name.text
        className := some holder.name.text
        doc := Source.docstring? holder.body
        markers := (Markers.ofExprs holder.decorators).append (Markers.ofBody holder.body) ::
          (scopeOf identifier module classes).markers } := by
  simp only [scopeOf, DeclaredTest.outerScopes, List.map_cons, List.cons_append,
    MarkerScope.markers_ofBody]
  rfl

/-- The tests of some collected trees are these declarations, with their annotations. -/
def Lists (identifier : String) (module : List Source.Stmt) (collected : List Collected)
    (declared : List DeclaredTest) : Prop :=
  (collected.flatMap fun c => c.node.tests) = declared.map (DeclaredTest.testCase identifier) ∧
    collected.flatMap Collected.annotated = declared.map fun test =>
      ((test.testCase identifier).identifier, test.annotations module)

theorem Lists.append {first second : List Collected} {declared others : List DeclaredTest}
    (hfirst : Lists identifier module first declared)
    (hsecond : Lists identifier module second others) :
    Lists identifier module (first ++ second) (declared ++ others) := by
  obtain ⟨ht, ha⟩ := hfirst
  obtain ⟨ht', ha'⟩ := hsecond
  constructor
  · rw [List.flatMap_append, ht, ht', List.map_append]
  · rw [List.flatMap_append, ha, ha', List.map_append]

theorem Lists.group {collected : List Collected} {declared : List DeclaredTest}
    (h : Lists identifier module collected declared) (name : String) :
    Lists identifier module
      [{ node := .group name (collected.map Collected.node)
         annotated := collected.flatMap Collected.annotated }] declared := by
  obtain ⟨ht, ha⟩ := h
  constructor
  · rw [List.flatMap_singleton, TestNode.tests_group, ht]
  · rw [List.flatMap_singleton, ha]

theorem lists_testCase (declared : DeclaredTest) :
    Lists identifier module
      [testCase (scopeOf identifier module declared.classes) declared.name.text
        declared.decorators declared.body] [declared] := by
  refine ⟨rfl, ?_⟩
  have hscopes : (declared.scopes module).map MarkerScope.markers =
      Markers.ofExprs declared.decorators ::
        (scopeOf identifier module declared.classes).markers := by
    simp [DeclaredTest.scopes, scopeOf, MarkerScope.markers, MarkerScope.written]
  simp only [testCase, List.flatMap_singleton, List.map_singleton, DeclaredTest.annotations,
    hscopes]
  rfl

mutual

theorem statement_lists (classes : List TestClass) : (stmt : Source.Stmt) →
    Lists identifier module (statement (scopeOf identifier module classes) stmt)
      (DeclaredTest.ofStatement classes stmt)
  | .function name decorators body => by
    simp only [statement, DeclaredTest.ofStatement]
    split
    · exact lists_testCase { classes, name, decorators, body }
    · exact ⟨rfl, rfl⟩
  | .classDef name bases decorators body => by
    simp only [statement, DeclaredTest.ofStatement]
    split
    · have hbody := statements_lists ({ name, decorators, body } :: classes) body
      rw [scopeOf_cons] at hbody
      exact hbody.group _
    · exact ⟨rfl, rfl⟩
  | .importModules _ | .importFrom _ _ _ | .assign _ _ | .expr _ | .other => by
    simp only [statement, DeclaredTest.ofStatement]
    exact ⟨rfl, rfl⟩

theorem statements_lists (classes : List TestClass) : (body : List Source.Stmt) →
    Lists identifier module (statements (scopeOf identifier module classes) body)
      (DeclaredTest.ofStatements classes body)
  | [] => ⟨rfl, rfl⟩
  | first :: rest => by
    rw [statements, DeclaredTest.ofStatements]
    exact (statement_lists classes first).append (statements_lists classes rest)

end

/-- The tests that are collected from a module, and their annotations, are those of its
declarations. -/
theorem module_eq_declared (identifier : String) (body : List Source.Stmt) :
    (Collect.module identifier body).node.tests =
        (DeclaredTest.ofBody body).map (DeclaredTest.testCase identifier) ∧
      (Collect.module identifier body).annotated = (DeclaredTest.ofBody body).map fun test =>
        ((test.testCase identifier).identifier, test.annotations body) := by
  have hbody : Lists identifier body (statements (scopeOf identifier body []) body)
      (DeclaredTest.ofStatements [] body) := statements_lists [] body
  rw [scopeOf_nil] at hbody
  obtain ⟨ht, ha⟩ := hbody
  exact ⟨(TestNode.tests_group _ _).trans ht, ha⟩

end Collect

end CoverAudit
