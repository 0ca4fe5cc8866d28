import CoverAudit.Proofs.Source.Places
import CoverAudit.Proofs.Suite.Declared
import CoverAudit.Proofs.Suite.MarkerValues

/-!
# The tests of a module

Which functions of a module are tests, in what order they are found, what they are called and what
is declared for them, said by their places in the source.

* `TestAt`: which test stands at a place. Functions count directly in the module, or directly in a
  class to which a chain of test classes leads.
* `DeclaredTest.mem_placedIn_iff`, `Survey.pairwise_placedIn`: the tests of a module are those at
  its places, in the order of the document.
* `DeclaredTest.Annotated`: what docblocks and markers declare for a test, scope by scope.
* `Collect.module_collects_placed`: the tests of a module with their annotations.
-/

namespace CoverAudit

open Source (Stmt Expr Identifier)

/-- `TestAt classes body place declared`: in a body inside of some classes, closest first,
`declared` is the test at `place`, directly in the body or inside of the test class that the place
leads into. -/
inductive TestAt : List TestClass → List Stmt → Place → DeclaredTest → Prop
  | here {classes : List TestClass} {body inner : List Stmt} {i : Nat} {name : Identifier}
      {decorators : List Expr} (h : body[i]? = some (.function name decorators inner))
      (hn : "test".toList <+: name.text.toList) :
      TestAt classes body [i] { classes, name, decorators, body := inner }
  | inside {classes : List TestClass} {body inner : List Stmt} {i : Nat} {name : Identifier}
      {bases decorators : List Expr} {place : Place} {declared : DeclaredTest}
      (h : body[i]? = some (.classDef name bases decorators inner))
      (hn : "Test".toList <+: name.text.toList)
      (hin : TestAt ({ name, decorators, body := inner } :: classes) inner place declared) :
      TestAt classes body (i :: place) declared

/-- A part that is glued on at the end. -/
theorem Text.glue_concat (sep last : String) {front : List String} (h : front ≠ []) :
    Text.glue sep (front ++ [last]) = Text.glue sep front ++ sep ++ last := by
  induction front with
  | nil => exact absurd rfl h
  | cons part rest ih =>
    cases rest with
    | nil => rfl
    | cons second others =>
      have hrest := ih (List.cons_ne_nil second others)
      simp only [List.cons_append, Text.glue] at hrest ⊢
      rw [hrest]
      simp only [String.append_assoc]

theorem Collect.isTestName_iff (name : String) :
    isTestName name = true ↔ "test".toList <+: name.toList :=
  List.isPrefixOf_iff_prefix

theorem Collect.isTestClassName_iff (name : String) :
    isTestClassName name = true ↔ "Test".toList <+: name.toList :=
  List.isPrefixOf_iff_prefix

theorem Collect.isTestFileName_iff (name : String) :
    isTestFileName name = true ↔
      "test_".toList <+: name.toList ∨ "_test.py".toList <:+ name.toList := by
  rw [isTestFileName, Bool.or_eq_true, List.isPrefixOf_iff_prefix, List.isSuffixOf_iff_suffix]

/-- The test files below a directory are its sources with the name of a test file. -/
theorem Collect.mem_testFiles_iff {tree : FileTree} {root path : Path}
    (hd : tree.isDirectory root = true) :
    path ∈ (testFiles tree root).1 ↔ ∃ parts ∈ tree.sourcesBelow root, root.below parts = path ∧
      ("test_".toList <+: (parts.getLastD "").toList ∨
        "_test.py".toList <:+ (parts.getLastD "").toList) := by
  have hf : tree.isFile root = false := by
    unfold FileTree.isDirectory at hd
    split at hd
    · rename_i hfind
      rw [FileTree.isFile, hfind]
    · cases hd
  simp only [testFiles, hf, hd, if_true, Bool.false_eq_true, if_false, List.mem_map,
    List.mem_filter, isTestFileName_iff]
  grind

namespace DeclaredTest

/-! ## Tests and their places -/

/-- Looks for tests, at the top and in test classes. -/
def survey : Survey (List TestClass) DeclaredTest where
  own
    | classes, .function name decorators body =>
      if Collect.isTestName name.text then some { classes, name, decorators, body } else none
    | _, _ => none
  enter
    | classes, .classDef name _ decorators body =>
      if Collect.isTestClassName name.text then some ({ name, decorators, body } :: classes)
      else none
    | _, _ => none

mutual

theorem map_snd_placedOf (classes : List TestClass) (i : Nat) (statement : Stmt) :
    (survey.placedOf classes i statement).map Prod.snd = ofStatement classes statement := by
  cases statement with
  | function name decorators body =>
    simp only [Survey.placedOf, survey, ofStatement]
    split <;> rfl
  | classDef name bases decorators body =>
    have hinner := map_snd_placedIn ({ name, decorators, body } :: classes) 0 body
    simp only [Survey.placedOf, ofStatement, ← hinner]
    cases hn : Collect.isTestClassName name.text <;> simp [survey, hn]
  | _ => rfl

theorem map_snd_placedIn (classes : List TestClass) (i : Nat) (body : List Stmt) :
    (survey.placedIn classes i body).map Prod.snd = ofStatements classes body := by
  cases body with
  | nil => rfl
  | cons statement rest =>
    rw [Survey.placedIn, ofStatements, List.map_append, map_snd_placedOf classes i statement,
      map_snd_placedIn classes (i + 1) rest]

end

/-- The enumeration of a body holds exactly the tests at its places. -/
theorem mem_placedIn_iff {classes : List TestClass} {body : List Stmt} {place : Place}
    {declared : DeclaredTest} :
    (place, declared) ∈ survey.placedIn classes 0 body ↔ TestAt classes body place declared := by
  rw [Survey.mem_placedIn_iff]
  constructor
  · intro h
    induction h with
    | @here classes _ _ statement _ h ho =>
      cases statement with
      | function name decorators inner =>
        obtain ⟨hn, ho⟩ := Option.ite_none_right_eq_some.mp ho
        cases ho
        exact .here h ((Collect.isTestName_iff _).mp hn)
      | _ => cases ho
    | inside h he _ ih =>
      obtain ⟨hn, he⟩ := Option.ite_none_right_eq_some.mp he
      cases he
      exact .inside h ((Collect.isTestClassName_iff _).mp hn) ih
  · intro h
    induction h with
    | here h hn => exact .here h (if_pos ((Collect.isTestName_iff _).mpr hn))
    | inside h hn _ ih => exact .inside h (if_pos ((Collect.isTestClassName_iff _).mpr hn)) ih

/-! ## Identifiers -/

theorem scopeName_eq_glue (module : String) (classes : List TestClass) :
    scopeName module classes =
      Text.glue "::" (module :: (classes.map fun holder => holder.name.text).reverse) := by
  induction classes with
  | nil => rfl
  | cons holder rest ih =>
    have hglue := Text.glue_concat "::" holder.name.text
      (List.cons_ne_nil module (rest.map fun outer => outer.name.text).reverse)
    rw [List.map_cons, List.reverse_cons, ← List.cons_append, hglue, ← ih]
    rfl

/-- A test is called like its module, the classes around it from the outermost one on, and its
function, with colons between them. -/
theorem testCase_eq (module : String) (declared : DeclaredTest) :
    declared.testCase module =
      { identifier := Text.glue "::" (module :: declared.path.map Identifier.text)
        name := declared.name.text
        className := declared.classes.head?.map fun holder => holder.name.text } := by
  have hpath : module :: declared.path.map Identifier.text =
      (module :: (declared.classes.map fun holder => holder.name.text).reverse) ++
        [declared.name.text] := by
    simp [path, List.map_reverse, Function.comp_def]
  rw [hpath, Text.glue_concat _ _ (List.cons_ne_nil _ _), ← scopeName_eq_glue]
  rfl

/-! ## Annotations -/

/-- What markers declare for the tests of some classes: for each class from the closest one
outwards, its decorators and then the markers that its body assigns first, and at the end those that
the module assigns first. -/
def markedAround (values : Markers → List String) (module : List Stmt)
    (classes : List TestClass) : List String :=
  classes.flatMap (fun holder =>
    values (.ofExprs holder.decorators) ++ values (.ofBody holder.body)) ++
    values (.ofBody module)

/-- Scopes are read one behind the other, for each kind of value. -/
theorem values_scopes {name : String} {values : Markers → List String}
    (hv : Markers.Reads name values) (module : List Stmt) (declared : DeclaredTest) :
    values (Markers.concat ((declared.scopes module).map MarkerScope.markers)) =
      values (.ofExprs declared.decorators) ++ markedAround values module declared.classes := by
  have hconcat (scopes : List Markers) :
      values (Markers.concat scopes) = scopes.flatMap values := by
    induction scopes with
    | nil => exact hv.empty
    | cons first rest ih => rw [Markers.concat_cons, hv.append, ih, List.flatMap_cons]
  have hown : ({ decorators := declared.decorators } : MarkerScope).markers =
      .ofExprs declared.decorators := by
    simp [MarkerScope.markers, MarkerScope.written]
  have hempty : Markers.ofExprs [] = {} := rfl
  rw [hconcat, scopes, outerScopes, markedAround]
  simp [hown, MarkerScope.markers_ofBody, List.flatMap_map, hv.append, hempty]

end DeclaredTest

/-- `texts` are what the markers of a name declare for the tests of some classes, closest first, in
a module: the decorators of a class count before what its body assigns, a class before those around
it, and the module comes last. -/
inductive DeclaresAround (name : String) (module : List Stmt) :
    List TestClass → List String → Prop
  | module {items : List Expr} {texts : List String} (assigned : FirstAssigned module items)
      (declares : Declares name items texts) : DeclaresAround name module [] texts
  | inside {holder : TestClass} {classes : List TestClass} {items : List Expr}
      {decorating texts around : List String}
      (decorates : Declares name holder.decorators decorating)
      (assigned : FirstAssigned holder.body items) (declares : Declares name items texts)
      (outside : DeclaresAround name module classes around) :
      DeclaresAround name module (holder :: classes) (decorating ++ texts ++ around)

theorem declaresAround_iff {name : String} {values : Markers → List String}
    (hv : Markers.Reads name values) {module : List Stmt} {classes : List TestClass}
    {texts : List String} :
    DeclaresAround name module classes texts ↔
      DeclaredTest.markedAround values module classes = texts := by
  have hassigned : ∀ {body : List Stmt} {items : List Expr} {texts : List String},
      FirstAssigned body items → Declares name items texts → values (.ofBody body) = texts := by
    intro body items texts hfirst hdeclares
    rw [Markers.ofBody, firstAssigned_iff.mp hfirst]
    exact hv.declares_iff.mp hdeclares
  constructor
  · intro h
    induction h with
    | module assigned declares =>
      rw [DeclaredTest.markedAround, List.flatMap_nil, List.nil_append]
      exact hassigned assigned declares
    | inside decorates assigned declares _ ih =>
      rw [DeclaredTest.markedAround, List.flatMap_cons, List.append_assoc,
        ← DeclaredTest.markedAround, ih, hv.declares_iff.mp decorates,
        hassigned assigned declares]
  · rintro rfl
    induction classes with
    | nil => exact .module (firstAssigned_iff.mpr rfl) (hv.declares_iff.mpr rfl)
    | cons holder classes ih =>
      rw [DeclaredTest.markedAround, List.flatMap_cons, List.append_assoc]
      exact .inside (hv.declares_iff.mpr rfl) (firstAssigned_iff.mpr rfl)
        (hv.declares_iff.mpr rfl) ih

/-- The annotations that a module declares for a test. Default classes are those of the docblock of
the closest class, or of the module when there is none, and targets those of the test's own
docblock; behind them stands what markers declare, those of the test before those around it. -/
inductive DeclaredTest.Annotated (module : List Stmt) (declared : DeclaredTest) :
    Annotations → Prop
  | intro {scopeDoc ownDoc : Option String}
      {ownDefaults defaultsAround ownCovers coversAround : List String}
      (scopeDocstring :
        HasDocstring ((declared.classes.head?.map TestClass.body).getD module) scopeDoc)
      (ownDocstring : HasDocstring declared.body ownDoc)
      (defaults : Declares "covers_default_class" declared.decorators ownDefaults)
      (outerDefaults :
        DeclaresAround "covers_default_class" module declared.classes defaultsAround)
      (covers : Declares "covers" declared.decorators ownCovers)
      (outerCovers : DeclaresAround "covers" module declared.classes coversAround) :
      Annotated module declared
        { defaultClasses := Docblock.valuesOf "coversDefaultClass" scopeDoc ++
            (ownDefaults ++ defaultsAround)
          covers := Docblock.valuesOf "covers" ownDoc ++ (ownCovers ++ coversAround) }

/-- Collection computes the annotations that are declared. -/
theorem DeclaredTest.annotated_iff {module : List Stmt} {declared : DeclaredTest}
    {annotations : Annotations} :
    declared.Annotated module annotations ↔ declared.annotations module = annotations := by
  have hmarked : declared.annotations module =
      { defaultClasses := Docblock.valuesOf "coversDefaultClass" (docOf module declared.classes) ++
          (Markers.defaultClasses (.ofExprs declared.decorators) ++
            markedAround Markers.defaultClasses module declared.classes)
        covers := Docblock.valuesOf "covers" (Source.docstring? declared.body) ++
          (Markers.covers (.ofExprs declared.decorators) ++
            markedAround Markers.covers module declared.classes) } := by
    rw [← values_scopes Markers.reads_defaultClasses, ← values_scopes Markers.reads_covers]
    rfl
  have hdoc : docOf module declared.classes =
      Source.docstring? ((declared.classes.head?.map TestClass.body).getD module) := by
    cases declared.classes <;> rfl
  rw [hmarked, hdoc]
  constructor
  · rintro ⟨hscope, hown, hdefaults, houter, hcovers, houterCovers⟩
    rw [hasDocstring_iff.mp hscope, hasDocstring_iff.mp hown,
      Markers.reads_defaultClasses.declares_iff.mp hdefaults,
      (declaresAround_iff Markers.reads_defaultClasses).mp houter,
      Markers.reads_covers.declares_iff.mp hcovers,
      (declaresAround_iff Markers.reads_covers).mp houterCovers]
  · rintro rfl
    exact .intro (hasDocstring_iff.mpr rfl) (hasDocstring_iff.mpr rfl)
      (Markers.reads_defaultClasses.declares_iff.mpr rfl)
      ((declaresAround_iff Markers.reads_defaultClasses).mpr rfl)
      (Markers.reads_covers.declares_iff.mpr rfl)
      ((declaresAround_iff Markers.reads_covers).mpr rfl)

/-! ## Collected tests -/

/-- **The tests of a module.** The leaves of what is collected from a module are tests, one for each
test at a place of the module, in the order of the document. Each is called like the module, the
classes around it and its function, and carries the name of the closest class. Where no two of them
have the same identifier, the annotations that are kept for a test, behind those of any earlier
files, are those that the module declares for it. This is what a file that parses is collected
to. -/
theorem Collect.module_collects_placed (identifier : String) (module : List Stmt) :
    let collected := Collect.module identifier module
    let leaf := fun declared : DeclaredTest =>
      ({ identifier := Text.glue "::" (identifier :: declared.path.map Identifier.text)
         name := declared.name.text
         className := declared.classes.head?.map fun holder => holder.name.text } : TestCase)
    ∃ placed : List (Place × DeclaredTest),
      (∀ place declared, (place, declared) ∈ placed ↔ TestAt [] module place declared) ∧
      placed.Pairwise (fun a b => a.1.Before b.1) ∧
      collected.node.leaves = placed.map (fun p => .inl (leaf p.2)) ∧
      collected.node.tests = placed.map (fun p => leaf p.2) ∧
      ((collected.node.tests.map TestCase.identifier).Nodup →
        ∀ (earlier : Table Annotations) (place : Place) (declared : DeclaredTest),
          TestAt [] module place declared → ∀ annotations,
            declared.Annotated module annotations ↔
              ({ root := collected.node, annotations := earlier.insertMany collected.annotated } :
                Suite).annotationsOf (leaf declared) = annotations) ∧
      ∀ (tree : FileTree) (parse : Source.Reader) (path : Path),
        tree.readSource parse path = .ok module → path.toString = identifier →
          Collect.file tree parse path = (some collected, []) := by
  intro collected leaf
  obtain ⟨htests, hannotated⟩ := Collect.module_eq_declared identifier module
  have hleaf (declared : DeclaredTest) : declared.testCase identifier = leaf declared :=
    DeclaredTest.testCase_eq identifier declared
  have hplaced : DeclaredTest.ofBody module =
      (DeclaredTest.survey.placedIn [] 0 module).map Prod.snd :=
    (DeclaredTest.map_snd_placedIn [] 0 module).symm
  have htests : collected.node.tests =
      (DeclaredTest.survey.placedIn [] 0 module).map fun p => leaf p.2 := by
    rw [htests, hplaced, List.map_map]
    exact List.map_congr_left fun p _ => hleaf p.2
  refine ⟨DeclaredTest.survey.placedIn [] 0 module, fun _ _ => DeclaredTest.mem_placedIn_iff,
    Survey.pairwise_placedIn _ _ _ _, ?_, htests,
    fun hnodup earlier place declared hat annotations => ?_, fun tree parse path hread hpath => ?_⟩
  · have honly : collected.node.leaves = collected.node.tests.map .inl :=
      Collect.module_onlyTests identifier module
    rw [honly, htests, List.map_map]
    rfl
  · have hmem : ((leaf declared).identifier, declared.annotations module) ∈
        collected.annotated := by
      rw [hannotated, hplaced, List.map_map, ← hleaf]
      exact List.mem_map.mpr ⟨(place, declared), DeclaredTest.mem_placedIn_iff.mpr hat, rfl⟩
    have hkeys : (collected.annotated.map Prod.fst).Nodup := by
      rw [htests] at hnodup
      rw [hannotated, hplaced]
      simpa [Function.comp_def, hleaf] using hnodup
    have hkept : ({ root := collected.node
                    annotations := earlier.insertMany collected.annotated } :
        Suite).annotationsOf (leaf declared) = declared.annotations module := by
      show ((earlier.insertMany collected.annotated).get? (leaf declared).identifier).getD {} = _
      rw [Table.get?_insertMany_of_nodup earlier hkeys hmem, Option.getD_some]
    rw [hkept, DeclaredTest.annotated_iff]
  · rw [Collect.file, hread, hpath]

/-- A file with a test in nested classes that both name a default class. The outer one assigns a
marker, and the module assigns markers twice. -/
def nestedFile : FileTree :=
  ⟨[(⟨.relative, ["t.py"]⟩, .file
    ("class TestA:\n '@coversDefaultClass A'\n pytestmark=mark.covers(' k ')\n class TestB:\n" ++
      "  '@coversDefaultClass B'\n  @mark.covers('f')\n  def test_b(s): '@covers d'\n" ++
      "pytestmark=[a.mark.covers_default_class('M')]\npytestmark=mark.covers('late')\n").toUTF8)]⟩

/-- The path of that file. -/
def nestedPath : Path := ⟨.relative, ["t.py"]⟩

/-- The statements of that file. -/
def nestedModule : List Stmt :=
  (nestedFile.readSource Source.parse nestedPath).toOption.getD []

/-- The file parses and has one test, two classes deep. -/
theorem nestedModule_facts :
    (nestedFile.readSource Source.parse nestedPath).toOption.isSome = true ∧
      nestedPath.toString = "t.py" ∧
      ((Collect.module "t.py" nestedModule).node.tests.map TestCase.identifier).Nodup ∧
      ((DeclaredTest.survey.placedIn [] 0 nestedModule).map fun p =>
        (p.1, p.2.testCase "t.py", p.2.annotations nestedModule)) =
        [([0, 2, 1], ⟨"t.py::TestA::TestB::test_b", "test_b", some "TestB"⟩,
          ⟨["B", "M"], ["d", "f", "k"]⟩)] := by
  decide +kernel

/-- Of the docblocks only that of the inner class counts, of the assignments the first of each
scope. -/
theorem Collect.module_collects_nestedFile :
    nestedFile.readSource Source.parse nestedPath = .ok nestedModule ∧
      Collect.file nestedFile Source.parse nestedPath =
        (some (Collect.module "t.py" nestedModule), []) ∧
      ((Collect.module "t.py" nestedModule).node.tests.map TestCase.identifier).Nodup ∧
      (∃ declared, TestAt [] nestedModule [0, 2, 1] declared) ∧
      (Suite.ofCollected (Collect.module "t.py" nestedModule)).annotationsOf
        ⟨"t.py::TestA::TestB::test_b", "test_b", some "TestB"⟩ =
          ⟨["B", "M"], ["d", "f", "k"]⟩ := by
  obtain ⟨hok, hpath, hnodup, hplaced⟩ := nestedModule_facts
  have hread : nestedFile.readSource Source.parse nestedPath = .ok nestedModule := by
    unfold nestedModule
    cases h : nestedFile.readSource Source.parse nestedPath with
    | error error => rw [h] at hok; cases hok
    | ok body => rfl
  obtain ⟨⟨place, declared⟩, hmem, hfacts⟩ :=
    List.mem_map.mp (hplaced ▸ List.mem_singleton_self _)
  simp only [Prod.mk.injEq] at hfacts
  obtain ⟨rfl, htest, hdeclared⟩ := hfacts
  have hat := DeclaredTest.mem_placedIn_iff.mp hmem
  obtain ⟨-, -, -, -, -, hannotations, hfile⟩ :=
    Collect.module_collects_placed "t.py" nestedModule
  refine ⟨hread, hfile _ _ _ hread hpath, hnodup, ⟨declared, hat⟩, ?_⟩
  rw [← htest, DeclaredTest.testCase_eq]
  exact (hannotations hnodup Table.empty _ declared hat _).mp
    (DeclaredTest.annotated_iff.mpr hdeclared)

end CoverAudit
