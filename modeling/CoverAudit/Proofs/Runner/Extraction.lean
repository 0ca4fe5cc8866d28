import CoverAudit.Audit.Check
import CoverAudit.Proofs.Suite.Declared
import CoverAudit.Runner.TestItem
import Mathlib.Data.List.Perm.Basic

/-!
# Annotations from the source and from a test runner

The annotations of a test can be read off its source, or off the item that a test runner makes of
it. Both start with the docblocks and go on with the markers, scope by scope from the test outwards.
Inside of a scope they differ: the source is read from top to bottom, while a runner applies
decorators from the bottom up and finds `pytestmark` before it applies any.

* `MarkerScope.applied`: the markers of a scope in the order of a runner.
* `TestItem.Reflects`: an item is what a runner makes of a declared test.
* `ReadsAsSpelled`: a runner takes an expression for the marker that it spells.
* `flatMap_eq_of_perm`: order does not matter when at most one element contributes.
* `collected_agrees_with_item`: both ways give the same values, docblocks first, and the same lists
  when no scope stacks two markers of one name.
* `stacked_default_classes_disagree`: with two such markers even the default class differs.
-/

namespace CoverAudit

/-! ## What a test runner makes of a test -/

namespace MarkerScope

/-- The expressions of a scope in the order in which a runner meets their markers: what the last
assignment to `pytestmark` leaves there, then the decorators from the bottom up. -/
def applied (scope : MarkerScope) : List Source.Expr :=
  scope.assignments.getLast?.getD [] ++ scope.decorators.reverse

/-- Without a second assignment both orders list the same expressions. -/
theorem written_perm_applied {scope : MarkerScope} (h : scope.assignments.length ≤ 1) :
    scope.written.Perm scope.applied := by
  have hlast : scope.assignments.getLast? = scope.assignments.head? := by
    rcases hs : scope.assignments with _ | ⟨only, _ | ⟨second, rest⟩⟩
    · rfl
    · rfl
    · rw [hs] at h
      simp at h
  unfold written applied
  rw [hlast]
  exact List.perm_append_comm.trans ((List.reverse_perm _).symm.append_left _)

end MarkerScope

/-- Whether a marker declares coverage annotations. -/
def IsCoverageMarker (name : String) : Prop :=
  name = "covers" ∨ name = "covers_default_class"

/-- `marker?` says which marker an expression makes, if it makes one. A call that spells a coverage
marker has string literals only and makes that marker, and no other expression makes a coverage
marker with arguments. -/
inductive ReadsAsSpelled (marker? : Source.Expr → Option (String × List Datum)) :
    Source.Expr → Prop where
  | call {function : Source.Expr} {name : String} {texts : List String}
      (spelled : Markers.markerName? function = some name)
      (made : marker? (.call function (texts.map .text)) = some (name, texts.map .text)) :
      ReadsAsSpelled marker? (.call function (texts.map .text))
  | other {expr : Source.Expr}
      (unspelled : ∀ function arguments name, expr = .call function arguments →
        Markers.markerName? function = some name → ¬ IsCoverageMarker name)
      (unmade : ∀ name arguments, marker? expr = some (name, arguments) →
        IsCoverageMarker name → arguments = []) :
      ReadsAsSpelled marker? expr

/-- An item is what a runner makes of a declared test: it carries the docblocks of the source, and
its markers are those of the function, of its class, of each class around it and of the module.
`marker?` says which marker an expression makes. -/
structure TestItem.Reflects (item : TestItem)
    (marker? : Source.Expr → Option (String × List Datum)) (identifier : String)
    (module : List Source.Stmt) (declared : DeclaredTest) : Prop where
  testCase : item.testCase = declared.testCase identifier
  classDoc : item.class?.map TestItem.Class.doc =
    declared.classes.head?.map fun holder => Source.docstring? holder.body
  moduleDoc : item.moduleDoc = Source.docstring? module
  functionDoc : item.functionDoc = Source.docstring? declared.body
  markers : item.markers = (declared.scopes module).flatMap fun scope =>
    scope.applied.filterMap marker?

/-! ## Values of one marker -/

namespace Markers

/-- What markers of one name declare. -/
def under (name : String) (markers : Markers) : List String :=
  if name = Annotations.coversTag then markers.covers
  else if name = Annotations.defaultClassMarker then markers.defaultClasses
  else []

theorem under_append (name : String) (a b : Markers) :
    (a.append b).under name = a.under name ++ b.under name := by
  unfold under append
  split
  · rfl
  · split <;> rfl

theorem under_concat (name : String) (scopes : List Markers) :
    (concat scopes).under name = scopes.flatMap (under name) := by
  induction scopes with
  | nil => simp [concat, under]
  | cons first rest ih => rw [concat_cons, under_append, ih, List.flatMap_cons]

theorem under_ofExprs (name : String) (exprs : List Source.Expr) :
    (ofExprs exprs).under name = exprs.flatMap fun expr => (ofExpr expr).under name := by
  rw [ofExprs, under_concat, List.flatMap_map]

/-- Whether an expression is a call that spells the marker of a name. -/
def spells (name : String) : Source.Expr → Bool
  | .call function _ => markerName? function = some name
  | _ => false

theorem textArguments_map_text (texts : List String) :
    textArguments (texts.map .text) = texts.map Text.strip := by
  simp [textArguments, List.filterMap_map]

theorem under_ofExpr_call {function : Source.Expr} {spelled : String}
    (hs : markerName? function = some spelled) (arguments : List Source.Expr) (name : String)
    (hn : IsCoverageMarker name) :
    (ofExpr (.call function arguments)).under name =
      if spelled = name then textArguments arguments else [] := by
  have hdiff : ("covers_default_class" : String) ≠ "covers" := by decide
  simp only [ofExpr, hs, under, Annotations.coversTag, Annotations.defaultClassMarker]
  obtain rfl | rfl := hn
  · by_cases h : spelled = "covers"
    · simp [h]
    · by_cases h' : spelled = "covers_default_class" <;> simp [h, h']
  · by_cases h : spelled = "covers"
    · simp [h, hdiff, hdiff.symm]
    · by_cases h' : spelled = "covers_default_class" <;> simp [h, h', hdiff]

/-- An expression that does not spell the marker declares nothing under its name. -/
theorem under_ofExpr_eq_nil {name : String} {expr : Source.Expr} (hn : IsCoverageMarker name)
    (h : spells name expr = false) : (ofExpr expr).under name = [] := by
  cases expr with
  | call function arguments =>
    cases hs : markerName? function with
    | none => simp [ofExpr, hs, under]
    | some spelled =>
      rw [under_ofExpr_call hs arguments name hn, if_neg]
      rintro rfl
      simp [spells, hs] at h
  | _ => simp [ofExpr, under]

end Markers

/-- The texts that a marker has under a name. -/
def TestItem.textsUnder (name : String) (marker : String × List Datum) : List String :=
  if marker.1 = name then marker.2.filterMap TestItem.argumentText? else []

/-- What an expression declares in the source is what the marker that it makes holds. -/
theorem ReadsAsSpelled.under_ofExpr {marker? : Source.Expr → Option (String × List Datum)}
    {expr : Source.Expr} (h : ReadsAsSpelled marker? expr) {name : String}
    (hn : IsCoverageMarker name) :
    (Markers.ofExpr expr).under name =
      (marker? expr).toList.flatMap (TestItem.textsUnder name) := by
  cases h with
  | call spelled made =>
    rename_i function spelledName texts
    have htexts : (texts.map Datum.text).filterMap TestItem.argumentText? =
        texts.map Text.strip := by
      simp [List.filterMap_map, Function.comp_def, TestItem.argumentText?]
    rw [Markers.under_ofExpr_call spelled _ name hn, made, Markers.textArguments_map_text]
    simp [TestItem.textsUnder, htexts]
  | other unspelled unmade =>
    have hspells : Markers.spells name expr = false := by
      cases expr with
      | call function arguments =>
        simpa [Markers.spells] using fun hs => unspelled function arguments name rfl hs hn
      | _ => rfl
    rw [Markers.under_ofExpr_eq_nil hn hspells]
    cases hm : marker? expr with
    | none => rfl
    | some marker =>
      obtain ⟨made, arguments⟩ := marker
      by_cases hname : made = name
      · subst hname
        simp [TestItem.textsUnder, unmade made arguments hm hn]
      · simp [TestItem.textsUnder, hname]

/-! ## The same values in two orders -/

/-- Order does not matter to a `flatMap` when at most one element contributes. -/
theorem flatMap_eq_of_perm {α β : Type} {f : α → List β} {first second : List α}
    (hp : first.Perm second) (h : first.countP (fun a => !(f a).isEmpty) ≤ 1) :
    first.flatMap f = second.flatMap f := by
  have hfilter (items : List α) :
      items.flatMap f = (items.filter fun a => !(f a).isEmpty).flatMap f := by
    induction items with
    | nil => rfl
    | cons a rest ih => by_cases ha : f a = [] <;> simp [ha, ih]
  have hperm := hp.filter fun a => !(f a).isEmpty
  rw [hfilter first, hfilter second]
  rw [List.countP_eq_length_filter] at h
  match hl : first.filter (fun a => !(f a).isEmpty), h with
  | [], _ =>
    rw [hl] at hperm
    rw [hperm.nil_eq]
  | [a], _ =>
    rw [hl] at hperm
    rw [hperm.symm.eq_singleton]

section Agreement

variable {marker? : Source.Expr → Option (String × List Datum)} {identifier : String}
  {module : List Source.Stmt} {declared : DeclaredTest} {item : TestItem}

/-- No scope has two markers of one name. -/
def Unstacked (scope : MarkerScope) : Prop :=
  ∀ name, IsCoverageMarker name → scope.written.countP (Markers.spells name) ≤ 1

/-- What the scopes of a test declare under a name, each in the order of its source. -/
def DeclaredTest.writtenUnder (module : List Source.Stmt) (declared : DeclaredTest)
    (name : String) : List String :=
  (declared.scopes module).flatMap fun scope =>
    scope.written.flatMap fun expr => (Markers.ofExpr expr).under name

/-- What they declare under a name, each in the order of a runner. -/
def DeclaredTest.appliedUnder (module : List Source.Stmt) (declared : DeclaredTest)
    (name : String) : List String :=
  (declared.scopes module).flatMap fun scope =>
    scope.applied.flatMap fun expr => (Markers.ofExpr expr).under name

/-- Collection reads every scope in the order of its source. -/
theorem DeclaredTest.annotations_eq_written (module : List Source.Stmt)
    (declared : DeclaredTest) :
    declared.annotations module =
      Annotations.ofDocblocks (docOf module declared.classes) (Source.docstring? declared.body)
        (declared.writtenUnder module "covers_default_class")
        (declared.writtenUnder module "covers") := by
  have hunder (name : String) :
      (Markers.concat ((declared.scopes module).map MarkerScope.markers)).under name =
        declared.writtenUnder module name := by
    rw [Markers.under_concat, List.flatMap_map]
    exact List.flatMap_congr fun scope _ => Markers.under_ofExprs name scope.written
  rw [annotations, ← hunder, ← hunder]
  rfl

/-- A runner finds the markers of every scope in its own order. -/
theorem TestItem.Reflects.annotations_eq_applied
    (hr : item.Reflects marker? identifier module declared)
    (hone : ∀ scope ∈ declared.scopes module, scope.assignments.length ≤ 1)
    (hread : ∀ scope ∈ declared.scopes module, ∀ expr ∈ scope.written,
      ReadsAsSpelled marker? expr) :
    item.annotations =
      Annotations.ofDocblocks (DeclaredTest.docOf module declared.classes)
        (Source.docstring? declared.body) (declared.appliedUnder module "covers_default_class")
        (declared.appliedUnder module "covers") := by
  have hdoc : item.classDoc = DeclaredTest.docOf module declared.classes := by
    have hclass := hr.classDoc
    unfold TestItem.classDoc
    cases hc : declared.classes with
    | nil =>
      rw [hc] at hclass
      cases hi : item.class? with
      | none => exact hr.moduleDoc
      | some holder => rw [hi] at hclass; cases hclass
    | cons holder outer =>
      rw [hc] at hclass
      cases hi : item.class? with
      | none => rw [hi] at hclass; cases hclass
      | some found =>
        rw [hi] at hclass
        exact Option.some.inj hclass
  have hvalues {name : String} (hn : IsCoverageMarker name) :
      item.markerValues name = declared.appliedUnder module name := by
    have hmarkers : item.markerValues name = item.markers.flatMap (textsUnder name) := rfl
    rw [hmarkers, hr.markers, List.flatMap_assoc]
    refine List.flatMap_congr fun scope hs => ?_
    rw [List.filterMap_eq_flatMap_toList, List.flatMap_assoc]
    refine List.flatMap_congr fun expr he => ?_
    have hw := (MarkerScope.written_perm_applied (hone scope hs)).mem_iff.mpr he
    exact ((hread scope hs expr hw).under_ofExpr hn).symm
  rw [TestItem.annotations, hdoc, hr.functionDoc, ← hvalues (.inl rfl), ← hvalues (.inr rfl)]
  rfl

theorem DeclaredTest.writtenUnder_perm
    (hone : ∀ scope ∈ declared.scopes module, scope.assignments.length ≤ 1) (name : String) :
    (declared.writtenUnder module name).Perm (declared.appliedUnder module name) :=
  List.Perm.flatMap_left _ fun scope hs =>
    (MarkerScope.written_perm_applied (hone scope hs)).flatMap_right _

theorem DeclaredTest.writtenUnder_eq
    (hone : ∀ scope ∈ declared.scopes module, scope.assignments.length ≤ 1)
    (hs : ∀ scope ∈ declared.scopes module, Unstacked scope) {name : String}
    (hn : IsCoverageMarker name) :
    declared.writtenUnder module name = declared.appliedUnder module name := by
  refine List.flatMap_congr fun scope hm => flatMap_eq_of_perm ?_ ?_
  · exact MarkerScope.written_perm_applied (hone scope hm)
  · refine Nat.le_trans (List.countP_mono_left fun expr _ he => ?_) (hs scope hm name hn)
    by_contra hspells
    rw [Markers.under_ofExpr_eq_nil hn (by simpa using hspells)] at he
    cases he

end Agreement

/-- Two lists start with the same values, and go on with the same values in some order. -/
def SameBehind (front first second : List String) : Prop :=
  ∃ rest others, first = front ++ rest ∧ second = front ++ others ∧ rest.Perm others

/-- **Annotations from the source and from a runner.** For a file that parses, whose tests have
identifiers of their own, whose scopes assign `pytestmark` at most once and whose markers a runner
takes for what they spell, collection finds the declared tests. The annotations of each start with
the values of its docblocks and go on with those of its markers, and an item that reflects the test
has the same values, with the docblocks first as well. If no scope of the test has two markers of
one name, both are the same lists, and so are the violations that follow from them. -/
theorem collected_agrees_with_item {tree : FileTree} {parse : Source.Reader} {path : Path}
    {module : List Source.Stmt} {marker? : Source.Expr → Option (String × List Datum)}
    (hread : tree.readSource parse path = .ok module)
    (hunique : ((DeclaredTest.ofBody module).map fun declared =>
      (declared.testCase path.toString).identifier).Nodup)
    (hone : ∀ declared ∈ DeclaredTest.ofBody module, ∀ scope ∈ declared.scopes module,
      scope.assignments.length ≤ 1)
    (hspelled : ∀ declared ∈ DeclaredTest.ofBody module, ∀ scope ∈ declared.scopes module,
      ∀ expr ∈ scope.written, ReadsAsSpelled marker? expr) :
    ∃ collected, (Collect.file tree parse path).1 = some collected ∧
      collected.node.tests =
        (DeclaredTest.ofBody module).map (DeclaredTest.testCase path.toString) ∧
      ∀ declared ∈ DeclaredTest.ofBody module, ∀ item : TestItem,
        item.Reflects marker? path.toString module declared →
          let test := declared.testCase path.toString
          let static := (Suite.ofCollected collected).annotationsOf test
          SameBehind (Docblock.valuesOf "coversDefaultClass"
            (DeclaredTest.docOf module declared.classes))
            static.defaultClasses item.annotations.defaultClasses ∧
          SameBehind (Docblock.valuesOf "covers" (Source.docstring? declared.body))
            static.covers item.annotations.covers ∧
          ((∀ scope ∈ declared.scopes module, Unstacked scope) →
            static = item.annotations ∧ static.defaultClass = item.annotations.defaultClass ∧
              ∀ index inspect, Check.violations index inspect static test =
                Check.violations index inspect item.annotations item.testCase) := by
  obtain ⟨htests, hannotated⟩ := Collect.module_eq_declared path.toString module
  refine ⟨Collect.module path.toString module, by simp [Collect.file, hread], htests, ?_⟩
  intro declared hd item hr test static
  -- Identifiers are unique, so the suite knows a test by its own annotations.
  have hstatic : static = declared.annotations module := by
    refine Suite.annotationsOf_of_mem ?_ ?_
    · rw [hannotated, List.map_map]
      exact hunique
    · rw [hannotated]
      exact List.mem_map.mpr ⟨declared, hd, rfl⟩
  have hitem := hr.annotations_eq_applied (hone declared hd) (hspelled declared hd)
  rw [hstatic, declared.annotations_eq_written, hitem]
  refine ⟨⟨_, _, rfl, rfl, declared.writtenUnder_perm (hone declared hd) _⟩,
    ⟨_, _, rfl, rfl, declared.writtenUnder_perm (hone declared hd) _⟩, fun hs => ?_⟩
  rw [declared.writtenUnder_eq (hone declared hd) hs (.inl rfl),
    declared.writtenUnder_eq (hone declared hd) hs (.inr rfl), hr.testCase]
  exact ⟨rfl, rfl, fun _ _ => rfl⟩

/-! ## Stacked markers -/

/-- The marker that an expression spells, with its string literals. -/
def spelledMarker? : Source.Expr → Option (String × List Datum)
  | .call function arguments =>
    (Markers.markerName? function).map fun name =>
      (name, arguments.filterMap fun
        | .text value => some (.text value)
        | _ => none)
  | expr => (Markers.markerName? expr).map fun name => (name, [])

/-- Whether an expression is a string literal. -/
def isLiteral : Source.Expr → Bool
  | .text _ => true
  | _ => false

/-- Whether an expression is no call, or all its arguments are string literals. -/
def hasLiteralArguments : Source.Expr → Bool
  | .call _ arguments => arguments.all isLiteral
  | _ => true

theorem exists_texts {arguments : List Source.Expr} (h : arguments.all isLiteral = true) :
    ∃ texts : List String, arguments = texts.map .text := by
  induction arguments with
  | nil => exact ⟨[], rfl⟩
  | cons first rest ih =>
    rw [List.all_cons, Bool.and_eq_true] at h
    obtain ⟨texts, rfl⟩ := ih h.2
    cases first with
    | text value => exact ⟨value :: texts, rfl⟩
    | _ => cases h.1

theorem readsAsSpelled_of_literals {expr : Source.Expr} (h : hasLiteralArguments expr = true) :
    ReadsAsSpelled spelledMarker? expr := by
  cases expr with
  | call function arguments =>
    obtain ⟨texts, rfl⟩ := exists_texts h
    cases hs : Markers.markerName? function with
    | some name =>
      refine .call hs ?_
      simp [spelledMarker?, hs, List.filterMap_map]
    | none =>
      refine .other ?_ ?_
      · rintro _ _ name ⟨⟩ hname
        rw [hs] at hname
        cases hname
      · intro name arguments hm
        simp [spelledMarker?, hs] at hm
  | _ =>
    refine .other (fun _ _ _ he => by cases he) fun name arguments hm _ => ?_
    simp only [spelledMarker?, Option.map_eq_some_iff, Prod.mk.injEq] at hm
    obtain ⟨_, _, _, rfl⟩ := hm
    rfl

/-- The item that a runner makes of a declared test. -/
def DeclaredTest.item (identifier : String) (module : List Source.Stmt) (declared : DeclaredTest) :
    TestItem where
  identifier := (declared.testCase identifier).identifier
  name := declared.name.text
  class? := declared.classes.head?.map fun holder =>
    ⟨holder.name.text, Source.docstring? holder.body⟩
  moduleDoc := Source.docstring? module
  functionDoc := Source.docstring? declared.body
  markers := (declared.scopes module).flatMap fun scope => scope.applied.filterMap spelledMarker?

theorem DeclaredTest.item_reflects (identifier : String) (module : List Source.Stmt)
    (declared : DeclaredTest) :
    (declared.item identifier module).Reflects spelledMarker? identifier module declared where
  testCase := by simp [TestItem.testCase, item, DeclaredTest.testCase, Function.comp_def]
  classDoc := by simp [item, Function.comp_def]
  moduleDoc := rfl
  functionDoc := rfl
  markers := rfl

/-- A file whose test has two markers of one name. -/
def stackedProject : FileTree :=
  ⟨[(⟨.relative, ["test_a.py"]⟩, .file
    ("from pytest import mark\n@mark.covers_default_class('A')\n" ++
      "@mark.covers_default_class('B')\ndef test_a():0\n").toUTF8)]⟩

/-- The path of that file. -/
def stackedPath : Path := ⟨.relative, ["test_a.py"]⟩

/-- The statements of that file. -/
def stackedModule : List Source.Stmt :=
  (stackedProject.readSource Source.parse stackedPath).toOption.getD []

/-- The file parses, its test has an identifier of its own, nothing is assigned to `pytestmark`, and
all arguments are string literals. The default class is not the same for collection and for a
runner. -/
theorem stackedModule_facts :
    (stackedProject.readSource Source.parse stackedPath).toOption.isSome = true ∧
      ((DeclaredTest.ofBody stackedModule).map fun declared =>
        (declared.testCase stackedPath.toString).identifier) = ["test_a.py::test_a"] ∧
      (∀ declared ∈ DeclaredTest.ofBody stackedModule, ∀ scope ∈ declared.scopes stackedModule,
        scope.assignments.length ≤ 1 ∧
          ∀ expr ∈ scope.written, hasLiteralArguments expr = true) ∧
      ((Collect.file stackedProject Source.parse stackedPath).1.map fun collected =>
        (DeclaredTest.ofBody stackedModule).map fun declared =>
          (((Suite.ofCollected collected).annotationsOf
              (declared.testCase stackedPath.toString)).defaultClass,
            (declared.item stackedPath.toString stackedModule).annotations.defaultClass)) =
        some [(some "A", some "B")] := by
  decide +kernel

theorem collected_agrees_with_item_of_stackedModule :
    ∃ collected, (Collect.file stackedProject Source.parse stackedPath).1 = some collected ∧
      ∀ declared ∈ DeclaredTest.ofBody stackedModule,
        SameBehind (Docblock.valuesOf "coversDefaultClass"
            (DeclaredTest.docOf stackedModule declared.classes))
          ((Suite.ofCollected collected).annotationsOf
            (declared.testCase stackedPath.toString)).defaultClasses
          (declared.item stackedPath.toString stackedModule).annotations.defaultClasses := by
  obtain ⟨hok, hidentifiers, hscopes, -⟩ := stackedModule_facts
  have hread : stackedProject.readSource Source.parse stackedPath = .ok stackedModule := by
    unfold stackedModule
    cases h : stackedProject.readSource Source.parse stackedPath with
    | error error => rw [h] at hok; cases hok
    | ok body => rfl
  obtain ⟨collected, hc, -, hall⟩ := collected_agrees_with_item hread
    (by rw [hidentifiers]; simp)
    (fun declared hd scope hs => (hscopes declared hd scope hs).1)
    (fun declared hd scope hs expr he =>
      readsAsSpelled_of_literals ((hscopes declared hd scope hs).2 expr he))
  exact ⟨collected, hc, fun declared hd =>
    (hall declared hd _ (declared.item_reflects _ stackedModule)).1⟩

/-- Of two markers of one name collection takes the upper one for the default class, a runner the
lower one. -/
theorem stacked_default_classes_disagree :
    ((Collect.file stackedProject Source.parse stackedPath).1.map fun collected =>
      (DeclaredTest.ofBody stackedModule).map fun declared =>
        (((Suite.ofCollected collected).annotationsOf
            (declared.testCase stackedPath.toString)).defaultClass,
          (declared.item stackedPath.toString stackedModule).annotations.defaultClass)) =
      some [(some "A", some "B")] :=
  stackedModule_facts.2.2.2

end CoverAudit
