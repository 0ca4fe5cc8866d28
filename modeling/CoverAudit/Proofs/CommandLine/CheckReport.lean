import CoverAudit.CommandLine.Run
import CoverAudit.Proofs.Audit.Walk
import CoverAudit.Proofs.Report.Reading
import Mathlib.Data.Finset.Card

/-!
# What an audit reports

From the files to the report: the parts of an audit are put together, and the report that a run
hands out is described without them. What is handed out is a text, from which the report can be read
back.

* `Report.testsWithViolations_eq_card`: what the report counts by leaving out repetitions is the
  size of a set.
* `Audit.violations_run`: an audit finds the violations of the tests of its suite, test by test.
* `split_textOf`: lines can be told apart in what is printed.
* `HandsOut`, `CanHandOut`: where the text of a report goes, and when it gets there (`emit_cases`).
* `run_check`: the report and the status of a run of `check`.
-/

namespace CoverAudit

/-! ## Counting tests with violations -/

namespace Report

/-- Leaving out repetitions leaves none. The rest of a list loses its copies of the first element
before it is looked at, so it only gets shorter. -/
theorem nodup_eraseDups (names : List String) : names.eraseDups.Nodup := by
  cases names with
  | nil => exact List.nodup_nil
  | cons name rest =>
    have hrest := nodup_eraseDups (rest.filter fun other => !other == name)
    rw [List.eraseDups_cons]
    refine List.nodup_cons.mpr ⟨?_, hrest⟩
    simp [List.mem_eraseDups]
termination_by names.length
decreasing_by
  have := List.length_filter_le (fun other => !other == name) rest
  grind

/-- The tests with violations are the distinct identifiers among the violations. -/
theorem testsWithViolations_eq_card (report : Report) :
    report.testsWithViolations = (report.violations.map Violation.test).toFinset.card := by
  have hset : (report.violations.map Violation.test).eraseDups.toFinset =
      (report.violations.map Violation.test).toFinset := by
    ext name
    rw [List.mem_toFinset, List.mem_toFinset, List.mem_eraseDups]
  rw [← hset, List.toFinset_card_of_nodup (nodup_eraseDups _)]
  rfl

end Report

/-! ## Violations of a suite -/

namespace Suite

/-- The violations of the tests of a suite, from left to right. -/
def violations (suite : Suite) (index : SymbolIndex) (inspect : SymbolIndex.Inspection) :
    List Violation :=
  suite.tests.flatMap fun test => Check.violations index inspect (suite.annotationsOf test) test

/-- No more identifiers have violations than there are tests, also when tests share them. -/
theorem card_violations_le (suite : Suite) (index : SymbolIndex)
    (inspect : SymbolIndex.Inspection) :
    ((suite.violations index inspect).map Violation.test).toFinset.card ≤ suite.tests.length := by
  have hsub : ((suite.violations index inspect).map Violation.test).toFinset ⊆
      (suite.tests.map TestCase.identifier).toFinset := by
    intro name hname
    obtain ⟨violation, hv, rfl⟩ := List.mem_map.mp (List.mem_toFinset.mp hname)
    obtain ⟨test, ht, hv⟩ := List.mem_flatMap.mp hv
    rw [Check.test_eq_of_mem_violations hv, List.mem_toFinset]
    exact List.mem_map_of_mem ht
  calc ((suite.violations index inspect).map Violation.test).toFinset.card
      ≤ (suite.tests.map TestCase.identifier).toFinset.card := Finset.card_le_card hsub
    _ ≤ (suite.tests.map TestCase.identifier).length := List.toFinset_card_le _
    _ = suite.tests.length := List.length_map _

end Suite

/-- An audit finds the violations of its suite. -/
theorem Audit.violations_run (tree : FileTree) (parse : Source.Reader)
    (inspect : SymbolIndex.Inspection) (settings : Settings) (testPaths : List String) :
    let audit := Audit.run tree parse inspect settings testPaths
    audit.violations = audit.suite.violations audit.index inspect := by
  intro audit
  -- Collection makes no foreign values, so the walk reaches every leaf.
  have honly := Suite.ofPaths_onlyTests tree parse (testPaths.map Path.ofString)
  show (Checker.walk _
    (Suite.ofPaths tree parse (testPaths.map Path.ofString)).1.root).violations = _
  rw [Checker.walk_eq_visitAll, honly]
  exact (Checker.visitAll_tests _).2.2

/-! ## Written files -/

namespace FileTree

variable {tree after : FileTree}

theorem nodeAt?_put (tree : FileTree) (place : Place) (node : Node) :
    (tree.put place node).nodeAt? place = some node := by
  have hothers : (tree.nodes.filter fun entry => entry.1 ≠ place).find?
      (fun entry => entry.1 = place) = none := by
    simp
  rw [nodeAt?, put, List.find?_append, hothers]
  simp

theorem nodeAt?_of_write {path : Path} {text : String} (h : tree.write path text = .ok after) :
    ∃ place, tree.locate path = .ok place ∧ after.nodeAt? place = some (.file text.toUTF8) := by
  unfold write at h
  cases hl : tree.locate path with
  | error error => rw [hl] at h; cases h
  | ok place =>
    refine ⟨place, rfl, ?_⟩
    simp only [hl, bind, Except.bind] at h
    split at h
    · cases h
    · cases h
      exact nodeAt?_put tree place _
    · split at h
      · cases h
        exact nodeAt?_put tree place _
      · cases h
      · cases h

theorem refuse_ne_ok (tree : FileTree) (path : Path) (after : FileTree) :
    tree.refuse path ≠ .ok after := by
  unfold refuse
  cases tree.find path with
  | error error => nofun
  | ok node => cases node <;> nofun

/-- A text that was written is what the tree then holds where the path leads. -/
theorem nodeAt?_of_create {path text : String} (h : tree.create path text = .ok after) :
    ∃ place, tree.locate (Path.ofString path) = .ok place ∧
      after.nodeAt? place = some (.file text.toUTF8) := by
  unfold create at h
  split at h
  · exact absurd h (refuse_ne_ok tree _ after)
  split at h
  · exact absurd h (refuse_ne_ok tree _ after)
  · exact nodeAt?_of_write h

end FileTree

namespace CommandLine

/-! ## Handing out a report -/

/-- Lines without line feeds can be told apart in their text. -/
theorem split_textOf {lines : List String} (h : ∀ line ∈ lines, '\n' ∉ line.toList) :
    Text.split '\n' (textOf lines) = lines ++ [""] := by
  induction lines with
  | nil => rfl
  | cons line rest ih =>
    obtain ⟨hline, hrest⟩ := List.forall_mem_cons.mp h
    have htext : textOf (line :: rest) = line ++ String.singleton '\n' ++ textOf rest := by
      simp [textOf]
    rw [htext, Text.split_append, Text.split_of_notMem hline, ih hrest]
    rfl

/-- A run hands out a text: it prints it, or writes it to the file that was asked for and says
so. -/
inductive HandsOut (surroundings : Surroundings) (options : Options) (done : Run)
    (text : String) : Prop where
  | printed (asked : options.output = none ∨ options.output = some "")
      (output : done.output = text ++ "\n") (written : done.written = none)
      (tree : done.tree = surroundings.tree)
  | written {path : String} {place : FileTree.Place} (before : String)
      (asked : options.output = some path) (named : path ≠ "") (output : done.output = "")
      (told : done.messages = before ++ "Report written to '" ++ path ++ "'\n")
      (leads : surroundings.tree.locate (Path.ofString path) = .ok place)
      (written : done.written = some (place.toString, text))
      (tree : surroundings.tree.create path text = .ok done.tree)
      (held : done.tree.nodeAt? place = some (.file text.toUTF8))

/-- If a file was asked for, `text` can be written to it. -/
def CanHandOut (surroundings : Surroundings) (options : Options) (text : String) : Prop :=
  ∀ path, options.output = some path → path ≠ "" →
    ∃ tree, surroundings.tree.create path text = .ok tree

variable {surroundings : Surroundings} {options : Options}

theorem canHandOut_of_printed {text : String}
    (ho : options.output = none ∨ options.output = some "") :
    CanHandOut surroundings options text := by
  intro path hpath hne
  obtain ho | ho := ho
  · rw [ho] at hpath
    cases hpath
  · rw [ho] at hpath
    cases hpath
    exact absurd rfl hne

/-- Handing out a report fails only where its file can not be written. Otherwise the run hands out
the text of the report, and its status stays what it was. -/
theorem emit_cases {report : Report} {status : Nat} {messages text : String} {done : Run}
    (ht : (if options.pretty then report.value.pretty else report.value.compact) = text)
    (hd : emit surroundings options report { tree := surroundings.tree, status, messages } = done) :
    (done.failure = none ↔ CanHandOut surroundings options text) ∧
      (done.failure = none → HandsOut surroundings options done text ∧ done.status = status) := by
  simp only [emit, ht] at hd
  split at hd
  · rename_i ho
    subst hd
    exact ⟨iff_of_true rfl (canHandOut_of_printed (.inl ho)),
      fun _ => ⟨.printed (.inl ho) rfl rfl rfl, rfl⟩⟩
  · rename_i ho
    subst hd
    exact ⟨iff_of_true rfl (canHandOut_of_printed (.inr ho)),
      fun _ => ⟨.printed (.inr ho) rfl rfl rfl, rfl⟩⟩
  · rename_i path hne ho
    split at hd
    · rename_i tree hc
      subst hd
      obtain ⟨place, hplace, hheld⟩ := FileTree.nodeAt?_of_create hc
      refine ⟨iff_of_true rfl fun other hother _ => ?_,
        fun _ => ⟨.written messages ho hne rfl ?_ hplace ?_ hc hheld, rfl⟩⟩
      · rw [ho] at hother
        cases hother
        exact ⟨tree, hc⟩
      · simp [textOf, String.append_assoc]
      · simp [placeName, hplace]
    · rename_i error hc
      subst hd
      refine ⟨iff_of_false nofun fun h => ?_, nofun⟩
      obtain ⟨tree, htree⟩ := h path ho hne
      rw [hc] at htree
      cases htree

/-- A run of `check` that gets past its settings is an audit whose report is handed out. -/
theorem run_of_check {arguments paths : List String} {settings : Settings}
    (hp : parse arguments = .ok (.check options paths))
    (hs : settingsOf surroundings options = .ok settings) :
    let testPaths := if paths.isEmpty then settings.testPaths else paths
    let audit :=
      Audit.run surroundings.tree surroundings.parse surroundings.inspect settings testPaths
    run surroundings arguments =
      emit surroundings options (audit.report surroundings.clock testPaths)
        { tree := surroundings.tree
          status := auditStatus audit
          messages := textOf (auditLines options settings testPaths audit) } := by
  simp only [run, hp, runCheck, hs]

/-! ## The report of a run -/

/-- **The report of `check`.** A run that gets past its settings fails only where the file for its
report can not be written. Otherwise it hands out exactly one text, from which a report can be read
that lists the violations of the tests below the test paths, test by test in the order of the suite,
with their number, the number of tests, and the number of distinct identifiers among the violations,
which are never more than the tests. The run ends with status 1 if it found violations, and with 0
otherwise. -/
theorem run_check {arguments paths : List String} {settings : Settings}
    (hp : parse arguments = .ok (.check options paths))
    (hs : settingsOf surroundings options = .ok settings) :
    let testPaths := if paths.isEmpty then settings.testPaths else paths
    let index := (SymbolIndex.ofRoots surroundings.tree surroundings.parse settings.interfaceBases
      (settings.sourceRoots.map Path.ofString)).1
    let suite := (Suite.ofPaths surroundings.tree surroundings.parse
      (testPaths.map Path.ofString)).1
    let found := suite.tests.flatMap fun test =>
      Check.violations index surroundings.inspect (suite.annotationsOf test) test
    let failing := (found.map Violation.test).toFinset
    let report : JsonValue := .record
      [("report_type", .text "covers_check"),
        ("generated_at", .text surroundings.clock),
        ("paths", .list (testPaths.map .text)),
        ("summary", .record
          [("tests_checked", .integer suite.tests.length),
            ("tests_with_violations", .integer failing.card),
            ("violations", .integer found.length)]),
        ("violations", .list (found.map fun violation => .record
          [("test", .text violation.test), ("message", .text violation.message)]))]
    let text := if options.pretty then report.pretty else report.compact
    JsonValue.read text = some report ∧
      ((run surroundings arguments).failure = none ↔ CanHandOut surroundings options text) ∧
      ((run surroundings arguments).failure = none →
        HandsOut surroundings options (run surroundings arguments) text ∧
          failing.card ≤ suite.tests.length ∧
          (run surroundings arguments).status = if found = [] then 0 else 1) := by
  intro testPaths index suite found failing report text
  have hfound : (Audit.run surroundings.tree surroundings.parse surroundings.inspect settings
      testPaths).violations = found :=
    Audit.violations_run surroundings.tree surroundings.parse surroundings.inspect settings
      testPaths
  have hvalue : ((Audit.run surroundings.tree surroundings.parse surroundings.inspect settings
      testPaths).report surroundings.clock testPaths).value = report := by
    rw [Report.value, Report.fields, Report.summary, Report.testsWithViolations_eq_card]
    simp only [Audit.report, hfound]
    rfl
  obtain ⟨hfail, hdone⟩ := emit_cases (by rw [hvalue]) (run_of_check hp hs).symm
  have hread : JsonValue.read text = some report := by
    unfold text
    split
    · exact report.read_pretty
    · exact report.read_compact
  refine ⟨hread, hfail, fun hf => ?_⟩
  obtain ⟨hout, hstatus⟩ := hdone hf
  refine ⟨hout, suite.card_violations_le index surroundings.inspect, ?_⟩
  rw [hstatus, auditStatus, hfound]
  simp only [List.isEmpty_iff]

/-- A project without code, whose two tests share an identifier and so the annotations of the later
one. -/
def strayProject : Surroundings where
  tree :=
    ⟨[(Path.ofString "tests/test_shop.py",
      .file "def test_a(): pass\ndef test_a():\n    \"@covers shop.Gone\"\n".toUTF8)]⟩
  readSettings := Yaml.load
  parse := Source.parse
  inspect _ _ := none
  clock := "2024-05-01T12:00:00+00:00"

theorem run_check_of_strayProject :
    let message := "@covers invalid syntax: Needs '::' or class does not exist in shop.Gone"
    let violation : JsonValue := .record
      [("test", .text "tests/test_shop.py::test_a"), ("message", .text message)]
    parse ["check"] = .ok (.check {} []) ∧ settingsOf strayProject {} = .ok {} ∧
      (run strayProject ["check"]).failure = none ∧ (run strayProject ["check"]).status = 1 ∧
      ∃ text, (run strayProject ["check"]).output = text ++ "\n" ∧
        JsonValue.read text = some (.record
          [("report_type", .text "covers_check"),
            ("generated_at", .text "2024-05-01T12:00:00+00:00"),
            ("paths", .list [.text "tests"]),
            ("summary", .record
              [("tests_checked", .integer 2), ("tests_with_violations", .integer 1),
                ("violations", .integer 2)]),
            ("violations", .list [violation, violation])]) := by
  intro message violation
  have hp : parse ["check"] = .ok (.check {} []) := by cbv
  have hs : settingsOf strayProject {} = .ok {} := rfl
  let suite := (Suite.ofPaths strayProject.tree Source.parse [Path.ofString "tests"]).1
  let index := (SymbolIndex.ofRoots strayProject.tree Source.parse
    SymbolIndex.defaultInterfaceBases [Path.ofString "src"]).1
  let found := suite.tests.flatMap fun test =>
    Check.violations index strayProject.inspect (suite.annotationsOf test) test
  have htests : suite.tests.length = 2 := by decide +kernel
  have hfound : found =
      [⟨message, "tests/test_shop.py::test_a"⟩, ⟨message, "tests/test_shop.py::test_a"⟩] := by
    decide +kernel
  have hfailing : (found.map Violation.test).toFinset.card = 1 := by
    rw [hfound]
    rfl
  obtain ⟨hread, hfail, hdone⟩ := run_check hp hs
  have hf := hfail.mpr (canHandOut_of_printed (.inl rfl))
  obtain ⟨hout, -, hstatus⟩ := hdone hf
  have hfails : found ≠ [] := by
    rw [hfound]
    exact List.cons_ne_nil _ _
  refine ⟨hp, hs, hf, hstatus.trans (if_neg hfails), ?_⟩
  cases hout with
  | printed asked output written tree =>
    refine ⟨_, output, hread.trans ?_⟩
    show some (JsonValue.record [_, _, _,
      ("summary", .record [("tests_checked", .integer suite.tests.length),
        ("tests_with_violations", .integer (found.map Violation.test).toFinset.card),
        ("violations", .integer found.length)]),
      ("violations", .list (found.map fun violation => .record
        [("test", .text violation.test), ("message", .text violation.message)]))]) = _
    rw [htests, hfailing, hfound]
    rfl
  | written before asked => cases asked

end CommandLine

end CoverAudit
