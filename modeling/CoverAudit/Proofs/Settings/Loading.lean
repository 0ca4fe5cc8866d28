import CoverAudit.Settings.File

/-!
# Which settings are accepted

Loading looks at four settings. Each has a value: the one given from outside, the one that the
document has under its key, or its default. Loading succeeds exactly if every value is valid, and
otherwise tells which ones are not.

* `Value`: what loading can see of a value in a document; `Valid`: which values a setting may have
  (`Value.valid_ofItem_iff` for the lists).
* `Document`: what stands at the path of a settings file (`Finds`); `Document.effective`: the value
  of each setting.
* `Reads`: how a single setting is read (`listSetting_reads`, `sourceRootsSetting_reads`,
  `skipSetting_reads`); `Judged`: how they are judged together (`judged_ofEntries`). A judgement
  depends on the values only (`Judged.unique`).
* `loadBy_accepts_valid`: when loading succeeds, what it says when it does not, and that source
  roots from outside hide those of the file.
-/

namespace CoverAudit.Settings

/-! ## Settings and their values -/

/-- A setting. -/
inductive Key where
  | list (key : ListKey)
  | skip
  deriving DecidableEq, Repr

namespace Key

/-- The settings, in the order in which they are judged. -/
def all : List Key := [.list .sourceRoots, .list .testPaths, .list .interfaceBases, .skip]

/-- What a setting is called in a document. -/
def text : Key → String
  | .list key => key.text
  | .skip => skipKey

theorem mem_all (key : Key) : key ∈ all := by
  cases key with
  | list key => cases key <;> simp [all]
  | skip => simp [all]

end Key

/-- A value as far as settings are concerned: a truth value, a list with the texts among its items,
or something else. -/
inductive Value where
  | truth (value : Bool)
  | list (items : List (Option String))
  | other
  deriving DecidableEq, Repr

/-- What a value of a document is to a setting. -/
def Value.ofItem (graph : Yaml.Graph) (item : Yaml.Item) : Value :=
  match graph.items? item, item with
  | some items, _ => .list (items.map text?)
  | none, .scalar (.truth value) => .truth value
  | none, _ => .other

/-- The values that a setting may have: a list that is not empty and holds nothing but texts, none
of them blank, or a truth value. -/
def Valid : Key → Value → Prop
  | .list _, .list items => items ≠ [] ∧ ∀ item ∈ items, ∃ text ∈ item, Text.strip text ≠ ""
  | .skip, .truth _ => True
  | _, _ => False

instance : (key : Key) → (value : Value) → Decidable (Valid key value)
  | .list _, .list items =>
    inferInstanceAs (Decidable
      (items ≠ [] ∧ ∀ item ∈ items, ∃ text ∈ item, Text.strip text ≠ ""))
  | .list _, .truth _ => .isFalse id
  | .list _, .other => .isFalse id
  | .skip, .truth _ => .isTrue trivial
  | .skip, .list _ => .isFalse id
  | .skip, .other => .isFalse id

/-- The value of a setting that nothing is said about. -/
def fallback : Key → Value
  | .list .sourceRoots => .list [some "src"]
  | .list .testPaths => .list [some "tests"]
  | .list .interfaceBases => .list [some "Protocol", some "Interface"]
  | .skip => .truth true

/-- The values that settings hold. -/
def value (settings : Settings) : Key → Value
  | .list .sourceRoots => .list (settings.sourceRoots.map some)
  | .list .testPaths => .list (settings.testPaths.map some)
  | .list .interfaceBases => .list (settings.interfaceBases.map some)
  | .skip => .truth settings.skipWhenCollecting

/-- Settings are known by their values. -/
theorem eq_of_value_eq {a b : Settings} (h : ∀ key, a.value key = b.value key) : a = b := by
  have hlist {first second : List String}
      (hmap : Value.list (first.map some) = Value.list (second.map some)) : first = second :=
    (List.map_inj_right fun _ _ => Option.some.inj).mp (Value.list.inj hmap)
  have hroots : a.sourceRoots = b.sourceRoots := hlist (h (.list .sourceRoots))
  have hpaths : a.testPaths = b.testPaths := hlist (h (.list .testPaths))
  have hbases : a.interfaceBases = b.interfaceBases := hlist (h (.list .interfaceBases))
  have hskip : a.skipWhenCollecting = b.skipWhenCollecting := Value.truth.inj (h .skip)
  cases a
  cases b
  simp_all

/-! ## What is said about a value -/

/-- The problem of a setting whose value is not valid. -/
def problem : Key → Value → Problem
  | .skip, _ => .notATruthValue
  | .list key, .list (_ :: _) => .notTexts key
  | .list key, _ => .notAList key

/-- What has to be done about a setting whose value is not valid. -/
def demand : Key → Value → String
  | .skip, _ => "must be true or false"
  | .list _, .list (_ :: _) => "must only contain non-empty strings"
  | .list _, _ => "must be a non-empty list"

/-- A problem names its setting. -/
theorem message_problem (key : Key) (value : Value) :
    (problem key value).message = "'" ++ key.text ++ "' " ++ demand key value := by
  have happend (demand : String) : "'" ++ key.text ++ ("' " ++ demand) =
      "'" ++ key.text ++ "' " ++ demand := by
    simp only [String.append_assoc]
  cases key with
  | skip => exact happend "must be true or false"
  | list key =>
    match value with
    | .list (_ :: _) => exact happend "must only contain non-empty strings"
    | .list [] => exact happend "must be a non-empty list"
    | .truth _ => exact happend "must be a non-empty list"
    | .other => exact happend "must be a non-empty list"

/-! ## Reading one setting -/

/-- `Reads key value wrap result`: a setting with this value is read as `result`, where `wrap` says
which value the settings then hold. -/
inductive Reads {α : Type} (key : Key) (value : Value) (wrap : α → Value) :
    Except Problem α → Prop
  | valid {read : α} (h : Valid key value) (hread : wrap read = value) :
      Reads key value wrap (.ok read)
  | invalid (h : ¬ Valid key value) : Reads key value wrap (.error (problem key value))

/-- The value that a list of texts is. -/
def ofTexts (texts : List String) : Value :=
  .list (texts.map some)

theorem any_isUsable_iff (item : Option String) :
    item.any isUsable = true ↔ ∃ text ∈ item, Text.strip text ≠ "" := by
  cases item with
  | none => simp
  | some text =>
    have hblank := Text.strip_eq_empty_iff text
    simp [isUsable, hblank]

/-- Items that are texts are the items of a list of texts. -/
theorem exists_texts_of_isSome {items : List (Option String)}
    (h : ∀ item ∈ items, ∃ text, item = some text) :
    ∃ texts : List String, items = texts.map some := by
  induction items with
  | nil => exact ⟨[], rfl⟩
  | cons item rest ih =>
    obtain ⟨⟨text, rfl⟩, hrest⟩ := List.forall_mem_cons.mp h
    obtain ⟨texts, rfl⟩ := ih hrest
    exact ⟨text :: texts, rfl⟩

theorem texts_reads (key : ListKey) (items : List (Option String)) :
    Reads (.list key) (.list items) ofTexts (texts key items) := by
  cases items with
  | nil => exact .invalid fun h => h.1 rfl
  | cons first rest =>
    have husable : (first :: rest).all (fun item => item.any isUsable) = true ↔
        ∀ item ∈ first :: rest, ∃ text ∈ item, Text.strip text ≠ "" := by
      simp only [List.all_eq_true, any_isUsable_iff]
    have hempty : ¬ (first :: rest).isEmpty = true := Bool.false_ne_true
    rw [texts, if_neg hempty]
    split
    · rename_i hall
      have hvalid := husable.mp hall
      obtain ⟨texts, htexts⟩ := exists_texts_of_isSome fun item hi => by
        obtain ⟨text, htext, -⟩ := hvalid item hi
        exact ⟨text, htext⟩
      refine .valid ⟨List.cons_ne_nil first rest, hvalid⟩ ?_
      rw [htexts, ofTexts]
      simp
    · rename_i hall
      exact .invalid fun h => hall (husable.mpr h.2)

theorem Value.ofItem_of_items {graph : Yaml.Graph} {item : Yaml.Item} {items : List Yaml.Item}
    (h : graph.items? item = some items) : Value.ofItem graph item = .list (items.map text?) := by
  unfold Value.ofItem
  rw [h]

/-- A value that is no list is none for a setting either. -/
theorem Value.ofItem_ne_list {graph : Yaml.Graph} {item : Yaml.Item}
    (h : graph.items? item = none) (items : List (Option String)) :
    Value.ofItem graph item ≠ .list items := by
  unfold Value.ofItem
  rw [h]
  split <;> simp_all

/-- Only a truth value is one for a setting. -/
theorem Value.ofItem_eq_truth_iff {graph : Yaml.Graph} {item : Yaml.Item} {value : Bool} :
    Value.ofItem graph item = .truth value ↔ item = .scalar (.truth value) := by
  constructor
  · intro h
    unfold Value.ofItem at h
    split at h
    · cases h
    · cases h
      rfl
    · cases h
  · rintro rfl
    rfl

/-- A value of a document is valid as a list setting exactly if it is a list that is not empty, and
all its items are texts that are not blank. -/
theorem Value.valid_ofItem_iff {graph : Yaml.Graph} {item : Yaml.Item} {key : ListKey} :
    Valid (.list key) (Value.ofItem graph item) ↔
      ∃ items, graph.items? item = some items ∧ items ≠ [] ∧
        ∀ inner ∈ items, ∃ text, inner = .scalar (.text text) ∧ Text.strip text ≠ "" := by
  cases hitems : graph.items? item with
  | some items =>
    rw [Value.ofItem_of_items hitems]
    simp [Valid, text?_eq_some_iff]
  | none =>
    have hno := Value.ofItem_ne_list hitems
    refine iff_of_false ?_ (by simp)
    cases hvalue : Value.ofItem graph item with
    | list items => exact absurd hvalue (hno items)
    | truth value => exact id
    | other => exact id

/-- The value under a key of a mapping. -/
def valueIn (graph : Yaml.Graph) (entries : List (Yaml.Item × Yaml.Item)) (key : Key) :
    Option Value :=
  (Yaml.lookup? key.text entries).map (Value.ofItem graph)

section Reading

variable (graph : Yaml.Graph) (entries : List (Yaml.Item × Yaml.Item))

theorem listSetting_reads (key : ListKey) (texts : List String) :
    Reads (.list key) ((valueIn graph entries (.list key)).getD (ofTexts texts)) ofTexts
      (listSetting graph entries key texts) := by
  unfold listSetting valueIn
  rw [Key.text]
  cases hlookup : Yaml.lookup? key.text entries with
  | none => exact texts_reads key _
  | some item =>
    rw [Option.map_some, Option.getD_some]
    dsimp only
    cases hitems : graph.items? item with
    | some items =>
      rw [Value.ofItem_of_items hitems]
      exact texts_reads key _
    | none =>
      have hno := Value.ofItem_ne_list hitems
      cases hvalue : Value.ofItem graph item with
      | list items => exact absurd hvalue (hno items)
      | truth value => exact .invalid id
      | other => exact .invalid id

theorem skipSetting_reads (default : Bool) :
    Reads .skip ((valueIn graph entries .skip).getD (.truth default)) Value.truth
      (skipSetting entries default) := by
  unfold skipSetting valueIn
  rw [Key.text]
  split
  · rename_i hnone
    rw [hnone]
    exact .valid trivial rfl
  · rename_i value htruth
    rw [htruth, Option.map_some, Option.getD_some, Value.ofItem_eq_truth_iff.mpr rfl]
    exact .valid trivial rfl
  · rename_i item hno hsome
    rw [hsome, Option.map_some, Option.getD_some]
    cases hvalue : Value.ofItem graph item with
    | truth value => exact absurd (Value.ofItem_eq_truth_iff.mp hvalue) (hno value)
    | list items => exact .invalid id
    | other => exact .invalid id

/-- What a text from outside says about a setting: the source roots between its colons, unless it is
empty. -/
def given? (override : Option String) : Key → Option Value
  | .list .sourceRoots =>
    (override.filter (· ≠ "")).map fun list =>
      ofTexts ((Text.split ':' list).filter (· ≠ ""))
  | _ => none

theorem given?_sourceRoots {list : String} (h : list ≠ "") :
    given? (some list) (.list .sourceRoots) =
      some (ofTexts ((Text.split ':' list).filter (· ≠ ""))) := by
  have hfilter : (some list).filter (· ≠ "") = some list := by simpa [Option.filter] using h
  rw [given?, hfilter, Option.map_some]

theorem sourceRootsSetting_reads (override : Option String) (texts : List String) :
    Reads (.list .sourceRoots)
      ((given? override (.list .sourceRoots)).getD
        ((valueIn graph entries (.list .sourceRoots)).getD (ofTexts texts))) ofTexts
      (sourceRootsSetting graph entries override texts) := by
  unfold sourceRootsSetting
  split
  · exact listSetting_reads graph entries .sourceRoots texts
  · exact listSetting_reads graph entries .sourceRoots texts
  · rename_i list hne
    rw [given?_sourceRoots fun h => hne (h ▸ rfl), Option.getD_some]
    exact texts_reads .sourceRoots _

end Reading

theorem Reads.problemOf_eq {α : Type} {key : Key} {value : Value} {wrap : α → Value}
    {result : Except Problem α} (h : Reads key value wrap result) :
    problemOf result = if ¬ Valid key value then [problem key value] else [] := by
  cases h with
  | valid h _ => rw [if_neg (not_not_intro h)]; rfl
  | invalid h => rw [if_pos h]; rfl

theorem Reads.of_ok {α : Type} {key : Key} {value : Value} {wrap : α → Value} {read : α}
    (h : Reads key value wrap (.ok read)) : Valid key value ∧ wrap read = value := by
  cases h with
  | valid h hread => exact ⟨h, hread⟩

theorem Reads.exists_ok {α : Type} {key : Key} {value : Value} {wrap : α → Value}
    {result : Except Problem α} (h : Reads key value wrap result) (hvalid : Valid key value) :
    ∃ read, result = .ok read ∧ wrap read = value := by
  cases h with
  | valid _ hread => exact ⟨_, rfl, hread⟩
  | invalid h => exact absurd hvalid h

/-! ## Judging all settings -/

/-- The value that counts for a setting beside a mapping: what is given from outside, or else what
the mapping has under its key, or else the default. -/
def effectiveIn (graph : Yaml.Graph) (entries : List (Yaml.Item × Yaml.Item))
    (override : Option String) (key : Key) : Value :=
  (given? override key).getD ((valueIn graph entries key).getD (fallback key))

/-- How settings with some values are judged: they are accepted with these values, or refused with
one problem for each setting whose value is not valid. -/
inductive Judged (value : Key → Value) : Except (List Problem) Settings → Prop
  | accepted {settings : Settings} (h : ∀ key, Valid key (value key))
      (hvalue : ∀ key, settings.value key = value key) : Judged value (.ok settings)
  | refused (h : ∃ key, ¬ Valid key (value key)) :
      Judged value (.error ((Key.all.filter fun key => ¬ Valid key (value key)).map fun key =>
        problem key (value key)))

theorem Judged.unique {value : Key → Value} {first second : Except (List Problem) Settings}
    (hfirst : Judged value first) (hsecond : Judged value second) : first = second := by
  cases hfirst with
  | accepted h hvalue =>
    cases hsecond with
    | accepted _ hother => rw [eq_of_value_eq fun key => (hvalue key).trans (hother key).symm]
    | refused hno => exact absurd (h hno.choose) hno.choose_spec
  | refused hno =>
    cases hsecond with
    | accepted h _ => exact absurd (h hno.choose) hno.choose_spec
    | refused _ => rfl

theorem map_filter_eq_flatMap {α β : Type} (p : α → Prop) [DecidablePred p] (f : α → β)
    (items : List α) :
    (items.filter fun a => p a).map f = items.flatMap fun a => if p a then [f a] else [] := by
  induction items with
  | nil => rfl
  | cons a rest ih => by_cases h : p a <;> simp [h, ih]

theorem judged_ofEntries (graph : Yaml.Graph) (entries : List (Yaml.Item × Yaml.Item))
    (override : Option String) :
    Judged (effectiveIn graph entries override) (ofEntries graph entries override) := by
  have hroots : Reads (.list .sourceRoots)
      (effectiveIn graph entries override (.list .sourceRoots)) ofTexts _ :=
    sourceRootsSetting_reads graph entries override ({} : Settings).sourceRoots
  have hpaths : Reads (.list .testPaths)
      (effectiveIn graph entries override (.list .testPaths)) ofTexts _ :=
    listSetting_reads graph entries .testPaths ({} : Settings).testPaths
  have hbases : Reads (.list .interfaceBases)
      (effectiveIn graph entries override (.list .interfaceBases)) ofTexts _ :=
    listSetting_reads graph entries .interfaceBases ({} : Settings).interfaceBases
  have hskip : Reads .skip (effectiveIn graph entries override .skip) Value.truth _ :=
    skipSetting_reads graph entries ({} : Settings).skipWhenCollecting
  unfold ofEntries
  by_cases hall : ∀ key, Valid key (effectiveIn graph entries override key)
  · obtain ⟨roots, hr, hrootsValue⟩ := hroots.exists_ok (hall (.list .sourceRoots))
    obtain ⟨paths, hp, hpathsValue⟩ := hpaths.exists_ok (hall (.list .testPaths))
    obtain ⟨bases, hb, hbasesValue⟩ := hbases.exists_ok (hall (.list .interfaceBases))
    obtain ⟨skip, hs, hskipValue⟩ := hskip.exists_ok (hall .skip)
    simp only [hr, hp, hb, hs]
    refine .accepted hall fun key => ?_
    match key with
    | .list .sourceRoots => exact hrootsValue
    | .list .testPaths => exact hpathsValue
    | .list .interfaceBases => exact hbasesValue
    | .skip => exact hskipValue
  · dsimp only
    split
    · rename_i roots paths bases skip hr hp hb hs
      rw [hr] at hroots
      rw [hp] at hpaths
      rw [hb] at hbases
      rw [hs] at hskip
      refine absurd (fun key => ?_) hall
      match key with
      | .list .sourceRoots => exact hroots.of_ok.1
      | .list .testPaths => exact hpaths.of_ok.1
      | .list .interfaceBases => exact hbases.of_ok.1
      | .skip => exact hskip.of_ok.1
    · have hproblems := map_filter_eq_flatMap
        (fun key => ¬ Valid key (effectiveIn graph entries override key))
        (fun key => problem key (effectiveIn graph entries override key)) Key.all
      rw [hroots.problemOf_eq, hpaths.problemOf_eq, hbases.problemOf_eq, hskip.problemOf_eq]
      have hrefused := Judged.refused (Classical.not_forall.mp hall)
      rw [hproblems] at hrefused
      simpa [Key.all] using hrefused

/-! ## Documents -/

/-- What stands at the path of a settings file. -/
inductive Document where
  /-- Nothing. -/
  | missing
  /-- A text that is no document. -/
  | malformed
  | holds (graph : Yaml.Graph)

/-- `Finds reader tree path document`: at the path there is nothing, or a text that `reader` takes
for `document`. -/
inductive Finds (reader : Reader) (tree : FileTree) (path : String) : Document → Prop
  | missing (h : tree.exists? (Path.ofString path) = false) : Finds reader tree path .missing
  | malformed {text : String} (hread : tree.read (Path.ofString path) = .ok text)
      (h : reader text = .error .malformed) : Finds reader tree path .malformed
  | holds {text : String} {graph : Yaml.Graph}
      (hread : tree.read (Path.ofString path) = .ok text) (h : reader text = .ok graph) :
      Finds reader tree path (.holds graph)

namespace Document

/-- Whether a document can hold settings, and why not. -/
inductive Kind where
  | missing
  | malformed
  /-- The value of the document is neither a mapping nor null. -/
  | noMapping
  | mapping
  deriving DecidableEq, Repr

/-- The kind of a document. -/
def kind : Document → Kind
  | .missing => .missing
  | .malformed => .malformed
  | .holds graph =>
    if graph.root = .null ∨ (graph.entries? graph.root).isSome then .mapping else .noMapping

/-- The value that a document has under the key of a setting. -/
def value? : Document → Key → Option Value
  | .holds graph, key => valueIn graph ((graph.entries? graph.root).getD []) key
  | _, _ => none

/-- The value that counts for a setting: what is given from outside, or else what the document has
under its key, or else the default. -/
def effective (document : Document) (override : Option String) (key : Key) : Value :=
  (given? override key).getD ((document.value? key).getD (fallback key))

/-- Two documents are of one kind and have the same values, but perhaps for one setting. -/
structure AgreesApartFrom (key : Key) (document other : Document) : Prop where
  kind : document.kind = other.kind
  values : ∀ setting, setting ≠ key → document.value? setting = other.value? setting

end Document

/-- What loading gives for a document of some kind, if its settings have some values. -/
inductive Loaded (path : String) (value : Key → Value) :
    Bool → Document.Kind → Except Failure Settings → Prop
  | missing : Loaded path value true .missing (.error (.mistake (.missing path)))
  | malformed {required : Bool} :
      Loaded path value required .malformed (.error (.mistake (.malformed path)))
  | noMapping {required : Bool} :
      Loaded path value required .noMapping (.error (.mistake (.notAMapping path)))
  | optional {result : Except (List Problem) Settings} (h : Judged value result) :
      Loaded path value false .missing ((result.mapError .invalid).mapError .mistake)
  | mapping {required : Bool} {result : Except (List Problem) Settings} (h : Judged value result) :
      Loaded path value required .mapping ((result.mapError .invalid).mapError .mistake)

theorem Loaded.unique {path : String} {value : Key → Value} {required : Bool}
    {kind : Document.Kind} {first second : Except Failure Settings}
    (hfirst : Loaded path value required kind first)
    (hsecond : Loaded path value required kind second) : first = second := by
  cases hfirst with
  | missing => cases hsecond; rfl
  | malformed => cases hsecond; rfl
  | noMapping => cases hsecond; rfl
  | optional h =>
    cases hsecond with
    | optional h' => rw [h.unique h']
  | mapping h =>
    cases hsecond with
    | mapping h' => rw [h.unique h']

/-- Either the file can not hold settings, or its settings are judged. -/
theorem Loaded.cases {path : String} {value : Key → Value} {required : Bool}
    {kind : Document.Kind} {result : Except Failure Settings}
    (h : Loaded path value required kind result) :
    (kind = .missing ∧ required = true ∨ kind = .malformed ∨ kind = .noMapping) ∧
        (∃ mistake, result = .error (.mistake mistake)) ∨
      ¬ (kind = .missing ∧ required = true ∨ kind = .malformed ∨ kind = .noMapping) ∧
        ∃ judged, Judged value judged ∧
          result = (judged.mapError .invalid).mapError .mistake := by
  cases h with
  | missing => exact .inl ⟨.inl ⟨rfl, rfl⟩, _, rfl⟩
  | malformed => exact .inl ⟨.inr (.inl rfl), _, rfl⟩
  | noMapping => exact .inl ⟨.inr (.inr rfl), _, rfl⟩
  | optional h => exact .inr ⟨by simp, _, h, rfl⟩
  | mapping h => exact .inr ⟨by simp, _, h, rfl⟩

theorem loaded_ofGraph (path : String) (graph : Yaml.Graph) (required : Bool)
    (override : Option String) :
    Loaded path ((Document.holds graph).effective override) required (Document.holds graph).kind
      ((ofGraph path graph override).mapError .mistake) := by
  have hjudged : Judged ((Document.holds graph).effective override) _ :=
    judged_ofEntries graph ((graph.entries? graph.root).getD []) override
  unfold ofGraph
  by_cases hnull : graph.root = .null
  · -- Null is no mapping, and counts as one without entries.
    have hnone : graph.entries? graph.root = none := by rw [hnull]; rfl
    have hkind : (Document.holds graph).kind = .mapping := if_pos (.inl hnull)
    rw [hnone, Option.getD_none] at hjudged
    rw [hkind, if_pos hnull]
    exact .mapping hjudged
  · rw [if_neg hnull]
    cases hentries : graph.entries? graph.root with
    | none =>
      have hkind : (Document.holds graph).kind = .noMapping := if_neg (by simp [hnull, hentries])
      rw [hkind]
      exact .noMapping
    | some entries =>
      have hkind : (Document.holds graph).kind = .mapping := if_pos (.inr (by rw [hentries]; rfl))
      rw [hentries, Option.getD_some] at hjudged
      rw [hkind]
      exact .mapping hjudged

/-- What can be read is there. -/
theorem exists?_of_read {tree : FileTree} {path : Path} {text : String}
    (h : tree.read path = .ok text) : tree.exists? path = true := by
  unfold FileTree.read at h
  unfold FileTree.exists?
  cases hfind : tree.find path with
  | error error =>
    rw [hfind] at h
    cases h
  | ok node => rfl

/-- What stands at the path decides what loading gives. -/
theorem loaded_loadBy {reader : Reader} {tree : FileTree} {path : String} {document : Document}
    (h : Finds reader tree path document) (required : Bool) (override : Option String) :
    Loaded path (document.effective override) required document.kind
      (loadBy reader tree path required override) := by
  unfold loadBy
  cases h with
  | missing h =>
    simp only [h, Bool.false_eq_true, if_false]
    cases required with
    | true => exact .missing
    | false => exact .optional (judged_ofEntries _ [] override)
  | malformed hread h =>
    simp only [exists?_of_read hread, if_true, hread, ofText, h]
    exact .malformed
  | holds hread h =>
    simp only [exists?_of_read hread, if_true, hread, ofText, h]
    exact loaded_ofGraph path _ required override

/-! ## Loading -/

theorem message_invalid (keys : List Key) (value : Key → Value) :
    (Mistake.invalid (keys.map fun key => problem key (value key))).message =
      "Invalid configuration:\n" ++ Text.glue "\n" (keys.map fun key =>
        "  - '" ++ key.text ++ "' " ++ demand key (value key)) := by
  have hline (key : Key) : "  - " ++ (problem key (value key)).message =
      "  - '" ++ key.text ++ "' " ++ demand key (value key) := by
    have hopen : "  - '" = "  - " ++ "'" := by decide
    rw [message_problem, hopen]
    simp only [String.append_assoc]
  show "Invalid configuration:\n" ++ Text.glue "\n" ((keys.map _).map _) = _
  rw [List.map_map]
  simp only [Function.comp_def, hline]

/-- **Exactly the valid settings are accepted.** Where there is no file, or one whose text has a
value or is malformed, loading gives settings, or a mistake that the user has to mend. The settings
have the values that count, and all of them are valid. There is a mistake exactly if a required file
is missing, the text is malformed, its value is neither a mapping nor null, or the value of one of
the four settings is not valid; and if only the latter is the case, the message has one line for
each setting with such a value, once and in a fixed order. Source roots from outside hide those of
the file: loading gives the same for every other document with the same values of the other
settings. -/
theorem loadBy_accepts_valid {reader : Reader} {tree : FileTree} {path : String}
    {document : Document} (hfinds : Finds reader tree path document) (required : Bool)
    (override : Option String) :
    let result := loadBy reader tree path required override
    let value := document.effective override
    let invalid := Key.all.filter fun key => ¬ Valid key (value key)
    ((∃ settings, result = .ok settings ∧ (∀ key, settings.value key = value key) ∧
          ∀ key, Valid key (settings.value key)) ∨
        ∃ mistake, result = .error (.mistake mistake)) ∧
      ((∃ mistake, result = .error (.mistake mistake)) ↔
        document.kind = .missing ∧ required = true ∨ document.kind = .malformed ∨
          document.kind = .noMapping ∨ ∃ key, ¬ Valid key (value key)) ∧
      (invalid.Nodup ∧ ∀ key, key ∈ invalid ↔ ¬ Valid key (value key)) ∧
      (¬ (document.kind = .missing ∧ required = true) → document.kind ≠ .malformed →
        document.kind ≠ .noMapping → (∃ key, ¬ Valid key (value key)) →
          ∃ mistake, result = .error (.mistake mistake) ∧ mistake.message =
            "Invalid configuration:\n" ++ Text.glue "\n" (invalid.map fun key =>
              "  - '" ++ key.text ++ "' " ++ demand key (value key))) ∧
      ∀ list, override = some list → list ≠ "" → ∀ otherReader otherTree other,
        Finds otherReader otherTree path other →
          document.AgreesApartFrom (.list .sourceRoots) other →
            loadBy otherReader otherTree path required override = result := by
  intro result value invalid
  have hloaded : Loaded path value required document.kind result :=
    loaded_loadBy hfinds required override
  refine ⟨?_, ?_, ⟨?_, ?_⟩, ?_, ?_⟩
  · obtain ⟨-, hmistake⟩ | ⟨-, judged, hjudged, hresult⟩ := hloaded.cases
    · exact .inr hmistake
    · cases hjudged with
      | accepted h hvalue => exact .inl ⟨_, hresult, hvalue, fun key => hvalue key ▸ h key⟩
      | refused h => exact .inr ⟨_, hresult⟩
  · have hsplit {a b c d : Prop} : a ∨ b ∨ c ∨ d ↔ (a ∨ b ∨ c) ∨ d := by simp only [or_assoc]
    rw [hsplit]
    obtain ⟨hreason, hmistake⟩ | ⟨hreason, judged, hjudged, hresult⟩ := hloaded.cases
    · exact iff_of_true hmistake (.inl hreason)
    · rw [or_iff_right hreason, hresult]
      cases hjudged with
      | accepted h hvalue => exact iff_of_false nofun fun ⟨key, hkey⟩ => hkey (h key)
      | refused h => exact iff_of_true ⟨_, rfl⟩ h
  · have hall : Key.all.Nodup := by decide
    exact List.Pairwise.filter _ hall
  · intro key
    simp [invalid, Key.mem_all]
  · intro hrequired hmalformed hmapping hinvalid
    obtain ⟨hreason, -⟩ | ⟨-, judged, hjudged, hresult⟩ := hloaded.cases
    · obtain h | h | h := hreason
      · exact absurd h hrequired
      · exact absurd h hmalformed
      · exact absurd h hmapping
    · cases hjudged with
      | accepted h hvalue =>
        obtain ⟨key, hkey⟩ := hinvalid
        exact absurd (h key) hkey
      | refused h => exact ⟨_, hresult, message_invalid invalid value⟩
  · intro list hlist hne otherReader otherTree other hother hagrees
    have hsame : other.effective override = value := by
      funext key
      by_cases hkey : key = .list .sourceRoots
      · subst hkey hlist
        simp only [value, Document.effective, given?_sourceRoots hne, Option.getD_some]
      · simp only [value, Document.effective, hagrees.values key hkey]
    have hotherLoaded := loaded_loadBy hother required override
    rw [hsame, ← hagrees.kind] at hotherLoaded
    exact hotherLoaded.unique hloaded

/-- The text of a settings file with two values that are not valid. -/
def faultyText : String := "test_paths: [1]\nskip_when_collecting_coverage: 0\n"

/-- A project with that file. -/
def faultyProject : FileTree :=
  ⟨[(⟨.relative, ["covers-check.yaml"]⟩, .file faultyText.toUTF8)]⟩

/-- The values of that file. -/
def faultyGraph : Yaml.Graph :=
  (Yaml.load faultyText).toOption.getD ⟨.null, []⟩

theorem eq_ok_of_toOption {ε α : Type} {result : Except ε α} {a : α}
    (h : result.toOption = some a) : result = .ok a := by
  cases result with
  | error error => cases h
  | ok b => cases h; rfl

/-- The source roots from outside are not valid either, as nothing stands beside the colon. -/
theorem loadBy_accepts_valid_faultyProject :
    Finds Yaml.load faultyProject "covers-check.yaml" (.holds faultyGraph) ∧
      ∃ mistake,
        loadBy Yaml.load faultyProject "covers-check.yaml" true (some ":") =
          .error (.mistake mistake) ∧
        mistake.message = "Invalid configuration:\n" ++
          "  - 'source_roots' must be a non-empty list\n" ++
          "  - 'test_paths' must only contain non-empty strings\n" ++
          "  - 'skip_when_collecting_coverage' must be true or false" := by
  obtain ⟨hread, hload, hkind, hskip, hmessage⟩ :
      (faultyProject.read (Path.ofString "covers-check.yaml")).toOption = some faultyText ∧
      (Yaml.load faultyText).toOption.isSome = true ∧
      (Document.holds faultyGraph).kind = .mapping ∧
      ¬ Valid .skip ((Document.holds faultyGraph).effective (some ":") .skip) ∧
      "Invalid configuration:\n" ++ Text.glue "\n" ((Key.all.filter fun key =>
          ¬ Valid key ((Document.holds faultyGraph).effective (some ":") key)).map fun key =>
        "  - '" ++ key.text ++ "' " ++
          demand key ((Document.holds faultyGraph).effective (some ":") key)) =
        "Invalid configuration:\n" ++
          "  - 'source_roots' must be a non-empty list\n" ++
          "  - 'test_paths' must only contain non-empty strings\n" ++
          "  - 'skip_when_collecting_coverage' must be true or false" := by
    decide +kernel
  have hgraph : Yaml.load faultyText = .ok faultyGraph := by
    obtain ⟨graph, hgraph⟩ := Option.isSome_iff_exists.mp hload
    rw [faultyGraph, hgraph, Option.getD_some]
    exact eq_ok_of_toOption hgraph
  have hfinds : Finds Yaml.load faultyProject "covers-check.yaml" (.holds faultyGraph) :=
    .holds (eq_ok_of_toOption hread) hgraph
  obtain ⟨-, -, -, hmistake, -⟩ := loadBy_accepts_valid hfinds true (some ":")
  refine ⟨hfinds, ?_⟩
  rw [← hmessage]
  exact hmistake (by simp [hkind]) (by simp [hkind]) (by simp [hkind]) ⟨.skip, hskip⟩

end CoverAudit.Settings
