import CoverAudit.Symbol.Index
import CoverAudit.Text.Blank
import CoverAudit.Text.Split
import CoverAudit.Yaml.Graph

/-!
# Settings

What an audit is told about the project it looks at. Settings come from a YAML mapping; a key that
is not there has its default, and keys that mean nothing here are passed over. The source roots can
be given from outside, which overrides those of the file.

* `Settings.ofEntries`: the settings in a mapping, or everything that is wrong with them.
-/

namespace CoverAudit

/-- The settings of an audit. -/
structure Settings where
  /-- Where the imports of the code under test start. -/
  sourceRoots : List String := ["src"]
  /-- Where tests are looked for. -/
  testPaths : List String := ["tests"]
  /-- The base classes that make a class an interface. -/
  interfaceBases : List String := SymbolIndex.defaultInterfaceBases
  /-- Whether nothing is checked in runs that collect coverage. -/
  skipWhenCollecting : Bool := true
  deriving DecidableEq, Repr

namespace Settings

/-- The settings that are lists of texts. -/
inductive ListKey where
  | sourceRoots
  | testPaths
  | interfaceBases
  deriving DecidableEq, Repr

/-- The key of a setting. -/
def ListKey.text : ListKey → String
  | .sourceRoots => "source_roots"
  | .testPaths => "test_paths"
  | .interfaceBases => "interface_bases"

/-- The key of the setting that is a truth value. -/
def skipKey : String := "skip_when_collecting_coverage"

/-- What is wrong with a setting. -/
inductive Problem where
  /-- A setting is no list, or a list without items. -/
  | notAList (key : ListKey)
  /-- A setting is a list with items that are no texts, or blank. -/
  | notTexts (key : ListKey)
  /-- The setting that is a truth value is something else. -/
  | notATruthValue
  deriving DecidableEq, Repr

/-- The problem in words. -/
def Problem.message : Problem → String
  | .notAList key => "'" ++ key.text ++ "' must be a non-empty list"
  | .notTexts key => "'" ++ key.text ++ "' must only contain non-empty strings"
  | .notATruthValue => "'" ++ skipKey ++ "' must be true or false"

/-- The text that a value is. -/
def text? : Yaml.Item → Option String
  | .scalar (.text value) => some value
  | _ => none

/-- Only scalars that are texts already count as texts: no number or truth value is taken for the
words that spell it. -/
theorem text?_eq_some_iff {item : Yaml.Item} {value : String} :
    text? item = some value ↔ item = .scalar (.text value) := by
  unfold text?
  split <;> simp_all

/-- Whether a text may be an item of a list setting. -/
def isUsable (text : String) : Bool :=
  !Text.isBlankText text

/-- A list setting from the texts among its items. -/
def texts (key : ListKey) (items : List (Option String)) : Except Problem (List String) :=
  if items.isEmpty then .error (.notAList key)
  else if items.all fun item => item.any isUsable then .ok (items.filterMap id)
  else .error (.notTexts key)

/-- A list setting in the entries of a mapping. -/
def listSetting (graph : Yaml.Graph) (entries : List (Yaml.Item × Yaml.Item)) (key : ListKey)
    (fallback : List String) : Except Problem (List String) :=
  match Yaml.lookup? key.text entries with
  | none => texts key (fallback.map some)
  | some value =>
    match graph.items? value with
    | none => .error (.notAList key)
    | some items => texts key (items.map text?)

/-- Whether coverage runs are left alone, by the entries of a mapping. -/
def skipSetting (entries : List (Yaml.Item × Yaml.Item)) (fallback : Bool) :
    Except Problem Bool :=
  match Yaml.lookup? skipKey entries with
  | none => .ok fallback
  | some (.scalar (.truth value)) => .ok value
  | some _ => .error .notATruthValue

/-- The source roots in a text that lists them between colons. -/
def rootsIn (list : String) : List String :=
  (Text.split ':' list).filter (· ≠ "")

/-- The source roots: those given from outside, unless that text is empty. -/
def sourceRootsSetting (graph : Yaml.Graph) (entries : List (Yaml.Item × Yaml.Item))
    (override : Option String) (fallback : List String) : Except Problem (List String) :=
  match override with
  | none => listSetting graph entries .sourceRoots fallback
  | some "" => listSetting graph entries .sourceRoots fallback
  | some list => texts .sourceRoots ((rootsIn list).map some)

/-- The problem of a setting, if it has one. -/
def problemOf {α : Type} : Except Problem α → List Problem
  | .ok _ => []
  | .error problem => [problem]

/-- The settings in the entries of a mapping, or all their problems in a fixed order. -/
def ofEntries (graph : Yaml.Graph) (entries : List (Yaml.Item × Yaml.Item))
    (override : Option String) : Except (List Problem) Settings :=
  let defaults : Settings := {}
  let roots := sourceRootsSetting graph entries override defaults.sourceRoots
  let paths := listSetting graph entries .testPaths defaults.testPaths
  let bases := listSetting graph entries .interfaceBases defaults.interfaceBases
  let skip := skipSetting entries defaults.skipWhenCollecting
  match roots, paths, bases, skip with
  | .ok sourceRoots, .ok testPaths, .ok interfaceBases, .ok skipWhenCollecting =>
    .ok { sourceRoots, testPaths, interfaceBases, skipWhenCollecting }
  | _, _, _, _ =>
    .error (problemOf roots ++ problemOf paths ++ problemOf bases ++ problemOf skip)

end Settings

end CoverAudit
