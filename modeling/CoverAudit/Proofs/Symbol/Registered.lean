import CoverAudit.Proofs.Symbol.Modules

/-!
# What an index holds of what was registered

An index is built by steps: single classes, functions and aliases, and the sources of modules, of
which some may not parse. However the steps follow each other, the index holds what they
registered, and no alias hides any of it.

* `apply_eq_addDeclarations`: every step adds some declarations (`BuildStep.declared`).
* `Registers`: the tables of an index after some registrations. One step lengthens the list of
  registrations (`Registers.addDeclarations`), so after any number of steps the index is that of
  all of them (`registers_build`).
* `Latest`: the most recent registration of a name.
* `build_holds_registered`: what queries answer for names that were registered.
-/

namespace CoverAudit

/-- A step of building an index. -/
inductive BuildStep where
  | addType (symbol : TypeSymbol)
  | addFunction (name : String)
  | addAlias (name target : String)
  /-- Adds a module by its source, which need not parse. -/
  | addModule (name source : String) (isPackage : Bool)

/-- What a step registers. A module that does not parse registers nothing. -/
def BuildStep.declared (interfaceBases : List String) : BuildStep → Declarations
  | .addType symbol => { types := [symbol] }
  | .addFunction name => { functions := [name] }
  | .addAlias name target => { aliases := [(name, target)] }
  | .addModule name source isPackage =>
    match Source.parse source with
    | .ok body => Declarations.ofBody interfaceBases name isPackage body
    | .error _ => {}

/-- The classes that some steps register, in order. -/
def BuildStep.types (interfaceBases : List String) (steps : List BuildStep) : List TypeSymbol :=
  steps.flatMap fun step => (step.declared interfaceBases).types

/-- The functions that some steps register, in order. -/
def BuildStep.functions (interfaceBases : List String) (steps : List BuildStep) : List String :=
  steps.flatMap fun step => (step.declared interfaceBases).functions

/-- `symbol` is the most recent registration of its name. -/
def Latest (registered : List TypeSymbol) (symbol : TypeSymbol) : Prop :=
  ∃ before behind, registered = before ++ symbol :: behind ∧
    ∀ later ∈ behind, later.name ≠ symbol.name

namespace SymbolIndex

/-- The index behind a step. A module that does not parse leaves it as it is. -/
def apply (index : SymbolIndex) : BuildStep → SymbolIndex
  | .addType symbol => index.addType symbol
  | .addFunction name => index.addFunction name
  | .addAlias name target => index.addAlias name target
  | .addModule name source isPackage =>
    match index.addModule name source isPackage with
    | .ok after => after
    | .error _ => index

/-- The index that steps build. -/
def build (interfaceBases : List String) (steps : List BuildStep) : SymbolIndex :=
  steps.foldl apply (empty interfaceBases)

/-- The tables of the index are those of the registrations: under a name the class that was
registered last, and all functions. -/
structure Registers (index : SymbolIndex) (symbols : List TypeSymbol) (names : List String) :
    Prop where
  types (name : String) :
    index.types.get? name = symbols.reverse.find? fun symbol => symbol.name = name
  functions (name : String) : name ∈ index.functions ↔ name ∈ names
  functionNames (last : String) :
    last ∈ index.functionNames ↔ ∃ name ∈ names, lastComponent name = last

variable {index : SymbolIndex}

/-! ## Steps -/

/-- Every step adds declarations. -/
theorem apply_eq_addDeclarations (index : SymbolIndex) (step : BuildStep) :
    index.apply step = index.addDeclarations (step.declared index.interfaceBases) := by
  cases step with
  | addType symbol => rfl
  | addFunction name => rfl
  | addAlias name target => rfl
  | addModule name source isPackage =>
    unfold apply addModule BuildStep.declared
    cases hparse : Source.parse source with
    | ok body => simp only [hparse]; rfl
    | error error => simp only [hparse]; rfl

theorem Registers.addDeclarations {symbols : List TypeSymbol} {names : List String}
    (h : index.Registers symbols names) (declared : Declarations) :
    (index.addDeclarations declared).Registers (symbols ++ declared.types)
      (names ++ declared.functions) where
  types name := by
    rw [types_addDeclarations, types_foldl_addType, Table.get?_insertMany, ← List.map_reverse,
      List.find?_map, Option.map_map, h.types, List.reverse_append, List.find?_append]
    simp only [Function.comp_def, Option.map_id']
  functions name := by
    rw [mem_functions_addDeclarations, h.functions, List.mem_append]
  functionNames last := by
    rw [mem_functionNames_addDeclarations, h.functionNames]
    simp only [List.mem_append, or_and_right, exists_or]

/-- After any steps the index holds what they registered. -/
theorem registers_build (interfaceBases : List String) (steps : List BuildStep) :
    (build interfaceBases steps).interfaceBases = interfaceBases ∧
      (build interfaceBases steps).Registers (BuildStep.types interfaceBases steps)
        (BuildStep.functions interfaceBases steps) := by
  induction steps using List.reverseRecOn with
  | nil =>
    refine ⟨rfl, fun name => rfl, fun name => .rfl, fun last => ?_⟩
    simp [build, empty, BuildStep.functions]
  | append_singleton steps step ih =>
    obtain ⟨hbases, hregisters⟩ := ih
    have hstep : build interfaceBases (steps ++ [step]) =
        (build interfaceBases steps).addDeclarations (step.declared interfaceBases) := by
      rw [build, List.foldl_append, ← build, List.foldl_cons, List.foldl_nil,
        apply_eq_addDeclarations, hbases]
    rw [hstep]
    refine ⟨(interfaceBases_addDeclarations _).trans hbases, ?_⟩
    have htypes : BuildStep.types interfaceBases (steps ++ [step]) =
        BuildStep.types interfaceBases steps ++ (step.declared interfaceBases).types := by
      simp [BuildStep.types]
    have hfunctions : BuildStep.functions interfaceBases (steps ++ [step]) =
        BuildStep.functions interfaceBases steps ++ (step.declared interfaceBases).functions := by
      simp [BuildStep.functions]
    rw [htypes, hfunctions]
    exact hregisters.addDeclarations _

/-! ## Queries for names that were registered -/

section Queries

variable {symbols : List TypeSymbol} {names : List String} (h : index.Registers symbols names)
include h

theorem Registers.keyedByName : index.KeyedByName := by
  intro key symbol hget
  rw [h.types] at hget
  simpa using List.find?_some hget

/-- A class that was registered is found as it was registered last. -/
theorem Registers.exists_latest {symbol : TypeSymbol} (hs : symbol ∈ symbols) :
    ∃ latest, Latest symbols latest ∧ latest.name = symbol.name ∧
      index.types.get? symbol.name = some latest := by
  have hfound : (symbols.reverse.find? fun other => other.name = symbol.name).isSome := by
    rw [List.find?_isSome]
    exact ⟨symbol, List.mem_reverse.mpr hs, by simp⟩
  obtain ⟨latest, hlatest⟩ := Option.isSome_iff_exists.mp hfound
  obtain ⟨hname, before, behind, hsplit, hlater⟩ := Table.split_of_find?_reverse hlatest
  have hname : latest.name = symbol.name := by simpa using hname
  refine ⟨latest, ⟨before, behind, hsplit, fun later hl => ?_⟩, hname, by rw [h.types, hlatest]⟩
  rw [hname]
  simpa using hlater later hl

end Queries

/-- **The index holds what was registered.** After any steps, every class is stored under its own
name, and the last components of the functions are those kept. A name that was registered as a
class is found as it was registered last, whatever aliases there are; a dotted name that was
registered as a function is found; and a name without a dot is that of a function exactly when it
is the last component of one that was registered. -/
theorem build_holds_registered (interfaceBases : List String) (steps : List BuildStep) :
    let index := build interfaceBases steps
    let types := BuildStep.types interfaceBases steps
    let functions := BuildStep.functions interfaceBases steps
    index.KeyedByName ∧
      (∀ last, last ∈ index.functionNames ↔ ∃ name ∈ index.functions, lastComponent name = last) ∧
      (∀ symbol ∈ types, symbol.name ≠ "" →
        ∃ latest, Latest types latest ∧ latest.name = symbol.name ∧
          index.lookup symbol.name = some latest ∧
          index.typeExists symbol.name = !latest.isInterface ∧
          index.isInterface symbol.name = latest.isInterface) ∧
      (∀ name ∈ functions, '.' ∈ name.toList → index.functionExists name = true) ∧
      ∀ name, name ≠ "" → '.' ∉ name.toList →
        (index.functionExists name = true ↔ ∃ full ∈ functions, lastComponent full = name) := by
  intro index types functions
  have h : index.Registers types functions := (registers_build interfaceBases steps).2
  refine ⟨h.keyedByName, fun last => ?_, fun symbol hs hne => ?_, fun name hmem hdot => ?_,
    fun name hne hdot => ?_⟩
  · rw [h.functionNames]
    simp only [h.functions]
  · obtain ⟨latest, hlatest, hname, hget⟩ := h.exists_latest hs
    have hlookup := lookup_of_get? hne hget
    refine ⟨latest, hlatest, hname, hlookup, ?_, ?_⟩
    · unfold typeExists
      rw [hlookup]
    · unfold isInterface
      rw [hlookup]
  · exact functionExists_of_mem hdot ((h.functions name).mpr hmem)
  · rw [functionExists_of_component hne hdot, h.functionNames]

/-- A class is registered as an interface and then by a module, among aliases of its name and of its
module. A source that does not parse stands in between. -/
def veiledSteps : List BuildStep :=
  [.addAlias "m.A" "x.Y", .addType { name := "m.A", isInterface := true },
    .addModule "m" "class (:\n" false,
    .addModule "m" "from x import Y as A\nclass A:\n    def f(self): pass\ndef run(): pass\n" false,
    .addAlias "m" "x", .addFunction "tools.go"]

theorem build_holds_veiledSteps :
    (BuildStep.types [] veiledSteps).map (fun symbol => (symbol.name, symbol.methods)) =
        [("m.A", []), ("m.A", ["f"])] ∧
      (∃ latest, Latest (BuildStep.types [] veiledSteps) latest ∧ latest.name = "m.A" ∧
        (build [] veiledSteps).lookup "m.A" = some latest) ∧
      (build [] veiledSteps).functionExists "m.run" = true ∧
      (build [] veiledSteps).functionExists "go" = true := by
  obtain ⟨-, -, htypes, hdotted, hplain⟩ := build_holds_registered [] veiledSteps
  have hregistered : (BuildStep.types [] veiledSteps).map (fun symbol =>
        (symbol.name, symbol.methods)) = [("m.A", []), ("m.A", ["f"])] ∧
      BuildStep.functions [] veiledSteps = ["m.run", "tools.go"] := by decide +kernel
  obtain ⟨hclasses, hfunctions⟩ := hregistered
  have hfirst : { name := "m.A", isInterface := true } ∈ BuildStep.types [] veiledSteps :=
    List.mem_cons_self
  obtain ⟨latest, hlatest, hname, hlookup, -⟩ := htypes _ hfirst (by decide)
  refine ⟨hclasses, ⟨latest, hlatest, hname, hlookup⟩, ?_, ?_⟩
  · exact hdotted "m.run" (by simp [hfunctions]) (by decide)
  · exact (hplain "go" (by decide) (by decide)).mpr ⟨"tools.go", by simp [hfunctions], by decide⟩

end SymbolIndex

end CoverAudit
