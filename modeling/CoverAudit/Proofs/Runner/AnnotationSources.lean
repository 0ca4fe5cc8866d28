import CoverAudit.Proofs.Docblock.Layout
import CoverAudit.Proofs.Runner.Extraction

/-!
# Docblocks and markers as sources of annotations

The same values can be declared in a docblock, one tag line each, or as the arguments of markers.
Either way blanks around a value do not count, and a value that holds nothing else stays as an empty
one.

* `tagLines`: the docblock that declares some values. Whatever they hold, they are read back from it
  (`valuesOf_tagLines`), as long as none of them goes over the end of its line.
* `argumentsUnder`: what calls of a marker have for arguments; only string literals among them count
  (`under_ofExprs_eq_textArguments`).
* `Annotations.docblocks_eq_markers`: docblocks, the markers of an item and those of the source
  declare the same annotations.
-/

namespace CoverAudit

/-! ## Docblocks -/

namespace Docblock

/-- The line that declares a value under a tag. -/
def tagLine (tag value : String) : String :=
  "@" ++ tag ++ " " ++ value

/-- The docblock that declares some values under a tag, line by line. -/
def tagLines (tag : String) (values : List String) : String :=
  Text.join '\n' (values.map (tagLine tag))

section TagLines

variable {tag : String}

theorem toList_tagLine (tag value : String) :
    (tagLine tag value).toList = '@' :: (tag.toList ++ ' ' :: value.toList) := by
  simp [tagLine]

/-- What stands behind the name and a space is the value, also where it looks like a tag itself. -/
theorem declares?_tagLine (hne : tag ≠ "") (hname : ∀ c ∈ tag.toList, isNameChar c = true)
    (value : String) : declares? tag (tagLine tag value).toList = some (Text.strip value) := by
  have hspace : ∀ c ∈ (' ' :: value.toList).head?, isNameChar c = false := by
    intro c hc
    cases hc
    decide
  have hat : AtName (tagLine tag value).toList tag.toList (' ' :: value.toList) := by
    rw [toList_tagLine]
    exact .mk (List.forall_mem_nil _) hname hspace
  have hblank : ∀ c ∈ [' '], Text.isBlank c = true := by
    intro c hc
    rw [List.mem_singleton.mp hc]
    decide
  have hstrip : Text.stripChars ([' '] ++ (value.toList ++ [])) = Text.stripChars value.toList :=
    Text.stripChars_append_append hblank (List.forall_mem_nil _) value.toList
  rw [List.append_nil, List.singleton_append] at hstrip
  have hread : readLine (tagLine tag value).toList = some ⟨tag, Text.strip value⟩ := by
    rw [hat.readLine_eq, if_pos ⟨by simpa using hne, rfl⟩, hstrip, String.ofList_toList, Text.strip]
  simp [declares?, hread]

theorem notMem_tagLine (hname : ∀ c ∈ tag.toList, isNameChar c = true) {value : String}
    (h : '\n' ∉ value.toList) : '\n' ∉ (tagLine tag value).toList := by
  have htag : '\n' ∉ tag.toList := fun hmem => absurd (hname _ hmem) (by decide)
  rw [toList_tagLine]
  simp [h, htag]

/-- The values that a docblock was written for are read back from it. -/
theorem valuesOf_tagLines (hne : tag ≠ "") (hname : ∀ c ∈ tag.toList, isNameChar c = true)
    {values : List String} (h : ∀ value ∈ values, '\n' ∉ value.toList) :
    valuesOf tag (some (tagLines tag values)) = values.map Text.strip := by
  rw [valuesOf_eq_filterMap, tagLines, Text.join, String.toList_ofList]
  cases values with
  | nil => rfl
  | cons first rest =>
    have hlines : ∀ line ∈ ((first :: rest).map (tagLine tag)).map String.toList, '\n' ∉ line := by
      intro line hline
      simp only [List.map_map, List.mem_map, Function.comp_apply] at hline
      obtain ⟨value, hvalue, rfl⟩ := hline
      exact notMem_tagLine hname (h value hvalue)
    have hnonempty : ((first :: rest).map (tagLine tag)).map String.toList ≠ [] := by simp
    rw [Text.splitChars_joinChars hnonempty hlines, List.map_map, List.filterMap_map]
    simp only [Function.comp_def, declares?_tagLine hne hname]
    exact congrFun List.filterMap_eq_map _

end TagLines

end Docblock

/-! ## Markers -/

namespace Markers

/-- The arguments of the calls among some expressions that spell the marker of a name. -/
def argumentsUnder (name : String) (exprs : List Source.Expr) : List Source.Expr :=
  exprs.flatMap fun
    | .call function arguments => if markerName? function = some name then arguments else []
    | _ => []

/-- What markers of a name declare are the string literals among their arguments. -/
theorem under_ofExprs_eq_textArguments {name : String} (hn : IsCoverageMarker name)
    (exprs : List Source.Expr) :
    (ofExprs exprs).under name = textArguments (argumentsUnder name exprs) := by
  rw [under_ofExprs, argumentsUnder, textArguments, List.filterMap_flatMap]
  refine List.flatMap_congr fun expr _ => ?_
  cases hspells : spells name expr with
  | false =>
    rw [under_ofExpr_eq_nil hn hspells]
    cases expr with
    | call function arguments =>
      have hother : markerName? function ≠ some name := by simpa [spells] using hspells
      simp [hother]
    | _ => rfl
  | true =>
    cases expr with
    | call function arguments =>
      have hname : markerName? function = some name := by simpa [spells] using hspells
      rw [under_ofExpr_call hname arguments name hn, if_pos rfl]
      simp [hname, textArguments]
    | _ => cases hspells

/-- String literals count without the blanks around them. -/
theorem under_ofExprs_of_texts {name : String} (hn : IsCoverageMarker name)
    {exprs : List Source.Expr} {values : List String}
    (h : argumentsUnder name exprs = values.map .text) :
    (ofExprs exprs).under name = values.map Text.strip := by
  rw [under_ofExprs_eq_textArguments hn, h, textArguments_map_text]

end Markers

namespace TestItem

/-- The arguments of the markers of a name. -/
def argumentsUnder (item : TestItem) (name : String) : List Datum :=
  (item.markers.filter fun marker => marker.1 = name).flatMap Prod.snd

theorem markerValues_eq (item : TestItem) (name : String) :
    item.markerValues name = (item.argumentsUnder name).filterMap argumentText? := by
  rw [argumentsUnder, List.filterMap_flatMap, markerValues]
  generalize item.markers = markers
  induction markers with
  | nil => rfl
  | cons marker rest ih => by_cases h : marker.1 = name <;> simp [h, ih]

/-- Arguments that are texts count without the blanks around them. -/
theorem markerValues_of_texts {item : TestItem} {name : String} {values : List String}
    (h : item.argumentsUnder name = values.map .text) :
    item.markerValues name = values.map Text.strip := by
  rw [markerValues_eq, h, List.filterMap_map]
  simp [Function.comp_def, argumentText?]

end TestItem

/-! ## Annotations -/

/-- **Docblocks and markers declare the same.** For values none of which holds a line feed, the
annotations are the values without the blanks around them, in order and with repetitions, whichever
way they are declared: in the docblocks of the class and of the test, a line each; as arguments of
markers of an item that has no docblocks; or as string literals in calls that spell such markers.
The arguments may stand in one marker or be spread over several. -/
theorem Annotations.docblocks_eq_markers {defaultClasses covers : List String}
    (hdefault : ∀ value ∈ defaultClasses, '\n' ∉ value.toList)
    (hcovers : ∀ value ∈ covers, '\n' ∉ value.toList) :
    let declared : Annotations :=
      { defaultClasses := defaultClasses.map Text.strip, covers := covers.map Text.strip }
    ofDocblocks (some (Docblock.tagLines "coversDefaultClass" defaultClasses))
        (some (Docblock.tagLines "covers" covers)) [] [] = declared ∧
      (∀ item : TestItem, item.classDoc = none → item.functionDoc = none →
        item.argumentsUnder "covers_default_class" = defaultClasses.map .text →
        item.argumentsUnder "covers" = covers.map .text → item.annotations = declared) ∧
      ∀ exprs : List Source.Expr,
        Markers.argumentsUnder "covers_default_class" exprs = defaultClasses.map .text →
        Markers.argumentsUnder "covers" exprs = covers.map .text →
          ofDocblocks none none (Markers.ofExprs exprs).defaultClasses
            (Markers.ofExprs exprs).covers = declared := by
  intro declared
  refine ⟨?_, ?_, ?_⟩
  · have hclass : Docblock.valuesOf "coversDefaultClass" _ = _ :=
      Docblock.valuesOf_tagLines (by decide) (by simp; decide) hdefault
    have htest : Docblock.valuesOf "covers" _ = _ :=
      Docblock.valuesOf_tagLines (by decide) (by simp; decide) hcovers
    simp [ofDocblocks, defaultClassTag, coversTag, hclass, htest, declared]
  · intro item hclass hfunction hdefaults hcover
    have hdefaultValues : item.markerValues defaultClassMarker = defaultClasses.map Text.strip :=
      TestItem.markerValues_of_texts hdefaults
    have hcoverValues : item.markerValues coversTag = covers.map Text.strip :=
      TestItem.markerValues_of_texts hcover
    rw [TestItem.annotations, hclass, hfunction, hdefaultValues, hcoverValues]
    rfl
  · intro exprs hdefaults hcover
    have hdefaultValues : (Markers.ofExprs exprs).defaultClasses = defaultClasses.map Text.strip :=
      Markers.under_ofExprs_of_texts (.inr rfl) hdefaults
    have hcoverValues : (Markers.ofExprs exprs).covers = covers.map Text.strip :=
      Markers.under_ofExprs_of_texts (.inl rfl) hcover
    rw [hdefaultValues, hcoverValues]
    rfl

/-- Values that look like tags, hold a carriage return or are blank: docblocks and the markers of
the source declare them alike. The markers of the source are spread over two calls. -/
theorem Annotations.docblocks_eq_markers_tagLike :
    ofDocblocks (some "@coversDefaultClass A\r")
        (some "@covers @covers x\n@covers  \n@covers \u3000a::b") [] [] =
        { defaultClasses := ["A"], covers := ["@covers x", "", "a::b"] } ∧
      TestItem.annotations
          { identifier := "t.py::test", name := "test"
            markers := [("covers", [.text "@covers x", .text " ", .text "\u3000a::b"]),
              ("slow", [.text "x"]), ("covers_default_class", [.text "A\r"])] } =
        { defaultClasses := ["A"], covers := ["@covers x", "", "a::b"] } ∧
      (let mark (name : String) (arguments : List Source.Expr) : Source.Expr :=
        .call (.attribute (.attribute (.name "pytest") "mark") name) arguments
      let markers := Markers.ofExprs
        [mark "covers" [.text "@covers x"], mark "covers_default_class" [.text "A\r"],
          mark "covers" [.text " ", .text "\u3000a::b"]]
      ofDocblocks none none markers.defaultClasses markers.covers =
        { defaultClasses := ["A"], covers := ["@covers x", "", "a::b"] }) := by
  have h := docblocks_eq_markers (show ∀ value ∈ ["A\r"], '\n' ∉ value.toList by simp)
    (show ∀ value ∈ ["@covers x", " ", "\u3000a::b"], '\n' ∉ value.toList by simp)
  exact ⟨h.1, h.2.1 _ rfl rfl rfl rfl, h.2.2 _ rfl rfl⟩

end CoverAudit
