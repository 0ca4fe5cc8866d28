import CoverAudit.Suite.Marker

/-!
# Values of markers

What the markers of a scope declare, said of the source alone: which assignment counts, which calls
are those of a marker, and which of their arguments are values. Everything is said by relations,
which the functions that collect markers turn out to compute.

* `FirstAssigned`: the markers that a body assigns first (`firstAssigned_iff`).
* `CallsMarker`: the calls of a marker (`callsMarker_iff`).
* `Declares`: the values that expressions declare by the marker of a name
  (`Markers.Reads.declares_iff`).
* `HasDocstring`: the docstring of a body (`hasDocstring_iff`).
-/

namespace CoverAudit

open Source (Stmt Expr)

/-! ## Docstrings -/

/-- The docstring of a body is the string that is its first statement. -/
inductive HasDocstring : List Stmt → Option String → Prop
  | text {value : String} {rest : List Stmt} :
      HasDocstring (.expr (.text value) :: rest) (some value)
  | none {body : List Stmt} (h : ∀ value, body.head? ≠ some (.expr (.text value))) :
      HasDocstring body none

theorem hasDocstring_iff {body : List Stmt} {doc : Option String} :
    HasDocstring body doc ↔ Source.docstring? body = doc := by
  constructor
  · rintro (_ | h)
    · rfl
    · unfold Source.docstring?
      split
      · exact absurd rfl (h _)
      · rfl
  · rintro rfl
    unfold Source.docstring?
    split
    · exact .text
    · rename_i h
      refine .none fun value hhead => ?_
      obtain ⟨rest, rfl⟩ := List.head?_eq_some_iff.mp hhead
      exact h value rest rfl

/-! ## Assigned markers -/

/-- A statement assigns markers to the name `pytestmark`, which may be one target among others: the
items of a list or of a tuple, or one value that is neither. -/
inductive AssignsMarkers : Stmt → List Expr → Prop
  | list {targets items : List Expr} (h : .name "pytestmark" ∈ targets) :
      AssignsMarkers (.assign targets (.list items)) items
  | tuple {targets items : List Expr} (h : .name "pytestmark" ∈ targets) :
      AssignsMarkers (.assign targets (.tuple items)) items
  | value {targets : List Expr} {value : Expr} (h : .name "pytestmark" ∈ targets)
      (hl : ∀ items, value ≠ .list items) (ht : ∀ items, value ≠ .tuple items) :
      AssignsMarkers (.assign targets value) [value]

/-- The markers that a body assigns where it assigns markers for the first time; none when it never
does. -/
inductive FirstAssigned : List Stmt → List Expr → Prop
  | first {before after : List Stmt} {statement : Stmt} {items : List Expr}
      (hbefore : ∀ earlier ∈ before, ∀ markers, ¬ AssignsMarkers earlier markers)
      (h : AssignsMarkers statement items) : FirstAssigned (before ++ statement :: after) items
  | none {body : List Stmt}
      (h : ∀ statement ∈ body, ∀ markers, ¬ AssignsMarkers statement markers) :
      FirstAssigned body []

theorem any_isTarget_iff {targets : List Expr} :
    targets.any Markers.isTarget = true ↔ .name "pytestmark" ∈ targets := by
  rw [List.any_eq_true]
  constructor
  · rintro ⟨target, hmem, htarget⟩
    cases target with
    | name id => exact of_decide_eq_true htarget ▸ hmem
    | _ => cases htarget
  · exact fun hmem => ⟨_, hmem, rfl⟩

theorem assigned?_eq_some_iff {statement : Stmt} {items : List Expr} :
    Markers.assigned? statement = some items ↔ AssignsMarkers statement items := by
  constructor
  · intro h
    cases statement with
    | assign targets value =>
      simp only [Markers.assigned?, Option.ite_none_right_eq_some, any_isTarget_iff] at h
      obtain ⟨hmem, h⟩ := h
      cases value with
      | list items => cases h; exact .list hmem
      | tuple items => cases h; exact .tuple hmem
      | _ => cases h; exact .value hmem nofun nofun
    | _ => cases h
  · rintro (hmem | hmem | ⟨hmem, hl, ht⟩)
    · simp only [Markers.assigned?, any_isTarget_iff.mpr hmem, if_true]
    · simp only [Markers.assigned?, any_isTarget_iff.mpr hmem, if_true]
    · simp only [Markers.assigned?, any_isTarget_iff.mpr hmem, if_true]

theorem firstAssigned_iff {body : List Stmt} {items : List Expr} :
    FirstAssigned body items ↔ (body.findSome? Markers.assigned?).getD [] = items := by
  have hnone : ∀ {body : List Stmt}, body.findSome? Markers.assigned? = none ↔
      ∀ statement ∈ body, ∀ markers, ¬ AssignsMarkers statement markers := by
    intro body
    rw [List.findSome?_eq_none_iff]
    simp only [Option.eq_none_iff_forall_ne_some, ne_eq, assigned?_eq_some_iff]
  constructor
  · rintro (⟨hbefore, h⟩ | h)
    · rw [List.findSome?_append, hnone.mpr hbefore, Option.none_or, List.findSome?_cons,
        assigned?_eq_some_iff.mpr h]
      rfl
    · rw [hnone.mpr h]
      rfl
  · rintro rfl
    cases h : body.findSome? Markers.assigned? with
    | none => exact .none (hnone.mp h)
    | some items =>
      obtain ⟨before, statement, after, rfl, hassigned, hbefore⟩ :=
        List.findSome?_eq_some_iff.mp h
      exact .first (hnone.mp (List.findSome?_eq_none_iff.mpr hbefore))
        (assigned?_eq_some_iff.mp hassigned)

/-! ## Calls of markers -/

/-- An expression calls the marker of a name: an attribute of `mark`, which is a name or an
attribute of anything. -/
inductive CallsMarker (name : String) : Expr → List Expr → Prop
  | ofName {arguments : List Expr} :
      CallsMarker name (.call (.attribute (.name "mark") name) arguments) arguments
  | ofAttribute {value : Expr} {arguments : List Expr} :
      CallsMarker name (.call (.attribute (.attribute value "mark") name) arguments) arguments

theorem head?_attributePath {last : String} : (expr : Expr) →
    ((Markers.attributePath expr).reverse.head? = some last ↔
      expr = .name last ∨ ∃ value, expr = .attribute value last)
  | .name _ => by simp [Markers.attributePath]
  | .attribute _ _ => by simp [Markers.attributePath]
  | .subscript _ | .call _ _ | .text _ | .list _ | .tuple _ | .starred _ | .other => by
    simp [Markers.attributePath]

theorem markerName?_attribute (holder : Expr) (last : String) :
    Markers.markerName? (.attribute holder last) =
      if (Markers.attributePath holder).reverse.head? = some "mark" then some last else none := by
  rw [Markers.markerName?, Markers.attributePath, List.reverse_append, List.reverse_singleton,
    List.singleton_append]
  cases (Markers.attributePath holder).reverse with
  | nil => rfl
  | cons part rest =>
    by_cases hmark : part = "mark"
    · subst hmark
      rfl
    · simp [hmark]

theorem markerName?_eq_some_iff {name : String} : (function : Expr) →
    (Markers.markerName? function = some name ↔
      function = .attribute (.name "mark") name ∨
        ∃ value, function = .attribute (.attribute value "mark") name)
  | .attribute holder last => by
    rw [markerName?_attribute, Option.ite_none_right_eq_some, head?_attributePath,
      Option.some.injEq]
    constructor
    · rintro ⟨rfl | ⟨value, rfl⟩, rfl⟩
      · exact .inl rfl
      · exact .inr ⟨value, rfl⟩
    · rintro (h | ⟨value, h⟩)
      · cases h
        exact ⟨.inl rfl, rfl⟩
      · cases h
        exact ⟨.inr ⟨value, rfl⟩, rfl⟩
  | .name _ | .subscript _ | .call _ _ | .text _ | .list _ | .tuple _ | .starred _ | .other => by
    simp [Markers.markerName?, Markers.attributePath]

theorem callsMarker_iff {name : String} {expr : Expr} {arguments : List Expr} :
    CallsMarker name expr arguments ↔
      ∃ function, expr = .call function arguments ∧ Markers.markerName? function = some name := by
  constructor
  · rintro (_ | _)
    · exact ⟨_, rfl, (markerName?_eq_some_iff _).mpr (.inl rfl)⟩
    · exact ⟨_, rfl, (markerName?_eq_some_iff _).mpr (.inr ⟨_, rfl⟩)⟩
  · rintro ⟨function, rfl, h⟩
    obtain rfl | ⟨value, rfl⟩ := (markerName?_eq_some_iff function).mp h
    · exact .ofName
    · exact .ofAttribute

/-! ## Values -/

/-- The values among some arguments: the string literals, without blanks around them. -/
inductive Literals : List Expr → List String → Prop
  | nil : Literals [] []
  | text {value : String} {rest : List Expr} {texts : List String} (h : Literals rest texts) :
      Literals (.text value :: rest) (Text.strip value :: texts)
  | other {expr : Expr} {rest : List Expr} {texts : List String} (hne : ∀ value, expr ≠ .text value)
      (h : Literals rest texts) : Literals (expr :: rest) texts

/-- The values that some expressions declare by the marker of a name, in order. What is no call of
it declares nothing. -/
inductive Declares (name : String) : List Expr → List String → Prop
  | nil : Declares name [] []
  | call {expr : Expr} {arguments rest : List Expr} {texts more : List String}
      (hc : CallsMarker name expr arguments) (ha : Literals arguments texts)
      (h : Declares name rest more) : Declares name (expr :: rest) (texts ++ more)
  | other {expr : Expr} {rest : List Expr} {texts : List String}
      (hne : ∀ arguments, ¬ CallsMarker name expr arguments) (h : Declares name rest texts) :
      Declares name (expr :: rest) texts

theorem literals_iff {arguments : List Expr} {texts : List String} :
    Literals arguments texts ↔ Markers.textArguments arguments = texts := by
  constructor
  · intro h
    induction h with
    | nil => rfl
    | text _ ih => rw [← ih]; rfl
    | @other expr rest texts hne _ ih =>
      rw [← ih]
      cases expr with
      | text value => exact absurd rfl (hne value)
      | _ => rfl
  · rintro rfl
    induction arguments with
    | nil => exact .nil
    | cons expr rest ih =>
      cases expr with
      | text value => exact .text ih
      | _ => exact .other nofun ih

namespace Markers

/-- `values` picks what the markers of a name declare. -/
structure Reads (name : String) (values : Markers → List String) : Prop where
  empty : values {} = []
  append : ∀ a b, values (a.append b) = values a ++ values b
  call : ∀ function arguments, values (ofExpr (.call function arguments)) =
    if markerName? function = some name then textArguments arguments else []

theorem reads_covers : Reads "covers" covers where
  empty := rfl
  append _ _ := rfl
  call function arguments := by
    rw [ofExpr]
    cases markerName? function with
    | none => rfl
    | some name =>
      by_cases hcovers : name = "covers"
      · subst hcovers
        rfl
      · by_cases hdefault : name = "covers_default_class" <;>
          simp [hcovers, hdefault, Annotations.coversTag, Annotations.defaultClassMarker]

theorem reads_defaultClasses : Reads "covers_default_class" defaultClasses where
  empty := rfl
  append _ _ := rfl
  call function arguments := by
    rw [ofExpr]
    cases markerName? function with
    | none => rfl
    | some name =>
      by_cases hdefault : name = "covers_default_class"
      · subst hdefault
        rfl
      · by_cases hcovers : name = "covers" <;>
          simp [hcovers, hdefault, Annotations.coversTag, Annotations.defaultClassMarker]

variable {name : String} {values : Markers → List String}

theorem Reads.ofExprs_cons (hv : Reads name values) (expr : Expr) (rest : List Expr) :
    values (ofExprs (expr :: rest)) = values (ofExpr expr) ++ values (ofExprs rest) :=
  hv.append _ _

theorem Reads.ofExpr_of_calls (hv : Reads name values) {expr : Expr} {arguments : List Expr}
    (h : CallsMarker name expr arguments) : values (ofExpr expr) = textArguments arguments := by
  obtain ⟨function, rfl, hname⟩ := callsMarker_iff.mp h
  rw [hv.call, if_pos hname]

theorem Reads.ofExpr_of_not_calls (hv : Reads name values) {expr : Expr}
    (h : ∀ arguments, ¬ CallsMarker name expr arguments) : values (ofExpr expr) = [] := by
  cases expr with
  | call function arguments =>
    rw [hv.call, if_neg fun hname => h arguments (callsMarker_iff.mpr ⟨function, rfl, hname⟩)]
  | _ => exact hv.empty

/-- Reading markers finds the values that they declare. -/
theorem Reads.declares_iff (hv : Reads name values) {exprs : List Expr} {texts : List String} :
    Declares name exprs texts ↔ values (ofExprs exprs) = texts := by
  constructor
  · intro h
    induction h with
    | nil => exact hv.empty
    | call hc ha _ ih =>
      rw [hv.ofExprs_cons, hv.ofExpr_of_calls hc, literals_iff.mp ha, ih]
    | other hne _ ih => rw [hv.ofExprs_cons, hv.ofExpr_of_not_calls hne, ih, List.nil_append]
  · rintro rfl
    induction exprs with
    | nil =>
      have hempty : values (ofExprs []) = [] := hv.empty
      rw [hempty]
      exact .nil
    | cons expr rest ih =>
      rw [hv.ofExprs_cons]
      by_cases hcalls : ∃ arguments, CallsMarker name expr arguments
      · obtain ⟨arguments, hc⟩ := hcalls
        rw [hv.ofExpr_of_calls hc]
        exact .call hc (literals_iff.mpr rfl) ih
      · rw [not_exists] at hcalls
        rw [hv.ofExpr_of_not_calls hcalls, List.nil_append]
        exact .other hcalls ih

end Markers

end CoverAudit
