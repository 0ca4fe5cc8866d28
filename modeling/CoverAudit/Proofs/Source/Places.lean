import CoverAudit.Source.Tree

/-!
# Places in a source

Where something stands in a source, and what stands at the places of a source. What counts, and into
which classes a search goes, is up to a `Survey`.

* `Place.Before`: the order of the document.
* `Survey.At`: what stands at a place.
* `Survey.placedIn`: all of it in one list. It holds what stands at the places of a body and nothing
  else (`mem_placedIn_iff`), in the order of the document (`pairwise_placedIn`).
-/

namespace CoverAudit

open Source (Stmt Expr Identifier)

/-- Where something stands in a source: the position of a statement in the body of the module, then
its position in the body of that statement, and so on. -/
abbrev Place := List Nat

/-- The order of the document: a class stands before what its body holds. -/
def Place.Before (place later : Place) : Prop :=
  List.Lex (· < ·) place later

/-- What to look for in a source, given what is known of the scope around a statement. -/
structure Survey (σ α : Type) where
  /-- What a statement is by itself. -/
  own : σ → Stmt → Option α
  /-- The scope that the body of a class has, if the search goes into it. -/
  enter : σ → Stmt → Option σ

namespace Survey

variable {σ α : Type}

/-- `survey.At scope body place item`: in a body that stands in `scope`, `item` is at `place`,
directly in the body or in the body of the class that the place leads into. -/
inductive At (survey : Survey σ α) : σ → List Stmt → Place → α → Prop
  | here {scope : σ} {body : List Stmt} {i : Nat} {statement : Stmt} {item : α}
      (h : body[i]? = some statement) (ho : survey.own scope statement = some item) :
      At survey scope body [i] item
  | inside {scope inner : σ} {body nested : List Stmt} {i : Nat} {identifier : Identifier}
      {bases decorators : List Expr} {place : Place} {item : α}
      (h : body[i]? = some (.classDef identifier bases decorators nested))
      (he : survey.enter scope (.classDef identifier bases decorators nested) = some inner)
      (hin : At survey inner nested place item) :
      At survey scope body (i :: place) item

mutual

/-- What there is in a statement at position `i` of a body, with its places. -/
def placedOf (survey : Survey σ α) (scope : σ) (i : Nat) : Stmt → List (Place × α)
  | .classDef identifier bases decorators body =>
    (survey.own scope (.classDef identifier bases decorators body)).toList.map ([i], ·) ++
      match survey.enter scope (.classDef identifier bases decorators body) with
      | some inner => (placedIn survey inner 0 body).map fun placed => (i :: placed.1, placed.2)
      | none => []
  | statement => (survey.own scope statement).toList.map ([i], ·)

/-- What there is in the statements of a body from position `i` on, with its places. -/
def placedIn (survey : Survey σ α) (scope : σ) (i : Nat) : List Stmt → List (Place × α)
  | [] => []
  | statement :: rest => placedOf survey scope i statement ++ placedIn survey scope (i + 1) rest

end

variable {survey : Survey σ α} {scope : σ}

/-- What a class holds inside, with its places. -/
theorem mem_placedOf_iff {i : Nat} {statement : Stmt} {place : Place} {item : α} :
    (place, item) ∈ survey.placedOf scope i statement ↔
      place = [i] ∧ survey.own scope statement = some item ∨
        ∃ identifier bases decorators body inner deeper,
          statement = .classDef identifier bases decorators body ∧
            survey.enter scope statement = some inner ∧ place = i :: deeper ∧
              (deeper, item) ∈ survey.placedIn inner 0 body := by
  have hown : (place, item) ∈ (survey.own scope statement).toList.map (([i], ·) : α → Place × α) ↔
      place = [i] ∧ survey.own scope statement = some item := by
    simp only [List.mem_map, Option.mem_toList, Prod.mk.injEq]
    constructor
    · rintro ⟨_, ho, rfl, rfl⟩
      exact ⟨rfl, ho⟩
    · rintro ⟨rfl, ho⟩
      exact ⟨item, ho, rfl, rfl⟩
  cases statement with
  | classDef identifier bases decorators body =>
    rw [placedOf, List.mem_append, hown]
    refine or_congr_right ⟨fun h => ?_, ?_⟩
    · split at h
      · rename_i inner he
        obtain ⟨⟨deeper, found⟩, hin, heq⟩ := List.mem_map.mp h
        cases heq
        exact ⟨_, _, _, _, inner, deeper, rfl, he, rfl, hin⟩
      · cases h
    · rintro ⟨_, _, _, _, inner, deeper, hs, he, rfl, hin⟩
      cases hs
      rw [he]
      exact List.mem_map.mpr ⟨(deeper, item), hin, rfl⟩
  | _ =>
    simp only [placedOf]
    rw [hown]
    exact ⟨.inl, fun h => h.elim id fun ⟨_, _, _, _, _, _, hs, _⟩ => nomatch hs⟩

theorem mem_placedIn {i : Nat} {body : List Stmt} {p : Place × α} :
    p ∈ survey.placedIn scope i body ↔
      ∃ j statement, body[j]? = some statement ∧ p ∈ survey.placedOf scope (i + j) statement := by
  induction body generalizing i with
  | nil => simp [placedIn]
  | cons statement rest ih =>
    rw [placedIn, List.mem_append, ih]
    constructor
    · rintro (h | ⟨j, later, hget, hp⟩)
      · exact ⟨0, statement, rfl, h⟩
      · exact ⟨j + 1, later, hget, by rwa [Nat.add_assoc, Nat.add_comm 1 j] at hp⟩
    · rintro ⟨j, later, hget, hp⟩
      cases j with
      | zero =>
        cases hget
        exact .inl hp
      | succ j => exact .inr ⟨j, later, hget, by rwa [Nat.add_assoc, Nat.add_comm 1 j]⟩

/-- The enumeration of a body holds exactly what stands at its places. -/
theorem mem_placedIn_iff {body : List Stmt} {place : Place} {item : α} :
    (place, item) ∈ survey.placedIn scope 0 body ↔ survey.At scope body place item := by
  constructor
  · intro h
    induction place generalizing scope body with
    | nil =>
      obtain ⟨j, statement, -, hp⟩ := mem_placedIn.mp h
      obtain ⟨hplace, -⟩ | ⟨_, _, _, _, _, _, -, -, hplace, -⟩ := mem_placedOf_iff.mp hp <;>
        cases hplace
    | cons first rest ih =>
      obtain ⟨j, statement, hget, hp⟩ := mem_placedIn.mp h
      rw [Nat.zero_add] at hp
      obtain ⟨hplace, ho⟩ | ⟨_, _, _, _, _, _, rfl, he, hplace, hin⟩ := mem_placedOf_iff.mp hp
      · cases hplace
        exact .here hget ho
      · cases hplace
        exact .inside hget he (ih hin)
  · intro h
    induction h with
    | here h ho =>
      refine mem_placedIn.mpr ⟨_, _, h, mem_placedOf_iff.mpr (.inl ⟨?_, ho⟩)⟩
      rw [Nat.zero_add]
    | inside h he _ ih =>
      refine mem_placedIn.mpr ⟨_, _, h, mem_placedOf_iff.mpr (.inr ?_)⟩
      exact ⟨_, _, _, _, _, _, rfl, he, by rw [Nat.zero_add], ih⟩

/-- A place starts with the position of its statement. -/
theorem exists_cons_of_mem_placedOf {i : Nat} {statement : Stmt} {p : Place × α}
    (h : p ∈ survey.placedOf scope i statement) : ∃ deeper, p.1 = i :: deeper := by
  obtain ⟨hplace, -⟩ | ⟨_, _, _, _, _, deeper, -, -, hplace, -⟩ := mem_placedOf_iff.mp h
  · exact ⟨[], hplace⟩
  · exact ⟨deeper, hplace⟩

mutual

theorem pairwise_placedOf (survey : Survey σ α) (scope : σ) (i : Nat) (statement : Stmt) :
    (survey.placedOf scope i statement).Pairwise fun a b => a.1.Before b.1 := by
  have hown : ((survey.own scope statement).toList.map (([i], ·) : α → Place × α)).Pairwise
      fun a b => a.1.Before b.1 := by
    cases survey.own scope statement <;> simp
  cases statement with
  | classDef identifier bases decorators body =>
    rw [placedOf, List.pairwise_append]
    refine ⟨hown, ?_, fun a ha b hb => ?_⟩
    · split
      · rename_i inner _
        have hinner := pairwise_placedIn survey inner 0 body
        rw [List.pairwise_map]
        exact hinner.imp fun h => List.Lex.cons h
      · exact .nil
    · -- What the class is by itself stands before all of its body.
      obtain ⟨_, -, rfl⟩ := List.mem_map.mp ha
      split at hb
      · obtain ⟨nested, hin, rfl⟩ := List.mem_map.mp hb
        obtain ⟨_, _, -, hat⟩ := mem_placedIn.mp hin
        obtain ⟨deeper, hplace⟩ := exists_cons_of_mem_placedOf hat
        rw [hplace]
        exact .cons .nil
      · cases hb
  | _ => simpa only [placedOf] using hown

/-- The enumeration of a body is in the order of the document. -/
theorem pairwise_placedIn (survey : Survey σ α) (scope : σ) (i : Nat) (body : List Stmt) :
    (survey.placedIn scope i body).Pairwise fun a b => a.1.Before b.1 := by
  cases body with
  | nil => exact .nil
  | cons statement rest =>
    rw [placedIn, List.pairwise_append]
    refine ⟨pairwise_placedOf survey scope i statement,
      pairwise_placedIn survey scope (i + 1) rest, fun a ha b hb => ?_⟩
    obtain ⟨_, hfirst⟩ := exists_cons_of_mem_placedOf ha
    obtain ⟨j, _, -, hb⟩ := mem_placedIn.mp hb
    obtain ⟨_, hlater⟩ := exists_cons_of_mem_placedOf hb
    rw [hfirst, hlater]
    exact .rel (by omega)

end

end Survey

end CoverAudit
