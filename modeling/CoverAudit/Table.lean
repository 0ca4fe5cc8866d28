/-!
# Tables

A `Table α` assigns values to names and remembers the order in which the names first arrived.
Overwriting a name keeps its place. The entries of a table never repeat a name: that is part of
the type, so `size` counts names and `get?` has one candidate.

* `get?_insert`: a write is seen under its own name and under no other.
* `get?_insertMany`: of several writes under one name the last is seen.
* `get?_insertMany_of_notMem`: writes under other names are not seen.
* `get?_insertMany_of_nodup`: where no two writes have the same name, each of them is seen.
* `get?_insertMany_comm`: two lists of writes with no name in common may be made in either order.
* `keys_insert`: a write adds its name at the end, unless the name is there already.
* `mem_keys_insert`, `mem_keys_insertMany`: the names after one write, and after several.
* `getD_append`: what is added to the list under a name is at the end of that list only.
* `mem_toList_of_get?`: what `get?` answers is an entry, and every entry is what `get?` answers
  (`get?_eq_some_iff`).
* `mem_keys_iff`: the names of a table are those that `get?` answers for.
-/

namespace CoverAudit

/-- Values under names, in the order in which the names first arrived. -/
structure Table (α : Type) where
  entries : List (String × α) := []
  nodup : (entries.map Prod.fst).Nodup := by simp

namespace Table

variable {α : Type}

/-- The first value stored under `key` in a list of entries. -/
def find (key : String) : List (String × α) → Option α
  | [] => none
  | (k, v) :: rest => if k = key then some v else find key rest

/-- The entries with `value` under `key`: in the place of the old value, or at the end. -/
def put (key : String) (value : α) : List (String × α) → List (String × α)
  | [] => [(key, value)]
  | (k, v) :: rest => if k = key then (k, value) :: rest else (k, v) :: put key value rest

theorem map_fst_put (key : String) (value : α) (entries : List (String × α)) :
    (put key value entries).map Prod.fst =
      if key ∈ entries.map Prod.fst then entries.map Prod.fst
      else entries.map Prod.fst ++ [key] := by
  induction entries with
  | nil => simp [put]
  | cons entry rest ih =>
    obtain ⟨k, v⟩ := entry
    by_cases h : k = key
    · simp [put, h]
    · have h' : ¬ key = k := fun e => h e.symm
      simp only [put, h, if_false, List.map_cons, ih, List.mem_cons, h', false_or]
      split <;> simp

theorem nodup_put {entries : List (String × α)} (h : (entries.map Prod.fst).Nodup)
    (key : String) (value : α) : ((put key value entries).map Prod.fst).Nodup := by
  rw [map_fst_put]
  split
  · exact h
  · rename_i hk
    rw [List.nodup_append]
    refine ⟨h, by simp, ?_⟩
    intro a ha b hb
    simp only [List.mem_singleton] at hb
    subst hb
    intro e
    exact hk (e ▸ ha)

/-- The table without entries. -/
def empty : Table α := {}

instance : Inhabited (Table α) := ⟨empty⟩

/-- The value under `key`. -/
def get? (table : Table α) (key : String) : Option α :=
  find key table.entries

/-- The value under `key`, or `fallback` when the table has none. -/
def getD (table : Table α) (key : String) (fallback : α) : α :=
  (table.get? key).getD fallback

/-- Whether `key` has a value. -/
def contains (table : Table α) (key : String) : Bool :=
  (table.get? key).isSome

/-- The table with `value` under `key`. -/
def insert (table : Table α) (key : String) (value : α) : Table α where
  entries := put key value table.entries
  nodup := nodup_put table.nodup key value

/-- The names, in order of arrival. -/
def keys (table : Table α) : List String :=
  table.entries.map Prod.fst

theorem nodup_keys (table : Table α) : table.keys.Nodup :=
  table.nodup

/-- The number of names. -/
def size (table : Table α) : Nat :=
  table.entries.length

/-- The entries, in order of arrival of their names. -/
def toList (table : Table α) : List (String × α) :=
  table.entries

/-- Writes a list of entries from left to right, so that the last value of a name stays. -/
def insertMany (table : Table α) (entries : List (String × α)) : Table α :=
  entries.foldl (fun t (key, value) => t.insert key value) table

/-- Adds `value` at the end of the list under `key`; a new name starts with the empty list. -/
def append {β : Type} (table : Table (List β)) (key : String) (value : β) : Table (List β) :=
  table.insert key (table.getD key [] ++ [value])

theorem find_put (key other : String) (value : α) (entries : List (String × α)) :
    find other (put key value entries) =
      if other = key then some value else find other entries := by
  induction entries with
  | nil => simp [put, find, eq_comm]
  | cons entry rest ih =>
    obtain ⟨k, v⟩ := entry
    by_cases hk : k = key
    · by_cases ho : k = other
      · simp [put, find, hk, ← ho]
      · have : ¬ other = key := fun e => ho (hk.trans e.symm)
        have hk' : ¬ key = other := fun e => this e.symm
        simp [put, find, hk, hk', this]
    · by_cases ho : k = other
      · subst ho
        simp [put, find, hk]
      · simp [put, find, hk, ho, ih]

@[simp] theorem get?_empty (key : String) : (empty : Table α).get? key = none := rfl

/-- A write is seen under its own name and under no other. -/
@[simp] theorem get?_insert (table : Table α) (key other : String) (value : α) :
    (table.insert key value).get? other = if other = key then some value else table.get? other :=
  find_put key other value table.entries

theorem insertMany_append (table : Table α) (first second : List (String × α)) :
    table.insertMany (first ++ second) = (table.insertMany first).insertMany second := by
  unfold insertMany
  rw [List.foldl_append]

/-- Of several writes under one name the last is seen. -/
theorem get?_insertMany (table : Table α) (entries : List (String × α)) (key : String) :
    (table.insertMany entries).get? key =
      ((entries.reverse.find? fun entry => entry.1 = key).map Prod.snd).or (table.get? key) := by
  induction entries generalizing table with
  | nil => rfl
  | cons entry rest ih =>
    have hstep : table.insertMany (entry :: rest) =
      (table.insert entry.1 entry.2).insertMany rest := rfl
    rw [hstep, ih, get?_insert, List.reverse_cons, List.find?_append]
    by_cases hk : entry.1 = key
    · cases rest.reverse.find? _ <;> simp [hk]
    · have hk' : ¬ key = entry.1 := fun e => hk e.symm
      cases rest.reverse.find? _ <;> simp [hk, hk']

/-- What is found from the end of a list has nothing of its kind behind it. -/
theorem split_of_find?_reverse {β : Type} {items : List β} {p : β → Bool} {item : β}
    (h : items.reverse.find? p = some item) :
    p item = true ∧ ∃ before behind, items = before ++ item :: behind ∧
      ∀ later ∈ behind, p later = false := by
  obtain ⟨hp, later, earlier, hsplit, hno⟩ := List.find?_eq_some_iff_append.mp h
  refine ⟨hp, earlier.reverse, later.reverse, ?_, fun x hx => ?_⟩
  · rw [← List.reverse_reverse items, hsplit]
    simp
  · simpa using hno x (List.mem_reverse.mp hx)

/-- Writes under other names are not seen. -/
theorem get?_insertMany_of_notMem (table : Table α) {entries : List (String × α)} {key : String}
    (h : key ∉ entries.map Prod.fst) : (table.insertMany entries).get? key = table.get? key := by
  have hnone : entries.reverse.find? (fun entry => entry.1 = key) = none := by
    rw [List.find?_eq_none]
    intro entry he hk
    exact h (List.mem_map.mpr ⟨entry, List.mem_reverse.mp he, by simpa using hk⟩)
  rw [get?_insertMany, hnone]
  rfl

/-- Two lists of writes with no name in common may be made in either order. -/
theorem get?_insertMany_comm (table : Table α) {first second : List (String × α)}
    (h : ∀ key ∈ first.map Prod.fst, key ∉ second.map Prod.fst) (key : String) :
    ((table.insertMany first).insertMany second).get? key =
      ((table.insertMany second).insertMany first).get? key := by
  by_cases hk : key ∈ first.map Prod.fst
  · have hsecond := h key hk
    rw [get?_insertMany_of_notMem _ hsecond, get?_insertMany, get?_insertMany _ first,
      get?_insertMany_of_notMem _ hsecond]
  · rw [get?_insertMany_of_notMem _ hk, get?_insertMany, get?_insertMany _ second,
      get?_insertMany_of_notMem _ hk]

/-- Where no two writes have the same name, each of them is seen. -/
theorem get?_insertMany_of_nodup (table : Table α) {entries : List (String × α)}
    (h : (entries.map Prod.fst).Nodup) {key : String} {value : α} (hm : (key, value) ∈ entries) :
    (table.insertMany entries).get? key = some value := by
  induction entries generalizing table with
  | nil => cases hm
  | cons entry rest ih =>
    rw [List.map_cons, List.nodup_cons] at h
    have hstep : table.insertMany (entry :: rest) =
      (table.insert entry.1 entry.2).insertMany rest := rfl
    rw [hstep]
    obtain rfl | hm := List.mem_cons.mp hm
    · rw [get?_insertMany_of_notMem _ h.1, get?_insert, if_pos rfl]
    · exact ih _ h.2 hm

/-- A write adds its name at the end, unless the name is there already. -/
theorem keys_insert (table : Table α) (key : String) (value : α) :
    (table.insert key value).keys =
      if key ∈ table.keys then table.keys else table.keys ++ [key] :=
  map_fst_put key value table.entries

theorem mem_keys_insert (table : Table α) (key other : String) (value : α) :
    other ∈ (table.insert key value).keys ↔ other ∈ table.keys ∨ other = key := by
  rw [keys_insert]
  split
  · rename_i hkey
    exact ⟨.inl, fun h => h.elim id fun he => he ▸ hkey⟩
  · rw [List.mem_append, List.mem_singleton]

/-- What is appended is seen under its own name and under no other. -/
theorem getD_append {β : Type} (table : Table (List β)) (key other : String) (value : β) :
    (table.append key value).getD other [] =
      if other = key then table.getD key [] ++ [value] else table.getD other [] := by
  rw [append, getD, get?_insert]
  split <;> rfl

/-- Several writes add their names. -/
theorem mem_keys_insertMany (table : Table α) (entries : List (String × α)) (key : String) :
    key ∈ (table.insertMany entries).keys ↔ key ∈ table.keys ∨ key ∈ entries.map Prod.fst := by
  induction entries generalizing table with
  | nil => simp [insertMany]
  | cons entry rest ih =>
    have hstep : table.insertMany (entry :: rest) =
      (table.insert entry.1 entry.2).insertMany rest := rfl
    rw [hstep, ih, mem_keys_insert, List.map_cons, List.mem_cons, or_assoc]

theorem find_eq_none_iff (key : String) (entries : List (String × α)) :
    find key entries = none ↔ key ∉ entries.map Prod.fst := by
  induction entries with
  | nil => simp [find]
  | cons entry rest ih =>
    obtain ⟨k, v⟩ := entry
    by_cases h : k = key
    · simp [find, h]
    · have h' : ¬ key = k := fun e => h e.symm
      simp [find, h, h', ih]

theorem mem_of_find {key : String} {value : α} {entries : List (String × α)}
    (h : find key entries = some value) : (key, value) ∈ entries := by
  induction entries with
  | nil => simp [find] at h
  | cons entry rest ih =>
    obtain ⟨k, v⟩ := entry
    simp only [find] at h
    split at h
    · rename_i hk
      cases h
      simp [hk]
    · exact List.mem_cons_of_mem _ (ih h)

/-- What `get?` answers is an entry. -/
theorem mem_toList_of_get? {table : Table α} {key : String} {value : α}
    (h : table.get? key = some value) : (key, value) ∈ table.toList :=
  mem_of_find h

theorem find_of_mem {key : String} {value : α} {entries : List (String × α)}
    (h : (entries.map Prod.fst).Nodup) (hm : (key, value) ∈ entries) :
    find key entries = some value := by
  induction entries with
  | nil => cases hm
  | cons entry rest ih =>
    obtain ⟨k, v⟩ := entry
    rw [List.map_cons, List.nodup_cons] at h
    obtain hm | hm := List.mem_cons.mp hm
    · cases hm
      simp [find]
    · have hk : ¬ k = key := fun e => h.1 (List.mem_map.mpr ⟨(key, value), hm, e.symm⟩)
      simp [find, hk, ih h.2 hm]

/-- The entries of a table are what `get?` answers. -/
theorem get?_eq_some_iff {table : Table α} {key : String} {value : α} :
    table.get? key = some value ↔ (key, value) ∈ table.toList :=
  ⟨mem_toList_of_get?, find_of_mem table.nodup⟩

/-- The names of a table are those that `get?` answers for. -/
theorem mem_keys_iff (table : Table α) (key : String) :
    key ∈ table.keys ↔ (table.get? key).isSome := by
  have := find_eq_none_iff key table.entries
  unfold keys get?
  cases h : find key table.entries <;> simp_all

theorem mem_keys_of_get? {table : Table α} {key : String} {value : α}
    (h : table.get? key = some value) : key ∈ table.keys :=
  (mem_keys_iff table key).mpr (Option.isSome_of_eq_some h)

end Table

end CoverAudit
