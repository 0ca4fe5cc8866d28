/-!
# Splitting and joining at a separator

Texts as lists of characters, cut at every occurrence of one character, and put together again.
Dotted names (`shop.widgets.Widget`) are read as their list of components this way.

* `join_split`: joining what was split gives the text back.
* `split_join`: splitting what was joined gives the parts back, so they can be told from it
  (`join_inj`).
* `split_append`: a text is split at each of its separators on its own.
* `notMem_of_mem_split`: no part holds the separator.
* `join_append`: leading parts may be joined first.
* `splitChars_ne_nil`: a split has at least one part, also for the empty text.
-/

namespace CoverAudit.Text

/-- The parts of `cs` between the occurrences of `sep`, empty ones included. -/
def splitChars (sep : Char) : List Char → List (List Char)
  | [] => [[]]
  | c :: rest =>
    if c = sep then [] :: splitChars sep rest
    else
      match splitChars sep rest with
      | [] => [[c]]
      | part :: parts => (c :: part) :: parts

/-- The parts put together with `sep` between two neighbours. -/
def joinChars (sep : Char) : List (List Char) → List Char
  | [] => []
  | [part] => part
  | part :: rest => part ++ sep :: joinChars sep rest

theorem splitChars_ne_nil (sep : Char) (cs : List Char) : splitChars sep cs ≠ [] := by
  cases cs with
  | nil => simp [splitChars]
  | cons c rest =>
    simp only [splitChars]
    split
    · simp
    · split <;> simp

/-- Joining what was split gives the text back. -/
theorem joinChars_splitChars (sep : Char) (cs : List Char) :
    joinChars sep (splitChars sep cs) = cs := by
  induction cs with
  | nil => rfl
  | cons c rest ih =>
    simp only [splitChars]
    split
    · rename_i h
      subst h
      cases hs : splitChars c rest with
      | nil => exact absurd hs (splitChars_ne_nil c rest)
      | cons part parts => rw [hs] at ih; simp [joinChars, ih]
    · split
      · rename_i hs
        exact absurd hs (splitChars_ne_nil sep rest)
      · rename_i part parts hs
        rw [hs] at ih
        cases parts with
        | nil => simpa [joinChars] using ih
        | cons second others => simpa [joinChars] using ih

/-- The parts of a text between the occurrences of `sep`. -/
def split (sep : Char) (s : String) : List String :=
  (splitChars sep s.toList).map String.ofList

/-- The texts put together with `sep` between two neighbours. -/
def join (sep : Char) (parts : List String) : String :=
  String.ofList (joinChars sep (parts.map String.toList))

/-- Joining what was split gives the text back. -/
theorem join_split (sep : Char) (s : String) : join sep (split sep s) = s := by
  simp [join, split, List.map_map, Function.comp_def, joinChars_splitChars]

theorem splitChars_of_notMem {sep : Char} {cs : List Char} (h : sep ∉ cs) :
    splitChars sep cs = [cs] := by
  induction cs with
  | nil => rfl
  | cons c rest ih =>
    have hc : ¬ c = sep := fun e => h (e ▸ List.mem_cons_self)
    rw [splitChars, if_neg hc, ih fun hr => h (List.mem_cons_of_mem c hr)]

theorem splitChars_append {sep : Char} {cs : List Char} (h : sep ∉ cs) (more : List Char) :
    splitChars sep (cs ++ sep :: more) = cs :: splitChars sep more := by
  induction cs with
  | nil => simp [splitChars]
  | cons c rest ih =>
    have hc : ¬ c = sep := fun e => h (e ▸ List.mem_cons_self)
    rw [List.cons_append, splitChars, if_neg hc, ih fun hr => h (List.mem_cons_of_mem c hr)]

/-- The parts before a separator and those behind it do not depend on each other. -/
theorem splitChars_append_sep (sep : Char) (cs more : List Char) :
    splitChars sep (cs ++ sep :: more) = splitChars sep cs ++ splitChars sep more := by
  induction cs with
  | nil => simp [splitChars]
  | cons c rest ih =>
    by_cases hc : c = sep
    · simp only [List.cons_append, splitChars, hc, if_true, ih]
    · simp only [List.cons_append, splitChars, hc, if_false, ih]
      cases hs : splitChars sep rest with
      | nil => exact absurd hs (splitChars_ne_nil sep rest)
      | cons part parts => rfl

theorem notMem_of_mem_splitChars {sep : Char} {cs part : List Char}
    (h : part ∈ splitChars sep cs) : sep ∉ part := by
  induction cs generalizing part with
  | nil => simp_all [splitChars]
  | cons c rest ih =>
    by_cases hc : c = sep
    · simp only [splitChars, hc, if_true, List.mem_cons] at h
      obtain rfl | h := h
      · exact List.not_mem_nil
      · exact ih h
    · simp only [splitChars, hc, if_false] at h
      cases hs : splitChars sep rest with
      | nil => exact absurd hs (splitChars_ne_nil sep rest)
      | cons first parts =>
        rw [hs] at h ih
        obtain rfl | h := List.mem_cons.mp h
        · have hfirst := ih List.mem_cons_self
          simpa [Ne.symm hc] using hfirst
        · exact ih (List.mem_cons_of_mem first h)

/-- The parts hold nothing but characters of the text. -/
theorem mem_of_mem_splitChars {sep c : Char} {cs part : List Char}
    (h : part ∈ splitChars sep cs) (hc : c ∈ part) : c ∈ cs := by
  induction cs generalizing part with
  | nil =>
    rw [List.mem_singleton.mp h] at hc
    exact hc
  | cons d rest ih =>
    by_cases hd : d = sep
    · simp only [splitChars, hd, if_true, List.mem_cons] at h
      obtain rfl | h := h
      · cases hc
      · exact List.mem_cons_of_mem d (ih h hc)
    · simp only [splitChars, hd, if_false] at h
      cases hs : splitChars sep rest with
      | nil => exact absurd hs (splitChars_ne_nil sep rest)
      | cons first parts =>
        rw [hs] at h ih
        obtain rfl | h := List.mem_cons.mp h
        · obtain rfl | hc := List.mem_cons.mp hc
          · exact List.mem_cons_self
          · exact List.mem_cons_of_mem d (ih List.mem_cons_self hc)
        · exact List.mem_cons_of_mem d (ih (List.mem_cons_of_mem first h) hc)

/-- Splitting what was joined gives the parts back, if none of them holds the separator. -/
theorem splitChars_joinChars {sep : Char} {parts : List (List Char)} (hne : parts ≠ [])
    (h : ∀ part ∈ parts, sep ∉ part) : splitChars sep (joinChars sep parts) = parts := by
  induction parts with
  | nil => exact absurd rfl hne
  | cons part rest ih =>
    have hpart := h part List.mem_cons_self
    cases rest with
    | nil => exact splitChars_of_notMem hpart
    | cons second others =>
      have hrest := ih (List.cons_ne_nil second others) fun other ho =>
        h other (List.mem_cons_of_mem part ho)
      rw [joinChars, splitChars_append hpart, hrest]
      nofun

/-- Splitting what was joined gives the parts back, if none of them holds the separator. -/
theorem split_join {sep : Char} {parts : List String} (hne : parts ≠ [])
    (h : ∀ part ∈ parts, sep ∉ part.toList) : split sep (join sep parts) = parts := by
  have hparts : ∀ part ∈ parts.map String.toList, sep ∉ part := by
    intro part hpart
    obtain ⟨text, ht, rfl⟩ := List.mem_map.mp hpart
    exact h text ht
  rw [split, join, String.toList_ofList, splitChars_joinChars (by simpa using hne) hparts,
    List.map_map]
  simp [Function.comp_def]

/-- Only the same parts are joined to the same text, if none of them holds the separator. -/
theorem join_inj {sep : Char} {a b : List String} (hane : a ≠ []) (hbne : b ≠ [])
    (ha : ∀ part ∈ a, sep ∉ part.toList) (hb : ∀ part ∈ b, sep ∉ part.toList)
    (h : join sep a = join sep b) : a = b := by
  rw [← split_join hane ha, h, split_join hbne hb]

/-- A text is split at each of its separators on its own. -/
theorem split_append (sep : Char) (a b : String) :
    split sep (a ++ String.singleton sep ++ b) = split sep a ++ split sep b := by
  simp [split, splitChars_append_sep]

theorem split_of_notMem {sep : Char} {s : String} (h : sep ∉ s.toList) : split sep s = [s] := by
  simp [split, splitChars_of_notMem h]

/-- No part holds the separator. -/
theorem notMem_of_mem_split {sep : Char} {s part : String} (h : part ∈ split sep s) :
    sep ∉ part.toList := by
  obtain ⟨cs, hcs, rfl⟩ := List.mem_map.mp h
  rw [String.toList_ofList]
  exact notMem_of_mem_splitChars hcs

theorem split_ne_nil (sep : Char) (s : String) : split sep s ≠ [] := by
  simp [split, splitChars_ne_nil]

/-- Leading parts may be joined first. -/
theorem joinChars_append (sep : Char) {front : List (List Char)} (back : List (List Char))
    (h : front ≠ []) :
    joinChars sep (front ++ back) = joinChars sep (joinChars sep front :: back) := by
  induction front with
  | nil => exact absurd rfl h
  | cons part rest ih =>
    cases rest with
    | nil => rfl
    | cons second others =>
      have hrest := ih (List.cons_ne_nil second others)
      cases back with
      | nil => simp [joinChars]
      | cons first more => simpa [joinChars] using hrest

theorem join_append (sep : Char) {front : List String} (back : List String) (h : front ≠ []) :
    join sep (front ++ back) = join sep (join sep front :: back) := by
  have hmap : front.map String.toList ≠ [] := by simpa using h
  simp only [join, List.map_append, List.map_cons, String.toList_ofList]
  rw [joinChars_append sep _ hmap]

theorem join_cons (sep : Char) (part : String) {rest : List String} (h : rest ≠ []) :
    join sep (part :: rest) = part ++ String.singleton sep ++ join sep rest := by
  cases rest with
  | nil => exact absurd rfl h
  | cons second others =>
    apply String.toList_injective
    simp [join, joinChars]

/-- A joined text ends as its last part does. -/
theorem isSuffix_join_concat (sep : Char) (front : List String) (last : String) :
    last.toList <:+ (join sep (front ++ [last])).toList := by
  cases front with
  | nil => simp [join, joinChars]
  | cons first rest =>
    rw [join_append sep [last] (List.cons_ne_nil first rest),
      join_cons sep _ (List.cons_ne_nil last [])]
    refine ⟨(join sep (first :: rest)).toList ++ [sep], ?_⟩
    simp [join, joinChars]

/-- The words of a text: its non-empty parts between spaces and line ends. -/
def words (s : String) : List String :=
  ((splitChars ' ' (s.toList.map fun c => if c = '\n' then ' ' else c)).filter
    (fun part => !part.isEmpty)).map String.ofList

/-- The texts with `glue` between two neighbours. -/
def glue (glue : String) : List String → String
  | [] => ""
  | [part] => part
  | part :: rest => part ++ glue ++ Text.glue glue rest

end CoverAudit.Text
