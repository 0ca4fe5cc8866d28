import CoverAudit.Proofs.Symbol.LocalBase
import Mathlib.Data.List.Basic

/-!
# The longest alias wins

A step of resolution looks through the leading components of a name, from all of them down to the
first one, for some that make up an alias. Seen as texts, these are the leading parts of the name,
and the first alias that is found is the longest one.

* `append_mem_cuts`, `pairwise_cuts`: the ways to cut a list, and their order.
* `exists_cut_of_leadingPart`: each leading part of a name is one of its cuts.
* `Replaced`: a name with something else in the place of a leading part.
* `expandAlias_longest`: what a step of resolution makes of a name.
-/

namespace CoverAudit.SymbolIndex

/-! ## Cuts -/

theorem append_mem_cuts {α : Type} {front : List α} (h : front ≠ []) (back : List α) :
    (front, back) ∈ cuts (front ++ back) := by
  induction front with
  | nil => exact absurd rfl h
  | cons item rest ih =>
    rw [List.cons_append, cuts, List.mem_append]
    cases rest with
    | nil => exact .inr List.mem_cons_self
    | cons second others =>
      exact .inl (List.mem_map.mpr ⟨_, ih (List.cons_ne_nil second others), rfl⟩)

/-- The longer the first part, the earlier a cut comes. -/
theorem pairwise_cuts {α : Type} (items : List α) :
    (cuts items).Pairwise fun first second => second.1.length < first.1.length := by
  induction items with
  | nil => exact .nil
  | cons item rest ih =>
    rw [cuts, List.pairwise_append, List.pairwise_map]
    refine ⟨ih.imp Nat.succ_lt_succ, List.pairwise_singleton _ _, ?_⟩
    intro first hfirst second hsecond
    obtain ⟨cut, hcut, rfl⟩ := List.mem_map.mp hfirst
    rw [List.mem_singleton.mp hsecond]
    exact Nat.succ_lt_succ (List.length_pos_iff.mpr (mem_cuts hcut).1)

variable {index : SymbolIndex} {key other name target result : String}

/-! ## Leading parts -/

theorem LeadingPart.begins (h : LeadingPart key name) : key.toList <+: name.toList := by
  obtain rfl | ⟨rest, rfl⟩ := h
  · exact List.prefix_rfl
  · exact ⟨'.' :: rest.toList, by simp⟩

theorem LeadingPart.length_le (h : LeadingPart key name) : key.length ≤ name.length :=
  h.begins.length_le

/-- Leading parts of a name are told apart by their lengths. -/
theorem LeadingPart.eq_of_length_le (h : LeadingPart key name) (ho : LeadingPart other name)
    (hle : key.length ≤ other.length) (hge : other.length ≤ key.length) : key = other := by
  have hbegins := List.prefix_of_prefix_length_le h.begins ho.begins hle
  exact String.toList_injective (hbegins.eq_of_length (Nat.le_antisymm hle hge))

/-- The components of a leading part begin those of the name. -/
theorem exists_cut_of_leadingPart (h : LeadingPart key name) :
    ∃ cut ∈ cuts (Text.split '.' name), Text.join '.' cut.1 = key := by
  obtain rfl | ⟨rest, rfl⟩ := h
  · refine ⟨(Text.split '.' name, []), ?_, Text.join_split '.' name⟩
    simpa using append_mem_cuts (Text.split_ne_nil '.' name) []
  · have hsplit : Text.split '.' (key ++ "." ++ rest) = _ := Text.split_append '.' key rest
    refine ⟨(Text.split '.' key, Text.split '.' rest), ?_, Text.join_split '.' key⟩
    rw [hsplit]
    exact append_mem_cuts (Text.split_ne_nil '.' key) _

/-- A cut with a first part that is not longer makes a leading part that is not longer. -/
theorem length_join_le {a b : List String × List String} {items : List String}
    (ha : a ∈ cuts items) (hb : b ∈ cuts items) (hle : a.1.length ≤ b.1.length) :
    (Text.join '.' a.1).length ≤ (Text.join '.' b.1).length := by
  obtain ⟨hne, happ⟩ := mem_cuts ha
  have hbegins : a.1 <+: b.1 := by
    refine List.prefix_of_prefix_length_le ⟨a.2, happ⟩ ⟨b.2, ?_⟩ hle
    exact (mem_cuts hb).2
  obtain ⟨more, hmore⟩ := hbegins
  rw [← hmore, Text.join_append '.' more hne]
  exact (leadingPart_join_cons _ more).length_le

/-! ## Replaced parts -/

/-- `result` is `name` with `target` in the place of its leading part `key`. -/
def Replaced (key target name result : String) : Prop :=
  (name = key ∧ result = target) ∨
    ∃ rest, name = key ++ "." ++ rest ∧ result = target ++ "." ++ rest

theorem Replaced.leadingPart (h : Replaced key target name result) : LeadingPart key name := by
  obtain ⟨hname, -⟩ | ⟨rest, hname, -⟩ := h
  · exact .inl hname
  · exact .inr ⟨rest, hname⟩

theorem ne_append_dot (key rest : String) : key ≠ key ++ "." ++ rest := by
  intro h
  have hlength := congrArg String.length h
  have hdot : ".".length = 1 := rfl
  rw [String.length_append, String.length_append, hdot] at hlength
  omega

theorem Replaced.unique {first second : String} (h : Replaced key target name first)
    (ho : Replaced key target name second) : first = second := by
  obtain ⟨rfl, rfl⟩ | ⟨rest, rfl, rfl⟩ := h
  · obtain ⟨-, rfl⟩ | ⟨rest, hname, -⟩ := ho
    · rfl
    · exact absurd hname (ne_append_dot name rest)
  · obtain ⟨hname, -⟩ | ⟨more, hname, rfl⟩ := ho
    · exact absurd hname.symm (ne_append_dot key rest)
    · have hrest : rest = more := by
        apply String.toList_injective
        simpa using congrArg String.toList hname
      rw [hrest]

/-- Putting something in front of the second part of a cut replaces the first part. -/
theorem replaced_of_mem_cuts {front back : List String}
    (h : (front, back) ∈ cuts (Text.split '.' name)) (target : String) :
    Replaced (Text.join '.' front) target name (Text.join '.' (target :: back)) := by
  obtain ⟨hne, happ⟩ := mem_cuts h
  have hname : name = Text.join '.' (Text.join '.' front :: back) := by
    rw [← Text.join_append '.' back hne, happ, Text.join_split]
  have hsingle (text : String) : Text.join '.' [text] = text := String.ofList_toList
  cases back with
  | nil => exact .inl ⟨by rw [hname, hsingle], hsingle target⟩
  | cons component more =>
    have hback := List.cons_ne_nil component more
    exact .inr ⟨Text.join '.' (component :: more), hname.trans (Text.join_cons '.' _ hback),
      Text.join_cons '.' target hback⟩

/-! ## Steps of resolution -/

/-- No alias of the index that is a leading part of `name` is longer than `key`. -/
def Longest (index : SymbolIndex) (key name : String) : Prop :=
  ∀ other ∈ index.aliases.keys, LeadingPart other name → other.length ≤ key.length

theorem leadingPart_of_mem_cuts {cut : List String × List String}
    (h : cut ∈ cuts (Text.split '.' name)) : LeadingPart (Text.join '.' cut.1) name :=
  (replaced_of_mem_cuts h "").leadingPart

theorem expandAlias_eq_none_iff :
    index.expandAlias name = none ↔ ∀ key ∈ index.aliases.keys, ¬ LeadingPart key name := by
  rw [expandAlias, List.findSome?_eq_none_iff]
  constructor
  · intro h key hkey hlead
    obtain ⟨cut, hcut, rfl⟩ := exists_cut_of_leadingPart hlead
    have hget := Option.map_eq_none_iff.mp (h cut hcut)
    rw [Table.mem_keys_iff, hget] at hkey
    cases hkey
  · intro h cut hcut
    rw [Option.map_eq_none_iff, ← Option.not_isSome_iff_eq_none, ← Table.mem_keys_iff]
    exact fun hkey => h _ hkey (leadingPart_of_mem_cuts hcut)

/-- The first cut that makes an alias is applied. -/
theorem exists_cut_of_expandAlias (h : index.expandAlias name = some result) :
    ∃ before cut behind target, cuts (Text.split '.' name) = before ++ cut :: behind ∧
      (∀ earlier ∈ before, Text.join '.' earlier.1 ∉ index.aliases.keys) ∧
      index.aliases.get? (Text.join '.' cut.1) = some target ∧
      result = Text.join '.' (target :: cut.2) := by
  obtain ⟨before, cut, behind, hcuts, hsome, hnone⟩ := List.findSome?_eq_some_iff.mp h
  obtain ⟨target, hget, hresult⟩ := Option.map_eq_some_iff.mp hsome
  refine ⟨before, cut, behind, target, hcuts, fun earlier hearlier => ?_, hget, hresult.symm⟩
  rw [Table.mem_keys_iff, Option.map_eq_none_iff.mp (hnone earlier hearlier)]
  nofun

/-- The alias that a step of resolution applies is a longest one. -/
theorem exists_longest_of_expandAlias (h : index.expandAlias name = some result) :
    ∃ key target, index.aliases.get? key = some target ∧ index.Longest key name ∧
      Replaced key target name result := by
  obtain ⟨before, cut, behind, target, hcuts, hno, hget, rfl⟩ := exists_cut_of_expandAlias h
  have hmem : cut ∈ cuts (Text.split '.' name) := by simp [hcuts]
  refine ⟨Text.join '.' cut.1, target, hget, ?_, replaced_of_mem_cuts hmem target⟩
  intro other hother hlead
  obtain ⟨choice, hchoice, rfl⟩ := exists_cut_of_leadingPart hlead
  refine length_join_le hchoice hmem ?_
  -- A cut before the applied one makes no alias, and one behind it is shorter.
  have hordered := pairwise_cuts (Text.split '.' name)
  rw [hcuts] at hchoice hordered
  obtain hbefore | hbehind := List.mem_append.mp hchoice
  · exact absurd hother (hno choice hbefore)
  · obtain rfl | hbehind := List.mem_cons.mp hbehind
    · exact Nat.le_refl _
    · obtain ⟨-, hordered, -⟩ := List.pairwise_append.mp hordered
      exact Nat.le_of_lt (List.rel_of_pairwise_cons hordered hbehind)

theorem expandAlias_eq_some_iff :
    index.expandAlias name = some result ↔
      ∃ key target, index.aliases.get? key = some target ∧ index.Longest key name ∧
        Replaced key target name result := by
  refine ⟨exists_longest_of_expandAlias, ?_⟩
  rintro ⟨key, target, hget, hlongest, hreplaced⟩
  have hkey : key ∈ index.aliases.keys := Table.mem_keys_of_get? hget
  cases hother : index.expandAlias name with
  | none => exact absurd hreplaced.leadingPart (expandAlias_eq_none_iff.mp hother key hkey)
  | some found =>
    obtain ⟨other, replacement, hget', hlongest', hreplaced'⟩ :=
      exists_longest_of_expandAlias hother
    have hkey' : other ∈ index.aliases.keys := Table.mem_keys_of_get? hget'
    -- Two longest aliases are the same leading part.
    obtain rfl := hreplaced.leadingPart.eq_of_length_le hreplaced'.leadingPart
      (hlongest' key hkey hreplaced.leadingPart) (hlongest other hkey' hreplaced'.leadingPart)
    rw [hget] at hget'
    cases hget'
    rw [hreplaced.unique hreplaced']

/-- Only the aliases of leading parts matter to a name. -/
theorem expandAlias_congr {first second : SymbolIndex}
    (h : ∀ key, LeadingPart key name → first.aliases.get? key = second.aliases.get? key) :
    first.expandAlias name = second.expandAlias name := by
  rw [expandAlias, expandAlias, ← List.head?_filterMap, ← List.head?_filterMap]
  congr 1
  refine List.filterMap_congr fun cut hcut => ?_
  exact congrArg (Option.map _) (h _ (leadingPart_of_mem_cuts hcut))

/-- A part of a component is no leading part. -/
theorem not_leadingPart_of_component {c : Char} (hc : c ≠ '.') (key rest : String) :
    ¬ LeadingPart key (key ++ String.singleton c ++ rest) := by
  rintro (hname | ⟨more, hname⟩)
  · simpa using congrArg String.toList hname
  · have hlist : c :: rest.toList = '.' :: more.toList := by
      simpa using congrArg String.toList hname
    exact hc (List.cons.inj hlist).1

/-- **The longest alias wins.** For any aliases and any name, a step of resolution gives nothing
exactly if no alias is a leading part of the name. Otherwise the longest one is replaced by its
target, and what stands behind it stays. An alias that ends within a component of the name, as
`shop.util` does in `shop.utility.X`, has no effect on it. -/
theorem expandAlias_longest (index : SymbolIndex) (name : String) :
    (index.expandAlias name = none ↔ ∀ key ∈ index.aliases.keys, ¬ LeadingPart key name) ∧
    (∀ result, index.expandAlias name = some result ↔
      ∃ key target, index.aliases.get? key = some target ∧
        (∀ other ∈ index.aliases.keys, LeadingPart other name → other.length ≤ key.length) ∧
        ((name = key ∧ result = target) ∨
          ∃ rest, name = key ++ "." ++ rest ∧ result = target ++ "." ++ rest)) ∧
    ∀ key target rest c, c ≠ '.' → name = key ++ String.singleton c ++ rest →
      (index.addAlias key target).expandAlias name = index.expandAlias name := by
  refine ⟨expandAlias_eq_none_iff, fun _ => expandAlias_eq_some_iff, ?_⟩
  rintro key target rest c hc rfl
  refine expandAlias_congr fun other hlead => ?_
  have hne : other ≠ key := by
    rintro rfl
    exact not_leadingPart_of_component hc other rest hlead
  show (index.aliases.insert key target).get? other = _
  rw [Table.get?_insert, if_neg hne]

/-- Of two leading parts the longer one is replaced, and the one that ends within a component is
none. -/
theorem expandAlias_longest_of_shop :
    let index := ((SymbolIndex.empty []).addAlias "shop" "store").addAlias "shop.util" "tools"
    ('i' ≠ '.' ∧ "shop.utility.X" = "shop.util" ++ String.singleton 'i' ++ "ty.X") ∧
      (index.addAlias "shop.util" "tools").expandAlias "shop.utility.X" =
        index.expandAlias "shop.utility.X" ∧
      index.expandAlias "shop.util.X" = some "tools.X" := by
  intro index
  have hname : "shop.utility.X" = "shop.util" ++ String.singleton 'i' ++ "ty.X" := by decide
  obtain ⟨-, hsome, -⟩ := expandAlias_longest index "shop.util.X"
  obtain ⟨-, -, hwithin⟩ := expandAlias_longest index "shop.utility.X"
  refine ⟨⟨by decide, hname⟩, hwithin "shop.util" "tools" "ty.X" 'i' (by decide) hname,
    (hsome _).mpr ⟨"shop.util", "tools", by decide, by decide, .inr ⟨"X", by decide, by decide⟩⟩⟩

end CoverAudit.SymbolIndex
