import CoverAudit.Symbol.Member

/-!
# Chains of aliases

A name that is not settled stands for what its alias makes of it, and so on along a chain. Chains
may pass through any names, run in circles and grow without end.

* `Settled`, `Hops`: where a chain stops, and the steps along it.
* `Hops.resolveWithin_eq`: resolution with enough steps finds the end of a chain.
* `resolveWithin_not_settled`: without an end in reach, resolution stops at a name that is no
  symbol.
* `Hops.rest`: every name of a chain is on the way to its end, so all of them have one canonical
  name (`Hops.canonical_of_chain`). This carries over to all queries (`lookup_congr`,
  `functionExists_of_dot`).
-/

namespace CoverAudit.SymbolIndex

/-- Resolution stops at `name`: it is a class or a function, or no alias changes it. -/
def Settled (index : SymbolIndex) (name : String) : Prop :=
  name ∈ index.types.keys ∨ name ∈ index.functions ∨
    index.expandAlias name = none ∨ index.expandAlias name = some name

instance (index : SymbolIndex) (name : String) : Decidable (index.Settled name) :=
  inferInstanceAs (Decidable (_ ∨ _ ∨ _ ∨ _))

/-- `Hops k name last`: `k` steps lead from `name` to `last`, each from a name that is not
settled. -/
inductive Hops (index : SymbolIndex) : Nat → String → String → Prop
  | zero (name : String) : Hops index 0 name name
  | succ {k : Nat} {name next last : String} (hn : ¬ index.Settled name)
      (he : index.expandAlias name = some next) (h : Hops index k next last) :
      Hops index (k + 1) name last

variable {index : SymbolIndex} {name next last : String}

theorem isSymbol_iff : index.isSymbol name = true ↔ name ∈ index.types.keys ∨
    name ∈ index.functions := by
  unfold isSymbol
  rw [Bool.or_eq_true, List.contains_iff_mem, Table.mem_keys_iff]
  rfl

/-! ## Resolution along a chain -/

theorem resolveWithin_of_settled (hs : index.Settled name) (fuel : Nat) :
    index.resolveWithin fuel name = name := by
  cases fuel with
  | zero => rfl
  | succ fuel =>
    unfold resolveWithin
    split
    · rfl
    · rename_i hsym
      split
      · rfl
      · rename_i target he
        obtain h | h | h | h := hs
        · exact absurd (isSymbol_iff.mpr (.inl h)) hsym
        · exact absurd (isSymbol_iff.mpr (.inr h)) hsym
        · rw [he] at h; cases h
        · rw [he] at h; cases h; rw [if_pos rfl]

theorem exists_hop (hn : ¬ index.Settled name) : ∃ next, index.expandAlias name = some next := by
  cases he : index.expandAlias name with
  | none => exact absurd (.inr (.inr (.inl he))) hn
  | some next => exact ⟨next, rfl⟩

theorem resolveWithin_succ_of_hop (hn : ¬ index.Settled name)
    (he : index.expandAlias name = some next) (fuel : Nat) :
    index.resolveWithin (fuel + 1) name = index.resolveWithin fuel next := by
  have hsym : ¬ index.isSymbol name = true := fun h => hn <| by
    obtain h | h := isSymbol_iff.mp h
    · exact .inl h
    · exact .inr (.inl h)
  have hne : next ≠ name := fun e => hn (.inr (.inr (.inr (e ▸ he))))
  conv => lhs; unfold resolveWithin
  rw [if_neg hsym, he]
  simp only [if_neg hne]

/-- Resolution with enough steps finds the end of a chain. -/
theorem Hops.resolveWithin_eq {k fuel : Nat} (h : index.Hops k name last)
    (hs : index.Settled last) (hk : k ≤ fuel) : index.resolveWithin fuel name = last := by
  induction h generalizing fuel with
  | zero name => exact resolveWithin_of_settled hs fuel
  | succ hn he h ih =>
    obtain ⟨fuel, rfl⟩ : ∃ n, fuel = n + 1 := ⟨fuel - 1, by omega⟩
    rw [resolveWithin_succ_of_hop hn he]
    exact ih hs (by omega)

/-- Without a settled name in reach, resolution stops at a name that is not settled. -/
theorem resolveWithin_not_settled {fuel : Nat}
    (h : ∀ k last, k ≤ fuel → index.Hops k name last → ¬ index.Settled last) :
    ¬ index.Settled (index.resolveWithin fuel name) := by
  induction fuel generalizing name with
  | zero => exact h 0 name (Nat.le_refl _) (.zero name)
  | succ fuel ih =>
    have hn := h 0 name (Nat.zero_le _) (.zero name)
    obtain ⟨next, he⟩ := exists_hop hn
    rw [resolveWithin_succ_of_hop hn he]
    exact ih fun k last hk hops => h (k + 1) last (by omega) (.succ hn he hops)

/-- Every name of a chain is on the way to its end. -/
theorem Hops.rest {i k : Nat} {a : String} (ha : index.Hops i name a)
    (h : index.Hops k name last) (hs : index.Settled last) :
    ∃ j, i + j = k ∧ index.Hops j a last := by
  induction ha generalizing k with
  | zero name => exact ⟨k, by omega, h⟩
  | succ hn he ha ih =>
    cases h with
    | zero => exact absurd hs hn
    | succ _ he' h =>
      rw [he] at he'
      cases he'
      obtain ⟨j, hj, hops⟩ := ih h
      exact ⟨j, by omega, hops⟩

/-- All names of a chain that is short enough have its end as their canonical name. -/
theorem Hops.canonical_of_chain {i k : Nat} {a : String} (h : index.Hops k name last)
    (hs : index.Settled last) (hk : k ≤ maxHops) (ha : index.Hops i name a) :
    index.canonical a = last := by
  obtain ⟨j, hj, hrest⟩ := ha.rest h hs
  exact hrest.resolveWithin_eq hs (by omega)

/-! ## Queries go by the canonical name -/

theorem lookup_congr {a b : String} (h : index.canonical a = index.canonical b) (ha : a ≠ "")
    (hb : b ≠ "") : index.lookup a = index.lookup b := by
  unfold lookup
  rw [if_neg (mt String.isEmpty_iff.mp ha), if_neg (mt String.isEmpty_iff.mp hb), h]

theorem typeExists_of_lookup_eq {a b : String} (h : index.lookup a = index.lookup b) :
    index.typeExists a = index.typeExists b := by
  unfold typeExists
  rw [h]

theorem isInterface_of_lookup_eq {a b : String} (h : index.lookup a = index.lookup b) :
    index.isInterface a = index.isInterface b := by
  unfold isInterface
  rw [h]

theorem functionExists_of_dot {a : String} (ha : '.' ∈ a.toList) :
    index.functionExists a = index.functions.contains (index.canonical a) := by
  have hne : ¬ a.isEmpty = true := fun e => by
    rw [String.isEmpty_iff.mp e] at ha
    cases ha
  unfold functionExists
  rw [if_neg hne, if_pos (List.contains_iff_mem.mpr ha)]

/-- No alias leads away from the name of a class. -/
theorem lookup_of_get? {name : String} {symbol : TypeSymbol} (hne : name ≠ "")
    (hget : index.types.get? name = some symbol) : index.lookup name = some symbol := by
  have hsettled : index.Settled name := .inl (Table.mem_keys_of_get? hget)
  unfold lookup
  rw [if_neg (mt String.isEmpty_iff.mp hne), canonical, resolveWithin_of_settled hsettled, hget]

/-- No alias leads away from the name of a function. -/
theorem functionExists_of_mem {name : String} (hdot : '.' ∈ name.toList)
    (hmem : name ∈ index.functions) : index.functionExists name = true := by
  have hsettled : index.Settled name := .inr (.inl hmem)
  rw [functionExists_of_dot hdot, canonical, resolveWithin_of_settled hsettled,
    List.contains_iff_mem]
  exact hmem

theorem functionExists_of_component {name : String} (hne : name ≠ "")
    (hdot : '.' ∉ name.toList) :
    index.functionExists name = true ↔ name ∈ index.functionNames := by
  unfold functionExists
  rw [if_neg (mt String.isEmpty_iff.mp hne), if_neg (mt List.contains_iff_mem.mp hdot),
    List.contains_iff_mem]

theorem lookup_eq_none (h : index.canonical name ∉ index.types.keys) :
    index.lookup name = none := by
  rw [Table.mem_keys_iff] at h
  unfold lookup
  split
  · rfl
  · exact Option.not_isSome_iff_eq_none.mp h

theorem lookup_eq_none_of_not_settled (h : ¬ index.Settled (index.canonical name)) :
    index.lookup name = none :=
  lookup_eq_none fun hk => h (.inl hk)

/-! ## Aliases are transparent -/

/-- **Alias transparency.** Where a chain from `name` reaches a settled name within 20 steps, that
name is the canonical one of every name of the chain; canonical names do not change any more; and
all names of the chain get the same answers, leaving out the empty name, which stands for nothing,
and for functions the names without a dot, which are not resolved. Where it reaches none within 20
steps, `name` stands for no class and, with a dot, for no function. -/
theorem alias_chain_transparent (index : SymbolIndex) (name : String) :
    (∀ k last, k ≤ 20 → index.Hops k name last → index.Settled last →
      (∀ i a, index.Hops i name a →
        index.canonical a = last ∧ index.canonical (index.canonical a) = index.canonical a) ∧
      ∀ i j a b, index.Hops i name a → index.Hops j name b →
        (a ≠ "" → b ≠ "" →
          index.typeExists a = index.typeExists b ∧ index.isInterface a = index.isInterface b ∧
          ∀ inspect member,
            index.findMemberBy inspect a member = index.findMemberBy inspect b member) ∧
        ('.' ∈ a.toList → '.' ∈ b.toList → index.functionExists a = index.functionExists b)) ∧
    ((∀ k last, k ≤ 20 → index.Hops k name last → ¬ index.Settled last) →
      index.typeExists name = false ∧ index.isInterface name = false ∧
      (∀ inspect member, index.findMemberBy inspect name member = none) ∧
      ('.' ∈ name.toList → index.functionExists name = false)) := by
  refine ⟨fun k last hk h hs => ?_, fun h => ?_⟩
  · have hcan : ∀ {i a}, index.Hops i name a → index.canonical a = last :=
      fun ha => h.canonical_of_chain hs hk ha
    refine ⟨fun i a ha => ⟨hcan ha, ?_⟩,
      fun i j a b ha hb => ⟨fun hae hbe => ?_, fun had hbd => ?_⟩⟩
    · rw [hcan ha]
      exact resolveWithin_of_settled hs maxHops
    · have hl : index.lookup a = index.lookup b :=
        lookup_congr ((hcan ha).trans (hcan hb).symm) hae hbe
      refine ⟨typeExists_of_lookup_eq hl, isInterface_of_lookup_eq hl, fun inspect member => ?_⟩
      unfold findMemberBy
      rw [hl]
    · rw [functionExists_of_dot had, functionExists_of_dot hbd, hcan ha, hcan hb]
  · have hn : ¬ index.Settled (index.canonical name) := resolveWithin_not_settled h
    have hl := lookup_eq_none_of_not_settled hn
    refine ⟨by unfold typeExists; rw [hl], by unfold isInterface; rw [hl], fun inspect member => ?_,
      fun hd => ?_⟩
    · unfold findMemberBy
      rw [hl, Option.map_none]
    · rw [functionExists_of_dot hd]
      exact Bool.eq_false_iff.mpr fun e => hn (.inr (.inl (List.contains_iff_mem.mp e)))

/-- A chain of two steps to a class, and one that runs in a circle. -/
theorem alias_chain_to_class_and_circle :
    let index := (((((empty []).addType { name := "shop.widgets.Widget" }).addAlias "shop.Widget"
      "shop.widgets.Widget").addAlias "api" "shop").addAlias "left" "right").addAlias "right" "left"
    (index.Hops 2 "api.Widget" "shop.widgets.Widget" ∧ index.Settled "shop.widgets.Widget" ∧
      index.typeExists "api.Widget" = index.typeExists "shop.Widget") ∧
    ((∀ k last, k ≤ 20 → index.Hops k "left.X" last → ¬ index.Settled last) ∧
      index.typeExists "left.X" = false) := by
  intro index
  have h₁ : index.Hops 1 "api.Widget" "shop.Widget" :=
    .succ (by decide) (by decide) (.zero _)
  have hlast : index.Hops 1 "shop.Widget" "shop.widgets.Widget" :=
    .succ (by decide) (by decide) (.zero _)
  have h₂ : index.Hops 2 "api.Widget" "shop.widgets.Widget" := .succ (by decide) (by decide) hlast
  have hs : index.Settled "shop.widgets.Widget" := by decide
  have hcircle : ∀ k last, k ≤ 20 → index.Hops k "left.X" last → ¬ index.Settled last := by
    have key : ∀ k name last, index.Hops k name last → name = "left.X" ∨ name = "right.X" →
        last = "left.X" ∨ last = "right.X" := by
      intro k name last h
      induction h with
      | zero name => exact id
      | succ hn he h ih =>
        rintro (rfl | rfl)
        · exact ih (.inr (Option.some.inj (he.symm.trans (by decide))))
        · exact ih (.inl (Option.some.inj (he.symm.trans (by decide))))
    intro k last _ h
    obtain rfl | rfl := key k _ last h (.inl rfl) <;> decide
  refine ⟨⟨h₂, hs, ?_⟩, hcircle, ?_⟩
  · obtain ⟨-, hsame⟩ := (alias_chain_transparent index "api.Widget").1 2 _ (by decide) h₂ hs
    exact ((hsame 0 1 _ _ (.zero _) h₁).1 (by decide) (by decide)).1
  · exact ((alias_chain_transparent index "left.X").2 hcircle).1

end CoverAudit.SymbolIndex
