import CoverAudit.Proofs.Symbol.Built
import CoverAudit.Symbol.KnownClass
import CoverAudit.Symbol.Member
import Mathlib.Logic.Relation

/-!
# The search for a member is reachability

A class has a member when a class that it derives from offers it. `Derives` follows bases through
the index, however the base graph is shaped; `Offers` says that a class declares the member, or has
a base outside the index that may have it.

* `Search`: the loop over the work list as a relation, without a bound on its steps. A derivation is
  a run that ends.
* `searchFrom_search`: the bounded loop is a run that ends. Every step lowers the number of classes
  on the work list plus the number of bases of the classes not searched yet (`basesLeft`).
* `Search.sound`, `Search.complete`: a run says yes exactly when a class that the work list leads
  to offers the member. The invariant of the second one is `Searched`.
* `findMemberBy_holds_iff_derives`: a search from a name.
-/

namespace CoverAudit.SymbolIndex

/-- A base of `child` stands for `parent`. -/
def Parent (index : SymbolIndex) (child parent : TypeSymbol) : Prop :=
  ∃ base ∈ child.bases, index.lookup base = some parent

/-- `ancestor` is `symbol` itself, or reached from it through bases. -/
def Derives (index : SymbolIndex) (symbol ancestor : TypeSymbol) : Prop :=
  Relation.ReflTransGen index.Parent symbol ancestor

/-- `symbol` declares the member, or has a base outside the index of which `inspect` does not say
that it lacks the member. -/
def Offers (index : SymbolIndex) (inspect : Inspection) (member : String) (symbol : TypeSymbol) :
    Prop :=
  member ∈ symbol.methods ∨
    ∃ base ∈ symbol.bases, index.lookup base = none ∧
      inspect (index.externalName symbol base) member ≠ some false

/-- The bases of `owner` outside the index about which `inspect` says nothing. -/
def uninspected (index : SymbolIndex) (inspect : Inspection) (member : String)
    (owner : TypeSymbol) : List String :=
  owner.bases.filter fun base =>
    index.lookup base = none ∧ inspect (index.externalName owner base) member = none

/-- `Search stack seen unknown result`: the loop that starts with the classes on `stack`, those
already searched and the bases that could not be inspected ends with `result`. -/
inductive Search (index : SymbolIndex) (inspect : Inspection) (member : String) :
    List TypeSymbol → List String → List String → MemberSearch → Prop
  | absent (seen : List String) : Search index inspect member [] seen [] .absent
  | undecided (seen : List String) {unknown : List String} (hu : unknown ≠ []) :
      Search index inspect member [] seen unknown (.undecided unknown)
  | skip {current : TypeSymbol} {stack : List TypeSymbol} {seen unknown : List String}
      {result : MemberSearch} (hs : current.name ∈ seen)
      (h : Search index inspect member stack seen unknown result) :
      Search index inspect member (current :: stack) seen unknown result
  | declared {current : TypeSymbol} {stack : List TypeSymbol} {seen unknown : List String}
      (hs : current.name ∉ seen) (hm : member ∈ current.methods) :
      Search index inspect member (current :: stack) seen unknown .present
  | outside {current : TypeSymbol} {stack : List TypeSymbol} {seen unknown : List String}
      {base : String} (hs : current.name ∉ seen) (hm : member ∉ current.methods)
      (hb : base ∈ current.bases) (hl : index.lookup base = none)
      (hi : inspect (index.externalName current base) member = some true) :
      Search index inspect member (current :: stack) seen unknown .present
  | enter {current : TypeSymbol} {stack : List TypeSymbol} {seen unknown : List String}
      {result : MemberSearch} (hs : current.name ∉ seen) (hm : member ∉ current.methods)
      (hb : ∀ base ∈ current.bases, index.lookup base = none →
        inspect (index.externalName current base) member ≠ some true)
      (h : Search index inspect member ((current.bases.filterMap index.lookup).reverse ++ stack)
        (current.name :: seen) (unknown ++ index.uninspected inspect member current) result) :
      Search index inspect member (current :: stack) seen unknown result

variable {index : SymbolIndex} {inspect : Inspection} {member : String}

/-! ## The bases of one class -/

theorem inspectBases_eq_none {owner : TypeSymbol} {bases : List String}
    (h : index.inspectBases inspect member owner bases = none) :
    ∃ base ∈ bases, index.lookup base = none ∧
      inspect (index.externalName owner base) member = some true := by
  induction bases with
  | nil => simp [inspectBases] at h
  | cons base rest ih =>
    have lift : (∃ b ∈ rest, index.lookup b = none ∧
        inspect (index.externalName owner b) member = some true) →
        ∃ b ∈ base :: rest, index.lookup b = none ∧
          inspect (index.externalName owner b) member = some true :=
      fun ⟨b, hb, hp⟩ => ⟨b, List.mem_cons_of_mem _ hb, hp⟩
    unfold inspectBases at h
    split at h
    · exact lift (ih (Option.map_eq_none_iff.mp h))
    · rename_i hl
      split at h
      · rename_i hi
        exact ⟨base, List.mem_cons_self, hl, hi⟩
      · exact lift (ih h)
      · exact lift (ih (Option.map_eq_none_iff.mp h))

/-- What the bases of a class contribute when none outside the index has the member. -/
theorem inspectBases_eq_some {owner : TypeSymbol} {bases : List String}
    {found : List TypeSymbol × List String}
    (h : index.inspectBases inspect member owner bases = some found) :
    found.1 = bases.filterMap index.lookup ∧
      found.2 = bases.filter (fun base => index.lookup base = none ∧
        inspect (index.externalName owner base) member = none) ∧
      ∀ base ∈ bases, index.lookup base = none →
        inspect (index.externalName owner base) member ≠ some true := by
  induction bases generalizing found with
  | nil => cases h; simp
  | cons base rest ih =>
    unfold inspectBases at h
    split at h
    · rename_i parent hl
      obtain ⟨inner, hr, rfl⟩ := Option.map_eq_some_iff.mp h
      obtain ⟨hp, hu, ht⟩ := ih hr
      refine ⟨by simp [hl, hp], by simp [hl, hu], List.forall_mem_cons.mpr ⟨fun e => ?_, ht⟩⟩
      rw [hl] at e
      cases e
    · rename_i hl
      split at h
      · cases h
      · rename_i hi
        obtain ⟨hp, hu, ht⟩ := ih h
        refine ⟨by simp [hl, hp], by simp [hl, hi, hu], List.forall_mem_cons.mpr ⟨fun _ => ?_, ht⟩⟩
        simp [hi]
      · rename_i hi
        obtain ⟨inner, hr, rfl⟩ := Option.map_eq_some_iff.mp h
        obtain ⟨hp, hu, ht⟩ := ih hr
        refine ⟨by simp [hl, hp], by simp [hl, hi, hu], List.forall_mem_cons.mpr ⟨fun _ => ?_, ht⟩⟩
        simp [hi]

/-- The classes that replace a class on the work list are in the index. -/
theorem KeyedByName.holds_parents (hk : index.KeyedByName) {current : TypeSymbol}
    {stack : List TypeSymbol} (hheld : ∀ symbol ∈ current :: stack, index.Holds symbol) :
    ∀ symbol ∈ (current.bases.filterMap index.lookup).reverse ++ stack, index.Holds symbol := by
  intro symbol h
  rcases List.mem_append.mp h with h | h
  · obtain ⟨base, -, hl⟩ := List.mem_filterMap.mp (List.mem_reverse.mp h)
    exact hk.holds_of_lookup hl
  · exact hheld symbol (List.mem_cons_of_mem _ h)

/-! ## The bounded loop ends by itself -/

/-- The number of bases of the classes that are not searched yet. -/
def basesLeft (seen : List String) (entries : List (String × TypeSymbol)) : Nat :=
  (entries.flatMap fun entry => if entry.2.name ∈ seen then [] else entry.2.bases).length

theorem basesLeft_entry (seen : List String) (entry : String × TypeSymbol)
    (rest : List (String × TypeSymbol)) :
    basesLeft seen (entry :: rest) =
      (if entry.2.name ∈ seen then 0 else entry.2.bases.length) + basesLeft seen rest := by
  unfold basesLeft
  rw [List.flatMap_cons, List.length_append]
  split <;> rfl

/-- A class that is searched stays so. -/
theorem bases_cons_le (name : String) (seen : List String) (symbol : TypeSymbol) :
    (if symbol.name ∈ name :: seen then 0 else symbol.bases.length) ≤
      if symbol.name ∈ seen then 0 else symbol.bases.length := by
  by_cases hs : symbol.name ∈ seen
  · rw [if_pos (List.mem_cons_of_mem _ hs)]
    exact Nat.zero_le _
  · rw [if_neg hs]
    split <;> omega

theorem basesLeft_cons_le (name : String) (seen : List String)
    (entries : List (String × TypeSymbol)) :
    basesLeft (name :: seen) entries ≤ basesLeft seen entries := by
  induction entries with
  | nil => exact Nat.le_refl _
  | cons entry rest ih =>
    rw [basesLeft_entry, basesLeft_entry]
    exact Nat.add_le_add (bases_cons_le name seen entry.2) ih

/-- Searching a class takes its bases away. -/
theorem basesLeft_cons_add_le {symbol : TypeSymbol} {key : String} {seen : List String}
    {entries : List (String × TypeSymbol)} (hmem : (key, symbol) ∈ entries)
    (hs : symbol.name ∉ seen) :
    basesLeft (symbol.name :: seen) entries + symbol.bases.length ≤ basesLeft seen entries := by
  induction entries with
  | nil => cases hmem
  | cons entry rest ih =>
    rw [basesLeft_entry, basesLeft_entry]
    rcases List.mem_cons.mp hmem with rfl | hrest
    · have hle := basesLeft_cons_le symbol.name seen rest
      simp only [List.mem_cons_self, if_true, if_neg hs]
      omega
    · have hle := ih hrest
      have hentry := bases_cons_le symbol.name seen entry.2
      omega

theorem basesLeft_nil (entries : List (String × TypeSymbol)) :
    basesLeft [] entries = (entries.flatMap fun entry => entry.2.bases).length := by
  simp [basesLeft]

theorem search_nil {fuel : Nat} (seen unknown : List String) :
    index.Search inspect member [] seen unknown
      (index.searchFrom inspect member fuel [] seen unknown) := by
  unfold searchFrom
  split
  · rename_i hu
    rw [List.isEmpty_iff.mp hu]
    exact .absent seen
  · rename_i hu
    exact .undecided seen (fun e => hu (List.isEmpty_iff.mpr e))

/-- Enough fuel for the classes on the work list and the bases of those not searched yet: the
bounded loop is a run that ends. -/
theorem searchFrom_search (hk : index.KeyedByName) {fuel : Nat} {stack : List TypeSymbol}
    {seen unknown : List String} (hheld : ∀ symbol ∈ stack, index.Holds symbol)
    (hf : stack.length + basesLeft seen index.types.toList ≤ fuel) :
    index.Search inspect member stack seen unknown
      (index.searchFrom inspect member fuel stack seen unknown) := by
  induction fuel generalizing stack seen unknown with
  | zero =>
    have : stack = [] := List.eq_nil_of_length_eq_zero (by omega)
    subst this
    exact search_nil seen unknown
  | succ fuel ih =>
    cases stack with
    | nil => exact search_nil seen unknown
    | cons current stack =>
      have hcur := hheld current List.mem_cons_self
      rw [List.length_cons] at hf
      unfold searchFrom
      split
      · rename_i hs
        exact .skip (List.contains_iff_mem.mp hs)
          (ih (fun symbol h => hheld symbol (List.mem_cons_of_mem _ h)) (by omega))
      rename_i hs
      have hs : current.name ∉ seen := fun e => hs (List.contains_iff_mem.mpr e)
      split
      · rename_i hm
        exact .declared hs (List.contains_iff_mem.mp hm)
      rename_i hm
      have hm : member ∉ current.methods := fun e => hm (List.contains_iff_mem.mpr e)
      split
      · rename_i hi
        obtain ⟨base, hb, hl, hi⟩ := inspectBases_eq_none hi
        exact .outside hs hm hb hl hi
      · rename_i parents more hi
        obtain ⟨rfl, rfl, ht⟩ := inspectBases_eq_some hi
        refine .enter hs hm ht (ih (hk.holds_parents hheld) ?_)
        have hle := basesLeft_cons_add_le (Table.mem_toList_of_get? hcur) hs
        have hp := List.length_filterMap_le index.lookup current.bases
        rw [List.length_append, List.length_reverse]
        omega

/-! ## What a run says -/

/-- A run that says yes has met a base that could not be inspected, or a class that offers the
member. -/
theorem Search.sound {stack : List TypeSymbol} {seen unknown : List String} {result : MemberSearch}
    (h : index.Search inspect member stack seen unknown result) (hr : result.holds = true) :
    unknown ≠ [] ∨ ∃ start ∈ stack, ∃ symbol, index.Derives start symbol ∧
      index.Offers inspect member symbol := by
  induction h with
  | absent seen => cases hr
  | undecided seen hu => exact .inl hu
  | skip hs h ih =>
    obtain hu | ⟨start, hm, hd⟩ := ih hr
    · exact .inl hu
    · exact .inr ⟨start, List.mem_cons_of_mem _ hm, hd⟩
  | declared hs hm => exact .inr ⟨_, List.mem_cons_self, _, .refl, .inl hm⟩
  | outside hs hm hb hl hi =>
    exact .inr ⟨_, List.mem_cons_self, _, .refl, .inr ⟨_, hb, hl, by simp [hi]⟩⟩
  | @enter current stack seen unknown result hs hm hb h ih =>
    obtain hu | ⟨start, hmem, symbol, hd, ho⟩ := ih hr
    · by_cases hn : unknown = []
      · -- Nothing was unknown before, so a base of `current` is.
        rw [hn, List.nil_append] at hu
        obtain ⟨base, hbase⟩ := List.exists_mem_of_ne_nil _ hu
        obtain ⟨hbase, hp⟩ := List.mem_filter.mp hbase
        obtain ⟨hl, hi⟩ := of_decide_eq_true hp
        exact .inr ⟨_, List.mem_cons_self, _, .refl, .inr ⟨base, hbase, hl, by simp [hi]⟩⟩
      · exact .inl hn
    · rcases List.mem_append.mp hmem with hp | hp
      · obtain ⟨base, hbase, hl⟩ := List.mem_filterMap.mp (List.mem_reverse.mp hp)
        exact .inr ⟨current, List.mem_cons_self, symbol, .head ⟨base, hbase, hl⟩ hd, ho⟩
      · exact .inr ⟨start, List.mem_cons_of_mem _ hp, symbol, hd, ho⟩

/-- A run that says no has met no base that could not be inspected. -/
theorem Search.unknown_eq_nil {stack : List TypeSymbol} {seen unknown : List String}
    {result : MemberSearch} (h : index.Search inspect member stack seen unknown result)
    (hr : result.holds = false) : unknown = [] := by
  induction h with
  | absent seen => rfl
  | undecided seen hu => cases hr
  | skip hs h ih => exact ih hr
  | declared hs hm => cases hr
  | outside hs hm hb hl hi => cases hr
  | enter hs hm hb h ih => exact (List.append_eq_nil_iff.mp (ih hr)).1

/-- What a search knows of the classes already searched: they do not offer the member, and the
classes they derive from are searched or on the work list. -/
def Searched (index : SymbolIndex) (inspect : Inspection) (member : String)
    (stack : List TypeSymbol) (seen : List String) : Prop :=
  ∀ symbol, index.Holds symbol → symbol.name ∈ seen →
    ¬ index.Offers inspect member symbol ∧
      ∀ parent, index.Parent symbol parent → parent.name ∈ seen ∨ parent ∈ stack

theorem Searched.skip {current : TypeSymbol} {stack : List TypeSymbol} {seen : List String}
    (hi : index.Searched inspect member (current :: stack) seen) (hs : current.name ∈ seen) :
    index.Searched inspect member stack seen := by
  intro symbol hh hn
  obtain ⟨ho, hp⟩ := hi symbol hh hn
  refine ⟨ho, fun parent h => ?_⟩
  obtain h | h := hp parent h
  · exact .inl h
  · rcases List.mem_cons.mp h with rfl | h
    · exact .inl hs
    · exact .inr h

theorem Searched.enter {current : TypeSymbol} {stack : List TypeSymbol} {seen : List String}
    (hi : index.Searched inspect member (current :: stack) seen) (hh : index.Holds current)
    (ho : ¬ index.Offers inspect member current) :
    index.Searched inspect member ((current.bases.filterMap index.lookup).reverse ++ stack)
      (current.name :: seen) := by
  intro symbol hheld hn
  rcases List.mem_cons.mp hn with hn | hn
  · obtain rfl := hheld.eq_of_name_eq hh hn
    refine ⟨ho, fun parent ⟨base, hb, hl⟩ => .inr ?_⟩
    exact List.mem_append_left _ (List.mem_reverse.mpr (List.mem_filterMap.mpr ⟨base, hb, hl⟩))
  · obtain ⟨hno, hp⟩ := hi symbol hheld hn
    refine ⟨hno, fun parent h => ?_⟩
    obtain h | h := hp parent h
    · exact .inl (List.mem_cons_of_mem _ h)
    · rcases List.mem_cons.mp h with rfl | h
      · exact .inl List.mem_cons_self
      · exact .inr (List.mem_append_right _ h)

/-- With an empty work list the classes searched are closed under bases, so nothing they derive
from offers the member. -/
theorem Searched.not_offers_of_derives (hk : index.KeyedByName) {seen : List String}
    (hi : index.Searched inspect member [] seen) {symbol ancestor : TypeSymbol}
    (hh : index.Holds symbol) (hn : symbol.name ∈ seen) (hd : index.Derives symbol ancestor) :
    ¬ index.Offers inspect member ancestor := by
  have hclosed : index.Holds ancestor ∧ ancestor.name ∈ seen := by
    induction hd with
    | refl => exact ⟨hh, hn⟩
    | tail _ hp ih =>
      obtain ⟨base, hb, hl⟩ := id hp
      obtain h | h := (hi _ ih.1 ih.2).2 _ hp
      · exact ⟨hk.holds_of_lookup hl, h⟩
      · cases h
  exact (hi ancestor hclosed.1 hclosed.2).1

/-- A run that says no has searched everything that its classes derive from. -/
theorem Search.complete (hk : index.KeyedByName) {stack : List TypeSymbol}
    {seen unknown : List String} {result : MemberSearch}
    (h : index.Search inspect member stack seen unknown result) (hr : result.holds = false)
    (hheld : ∀ symbol ∈ stack, index.Holds symbol)
    (hi : index.Searched inspect member stack seen) {symbol ancestor : TypeSymbol}
    (hh : index.Holds symbol) (hs : symbol.name ∈ seen ∨ symbol ∈ stack)
    (hd : index.Derives symbol ancestor) : ¬ index.Offers inspect member ancestor := by
  induction h with
  | absent seen =>
    obtain hs | hs := hs
    · exact hi.not_offers_of_derives hk hh hs hd
    · cases hs
  | undecided seen hu => cases hr
  | skip hseen h ih =>
    refine ih hr (fun s h => hheld s (List.mem_cons_of_mem _ h)) (hi.skip hseen) ?_
    obtain hs | hs := hs
    · exact .inl hs
    · rcases List.mem_cons.mp hs with rfl | hs
      · exact .inl hseen
      · exact .inr hs
  | declared hs hm => cases hr
  | outside hs hm hb hl hi => cases hr
  | @enter current stack seen unknown result hseen hm hb h ih =>
    have hcur := hheld current List.mem_cons_self
    have hnone := (List.append_eq_nil_iff.mp (h.unknown_eq_nil hr)).2
    have ho : ¬ index.Offers inspect member current := by
      rintro (hdecl | ⟨base, hbase, hl, hi⟩)
      · exact hm hdecl
      · cases hv : inspect (index.externalName current base) member with
        | none =>
          have : base ∈ index.uninspected inspect member current :=
            List.mem_filter.mpr ⟨hbase, decide_eq_true ⟨hl, hv⟩⟩
          rw [hnone] at this
          cases this
        | some answer =>
          cases answer
          · exact hi hv
          · exact hb base hbase hl hv
    refine ih hr (hk.holds_parents hheld) (hi.enter hcur ho) ?_
    obtain hs | hs := hs
    · exact .inl (List.mem_cons_of_mem _ hs)
    · rcases List.mem_cons.mp hs with rfl | hs
      · exact .inl List.mem_cons_self
      · exact .inr (List.mem_append_right _ hs)

/-- A search that starts at one class of the index ends, and says yes exactly when that class
derives from one that offers the member. -/
theorem searchMember_holds_iff (hk : index.KeyedByName) {start : TypeSymbol}
    (hh : index.Holds start) :
    index.Search inspect member [start] [] [] (index.searchMember inspect start member) ∧
      ((index.searchMember inspect start member).holds = true ↔
        ∃ symbol, index.Derives start symbol ∧ index.Offers inspect member symbol) := by
  have hheld : ∀ symbol ∈ [start], index.Holds symbol := by simpa using hh
  have hrun : index.Search inspect member [start] [] []
      (index.searchMember inspect start member) := by
    refine searchFrom_search hk hheld ?_
    rw [basesLeft_nil]
    unfold searchBound
    simp only [List.length_singleton]
    omega
  refine ⟨hrun, fun h => ?_, fun ⟨symbol, hd, ho⟩ => ?_⟩
  · obtain hu | ⟨s, hs, hd⟩ := hrun.sound h
    · exact absurd rfl hu
    · rwa [List.mem_singleton.mp hs] at hd
  · have hsearched : index.Searched inspect member [start] [] := fun _ _ hn => by cases hn
    cases hr : (index.searchMember inspect start member).holds with
    | true => rfl
    | false => exact absurd ho (hrun.complete hk hr hheld hsearched hh (.inr List.mem_cons_self) hd)

/-- **Member look-up is reachability.** In an index that can be built, with any knowledge about the
classes outside it: the search for a member fails exactly when the name stands for no class. When
it stands for one, the loop from this class ends, and the member is taken to exist exactly when the
class derives from one that offers it. -/
theorem findMemberBy_holds_iff_derives (hb : index.Built) (inspect : Inspection)
    (typeName member : String) :
    (index.findMemberBy inspect typeName member = none ↔ index.lookup typeName = none) ∧
      ∀ start, index.lookup typeName = some start →
        ∃ result, index.findMemberBy inspect typeName member = some result ∧
          index.Search inspect member [start] [] [] result ∧
          (result.holds = true ↔
            ∃ symbol, index.Derives start symbol ∧ index.Offers inspect member symbol) := by
  refine ⟨Option.map_eq_none_iff, fun start hl => ?_⟩
  refine ⟨index.searchMember inspect start member, ?_, ?_⟩
  · unfold findMemberBy
    rw [hl, Option.map_some]
  · exact searchMember_holds_iff hb.keyedByName (hb.keyedByName.holds_of_lookup hl)

/-- Two classes that derive from each other, one of them also from a builtin. -/
theorem findMemberBy_of_mutual_bases :
    let a : TypeSymbol := { name := "a.A", bases := ["a.B"], module := "a" }
    let b : TypeSymbol :=
      { name := "a.B", methods := ["m"], bases := ["a.A", "a.dict"], module := "a" }
    let index := ((empty []).addType a).addType b
    index.Built ∧ index.lookup "a.A" = some a ∧
      (index.findMemberBy KnownClass.hasMember? "a.A" "n" = none ↔ index.lookup "a.A" = none) ∧
      ∀ start, index.lookup "a.A" = some start →
        ∃ result, index.findMemberBy KnownClass.hasMember? "a.A" "n" = some result ∧
          index.Search KnownClass.hasMember? "n" [start] [] [] result ∧
          (result.holds = true ↔ ∃ symbol, index.Derives start symbol ∧
            index.Offers KnownClass.hasMember? "n" symbol) := by
  intro a b index
  have hb : index.Built := ((Built.empty []).addType a).addType b
  exact ⟨hb, by decide, findMemberBy_holds_iff_derives hb KnownClass.hasMember? "a.A" "n"⟩

end CoverAudit.SymbolIndex
