import Mathlib.Algebra.BigOperators.Finprod
import Mathlib.Algebra.Order.Group.Multiset
import Mathlib.Tactic

/-! # Ledgers

A ledger says which items each place holds. Its total is the sum over all
places, of which only finitely many may hold anything. Changing some places
changes the total by the difference at these places, so moving items between
places keeps it.
-/

namespace GptQueue

/-- What each place holds. -/
abbrev Ledger (Place Item : Type) := Place → Multiset Item

namespace Ledger

variable {Place Item : Type} [DecidableEq Place]

/-- Everything is held at the given places. -/
def Covers (places : Finset Place) (ledger : Ledger Place Item) : Prop :=
  ∀ place ∉ places, ledger place = 0

/-- Only finitely many places hold anything. -/
def Bounded (ledger : Ledger Place Item) : Prop := ∃ places, Covers places ledger

noncomputable def total (ledger : Ledger Place Item) : Multiset Item := ∑ᶠ place, ledger place

omit [DecidableEq Place] in
theorem total_eq_sum {ledger : Ledger Place Item} {places : Finset Place}
    (covers : Covers places ledger) : total ledger = ∑ place ∈ places, ledger place := by
  refine finsum_eq_sum_of_support_subset ledger fun place holds => ?_
  by_contra outside
  exact holds (covers place outside)

section Exchange

variable {before after : Ledger Place Item}

theorem bounded_of_same (bounded : Bounded before) {changed : Finset Place}
    (same : ∀ place ∉ changed, after place = before place) : Bounded after := by
  rcases bounded with ⟨places, covers⟩
  refine ⟨places ∪ changed, fun place outside => ?_⟩
  rw [Finset.mem_union, not_or] at outside
  rw [same place outside.2, covers place outside.1]

/-- The total changes as the changed places do. -/
theorem total_exchange (bounded : Bounded before) {changed : Finset Place}
    (same : ∀ place ∉ changed, after place = before place) :
    total after + ∑ place ∈ changed, before place =
      total before + ∑ place ∈ changed, after place := by
  rcases bounded with ⟨places, covers⟩
  have subset : changed ⊆ places ∪ changed := Finset.subset_union_right
  have coversBefore : Covers (places ∪ changed) before := fun place outside =>
    covers place fun inside => outside (Finset.mem_union_left _ inside)
  have coversAfter : Covers (places ∪ changed) after := fun place outside => by
    rw [same place fun inside => outside (Finset.mem_union_right _ inside)]
    exact coversBefore place outside
  have rest : ∑ place ∈ (places ∪ changed) \ changed, after place =
      ∑ place ∈ (places ∪ changed) \ changed, before place :=
    Finset.sum_congr rfl fun place member => same place (Finset.mem_sdiff.mp member).2
  rw [total_eq_sum coversAfter, total_eq_sum coversBefore, ← Finset.sum_sdiff subset,
    ← Finset.sum_sdiff subset, rest]
  abel

/-- A change of one place. -/
theorem total_exchange_one (bounded : Bounded before) {changed : Place}
    (same : ∀ place ≠ changed, after place = before place) :
    total after + before changed = total before + after changed := by
  have exchanged : total after + ∑ place ∈ {changed}, before place =
      total before + ∑ place ∈ {changed}, after place :=
    total_exchange bounded (by simpa using same)
  simpa using exchanged

/-- A change of two places. -/
theorem total_exchange_two (bounded : Bounded before) {first second : Place}
    (different : first ≠ second)
    (same : ∀ place, place ≠ first → place ≠ second → after place = before place) :
    total after + (before first + before second) =
      total before + (after first + after second) := by
  have exchanged : total after + ∑ place ∈ {first, second}, before place =
      total before + ∑ place ∈ {first, second}, after place :=
    total_exchange bounded (by simpa using same)
  simpa [Finset.sum_pair different] using exchanged

end Exchange

/-! ## Trades -/

/-- From one ledger to the next `gained` comes in from outside and `lost` leaves. -/
structure Trades (gained lost : Multiset Item) (before after : Ledger Place Item) : Prop where
  bounded : Bounded before → Bounded after
  total : Bounded before → total after + lost = Ledger.total before + gained

namespace Trades

omit [DecidableEq Place] in
theorem refl (ledger : Ledger Place Item) : Trades 0 0 ledger ledger :=
  ⟨id, fun _ => rfl⟩

variable {gained lost : Multiset Item} {before middle after : Ledger Place Item}

omit [DecidableEq Place] in
theorem trans {gainedFirst lostFirst : Multiset Item}
    (first : Trades gainedFirst lostFirst before middle)
    (second : Trades gained lost middle after) :
    Trades (gainedFirst + gained) (lostFirst + lost) before after := by
  refine ⟨fun bounded => second.bounded (first.bounded bounded), fun bounded => ?_⟩
  calc Ledger.total after + (lostFirst + lost)
      = (Ledger.total after + lost) + lostFirst := by abel
    _ = (Ledger.total middle + lostFirst) + gained := by
        rw [second.total (first.bounded bounded)]
        abel
    _ = Ledger.total before + (gainedFirst + gained) := by
        rw [first.total bounded, add_assoc]

omit [DecidableEq Place] in
/-- What comes in and leaves again is no trade. -/
theorem cancel (moved : Multiset Item)
    (trades : Trades (gained + moved) (lost + moved) before after) :
    Trades gained lost before after := by
  refine ⟨trades.bounded, fun bounded => ?_⟩
  have total := trades.total bounded
  rw [← add_assoc, ← add_assoc] at total
  exact add_right_cancel total

/-- A change of one place. -/
theorem one (changed : Place) (same : ∀ place ≠ changed, after place = before place)
    (balance : after changed + lost = before changed + gained) :
    Trades gained lost before after := by
  have outside : ∀ place ∉ ({changed} : Finset Place), after place = before place := by
    simpa using same
  refine ⟨fun bounded => bounded_of_same bounded outside, fun bounded => ?_⟩
  have exchanged := total_exchange_one bounded same
  refine add_right_cancel (b := before changed) ?_
  calc Ledger.total after + lost + before changed
      = (Ledger.total after + before changed) + lost := by abel
    _ = Ledger.total before + (after changed + lost) := by rw [exchanged]; abel
    _ = Ledger.total before + gained + before changed := by rw [balance]; abel

/-- A change of two places. -/
theorem two (first second : Place) (different : first ≠ second)
    (same : ∀ place, place ≠ first → place ≠ second → after place = before place)
    (balance : after first + after second + lost = before first + before second + gained) :
    Trades gained lost before after := by
  have outside : ∀ place ∉ ({first, second} : Finset Place), after place = before place := by
    simpa using same
  refine ⟨fun bounded => bounded_of_same bounded outside, fun bounded => ?_⟩
  have exchanged := total_exchange_two bounded different same
  refine add_right_cancel (b := before first + before second) ?_
  calc Ledger.total after + lost + (before first + before second)
      = (Ledger.total after + (before first + before second)) + lost := by abel
    _ = Ledger.total before + (after first + after second + lost) := by rw [exchanged]; abel
    _ = Ledger.total before + gained + (before first + before second) := by rw [balance]; abel

end Trades

theorem mem_total {ledger : Ledger Place Item} (bounded : Bounded ledger) {place : Place}
    {item : Item} (member : item ∈ ledger place) : item ∈ total ledger := by
  rcases bounded with ⟨places, covers⟩
  rw [total_eq_sum covers, Multiset.mem_sum]
  refine ⟨place, ?_, member⟩
  by_contra outside
  rw [covers place outside] at member
  exact Multiset.notMem_zero item member

/-- An item that occurs once in the total is in exactly one place. -/
theorem existsUnique_of_count_one [DecidableEq Item] {ledger : Ledger Place Item}
    (bounded : Bounded ledger) {item : Item} (once : (total ledger).count item = 1) :
    ∃! place, item ∈ ledger place := by
  rcases bounded with ⟨places, covers⟩
  rw [total_eq_sum covers, Multiset.count_sum'] at once
  have member_of_holds : ∀ {place}, item ∈ ledger place → place ∈ places := by
    intro place holds
    by_contra outside
    rw [covers place outside] at holds
    exact absurd holds (Multiset.notMem_zero item)
  obtain ⟨place, member, holds⟩ : ∃ place ∈ places, (ledger place).count item ≠ 0 := by
    by_contra none
    have zero : ∀ place ∈ places, (ledger place).count item = 0 := by
      intro place member
      by_contra holds
      exact none ⟨place, member, holds⟩
    rw [Finset.sum_eq_zero zero] at once
    omega
  refine ⟨place, Multiset.count_ne_zero.mp holds, fun other inOther => ?_⟩
  by_contra different
  have otherMember : other ∈ places.erase place :=
    Finset.mem_erase.mpr ⟨different, member_of_holds inOther⟩
  have otherPos : 0 < (ledger other).count item := Multiset.count_pos.mpr inOther
  rw [← Finset.add_sum_erase _ _ member, ← Finset.add_sum_erase _ _ otherMember] at once
  omega

end Ledger

end GptQueue
