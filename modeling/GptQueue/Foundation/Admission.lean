import Mathlib.Logic.Relation
import Mathlib.Order.Bounds.Basic
import Mathlib.Tactic

/-! # Rooms that are entered after a check

Whoever wants to enter a room of limited size is let go when there is still space, but
enters only later. The check does not see those on their way, so more than the limit
may be inside: how many more is exactly how many may be on their way at once.
-/

namespace GptQueue

/-- How many are inside, and how many have passed the check and are on their way. -/
structure Room where
  inside : Nat
  coming : Nat

namespace Room

/-- With at most `overlap` on their way at once. -/
inductive Step (limit overlap : Nat) : Room → Room → Prop
  | admitted {room : Room} (space : room.inside < limit) (calm : room.coming < overlap) :
      Step limit overlap room { room with coming := room.coming + 1 }
  | entered {inside coming : Nat} :
      Step limit overlap ⟨inside, coming + 1⟩ ⟨inside + 1, coming⟩
  | abandoned {inside coming : Nat} :
      Step limit overlap ⟨inside, coming + 1⟩ ⟨inside, coming⟩
  | left {inside coming : Nat} :
      Step limit overlap ⟨inside + 1, coming⟩ ⟨inside, coming⟩

def Reached (limit overlap : Nat) (room : Room) : Prop :=
  Relation.ReflTransGen (Step limit overlap) ⟨0, 0⟩ room

variable {limit overlap : Nat} {before after room : Room}

theorem Step.total_le (step : Step limit overlap before after)
    (bounded : before.inside + before.coming + 1 ≤ limit + overlap ∨
      before.inside + before.coming = 0) :
    after.inside + after.coming + 1 ≤ limit + overlap ∨ after.inside + after.coming = 0 := by
  cases step with
  | admitted space calm =>
      left
      dsimp only
      omega
  | entered => dsimp only at bounded ⊢; omega
  | abandoned => dsimp only at bounded ⊢; omega
  | left => dsimp only at bounded ⊢; omega

theorem Reached.total_le (reached : Reached limit overlap room) :
    room.inside + room.coming + 1 ≤ limit + overlap ∨ room.inside + room.coming = 0 := by
  induction reached with
  | refl => exact .inr rfl
  | tail _ step induction => exact step.total_le induction

theorem Reached.inside_le (reached : Reached limit overlap room) :
    room.inside ≤ limit + overlap - 1 := by
  have bounded := reached.total_le
  omega

/-- One after the other, as many as the limit enter. -/
theorem reached_alone (calm : 0 < overlap) {inside : Nat} (within : inside ≤ limit) :
    Reached limit overlap ⟨inside, 0⟩ := by
  induction inside with
  | zero => exact .refl
  | succ inside induction =>
      have before := induction (Nat.le_of_succ_le within)
      exact (before.tail (.admitted within calm)).tail .entered

/-- Before the last place is taken, all that may be on their way are let go. -/
theorem reached_coming (space : 0 < limit) (calm : 0 < overlap) {coming : Nat}
    (within : coming ≤ overlap) : Reached limit overlap ⟨limit - 1, coming⟩ := by
  induction coming with
  | zero => exact reached_alone calm (Nat.sub_le _ _)
  | succ coming induction =>
      have before := induction (Nat.le_of_succ_le within)
      exact before.tail (.admitted (Nat.sub_lt space Nat.one_pos) within)

theorem Reached.enter_all {inside coming : Nat} (reached : Reached limit overlap ⟨inside, coming⟩) :
    Reached limit overlap ⟨inside + coming, 0⟩ := by
  induction coming generalizing inside with
  | zero => exact reached
  | succ coming induction =>
      have entered := induction (reached.tail .entered)
      rwa [Nat.add_right_comm] at entered

/-- The most that are ever inside. -/
theorem isGreatest_inside (space : 0 < limit) (calm : 0 < overlap) :
    IsGreatest {inside | ∃ coming, Reached limit overlap ⟨inside, coming⟩}
      (limit + overlap - 1) := by
  constructor
  · have full := (reached_coming space calm (Nat.le_refl overlap)).enter_all
    rw [← Nat.sub_add_comm space] at full
    exact ⟨0, full⟩
  · rintro inside ⟨coming, reached⟩
    exact reached.inside_le

end Room

end GptQueue
