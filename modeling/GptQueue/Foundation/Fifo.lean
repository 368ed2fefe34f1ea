import Mathlib.Data.List.Basic

/-! # Queues that are read in order

What has been put at the end of a queue and what has been taken from its front, over
one step or many. The two histories and the contents determine each other.
-/

namespace GptQueue.Fifo

variable {Item : Type}

/-- `arrived` was put at the end of `before` and `taken` was taken from the front. -/
def Moves (before arrived taken after : List Item) : Prop := before ++ arrived = taken ++ after

variable {before middle after arrived taken arrivedLater takenLater : List Item}

theorem Moves.refl (items : List Item) : Moves items [] [] items := List.append_nil items

theorem moves_append (items added : List Item) : Moves items added [] (items ++ added) := rfl

theorem moves_take (items : List Item) (count : Nat) :
    Moves items [] (items.take count) (items.drop count) := by
  rw [Moves, List.append_nil, List.take_append_drop]

/-- Everything is taken at once. -/
theorem moves_all (items : List Item) : Moves items [] items [] := rfl

theorem Moves.trans (first : Moves before arrived taken middle)
    (second : Moves middle arrivedLater takenLater after) :
    Moves before (arrived ++ arrivedLater) (taken ++ takenLater) after := by
  rw [Moves, ← List.append_assoc, first, List.append_assoc, second, List.append_assoc]

end GptQueue.Fifo
