import Mathlib.Logic.Function.Basic
import Mathlib.Logic.Relation

/-! # Tables in which every entry has an owner

A free key belongs to whoever writes it first, and from then on only its owner may
write it. Whatever the order of the writes, a key keeps its owner.
-/

namespace GptQueue

structure OwnedEntry (Owner Value : Type) where
  owner : Owner
  value : Value

abbrev OwnedTable (Key Owner Value : Type) := Key → Option (OwnedEntry Owner Value)

namespace OwnedTable

variable {Key Owner Value : Type} [DecidableEq Key]

/-- The key is free, or is that of the owner. -/
def MayWrite (table : OwnedTable Key Owner Value) (key : Key) (owner : Owner) : Prop :=
  ∀ entry, table key = some entry → entry.owner = owner

/-- The owner of a key writes under it, and only what is such an owner's to write. -/
inductive Step (Writes : Key → Owner → Value → Prop) :
    OwnedTable Key Owner Value → OwnedTable Key Owner Value → Prop
  | write {table : OwnedTable Key Owner Value} {key : Key} {owner : Owner} {value : Value}
      (may : table.MayWrite key owner) (writes : Writes key owner value) :
      Step Writes table (Function.update table key (some ⟨owner, value⟩))

variable {Writes : Key → Owner → Value → Prop} {before after : OwnedTable Key Owner Value}
  {key : Key} {entry : OwnedEntry Owner Value}

theorem Step.found (step : Step Writes before after) (found : before key = some entry) :
    ∃ later, after key = some later ∧ later.owner = entry.owner ∧
      (later = entry ∨ Writes key entry.owner later.value) := by
  cases step with
  | @write written owner value may writes =>
      by_cases same : key = written
      · subst same
        have own := may entry found
        exact ⟨⟨owner, value⟩, Function.update_self _ _ _, own.symm, Or.inr (own ▸ writes)⟩
      · exact ⟨entry, (Function.update_of_ne same _ _).trans found, rfl, Or.inl rfl⟩

/-- An entry has its owner for ever, and is what it was or what that owner wrote. -/
theorem entry_of_steps (steps : Relation.ReflTransGen (Step Writes) before after)
    (found : before key = some entry) :
    ∃ later, after key = some later ∧ later.owner = entry.owner ∧
      (later = entry ∨ Writes key entry.owner later.value) := by
  induction steps with
  | refl => exact ⟨entry, found, rfl, Or.inl rfl⟩
  | tail _ step induction =>
      rcases induction with ⟨between, isBetween, sameOwner, origin⟩
      rcases step.found isBetween with ⟨later, isLater, laterOwner, laterOrigin⟩
      refine ⟨later, isLater, laterOwner.trans sameOwner, ?_⟩
      rcases laterOrigin with rfl | written
      · exact origin
      · exact Or.inr (sameOwner ▸ written)

end OwnedTable

end GptQueue
