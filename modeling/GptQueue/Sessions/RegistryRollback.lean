import Mathlib.Data.Multiset.AddSub
import Mathlib.Logic.Function.Basic
import Mathlib.Logic.Relation
import Mathlib.Tactic

/-! # Registry rollback

A registration writes a provisional registry value and later publishes a
completed one or undoes its write. Two side hashes keep what an undo restores.
Attempts on one name overlap freely and know their own write only by its text.
-/

namespace GptQueue.Sessions

/-- The fields of one hash. -/
abbrev Hash := String → Option String

/-- The registry and the two hashes its rollback keeps. -/
structure RegistryHashes where
  registry : Hash
  pending : Hash
  restore : Hash

namespace RegistryHashes

/-! ## The scripts -/

/-- `WRITE_PROVISIONAL_REGISTRY_SCRIPT`. -/
def writeProvisional (hashes : RegistryHashes) (name value : String) : RegistryHashes :=
  let prev := hashes.registry name
  let pend := hashes.pending name
  let carried := hashes.restore name
  let restore := if prev.isSome ∧ prev = pend then carried else prev
  { registry := Function.update hashes.registry name (some value)
    pending := Function.update hashes.pending name (some value)
    restore := Function.update hashes.restore name restore }

/-- `UNDO_REGISTRY_WRITE_SCRIPT`, with whether it undid the write. -/
def undoRegistryWrite (hashes : RegistryHashes) (name value : String) : Bool × RegistryHashes :=
  if hashes.registry name ≠ some value then
    if hashes.pending name = some value then
      (false, { hashes with pending := Function.update hashes.pending name none })
    else
      (false, hashes)
  else
    (true,
      { registry := Function.update hashes.registry name (hashes.restore name)
        pending := Function.update hashes.pending name none
        restore := Function.update hashes.restore name none })

/-- `PUBLISH_REGISTRATION_SCRIPT`. -/
def publishRegistration (hashes : RegistryHashes) (name value : String) : RegistryHashes where
  registry := Function.update hashes.registry name (some value)
  pending := Function.update hashes.pending name none
  restore := Function.update hashes.restore name none

/-- The `HDEL` of the registry entry by unregister and rename. -/
def retire (hashes : RegistryHashes) (name : String) : RegistryHashes :=
  { hashes with registry := Function.update hashes.registry name none }

end RegistryHashes

/-! ## Overlapping attempts -/

/-- The provisional value that an attempt stored. -/
structure RegistryWrite where
  agentName : String
  written : String
deriving DecidableEq, Repr

/-- The hashes, the attempts that are not over yet, and for each name the value of
the last publication or retirement. -/
structure Registrations where
  hashes : RegistryHashes
  inFlight : Multiset RegistryWrite
  completed : Hash

/-- Completed values are no provisional ones. -/
inductive RegistrationStep (provisional : Set String) : Registrations → Registrations → Prop
  | written {state : Registrations} (write : RegistryWrite)
      (isProvisional : write.written ∈ provisional) :
      RegistrationStep provisional state
        { state with
          hashes := state.hashes.writeProvisional write.agentName write.written
          inFlight := write ::ₘ state.inFlight }
  | published {state : Registrations} {write : RegistryWrite} (value : String)
      (begun : write ∈ state.inFlight) (isCompleted : value ∉ provisional) :
      RegistrationStep provisional state
        { hashes := state.hashes.publishRegistration write.agentName value
          inFlight := state.inFlight.erase write
          completed := Function.update state.completed write.agentName (some value) }
  | undone {state : Registrations} {write : RegistryWrite} (begun : write ∈ state.inFlight) :
      RegistrationStep provisional state
        { state with
          hashes := (state.hashes.undoRegistryWrite write.agentName write.written).2
          inFlight := state.inFlight.erase write }
  | retired {state : Registrations} (name : String) :
      RegistrationStep provisional state
        { state with
          hashes := state.hashes.retire name
          completed := Function.update state.completed name none }

/-- No attempt is in flight and every registry entry is a completed one. -/
structure Registrations.Settled (provisional : Set String) (state : Registrations) : Prop where
  idle : state.inFlight = 0
  registry : state.hashes.registry = state.completed
  completed : ∀ name, ∀ value ∈ state.completed name, value ∉ provisional
  pending : ∀ name, state.hashes.pending name = none

def Registrations.Reachable (provisional : Set String) (state : Registrations) : Prop :=
  ∃ start : Registrations, start.Settled provisional ∧
    Relation.ReflTransGen (RegistrationStep provisional) start state

/-! ## One name

The entry of a name is either its completed value, and then no pending text can be
taken for it, or the provisional value of an attempt in flight, and then the
restore field has the completed one. -/

inductive Registrations.Entry (provisional : Set String) (state : Registrations) (name : String) :
    Prop
  | completed (entry : state.hashes.registry name = state.completed name)
      (stale : ∀ value ∈ state.hashes.pending name, value ∈ provisional)
  | provisional (value : String) (entry : state.hashes.registry name = some value)
      (pending : state.hashes.pending name = some value)
      (restore : state.hashes.restore name = state.completed name)
      (begun : ⟨name, value⟩ ∈ state.inFlight)

/-- The invariant. -/
structure Registrations.Consistent (provisional : Set String) (state : Registrations) : Prop where
  entry : ∀ name, state.Entry provisional name
  completed : ∀ name, ∀ value ∈ state.completed name, value ∉ provisional
  begun : ∀ write ∈ state.inFlight, write.written ∈ provisional

section Steps

variable {provisional : Set String} {state : Registrations} {name : String}

theorem Registrations.Settled.consistent (settled : state.Settled provisional) :
    state.Consistent provisional where
  entry name := .completed (congrFun settled.registry name) (by simp [settled.pending name])
  completed := settled.completed
  begun := by simp [settled.idle]

/-- A step that leaves a name's fields alone, and its attempts in flight. -/
theorem Registrations.Entry.congr {after : Registrations} (entry : state.Entry provisional name)
    (registry : after.hashes.registry name = state.hashes.registry name)
    (pending : after.hashes.pending name = state.hashes.pending name)
    (restore : after.hashes.restore name = state.hashes.restore name)
    (completed : after.completed name = state.completed name)
    (begun : ∀ value, ⟨name, value⟩ ∈ state.inFlight → ⟨name, value⟩ ∈ after.inFlight) :
    after.Entry provisional name := by
  cases entry with
  | completed entry stale =>
      apply Entry.completed
      · rw [registry, completed, entry]
      · rw [pending]
        exact stale
  | provisional value entry isPending restores inFlight =>
      apply Entry.provisional value
      · rw [registry, entry]
      · rw [pending, isPending]
      · rw [restore, completed, restores]
      · exact begun value inFlight

/-- The value that a provisional write keeps for an undo is the completed one. -/
theorem Registrations.Consistent.restores (consistent : state.Consistent provisional)
    (name : String) :
    (if (state.hashes.registry name).isSome ∧
        state.hashes.registry name = state.hashes.pending name
      then state.hashes.restore name else state.hashes.registry name) = state.completed name := by
  cases consistent.entry name with
  | completed entry stale =>
      rw [if_neg, entry]
      intro both
      rcases both with ⟨present, same⟩
      rcases Option.isSome_iff_exists.mp present with ⟨value, found⟩
      have isPending : value ∈ state.hashes.pending name := same ▸ found
      have isCompleted : value ∈ state.completed name := entry ▸ found
      exact consistent.completed name value isCompleted (stale value isPending)
  | provisional value entry pending restore begun =>
      rw [if_pos ⟨by simp [entry], entry.trans pending.symm⟩, restore]

theorem Registrations.Consistent.written (consistent : state.Consistent provisional)
    (write : RegistryWrite) (isProvisional : write.written ∈ provisional) :
    Registrations.Consistent provisional
      { state with
        hashes := state.hashes.writeProvisional write.agentName write.written
        inFlight := write ::ₘ state.inFlight } where
  entry name := by
    by_cases same : name = write.agentName
    · subst same
      apply Entry.provisional write.written
      · exact Function.update_self ..
      · exact Function.update_self ..
      · exact (Function.update_self ..).trans (consistent.restores write.agentName)
      · exact Multiset.mem_cons_self write state.inFlight
    · apply (consistent.entry name).congr
      · exact Function.update_of_ne same ..
      · exact Function.update_of_ne same ..
      · exact Function.update_of_ne same ..
      · rfl
      · intro value begun
        exact Multiset.mem_cons_of_mem begun
  completed := consistent.completed
  begun other member := by
    rcases Multiset.mem_cons.mp member with same | earlier
    · exact same ▸ isProvisional
    · exact consistent.begun other earlier

theorem Registrations.Consistent.published (consistent : state.Consistent provisional)
    (write : RegistryWrite) {value : String} (isCompleted : value ∉ provisional) :
    Registrations.Consistent provisional
      { hashes := state.hashes.publishRegistration write.agentName value
        inFlight := state.inFlight.erase write
        completed := Function.update state.completed write.agentName (some value) } where
  entry name := by
    by_cases same : name = write.agentName
    · subst same
      apply Entry.completed
      · simp [RegistryHashes.publishRegistration]
      · simp [RegistryHashes.publishRegistration]
    · apply (consistent.entry name).congr
      · exact Function.update_of_ne same ..
      · exact Function.update_of_ne same ..
      · exact Function.update_of_ne same ..
      · exact Function.update_of_ne same ..
      · intro other begun
        apply (Multiset.mem_erase_of_ne _).mpr begun
        intro equal
        exact same (congrArg RegistryWrite.agentName equal)
  completed name other member := by
    dsimp only at member
    by_cases same : name = write.agentName
    · subst same
      rw [Function.update_self] at member
      rw [← Option.some.inj member]
      exact isCompleted
    · rw [Function.update_of_ne same] at member
      exact consistent.completed name other member
  begun other member := consistent.begun other (Multiset.mem_of_mem_erase member)

theorem Registrations.Consistent.retired (consistent : state.Consistent provisional)
    (name : String) :
    Registrations.Consistent provisional
      { state with
        hashes := state.hashes.retire name
        completed := Function.update state.completed name none } where
  entry other := by
    by_cases same : other = name
    · subst same
      apply Entry.completed
      · simp [RegistryHashes.retire]
      · -- the pending text of an attempt in flight outlives the entry
        intro value isPending
        cases consistent.entry other with
        | completed entry stale => exact stale value isPending
        | provisional current entry pending restore begun =>
            rw [RegistryHashes.retire, pending] at isPending
            rw [← Option.some.inj isPending]
            exact consistent.begun _ begun
    · apply (consistent.entry other).congr
      · exact Function.update_of_ne same ..
      · rfl
      · rfl
      · exact Function.update_of_ne same ..
      · intro value begun
        exact begun
  completed other value member := by
    dsimp only at member
    by_cases same : other = name
    · subst same
      rw [Function.update_self] at member
      cases member
    · rw [Function.update_of_ne same] at member
      exact consistent.completed other value member
  begun := consistent.begun

/-- An undo that finds another value only clears its own pending text. -/
theorem RegistryHashes.undoRegistryWrite_of_ne {hashes : RegistryHashes} {name value : String}
    (replaced : hashes.registry name ≠ some value) :
    (hashes.undoRegistryWrite name value).2.registry = hashes.registry ∧
      (hashes.undoRegistryWrite name value).2.restore = hashes.restore ∧
      (hashes.undoRegistryWrite name value).2.pending =
        if hashes.pending name = some value then Function.update hashes.pending name none
        else hashes.pending := by
  rw [undoRegistryWrite, if_pos replaced]
  split <;> exact ⟨rfl, rfl, rfl⟩

/-- The entry of the name that an undo is for. -/
theorem Registrations.Consistent.entry_undone (consistent : state.Consistent provisional)
    {write : RegistryWrite} (begun : write ∈ state.inFlight) :
    Registrations.Entry provisional
      { state with
        hashes := (state.hashes.undoRegistryWrite write.agentName write.written).2
        inFlight := state.inFlight.erase write } write.agentName := by
  by_cases own : state.hashes.registry write.agentName = some write.written
  · have undone : (state.hashes.undoRegistryWrite write.agentName write.written).2 =
        { registry := Function.update state.hashes.registry write.agentName
            (state.hashes.restore write.agentName)
          pending := Function.update state.hashes.pending write.agentName none
          restore := Function.update state.hashes.restore write.agentName none } := by
      rw [RegistryHashes.undoRegistryWrite, if_neg (not_not_intro own)]
    rw [undone]
    cases consistent.entry write.agentName with
    | completed entry stale =>
        -- the registry would hold a completed value that is a provisional one
        have isCompleted : write.written ∈ state.completed write.agentName := entry ▸ own
        exact absurd (consistent.begun write begun) (consistent.completed _ _ isCompleted)
    | provisional value entry pending restore inFlight =>
        apply Entry.completed
        · simp [restore]
        · simp
  · rcases RegistryHashes.undoRegistryWrite_of_ne own with ⟨registry, restores, pendings⟩
    cases consistent.entry write.agentName with
    | completed entry stale =>
        apply Entry.completed
        · exact (congrFun registry _).trans entry
        · dsimp only
          intro value isPending
          rw [pendings] at isPending
          split at isPending
          · rw [Function.update_self] at isPending
            cases isPending
          · exact stale value isPending
    | provisional value entry pending restore inFlight =>
        have different : value ≠ write.written := fun same => own (same ▸ entry)
        apply Entry.provisional value
        · exact (congrFun registry _).trans entry
        · dsimp only
          rw [pendings, if_neg, pending]
          rw [pending]
          exact fun same => different (Option.some.inj same)
        · exact (congrFun restores _).trans restore
        · apply (Multiset.mem_erase_of_ne _).mpr inFlight
          exact fun same => different (congrArg RegistryWrite.written same)

/-- An undo leaves the other names alone. -/
theorem RegistryHashes.undoRegistryWrite_other {hashes : RegistryHashes} {name other value : String}
    (different : other ≠ name) :
    (hashes.undoRegistryWrite name value).2.registry other = hashes.registry other ∧
      (hashes.undoRegistryWrite name value).2.pending other = hashes.pending other ∧
      (hashes.undoRegistryWrite name value).2.restore other = hashes.restore other := by
  unfold undoRegistryWrite
  split
  · split <;> simp [different]
  · simp [different]

theorem Registrations.Consistent.undone (consistent : state.Consistent provisional)
    {write : RegistryWrite} (begun : write ∈ state.inFlight) :
    Registrations.Consistent provisional
      { state with
        hashes := (state.hashes.undoRegistryWrite write.agentName write.written).2
        inFlight := state.inFlight.erase write } where
  entry name := by
    by_cases same : name = write.agentName
    · subst same
      exact consistent.entry_undone begun
    · rcases @RegistryHashes.undoRegistryWrite_other state.hashes _ _ write.written same with
        ⟨registry, pending, restore⟩
      apply (consistent.entry name).congr
      · exact registry
      · exact pending
      · exact restore
      · rfl
      · intro other inFlight
        apply (Multiset.mem_erase_of_ne _).mpr inFlight
        intro equal
        exact same (congrArg RegistryWrite.agentName equal)
  completed := consistent.completed
  begun other member := consistent.begun other (Multiset.mem_of_mem_erase member)

theorem RegistrationStep.consistent {before after : Registrations}
    (step : RegistrationStep provisional before after)
    (consistent : before.Consistent provisional) : after.Consistent provisional := by
  cases step with
  | written write isProvisional => exact consistent.written write isProvisional
  | @published write value begun isCompleted => exact consistent.published write isCompleted
  | undone begun => exact consistent.undone begun
  | retired name => exact consistent.retired name

theorem Registrations.Reachable.consistent (reached : state.Reachable provisional) :
    state.Consistent provisional := by
  rcases reached with ⟨start, settled, steps⟩
  induction steps with
  | refl => exact settled.consistent
  | tail earlier step induction => exact step.consistent induction

/-- Whenever no attempt on a name is in flight, its registry entry is the value of
the last publication or retirement. -/
theorem registry_restored (reached : state.Reachable provisional)
    (finished : ∀ write ∈ state.inFlight, write.agentName ≠ name) :
    state.hashes.registry name = state.completed name := by
  cases reached.consistent.entry name with
  | completed entry stale => exact entry
  | provisional value entry pending restore begun => exact absurd rfl (finished _ begun)

end Steps

/-! Two attempts write the same text over a completed value. The first undo takes
the second attempt's text for its own and restores, and so the second undo finds
nothing to do. -/

section Overlapping

private def registered : Registrations where
  hashes := ⟨fun _ => some "completed", fun _ => none, fun _ => none⟩
  inFlight := 0
  completed := fun _ => some "completed"

private def draft : RegistryWrite := ⟨"worker", "draft"⟩

private def overlapping : Registrations :=
  { registered with
    hashes := ((((registered.hashes.writeProvisional "worker" "draft").writeProvisional
      "worker" "draft").undoRegistryWrite "worker" "draft").2.undoRegistryWrite
        "worker" "draft").2 }

private theorem overlapping_reachable : overlapping.Reachable {"draft"} := by
  refine ⟨registered, ⟨rfl, rfl, by simp [registered], fun _ => rfl⟩, ?_⟩
  have first := @RegistrationStep.written {"draft"} registered draft (Set.mem_singleton "draft")
  have twice := (Relation.ReflTransGen.single first).tail
    (.written draft (Set.mem_singleton "draft"))
  have undone := twice.tail (@RegistrationStep.undone _ _ draft (by decide))
  exact undone.tail (@RegistrationStep.undone _ _ draft (by decide))

theorem overlapping_restored :
    overlapping.hashes.registry "worker" = some "completed" ∧
      overlapping.hashes.registry "worker" = overlapping.completed "worker" :=
  ⟨by decide, registry_restored overlapping_reachable (by decide)⟩

end Overlapping

end GptQueue.Sessions
