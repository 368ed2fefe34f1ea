import GptQueue.Claims.Conservation

/-! # What a recovery moves

The recovery script replies with two numbers. Here it also replies with the tasks it
moved and where each of them went; forgetting that gives the script back.
-/

namespace GptQueue.Claims

open Redis

/-! ## The script with its moves -/

/-- The tasks moved, in order, and whether each went to the inbox. -/
abbrev Moves := List (Item × Bool)

section Traced

variable (cjson : Cjson) (args : RecoverArgs)

def moveItemsTraced : List Item → Script Key ((Nat × Nat) × Moves)
  | [] => pure ((0, 0), [])
  | item :: items => do
      let recovered ← moveItem cjson args item
      let rest ← moveItemsTraced items
      pure (if recovered then (rest.1.1 + 1, rest.1.2) else (rest.1.1, rest.1.2 + 1),
        (item, recovered) :: rest.2)

def moveEntriesTraced : List Entry → Script Key ((Nat × Nat) × Moves)
  | [] => pure ((0, 0), [])
  | entry :: entries => do
      hdel .claims entry.id
      zrem (.claimsIndex args.actorId) entry.id
      let first ← moveItemsTraced cjson args entry.tasks
      let rest ← moveEntriesTraced entries
      pure ((first.1.1 + rest.1.1, first.1.2 + rest.1.2), first.2 ++ rest.2)

def recoverTraced : Script Key (RecoverReply × Moves) := do
  let expired ← zrangebyscore (.claimsIndex args.actorId)
    (args.now.map fun now => score (now - 1))
  if expired = [] then
    pure (.moved 0 0, [])
  else
    match ← plan cjson expired with
    | none => pure (.refused .counter, [])
    | some entries =>
        if ← holds (.queue args.actorId) .list then
          if ← holds (.dlq args.actorId) .list then
            let moved ← moveEntriesTraced cjson args entries
            pure (.moved moved.1.1 moved.1.2, moved.2)
          else
            pure (.refused .dlq, [])
        else
          pure (.refused .inbox, [])

end Traced

/-! ## Forgetting the moves -/

/-- The second script does what the first does, and also replies with something else. -/
def Forgets {α β : Type} (script : Script Key α) (traced : Script Key (α × β)) : Prop :=
  ∀ keyspace, script.run keyspace =
    (((traced.run keyspace).1.map Prod.fst), (traced.run keyspace).2)

namespace Forgets

variable {α β γ δ : Type}

theorem pure (value : α) (more : β) :
    Forgets (pure value : Script Key α) (Pure.pure (value, more)) := fun _ => rfl

/-- Both scripts begin with the same one. -/
theorem after {first : Script Key γ} {script : γ → Script Key α}
    {traced : γ → Script Key (α × β)} (forgets : ∀ value, Forgets (script value) (traced value)) :
    Forgets (first >>= script) (first >>= traced) := by
  intro keyspace
  rw [Script.run_bind, Script.run_bind]
  rcases first.run keyspace with ⟨fault | value, middle⟩
  · rfl
  · exact forgets value middle

/-- The scripts begin with two that agree. -/
theorem bind {first : Script Key γ} {firstTraced : Script Key (γ × δ)}
    {script : γ → Script Key α} {traced : γ × δ → Script Key (α × β)}
    (begins : Forgets first firstTraced)
    (forgets : ∀ value, Forgets (script value.1) (traced value)) :
    Forgets (first >>= script) (firstTraced >>= traced) := by
  intro keyspace
  rw [Script.run_bind, Script.run_bind, begins keyspace]
  rcases firstTraced.run keyspace with ⟨fault | value, middle⟩
  · rfl
  · exact forgets value middle

end Forgets

section Traced

variable (cjson : Cjson) (args : RecoverArgs)

theorem forgets_moveItems (items : List Item) :
    Forgets (moveItems cjson args items) (moveItemsTraced cjson args items) := by
  induction items with
  | nil => exact Forgets.pure _ _
  | cons item items induction =>
      exact Forgets.after fun recovered => induction.bind fun rest => Forgets.pure _ _

theorem forgets_moveEntries (entries : List Entry) :
    Forgets (moveEntries cjson args entries) (moveEntriesTraced cjson args entries) := by
  induction entries with
  | nil => exact Forgets.pure _ _
  | cons entry entries induction =>
      exact Forgets.after fun _ => Forgets.after fun _ =>
        (forgets_moveItems cjson args entry.tasks).bind fun first =>
          induction.bind fun rest => Forgets.pure _ _

theorem forgets_recover : Forgets (recover cjson args) (recoverTraced cjson args) := by
  apply Forgets.after
  intro expired
  split
  · exact Forgets.pure _ _
  · apply Forgets.after
    intro planned
    cases planned with
    | none => exact Forgets.pure _ _
    | some entries =>
        apply Forgets.after
        intro inbox
        split
        · apply Forgets.after
          intro dlq
          split
          · exact (forgets_moveEntries cjson args entries).bind fun moved => Forgets.pure _ _
          · exact Forgets.pure _ _
        · exact Forgets.pure _ _

/-- The keyspace that a recovery leaves. -/
theorem run_recoverTraced (keyspace : Keyspace Key) :
    ((recoverTraced cjson args).run keyspace).2 = ((recover cjson args).run keyspace).2 := by
  rw [forgets_recover cjson args keyspace]

end Traced

/-- A recovery that passes its checks moves the planned entries. -/
theorem run_recoverTraced_of_passes {cjson : Cjson} {args : RecoverArgs} {keyspace : Keyspace Key}
    (passes : PassesChecks cjson args keyspace) :
    (recoverTraced cjson args).run keyspace =
      (do
        let moved ← moveEntriesTraced cjson args (entriesOf cjson args keyspace)
        pure (.moved moved.1.1 moved.1.2, moved.2) : Script Key (RecoverReply × Moves)).run
          keyspace := by
  have planned : (plan cjson (expiredIds args keyspace)).run keyspace =
      (.ok (some (entriesOf cjson args keyspace)), keyspace) := by
    rw [run_plan cjson passes.claims, if_pos (List.all_eq_true.mpr passes.counters)]
    rfl
  rw [recoverTraced, Script.run_bind_ok (run_zrangebyscore passes.now passes.index),
    if_neg passes.expired, Script.run_bind_ok planned]
  simp only [Script.run_bind_ok (run_holds _ _ _), passes.inbox, passes.dlq, if_true]

end GptQueue.Claims
