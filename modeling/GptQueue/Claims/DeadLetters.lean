import GptQueue.Claims.Purge

/-! # The bound of the dead-letter queues

Recovery and migration trim the dead-letter queue they write to, so no action makes one
longer than the bound.
-/

namespace GptQueue.Claims

open Redis
open GptQueue.Mailbox

/-- No dead-letter queue is longer than the bound. -/
def DeadBounded (keyspace : Keyspace Key) : Prop :=
  ∀ actor, (keyspace.items (.dlq actor)).length ≤ dlqMaxLength

/-- A migration of dead letters is given the bound; the other actions have it built in. -/
def Action.TrimsToBound : Action → Prop
  | .migrate _ _ _ (some bound) => bound = dlqMaxLength
  | _ => True

namespace DeadBounded

variable {keyspace after : Keyspace Key}

theorem empty : DeadBounded Keyspace.empty := fun _ => Nat.zero_le _

theorem of_items (bounded : DeadBounded keyspace)
    (items : ∀ actor, after.items (.dlq actor) = keyspace.items (.dlq actor) ∨
      (after.items (.dlq actor)).length ≤ dlqMaxLength) : DeadBounded after := by
  intro actor
  rcases items actor with same | short
  · rw [same]
    exact bounded actor
  · exact short

theorem of_values (bounded : DeadBounded keyspace)
    (values : ∀ actor, after.value (.dlq actor) = keyspace.value (.dlq actor)) :
    DeadBounded after :=
  bounded.of_items fun actor => Or.inl (congrArg Value.items (values actor))

theorem of_sameTasks (bounded : DeadBounded keyspace) (same : SameTasks after keyspace) :
    DeadBounded after :=
  bounded.of_values fun actor => same.value (.dlq actor) rfl

theorem pushInbox (bounded : DeadBounded keyspace) (actor task : String) :
    DeadBounded (pushInbox keyspace actor task) :=
  bounded.of_values fun other => by simp [Claims.pushInbox]

theorem pushDead (bounded : DeadBounded keyspace) (actor task : String) :
    DeadBounded (pushDead keyspace actor task dlqMaxLength) := by
  apply bounded.of_items
  intro other
  by_cases same : other = actor
  · right
    simp [same, Claims.pushDead, Keyspace.items]
  · left
    simp [same, Claims.pushDead, Keyspace.items]

theorem placed {actor : String} {tasks : List String}
    (placed : Placed actor dlqMaxLength tasks keyspace after) (bounded : DeadBounded keyspace) :
    DeadBounded after := by
  induction placed with
  | done => exact bounded
  | inbox pushed rest induction =>
      exact induction ((bounded.pushInbox _ _).of_sameTasks pushed)
  | dead pushed rest induction =>
      exact induction ((bounded.pushDead _ _).of_sameTasks pushed)

theorem dropClaim (bounded : DeadBounded keyspace) (actor id : String) :
    DeadBounded (dropClaim keyspace actor id) :=
  bounded.of_values fun other => by simp [Claims.dropClaim]

theorem recovered {actor : String} {claims : List (String × List String)}
    (recovered : Recovered actor dlqMaxLength claims keyspace after)
    (bounded : DeadBounded keyspace) : DeadBounded after := by
  induction recovered with
  | done => exact bounded
  | claim placed rest induction => exact induction ((bounded.dropClaim _ _).placed placed)

theorem requeued (bounded : DeadBounded keyspace) (actor payload : String) :
    DeadBounded (requeued keyspace actor payload) := by
  apply bounded.of_items
  intro other
  by_cases same : other = actor
  · right
    have shorter : ((keyspace.items (.dlq actor)).erase payload).length ≤ dlqMaxLength :=
      List.length_erase_le.trans (bounded actor)
    simpa [same, Claims.requeued, Keyspace.items] using shorter
  · left
    simp [same, Claims.requeued, Claims.pushInbox, Keyspace.items]

theorem popped (bounded : DeadBounded keyspace) (actor : String) (count : Nat) :
    DeadBounded (popped keyspace (.queue actor) count) :=
  bounded.of_values fun other => popped_value_of_ne (by simp) count

theorem putClaim (bounded : DeadBounded keyspace) (cjson : Cjson) (claim : TaskClaim)
    (ms : Int) : DeadBounded (putClaim cjson keyspace claim ms) :=
  bounded.of_values fun other => putClaim_value_of_ne _ _ _ _ (by simp) (by simp)

theorem transferred (bounded : DeadBounded keyspace) (source destination : String) :
    DeadBounded (transferred keyspace (.queue source) (.queue destination)) := by
  apply bounded.of_values
  intro other
  rw [Claims.transferred]
  split
  · rfl
  · simp

theorem transferredDead (bounded : DeadBounded keyspace) (source destination : String) :
    DeadBounded (transferredDead keyspace (.dlq source) (.dlq destination) dlqMaxLength) := by
  apply bounded.of_items
  intro other
  rw [Claims.transferredDead]
  split
  · exact Or.inl rfl
  · by_cases isSource : other = source
    · right
      simp [isSource, Keyspace.items]
    · by_cases isDestination : other = destination
      · right
        rw [isDestination] at isSource
        simp [isDestination, isSource, Keyspace.items]
      · left
        simp [isSource, isDestination, Keyspace.items]

theorem change {cjson : Cjson} {action : Action} {accepted acknowledged : List String}
    (bounded : DeadBounded keyspace) (trims : action.TrimsToBound)
    (change : Change cjson keyspace action after accepted acknowledged) :
    DeadBounded after := by
  cases change with
  | none => exact bounded
  | pushed bound message => exact bounded.pushInbox _ _
  | recovered nodup indexed moved => exact bounded.recovered moved
  | claimed args positive fresh nonempty => exact (bounded.popped _ _).putClaim _ _ _
  | renewed stored renewable => exact bounded.putClaim _ _ _
  | acknowledged stored => exact bounded.dropClaim _ _
  | requeued messageId dead => exact bounded.requeued _ _
  | migrated different guarded => exact bounded.transferred _ _
  | migratedDead different guarded bound =>
      rw [show bound = dlqMaxLength from trims]
      exact (bounded.transferred _ _).transferredDead _ _

end DeadBounded

/-! ## Actions that delete dead letters -/

/-- Every dead-letter queue is the same or gone. -/
def DeadKept (before after : Keyspace Key) : Prop :=
  ∀ actor, after.value (.dlq actor) = before.value (.dlq actor) ∨ after.value (.dlq actor) = none

namespace DeadKept

theorem refl (keyspace : Keyspace Key) : DeadKept keyspace keyspace := fun _ => Or.inl rfl

theorem trans {first second third : Keyspace Key} (left : DeadKept first second)
    (right : DeadKept second third) : DeadKept first third := by
  intro actor
  rcases right actor with same | gone
  · rw [same]
    exact left actor
  · exact Or.inr gone

theorem bind {α β : Type} {script : Script Key α} {next : α → Script Key β}
    (first : Script.Within DeadKept script)
    (rest : ∀ value, Script.Within DeadKept (next value)) :
    Script.Within DeadKept (script >>= next) :=
  Script.Within.bind trans first rest

theorem of_touches {α : Type} {region : Key → Prop} {script : Script Key α}
    (touches : Script.Touches region script) (others : ∀ actor, ¬region (.dlq actor)) :
    Script.Within DeadKept script :=
  touches.mono fun _ _ same actor => Or.inl (same _ (others actor))

theorem del {key : Key} (other : ∀ actor, Key.dlq actor ≠ key) :
    Script.Within DeadKept (Redis.del key) :=
  of_touches (@touches_del Key _ (· = key) key rfl) other

theorem purgeActorClaims (cjson : Cjson) (actor : String) :
    Script.Within DeadKept (purgeActorClaims cjson actor) := by
  intro keyspace other
  rcases run_purge_any cjson actor keyspace with ⟨count, after, ran, purges⟩
  rw [ran]
  by_cases same : other = actor
  · rw [same]
    exact Or.inr (purges.absent _ (Or.inr (Or.inl rfl)))
  · left
    apply purges.others
    · simp
    · simp [IsClaimState, same]
    · intro payload id holds carries
      simp [Key.recoverCount]

theorem unregister (cjson : Cjson) (name sessionId : String) :
    Script.Within DeadKept (unregister cjson name sessionId) := by
  apply bind
  · apply Script.Within.when refl
    apply bind (del (by simp))
    intro _
    apply bind (del (by simp))
    intro _
    have touches : Script.Touches (· = Key.agentSessions name)
        (srem (Key.agentSessions name) sessionId) :=
      touches_typed fun _ _ outside => if_neg outside
    exact of_touches touches (by simp)
  · intro _
    apply bind
    · exact of_touches (@touches_hdel Key _ (· = .registry) _ rfl name) (by simp)
    · intro _
      apply bind (purgeActorClaims cjson name)
      intro _
      apply bind (del (by simp))
      intro _
      apply bind (del (by simp))
      intro _
      apply bind (del (by simp))
      intro _
      exact Script.Within.pure refl _

end DeadKept

theorem DeadBounded.deadKept {before after : Keyspace Key} (bounded : DeadBounded before)
    (kept : DeadKept before after) : DeadBounded after := by
  apply bounded.of_items
  intro actor
  rcases kept actor with same | gone
  · exact Or.inl (congrArg Value.items same)
  · right
    rw [Keyspace.items, gone]
    exact Nat.zero_le _

/-! ## Every action keeps the bound -/

theorem DeadBounded.after {cjson : Cjson} (roundTrips : RoundTrips cjson)
    (reads : ReadsMessages cjson) {keyspace : Keyspace Key}
    (sound : Sound cjson keyspace) (bounded : DeadBounded keyspace) {action : Action}
    (admissible : action.Admissible keyspace) (trims : action.TrimsToBound) :
    DeadBounded (action.after cjson keyspace) := by
  cases deletes : action.deletes with
  | false =>
      rcases Action.change roundTrips reads sound admissible deletes with ⟨exact, same, change⟩
      exact (bounded.change trims change).of_sameTasks same
  | true =>
      cases action with
      | purge actor => exact bounded.deadKept (DeadKept.purgeActorClaims cjson actor keyspace)
      | unregister name sessionId =>
          exact bounded.deadKept (DeadKept.unregister cjson name sessionId keyspace)
      | _ => cases deletes

end GptQueue.Claims
