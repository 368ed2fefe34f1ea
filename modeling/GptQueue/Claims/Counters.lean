import GptQueue.Claims.RecoveryCap

/-! # Who changes the recovery counters

Pushes, claims and renewals leave the counters alone; acknowledgements and requeues clear
those of their messages.
-/

namespace GptQueue.Claims

open Redis
open GptQueue.Mailbox

/-! ## Scripts that leave the counters alone -/

/-- A key that is no recovery counter. -/
def NoCounter (key : Key) : Prop := key.isCounter = false

section Frame

open Script

theorem value_of_touches {α : Type} {script : Script Key α} (touches : Touches NoCounter script)
    (keyspace : Keyspace Key) {key : Key} (counter : key.isCounter = true) :
    (script.run keyspace).2.value key = keyspace.value key := by
  apply touches keyspace key
  rw [NoCounter, counter]
  exact Bool.noConfusion

theorem touches_read {α : Type} {region : Key → Prop} {key : Key} {kind : Kind}
    {reply : Keyspace Key → Except Fault α} :
    Touches region (typed key kind fun keyspace => (reply keyspace, keyspace)) :=
  touches_typed fun _ _ _ => rfl

theorem touches_holds {region : Key → Prop} (key : Key) (kind : Kind) :
    Touches region (holds key kind) := by
  intro keyspace other _
  rw [run_holds]

theorem touches_checkKind {region : Key → Prop} (key : Key) (kind : Kind) (message : String) :
    Touches region (checkKind key kind message) := by
  apply (touches_holds key kind).bind
  intro held
  split
  · exact Touches.pure _
  · exact Touches.raise _

theorem touches_passed {region : Key → Prop} (cjson : Cjson) (value : Option Json) :
    Touches region (passed cjson value) := by
  unfold passed
  split
  · unfold Cjson.argument
    split
    · exact Touches.pure _
    · exact Touches.raise _
  · exact Touches.raise _

theorem touches_index {region : Key → Prop} (value : Option Json) (name : String) :
    Touches region (index value name) := by
  unfold index
  split
  · exact Touches.pure _
  · exact Touches.pure _
  · exact Touches.pure _
  · exact Touches.raise _

theorem noCounter_queue (name : String) : NoCounter (.queue name) := rfl

theorem noCounter_mailboxMeta (name : String) : NoCounter (.mailboxMeta name) := rfl

theorem noCounter_inboxEvents (agent : String) : NoCounter (.inboxEvents agent) := rfl

theorem noCounter_claims : NoCounter .claims := rfl

theorem noCounter_claimsIndex (actorId : String) : NoCounter (.claimsIndex actorId) := rfl

theorem noCounter_outstandingKey (message : QueueMessage) : NoCounter message.outstandingKey := by
  unfold QueueMessage.outstandingKey
  split <;> rfl

theorem touches_announce (cjson : Cjson) (bound : Option Int) (message : QueueMessage)
    (envelope : Json) :
    Touches NoCounter (announce cjson (pushArgs bound message) envelope) := by
  have notified : Touches NoCounter (notifies (pushArgs bound message)) := by
    unfold notifies
    split
    · exact Touches.pure _
    · split
      · exact touches_read.bind fun _ => Touches.pure _
      · exact Touches.pure _
  have appended : Touches NoCounter (appendEvent cjson (pushArgs bound message) envelope) :=
    (touches_index _ _).bind fun _ => (touches_passed cjson _).bind fun _ =>
      (touches_index _ _).bind fun _ => (touches_passed cjson _).bind fun _ =>
        (touches_index _ _).bind fun _ => (touches_passed cjson _).bind fun _ =>
          (touches_index _ _).bind fun _ => (touches_index _ _).bind fun _ =>
            (touches_passed cjson _).bind fun _ =>
              touches_typed fun _ _ outside =>
                store_value_of_outside (noCounter_inboxEvents message.recipient) outside
  exact notified.bind fun notify => appended.when.bind fun _ =>
    (touches_set (noCounter_outstandingKey message) _).when

theorem touches_boundedPush (cjson : Cjson) (bound : Option Int) (message : QueueMessage) :
    Touches NoCounter (boundedPush cjson (pushArgs bound message)) := by
  apply touches_read.bind
  intro current
  split
  · exact Touches.pure _
  · apply (touches_checkKind _ _ _).bind
    intro _
    apply (touches_checkKind _ _ _).bind
    intro _
    apply (touches_checkKind _ _ _).bind
    intro _
    split
    · exact Touches.raise _
    · next envelope decoded =>
        have appended :
            Touches NoCounter (append cjson (pushArgs bound message) current envelope) :=
          (touches_rpush (noCounter_queue message.recipient) _).bind fun _ =>
            (touches_hset (noCounter_mailboxMeta message.recipient) _ _).bind fun _ =>
              touches_announce cjson bound message envelope
        exact appended.bind fun _ => Touches.pure _

theorem touches_popBatch (actor : String) (batch : Nat) :
    Touches NoCounter (popBatch (.queue actor) batch) := by
  induction batch with
  | zero => exact Touches.pure _
  | succ batch induction =>
      apply (touches_lpop (noCounter_queue actor)).bind
      intro popped
      cases popped with
      | none => exact Touches.pure _
      | some message => exact induction.bind fun _ => Touches.pure _

theorem touches_batchClaim (cjson : Cjson) (args : BatchClaimArgs) :
    Touches NoCounter (batchClaim cjson args) := by
  have ceiling : Touches NoCounter (atCeiling args) := by
    unfold atCeiling
    split
    · exact Touches.pure _
    · exact touches_read.bind fun _ => Touches.pure _
  apply ceiling.bind
  intro reached
  split
  · exact Touches.pure _
  · apply (touches_popBatch args.actorId args.maxBatch).bind
    intro tasks
    split
    · exact Touches.pure _
    · exact (touches_hset noCounter_claims _ _).bind fun _ =>
        (touches_zadd (noCounter_claimsIndex args.actorId) _ _).bind fun _ => Touches.pure _

theorem touches_renew (cjson : Cjson) (args : RenewArgs) :
    Touches NoCounter (renew cjson args) := by
  apply touches_read.bind
  intro found
  split
  · exact Touches.pure _
  · split
    · exact Touches.pure _
    · split
      · exact Touches.pure _
      · split
        · exact Touches.pure _
        · split
          · exact Touches.pure _
          · split
            · exact Touches.pure _
            · split
              · exact Touches.pure _
              · refine (touches_hset noCounter_claims _ _).bind fun _ =>
                  Touches.bind ?_ fun _ => Touches.pure _
                refine touches_typed fun keyspace other outside => ?_
                split
                · exact store_value_of_outside (noCounter_claimsIndex args.actorId) outside
                · rfl

end Frame

/-! ## Scripts that clear counters -/

section Clear

variable {cjson : Cjson} {keyspace : Keyspace Key}

/-- The messages that have a counter among the given payloads. -/
def tracked (cjson : Cjson) (payloads : List String) : List String :=
  payloads.filterMap (trackedId cjson)

theorem counterKey_string (actor payload : String) :
    counterKey cjson (some actor) (.string payload) =
      (trackedId cjson payload).map (Key.recoverCount actor) := by
  cases found : trackedId cjson payload <;> simp [counterKey, found]

theorem mem_counterKeys {actor : String} {payloads : List String} {key : Key} :
    some key ∈ (payloads.map Json.string).map (counterKey cjson (some actor)) ↔
      key ∈ (tracked cjson payloads).map (Key.recoverCount actor) := by
  simp only [tracked, List.mem_map, List.mem_filterMap, exists_exists_and_eq_and,
    counterKey_string, Option.map_eq_some_iff]
  constructor
  · intro found
    rcases found with ⟨payload, member, message, isMessage, same⟩
    exact ⟨message, ⟨payload, member, isMessage⟩, same⟩
  · intro found
    rcases found with ⟨message, ⟨payload, member, isMessage⟩, same⟩
    exact ⟨payload, member, message, isMessage, same⟩

/-- An acknowledgement clears the counters of its tasks. -/
theorem ack_counters (roundTrips : RoundTrips cjson) (sound : Sound cjson keyspace)
    (claimId actorId sessionId : String) {key : Key} (counter : key.isCounter = true) :
    (Action.after cjson keyspace (.ack claimId actorId sessionId)).value key =
      if key ∈ (tracked cjson (Action.acknowledged cjson keyspace
        (.ack claimId actorId sessionId))).map (Key.recoverCount actorId) then none
      else keyspace.value key := by
  rcases @run_ack cjson keyspace claimId actorId sessionId roundTrips sound.typed
    sound.claimsValid with
    ⟨reply, ran, refused⟩ | ⟨claim, _, found, tasks, rfl, rfl, ran, -⟩
  · have nothing :
        Action.acknowledged cjson keyspace (.ack claimId actorId sessionId) = [] := by
      unfold Action.acknowledged
      simp only [ran]
      split
      · next tasks accepted => exact absurd (Except.ok.inj accepted) (refused tasks)
      · rfl
    rw [nothing, Action.after, ran]
    rfl
  · have acknowledged : Action.acknowledged cjson keyspace
        (.ack claimId claim.actorId claim.sessionId) = claim.tasks := by
      unfold Action.acknowledged
      simp only [ran]
      rw [tasksOf, found, Option.elim_some, claimTasks_encode roundTrips tasks]
    rcases run_ack_owned roundTrips sound.typed tasks found with ⟨after, owned, -, value⟩
    have isAfter : Action.after cjson keyspace (.ack claimId claim.actorId claim.sessionId) =
        after := by
      rw [Action.after, owned]
    have notClaims : key ≠ .claims := by
      rintro rfl
      cases counter
    have notIndex : key ≠ .claimsIndex claim.actorId := by
      rintro rfl
      cases counter
    have dropped : (dropClaim keyspace claim.actorId claimId).value key = keyspace.value key := by
      simp [dropClaim, notClaims, notIndex]
    rw [isAfter, value key, acknowledged, dropped]
    simp only [mem_counterKeys]

/-- Whether a requeue moved a dead letter. -/
def requeueDone (cjson : Cjson) (keyspace : Keyspace Key) (actorId wanted : String) : Bool :=
  match ((requeue cjson actorId wanted).run keyspace).1 with
  | .ok done => done
  | .error _ => false

/-- A requeue clears the counter of the letter it moves. -/
theorem requeue_counters (typed : WellTyped keyspace) (actorId wanted : String) :
    requeueDone cjson keyspace actorId wanted = false ∧
        Action.after cjson keyspace (.requeue actorId wanted) = keyspace ∨
      requeueDone cjson keyspace actorId wanted = true ∧
        (∃ payload ∈ keyspace.items (.dlq actorId), messageId cjson payload = some wanted) ∧
        ∀ key, key.isCounter = true →
          (Action.after cjson keyspace (.requeue actorId wanted)).value key =
            if key = Key.recoverCount actorId wanted then none else keyspace.value key := by
  have run_eq := @run_requeue_eq cjson keyspace actorId wanted typed
  cases found : (keyspace.items (.dlq actorId)).find? fun payload =>
    messageId cjson payload == some wanted with
  | none =>
      left
      simp only [found] at run_eq
      rw [requeueDone, Action.after, run_eq]
      exact ⟨rfl, rfl⟩
  | some payload =>
      right
      simp only [found] at run_eq
      refine ⟨by rw [requeueDone, run_eq], ⟨payload, List.mem_of_find?_eq_some found, ?_⟩, ?_⟩
      · simpa using List.find?_some found
      · intro key counter
        have notDead : key ≠ .dlq actorId := by
          rintro rfl
          cases counter
        rw [Action.after, run_eq, Keyspace.store_value]
        split
        · rfl
        · rw [requeued, Keyspace.store_value, if_neg notDead]
          exact pushInbox_value_of_counter counter _ _

end Clear

end GptQueue.Claims
