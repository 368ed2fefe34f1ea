import GptQueue.Claims.BatchClaim
import GptQueue.Mailbox.Delivery

/-! # What the scripts do on a well-typed keyspace

Each script either changes nothing or makes one described change to the tasks;
keys that hold no tasks are left to `SameTasks`.
-/

namespace GptQueue.Claims

open Redis
open GptQueue.Mailbox

/-! ## Push -/

section Push

variable {cjson : Cjson} {message : QueueMessage} {bound : Option Int} {keyspace : Keyspace Key}

/-- A delivery is to the tasks what the push onto the inbox is. -/
theorem sameTasks_delivered : SameTasks (delivered message keyspace)
    (pushInbox keyspace message.recipient message.serialized) := by
  have enlargedSame : SameTasks (enlarged message keyspace)
      (pushInbox keyspace message.recipient message.serialized) :=
    (SameTasks.refl _).store rfl (by simp [Key.kind])
  have toldSame : SameTasks (told message (enlarged message keyspace))
      (pushInbox keyspace message.recipient message.serialized) := by
    rw [told]
    split
    · exact enlargedSame.store rfl rfl
    · exact enlargedSame
  rw [delivered, announced]
  split
  · apply toldSame.store (kind_outstandingKey message).2
    rw [Value.admits_some, (kind_outstandingKey message).1]
    rfl
  · exact toldSame

/-- A push finds the mailbox full or the message unreadable and changes nothing,
or appends the message. -/
theorem run_boundedPush (reads : ReadsMessages cjson) (typed : WellTyped keyspace) :
    ((bound.any (fun bound : Int => bound ≤ (keyspace.items (.queue message.recipient)).length) ∨
        cjson.decode message.serialized = none) ∧
      ∃ outcome, (boundedPush cjson (pushArgs bound message)).run keyspace =
        (outcome, keyspace) ∧ outcome ≠ .ok true) ∨
    ∃ after, (boundedPush cjson (pushArgs bound message)).run keyspace = (.ok true, after) ∧
      SameTasks after (pushInbox keyspace message.recipient message.serialized) := by
  rw [run_boundedPush_eq reads]
  cases reached : verdict cjson bound message keyspace with
  | error fault =>
      have unreadable := (verdict_error reached).resolve_left (not_not.mpr typed)
      exact Or.inl ⟨Or.inr unreadable, .error fault, rfl, by simp⟩
  | ok accepted =>
      cases accepted with
      | false => exact Or.inl ⟨Or.inl (verdict_full reached), .ok false, rfl, by simp⟩
      | true => exact Or.inr ⟨_, rfl, sameTasks_delivered⟩

end Push

/-! ## Recovery -/

/-- The claims that a hash holds were written by batch-claim or renew. -/
def ClaimsValid (cjson : Cjson) (keyspace : Keyspace Key) : Prop :=
  ∀ id raw, (keyspace.fields .claims).lookup id = some raw →
    ∃ claim : TaskClaim, claim.tasks ≠ [] ∧ claim.claimId = id ∧
      raw = cjson.encode claim.toJson

/-- The tasks of the claim with the given id, none when there is no claim. -/
def tasksOf (cjson : Cjson) (keyspace : Keyspace Key) (id : String) : List String :=
  ((keyspace.fields .claims).lookup id).elim [] (claimTasks cjson)

theorem texts_storedItems (cjson : Cjson) (keyspace : Keyspace Key) (id : String) :
    texts cjson (storedItems cjson keyspace id) = tasksOf cjson keyspace id := by
  unfold storedItems tasksOf
  cases (keyspace.fields .claims).lookup id <;> rfl

theorem sendable_of_claimsValid {cjson : Cjson} (roundTrips : RoundTrips cjson)
    {keyspace : Keyspace Key} (valid : ClaimsValid cjson keyspace) (id : String) :
    ∀ item ∈ storedItems cjson keyspace id, sendable cjson item = true := by
  intro item member
  unfold storedItems at member
  cases found : (keyspace.fields .claims).lookup id with
  | none => simp [found] at member
  | some raw =>
      rcases valid id raw found with ⟨claim, nonempty, -, rfl⟩
      rw [found, Option.elim_some, claimItems_encode roundTrips nonempty] at member
      rcases List.mem_map.mp member with ⟨task, -, rfl⟩
      rfl

/-- A recovery changes nothing, or removes the expired claims and places their
tasks. -/
theorem run_recover {cjson : Cjson} (roundTrips : RoundTrips cjson) {keyspace : Keyspace Key}
    (valid : ClaimsValid cjson keyspace) (actorId : String) (now : Option Int) :
    ((recover cjson (recoverExpiredArgs actorId now)).run keyspace).2 = keyspace ∨
    Recovered actorId dlqMaxLength
      ((expiredIds (recoverExpiredArgs actorId now) keyspace).map fun id =>
        (id, tasksOf cjson keyspace id)) keyspace
      ((recover cjson (recoverExpiredArgs actorId now)).run keyspace).2 := by
  by_cases passes : PassesChecks cjson (recoverExpiredArgs actorId now) keyspace
  · obtain ⟨recovered, deadlettered, after, ran, moved⟩ := run_recover_of_sendable
      (recoverExpiredArgs_capped actorId now) passes
      fun id _ => sendable_of_claimsValid roundTrips valid id
    right
    rw [ran]
    simp only [texts_storedItems] at moved
    exact moved
  · exact Or.inl (run_recover_unchanged passes)

/-! ## Acknowledgement -/

theorem run_delCounters (keys : List (Option Key)) (keyspace : Keyspace Key) :
    ∃ after, (delCounters keys).run keyspace = (.ok (), after) ∧
      ∀ key, after.value key = if some key ∈ keys then none else keyspace.value key := by
  induction keys generalizing keyspace with
  | nil => exact ⟨keyspace, rfl, fun key => rfl⟩
  | cons first keys induction =>
      cases first with
      | none =>
          rcases induction keyspace with ⟨after, ran, value⟩
          refine ⟨after, ran, fun key => ?_⟩
          rw [value key]
          simp
      | some cleared =>
          rcases induction (keyspace.store cleared none) with ⟨after, ran, value⟩
          refine ⟨after, ran, fun key => ?_⟩
          rw [value key, Keyspace.store_value]
          by_cases same : key = cleared <;> simp [same]

theorem sameTasks_delCounters {keys : List (Option Key)}
    (counters : ∀ key ∈ keys, key.all Key.isCounter = true) (keyspace : Keyspace Key) :
    ∃ after, (delCounters keys).run keyspace = (.ok (), after) ∧ SameTasks after keyspace := by
  induction keys generalizing keyspace with
  | nil => exact ⟨keyspace, rfl, SameTasks.refl keyspace⟩
  | cons key keys induction =>
      have later : ∀ other ∈ keys, other.all Key.isCounter = true :=
        fun other member => counters other (List.mem_cons_of_mem _ member)
      cases key with
      | none => exact induction later keyspace
      | some key =>
          have counter : key.isCounter = true := by
            simpa using counters (some key) List.mem_cons_self
          rcases induction later (keyspace.store key none) with ⟨after, ran, same⟩
          exact ⟨after, ran, same.trans
            (SameTasks.storeCounter (SameTasks.refl keyspace) counter rfl)⟩

section Ack

variable {cjson : Cjson} {keyspace : Keyspace Key} {claimId actorId sessionId : String}

theorem run_hget_claims (claims : keyspace.admits .claims .hash = true) (id : String) :
    (hget .claims id).run keyspace =
      (.ok ((keyspace.fields .claims).lookup id), keyspace) := by
  simp only [hget, run_typed claims]

theorem run_ack_absent (typed : WellTyped keyspace)
    (absent : (keyspace.fields .claims).lookup claimId = none) :
    (ack cjson claimId actorId sessionId).run keyspace = (.ok .unknownClaim, keyspace) := by
  rw [ack, Script.run_bind_ok (run_hget_claims typed.claims _), absent]
  rfl

section Found

variable {claim : TaskClaim} (roundTrips : RoundTrips cjson) (typed : WellTyped keyspace)
  (tasks : claim.tasks ≠ [])
  (found : (keyspace.fields .claims).lookup claimId = some (cjson.encode claim.toJson))

include roundTrips typed tasks found

/-- Nobody but the owner can acknowledge a claim. -/
theorem run_ack_refused (other : claim.actorId ≠ actorId ∨ claim.sessionId ≠ sessionId) :
    (ack cjson claimId actorId sessionId).run keyspace =
      (.ok (.notOwner claim.sessionId), keyspace) := by
  have fields : (cjson.decode (cjson.encode claim.toJson)).bind ackFields =
      some (claim.actorId, claim.sessionId, claim.tasks.map .string) := by
    simp [roundTrips claim tasks, ackFields, Json.asString, tableItems]
  rw [ack, Script.run_bind_ok (run_hget_claims typed.claims _), found]
  simp only [fields]
  rw [if_pos other]
  rfl

/-- The owner's acknowledgement removes the claim and clears the counters of its tasks. -/
theorem run_ack_owned :
    ∃ after, (ack cjson claimId claim.actorId claim.sessionId).run keyspace =
        (.ok (.acknowledged claim.tasks.length), after) ∧
      SameTasks after (dropClaim keyspace claim.actorId claimId) ∧
      ∀ key, after.value key = if some key ∈ (claim.tasks.map Json.string).map
          (counterKey cjson (some claim.actorId)) then none
        else (dropClaim keyspace claim.actorId claimId).value key := by
  have fields : (cjson.decode (cjson.encode claim.toJson)).bind ackFields =
      some (claim.actorId, claim.sessionId, claim.tasks.map .string) := by
    simp [roundTrips claim tasks, ackFields, Json.asString, tableItems]
  have counters : ∀ key ∈ (claim.tasks.map Json.string).map
      (counterKey cjson (some claim.actorId)), key.all Key.isCounter = true := by
    intro key member
    rcases List.mem_map.mp member with ⟨task, -, rfl⟩
    exact isCounter_counterKey cjson _ task
  rcases run_delCounters ((claim.tasks.map Json.string).map
    (counterKey cjson (some claim.actorId))) (dropClaim keyspace claim.actorId claimId) with
    ⟨after, deleted, value⟩
  rcases sameTasks_delCounters counters (dropClaim keyspace claim.actorId claimId) with
    ⟨other, ran, same⟩
  have isAfter : other = after := congrArg Prod.snd (ran.symm.trans deleted)
  rw [isAfter] at same
  refine ⟨after, ?_, same, value⟩
  rw [ack, Script.run_bind_ok (run_hget_claims typed.claims _), found]
  simp only [fields]
  rw [if_neg (by simp), run_dropClaim typed.claims (typed.index claim.actorId),
    Script.run_bind_ok deleted]
  simp

end Found

/-- An acknowledgement changes nothing, or removes the claim of its owner. -/
theorem run_ack (roundTrips : RoundTrips cjson) (typed : WellTyped keyspace)
    (valid : ClaimsValid cjson keyspace) :
    (∃ reply, (ack cjson claimId actorId sessionId).run keyspace = (.ok reply, keyspace) ∧
      ∀ tasks, reply ≠ .acknowledged tasks) ∨
    ∃ (claim : TaskClaim) (after : Keyspace Key),
      (keyspace.fields .claims).lookup claimId = some (cjson.encode claim.toJson) ∧
      claim.tasks ≠ [] ∧ claim.actorId = actorId ∧ claim.sessionId = sessionId ∧
      (ack cjson claimId actorId sessionId).run keyspace =
        (.ok (.acknowledged claim.tasks.length), after) ∧
      SameTasks after (dropClaim keyspace actorId claimId) := by
  cases found : (keyspace.fields .claims).lookup claimId with
  | none => exact Or.inl ⟨.unknownClaim, run_ack_absent typed found, by simp⟩
  | some raw =>
      rcases valid claimId raw found with ⟨claim, nonempty, -, rfl⟩
      by_cases other : claim.actorId ≠ actorId ∨ claim.sessionId ≠ sessionId
      · exact Or.inl ⟨.notOwner claim.sessionId,
          run_ack_refused roundTrips typed nonempty found other, by simp⟩
      · rcases not_or.mp other with ⟨sameActor, sameSession⟩
        obtain rfl := not_not.mp sameActor
        obtain rfl := not_not.mp sameSession
        rcases run_ack_owned roundTrips typed nonempty found with ⟨after, ran, same, -⟩
        exact Or.inr ⟨claim, after, rfl, nonempty, rfl, rfl, ran, same⟩

end Ack

/-! ## Renewal -/

/-- The claim with a new expiry. -/
def TaskClaim.renewedTo (claim : TaskClaim) (ms : Int) : TaskClaim :=
  { claim with expiresAt := IsoDate.isoFromMs ms }

/-- A claim is renewed by its owner before it expires, to a later instant. -/
structure Renewable (args : RenewArgs) (claim : TaskClaim) (claimedMs expiresMs : Int) : Prop where
  actor : claim.actorId = args.actorId
  session : claim.sessionId = args.sessionId
  claimed : IsoDate.msFromIso claim.claimedAt = some claimedMs
  expires : IsoDate.msFromIso claim.expiresAt = some expiresMs
  live : args.now < expiresMs
  forward : args.now < args.newExpires claimedMs

theorem run_rewrite {α : Type} (cjson : Cjson) {keyspace : Keyspace Key}
    (typed : WellTyped keyspace) {claim : TaskClaim}
    (indexed : claim.claimId ∈ keyspace.scores (.claimsIndex claim.actorId)) (ms : Int)
    (next : Script Key α) :
    (do
      hset .claims claim.claimId (cjson.encode claim.toJson)
      zaddXX (.claimsIndex claim.actorId) (score ms) claim.claimId
      next : Script Key α).run keyspace = next.run (putClaim cjson keyspace claim ms) := by
  obtain ⟨middle, middleEq⟩ : ∃ middle, middle = keyspace.store .claims
      (Value.ofFields ((keyspace.fields .claims).insert claim.claimId
        (cjson.encode claim.toJson))) := ⟨_, rfl⟩
  have stored : (hset .claims claim.claimId (cjson.encode claim.toJson)).run keyspace =
      (.ok (), middle) := by
    simp only [hset, run_typed typed.claims, middleEq]
  have sameScores : middle.scores (.claimsIndex claim.actorId) =
      keyspace.scores (.claimsIndex claim.actorId) := by
    simp [middleEq, Keyspace.scores]
  have stillIndex : middle.admits (.claimsIndex claim.actorId) .zset = true := by
    simpa [middleEq, Keyspace.admits] using typed.index claim.actorId
  have updated : (zaddXX (.claimsIndex claim.actorId) (score ms) claim.claimId).run middle =
      (.ok (), putClaim cjson keyspace claim ms) := by
    rw [putClaim, ← middleEq]
    simp only [zaddXX, run_typed stillIndex, sameScores, indexed, if_true]
  rw [Script.run_bind_ok stored, Script.run_bind_ok updated]

section Renew

variable {cjson : Cjson} {keyspace : Keyspace Key} {args : RenewArgs}

/-- A renewal changes nothing, or rewrites the claim with its new expiry. The
member it updates in the index is taken to be there. -/
theorem run_renew (roundTrips : RoundTrips cjson) (typed : WellTyped keyspace)
    (valid : ClaimsValid cjson keyspace)
    (indexed : ∀ claim : TaskClaim, (keyspace.fields .claims).lookup claim.claimId =
      some (cjson.encode claim.toJson) → claim.tasks ≠ [] →
      claim.claimId ∈ keyspace.scores (.claimsIndex claim.actorId)) :
    (∃ reply, (renew cjson args).run keyspace = (.ok reply, keyspace) ∧
      ∀ text, reply ≠ .renewed text) ∨
    ∃ (claim : TaskClaim) (claimedMs expiresMs : Int),
      (keyspace.fields .claims).lookup claim.claimId = some (cjson.encode claim.toJson) ∧
      claim.tasks ≠ [] ∧ claim.claimId = args.claimId ∧
      Renewable args claim claimedMs expiresMs ∧
      (renew cjson args).run keyspace =
        (.ok (.renewed (IsoDate.isoFromMs (args.newExpires claimedMs))),
          putClaim cjson keyspace (claim.renewedTo (args.newExpires claimedMs))
            (args.newExpires claimedMs)) := by
  have run_eq : (renew cjson args).run keyspace = _ :=
    Script.run_bind_ok (run_hget_claims typed.claims args.claimId)
  rw [run_eq]
  rcases found : (keyspace.fields .claims).lookup args.claimId with _ | raw
  · exact Or.inl ⟨_, rfl, fun _ => RenewReply.noConfusion⟩
  · rcases valid args.claimId raw found with ⟨claim, nonempty, sameId, rfl⟩
    have fields : renewFields claim.toJson =
        some (claim.actorId, claim.sessionId, claim.claimedAt, claim.expiresAt) := by
      simp [renewFields, Json.asString]
    simp only [roundTrips claim nonempty, fields]
    split_ifs with owner
    · exact Or.inl ⟨_, rfl, fun _ => RenewReply.noConfusion⟩
    rcases not_or.mp owner with ⟨sameActor, sameSession⟩
    rcases instants : claimInstants claim.claimedAt claim.expiresAt with _ | ⟨claimedMs, expiresMs⟩
    · exact Or.inl ⟨_, rfl, fun _ => RenewReply.noConfusion⟩
    simp only []
    split_ifs with expired exhausted
    · exact Or.inl ⟨_, rfl, fun _ => RenewReply.noConfusion⟩
    · exact Or.inl ⟨_, rfl, fun _ => RenewReply.noConfusion⟩
    right
    obtain ⟨claimed, expires⟩ : IsoDate.msFromIso claim.claimedAt = some claimedMs ∧
        IsoDate.msFromIso claim.expiresAt = some expiresMs := by
      unfold claimInstants at instants
      cases first : IsoDate.msFromIso claim.expiresAt with
      | none => simp [first] at instants
      | some ms =>
          cases second : IsoDate.msFromIso claim.claimedAt with
          | none => simp [first, second] at instants
          | some ms' => simpa [first, second] using instants
    have sameActor := not_not.mp sameActor
    refine ⟨claim, claimedMs, expiresMs, by rw [sameId, found], nonempty, sameId,
      ⟨sameActor, not_not.mp sameSession, claimed, expires, by omega, by omega⟩, ?_⟩
    rw [TaskClaim.setField_expiresAt, ← sameActor, ← sameId]
    exact @run_rewrite RenewReply cjson keyspace typed
      (claim.renewedTo (args.newExpires claimedMs))
      (indexed claim (by rw [sameId, found]) nonempty) _ _

end Renew

/-! ## Requeue -/

section Requeue

variable {cjson : Cjson} {keyspace : Keyspace Key} {actorId wanted : String}

/-- Move one dead letter to the inbox tail. -/
def requeued (keyspace : Keyspace Key) (actorId payload : String) : Keyspace Key :=
  (pushInbox keyspace actorId payload).store (.dlq actorId)
    (Value.ofItems ((keyspace.items (.dlq actorId)).erase payload))

/-- A requeue moves the newest dead letter with the id and clears its counter. -/
theorem run_requeue_eq (typed : WellTyped keyspace) :
    (requeue cjson actorId wanted).run keyspace =
      match (keyspace.items (.dlq actorId)).find? fun payload =>
        messageId cjson payload == some wanted with
      | none => (.ok false, keyspace)
      | some payload => (.ok true, (requeued keyspace actorId payload).store
          (Key.recoverCount actorId wanted) none) := by
  have read : (lrange (.dlq actorId)).run keyspace =
      (.ok (keyspace.items (.dlq actorId)), keyspace) := by
    simp only [lrange, run_typed (typed.dlq actorId)]
  have run_eq : (requeue cjson actorId wanted).run keyspace = _ := Script.run_bind_ok read
  rw [run_eq]
  cases (keyspace.items (.dlq actorId)).find? fun payload =>
    messageId cjson payload == some wanted with
  | none => rfl
  | some payload =>
      have stillList : (pushInbox keyspace actorId payload).admits (.dlq actorId) .list = true :=
        (WellTyped.pushInbox typed actorId payload).dlq actorId
      have sameDead : (pushInbox keyspace actorId payload).items (.dlq actorId) =
          keyspace.items (.dlq actorId) := by
        simp [pushInbox, Keyspace.items]
      have removed : (lrem (.dlq actorId) payload).run (pushInbox keyspace actorId payload) =
          (.ok (), requeued keyspace actorId payload) := by
        simp only [lrem, run_typed stillList, sameDead, requeued]
      simp only []
      rw [Script.run_bind_ok (run_rpush_inbox (typed.inbox actorId) payload),
        Script.run_bind_ok removed]
      rfl

/-- A requeue changes nothing, or moves one dead letter. -/
theorem run_requeue (typed : WellTyped keyspace) :
    ((requeue cjson actorId wanted).run keyspace).2 = keyspace ∨
    ∃ payload ∈ keyspace.items (.dlq actorId),
      SameTasks ((requeue cjson actorId wanted).run keyspace).2
        (requeued keyspace actorId payload) := by
  rw [run_requeue_eq typed]
  cases found : (keyspace.items (.dlq actorId)).find? fun payload =>
    messageId cjson payload == some wanted with
  | none => exact Or.inl rfl
  | some payload =>
      right
      exact ⟨payload, List.mem_of_find?_eq_some found,
        SameTasks.storeCounter (SameTasks.refl _) rfl rfl⟩

end Requeue

/-! ## Purge -/

theorem run_isKind (key : Key) (kind : Kind) (keyspace : Keyspace Key) :
    (isKind key kind).run keyspace =
      (.ok ((keyspace.value key).map Value.kind == some kind), keyspace) := rfl

/-- The claims of the given ids, and nothing else, have been removed from the
hash. -/
structure Erased (ids : List String) (before after : Keyspace Key) : Prop where
  typed : WellTyped before → WellTyped after
  value : ∀ key, key ≠ .claims → after.value key = before.value key
  lookup : ∀ id, (after.fields .claims).lookup id =
    if id ∈ ids then none else (before.fields .claims).lookup id

theorem Erased.refl_nil (keyspace : Keyspace Key) : Erased [] keyspace keyspace :=
  ⟨id, fun _ _ => rfl, fun _ => by simp⟩

/-- The counters of the string tasks of the claims with the given ids. -/
def CountersOf (cjson : Cjson) (actor : String) (keyspace : Keyspace Key) (ids : List String)
    (counters : List (Option Key)) : Prop :=
  ∀ key, key ∈ counters ↔ ∃ id ∈ ids, ∃ raw,
    (keyspace.fields .claims).lookup id = some raw ∧ key ∈ purgedCounters cjson actor raw

theorem isCounter_purgedCounters {cjson : Cjson} {actor raw : String} {key : Option Key}
    (member : key ∈ purgedCounters cjson actor raw) : key.all Key.isCounter = true := by
  rw [purgedCounters] at member
  split at member
  · cases member
  · rcases List.mem_map.mp member with ⟨task, -, rfl⟩
    exact isCounter_counterKey cjson _ task

theorem CountersOf.isCounter {cjson : Cjson} {actor : String} {keyspace : Keyspace Key}
    {ids : List String} {counters : List (Option Key)}
    (counted : CountersOf cjson actor keyspace ids counters) :
    ∀ key ∈ counters, key.all Key.isCounter = true := by
  intro key member
  rcases (counted key).mp member with ⟨id, -, raw, -, inside⟩
  exact isCounter_purgedCounters inside

theorem CountersOf.nil (cjson : Cjson) (actor : String) (keyspace : Keyspace Key) :
    CountersOf cjson actor keyspace [] [] := by
  intro key
  constructor
  · intro member
    cases member
  · rintro ⟨id, member, -⟩
    cases member

theorem run_purgeClaims (cjson : Cjson) (actor : String) {ids : List String}
    {keyspace : Keyspace Key} (claims : keyspace.admits .claims .hash = true) :
    ∃ counters after, (purgeClaims cjson actor ids).run keyspace = (.ok counters, after) ∧
      CountersOf cjson actor keyspace ids counters ∧ Erased ids keyspace after := by
  induction ids generalizing keyspace with
  | nil => exact ⟨[], keyspace, rfl, CountersOf.nil cjson actor keyspace, Erased.refl_nil keyspace⟩
  | cons id ids induction =>
      obtain ⟨erased, erasedEq⟩ : ∃ erased, erased = keyspace.store .claims
          (Value.ofFields ((keyspace.fields .claims).erase id)) := ⟨_, rfl⟩
      have read := run_hget_claims claims id
      have removed : (hdel .claims id).run keyspace = (.ok (), erased) := by
        simp only [hdel, run_typed claims, erasedEq]
      have stillHash : erased.admits .claims .hash = true := by
        simp [erasedEq, Keyspace.admits]
      have fields : erased.fields .claims = (keyspace.fields .claims).erase id := by
        simp [erasedEq, Keyspace.fields]
      rcases induction stillHash with ⟨counters, after, ran, counted, rest⟩
      refine ⟨((keyspace.fields .claims).lookup id).elim [] (purgedCounters cjson actor) ++
        counters, after, ?_, ?_, ?_⟩
      · rw [purgeClaims, Script.run_bind_ok read, Script.run_bind_ok removed,
          Script.run_bind_ok ran]
        rfl
      · intro key
        rw [List.mem_append, counted key, fields]
        constructor
        · rintro (first | ⟨other, inside, raw, found, member⟩)
          · cases found : (keyspace.fields .claims).lookup id with
            | none => simp [found] at first
            | some raw =>
                rw [found, Option.elim_some] at first
                exact ⟨id, List.mem_cons_self, raw, found, first⟩
          · have different : other ≠ id := by
              rintro rfl
              simp at found
            rw [AList.lookup_erase_ne different] at found
            exact ⟨other, List.mem_cons_of_mem _ inside, raw, found, member⟩
        · rintro ⟨other, inside, raw, found, member⟩
          by_cases same : other = id
          · subst same
            left
            rw [found, Option.elim_some]
            exact member
          · have later : other ∈ ids := (List.mem_cons.mp inside).resolve_left same
            exact Or.inr ⟨other, later, raw, by rw [AList.lookup_erase_ne same, found], member⟩
      · refine ⟨fun typed => rest.typed ?_, fun key different => ?_, fun other => ?_⟩
        · rw [erasedEq]
          exact typed.store (by simp [Key.kind])
        · rw [rest.value key different, erasedEq]
          simp [different]
        · rw [rest.lookup, fields]
          by_cases same : other = id
          · subst same
            simp [AList.lookup_erase]
          · simp [same, AList.lookup_erase_ne same]

/-- The claim state of an actor has been deleted. -/
structure Purged (actor : String) (before after : Keyspace Key) : Prop where
  typed : WellTyped after
  lookup : ∀ id, (after.fields .claims).lookup id =
    if id ∈ before.scores (.claimsIndex actor) then none
    else (before.fields .claims).lookup id
  own : after.scores (.claimsIndex actor) = ∅
  others : ∀ other, other ≠ actor →
    after.scores (.claimsIndex other) = before.scores (.claimsIndex other)

section Purge

variable (cjson : Cjson) (actor : String) (keyspace : Keyspace Key)

theorem run_indexedIds :
    (indexedIds actor).run keyspace =
      (.ok (sortedMembers (keyspace.scores (.claimsIndex actor))), keyspace) := by
  rw [indexedIds, Script.run_bind_ok (run_isKind _ _ _)]
  cases held : keyspace.value (.claimsIndex actor) with
  | none => simp [Keyspace.scores, held, sortedMembers]
  | some value =>
      cases value with
      | zset members =>
          have index : keyspace.admits (.claimsIndex actor) .zset = true := by
            simp [Keyspace.admits, held, Value.kind]
          simp [zrange, run_typed index, Value.kind]
      | _ => simp [Keyspace.scores, held, sortedMembers, Value.kind, Value.scores]

theorem run_deadPayloads :
    (deadPayloads actor).run keyspace = (.ok (keyspace.items (.dlq actor)), keyspace) := by
  rw [deadPayloads, Script.run_bind_ok (run_isKind _ _ _)]
  cases held : keyspace.value (.dlq actor) with
  | none => simp [Keyspace.items, held]
  | some value =>
      cases value with
      | list items =>
          have list : keyspace.admits (.dlq actor) .list = true := by
            simp [Keyspace.admits, held, Value.kind]
          simp [lrange, run_typed list, Value.kind]
      | _ => simp [Keyspace.items, held, Value.kind, Value.items]

/-- A hash of another type is left alone, and none of its fields are counted. -/
theorem run_purgeIndexed (ids : List String) :
    ∃ counters after, (purgeIndexed cjson actor ids).run keyspace = (.ok counters, after) ∧
      CountersOf cjson actor keyspace ids counters ∧ Erased ids keyspace after := by
  have skipped : keyspace.fields .claims = ∅ → CountersOf cjson actor keyspace ids [] ∧
      Erased ids keyspace keyspace := by
    intro noFields
    refine ⟨fun key => ?_, id, fun _ _ => rfl, fun other => ?_⟩
    · constructor
      · intro member
        cases member
      · rintro ⟨id, -, raw, found, -⟩
        simp [noFields] at found
    · simp [noFields]
  unfold purgeIndexed
  split
  · next empty =>
      subst empty
      exact ⟨[], keyspace, rfl, CountersOf.nil cjson actor keyspace, Erased.refl_nil keyspace⟩
  · rw [Script.run_bind_ok (run_isKind _ _ _)]
    cases held : keyspace.value .claims with
    | none => exact ⟨[], keyspace, by simp, skipped (by simp [Keyspace.fields, held])⟩
    | some value =>
        cases value with
        | hash fields =>
            have claims : keyspace.admits .claims .hash = true := by
              simp [Keyspace.admits, held, Value.kind]
            simpa [Value.kind] using run_purgeClaims cjson actor claims
        | _ =>
            exact ⟨[], keyspace, by simp [Value.kind],
              skipped (by simp [Keyspace.fields, held, Value.fields])⟩

variable {keyspace : Keyspace Key} (typed : WellTyped keyspace)

include typed

/-- A purge never fails here, and removes the claims in the actor's index. -/
theorem run_purgeActorClaims :
    ∃ count after, (purgeActorClaims cjson actor).run keyspace = (.ok count, after) ∧
      Purged actor keyspace after := by
  obtain ⟨counters, erased, ran, counted, erasure⟩ := run_purgeIndexed cjson actor keyspace
    (sortedMembers (keyspace.scores (.claimsIndex actor)))
  have erasedTyped := erasure.typed typed
  obtain ⟨counted, deleted, same⟩ := @sameTasks_delCounters
    (counters ++ (erased.items (.dlq actor)).map fun payload =>
      counterKey cjson (some actor) (.string payload))
    (fun key member => by
      rcases List.mem_append.mp member with first | later
      · exact counted.isCounter key first
      · rcases List.mem_map.mp later with ⟨payload, -, rfl⟩
        exact isCounter_counterKey cjson _ _) erased
  have countedTyped := same.wellTyped erasedTyped
  refine ⟨(sortedMembers (keyspace.scores (.claimsIndex actor))).length,
    (((counted.store (.claimsIndex actor) none).store (.dlq actor) none).store
      (.inboxEvents actor) none).store (.inboxTrace actor) none, ?_, ?_, ?_, ?_, ?_⟩
  · rw [purgeActorClaims, Script.run_bind_ok (run_indexedIds actor keyspace),
      Script.run_bind_ok ran, Script.run_bind_ok (run_deadPayloads actor erased),
      Script.run_bind_ok deleted]
    rfl
  · exact (((countedTyped.store rfl).store rfl).store rfl).store rfl
  · intro id
    have fields : ((((counted.store (.claimsIndex actor) none).store (.dlq actor) none).store
        (.inboxEvents actor) none).store (.inboxTrace actor) none).fields .claims =
          erased.fields .claims := by
      rw [← same.fields_eq]
      simp [Keyspace.fields]
    rw [fields, erasure.lookup]
    simp only [mem_sortedMembers]
  · simp [Keyspace.scores]
  · intro other different
    have kept := same.scores_eq other
    rw [Keyspace.scores, Keyspace.scores, erasure.value _ (by simp)] at kept
    simpa [Keyspace.scores, different] using kept

end Purge

/-! ## Transfer -/

/-- Move all messages of one list to the tail of another. -/
def transferred (keyspace : Keyspace Key) (source destination : Key) : Keyspace Key :=
  if keyspace.items source = [] then keyspace
  else
    (keyspace.store destination
      (Value.ofItems (keyspace.items destination ++ keyspace.items source))).store source none

/-- Move all dead letters of one list to the head of another, and trim it. -/
def transferredDead (keyspace : Keyspace Key) (source destination : Key) (bound : Nat) :
    Keyspace Key :=
  if keyspace.items source = [] then keyspace
  else
    { (keyspace.store destination (Value.ofItems
        ((keyspace.items source ++ keyspace.items destination).take bound))).store source none with
      trimmed := keyspace.trimmed ++
        (keyspace.items source ++ keyspace.items destination).drop bound }

theorem WellTyped.transferred {keyspace : Keyspace Key} (typed : WellTyped keyspace)
    (source destination : String) :
    WellTyped (transferred keyspace (.queue source) (.queue destination)) := by
  unfold Claims.transferred
  split
  · exact typed
  · exact (typed.store (by simp [Key.kind])).store rfl

theorem WellTyped.transferredDead {keyspace : Keyspace Key} (typed : WellTyped keyspace)
    (source destination : String) (bound : Nat) :
    WellTyped (transferredDead keyspace (.dlq source) (.dlq destination) bound) := by
  unfold Claims.transferredDead
  split
  · exact typed
  · have stored : WellTyped ((keyspace.store (.dlq destination) (Value.ofItems
        ((keyspace.items (.dlq source) ++ keyspace.items (.dlq destination)).take bound))).store
        (.dlq source) none) :=
      (typed.store (by simp [Key.kind])).store rfl
    exact stored

/-- Pushing a list in parts is pushing it whole. -/
theorem run_rpushChunks {key : Key} {parts : List (List String)} {keyspace : Keyspace Key}
    (isList : keyspace.admits key .list = true) (nonempty : parts ≠ []) :
    (rpushChunks key parts).run keyspace =
      (.ok (), keyspace.store key (Value.ofItems (keyspace.items key ++ parts.flatten))) := by
  induction parts generalizing keyspace with
  | nil => exact absurd rfl nonempty
  | cons part parts induction =>
      have pushed : (rpush key part).run keyspace =
          (.ok (), keyspace.store key (Value.ofItems (keyspace.items key ++ part))) := by
        simp only [rpush, run_typed isList]
      rw [rpushChunks, Script.run_bind_ok pushed]
      cases parts with
      | nil => simp [rpushChunks]
      | cons next rest =>
          rw [induction (by simp [Keyspace.admits]) (by simp)]
          simp [Keyspace.items, Keyspace.store_store]

theorem run_lpushChunks {key : Key} {parts : List (List String)} {keyspace : Keyspace Key}
    (isList : keyspace.admits key .list = true) (nonempty : parts ≠ []) :
    (lpushChunks key parts).run keyspace =
      (.ok (), keyspace.store key
        (Value.ofItems (parts.flatten.reverse ++ keyspace.items key))) := by
  induction parts generalizing keyspace with
  | nil => exact absurd rfl nonempty
  | cons part parts induction =>
      have pushed : (lpush key part).run keyspace =
          (.ok (), keyspace.store key (Value.ofItems (part.reverse ++ keyspace.items key))) := by
        simp only [lpush, run_typed isList]
      rw [lpushChunks, Script.run_bind_ok pushed]
      cases parts with
      | nil => simp [lpushChunks]
      | cons next rest =>
          rw [induction (by simp [Keyspace.admits]) (by simp)]
          simp [Keyspace.items, Keyspace.store_store]

theorem run_migrateInbox {source destination : Key} {keyspace : Keyspace Key}
    (sourceList : keyspace.admits source .list = true)
    (destinationList : keyspace.admits destination .list = true) :
    (migrateInbox source destination).run keyspace =
      (.ok (keyspace.items source).length, transferred keyspace source destination) := by
  have read : (lrange source).run keyspace = (.ok (keyspace.items source), keyspace) := by
    simp only [lrange, run_typed sourceList]
  rw [migrateInbox, Script.run_bind_ok read]
  by_cases empty : keyspace.items source = []
  · simp [transferred, empty, Script.when, Script.run_bind]
  · have moved : (Script.when (keyspace.items source ≠ []) (do
        rpushChunks destination (chunks (keyspace.items source))
        del source) : Script Key Unit).run keyspace =
          (.ok (), transferred keyspace source destination) := by
      rw [Script.when, if_pos empty, Script.run_bind_ok (run_rpushChunks destinationList
        (chunks_ne_nil empty)), flatten_chunks, transferred, if_neg empty]
      rfl
    rw [Script.run_bind_ok moved]
    rfl

theorem run_migrateDeadLetters {source destination : Key} (different : source ≠ destination)
    {keyspace : Keyspace Key} (sourceList : keyspace.admits source .list = true)
    (destinationList : keyspace.admits destination .list = true) (bound : Nat) :
    (migrateDeadLetters source destination bound).run keyspace =
      (.ok (), transferredDead keyspace source destination bound) := by
  have read : (lrange source).run keyspace = (.ok (keyspace.items source), keyspace) := by
    simp only [lrange, run_typed sourceList]
  rw [migrateDeadLetters, if_neg different, Script.run_bind_ok read]
  by_cases empty : keyspace.items source = []
  · simp [transferredDead, empty]
  · have reversed : (keyspace.items source).reverse ≠ [] := by simpa using empty
    rw [if_neg empty, Script.run_bind_ok (run_lpushChunks destinationList (chunks_ne_nil reversed)),
      flatten_chunks, List.reverse_reverse, Script.run_bind]
    have stillList : (keyspace.store destination (Value.ofItems
        (keyspace.items source ++ keyspace.items destination))).admits destination .list =
          true := by
      simp [Keyspace.admits]
    simp only [ltrim, run_typed stillList]
    rw [transferredDead, if_neg empty]
    simp only [Keyspace.items, Keyspace.store_value, if_true, Value.items_ofItems,
      Keyspace.store_store, Keyspace.store_trimmed]
    rfl

/-- A transfer changes nothing, or moves the inbox and, with a bound, the dead
letters. -/
theorem run_migrate {keyspace : Keyspace Key} (typed : WellTyped keyspace)
    (source destination : String) (guarded : Bool) (deadLetterBound : Option Nat) :
    ((migrate source destination guarded deadLetterBound).run keyspace).2 = keyspace ∨
    source ≠ destination ∧
      ((migrate source destination guarded deadLetterBound).run keyspace).2 =
        (match deadLetterBound with
        | none => transferred keyspace (.queue source) (.queue destination)
        | some bound => transferredDead
            (transferred keyspace (.queue source) (.queue destination))
            (.dlq source) (.dlq destination) bound) := by
  by_cases same : source = destination
  · exact Or.inl (by unfold migrate; rw [if_pos same]; rfl)
  have guard : ∃ outstanding, (outstandingClaims source guarded).run keyspace =
      (.ok outstanding, keyspace) := by
    cases guarded with
    | true =>
        refine ⟨(keyspace.scores (.claimsIndex source)).entries.length, ?_⟩
        simp only [outstandingClaims, if_true, zcard, run_typed (typed.index source)]
    | false => exact ⟨0, rfl⟩
  rcases guard with ⟨outstanding, guarded⟩
  unfold migrate
  rw [if_neg same, Script.run_bind_ok guarded]
  by_cases held : 0 < outstanding
  · exact Or.inl (by rw [if_pos held]; rfl)
  rw [if_neg held]
  have moved := run_migrateInbox (typed.inbox source) (typed.inbox destination)
  refine Or.inr ⟨same, ?_⟩
  cases deadLetterBound with
  | none => simp only [Script.run_bind_ok moved, Script.run_pure]
  | some bound =>
      have checked : (checkDeadLetters (.dlq source) (.dlq destination)).run keyspace =
          (.ok (), keyspace) := by
        rw [checkDeadLetters, Script.run_bind_ok (run_holds _ _ _),
          Script.run_bind_ok (run_holds _ _ _), typed.dlq source, typed.dlq destination]
        rfl
      have middle := WellTyped.transferred typed source destination
      have dead := @run_migrateDeadLetters (.dlq source) (.dlq destination) (by simpa using same)
        (transferred keyspace (.queue source) (.queue destination))
        (middle.dlq source) (middle.dlq destination) bound
      simp only [Script.run_bind_ok checked, Script.run_bind_ok moved, Script.run_bind_ok dead,
        Script.run_pure]

end GptQueue.Claims
