import GptQueue.Claims.System

/-! # Purging an actor

A purge returns whatever the keys hold, and it deletes the claim state of its actor and of
no other.
-/

namespace GptQueue.Claims

open Redis

section Messages

variable (cjson : Cjson) (keyspace : Keyspace Key) (actor : String)

/-- The payload is a message with this id. -/
def Carries (payload id : String) : Prop :=
  ∃ message, cjson.decode payload = some message ∧ message.field "id" = some (.string id) ∧ id ≠ ""

/-- The payload is a dead letter of the actor, or a task of a claim in its index. -/
inductive Holds (payload : String) : Prop
  | claimed (id raw : String) (claim : Json) (items : List Json)
      (indexed : id ∈ keyspace.scores (.claimsIndex actor))
      (found : (keyspace.fields .claims).lookup id = some raw)
      (decoded : cjson.decode raw = some claim)
      (tasks : tableItems (claim.field "tasks") = some items)
      (task : .string payload ∈ items)
  | dead (inside : payload ∈ keyspace.items (.dlq actor))

/-- The index of the actor lists only claims that are stored for it. -/
def ListsOwn : Prop :=
  ∀ id ∈ keyspace.scores (.claimsIndex actor), ∃ raw claim,
    (keyspace.fields .claims).lookup id = some raw ∧ cjson.decode raw = some claim ∧
      claim.field "actor_id" = some (.string actor)

/-- The ids of the messages that the actor holds have no colon. -/
def HoldsPlainIds : Prop :=
  ∀ payload id, Holds cjson keyspace actor payload → Carries cjson payload id → ':' ∉ id.toList

variable {cjson keyspace actor}

theorem trackedId_iff {payload id : String} :
    trackedId cjson payload = some id ↔ Carries cjson payload id := by
  rw [trackedId, messageId, Option.filter_eq_some_iff, decide_eq_true_eq]
  constructor
  · rintro ⟨isId, nonempty⟩
    cases decoded : cjson.decode payload with
    | none =>
        rw [decoded] at isId
        cases isId
    | some message =>
        rw [decoded, Option.bind_some] at isId
        cases field : message.field "id" with
        | none =>
            rw [field] at isId
            cases isId
        | some value =>
            rw [field] at isId
            cases value with
            | string text =>
                cases isId
                exact ⟨message, decoded, field, nonempty⟩
            | _ => cases isId
  · rintro ⟨message, decoded, field, nonempty⟩
    rw [decoded, Option.bind_some, field]
    exact ⟨rfl, nonempty⟩

theorem counterKey_iff {item : Json} {key : Key} :
    counterKey cjson (some actor) item = some key ↔
      ∃ payload id, item = .string payload ∧ Carries cjson payload id ∧
        key = Key.recoverCount actor id := by
  constructor
  · intro isKey
    cases item with
    | string payload =>
        rcases Option.bind_eq_some_iff.mp isKey with ⟨id, tracked, same⟩
        cases same
        exact ⟨payload, id, rfl, trackedId_iff.mp tracked, rfl⟩
    | _ => cases isKey
  · rintro ⟨payload, id, rfl, carries, rfl⟩
    change (trackedId cjson payload).bind _ = _
    rw [trackedId_iff.mpr carries]
    rfl

theorem mem_purgedCounters {raw : String} {key : Key} :
    some key ∈ purgedCounters cjson actor raw ↔
      ∃ claim items, cjson.decode raw = some claim ∧
        tableItems (claim.field "tasks") = some items ∧
        ∃ payload id, .string payload ∈ items ∧ Carries cjson payload id ∧
          key = Key.recoverCount actor id := by
  rw [purgedCounters]
  constructor
  · intro member
    split at member
    · cases member
    next items isItems =>
      rcases Option.bind_eq_some_iff.mp isItems with ⟨claim, decoded, tasks⟩
      rcases List.mem_map.mp member with ⟨item, inside, isKey⟩
      rcases counterKey_iff.mp isKey with ⟨payload, id, rfl, carries, isCount⟩
      exact ⟨claim, items, decoded, tasks, payload, id, inside, carries, isCount⟩
  · rintro ⟨claim, items, decoded, tasks, payload, id, inside, carries, isCount⟩
    rw [decoded, Option.bind_some, tasks]
    exact List.mem_map.mpr ⟨.string payload, inside,
      counterKey_iff.mpr ⟨payload, id, rfl, carries, isCount⟩⟩

/-- The counters that a purge collects are those of the messages that the actor holds. -/
theorem counters_iff {counters : List (Option Key)}
    (counted : CountersOf cjson actor keyspace
      (sortedMembers (keyspace.scores (.claimsIndex actor))) counters) {key : Key} :
    some key ∈ counters ++ (keyspace.items (.dlq actor)).map (fun payload =>
        counterKey cjson (some actor) (.string payload)) ↔
      ∃ payload id, Holds cjson keyspace actor payload ∧ Carries cjson payload id ∧
        key = Key.recoverCount actor id := by
  rw [List.mem_append, counted (some key)]
  constructor
  · rintro (⟨id, inside, raw, found, member⟩ | dead)
    · rcases mem_purgedCounters.mp member with
        ⟨claim, items, decoded, tasks, payload, messageId, task, carries, isCount⟩
      exact ⟨payload, messageId, .claimed id raw claim items (mem_sortedMembers.mp inside) found
        decoded tasks task, carries, isCount⟩
    · rcases List.mem_map.mp dead with ⟨payload, inside, isKey⟩
      rcases counterKey_iff.mp isKey with ⟨other, id, same, carries, isCount⟩
      cases same
      exact ⟨payload, id, .dead inside, carries, isCount⟩
  · rintro ⟨payload, id, holds, carries, isCount⟩
    cases holds with
    | claimed claimId raw claim items indexed found decoded tasks task =>
        exact Or.inl ⟨claimId, mem_sortedMembers.mpr indexed, raw, found,
          mem_purgedCounters.mpr
            ⟨claim, items, decoded, tasks, payload, id, task, carries, isCount⟩⟩
    | dead inside =>
        exact Or.inr (List.mem_map.mpr ⟨payload, inside,
          counterKey_iff.mpr ⟨payload, id, rfl, carries, isCount⟩⟩)

end Messages

/-! ## The run -/

/-- The keys that a purge deletes whole. -/
def IsClaimState (actor : String) (key : Key) : Prop :=
  key = .claimsIndex actor ∨ key = .dlq actor ∨ key = .inboxEvents actor ∨ key = .inboxTrace actor

/-- What a purge leaves: the hash without the claims in the index, no claim state, and every
other key unchanged but the counters of the messages that the actor held. -/
structure Purges (cjson : Cjson) (actor : String) (before after : Keyspace Key) : Prop where
  absent : ∀ key, IsClaimState actor key → after.value key = none
  lookup : ∀ id, (after.fields .claims).lookup id =
    if id ∈ before.scores (.claimsIndex actor) then none else (before.fields .claims).lookup id
  counters : ∀ payload id, Holds cjson before actor payload → Carries cjson payload id →
    after.value (Key.recoverCount actor id) = none
  others : ∀ key, key ≠ .claims → ¬IsClaimState actor key →
    (∀ payload id, Holds cjson before actor payload → Carries cjson payload id →
      key ≠ Key.recoverCount actor id) → after.value key = before.value key

theorem run_purge_any (cjson : Cjson) (actor : String) (keyspace : Keyspace Key) :
    ∃ count after, (purgeActorClaims cjson actor).run keyspace = (.ok count, after) ∧
      Purges cjson actor keyspace after := by
  obtain ⟨counters, erased, ran, counted, erasure⟩ := run_purgeIndexed cjson actor keyspace
    (sortedMembers (keyspace.scores (.claimsIndex actor)))
  have sameDead : erased.items (.dlq actor) = keyspace.items (.dlq actor) := by
    rw [Keyspace.items, Keyspace.items, erasure.value _ Key.noConfusion]
  obtain ⟨deleted, deletes, values⟩ := run_delCounters
    (counters ++ (keyspace.items (.dlq actor)).map fun payload =>
      counterKey cjson (some actor) (.string payload)) erased
  have collected := @counters_iff cjson keyspace actor counters counted
  obtain ⟨last, isLast⟩ : ∃ last, last =
      (((deleted.store (.claimsIndex actor) none).store (.dlq actor) none).store
        (.inboxEvents actor) none).store (.inboxTrace actor) none := ⟨_, rfl⟩
  have outside : ∀ key, ¬IsClaimState actor key → last.value key = deleted.value key := by
    intro key other
    rw [IsClaimState, not_or, not_or, not_or] at other
    simp [isLast, other]
  refine ⟨(sortedMembers (keyspace.scores (.claimsIndex actor))).length, last, ?_, ?_⟩
  · rw [purgeActorClaims, Script.run_bind_ok (run_indexedIds actor keyspace),
      Script.run_bind_ok ran, Script.run_bind_ok (run_deadPayloads actor erased), sameDead,
      Script.run_bind_ok deletes, isLast]
    rfl
  constructor
  · intro key isState
    rcases isState with rfl | rfl | rfl | rfl <;> simp [isLast]
  · intro id
    have notCounter : some Key.claims ∉ counters ++ (keyspace.items (.dlq actor)).map fun payload =>
        counterKey cjson (some actor) (.string payload) := by
      intro member
      rcases collected.mp member with ⟨payload, message, -, -, same⟩
      cases same
    have fields : last.fields .claims = erased.fields .claims := by
      rw [Keyspace.fields, Keyspace.fields, outside _ (by simp [IsClaimState]), values,
        if_neg notCounter]
    rw [fields, erasure.lookup]
    simp only [mem_sortedMembers]
  · intro payload id holds carries
    have inside := collected.mpr ⟨payload, id, holds, carries, rfl⟩
    rw [outside _ (by simp [IsClaimState, Key.recoverCount]), values, if_pos inside]
  · intro key notClaims notState notCounter
    have kept : some key ∉ counters ++ (keyspace.items (.dlq actor)).map fun payload =>
        counterKey cjson (some actor) (.string payload) := by
      intro member
      rcases collected.mp member with ⟨payload, id, holds, carries, same⟩
      exact notCounter payload id holds carries same
    rw [outside key notState, values, if_neg kept, erasure.value key notClaims]

/-! ## The frame -/

/-- The claims and counters of the actor are gone, and every other actor has its own. -/
structure PurgesOwn (cjson : Cjson) (actor : String) (before after : Keyspace Key) : Prop where
  claims : ∀ id ∈ before.scores (.claimsIndex actor), (after.fields .claims).lookup id = none
  counters : ∀ payload id, Holds cjson before actor payload → Carries cjson payload id →
    after.value (Key.recoverCount actor id) = none
  otherClaims : ∀ id raw claim, (before.fields .claims).lookup id = some raw →
    cjson.decode raw = some claim → claim.field "actor_id" ≠ some (.string actor) →
      (after.fields .claims).lookup id = some raw
  otherState : ∀ other, other ≠ actor → ∀ key, IsClaimState other key →
    after.value key = before.value key
  otherCounters : ∀ other, other ≠ actor → ∀ id, ':' ∉ id.toList →
    after.value (Key.recoverCount other id) = before.value (Key.recoverCount other id)
  others : ∀ key, key ≠ .claims → key.isCounter = false → ¬IsClaimState actor key →
    after.value key = before.value key

theorem Purges.own {cjson : Cjson} {actor : String} {before after : Keyspace Key}
    (purges : Purges cjson actor before after) (listsOwn : ListsOwn cjson before actor)
    (plain : HoldsPlainIds cjson before actor) : PurgesOwn cjson actor before after := by
  have others : ∀ key, key ≠ .claims → key.isCounter = false → ¬IsClaimState actor key →
      after.value key = before.value key := by
    intro key notClaims notCounter notState
    apply purges.others key notClaims notState
    rintro payload id - - rfl
    cases notCounter
  constructor
  · intro id inside
    rw [purges.lookup, if_pos inside]
  · exact purges.counters
  · intro id raw claim found decoded foreign
    have outside : id ∉ before.scores (.claimsIndex actor) := by
      intro inside
      rcases listsOwn id inside with ⟨other, ownClaim, isOther, isOwn, own⟩
      rw [found] at isOther
      cases isOther
      rw [decoded] at isOwn
      cases isOwn
      exact foreign own
    rw [purges.lookup, if_neg outside, found]
  · intro other different key isState
    rcases isState with rfl | rfl | rfl | rfl <;>
      exact others _ Key.noConfusion rfl (by simpa [IsClaimState] using different)
  · intro other different id isPlain
    apply purges.others _ (by simp [Key.recoverCount]) (by simp [IsClaimState, Key.recoverCount])
    intro payload message holds carries same
    have joined := Key.recoverCountFor.inj same
    exact different (join_inj isPlain (plain payload message holds carries) joined).1
  · exact others

/-- A purge never raises, and afterwards the actor has no index, no dead letters and no
streams. Where the index lists only own claims, and no id has a colon, it takes away the
state of the actor and nothing else. -/
theorem purge_total_and_own (cjson : Cjson) (actor : String) (keyspace : Keyspace Key) :
    ∃ count after, (purgeActorClaims cjson actor).run keyspace = (.ok count, after) ∧
      (after.value (.claimsIndex actor) = none ∧ after.value (.dlq actor) = none ∧
        after.value (.inboxEvents actor) = none ∧ after.value (.inboxTrace actor) = none) ∧
      (ListsOwn cjson keyspace actor → HoldsPlainIds cjson keyspace actor →
        PurgesOwn cjson actor keyspace after) := by
  rcases run_purge_any cjson actor keyspace with ⟨count, after, ran, purges⟩
  refine ⟨count, after, ran, ⟨?_, ?_, ?_, ?_⟩, purges.own⟩
  · exact purges.absent _ (Or.inl rfl)
  · exact purges.absent _ (Or.inr (Or.inl rfl))
  · exact purges.absent _ (Or.inr (Or.inr (Or.inl rfl)))
  · exact purges.absent _ (Or.inr (Or.inr (Or.inr rfl)))

end GptQueue.Claims
