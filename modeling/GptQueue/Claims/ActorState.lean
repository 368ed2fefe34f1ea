import GptQueue.Claims.Counters

/-! # The state of one actor

What the keys of an actor hold, without its name: the inbox, the dead letters, the
outstanding claims and the recovery counters. Each claim script is a function of that
state, whatever the actor is called.
-/

namespace GptQueue.Claims

open Redis

@[ext] structure ActorState where
  inbox : List String
  dead : List String
  outstanding : Scores
  /-- The session and the tasks of each claim of the actor. -/
  held : String → Option (String × List String)
  /-- The value of the recovery counter of each message. -/
  counter : String → Option Value

/-- What `INCR` reads from the value of a usable counter. -/
def counted (value : Option Value) : Int :=
  (Value.text value).elim 0 fun text => (Decimal.readInt text.toList).getD 0

/-- Whether the value of a counter is one that `INCR` is sure to accept. -/
def usable : Option Value → Bool
  | none => true
  | some (.string current) => incrementable current
  | some _ => false

namespace ActorState

variable (cjson : Cjson)

def drop (state : ActorState) (id : String) : ActorState :=
  { state with
    outstanding := state.outstanding.erase id
    held := Function.update state.held id none }

/-- Put back one task of an expired claim. -/
def place (state : ActorState) (payload : String) : ActorState :=
  match trackedId cjson payload with
  | none => { state with inbox := state.inbox ++ [payload] }
  | some message =>
      let count := counted (state.counter message) + 1
      if count > recoverCap then
        { state with
          dead := (payload :: state.dead).take dlqMaxLength
          counter := Function.update state.counter message none }
      else
        { state with
          inbox := state.inbox ++ [payload]
          counter := Function.update state.counter message
            (some (.string (String.ofList (Decimal.signed count)))) }

/-- Remove an expired claim and put back its tasks. -/
def release (state : ActorState) (claim : String × List String) : ActorState :=
  claim.2.foldl (place cjson) (state.drop claim.1)

def tasks (state : ActorState) (id : String) : List String := (state.held id).elim [] Prod.snd

/-- The expired claims with their tasks, oldest first. -/
def expired (state : ActorState) (now : Option Int) : List (String × List String) :=
  (now.elim [] fun now => membersUpTo state.outstanding (score (now - 1))).map fun id =>
    (id, state.tasks id)

def recover (state : ActorState) (now : Option Int) : ActorState :=
  if (state.expired now).all fun claim =>
      (tracked cjson claim.2).all fun message => usable (state.counter message) then
    (state.expired now).foldl (release cjson) state
  else state

/-- The actor of the arguments is not read. -/
def claim (state : ActorState) (args : BatchClaimArgs) : ActorState :=
  if args.maxConcurrent ≠ 0 ∧ args.maxConcurrent ≤ state.outstanding.entries.length then state
  else if state.inbox = [] then state
  else
    { state with
      inbox := state.inbox.drop args.maxBatch
      outstanding := state.outstanding.insert args.claimId (score args.expiresAtMs)
      held := Function.update state.held args.claimId
        (some (args.sessionId, state.inbox.take args.maxBatch)) }

def ack (state : ActorState) (id session : String) : ActorState :=
  match state.held id with
  | none => state
  | some (owner, tasks) =>
      if owner = session then
        { state.drop id with
          counter := fun message =>
            if message ∈ tracked cjson tasks then none else state.counter message }
      else state

def requeue (state : ActorState) (wanted : String) : ActorState :=
  match state.dead.find? fun payload => messageId cjson payload == some wanted with
  | none => state
  | some payload =>
      { state with
        inbox := state.inbox ++ [payload]
        dead := state.dead.erase payload
        counter := Function.update state.counter wanted none }

/-- The server removes a counter whose time is up. -/
def lapse (state : ActorState) (message : String) : ActorState :=
  { state with counter := Function.update state.counter message none }

end ActorState

/-! ## The state under a name -/

section View

variable (cjson : Cjson) (keyspace : Keyspace Key) (actor : String)

/-- The session and the tasks of a stored claim, when it is the actor's. -/
def heldBy (id : String) : Option (String × List String) :=
  match ((keyspace.fields .claims).lookup id).bind fun raw =>
      (cjson.decode raw).bind ackFields with
  | none => none
  | some (owner, session, _) =>
      if owner = actor then some (session, tasksOf cjson keyspace id) else none

@[simps] def actorState : ActorState where
  inbox := keyspace.items (.queue actor)
  dead := keyspace.items (.dlq actor)
  outstanding := keyspace.scores (.claimsIndex actor)
  held := heldBy cjson keyspace actor
  counter message := keyspace.value (Key.recoverCount actor message)

end View

theorem recoverCount_right_inj {actor message other : String} :
    Key.recoverCount actor message = Key.recoverCount actor other ↔ message = other := by
  constructor
  · intro same
    have joined := congrArg String.toList (Key.recoverCountFor.inj same)
    simp only [String.toList_append, List.append_cancel_left_eq] at joined
    exact String.toList_injective joined
  · intro same
    rw [same]

section Lookup

variable {cjson : Cjson} {keyspace : Keyspace Key}

/-- With the same tasks, only the counters can differ to an actor. -/
theorem actorState_of_sameTasks {after : Keyspace Key} (same : SameTasks after keyspace)
    (actor : String) :
    actorState cjson after actor =
      { actorState cjson keyspace actor with
        counter := fun message => after.value (Key.recoverCount actor message) } := by
  apply ActorState.ext
  · exact same.items_eq rfl
  · exact same.items_eq rfl
  · exact same.scores_eq actor
  · funext id
    simp only [actorState, heldBy, tasksOf, same.fields_eq]
  · rfl

theorem heldBy_of_stored (roundTrips : RoundTrips cjson) {claim : TaskClaim}
    (stored : Stored cjson keyspace claim) (actor : String) :
    heldBy cjson keyspace actor claim.claimId =
      if claim.actorId = actor then some (claim.sessionId, claim.tasks) else none := by
  have fields : (cjson.decode (cjson.encode claim.toJson)).bind ackFields =
      some (claim.actorId, claim.sessionId, claim.tasks.map .string) := by
    simp [roundTrips claim stored.tasks, ackFields, Json.asString, tableItems]
  rw [heldBy, stored.found, Option.bind_some, fields]
  simp only [tasksOf, stored.found, Option.elim_some, claimTasks_encode roundTrips stored.tasks]

/-- An actor holds the claims in its index. -/
theorem heldBy_of_indexed (roundTrips : RoundTrips cjson) (sound : Sound cjson keyspace)
    {actor id : String} (indexed : id ∈ keyspace.scores (.claimsIndex actor)) :
    (actorState cjson keyspace actor).tasks id = tasksOf cjson keyspace id := by
  rcases (sound.indexed _ _).mp indexed with ⟨claim, stored, rfl, rfl⟩
  have isHeld : (actorState cjson keyspace claim.actorId).held claim.claimId = _ :=
    heldBy_of_stored roundTrips stored claim.actorId
  rw [ActorState.tasks, isHeld, if_pos rfl, tasksOf, stored.found, Option.elim_some,
    Option.elim_some, claimTasks_encode roundTrips stored.tasks]

theorem heldBy_dropClaim (actor id other : String) :
    heldBy cjson (dropClaim keyspace actor id) actor other =
      Function.update (heldBy cjson keyspace actor) id none other := by
  have fields : (dropClaim keyspace actor id).fields .claims =
      (keyspace.fields .claims).erase id := by
    simp [dropClaim, Keyspace.fields]
  by_cases same : other = id
  · rw [same, heldBy, fields, AList.lookup_erase, Function.update_self]
    rfl
  · rw [Function.update_of_ne same, heldBy, fields, AList.lookup_erase_ne same, heldBy,
      tasksOf_dropClaim, if_neg same]

/-- To its actor, a removed claim is dropped. -/
theorem actorState_dropClaim (actor id : String) :
    actorState cjson (dropClaim keyspace actor id) actor =
      (actorState cjson keyspace actor).drop id := by
  apply ActorState.ext
  · simp [actorState, ActorState.drop, dropClaim, Keyspace.items]
  · simp [actorState, ActorState.drop, dropClaim, Keyspace.items]
  · simp [actorState, ActorState.drop, dropClaim, Keyspace.scores]
  · funext other
    exact heldBy_dropClaim actor id other
  · funext message
    simp [actorState, ActorState.drop, dropClaim, Key.recoverCount]

end Lookup

/-! ## Recovery -/

section Recovery

variable {cjson : Cjson} {args : RecoverArgs} {keyspace : Keyspace Key}

theorem counterUsable_eq (key : Key) :
    counterUsable keyspace key = usable (keyspace.value key) := by
  rw [counterUsable]
  rcases keyspace.value key with _ | value
  · rfl
  · cases value <;> rfl

/-- `INCR` on a usable counter, whatever it holds. -/
theorem run_incr_of_usable {key : Key} (isUsable : counterUsable keyspace key = true) :
    (incr key).run keyspace = (.ok (counted (keyspace.value key) + 1),
      keyspace.store key (some (.string (String.ofList
        (Decimal.signed (counted (keyspace.value key) + 1)))))) := by
  rw [counterUsable_eq] at isUsable
  cases held : keyspace.value key with
  | none =>
      simp only [incr, typed, Keyspace.admits, Keyspace.text, held]
      rfl
  | some value =>
      cases value with
      | string current =>
          rw [held] at isUsable
          rcases readInt_of_incrementable isUsable with ⟨number, read, small⟩
          have bounds := abs_lt.mp small
          have inRange : ¬(number < minInt64 ∨ maxInt64 < number) := by
            simp only [minInt64, maxInt64]
            omega
          have notMax : number ≠ maxInt64 := by
            simp only [maxInt64]
            omega
          simp [incr, typed, Keyspace.admits, Keyspace.text, held, Value.kind, counted, read,
            inRange, notMax]
      | _ =>
          rw [held] at isUsable
          cases isUsable

/-- The keyspace after a task with a counter was put back. -/
def countedBack (keyspace : Keyspace Key) (args : RecoverArgs) (key : Key) (payload : String) :
    Keyspace Key :=
  let count := counted (keyspace.value key) + 1
  let stored := keyspace.store key (some (.string (String.ofList (Decimal.signed count))))
  if count > args.recoverCap then
    (pushDead stored args.actorId payload args.dlqMaxLength).store key none
  else pushInbox stored args.actorId payload

theorem run_moveItem_counted {payload message : String} (ready : Ready args keyspace)
    (tracked : trackedId cjson payload = some message)
    (isUsable : counterUsable keyspace (Key.recoverCount args.actorId message) = true) :
    ((moveItem cjson args (taskItem cjson args.actorId payload)).run keyspace).2 =
      countedBack keyspace args (Key.recoverCount args.actorId message) payload := by
  have counter : (taskItem cjson args.actorId payload).counterKey =
      some (Key.recoverCount args.actorId message) := by
    simp [taskItem, counterKey, tracked]
  have argument : (cjson.argument (taskItem cjson args.actorId payload).task :
      Script Key String) = pure payload := rfl
  have same : SameTasks (keyspace.store (Key.recoverCount args.actorId message)
      (some (.string (String.ofList (Decimal.signed
        (counted (keyspace.value (Key.recoverCount args.actorId message)) + 1)))))) keyspace :=
    SameTasks.storeCounter (SameTasks.refl keyspace) rfl rfl
  have stillReady := ready.of_sameTasks same
  rw [moveItem, counter]
  dsimp only
  rw [Script.run_bind_ok (run_incr_of_usable isUsable),
    Script.run_bind_ok (run_when_expire _ _ _ _), argument]
  by_cases exceeds :
      counted (keyspace.value (Key.recoverCount args.actorId message)) + 1 > args.recoverCap
  · rw [if_pos exceeds, countedBack, if_pos exceeds]
    exact congrArg Prod.snd (run_pushDead stillReady.dlq payload args.dlqMaxLength _)
  · rw [if_neg exceeds, countedBack, if_neg exceeds]
    exact congrArg Prod.snd (Script.run_bind_ok (run_rpush_inbox stillReady.inbox payload))

theorem actorState_pushInbox (actor payload : String) :
    actorState cjson (pushInbox keyspace actor payload) actor =
      { actorState cjson keyspace actor with
        inbox := keyspace.items (.queue actor) ++ [payload] } := by
  apply ActorState.ext
  · simp [pushInbox, Keyspace.items]
  · simp [pushInbox, Keyspace.items]
  · simp [pushInbox, Keyspace.scores]
  · funext id
    simp [heldBy, tasksOf, pushInbox, Keyspace.fields]
  · funext message
    exact @pushInbox_value_of_counter keyspace (Key.recoverCount actor message) rfl actor
      payload

theorem actorState_pushDead (actor payload : String) (bound : Nat) :
    actorState cjson (pushDead keyspace actor payload bound) actor =
      { actorState cjson keyspace actor with
        dead := (payload :: keyspace.items (.dlq actor)).take bound } := by
  apply ActorState.ext
  · simp [pushDead, Keyspace.items]
  · simp [pushDead, Keyspace.items]
  · simp [pushDead, Keyspace.scores]
  · funext id
    simp [heldBy, tasksOf, pushDead, Keyspace.fields]
  · funext message
    exact @pushDead_value_of_counter keyspace (Key.recoverCount actor message) rfl actor
      payload bound

theorem actorState_storeCounter (actor message : String) (value : Option Value) :
    actorState cjson (keyspace.store (Key.recoverCount actor message) value) actor =
      { actorState cjson keyspace actor with
        counter := Function.update (actorState cjson keyspace actor).counter message value } := by
  apply ActorState.ext
  · simp [Key.recoverCount, Keyspace.items]
  · simp [Key.recoverCount, Keyspace.items]
  · simp [Key.recoverCount, Keyspace.scores]
  · funext id
    simp [heldBy, tasksOf, Key.recoverCount, Keyspace.fields]
  · funext other
    by_cases same : other = message
    · simp [same]
    · simp [same, recoverCount_right_inj]

theorem actorState_countedBack {actor payload message : String} {now : Option Int}
    (tracked : trackedId cjson payload = some message) :
    actorState cjson (countedBack keyspace (recoverExpiredArgs actor now)
        (Key.recoverCount actor message) payload) actor =
      (actorState cjson keyspace actor).place cjson payload := by
  have lists : ∀ value, (keyspace.store (Key.recoverCount actor message) value).items
      (.queue actor) = keyspace.items (.queue actor) ∧
      (keyspace.store (Key.recoverCount actor message) value).items (.dlq actor) =
        keyspace.items (.dlq actor) := by
    intro value
    simp [Keyspace.items, Key.recoverCount]
  rw [ActorState.place, tracked]
  by_cases exceeds : counted ((actorState cjson keyspace actor).counter message) + 1 > recoverCap
  · have isBack : countedBack keyspace (recoverExpiredArgs actor now)
        (Key.recoverCount actor message) payload = _ := if_pos exceeds
    rw [isBack]
    dsimp only [recoverExpiredArgs]
    rw [if_pos exceeds, actorState_storeCounter, actorState_pushDead, actorState_storeCounter,
      (lists _).2]
    simp
  · have isBack : countedBack keyspace (recoverExpiredArgs actor now)
        (Key.recoverCount actor message) payload = _ := if_neg exceeds
    rw [isBack]
    dsimp only [recoverExpiredArgs]
    rw [if_neg exceeds, actorState_pushInbox, actorState_storeCounter, (lists _).1]
    rfl

/-- One task of an expired claim. -/
theorem run_moveItem_place {actor payload : String} {now : Option Int}
    (ready : Ready (recoverExpiredArgs actor now) keyspace)
    (isUsable : (trackedId cjson payload).all fun message =>
      counterUsable keyspace (Key.recoverCount actor message)) :
    ∃ recovered after, (moveItem cjson (recoverExpiredArgs actor now)
        (taskItem cjson actor payload)).run keyspace = (.ok recovered, after) ∧
      actorState cjson after actor = (actorState cjson keyspace actor).place cjson payload ∧
      Ready (recoverExpiredArgs actor now) after ∧ StaysUsable keyspace after := by
  have counters : (taskItem cjson actor payload).counterKey =
      (trackedId cjson payload).map (Key.recoverCount actor) := counterKey_string actor payload
  have isCounter : (taskItem cjson actor payload).counterKey.all Key.isCounter = true :=
    isCounter_counterKey cjson (some actor) (.string payload)
  have accepted : (taskItem cjson actor payload).counterKey.all (counterUsable keyspace) =
      true := by
    rw [counters]
    cases found : trackedId cjson payload with
    | none => rfl
    | some message => simpa [found] using isUsable
  rcases run_moveItem cjson (recoverExpiredArgs_capped actor now)
    (rfl : cjson.text (taskItem cjson actor payload).task = some payload) isCounter accepted
    ready.inbox ready.dlq with ⟨recovered, after, ran, same, stays⟩
  refine ⟨recovered, after, ran, ?_, ?_, stays⟩
  · have isAfter : ((moveItem cjson (recoverExpiredArgs actor now)
        (taskItem cjson actor payload)).run keyspace).2 = after := congrArg Prod.snd ran
    rw [← isAfter]
    cases found : trackedId cjson payload with
    | none =>
        have untracked := @run_moveItem_untracked cjson (recoverExpiredArgs actor now) keyspace
          payload ready found
        refine (congrArg (fun result => actorState cjson result.2 actor) untracked).trans ?_
        rw [ActorState.place, found]
        exact actorState_pushInbox actor payload
    | some message =>
        rw [found, Option.all_some] at isUsable
        have counted := @run_moveItem_counted cjson (recoverExpiredArgs actor now) keyspace
          payload message ready found isUsable
        exact (congrArg (fun keyspace => actorState cjson keyspace actor) counted).trans
          (actorState_countedBack found)
  · cases recovered with
    | true => exact (ready.pushInbox _ _).of_sameTasks same
    | false => exact (ready.pushDead _ _ _).of_sameTasks same

/-- Whether every counter of the given tasks can be incremented. -/
def TasksUsable (cjson : Cjson) (keyspace : Keyspace Key) (actor : String)
    (payloads : List String) : Prop :=
  ∀ message ∈ tracked cjson payloads, counterUsable keyspace (Key.recoverCount actor message) = true

theorem TasksUsable.later {after : Keyspace Key} {actor : String} {payloads : List String}
    (isUsable : TasksUsable cjson keyspace actor payloads) (stays : StaysUsable keyspace after) :
    TasksUsable cjson after actor payloads :=
  fun message member => stays _ rfl (isUsable message member)

theorem run_moveItems_place {actor : String} {now : Option Int} {payloads : List String}
    (ready : Ready (recoverExpiredArgs actor now) keyspace)
    (isUsable : TasksUsable cjson keyspace actor payloads) :
    ∃ counts after, (moveItems cjson (recoverExpiredArgs actor now)
        (payloads.map (taskItem cjson actor))).run keyspace = (.ok counts, after) ∧
      actorState cjson after actor =
        payloads.foldl (ActorState.place cjson) (actorState cjson keyspace actor) ∧
      Ready (recoverExpiredArgs actor now) after ∧ StaysUsable keyspace after := by
  induction payloads generalizing keyspace with
  | nil => exact ⟨(0, 0), keyspace, rfl, rfl, ready, fun _ _ isUsable => isUsable⟩
  | cons payload payloads induction =>
      have first : (trackedId cjson payload).all fun message =>
          counterUsable keyspace (Key.recoverCount actor message) := by
        cases found : trackedId cjson payload with
        | none => rfl
        | some message =>
            exact isUsable message (List.mem_filterMap.mpr ⟨payload, List.mem_cons_self, found⟩)
      have rest : TasksUsable cjson keyspace actor payloads := by
        intro message member
        rcases List.mem_filterMap.mp member with ⟨other, inside, found⟩
        exact isUsable message
          (List.mem_filterMap.mpr ⟨other, List.mem_cons_of_mem _ inside, found⟩)
      rcases run_moveItem_place ready first with ⟨recovered, middle, ran, placed, still, stays⟩
      rcases induction still (rest.later stays) with ⟨counts, after, later, ended, last, kept⟩
      refine ⟨if recovered then (counts.1 + 1, counts.2) else (counts.1, counts.2 + 1), after,
        ?_, ?_, last, fun key counter isUsable => kept key counter (stays key counter isUsable)⟩
      · rw [List.map_cons, moveItems, Script.run_bind_ok ran, Script.run_bind_ok later]
        rfl
      · rw [ended, placed, List.foldl_cons]

theorem run_moveEntries_release {actor : String} {now : Option Int}
    {claims : List (String × List String)}
    (ready : Ready (recoverExpiredArgs actor now) keyspace)
    (isUsable : ∀ claim ∈ claims, TasksUsable cjson keyspace actor claim.2) :
    ∃ counts after, (moveEntries cjson (recoverExpiredArgs actor now)
        (claims.map (claimEntry cjson actor))).run keyspace = (.ok counts, after) ∧
      actorState cjson after actor =
        claims.foldl (ActorState.release cjson) (actorState cjson keyspace actor) := by
  induction claims generalizing keyspace with
  | nil => exact ⟨(0, 0), keyspace, rfl, rfl⟩
  | cons claim claims induction =>
      have dropped : StaysUsable keyspace (dropClaim keyspace actor claim.1) := by
        intro key counter accepted
        have notClaims : key ≠ .claims := by
          rintro rfl
          cases counter
        have notIndex : key ≠ .claimsIndex actor := by
          rintro rfl
          cases counter
        rw [counterUsable_eq] at accepted ⊢
        simpa [dropClaim, notClaims, notIndex] using accepted
      rcases run_moveItems_place (ready.dropClaim claim.1)
        ((isUsable claim List.mem_cons_self).later dropped) with
        ⟨first, middle, ran, placed, still, stays⟩
      rcases induction still fun other member =>
        ((isUsable other (List.mem_cons_of_mem _ member)).later dropped).later stays with
        ⟨counts, after, later, ended⟩
      refine ⟨(first.1 + counts.1, first.2 + counts.2), after, ?_, ?_⟩
      · rw [List.map_cons, moveEntries]
        dsimp only [claimEntry]
        refine (run_dropClaim ready.claims ready.index claim.1 _).trans ?_
        refine (Script.run_bind_ok ran).trans ?_
        rw [Script.run_bind_ok later]
        rfl
      · rw [ended, placed, List.foldl_cons, ActorState.release]
        exact congrArg (fun state => claims.foldl (ActorState.release cjson)
          (claim.2.foldl (ActorState.place cjson) state)) (actorState_dropClaim actor claim.1)

/-- The expired claims of an actor, from its state. -/
theorem expired_actorState (roundTrips : RoundTrips cjson) (sound : Sound cjson keyspace)
    (actor : String) (now : Option Int) :
    (actorState cjson keyspace actor).expired now =
      (expiredIds (recoverExpiredArgs actor now) keyspace).map fun id =>
        (id, tasksOf cjson keyspace id) := by
  apply List.map_congr_left
  intro id member
  have indexed : id ∈ keyspace.scores (.claimsIndex actor) :=
    @indexed_of_expired keyspace actor id now member
  rw [heldBy_of_indexed roundTrips sound indexed]

theorem actorState_recover (roundTrips : RoundTrips cjson) (sound : Sound cjson keyspace)
    (actor : String) (now : Option Int) :
    actorState cjson (Action.after cjson keyspace (.recover actor now)) actor =
      (actorState cjson keyspace actor).recover cjson now := by
  have expiredIs := expired_actorState roundTrips sound actor now
  have entries : entriesOf cjson (recoverExpiredArgs actor now) keyspace =
      ((actorState cjson keyspace actor).expired now).map (claimEntry cjson actor) := by
    rw [expiredIs, List.map_map]
    apply List.map_congr_left
    intro id member
    rw [storedItems_of_indexed roundTrips sound (indexed_of_expired member)]
    rfl
  have accepted : ((actorState cjson keyspace actor).expired now).all (fun claim =>
        (tracked cjson claim.2).all fun message =>
          usable ((actorState cjson keyspace actor).counter message)) = true ↔
      ∀ claim ∈ (actorState cjson keyspace actor).expired now,
        TasksUsable cjson keyspace actor claim.2 := by
    simp only [List.all_eq_true, TasksUsable, counterUsable_eq]
    rfl
  rw [ActorState.recover]
  by_cases passes : PassesChecks cjson (recoverExpiredArgs actor now) keyspace
  · have isUsable : ∀ claim ∈ (actorState cjson keyspace actor).expired now,
        TasksUsable cjson keyspace actor claim.2 := by
      rw [expiredIs]
      intro claim member
      rcases List.mem_map.mp member with ⟨id, inside, rfl⟩
      have counters := passes.counters id inside
      rw [storedItems_of_indexed roundTrips sound (indexed_of_expired inside), countersUsable,
        List.all_map, List.all_eq_true] at counters
      intro message found
      rcases List.mem_filterMap.mp found with ⟨payload, listed, isTracked⟩
      have item := counters payload listed
      simpa [taskItem, counterKey, isTracked] using item
    rcases run_moveEntries_release passes.ready isUsable with ⟨counts, after, ran, ended⟩
    rw [if_pos (accepted.mpr isUsable), ← ended, Action.after, run_recover_of_passes passes,
      entries, Script.run_bind_ok ran]
    rfl
  · rw [Action.after, run_recover_unchanged passes]
    by_cases none : (actorState cjson keyspace actor).expired now = []
    · rw [none]
      split <;> rfl
    · rw [if_neg]
      intro allUsable
      refine passes ⟨?_, sound.typed.index actor, ?_, sound.typed.claims, ?_,
        sound.typed.inbox actor, sound.typed.dlq actor⟩
      · cases now with
        | none => exact absurd rfl none
        | some instant => rfl
      · intro empty
        exact none (by rw [expiredIs, empty, List.map_nil])
      · intro id member
        rw [storedItems_of_indexed roundTrips sound (indexed_of_expired member), countersUsable,
          List.all_map, List.all_eq_true]
        have tasks := accepted.mp allUsable (id, tasksOf cjson keyspace id)
          (by rw [expiredIs]; exact List.mem_map_of_mem member)
        intro payload listed
        cases found : trackedId cjson payload with
        | none => simp [taskItem, counterKey, found]
        | some message =>
            have isUsable := tasks message (List.mem_filterMap.mpr ⟨payload, listed, found⟩)
            simpa [taskItem, counterKey, found] using isUsable

end Recovery

/-! ## The other scripts -/

section Scripts

variable {cjson : Cjson} {keyspace : Keyspace Key}

theorem actorState_putClaim (roundTrips : RoundTrips cjson) {claim : TaskClaim}
    (tasks : claim.tasks ≠ []) (ms : Int) :
    actorState cjson (putClaim cjson keyspace claim ms) claim.actorId =
      { actorState cjson keyspace claim.actorId with
        outstanding :=
          (keyspace.scores (.claimsIndex claim.actorId)).insert claim.claimId (score ms)
        held := Function.update (actorState cjson keyspace claim.actorId).held claim.claimId
          (some (claim.sessionId, claim.tasks)) } := by
  apply ActorState.ext
  · simp [putClaim, Keyspace.items]
  · simp [putClaim, Keyspace.items]
  · exact (scores_putClaim _ _ _ _ _).trans (if_pos rfl)
  · funext id
    by_cases same : id = claim.claimId
    · have stored : Stored cjson (putClaim cjson keyspace claim ms) claim :=
        ⟨tasks, by rw [fields_putClaim, AList.lookup_insert]⟩
      have isHeld := heldBy_of_stored roundTrips stored claim.actorId
      rw [if_pos rfl] at isHeld
      have updated : Function.update (actorState cjson keyspace claim.actorId).held claim.claimId
          (some (claim.sessionId, claim.tasks)) claim.claimId = _ := Function.update_self _ _ _
      rw [same]
      exact isHeld.trans updated.symm
    · have kept : heldBy cjson (putClaim cjson keyspace claim ms) claim.actorId id =
          heldBy cjson keyspace claim.actorId id := by
        simp only [heldBy, tasksOf, fields_putClaim, AList.lookup_insert_ne same]
      exact kept.trans (Function.update_of_ne same _ _).symm
  · funext message
    exact @putClaim_value_of_ne cjson keyspace claim ms (Key.recoverCount claim.actorId message)
      (by simp [Key.recoverCount]) (by simp [Key.recoverCount])

theorem actorState_popped (actor : String) (count : Nat) :
    actorState cjson (popped keyspace (.queue actor) count) actor =
      { actorState cjson keyspace actor with
        inbox := (keyspace.items (.queue actor)).drop count } := by
  have other : ∀ key : Key, key ≠ .queue actor →
      (popped keyspace (.queue actor) count).value key = keyspace.value key :=
    fun key different => popped_value_of_ne different count
  apply ActorState.ext
  · exact items_popped keyspace (.queue actor) count
  · exact congrArg Value.items (other _ (by simp))
  · exact congrArg Value.scores (other _ (by simp))
  · funext id
    simp only [actorState_held, heldBy, tasksOf, Keyspace.fields,
      other _ (by simp : Key.claims ≠ _)]
  · funext message
    exact other _ (by simp [Key.recoverCount])

theorem actorState_claim (roundTrips : RoundTrips cjson) (sound : Sound cjson keyspace)
    {args : BatchClaimArgs} (positive : 0 < args.maxBatch) :
    actorState cjson (Action.after cjson keyspace (.batchClaim args)) args.actorId =
      (actorState cjson keyspace args.actorId).claim args := by
  have index := sound.typed.index args.actorId
  have isList := sound.typed.inbox args.actorId
  have ceiling : ceilingReached args keyspace = true ↔ args.maxConcurrent ≠ 0 ∧
      args.maxConcurrent ≤ (actorState cjson keyspace args.actorId).outstanding.entries.length := by
    simp [ceilingReached]
  rw [Action.after, ActorState.claim]
  cases reached : ceilingReached args keyspace with
  | true => rw [run_batchClaim_ceiling index reached, if_pos (ceiling.mp reached)]
  | false =>
      have below : ¬(args.maxConcurrent ≠ 0 ∧ args.maxConcurrent ≤
          (actorState cjson keyspace args.actorId).outstanding.entries.length) := by
        intro full
        rw [ceiling.mpr full] at reached
        cases reached
      rw [if_neg below]
      by_cases empty : keyspace.items (.queue args.actorId) = []
      · rw [run_batchClaim_empty index reached positive isList empty]
        exact (if_pos empty).symm
      · have notEmpty : ¬(actorState cjson keyspace args.actorId).inbox = [] := empty
        rw [run_batchClaim_claimed index reached positive isList empty sound.typed.claims,
          if_neg notEmpty]
        have put := @actorState_putClaim cjson (popped keyspace (.queue args.actorId) args.maxBatch)
          roundTrips (args.claim ((keyspace.items (.queue args.actorId)).take args.maxBatch))
          (take_ne_nil positive empty) args.expiresAtMs
        refine put.trans ?_
        dsimp only [BatchClaimArgs.claim]
        rw [actorState_popped, Keyspace.scores, popped_value_of_ne (by simp)]
        rfl

theorem actorState_ack (roundTrips : RoundTrips cjson) (sound : Sound cjson keyspace)
    (actor id session : String) :
    actorState cjson (Action.after cjson keyspace (.ack id actor session)) actor =
      (actorState cjson keyspace actor).ack cjson id session := by
  rw [Action.after, ActorState.ack]
  cases found : (keyspace.fields .claims).lookup id with
  | none =>
      have absent : (actorState cjson keyspace actor).held id = none := by
        rw [actorState_held, heldBy, found]
        rfl
      rw [run_ack_absent sound.typed found, absent]
  | some raw =>
      rcases sound.readable id raw found with ⟨claim, stored, rfl⟩
      rw [actorState_held, heldBy_of_stored roundTrips stored actor]
      by_cases own : claim.actorId = actor
      · subst own
        rw [if_pos rfl]
        by_cases owner : claim.sessionId = session
        · subst owner
          rcases run_ack_owned roundTrips sound.typed stored.tasks stored.found with
            ⟨after, ran, same, value⟩
          have cleared : ∀ message, some (Key.recoverCount claim.actorId message) ∈
              (claim.tasks.map Json.string).map (counterKey cjson (some claim.actorId)) ↔
                message ∈ tracked cjson claim.tasks := by
            intro message
            rw [mem_counterKeys, List.mem_map]
            constructor
            · rintro ⟨other, member, same⟩
              rwa [← recoverCount_right_inj.mp same]
            · intro member
              exact ⟨message, member, rfl⟩
          rw [ran, actorState_of_sameTasks same, actorState_dropClaim]
          simp only [if_true]
          congr 1
          funext message
          rw [value]
          simp only [cleared]
          simp [dropClaim, Key.recoverCount]
        · rw [run_ack_refused roundTrips sound.typed stored.tasks stored.found (Or.inr owner)]
          simp only [owner, if_false]
      · rw [if_neg own,
          run_ack_refused roundTrips sound.typed stored.tasks stored.found (Or.inl own)]

theorem actorState_requeued (actor payload : String) :
    actorState cjson (requeued keyspace actor payload) actor =
      { actorState cjson keyspace actor with
        inbox := keyspace.items (.queue actor) ++ [payload]
        dead := (keyspace.items (.dlq actor)).erase payload } := by
  apply ActorState.ext
  · simp [requeued, pushInbox, Keyspace.items]
  · simp [requeued, Keyspace.items]
  · simp [requeued, pushInbox, Keyspace.scores]
  · funext id
    simp [heldBy, tasksOf, requeued, pushInbox, Keyspace.fields]
  · funext message
    simp [requeued, pushInbox, Key.recoverCount]

theorem actorState_requeue (sound : Sound cjson keyspace) (actor wanted : String) :
    actorState cjson (Action.after cjson keyspace (.requeue actor wanted)) actor =
      (actorState cjson keyspace actor).requeue cjson wanted := by
  have dead : (actorState cjson keyspace actor).dead = keyspace.items (.dlq actor) := rfl
  rw [Action.after, run_requeue_eq sound.typed, ActorState.requeue, dead]
  cases (keyspace.items (.dlq actor)).find? fun payload =>
    messageId cjson payload == some wanted with
  | none => rfl
  | some payload =>
      refine (actorState_storeCounter actor wanted none).trans ?_
      rw [actorState_requeued]
      rfl

theorem actorState_lapse (actor message : String) :
    actorState cjson (Action.after cjson keyspace (.expire (Key.recoverCount actor message)))
        actor = (actorState cjson keyspace actor).lapse message :=
  actorState_storeCounter actor message none

end Scripts

end GptQueue.Claims
