import GptQueue.Claims.ActorState

/-! # Counters over whole runs

Runs of sends, claims, renewals, acknowledgements, recoveries and requeues, with the
history of what happened to each message.
-/

namespace GptQueue.Claims

open Redis
open GptQueue.Mailbox

/-- `cjson.decode` reads the id of a message back, or refuses the text. -/
def ReadsIds (cjson : Cjson) : Prop :=
  ∀ message envelope, cjson.decode (QueueMessage.serialized message) = some envelope →
    envelope.field "id" = some (.string message.id)

theorem plain_readsIds : ReadsIds Cjson.plain := by
  intro message envelope decoded
  rw [Cjson.plain_decode, QueueMessage.serialized, Json.parse_render] at decoded
  cases decoded
  rfl

/-- The state of a run with the history of its messages. -/
structure Recorded where
  state : State
  history : List Happening

/-- What an action does to messages, latest first. -/
def Action.happenings (cjson : Cjson) (keyspace : Keyspace Key) : Action → List Happening
  | .push bound message =>
      (Action.accepted cjson keyspace (.push bound message)).map fun message =>
        ⟨.sent, message.recipient, message.id⟩
  | .recover actorId now =>
      ((recoverMoves cjson actorId now keyspace).flatMap fun move =>
        happened cjson actorId move.1 move.2).reverse
  | .ack claimId actorId sessionId =>
      (tracked cjson (Action.acknowledged cjson keyspace (.ack claimId actorId sessionId))).map
        fun message => ⟨.acknowledged, actorId, message⟩
  | .requeue actorId messageId =>
      if requeueDone cjson keyspace actorId messageId then [⟨.requeued, actorId, messageId⟩] else []
  | _ => []

/-- The actor whose messages an action is about. -/
def Action.actor : Action → Option String
  | .push _ message => some message.recipient
  | .recover actorId _ => some actorId
  | .batchClaim args => some args.actorId
  | .renew args => some args.actorId
  | .ack _ actorId _ => some actorId
  | .requeue actorId _ => some actorId
  | _ => none

/-- The actions of a run: no rename, no removal, no counter that expires, and messages
with fresh ids that are not empty and have no colon. -/
def Action.Counting (accepted : List QueueMessage) : Action → Prop
  | .push _ message => message.id ≠ "" ∧ ':' ∉ message.id.toList ∧
      ∀ other ∈ accepted, other.id ≠ message.id
  | .migrate _ _ _ _ => False
  | .purge _ => False
  | .unregister _ _ => False
  | .expire key => key.isCounter = false
  | _ => True

def Recorded.step (cjson : Cjson) (recorded : Recorded) (action : Action) : Recorded where
  state := recorded.state.step cjson action
  history := action.happenings cjson recorded.state.keyspace ++ recorded.history

theorem keyspace_step (cjson : Cjson) (recorded : Recorded) (action : Action) :
    (recorded.step cjson action).state.keyspace = action.after cjson recorded.state.keyspace := rfl

/-- A state after any finite run of such actions. -/
inductive CountingReachable (cjson : Cjson) : Recorded → Prop
  | start : CountingReachable cjson ⟨State.start, []⟩
  | step {recorded : Recorded} (reached : CountingReachable cjson recorded) (action : Action)
      (admissible : action.Admissible recorded.state.keyspace)
      (counting : action.Counting recorded.state.accepted) :
      CountingReachable cjson (recorded.step cjson action)

/-- What a run keeps. -/
structure Accounted (cjson : Cjson) (recorded : Recorded) : Prop where
  conserved : Conserved cjson recorded.state
  counted : Counted recorded.history recorded.state.keyspace
  capped : Capped recorded.history
  plain : ∀ message ∈ recorded.state.accepted, ':' ∉ message.id.toList
  known : ∀ happening ∈ recorded.history, happening.fate = .recovered →
    ∃ message ∈ recorded.state.accepted, message.id = happening.message

section Runs

variable {cjson : Cjson} {recorded : Recorded}

/-- A payload with an id, wherever it is, is that of an accepted message. -/
theorem Conserved.accepted_of_mem {state : State} (conserved : Conserved cjson state)
    (readsIds : ReadsIds cjson) {place : Place} {payload message : String}
    (member : payload ∈ state.places cjson place)
    (named : messageId cjson payload = some message) :
    ∃ sent ∈ state.accepted, sent.id = message := by
  have inTotal := Ledger.mem_total conserved.bounded member
  rw [conserved.total, State.payloads, Multiset.mem_coe] at inTotal
  rcases List.mem_map.mp inTotal with ⟨sent, accepted, rfl⟩
  refine ⟨sent, accepted, ?_⟩
  unfold messageId at named
  cases decoded : cjson.decode sent.serialized with
  | none =>
      rw [decoded] at named
      cases named
  | some envelope =>
      rw [decoded, Option.bind_some, readsIds sent envelope decoded] at named
      exact Option.some.inj named

theorem messageId_of_trackedId {payload message : String}
    (found : trackedId cjson payload = some message) : messageId cjson payload = some message :=
  (Option.filter_eq_some_iff.mp found).1

theorem Accounted.start (cjson : Cjson) : Accounted cjson ⟨State.start, []⟩ where
  conserved := Conserved.start cjson
  counted := ⟨fun _ _ _ => rfl, fun _ _ => Nat.zero_le _⟩
  capped := trivial
  plain _ member := absurd member List.not_mem_nil
  known _ member := absurd member List.not_mem_nil

/-- A step, from what it does to the counters and the messages it names. -/
theorem Accounted.extend (accounted : Accounted cjson recorded) {action : Action}
    (conserved : Conserved cjson (recorded.state.step cjson action))
    (counted : Counted (action.happenings cjson recorded.state.keyspace ++ recorded.history)
      (action.after cjson recorded.state.keyspace))
    (capped : Capped (action.happenings cjson recorded.state.keyspace ++ recorded.history))
    (plain : ∀ message ∈ action.accepted cjson recorded.state.keyspace, ':' ∉ message.id.toList)
    (known : ∀ happening ∈ action.happenings cjson recorded.state.keyspace,
      happening.fate = .recovered →
      ∃ message ∈ recorded.state.accepted, message.id = happening.message) :
    Accounted cjson (recorded.step cjson action) where
  conserved := conserved
  counted := counted
  capped := capped
  plain message member := by
    rcases List.mem_append.mp member with earlier | latest
    · exact accounted.plain message earlier
    · exact plain message latest
  known happening member recovered := by
    have found : ∃ message ∈ recorded.state.accepted, message.id = happening.message := by
      rcases List.mem_append.mp member with latest | earlier
      · exact known happening latest recovered
      · exact accounted.known happening earlier recovered
    rcases found with ⟨message, accepted, same⟩
    exact ⟨message, List.mem_append_left _ accepted, same⟩

/-- A step that leaves the counters alone and says nothing of messages. -/
theorem Accounted.quiet (accounted : Accounted cjson recorded) {action : Action}
    (conserved : Conserved cjson (recorded.state.step cjson action))
    (silent : action.happenings cjson recorded.state.keyspace = [])
    (refused : action.accepted cjson recorded.state.keyspace = [])
    (same : ∀ key, key.isCounter = true →
      (action.after cjson recorded.state.keyspace).value key = recorded.state.keyspace.value key) :
    Accounted cjson (recorded.step cjson action) := by
  refine accounted.extend conserved ?_ ?_ ?_ ?_
  · rw [silent]
    exact accounted.counted.frame same
  · rw [silent]
    exact accounted.capped
  · rw [refused]
    exact fun message member => absurd member List.not_mem_nil
  · rw [silent]
    exact fun happening member => absurd member List.not_mem_nil

theorem Accounted.push (accounted : Accounted cjson recorded) {bound : Option Int}
    {message : QueueMessage}
    (conserved : Conserved cjson (recorded.state.step cjson (.push bound message)))
    (counting : (Action.push bound message).Counting recorded.state.accepted) :
    Accounted cjson (recorded.step cjson (.push bound message)) := by
  have same : ∀ key, key.isCounter = true →
      (Action.after cjson recorded.state.keyspace (.push bound message)).value key =
        recorded.state.keyspace.value key :=
    fun key counter => value_of_touches (touches_boundedPush cjson bound message) _ counter
  have either : Action.accepted cjson recorded.state.keyspace (.push bound message) = [] ∨
      Action.accepted cjson recorded.state.keyspace (.push bound message) = [message] := by
    simp only [Action.accepted]
    split
    · exact Or.inr rfl
    · exact Or.inl rfl
  rcases either with refused | accepted
  · exact accounted.quiet conserved (by rw [Action.happenings, refused]; rfl) refused same
  · have never : recoveries message.recipient message.id recorded.history = 0 := by
      apply recoveries_eq_zero
      intro member
      rcases accounted.known _ member rfl with ⟨other, isAccepted, sameId⟩
      exact counting.2.2 other isAccepted sameId
    have happening : Action.happenings cjson recorded.state.keyspace (.push bound message) =
        [message.id].map (⟨.sent, message.recipient, ·⟩) := by
      rw [Action.happenings, accepted]
      rfl
    refine accounted.extend conserved ?_ ?_ ?_ ?_
    · rw [happening]
      refine accounted.counted.clear Fate.noConfusion
        (fun other member => (List.mem_singleton.mp member) ▸ counting.2.1) fun key counter => ?_
      rw [same key counter]
      split
      · next member =>
          rw [List.mem_singleton.mp member, accounted.counted.value _ _ counting.2.1, never]
          rfl
      · rfl
    · rw [happening]
      exact accounted.capped.clear Fate.noConfusion Fate.noConfusion _ _
    · rw [accepted]
      exact fun other member => (List.mem_singleton.mp member) ▸ counting.2.1
    · rw [happening]
      intro other member recovered
      rcases List.mem_map.mp member with ⟨_, -, rfl⟩
      cases recovered

/-- The ids of tasks in claims have no colon. -/
theorem Accounted.plain_of_mem (accounted : Accounted cjson recorded) (readsIds : ReadsIds cjson)
    {place : Place} {payload message : String}
    (member : payload ∈ recorded.state.places cjson place)
    (named : messageId cjson payload = some message) : ':' ∉ message.toList := by
  rcases accounted.conserved.accepted_of_mem readsIds member named with ⟨sent, accepted, rfl⟩
  exact accounted.plain sent accepted

theorem Accounted.ack (accounted : Accounted cjson recorded) (roundTrips : RoundTrips cjson)
    (readsIds : ReadsIds cjson) {claimId actorId sessionId : String}
    (conserved : Conserved cjson (recorded.state.step cjson (.ack claimId actorId sessionId))) :
    Accounted cjson (recorded.step cjson (.ack claimId actorId sessionId)) := by
  have plain : ∀ message ∈ tracked cjson (Action.acknowledged cjson recorded.state.keyspace
      (.ack claimId actorId sessionId)), ':' ∉ message.toList := by
    intro message member
    rcases List.mem_filterMap.mp member with ⟨payload, acknowledged, isTracked⟩
    have inClaim : payload ∈ recorded.state.places cjson (.claim claimId) := by
      simp only [Action.acknowledged] at acknowledged
      split at acknowledged
      · exact Multiset.mem_coe.mpr acknowledged
      · exact absurd acknowledged List.not_mem_nil
    exact accounted.plain_of_mem readsIds inClaim (messageId_of_trackedId isTracked)
  refine accounted.extend conserved ?_ ?_ ?_ ?_
  · exact accounted.counted.clear Fate.noConfusion plain fun key counter =>
      ack_counters roundTrips accounted.conserved.sound claimId actorId sessionId counter
  · exact accounted.capped.clear Fate.noConfusion Fate.noConfusion _ _
  · exact fun message member => absurd member List.not_mem_nil
  · intro happening member recovered
    rcases List.mem_map.mp member with ⟨_, -, rfl⟩
    cases recovered

theorem Accounted.requeue (accounted : Accounted cjson recorded) (readsIds : ReadsIds cjson)
    {actorId wanted : String}
    (conserved : Conserved cjson (recorded.state.step cjson (.requeue actorId wanted))) :
    Accounted cjson (recorded.step cjson (.requeue actorId wanted)) := by
  rcases @requeue_counters cjson _ accounted.conserved.sound.typed actorId wanted with
    ⟨refused, same⟩ | ⟨done, ⟨payload, dead, named⟩, value⟩
  · refine accounted.quiet conserved ?_ rfl fun key _ => by rw [same]
    rw [Action.happenings, refused]
    rfl
  · have happening : Action.happenings cjson recorded.state.keyspace (.requeue actorId wanted) =
        [wanted].map (⟨.requeued, actorId, ·⟩) := by
      rw [Action.happenings, done]
      rfl
    have inDead : payload ∈ recorded.state.places cjson (.dead actorId) :=
      Multiset.mem_coe.mpr dead
    have plain := accounted.plain_of_mem readsIds inDead named
    refine accounted.extend conserved ?_ ?_ ?_ ?_
    · rw [happening]
      refine accounted.counted.clear Fate.noConfusion
        (fun other member => (List.mem_singleton.mp member) ▸ plain) fun key counter => ?_
      rw [value key counter]
      simp
    · rw [happening]
      exact accounted.capped.clear Fate.noConfusion Fate.noConfusion _ _
    · exact fun message member => absurd member List.not_mem_nil
    · rw [happening]
      intro other member recovered
      rcases List.mem_map.mp member with ⟨_, -, rfl⟩
      cases recovered

/-- The tasks that a recovery moves have plain ids, those of accepted messages. -/
theorem Accounted.accepted_of_expired (accounted : Accounted cjson recorded)
    (readsIds : ReadsIds cjson) {actorId payload message : String} {now : Option Int}
    (member : payload ∈ expiredTasks cjson actorId now recorded.state.keyspace)
    (isTracked : trackedId cjson payload = some message) :
    ∃ sent ∈ recorded.state.accepted, sent.id = message := by
  rcases List.mem_flatMap.mp member with ⟨id, -, inClaim⟩
  have inPlace : payload ∈ recorded.state.places cjson (.claim id) := Multiset.mem_coe.mpr inClaim
  exact accounted.conserved.accepted_of_mem readsIds inPlace (messageId_of_trackedId isTracked)

theorem Accounted.plain_expired (accounted : Accounted cjson recorded)
    (readsIds : ReadsIds cjson) (actorId : String) (now : Option Int) :
    PlainIds cjson (expiredTasks cjson actorId now recorded.state.keyspace) := by
  intro payload member message isTracked
  rcases accounted.accepted_of_expired readsIds member isTracked with ⟨sent, accepted, rfl⟩
  exact accounted.plain sent accepted

theorem Accounted.recover (accounted : Accounted cjson recorded) (roundTrips : RoundTrips cjson)
    (readsIds : ReadsIds cjson) {actorId : String} {now : Option Int}
    (conserved : Conserved cjson (recorded.state.step cjson (.recover actorId now))) :
    Accounted cjson (recorded.step cjson (.recover actorId now)) := by
  rcases moved_of_recover roundTrips accounted.conserved.sound accounted.counted accounted.capped
    actorId now (accounted.plain_expired readsIds actorId now) with ⟨listed, moved⟩
  refine accounted.extend conserved moved.tally.counted moved.tally.capped
    (fun message member => absurd member List.not_mem_nil) fun happening member recovered => ?_
  rcases List.mem_flatMap.mp (List.mem_reverse.mp member) with ⟨move, isMove, inside⟩
  rcases List.mem_map.mp inside with ⟨message, isTracked, rfl⟩
  have expired : move.1 ∈ expiredTasks cjson actorId now recorded.state.keyspace :=
    listed ▸ List.mem_map_of_mem isMove
  exact accounted.accepted_of_expired readsIds expired (Option.mem_toList.mp isTracked)

theorem Accounted.step (accounted : Accounted cjson recorded) (roundTrips : RoundTrips cjson)
    (reads : ReadsMessages cjson) (readsIds : ReadsIds cjson) {action : Action}
    (admissible : action.Admissible recorded.state.keyspace)
    (counting : action.Counting recorded.state.accepted) :
    Accounted cjson (recorded.step cjson action) := by
  have keeps : action.deletes = false := by
    cases action with
    | purge actor => cases counting
    | unregister name sessionId => cases counting
    | _ => rfl
  have conserved := accounted.conserved.step roundTrips reads admissible keeps
  cases action with
  | push bound message => exact accounted.push conserved counting
  | recover actorId now => exact accounted.recover roundTrips readsIds conserved
  | batchClaim args =>
      exact accounted.quiet conserved rfl rfl fun key counter =>
        value_of_touches (touches_batchClaim cjson args) _ counter
  | renew args =>
      exact accounted.quiet conserved rfl rfl fun key counter =>
        value_of_touches (touches_renew cjson args) _ counter
  | ack claimId actorId sessionId => exact accounted.ack roundTrips readsIds conserved
  | requeue actorId messageId => exact accounted.requeue readsIds conserved
  | migrate source destination guarded bound => cases counting
  | purge actor => cases counting
  | unregister name sessionId => cases counting
  | expire key =>
      refine accounted.quiet conserved rfl rfl fun other counter => ?_
      have different : other ≠ key := by
        rintro rfl
        rw [counting] at counter
        cases counter
      exact if_neg different

theorem CountingReachable.accounted (roundTrips : RoundTrips cjson) (reads : ReadsMessages cjson)
    (readsIds : ReadsIds cjson) (reached : CountingReachable cjson recorded) :
    Accounted cjson recorded := by
  induction reached with
  | start => exact Accounted.start cjson
  | step reached action admissible counting induction =>
      exact induction.step roundTrips reads readsIds admissible counting

/-- An action is about the messages of its actor. -/
theorem actor_of_happenings {action : Action} {keyspace : Keyspace Key} {happening : Happening}
    (member : happening ∈ action.happenings cjson keyspace) :
    action.actor = some happening.actor := by
  cases action with
  | push bound message =>
      rcases List.mem_map.mp member with ⟨sent, accepted, rfl⟩
      simp only [Action.accepted] at accepted
      split at accepted
      · rw [List.mem_singleton.mp accepted]
        rfl
      · exact absurd accepted List.not_mem_nil
  | recover actorId now =>
      rcases List.mem_flatMap.mp (List.mem_reverse.mp member) with ⟨move, -, inside⟩
      rcases List.mem_map.mp inside with ⟨message, -, rfl⟩
      rfl
  | ack claimId actorId sessionId =>
      rcases List.mem_map.mp member with ⟨message, -, rfl⟩
      rfl
  | requeue actorId messageId =>
      simp only [Action.happenings] at member
      split at member
      · rw [List.mem_singleton.mp member]
        rfl
      · exact absurd member List.not_mem_nil
  | _ => exact absurd member List.not_mem_nil

theorem Capped.of_split {newer older : List Happening} {happening : Happening}
    (capped : Capped recorded.history) (split : recorded.history = newer ++ happening :: older) :
    Capped (happening :: older) := by
  rw [split] at capped
  exact capped.of_append

/-- In every state of every run, the counter of a message is the number of its recoveries
since it was last sent, acknowledged, requeued or dead-lettered; a recovery below the cap
re-queued it and one at the cap dead-lettered it; a recovery re-queues what has no id; and
an action leaves the counters of other actors alone. -/
theorem recovery_capped (roundTrips : RoundTrips cjson) (reads : ReadsMessages cjson)
    (readsIds : ReadsIds cjson) (reached : CountingReachable cjson recorded) :
    (∀ actor message, ':' ∉ message.toList →
      recorded.state.keyspace.value (Key.recoverCount actor message) =
        counterValue (recoveries actor message recorded.history)) ∧
    (∀ newer actor message older,
      recorded.history = newer ++ ⟨.recovered, actor, message⟩ :: older →
      recoveries actor message older < recoverCap) ∧
    (∀ newer actor message older,
      recorded.history = newer ++ ⟨.deadLettered, actor, message⟩ :: older →
      recoveries actor message older = recoverCap) ∧
    (∀ actorId now,
      (recoverMoves cjson actorId now recorded.state.keyspace).map Prod.fst =
          expiredTasks cjson actorId now recorded.state.keyspace ∧
        (∀ move ∈ recoverMoves cjson actorId now recorded.state.keyspace,
          trackedId cjson move.1 = none → move.2 = true) ∧
        (Action.after cjson recorded.state.keyspace (.recover actorId now)).items
            (.queue actorId) = recorded.state.keyspace.items (.queue actorId) ++
          ((recoverMoves cjson actorId now recorded.state.keyspace).filter (·.2)).map Prod.fst ∧
        (Action.after cjson recorded.state.keyspace (.recover actorId now)).items (.dlq actorId) =
          (((recoverMoves cjson actorId now recorded.state.keyspace).filter (!·.2)).map
            Prod.fst).foldl (fun letters payload => (payload :: letters).take dlqMaxLength)
              (recorded.state.keyspace.items (.dlq actorId))) ∧
    (∀ action : Action, action.Admissible recorded.state.keyspace →
      action.Counting recorded.state.accepted → ∀ actor message, action.actor ≠ some actor →
      ':' ∉ message.toList →
      (action.after cjson recorded.state.keyspace).value (Key.recoverCount actor message) =
        recorded.state.keyspace.value (Key.recoverCount actor message)) := by
  have accounted := reached.accounted roundTrips reads readsIds
  refine ⟨accounted.counted.value, ?_, ?_, ?_, ?_⟩
  · intro newer actor message older split
    exact (accounted.capped.of_split split).1 rfl
  · intro newer actor message older split
    exact (accounted.capped.of_split split).2.1 rfl
  · intro actorId now
    rcases moved_of_recover roundTrips accounted.conserved.sound accounted.counted
      accounted.capped actorId now (accounted.plain_expired readsIds actorId now) with
      ⟨listed, moved⟩
    exact ⟨listed, moved.untracked, moved.inbox, moved.dead⟩
  · intro action admissible counting actor message other plain
    have after := (accounted.step roundTrips reads readsIds admissible counting).counted.value
      actor message plain
    rw [accounted.counted.value actor message plain]
    refine after.trans (congrArg counterValue (recoveries_append_of_ne ?_))
    intro happening member same
    exact other ((actor_of_happenings member).trans (congrArg some same))

end Runs

/-! ## Two messages that come back -/

section Rounds

theorem trackedId_plain (message : QueueMessage) (named : message.id ≠ "") :
    trackedId Cjson.plain message.serialized = some message.id := by
  have reads : messageId Cjson.plain message.serialized = some message.id := by
    rw [messageId, Cjson.plain_decode, QueueMessage.serialized, Json.parse_render]
    rfl
  rw [trackedId, reads, Option.filter_some, if_pos (by simpa using named)]

theorem counted_counterValue (count : Nat) : counted (counterValue count) = count := by
  cases count with
  | zero => rfl
  | succ count =>
      simp only [counted, counterValue, Value.text_string, Option.elim_some, String.toList_ofList,
        Decimal.readInt_signed, Option.getD_some]

theorem counterValue_injective : Function.Injective counterValue := by
  intro left right same
  have counts := congrArg counted same
  rw [counted_counterValue, counted_counterValue] at counts
  exact_mod_cast counts

theorem usable_counterValue {count : Nat} (small : count < 10 ^ 18) :
    usable (counterValue count) = true := by
  cases count with
  | zero => rfl
  | succ count =>
      apply incrementable_signed
      rw [Nat.abs_cast]
      exact_mod_cast small

theorem place_recovered {cjson : Cjson} {state : ActorState} {payload message : String}
    {count : Nat} (isTracked : trackedId cjson payload = some message)
    (held : state.counter message = counterValue count) (below : count < recoverCap) :
    state.place cjson payload =
      { state with
        inbox := state.inbox ++ [payload]
        counter := Function.update state.counter message (counterValue (count + 1)) } := by
  have within : ¬(count : Int) + 1 > recoverCap := by omega
  rw [ActorState.place, isTracked]
  dsimp only
  rw [held, counted_counterValue, if_neg within]
  rfl

theorem place_deadLettered {cjson : Cjson} {state : ActorState} {payload message : String}
    (isTracked : trackedId cjson payload = some message)
    (held : state.counter message = counterValue recoverCap) :
    state.place cjson payload =
      { state with
        dead := (payload :: state.dead).take dlqMaxLength
        counter := Function.update state.counter message none } := by
  have exceeds : (recoverCap : Int) + 1 > recoverCap := by omega
  rw [ActorState.place, isTracked]
  dsimp only
  rw [held, counted_counterValue, if_pos exceeds]

/-- An actor with both messages in its inbox, each recovered some times. -/
def waiting (count : Nat) : ActorState where
  inbox := [greeting.serialized, parting.serialized]
  dead := []
  outstanding := ∅
  held _ := none
  counter id := if id = "m" ∨ id = "n" then counterValue count else none

/-- Both are claimed, and others are in the inbox. -/
def waitingClaimed (count : Nat) (others : List String) : ActorState :=
  { waiting count with
    inbox := others
    outstanding := (∅ : Scores).insert "c" (score 1)
    held := Function.update (fun _ => none) "c"
      (some ("s", [greeting.serialized, parting.serialized])) }

theorem claim_waiting (count : Nat) :
    (waiting count).claim greetedClaim = waitingClaimed count [] := rfl

theorem expired_waitingClaimed (count : Nat) (others : List String) :
    (waitingClaimed count others).expired (some 2) =
      [("c", [greeting.serialized, parting.serialized])] := by
  have ids : membersUpTo ((∅ : Scores).insert "c" (score 1)) (score (2 - 1)) = ["c"] := by
    decide
  simp only [ActorState.expired, Option.elim_some, waitingClaimed, ids]
  simp [ActorState.tasks]

theorem recover_waitingClaimed {count : Nat} (small : count < 10 ^ 18) (others : List String) :
    (waitingClaimed count others).recover Cjson.plain (some 2) =
      (((waitingClaimed count others).drop "c").place Cjson.plain greeting.serialized).place
        Cjson.plain parting.serialized := by
  have usableAll : ((waitingClaimed count others).expired (some 2)).all (fun claim =>
      (tracked Cjson.plain claim.2).all fun message =>
        usable ((waitingClaimed count others).counter message)) = true := by
    rw [expired_waitingClaimed]
    simp only [List.all_cons, List.all_nil, Bool.and_true, List.all_eq_true]
    intro message _
    dsimp only [waitingClaimed, waiting]
    split
    · exact usable_counterValue small
    · rfl
  rw [ActorState.recover, if_pos usableAll, expired_waitingClaimed]
  simp only [List.foldl_cons, List.foldl_nil, ActorState.release]

theorem drop_waitingClaimed (count : Nat) (others : List String) :
    (waitingClaimed count others).drop "c" = { waiting count with inbox := others } := by
  apply ActorState.ext
  · rfl
  · rfl
  · rfl
  · funext id
    simp [ActorState.drop, waitingClaimed, waiting]
  · rfl

/-- Below the cap both come back to the end of the inbox. -/
theorem waitingClaimed_recovered {count : Nat} (below : count < recoverCap)
    (others : List String) :
    (waitingClaimed count others).recover Cjson.plain (some 2) =
      { waiting (count + 1) with
        inbox := others ++ [greeting.serialized, parting.serialized] } := by
  have first := trackedId_plain greeting (by decide)
  have second := trackedId_plain parting (by decide)
  rw [recover_waitingClaimed (below.trans (by decide)), drop_waitingClaimed,
    place_recovered first rfl below, place_recovered second rfl below]
  apply ActorState.ext
  · exact List.append_assoc others [greeting.serialized] [parting.serialized]
  · rfl
  · rfl
  · rfl
  · funext id
    dsimp only [waiting, greeting, parting]
    by_cases isSecond : id = "n"
    · rw [isSecond, Function.update_self, if_pos (Or.inr rfl)]
    · by_cases isFirst : id = "m"
      · rw [Function.update_of_ne isSecond, isFirst, Function.update_self, if_pos (Or.inl rfl)]
      · have neither : ¬(id = "m" ∨ id = "n") := fun either => either.elim isFirst isSecond
        rw [Function.update_of_ne isSecond, Function.update_of_ne isFirst, if_neg neither,
          if_neg neither]

/-- At the cap both become dead letters. -/
theorem waiting_deadLettered :
    ((waiting recoverCap).claim greetedClaim).recover Cjson.plain (some 2) =
      { waiting 0 with
        inbox := []
        dead := [parting.serialized, greeting.serialized] } := by
  have first := trackedId_plain greeting (by decide)
  have second := trackedId_plain parting (by decide)
  rw [claim_waiting, recover_waitingClaimed (by decide), drop_waitingClaimed,
    place_deadLettered first rfl, place_deadLettered second rfl]
  apply ActorState.ext
  · rfl
  · rfl
  · rfl
  · rfl
  · funext id
    dsimp only [waiting, greeting, parting, counterValue]
    rw [ite_self]
    by_cases isSecond : id = "n"
    · rw [isSecond, Function.update_self]
    · by_cases isFirst : id = "m"
      · rw [Function.update_of_ne isSecond, isFirst, Function.update_self]
      · have neither : ¬(id = "m" ∨ id = "n") := fun either => either.elim isFirst isSecond
        rw [Function.update_of_ne isSecond, Function.update_of_ne isFirst, if_neg neither]

theorem actorState_push_plain {keyspace : Keyspace Key} (typed : WellTyped keyspace)
    (message : QueueMessage) :
    actorState Cjson.plain (Action.after Cjson.plain keyspace (.push none message))
        message.recipient =
      { actorState Cjson.plain keyspace message.recipient with
        inbox := keyspace.items (.queue message.recipient) ++ [message.serialized] } := by
  rw [actorState_of_sameTasks (sameTasks_push_plain typed message), actorState_pushInbox]
  apply ActorState.ext
  · rfl
  · rfl
  · rfl
  · rfl
  · funext id
    exact value_of_touches (touches_boundedPush Cjson.plain none message) keyspace rfl

theorem greetings_state : actorState Cjson.plain greetings "b" = waiting 0 := by
  have empty : Sound Cjson.plain Keyspace.empty := Sound.empty
  have sound := sound_push_plain empty greeting
  have once : actorState Cjson.plain
      (Action.after Cjson.plain Keyspace.empty (.push none greeting)) "b" =
      { actorState Cjson.plain Keyspace.empty "b" with inbox := [greeting.serialized] } :=
    actorState_push_plain empty.typed greeting
  have twice : actorState Cjson.plain greetings "b" = _ :=
    actorState_push_plain sound.typed parting
  have inbox : (Action.after Cjson.plain Keyspace.empty (.push none greeting)).items
      (.queue "b") = [greeting.serialized] := by rw [← actorState_inbox Cjson.plain, once]
  rw [twice, show parting.recipient = "b" from rfl, inbox, once]
  apply ActorState.ext
  · rfl
  · rfl
  · rfl
  · rfl
  · funext id
    dsimp only [waiting, counterValue]
    rw [ite_self]
    rfl

/-- Every stored claim is the actor's. -/
def OnlyClaims (cjson : Cjson) (actor : String) (keyspace : Keyspace Key) : Prop :=
  ∀ claim, Stored cjson keyspace claim → claim.actorId = actor

section OnlyClaims

variable {cjson : Cjson} {actor : String} {keyspace : Keyspace Key}

theorem OnlyClaims.batchClaim (roundTrips : RoundTrips cjson) (sound : Sound cjson keyspace)
    (only : OnlyClaims cjson actor keyspace) {args : BatchClaimArgs} (own : args.actorId = actor)
    (admissible : (Action.batchClaim args).Admissible keyspace) :
    OnlyClaims cjson actor (Action.after cjson keyspace (.batchClaim args)) := by
  have change := change_batchClaim sound admissible.1 admissible.2
  generalize Action.after cjson keyspace (.batchClaim args) = after at change ⊢
  cases change with
  | none => exact only
  | claimed _ positive fresh nonempty =>
      intro claim stored
      rcases (Sound.stored_putClaim roundTrips (take_ne_nil positive nonempty)).mp stored with
        rfl | ⟨before, -⟩
      · exact own
      · exact only claim ((SameClaims.popped _ _ _).stored before)

theorem OnlyClaims.recover (roundTrips : RoundTrips cjson) (sound : Sound cjson keyspace)
    (only : OnlyClaims cjson actor keyspace) (other : String) (now : Option Int) :
    OnlyClaims cjson actor (Action.after cjson keyspace (.recover other now)) := by
  have change := change_recover roundTrips sound other now
  generalize Action.after cjson keyspace (.recover other now) = after at change ⊢
  cases change with
  | none => exact only
  | recovered nodup indexed moved =>
      exact fun claim stored => only claim (stored_recovered moved stored)

/-- A claim that the actor does not hold is not stored. -/
theorem OnlyClaims.fresh (roundTrips : RoundTrips cjson) (sound : Sound cjson keyspace)
    (only : OnlyClaims cjson actor keyspace) {id : String}
    (free : (actorState cjson keyspace actor).held id = none) : id ∉ keyspace.fields .claims := by
  intro member
  rcases Option.isSome_iff_exists.mp (AList.lookup_isSome.mpr member) with ⟨raw, found⟩
  rcases sound.readable id raw found with ⟨claim, stored, rfl⟩
  rw [actorState_held, heldBy_of_stored roundTrips stored, if_pos (only claim stored)] at free
  cases free

end OnlyClaims

/-- Both are claimed, and the lease is over. -/
def round (recorded : Recorded) : Recorded :=
  (recorded.step Cjson.plain (.batchClaim greetedClaim)).step Cjson.plain (.recover "b" (some 2))

theorem greetings_onlyClaims : OnlyClaims Cjson.plain "b" greetings := by
  intro claim stored
  have found := stored.found
  rw [greetings_same.fields_eq] at found
  simp [pushInbox, Keyspace.fields] at found

def greetedRun : Recorded :=
  ((Recorded.mk State.start []).step Cjson.plain (.push none greeting)).step Cjson.plain
    (.push none parting)

/-- A run after which both messages wait in the inbox. -/
structure Waits (count : Nat) (recorded : Recorded) : Prop where
  reached : CountingReachable Cjson.plain recorded
  only : OnlyClaims Cjson.plain "b" recorded.state.keyspace
  state : actorState Cjson.plain recorded.state.keyspace "b" = waiting count

theorem waits_greetedRun : Waits 0 greetedRun := by
  have once := (@CountingReachable.start Cjson.plain).step (.push none greeting) trivial
    ⟨by decide, by decide, fun other member => absurd member List.not_mem_nil⟩
  have sound := (once.accounted plain_roundTrips plain_readsMessages plain_readsIds).conserved.sound
  have accepted := accepted_push_plain (@Sound.empty Cjson.plain).typed greeting
  have isGreeted : greetedRun.state.keyspace = greetings := by
    rw [greetedRun, keyspace_step, keyspace_step, State.start_keyspace, greetings]
  constructor
  · apply once.step (.push none parting) trivial
    refine ⟨by decide, by decide, ?_⟩
    intro other member
    simp only [Recorded.step, State.step, State.start, accepted, List.nil_append,
      List.mem_singleton] at member
    rw [member]
    decide
  · rw [isGreeted]
    exact greetings_onlyClaims
  · rw [isGreeted]
    exact greetings_state

/-- What a round does to the actor. -/
theorem Waits.round {count : Nat} {recorded : Recorded} (waits : Waits count recorded) :
    CountingReachable Cjson.plain (Claims.round recorded) ∧
      OnlyClaims Cjson.plain "b" (Claims.round recorded).state.keyspace ∧
      actorState Cjson.plain (Claims.round recorded).state.keyspace "b" =
        ((waiting count).claim greetedClaim).recover Cjson.plain (some 2) := by
  have sound :=
    (waits.reached.accounted plain_roundTrips plain_readsMessages plain_readsIds).conserved.sound
  have free : (actorState Cjson.plain recorded.state.keyspace "b").held "c" = none := by
    rw [waits.state]
    rfl
  have admissible : (Action.batchClaim greetedClaim).Admissible recorded.state.keyspace :=
    ⟨by decide, waits.only.fresh plain_roundTrips sound free⟩
  have claimed := sound.after plain_roundTrips plain_readsMessages admissible
  have state := actorState_claim plain_roundTrips sound (by decide : 0 < greetedClaim.maxBatch)
  rw [show greetedClaim.actorId = "b" from rfl, waits.state] at state
  refine ⟨(waits.reached.step _ admissible trivial).step _ trivial trivial, ?_, ?_⟩
  · rw [Claims.round, keyspace_step, keyspace_step]
    exact (waits.only.batchClaim plain_roundTrips sound rfl admissible).recover plain_roundTrips
      claimed "b" (some 2)
  · rw [Claims.round, keyspace_step, keyspace_step, actorState_recover plain_roundTrips claimed,
      state]

theorem waits_rounds {count : Nat} (below : count ≤ recoverCap) :
    Waits count (round^[count] greetedRun) := by
  induction count with
  | zero => exact waits_greetedRun
  | succ count induction =>
      rw [Function.iterate_succ_apply']
      have next := (induction (by omega)).round
      exact ⟨next.1, next.2.1, next.2.2.trans (waitingClaimed_recovered below [])⟩

/-- Each message comes back until its counter is at the cap, and then becomes a dead letter
and starts again. -/
theorem rounds_capped :
    (∀ count ≤ recoverCap, recoveries "b" "m" (round^[count] greetedRun).history = count ∧
      recoveries "b" "n" (round^[count] greetedRun).history = count) ∧
    recoveries "b" "m" (round^[recoverCap + 1] greetedRun).history = 0 ∧
    (round^[recoverCap + 1] greetedRun).state.keyspace.items (.dlq "b") =
      [parting.serialized, greeting.serialized] := by
  have counters : ∀ {recorded : Recorded} {message : String} {count : Nat},
      CountingReachable Cjson.plain recorded → ':' ∉ message.toList →
      (actorState Cjson.plain recorded.state.keyspace "b").counter message = counterValue count →
      recoveries "b" message recorded.history = count := by
    intro recorded message count reached plain held
    have capped := recovery_capped plain_roundTrips plain_readsMessages plain_readsIds reached
    exact counterValue_injective ((capped.1 "b" message plain).symm.trans held)
  have last := (@waits_rounds recoverCap le_rfl).round
  rw [← Function.iterate_succ_apply' round, waiting_deadLettered] at last
  refine ⟨?_, ?_, ?_⟩
  · intro count below
    have waits := waits_rounds below
    constructor
    · apply counters waits.reached (by decide)
      rw [waits.state]
      rfl
    · apply counters waits.reached (by decide)
      rw [waits.state]
      rfl
  · apply counters last.1 (by decide)
    rw [last.2.2]
    rfl
  · rw [← actorState_dead Cjson.plain, last.2.2]

end Rounds

end GptQueue.Claims
