import GptQueue.Mailbox.Pending

/-! # Replies to one's own requests

A reply is announced when the marker of the request that it names is owned by its
sender. The key of a marker joins the requester's name and the request's id, so another
name and id can spell the same key.
-/

namespace GptQueue.Mailbox

open Redis
open GptQueue.Claims

/-! ## Runs -/

/-- The keyspace and the messages that were appended so far. -/
structure Traffic where
  keyspace : Keyspace Key
  sent : List QueueMessage

def PushOnceReply.isSent : PushOnceReply → Bool
  | .sent _ => true
  | _ => false

/-- The traffic after a push script has run. -/
def Traffic.ran {α : Type} (world : Traffic) (message : QueueMessage) (accepted : α → Bool)
    (result : Except Fault α × Keyspace Key) : Traffic where
  keyspace := result.2
  sent := if result.1.toOption.any accepted then world.sent ++ [message] else world.sent

/-- One attempt of `send` or `sendIdempotent`. -/
inductive Pushes (cjson : Cjson) (message : QueueMessage) (world : Traffic) : Traffic → Prop
  | send (bound : Option Int) : Pushes cjson message world
      (world.ran message id ((boundedPush cjson (pushArgs bound message)).run world.keyspace))
  | sendIdempotent (bound : Option Int) (sender idempotencyKey : String) :
      Pushes cjson message world (world.ran message PushOnceReply.isSent
        ((boundedPushIdempotent cjson (pushArgs bound message)
          (dedupeKey sender idempotencyKey)).run world.keyspace))

/-- Runs from a keyspace without markers. The id of a message is generated by the
server and has no colon. By itself the server may do anything but write a marker; it
removes those that expire. -/
inductive Reached (cjson : Cjson) : Traffic → Prop
  | start {world : Traffic} (nothing : world.sent = [])
      (unmarked : ∀ joined, world.keyspace.value (.outstandingFor joined) = none) :
      Reached cjson world
  | push {world after : Traffic} (reached : Reached cjson world) (message : QueueMessage)
      (plainId : ':' ∉ message.id.toList) (pushes : Pushes cjson message world after) :
      Reached cjson after
  | other {world after : Traffic} (reached : Reached cjson world)
      (same : after.sent = world.sent)
      (markers : ∀ joined, after.keyspace.value (.outstandingFor joined) =
          world.keyspace.value (.outstandingFor joined) ∨
        after.keyspace.value (.outstandingFor joined) = none) :
      Reached cjson after

/-! ## Replies -/

def QueueMessage.isReply (message : QueueMessage) : Bool :=
  message.type == .result || message.type == .error

/-- The recipient of a reply has sent a task with this id to the reply's sender. -/
def Requested (world : Traffic) (sender recipient request : String) : Prop :=
  ∃ task ∈ world.sent, task.type = .task ∧ task.sender = recipient ∧
    task.recipient = sender ∧ task.id = request

/-- A reply from one agent to another names a request, and its event is appended by a
push or it is listed as pending. -/
inductive Notified (cjson : Cjson) (numbers : JsValue.Numbers) (world : Traffic) :
    (sender recipient request : String) → Prop
  | event {message : QueueMessage} {after : Traffic} {request : String}
      (pushes : Pushes cjson message world after) (isReply : message.isReply = true)
      (names : message.inReplyTo = some request)
      (appended : EventAppended message world.keyspace after.keyspace) :
      Notified cjson numbers world message.sender message.recipient request
  | pending {sender recipient request : String} {listed : List Json} {entry : Json}
      (computed : pending numbers world.keyspace recipient = some listed)
      (member : entry ∈ listed)
      (isReply : Json.asString (entry.field "type") = some "result" ∨
        Json.asString (entry.field "type") = some "error")
      (isFrom : entry.field "from" = some (.string sender))
      (names : (entry.field "payload").bind (·.field "in_reply_to") =
        some (.string request)) :
      Notified cjson numbers world sender recipient request

/-- A marker was written for a task to the agent that it names. -/
structure Marked (world : Traffic) : Prop where
  marks : ∀ joined value, world.keyspace.value (.outstandingFor joined) = some value →
    ∃ task ∈ world.sent, task.type = .task ∧ value = .string task.recipient ∧
      Key.outstanding task.sender task.id = .outstandingFor joined
  plainIds : ∀ message ∈ world.sent, ':' ∉ message.id.toList

section Runs

variable {cjson : Cjson} {numbers : JsValue.Numbers} {message : QueueMessage}
  {world after : Traffic}

/-- An attempt leaves everything as it was, or delivers the message. -/
theorem Pushes.cases (reads : ReadsMessages cjson) (pushes : Pushes cjson message world after) :
    after = world ∨
    (after.sent = world.sent ++ [message] ∧ ∀ key, (∀ joined, key ≠ .idempotencyFor joined) →
      after.keyspace.value key = (delivered message world.keyspace).value key) := by
  cases pushes with
  | send bound =>
      rw [run_boundedPush_eq reads]
      rcases verdict cjson bound message world.keyspace with fault | accepted
      · exact Or.inl rfl
      · cases accepted with
        | false => exact Or.inl rfl
        | true => exact Or.inr ⟨rfl, fun _ _ => rfl⟩
  | sendIdempotent bound sender idempotencyKey =>
      rw [dedupeKey]
      generalize sender ++ ":" ++ PercentEncoding.encodeURIComponent idempotencyKey = joined
      cases held : world.keyspace.value (.idempotencyFor joined) with
      | none =>
          rw [run_boundedPushIdempotent_eq reads held]
          rcases verdict cjson bound message world.keyspace with fault | accepted
          · exact Or.inl rfl
          · cases accepted with
            | false => exact Or.inl rfl
            | true => exact Or.inr ⟨rfl, fun key other => if_neg (other joined)⟩
      | some value =>
          left
          have outcome := @run_boundedPushIdempotent cjson message bound joined world.keyspace reads
          generalize (boundedPushIdempotent cjson (pushArgs bound message)
            (.idempotencyFor joined)).run world.keyspace = result at outcome
          cases outcome with
          | duplicate => rfl
          | full => rfl
          | failed => rfl
          | sent absent => rw [held] at absent; cases absent

theorem marker_delivered (joined : String) :
    (delivered message world.keyspace).value (.outstandingFor joined) =
      if message.type = .task ∧ Key.outstanding message.sender message.id = .outstandingFor joined
      then some (.string message.recipient)
      else world.keyspace.value (.outstandingFor joined) := by
  by_cases marks : message.type = .task ∧
      Key.outstanding message.sender message.id = .outstandingFor joined
  · rcases marks with ⟨isTask, isMarker⟩
    have isMarker : .outstandingFor joined = message.outstandingKey := by
      rw [QueueMessage.outstandingKey, if_pos isTask, isMarker]
    rw [if_pos ⟨isTask, by assumption⟩, delivered, announced, if_pos isTask, isMarker,
      Keyspace.store_value, if_pos rfl]
  · have kept : (delivered message world.keyspace).value (.outstandingFor joined) =
        (enlarged message world.keyspace).value (.outstandingFor joined) := by
      apply announced_value_other (by simp)
      intro isTask isMarker
      rw [QueueMessage.outstandingKey, if_pos isTask] at isMarker
      exact marks ⟨isTask, isMarker.symm⟩
    rw [if_neg marks, kept, enlarged_value_other (by simp) (by simp)]

theorem Marked.push (reads : ReadsMessages cjson) (marked : Marked world)
    (plainId : ':' ∉ message.id.toList) (pushes : Pushes cjson message world after) :
    Marked after := by
  rcases pushes.cases reads with rfl | ⟨sent, values⟩
  · exact marked
  constructor
  · intro joined value held
    rw [values _ (by simp), marker_delivered] at held
    rw [sent]
    split at held
    · next marks =>
        exact ⟨message, by simp, marks.1, (Option.some.inj held).symm, marks.2⟩
    · rcases marked.marks joined value held with ⟨task, member, isTask⟩
      exact ⟨task, List.mem_append_left _ member, isTask⟩
  · intro other member
    rw [sent] at member
    rcases List.mem_append.mp member with old | new
    · exact marked.plainIds other old
    · rwa [List.mem_singleton.mp new]

theorem Reached.marked (reads : ReadsMessages cjson) (reached : Reached cjson world) :
    Marked world := by
  induction reached with
  | start nothing unmarked =>
      constructor
      · intro joined value held
        rw [unmarked joined] at held
        cases held
      · intro message member
        rw [nothing] at member
        cases member
  | push reached message plainId pushes marked => exact marked.push reads plainId pushes
  | other reached same markers marked =>
      constructor
      · intro joined value held
        rw [same]
        rcases markers joined with kept | removed
        · exact marked.marks joined value (kept ▸ held)
        · rw [removed] at held
          cases held
      · rw [same]
        exact marked.plainIds

theorem value_of_text {key : Key} {text : String} (held : world.keyspace.text key = some text) :
    world.keyspace.value key = some (.string text) := by
  rw [Keyspace.text] at held
  generalize world.keyspace.value key = value at held ⊢
  rcases value with _ | value
  · cases held
  · cases value with
    | string other => rw [← Option.some.inj held]
    | _ => cases held

/-- A push of a reply that appends an event has found its sender as the owner. -/
theorem text_of_tells (isReply : message.isReply = true) {request : String}
    (names : message.inReplyTo = some request) (telling : tells message world.keyspace = true) :
    world.keyspace.text (Key.outstanding message.recipient request) = some message.sender := by
  have notTask : message.type ≠ .task := by
    intro isTask
    rw [QueueMessage.isReply, isTask] at isReply
    cases isReply
  have taskless : (message.type == .task) = false := beq_eq_false_iff_ne.mpr notTask
  rw [tells, taskless, Bool.false_or, Bool.and_eq_true, beq_iff_eq] at telling
  have nonempty : request ≠ "" := by
    rintro rfl
    have eligible := telling.1
    simp [QueueMessage.eligible, notTask, names] at eligible
  have target : message.replyTarget = request := by
    rw [QueueMessage.replyTarget, names]
    exact if_neg nonempty
  have marker : message.outstandingKey = Key.outstanding message.recipient request := by
    rw [QueueMessage.outstandingKey, if_neg notTask, target]
  rw [← marker]
  exact telling.2

/-- A pending reply is listed because its sender is the owner. -/
theorem text_of_pending {sender recipient request : String} {listed : List Json} {entry : Json}
    (computed : pending numbers world.keyspace recipient = some listed) (member : entry ∈ listed)
    (isReply : Json.asString (entry.field "type") = some "result" ∨
      Json.asString (entry.field "type") = some "error")
    (isFrom : entry.field "from" = some (.string sender))
    (names : (entry.field "payload").bind (·.field "in_reply_to") = some (.string request)) :
    world.keyspace.text (Key.outstanding recipient request) = some sender := by
  rw [pending] at computed
  split_ifs at computed
  dsimp only at computed
  split at computed
  · rw [← Option.some.inj computed] at member
    have kept := (List.mem_filter.mp member).2
    have notTask : isTask entry = false := by
      rw [isTask]
      rcases isReply with result | error
      · rw [result]
        rfl
      · rw [error]
        rfl
    have awaits : awaitsOutstanding numbers entry =
        (some (Json.string request)).filter (JsValue.truthy numbers.isZero) := by
      rw [awaitsOutstanding, if_pos isReply, names]
    rw [notTask, Bool.false_or, isOwned, awaits, isFrom] at kept
    by_cases empty : request = ""
    · have nothing : (some (Json.string request)).filter (JsValue.truthy numbers.isZero) =
          none := by
        rw [empty]
        rfl
      rw [nothing] at kept
      cases kept
    · have whole : (some (Json.string request)).filter (JsValue.truthy numbers.isZero) =
          some (.string request) := by
        simp [Option.filter, JsValue.truthy, empty]
      rw [whole] at kept
      have owner : JsValue.strictEq numbers
        (some (mgetReply world.keyspace (Key.outstanding recipient request)))
        (some (.string sender)) = true := kept
      rw [mgetReply] at owner
      cases held : world.keyspace.text (Key.outstanding recipient request) with
      | none =>
          rw [held] at owner
          cases owner
      | some text =>
          rw [held] at owner
          exact congrArg some (beq_iff_eq.mp owner)
  · cases computed

/-- Who is notified finds a marker of the request, owned by the sender of the reply. -/
theorem Notified.held (reads : ReadsMessages cjson) {sender recipient request : String}
    (notified : Notified cjson numbers world sender recipient request) :
    world.keyspace.value (Key.outstanding recipient request) = some (.string sender) := by
  apply value_of_text
  cases notified with
  | event pushes isReply names appended =>
      apply text_of_tells isReply names
      apply eventAppended_delivered_iff.mp
      rcases pushes.cases reads with rfl | ⟨-, values⟩
      · rcases appended with ⟨event, entries⟩
        simp at entries
      · rw [EventAppended, ← values _ (by simp)]
        exact appended
  | pending computed member isReply isFrom names =>
      exact text_of_pending computed member isReply isFrom names

/-- A notified reply names a request of its recipient exactly if the name it gives has
no colon. -/
theorem replies_own_iff (reads : ReadsMessages cjson) (reached : Reached cjson world)
    {sender recipient request : String}
    (notified : Notified cjson numbers world sender recipient request) :
    Requested world sender recipient request ↔ ':' ∉ request.toList := by
  have marked := reached.marked reads
  constructor
  · rintro ⟨task, member, -, -, -, rfl⟩
    exact marked.plainIds task member
  · intro plain
    rcases marked.marks _ _ (notified.held reads) with ⟨task, member, isTask, owner, isMarker⟩
    rcases join_inj (marked.plainIds task member) plain (Key.outstandingFor.inj isMarker) with
      ⟨requester, isRequest⟩
    exact ⟨task, member, isTask, requester, (Value.string.inj owner).symm, isRequest⟩

end Runs

/-! Two tasks from different names to one agent. -/

/-- A task whose sender has a colon in its name. -/
def colonRequest : QueueMessage :=
  { request with sender := "a:b", recipient := "f" }

/-- A reply to `a` that names the task of `a:b`. -/
def strayReply : QueueMessage where
  id := "7c9e6679-7425-40de-944b-e07fc1f90ae7"
  sender := "f"
  recipient := "a"
  timestamp := "2026-01-01T00:00:01.000Z"
  type := .result
  content := "done"
  metadata := none
  inReplyTo := some "b:0f8fad5b-d9cb-469f-a165-70867728950e"

def colonTraffic : Traffic := ⟨delivered colonRequest .empty, [colonRequest]⟩

theorem accepts_plain {message : QueueMessage} {keyspace : Keyspace Key}
    (ready : Ready message keyspace) : Accepts Cjson.plain none message keyspace := by
  refine ⟨ready, rfl, ?_⟩
  rw [Cjson.plain_decode, QueueMessage.serialized, Json.parse_render]
  simp

theorem pushes_plain {message : QueueMessage} {world : Traffic}
    (ready : Ready message world.keyspace) : Pushes Cjson.plain message world
      ⟨delivered message world.keyspace, world.sent ++ [message]⟩ := by
  have pushes : Pushes Cjson.plain message world _ := .send none
  rwa [run_boundedPush_eq plain_readsMessages, verdict_ok_iff.mpr (accepts_plain ready)] at pushes

theorem reached_colonTraffic : Reached Cjson.plain colonTraffic := by
  have start : Reached Cjson.plain ⟨.empty, []⟩ := .start rfl fun _ => rfl
  exact start.push colonRequest (by decide) (pushes_plain ⟨rfl, rfl, rfl, rfl⟩)

theorem notified_colonTraffic {message : QueueMessage} {named : String}
    (isReply : message.isReply = true) (names : message.inReplyTo = some named)
    (ready : Ready message colonTraffic.keyspace)
    (telling : tells message colonTraffic.keyspace = true) :
    Notified Cjson.plain plainNumbers colonTraffic message.sender message.recipient named :=
  .event (pushes_plain ready) isReply names (eventAppended_delivered_iff.mpr telling)

/-- An agent that has sent nothing is notified of a reply. -/
theorem stray_reply_notified :
    Reached Cjson.plain colonTraffic ∧
    Notified Cjson.plain plainNumbers colonTraffic "f" "a"
      "b:0f8fad5b-d9cb-469f-a165-70867728950e" ∧
    ¬Requested colonTraffic "f" "a" "b:0f8fad5b-d9cb-469f-a165-70867728950e" := by
  have ready : Ready strayReply colonTraffic.keyspace := ⟨rfl, rfl, rfl, rfl⟩
  refine ⟨reached_colonTraffic, notified_colonTraffic rfl rfl ready rfl, ?_⟩
  rintro ⟨task, member, -, sender, -⟩
  rw [List.mem_singleton.mp member] at sender
  revert sender
  decide

/-- A reply to `a:b` that names its task. -/
def ownReply : QueueMessage :=
  { strayReply with
    recipient := "a:b", inReplyTo := some "0f8fad5b-d9cb-469f-a165-70867728950e" }

theorem own_reply_requested :
    Requested colonTraffic "f" "a:b" "0f8fad5b-d9cb-469f-a165-70867728950e" := by
  have ready : Ready ownReply colonTraffic.keyspace := ⟨rfl, rfl, rfl, rfl⟩
  exact (replies_own_iff plain_readsMessages reached_colonTraffic
    (notified_colonTraffic rfl rfl ready rfl)).mpr (by decide)

end GptQueue.Mailbox
