import GptQueue.Mailbox.InboxEvents
import GptQueue.Mailbox.SendOnce

/-! # Pushes and pending messages

The pending messages of an inbox, against the events that the two push scripts append.
-/

namespace GptQueue.Mailbox

open Redis
open GptQueue.Claims

/-! ## Agreement -/

section Agreement

variable (cjson : Cjson) (numbers : JsValue.Numbers) (bound : Option Int)
  (message : QueueMessage) (keyspace : Keyspace Key)

def EventAppended (before after : Keyspace Key) : Prop :=
  ∃ event, Value.entries (after.value (.inboxEvents message.recipient)) =
    Value.entries (before.value (.inboxEvents message.recipient)) ++ [event]

/-- The recipient's pending messages are computed and have the message. -/
def Lists (after : Keyspace Key) : Prop :=
  ∃ listed, pending numbers after message.recipient = some listed ∧ message.toJson ∈ listed

/-- The scripts answer alike and write alike but for the dedupe entry, a refused push
writes nothing, and an accepted one appends an event exactly if the message is pending. -/
structure PushesAgree (dedupe : Key) (plain : Except Fault Bool × Keyspace Key)
    (once : Except Fault PushOnceReply × Keyspace Key) : Prop where
  replies : once.1 = plain.1.map fun accepted =>
    if accepted then .sent message.id else .full message.id
  effects : ∀ key, key ≠ dedupe → once.2.value key = plain.2.value key
  refused : plain.1 ≠ .ok true → plain.2 = keyspace ∧ once.2 = keyspace
  pending : plain.1 = .ok true →
    (EventAppended message keyspace plain.2 ↔ Lists numbers message plain.2)
  pendingOnce : once.1 = .ok (.sent message.id) →
    (EventAppended message keyspace once.2 ↔ Lists numbers message once.2)

/-- Every reply in the inbox answers a request whose key can be spelled. -/
def Spelled : Prop :=
  ∀ entry ∈ candidates numbers message.recipient (keyspace.items (.queue message.recipient)),
    isSpelled numbers entry = true

end Agreement

section Delivery

variable {cjson : Cjson} {numbers : JsValue.Numbers} {bound : Option Int}
  {message : QueueMessage} {keyspace : Keyspace Key}

/-! The message of a push, as `pending` reads it. -/

theorem type_toJson : message.toJson.field "type" = some (.string message.type.name) := rfl

theorem payload_toJson : message.toJson.field "payload" = some message.payloadJson := rfl

theorem inReplyTo_payloadJson :
    message.payloadJson.field "in_reply_to" = message.inReplyTo.map .string := by
  unfold QueueMessage.payloadJson
  cases message.metadata <;> cases message.inReplyTo <;> rfl

theorem isTask_toJson : isTask message.toJson = (message.type == .task) := by
  rw [isTask, type_toJson]
  cases message.type <;> rfl

/-- The request of a message that is not a task. -/
theorem awaitsOutstanding_toJson (notTask : message.type ≠ .task) :
    awaitsOutstanding numbers message.toJson =
      if message.eligible then some (.string message.replyTarget) else none := by
  unfold awaitsOutstanding QueueMessage.eligible QueueMessage.replyTarget
  rw [type_toJson, payload_toJson, Option.bind_some, inReplyTo_payloadJson]
  generalize message.type = kind at notTask ⊢
  cases message.inReplyTo with
  | none => cases kind <;> simp [Json.asString, MessageType.name] at notTask ⊢
  | some request =>
      by_cases empty : request = ""
      · cases kind <;>
          simp [Json.asString, MessageType.name, empty, JsValue.truthy] at notTask ⊢
      · cases kind <;>
          simp [Json.asString, MessageType.name, empty, JsValue.truthy] at notTask ⊢

theorem isCandidate_toJson :
    isCandidate numbers message.recipient message.toJson = message.eligible := by
  have addressed : message.toJson.field "to" = some (.string message.recipient) := rfl
  have named : message.toJson.field "id" = some (.string message.id) := rfl
  have truthyPayload : JsValue.truthy numbers.isZero message.payloadJson = true := rfl
  rw [isCandidate, addressed, named, payload_toJson, isTask_toJson]
  by_cases task : message.type = .task
  · simp [Json.asString, truthyPayload, QueueMessage.eligible, task]
  · rw [awaitsOutstanding_toJson task]
    cases eligible : message.eligible <;> simp [Json.asString, truthyPayload, task]

theorem isSpelled_toJson : isSpelled numbers message.toJson = true := by
  rw [isSpelled]
  by_cases task : message.type = .task
  · rw [awaitsOutstanding, type_toJson, task]
    rfl
  · rw [awaitsOutstanding_toJson task]
    cases message.eligible <;> rfl

/-- The message is kept exactly if its push tells the recipient. -/
theorem isListed_toJson (eligible : message.eligible = true) :
    (isTask message.toJson || isOwned numbers keyspace message.recipient message.toJson) =
      tells message keyspace := by
  rw [isTask_toJson, tells]
  by_cases task : message.type = .task
  · simp [task]
  · have marker : message.outstandingKey = Key.outstanding message.recipient message.replyTarget :=
      if_neg task
    have sender : message.toJson.field "from" = some (.string message.sender) := rfl
    have taskless : (message.type == .task) = false := beq_eq_false_iff_ne.mpr task
    rw [isOwned, awaitsOutstanding_toJson task, eligible, marker, sender, taskless]
    cases held : keyspace.text (Key.outstanding message.recipient message.replyTarget) <;>
      simp [JsValue.toText, JsValue.strictEq, mgetReply, held]

/-! ## The inbox after a delivery -/

theorem admits_delivered :
    (delivered message keyspace).admits (.queue message.recipient) .list = true := by
  have kept : (delivered message keyspace).value (.queue message.recipient) =
      (enlarged message keyspace).value (.queue message.recipient) :=
    announced_value_other (by simp) fun _ => ne_outstandingKey message (by simp)
  rw [Keyspace.admits, kept, enlarged, Keyspace.store_value, if_neg (by simp), pushInbox]
  simp

theorem tells_delivered : tells message (delivered message keyspace) = tells message keyspace := by
  rw [← @tells_enlarged message keyspace, tells, tells]
  by_cases task : message.type = .task
  · simp [task]
  · have kept : (delivered message keyspace).value message.outstandingKey =
        (enlarged message keyspace).value message.outstandingKey :=
      announced_value_other (ne_outstandingKey message (by simp)).symm
        fun isTask => absurd isTask task
    rw [Keyspace.text, kept, Keyspace.text]

theorem candidates_delivered :
    candidates numbers message.recipient
        ((delivered message keyspace).items (.queue message.recipient)) =
      candidates numbers message.recipient (keyspace.items (.queue message.recipient)) ++
        if message.eligible then [message.toJson] else [] := by
  rw [items_delivered, candidates, List.filterMap_append, List.filter_append, candidates]
  have parsed : [message.serialized].filterMap Json.parse = [message.toJson] := by
    simp [QueueMessage.serialized]
  rw [parsed, List.filter_singleton, isCandidate_toJson]
  cases message.eligible <;> rfl

theorem eligible_of_tells (telling : tells message keyspace = true) : message.eligible = true := by
  rw [tells, Bool.or_eq_true, Bool.and_eq_true] at telling
  rcases telling with isTask | ⟨eligible, -⟩
  · rw [QueueMessage.eligible, isTask]
    rfl
  · exact eligible

theorem lists_delivered_iff : Lists numbers message (delivered message keyspace) ↔
    tells message keyspace = true ∧ Spelled numbers message keyspace := by
  have spelled : (candidates numbers message.recipient
      ((delivered message keyspace).items (.queue message.recipient))).all (isSpelled numbers) =
        true ↔ Spelled numbers message keyspace := by
    rw [candidates_delivered, List.all_append, Bool.and_eq_true, List.all_eq_true, Spelled]
    split <;> simp [isSpelled_toJson]
  have inbox : ¬(delivered message keyspace).admits (.queue message.recipient) .list = false := by
    simp [admits_delivered]
  rw [Lists, pending, if_neg inbox]
  dsimp only
  constructor
  · rintro ⟨listed, computed, member⟩
    split at computed
    · next all =>
        rw [← Option.some.inj computed] at member
        rcases List.mem_filter.mp member with ⟨found, kept⟩
        have eligible := (List.mem_filter.mp found).2
        rw [isCandidate_toJson] at eligible
        rw [isListed_toJson eligible, tells_delivered] at kept
        exact ⟨kept, spelled.mp all⟩
    · cases computed
  · rintro ⟨telling, every⟩
    have eligible := eligible_of_tells telling
    rw [if_pos (spelled.mpr every)]
    have kept := @isListed_toJson numbers message (delivered message keyspace) eligible
    rw [tells_delivered, telling] at kept
    have found : message.toJson ∈ candidates numbers message.recipient
        ((delivered message keyspace).items (.queue message.recipient)) := by
      rw [candidates_delivered, eligible]
      simp
    exact ⟨_, rfl, List.mem_filter.mpr ⟨found, kept⟩⟩

theorem eventAppended_delivered_iff :
    EventAppended message keyspace (delivered message keyspace) ↔
      tells message keyspace = true := by
  have kept : (delivered message keyspace).value (.inboxEvents message.recipient) =
      (told message (enlarged message keyspace)).value (.inboxEvents message.recipient) := by
    rw [delivered, announced]
    split
    · rw [Keyspace.store_value, if_neg (ne_outstandingKey message (by simp))]
    · rfl
  have sameEvents : (enlarged message keyspace).value (.inboxEvents message.recipient) =
      keyspace.value (.inboxEvents message.recipient) :=
    enlarged_value_other (by simp) (by simp)
  rw [EventAppended, kept, told, tells_enlarged, sameEvents]
  split
  · next telling => simp [telling, Value.entries]
  · next quiet => simp [quiet, sameEvents]

/-! ## The two scripts -/

theorem pending_congr {left right : Keyspace Key} (agent : String)
    (inbox : left.value (.queue agent) = right.value (.queue agent))
    (markers : ∀ joined, left.value (.outstandingFor joined) =
      right.value (.outstandingFor joined)) :
    pending numbers left agent = pending numbers right agent := by
  have owned : isOwned numbers left agent = isOwned numbers right agent := by
    funext entry
    simp only [isOwned, mgetReply, Keyspace.text, Key.outstanding, markers]
  rw [pending, pending, Keyspace.admits, Keyspace.items, inbox, owned]
  rfl

theorem pushesAgree_refused {dedupe : Key} {reached : Except Fault Bool}
    (isRefused : reached ≠ .ok true) (after other : Keyspace Key) :
    PushesAgree numbers message keyspace dedupe
      (settle false true keyspace after reached)
      (settle (.full message.id) (.sent message.id) keyspace other reached) := by
  rcases reached with fault | accepted
  · exact ⟨rfl, fun _ _ => rfl, fun _ => ⟨rfl, rfl⟩, nofun, nofun⟩
  · cases accepted with
    | false =>
        refine ⟨rfl, fun _ _ => rfl, fun _ => ⟨rfl, rfl⟩, ?_, ?_⟩
        · intro accepted
          cases accepted
        · intro sent
          cases sent
    | true => exact absurd rfl isRefused

/-- A dedupe entry is neither an event nor read by `pending`. -/
theorem agrees_store_iff {after : Keyspace Key} {joined : String} (value : Option Value) :
    (EventAppended message keyspace (after.store (.idempotencyFor joined) value) ↔
        Lists numbers message (after.store (.idempotencyFor joined) value)) ↔
      (EventAppended message keyspace after ↔ Lists numbers message after) := by
  have events : (after.store (.idempotencyFor joined) value).value
      (.inboxEvents message.recipient) = after.value (.inboxEvents message.recipient) := by simp
  have same : pending numbers (after.store (.idempotencyFor joined) value) message.recipient =
      pending numbers after message.recipient := pending_congr _ (by simp) (by simp)
  rw [EventAppended, Lists, events, same]
  rfl

/-- An accepted push agrees with `pending` if each reply in the inbox names a request
that can be spelled, or if it tells nobody; nothing else is ever different. -/
theorem pushes_agree_iff (reads : ReadsMessages cjson) {sender idempotencyKey : String}
    (absent : keyspace.value (dedupeKey sender idempotencyKey) = none) :
    PushesAgree numbers message keyspace (dedupeKey sender idempotencyKey)
        ((boundedPush cjson (pushArgs bound message)).run keyspace)
        ((boundedPushIdempotent cjson (pushArgs bound message)
          (dedupeKey sender idempotencyKey)).run keyspace) ↔
      (Accepts cjson bound message keyspace → tells message keyspace = true →
        Spelled numbers message keyspace) := by
  rw [run_boundedPush_eq reads, dedupeKey, run_boundedPushIdempotent_eq reads absent]
  by_cases accepts : Accepts cjson bound message keyspace
  · rw [verdict_ok_iff.mpr accepts]
    have agreement : (EventAppended message keyspace (delivered message keyspace) ↔
        Lists numbers message (delivered message keyspace)) ↔
          (tells message keyspace = true → Spelled numbers message keyspace) := by
      rw [eventAppended_delivered_iff, lists_delivered_iff]
      tauto
    constructor
    · intro agrees _
      exact agreement.mp (agrees.pending rfl)
    · intro spelled
      have agrees := agreement.mpr (spelled accepts)
      refine ⟨rfl, ?_, fun refused => absurd rfl refused, fun _ => agrees,
        fun _ => (agrees_store_iff _).mpr agrees⟩
      intro key other
      exact if_neg other
  · have isRefused : verdict cjson bound message keyspace ≠ .ok true :=
      fun accepted => accepts (verdict_ok_iff.mp accepted)
    exact ⟨fun _ accepted => absurd accepted accepts, fun _ => pushesAgree_refused isRefused _ _⟩

end Delivery

def plainNumbers : JsValue.Numbers where
  isZero token := Decimal.value token.text = 0
  same left right := left.text = right.text
  text token := String.ofList token.text

/-- A task from `a` to `b`. -/
def request : QueueMessage :=
  { greeting with id := "0f8fad5b-d9cb-469f-a165-70867728950e" }

theorem request_agrees :
    PushesAgree plainNumbers request .empty (dedupeKey "a" "k")
      ((boundedPush Cjson.plain (pushArgs (some 10) request)).run .empty)
      ((boundedPushIdempotent Cjson.plain (pushArgs (some 10) request)
        (dedupeKey "a" "k")).run .empty) := by
  apply (pushes_agree_iff plain_readsMessages rfl).mpr
  intro _ _ entry member
  cases member

/-- A reply to a request that has no text. -/
def unspelledReply : Json := .object [
  ("id", .string "r"), ("to", .string "b"), ("type", .string "result"),
  ("payload", .object [("in_reply_to", .object [("toString", .bool true)])])]

def jammed : Keyspace Key :=
  Keyspace.empty.store (.queue "b") (some (.list [unspelledReply.render]))

/-- The event of a task is appended, but its recipient's pending messages cannot be
computed. -/
theorem jammed_disagrees :
    jammed.value (dedupeKey "a" "k") = none ∧
    ((boundedPush Cjson.plain (pushArgs (some 10) request)).run jammed).1 = .ok true ∧
    ¬PushesAgree plainNumbers request jammed (dedupeKey "a" "k")
      ((boundedPush Cjson.plain (pushArgs (some 10) request)).run jammed)
      ((boundedPushIdempotent Cjson.plain (pushArgs (some 10) request)
        (dedupeKey "a" "k")).run jammed) := by
  have accepts : Accepts Cjson.plain (some 10) request jammed := by
    refine ⟨⟨rfl, rfl, rfl, rfl⟩, rfl, ?_⟩
    rw [Cjson.plain_decode, QueueMessage.serialized, Json.parse_render]
    simp
  have accepted : (boundedPush Cjson.plain (pushArgs (some 10) request)).run jammed =
      (.ok true, delivered request jammed) := by
    rw [run_boundedPush_eq plain_readsMessages, verdict_ok_iff.mpr accepts]
    rfl
  have found : unspelledReply ∈ candidates plainNumbers "b" (jammed.items (.queue "b")) := by
    have inbox : jammed.items (.queue "b") = [unspelledReply.render] := rfl
    have isReply : isCandidate plainNumbers "b" unspelledReply = true := by decide
    rw [inbox, candidates]
    simp [isReply]
  rw [accepted]
  refine ⟨rfl, rfl, fun agrees => ?_⟩
  have lists := (agrees.pending rfl).mp (eventAppended_delivered_iff.mpr rfl)
  have spelled := (lists_delivered_iff.mp lists).2 unspelledReply found
  revert spelled
  decide

end GptQueue.Mailbox
