import GptQueue.Claims.Recovery
import GptQueue.Mailbox.Push

/-! # What a push does

The bounded push on any keyspace, whatever its keys hold: it comes to a verdict, and if
it is not refused it leaves a delivery behind.
-/

namespace GptQueue.Claims

open Redis
open GptQueue.Mailbox

/-- A decoded envelope has the header of the message it was written for. -/
structure EnvelopeOf (message : QueueMessage) (envelope : Json) : Prop where
  isTable : ∃ fields, envelope = .object fields
  timestamp : envelope.field "timestamp" = some (.string message.timestamp)
  sender : envelope.field "from" = some (.string message.sender)
  recipient : envelope.field "to" = some (.string message.recipient)
  payload : ∃ fields, envelope.field "payload" = some (.object fields) ∧
    (Json.object fields).field "in_reply_to" = message.inReplyTo.map .string

/-- `cjson.decode` reads the header of a message back, or refuses the text (a
metadata field can be nested too deeply for it). -/
def ReadsMessages (cjson : Cjson) : Prop :=
  ∀ message envelope, cjson.decode message.serialized = some envelope →
    EnvelopeOf message envelope

theorem envelopeOf_toJson (message : QueueMessage) : EnvelopeOf message message.toJson := by
  refine ⟨⟨_, rfl⟩, rfl, rfl, rfl, ⟨_, rfl, ?_⟩⟩
  cases metadata : message.metadata <;> cases inReplyTo : message.inReplyTo <;> rfl

theorem plain_readsMessages : ReadsMessages Cjson.plain := by
  intro message envelope decoded
  rw [Cjson.plain_decode, QueueMessage.serialized, Json.parse_render] at decoded
  obtain rfl : message.toJson = envelope := Option.some.inj decoded
  exact envelopeOf_toJson message

theorem kind_outstandingKey (message : QueueMessage) :
    message.outstandingKey.kind = .string ∧ message.outstandingKey.holdsTasks = false := by
  unfold QueueMessage.outstandingKey
  split <;> exact ⟨rfl, rfl⟩

theorem run_checkKind {keyspace : Keyspace Key} {key : Key} {kind : Kind}
    (admitted : keyspace.admits key kind = true) (text : String) :
    (checkKind key kind text).run keyspace = (.ok (), keyspace) := by
  rw [checkKind, Script.run_bind_ok (run_holds key kind keyspace), admitted]
  rfl

end GptQueue.Claims

namespace GptQueue.Mailbox

open Redis
open GptQueue.Claims

theorem ne_outstandingKey (message : QueueMessage) {key : Key}
    (other : ∀ joined, key ≠ .outstandingFor joined) : key ≠ message.outstandingKey := by
  unfold QueueMessage.outstandingKey Key.outstanding
  split
  · exact other _
  · exact other _

/-! ## Deliveries -/

section Delivered

variable (message : QueueMessage) (keyspace : Keyspace Key)

/-- The header of a message in the event stream. -/
def inboxEvent : List (String × String) := [
  ("message_id", message.id), ("type", message.type.name), ("timestamp", message.timestamp),
  ("from", message.sender), ("to", message.recipient),
  ("in_reply_to", message.inReplyTo.getD "")]

/-- Whether a push appends the header. -/
def tells : Bool :=
  message.type == .task ||
    (message.eligible && keyspace.text message.outstandingKey == some message.sender)

def told : Keyspace Key :=
  if tells message keyspace then
    keyspace.store (.inboxEvents message.recipient)
      (some (.stream (Value.entries (keyspace.value (.inboxEvents message.recipient)) ++
        [inboxEvent message])))
  else keyspace

def announced : Keyspace Key :=
  if message.type = .task then
    (told message keyspace).store message.outstandingKey (some (.string message.recipient))
  else told message keyspace

/-- The message is in the inbox and the size of the mailbox is up to date. -/
def enlarged : Keyspace Key :=
  (pushInbox keyspace message.recipient message.serialized).store
    (.mailboxMeta message.recipient)
    (Value.ofFields ((keyspace.fields (.mailboxMeta message.recipient)).insert "current_size"
      (String.ofList
        (Decimal.numeral ((keyspace.items (.queue message.recipient)).length + 1)))))

def delivered : Keyspace Key := announced message (enlarged message keyspace)

end Delivered

section Scripts

variable {cjson : Cjson} {bound : Option Int} {message : QueueMessage}
  {keyspace : Keyspace Key}

theorem told_value_other {key : Key} (other : key ≠ .inboxEvents message.recipient) :
    (told message keyspace).value key = keyspace.value key := by
  rw [told]
  split
  · exact if_neg other
  · rfl

theorem announced_value_other {key : Key} (notEvents : key ≠ .inboxEvents message.recipient)
    (notMarker : message.type = .task → key ≠ message.outstandingKey) :
    (announced message keyspace).value key = keyspace.value key := by
  rw [announced]
  split
  · next isTask => rw [Keyspace.store_value, if_neg (notMarker isTask), told_value_other notEvents]
  · exact told_value_other notEvents

theorem enlarged_value_other {key : Key} (notQueue : key ≠ .queue message.recipient)
    (notMeta : key ≠ .mailboxMeta message.recipient) :
    (enlarged message keyspace).value key = keyspace.value key := by
  rw [enlarged, Keyspace.store_value, if_neg notMeta]
  exact if_neg notQueue

/-- A push tells by what was there before it. -/
theorem tells_enlarged : tells message (enlarged message keyspace) = tells message keyspace := by
  rw [tells, tells, Keyspace.text, Keyspace.text,
    enlarged_value_other (ne_outstandingKey message (by simp)).symm
      (ne_outstandingKey message (by simp)).symm]

theorem tells_store {key : Key} (value : Option Value) (other : key ≠ message.outstandingKey) :
    tells message (keyspace.store key value) = tells message keyspace := by
  rw [tells, tells, Keyspace.text, Keyspace.text, Keyspace.store_value, if_neg other.symm]

/-- An entry that an announcement does not write can be written before or after it. -/
theorem announced_store {key : Key} (value : Option Value)
    (notMarker : key ≠ message.outstandingKey) (notEvents : key ≠ .inboxEvents message.recipient) :
    announced message (keyspace.store key value) =
      (announced message keyspace).store key value := by
  have toldStore : told message (keyspace.store key value) =
      (told message keyspace).store key value := by
    rw [told, told, tells_store value notMarker]
    split
    · rw [Keyspace.store_value, if_neg notEvents.symm]
      exact Keyspace.store_comm keyspace notEvents _ _
    · rfl
  rw [announced, announced, toldStore]
  split
  · exact Keyspace.store_comm _ notMarker _ _
  · rfl

theorem run_notifies_eq (isString : keyspace.admits message.outstandingKey .string = true) :
    (notifies (pushArgs bound message)).run keyspace =
      (.ok (tells message keyspace), keyspace) := by
  have read : (Redis.get (pushArgs bound message).outstandingKey).run keyspace =
      (.ok (keyspace.text message.outstandingKey), keyspace) := by
    simp only [Redis.get, pushArgs, run_typed isString]
  unfold notifies
  split
  · next isTask =>
      have ofTask : (message.type == .task) = true := beq_iff_eq.mpr isTask
      rw [tells, ofTask]
      rfl
  · next notTask =>
      have notTask : (message.type == .task) = false := beq_eq_false_iff_ne.mpr notTask
      split
      · next eligible =>
          have eligible : message.eligible = true := eligible
          rw [Script.run_bind_ok read, tells, notTask, eligible]
          rfl
      · next notEligible =>
          have notEligible : message.eligible = false := Bool.eq_false_iff.mpr notEligible
          rw [tells, notTask, notEligible]
          rfl

theorem run_appendEvent_eq {envelope : Json} (ofMessage : EnvelopeOf message envelope) :
    (appendEvent cjson (pushArgs bound message) envelope).run keyspace =
      (xadd (.inboxEvents message.recipient) (inboxEvent message)).run keyspace := by
  rcases ofMessage with ⟨⟨fields, rfl⟩, timestamp, sender, recipient, payload, payloadEq, inReplyTo⟩
  have reply : passed cjson (orEmpty ((Json.object payload).field "in_reply_to")) =
      (pure (message.inReplyTo.getD "") : Script Key String) := by
    rw [inReplyTo]
    cases message.inReplyTo <;> rfl
  simp only [appendEvent, index, timestamp, sender, recipient, payloadEq, Script.run_bind,
    Script.run_pure, reply]
  rfl

theorem run_announce_eq
    (stream : keyspace.admits (.inboxEvents message.recipient) .stream = true)
    (isString : keyspace.admits message.outstandingKey .string = true) {envelope : Json}
    (ofMessage : EnvelopeOf message envelope) :
    (announce cjson (pushArgs bound message) envelope).run keyspace =
      (.ok (), announced message keyspace) := by
  have telling : (Script.when (tells message keyspace = true)
      (appendEvent cjson (pushArgs bound message) envelope)).run keyspace =
        (.ok (), told message keyspace) := by
    rw [told, Script.when]
    split
    · rw [run_appendEvent_eq ofMessage]
      exact run_typed stream
    · rfl
  have marking : (Script.when ((pushArgs bound message).isTask = true)
      (set (pushArgs bound message).outstandingKey (pushArgs bound message).recipient)).run
        (told message keyspace) = (.ok (), announced message keyspace) := by
    rw [announced, Script.when]
    have sameTest : (pushArgs bound message).isTask = true ↔ message.type = .task := beq_iff_eq
    by_cases isTask : message.type = .task
    · rw [if_pos (sameTest.mpr isTask), if_pos isTask]
      rfl
    · rw [if_neg fun test => isTask (sameTest.mp test), if_neg isTask]
      rfl
  rw [announce]
  exact (Script.run_bind_ok (run_notifies_eq isString)).trans
    ((Script.run_bind_ok telling).trans marking)

theorem enlarged_admits_other {key : Key} (kind : Kind) (notQueue : key ≠ .queue message.recipient)
    (notMeta : key ≠ .mailboxMeta message.recipient) :
    (enlarged message keyspace).admits key kind = keyspace.admits key kind := by
  rw [Keyspace.admits, Keyspace.admits, enlarged_value_other notQueue notMeta]

theorem items_delivered : (delivered message keyspace).items (.queue message.recipient) =
    keyspace.items (.queue message.recipient) ++ [message.serialized] := by
  have kept : (delivered message keyspace).value (.queue message.recipient) =
      (enlarged message keyspace).value (.queue message.recipient) :=
    announced_value_other (by simp) fun _ => ne_outstandingKey message (by simp)
  rw [Keyspace.items, kept, enlarged, Keyspace.store_value, if_neg (by simp), pushInbox]
  simp

/-! ## Verdicts -/

/-- What the checks of a push come to: it is appended, finds the mailbox full, or
raises. -/
def verdict (cjson : Cjson) (bound : Option Int) (message : QueueMessage)
    (keyspace : Keyspace Key) : Except Fault Bool :=
  if keyspace.admits (.queue message.recipient) .list = false then .error .wrongType
  else if bound.any fun bound : Int =>
      bound ≤ (keyspace.items (.queue message.recipient)).length then .ok false
  else if keyspace.admits (.mailboxMeta message.recipient) .hash = false then
    .error (.reply "mailbox metadata key has wrong type")
  else if keyspace.admits (.inboxEvents message.recipient) .stream = false then
    .error (.reply "inbox event key has wrong type")
  else if keyspace.admits message.outstandingKey .string = false then
    .error (.reply "outstanding key has wrong type")
  else if cjson.decode message.serialized = none then .error (.reply "cjson.decode")
  else .ok true

/-- The keys of a push that is not refused have their types. -/
structure Ready (message : QueueMessage) (keyspace : Keyspace Key) : Prop where
  list : keyspace.admits (.queue message.recipient) .list = true
  hash : keyspace.admits (.mailboxMeta message.recipient) .hash = true
  stream : keyspace.admits (.inboxEvents message.recipient) .stream = true
  isString : keyspace.admits message.outstandingKey .string = true

/-- The mailbox has room, the keys have their types and the envelope can be read. -/
structure Accepts (cjson : Cjson) (bound : Option Int) (message : QueueMessage)
    (keyspace : Keyspace Key) : Prop where
  ready : Ready message keyspace
  room : (bound.any fun bound : Int =>
    bound ≤ (keyspace.items (.queue message.recipient)).length) = false
  readable : cjson.decode message.serialized ≠ none

theorem verdict_ok_iff :
    verdict cjson bound message keyspace = .ok true ↔ Accepts cjson bound message keyspace := by
  unfold verdict
  constructor
  · intro accepted
    split_ifs at accepted with list reached hash stream isString unreadable
    · cases accepted
    exact ⟨⟨by simpa using list, by simpa using hash, by simpa using stream,
      by simpa using isString⟩, by simpa using reached, unreadable⟩
  · rintro ⟨⟨list, hash, stream, isString⟩, room, readable⟩
    simp [list, hash, stream, isString, room, readable]

theorem verdict_full (reached : verdict cjson bound message keyspace = .ok false) :
    bound.any fun bound : Int => bound ≤ (keyspace.items (.queue message.recipient)).length := by
  unfold verdict at reached
  split_ifs at reached with list full
  · exact full
  · cases reached

theorem not_wellTyped {key : Key} {kind : Kind} (isKind : key.kind = kind)
    (refused : keyspace.admits key kind = false) : ¬WellTyped keyspace := by
  intro typed
  have admitted := typed key
  rw [isKind, refused] at admitted
  cases admitted

theorem verdict_error {fault : Fault}
    (reached : verdict cjson bound message keyspace = .error fault) :
    ¬WellTyped keyspace ∨ cjson.decode message.serialized = none := by
  unfold verdict at reached
  split_ifs at reached with list full hash stream isString unreadable
  · exact Or.inl (not_wellTyped rfl list)
  · exact Or.inl (not_wellTyped rfl hash)
  · exact Or.inl (not_wellTyped rfl stream)
  · exact Or.inl (not_wellTyped (kind_outstandingKey message).1 isString)
  · exact Or.inr unreadable

/-- The checks of the keys and of the envelope, and the writes after them. -/
def checkKeys {α : Type} (cjson : Cjson) (args : PushArgs) (write : Json → Script Key α) :
    Script Key α := do
  checkKind args.metaKey .hash "mailbox metadata key has wrong type"
  checkKind args.eventsKey .stream "inbox event key has wrong type"
  checkKind args.outstandingKey .string "outstanding key has wrong type"
  match cjson.decode args.envelope with
  | none => Script.raise (.reply "cjson.decode")
  | some envelope => write envelope

/-- The part that the scripts have in common. -/
def checked {α : Type} (cjson : Cjson) (args : PushArgs) (full : α)
    (write : Nat → Json → Script Key α) : Script Key α := do
  let current ← llen args.queueKey
  if args.bound.any fun bound : Int => bound ≤ current then
    pure full
  else
    checkKeys cjson args (write current)

/-- A refused check leaves the keyspace alone, and otherwise the writes are run. -/
inductive Checked {α : Type} (cjson : Cjson) (message : QueueMessage) (keyspace : Keyspace Key)
    (full : α) (write : Nat → Json → Script Key α) :
    Except Fault Bool → Except Fault α × Keyspace Key → Prop
  | raised (fault : Fault) :
      Checked cjson message keyspace full write (.error fault) (.error fault, keyspace)
  | full : Checked cjson message keyspace full write (.ok false) (.ok full, keyspace)
  | written (ready : Ready message keyspace) {envelope : Json}
      (decoded : cjson.decode message.serialized = some envelope) :
      Checked cjson message keyspace full write (.ok true)
        ((write (keyspace.items (.queue message.recipient)).length envelope).run keyspace)

theorem run_checkKind_refused {key : Key} {kind : Kind} (text : String)
    (refused : keyspace.admits key kind = false) :
    (checkKind key kind text).run keyspace = (.error (.reply text), keyspace) := by
  rw [checkKind, Script.run_bind_ok (run_holds key kind keyspace), refused]
  rfl

theorem Checked.of_checkKind {α : Type} {full : α} {write : Nat → Json → Script Key α}
    (key : Key) (kind : Kind) (text : String) {rest : Except Fault Bool} {next : Script Key α}
    (passed : keyspace.admits key kind = true →
      Checked cjson message keyspace full write rest (next.run keyspace)) :
    Checked cjson message keyspace full write
      (if keyspace.admits key kind = false then .error (.reply text) else rest)
      ((do checkKind key kind text; next : Script Key α).run keyspace) := by
  cases admitted : keyspace.admits key kind with
  | false =>
      rw [if_pos rfl, Script.run_bind_error (run_checkKind_refused text admitted)]
      exact .raised _
  | true =>
      rw [if_neg (by simp), Script.run_bind_ok (run_checkKind admitted text)]
      exact passed admitted

theorem run_checked {α : Type} (full : α) (write : Nat → Json → Script Key α) :
    Checked cjson message keyspace full write (verdict cjson bound message keyspace)
      ((checked cjson (pushArgs bound message) full write).run keyspace) := by
  unfold verdict
  cases list : keyspace.admits (.queue message.recipient) .list with
  | false =>
      have refused : (checked cjson (pushArgs bound message) full write).run keyspace =
          (.error .wrongType, keyspace) := Script.run_bind_error (run_typed_of_refused list)
      rw [if_pos rfl, refused]
      exact .raised _
  | true =>
      have counted : (checked cjson (pushArgs bound message) full write).run keyspace =
          (if (bound.any fun bound : Int =>
              bound ≤ (keyspace.items (.queue message.recipient)).length) = true then
            (pure full : Script Key α)
          else checkKeys cjson (pushArgs bound message)
            (write (keyspace.items (.queue message.recipient)).length)).run keyspace :=
        Script.run_bind_ok (run_typed list)
      rw [if_neg (by simp), counted]
      by_cases reached : (bound.any fun bound : Int =>
          bound ≤ (keyspace.items (.queue message.recipient)).length) = true
      · rw [if_pos reached, if_pos reached]
        exact .full
      · rw [if_neg reached, if_neg reached, checkKeys]
        apply Checked.of_checkKind
        intro hash
        apply Checked.of_checkKind
        intro stream
        apply Checked.of_checkKind
        intro isString
        cases decoded : cjson.decode message.serialized with
        | none =>
            have unreadable : cjson.decode (pushArgs bound message).envelope = none := decoded
            rw [if_pos rfl, unreadable]
            exact .raised _
        | some envelope =>
            have readable : cjson.decode (pushArgs bound message).envelope = some envelope :=
              decoded
            rw [if_neg (by simp), readable]
            exact .written ⟨list, hash, stream, isString⟩ decoded

/-! ## The scripts -/

theorem boundedPush_eq (args : PushArgs) : boundedPush cjson args =
    checked cjson args false fun current envelope =>
      append cjson args current envelope >>= fun _ => pure true := rfl

/-- A script that changes the keyspace only when the push is accepted. -/
def settle {α : Type} (full sent : α) (before after : Keyspace Key) :
    Except Fault Bool → Except Fault α × Keyspace Key
  | .error fault => (.error fault, before)
  | .ok false => (.ok full, before)
  | .ok true => (.ok sent, after)

theorem run_checked_eq {α : Type} {full sent : α} {write : Nat → Json → Script Key α}
    {after : Keyspace Key}
    (writes : ∀ envelope, Ready message keyspace →
      cjson.decode message.serialized = some envelope →
      (write (keyspace.items (.queue message.recipient)).length envelope).run keyspace =
        (.ok sent, after)) :
    (checked cjson (pushArgs bound message) full write).run keyspace =
      settle full sent keyspace after (verdict cjson bound message keyspace) := by
  have outcome := @run_checked cjson bound message keyspace α full write
  generalize verdict cjson bound message keyspace = reached at outcome ⊢
  generalize (checked cjson (pushArgs bound message) full write).run keyspace = result
    at outcome ⊢
  cases outcome with
  | raised fault => rfl
  | full => rfl
  | @written ready envelope decoded => exact writes envelope ready decoded

theorem run_enlarge {α : Type} (ready : Ready message keyspace) (next : Script Key α) :
    (do
      rpush (pushArgs bound message).queueKey [(pushArgs bound message).envelope]
      hset (pushArgs bound message).metaKey "current_size" (String.ofList
        (Decimal.numeral ((keyspace.items (.queue message.recipient)).length + 1)))
      next : Script Key α).run keyspace = next.run (enlarged message keyspace) := by
  have inboxed : (rpush (pushArgs bound message).queueKey [(pushArgs bound message).envelope]).run
      keyspace = (.ok (), pushInbox keyspace message.recipient message.serialized) :=
    run_rpush_inbox ready.list _
  have sameMeta : (pushInbox keyspace message.recipient message.serialized).value
      (.mailboxMeta message.recipient) = keyspace.value (.mailboxMeta message.recipient) := by
    simp [pushInbox]
  have hash : (pushInbox keyspace message.recipient message.serialized).admits
      (.mailboxMeta message.recipient) .hash = true := by
    rw [Keyspace.admits, sameMeta]
    exact ready.hash
  have sized : (hset (pushArgs bound message).metaKey "current_size" (String.ofList
      (Decimal.numeral ((keyspace.items (.queue message.recipient)).length + 1)))).run
        (pushInbox keyspace message.recipient message.serialized) =
          (.ok (), enlarged message keyspace) := by
    rw [enlarged, Keyspace.fields, ← sameMeta]
    exact run_typed hash
  rw [Script.run_bind_ok inboxed, Script.run_bind_ok sized]

theorem run_append_eq (ready : Ready message keyspace) {envelope : Json}
    (ofMessage : EnvelopeOf message envelope) :
    (append cjson (pushArgs bound message) (keyspace.items (.queue message.recipient)).length
      envelope).run keyspace = (.ok (), delivered message keyspace) := by
  rw [append, run_enlarge ready]
  apply run_announce_eq _ _ ofMessage
  · rw [enlarged_admits_other _ (by simp) (by simp)]
    exact ready.stream
  · rw [enlarged_admits_other _ (ne_outstandingKey message (by simp)).symm
      (ne_outstandingKey message (by simp)).symm]
    exact ready.isString

/-- A push either leaves the keyspace alone or delivers the message. -/
theorem run_boundedPush_eq (reads : ReadsMessages cjson) :
    (boundedPush cjson (pushArgs bound message)).run keyspace =
      settle false true keyspace (delivered message keyspace)
        (verdict cjson bound message keyspace) := by
  rw [boundedPush_eq]
  apply run_checked_eq
  intro envelope ready decoded
  rw [Script.run_bind_ok (run_append_eq ready (reads message envelope decoded))]
  rfl

end Scripts

end GptQueue.Mailbox
