import GptQueue.Foundation.Lua
import GptQueue.Keys

/-! # The bounded push

A queue message, its text, and the script that appends it to a mailbox.
-/

namespace GptQueue.Mailbox

open Redis

/-! ## Messages -/

inductive MessageType
  | task
  | result
  | status
  | error
  | ping
deriving DecidableEq, Repr

def MessageType.name : MessageType → String
  | .task => "task"
  | .result => "result"
  | .status => "status"
  | .error => "error"
  | .ping => "ping"

/-- `QueueMessage`, with its `from` and `to` as `sender` and `recipient` and the
fields of its payload in line. -/
structure QueueMessage where
  id : String
  sender : String
  recipient : String
  timestamp : String
  type : MessageType
  content : String
  metadata : Option (List (String × Json))
  inReplyTo : Option String

namespace QueueMessage

/-- `JSON.stringify` leaves out the fields that are `undefined`. -/
def payloadJson (message : QueueMessage) : Json :=
  .object <|
    [("content", .string message.content)] ++
      (message.metadata.elim [] fun metadata => [("metadata", .object metadata)]) ++
      (message.inReplyTo.elim [] fun inReplyTo => [("in_reply_to", .string inReplyTo)])

def toJson (message : QueueMessage) : Json :=
  .object [
    ("id", .string message.id),
    ("from", .string message.sender),
    ("to", .string message.recipient),
    ("timestamp", .string message.timestamp),
    ("type", .string message.type.name),
    ("payload", message.payloadJson)]

def serialized (message : QueueMessage) : String := message.toJson.render

/-- `message.payload.in_reply_to || message.id`; an empty string is falsy. -/
def replyTarget (message : QueueMessage) : String :=
  match message.inReplyTo with
  | none => message.id
  | some inReplyTo => if inReplyTo = "" then message.id else inReplyTo

def eligible (message : QueueMessage) : Bool :=
  message.type == .task ||
    ((message.type == .result || message.type == .error) &&
      message.inReplyTo.any (· ≠ ""))

def outstandingKey (message : QueueMessage) : Key :=
  if message.type = .task then Key.outstanding message.sender message.id
  else Key.outstanding message.recipient message.replyTarget

end QueueMessage

/-! ## bounded-push -/

/-- A field of a Lua value: tables and strings can be indexed, anything else
raises. -/
def index (value : Option Json) (name : String) : Script Key (Option Json) :=
  match value with
  | some (.object fields) => pure ((Json.object fields).field name)
  | some (.array _) => pure none
  | some (.string _) => pure none
  | _ => Script.raise (.reply "attempt to index a non-table value")

/-- Pass an optional Lua value to a command; `nil` cannot be passed. -/
def passed (cjson : Cjson) (value : Option Json) : Script Key String :=
  match value with
  | some value => cjson.argument value
  | none => Script.raise .badArgument

/-- `value or ''`. -/
def orEmpty : Option Json → Option Json
  | none => some (.string "")
  | some (.bool false) => some (.string "")
  | some value => some value

/-- The keys and arguments of one push attempt. A bound of `none` is `NaN`, which
no length reaches. -/
structure PushArgs where
  queueKey : Key
  metaKey : Key
  eventsKey : Key
  outstandingKey : Key
  envelope : String
  bound : Option Int
  messageId : String
  type : MessageType
  eligible : Bool
  isTask : Bool
  recipient : String
  sender : String

def checkKind (key : Key) (kind : Kind) (message : String) : Script Key Unit := do
  if ← holds key kind then pure () else Script.raise (.reply message)

def notifies (args : PushArgs) : Script Key Bool :=
  if args.type = .task then pure true
  else if args.eligible then do
    let requester ← get args.outstandingKey
    pure (requester == some args.sender)
  else pure false

def appendEvent (cjson : Cjson) (args : PushArgs) (envelope : Json) : Script Key Unit := do
  let timestamp ← passed cjson (← index (some envelope) "timestamp")
  let sender ← passed cjson (← index (some envelope) "from")
  let recipient ← passed cjson (← index (some envelope) "to")
  let payload ← index (some envelope) "payload"
  let inReplyTo ← passed cjson (orEmpty (← index payload "in_reply_to"))
  xadd args.eventsKey [
    ("message_id", args.messageId), ("type", args.type.name), ("timestamp", timestamp),
    ("from", sender), ("to", recipient), ("in_reply_to", inReplyTo)]

def announce (cjson : Cjson) (args : PushArgs) (envelope : Json) : Script Key Unit := do
  let notify ← notifies args
  Script.when (notify = true) (appendEvent cjson args envelope)
  Script.when (args.isTask = true) (set args.outstandingKey args.recipient)

def append (cjson : Cjson) (args : PushArgs) (current : Nat) (envelope : Json) :
    Script Key Unit := do
  rpush args.queueKey [args.envelope]
  hset args.metaKey "current_size" (String.ofList (Decimal.numeral (current + 1)))
  announce cjson args envelope

/-- `bounded-push`; whether the message was appended. -/
def boundedPush (cjson : Cjson) (args : PushArgs) : Script Key Bool := do
  let current ← llen args.queueKey
  if args.bound.any fun bound : Int => bound ≤ current then
    pure false
  else
    checkKind args.metaKey .hash "mailbox metadata key has wrong type"
    checkKind args.eventsKey .stream "inbox event key has wrong type"
    checkKind args.outstandingKey .string "outstanding key has wrong type"
    match cjson.decode args.envelope with
    | none => Script.raise (.reply "cjson.decode")
    | some envelope =>
        append cjson args current envelope
        pure true

/-- The push attempt of `MailboxStore.send`. -/
def pushArgs (bound : Option Int) (message : QueueMessage) : PushArgs where
  queueKey := .queue message.recipient
  metaKey := .mailboxMeta message.recipient
  eventsKey := .inboxEvents message.recipient
  outstandingKey := message.outstandingKey
  envelope := message.serialized
  bound := bound
  messageId := message.id
  type := message.type
  eligible := message.eligible
  isTask := message.type == .task
  recipient := message.recipient
  sender := message.sender

end GptQueue.Mailbox
