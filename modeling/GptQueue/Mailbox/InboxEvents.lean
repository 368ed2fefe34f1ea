import GptQueue.Foundation.JsValue
import GptQueue.Foundation.Redis
import GptQueue.Keys

/-! # Pending messages

The messages of an inbox that wait for their recipient, computed from the queue.
-/

namespace GptQueue.Mailbox

open Redis

variable (numbers : JsValue.Numbers)

def isTask (message : Json) : Bool := Json.asString (message.field "type") == some "task"

/-- `awaitsOutstanding`, with the request that is replied to. -/
def awaitsOutstanding (message : Json) : Option Json :=
  if Json.asString (message.field "type") = some "result" ∨
      Json.asString (message.field "type") = some "error" then
    ((message.field "payload").bind (·.field "in_reply_to")).filter
      (JsValue.truthy numbers.isZero)
  else none

def isCandidate (agent : String) (message : Json) : Bool :=
  Json.asString (message.field "to") == some agent &&
    (Json.asString (message.field "id")).isSome &&
    (message.field "payload").any (JsValue.truthy numbers.isZero) &&
    (isTask message || (awaitsOutstanding numbers message).isSome)

def candidates (agent : String) (raw : List String) : List Json :=
  (raw.filterMap Json.parse).filter (isCandidate numbers agent)

/-- Whether the key of the request can be spelled. An object with a `toString` of its
own has no text. -/
def isSpelled (message : Json) : Bool :=
  (awaitsOutstanding numbers message).all fun request =>
    (JsValue.toText numbers request).isSome

variable (keyspace : Keyspace Key) (agent : String)

/-- An element of the reply to `MGET`: a key without a string reads as `null`. -/
def mgetReply (key : Key) : Json := (keyspace.text key).elim .null .string

def isOwned (message : Json) : Bool :=
  ((awaitsOutstanding numbers message).bind (JsValue.toText numbers)).any fun request =>
    JsValue.strictEq numbers (some (mgetReply keyspace (Key.outstanding agent request)))
      (message.field "from")

/-- `InboxEvents.pending`; `none` when it rejects. -/
def pending : Option (List Json) :=
  if keyspace.admits (.queue agent) .list = false then none
  else
    let found := candidates numbers agent (keyspace.items (.queue agent))
    if found.all (isSpelled numbers) then
      some (found.filter fun message => isTask message || isOwned numbers keyspace agent message)
    else none

end GptQueue.Mailbox
