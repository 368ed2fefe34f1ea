import GptQueue.Claims.IsoDate
import GptQueue.Foundation.Lua
import GptQueue.Keys

/-! # The claim scripts

The Lua scripts behind the task-claim store and the mailbox transfer, one
definition for each. A loop of a script is a recursion over the list it visits.
-/

namespace GptQueue.Claims

open Redis

/-! ## Stored claims -/

/-- One outstanding durable task claim. Tasks are raw inbox payloads, in pop
order. -/
structure TaskClaim where
  claimId : String
  actorId : String
  sessionId : String
  claimedAt : String
  expiresAt : String
  tasks : List String
deriving DecidableEq, Repr

def TaskClaim.toJson (claim : TaskClaim) : Json :=
  .object [
    ("claim_id", .string claim.claimId),
    ("actor_id", .string claim.actorId),
    ("session_id", .string claim.sessionId),
    ("claimed_at", .string claim.claimedAt),
    ("expires_at", .string claim.expiresAt),
    ("tasks", .array (claim.tasks.map .string))]

namespace TaskClaim

variable (claim : TaskClaim)

@[simp] theorem field_claimId :
    claim.toJson.field "claim_id" = some (.string claim.claimId) := rfl

@[simp] theorem field_actorId :
    claim.toJson.field "actor_id" = some (.string claim.actorId) := rfl

@[simp] theorem field_sessionId :
    claim.toJson.field "session_id" = some (.string claim.sessionId) := rfl

@[simp] theorem field_claimedAt :
    claim.toJson.field "claimed_at" = some (.string claim.claimedAt) := rfl

@[simp] theorem field_expiresAt :
    claim.toJson.field "expires_at" = some (.string claim.expiresAt) := rfl

@[simp] theorem field_tasks :
    claim.toJson.field "tasks" = some (.array (claim.tasks.map .string)) := rfl

@[simp] theorem setField_expiresAt (expiresAt : String) :
    claim.toJson.setField "expires_at" (.string expiresAt) =
      { claim with expiresAt }.toJson := rfl

end TaskClaim

/-- The number of an instant as a score. -/
def score (ms : Int) : Score := ((ms : ℚ) : WithTop ℚ)

section Scripts

variable (cjson : Cjson)

/-- `msg.id` of a payload that decodes to a table with a string id. -/
def messageId (payload : String) : Option String :=
  Json.asString ((cjson.decode payload).bind fun message => message.field "id")

/-- `messageId` for the scripts that also require a non-empty id. -/
def trackedId (payload : String) : Option String :=
  (messageId cjson payload).filter (· ≠ "")

/-! ## claims-batch-claim -/

structure BatchClaimArgs where
  claimId : String
  actorId : String
  sessionId : String
  claimedAt : String
  expiresAt : String
  expiresAtMs : Int
  maxBatch : Nat
  /-- Zero stands for "unlimited". -/
  maxConcurrent : Nat

inductive BatchClaimReply
  | empty
  | claimed (stored : String)
  | ceilingReached

/-- `LPOP` up to `batch` messages. -/
def popBatch (inbox : Key) : Nat → Script Key (List String)
  | 0 => pure []
  | batch + 1 => do
      match ← lpop inbox with
      | none => pure []
      | some message =>
          let rest ← popBatch inbox batch
          pure (message :: rest)

def BatchClaimArgs.claim (args : BatchClaimArgs) (tasks : List String) : TaskClaim where
  claimId := args.claimId
  actorId := args.actorId
  sessionId := args.sessionId
  claimedAt := args.claimedAt
  expiresAt := args.expiresAt
  tasks := tasks

/-- Whether the outstanding claims are at the ceiling; unlimited callers do not
read the index. -/
def atCeiling (args : BatchClaimArgs) : Script Key Bool :=
  if args.maxConcurrent = 0 then pure false
  else do
    let outstanding ← zcard (Key.claimsIndex args.actorId)
    pure (decide (args.maxConcurrent ≤ outstanding))

def batchClaim (args : BatchClaimArgs) : Script Key BatchClaimReply := do
  if ← atCeiling args then
    pure .ceilingReached
  else
    let tasks ← popBatch (.queue args.actorId) args.maxBatch
    if tasks = [] then
      pure .empty
    else
      let stored := cjson.encode (args.claim tasks).toJson
      hset .claims args.claimId stored
      zadd (.claimsIndex args.actorId) (score args.expiresAtMs) args.claimId
      pure (.claimed stored)

/-! ## claims-recover -/

/-- The destination a recovery refuses to use. -/
inductive Role
  | inbox
  | dlq
  | counter
deriving DecidableEq, Repr

inductive RecoverReply
  | moved (recovered deadlettered : Nat)
  | refused (role : Role)
deriving DecidableEq, Repr

structure RecoverArgs where
  actorId : String
  /-- `none` stands for `NaN`. -/
  now : Option Int
  recoverCap : Nat
  dlqMaxLength : Nat
  counterTtl : Nat

/-- A task with the key of its recovery counter, when it has one. -/
structure Item where
  task : Json
  counterKey : Option Key

structure Entry where
  id : String
  tasks : List Item

/-- A digit string without a leading zero, of at most eighteen digits. -/
def incrementableDigits (digits : List Char) : Bool :=
  digits.head?.any (· ≠ '0') && digits.all Char.isDigit && digits.length ≤ 18

/-- Whether `INCR` is sure to accept the stored text. -/
def incrementable (value : String) : Bool :=
  match value.toList with
  | ['0'] => true
  | '-' :: digits => incrementableDigits digits
  | digits => incrementableDigits digits

/-- A task that is not a string has no counter: `cjson.decode` turns a number
into a number and raises on everything else. -/
def counterKey (actorId : Option String) : Json → Option Key
  | .string payload => do
      let actorId ← actorId
      let id ← trackedId cjson payload
      some (Key.recoverCount actorId id)
  | _ => none

/-- The plan for one stored claim. An unreadable claim has no tasks. -/
def claimItems (raw : String) : List Item :=
  match cjson.decode raw with
  | none => []
  | some claim =>
      match tableItems (claim.field "tasks") with
      | none => []
      | some tasks =>
          tasks.map fun task =>
            { task, counterKey := counterKey cjson (Json.asString (claim.field "actor_id")) task }

def checkCounter : Option Key → Script Key Bool
  | none => pure true
  | some counterKey => do
      if ← holds counterKey .string then
        match ← get counterKey with
        | none => pure true
        | some current => pure (incrementable current)
      else
        pure false

def checkItems : List Item → Script Key Bool
  | [] => pure true
  | item :: items => do
      if ← checkCounter item.counterKey then checkItems items else pure false

def planEntry (id : String) : Script Key (Option Entry) := do
  match ← hget .claims id with
  | none => pure (some { id, tasks := [] })
  | some raw =>
      if ← checkItems (claimItems cjson raw) then
        pure (some { id, tasks := claimItems cjson raw })
      else
        pure none

/-- Pass 1: `none` when a recovery counter cannot be used. -/
def plan : List String → Script Key (Option (List Entry))
  | [] => pure (some [])
  | id :: ids => do
      match ← planEntry cjson id with
      | none => pure none
      | some entry =>
          let entries ← plan ids
          pure (entries.map (entry :: ·))

/-- Re-queue or dead-letter one task; whether it went to the inbox. -/
def moveItem (args : RecoverArgs) (item : Item) : Script Key Bool :=
  match item.counterKey with
  | none => do
      let task ← cjson.argument item.task
      rpush (.queue args.actorId) [task]
      pure true
  | some counterKey => do
      let count ← incr counterKey
      Script.when (count = 1) (expire counterKey args.counterTtl)
      if count > args.recoverCap then
        let task ← cjson.argument item.task
        lpush (.dlq args.actorId) [task]
        ltrim (.dlq args.actorId) args.dlqMaxLength
        del counterKey
        pure false
      else
        let task ← cjson.argument item.task
        rpush (.queue args.actorId) [task]
        pure true

def moveItems (args : RecoverArgs) : List Item → Script Key (Nat × Nat)
  | [] => pure (0, 0)
  | item :: items => do
      let recovered ← moveItem cjson args item
      let counts ← moveItems args items
      pure (if recovered then (counts.1 + 1, counts.2) else (counts.1, counts.2 + 1))

/-- Pass 2. -/
def moveEntries (args : RecoverArgs) : List Entry → Script Key (Nat × Nat)
  | [] => pure (0, 0)
  | entry :: entries => do
      hdel .claims entry.id
      zrem (.claimsIndex args.actorId) entry.id
      let first ← moveItems cjson args entry.tasks
      let counts ← moveEntries args entries
      pure (first.1 + counts.1, first.2 + counts.2)

def recover (args : RecoverArgs) : Script Key RecoverReply := do
  let expired ← zrangebyscore (.claimsIndex args.actorId)
    (args.now.map fun now => score (now - 1))
  if expired = [] then
    pure (.moved 0 0)
  else
    match ← plan cjson expired with
    | none => pure (.refused .counter)
    | some entries =>
        if ← holds (.queue args.actorId) .list then
          if ← holds (.dlq args.actorId) .list then
            let counts ← moveEntries cjson args entries
            pure (.moved counts.1 counts.2)
          else
            pure (.refused .dlq)
        else
          pure (.refused .inbox)

/-! ## claims-renew -/

inductive RenewReply
  | renewed (expiresAt : String)
  | unknownClaim
  | notOwner (sessionId : String)
  | expired
  | budgetExhausted

structure RenewArgs where
  claimId : String
  actorId : String
  sessionId : String
  now : Int
  ttlSeconds : Int
  budgetSeconds : Int

/-- The expiry a renewal asks for, capped by the lifetime budget. -/
def RenewArgs.newExpires (args : RenewArgs) (claimedMs : Int) : Int :=
  min (args.now + args.ttlSeconds * 1000) (claimedMs + args.budgetSeconds * 1000)

/-- The fields a renewal reads from a stored claim, when all are strings. -/
def renewFields (claim : Json) : Option (String × String × String × String) := do
  let _ ← Json.asString (claim.field "claim_id")
  let actorId ← Json.asString (claim.field "actor_id")
  let sessionId ← Json.asString (claim.field "session_id")
  let claimedAt ← Json.asString (claim.field "claimed_at")
  let expiresAt ← Json.asString (claim.field "expires_at")
  some (actorId, sessionId, claimedAt, expiresAt)

/-- The two instants of a claim, when both strings can be read. -/
def claimInstants (claimedAt expiresAt : String) : Option (Int × Int) := do
  let expiresMs ← IsoDate.msFromIso expiresAt
  let claimedMs ← IsoDate.msFromIso claimedAt
  some (claimedMs, expiresMs)

def renew (args : RenewArgs) : Script Key RenewReply := do
  match ← hget .claims args.claimId with
  | none => pure .unknownClaim
  | some raw =>
      match cjson.decode raw with
      | none => pure .unknownClaim
      | some claim =>
          match renewFields claim with
          | none => pure .unknownClaim
          | some (actorId, sessionId, claimedAt, expiresAt) =>
              if actorId ≠ args.actorId ∨ sessionId ≠ args.sessionId then
                pure (.notOwner sessionId)
              else
                match claimInstants claimedAt expiresAt with
                | none => pure .unknownClaim
                | some (claimedMs, expiresMs) =>
                    if expiresMs ≤ args.now then
                      pure .expired
                    else if args.newExpires claimedMs ≤ args.now then
                      pure .budgetExhausted
                    else
                      let iso := IsoDate.isoFromMs (args.newExpires claimedMs)
                      hset .claims args.claimId
                        (cjson.encode (claim.setField "expires_at" (.string iso)))
                      zaddXX (.claimsIndex args.actorId)
                        (score (args.newExpires claimedMs)) args.claimId
                      pure (.renewed iso)

/-! ## claims-ack -/

inductive AckReply
  | acknowledged (tasks : Nat)
  | unknownClaim
  | notOwner (sessionId : String)

/-- The fields an acknowledgement reads, when they have their types. -/
def ackFields (claim : Json) : Option (String × String × List Json) := do
  let _ ← Json.asString (claim.field "claim_id")
  let actorId ← Json.asString (claim.field "actor_id")
  let sessionId ← Json.asString (claim.field "session_id")
  let tasks ← tableItems (claim.field "tasks")
  some (actorId, sessionId, tasks)

def delCounters : List (Option Key) → Script Key Unit
  | [] => pure ()
  | none :: keys => delCounters keys
  | some key :: keys => do
      del key
      delCounters keys

def ack (claimId actorId sessionId : String) : Script Key AckReply := do
  match ← hget .claims claimId with
  | none => pure .unknownClaim
  | some raw =>
      match (cjson.decode raw).bind ackFields with
      | none => pure .unknownClaim
      | some (storedActor, storedSession, tasks) =>
          if storedActor ≠ actorId ∨ storedSession ≠ sessionId then
            pure (.notOwner storedSession)
          else
            hdel .claims claimId
            zrem (.claimsIndex actorId) claimId
            delCounters (tasks.map (counterKey cjson (some actorId)))
            pure (.acknowledged tasks.length)

/-! ## claims-requeue -/

/-- Move the newest dead letter with the given id to the inbox tail; whether
there was one. -/
def requeue (actorId wanted : String) : Script Key Bool := do
  let payloads ← lrange (.dlq actorId)
  match payloads.find? fun payload => messageId cjson payload == some wanted with
  | none => pure false
  | some payload =>
      rpush (.queue actorId) [payload]
      lrem (.dlq actorId) payload
      del (Key.recoverCount actorId wanted)
      pure true

/-! ## claims-purge -/

/-- `TYPE key` is exactly `kind`. -/
def isKind (key : Key) (kind : Kind) : Script Key Bool := do
  let held ← type key
  pure (held == some kind)

/-- The counters of the string tasks of one stored claim, for the purged actor. -/
def purgedCounters (actor raw : String) : List (Option Key) :=
  match (cjson.decode raw).bind fun claim => tableItems (claim.field "tasks") with
  | none => []
  | some tasks => tasks.map (counterKey cjson (some actor))

/-- Delete the listed claims, collecting the counters of their tasks. -/
def purgeClaims (actor : String) : List String → Script Key (List (Option Key))
  | [] => pure []
  | claimId :: claimIds => do
      let raw ← hget .claims claimId
      hdel .claims claimId
      let rest ← purgeClaims actor claimIds
      pure (raw.elim [] (purgedCounters cjson actor) ++ rest)

/-- The ids in the actor's index; a key of another type is skipped. -/
def indexedIds (actor : String) : Script Key (List String) := do
  if ← isKind (.claimsIndex actor) .zset then zrange (.claimsIndex actor) else pure []

/-- The actor's dead letters; a key of another type is skipped. -/
def deadPayloads (actor : String) : Script Key (List String) := do
  if ← isKind (.dlq actor) .list then lrange (.dlq actor) else pure []

/-- Delete the claims with the given ids, unless the hash has another type. -/
def purgeIndexed (actor : String) (claimIds : List String) : Script Key (List (Option Key)) :=
  if claimIds = [] then pure []
  else do
    if ← isKind .claims .hash then purgeClaims cjson actor claimIds else pure []

def purgeActorClaims (actor : String) : Script Key Nat := do
  let claimIds ← indexedIds actor
  let claimCounters ← purgeIndexed cjson actor claimIds
  let dead ← deadPayloads actor
  delCounters (claimCounters ++ dead.map fun payload =>
    counterKey cjson (some actor) (.string payload))
  del (.claimsIndex actor)
  del (.dlq actor)
  del (.inboxEvents actor)
  del (.inboxTrace actor)
  pure claimIds.length

/-- The script behind `RedisClient.unregister`; an empty session id stands for
none. -/
def unregister (name sessionId : String) : Script Key Nat := do
  Script.when (sessionId ≠ "") (do
    del (.session sessionId)
    del (.lease sessionId)
    srem (.agentSessions name) sessionId)
  hdel .registry name
  let removed ← purgeActorClaims cjson name
  del (.queue name)
  del (.mailboxMeta name)
  del (.heartbeat name)
  pure removed

end Scripts

/-! ## migrate-messages -/

inductive MigrateReply
  | transferred (messages : Nat)
  | claimsOutstanding
deriving DecidableEq, Repr

/-- The element limit of one variadic push. -/
def chunk : Nat := 256

/-- Split a list into parts of `chunk` elements, the last one shorter. -/
def chunks (messages : List String) : List (List String) :=
  if messages = [] then []
  else messages.take chunk :: chunks (messages.drop chunk)
termination_by messages.length
decreasing_by
  have positive : 0 < messages.length := List.length_pos_iff.mpr ‹_›
  simp only [List.length_drop, chunk]
  omega

theorem chunks_ne_nil {messages : List String} (nonempty : messages ≠ []) :
    chunks messages ≠ [] := by
  rw [chunks, if_neg nonempty]
  simp

@[simp] theorem flatten_chunks (messages : List String) : (chunks messages).flatten = messages := by
  induction messages using chunks.induct with
  | case1 => simp [chunks]
  | case2 messages nonempty induction =>
      rw [chunks, if_neg nonempty, List.flatten_cons, induction, List.take_append_drop]

def rpushChunks (key : Key) : List (List String) → Script Key Unit
  | [] => pure ()
  | part :: parts => do
      rpush key part
      rpushChunks key parts

def lpushChunks (key : Key) : List (List String) → Script Key Unit
  | [] => pure ()
  | part :: parts => do
      lpush key part
      lpushChunks key parts

/-- The dead-letter half of a transfer. `LPUSH` runs from the source's tail, so
that its head lands at the destination's head. -/
def migrateDeadLetters (source destination : Key) (bound : Nat) : Script Key Unit :=
  if source = destination then pure ()
  else do
    let dead ← lrange source
    if dead = [] then
      pure ()
    else
      lpushChunks destination (chunks dead.reverse)
      ltrim destination bound
      del source

def migrateInbox (source destination : Key) : Script Key Nat := do
  let messages ← lrange source
  Script.when (messages ≠ []) (do
    rpushChunks destination (chunks messages)
    del source)
  pure messages.length

def checkDeadLetters (source destination : Key) : Script Key Unit := do
  let sourceHolds ← holds source .list
  let destinationHolds ← holds destination .list
  if sourceHolds && destinationHolds then pure ()
  else Script.raise (.reply "dead-letter queue key has wrong type")

/-- The claims outstanding for the source; zero when its index is not passed. -/
def outstandingClaims (source : String) (guarded : Bool) : Script Key Nat :=
  if guarded then zcard (Key.claimsIndex source) else pure 0

/-- `migrate-messages` for two actors; `guarded` passes the source's claims
index, and `deadLetterBound` the two dead-letter queues. -/
def migrate (source destination : String) (guarded : Bool) (deadLetterBound : Option Nat) :
    Script Key MigrateReply :=
  if source = destination then pure (.transferred 0)
  else do
    let outstanding ← outstandingClaims source guarded
    if 0 < outstanding then
      pure .claimsOutstanding
    else
      match deadLetterBound with
      | none => do
          let count ← migrateInbox (.queue source) (.queue destination)
          pure (.transferred count)
      | some bound => do
          checkDeadLetters (.dlq source) (.dlq destination)
          let count ← migrateInbox (.queue source) (.queue destination)
          migrateDeadLetters (.dlq source) (.dlq destination) bound
          pure (.transferred count)

end GptQueue.Claims
