import GptQueue.Claims.System
import GptQueue.Foundation.Interleaving
import GptQueue.Foundation.PercentEncoding

/-! # Idempotent sends

A send with a caller's key pushes at most one message for its sender and key, as
long as the dedupe entry of the two lives.
-/

namespace GptQueue.Mailbox

open Redis
open GptQueue.Claims

/-! ## The dedupe key -/

def dedupeKey (sender idempotencyKey : String) : Key :=
  .idempotencyFor (sender ++ ":" ++ PercentEncoding.encodeURIComponent idempotencyKey)

/-- Different senders or keys have different dedupe keys, also when a sender's
name has colons. -/
theorem dedupeKey_inj {sender otherSender idempotencyKey otherKey : String}
    (same : dedupeKey sender idempotencyKey = dedupeKey otherSender otherKey) :
    sender = otherSender ∧ idempotencyKey = otherKey := by
  have joined := Key.idempotencyFor.inj same
  rcases join_inj (PercentEncoding.separator_notMem_encodeURIComponent _)
    (PercentEncoding.separator_notMem_encodeURIComponent _) joined with ⟨senders, keys⟩
  exact ⟨senders, PercentEncoding.encodeURIComponent_injective keys⟩

/-! ## bounded-push-idempotent -/

inductive PushOnceReply
  | full (messageId : String)
  | sent (messageId : String)
  | duplicate (messageId : String)
deriving DecidableEq, Repr

/-- The writes of a first push for a dedupe key. -/
def appendOnce (cjson : Cjson) (args : PushArgs) (dedupe : Key) (current : Nat)
    (envelope : Json) : Script Key Unit := do
  rpush args.queueKey [args.envelope]
  hset args.metaKey "current_size" (String.ofList (Decimal.numeral (current + 1)))
  set dedupe args.messageId
  announce cjson args envelope

/-- The attempt when there is no dedupe entry. -/
def pushFirst (cjson : Cjson) (args : PushArgs) (dedupe : Key) : Script Key PushOnceReply := do
  let current ← llen args.queueKey
  if args.bound.any fun bound : Int => bound ≤ current then
    pure (.full args.messageId)
  else
    checkKind args.metaKey .hash "mailbox metadata key has wrong type"
    checkKind args.eventsKey .stream "inbox event key has wrong type"
    checkKind args.outstandingKey .string "outstanding key has wrong type"
    match cjson.decode args.envelope with
    | none => Script.raise (.reply "cjson.decode")
    | some envelope =>
        appendOnce cjson args dedupe current envelope
        pure (.sent args.messageId)

def boundedPushIdempotent (cjson : Cjson) (args : PushArgs) (dedupe : Key) :
    Script Key PushOnceReply := do
  match ← Redis.get dedupe with
  | some existing => pure (.duplicate existing)
  | none => pushFirst cjson args dedupe

section Script

variable {cjson : Cjson} {message : QueueMessage} {bound : Option Int} {joined : String}
  {keyspace : Keyspace Key}

/-- A first push for a dedupe key has appended the message and kept its id. -/
structure PushedOnce (message : QueueMessage) (joined : String) (before after : Keyspace Key) :
    Prop where
  inbox : after.items (.queue message.recipient) =
    before.items (.queue message.recipient) ++ [message.serialized]
  entry : after.value (.idempotencyFor joined) = some (.string message.id)
  others : ∀ other, other ≠ joined →
    after.value (.idempotencyFor other) = before.value (.idempotencyFor other)

/-- What an attempt can do: answer with the id kept before, change nothing, or be
the first push for its dedupe key. -/
inductive PushOutcome (cjson : Cjson) (message : QueueMessage) (bound : Option Int)
    (joined : String) (keyspace : Keyspace Key) :
    Except Fault PushOnceReply × Keyspace Key → Prop
  | duplicate {existing : String}
      (held : keyspace.value (.idempotencyFor joined) = some (.string existing)) :
      PushOutcome cjson message bound joined keyspace (.ok (.duplicate existing), keyspace)
  | full (reached : bound.any fun bound : Int =>
        bound ≤ (keyspace.items (.queue message.recipient)).length) :
      PushOutcome cjson message bound joined keyspace (.ok (.full message.id), keyspace)
  | failed (fault : Fault)
      (cause : ¬WellTyped keyspace ∨ cjson.decode message.serialized = none) :
      PushOutcome cjson message bound joined keyspace (.error fault, keyspace)
  | sent {after : Keyspace Key} (absent : keyspace.value (.idempotencyFor joined) = none)
      (pushed : PushedOnce message joined keyspace after) :
      PushOutcome cjson message bound joined keyspace (.ok (.sent message.id), after)

theorem pushFirst_eq (args : PushArgs) (dedupe : Key) : pushFirst cjson args dedupe =
    checked cjson args (.full args.messageId) fun current envelope =>
      appendOnce cjson args dedupe current envelope >>= fun _ => pure (.sent args.messageId) := rfl

theorem run_appendOnce_eq (ready : Ready message keyspace) (joined : String) {envelope : Json}
    (ofMessage : EnvelopeOf message envelope) :
    (appendOnce cjson (pushArgs bound message) (.idempotencyFor joined)
      (keyspace.items (.queue message.recipient)).length envelope).run keyspace =
        (.ok (), (delivered message keyspace).store (.idempotencyFor joined)
          (some (.string message.id))) := by
  have notMarker : Key.idempotencyFor joined ≠ message.outstandingKey :=
    ne_outstandingKey message (by simp)
  rw [appendOnce, run_enlarge ready]
  have kept : (set (.idempotencyFor joined) (pushArgs bound message).messageId).run
      (enlarged message keyspace) = (.ok (), (enlarged message keyspace).store
        (.idempotencyFor joined) (some (.string message.id))) := rfl
  rw [Script.run_bind_ok kept, delivered, ← announced_store _ notMarker (by simp)]
  apply run_announce_eq _ _ ofMessage
  · rw [Keyspace.admits, Keyspace.store_value, if_neg (by simp), ← Keyspace.admits,
      enlarged_admits_other _ (by simp) (by simp)]
    exact ready.stream
  · rw [Keyspace.admits, Keyspace.store_value, if_neg notMarker.symm, ← Keyspace.admits,
      enlarged_admits_other _ (ne_outstandingKey message (by simp)).symm
        (ne_outstandingKey message (by simp)).symm]
    exact ready.isString

/-- Without a dedupe entry, the same and the entry. -/
theorem run_boundedPushIdempotent_eq (reads : ReadsMessages cjson) {joined : String}
    (absent : keyspace.value (.idempotencyFor joined) = none) :
    (boundedPushIdempotent cjson (pushArgs bound message) (.idempotencyFor joined)).run keyspace =
      settle (.full message.id) (.sent message.id) keyspace
        ((delivered message keyspace).store (.idempotencyFor joined)
          (some (.string message.id)))
        (verdict cjson bound message keyspace) := by
  have read : (Redis.get (.idempotencyFor joined)).run keyspace = (.ok none, keyspace) := by
    simp [Redis.get, typed, Keyspace.admits, Keyspace.text, absent]
  rw [boundedPushIdempotent, Script.run_bind_ok read]
  show (pushFirst cjson (pushArgs bound message) (.idempotencyFor joined)).run keyspace = _
  rw [pushFirst_eq]
  apply run_checked_eq
  intro envelope ready decoded
  rw [Script.run_bind_ok (run_appendOnce_eq ready joined (reads message envelope decoded))]
  rfl

theorem pushedOnce_delivered : PushedOnce message joined keyspace
    ((delivered message keyspace).store (.idempotencyFor joined)
      (some (.string message.id))) := by
  have kept : ∀ other, (delivered message keyspace).value (.idempotencyFor other) =
      keyspace.value (.idempotencyFor other) := by
    intro other
    exact (announced_value_other (by simp) fun _ => ne_outstandingKey message (by simp)).trans
      (enlarged_value_other (by simp) (by simp))
  constructor
  · rw [Keyspace.items, Keyspace.store_value, if_neg (by simp)]
    exact items_delivered
  · rw [Keyspace.store_value, if_pos rfl]
  · intro other different
    rw [Keyspace.store_value, if_neg (by simpa using different), kept other]

theorem run_boundedPushIdempotent (reads : ReadsMessages cjson) :
    PushOutcome cjson message bound joined keyspace
      ((boundedPushIdempotent cjson (pushArgs bound message) (.idempotencyFor joined)).run
        keyspace) := by
  cases entry : keyspace.admits (.idempotencyFor joined) .string with
  | false =>
      rw [boundedPushIdempotent, Redis.get, Script.run_bind_error (run_typed_of_refused entry)]
      exact .failed _ (Or.inl (not_wellTyped rfl entry))
  | true =>
      cases held : keyspace.value (.idempotencyFor joined) with
      | some value =>
          have read : (Redis.get (.idempotencyFor joined)).run keyspace =
              (.ok (Value.text (some value)), keyspace) := by
            rw [Redis.get, run_typed entry, Keyspace.text, held]
          rw [Keyspace.admits, held, Value.admits_some] at entry
          rw [boundedPushIdempotent, Script.run_bind_ok read]
          cases value with
          | string existing => exact .duplicate held
          | _ => cases entry
      | none =>
          rw [run_boundedPushIdempotent_eq reads held]
          cases reached : verdict cjson bound message keyspace with
          | error fault =>
              exact .failed fault (verdict_error reached)
          | ok accepted =>
              cases accepted with
              | false => exact .full (verdict_full reached)
              | true => exact .sent held pushedOnce_delivered

end Script

/-! ## The retry loop -/

/-- One `sendIdempotent` call. -/
structure SendOnce where
  message : QueueMessage
  sender : String
  idempotencyKey : String
  queueBound : Option Int

inductive SendOnceResult
  | sent (messageId : String)
  | duplicate (messageId : String)
  | full (messageId : String)
  /-- The script raised and the call rejects. -/
  | rejected (fault : Fault)
deriving DecidableEq

/-- The attempts that are left of a call; each is one run of the script. -/
def sendAttempts (input : SendOnce) :
    Nat → Program SendOnce (fun _ => Except Fault PushOnceReply) SendOnceResult
  | 0 => pure (.full input.message.id)
  | attempts + 1 => do
      match ← Program.ask input with
      | .error fault => pure (.rejected fault)
      | .ok (.sent messageId) => pure (.sent messageId)
      | .ok (.duplicate messageId) => pure (.duplicate messageId)
      | .ok (.full _) => sendAttempts input attempts

def sendIdempotent (input : SendOnce) :
    Program SendOnce (fun _ => Except Fault PushOnceReply) SendOnceResult :=
  sendAttempts input 10

/-! ## Interleaved calls -/

/-- A message that was appended to an inbox, with the number of the call. -/
structure Enqueued where
  call : Nat
  input : SendOnce

/-- The keyspace with the messages appended so far. -/
structure Mailboxes where
  keyspace : Keyspace Key
  enqueued : List Enqueued

/-- Whether an inbox has grown by the message. -/
def grew (message : QueueMessage) (before after : Keyspace Key) : Bool :=
  after.items (.queue message.recipient) ==
    before.items (.queue message.recipient) ++ [message.serialized]

def attempt (cjson : Cjson) (input : SendOnce) : Script Key PushOnceReply :=
  boundedPushIdempotent cjson (pushArgs input.queueBound input.message)
    (dedupeKey input.sender input.idempotencyKey)

/-- Calls for any senders and keys. By itself the server may do anything but
touch the dedupe entry of one sender and key. -/
def sendProtocol (cjson : Cjson) (sender idempotencyKey : String) :
    Protocol Mailboxes SendOnce SendOnce (fun _ => Except Fault PushOnceReply) SendOnceResult where
  program := sendIdempotent
  serve id input world :=
    let ran := (attempt cjson input).run world.keyspace
    (ran.1,
      { keyspace := ran.2
        enqueued := if grew input.message world.keyspace ran.2
          then world.enqueued ++ [⟨id, input⟩] else world.enqueued })
  opens _ _ := True
  moves before after := after.enqueued = before.enqueued ∧
    after.keyspace.value (dedupeKey sender idempotencyKey) =
      before.keyspace.value (dedupeKey sender idempotencyKey)

section Runs

variable {cjson : Cjson} {sender idempotencyKey : String}

/-- Whether a call is for the given sender and key. -/
def SendOnce.isFor (sender idempotencyKey : String) (input : SendOnce) : Bool :=
  input.sender == sender && input.idempotencyKey == idempotencyKey

theorem SendOnce.isFor_iff {input : SendOnce} :
    input.isFor sender idempotencyKey = true ↔
      input.sender = sender ∧ input.idempotencyKey = idempotencyKey := by
  simp [isFor]

/-- The messages appended for a sender and key. -/
def Mailboxes.enqueuedFor (sender idempotencyKey : String) (world : Mailboxes) : List Enqueued :=
  world.enqueued.filter fun entry => entry.input.isFor sender idempotencyKey

theorem not_grew_self (message : QueueMessage) (keyspace : Keyspace Key) :
    grew message keyspace keyspace = false := by
  simp [grew]

/-- What one attempt does to the mailboxes. -/
theorem serve_cases (reads : ReadsMessages cjson) (id : Nat) (input : SendOnce)
    (world : Mailboxes) :
    (∃ existing, world.keyspace.value (dedupeKey input.sender input.idempotencyKey) =
        some (.string existing) ∧
      (sendProtocol cjson sender idempotencyKey).serve id input world =
        (.ok (.duplicate existing), world)) ∨
    (sendProtocol cjson sender idempotencyKey).serve id input world =
      (.ok (.full input.message.id), world) ∨
    (∃ fault, (sendProtocol cjson sender idempotencyKey).serve id input world =
      (.error fault, world)) ∨
    (world.keyspace.value (dedupeKey input.sender input.idempotencyKey) = none ∧
      ∃ after, PushedOnce input.message
          (input.sender ++ ":" ++ PercentEncoding.encodeURIComponent input.idempotencyKey)
          world.keyspace after ∧
        (sendProtocol cjson sender idempotencyKey).serve id input world =
          (.ok (.sent input.message.id),
            { keyspace := after, enqueued := world.enqueued ++ [⟨id, input⟩] })) := by
  have outcome := @run_boundedPushIdempotent cjson input.message input.queueBound
    (input.sender ++ ":" ++ PercentEncoding.encodeURIComponent input.idempotencyKey)
    world.keyspace reads
  have ran : (attempt cjson input).run world.keyspace =
    (boundedPushIdempotent cjson (pushArgs input.queueBound input.message) (.idempotencyFor
      (input.sender ++ ":" ++ PercentEncoding.encodeURIComponent input.idempotencyKey))).run
        world.keyspace := rfl
  rw [← ran] at outcome
  generalize result : (attempt cjson input).run world.keyspace = output at outcome
  cases outcome with
  | @duplicate existing held =>
      refine Or.inl ⟨existing, held, ?_⟩
      simp [sendProtocol, result, not_grew_self]
  | full reached =>
      refine Or.inr (Or.inl ?_)
      simp [sendProtocol, result, not_grew_self]
  | failed fault cause =>
      refine Or.inr (Or.inr (Or.inl ⟨fault, ?_⟩))
      simp [sendProtocol, result, not_grew_self]
  | @sent after absent pushed =>
      refine Or.inr (Or.inr (Or.inr ⟨absent, after, pushed, ?_⟩))
      have grown : grew input.message world.keyspace after = true := by
        simp [grew, pushed.inbox]
      simp [sendProtocol, result, grown]

/-- The dedupe entry is there exactly when a message was appended, and names it. -/
def Consistent (sender idempotencyKey : String) (world : Mailboxes) : Prop :=
  (world.enqueuedFor sender idempotencyKey = [] ∧
    world.keyspace.value (dedupeKey sender idempotencyKey) = none) ∨
  ∃ entry, world.enqueuedFor sender idempotencyKey = [entry] ∧
    world.keyspace.value (dedupeKey sender idempotencyKey) =
      some (.string entry.input.message.id)

/-- Where a call stands: attempts are left, or it has returned what the appended
messages say. -/
inductive Standing (sender idempotencyKey : String) (world : Mailboxes) (id : Nat)
    (input : SendOnce) :
    Program SendOnce (fun _ => Except Fault PushOnceReply) SendOnceResult → Prop
  | running (attempts : Nat) : Standing sender idempotencyKey world id input
      (sendAttempts input attempts)
  | sent (appended : ⟨id, input⟩ ∈ world.enqueued) :
      Standing sender idempotencyKey world id input (.done (.sent input.message.id))
  | duplicate (messageId : String)
      (known : input.isFor sender idempotencyKey = true →
        ∃ entry ∈ world.enqueuedFor sender idempotencyKey, entry.input.message.id = messageId) :
      Standing sender idempotencyKey world id input (.done (.duplicate messageId))
  | rejected (fault : Fault) :
      Standing sender idempotencyKey world id input (.done (.rejected fault))

theorem Standing.mono {world after : Mailboxes} {id : Nat} {input : SendOnce}
    {rest : Program SendOnce (fun _ => Except Fault PushOnceReply) SendOnceResult}
    (standing : Standing sender idempotencyKey world id input rest)
    (grows : ∀ entry ∈ world.enqueued, entry ∈ after.enqueued) :
    Standing sender idempotencyKey after id input rest := by
  cases standing with
  | running attempts => exact .running attempts
  | sent appended => exact .sent (grows _ appended)
  | duplicate messageId known =>
      refine .duplicate messageId fun isFor => ?_
      rcases known isFor with ⟨entry, member, same⟩
      rcases List.mem_filter.mp member with ⟨appended, ofPair⟩
      exact ⟨entry, List.mem_filter.mpr ⟨grows entry appended, ofPair⟩, same⟩
  | rejected fault => exact .rejected fault

theorem Consistent.served (reads : ReadsMessages cjson) {world : Mailboxes}
    (consistent : Consistent sender idempotencyKey world) (id : Nat) (input : SendOnce) :
    Consistent sender idempotencyKey
      ((sendProtocol cjson sender idempotencyKey).serve id input world).2 := by
  rcases @serve_cases cjson sender idempotencyKey reads id input world with
    ⟨existing, -, served⟩ | served | ⟨fault, served⟩ | ⟨absent, after, pushed, served⟩
  · rw [served]
    exact consistent
  · rw [served]
    exact consistent
  · rw [served]
    exact consistent
  · rw [served]
    cases isFor : input.isFor sender idempotencyKey with
    | true =>
        rcases SendOnce.isFor_iff.mp isFor with ⟨rfl, rfl⟩
        rcases consistent with ⟨nothing, -⟩ | ⟨entry, -, held⟩
        · refine Or.inr ⟨⟨id, input⟩, ?_, pushed.entry⟩
          rw [Mailboxes.enqueuedFor] at nothing
          simp [Mailboxes.enqueuedFor, nothing, isFor]
        · rw [absent] at held
          cases held
    | false =>
        have sameEntries : Mailboxes.enqueuedFor sender idempotencyKey
            { keyspace := after, enqueued := world.enqueued ++ [⟨id, input⟩] } =
              world.enqueuedFor sender idempotencyKey := by
          simp [Mailboxes.enqueuedFor, isFor]
        have otherKey : sender ++ ":" ++ PercentEncoding.encodeURIComponent idempotencyKey ≠
            input.sender ++ ":" ++ PercentEncoding.encodeURIComponent input.idempotencyKey := by
          intro joined
          have same := dedupeKey_inj (congrArg Key.idempotencyFor joined)
          rw [SendOnce.isFor_iff.mpr ⟨same.1.symm, same.2.symm⟩] at isFor
          cases isFor
        have sameValue : after.value (dedupeKey sender idempotencyKey) =
            world.keyspace.value (dedupeKey sender idempotencyKey) :=
          pushed.others _ otherKey
        unfold Consistent
        rw [sameEntries, sameValue]
        exact consistent

/-- The call that was just served stands where its reply says. -/
theorem standing_served (reads : ReadsMessages cjson) {world : Mailboxes}
    (consistent : Consistent sender idempotencyKey world) (id : Nat) (input : SendOnce)
    (attempts : Nat) :
    Standing sender idempotencyKey
      ((sendProtocol cjson sender idempotencyKey).serve id input world).2 id input
      (match ((sendProtocol cjson sender idempotencyKey).serve id input world).1 with
      | .error fault => pure (.rejected fault)
      | .ok (.sent messageId) => pure (.sent messageId)
      | .ok (.duplicate messageId) => pure (.duplicate messageId)
      | .ok (.full _) => sendAttempts input attempts) := by
  rcases @serve_cases cjson sender idempotencyKey reads id input world with
    ⟨existing, held, served⟩ | served | ⟨fault, served⟩ | ⟨-, after, -, served⟩
  · rw [served]
    refine .duplicate existing fun isFor => ?_
    rcases SendOnce.isFor_iff.mp isFor with ⟨rfl, rfl⟩
    rcases consistent with ⟨-, absent⟩ | ⟨entry, only, kept⟩
    · rw [held] at absent
      cases absent
    · rw [held, Option.some.injEq, Value.string.injEq] at kept
      exact ⟨entry, by rw [only]; exact List.mem_singleton_self entry, kept.symm⟩
  · rw [served]
    exact .running attempts
  · rw [served]
    exact .rejected fault
  · rw [served]
    exact .sent (List.mem_append_right _ (List.mem_singleton_self _))

theorem Standing.of_call {world : Mailboxes} {id : Nat} {input command : SendOnce}
    {rest : Program SendOnce (fun _ => Except Fault PushOnceReply) SendOnceResult}
    {next : Except Fault PushOnceReply →
      Program SendOnce (fun _ => Except Fault PushOnceReply) SendOnceResult}
    (standing : Standing sender idempotencyKey world id input rest)
    (isCall : rest = .call command next) :
    command = input ∧ ∃ attempts, ∀ reply, next reply =
      match reply with
      | .error fault => pure (.rejected fault)
      | .ok (.sent messageId) => pure (.sent messageId)
      | .ok (.duplicate messageId) => pure (.duplicate messageId)
      | .ok (.full _) => sendAttempts input attempts := by
  cases standing with
  | running attempts =>
      cases attempts with
      | zero => cases isCall
      | succ attempts =>
          rw [sendAttempts, Program.ask_bind] at isCall
          cases isCall
          exact ⟨rfl, attempts, fun reply => rfl⟩
  | _ => cases isCall

theorem Standing.of_sent {world : Mailboxes} {id : Nat} {input : SendOnce} {messageId : String}
    {rest : Program SendOnce (fun _ => Except Fault PushOnceReply) SendOnceResult}
    (standing : Standing sender idempotencyKey world id input rest)
    (isDone : rest = .done (.sent messageId)) :
    ⟨id, input⟩ ∈ world.enqueued ∧ input.message.id = messageId := by
  cases standing with
  | running attempts =>
      cases attempts with
      | zero => cases isDone
      | succ attempts => cases isDone
  | sent appended =>
      cases isDone
      exact ⟨appended, rfl⟩
  | _ => cases isDone

theorem Standing.of_duplicate {world : Mailboxes} {id : Nat} {input : SendOnce}
    {messageId : String}
    {rest : Program SendOnce (fun _ => Except Fault PushOnceReply) SendOnceResult}
    (standing : Standing sender idempotencyKey world id input rest)
    (isDone : rest = .done (.duplicate messageId))
    (isFor : input.isFor sender idempotencyKey = true) :
    ∃ entry ∈ world.enqueuedFor sender idempotencyKey, entry.input.message.id = messageId := by
  cases standing with
  | running attempts =>
      cases attempts with
      | zero => cases isDone
      | succ attempts => cases isDone
  | duplicate found known =>
      cases isDone
      exact known isFor
  | _ => cases isDone

/-- The attempts of all calls, and what else happens, keep the dedupe entry and
the calls' standing. -/
theorem preserves_standing (reads : ReadsMessages cjson) :
    Protocol.Preserves (sendProtocol cjson sender idempotencyKey) (fun _ _ _ _ => True)
      (Consistent sender idempotencyKey)
      (fun world id call => Standing sender idempotencyKey world id call.input call.rest)
      (fun _ _ => True) where
  opened _ _ _ := .running 10
  served := by
    intro world id input past command next consistent standing _
    rcases standing.of_call rfl with ⟨rfl, attempts, nextEq⟩
    refine ⟨consistent.served reads id command, ?_,
      fun other _ => ⟨fun call kept => kept.mono ?_, fun _ => trivial⟩⟩
    · simp only [nextEq]
      exact standing_served reads consistent id command attempts
    · intro entry member
      rcases @serve_cases cjson sender idempotencyKey reads id command world with
        ⟨existing, -, served⟩ | served | ⟨fault, served⟩ | ⟨-, after, -, served⟩
      · rwa [served]
      · rwa [served]
      · rwa [served]
      · rw [served]
        exact List.mem_append_left _ member
  moved := by
    intro world after consistent moves
    rcases moves with ⟨entries, value⟩
    refine ⟨?_, fun _ => ⟨fun call kept => kept.mono ?_, id⟩⟩
    · unfold Consistent Mailboxes.enqueuedFor
      rw [entries, value]
      exact consistent
    · intro entry member
      rwa [entries]

/-- A call of the system has returned this. -/
def Returned (system : System Mailboxes SendOnce SendOnce (fun _ => Except Fault PushOnceReply)
    SendOnceResult) (id : Nat) (input : SendOnce) (result : SendOnceResult) : Prop :=
  ∃ past, system.calls id = some ⟨input, past, .done result⟩

/-- Nothing was appended yet and there is no dedupe entry. -/
def Unsent (sender idempotencyKey : String) (world : Mailboxes) : Prop :=
  world.enqueued = [] ∧ world.keyspace.value (dedupeKey sender idempotencyKey) = none

variable {system : System Mailboxes SendOnce SendOnce (fun _ => Except Fault PushOnceReply)
  SendOnceResult}

/-- Whoever appended a message has returned `sent`. -/
theorem returned_of_enqueued (reads : ReadsMessages cjson)
    (reached : (sendProtocol cjson sender idempotencyKey).Reachable (fun _ _ _ _ => True)
      (Unsent sender idempotencyKey) system) :
    ∀ entry ∈ system.world.enqueued,
      Returned system entry.call entry.input (.sent entry.input.message.id) := by
  apply reached.induct
  · intro world starts entry member
    rw [starts.1] at member
    cases member
  · intro before after earlier step induction entry member
    have older : entry ∈ before.world.enqueued →
        Returned after entry.call entry.input (.sent entry.input.message.id) := by
      intro old
      rcases induction entry old with ⟨past, ended⟩
      exact ⟨past, step.keeps_done ended⟩
    cases step with
    | opened unused opens => exact older member
    | @served id input past command next running meets =>
        have standing := (earlier.invariant
          (fun world starts => ⟨Or.inl ⟨by simp [Mailboxes.enqueuedFor, starts.1], starts.2⟩,
      fun _ => trivial⟩)
          (preserves_standing reads)).own id _ running
        rcases standing.of_call rfl with ⟨rfl, attempts, nextEq⟩
        rcases @serve_cases cjson sender idempotencyKey reads id command before.world with
          ⟨existing, -, served⟩ | served | ⟨fault, served⟩ | ⟨-, after, -, served⟩
        · exact older (by simpa [served] using member)
        · exact older (by simpa [served] using member)
        · exact older (by simpa [served] using member)
        · rw [served] at member
          rcases List.mem_append.mp member with old | new
          · exact older old
          · rw [List.mem_singleton] at new
            subst new
            refine ⟨⟨command, .ok (.sent command.message.id)⟩ :: past,
              (Function.update_self _ _ _).trans ?_⟩
            rw [served, nextEq]
            rfl
    | moved moves =>
        rw [moves.1] at member
        exact older member

/-- As long as the dedupe entry of a sender and key is left alone: at most one
message is appended for them, exactly one of their calls returns `sent` if one
was and none otherwise, and every `sent` or `duplicate` result names it. Other
senders and keys have other dedupe entries. -/
theorem sendIdempotent_at_most_once (reads : ReadsMessages cjson)
    (reached : (sendProtocol cjson sender idempotencyKey).Reachable (fun _ _ _ _ => True)
      (Unsent sender idempotencyKey) system) :
    (system.world.enqueuedFor sender idempotencyKey).length ≤ 1 ∧
    (system.world.enqueuedFor sender idempotencyKey ≠ [] →
      ∃! id, ∃ input messageId, input.isFor sender idempotencyKey = true ∧
        Returned system id input (.sent messageId)) ∧
    (system.world.enqueuedFor sender idempotencyKey = [] →
      ∀ id input messageId, input.isFor sender idempotencyKey = true →
        ¬Returned system id input (.sent messageId)) ∧
    (∀ id input messageId, input.isFor sender idempotencyKey = true →
      Returned system id input (.sent messageId) ∨
        Returned system id input (.duplicate messageId) →
      ∃ entry, system.world.enqueuedFor sender idempotencyKey = [entry] ∧
        entry.input.message.id = messageId) ∧
    ∀ otherSender otherKey, dedupeKey otherSender otherKey = dedupeKey sender idempotencyKey →
      otherSender = sender ∧ otherKey = idempotencyKey := by
  have holds := reached.invariant
    (fun world starts => ⟨Or.inl ⟨by simp [Mailboxes.enqueuedFor, starts.1], starts.2⟩,
      fun _ => trivial⟩)
    (preserves_standing reads)
  have sentEntry : ∀ {id input messageId}, input.isFor sender idempotencyKey = true →
      Returned system id input (.sent messageId) →
      ⟨id, input⟩ ∈ system.world.enqueuedFor sender idempotencyKey ∧
        input.message.id = messageId := by
    intro id input messageId isFor returned
    rcases returned with ⟨past, running⟩
    rcases (holds.own id _ running).of_sent rfl with ⟨appended, same⟩
    exact ⟨List.mem_filter.mpr ⟨appended, isFor⟩, same⟩
  have only : ∀ entry ∈ system.world.enqueuedFor sender idempotencyKey,
      system.world.enqueuedFor sender idempotencyKey = [entry] := by
    intro entry member
    rcases holds.shared with ⟨nothing, -⟩ | ⟨first, first_eq, -⟩
    · rw [nothing] at member
      cases member
    · rw [first_eq, List.mem_singleton] at member
      rw [member, first_eq]
  refine ⟨?_, ?_, ?_, ?_, fun _ _ same => dedupeKey_inj same⟩
  · rcases holds.shared with ⟨nothing, -⟩ | ⟨entry, single, -⟩
    · simp [nothing]
    · simp [single]
  · intro nonempty
    rcases List.exists_mem_of_ne_nil _ nonempty with ⟨entry, member⟩
    rcases List.mem_filter.mp member with ⟨appended, isFor⟩
    refine ⟨entry.call, ⟨entry.input, _, isFor, returned_of_enqueued reads reached entry appended⟩,
      ?_⟩
    rintro id ⟨input, messageId, isFor, returned⟩
    have other := (sentEntry isFor returned).1
    rw [only entry member, List.mem_singleton] at other
    rw [← other]
  · intro nothing id input messageId isFor returned
    have member := (sentEntry isFor returned).1
    rw [nothing] at member
    cases member
  · intro id input messageId isFor returned
    rcases returned with sent | duplicate
    · rcases sentEntry isFor sent with ⟨member, same⟩
      exact ⟨_, only _ member, same⟩
    · rcases duplicate with ⟨past, running⟩
      rcases (holds.own id _ running).of_duplicate rfl isFor with ⟨entry, member, same⟩
      exact ⟨entry, only entry member, same⟩

end Runs

/-! One call on the empty keyspace. -/

def greetOnce : SendOnce where
  message := greeting
  sender := "a"
  idempotencyKey := "k"
  queueBound := some 10

/-- The system after the first attempt of one call. -/
def greetedOnce : System Mailboxes SendOnce SendOnce (fun _ => Except Fault PushOnceReply)
    SendOnceResult :=
  (sendProtocol Cjson.plain "a" "k").advance ((sendProtocol Cjson.plain "a" "k").start
    ⟨⟨Keyspace.empty, []⟩, fun _ => none⟩ 0 greetOnce) 0

theorem reachable_greetedOnce :
    (sendProtocol Cjson.plain "a" "k").Reachable (fun _ _ _ _ => True) (Unsent "a" "k")
      greetedOnce := by
  have unsent : Unsent "a" "k" ⟨Keyspace.empty, []⟩ := ⟨rfl, Keyspace.empty_value _⟩
  exact ((Protocol.Reachable.init unsent).start 0 greetOnce rfl trivial).advance 0
    fun _ _ _ _ _ => trivial

theorem enqueued_greetedOnce : greetedOnce.world.enqueued = [⟨0, greetOnce⟩] := by
  have world : greetedOnce.world = ((sendProtocol Cjson.plain "a" "k").serve 0 greetOnce
      ⟨Keyspace.empty, []⟩).2 := by
    simp [greetedOnce, Protocol.advance, Protocol.start, Protocol.fresh, sendProtocol,
      sendIdempotent, sendAttempts]
  have outcome := @run_boundedPushIdempotent Cjson.plain greeting (some 10)
    ("a" ++ ":" ++ PercentEncoding.encodeURIComponent "k") Keyspace.empty plain_readsMessages
  have same : attempt Cjson.plain greetOnce = boundedPushIdempotent Cjson.plain
      (pushArgs (some 10) greeting) (.idempotencyFor
        ("a" ++ ":" ++ PercentEncoding.encodeURIComponent "k")) := by
    rw [attempt, dedupeKey]
    rfl
  rw [← same] at outcome
  generalize result : (attempt Cjson.plain greetOnce).run Keyspace.empty = output at outcome
  rw [world]
  cases outcome with
  | duplicate held => cases held
  | full reached => simp [Keyspace.items] at reached
  | failed fault cause =>
      rcases cause with illTyped | unreadable
      · have empty : Sound Cjson.plain Keyspace.empty := Sound.empty
        exact absurd empty.typed illTyped
      · rw [Cjson.plain_decode, QueueMessage.serialized, Json.parse_render] at unreadable
        cases unreadable
  | sent absent pushed =>
      have grown : grew greetOnce.message Keyspace.empty
          ((attempt Cjson.plain greetOnce).run Keyspace.empty).2 = true := by
        rw [result]
        exact beq_iff_eq.mpr pushed.inbox
      simp [sendProtocol, grown]

theorem greetedOnce_sent :
    ∃! id, ∃ input messageId, input.isFor "a" "k" = true ∧
      Returned greetedOnce id input (.sent messageId) := by
  refine (sendIdempotent_at_most_once plain_readsMessages reachable_greetedOnce).2.1 ?_
  rw [Mailboxes.enqueuedFor, enqueued_greetedOnce]
  decide

end GptQueue.Mailbox
