import GptQueue.Foundation.Redis

/-! # The key schema

Every key the stores use, by the part that varies. `Key.render` is the string
sent to the server, and `render_injective` shows that two different keys of this
type never share it, so the stores can be modelled over `Key`.

The recovery counters, the outstanding-request markers and the dedupe entries are
built from two names joined by a colon. Their constructors hold the joined text, so two pairs
that join to the same text are the same key here as they are in the server.
-/

namespace GptQueue

inductive Key
  | queue (name : String)
  | mailboxMeta (name : String)
  | session (sessionId : String)
  | lease (sessionId : String)
  | agentSessions (name : String)
  | registry
  | registryPending
  | registryRestore
  | heartbeat (name : String)
  | inboxEvents (agent : String)
  | inboxTrace (agent : String)
  | outstandingFor (joined : String)
  | runtimeBinding (agent : String)
  | activation (agent : String)
  | agentProfile (agent : String)
  | actorProfiles
  | claims
  | claimsIndex (actorId : String)
  | recoverCountFor (joined : String)
  | dlq (actorId : String)
  | idempotencyFor (joined : String)
deriving DecidableEq, Repr

namespace Key

/-- `SESSION_KEYS.outstanding`. -/
def outstanding (agent requestId : String) : Key :=
  .outstandingFor (agent ++ ":" ++ requestId)

/-- `CLAIM_KEYS.recoverCount`. -/
def recoverCount (actorId messageId : String) : Key :=
  .recoverCountFor (actorId ++ ":" ++ messageId)

def render : Key → String
  | .queue name => "gptq:q:" ++ name
  | .mailboxMeta name => "gptq:meta:" ++ name
  | .session sessionId => "gptq:session:" ++ sessionId
  | .lease sessionId => "gptq:lease:" ++ sessionId
  | .agentSessions name => "gptq:agent-sessions:" ++ name
  | .registry => "gptq:registry"
  | .registryPending => "gptq:registry:pending"
  | .registryRestore => "gptq:registry:restore"
  | .heartbeat name => "gptq:heartbeat:" ++ name
  | .inboxEvents agent => "gptq:inbox-events:" ++ agent
  | .inboxTrace agent => "gptq:inbox-trace:" ++ agent
  | .outstandingFor joined => "gptq:outstanding:" ++ joined
  | .runtimeBinding agent => "gptq:runtime-binding:" ++ agent
  | .activation agent => "gptq:activation:" ++ agent
  | .agentProfile agent => "gptq:agent-profile:" ++ agent
  | .actorProfiles => "gptq:actor-profiles"
  | .claims => "gptq:claims"
  | .claimsIndex actorId => "gptq:claims-index:" ++ actorId
  | .recoverCountFor joined => "gptq:rc:" ++ joined
  | .dlq actorId => "gptq:dlq:" ++ actorId
  | .idempotencyFor joined => "gptq:idempotency:" ++ joined

example : (recoverCount "a" "b:c").render = "gptq:rc:a:b:c" := by decide +kernel

/-! Every rendered key is `gptq:`, a word without a colon, and for most keys a
colon and an argument. -/

private def word : Key → String
  | .queue _ => "q"
  | .mailboxMeta _ => "meta"
  | .session _ => "session"
  | .lease _ => "lease"
  | .agentSessions _ => "agent-sessions"
  | .registry => "registry"
  | .registryPending => "registry"
  | .registryRestore => "registry"
  | .heartbeat _ => "heartbeat"
  | .inboxEvents _ => "inbox-events"
  | .inboxTrace _ => "inbox-trace"
  | .outstandingFor _ => "outstanding"
  | .runtimeBinding _ => "runtime-binding"
  | .activation _ => "activation"
  | .agentProfile _ => "agent-profile"
  | .actorProfiles => "actor-profiles"
  | .claims => "claims"
  | .claimsIndex _ => "claims-index"
  | .recoverCountFor _ => "rc"
  | .dlq _ => "dlq"
  | .idempotencyFor _ => "idempotency"

private def argument : Key → String
  | .queue name => name
  | .mailboxMeta name => name
  | .session sessionId => sessionId
  | .lease sessionId => sessionId
  | .agentSessions name => name
  | .registry => ""
  | .registryPending => "pending"
  | .registryRestore => "restore"
  | .heartbeat name => name
  | .inboxEvents agent => agent
  | .inboxTrace agent => agent
  | .outstandingFor joined => joined
  | .runtimeBinding agent => agent
  | .activation agent => agent
  | .agentProfile agent => agent
  | .actorProfiles => ""
  | .claims => ""
  | .claimsIndex actorId => actorId
  | .recoverCountFor joined => joined
  | .dlq actorId => actorId
  | .idempotencyFor joined => joined

private def ofWord (argument : String) : String → Option Key
  | "q" => some (.queue argument)
  | "meta" => some (.mailboxMeta argument)
  | "session" => some (.session argument)
  | "lease" => some (.lease argument)
  | "agent-sessions" => some (.agentSessions argument)
  | "registry" =>
      match argument with
      | "" => some .registry
      | "pending" => some .registryPending
      | _ => some .registryRestore
  | "heartbeat" => some (.heartbeat argument)
  | "inbox-events" => some (.inboxEvents argument)
  | "inbox-trace" => some (.inboxTrace argument)
  | "outstanding" => some (.outstandingFor argument)
  | "runtime-binding" => some (.runtimeBinding argument)
  | "activation" => some (.activation argument)
  | "agent-profile" => some (.agentProfile argument)
  | "actor-profiles" => some .actorProfiles
  | "claims" => some .claims
  | "claims-index" => some (.claimsIndex argument)
  | "rc" => some (.recoverCountFor argument)
  | "dlq" => some (.dlq argument)
  | "idempotency" => some (.idempotencyFor argument)
  | _ => none

private theorem ofWord_word (key : Key) : ofWord key.argument key.word = some key := by
  cases key <;> rfl

private theorem word_render (key : Key) :
    (key.render.toList.drop 5).takeWhile (· ≠ ':') = key.word.toList := by
  -- the equations of `render` are slow to generate
  delta render word
  cases key <;> simp [List.takeWhile]

private theorem argument_render (key : Key) :
    ((key.render.toList.drop 5).dropWhile (· ≠ ':')).drop 1 =
      key.argument.toList := by
  delta render argument
  cases key <;> simp [List.dropWhile]

theorem render_injective : Function.Injective render := by
  intro left right equal
  have sameWord : left.word = right.word := by
    apply String.toList_injective
    rw [← word_render, ← word_render, equal]
  have sameArgument : left.argument = right.argument := by
    apply String.toList_injective
    rw [← argument_render, ← argument_render, equal]
  have same := ofWord_word left
  rw [sameWord, sameArgument, ofWord_word right] at same
  exact (Option.some.inj same).symm

/-- What a key holds when it holds what the stores put there. -/
def kind : Key → Redis.Kind
  | .queue _ => .list
  | .mailboxMeta _ => .hash
  | .session _ => .hash
  | .lease _ => .string
  | .agentSessions _ => .set
  | .registry => .hash
  | .registryPending => .hash
  | .registryRestore => .hash
  | .heartbeat _ => .string
  | .inboxEvents _ => .stream
  | .inboxTrace _ => .stream
  | .outstandingFor _ => .string
  | .runtimeBinding _ => .string
  | .activation _ => .string
  | .agentProfile _ => .string
  | .actorProfiles => .hash
  | .claims => .hash
  | .claimsIndex _ => .zset
  | .recoverCountFor _ => .string
  | .dlq _ => .list
  | .idempotencyFor _ => .string

/-- Whether a key is a recovery counter. -/
def isCounter : Key → Bool
  | .recoverCountFor _ => true
  | _ => false

/-- Whether a key holds tasks or says who holds them: the mailboxes, the
dead-letter queues and the claims. -/
def holdsTasks : Key → Bool
  | .queue _ => true
  | .dlq _ => true
  | .claims => true
  | .claimsIndex _ => true
  | _ => false

end Key

/-- Two joins with colon-free second names are equal only if both names are. -/
theorem join_inj {first second firstLast secondLast : String}
    (plain : ':' ∉ firstLast.toList) (otherPlain : ':' ∉ secondLast.toList)
    (joined : first ++ ":" ++ firstLast = second ++ ":" ++ secondLast) :
    first = second ∧ firstLast = secondLast := by
  have reversed : firstLast.toList.reverse ++ ':' :: first.toList.reverse =
      secondLast.toList.reverse ++ ':' :: second.toList.reverse := by
    have lists := congrArg (fun text => text.toList.reverse) joined
    simpa using lists
  have upTo : ∀ {text : String} (rest : List Char), ':' ∉ text.toList →
      (text.toList.reverse ++ ':' :: rest).takeWhile (· ≠ ':') = text.toList.reverse := by
    intro text rest absent
    have kept : ∀ char ∈ text.toList.reverse, decide (char ≠ ':') = true := by
      intro char member
      have inside := List.mem_reverse.mp member
      exact decide_eq_true fun same => absent (same ▸ inside)
    rw [List.takeWhile_append_of_pos kept]
    simp
  have lasts : firstLast.toList.reverse = secondLast.toList.reverse := by
    rw [← upTo first.toList.reverse plain, reversed, upTo _ otherPlain]
  rw [lasts] at reversed
  have firsts := (List.cons.inj (List.append_cancel_left reversed)).2
  constructor
  · apply String.toList_injective
    exact List.reverse_injective firsts
  · apply String.toList_injective
    exact List.reverse_injective lasts

/-! ## Keyspaces -/

open Redis

/-- Every key is absent or holds what the stores put there. -/
def WellTyped (keyspace : Keyspace Key) : Prop :=
  ∀ key : Key, keyspace.admits key key.kind = true

namespace WellTyped

variable {keyspace : Keyspace Key} (typed : WellTyped keyspace)

include typed

theorem inbox (name : String) : keyspace.admits (.queue name) .list = true := typed (.queue name)

theorem dlq (actorId : String) : keyspace.admits (.dlq actorId) .list = true :=
  typed (.dlq actorId)

theorem claims : keyspace.admits .claims .hash = true := typed .claims

theorem index (actorId : String) : keyspace.admits (.claimsIndex actorId) .zset = true :=
  typed (.claimsIndex actorId)

end WellTyped

theorem WellTyped.store {keyspace : Keyspace Key} (typed : WellTyped keyspace) {key : Key}
    {value : Option Value} (admitted : Value.admits value key.kind = true) :
    WellTyped (keyspace.store key value) := by
  intro other
  by_cases same : other = key
  · simpa [Keyspace.admits, same] using admitted
  · simpa [Keyspace.admits, same] using typed other

/-- Two keyspaces with the same tasks. Of the other keys, the first has none that
is worse typed. -/
structure SameTasks (left right : Keyspace Key) : Prop where
  value : ∀ key, key.holdsTasks = true → left.value key = right.value key
  trimmed : left.trimmed = right.trimmed
  typed : ∀ key, key.holdsTasks = false → right.admits key key.kind = true →
    left.admits key key.kind = true

namespace SameTasks

theorem refl (keyspace : Keyspace Key) : SameTasks keyspace keyspace :=
  ⟨fun _ _ => rfl, rfl, fun _ _ admitted => admitted⟩

theorem trans {first second third : Keyspace Key} (left : SameTasks first second)
    (right : SameTasks second third) : SameTasks first third :=
  ⟨fun key holds => (left.value key holds).trans (right.value key holds),
    left.trimmed.trans right.trimmed,
    fun key other admitted => left.typed key other (right.typed key other admitted)⟩

variable {left right : Keyspace Key}

theorem store (same : SameTasks left right) {key : Key} (other : key.holdsTasks = false)
    {value : Option Value} (admitted : Value.admits value key.kind = true) :
    SameTasks (left.store key value) right := by
  refine ⟨fun task holds => ?_, same.trimmed, fun plain notTask typed => ?_⟩
  · have different : task ≠ key := by
      rintro rfl
      simp [other] at holds
    simp [different, same.value task holds]
  · by_cases equal : plain = key
    · simpa [Keyspace.admits, equal] using admitted
    · simpa [Keyspace.admits, equal] using same.typed plain notTask typed

theorem items_eq (same : SameTasks left right) {key : Key} (holds : key.holdsTasks = true) :
    left.items key = right.items key := by
  rw [Keyspace.items, Keyspace.items, same.value key holds]

theorem admits_eq (same : SameTasks left right) {key : Key} (holds : key.holdsTasks = true)
    (kind : Kind) : left.admits key kind = right.admits key kind := by
  rw [Keyspace.admits, Keyspace.admits, same.value key holds]

theorem fields_eq (same : SameTasks left right) : left.fields .claims = right.fields .claims := by
  rw [Keyspace.fields, Keyspace.fields, same.value .claims rfl]

theorem scores_eq (same : SameTasks left right) (actorId : String) :
    left.scores (.claimsIndex actorId) = right.scores (.claimsIndex actorId) := by
  rw [Keyspace.scores, Keyspace.scores, same.value (.claimsIndex actorId) rfl]

theorem wellTyped (same : SameTasks left right) (typed : WellTyped right) : WellTyped left := by
  intro key
  cases holds : key.holdsTasks with
  | true => rw [same.admits_eq holds, typed key]
  | false => exact same.typed key holds (typed key)

end SameTasks

/-! ## Policy constants -/

/-- `DLQ_PROVISIONAL.RECOVER_CAP`: recoveries of one message before it is
dead-lettered. -/
def recoverCap : Nat := 5

/-- `DLQ_PROVISIONAL.DLQ_MAX_LENGTH`. -/
def dlqMaxLength : Nat := 1000

/-- `DLQ_PROVISIONAL.RECOVER_COUNTER_TTL_SECONDS`. -/
def recoverCounterTtlSeconds : Nat := 604800

end GptQueue
