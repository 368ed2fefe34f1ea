import GptQueue.Claims.System

/-! # Registration on the keyspace

`RedisClient.register` for a client that has no session yet, as the scripts and
commands it sends. On a well-typed keyspace none of them fails, and together they
change only sessions, leases, presence, the registry and the mailbox header.
-/

namespace GptQueue.Registration

open Redis
open Redis.Script

/-! ## Scripts that always return -/

/-- Only the keys in `region` differ, and no list was cut. -/
structure Quiet (region : Key → Prop) (before after : Keyspace Key) : Prop where
  value : SameOutside region before after
  trimmed : after.trimmed = before.trimmed

namespace Quiet

variable {region : Key → Prop}

theorem refl (keyspace : Keyspace Key) : Quiet region keyspace keyspace :=
  ⟨SameOutside.refl region keyspace, rfl⟩

theorem trans {first second third : Keyspace Key} (left : Quiet region first second)
    (right : Quiet region second third) : Quiet region first third :=
  ⟨left.value.trans right.value, right.trimmed.trans left.trimmed⟩

theorem store {keyspace : Keyspace Key} {key : Key} (member : region key)
    (value : Option Value) : Quiet region keyspace (keyspace.store key value) :=
  ⟨fun _ outside => store_value_of_outside member outside, rfl⟩

theorem mono {wider : Key → Prop} {before after : Keyspace Key}
    (quiet : Quiet region before after) (includes : ∀ key, region key → wider key) :
    Quiet wider before after :=
  ⟨fun key outside => quiet.value key fun inside => outside (includes key inside),
    quiet.trimmed⟩

/-- A change of keys without tasks that stays well typed. -/
theorem sameTasks {before after : Keyspace Key} (quiet : Quiet region before after)
    (typed : WellTyped after) (noTasks : ∀ key, region key → key.holdsTasks = false) :
    SameTasks after before := by
  refine ⟨fun key holds => quiet.value key fun inside => ?_, quiet.trimmed,
    fun key _ _ => typed key⟩
  rw [noTasks key inside] at holds
  cases holds

end Quiet

/-- On a well-typed keyspace the script returns, leaves it well typed and changes
only the keys in `region`. -/
def Settles (region : Key → Prop) {α : Type} (script : Script Key α) : Prop :=
  ∀ keyspace, WellTyped keyspace → ∃ value after,
    script.run keyspace = (.ok value, after) ∧ WellTyped after ∧ Quiet region keyspace after

namespace Settles

variable {region : Key → Prop} {α β : Type}

theorem pure (value : α) : Settles region (pure value : Script Key α) :=
  fun keyspace typed => ⟨value, keyspace, rfl, typed, Quiet.refl keyspace⟩

theorem bind {script : Script Key α} {next : α → Script Key β} (first : Settles region script)
    (rest : ∀ value, Settles region (next value)) : Settles region (script >>= next) := by
  intro keyspace typed
  rcases first keyspace typed with ⟨value, middle, ran, middleTyped, quiet⟩
  rcases rest value middle middleTyped with ⟨result, after, continued, afterTyped, later⟩
  refine ⟨result, after, ?_, afterTyped, quiet.trans later⟩
  rw [Script.run_bind_ok ran, continued]

theorem when {condition : Prop} [Decidable condition] {script : Script Key Unit}
    (settles : Settles region script) : Settles region (Script.when condition script) := by
  unfold Script.when
  split
  · exact settles
  · exact pure ()

theorem mono {wider : Key → Prop} {script : Script Key α} (settles : Settles region script)
    (includes : ∀ key, region key → wider key) : Settles wider script := by
  intro keyspace typed
  rcases settles keyspace typed with ⟨value, after, ran, afterTyped, quiet⟩
  exact ⟨value, after, ran, afterTyped, quiet.mono includes⟩

/-- A script that only reads. -/
theorem read {script : Script Key α} {result : Keyspace Key → α}
    (runs : ∀ keyspace, WellTyped keyspace →
      script.run keyspace = (.ok (result keyspace), keyspace)) :
    Settles region script :=
  fun keyspace typed => ⟨_, keyspace, runs keyspace typed, typed, Quiet.refl keyspace⟩

/-- A script that stores one value of the right kind. -/
theorem write {script : Script Key α} {key : Key} (member : region key) {result : α}
    {stored : Keyspace Key → Option Value}
    (runs : ∀ keyspace, WellTyped keyspace →
      script.run keyspace = (.ok result, keyspace.store key (stored keyspace)))
    (admitted : ∀ keyspace, Value.admits (stored keyspace) key.kind = true) :
    Settles region script :=
  fun keyspace typed => ⟨result, _, runs keyspace typed, typed.store (admitted keyspace),
    Quiet.store member _⟩

end Settles

section Commands

variable {region : Key → Prop} {key : Key}

theorem settles_exists? : Settles region (exists? key) :=
  Settles.read fun _ _ => rfl

theorem settles_del (member : region key) : Settles region (del key) :=
  Settles.write member (fun _ _ => rfl) fun _ => rfl

theorem settles_set (member : region key) (isString : key.kind = .string) (text : String) :
    Settles region (set key text) := by
  apply Settles.write member
  · intro keyspace typed
    rfl
  · intro keyspace
    rw [isString]
    rfl

theorem settles_hget (isHash : key.kind = .hash) (field : String) :
    Settles region (hget key field) := by
  apply Settles.read
  intro keyspace typed
  simp only [hget, run_typed (isHash ▸ typed key)]
  rfl

theorem run_hset {keyspace : Keyspace Key} (typed : WellTyped keyspace)
    (isHash : key.kind = .hash) (field text : String) :
    (hset key field text).run keyspace = (.ok (), keyspace.store key
      (Value.ofFields ((keyspace.fields key).insert field text))) := by
  simp only [hset, run_typed (isHash ▸ typed key)]

theorem settles_hset (member : region key) (isHash : key.kind = .hash) (field text : String) :
    Settles region (hset key field text) := by
  apply Settles.write member
  · intro keyspace typed
    exact run_hset typed isHash field text
  · intro keyspace
    rw [isHash, Value.admits_ofFields]

theorem run_hdel {keyspace : Keyspace Key} (typed : WellTyped keyspace)
    (isHash : key.kind = .hash) (field : String) :
    (hdel key field).run keyspace = (.ok (), keyspace.store key
      (Value.ofFields ((keyspace.fields key).erase field))) := by
  simp only [hdel, run_typed (isHash ▸ typed key)]

theorem settles_hdel (member : region key) (isHash : key.kind = .hash) (field : String) :
    Settles region (hdel key field) := by
  apply Settles.write member
  · intro keyspace typed
    exact run_hdel typed isHash field
  · intro keyspace
    rw [isHash, Value.admits_ofFields]

theorem settles_smembers (isSet : key.kind = .set) : Settles region (smembers key) := by
  apply Settles.read
  intro keyspace typed
  simp only [smembers, run_typed (isSet ▸ typed key)]
  rfl

theorem settles_sadd (member : region key) (isSet : key.kind = .set) (element : String) :
    Settles region (sadd key element) := by
  apply Settles.write member
  · intro keyspace typed
    simp only [sadd, run_typed (isSet ▸ typed key)]
    rfl
  · intro keyspace
    rw [isSet, Value.admits_ofMembers]

theorem settles_srem (member : region key) (isSet : key.kind = .set) (element : String) :
    Settles region (srem key element) := by
  apply Settles.write member
  · intro keyspace typed
    simp only [srem, run_typed (isSet ▸ typed key)]
    rfl
  · intro keyspace
    rw [isSet, Value.admits_ofMembers]

end Commands

/-! ## What a registration is given -/

/-- The hosts whose conversations can be bound to a mailbox. -/
inductive HostClient
  | codex
  | pi
  | opencode
deriving DecidableEq, Repr

def HostClient.name : HostClient → String
  | .codex => "codex"
  | .pi => "pi"
  | .opencode => "opencode"

def HostClient.ofName : String → Option HostClient
  | "codex" => some .codex
  | "pi" => some .pi
  | "opencode" => some .opencode
  | _ => none

/-- `AgentDiscoveryMetadata`. -/
structure Metadata where
  label : String
  uuid : Option String
  client : Option HostClient
  workingDirectory : Option String
deriving DecidableEq, Repr

/-- The arguments of `RedisClient.register`. -/
structure Arguments where
  role : String
  name : String
  description : Option String
  metadata : Option Metadata

/-- What differs between two registrations with the same arguments: the new
session id, the process and the readings of the clock. -/
structure Occasion where
  sessionId : String
  pid : Numeral
  createdAt : String
  registeredAt : String
  mailboxAt : String
  lastSeen : String

def nullable (text : Option String) : Json := text.elim .null .string

def Metadata.toJson (metadata : Metadata) : Json :=
  .object [("label", .string metadata.label), ("uuid", nullable metadata.uuid),
    ("client", nullable (metadata.client.map HostClient.name)),
    ("working_directory", nullable metadata.workingDirectory)]

namespace Arguments

/-- The value `createSession` writes before the registration is complete. An
undefined description is left out of the text. -/
def provisional (args : Arguments) (occasion : Occasion) : Json :=
  .object ([("name", .string args.name), ("role", .string args.role)] ++
    (args.description.map fun text => ("description", Json.string text)).toList ++
    [("registered_at", .string occasion.createdAt)])

/-- `description || undefined`. -/
def shownDescription (args : Arguments) : Option String :=
  args.description.filter (· ≠ "")

/-- The completed registry value. -/
def registration (args : Arguments) (occasion : Occasion) : Json :=
  .object ([("name", .string args.name), ("role", .string args.role)] ++
    (args.shownDescription.map fun text => ("description", Json.string text)).toList ++
    [("registered_at", .string occasion.registeredAt), ("pid", .number occasion.pid)] ++
    (args.metadata.map fun metadata => ("metadata", metadata.toJson)).toList)

end Arguments

/-! ## The commands of a registration -/

/-- The loop of `PRUNE_EXPIRED_SCRIPT`. -/
def pruneSessions (agentName : String) : List String → Script Key Nat
  | [] => pure 0
  | sessionId :: rest => do
      let alive ← exists? (.lease sessionId)
      Script.when (alive = false) (do
        srem (.agentSessions agentName) sessionId
        del (.session sessionId))
      let pruned ← pruneSessions agentName rest
      pure (pruned + if alive then 0 else 1)

def pruneExpiredSessions (agentName : String) : Script Key Nat := do
  let sessionIds ← smembers (.agentSessions agentName)
  pruneSessions agentName sessionIds

/-- `HSET key field value …`. -/
def hsetAll (key : Key) : List (String × String) → Script Key Unit
  | [] => pure ()
  | (field, text) :: rest => do
      hset key field text
      hsetAll key rest

/-- `WRITE_PROVISIONAL_REGISTRY_SCRIPT`. -/
def writeProvisionalRegistry (name value : String) : Script Key Unit := do
  let previous ← hget .registry name
  let pending ← hget .registryPending name
  let carried ← hget .registryRestore name
  let restore := if previous.isSome ∧ previous = pending then carried else previous
  hset .registry name value
  hset .registryPending name value
  match restore with
  | some text => hset .registryRestore name text
  | none => hdel .registryRestore name

/-- `SessionStore.createSession`, without a transport as `register` calls it. -/
def createSession (args : Arguments) (occasion : Occasion) : Script Key Unit := do
  let _ ← pruneExpiredSessions args.name
  hsetAll (.session occasion.sessionId) [("session_id", occasion.sessionId),
    ("agent_name", args.name), ("role", args.role), ("description", args.description.getD ""),
    ("created_at", occasion.createdAt), ("last_seen", occasion.createdAt), ("transport", "")]
  set (.lease occasion.sessionId) "alive"
  sadd (.agentSessions args.name) occasion.sessionId
  writeProvisionalRegistry args.name (args.provisional occasion).render

/-- `PUBLISH_REGISTRATION_SCRIPT`. -/
def publishRegistration (name value : String) : Script Key Unit := do
  hset .registry name value
  hdel .registryPending name
  hdel .registryRestore name

/-- `MailboxStore.ensureMailbox`. -/
def ensureMailbox (queueBound : Nat) (name createdAt : String) : Script Key Unit := do
  let present ← exists? (.mailboxMeta name)
  Script.when (present = false) (hsetAll (.mailboxMeta name)
    [("max_size", toString queueBound), ("created_at", createdAt)])

/-- `REFRESH_LEASE_SCRIPT`. -/
def refreshLease (sessionId lastSeen : String) : Script Key Bool := do
  let agent ← hget (.session sessionId) "agent_name"
  match agent.filter (· ≠ "") with
  | none => pure false
  | some agent => do
      set (.lease sessionId) "alive"
      hset (.session sessionId) "last_seen" lastSeen
      sadd (.agentSessions agent) sessionId
      pure true

/-- `RedisClient.register` by a client without a session, up to the first lease
refresh and the first heartbeat. -/
def register (queueBound : Nat) (args : Arguments) (occasion : Occasion) : Script Key Unit := do
  createSession args occasion
  publishRegistration args.name (args.registration occasion).render
  ensureMailbox queueBound args.name occasion.mailboxAt
  let _ ← refreshLease occasion.sessionId occasion.lastSeen
  set (.heartbeat args.name) "alive"

/-! ## What they change -/

/-- The keys of sessions and leases. -/
def isSessionKey : Key → Bool
  | .session _ => true
  | .lease _ => true
  | .agentSessions _ => true
  | _ => false

/-- The registry and its rollback bookkeeping. -/
def isRegistryKey : Key → Bool
  | .registry => true
  | .registryPending => true
  | .registryRestore => true
  | _ => false

/-- The keys a registration can change. -/
def isRegistrationKey : Key → Bool
  | .mailboxMeta _ => true
  | .heartbeat _ => true
  | key => isSessionKey key || isRegistryKey key

theorem settles_pruneSessions (agentName : String) (sessionIds : List String) :
    Settles (isSessionKey ·) (pruneSessions agentName sessionIds) := by
  induction sessionIds with
  | nil => exact Settles.pure 0
  | cons sessionId rest induction =>
      refine Settles.bind settles_exists? fun alive => ?_
      refine Settles.bind (Settles.when ?_) fun _ => induction.bind fun pruned => Settles.pure _
      exact Settles.bind (settles_srem (by rfl) rfl sessionId) fun _ => settles_del (by rfl)

theorem settles_pruneExpiredSessions (agentName : String) :
    Settles (isSessionKey ·) (pruneExpiredSessions agentName) :=
  Settles.bind (settles_smembers rfl) fun sessionIds => settles_pruneSessions agentName sessionIds

theorem settles_hsetAll {region : Key → Prop} {key : Key} (member : region key)
    (isHash : key.kind = .hash) (fields : List (String × String)) :
    Settles region (hsetAll key fields) := by
  induction fields with
  | nil => exact Settles.pure ()
  | cons entry rest induction =>
      exact Settles.bind (settles_hset member isHash entry.1 entry.2) fun _ => induction

theorem settles_writeProvisionalRegistry (name value : String) :
    Settles (isRegistryKey ·) (writeProvisionalRegistry name value) := by
  refine Settles.bind (settles_hget rfl name) fun previous => ?_
  refine Settles.bind (settles_hget rfl name) fun pending => ?_
  refine Settles.bind (settles_hget rfl name) fun carried => ?_
  refine Settles.bind (settles_hset (by rfl) rfl name value) fun _ => ?_
  refine Settles.bind (settles_hset (by rfl) rfl name value) fun _ => ?_
  split
  · exact settles_hset (by rfl) rfl name _
  · exact settles_hdel (by rfl) rfl name

theorem isRegistrationKey_of_isSessionKey (key : Key) (session : isSessionKey key = true) :
    isRegistrationKey key = true := by
  cases key <;> first | rfl | cases session

theorem isRegistrationKey_of_isRegistryKey (key : Key) (registry : isRegistryKey key = true) :
    isRegistrationKey key = true := by
  cases key <;> first | rfl | cases registry

theorem holdsTasks_of_isRegistrationKey (key : Key) (registration : isRegistrationKey key = true) :
    key.holdsTasks = false := by
  cases key <;> first | rfl | cases registration

theorem settles_createSession (args : Arguments) (occasion : Occasion) :
    Settles (isRegistrationKey ·) (createSession args occasion) := by
  refine Settles.bind ((settles_pruneExpiredSessions args.name).mono
    isRegistrationKey_of_isSessionKey) fun _ => ?_
  refine Settles.bind (settles_hsetAll (by rfl) rfl _) fun _ => ?_
  refine Settles.bind (settles_set (by rfl) rfl "alive") fun _ => ?_
  refine Settles.bind (settles_sadd (by rfl) rfl occasion.sessionId) fun _ => ?_
  exact (settles_writeProvisionalRegistry _ _).mono isRegistrationKey_of_isRegistryKey

theorem settles_ensureMailbox (queueBound : Nat) (name createdAt : String) :
    Settles (fun key => key = .mailboxMeta name) (ensureMailbox queueBound name createdAt) :=
  Settles.bind settles_exists? fun _ => Settles.when (settles_hsetAll (by rfl) rfl _)

theorem settles_refreshLease (sessionId lastSeen : String) :
    Settles (isSessionKey ·) (refreshLease sessionId lastSeen) := by
  refine Settles.bind (settles_hget rfl "agent_name") fun agent => ?_
  split
  · exact Settles.pure false
  · next agent =>
      refine Settles.bind (settles_set (by rfl) rfl "alive") fun _ => ?_
      refine Settles.bind (settles_hset (by rfl) rfl "last_seen" lastSeen) fun _ => ?_
      exact Settles.bind (settles_sadd (by rfl) rfl sessionId) fun _ => Settles.pure true

/-- Publishing leaves the value in the registry. -/
theorem run_publishRegistration {keyspace : Keyspace Key} (typed : WellTyped keyspace)
    (name value : String) :
    ∃ after, (publishRegistration name value).run keyspace = (.ok (), after) ∧
      WellTyped after ∧ Quiet (isRegistryKey ·) keyspace after ∧
      (after.fields .registry).lookup name = some value := by
  have dropped : Settles (fun key => isRegistryKey key = true ∧ key ≠ .registry) (do
      hdel .registryPending name
      hdel .registryRestore name) := by
    refine Settles.bind (settles_hdel ?_ rfl name) fun _ => settles_hdel ?_ rfl name
    · exact ⟨rfl, by simp⟩
    · exact ⟨rfl, by simp⟩
  have written := @run_hset .registry keyspace typed rfl name value
  have writtenTyped : WellTyped (keyspace.store .registry
      (Value.ofFields ((keyspace.fields .registry).insert name value))) :=
    typed.store (by simp [Key.kind])
  rcases dropped _ writtenTyped with ⟨⟨⟩, after, ran, afterTyped, quiet⟩
  refine ⟨after, ?_, afterTyped, ?_, ?_⟩
  · rw [publishRegistration, Script.run_bind_ok written, ran]
  · exact (Quiet.store (by rfl) _).trans (quiet.mono fun key inside => inside.1)
  · have kept := quiet.value .registry (by simp)
    rw [Keyspace.fields, kept]
    simp [AList.lookup_insert]

/-- What a registration leaves behind. -/
structure Registered (args : Arguments) (occasion : Occasion)
    (before after : Keyspace Key) : Prop where
  typed : WellTyped after
  quiet : Quiet (isRegistrationKey ·) before after
  entry : (after.fields .registry).lookup args.name = some (args.registration occasion).render
  beating : (after.value (.heartbeat args.name)).isSome = true

/-- A registration on a well-typed keyspace succeeds. -/
theorem run_register {keyspace : Keyspace Key} (typed : WellTyped keyspace)
    (queueBound : Nat) (args : Arguments) (occasion : Occasion) :
    ∃ after, (register queueBound args occasion).run keyspace = (.ok (), after) ∧
      Registered args occasion keyspace after := by
  rcases settles_createSession args occasion keyspace typed with
    ⟨⟨⟩, created, creation, createdTyped, createdQuiet⟩
  rcases run_publishRegistration createdTyped args.name (args.registration occasion).render with
    ⟨published, publication, publishedTyped, publishedQuiet, entry⟩
  -- nothing after the publication touches the registry
  have rest : Settles (fun key => isRegistrationKey key = true ∧ key ≠ .registry) (do
      ensureMailbox queueBound args.name occasion.mailboxAt
      let _ ← refreshLease occasion.sessionId occasion.lastSeen) := by
    refine Settles.bind ((settles_ensureMailbox _ _ _).mono ?_) fun _ =>
      Settles.bind ((settles_refreshLease _ _).mono ?_) fun _ => Settles.pure _
    · rintro key rfl
      exact ⟨rfl, by simp⟩
    · intro key session
      refine ⟨isRegistrationKey_of_isSessionKey key session, ?_⟩
      rintro rfl
      cases session
  rcases rest published publishedTyped with
    ⟨⟨⟩, refreshed, refresh, refreshedTyped, refreshedQuiet⟩
  refine ⟨refreshed.store (.heartbeat args.name) (some (.string "alive")), ?_, ?_, ?_, ?_, ?_⟩
  · rw [register, Script.run_bind_ok creation, Script.run_bind_ok publication]
    rcases Script.of_run_bind_ok refresh with ⟨⟨⟩, housed, housing, later⟩
    rcases Script.of_run_bind_ok later with ⟨renewed, last, renewal, done⟩
    rw [Script.run_bind_ok housing, Script.run_bind_ok renewal]
    cases done
    rfl
  · exact refreshedTyped.store rfl
  · exact ((createdQuiet.trans (publishedQuiet.mono isRegistrationKey_of_isRegistryKey)).trans
      (refreshedQuiet.mono fun key inside => inside.1)).trans (Quiet.store (by rfl) _)
  · have kept := refreshedQuiet.value .registry (by simp)
    rw [Keyspace.fields] at entry ⊢
    rw [Keyspace.store_value, if_neg (by simp), kept, entry]
  · simp

end GptQueue.Registration
