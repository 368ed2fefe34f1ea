import GptQueue.Sessions.Presence
import GptQueue.Sessions.RegistryRollback

/-! # Live identities stay addressable

Clients register names, rename themselves, close, refresh and prune sessions. A
session whose registration was published expects its name to stay in the registry.
The one step that can take the entry away from it is the retirement of the old name
by a rename of somebody who shared it.
-/

namespace GptQueue.Addressable

open GptQueue.Presence (SessionKeys)
open GptQueue.Sessions (Registrations RegistryWrite)

/-! ## The server and the clients -/

structure World where
  keys : SessionKeys
  registrations : Registrations
  /-- The agent name and session of each client that has a session. -/
  identity : Nat → Option (String × String)
  /-- The sessions whose registration was published, with the name. -/
  published : List (String × String)
  /-- Whether the next recovery and transfer of a mailbox succeed. -/
  transfers : Bool

namespace World

/-- The provisional write of an attempt. -/
def writeProvisional (world : World) (name text : String) : World :=
  { world with
    registrations :=
      { world.registrations with
        hashes := world.registrations.hashes.writeProvisional name text
        inFlight := ⟨name, text⟩ ::ₘ world.registrations.inFlight } }

def undoRegistryWrite (world : World) (name text : String) : World :=
  { world with
    registrations :=
      { world.registrations with
        hashes := (world.registrations.hashes.undoRegistryWrite name text).2 } }

/-- The completed value of a session's registration. -/
def publishRegistration (world : World) (sessionId name text : String) : World :=
  { world with
    registrations :=
      { world.registrations with
        hashes := world.registrations.hashes.publishRegistration name text
        completed := Function.update world.registrations.completed name (some text) }
    published := (sessionId, name) :: world.published }

/-- The `HDEL` of a rename. -/
def retire (world : World) (name : String) : World :=
  { world with
    registrations :=
      { world.registrations with
        hashes := world.registrations.hashes.retire name
        completed := Function.update world.registrations.completed name none } }

end World

inductive Command
  | identity (client : Nat)
  | assign (client : Nat) (identity : Option (String × String))
  | randomUUID
  | pruneExpired (agentName : String)
  | create (sessionId agentName : String)
  | writeProvisional (name text : String)
  | rollback (sessionId agentName : String)
  | refreshLease (sessionId : String)
  | hget (sessionId : String)
  | del (sessionId : String)
  | srem (agentName sessionId : String)
  /-- The recovery of the old name's claims and the transfer of its mailbox. -/
  | transfer (oldName name : String)
  | undoRegistryWrite (name text : String)
  | hdelRegistry (name : String)
  | publishRegistration (sessionId name text : String)
deriving DecidableEq

abbrev Reply : Command → Type
  | .identity _ => Option (String × String)
  | .randomUUID => String
  | .writeProvisional _ _ => Bool
  | .hget _ => Option String
  | .transfer _ _ => Bool
  | _ => Unit

abbrev ask (command : Command) : Program Command Reply (Reply command) := Program.ask command

/-- `uuid` has the session id that each call draws. -/
def serve (uuid : Nat → String) (id : Nat) :
    (command : Command) → World → Reply command × World
  | .identity client, world => (world.identity client, world)
  | .assign client identity, world =>
      ((), { world with identity := Function.update world.identity client identity })
  | .randomUUID, world => (uuid id, world)
  | .pruneExpired agentName, world =>
      ((), { world with keys := world.keys.pruneExpired agentName })
  | .create sessionId agentName, world =>
      ((), { world with keys := world.keys.create sessionId agentName })
  | .writeProvisional name text, world =>
      if world.keys.registryUp then (true, world.writeProvisional name text) else (false, world)
  | .rollback sessionId agentName, world =>
      ((), { world with keys := (world.keys.delete sessionId).srem agentName sessionId })
  | .refreshLease sessionId, world =>
      ((), { world with keys := (world.keys.refreshLease sessionId).2 })
  | .hget sessionId, world => (world.keys.record sessionId, world)
  | .del sessionId, world => ((), { world with keys := world.keys.delete sessionId })
  | .srem agentName sessionId, world =>
      ((), { world with keys := world.keys.srem agentName sessionId })
  | .transfer _ _, world => (world.transfers, world)
  | .undoRegistryWrite name text, world => ((), world.undoRegistryWrite name text)
  | .hdelRegistry name, world => ((), world.retire name)
  | .publishRegistration sessionId name text, world =>
      ((), world.publishRegistration sessionId name text)

/-! ## Calls -/

inductive Input
  /-- A client registers a name. `provisional` and `completed` are the two registry
  values it writes. -/
  | register (client : Nat) (name provisional completed : String)
  | closeCurrentSession (client : Nat)
  | closeSession (sessionId : String)
  | refreshLease (sessionId : String)
  | pruneExpiredSessions (agentName : String)

/-- `createSession`, with `none` when the registry write fails. -/
def createSession (name provisional : String) : Program Command Reply (Option String) := do
  let sessionId ← ask .randomUUID
  let _ ← ask (.pruneExpired name)
  let _ ← ask (.create sessionId name)
  if ← ask (.writeProvisional name provisional) then pure (some sessionId)
  else do
    let _ ← ask (.rollback sessionId name)
    pure none

def closeSession (sessionId : String) : Program Command Reply Unit := do
  match ← ask (.hget sessionId) with
  | none => pure ()
  | some agentName =>
      if agentName = "" then pure ()
      else do
        let _ ← ask (.del sessionId)
        let _ ← ask (.srem agentName sessionId)
        pure ()

/-- The old name and session of a client that registers another name. -/
def renamedFrom (identity : Option (String × String)) (name : String) :
    Option (String × String) :=
  identity.filter fun old => old.1 ≠ name

/-- Publish the registration of the new session. -/
def complete (client : Nat) (sessionId name completed : String) :
    Program Command Reply Bool := do
  let _ ← ask (.assign client (some (name, sessionId)))
  let _ ← ask (.publishRegistration sessionId name completed)
  pure true

/-- The part of `register` for a client that already had another name. -/
def rename (client : Nat) (oldName oldSessionId sessionId name provisional completed : String) :
    Program Command Reply Bool := do
  if ← ask (.transfer oldName name) then do
    closeSession oldSessionId
    let _ ← ask (.hdelRegistry oldName)
    complete client sessionId name completed
  else do
    closeSession sessionId
    let _ ← ask (.undoRegistryWrite name provisional)
    pure false

/-- `RedisClient.register`; the result says whether it succeeded. -/
def register (client : Nat) (name provisional completed : String) :
    Program Command Reply Bool := do
  let identity ← ask (.identity client)
  match ← createSession name provisional with
  | none => pure false
  | some sessionId =>
      match renamedFrom identity name with
      | none => complete client sessionId name completed
      | some (oldName, oldSessionId) =>
          rename client oldName oldSessionId sessionId name provisional completed

def closeCurrentSession (client : Nat) : Program Command Reply Bool := do
  match ← ask (.identity client) with
  | none => pure false
  | some (_, sessionId) => do
      closeSession sessionId
      let _ ← ask (.assign client none)
      pure true

def program : Input → Program Command Reply Bool
  | .register client name provisional completed => register client name provisional completed
  | .closeCurrentSession client => closeCurrentSession client
  | .closeSession sessionId => do
      closeSession sessionId
      pure true
  | .refreshLease sessionId => do
      let _ ← ask (.refreshLease sessionId)
      pure true
  | .pruneExpiredSessions agentName => do
      let _ ← ask (.pruneExpired agentName)
      pure true

inductive Moves : World → World → Prop
  /-- A lease key expires. -/
  | expired {world : World} (sessionId : String) :
      Moves world { world with
        keys := { world.keys with lease := Function.update world.keys.lease sessionId false } }
  | registry {world : World} (registryUp : Bool) :
      Moves world { world with keys := { world.keys with registryUp } }
  | transfers {world : World} (transfers : Bool) : Moves world { world with transfers }

/-- Only a registration has values to write: the provisional one has no process id
and is never taken for a completed one. -/
def Input.Admissible (provisional : Set String) : Input → Prop
  | .register _ _ draft completed => draft ∈ provisional ∧ completed ∉ provisional
  | _ => True

def registryProtocol (provisional : Set String) (uuid : Nat → String) :
    Protocol World Input Command Reply Bool where
  program := program
  serve := serve uuid
  opens _ := Input.Admissible provisional
  moves := Moves

abbrev RegistrySystem := System World Input Command Reply Bool

/-- An empty server. -/
structure Initial (provisional : Set String) (world : World) : Prop where
  keys : Presence.Initial world.keys
  settled : world.registrations.Settled provisional
  published : world.published = []

/-- Every run. -/
def anyStep : Condition World Input Command Reply Bool := fun _ _ _ _ => True

/-- A rename retires a name only when no session that published a registration of
it still has its record. -/
def RetiresUnowned : Condition World Input Command Reply Bool
  | world, _, _, .hdelRegistry name =>
      ∀ owner ∈ world.published, owner.2 = name → world.keys.record owner.1 ≠ some name
  | _, _, _, _ => True

/-- Every session that published a registration, has its record and a live lease is
addressed by a name in the registry. -/
def Addressed (world : World) : Prop :=
  ∀ owner ∈ world.published, world.keys.record owner.1 = some owner.2 →
    world.keys.lease owner.1 = true → world.registrations.hashes.registry owner.2 ≠ none

/-! ## What a call asks -/

abbrev Past := List (Exchange Command Reply)

def Input.draft : Input → Option String
  | .register _ _ provisional _ => some provisional
  | _ => none

def Input.completed : Input → Option String
  | .register _ _ _ completed => some completed
  | _ => none

def Command.isCreate : Command → Bool
  | .create _ _ => true
  | _ => false

/-- A session is created once, under the id just drawn, and published only after
that. The texts are those of the input. -/
def Asks (input : Input) (past : Past) : Command → Prop
  | .create sessionId _ =>
      (∀ exchange ∈ past, exchange.1.isCreate = false) ∧ ⟨.randomUUID, sessionId⟩ ∈ past
  | .writeProvisional _ text => input.draft = some text
  | .undoRegistryWrite _ text => input.draft = some text
  | .publishRegistration sessionId _ text =>
      input.completed = some text ∧ ∃ name, ⟨.create sessionId name, ()⟩ ∈ past
  | _ => True

section Follows

variable {input : Input} {past : Past}

theorem follows_closeSession (sessionId : String) :
    (closeSession sessionId).Follows (Asks input)
      (fun later _ => ∀ exchange ∈ past, exchange ∈ later) past := by
  refine Program.follows_ask_bind.mpr ⟨trivial, fun found => ?_⟩
  cases found with
  | none => exact fun exchange member => List.mem_cons_of_mem _ member
  | some agentName =>
      dsimp only
      split
      · exact fun exchange member => List.mem_cons_of_mem _ member
      · refine Program.follows_ask_bind.mpr ⟨trivial, fun _ => ?_⟩
        refine Program.follows_ask_bind.mpr ⟨trivial, fun _ exchange member => ?_⟩
        simp [member]

theorem follows_complete {client : Nat} {sessionId name completed : String}
    (text : input.completed = some completed)
    (created : ∃ name, ⟨.create sessionId name, ()⟩ ∈ past) :
    (complete client sessionId name completed).Follows (Asks input) (fun _ _ => True) past := by
  refine Program.follows_ask_bind.mpr ⟨trivial, fun _ => ?_⟩
  rcases created with ⟨first, member⟩
  exact Program.follows_ask_bind.mpr
    ⟨⟨text, first, List.mem_cons_of_mem _ member⟩, fun _ => trivial⟩

theorem follows_createSession (name : String) {provisional : String}
    (text : input.draft = some provisional)
    (first : ∀ exchange ∈ past, exchange.1.isCreate = false) :
    (createSession name provisional).Follows (Asks input)
      (fun later created => ∀ sessionId ∈ created,
        ∃ name, ⟨.create sessionId name, ()⟩ ∈ later) past := by
  refine Program.follows_ask_bind.mpr ⟨trivial, fun sessionId => ?_⟩
  refine Program.follows_ask_bind.mpr ⟨trivial, fun _ => ?_⟩
  refine Program.follows_ask_bind.mpr ⟨⟨?_, ?_⟩, fun _ => ?_⟩
  · intro exchange member
    simp only [List.mem_cons] at member
    rcases member with rfl | rfl | earlier
    · rfl
    · rfl
    · exact first exchange earlier
  · simp
  · refine Program.follows_ask_bind.mpr ⟨text, fun written => ?_⟩
    cases written with
    | true =>
        intro created isCreated
        rw [← Option.some.inj isCreated]
        exact ⟨name, by simp⟩
    | false =>
        refine Program.follows_ask_bind.mpr ⟨trivial, fun _ created isCreated => ?_⟩
        cases isCreated

theorem follows_rename {client : Nat} {oldName oldSessionId sessionId name provisional : String}
    {completed : String} (draft : input.draft = some provisional)
    (text : input.completed = some completed)
    (created : ∃ name, ⟨.create sessionId name, ()⟩ ∈ past) :
    (rename client oldName oldSessionId sessionId name provisional completed).Follows
      (Asks input) (fun _ _ => True) past := by
  refine Program.follows_ask_bind.mpr ⟨trivial, fun transferred => ?_⟩
  cases transferred with
  | true =>
      refine (follows_closeSession oldSessionId).bind fun later _ kept => ?_
      refine Program.follows_ask_bind.mpr ⟨trivial, fun _ => ?_⟩
      apply follows_complete text
      rcases created with ⟨first, member⟩
      exact ⟨first, List.mem_cons_of_mem _ (kept _ (List.mem_cons_of_mem _ member))⟩
  | false =>
      refine (follows_closeSession sessionId).bind fun later _ _ => ?_
      exact Program.follows_ask_bind.mpr ⟨draft, fun _ => trivial⟩

end Follows

theorem follows_program (input : Input) :
    (program input).Follows (Asks input) (fun _ _ => True) [] := by
  cases input with
  | register client name provisional completed =>
      refine Program.follows_ask_bind.mpr ⟨trivial, fun identity => ?_⟩
      refine (follows_createSession name rfl ?_).bind fun later created isCreated => ?_
      · simp [Command.isCreate]
      · cases created with
        | none => trivial
        | some sessionId =>
            dsimp only
            split
            · exact follows_complete rfl (isCreated sessionId rfl)
            · exact follows_rename rfl rfl (isCreated sessionId rfl)
  | closeCurrentSession client =>
      refine Program.follows_ask_bind.mpr ⟨trivial, fun identity => ?_⟩
      cases identity with
      | none => trivial
      | some identity =>
          refine (follows_closeSession identity.2).bind fun later _ _ => ?_
          exact Program.follows_ask_bind.mpr ⟨trivial, fun _ => trivial⟩
  | closeSession sessionId =>
      exact (follows_closeSession sessionId).bind fun _ _ _ => trivial
  | refreshLease sessionId => exact ⟨trivial, fun _ => trivial⟩
  | pruneExpiredSessions agentName => exact ⟨trivial, fun _ => trivial⟩

/-! ## The registry -/

section Registry

variable {provisional : Set String} {state : Registrations}

theorem Consistent.begin (consistent : state.Consistent provisional) (write : RegistryWrite)
    (isProvisional : write.written ∈ provisional) :
    Registrations.Consistent provisional
      { state with inFlight := write ::ₘ state.inFlight } where
  entry name := (consistent.entry name).congr rfl rfl rfl rfl
    fun _ begun => Multiset.mem_cons_of_mem begun
  completed := consistent.completed
  begun other member := by
    rcases Multiset.mem_cons.mp member with same | earlier
    · exact same ▸ isProvisional
    · exact consistent.begun other earlier

theorem Consistent.undo (consistent : state.Consistent provisional) (name : String)
    {text : String} (isProvisional : text ∈ provisional) :
    Registrations.Consistent provisional
      { state with hashes := (state.hashes.undoRegistryWrite name text).2 } := by
  have undone := (Consistent.begin consistent ⟨name, text⟩ isProvisional).undone
    (Multiset.mem_cons_self _ _)
  rwa [Multiset.erase_cons_head] at undone

theorem Consistent.publish (consistent : state.Consistent provisional) (name : String)
    {text : String} (isCompleted : text ∉ provisional) :
    Registrations.Consistent provisional
      { state with
        hashes := state.hashes.publishRegistration name text
        completed := Function.update state.completed name (some text) } := by
  have published := consistent.published ⟨name, text⟩ isCompleted
  -- a completed text is no attempt in flight
  have absent : (⟨name, text⟩ : RegistryWrite) ∉ state.inFlight :=
    fun member => isCompleted (consistent.begun _ member)
  rwa [Multiset.erase_of_notMem absent] at published

/-- A completed name is in the registry, whatever attempts are in flight. -/
theorem registry_of_completed (consistent : state.Consistent provisional) {name : String}
    (completed : state.completed name ≠ none) : state.hashes.registry name ≠ none := by
  cases consistent.entry name with
  | completed entry stale => rwa [entry]
  | provisional value entry pending restore begun => simp [entry]

end Registry

/-! ## The sessions -/

/-- Sessions come only from the creating transaction. -/
structure Grows (before after : SessionKeys) (new : Option String) : Prop where
  created : ∀ {sessionId}, sessionId ∈ after.created ↔
    sessionId ∈ before.created ∨ new = some sessionId
  record : ∀ {sessionId name}, after.record sessionId = some name →
    before.record sessionId = some name ∨ new = some sessionId

theorem Grows.refl (keys : SessionKeys) : Grows keys keys none :=
  ⟨by simp, fun found => Or.inl found⟩

theorem grows_delete (keys : SessionKeys) (sessionId : String) :
    Grows keys (keys.delete sessionId) none := by
  refine ⟨by simp [SessionKeys.delete], fun {other name} found => Or.inl ?_⟩
  by_cases same : other = sessionId
  · rw [same, Presence.delete_record] at found
    cases found
  · simpa [SessionKeys.delete, same] using found

def Command.creates : Command → Option String
  | .create sessionId _ => some sessionId
  | _ => none

section Serve

variable {uuid : Nat → String} {id : Nat} {world : World}

theorem serve_grows (command : Command) :
    Grows world.keys (serve uuid id command world).2.keys command.creates := by
  cases command with
  | pruneExpired agentName =>
      refine ⟨by simp [serve, SessionKeys.pruneExpired, Command.creates], fun found => Or.inl ?_⟩
      simp only [serve, SessionKeys.pruneExpired] at found
      split at found
      · cases found
      · exact found
  | create sessionId agentName =>
      refine ⟨?_, fun {other name} found => ?_⟩
      · intro other
        simp [serve, SessionKeys.create, Command.creates, or_comm, eq_comm]
      · by_cases same : other = sessionId
        · exact Or.inr (congrArg some same.symm)
        · exact Or.inl (by simpa [serve, SessionKeys.create, same] using found)
  | writeProvisional name text =>
      dsimp only [serve]
      split <;> exact Grows.refl world.keys
  | rollback sessionId agentName => exact ⟨(grows_delete world.keys sessionId).created,
      (grows_delete world.keys sessionId).record⟩
  | refreshLease sessionId =>
      dsimp only [serve, SessionKeys.refreshLease]
      split
      · exact Grows.refl world.keys
      · split
        · exact Grows.refl world.keys
        · exact ⟨by simp [Command.creates], fun found => Or.inl found⟩
  | del sessionId => exact grows_delete world.keys sessionId
  | srem agentName sessionId =>
      exact ⟨by simp [serve, SessionKeys.srem, Command.creates], fun found => Or.inl found⟩
  | _ => exact Grows.refl world.keys

/-- Only a publication adds an owner. -/
theorem published_serve (command : Command) :
    (serve uuid id command world).2.published = world.published ∨
      ∃ sessionId name text, command = .publishRegistration sessionId name text ∧
        (serve uuid id command world).2.published = (sessionId, name) :: world.published := by
  cases command with
  | publishRegistration sessionId name text =>
      exact Or.inr ⟨sessionId, name, text, rfl, rfl⟩
  | writeProvisional name text =>
      left
      dsimp only [serve]
      split <;> rfl
  | _ => exact Or.inl rfl

/-- What a command does to the completed value of a name. -/
theorem completed_serve (command : Command) (name : String) :
    (serve uuid id command world).2.registrations.completed name =
        world.registrations.completed name ∨
      (∃ sessionId text, command = .publishRegistration sessionId name text ∧
        (serve uuid id command world).2.registrations.completed name = some text) ∨
      command = .hdelRegistry name := by
  cases command with
  | publishRegistration sessionId other text =>
      by_cases same : name = other
      · subst same
        exact Or.inr (Or.inl ⟨sessionId, text, rfl, Function.update_self ..⟩)
      · exact Or.inl (Function.update_of_ne same ..)
  | hdelRegistry other =>
      by_cases same : name = other
      · exact Or.inr (Or.inr (congrArg _ same.symm))
      · exact Or.inl (Function.update_of_ne same ..)
  | writeProvisional other text =>
      left
      dsimp only [serve]
      split <;> rfl
  | _ => exact Or.inl rfl

end Serve

/-! ## The invariant -/

/-- A session that published a registration and has its record keeps the completed
value of its name. -/
structure Owned (provisional : Set String) (world : World) : Prop where
  consistent : world.registrations.Consistent provisional
  completed : ∀ owner ∈ world.published, world.keys.record owner.1 = some owner.2 →
    world.registrations.completed owner.2 ≠ none
  created : ∀ owner ∈ world.published, owner.1 ∈ world.keys.created

/-- What is known of one call: its texts are admissible, the id it drew is its own
and unused until it creates its session, which stays created. -/
structure Knows (provisional : Set String) (uuid : Nat → String) (world : World) (id : Nat)
    (call : Call Input Command Reply Bool) : Prop where
  admissible : call.input.Admissible provisional
  drew : ∀ {drawn : String}, ⟨.randomUUID, drawn⟩ ∈ call.past → drawn = uuid id
  fresh : (∀ exchange ∈ call.past, exchange.1.isCreate = false) → uuid id ∉ world.keys.created
  created : ∀ {sessionId name}, ⟨.create sessionId name, ()⟩ ∈ call.past →
    sessionId ∈ world.keys.created

section Runs

variable {provisional : Set String} {uuid : Nat → String} {id : Nat} {world after : World}

theorem Initial.owned (initial : Initial provisional world) : Owned provisional world where
  consistent := initial.settled.consistent
  completed owner member := by simp [initial.published] at member
  created owner member := by simp [initial.published] at member

theorem Input.Admissible.draft {input : Input} (admissible : input.Admissible provisional)
    {text : String} (isDraft : input.draft = some text) : text ∈ provisional := by
  cases input with
  | register client name draft completed =>
      cases isDraft
      exact admissible.1
  | _ => cases isDraft

theorem Input.Admissible.completed {input : Input} (admissible : input.Admissible provisional)
    {text : String} (isCompleted : input.completed = some text) : text ∉ provisional := by
  cases input with
  | register client name draft completed =>
      cases isCompleted
      exact admissible.2
  | _ => cases isCompleted

/-- The session that a command creates is the call's own and new. -/
theorem Knows.creates {input : Input} {past : Past} {command : Command}
    {rest : Program Command Reply Bool}
    (knows : Knows provisional uuid world id ⟨input, past, rest⟩)
    (asks : Asks input past command) :
    ∀ created ∈ command.creates, created = uuid id ∧ created ∉ world.keys.created := by
  intro created isNew
  cases command with
  | create sessionId agentName =>
      have same : sessionId = created := Option.some.inj isNew
      subst same
      rcases asks with ⟨first, drawn⟩
      have own : sessionId = uuid id := knows.drew drawn
      exact ⟨own, own ▸ knows.fresh first⟩
  | _ => cases isNew

/-- A step of another call, or of none. -/
theorem Knows.mono {call : Call Input Command Reply Bool} {new : Option String}
    (knows : Knows provisional uuid world id call) (grows : Grows world.keys after.keys new)
    (other : new ≠ some (uuid id)) : Knows provisional uuid after id call where
  admissible := knows.admissible
  drew := knows.drew
  fresh none isCreated := by
    rcases grows.created.mp isCreated with old | own
    · exact knows.fresh none old
    · exact other own
  created found := grows.created.mpr (Or.inl (knows.created found))

theorem Knows.served {input : Input} {past : Past} {command : Command}
    {next : Reply command → Program Command Reply Bool}
    (knows : Knows provisional uuid world id ⟨input, past, .call command next⟩) :
    Knows provisional uuid (serve uuid id command world).2 id
      ⟨input, ⟨command, (serve uuid id command world).1⟩ :: past,
        next (serve uuid id command world).1⟩ := by
  have grows := @serve_grows uuid id world command
  refine ⟨knows.admissible, fun found => ?_, fun none isCreated => ?_, fun found => ?_⟩
  · rcases List.mem_cons.mp found with head | earlier
    · cases head
      rfl
    · exact knows.drew earlier
  · have before : ∀ exchange ∈ past, exchange.1.isCreate = false :=
      fun exchange earlier => none exchange (List.mem_cons_of_mem _ earlier)
    rcases grows.created.mp isCreated with old | own
    · exact knows.fresh before old
    · have last := none _ List.mem_cons_self
      cases command with
      | create sessionId agentName => cases last
      | _ => cases own
  · apply grows.created.mpr
    rcases List.mem_cons.mp found with head | earlier
    · cases head
      exact Or.inr rfl
    · exact Or.inl (knows.created earlier)

theorem consistent_served {input : Input} {past : Past} {command : Command}
    {rest : Program Command Reply Bool} (owned : Owned provisional world)
    (knows : Knows provisional uuid world id ⟨input, past, rest⟩)
    (asks : Asks input past command) :
    (serve uuid id command world).2.registrations.Consistent provisional := by
  cases command with
  | writeProvisional name text =>
      dsimp only [serve]
      split
      · exact owned.consistent.written ⟨name, text⟩ (knows.admissible.draft asks)
      · exact owned.consistent
  | undoRegistryWrite name text =>
      exact Consistent.undo owned.consistent name (knows.admissible.draft asks)
  | hdelRegistry name => exact owned.consistent.retired name
  | publishRegistration sessionId name text =>
      exact Consistent.publish owned.consistent name (knows.admissible.completed asks.1)
  | _ => exact owned.consistent

theorem Owned.served {input : Input} {past : Past} {command : Command}
    {rest : Program Command Reply Bool} (owned : Owned provisional world)
    (knows : Knows provisional uuid world id ⟨input, past, rest⟩)
    (asks : Asks input past command)
    (retires : RetiresUnowned world id ⟨input, past, rest⟩ command) :
    Owned provisional (serve uuid id command world).2 := by
  have grows := @serve_grows uuid id world command
  have creates := knows.creates asks
  refine ⟨consistent_served owned knows asks, ?_, ?_⟩
  · intro owner member recorded
    rcases @completed_serve uuid id world command owner.2 with same | published | retired
    · rcases @published_serve uuid id world command with old | ⟨sessionId, name, text, rfl, new⟩
      · rw [old] at member
        rw [same]
        rcases grows.record recorded with kept | isNew
        · exact owned.completed owner member kept
        · -- a session that has just been created has published nothing
          exact absurd (owned.created owner member) (creates owner.1 isNew).2
      · rw [new] at member
        rcases List.mem_cons.mp member with rfl | earlier
        · simp [serve, World.publishRegistration]
        · rw [same]
          exact owned.completed owner earlier recorded
    · rcases published with ⟨sessionId, text, -, isSome⟩
      simp [isSome]
    · subst retired
      exact absurd recorded (retires owner member rfl)
  · intro owner member
    apply grows.created.mpr
    rcases @published_serve uuid id world command with old | ⟨sessionId, name, text, rfl, new⟩
    · rw [old] at member
      exact Or.inl (owned.created owner member)
    · rw [new] at member
      rcases List.mem_cons.mp member with rfl | earlier
      · rcases asks.2 with ⟨first, created⟩
        exact Or.inl (knows.created created)
      · exact Or.inl (owned.created owner earlier)

theorem Moves.grows (moves : Moves world after) : Grows world.keys after.keys none := by
  cases moves <;> exact ⟨by simp, fun found => Or.inl found⟩

theorem Owned.moved (owned : Owned provisional world) (moves : Moves world after) :
    Owned provisional after := by
  cases moves <;> exact ⟨owned.consistent, owned.completed, owned.created⟩

theorem preserves_owned (injective : Function.Injective uuid) :
    Protocol.Preserves (registryProtocol provisional uuid)
      (fun world id call command =>
        RetiresUnowned world id call command ∧ Asks call.input call.past command)
      (Owned provisional) (Knows provisional uuid)
      (fun world id => uuid id ∉ world.keys.created) where
  opened _ unused opens :=
    { admissible := opens
      drew := fun found => absurd found List.not_mem_nil
      fresh := fun _ => unused
      created := fun found => absurd found List.not_mem_nil }
  served {world id input past command next} owned knows meets := by
    have creates := knows.creates meets.2
    have grows := @serve_grows uuid id world command
    refine ⟨owned.served knows meets.2 meets.1, knows.served, fun other different => ?_⟩
    have foreign : command.creates ≠ some (uuid other) := by
      intro same
      exact different (injective (creates _ same).1)
    refine ⟨fun call kept => kept.mono grows foreign, fun unused isCreated => ?_⟩
    rcases grows.created.mp isCreated with old | own
    · exact unused old
    · exact foreign own
  moved {world after} owned moves := by
    refine ⟨owned.moved moves, fun id => ⟨fun call kept => ?_, fun unused isCreated => ?_⟩⟩
    · exact kept.mono (Moves.grows moves) (by simp)
    · rcases (Moves.grows moves).created.mp isCreated with old | own
      · exact unused old
      · cases own

/-- In every run whose renames retire no name that another session still owns, a
live session that published its registration is addressed. -/
theorem live_identity_addressed (injective : Function.Injective uuid) {system : RegistrySystem}
    (reached : (registryProtocol provisional uuid).Reachable RetiresUnowned
      (Initial provisional) system) : Addressed system.world := by
  have holds := (reached.asking follows_program).invariant
    (fun world initial => ⟨initial.owned, fun _ => by simp [initial.keys.created]⟩)
    (preserves_owned injective)
  intro owner member recorded live
  exact registry_of_completed holds.shared.consistent
    (holds.shared.completed owner member recorded)

end Runs

/-! Two clients register one name, and the first renames itself away. -/

section Schedule

def emptyWorld : World where
  keys := Presence.emptyKeys
  registrations := ⟨⟨fun _ => none, fun _ => none, fun _ => none⟩, 0, fun _ => none⟩
  identity _ := none
  published := []
  transfers := true

theorem emptyWorld_initial : Initial {"draft"} emptyWorld where
  keys := ⟨fun _ => rfl, fun _ => rfl, fun _ => rfl, rfl⟩
  settled := ⟨rfl, rfl, by simp [emptyWorld], fun _ => rfl⟩
  published := rfl

abbrev sampleProtocol : Protocol World Input Command Reply Bool :=
  registryProtocol {"draft"} unary

def sampleRegister (client : Nat) (name : String) : Input :=
  .register client name "draft" "completed"

theorem sampleRegister_admissible (client : Nat) (name : String) :
    (sampleRegister client name).Admissible {"draft"} :=
  ⟨rfl, by simp⟩

def advances (system : RegistrySystem) (id count : Nat) : RegistrySystem :=
  (fun before => sampleProtocol.advance before id)^[count] system

def firstOwner : RegistrySystem :=
  advances (sampleProtocol.start ⟨emptyWorld, fun _ => none⟩ 1 (sampleRegister 1 "worker")) 1 7

def bothOwners : RegistrySystem :=
  advances (sampleProtocol.start firstOwner 2 (sampleRegister 2 "worker")) 2 7

/-- The first client has retired the shared name. -/
def retiredShared : RegistrySystem :=
  advances (sampleProtocol.start bothOwners 3 (sampleRegister 1 "mover")) 3 10

theorem retiredShared_reachable :
    sampleProtocol.Reachable anyStep (Initial {"draft"}) retiredShared := by
  have empty : sampleProtocol.Reachable anyStep (Initial {"draft"}) ⟨emptyWorld, fun _ => none⟩ :=
    Protocol.Reachable.init emptyWorld_initial
  have first : sampleProtocol.Reachable anyStep (Initial {"draft"}) firstOwner :=
    (empty.start 1 (sampleRegister 1 "worker") rfl
      (sampleRegister_admissible 1 "worker")).advances 1 7
      fun _ _ _ _ => trivial
  have both : sampleProtocol.Reachable anyStep (Initial {"draft"}) bothOwners :=
    (first.start 2 (sampleRegister 2 "worker") (by decide +kernel)
      (sampleRegister_admissible 2 "worker")).advances 2 7
      fun _ _ _ _ => trivial
  exact (both.start 3 (sampleRegister 1 "mover") (by decide +kernel)
      (sampleRegister_admissible 1 "mover")).advances 3 10
    fun _ _ _ _ => trivial

/-- The second client is live, and its name is gone. -/
theorem live_identity_retired :
    ¬∀ system : RegistrySystem, sampleProtocol.Reachable anyStep (Initial {"draft"}) system →
      Addressed system.world := by
  intro addressed
  exact addressed retiredShared retiredShared_reachable ("uu", "worker") (by decide +kernel)
    (by decide +kernel) (by decide +kernel) (by decide +kernel)

/-- The first client alone renames itself. -/
def renamedAlone : RegistrySystem :=
  advances (sampleProtocol.start firstOwner 2 (sampleRegister 1 "mover")) 2 12

/-- `RetiresUnowned` of the next command of a call. -/
def retiresUnowned (system : RegistrySystem) (id : Nat) : Bool :=
  match Protocol.asked system id with
  | some (.hdelRegistry name) => system.world.published.all fun owner =>
      owner.2 != name || system.world.keys.record owner.1 != some name
  | _ => true

theorem retiresUnowned_of_check {system : RegistrySystem} {id : Nat} {command : Command}
    {call : Call Input Command Reply Bool} (asked : Protocol.asked system id = some command)
    (checked : retiresUnowned system id = true) :
    RetiresUnowned system.world id call command := by
  cases command with
  | hdelRegistry name =>
      rw [retiresUnowned, asked] at checked
      intro owner member same recorded
      have found := List.all_eq_true.mp checked owner member
      simp [same, recorded] at found
  | _ => trivial

theorem renamedAlone_reachable :
    sampleProtocol.Reachable RetiresUnowned (Initial {"draft"}) renamedAlone := by
  have checkedFirst : ∀ earlier < 7, retiresUnowned (advances (sampleProtocol.start
      ⟨emptyWorld, fun _ => none⟩ 1 (sampleRegister 1 "worker")) 1 earlier) 1 = true := by
    decide +kernel
  have empty : sampleProtocol.Reachable RetiresUnowned (Initial {"draft"})
      ⟨emptyWorld, fun _ => none⟩ := Protocol.Reachable.init emptyWorld_initial
  have first : sampleProtocol.Reachable RetiresUnowned (Initial {"draft"}) firstOwner := by
    apply (empty.start 1 (sampleRegister 1 "worker") rfl
      (sampleRegister_admissible 1 "worker")).advances_of 1 7
    intro earlier less call command running asked
    exact retiresUnowned_of_check asked (checkedFirst earlier less)
  have checked : ∀ earlier < 12, retiresUnowned (advances (sampleProtocol.start firstOwner 2
      (sampleRegister 1 "mover")) 2 earlier) 2 = true := by
    decide +kernel
  apply (first.start 2 (sampleRegister 1 "mover") (by decide +kernel)
      (sampleRegister_admissible 1 "mover")).advances_of 2 12
  intro earlier less call command running asked
  exact retiresUnowned_of_check asked (checked earlier less)

theorem renamedAlone_addressed :
    ("uu", "mover") ∈ renamedAlone.world.published ∧ Addressed renamedAlone.world :=
  ⟨by decide +kernel, live_identity_addressed unary_injective renamedAlone_reachable⟩

end Schedule

end GptQueue.Addressable
