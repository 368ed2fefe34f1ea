import GptQueue.Foundation.Interleaving
import GptQueue.Wake.Lease

/-! # Wake gates and registrations

The calls that read and write the wake lease of one actor: the gate of
`send_message`, `actor_status`, and the registration of a runtime. A command that
rejects ends its call, so it is a call that makes no further step.
-/

namespace GptQueue.Wake

/-! ## Commands -/

inductive LaunchOutcome
  | dispatched (pid : Option Nat)
  | failed (message : String)
deriving DecidableEq

inductive Command
  /-- `actorDirectory.get`. -/
  | directoryGet
  /-- The members of the actor's session set. -/
  | smembers
  /-- Whether the lease of a session has time left. -/
  | ttl (sessionId : String)
  | workloadForSession (sessionId : String)
  | leaseGet
  | isPidAlive (pid : Nat)
  | leaseClear (leaseId : String)
  | randomUUID
  | leaseAcquire (lease : WakeLease) (ttl : Nat)
  /-- The lease is not passed on; it says whose launch this is. -/
  | dispatchLaunch (contract : RuntimeLaunchContract) (leaseId : String)
  | attachSpawn (leaseId : String) (pid : Nat) (spawnedAt : String)
  | pruneExpiredSessions
  /-- The transaction of `createSession`, with the launch the runtime came from. -/
  | createSession (sessionId : String) (launchedBy : Option String)
deriving DecidableEq

abbrev Reply : Command → Type
  | .directoryGet => Except String (Option ActorDirectoryRecord)
  | .smembers => List String
  | .ttl _ => Bool
  | .workloadForSession _ => Workload
  | .leaseGet => Option StoredLease
  | .isPidAlive _ => Bool
  | .leaseClear _ => Bool
  | .randomUUID => String
  | .leaseAcquire _ _ => StoredLease × Bool
  | .dispatchLaunch _ _ => LaunchOutcome
  | .attachSpawn _ _ _ => Bool
  | .pruneExpiredSessions => Unit
  | .createSession _ _ => Unit

/-! ## Programs -/

abbrev ask (command : Command) : Program Command Reply (Reply command) := Program.ask command

inductive SendWakeResult
  | wakeDispatched (leaseId : String) (pid : Option Nat)
  | launchFailed (leaseId errorMessage : String)
  | wakeCoalesced (leaseId : String)
  | wakeError (errorMessage : String)
deriving DecidableEq

inductive Result
  | noWake
  | wake (result : SendWakeResult)
  | status (presence : Option AssembledPresence)
  | registered (sessionId : String)
deriving DecidableEq

/-- `WakeLeaseStore.get`. -/
def leaseGet : Program Command Reply (Option WakeLease) := do
  let raw ← ask .leaseGet
  pure (raw.bind StoredLease.parseLease)

/-- The sessions of the list whose lease is live, each asked for in turn. -/
def activeSessions : List String → Program Command Reply (List String)
  | [] => pure []
  | sessionId :: rest => do
      let alive ← ask (.ttl sessionId)
      let active ← activeSessions rest
      pure (if alive then sessionId :: active else active)

def getPresence : Program Command Reply (List String) := do
  let members ← ask .smembers
  activeSessions members

/-- Whether the lease was cleared because its process died. -/
def reconcileWakeLease : Program Command Reply Bool := do
  match ← leaseGet with
  | none => pure false
  | some lease =>
      match lease.spawnedPid with
      | none => pure false
      | some pid =>
          if ← ask (.isPidAlive pid) then pure false
          else ask (.leaseClear lease.leaseId)

def assemblePresenceInput (record : ActorDirectoryRecord) :
    Program Command Reply AssembledPresence := do
  match ← getPresence with
  | sessionId :: _ =>
      let workload ← ask (.workloadForSession sessionId)
      let lease ← leaseGet
      pure ⟨contractReadiness record, some ⟨sessionId, workload⟩, lease⟩
  | [] =>
      if ← reconcileWakeLease then pure ⟨contractReadiness record, none, none⟩
      else
        let lease ← leaseGet
        pure ⟨contractReadiness record, none, lease⟩

def wakeLeaseSeconds : Nat := 60

/-- One `send_message` to a durable actor, from its wake gate on. -/
structure Gate where
  actorId : String
  sessionId : String
  now : Int
  spawnedAt : String

def newLease (gate : Gate) (leaseId : String) : WakeLease where
  leaseId := leaseId
  actorId := gate.actorId
  issuedBySession := gate.sessionId
  issuedAt := IsoDate.toISOString gate.now
  expiresAt := IsoDate.toISOString (gate.now + wakeLeaseSeconds * 1000)
  spawnedPid := none
  spawnedAt := none

def shipLaunch (gate : Gate) (record : ActorDirectoryRecord) (lease : WakeLease) :
    Program Command Reply SendWakeResult := do
  match record.launch with
  | none => pure (.wakeError "launch contract missing for wake_if_offline actor")
  | some launch =>
      match ← ask (.dispatchLaunch launch lease.leaseId) with
      | .dispatched (some pid) =>
          let _ ← ask (.attachSpawn lease.leaseId pid gate.spawnedAt)
          pure (.wakeDispatched lease.leaseId (some pid))
      | .dispatched none => pure (.wakeDispatched lease.leaseId none)
      | .failed message => pure (.launchFailed lease.leaseId message)

/-- `acquireOrCoalesce` and then `shipLaunch`. -/
def wakeOfflineLaunchable (gate : Gate) (record : ActorDirectoryRecord) :
    Program Command Reply SendWakeResult := do
  let leaseId ← ask .randomUUID
  let acquired ← ask (.leaseAcquire (newLease gate leaseId) wakeLeaseSeconds)
  match acquired.1.parseLease with
  | none => pure (.wakeError "stored wake lease is corrupt")
  | some lease =>
      if acquired.2 then pure (.wakeCoalesced lease.leaseId)
      else shipLaunch gate record lease

def maybeWake (gate : Gate) : Program Command Reply Result := do
  match ← ask .directoryGet with
  | .error message => pure (.wake (.wakeError message))
  | .ok none => pure .noWake
  | .ok (some record) =>
      match record.mode with
      | .storeOnly => pure .noWake
      | .wakeIfOffline =>
          let presence ← assemblePresenceInput record
          match wakeDecisionForPresence (classifyPresence record.mode presence)
            presence.wakeLease.isSome with
          | .noWake => pure .noWake
          | .coalesce =>
              match presence.wakeLease with
              | some lease => pure (.wake (.wakeCoalesced lease.leaseId))
              | none => pure .noWake
          | .launch =>
              let result ← wakeOfflineLaunchable gate record
              pure (.wake result)

/-- The presence part of `actor_status`. -/
def actorStatus : Program Command Reply Result := do
  match ← ask .directoryGet with
  | .error _ => pure (.status none)
  | .ok none => pure (.status none)
  | .ok (some record) =>
      let presence ← assemblePresenceInput record
      pure (.status (some presence))

/-- What `registerAgent` does to the sessions of its name and to the wake lease. -/
def registerAgent (launchedBy : Option String) : Program Command Reply Result := do
  let sessionId ← ask .randomUUID
  let _ ← ask .pruneExpiredSessions
  let _ ← ask (.createSession sessionId launchedBy)
  match ← leaseGet with
  | none => pure (.registered sessionId)
  | some lease =>
      let _ ← ask (.leaseClear lease.leaseId)
      pure (.registered sessionId)

inductive Input
  | gate (gate : Gate)
  | status
  | registration (launchedBy : Option String)

def program : Input → Program Command Reply Result
  | .gate gate => maybeWake gate
  | .status => actorStatus
  | .registration launchedBy => registerAgent launchedBy

/-! ## What a call asks

Each command is preceded by what the code has read when it gives it. -/

abbrev Past := List (Exchange Command Reply)

/-- A lease was read with a pid that was then found dead. -/
def SawDeadPid (past : Past) (leaseId : String) : Prop :=
  ∃ stored lease pid, ⟨.leaseGet, some stored⟩ ∈ past ∧ stored.parseLease = some lease ∧
    lease.leaseId = leaseId ∧ lease.spawnedPid = some pid ∧ ⟨.isPidAlive pid, false⟩ ∈ past

/-- The members were read and every one was then found without a live lease. -/
def SawOffline (past : Past) : Prop :=
  ∃ members : List String, ⟨.smembers, members⟩ ∈ past ∧
    ∀ sessionId ∈ members, ⟨.ttl sessionId, false⟩ ∈ past

/-- Whether a command acquires the lease or launches. -/
def Command.isWake : Command → Bool
  | .leaseAcquire _ _ => true
  | .dispatchLaunch _ _ => true
  | _ => false

def Command.isLaunch : Command → Bool
  | .dispatchLaunch _ _ => true
  | _ => false

def Command.isLook : Command → Bool
  | .smembers => true
  | _ => false

/-- No command of the kind was given so far. -/
def Never (kind : Command → Bool) (past : Past) : Prop :=
  ∀ exchange ∈ past, kind exchange.1 = false

def Asks (input : Input) (past : Past) : Command → Prop
  | .smembers => Never Command.isLook past
  | .ttl _ => ¬Never Command.isLook past
  | .leaseAcquire lease _ => Never Command.isWake past ∧ ⟨.randomUUID, lease.leaseId⟩ ∈ past
  | .dispatchLaunch _ leaseId =>
      Never Command.isLaunch past ∧ SawOffline past ∧
        ∃ lease ttl stored, ⟨.leaseAcquire lease ttl, (stored, false)⟩ ∈ past ∧
          stored.leaseId = some leaseId
  | .leaseClear leaseId =>
      (∃ launchedBy, input = .registration launchedBy) ∨ SawDeadPid past leaseId
  | _ => True

section Follows

variable {input : Input} {past : Past}

theorem Never.cons {kind : Command → Bool} (never : Never kind past)
    {exchange : Exchange Command Reply}
    (other : kind exchange.1 = false) : Never kind (exchange :: past) := by
  intro earlier member
  rcases List.mem_cons.mp member with same | old
  · exact same ▸ other
  · exact never earlier old

/-- What a part of a program that only reads and clears leaves of the past. -/
structure Reads (past after : Past) : Prop where
  keeps : past ⊆ after
  never : Never Command.isWake past → Never Command.isWake after

theorem Reads.refl (past : Past) : Reads past past := ⟨fun _ member => member, id⟩

theorem Reads.trans {first second third : Past} (left : Reads first second)
    (right : Reads second third) : Reads first third :=
  ⟨fun _ member => right.keeps (left.keeps member), fun never => right.never (left.never never)⟩

theorem Reads.cons {exchange : Exchange Command Reply} (other : exchange.1.isWake = false)
    (past : Past) : Reads past (exchange :: past) :=
  ⟨fun _ member => List.mem_cons_of_mem _ member, fun never => never.cons other⟩

theorem follows_leaseGet (past : Past) :
    leaseGet.Follows (Asks input) (fun after lease => Reads past after ∧
      ∀ found ∈ lease, ∃ stored : StoredLease, ⟨.leaseGet, some stored⟩ ∈ after ∧
        stored.parseLease = some found) past := by
  refine ⟨trivial, fun raw => ⟨Reads.cons rfl past, ?_⟩⟩
  intro found member
  cases raw with
  | none => cases member
  | some stored => exact ⟨stored, List.mem_cons_self, member⟩

theorem follows_activeSessions (members : List String) {past : Past}
    (looked : ¬Never Command.isLook past) :
    (activeSessions members).Follows (Asks input) (fun after active => Reads past after ∧
      (active = [] → ∀ sessionId ∈ members, ⟨.ttl sessionId, false⟩ ∈ after)) past := by
  induction members generalizing past with
  | nil => exact ⟨Reads.refl past, fun _ _ member => absurd member List.not_mem_nil⟩
  | cons sessionId rest induction =>
      refine ⟨looked, fun alive => ?_⟩
      have still : ¬Never Command.isLook (⟨.ttl sessionId, alive⟩ :: past) :=
        fun never => looked fun exchange member => never exchange (List.mem_cons_of_mem _ member)
      refine (induction still).bind ?_
      intro after active ends
      rcases ends with ⟨reads, offline⟩
      refine ⟨(Reads.cons rfl past).trans reads, ?_⟩
      intro none other member
      cases alive with
      | true => cases none
      | false =>
          rcases List.mem_cons.mp member with same | later
          · exact same ▸ reads.keeps List.mem_cons_self
          · exact offline none other later

theorem follows_getPresence (looks : Never Command.isLook past) :
    getPresence.Follows (Asks input) (fun after active => Reads past after ∧
      (active = [] → SawOffline after)) past := by
  refine Program.follows_ask_bind.mpr ⟨looks, fun members => ?_⟩
  have looked : ¬Never Command.isLook (⟨.smembers, members⟩ :: past) :=
    fun never => Bool.noConfusion (never _ List.mem_cons_self)
  refine (follows_activeSessions members looked).mono ?_
  intro after active ends
  rcases ends with ⟨reads, offline⟩
  refine ⟨(Reads.cons rfl past).trans reads, fun none => ?_⟩
  exact ⟨members, reads.keeps List.mem_cons_self, offline none⟩

theorem follows_reconcileWakeLease (past : Past) :
    reconcileWakeLease.Follows (Asks input) (fun after _ => Reads past after) past := by
  refine (follows_leaseGet past).bind ?_
  intro after lease ends
  rcases ends with ⟨reads, found⟩
  cases lease with
  | none => exact reads
  | some lease =>
      rcases found lease rfl with ⟨stored, read, parsed⟩
      dsimp only
      split
      · exact reads
      · next pid spawned =>
          refine ⟨trivial, fun alive => ?_⟩
          cases alive with
          | true => exact reads.trans (Reads.cons rfl after)
          | false =>
              have dead : SawDeadPid (⟨.isPidAlive pid, false⟩ :: after) lease.leaseId :=
                ⟨stored, lease, pid, List.mem_cons_of_mem _ read, parsed, rfl, spawned,
                  List.mem_cons_self⟩
              refine ⟨Or.inr dead, fun cleared => ?_⟩
              exact reads.trans ((Reads.cons rfl after).trans (Reads.cons rfl _))

theorem follows_assemblePresenceInput (looks : Never Command.isLook past)
    (record : ActorDirectoryRecord) :
    (assemblePresenceInput record).Follows (Asks input) (fun after presence => Reads past after ∧
      (presence.runtime = none → SawOffline after)) past := by
  refine (follows_getPresence looks).bind ?_
  intro looked active ends
  rcases ends with ⟨reads, offline⟩
  cases active with
  | cons sessionId rest =>
      refine ⟨trivial, fun workload => ?_⟩
      refine (follows_leaseGet _).bind ?_
      intro after lease ends
      exact ⟨reads.trans ((Reads.cons rfl looked).trans ends.1), fun none => by cases none⟩
  | nil =>
      have later : ∀ {after}, Reads looked after → SawOffline after := by
        intro after more
        rcases offline rfl with ⟨members, read, dead⟩
        exact ⟨members, more.keeps read, fun sessionId member => more.keeps (dead sessionId member)⟩
      refine (follows_reconcileWakeLease looked).bind ?_
      intro reconciled cleared more
      cases cleared with
      | true => exact ⟨reads.trans more, fun _ => later more⟩
      | false =>
          refine (follows_leaseGet reconciled).bind ?_
          intro after lease ends
          exact ⟨reads.trans (more.trans ends.1), fun _ => later (more.trans ends.1)⟩

theorem follows_shipLaunch (gate : Gate) (record : ActorDirectoryRecord) (lease : WakeLease)
    (asks : ∀ contract, Asks input past (.dispatchLaunch contract lease.leaseId)) :
    (shipLaunch gate record lease).Follows (Asks input) (fun _ _ => True) past := by
  unfold shipLaunch
  split
  · trivial
  · next launch contract =>
      refine ⟨asks launch, fun outcome => ?_⟩
      cases outcome with
      | dispatched pid =>
          cases pid with
          | none => trivial
          | some pid => exact ⟨trivial, fun _ => trivial⟩
      | failed message => trivial

theorem follows_wakeOfflineLaunchable (gate : Gate) (record : ActorDirectoryRecord)
    (never : Never Command.isWake past) (offline : SawOffline past) :
    (wakeOfflineLaunchable gate record).Follows (Asks input) (fun _ _ => True) past := by
  refine Program.follows_ask_bind.mpr ⟨trivial, fun leaseId => ?_⟩
  refine Program.follows_ask_bind.mpr ⟨⟨never.cons rfl, List.mem_cons_self⟩, fun acquired => ?_⟩
  rcases acquired with ⟨stored, coalesced⟩
  dsimp only
  split
  · trivial
  · next lease parsed =>
      cases coalesced with
      | true => trivial
      | false =>
          apply follows_shipLaunch
          intro contract
          refine ⟨?_, ?_, _, _, stored, List.mem_cons_self,
            StoredLease.leaseId_of_parseLease parsed⟩
          · intro exchange member
            rcases List.mem_cons.mp member with same | member
            · rw [same]
              rfl
            · rcases List.mem_cons.mp member with same | earlier
              · rw [same]
                rfl
              · have other := never exchange earlier
                revert other
                cases exchange.1 <;> simp [Command.isWake, Command.isLaunch]
          · rcases offline with ⟨members, read, dead⟩
            refine ⟨members, List.mem_cons_of_mem _ (List.mem_cons_of_mem _ read), ?_⟩
            intro sessionId member
            exact List.mem_cons_of_mem _ (List.mem_cons_of_mem _ (dead sessionId member))

theorem follows_maybeWake (gate : Gate) :
    (maybeWake gate).Follows (Asks input) (fun _ _ => True) [] := by
  refine Program.follows_ask_bind.mpr ⟨trivial, fun found => ?_⟩
  have single : ∀ kind : Command → Bool, kind .directoryGet = false →
      Never kind [⟨.directoryGet, found⟩] := by
    intro kind other
    exact Never.cons (fun _ member => absurd member List.not_mem_nil) other
  cases found with
  | error message => trivial
  | ok record =>
      cases record with
      | none => trivial
      | some record =>
          dsimp only
          split
          · trivial
          · refine (follows_assemblePresenceInput (single _ rfl) record).bind ?_
            intro after presence ends
            rcases ends with ⟨reads, offline⟩
            split
            · trivial
            · split <;> trivial
            · next decided =>
                refine (follows_wakeOfflineLaunchable gate record (reads.never (single _ rfl))
                  (offline (runtime_of_launch decided))).bind ?_
                intro _ _ _
                trivial

/-- Every call asks only what `Asks` says. -/
theorem follows_program (input : Input) :
    (program input).Follows (Asks input) (fun _ _ => True) [] := by
  cases input with
  | gate gate => exact follows_maybeWake gate
  | status =>
      refine ⟨trivial, fun found => ?_⟩
      cases found with
      | error message => trivial
      | ok record =>
          cases record with
          | none => trivial
          | some record =>
              refine (follows_assemblePresenceInput ?_ record).bind fun _ _ _ => trivial
              exact Never.cons (fun _ member => absurd member List.not_mem_nil) rfl
  | registration launchedBy =>
      refine ⟨trivial, fun sessionId => ⟨trivial, fun _ => ⟨trivial, fun _ => ?_⟩⟩⟩
      refine (follows_leaseGet _).bind ?_
      intro after lease ends
      cases lease with
      | none => trivial
      | some lease => exact ⟨Or.inl ⟨launchedBy, rfl⟩, fun _ => trivial⟩

end Follows

end GptQueue.Wake
