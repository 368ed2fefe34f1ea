import GptQueue.Wake.Gate

/-! # The wakes of one actor

The server with the actor's lease key and sessions, and what was done so far.
-/

namespace GptQueue.Wake

inductive Event
  | acquired (call : Nat) (leaseId : String)
  /-- A launch, with the running runtimes that earlier wakes had launched. -/
  | launched (call : Nat) (leaseId : String) (running : List String)
  | cleared (call : Nat) (leaseId : String)
  | expired (leaseId : Option String)
  | looked (call : Nat)
  | enlivened (sessionId : String)
deriving DecidableEq

structure Session where
  sessionId : String
  /-- The lease whose launch started the runtime, unless it was started otherwise. -/
  launchedBy : Option String
deriving DecidableEq

structure World where
  key : Option LeaseKey
  directory : Except String (Option ActorDirectoryRecord)
  records : List Session
  members : List String
  /-- The sessions whose lease key has time left: `TTL` answers with a positive number. -/
  live : List String
  workload : String → Workload
  alive : Nat → Bool
  outcome : LaunchOutcome
  log : List Event

/-- The runtimes started by a wake that are registered with a live lease. -/
def World.running (world : World) : List String :=
  (world.records.filter fun session =>
    session.launchedBy.isSome && decide (session.sessionId ∈ world.live)).map Session.sessionId

theorem World.mem_running {world : World} {sessionId : String} :
    sessionId ∈ world.running ↔ sessionId ∈ world.live ∧
      ∃ session ∈ world.records, session.launchedBy.isSome = true ∧
        session.sessionId = sessionId := by
  simp only [running, List.mem_map, List.mem_filter, Bool.and_eq_true, decide_eq_true_eq]
  constructor
  · intro found
    rcases found with ⟨session, ⟨member, launched, live⟩, same⟩
    exact ⟨same ▸ live, session, member, launched, same⟩
  · intro found
    rcases found with ⟨live, session, member, launched, same⟩
    exact ⟨session, ⟨member, launched, same ▸ live⟩, same⟩

def serve (uuid : Nat → String) (id : Nat) :
    (command : Command) → World → Reply command × World
  | .directoryGet, world => (world.directory, world)
  | .smembers, world => (world.members, { world with log := .looked id :: world.log })
  | .ttl sessionId, world => (decide (sessionId ∈ world.live), world)
  | .workloadForSession sessionId, world => (world.workload sessionId, world)
  | .leaseGet, world => (world.key.map LeaseKey.stored, world)
  | .isPidAlive pid, world => (decide (0 < pid) && world.alive pid, world)
  | .leaseClear leaseId, world =>
      let ran := wakeLeaseClear world.key leaseId
      (ran.1,
        { world with
          key := ran.2
          log := if ran.1 then .cleared id leaseId :: world.log else world.log })
  | .randomUUID, world => (uuid id, world)
  | .leaseAcquire lease ttl, world =>
      let ran := wakeLeaseAcquire world.key lease ttl
      (ran.1,
        { world with
          key := ran.2
          log := if ran.1.2 then world.log else .acquired id lease.leaseId :: world.log })
  | .dispatchLaunch _ leaseId, world =>
      (world.outcome, { world with log := .launched id leaseId world.running :: world.log })
  | .attachSpawn leaseId pid spawnedAt, world =>
      let ran := wakeLeaseAttachSpawn world.key leaseId pid spawnedAt
      (ran.1, { world with key := ran.2 })
  | .pruneExpiredSessions, world =>
      ((),
        { world with
          records := world.records.filter fun session =>
            decide (session.sessionId ∈ world.members → session.sessionId ∈ world.live)
          members := world.members.filter fun sessionId => decide (sessionId ∈ world.live) })
  | .createSession sessionId launchedBy, world =>
      ((),
        { world with
          records := ⟨sessionId, launchedBy⟩ :: world.records
          members := sessionId :: world.members
          live := sessionId :: world.live
          log := .enlivened sessionId :: world.log })

/-- What happens besides: keys expire, runtimes renew their leases and leave, and
what the calls only read changes. -/
inductive Moves : World → World → Prop
  | ticked {world : World} {held : LeaseKey} (present : world.key = some held) :
      Moves world { world with key := some { held with ttl := held.ttl - 1 } }
  | expired {world : World} {held : LeaseKey} (present : world.key = some held) :
      Moves world { world with key := none, log := .expired held.stored.leaseId :: world.log }
  | changed {world : World} (directory : Except String (Option ActorDirectoryRecord))
      (workload : String → Workload) (alive : Nat → Bool) (outcome : LaunchOutcome) :
      Moves world { world with directory, workload, alive, outcome }
  /-- `refreshLease`, which needs the record. -/
  | renewed {world : World} {session : Session} (recorded : session ∈ world.records) :
      Moves world
        { world with
          members := session.sessionId :: world.members
          live := session.sessionId :: world.live
          log := if session.sessionId ∈ world.live then world.log
            else .enlivened session.sessionId :: world.log }
  | lapsed {world : World} (sessionId : String) :
      Moves world { world with live := world.live.filter fun other => other ≠ sessionId }
  /-- The first step of `closeSession`. -/
  | closed {world : World} (sessionId : String) :
      Moves world
        { world with
          records := world.records.filter fun session => session.sessionId ≠ sessionId
          live := world.live.filter fun other => other ≠ sessionId }
  | left {world : World} {sessionId : String} (gone : sessionId ∉ world.live) :
      Moves world { world with members := world.members.filter fun other => other ≠ sessionId }

/-- A runtime that a wake started is registered after its launch. -/
def opens (world : World) : Input → Prop
  | .registration (some leaseId) => ∃ call running, .launched call leaseId running ∈ world.log
  | _ => True

def wakeProtocol (uuid : Nat → String) : Protocol World Input Command Reply Result where
  program := program
  serve := serve uuid
  opens := opens
  moves := Moves

abbrev WakeSystem := System World Input Command Reply Result

/-- Nothing was done yet, and a stored lease has an id that no call draws. -/
structure Initial (uuid : Nat → String) (world : World) : Prop where
  log : world.log = []
  fresh : ∀ id, leaseIdOf world.key ≠ some (uuid id)
  members : ∀ session ∈ world.records, session.sessionId ∈ world.live →
    session.sessionId ∈ world.members

def anyStep : Condition World Input Command Reply Result := fun _ _ _ _ => True

end GptQueue.Wake
