import GptQueue.Claims.IsoDate

/-! # Wake leases

The stored wake lease of one actor, the three scripts on it, and how a presence
is classified.
-/

namespace GptQueue.Wake

/-! ## The stored lease -/

structure WakeLease where
  leaseId : String
  actorId : String
  issuedBySession : String
  issuedAt : String
  expiresAt : String
  spawnedPid : Option Nat
  spawnedAt : Option String
deriving DecidableEq

/-- The text of the lease key. What is no complete lease still counts for the
scripts by the `lease_id` they find in it. -/
inductive StoredLease
  | complete (lease : WakeLease)
  | other (leaseId : Option String)
deriving DecidableEq

namespace StoredLease

def leaseId : StoredLease → Option String
  | .complete lease => some lease.leaseId
  | .other leaseId => leaseId

def parseLease : StoredLease → Option WakeLease
  | .complete lease => some lease
  | .other _ => none

/-- Set the two spawn fields. -/
def withSpawn (stored : StoredLease) (pid : Nat) (spawnedAt : String) : StoredLease :=
  match stored with
  | .complete lease => .complete { lease with spawnedPid := some pid, spawnedAt := some spawnedAt }
  | .other leaseId => .other leaseId

@[simp] theorem leaseId_withSpawn (stored : StoredLease) (pid : Nat) (spawnedAt : String) :
    (stored.withSpawn pid spawnedAt).leaseId = stored.leaseId := by
  cases stored <;> rfl

theorem leaseId_of_parseLease {stored : StoredLease} {lease : WakeLease}
    (parsed : stored.parseLease = some lease) : stored.leaseId = some lease.leaseId := by
  cases stored with
  | complete found =>
      cases parsed
      rfl
  | other leaseId => cases parsed

end StoredLease

/-- The lease key, with the seconds it has left. -/
structure LeaseKey where
  stored : StoredLease
  ttl : Nat
deriving DecidableEq

/-- The id of the lease in a key that may be absent. -/
def leaseIdOf (key : Option LeaseKey) : Option String := key.bind fun held => held.stored.leaseId

/-! ## The scripts -/

/-- `wake-lease-acquire.lua`: the stored text and whether it was there before. -/
def wakeLeaseAcquire (key : Option LeaseKey) (lease : WakeLease) (ttl : Nat) :
    (StoredLease × Bool) × Option LeaseKey :=
  match key with
  | some existing => ((existing.stored, true), key)
  | none => ((.complete lease, false), some ⟨.complete lease, ttl⟩)

/-- `wake-lease-clear.lua`. -/
def wakeLeaseClear (key : Option LeaseKey) (expectedLeaseId : String) : Bool × Option LeaseKey :=
  match key with
  | none => (false, none)
  | some current =>
      if current.stored.leaseId = some expectedLeaseId then (true, none) else (false, key)

/-- `wake-lease-attach-spawn.lua`, which keeps the TTL. -/
def wakeLeaseAttachSpawn (key : Option LeaseKey) (expectedLeaseId : String) (pid : Nat)
    (spawnedAt : String) : Bool × Option LeaseKey :=
  match key with
  | none => (false, none)
  | some current =>
      if current.stored.leaseId = some expectedLeaseId then
        (true, some { current with stored := current.stored.withSpawn pid spawnedAt })
      else (false, key)

section Scripts

variable {key : Option LeaseKey} {leaseId : String}

/-- A clear for another lease changes nothing. -/
theorem wakeLeaseClear_of_ne (other : leaseIdOf key ≠ some leaseId) :
    wakeLeaseClear key leaseId = (false, key) := by
  cases key with
  | none => rfl
  | some current => exact if_neg other

theorem wakeLeaseClear_of_eq (own : leaseIdOf key = some leaseId) :
    wakeLeaseClear key leaseId = (true, none) := by
  cases key with
  | none => cases own
  | some current => exact if_pos own

/-- Nor does an attach for another lease, the remaining TTL included. -/
theorem wakeLeaseAttachSpawn_of_ne (other : leaseIdOf key ≠ some leaseId) (pid : Nat)
    (spawnedAt : String) : wakeLeaseAttachSpawn key leaseId pid spawnedAt = (false, key) := by
  cases key with
  | none => rfl
  | some current => exact if_neg other

/-- An attach keeps the id and the TTL of whatever is stored. -/
theorem leaseIdOf_wakeLeaseAttachSpawn (pid : Nat) (spawnedAt : String) :
    leaseIdOf (wakeLeaseAttachSpawn key leaseId pid spawnedAt).2 = leaseIdOf key := by
  cases key with
  | none => rfl
  | some current =>
      unfold wakeLeaseAttachSpawn
      dsimp only
      split
      · exact current.stored.leaseId_withSpawn pid spawnedAt
      · rfl

end Scripts

/-! ## Presence -/

inductive ActivationPolicyMode
  | wakeIfOffline
  | storeOnly
deriving DecidableEq

structure RuntimeLaunchContract where
  command : String
  args : List String
  cwd : Option String
deriving DecidableEq

/-- What the wake gate reads of an actor-directory record. -/
structure ActorDirectoryRecord where
  mode : ActivationPolicyMode
  launch : Option RuntimeLaunchContract
deriving DecidableEq

inductive LaunchContractReadiness
  | runnable
  | notRunnable
deriving DecidableEq

def contractReadiness (record : ActorDirectoryRecord) : LaunchContractReadiness :=
  match record.launch with
  | some launch => if 0 < launch.command.length then .runnable else .notRunnable
  | none => .notRunnable

inductive Workload
  | processing
  | idle
deriving DecidableEq

structure RuntimeIncarnation where
  sessionId : String
  workload : Workload
deriving DecidableEq

inductive RuntimePresenceState
  | active
  | idle
  | starting
  | offlineLaunchable
  | offlineStoreOnly
  | unavailable
deriving DecidableEq

structure AssembledPresence where
  launchContract : LaunchContractReadiness
  runtime : Option RuntimeIncarnation
  wakeLease : Option WakeLease
deriving DecidableEq

/-- `resolveSituation` and `classifySituation`. -/
def classifyPresence (mode : ActivationPolicyMode) (presence : AssembledPresence) :
    RuntimePresenceState :=
  match presence.runtime with
  | some runtime =>
      match runtime.workload with
      | .processing => .active
      | .idle => .idle
  | none =>
      match presence.wakeLease with
      | some _ => .starting
      | none =>
          match presence.launchContract with
          | .notRunnable => .unavailable
          | .runnable =>
              match mode with
              | .storeOnly => .offlineStoreOnly
              | .wakeIfOffline => .offlineLaunchable

inductive WakePresenceDecision
  | noWake
  | coalesce
  | launch
deriving DecidableEq

def wakeDecisionForPresence (presence : RuntimePresenceState) (hasWakeLease : Bool) :
    WakePresenceDecision :=
  match presence with
  | .active | .idle | .offlineStoreOnly | .unavailable => .noWake
  | .starting => if hasWakeLease then .coalesce else .noWake
  | .offlineLaunchable => .launch

/-- A launch is decided on only without a runtime. -/
theorem runtime_of_launch {mode : ActivationPolicyMode} {presence : AssembledPresence}
    {hasWakeLease : Bool}
    (decided : wakeDecisionForPresence (classifyPresence mode presence) hasWakeLease = .launch) :
    presence.runtime = none := by
  cases running : presence.runtime with
  | none => rfl
  | some runtime =>
      have attached : ∀ workload, wakeDecisionForPresence
          (match workload with | Workload.processing => .active | .idle => .idle) hasWakeLease =
            .noWake := by
        intro workload
        cases workload <;> rfl
      unfold classifyPresence at decided
      rw [running] at decided
      exact absurd ((attached runtime.workload).symm.trans decided) (by decide)

end GptQueue.Wake
