import GptQueue.Claims.Store
import GptQueue.Sessions.PresenceBatch
import GptQueue.Wake.System

/-! # Workload

The presence of an actor carries the workload of one of its live sessions, the first one
that the session set lists.
-/

namespace GptQueue.Workload

open Redis Wake
open Claims (TaskClaim parseTaskClaim)

/-- What the runtime of a presence is read from. -/
structure Observed where
  keyspace : Keyspace Key
  /-- What `TTL` of the lease of a session answers. -/
  ttl : String → Int
  /-- `new Date().toISOString()`. -/
  now : String

section Claims

/-! A key of another type reads as empty here, and its claims as none. The code is idle for
the error as well. -/

variable (dateParse : String → Option Int) (observed : Observed) (actorId : String)

/-- `Number.isNaN(expiresMs) || nowMs >= expiresMs`. -/
def isPast (expiresAt : String) : Bool :=
  match dateParse expiresAt, dateParse observed.now with
  | none, _ => true
  | some _, none => false
  | some expiresMs, some nowMs => decide (expiresMs ≤ nowMs)

def isActive (sessionId : String) (claim : TaskClaim) : Bool :=
  claim.actorId == actorId && claim.sessionId == sessionId &&
    !isPast dateParse observed claim.expiresAt

def activeClaimFor (sessionId : String) : Option TaskClaim :=
  let members := sortedMembers (observed.keyspace.scores (.claimsIndex actorId))
  let raws := members.map fun claimId => (observed.keyspace.fields .claims).lookup claimId
  raws.findSome? fun raw =>
    (raw.bind parseTaskClaim).filter (isActive dateParse observed actorId sessionId)

def workloadForSession (sessionId : String) : Workload :=
  if (activeClaimFor dateParse observed actorId sessionId).isSome then .processing else .idle

/-- The live sessions of the actor, in the order of its session set. -/
def liveSessions : List String :=
  PresenceBatch.liveSessions (fun name => observed.keyspace.members (.agentSessions name))
    observed.ttl actorId

/-- The server as the calls of the wake gate find it. -/
def Observed.world (base : World) : World :=
  { base with
    members := observed.keyspace.members (.agentSessions actorId)
    live := liveSessions observed actorId
    workload := workloadForSession dateParse observed actorId }

/-- The presence that one call assembles while nothing changes. -/
def assembled (uuid : Nat → String) (id : Nat) (base : World) (record : ActorDirectoryRecord) :
    AssembledPresence :=
  ((assemblePresenceInput record).run (serve uuid id) (observed.world dateParse actorId base)).1

/-! ## What the workload is to say -/

/-- The date has not come at `now`. -/
def Unexpired (expiresAt : String) : Prop :=
  ∃ expiresMs, dateParse expiresAt = some expiresMs ∧
    ∀ nowMs, dateParse observed.now = some nowMs → nowMs < expiresMs

/-- An outstanding claim of the actor that the session owns and that has not expired. -/
structure Holds (sessionId claimId : String) (claim : TaskClaim) : Prop where
  indexed : claimId ∈ observed.keyspace.scores (.claimsIndex actorId)
  stored : ∃ raw, (observed.keyspace.fields .claims).lookup claimId = some raw ∧
    parseTaskClaim raw = some claim
  actor : claim.actorId = actorId
  owner : claim.sessionId = sessionId
  unexpired : Unexpired dateParse observed claim.expiresAt

def Works (sessionId : String) : Prop :=
  ∃ claimId claim, Holds dateParse observed actorId sessionId claimId claim

/-- The workload of a presence says whether a live session works. -/
def Exact (presence : AssembledPresence) : Prop :=
  (presence.runtime.map RuntimeIncarnation.workload = some .processing ↔
    ∃ sessionId ∈ liveSessions observed actorId, Works dateParse observed actorId sessionId) ∧
  (presence.runtime.map RuntimeIncarnation.workload = some .idle ↔
    liveSessions observed actorId ≠ [] ∧
      ∀ sessionId ∈ liveSessions observed actorId, ¬Works dateParse observed actorId sessionId)

end Claims

/-! ## The first live session -/

section Presence

variable {dateParse : String → Option Int} {observed : Observed} {actorId : String}

theorem isPast_eq_false {expiresAt : String} :
    isPast dateParse observed expiresAt = false ↔ Unexpired dateParse observed expiresAt := by
  unfold isPast Unexpired
  cases dateParse expiresAt with
  | none => simp
  | some expiresMs =>
      cases dateParse observed.now with
      | none => simp
      | some nowMs => simp

theorem activeClaimFor_isSome {sessionId : String} :
    (activeClaimFor dateParse observed actorId sessionId).isSome = true ↔
      Works dateParse observed actorId sessionId := by
  unfold activeClaimFor
  rw [List.findSome?_isSome_iff]
  constructor
  · intro found
    rcases found with ⟨raw, member, kept⟩
    rcases List.mem_map.mp member with ⟨claimId, indexed, rfl⟩
    rcases Option.isSome_iff_exists.mp kept with ⟨claim, kept⟩
    rcases Option.filter_eq_some_iff.mp kept with ⟨parsed, active⟩
    rcases Option.bind_eq_some_iff.mp parsed with ⟨raw, stored, parsed⟩
    simp only [isActive, Bool.and_eq_true, beq_iff_eq, Bool.not_eq_true'] at active
    exact ⟨claimId, claim, mem_sortedMembers.mp indexed, ⟨raw, stored, parsed⟩, active.1.1,
      active.1.2, isPast_eq_false.mp active.2⟩
  · intro works
    rcases works with ⟨claimId, claim, holds⟩
    rcases holds.stored with ⟨raw, stored, parsed⟩
    refine ⟨some raw, List.mem_map.mpr ⟨claimId, mem_sortedMembers.mpr holds.indexed, stored⟩, ?_⟩
    have active : isActive dateParse observed actorId sessionId claim = true := by
      simp only [isActive, Bool.and_eq_true, beq_iff_eq, Bool.not_eq_true']
      exact ⟨⟨holds.actor, holds.owner⟩, isPast_eq_false.mpr holds.unexpired⟩
    rw [Option.bind_some, parsed, Option.filter_some, if_pos active]
    rfl

theorem workloadForSession_eq_processing {sessionId : String} :
    workloadForSession dateParse observed actorId sessionId = .processing ↔
      Works dateParse observed actorId sessionId := by
  rw [← activeClaimFor_isSome]
  unfold workloadForSession
  split
  · next active => exact ⟨fun _ => active, fun _ => rfl⟩
  · next idle => exact ⟨fun same => absurd same (by decide), fun active => absurd active idle⟩

theorem workloadForSession_eq_idle {sessionId : String} :
    workloadForSession dateParse observed actorId sessionId = .idle ↔
      ¬Works dateParse observed actorId sessionId := by
  rw [← workloadForSession_eq_processing]
  cases workloadForSession dateParse observed actorId sessionId <;> decide

/-- The leases are asked for one after the other while nothing changes. -/
theorem run_activeSessions (uuid : Nat → String) (id : Nat) (members : List String)
    (world : World) :
    (activeSessions members).run (serve uuid id) world =
      (members.filter fun sessionId => decide (sessionId ∈ world.live), world) := by
  induction members with
  | nil => rfl
  | cons sessionId rest induction =>
      unfold activeSessions
      rw [Program.ask_bind, Program.run_call, Program.run_bind]
      simp only [serve]
      rw [induction]
      by_cases alive : sessionId ∈ world.live <;> simp [alive]

variable (uuid : Nat → String) (id : Nat) (base : World) (record : ActorDirectoryRecord)

theorem run_getPresence :
    Wake.getPresence.run (serve uuid id) (observed.world dateParse actorId base) =
      (liveSessions observed actorId,
        { observed.world dateParse actorId base with log := .looked id :: base.log }) := by
  unfold Wake.getPresence
  rw [Program.ask_bind, Program.run_call, run_activeSessions]
  have listed : ∀ sessionId ∈ observed.keyspace.members (.agentSessions actorId),
      decide (sessionId ∈ liveSessions observed actorId) =
        decide (0 < observed.ttl sessionId) := by
    intro sessionId member
    simp [liveSessions, PresenceBatch.liveSessions, member]
  exact Prod.ext (List.filter_congr listed) rfl

/-- The runtime is the first live session with its own workload. -/
theorem runtime_assembled :
    (assembled dateParse observed actorId uuid id base record).runtime =
      (liveSessions observed actorId).head?.map fun sessionId =>
        ⟨sessionId, workloadForSession dateParse observed actorId sessionId⟩ := by
  unfold assembled assemblePresenceInput
  rw [Program.run_bind, run_getPresence]
  cases liveSessions observed actorId with
  | cons first rest => rfl
  | nil =>
      dsimp only
      rw [Program.run_bind]
      split
      · rfl
      · rfl

/-- The workload is exact when the first live session works or none does. -/
theorem exact_assembled_iff :
    Exact dateParse observed actorId
        (assembled dateParse observed actorId uuid id base record) ↔
      ∀ first ∈ (liveSessions observed actorId).head?,
        Works dateParse observed actorId first ∨
          ∀ sessionId ∈ liveSessions observed actorId,
            ¬Works dateParse observed actorId sessionId := by
  unfold Exact
  rw [runtime_assembled]
  cases live : liveSessions observed actorId with
  | nil => simp
  | cons first rest =>
      simp only [List.head?_cons, Option.map_some, Option.some.injEq, Option.mem_def,
        workloadForSession_eq_processing, workloadForSession_eq_idle, forall_eq']
      constructor
      · intro holds
        by_cases works : Works dateParse observed actorId first
        · exact Or.inl works
        · exact Or.inr (holds.2.mp works).2
      · intro condition
        rcases condition with works | none
        · constructor
          · exact ⟨fun _ => ⟨first, List.mem_cons_self, works⟩, fun _ => works⟩
          · constructor
            · intro idle
              exact absurd works idle
            · intro idle
              exact idle.2 first List.mem_cons_self
        · constructor
          · constructor
            · intro works
              exact absurd works (none first List.mem_cons_self)
            · intro owner
              rcases owner with ⟨sessionId, member, works⟩
              exact absurd works (none sessionId member)
          · exact ⟨fun _ => ⟨List.cons_ne_nil first rest, none⟩,
              fun _ => none first List.mem_cons_self⟩

end Presence

/-! ## Two sessions of one actor -/

def claimOfSecond : String :=
  "\x7b\"claim_id\":\"c\",\"actor_id\":\"a\",\"session_id\":\"s2\"," ++
    "\"claimed_at\":\"1970-01-01T00:00:00.000Z\"," ++
    "\"expires_at\":\"1970-01-01T00:01:00.000Z\",\"tasks\":[\"m\"]\x7d"

/-- The second of two live sessions has claimed a task. -/
def secondWorks : Observed where
  keyspace := ((Keyspace.empty.store (.agentSessions "a") (some (.set ["s1", "s2"]))).store
    (.claimsIndex "a") (some (.zset (AList.singleton "c" 60000)))).store
    .claims (some (.hash (AList.singleton "c" claimOfSecond)))
  ttl _ := 30
  now := "1970-01-01T00:00:00.000Z"

/-- Nothing of the actor besides. -/
def unattended : World where
  key := none
  directory := .ok none
  records := []
  members := []
  live := []
  workload _ := .idle
  alive _ := false
  outcome := .failed ""
  log := []

theorem liveSessions_secondWorks : liveSessions secondWorks "a" = ["s1", "s2"] := by decide

/-- The presence is of the first session, which is idle. -/
theorem secondWorks_not_exact :
    ¬Exact IsoDate.dateParse secondWorks "a"
      (assembled IsoDate.dateParse secondWorks "a" (fun _ => "") 0 unattended
        ⟨.storeOnly, none⟩) := by
  intro holds
  have works : Works IsoDate.dateParse secondWorks "a" "s2" :=
    activeClaimFor_isSome.mp (by decide +kernel)
  have live : "s2" ∈ liveSessions secondWorks "a" := by
    rw [liveSessions_secondWorks]
    decide
  have processing := holds.1.mpr ⟨"s2", live, works⟩
  rw [runtime_assembled, liveSessions_secondWorks] at processing
  have idle : workloadForSession IsoDate.dateParse secondWorks "a" "s1" = .idle := by
    decide +kernel
  simp [idle] at processing

end GptQueue.Workload
