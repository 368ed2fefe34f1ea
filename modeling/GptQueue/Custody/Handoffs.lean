import GptQueue.Custody.Runs

/-! # Handoffs

A claim of a released worktree carries the handoff it read. It is the one of the latest
release as long as no other release comes between the read and the write.
-/

namespace GptQueue.Custody

/-! ## The latest release -/

/-- Whether an event is a release of the worktree. -/
def Event.releases (path : String) : Event → Bool
  | .read _ => false
  | .wrote _ written _ record => written == path && record.state == .released

/-- Whether an event is a release of any worktree. -/
def Event.isRelease : Event → Bool
  | .read _ => false
  | .wrote _ _ _ record => record.state == .released

/-- The handoff of the latest release of a worktree, where `initially` is that of the
latest one before the log. -/
def lastHandoff (path : String) (initially : Option HandoffRecord) :
    List Event → Option HandoffRecord
  | [] => initially
  | .read _ :: older => lastHandoff path initially older
  | .wrote call written before record :: older =>
      if (Event.wrote call written before record).releases path then record.handoff
      else lastHandoff path initially older

section LastHandoff

variable {path : String} {initially : Option HandoffRecord} {log : List Event}

theorem lastHandoff_cons_of_not {event : Event} (other : event.releases path = false) :
    lastHandoff path initially (event :: log) = lastHandoff path initially log := by
  cases event with
  | read call => rfl
  | wrote call written before record =>
      rw [lastHandoff, other]
      rfl

theorem lastHandoff_append_of_not {newer : List Event}
    (others : ∀ event ∈ newer, event.releases path = false) :
    lastHandoff path initially (newer ++ log) = lastHandoff path initially log := by
  induction newer with
  | nil => rfl
  | cons event newer induction =>
      rw [List.cons_append, lastHandoff_cons_of_not (others event List.mem_cons_self)]
      exact induction fun other member => others other (List.mem_cons_of_mem event member)

end LastHandoff

/-! ## The condition -/

/-- The events since the latest read of a call. -/
def sinceRead (id : Nat) (log : List Event) : List Event := log.takeWhile (· != .read id)

/-- The log at the latest read of a call. -/
def atRead (id : Nat) (log : List Event) : List Event := log.dropWhile (· != .read id)

theorem atRead_read (id : Nat) (log : List Event) :
    atRead id (.read id :: log) = .read id :: log := by
  simp [atRead]

theorem atRead_cons_of_ne {id : Nat} {event : Event} {log : List Event}
    (other : event ≠ .read id) : atRead id (event :: log) = atRead id log := by
  exact List.dropWhile_cons_of_pos (bne_iff_ne.mpr other)

/-- A claim that found the worktree released writes before another release of it is
applied. -/
def ClaimsReadRelease : Condition World Input Command Reply Result :=
  fun world id _ command => ∀ path record expected,
    command = .conditionalSet path record expected → expected.met (world.field path) = true →
    record.mode = some .gracefulHandoff →
    ∀ event ∈ sinceRead id world.log, event.releases path = false

/-! ## The invariant -/

section Invariant

variable {initially : String → Option HandoffRecord} {world : World} {id : Nat}

/-- What is stored and what was claimed carries the handoff of the latest release. -/
structure Carried (initially : String → Option HandoffRecord) (world : World) : Prop where
  stored : ∀ path record, world.field path = some (.serialized record) →
    record.state = .released → record.handoff = lastHandoff path (initially path) world.log
  claimed : ∀ newer id path before record older,
    world.log = newer ++ .wrote id path before record :: older → record.state = .held →
    record.mode = some .gracefulHandoff →
    record.handoff = lastHandoff path (initially path) older

/-- A call that has just read a released record knows the handoff of that moment. -/
def Knows (initially : String → Option HandoffRecord) (world : World) (id : Nat)
    (call : Call Input Command Reply Result) : Prop :=
  ∀ path stored earlier, call.past = ⟨.hget path, some (.serialized stored)⟩ :: earlier →
    stored.state = .released →
    stored.handoff = lastHandoff path (initially path) (atRead id world.log)

theorem Carried.read (carried : Carried initially world) :
    Carried initially { world with log := .read id :: world.log } where
  stored path record found released := carried.stored path record found released
  claimed newer call path before record older split := by
    cases newer with
    | nil => cases split
    | cons event newer =>
        exact carried.claimed newer call path before record older (List.cons.inj split).2

/-- A write, where a graceful claim carries the latest handoff. -/
theorem Carried.write (carried : Carried initially world) {path : String} {record : CustodyRecord}
    (graceful : record.state = .held → record.mode = some .gracefulHandoff →
      record.handoff = lastHandoff path (initially path) world.log) :
    Carried initially (world.write id path record) where
  stored other found isFound released := by
    by_cases same : other = path
    · subst same
      rw [field_write_self] at isFound
      cases isFound
      have releases : (Event.wrote id other (world.field other) record).releases other = true := by
        simp [Event.releases, released]
      exact (if_pos releases).symm
    · rw [field_write_of_ne same] at isFound
      have elsewhere : (Event.wrote id path (world.field path) record).releases other = false := by
        simp [Event.releases, Ne.symm same]
      exact (carried.stored other found isFound released).trans
        (lastHandoff_cons_of_not elsewhere).symm
  claimed newer call other before found older split := by
    cases newer with
    | nil =>
        cases split
        exact graceful
    | cons event newer =>
        exact carried.claimed newer call other before found older (List.cons.inj split).2

theorem Knows.cons {call : Call Input Command Reply Result} {after : World}
    (knows : Knows initially world id call)
    (same : atRead id after.log = atRead id world.log) : Knows initially after id call := by
  intro path stored earlier isPast released
  rw [same]
  exact knows path stored earlier isPast released

theorem Knows.foreign {other : Nat} {call : Call Input Command Reply Result}
    (knows : Knows initially world other call) (different : other ≠ id) (command : Command) :
    Knows initially (serve id command world).2 other call := by
  have effect := serve_effect id world command
  generalize (serve id command world).2 = after at effect ⊢
  cases effect with
  | read =>
      apply knows.cons
      apply atRead_cons_of_ne
      intro same
      exact different (Event.read.inj same).symm
  | wrote isSet met => exact knows.cons (atRead_cons_of_ne Event.noConfusion)
  | refused => exact knows

/-- A read tells the call the latest handoff. -/
theorem Knows.served (carried : Carried initially world) {input : Input} {past : Past}
    {command : Command} {rest : Program Command Reply Result} :
    Knows initially (serve id command world).2 id
      ⟨input, ⟨command, (serve id command world).1⟩ :: past, rest⟩ := by
  intro path stored earlier isPast released
  rcases List.cons.inj isPast with ⟨isHead, -⟩
  rcases Sigma.mk.inj isHead with ⟨rfl, replied⟩
  have found : world.field path = some (.serialized stored) := eq_of_heq replied
  change stored.handoff = lastHandoff path (initially path) (atRead id (.read id :: world.log))
  rw [atRead_read]
  exact carried.stored path stored found released

/-- The write of a claim that keeps the condition. -/
theorem handoff_of_claims {claim : ClaimInput} {past : Past} {record : CustodyRecord}
    {expected : Precondition} {rest : Program Command Reply Result}
    (knows : Knows initially world id ⟨.claim claim, past, rest⟩)
    (claims : Claims claim past record expected)
    (fresh : ∀ event ∈ sinceRead id world.log,
      event.releases claim.worktree.worktreePath = false)
    (graceful : record.mode = some .gracefulHandoff) :
    record.handoff = lastHandoff claim.worktree.worktreePath
      (initially claim.worktree.worktreePath) world.log := by
  rcases claims.graceful graceful with ⟨-, stored, earlier, isPast, released, -, same⟩
  have splits : sinceRead id world.log ++ atRead id world.log = world.log :=
    List.takeWhile_append_dropWhile
  calc record.handoff = stored.handoff := same
    _ = lastHandoff _ (initially _) (atRead id world.log) :=
      knows _ stored earlier isPast released
    _ = lastHandoff _ (initially _) (sinceRead id world.log ++ atRead id world.log) :=
      (lastHandoff_append_of_not fresh).symm
    _ = lastHandoff _ (initially _) world.log := by rw [splits]

theorem Carried.served (carried : Carried initially world) {input : Input} {past : Past}
    {command : Command} {next : Reply command → Program Command Reply Result}
    (knows : Knows initially world id ⟨input, past, .call command next⟩)
    (meets : ClaimsReadRelease world id ⟨input, past, .call command next⟩ command)
    (asks : Asks input past command) : Carried initially (serve id command world).2 := by
  have effect := serve_effect id world command
  generalize (serve id command world).2 = after at effect ⊢
  cases effect with
  | read => exact carried.read
  | refused => exact carried
  | @wrote path record expected isSet met =>
      subst isSet
      apply carried.write
      intro held graceful
      cases asks with
      | forfeits state =>
          rw [state] at held
          cases held
      | persists persists =>
          cases persists with
          | claims isClaim claims =>
              subst isClaim
              exact handoff_of_claims knows claims (meets _ record expected rfl met graceful)
                graceful
          | releases isRelease state =>
              rw [state] at held
              cases held

theorem preserves_carried (initially : String → Option HandoffRecord) :
    Protocol.Preserves custodyProtocol
      (fun world id call command => ClaimsReadRelease world id call command ∧
        Asks call.input call.past command)
      (Carried initially) (Knows initially) (fun _ _ => True) where
  opened _ _ _ path stored earlier isPast := by cases isPast
  served carried knows meets :=
    ⟨carried.served knows meets.1 meets.2, Knows.served carried,
      fun other different => ⟨fun call kept => kept.foreign different _, fun _ => trivial⟩⟩
  moved carried moves := by
    cases moves with
    | ticked clock later =>
        exact ⟨⟨carried.stored, carried.claimed⟩,
          fun id => ⟨fun call knows => knows, fun _ => trivial⟩⟩

end Invariant

/-- Nothing was done yet, and a released worktree was released with the given handoff. -/
structure Settled (initially : String → Option HandoffRecord) (world : World) : Prop where
  log : world.log = []
  released : ∀ path record, world.field path = some (.serialized record) →
    record.state = .released → record.handoff = initially path

/-- The record of a graceful claim, as returned and as stored, carries the handoff of the
latest release before its write. -/
def CarriesHandoff (initially : String → Option HandoffRecord) (system : CustodySystem) : Prop :=
  ∀ id claim past record, system.calls id = some ⟨.claim claim, past, .done (.ok record)⟩ →
    record.mode = some .gracefulHandoff →
    ∃ newer before older handoff,
      system.world.log =
        newer ++ .wrote id claim.worktree.worktreePath before record :: older ∧
      record.handoff = some handoff ∧
      lastHandoff claim.worktree.worktreePath (initially claim.worktree.worktreePath) older =
        some handoff

theorem no_handoff_lost (initially : String → Option HandoffRecord) (system : CustodySystem)
    (reached : custodyProtocol.Reachable ClaimsReadRelease (Settled initially) system) :
    CarriesHandoff initially system := by
  intro id claim past record ended graceful
  rcases claimed_of_reachable reached ended with ⟨before, earlier, expected, logged, claims⟩
  rcases List.append_of_mem logged with ⟨newer, older, split⟩
  have holds := (reached.asking follows_program).invariant
    (fun world settled => ⟨⟨fun path found isFound released => by
      rw [settled.log]
      exact settled.released path found isFound released,
      fun newer id path before record older split => by
        rw [settled.log] at split
        cases newer <;> cases split⟩, fun _ => trivial⟩)
    (preserves_carried initially)
  have carried := holds.shared.claimed newer id _ before record older split claims.state graceful
  rcases claims.graceful graceful with ⟨-, stored, -, -, -, given, same⟩
  rcases Option.isSome_iff_exists.mp given with ⟨handoff, isHandoff⟩
  refine ⟨newer, before, older, handoff, split, same.trans isHandoff, ?_⟩
  rw [← carried, same, isHandoff]

/-! ## Schedules -/

section Schedules

/-- Every run. -/
def anyStep : Condition World Input Command Reply Result := fun _ _ _ _ => True

def advances (system : CustodySystem) (id count : Nat) : CustodySystem :=
  (fun before => custodyProtocol.advance before id)^[count] system

def sampleWorktree : WorktreeIdentity := ⟨"/w", "head", "tree"⟩

def sampleHandoff (nextStep : String) : HandoffRecord :=
  ⟨.origin, "head", .clean, [], "rest", [], nextStep⟩

/-- The handoff as the release tool sends it. -/
def sampleDocument (nextStep : String) : Json :=
  .object [("schema_version", .number Numeral.one), ("authored_by", .string "origin"),
    ("repo_head", .string "head"), ("tracked_tree_state", .string "clean"),
    ("untracked_inventory", .array []), ("unfinished_work", .string "rest"),
    ("hazards", .array []), ("next_step", .string nextStep)]

def sampleClaim (session : String) (now : Int) : ClaimInput :=
  ⟨sampleWorktree, 10, ["f"], ⟨"a" ++ session, session⟩, .instant now⟩

def sampleRelease (session nextStep : String) (now : Int) : ReleaseInput :=
  ⟨"/w", session, sampleDocument nextStep, .instant now⟩

/-- The worktree was released with a first handoff. -/
def releasedWorld : World :=
  ⟨[("/w", .serialized ⟨.released, sampleWorktree, none, none, none, none,
    some (sampleHandoff "first")⟩)], 0, []⟩

def firstHandoff (path : String) : Option HandoffRecord :=
  if path = "/w" then some (sampleHandoff "first") else none

theorem releasedWorld_settled : Settled firstHandoff releasedWorld where
  log := rfl
  released path record found released := by
    by_cases same : path = "/w"
    · subst same
      cases found
      rfl
    · have skipped : (path == "/w") = false := beq_eq_false_iff_ne.mpr same
      rw [World.field, releasedWorld, List.lookup_cons, skipped] at found
      cases found

/-- A first claim has read the released record. -/
def readReleased : CustodySystem :=
  advances (custodyProtocol.start ⟨releasedWorld, fun _ => none⟩ 0 (.claim (sampleClaim "s" 0))) 0 1

/-- Another session claims and releases in between. -/
def releasedAgain : CustodySystem :=
  advances (custodyProtocol.start
    (advances (custodyProtocol.start readReleased 1 (.claim (sampleClaim "t" 0))) 1 2) 2
    (.release (sampleRelease "t" "second" 0))) 2 2

def claimedStale : CustodySystem := advances releasedAgain 0 1

theorem opens_claim {world : World} {session : String} {now : Int} (isNow : world.clock = now) :
    custodyProtocol.opens world (.claim (sampleClaim session now)) := by
  refine ⟨congrArg Timestamp.instant isNow.symm, fun released same => ?_⟩
  cases same

theorem opens_release {world : World} {session nextStep : String} {now : Int}
    (isNow : world.clock = now) (named : session ≠ "") :
    custodyProtocol.opens world (.release (sampleRelease session nextStep now)) := by
  refine ⟨congrArg Timestamp.instant isNow.symm, fun released same => ?_⟩
  cases same
  exact named

theorem claimedStale_reachable :
    custodyProtocol.Reachable anyStep (Settled firstHandoff) claimedStale := by
  have always : ∀ world id call command, anyStep world id call command := fun _ _ _ _ => trivial
  have begun : custodyProtocol.Reachable anyStep (Settled firstHandoff)
      ⟨releasedWorld, fun _ => none⟩ := Protocol.Reachable.init releasedWorld_settled
  have read :=
    (begun.start 0 (.claim (sampleClaim "s" 0)) rfl (opens_claim rfl)).advances 0 1 always
  have claimed := (read.start 1 (.claim (sampleClaim "t" 0)) rfl (opens_claim rfl)).advances 1 2
    always
  have released := (claimed.start 2 (.release (sampleRelease "t" "second" 0)) rfl
    (opens_release rfl (by decide))).advances 2 2 always
  exact released.advances 0 1 always

/-- The record of the stale claim. -/
def staleRecord : CustodyRecord :=
  ⟨.held, sampleWorktree, some ⟨"as", "s"⟩, some .gracefulHandoff, some (.instant 0),
    some (.instant 10000), some (sampleHandoff "first")⟩

/-- A claim that has ended well, with its record. -/
def claimedBy (system : CustodySystem) (id : Nat) : Option (ClaimInput × CustodyRecord) :=
  match system.calls id with
  | some ⟨.claim claim, _, .done (.ok record)⟩ => some (claim, record)
  | _ => none

theorem calls_of_claimedBy {system : CustodySystem} {id : Nat} {claim : ClaimInput}
    {record : CustodyRecord} (claimed : claimedBy system id = some (claim, record)) :
    ∃ past, system.calls id = some ⟨.claim claim, past, .done (.ok record)⟩ := by
  unfold claimedBy at claimed
  split at claimed
  · next running =>
      cases claimed
      exact ⟨_, running⟩
  · cases claimed

theorem claimedStale_ended : claimedBy claimedStale 0 = some (sampleClaim "s" 0, staleRecord) := by
  decide +kernel

theorem claimedStale_log : ∃ before, claimedStale.world.log =
    .wrote 0 "/w" before staleRecord :: releasedAgain.world.log :=
  ⟨releasedAgain.world.field "/w", by decide +kernel⟩

/-- A released worktree is claimed and released by another session between the read of a
claim and its write. -/
theorem handoff_lost :
    ¬∀ initially system, custodyProtocol.Reachable anyStep (Settled initially) system →
      CarriesHandoff initially system := by
  intro carries
  rcases calls_of_claimedBy claimedStale_ended with ⟨past, ended⟩
  rcases carries firstHandoff claimedStale claimedStale_reachable 0 _ past _ ended rfl with
    ⟨newer, before, older, handoff, split, carried, latest⟩
  rcases claimedStale_log with ⟨stored, isLog⟩
  rw [isLog] at split
  cases newer with
  | nil =>
      rcases List.cons.inj split with ⟨-, rfl⟩
      have second : lastHandoff "/w" (firstHandoff "/w") releasedAgain.world.log =
          some (sampleHandoff "second") := by decide +kernel
      have same : staleRecord.handoff = some (sampleHandoff "second") :=
        carried.trans (latest.symm.trans second)
      exact absurd same (by decide)
  | cons event newer =>
      have member : .wrote 0 "/w" before staleRecord ∈ releasedAgain.world.log := by
        rw [(List.cons.inj split).2]
        exact List.mem_append_right newer List.mem_cons_self
      have absent : ∀ event ∈ releasedAgain.world.log, ∀ before,
          event ≠ .wrote 0 "/w" before staleRecord := by
        have others : releasedAgain.world.log.all
            (fun | .read _ => true | .wrote call _ _ _ => call != 0) = true := by decide +kernel
        intro event member before same
        subst same
        exact Bool.false_ne_true (List.all_eq_true.mp others _ member)
      exact absent _ member before rfl

/-- One claim of the released worktree, without another release in between. -/
def claimedFresh : CustodySystem := advances readReleased 0 1

theorem claimedFresh_reachable :
    custodyProtocol.Reachable ClaimsReadRelease (Settled firstHandoff) claimedFresh := by
  have begun : custodyProtocol.Reachable ClaimsReadRelease (Settled firstHandoff)
      (custodyProtocol.start ⟨releasedWorld, fun _ => none⟩ 0 (.claim (sampleClaim "s" 0))) :=
    (Protocol.Reachable.init releasedWorld_settled).start 0 _ rfl (opens_claim rfl)
  have unreleased : ∀ earlier < 2, ((advances (custodyProtocol.start ⟨releasedWorld, fun _ => none⟩ 0
      (.claim (sampleClaim "s" 0))) 0 earlier).world.log.all fun event =>
        !event.isRelease) = true := by
    decide +kernel
  apply begun.advances_of 0 2
  intro earlier less call command _ next path record expected isSet met graceful event since
  have member := (List.takeWhile_prefix _).subset since
  have kept := List.all_eq_true.mp (unreleased earlier less) event member
  cases event with
  | read call => rfl
  | wrote call written before found =>
      have other : (found.state == .released) = false := by simpa [Event.isRelease] using kept
      simp [Event.releases, other]

theorem claimedFresh_carries :
    ∃ newer before older handoff,
      claimedFresh.world.log = newer ++ .wrote 0 "/w" before staleRecord :: older ∧
        staleRecord.handoff = some handoff ∧ lastHandoff "/w" (firstHandoff "/w") older =
          some handoff := by
  have claimed : claimedBy claimedFresh 0 = some (sampleClaim "s" 0, staleRecord) := by
    decide +kernel
  rcases calls_of_claimedBy claimed with ⟨past, ended⟩
  exact no_handoff_lost firstHandoff claimedFresh claimedFresh_reachable 0 _ past _ ended rfl

end Schedules

end GptQueue.Custody
