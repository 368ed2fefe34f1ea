import GptQueue.Custody.Handoffs

/-! # Exclusive custody

A hold lasts until its lease ends, unless a call that read an earlier, expired hold
forfeits it. Where every forfeiture finds an expired hold, custody is exclusive.
-/

namespace GptQueue.Custody

/-! ## Events on one worktree -/

namespace Event

/-- The event is a claim of the worktree. -/
def Claimed (path : String) (record : CustodyRecord) (event : Event) : Prop :=
  record.state = .held ∧ ∃ call before, event = .wrote call path before record

/-- The event releases a hold of the session. -/
def Frees (path session : String) (event : Event) : Prop :=
  ∃ call stored record, event = .wrote call path (some stored) record ∧
    record.state = .released ∧ stored.session = some session

/-- The event forfeits the hold. -/
def Forfeits (path : String) (hold : CustodyRecord) (event : Event) : Prop :=
  ∃ call record, event = .wrote call path (some (.serialized hold)) record ∧
    record.state = .forfeited

end Event

/-! ## The condition -/

/-- Whether the lease of a hold, if it can be read, ended before `now`. -/
def Stored.expired (stored : Stored) (now : Timestamp) : Bool :=
  match stored with
  | .foreign _ _ => true
  | .serialized hold =>
      match hold.leaseEnd, now.parse with
      | some lease, some now => lease < now
      | _, _ => true

/-- Whether an event is no forfeiture of a hold by another session, or the hold ended
before `now`. -/
def Event.outlasts (path : String) (session : Option String) (now : Timestamp) : Event → Bool
  | .read _ => true
  | .wrote _ _ none _ => true
  | .wrote _ written (some stored) record =>
      written != path || record.state != .forfeited || stored.session == session ||
        stored.expired now

/-- A forfeiture finds an expired hold, and a claim is not older than the end of a hold
that another session has forfeited. -/
def ForfeitsExpired : Condition World Input Command Reply Result :=
  fun world _ call command => ∀ path record expected,
    command = .conditionalSet path record expected → expected.met (world.field path) = true →
    (record.state = .forfeited →
      ∀ stored, world.field path = some stored → stored.expired call.input.now = true) ∧
    (record.state = .held →
      ∀ event ∈ world.log, event.outlasts path record.session call.input.now = true)

/-! ## The invariant -/

/-- The hold ended and was forfeited, and others claimed only after its end. -/
structure Ended (world : World) (path : String) (record : CustodyRecord) (lease : Int)
    (newer : List Event) : Prop where
  forfeited : ∃ event ∈ newer, event.Forfeits path record
  past : lease < world.clock
  later : ∀ event ∈ newer, ∀ other, event.Claimed path other → other.session ≠ record.session →
    ∀ now, other.acquiredAt = some (.instant now) → lease < now

/-- The hold is stored and nobody has claimed since, or it has ended. -/
def Stands (world : World) (path : String) (record : CustodyRecord) (lease : Int)
    (newer : List Event) : Prop :=
  (world.field path = some (.serialized record) ∧
    ∀ event ∈ newer, ∀ other, ¬event.Claimed path other) ∨
  Ended world path record lease newer

/-- Every hold stands until its session releases it. -/
def Guarded (world : World) : Prop :=
  ∀ newer id path before record older session lease,
    world.log = newer ++ .wrote id path before record :: older → record.state = .held →
    record.session = some session → record.leaseEnd = some lease →
    (∀ event ∈ newer, ¬event.Frees path session) → Stands world path record lease newer

/-- What a call knows of its input, and that its releases are of its own session. -/
structure Timely (world : World) (id : Nat) (call : Call Input Command Reply Result) : Prop where
  now : ∃ now, call.input.now = .instant now ∧ now ≤ world.clock
  session : ∀ released, call.input = .release released → released.sessionId ≠ ""
  releases : ∀ path stored record, .wrote id path (some stored) record ∈ world.log →
    record.state = .released →
    ∃ released, call.input = .release released ∧ stored.session = some released.sessionId

/-- A number without a call has written nothing. -/
def Silent (world : World) (id : Nat) : Prop :=
  ∀ path before record, .wrote id path before record ∉ world.log

section Invariant

variable {world : World} {id : Nat}

theorem Ended.cons {after : World} {path : String} {record : CustodyRecord} {lease : Int}
    {newer : List Event} {event : Event} (ended : Ended world path record lease newer)
    (later : world.clock ≤ after.clock)
    (claims : ∀ other, event.Claimed path other → other.session ≠ record.session →
      ∀ now, other.acquiredAt = some (.instant now) → lease < now) :
    Ended after path record lease (event :: newer) where
  forfeited := by
    rcases ended.forfeited with ⟨found, member, forfeits⟩
    exact ⟨found, List.mem_cons_of_mem event member, forfeits⟩
  past := lt_of_lt_of_le ended.past later
  later found member := by
    rcases List.mem_cons.mp member with rfl | older
    · exact claims
    · exact ended.later found older

/-- An event that says nothing of the worktree. -/
theorem Stands.cons {after : World} {path : String} {record : CustodyRecord} {lease : Int}
    {newer : List Event} {event : Event} (stands : Stands world path record lease newer)
    (same : after.field path = world.field path) (later : world.clock ≤ after.clock)
    (other : ∀ found, ¬event.Claimed path found) :
    Stands after path record lease (event :: newer) := by
  rcases stands with ⟨stored, unclaimed⟩ | ended
  · left
    refine ⟨same.trans stored, fun found member => ?_⟩
    rcases List.mem_cons.mp member with rfl | older
    · exact other
    · exact unclaimed found older
  · right
    exact ended.cons later fun found claimed => absurd claimed (other found)

theorem Guarded.read (guarded : Guarded world) :
    Guarded { world with log := .read id :: world.log } := by
  intro newer call path before record older session lease split held named ends unreleased
  cases newer with
  | nil => cases split
  | cons event newer =>
      rcases List.cons.inj split with ⟨rfl, rest⟩
      have stands := guarded newer call path before record older session lease rest held named ends
        fun other member => unreleased other (List.mem_cons_of_mem _ member)
      refine stands.cons rfl le_rfl fun found claimed => ?_
      rcases claimed.2 with ⟨_, _, same⟩
      cases same

/-- A write that keeps what stands. -/
theorem Guarded.write (guarded : Guarded world) {path : String} {record : CustodyRecord}
    (keeps : ∀ newer older hold session lease, world.log = newer ++ older →
      hold.session = some session → hold.leaseEnd = some lease → hold.state = .held →
      ¬(Event.wrote id path (world.field path) record).Frees path session →
      Stands world path hold lease newer →
      Stands (world.write id path record) path hold lease
        (.wrote id path (world.field path) record :: newer)) :
    Guarded (world.write id path record) := by
  intro newer call other before hold older session lease split held named ends unreleased
  cases newer with
  | nil =>
      cases split
      left
      exact ⟨field_write_self, fun event member => absurd member List.not_mem_nil⟩
  | cons event newer =>
      rcases List.cons.inj split with ⟨rfl, rest⟩
      have stands := guarded newer call other before hold older session lease rest held named ends
        fun event member => unreleased event (List.mem_cons_of_mem _ member)
      by_cases same : other = path
      · subst same
        exact keeps newer _ hold session lease rest named ends held
          (unreleased _ List.mem_cons_self) stands
      · refine stands.cons (field_write_of_ne same) le_rfl fun found claimed => ?_
        rcases claimed.2 with ⟨_, _, equal⟩
        cases equal
        exact same rfl

/-- A write that is no claim. -/
theorem not_claimed_of_state {path other : String} {before : Option Stored}
    {record found : CustodyRecord} (notHeld : record.state ≠ .held) :
    ¬(Event.wrote id path before record).Claimed other found := by
  intro claimed
  rcases claimed with ⟨held, _, _, same⟩
  cases same
  exact notHeld held

section Writes

variable {path : String} {record hold : CustodyRecord} {lease : Int} {newer : List Event}

/-- The forfeiture of an expired hold. -/
theorem Stands.forfeited (stands : Stands world path hold lease newer)
    (ends : hold.leaseEnd = some lease) (state : record.state = .forfeited) {now : Int}
    (expired : ∀ stored, world.field path = some stored → stored.expired (.instant now) = true)
    (past : now ≤ world.clock) :
    Stands (world.write id path record) path hold lease
      (.wrote id path (world.field path) record :: newer) := by
  have unclaimed : ∀ found,
      ¬(Event.wrote id path (world.field path) record).Claimed path found := by
    intro found
    apply not_claimed_of_state
    rw [state]
    exact CustodyState.noConfusion
  right
  rcases stands with ⟨stored, others⟩ | ended
  · have before : lease < now := by
      have found := expired _ stored
      simpa [Stored.expired, ends, Timestamp.parse] using found
    refine ⟨⟨_, List.mem_cons_self, id, record, by rw [stored], state⟩, lt_of_lt_of_le before past,
      fun event member other claimed => ?_⟩
    rcases List.mem_cons.mp member with rfl | older
    · exact absurd claimed (unclaimed other)
    · exact absurd claimed (others event older other)
  · exact ended.cons le_rfl fun found claimed => absurd claimed (unclaimed found)

/-- A claim does not replace a hold. -/
theorem Claims.not_met {claim : ClaimInput} {past : Past} {expected : Precondition}
    (claims : Claims claim past record expected) (held : hold.state = .held) :
    expected.met (some (.serialized hold)) = false := by
  cases expected with
  | absent =>
      simp [Precondition.met, Stored.state, held, CustodyState.text]
  | state required session =>
      have different : required ≠ .held := by
        intro same
        subst same
        exact claims.vacant session rfl
      have texts : CustodyState.held.text ≠ required.text := fun same =>
        different (CustodyState.text_injective same).symm
      simp [Precondition.met, Stored.state, held, texts]

/-- A claim after the end of the hold. -/
theorem Stands.claimed (stands : Stands world path hold lease newer)
    (ends : hold.leaseEnd = some lease) (held : hold.state = .held) {claim : ClaimInput}
    {past : Past} {expected : Precondition} (claims : Claims claim past record expected)
    (met : expected.met (world.field path) = true) {older : List Event}
    (split : world.log = newer ++ older)
    (outlasts : ∀ event ∈ world.log, event.outlasts path record.session claim.now = true) :
    Stands (world.write id path record) path hold lease
      (.wrote id path (world.field path) record :: newer) := by
  rcases stands with ⟨stored, -⟩ | ended
  · rw [stored, claims.not_met held] at met
    cases met
  · right
    refine ended.cons le_rfl fun found claimed other now acquired => ?_
    rcases claimed.2 with ⟨_, _, same⟩
    cases same
    rcases ended.forfeited with ⟨event, member, call, forfeiture, rfl, state⟩
    have shown := outlasts _ (split ▸ List.mem_append_left older member)
    have isNow : claim.now = .instant now := Option.some.inj (claims.acquiredAt.symm.trans acquired)
    simpa [Event.outlasts, state, Stored.session, Ne.symm other, Stored.expired, ends, isNow,
      Timestamp.parse] using shown

/-- A release frees the hold. -/
theorem Stands.released (stands : Stands world path hold lease newer) {session : String}
    (named : hold.session = some session) (state : record.state = .released)
    (unreleased : ¬(Event.wrote id path (world.field path) record).Frees path session) :
    Stands (world.write id path record) path hold lease
      (.wrote id path (world.field path) record :: newer) := by
  rcases stands with ⟨stored, -⟩ | ended
  · exact absurd ⟨id, .serialized hold, record, by rw [stored], state, named⟩ unreleased
  · right
    have notHeld : record.state ≠ .held := by
      rw [state]
      exact CustodyState.noConfusion
    exact ended.cons le_rfl fun found claimed => absurd claimed (not_claimed_of_state notHeld)

end Writes

theorem Guarded.served (guarded : Guarded world) {input : Input} {past : Past}
    {command : Command} {next : Reply command → Program Command Reply Result}
    (timely : Timely world id ⟨input, past, .call command next⟩)
    (meets : ForfeitsExpired world id ⟨input, past, .call command next⟩ command)
    (asks : Asks input past command) : Guarded (serve id command world).2 := by
  have effect := serve_effect id world command
  generalize (serve id command world).2 = after at effect ⊢
  cases effect with
  | read => exact guarded.read
  | refused => exact guarded
  | @wrote path record expected isSet met =>
      subst isSet
      rcases meets path record expected rfl met with ⟨expired, outlasts⟩
      apply guarded.write
      intro newer older hold session lease split named ends held unreleased stands
      cases asks with
      | forfeits state =>
          rcases timely.now with ⟨now, isNow, past⟩
          have found := expired state
          dsimp only at isNow found
          rw [isNow] at found
          exact stands.forfeited ends state found past
      | persists persists =>
          cases persists with
          | claims isClaim claims =>
              subst isClaim
              exact stands.claimed ends held claims met split (outlasts claims.state)
          | releases isRelease state => exact stands.released named state unreleased

/-- The session that a release found. -/
theorem session_of_met {session : String} {stored : Stored} (present : session ≠ "")
    (met : (Precondition.state .held session).met (some stored) = true) :
    stored.session = some session := by
  simp only [Precondition.met, Bool.and_eq_true, Bool.or_eq_true, beq_iff_eq] at met
  exact met.2.resolve_left present

theorem Timely.served {input : Input} {past : Past} {command : Command}
    {next : Reply command → Program Command Reply Result} {rest : Program Command Reply Result}
    (timely : Timely world id ⟨input, past, .call command next⟩) (asks : Asks input past command) :
    Timely (serve id command world).2 id
      ⟨input, ⟨command, (serve id command world).1⟩ :: past, rest⟩ := by
  generalize (serve id command world).1 = reply
  have effect := serve_effect id world command
  generalize (serve id command world).2 = after at effect ⊢
  cases effect with
  | read =>
      refine ⟨timely.now, timely.session, fun path stored record member => ?_⟩
      rcases List.mem_cons.mp member with same | older
      · cases same
      · exact timely.releases path stored record older
  | refused => exact ⟨timely.now, timely.session, timely.releases⟩
  | @wrote path record expected isSet met =>
      subst isSet
      refine ⟨timely.now, timely.session, fun other stored found member state => ?_⟩
      rcases List.mem_cons.mp member with same | older
      · rcases Event.wrote.inj same with ⟨-, rfl, isStored, rfl⟩
        rw [← isStored] at met
        cases asks with
        | forfeits forfeited =>
            rw [forfeited] at state
            cases state
        | persists persists =>
            cases persists with
            | claims isClaim claims =>
                rw [claims.state] at state
                cases state
            | releases isRelease _ =>
                exact ⟨_, isRelease, session_of_met (timely.session _ isRelease) met⟩
      · exact timely.releases other stored found older state

/-- The steps of another call. -/
theorem wrote_of_foreign {other : Nat} (different : other ≠ id) (command : Command) {path : String}
    {before : Option Stored} {record : CustodyRecord}
    (member : .wrote other path before record ∈ (serve id command world).2.log) :
    .wrote other path before record ∈ world.log := by
  have effect := serve_effect id world command
  generalize (serve id command world).2 = after at effect member
  cases effect with
  | refused => exact member
  | read => exact (List.mem_cons.mp member).resolve_left Event.noConfusion
  | wrote isSet met =>
      refine (List.mem_cons.mp member).resolve_left fun same => ?_
      exact different (Event.wrote.inj same).1

theorem clock_serve (command : Command) : (serve id command world).2.clock = world.clock := by
  have effect := serve_effect id world command
  generalize (serve id command world).2 = after at effect ⊢
  cases effect <;> rfl

theorem preserves_guarded :
    Protocol.Preserves custodyProtocol
      (fun world id call command => ForfeitsExpired world id call command ∧
        Asks call.input call.past command)
      Guarded Timely Silent where
  opened {world id input} _ silent opens :=
    ⟨⟨world.clock, opens.1, le_rfl⟩, opens.2,
      fun path stored record member => absurd member (silent path _ record)⟩
  served {world id input past command next} guarded timely meets := by
    refine ⟨guarded.served timely meets.1 meets.2, timely.served meets.2, fun other different =>
      ⟨fun call kept => ⟨?_, kept.session, fun path stored record member => ?_⟩,
        fun silent path before record member => ?_⟩⟩
    · change ∃ now, _ ∧ now ≤ (serve id command world).2.clock
      rw [clock_serve]
      exact kept.now
    · exact kept.releases path stored record (wrote_of_foreign different command member)
    · exact silent path before record (wrote_of_foreign different command member)
  moved {world after} guarded moves := by
    cases moves with
    | ticked clock later =>
        refine ⟨?_, fun id => ⟨fun call timely => ⟨?_, timely.session, timely.releases⟩,
          fun silent => silent⟩⟩
        · intro newer id path before record older session lease split held named ends unreleased
          rcases guarded newer id path before record older session lease split held named ends
            unreleased with stored | ended
          · exact Or.inl stored
          · exact Or.inr ⟨ended.forfeited, lt_of_lt_of_le ended.past later, ended.later⟩
        · rcases timely.now with ⟨now, isNow, past⟩
          exact ⟨now, isNow, le_trans past later⟩

end Invariant

/-! ## The theorem -/

/-- The event is the applied write of a release call of the session. -/
def ReleasedBy (system : CustodySystem) (path session : String) (event : Event) : Prop :=
  ∃ call before record released past rest, event = .wrote call path before record ∧
    record.state = .released ∧ system.calls call = some ⟨.release released, past, rest⟩ ∧
    released.sessionId = session

/-- Once a claim has returned, and until a release by its session is applied, no claim by
another session returns with a `now` up to the end of the lease, and up to that end the
record is stored. -/
def Exclusive (system : CustodySystem) : Prop :=
  ∀ id claim past record, system.calls id = some ⟨.claim claim, past, .done (.ok record)⟩ →
    ∃ newer before older lease,
      system.world.log =
        newer ++ .wrote id claim.worktree.worktreePath before record :: older ∧
      record.leaseEnd = some lease ∧
      ((∀ event ∈ newer, ¬ReleasedBy system claim.worktree.worktreePath claim.custodian.sessionId
          event) →
        (∀ other otherClaim otherPast otherRecord stored,
          system.calls other = some ⟨.claim otherClaim, otherPast, .done (.ok otherRecord)⟩ →
          .wrote other claim.worktree.worktreePath stored otherRecord ∈ newer →
          otherClaim.custodian.sessionId ≠ claim.custodian.sessionId →
          ∀ now, otherClaim.now = .instant now → lease < now) ∧
        (system.world.clock ≤ lease →
          system.world.field claim.worktree.worktreePath = some (.serialized record) ∧
          record.state = .held ∧ record.session = some claim.custodian.sessionId))

/-- Nothing was done yet. -/
def Fresh (world : World) : Prop := world.log = []

theorem Claims.leaseEnd {claim : ClaimInput} {past : Past} {record : CustodyRecord}
    {expected : Precondition} (claims : Claims claim past record expected) :
    ∃ lease, record.leaseEnd = some lease := by
  rcases claims.lease with ⟨text, leased, stored⟩
  rcases Option.bind_eq_some_iff.mp leased with ⟨now, -, made⟩
  rw [CustodyRecord.leaseEnd, stored, Timestamp.parse_of_toISOString made]
  exact ⟨_, rfl⟩

theorem Claims.session {claim : ClaimInput} {past : Past} {record : CustodyRecord}
    {expected : Precondition} (claims : Claims claim past record expected) :
    record.session = some claim.custodian.sessionId := by
  rw [CustodyRecord.session, claims.custodian]
  rfl

theorem guarded_of_fresh {world : World} (fresh : Fresh world) : Guarded world := by
  intro newer id path before record older session lease split
  rw [fresh] at split
  cases newer <;> cases split

theorem silent_of_fresh {world : World} {id : Nat} (fresh : Fresh world) : Silent world id := by
  intro path before record member
  rw [fresh] at member
  exact absurd member List.not_mem_nil

/-- What frees a hold is a release call of its session. -/
theorem releasedBy_of_frees {system : CustodySystem}
    (holds : Protocol.Holds Guarded Timely Silent system) {path session : String} {event : Event}
    (member : event ∈ system.world.log) (frees : event.Frees path session) :
    ReleasedBy system path session event := by
  rcases frees with ⟨call, stored, record, rfl, state, named⟩
  cases running : system.calls call with
  | none => exact absurd member (holds.idle call running path (some stored) record)
  | some found =>
      rcases (holds.own call found running).releases path stored record member state with
        ⟨released, isRelease, same⟩
      rcases found with ⟨input, past, rest⟩
      cases isRelease
      exact ⟨call, some stored, record, released, past, rest, rfl, state, running,
        Option.some.inj (same.symm.trans named)⟩

theorem custody_exclusive (system : CustodySystem)
    (reached : custodyProtocol.Reachable ForfeitsExpired Fresh system) : Exclusive system := by
  intro id claim past record ended
  rcases claimed_of_reachable reached ended with ⟨before, earlier, expected, logged, claims⟩
  rcases List.append_of_mem logged with ⟨newer, older, split⟩
  rcases claims.leaseEnd with ⟨lease, ends⟩
  have holds := (reached.asking follows_program).invariant
    (fun world fresh => ⟨guarded_of_fresh fresh, fun id => silent_of_fresh fresh⟩)
    preserves_guarded
  refine ⟨newer, before, older, lease, split, ends, fun unreleased => ?_⟩
  have stands := holds.shared newer id _ before record older _ lease split claims.state
    claims.session ends fun event member frees => by
      have inLog : event ∈ system.world.log := split ▸ List.mem_append_left _ member
      exact unreleased event member (releasedBy_of_frees holds inLog frees)
  constructor
  · intro other otherClaim otherPast otherRecord stored otherEnded member different now isNow
    rcases claimed_of_reachable reached otherEnded with ⟨_, _, _, _, otherClaims⟩
    have claimed : (Event.wrote other claim.worktree.worktreePath stored otherRecord).Claimed
        claim.worktree.worktreePath otherRecord := ⟨otherClaims.state, other, stored, rfl⟩
    rcases stands with ⟨-, unclaimed⟩ | gone
    · exact absurd claimed (unclaimed _ member otherRecord)
    · refine gone.later _ member otherRecord claimed ?_ now (isNow ▸ otherClaims.acquiredAt)
      rw [otherClaims.session, claims.session]
      exact fun same => different (Option.some.inj same)
  · intro early
    rcases stands with ⟨stored, -⟩ | gone
    · exact ⟨stored, claims.state, claims.session⟩
    · exact absurd gone.past (not_lt_of_ge early)

/-! ## Schedules -/

section Schedules

/-- The worktree is held by a session whose lease has ended. -/
def expiredWorld : World :=
  ⟨[("/w", .serialized ⟨.held, sampleWorktree, some ⟨"ap", "p"⟩, some .initial, some (.instant 0),
    some (.instant 10000), none⟩)], 20000, []⟩

theorem expiredWorld_fresh : Fresh expiredWorld := rfl

/-- A status call has read the expired hold. -/
def readExpired : CustodySystem :=
  advances (custodyProtocol.start ⟨expiredWorld, fun _ => none⟩ 0
    (.status (some "/w") (.instant 20000))) 0 1

/-- A successor forfeits the hold and takes the worktree over. -/
def takenOver : CustodySystem :=
  advances (custodyProtocol.start readExpired 1 (.claim (sampleClaim "s" 20000))) 1 3

/-- The status call forfeits what it now finds held. -/
def forfeitedStale : CustodySystem := advances takenOver 0 1

/-- The record of the successor. -/
def successorRecord : CustodyRecord :=
  ⟨.held, sampleWorktree, some ⟨"as", "s"⟩, some .successorTakeover, some (.instant 20000),
    some (.instant 30000), none⟩

theorem forfeitedStale_reachable :
    custodyProtocol.Reachable anyStep Fresh forfeitedStale := by
  have always : ∀ world id call command, anyStep world id call command := fun _ _ _ _ => trivial
  have begun : custodyProtocol.Reachable anyStep Fresh
      (custodyProtocol.start ⟨expiredWorld, fun _ => none⟩ 0
        (.status (some "/w") (.instant 20000))) :=
    (Protocol.Reachable.init expiredWorld_fresh).start 0 _ rfl
      ⟨rfl, fun released same => by cases same⟩
  have read := begun.advances 0 1 always
  have taken := (read.start 1 (.claim (sampleClaim "s" 20000)) rfl (opens_claim rfl)).advances 1 3
    always
  exact taken.advances 0 1 always

theorem forfeitedStale_ended :
    claimedBy forfeitedStale 1 = some (sampleClaim "s" 20000, successorRecord) := by
  decide +kernel

/-- A status call that read the predecessor's hold forfeits the successor's. -/
theorem hold_forfeited_early :
    ¬∀ system, custodyProtocol.Reachable anyStep Fresh system → Exclusive system := by
  intro exclusive
  rcases calls_of_claimedBy forfeitedStale_ended with ⟨past, ended⟩
  rcases exclusive forfeitedStale forfeitedStale_reachable 1 _ past _ ended with
    ⟨newer, before, older, lease, split, ends, stands⟩
  have isLease : lease = 30000 := (Option.some.inj ends).symm
  have unreleased : ∀ event ∈ newer, ¬ReleasedBy forfeitedStale "/w" "s" event := by
    have none : forfeitedStale.world.log.all (fun event => !event.isRelease) = true := by
      decide +kernel
    intro event member released
    rcases released with ⟨call, stored, record, _, _, _, rfl, state, -⟩
    have inLog : Event.wrote call "/w" stored record ∈ forfeitedStale.world.log :=
      split ▸ List.mem_append_left _ member
    have other : (record.state == .released) = false := by
      simpa [Event.isRelease] using List.all_eq_true.mp none _ inLog
    rw [state] at other
    cases other
  have early : forfeitedStale.world.clock ≤ lease := by
    rw [isLease]
    decide +kernel
  have stored := ((stands unreleased).2 early).1
  have gone : forfeitedStale.world.field "/w" ≠ some (.serialized successorRecord) := by
    decide +kernel
  exact gone stored

/-- The successor takes the worktree over without the status call. -/
def takenAlone : CustodySystem :=
  advances (custodyProtocol.start ⟨expiredWorld, fun _ => none⟩ 1
    (.claim (sampleClaim "s" 20000))) 1 3

/-- Whether the next command of a call keeps the condition. -/
def forfeitsExpired (system : CustodySystem) (id : Nat) : Bool :=
  match system.calls id, Protocol.asked system id with
  | some call, some (.conditionalSet path record _) =>
      (record.state != .forfeited ||
        (system.world.field path).all (·.expired call.input.now)) &&
      (record.state != .held ||
        system.world.log.all (·.outlasts path record.session call.input.now))
  | _, _ => true

theorem takenAlone_reachable :
    custodyProtocol.Reachable ForfeitsExpired Fresh takenAlone := by
  have begun : custodyProtocol.Reachable ForfeitsExpired Fresh
      (custodyProtocol.start ⟨expiredWorld, fun _ => none⟩ 1 (.claim (sampleClaim "s" 20000))) :=
    (Protocol.Reachable.init expiredWorld_fresh).start 1 _ rfl (opens_claim rfl)
  have checked : ∀ earlier < 3, forfeitsExpired (advances (custodyProtocol.start
      ⟨expiredWorld, fun _ => none⟩ 1 (.claim (sampleClaim "s" 20000))) 1 earlier) 1 = true := by
    decide +kernel
  apply begun.advances_of 1 3
  intro earlier less call command running next path record expected isSet met
  have found := checked earlier less
  rw [forfeitsExpired, advances, running, next, isSet] at found
  simp only [Bool.and_eq_true, Bool.or_eq_true, bne_iff_ne, Option.all_eq_true,
    List.all_eq_true] at found
  exact ⟨fun state => found.1.resolve_left (not_not_intro state),
    fun state => found.2.resolve_left (not_not_intro state)⟩

theorem takenAlone_exclusive : ∃ newer before older lease,
    takenAlone.world.log = newer ++ .wrote 1 "/w" before successorRecord :: older ∧
    successorRecord.leaseEnd = some lease ∧
    ((∀ event ∈ newer, ¬ReleasedBy takenAlone "/w" "s" event) →
      (∀ other otherClaim otherPast otherRecord stored,
        takenAlone.calls other = some ⟨.claim otherClaim, otherPast, .done (.ok otherRecord)⟩ →
        .wrote other "/w" stored otherRecord ∈ newer → otherClaim.custodian.sessionId ≠ "s" →
        ∀ now, otherClaim.now = .instant now → lease < now) ∧
      (takenAlone.world.clock ≤ lease →
        takenAlone.world.field "/w" = some (.serialized successorRecord) ∧
        successorRecord.state = .held ∧ successorRecord.session = some "s")) := by
  have claimed : claimedBy takenAlone 1 = some (sampleClaim "s" 20000, successorRecord) := by
    decide +kernel
  rcases calls_of_claimedBy claimed with ⟨past, ended⟩
  exact custody_exclusive takenAlone takenAlone_reachable 1 _ past _ ended

end Schedules

end GptQueue.Custody
