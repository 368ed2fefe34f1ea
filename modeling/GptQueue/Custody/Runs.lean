import GptQueue.Custody.Store

/-! # Runs of the custody store

What a command does to the store, what each call may write, and that a call which ends
well has written its record.
-/

namespace GptQueue.Custody

/-! ## Effects of commands -/

section Fields

variable {world : World} {path other : String} {stored : Stored}

theorem lookup_setField_self (records : List (String × Stored)) :
    (setField path stored records).lookup path = some stored := by
  simp [setField]

theorem lookup_setField_of_ne (records : List (String × Stored)) (different : other ≠ path) :
    (setField path stored records).lookup other = records.lookup other := by
  have filtered : ∀ records : List (String × Stored),
      (records.filter (·.1 != path)).lookup other = records.lookup other := by
    intro records
    induction records with
    | nil => rfl
    | cons first rest induction =>
        rcases first with ⟨name, value⟩
        by_cases same : name = path
        · subst same
          have skipped : (other == name) = false := beq_eq_false_iff_ne.mpr different
          simp [List.lookup_cons, skipped, induction]
        · have kept : (name != path) = true := bne_iff_ne.mpr same
          simp [kept, List.lookup_cons, induction]
  have skipped : (other == path) = false := beq_eq_false_iff_ne.mpr different
  rw [setField, List.lookup_cons, skipped]
  exact filtered records

end Fields

/-- The world after an applied write. -/
def World.write (world : World) (id : Nat) (path : String) (record : CustodyRecord) : World :=
  { world with
    records := setField path (.serialized record) world.records
    log := .wrote id path (world.field path) record :: world.log }

section Write

variable {world : World} {id : Nat} {path other : String} {record : CustodyRecord}

theorem field_write_self : (world.write id path record).field path = some (.serialized record) :=
  lookup_setField_self world.records

theorem field_write_of_ne (different : other ≠ path) :
    (world.write id path record).field other = world.field other :=
  lookup_setField_of_ne world.records different

end Write

/-- What a command does to the world. -/
inductive Effect (id : Nat) (world : World) (command : Command) : World → Prop
  | read : Effect id world command { world with log := .read id :: world.log }
  | wrote {path : String} {record : CustodyRecord} {expected : Precondition}
      (isSet : command = .conditionalSet path record expected)
      (met : expected.met (world.field path) = true) :
      Effect id world command (world.write id path record)
  | refused : Effect id world command world

theorem serve_conditionalSet (id : Nat) (world : World) (path : String) (record : CustodyRecord)
    (expected : Precondition) :
    serve id (.conditionalSet path record expected) world =
      if expected.met (world.field path) then (true, world.write id path record)
      else (false, world) := rfl

theorem serve_effect (id : Nat) (world : World) (command : Command) :
    Effect id world command (serve id command world).2 := by
  cases command with
  | hget path => exact .read
  | hgetall => exact .read
  | conditionalSet path record expected =>
      rw [serve_conditionalSet]
      split
      · next met => exact .wrote rfl met
      · exact .refused

/-- A write that was reported has been applied. -/
theorem write_of_serve {id : Nat} {world : World} {path : String} {record : CustodyRecord}
    {expected : Precondition}
    (wrote : (serve id (.conditionalSet path record expected) world).1 = true) :
    (serve id (.conditionalSet path record expected) world).2 = world.write id path record := by
  rw [serve_conditionalSet] at wrote ⊢
  split
  · rfl
  · next unmet =>
      rw [if_neg unmet] at wrote
      cases wrote

/-! ## What the calls write -/

abbrev Past := List (Exchange Command Reply)

/-- The record that a claim writes over what it read. -/
structure Claims (input : ClaimInput) (past : Past) (record : CustodyRecord)
    (expected : Precondition) : Prop where
  state : record.state = .held
  custodian : record.custodian = some input.custodian
  acquiredAt : record.acquiredAt = some input.now
  lease : ∃ lease, input.lease = some lease ∧ record.leaseExpiresAt = some lease
  vacant : ∀ session, expected ≠ .state .held session
  graceful : record.mode = some .gracefulHandoff → expected = .state .released "" ∧
    ∃ stored earlier, past = ⟨.hget input.worktree.worktreePath, some (.serialized stored)⟩ ::
      earlier ∧ stored.state = .released ∧ stored.handoff.isSome ∧ record.handoff = stored.handoff

/-- The writes with which a claim or a release ends. -/
inductive Persists (input : Input) (past : Past) : String → CustodyRecord → Precondition → Prop
  | claims {claim : ClaimInput} {record : CustodyRecord} {expected : Precondition}
      (isClaim : input = .claim claim) (claims : Claims claim past record expected) :
      Persists input past claim.worktree.worktreePath record expected
  | releases {released : ReleaseInput} {record : CustodyRecord}
      (isRelease : input = .release released) (state : record.state = .released) :
      Persists input past released.worktreePath record (.state .held released.sessionId)

/-- The writes of a call. -/
inductive Writes (input : Input) (past : Past) : String → CustodyRecord → Precondition → Prop
  | forfeits {path : String} {record : CustodyRecord} (state : record.state = .forfeited) :
      Writes input past path record (.state .held "")
  | persists {path : String} {record : CustodyRecord} {expected : Precondition}
      (persists : Persists input past path record expected) :
      Writes input past path record expected

def Asks (input : Input) (past : Past) : Command → Prop
  | .hget _ => True
  | .hgetall => True
  | .conditionalSet path record expected => Writes input past path record expected

/-- A call that ends well has just written its record. -/
def Ends (input : Input) (past : Past) (result : Result) : Prop :=
  ∀ record, result = .ok record → ∃ path expected earlier,
    past = ⟨.conditionalSet path record expected, true⟩ :: earlier ∧
      Persists input earlier path record expected

/-! ## The programs keep to them -/

section Follows

variable {input : Input} {past : Past}

theorem Ends.failed {result : Result} (failed : ∀ record, result ≠ .ok record) :
    Ends input past result := fun record same => absurd same (failed record)

/-- A lazily expired record was not touched, or is forfeited. -/
theorem follows_lazyExpire (stored : CustodyRecord) (now : Timestamp) :
    (lazyExpire stored now).Follows (Asks input)
      (fun later record => later = past ∧ record = stored ∨ record.state = .forfeited) past := by
  unfold lazyExpire
  split
  · exact Or.inl ⟨rfl, rfl⟩
  · split
    · next state made =>
        split
        · next forfeited => exact ⟨.forfeits forfeited, fun reply => Or.inr forfeited⟩
        · exact Or.inl ⟨rfl, rfl⟩
    · exact Or.inl ⟨rfl, rfl⟩

/-- What is left after a transition, when its record may be written. -/
theorem follows_persist {path : String} {transition : Transition} {expected : Precondition}
    {next : Program Command Reply Result}
    (persists : ∀ record, transition = .ok record → Persists input past path record expected)
    (goesOn : ∀ record, next.Follows (Asks input) (Ends input)
      (⟨.conditionalSet path record expected, false⟩ :: past)) :
    (persist path transition expected next).Follows (Asks input) (Ends input) past := by
  unfold persist
  split
  · exact Ends.failed fun record same => by cases same
  · next record =>
      refine ⟨.persists (persists record rfl), fun reply => ?_⟩
      cases reply with
      | true =>
          intro found same
          cases same
          exact ⟨path, expected, past, rfl, persists record rfl⟩
      | false => exact goesOn record

theorem claim_transition {record state : CustodyRecord} {custodian : CustodianIdentity}
    {lease now : Timestamp}
    (made : transitionCustody record (.claim custodian lease now) = .ok state) :
    record.state ≠ .held ∧ state = record.hold custodian
      (if record.state = .released then .gracefulHandoff else .initial) lease now := by
  unfold transitionCustody at made
  dsimp only at made
  split at made
  · cases made
  · cases made
  · next notHeld _ =>
      split at made
      · cases made
      · cases made
        exact ⟨notHeld, rfl⟩

theorem assume_transition {record state : CustodyRecord} {custodian : CustodianIdentity}
    {lease now : Timestamp} {inventory : List String}
    (made : transitionCustody record (.assume custodian lease inventory now) = .ok state) :
    state = record.hold custodian .successorTakeover lease now := by
  unfold transitionCustody at made
  dsimp only at made
  split at made
  · cases made
  · split at made
    · cases made
    · split at made
      · cases made
      · cases made
        rfl

theorem release_transition {record state : CustodyRecord} {handoff : HandoffRecord}
    (made : transitionCustody record (.release handoff) = .ok state) :
    state.state = .released := by
  unfold transitionCustody at made
  dsimp only at made
  split at made
  · cases made
  · cases made
    rfl

/-- The claim of a worktree without a record. -/
theorem claims_absent {claim : ClaimInput} {lease : Timestamp} {record : CustodyRecord}
    (leased : claim.lease = some lease)
    (made : transitionCustody (createCustody claim.worktree)
      (.claim claim.custodian lease claim.now) = .ok record) :
    Claims claim past record .absent := by
  rcases claim_transition made with ⟨-, rfl⟩
  refine ⟨rfl, rfl, rfl, ⟨lease, leased, rfl⟩, fun session => Precondition.noConfusion,
    fun graceful => ?_⟩
  cases graceful

/-- The claim of a record that was read and lazily expired. -/
theorem claims_found {claim : ClaimInput} {lease : Timestamp} {stored record state : CustodyRecord}
    {earlier : Past} (leased : claim.lease = some lease)
    (read : past = ⟨.hget claim.worktree.worktreePath, some (.serialized stored)⟩ :: earlier ∧
      record = stored ∨ record.state = .forfeited)
    (admitted : storedCustodySchema stored = true) (free : record.state ≠ .held)
    (made : transitionCustody record (claimEvent claim lease record) = .ok state) :
    Claims claim past state (.state record.state "") := by
  have vacant : ∀ session, Precondition.state record.state "" ≠ .state .held session := by
    intro session same
    exact free (Precondition.state.inj same).1
  unfold claimEvent at made
  split at made
  · have held := assume_transition made
    subst held
    refine ⟨rfl, rfl, rfl, ⟨lease, leased, rfl⟩, vacant, fun graceful => ?_⟩
    cases graceful
  · next notForfeited =>
      rcases claim_transition made with ⟨-, rfl⟩
      refine ⟨rfl, rfl, rfl, ⟨lease, leased, rfl⟩, vacant, fun graceful => ?_⟩
      rcases read with ⟨read, rfl⟩ | forfeited
      · have released : record.state = .released := by
          by_contra other
          rw [CustodyRecord.hold, if_neg other] at graceful
          cases graceful
        have given : record.handoff.isSome := by
          simp only [storedCustodySchema, Bool.and_eq_true, Bool.or_eq_true, bne_iff_ne] at admitted
          exact admitted.1.2.resolve_left (not_not_intro released)
        exact ⟨congrArg (Precondition.state · "") released, record, earlier, read, released,
          given, rfl⟩
      · exact absurd forfeited notForfeited

theorem found_of_readRecord {reply : Option Stored} {record : CustodyRecord}
    (read : readRecord reply = .found record) :
    reply = some (.serialized record) ∧ storedCustodySchema record = true := by
  cases reply with
  | none => cases read
  | some stored =>
      cases stored with
      | foreign state session => cases read
      | serialized found =>
          unfold readRecord parseStored at read
          dsimp only at read
          split at read
          · next admitted =>
              cases read
              exact ⟨rfl, admitted⟩
          · cases read

theorem follows_claimAttempts {claim : ClaimInput} {lease : Timestamp}
    (leased : claim.lease = some lease) (attempts : Nat) (past : Past) :
    (claimAttempts claim lease attempts).Follows (Asks (.claim claim)) (Ends (.claim claim))
      past := by
  induction attempts generalizing past with
  | zero =>
      refine Program.follows_ask_bind.mpr ⟨trivial, fun reply => ?_⟩
      split
      · exact Ends.failed fun record => Result.noConfusion
      · exact Ends.failed fun record => Result.noConfusion
      · next current =>
          apply Ends.failed
          intro record
          unfold claimDefeat
          split <;> exact Result.noConfusion
  | succ attempts induction =>
      refine Program.follows_ask_bind.mpr ⟨trivial, fun reply => ?_⟩
      split
      · exact Ends.failed fun record => Result.noConfusion
      · exact follows_persist (fun record made => .claims rfl (claims_absent leased made))
          fun record => induction _
      · next stored read =>
          rcases found_of_readRecord read with ⟨rfl, admitted⟩
          apply (follows_lazyExpire stored claim.now).bind
          intro later record expired
          split
          · exact Ends.failed fun record => Result.noConfusion
          · next free =>
              split
              · exact Ends.failed fun record => Result.noConfusion
              · exact follows_persist
                  (fun state made => .claims rfl (claims_found leased expired admitted free made))
                  fun record => induction _

theorem follows_releaseAttempts (released : ReleaseInput) (handoff : HandoffRecord)
    (attempts : Nat) (past : Past) :
    (releaseAttempts released handoff attempts).Follows (Asks (.release released))
      (Ends (.release released)) past := by
  induction attempts generalizing past with
  | zero =>
      refine Program.follows_ask_bind.mpr ⟨trivial, fun reply => ?_⟩
      split
      · exact Ends.failed fun record => Result.noConfusion
      · exact Ends.failed fun record => Result.noConfusion
      · next current =>
          apply Ends.failed
          intro record
          unfold releaseDefeat
          split
          · exact Result.noConfusion
          · split <;> exact Result.noConfusion
  | succ attempts induction =>
      refine Program.follows_ask_bind.mpr ⟨trivial, fun reply => ?_⟩
      split
      · exact Ends.failed fun record => Result.noConfusion
      · exact Ends.failed fun record => Result.noConfusion
      · next stored read =>
          apply (follows_lazyExpire stored released.now).bind
          intro later record expired
          split
          · exact Ends.failed fun record => Result.noConfusion
          · split
            · exact Ends.failed fun record => Result.noConfusion
            · exact follows_persist
                (fun state made => .releases rfl (release_transition made))
                fun record => induction _

theorem follows_expireAll (path : Option String) (now : Timestamp)
    (fields : List (String × Stored)) (done : List CustodyRecord) (past : Past) :
    (expireAll now done fields).Follows (Asks (.status path now)) (Ends (.status path now))
      past := by
  induction fields generalizing done past with
  | nil => exact Ends.failed fun record => Result.noConfusion
  | cons first rest induction =>
      unfold expireAll
      split
      · exact Ends.failed fun record => Result.noConfusion
      · exact induction done past
      · next stored read =>
          apply (follows_lazyExpire stored now).bind
          intro later record expired
          exact induction (record :: done) later

theorem follows_program (input : Input) :
    (program input).Follows (Asks input) (Ends input) [] := by
  cases input with
  | claim claim =>
      change (Custody.claim claim).Follows _ _ _
      unfold Custody.claim
      split
      · exact Ends.failed fun record => Result.noConfusion
      · next lease leased => exact follows_claimAttempts leased 2 []
  | release released =>
      change (Custody.release released).Follows _ _ _
      unfold Custody.release
      split
      · exact Ends.failed fun record => Result.noConfusion
      · exact Ends.failed fun record => Result.noConfusion
      · next handoff admitted => exact follows_releaseAttempts released handoff 2 []
  | status path now =>
      cases path with
      | none => exact ⟨trivial, fun fields => follows_expireAll none now fields [] _⟩
      | some path =>
          refine Program.follows_ask_bind.mpr ⟨trivial, fun reply => ?_⟩
          split
          · exact Ends.failed fun record => Result.noConfusion
          · exact Ends.failed fun record => Result.noConfusion
          · next stored read =>
              apply (follows_lazyExpire stored now).bind
              intro later record expired
              exact Ends.failed fun record => Result.noConfusion

end Follows

/-! ## Applied writes are logged -/

/-- The applied writes of a call are in the log. -/
def Logged (world : World) (id : Nat) (call : Call Input Command Reply Result) : Prop :=
  ∀ path record expected, ⟨.conditionalSet path record expected, true⟩ ∈ call.past →
    ∃ before, .wrote id path before record ∈ world.log

theorem Logged.mono {before after : World} {id : Nat} {call : Call Input Command Reply Result}
    (logged : Logged before id call) (grows : before.log ⊆ after.log) : Logged after id call := by
  intro path record expected member
  rcases logged path record expected member with ⟨stored, found⟩
  exact ⟨stored, grows found⟩

theorem log_serve_subset (id : Nat) (world : World) (command : Command) :
    world.log ⊆ (serve id command world).2.log := by
  have effect := serve_effect id world command
  generalize (serve id command world).2 = after at effect ⊢
  cases effect with
  | read => exact List.subset_cons_self _ _
  | wrote isSet met => exact List.subset_cons_self _ _
  | refused => exact List.Subset.refl _

theorem Logged.served {world : World} {id : Nat} {input : Input} {past : Past}
    {command : Command} {next rest : Program Command Reply Result}
    (logged : Logged world id ⟨input, past, next⟩) :
    Logged (serve id command world).2 id
      ⟨input, ⟨command, (serve id command world).1⟩ :: past, rest⟩ := by
  intro path record expected member
  rcases List.mem_cons.mp member with latest | earlier
  · rcases Sigma.mk.inj latest with ⟨rfl, replied⟩
    refine ⟨world.field path, ?_⟩
    rw [write_of_serve (eq_of_heq replied).symm]
    exact List.mem_cons_self
  · exact logged.mono (log_serve_subset id world command) path record expected earlier

section Reachable

variable {condition : Condition World Input Command Reply Result} {start : World → Prop}
  {system : CustodySystem}

theorem logged_of_reachable (reached : custodyProtocol.Reachable condition start system) :
    ∀ id call, system.calls id = some call → Logged system.world id call := by
  have preserves : Protocol.Preserves custodyProtocol condition (fun _ => True) Logged
      fun _ _ => True :=
    { opened := fun _ _ _ path record expected member => absurd member List.not_mem_nil
      served := fun _ logged _ => ⟨trivial, logged.served, fun _ _ =>
        ⟨fun _ kept => kept.mono (log_serve_subset _ _ _), id⟩⟩
      moved := fun _ moves => ⟨trivial, fun _ => ⟨fun _ kept => by cases moves; exact kept, id⟩⟩ }
  exact (reached.invariant (fun _ _ => ⟨trivial, fun _ => trivial⟩) preserves).own

/-- A claim that has ended well has written its record. -/
theorem claimed_of_reachable (reached : custodyProtocol.Reachable condition start system)
    {id : Nat} {claim : ClaimInput} {past : Past} {record : CustodyRecord}
    (ended : system.calls id = some ⟨.claim claim, past, .done (.ok record)⟩) :
    ∃ before earlier expected, .wrote id claim.worktree.worktreePath before record ∈
      system.world.log ∧ Claims claim earlier record expected := by
  rcases reached.follows follows_program id _ ended record rfl with
    ⟨path, expected, earlier, isPast, persists⟩
  dsimp only at isPast persists
  subst isPast
  cases persists with
  | @claims found _ _ isClaim claims =>
      cases isClaim
      rcases logged_of_reachable reached id _ ended _ record expected List.mem_cons_self with
        ⟨before, logged⟩
      exact ⟨before, earlier, expected, logged, claims⟩
  | releases isRelease state => cases isRelease

end Reachable

end GptQueue.Custody
