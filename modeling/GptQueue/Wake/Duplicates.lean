import GptQueue.Wake.Exclusivity

/-! # Duplicate runtimes

A gate reads the actor's sessions first and launches later. If no runtime of an
earlier wake comes to life in between, none is running at the launch.
-/

namespace GptQueue.Wake

/-- What was logged since a call read the session set. -/
def since (id : Nat) (log : List Event) : List Event :=
  log.takeWhile fun event => event ≠ .looked id

/-- No runtime of an earlier wake has come to life since the launching gate read the
actor's sessions. -/
def LaunchesUndisturbed : Condition World Input Command Reply Result := fun world id _ command =>
  ∀ contract leaseId, command = .dispatchLaunch contract leaseId →
    ∀ session ∈ world.records, session.launchedBy.isSome = true →
      .enlivened session.sessionId ∉ since id world.log

/-! ## What comes to life -/

/-- Records and live leases are the old ones, or the step logged that they came to
life. -/
structure Wakes (world after : World) : Prop where
  live : ∀ sessionId ∈ after.live,
    sessionId ∈ world.live ∨ after.log = .enlivened sessionId :: world.log
  records : ∀ session ∈ after.records,
    session ∈ world.records ∨ after.log = .enlivened session.sessionId :: world.log

section Steps

variable {uuid : Nat → String} {id : Nat} {world after : World}

theorem serve_wakes (command : Command) : Wakes world (serve uuid id command world).2 := by
  cases command with
  | pruneExpiredSessions =>
      exact ⟨fun _ live => Or.inl live, fun _ member => Or.inl (List.mem_of_mem_filter member)⟩
  | createSession sessionId launchedBy =>
      constructor
      · intro other member
        rcases List.mem_cons.mp member with same | live
        · exact Or.inr (same ▸ rfl)
        · exact Or.inl live
      · intro session member
        rcases List.mem_cons.mp member with same | recorded
        · exact Or.inr (same ▸ rfl)
        · exact Or.inl recorded
  | _ => exact ⟨fun _ live => Or.inl live, fun _ recorded => Or.inl recorded⟩

theorem Moves.wakes (moves : Moves world after) : Wakes world after := by
  cases moves with
  | @renewed session recorded =>
      refine ⟨fun sessionId member => ?_, fun _ member => Or.inl member⟩
      rcases List.mem_cons.mp member with same | live
      · by_cases already : session.sessionId ∈ world.live
        · exact Or.inl (same ▸ already)
        · rw [if_neg already, same]
          exact Or.inr rfl
      · exact Or.inl live
  | lapsed sessionId =>
      exact ⟨fun _ member => Or.inl (List.mem_of_mem_filter member), fun _ member => Or.inl member⟩
  | closed sessionId =>
      exact ⟨fun _ member => Or.inl (List.mem_of_mem_filter member),
        fun _ member => Or.inl (List.mem_of_mem_filter member)⟩
  | _ => exact ⟨fun _ member => Or.inl member, fun _ member => Or.inl member⟩

/-- A recorded session with a live lease is a member. -/
def Listed (world : World) : Prop :=
  ∀ session ∈ world.records, session.sessionId ∈ world.live → session.sessionId ∈ world.members

theorem Listed.served (listed : Listed world) (command : Command) :
    Listed (serve uuid id command world).2 := by
  cases command with
  | pruneExpiredSessions =>
      intro session recorded live
      refine List.mem_filter.mpr ⟨listed session (List.mem_of_mem_filter recorded) live, ?_⟩
      exact decide_eq_true live
  | createSession sessionId launchedBy =>
      intro session recorded live
      rcases List.mem_cons.mp live with same | old
      · exact same ▸ List.mem_cons_self
      · rcases List.mem_cons.mp recorded with new | known
        · rw [new]
          exact List.mem_cons_self
        · exact List.mem_cons_of_mem _ (listed session known old)
  | _ => exact listed

theorem Listed.moved (listed : Listed world) (moves : Moves world after) : Listed after := by
  cases moves with
  | renewed _ =>
      intro session recorded live
      rcases List.mem_cons.mp live with same | old
      · exact same ▸ List.mem_cons_self
      · exact List.mem_cons_of_mem _ (listed session recorded old)
  | lapsed sessionId =>
      intro session recorded live
      exact listed session recorded (List.mem_of_mem_filter live)
  | closed sessionId =>
      intro session recorded live
      exact listed session (List.mem_of_mem_filter recorded) (List.mem_of_mem_filter live)
  | @left sessionId gone =>
      intro session recorded live
      refine List.mem_filter.mpr ⟨listed session recorded live, ?_⟩
      exact decide_eq_true fun same => gone (same ▸ live)
  | _ => exact listed

end Steps

/-! ## What a call has seen -/

/-- What a call's presence read says of the sessions now: a live one was among the
members read or came to life since, and so did one that was found dead. -/
structure Seen (world : World) (id : Nat) (call : Call Input Command Reply Result) : Prop where
  members : ∀ {members : List String}, ⟨.smembers, members⟩ ∈ call.past →
    ∀ session ∈ world.records, session.sessionId ∈ world.live →
      session.sessionId ∈ members ∨ .enlivened session.sessionId ∈ since id world.log
  dead : ∀ {sessionId}, ⟨.ttl sessionId, false⟩ ∈ call.past → sessionId ∈ world.live →
    .enlivened sessionId ∈ since id world.log
  order : Never Command.isLook call.past → ∀ sessionId alive, ⟨.ttl sessionId, alive⟩ ∉ call.past

section Seen

variable {uuid : Nat → String} {id : Nat} {world after : World}

theorem since_cons {event : Event} (other : event ≠ .looked id) (log : List Event) :
    since id (event :: log) = event :: since id log := by
  rw [since, List.takeWhile_cons_of_pos (by simpa using other)]
  rfl

/-- A step that is no presence read of the call. -/
theorem Seen.mono {call : Call Input Command Reply Result} (seen : Seen world id call)
    (wakes : Wakes world after)
    (log : after.log = world.log ∨ ∃ event, after.log = event :: world.log ∧ event ≠ .looked id) :
    Seen after id call := by
  have kept : ∀ {event}, event ∈ since id world.log → event ∈ since id after.log := by
    intro event member
    rcases log with same | ⟨added, log, other⟩
    · rwa [same]
    · rw [log, since_cons other]
      exact List.mem_cons_of_mem _ member
  have awake : ∀ {sessionId}, after.log = .enlivened sessionId :: world.log →
      .enlivened sessionId ∈ since id after.log := by
    intro sessionId added
    rw [added, since_cons (by simp)]
    exact List.mem_cons_self
  refine ⟨fun read session recorded live => ?_, fun found live => ?_, seen.order⟩
  · rcases wakes.records session recorded with known | new
    · rcases wakes.live _ live with old | new
      · exact (seen.members read session known old).imp_right kept
      · exact Or.inr (awake new)
    · exact Or.inr (awake new)
  · rcases wakes.live _ live with old | new
    · exact kept (seen.dead found old)
    · exact awake new

theorem Seen.cons {input : Input} {past : Past} {rest later : Program Command Reply Result}
    (seen : Seen world id ⟨input, past, rest⟩) {exchange : Exchange Command Reply}
    (notLook : exchange.1 ≠ .smembers)
    (dead : ∀ sessionId, exchange = ⟨.ttl sessionId, false⟩ → sessionId ∉ world.live)
    (order : ∀ sessionId, exchange.1 = .ttl sessionId → ¬Never Command.isLook past) :
    Seen world id ⟨input, exchange :: past, later⟩ where
  members := by
    intro members read
    rcases List.mem_cons.mp read with head | earlier
    · exact absurd (congrArg Sigma.fst head).symm notLook
    · exact seen.members earlier
  dead := by
    intro sessionId found live
    rcases List.mem_cons.mp found with head | earlier
    · exact absurd live (dead sessionId head.symm)
    · exact seen.dead earlier live
  order := by
    intro never sessionId alive member
    have before : Never Command.isLook past :=
      fun exchange earlier => never exchange (List.mem_cons_of_mem _ earlier)
    rcases List.mem_cons.mp member with head | earlier
    · exact order sessionId (congrArg Sigma.fst head).symm before
    · exact seen.order before sessionId alive earlier

/-- The presence read itself. -/
theorem Seen.look {input : Input} {past : Past} {rest later : Program Command Reply Result}
    (listed : Listed world) (seen : Seen world id ⟨input, past, rest⟩)
    (first : Never Command.isLook past) :
    Seen { world with log := .looked id :: world.log } id
      ⟨input, ⟨.smembers, world.members⟩ :: past, later⟩ where
  members := by
    intro members read session recorded live
    left
    rcases List.mem_cons.mp read with head | earlier
    · rw [eq_of_heq (Sigma.mk.inj head).2]
      exact listed session recorded live
    · exact Bool.noConfusion (first _ earlier)
  dead := by
    intro sessionId found live
    rcases List.mem_cons.mp found with head | earlier
    · cases head
    · exact absurd earlier (seen.order first sessionId false)
  order never := Bool.noConfusion (never _ List.mem_cons_self)

theorem Seen.served {input : Input} {past : Past} {command : Command}
    {next : Reply command → Program Command Reply Result} (listed : Listed world)
    (seen : Seen world id ⟨input, past, .call command next⟩) (asks : Asks input past command) :
    Seen (serve uuid id command world).2 id
      ⟨input, ⟨command, (serve uuid id command world).1⟩ :: past,
        next (serve uuid id command world).1⟩ := by
  by_cases look : command = .smembers
  · subst look
    exact seen.look listed asks
  · have log : (serve uuid id command world).2.log = world.log ∨
        ∃ event, (serve uuid id command world).2.log = event :: world.log ∧
          event ≠ .looked id := by
      rcases @serve_log uuid id world command with ⟨same, -⟩ | ⟨event, log, of, -⟩
      · exact Or.inl same
      · refine Or.inr ⟨event, log, fun isLook => look ?_⟩
        subst isLook
        exact of.2
    apply Seen.cons (seen.mono (serve_wakes command) log) look
    · intro sessionId head live
      rcases reply_of_head (fun asked => (serve uuid id asked world).1) head.symm with
        ⟨dead, isTtl⟩
      subst isTtl
      exact absurd live (of_decide_eq_false dead.symm)
    · intro sessionId isTtl
      subst isTtl
      exact asks

/-- A launch that nothing disturbed finds no runtime of an earlier wake. -/
theorem Seen.running {input : Input} {past : Past} {rest : Program Command Reply Result}
    (seen : Seen world id ⟨input, past, rest⟩) (offline : SawOffline past)
    (undisturbed : ∀ session ∈ world.records, session.launchedBy.isSome = true →
      .enlivened session.sessionId ∉ since id world.log) : world.running = [] := by
  apply List.eq_nil_iff_forall_not_mem.mpr
  intro sessionId running
  rcases World.mem_running.mp running with ⟨live, session, recorded, launched, rfl⟩
  rcases offline with ⟨members, read, dead⟩
  apply undisturbed session recorded launched
  rcases seen.members read session recorded live with member | awake
  · exact seen.dead (dead _ member) live
  · exact awake

end Seen

/-- Every launch so far found no runtime of an earlier wake. -/
def LaunchedAlone (log : List Event) : Prop :=
  ∀ call leaseId running, .launched call leaseId running ∈ log → running = []

theorem preserves_seen (uuid : Nat → String) :
    Protocol.Preserves (wakeProtocol uuid)
      (fun world id call command => LaunchesUndisturbed world id call command ∧
        Asks call.input call.past command)
      (fun world => Listed world ∧ LaunchedAlone world.log) Seen (fun _ _ => True) where
  opened _ _ _ :=
    { members := fun read => absurd read List.not_mem_nil
      dead := fun found => absurd found List.not_mem_nil
      order := fun _ _ _ => List.not_mem_nil }
  served {world id input past command next} shared seen meets := by
    rcases shared with ⟨listed, alone⟩
    refine ⟨⟨listed.served command, ?_⟩, seen.served listed meets.2, ?_⟩
    · intro call leaseId running member
      rcases @serve_log uuid id world command with ⟨same, -⟩ | ⟨event, log, of, -⟩
      · exact alone call leaseId running (same ▸ member)
      · have logged : .launched call leaseId running ∈ event :: world.log := log ▸ member
        rcases List.mem_cons.mp logged with head | earlier
        · subst head
          rcases of with ⟨rfl, contract, rfl⟩
          have found : running = world.running := by
            have heads := (List.cons.inj log).1
            exact (Event.launched.inj heads).2.2.symm
          rw [found]
          exact seen.running meets.2.2.1 (meets.1 contract leaseId rfl)
        · exact alone call leaseId running earlier
    · intro other different
      refine ⟨fun call kept => kept.mono (serve_wakes command) ?_, fun _ => trivial⟩
      rcases @serve_log uuid id world command with ⟨same, -⟩ | ⟨event, log, of, -⟩
      · exact Or.inl same
      · refine Or.inr ⟨event, log, fun isLook => different ?_⟩
        subst isLook
        exact of.1
  moved {world after} shared moves := by
    rcases shared with ⟨listed, alone⟩
    refine ⟨⟨listed.moved moves, ?_⟩, fun id => ⟨fun call kept => kept.mono moves.wakes ?_,
      fun _ => trivial⟩⟩
    · intro call leaseId running member
      exact alone call leaseId running ((moves.mem_log call).1 leaseId running member)
    · rcases moves.log with ⟨same, -⟩ | ⟨event, log, free, -⟩
      · exact Or.inl same
      · refine Or.inr ⟨event, log, fun isLook => ?_⟩
        subst isLook
        cases free

/-- If no runtime of an earlier wake comes to life between a gate's presence read and
its launch, no launch is dispatched while one is running. -/
theorem no_duplicate_runtime (uuid : Nat → String) {system : WakeSystem}
    (reached : (wakeProtocol uuid).Reachable LaunchesUndisturbed (Initial uuid) system) :
    LaunchedAlone system.world.log := by
  have holds := (reached.asking follows_program).invariant
    (fun world initial => ⟨⟨initial.members, fun _ _ _ member => by
      rw [initial.log] at member
      cases member⟩, fun _ => trivial⟩) (preserves_seen uuid)
  exact holds.shared.2

/-! ## A stale presence read -/

section Schedules

/-- One gate launches for an actor without sessions. -/
def launchedAlone : WakeSystem := advances acquiredFirst 0 1

theorem launchedAlone_reachable :
    (wakeProtocol unary).Reachable LaunchesUndisturbed (Initial unary)
      launchedAlone := by
  have begun : (wakeProtocol unary).Reachable LaunchesUndisturbed (Initial unary)
      ((wakeProtocol unary).start ⟨sampleWorld, fun _ => none⟩ 0 (.gate sampleGate)) :=
    (Protocol.Reachable.init sampleWorld_initial).start 0 _ rfl trivial
  have stays : ∀ (system : WakeSystem) (count : Nat),
      (wakeProtocol unary).Reachable LaunchesUndisturbed (Initial unary) system →
      (∀ earlier < count, (advances system 0 earlier).world.records = []) →
      (wakeProtocol unary).Reachable LaunchesUndisturbed (Initial unary)
        (advances system 0 count) := by
    intro system count reached empty
    apply reached.advances_of 0 count
    intro earlier less call command _ next contract leaseId launch session recorded
    have none := empty earlier less
    rw [advances] at none
    rw [none] at recorded
    cases recorded
  exact stays _ 1 (stays _ 6 begun (by decide +kernel)) (by decide +kernel)

theorem launchedAlone_found_none : LaunchedAlone launchedAlone.world.log ∧
    .launched 0 "" [] ∈ launchedAlone.world.log :=
  ⟨no_duplicate_runtime unary launchedAlone_reachable, by decide +kernel⟩

/-- A gate reads the actor as offline. A second gate launches, and its runtime registers
and clears the lease. -/
def registeredMeanwhile : WakeSystem :=
  advances ((wakeProtocol unary).start (advances ((wakeProtocol unary).start
    (advances ((wakeProtocol unary).start ⟨sampleWorld, fun _ => none⟩ 0
      (.gate sampleGate)) 0 2) 1 (.gate sampleGate)) 1 7) 2 (.registration (some "u"))) 2 5

/-- Then the first gate acquires a lease and launches. -/
def launchedAgain : WakeSystem := advances registeredMeanwhile 0 5

theorem launchedAgain_reachable :
    (wakeProtocol unary).Reachable anyStep (Initial unary) launchedAgain := by
  have always : ∀ world id call command, anyStep world id call command :=
    fun _ _ _ _ => trivial
  have begun : (wakeProtocol unary).Reachable anyStep (Initial unary)
      ((wakeProtocol unary).start ⟨sampleWorld, fun _ => none⟩ 0 (.gate sampleGate)) :=
    (Protocol.Reachable.init sampleWorld_initial).start 0 _ rfl trivial
  have launched := ((begun.advances 0 2 always).start 1 (.gate sampleGate) rfl trivial).advances
    1 7 always
  have registered := (launched.start 2 (.registration (some "u")) rfl
    ⟨1, [], by decide +kernel⟩).advances 2 5 always
  exact registered.advances 0 5 always

/-- The second launch finds the runtime of the first one running. -/
theorem launched_while_running :
    ¬∀ (uuid : Nat → String) (system : WakeSystem),
      (wakeProtocol uuid).Reachable anyStep (Initial uuid) system →
      LaunchedAlone system.world.log := by
  intro alone
  have logged : .launched 0 "" ["uu"] ∈ launchedAgain.world.log := by decide +kernel
  cases alone unary launchedAgain launchedAgain_reachable 0 "" ["uu"] logged

end Schedules

end GptQueue.Wake
