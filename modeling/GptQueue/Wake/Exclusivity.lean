import GptQueue.Wake.System

/-! # Wake exclusivity

Each acquired lease leads to at most one launch. A launch that finds its own lease
stored is separated from the next one by the end of that lease.
-/

namespace GptQueue.Wake

/-! ## What a step adds to the log -/

/-- An event that a command of a call can add. -/
def Event.Of (id : Nat) (command : Command) : Event → Prop
  | .acquired call leaseId =>
      call = id ∧ ∃ lease ttl, command = .leaseAcquire lease ttl ∧ lease.leaseId = leaseId
  | .launched call leaseId _ => call = id ∧ ∃ contract, command = .dispatchLaunch contract leaseId
  | .cleared call leaseId => call = id ∧ command = .leaseClear leaseId
  | .expired _ => False
  | .looked call => call = id ∧ command = .smembers
  | .enlivened sessionId => ∃ launchedBy, command = .createSession sessionId launchedBy

/-- An event that happens by itself. -/
def Event.Free : Event → Prop
  | .expired _ => True
  | .enlivened _ => True
  | _ => False

/-- The end of a lease. -/
def Event.removes (leaseId : String) : Event → Bool
  | .cleared _ removed => removed == leaseId
  | .expired removed => removed == some leaseId
  | _ => false

section Steps

variable {uuid : Nat → String} {id : Nat} {world after : World}

/-- A command adds at most one event, and a stored lease that it removes is named by
the event. -/
theorem serve_log (command : Command) :
    ((serve uuid id command world).2.log = world.log ∧
      ∀ leaseId, leaseIdOf world.key = some leaseId →
        leaseIdOf (serve uuid id command world).2.key = some leaseId) ∨
      ∃ event, (serve uuid id command world).2.log = event :: world.log ∧ event.Of id command ∧
        ∀ leaseId, leaseIdOf world.key = some leaseId →
          leaseIdOf (serve uuid id command world).2.key = some leaseId ∨
            event.removes leaseId = true := by
  cases command with
  | smembers => exact Or.inr ⟨_, rfl, ⟨rfl, rfl⟩, fun _ => Or.inl⟩
  | leaseClear leaseId =>
      by_cases own : leaseIdOf world.key = some leaseId
      · right
        refine ⟨.cleared id leaseId, ?_, ⟨rfl, rfl⟩, fun other held => Or.inr ?_⟩
        · simp [serve, wakeLeaseClear_of_eq own]
        · have same : leaseId = other := Option.some.inj (own.symm.trans held)
          exact beq_iff_eq.mpr same
      · left
        simp [serve, wakeLeaseClear_of_ne own]
  | leaseAcquire lease ttl =>
      cases present : world.key with
      | some held =>
          left
          simp [serve, wakeLeaseAcquire, present]
      | none =>
          right
          refine ⟨.acquired id lease.leaseId, ?_, ⟨rfl, lease, ttl, rfl, rfl⟩, fun other held => ?_⟩
          · simp [serve, wakeLeaseAcquire, present]
          · cases held
  | dispatchLaunch contract leaseId =>
      exact Or.inr ⟨_, rfl, ⟨rfl, contract, rfl⟩, fun _ => Or.inl⟩
  | createSession sessionId launchedBy =>
      exact Or.inr ⟨_, rfl, ⟨launchedBy, rfl⟩, fun _ => Or.inl⟩
  | attachSpawn leaseId pid spawnedAt =>
      left
      refine ⟨rfl, fun other held => ?_⟩
      exact (leaseIdOf_wakeLeaseAttachSpawn pid spawnedAt).trans held
  | _ => exact Or.inl ⟨rfl, fun _ held => held⟩

theorem Moves.log (moves : Moves world after) :
    (after.log = world.log ∧ leaseIdOf after.key = leaseIdOf world.key) ∨
      ∃ event, after.log = event :: world.log ∧ event.Free ∧
        ∀ leaseId, leaseIdOf world.key = some leaseId →
          leaseIdOf after.key = some leaseId ∨ event.removes leaseId = true := by
  cases moves with
  | @ticked held present =>
      left
      refine ⟨rfl, ?_⟩
      rw [present]
      rfl
  | @expired held present =>
      right
      refine ⟨_, rfl, trivial, fun leaseId stored => Or.inr ?_⟩
      rw [present] at stored
      exact beq_iff_eq.mpr stored
  | @renewed session recorded =>
      dsimp only
      split
      · exact Or.inl ⟨rfl, rfl⟩
      · exact Or.inr ⟨_, rfl, trivial, fun _ => Or.inl⟩
  | _ => exact Or.inl ⟨rfl, rfl⟩

end Steps

/-! ## One launch for each lease -/

/-- No lease has two launches. -/
def LaunchesOnce (log : List Event) : Prop :=
  ∀ later call leaseId running earlier, log = later ++ .launched call leaseId running :: earlier →
    ∀ other runtimes, .launched other leaseId runtimes ∉ earlier

/-- A clear by this call is that of a registration, or of a lease whose pid the call
has seen dead. -/
def MayClear (input : Input) (past : Past) (leaseId : String) : Prop :=
  (∃ launchedBy, input = .registration launchedBy) ∨ SawDeadPid past leaseId

structure Launches (uuid : Nat → String) (world : World) : Prop where
  own : ∀ {call leaseId running}, .launched call leaseId running ∈ world.log → leaseId = uuid call
  once : LaunchesOnce world.log

/-- What the log says of one call. -/
structure Told (uuid : Nat → String) (world : World) (id : Nat)
    (call : Call Input Command Reply Result) : Prop where
  drew : ∀ {drawn : String}, ⟨.randomUUID, drawn⟩ ∈ call.past → drawn = uuid id
  acquired : ∀ {lease ttl stored}, ⟨.leaseAcquire lease ttl, (stored, false)⟩ ∈ call.past →
    stored.leaseId = some (uuid id)
  launched : ∀ {leaseId running}, .launched id leaseId running ∈ world.log →
    ¬Never Command.isLaunch call.past
  cleared : ∀ {leaseId}, .cleared id leaseId ∈ world.log → MayClear call.input call.past leaseId

/-- The log says nothing of a number without a call. -/
def Untold (world : World) (id : Nat) : Prop :=
  (∀ leaseId running, .launched id leaseId running ∉ world.log) ∧
    ∀ leaseId, .cleared id leaseId ∉ world.log

section Once

variable {uuid : Nat → String} {id : Nat} {world : World}

theorem SawDeadPid.cons {past : Past} {leaseId : String} (saw : SawDeadPid past leaseId)
    (exchange : Exchange Command Reply) : SawDeadPid (exchange :: past) leaseId := by
  rcases saw with ⟨stored, lease, pid, read, parsed, same, spawned, dead⟩
  exact ⟨stored, lease, pid, List.mem_cons_of_mem _ read, parsed, same, spawned,
    List.mem_cons_of_mem _ dead⟩

theorem MayClear.cons {input : Input} {past : Past} {leaseId : String}
    (may : MayClear input past leaseId) (exchange : Exchange Command Reply) :
    MayClear input (exchange :: past) leaseId := by
  rcases may with registration | saw
  · exact Or.inl registration
  · exact Or.inr (saw.cons exchange)

theorem LaunchesOnce.cons {log : List Event} (once : LaunchesOnce log) {event : Event}
    (fresh : ∀ {call leaseId running}, event = .launched call leaseId running →
      ∀ other runtimes, .launched other leaseId runtimes ∉ log) :
    LaunchesOnce (event :: log) := by
  intro later call leaseId running earlier split
  cases later with
  | nil =>
      rcases List.cons.inj split with ⟨head, tail⟩
      rw [← tail]
      exact fresh head
  | cons first later => exact once later call leaseId running earlier (List.cons.inj split).2

/-- A stored lease that was not there before is the one asked for. -/
theorem stored_of_acquired {lease : WakeLease} {ttl : Nat} {stored : StoredLease}
    {key : Option LeaseKey} (owned : (stored, false) = (wakeLeaseAcquire key lease ttl).1) :
    stored = .complete lease ∧ key = none := by
  cases key with
  | none => exact ⟨congrArg Prod.fst owned, rfl⟩
  | some existing => cases congrArg Prod.snd owned

theorem Told.served {input : Input} {past : Past} {command : Command}
    {next : Reply command → Program Command Reply Result}
    (told : Told uuid world id ⟨input, past, .call command next⟩)
    (asks : Asks input past command) :
    Told uuid (serve uuid id command world).2 id
      ⟨input, ⟨command, (serve uuid id command world).1⟩ :: past,
        next (serve uuid id command world).1⟩ where
  drew := by
    intro drawn member
    rcases List.mem_cons.mp member with head | earlier
    · exact (reply_of_head (fun asked => (serve uuid id asked world).1) head).1
    · exact told.drew earlier
  acquired := by
    intro lease ttl stored member
    rcases List.mem_cons.mp member with head | earlier
    · rcases reply_of_head (fun asked => (serve uuid id asked world).1) head with ⟨owned, rfl⟩
      rw [(stored_of_acquired owned).1]
      exact congrArg some (told.drew asks.2)
    · exact told.acquired earlier
  launched := by
    intro leaseId running member never
    have before : Never Command.isLaunch past :=
      fun exchange earlier => never exchange (List.mem_cons_of_mem _ earlier)
    rcases @serve_log uuid id world command with ⟨same, -⟩ | ⟨event, log, of, -⟩
    · rw [same] at member
      exact told.launched member before
    · rw [log] at member
      rcases List.mem_cons.mp member with head | earlier
      · subst head
        rcases of with ⟨-, contract, rfl⟩
        cases never _ List.mem_cons_self
      · exact told.launched earlier before
  cleared := by
    intro leaseId member
    have kept : .cleared id leaseId ∈ world.log →
        MayClear input (⟨command, (serve uuid id command world).1⟩ :: past) leaseId :=
      fun earlier => (told.cleared earlier).cons _
    rcases @serve_log uuid id world command with ⟨same, -⟩ | ⟨event, log, of, -⟩
    · rw [same] at member
      exact kept member
    · rw [log] at member
      rcases List.mem_cons.mp member with head | earlier
      · subst head
        rcases of with ⟨-, rfl⟩
        exact MayClear.cons asks _
      · exact kept earlier

/-- What a step by another call, or by none, leaves of a call. -/
theorem Told.mono {after : World} {call : Call Input Command Reply Result}
    (told : Told uuid world id call)
    (launched : ∀ {leaseId running}, .launched id leaseId running ∈ after.log →
      .launched id leaseId running ∈ world.log)
    (cleared : ∀ {leaseId}, .cleared id leaseId ∈ after.log → .cleared id leaseId ∈ world.log) :
    Told uuid after id call where
  drew := told.drew
  acquired := told.acquired
  launched member := told.launched (launched member)
  cleared member := told.cleared (cleared member)

theorem mem_log_of_other {other : Nat} (different : other ≠ id) (command : Command) :
    (∀ leaseId running, .launched other leaseId running ∈ (serve uuid id command world).2.log →
      .launched other leaseId running ∈ world.log) ∧
    ∀ leaseId, .cleared other leaseId ∈ (serve uuid id command world).2.log →
      .cleared other leaseId ∈ world.log := by
  rcases @serve_log uuid id world command with ⟨same, -⟩ | ⟨event, log, of, -⟩
  · rw [same]
    exact ⟨fun _ _ member => member, fun _ member => member⟩
  · rw [log]
    constructor
    · intro leaseId running member
      rcases List.mem_cons.mp member with head | earlier
      · exact absurd (head ▸ of : Event.Of id command (.launched other leaseId running)).1 different
      · exact earlier
    · intro leaseId member
      rcases List.mem_cons.mp member with head | earlier
      · exact absurd (head ▸ of : Event.Of id command (.cleared other leaseId)).1 different
      · exact earlier

theorem Moves.mem_log {after : World} (moves : Moves world after) (id : Nat) :
    (∀ leaseId running, .launched id leaseId running ∈ after.log →
      .launched id leaseId running ∈ world.log) ∧
    ∀ leaseId, .cleared id leaseId ∈ after.log → .cleared id leaseId ∈ world.log := by
  rcases moves.log with ⟨same, -⟩ | ⟨event, log, free, -⟩
  · rw [same]
    exact ⟨fun _ _ member => member, fun _ member => member⟩
  · rw [log]
    constructor
    · intro leaseId running member
      rcases List.mem_cons.mp member with head | earlier
      · subst head
        cases free
      · exact earlier
    · intro leaseId member
      rcases List.mem_cons.mp member with head | earlier
      · subst head
        cases free
      · exact earlier

theorem Launches.served {input : Input} {past : Past} {command : Command}
    {next : Reply command → Program Command Reply Result} (injective : Function.Injective uuid)
    (launches : Launches uuid world) (told : Told uuid world id ⟨input, past, .call command next⟩)
    (asks : Asks input past command) : Launches uuid (serve uuid id command world).2 := by
  rcases @serve_log uuid id world command with ⟨same, -⟩ | ⟨event, log, of, -⟩
  · exact ⟨by rw [same]; exact launches.own, by rw [same]; exact launches.once⟩
  · have drawn : ∀ {call leaseId running}, event = .launched call leaseId running →
        call = id ∧ leaseId = uuid id ∧ Never Command.isLaunch past := by
      intro call leaseId running isLaunch
      subst isLaunch
      rcases of with ⟨rfl, contract, rfl⟩
      rcases asks with ⟨never, -, lease, ttl, stored, owned, stores⟩
      exact ⟨rfl, Option.some.inj (stores.symm.trans (told.acquired owned)), never⟩
    constructor
    · intro call leaseId running member
      rw [log] at member
      rcases List.mem_cons.mp member with head | earlier
      · rcases drawn head.symm with ⟨rfl, own, -⟩
        exact own
      · exact launches.own earlier
    · rw [log]
      apply launches.once.cons
      intro call leaseId running isLaunch other runtimes earlier
      rcases drawn isLaunch with ⟨-, own, never⟩
      have same : other = id := injective ((launches.own earlier).symm.trans own)
      subst same
      exact told.launched earlier never

theorem Launches.moved {after : World} (launches : Launches uuid world)
    (moves : Moves world after) : Launches uuid after := by
  constructor
  · intro call leaseId running member
    exact launches.own ((moves.mem_log call).1 leaseId running member)
  · rcases moves.log with ⟨same, -⟩ | ⟨event, log, free, -⟩
    · rw [same]
      exact launches.once
    · rw [log]
      apply launches.once.cons
      intro call leaseId running isLaunch
      subst isLaunch
      cases free

theorem preserves_told (injective : Function.Injective uuid)
    (condition : Condition World Input Command Reply Result) :
    Protocol.Preserves (wakeProtocol uuid)
      (fun world id call command => condition world id call command ∧
        Asks call.input call.past command) (Launches uuid) (Told uuid) Untold where
  opened {world id input} _ untold _ :=
    { drew := fun member => absurd member List.not_mem_nil
      acquired := fun member => absurd member List.not_mem_nil
      launched := fun member => absurd member (untold.1 _ _)
      cleared := fun member => absurd member (untold.2 _) }
  served {world id input past command next} launches told meets := by
    refine ⟨launches.served injective told meets.2, told.served meets.2, fun other different => ?_⟩
    rcases @mem_log_of_other uuid id world other different command with ⟨launched, cleared⟩
    refine ⟨fun call kept => kept.mono (launched _ _) (cleared _), fun untold => ?_⟩
    exact ⟨fun leaseId running member => untold.1 _ _ (launched _ _ member),
      fun leaseId member => untold.2 _ (cleared _ member)⟩
  moved {world after} launches moves := by
    refine ⟨launches.moved moves, fun id => ?_⟩
    rcases moves.mem_log id with ⟨launched, cleared⟩
    refine ⟨fun call kept => kept.mono (launched _ _) (cleared _), fun untold => ?_⟩
    exact ⟨fun leaseId running member => untold.1 _ _ (launched _ _ member),
      fun leaseId member => untold.2 _ (cleared _ member)⟩

end Once

/-! ## Launches that find their own lease -/

/-- A launch is dispatched while its own lease is stored. -/
def LaunchesUnderLease : Condition World Input Command Reply Result := fun world _ _ command =>
  ∀ contract leaseId, command = .dispatchLaunch contract leaseId →
    leaseIdOf world.key = some leaseId

/-- The lease of a launch is still stored, or it has ended since. -/
def Guarded (world : World) : Prop :=
  ∀ later call leaseId running earlier,
    world.log = later ++ .launched call leaseId running :: earlier →
      leaseIdOf world.key = some leaseId ∨ ∃ event ∈ later, event.removes leaseId = true

/-- Between two launches the lease of the first one has ended. -/
def Separated (log : List Event) : Prop :=
  ∀ latest second secondLease secondRunning middle first firstLease firstRunning earliest,
    log = latest ++ .launched second secondLease secondRunning ::
      (middle ++ .launched first firstLease firstRunning :: earliest) →
    ∃ event ∈ middle, event.removes firstLease = true

section Separated

variable {uuid : Nat → String} {id : Nat} {world after : World}

theorem Guarded.same (guarded : Guarded world) (log : after.log = world.log)
    (holds : ∀ leaseId, leaseIdOf world.key = some leaseId →
      leaseIdOf after.key = some leaseId) : Guarded after := by
  intro later call leaseId running earlier split
  rw [log] at split
  rcases guarded _ _ _ _ _ split with held | ended
  · exact Or.inl (holds leaseId held)
  · exact Or.inr ended

theorem Guarded.cons (guarded : Guarded world) {event : Event}
    (log : after.log = event :: world.log)
    (holds : ∀ leaseId, leaseIdOf world.key = some leaseId →
      leaseIdOf after.key = some leaseId ∨ event.removes leaseId = true)
    (launches : ∀ call leaseId running, event = .launched call leaseId running →
      leaseIdOf after.key = some leaseId) : Guarded after := by
  intro later call leaseId running earlier split
  rw [log] at split
  cases later with
  | nil => exact Or.inl (launches call leaseId running (List.cons.inj split).1)
  | cons first later =>
      rcases List.cons.inj split with ⟨head, tail⟩
      subst head
      rcases guarded _ _ _ _ _ tail with held | ⟨ended, member, removes⟩
      · rcases holds leaseId held with kept | removes
        · exact Or.inl kept
        · exact Or.inr ⟨event, List.mem_cons_self, removes⟩
      · exact Or.inr ⟨ended, List.mem_cons_of_mem _ member, removes⟩

theorem Separated.cons {log : List Event} (separated : Separated log) {event : Event}
    (launches : ∀ second secondLease secondRunning middle first firstLease firstRunning earliest,
      event = .launched second secondLease secondRunning →
      log = middle ++ .launched first firstLease firstRunning :: earliest →
      ∃ ended ∈ middle, ended.removes firstLease = true) : Separated (event :: log) := by
  intro latest second secondLease secondRunning middle first firstLease firstRunning earliest split
  cases latest with
  | nil =>
      rcases List.cons.inj split with ⟨head, tail⟩
      exact launches _ _ _ _ _ _ _ _ head tail
  | cons head latest => exact separated _ _ _ _ _ _ _ _ _ (List.cons.inj split).2

theorem guarded_served (guarded : Guarded world) {input : Input} {past : Past} {command : Command}
    {next : Reply command → Program Command Reply Result}
    (meets : LaunchesUnderLease world id ⟨input, past, .call command next⟩ command) :
    Guarded (serve uuid id command world).2 := by
  rcases @serve_log uuid id world command with ⟨same, holds⟩ | ⟨event, log, of, holds⟩
  · exact guarded.same same holds
  · apply guarded.cons log holds
    intro call leaseId running isLaunch
    subst isLaunch
    rcases of with ⟨rfl, contract, rfl⟩
    exact meets contract leaseId rfl

theorem separated_served (separated : Separated world.log) (guarded : Guarded world)
    {input : Input} {past : Past} {command : Command}
    {next : Reply command → Program Command Reply Result}
    (once : LaunchesOnce (serve uuid id command world).2.log)
    (meets : LaunchesUnderLease world id ⟨input, past, .call command next⟩ command) :
    Separated (serve uuid id command world).2.log := by
  rcases @serve_log uuid id world command with ⟨same, -⟩ | ⟨event, log, of, -⟩
  · rw [same]
    exact separated
  · rw [log] at once ⊢
    apply separated.cons
    intro second secondLease secondRunning middle first firstLease firstRunning earliest isLaunch
      split
    subst isLaunch
    rcases of with ⟨rfl, contract, rfl⟩
    rcases guarded _ _ _ _ _ split with held | ended
    · -- the second launch would be for the lease of the first
      have same : firstLease = secondLease :=
        Option.some.inj (held.symm.trans (meets contract secondLease rfl))
      subst same
      have member : .launched first firstLease firstRunning ∈ world.log := by
        rw [split]
        simp
      exact absurd member (once [] _ _ _ _ rfl first firstRunning)
    · exact ended

theorem preserves_separated (injective : Function.Injective uuid) :
    Protocol.Preserves (wakeProtocol uuid)
      (fun world id call command => LaunchesUnderLease world id call command ∧
        Asks call.input call.past command)
      (fun world => Launches uuid world ∧ Guarded world ∧ Separated world.log)
      (Told uuid) Untold where
  opened holds := (preserves_told injective LaunchesUnderLease).opened holds.1
  served {world id input past command next} holds told meets := by
    rcases holds with ⟨launches, guarded, separated⟩
    rcases (preserves_told injective LaunchesUnderLease).served launches told meets with
      ⟨launchesAfter, rest⟩
    exact ⟨⟨launchesAfter, guarded_served guarded meets.1,
      separated_served separated guarded launchesAfter.once meets.1⟩, rest⟩
  moved {world after} holds moves := by
    rcases holds with ⟨launches, guarded, separated⟩
    rcases (preserves_told injective LaunchesUnderLease).moved launches moves with
      ⟨launchesAfter, rest⟩
    refine ⟨⟨launchesAfter, ?_⟩, rest⟩
    rcases moves.log with ⟨same, kept⟩ | ⟨event, log, free, holds⟩
    · rw [same]
      exact ⟨guarded.same same fun _ held => kept.trans held, separated⟩
    · constructor
      · apply guarded.cons log holds
        intro call leaseId running isLaunch
        subst isLaunch
        cases free
      · rw [log]
        apply separated.cons
        intro second secondLease secondRunning middle first firstLease firstRunning earliest
          isLaunch
        subst isLaunch
        cases free

end Separated

/-! ## Runs -/

/-- The event is the end of the lease: its expiry, or a clear by a registration or
by a call that has seen the lease's pid dead. -/
def Ends (system : WakeSystem) (leaseId : String) (event : Event) : Prop :=
  event = .expired (some leaseId) ∨
    ∃ id call, event = .cleared id leaseId ∧ system.calls id = some call ∧
      MayClear call.input call.past leaseId

section Runs

variable {uuid : Nat → String} {system : WakeSystem}

theorem initially_told {world : World} (initial : Initial uuid world) :
    Launches uuid world ∧ ∀ id, Untold world id := by
  refine ⟨⟨?_, ?_⟩, fun id => ⟨?_, ?_⟩⟩
  · rw [initial.log]
    exact fun member => absurd member List.not_mem_nil
  · rw [initial.log]
    intro later call leaseId running earlier split
    exact absurd split.symm (by simp)
  · simp [initial.log]
  · simp [initial.log]

theorem launchesOnce_of_reachable (injective : Function.Injective uuid)
    (reached : (wakeProtocol uuid).Reachable anyStep (Initial uuid) system) :
    LaunchesOnce system.world.log := by
  have holds := (reached.asking follows_program).invariant (fun _ => initially_told)
    (preserves_told injective anyStep)
  exact holds.shared.once

theorem ends_of_reachable (injective : Function.Injective uuid)
    (reached : (wakeProtocol uuid).Reachable LaunchesUnderLease (Initial uuid) system)
    {latest middle earliest : List Event} {second first : Nat} {secondLease firstLease : String}
    {secondRunning firstRunning : List String}
    (log : system.world.log = latest ++ .launched second secondLease secondRunning ::
      (middle ++ .launched first firstLease firstRunning :: earliest)) :
    ∃ event ∈ middle, Ends system firstLease event := by
  have holds := (reached.asking follows_program).invariant
    (fun world initial => ⟨⟨(initially_told initial).1,
        fun _ _ _ _ _ split => absurd (initial.log.symm.trans split).symm (by simp),
        fun _ _ _ _ _ _ _ _ _ split => absurd (initial.log.symm.trans split).symm (by simp)⟩,
      (initially_told initial).2⟩)
    (preserves_separated injective)
  rcases holds.shared.2.2 _ _ _ _ _ _ _ _ _ log with ⟨event, member, removes⟩
  refine ⟨event, member, ?_⟩
  have logged : event ∈ system.world.log := by
    rw [log]
    simp [member]
  cases event with
  | expired leaseId => exact Or.inl (congrArg Event.expired (beq_iff_eq.mp removes))
  | cleared id leaseId =>
      have same : leaseId = firstLease := beq_iff_eq.mp removes
      subst same
      right
      cases running : system.calls id with
      | none => exact absurd logged ((holds.idle id running).2 leaseId)
      | some call => exact ⟨id, call, rfl, running, (holds.own id call running).cleared logged⟩
  | _ => cases removes

end Runs

/-- No lease has two launches. If every launch is dispatched while its own lease is
stored, then between two launches the lease of the first one has expired, was cleared
by a registration, or was cleared by a call that saw its pid dead. A clear or attach
for one lease changes nothing about another. -/
theorem wake_exclusive (uuid : Nat → String) (injective : Function.Injective uuid) :
    (∀ system, (wakeProtocol uuid).Reachable anyStep (Initial uuid) system →
      LaunchesOnce system.world.log) ∧
    (∀ system, (wakeProtocol uuid).Reachable LaunchesUnderLease (Initial uuid) system →
      ∀ latest second secondLease secondRunning middle first firstLease firstRunning earliest,
        system.world.log = latest ++ .launched second secondLease secondRunning ::
          (middle ++ .launched first firstLease firstRunning :: earliest) →
        ∃ event ∈ middle, Ends system firstLease event) ∧
    ∀ key leaseId, leaseIdOf key ≠ some leaseId →
      (wakeLeaseClear key leaseId).2 = key ∧
        ∀ pid spawnedAt, (wakeLeaseAttachSpawn key leaseId pid spawnedAt).2 = key := by
  refine ⟨fun system reached => launchesOnce_of_reachable injective reached, ?_, ?_⟩
  · intro system reached latest second secondLease secondRunning middle first firstLease
      firstRunning earliest log
    exact ends_of_reachable injective reached log
  · intro key leaseId other
    refine ⟨congrArg Prod.snd (wakeLeaseClear_of_ne other), fun pid spawnedAt => ?_⟩
    exact congrArg Prod.snd (wakeLeaseAttachSpawn_of_ne other pid spawnedAt)

/-! ## Two gates and an expiry -/

section Schedules

def sampleGate : Gate := ⟨"worker", "s", 0, "t"⟩

/-- A launchable actor without sessions and without a lease. -/
def sampleWorld : World where
  key := none
  directory := .ok (some ⟨.wakeIfOffline, some ⟨"run", [], none⟩⟩)
  records := []
  members := []
  live := []
  workload := fun _ => .idle
  alive := fun _ => true
  outcome := .dispatched none
  log := []

theorem sampleWorld_initial : Initial unary sampleWorld where
  log := rfl
  fresh _ same := by cases same
  members _ member := absurd member List.not_mem_nil

/-- Serve a number of commands of one call. -/
def advances (system : WakeSystem) (id count : Nat) : WakeSystem :=
  (fun before => (wakeProtocol unary).advance before id)^[count] system

/-- The lease key expires. -/
def expire (system : WakeSystem) : WakeSystem :=
  match system.world.key with
  | some held => { system with world := { system.world with
      key := none, log := .expired held.stored.leaseId :: system.world.log } }
  | none => system

theorem reachable_expire {condition : Condition World Input Command Reply Result}
    {system : WakeSystem}
    (reached : (wakeProtocol unary).Reachable condition (Initial unary) system) :
    (wakeProtocol unary).Reachable condition (Initial unary) (expire system) := by
  unfold expire
  split
  · next held present => exact reached.moved (.expired present)
  · exact reached

/-- The first gate has acquired its lease. -/
def acquiredFirst : WakeSystem :=
  advances ((wakeProtocol unary).start ⟨sampleWorld, fun _ => none⟩ 0 (.gate sampleGate)) 0 6

/-- The lease of the first gate expires before its launch, and a second gate acquires
and launches. Then the first gate launches, while the lease of the second is stored. -/
def launchedLate : WakeSystem :=
  advances (advances ((wakeProtocol unary).start (expire acquiredFirst) 1
    (.gate sampleGate)) 1 7) 0 1

theorem launchedLate_reachable :
    (wakeProtocol unary).Reachable anyStep (Initial unary) launchedLate := by
  have always : ∀ world id call command, anyStep world id call command :=
    fun _ _ _ _ => trivial
  have begun : (wakeProtocol unary).Reachable anyStep (Initial unary)
      ((wakeProtocol unary).start ⟨sampleWorld, fun _ => none⟩ 0 (.gate sampleGate)) :=
    (Protocol.Reachable.init sampleWorld_initial).start 0 _ rfl trivial
  have first : (wakeProtocol unary).Reachable anyStep (Initial unary) acquiredFirst :=
    begun.advances 0 6 always
  exact (((reachable_expire first).start 1 (.gate sampleGate) rfl trivial).advances 1 7
    always).advances 0 1 always

theorem launchedLate_log : launchedLate.world.log =
    [.launched 0 "" [], .launched 1 "u" [], .acquired 1 "u", .looked 1, .expired (some ""),
      .acquired 0 "", .looked 0] := by
  decide +kernel

/-- Two launches with nothing between them. -/
theorem launches_not_separated :
    ¬∀ (uuid : Nat → String), Function.Injective uuid → ∀ system,
      (wakeProtocol uuid).Reachable anyStep (Initial uuid) system →
      ∀ latest second secondLease secondRunning middle first firstLease firstRunning earliest,
        system.world.log = latest ++ .launched second secondLease secondRunning ::
          (middle ++ .launched first firstLease firstRunning :: earliest) →
        ∃ event ∈ middle, Ends system firstLease event := by
  intro separated
  rcases separated unary unary_injective launchedLate launchedLate_reachable [] 0 "" []
    [] 1 "u" [] _ launchedLate_log with ⟨event, member, -⟩
  cases member

/-- Whether the next command, if it is a launch, finds its own lease. -/
def underLease (system : WakeSystem) (id : Nat) : Bool :=
  match Protocol.asked system id with
  | some (.dispatchLaunch _ leaseId) => leaseIdOf system.world.key == some leaseId
  | _ => true

theorem reachable_advances {system : WakeSystem} {id count : Nat}
    (reached : (wakeProtocol unary).Reachable LaunchesUnderLease (Initial unary) system)
    (checked : ∀ earlier < count, underLease (advances system id earlier) id = true) :
    (wakeProtocol unary).Reachable LaunchesUnderLease (Initial unary)
      (advances system id count) := by
  apply reached.advances_of id count
  intro earlier less call command _ next contract leaseId launch
  have found := checked earlier less
  rw [underLease, advances, next, launch] at found
  exact beq_iff_eq.mp found

/-- A gate launches, its lease expires, and another gate launches. -/
def launchedTwice : WakeSystem :=
  advances ((wakeProtocol unary).start (expire (advances acquiredFirst 0 1)) 1
    (.gate sampleGate)) 1 7

theorem launchedTwice_reachable :
    (wakeProtocol unary).Reachable LaunchesUnderLease (Initial unary) launchedTwice := by
  have begun : (wakeProtocol unary).Reachable LaunchesUnderLease (Initial unary)
      ((wakeProtocol unary).start ⟨sampleWorld, fun _ => none⟩ 0 (.gate sampleGate)) :=
    (Protocol.Reachable.init sampleWorld_initial).start 0 _ rfl trivial
  have acquired : (wakeProtocol unary).Reachable LaunchesUnderLease (Initial unary)
      acquiredFirst := reachable_advances begun (by decide +kernel)
  have launched : (wakeProtocol unary).Reachable LaunchesUnderLease (Initial unary)
      (advances acquiredFirst 0 1) := reachable_advances acquired (by decide +kernel)
  exact reachable_advances ((reachable_expire launched).start 1 _ rfl trivial) (by decide +kernel)

theorem launchedTwice_log : launchedTwice.world.log =
    [.launched 1 "u" [], .acquired 1 "u", .looked 1, .expired (some ""), .launched 0 "" [],
      .acquired 0 "", .looked 0] := by
  decide +kernel

theorem launchedTwice_separated :
    ∃ event ∈ [.acquired 1 "u", .looked 1, .expired (some "")], Ends launchedTwice "" event :=
  (wake_exclusive unary unary_injective).2.1 launchedTwice launchedTwice_reachable [] 1
    "u" [] [.acquired 1 "u", .looked 1, .expired (some "")] 0 "" [] _ launchedTwice_log

end Schedules

end GptQueue.Wake
