import GptQueue.Activation.Dispatcher
import GptQueue.Runtime.SubmitOnce

/-! # Failures before the submission

The ticks of one dispatcher with a Codex adapter, where Redis answers, the binding is
kept and the pending messages stay the same. An operation that was neither requested nor
found in a thread is still pending after a tick, unless the thread could not be examined.
-/

namespace GptQueue.Activation

open RuntimeAdapter (Response examine findTurn activeTurn shows Visible textOf unitemised)

/-! ## Ticks -/

/-- What one tick meets. -/
structure Tick where
  /-- Whether `recoverExpired` succeeds. -/
  recovered : Bool
  claimed : Nat
  clock : String
  backingOff : Bool
  /-- `none` when the read rejects. -/
  thread : Option Json
  /-- How a request of `turn/start` ends. -/
  response : Response

structure Setting where
  host : RuntimeAdapter.Host
  binding : RuntimeAdapter.Binding
  dispatcher : Dispatcher
  /-- `inboxPrompt` for the agent. -/
  prompt : String → String
  pending : List String

structure Dispatching where
  stored : Option ActivationRecord
  adapter : RuntimeAdapter.World
  /-- Of the latest activation; `none` when it has rejected. -/
  outcome : Option RuntimeAdapter.ActivationOutcome
  /-- The threads that have been read. -/
  reads : List Json

def outcomeOf : RuntimeAdapter.ActivationOutcome → ActivationOutcome
  | .started turnId => .started turnId
  | .completed turnId => .completed turnId
  | .queued => .queued
  | .busy => .busy
  | .unavailable => .unavailable
  | .ambiguous => .ambiguous

section Ticks

variable (setting : Setting) (tick : Tick)

def Setting.request (operationId : String) (recoverOnly : Bool) :
    RuntimeAdapter.ActivationRequest :=
  ⟨operationId, setting.prompt operationId, recoverOnly⟩

/-- The adapter at the tick. -/
def Tick.meets (adapter : RuntimeAdapter.World) : RuntimeAdapter.World :=
  { adapter with thread := tick.thread, response := tick.response, aborted := false }

/-- One call of the adapter. -/
def activated (operationId : String) (recoverOnly : Bool) (state : Dispatching) : Dispatching :=
  let ran := (RuntimeAdapter.activate setting.host setting.binding
    (setting.request operationId recoverOnly)).run (RuntimeAdapter.serve setting.host 0)
      (tick.meets state.adapter)
  { state with adapter := ran.2, outcome := ran.1, reads := tick.thread.toList ++ state.reads }

def serveTick : (command : Command) → Dispatching → Reply command × Dispatching
  | .randomUUID, state => (some setting.dispatcher.owner.token, state)
  | .attach _, state => (some true, state)
  | .refresh _, state => (some true, state)
  | .recoverExpired, state => (some tick.recovered, state)
  | .pending, state => (some setting.pending, state)
  | .current, state => (some state.stored, state)
  | .save _ record, state => (some true, { state with stored := record })
  | .zcard, state => (some tick.claimed, state)
  | .clock, state => (some tick.clock, state)
  | .backingOff, state => (some tick.backingOff, state)
  | .trace, state => (some (), state)
  | .activate operationId recoverOnly, state =>
      (some (), activated setting tick operationId recoverOnly state)
  | .outcome, state => (state.outcome.map outcomeOf, state)
  | .aborted, state => (some false, state)
  | .wait, state => (some (), state)
  | .detach _, state => (some (), state)

/-- One `reconcile`, which may end by an exception. -/
def afterTick (state : Dispatching) : Dispatching :=
  ((reconcile setting.dispatcher).run (serveTick setting tick) state).2

end Ticks

def afterTicks (setting : Setting) (ticks : List Tick) (state : Dispatching) : Dispatching :=
  ticks.foldl (fun state tick => afterTick setting tick state) state

/-! ## What a tick does -/

section Parts

variable {setting : Setting} {tick : Tick} {state : Dispatching}

@[simp] theorem run_await (command : Command)
    (next : Answer command → Program Command Reply (Option Next)) :
    (await command next).run (serveTick setting tick) state =
      match (serveTick setting tick command state).1 with
      | none => (none, (serveTick setting tick command state).2)
      | some answer =>
          (next answer).run (serveTick setting tick) (serveTick setting tick command state).2 := by
  rw [await, Program.ask_bind, Program.run_call]
  cases (serveTick setting tick command state).1 with
  | none => rfl
  | some answer => rfl

/-- The record that is saved for an outcome. -/
def settledRecord (setting : Setting) (tick : Tick) (record : ActivationRecord) (recovery : Bool) :
    ActivationOutcome → ActivationRecord
  | .started _ => { record with state := .accepted }
  | .queued => { record with state := .accepted }
  | .completed _ =>
      if record.attempt < setting.dispatcher.maxAttempts then
        createRecord setting.dispatcher setting.pending (record.attempt + 1) tick.clock
      else { record with state := .exhausted }
  | .ambiguous => { record with state := .ambiguous }
  | .busy => { record with state := if recovery then record.state else .pending }
  | .unavailable => { record with state := if recovery then record.state else .pending }

theorem run_saveResult (record : ActivationRecord) (saved : ActivationState) (traces : Bool) :
    ((saveResult setting.dispatcher record saved traces).run (serveTick setting tick) state).2 =
      { state with stored := some { record with state := saved } } := by
  rw [saveResult, run_await]
  dsimp only [serveTick]
  split
  · rw [run_await]
    rfl
  · rfl

theorem run_settle (record : ActivationRecord) (recovery : Bool) (outcome : ActivationOutcome) :
    ((settle setting.dispatcher setting.pending record recovery outcome).run
        (serveTick setting tick) state).2 =
      { state with stored := some (settledRecord setting tick record recovery outcome) } := by
  cases outcome with
  | started turnId => exact run_saveResult record .accepted _
  | queued => exact run_saveResult record .accepted _
  | ambiguous => exact run_saveResult record .ambiguous _
  | completed turnId =>
      rw [settle, settledRecord]
      split
      · rw [run_await]
        dsimp only [serveTick]
        rw [run_await]
        rfl
      · exact run_saveResult record .exhausted _
  | busy =>
      rw [settle, run_await]
      dsimp only [serveTick]
      rw [run_await]
      rfl
  | unavailable =>
      rw [settle, run_await]
      dsimp only [serveTick]
      rw [run_await]
      rfl

/-- A submission calls the adapter and saves for its outcome. -/
theorem run_submit (record : ActivationRecord) (recovery : Bool) :
    ((submit setting.dispatcher setting.pending record recovery).run (serveTick setting tick)
        state).2 =
      match (activated setting tick record.operationId recovery state).outcome with
      | none => activated setting tick record.operationId recovery state
      | some outcome =>
          { activated setting tick record.operationId recovery state with
            stored := some (settledRecord setting tick record recovery (outcomeOf outcome)) } := by
  rw [submit, run_await]
  dsimp only [serveTick]
  rw [run_await]
  dsimp only [serveTick]
  cases isOutcome : (activated setting tick record.operationId recovery state).outcome with
  | none => rfl
  | some outcome =>
      rw [Option.map_some]
      dsimp only
      rw [run_await]
      dsimp only [serveTick]
      rw [if_neg Bool.false_ne_true, run_await]
      dsimp only [serveTick]
      rw [if_pos rfl, run_settle, isOutcome]

/-- The work on a record, once it is stored. -/
theorem run_activateRecord (record : ActivationRecord) :
    ((activateRecord setting.dispatcher setting.pending record).run (serveTick setting tick)
        state).2 =
      if record.state = .exhausted ∨ tick.backingOff = true then state
      else if record.state = .pending then
        ((submit setting.dispatcher setting.pending record false).run (serveTick setting tick)
          { state with stored := some { record with state := .submitting } }).2
      else
        ((submit setting.dispatcher setting.pending record true).run (serveTick setting tick)
          state).2 := by
  rw [activateRecord]
  by_cases exhausted : record.state = .exhausted
  · rw [if_pos exhausted, if_pos (Or.inl exhausted)]
    rfl
  · rw [if_neg exhausted, run_await]
    dsimp only [serveTick]
    by_cases backingOff : tick.backingOff = true
    · rw [if_pos backingOff, if_pos (Or.inr backingOff)]
      rfl
    · rw [if_neg backingOff, if_neg (not_or.mpr ⟨exhausted, backingOff⟩)]
      by_cases isPending : record.state = .pending
      · rw [if_pos isPending, if_pos isPending, run_await]
        dsimp only [serveTick]
        rw [if_pos rfl, run_await]
        dsimp only [serveTick]
      · rw [if_neg isPending, if_neg isPending]

/-- The record a tick works on, which it creates when there is none. -/
def workRecord (setting : Setting) (tick : Tick) (record : Option ActivationRecord) :
    ActivationRecord :=
  record.getD (createRecord setting.dispatcher setting.pending 1 tick.clock)

theorem run_dispatch (record : Option ActivationRecord) (isStored : state.stored = record) :
    ((dispatch setting.dispatcher setting.pending record).run (serveTick setting tick) state).2 =
      if setting.pending = [] ∨ 0 < tick.claimed then state
      else
        ((activateRecord setting.dispatcher setting.pending (workRecord setting tick record)).run
          (serveTick setting tick)
            { state with stored := some (workRecord setting tick record) }).2 := by
  rw [dispatch.eq_def]
  by_cases nothing : setting.pending = []
  · rw [if_pos nothing, if_pos (Or.inl nothing)]
    rfl
  · rw [if_neg nothing, run_await]
    dsimp only [serveTick]
    by_cases claimed : 0 < tick.claimed
    · rw [if_pos claimed, if_pos (Or.inr claimed)]
      rfl
    · rw [if_neg claimed, if_neg (not_or.mpr ⟨nothing, claimed⟩)]
      cases record with
      | some record =>
          dsimp only
          rw [workRecord, Option.getD_some, ← isStored]
      | none =>
          dsimp only
          rw [run_await]
          dsimp only [serveTick]
          rw [run_await]
          dsimp only [serveTick]
          rw [if_pos rfl]
          rfl

/-- The record of a tick after the cleaning. -/
def cleaned (setting : Setting) (record : Option ActivationRecord) : Option ActivationRecord :=
  if setting.pending = [] || stale record setting.pending || superseded record setting.pending then
    none
  else record

theorem afterTick_eq : afterTick setting tick state =
    if tick.recovered then
      ((dispatch setting.dispatcher setting.pending (cleaned setting state.stored)).run
        (serveTick setting tick) { state with stored := cleaned setting state.stored }).2
    else state := by
  rw [afterTick, reconcile, run_await]
  dsimp only [serveTick]
  rw [if_pos rfl, run_await]
  dsimp only [serveTick]
  by_cases recovered : tick.recovered = true
  · rw [if_pos recovered, if_pos recovered, run_await]
    dsimp only [serveTick]
    rw [run_await]
    dsimp only [serveTick]
    rw [cleaned]
    split
    · rw [run_await]
      dsimp only [serveTick]
      rw [if_pos rfl]
    · rfl
  · rw [if_neg recovered, if_neg recovered]
    rfl

end Parts

/-! ## What the adapter does -/

section Adapter

variable {host : RuntimeAdapter.Host} {binding : RuntimeAdapter.Binding}
  {request : RuntimeAdapter.ActivationRequest} {thread : Json}

/-- The thread is that of the binding, its turns can be read as texts, and unless one shows
the operation or is active, all have their items. -/
structure Examinable (host : RuntimeAdapter.Host) (binding : RuntimeAdapter.Binding)
    (request : RuntimeAdapter.ActivationRequest) (thread : Json) : Prop where
  identity : textOf host (thread.field "id") = some binding.runtimeId
  directory : ∃ cwd, thread.field "cwd" = some (.string cwd) ∧
    host.resolve cwd = host.resolve binding.workingDirectory
  ids : ∀ turns, thread.field "turns" = some (.array turns) → ∀ turn ∈ turns,
    textOf host (turn.field "id") ≠ none
  statuses : ∀ turns, thread.field "turns" = some (.array turns) → ∀ turn ∈ turns,
    textOf host (turn.field "status") ≠ none
  itemised : ∀ turns, thread.field "turns" = some (.array turns) →
    findTurn host request turns = some none → activeTurn host turns = some false →
      turns.any (unitemised host) = false

theorem findTurn_ne_none {turns : List Json}
    (ids : ∀ turn ∈ turns, textOf host (turn.field "id") ≠ none)
    (statuses : ∀ turn ∈ turns, textOf host (turn.field "status") ≠ none) :
    findTurn host request turns ≠ none := by
  induction turns with
  | nil => exact Option.some_ne_none _
  | cons turn turns induction =>
      have later := induction (fun turn member => ids turn (List.mem_cons_of_mem _ member))
        fun turn member => statuses turn (List.mem_cons_of_mem _ member)
      rw [findTurn]
      split
      · rcases Option.ne_none_iff_exists'.mp (ids turn List.mem_cons_self) with ⟨id, isId⟩
        rcases Option.ne_none_iff_exists'.mp (statuses turn List.mem_cons_self) with
          ⟨status, isStatus⟩
        rw [isId, isStatus, Option.bind_eq_bind, Option.bind_some]
        split
        · exact later
        · rw [Option.bind_some]
          split <;> exact Option.some_ne_none _
      · exact later

theorem activeTurn_ne_none {turns : List Json}
    (statuses : ∀ turn ∈ turns, textOf host (turn.field "status") ≠ none) :
    activeTurn host turns ≠ none := by
  induction turns with
  | nil => exact Option.some_ne_none _
  | cons turn turns induction =>
      have later := induction fun turn member => statuses turn (List.mem_cons_of_mem _ member)
      rw [activeTurn]
      split
      · rcases Option.ne_none_iff_exists'.mp (statuses turn List.mem_cons_self) with
          ⟨status, isStatus⟩
        rw [isStatus, Option.bind_eq_bind, Option.bind_some]
        split
        · exact Option.some_ne_none _
        · exact later
      · exact later

/-- A turn that is found shows the operation. -/
theorem shown_of_findTurn {turns : List Json} {outcome : RuntimeAdapter.ActivationOutcome}
    (found : findTurn host request turns = some (some outcome)) :
    ∃ turn ∈ turns, shows request turn = true := by
  induction turns with
  | nil => cases found
  | cons turn turns induction =>
      rw [findTurn] at found
      by_cases here : shows request turn = true
      · exact ⟨turn, List.mem_cons_self, here⟩
      · rw [if_neg here] at found
        rcases induction found with ⟨other, member, shown⟩
        exact ⟨other, List.mem_cons_of_mem _ member, shown⟩

/-- An examined thread decides: it shows the operation, defers it, or lets it go on. -/
theorem examine_of_examinable (examinable : Examinable host binding request thread) :
    ∃ verdict, examine host binding request thread = some verdict ∧
      (verdict = .proceeds ∨ verdict = .returns .busy ∨ verdict = .returns .unavailable ∨
        Visible request thread) := by
  rcases examinable.directory with ⟨cwd, isCwd, sameCwd⟩
  unfold examine
  rw [examinable.identity, Option.bind_eq_bind, Option.bind_some, isCwd]
  dsimp only
  rw [if_neg (not_or.mpr ⟨not_not.mpr rfl, not_not.mpr sameCwd⟩)]
  split
  · next turns isTurns =>
      have ids := examinable.ids turns isTurns
      have statuses := examinable.statuses turns isTurns
      rcases Option.ne_none_iff_exists'.mp (@findTurn_ne_none host request turns ids statuses) with
        ⟨found, isFound⟩
      rw [isFound, Option.bind_eq_bind, Option.bind_some]
      cases found with
      | some outcome =>
          rcases shown_of_findTurn isFound with ⟨turn, member, shown⟩
          exact ⟨_, rfl, Or.inr (Or.inr (Or.inr ⟨turns, isTurns, turn, member, shown⟩))⟩
      | none =>
          rcases Option.ne_none_iff_exists'.mp (activeTurn_ne_none statuses) with ⟨active, isActive⟩
          dsimp only
          rw [isActive, Option.bind_eq_bind, Option.bind_some]
          cases active with
          | true => exact ⟨_, rfl, Or.inr (Or.inl rfl)⟩
          | false =>
              rw [examinable.itemised turns isTurns isFound isActive]
              exact ⟨_, rfl, Or.inl rfl⟩
  · exact ⟨_, rfl, Or.inr (Or.inr (Or.inl rfl))⟩

end Adapter

/-! ## What is known of an operation -/

section Known

variable (setting : Setting)

/-- `turn/start` was requested for the operation. -/
def Requested (state : Dispatching) (operationId : String) : Prop :=
  .requested 0 operationId ∈ state.adapter.log

/-- A thread that was read has shown the operation. -/
def Shown (state : Dispatching) (operationId : String) : Prop :=
  ∃ thread ∈ state.reads, Visible (setting.request operationId false) thread

def Known (state : Dispatching) (operationId : String) : Prop :=
  Requested state operationId ∨ Shown setting state operationId

/-- Between two ticks. -/
structure Accounted (state : Dispatching) : Prop where
  record : ∀ record, state.stored = some record →
    record.state = .pending ∨ Known setting state record.operationId
  /-- The adapter remembers requests only. -/
  seen : ∀ operationId ∈ state.adapter.seen.map Prod.fst, Requested state operationId

end Known

section Activated

variable {setting : Setting} {tick : Tick} {state : Dispatching}

theorem mem_remember {State : Type} {seen : List (String × State)} {key other : String}
    {value : State} (member : other ∈ (RuntimeAdapter.remember seen key value).map Prod.fst) :
    other = key ∨ other ∈ seen.map Prod.fst := by
  have inSet : other ∈ (if seen.any (·.1 = key) then
      seen.map fun entry => if entry.1 = key then (key, value) else entry
    else seen ++ [(key, value)]).map Prod.fst := by
    have evicted : ∀ set : List (String × State),
        other ∈ (if 1024 < set.length then set.drop 1 else set).map Prod.fst →
          other ∈ set.map Prod.fst := by
      intro set inside
      split at inside
      · exact ((List.drop_sublist _ _).map Prod.fst).subset inside
      · exact inside
    exact evicted _ member
  split at inSet
  · rcases List.mem_map.mp inSet with ⟨entry, inside, rfl⟩
    rcases List.mem_map.mp inside with ⟨earlier, found, rfl⟩
    by_cases same : earlier.1 = key
    · rw [if_pos same]
      exact Or.inl rfl
    · rw [if_neg same]
      exact Or.inr (List.mem_map.mpr ⟨earlier, found, rfl⟩)
  · rw [List.map_append, List.mem_append, List.map_singleton, List.mem_singleton] at inSet
    exact inSet.symm

/-- A call of the adapter keeps what is known; a submission adds to it or is put off. -/
structure Outcome (setting : Setting) (operationId : String) (recoverOnly : Bool)
    (before after : Dispatching) : Prop where
  stored : after.stored = before.stored
  known : ∀ other, Known setting before other → Known setting after other
  seen : ∀ other ∈ after.adapter.seen.map Prod.fst, Requested after other
  decided : recoverOnly = false → Known setting after operationId ∨
    after.outcome = some .busy ∨ after.outcome = some .unavailable

/-- The adapter, run alone. -/
theorem run_activate (host : RuntimeAdapter.Host) (binding : RuntimeAdapter.Binding)
    (request : RuntimeAdapter.ActivationRequest) (world : RuntimeAdapter.World) :
    (RuntimeAdapter.activate host binding request).run (RuntimeAdapter.serve host 0) world =
      match world.thread with
      | none => (none, world)
      | some thread =>
          match examine host binding request thread with
          | none => (none, world)
          | some (.returns outcome) => (some outcome, world)
          | some .proceeds =>
              if request.recoverOnly then (some .ambiguous, world)
              else if (RuntimeAdapter.serve host 0 (.submit request.operationId) world).1 then
                let answer := (RuntimeAdapter.serve host 0 (.submit request.operationId)
                  world).2.settle host 0 request.operationId
                (some answer.1, answer.2)
              else
                (some .ambiguous,
                  (RuntimeAdapter.serve host 0 (.submit request.operationId) world).2) := by
  rw [RuntimeAdapter.activate, Program.ask_bind, Program.run_call]
  have isRead : RuntimeAdapter.serve host 0 .read world = (world.thread, world) := rfl
  rw [isRead]
  cases world.thread with
  | none => rfl
  | some thread =>
      dsimp only
      cases examine host binding request thread with
      | none => rfl
      | some verdict =>
          cases verdict with
          | returns outcome => rfl
          | proceeds =>
              dsimp only
              by_cases recovering : request.recoverOnly = true
              · rw [if_pos recovering, if_pos recovering]
                rfl
              · rw [if_neg recovering, if_neg recovering, Program.ask_bind, Program.run_call]
                cases (RuntimeAdapter.serve host 0 (.submit request.operationId) world).1 with
                | true => rfl
                | false => rfl

/-- The answer of a request forgets no request, and remembers only its own. -/
theorem settle_keeps (host : RuntimeAdapter.Host) (world : RuntimeAdapter.World)
    (operationId : String) :
    (∀ event ∈ world.log, event ∈ (world.settle host 0 operationId).2.log) ∧
      ∀ other ∈ (world.settle host 0 operationId).2.seen.map Prod.fst,
        other = operationId ∨ other ∈ world.seen.map Prod.fst := by
  unfold RuntimeAdapter.World.settle
  dsimp only
  split
  · split
    · exact ⟨fun _ member => member, fun _ member => Or.inr member⟩
    · split
      · exact ⟨fun _ member => member, fun _ member => Or.inr member⟩
      · exact ⟨fun _ member => member, fun _ member => mem_remember member⟩
  · split
    · exact ⟨fun _ member => member, fun _ member => Or.inr member⟩
    · split
      · exact ⟨fun _ member => member, fun _ member => Or.inr member⟩
      · split
        · refine ⟨fun _ member => List.mem_cons_of_mem _ member, fun other member => Or.inr ?_⟩
          exact (List.filter_sublist.map Prod.fst).subset member
        · exact ⟨fun _ member => member, fun _ member => Or.inr member⟩

/-- The adapter after it has requested a turn. -/
def requesting (operationId : String) (world : RuntimeAdapter.World) : RuntimeAdapter.World :=
  { world with
    seen := RuntimeAdapter.remember world.seen operationId "pending"
    log := .requested 0 operationId :: world.log
    inFlight := Function.update world.inFlight operationId (some 0) }

theorem activated_outcome (operationId : String) (recoverOnly : Bool)
    (seen : ∀ other ∈ state.adapter.seen.map Prod.fst, Requested state other)
    (examined : recoverOnly = false → ∃ thread, tick.thread = some thread ∧
      Examinable setting.host setting.binding (setting.request operationId false) thread) :
    Outcome setting operationId recoverOnly state
      (activated setting tick operationId recoverOnly state) := by
  have shown : ∀ other, Shown setting state other →
      Shown setting (activated setting tick operationId recoverOnly state) other := by
    rintro other ⟨thread, read, visible⟩
    exact ⟨thread, List.mem_append_right _ read, visible⟩
  have ran := run_activate setting.host setting.binding (setting.request operationId recoverOnly)
    (tick.meets state.adapter)
  -- Without a request the log and the memory stay.
  have quiet : ∀ result, (RuntimeAdapter.activate setting.host setting.binding
      (setting.request operationId recoverOnly)).run (RuntimeAdapter.serve setting.host 0)
        (tick.meets state.adapter) = (result, tick.meets state.adapter) →
      (recoverOnly = false → Requested state operationId ∨
        Shown setting (activated setting tick operationId recoverOnly state) operationId ∨
          result = some .busy ∨ result = some .unavailable) →
      Outcome setting operationId recoverOnly state
        (activated setting tick operationId recoverOnly state) := by
    intro result isResult decided
    have sameAdapter : (activated setting tick operationId recoverOnly state).adapter =
        tick.meets state.adapter := congrArg Prod.snd isResult
    have isOutcome : (activated setting tick operationId recoverOnly state).outcome = result :=
      congrArg Prod.fst isResult
    have requested : ∀ other, Requested state other →
        Requested (activated setting tick operationId recoverOnly state) other := by
      intro other found
      rw [Requested, sameAdapter]
      exact found
    refine ⟨rfl, fun other known => known.imp (requested other) (shown other),
      fun other member => ?_, fun fresh => ?_⟩
    · rw [sameAdapter] at member
      exact requested other (seen other member)
    · rw [isOutcome]
      rcases decided fresh with earlier | visible | deferred
      · exact Or.inl (Or.inl (requested operationId earlier))
      · exact Or.inl (Or.inr visible)
      · exact Or.inr deferred
  have isThread : (tick.meets state.adapter).thread = tick.thread := rfl
  rw [isThread] at ran
  cases read : tick.thread with
  | none =>
      rw [read] at ran
      apply quiet _ ran
      intro fresh
      rcases examined fresh with ⟨thread, isRead, -⟩
      rw [read] at isRead
      cases isRead
  | some thread =>
      rw [read] at ran
      dsimp only at ran
      have sees : Visible (setting.request operationId false) thread →
          Shown setting (activated setting tick operationId recoverOnly state) operationId := by
        intro visible
        refine ⟨thread, ?_, visible⟩
        rw [activated, read]
        exact List.mem_cons_self
      have decides : recoverOnly = false → ∃ verdict,
          examine setting.host setting.binding (setting.request operationId false) thread =
            some verdict ∧ (verdict = .proceeds ∨ verdict = .returns .busy ∨
              verdict = .returns .unavailable ∨
                Visible (setting.request operationId false) thread) := by
        intro fresh
        rcases examined fresh with ⟨found, isRead, examinable⟩
        rw [read] at isRead
        cases isRead
        exact examine_of_examinable examinable
      cases isVerdict : examine setting.host setting.binding
          (setting.request operationId recoverOnly) thread with
      | none =>
          rw [isVerdict] at ran
          apply quiet _ ran
          intro fresh
          subst fresh
          rcases decides rfl with ⟨verdict, isSome, -⟩
          rw [isVerdict] at isSome
          cases isSome
      | some verdict =>
          rw [isVerdict] at ran
          cases verdict with
          | returns outcome =>
              apply quiet _ ran
              intro fresh
              subst fresh
              rcases decides rfl with ⟨verdict, isSome, reason⟩
              rw [isVerdict] at isSome
              cases isSome
              rcases reason with proceeds | busy | unavailable | visible
              · cases proceeds
              · cases busy
                exact Or.inr (Or.inr (Or.inl rfl))
              · cases unavailable
                exact Or.inr (Or.inr (Or.inr rfl))
              · exact Or.inr (Or.inl (sees visible))
          | proceeds =>
              dsimp only at ran
              by_cases recovering : (setting.request operationId recoverOnly).recoverOnly = true
              · rw [if_pos recovering] at ran
                apply quiet _ ran
                rintro rfl
                cases recovering
              · rw [if_neg recovering] at ran
                by_cases found : (state.adapter.seen.any fun entry => entry.1 = operationId) = true
                · have unasked : RuntimeAdapter.serve setting.host 0
                      (.submit (setting.request operationId recoverOnly).operationId)
                        (tick.meets state.adapter) = (false, tick.meets state.adapter) :=
                    if_pos found
                  rw [unasked, if_neg Bool.false_ne_true] at ran
                  apply quiet _ ran
                  intro _
                  exact Or.inl (seen operationId (RuntimeAdapter.any_key_iff.mp found))
                · have asked : RuntimeAdapter.serve setting.host 0
                      (.submit (setting.request operationId recoverOnly).operationId)
                        (tick.meets state.adapter) =
                      (true, requesting operationId (tick.meets state.adapter)) := if_neg found
                  rw [asked, if_pos rfl] at ran
                  dsimp only at ran
                  have isAdapter : (activated setting tick operationId recoverOnly state).adapter =
                      ((requesting operationId (tick.meets state.adapter)).settle setting.host 0
                        operationId).2 := congrArg Prod.snd ran
                  rcases settle_keeps setting.host
                    (requesting operationId (tick.meets state.adapter)) operationId with
                    ⟨log, keys⟩
                  have own : Requested (activated setting tick operationId recoverOnly state)
                      operationId := by
                    rw [Requested, isAdapter]
                    exact log _ List.mem_cons_self
                  have requested : ∀ other, Requested state other →
                      Requested (activated setting tick operationId recoverOnly state) other := by
                    intro other earlier
                    rw [Requested, isAdapter]
                    exact log _ (List.mem_cons_of_mem _ earlier)
                  refine ⟨rfl, fun other known => known.imp (requested other) (shown other),
                    fun other member => ?_, fun _ => Or.inl (Or.inl own)⟩
                  rw [isAdapter] at member
                  rcases keys other member with rfl | earlier
                  · exact own
                  · rcases mem_remember earlier with rfl | earlier
                    · exact own
                    · exact requested other (seen other earlier)

/-- What is saved keeps the operation or begins a pending one. -/
theorem settledRecord_cases (record : ActivationRecord) (recovery : Bool)
    (outcome : ActivationOutcome) :
    (settledRecord setting tick record recovery outcome).state = .pending ∨
      (settledRecord setting tick record recovery outcome).operationId = record.operationId := by
  cases outcome with
  | completed turnId =>
      rw [settledRecord]
      split
      · exact Or.inl rfl
      · exact Or.inr rfl
  | _ => exact Or.inr rfl

theorem Accounted.submitted {before after : Dispatching} {record : ActivationRecord}
    {recovery : Bool} (outcome : Outcome setting record.operationId recovery before after)
    (stored : ∀ found, before.stored = some found → found.operationId = record.operationId)
    (known : recovery = true → Known setting before record.operationId) :
    Accounted setting
      (match after.outcome with
      | none => after
      | some result =>
          { after with
            stored := some (settledRecord setting tick record recovery (outcomeOf result)) }) := by
  have reason : Known setting after record.operationId ∨ recovery = false ∧
      (after.outcome = some .busy ∨ after.outcome = some .unavailable) := by
    cases recovery with
    | true => exact Or.inl (outcome.known _ (known rfl))
    | false =>
        rcases outcome.decided rfl with found | deferred
        · exact Or.inl found
        · exact Or.inr ⟨rfl, deferred⟩
  cases isOutcome : after.outcome with
  | none =>
      refine ⟨fun found isStored => Or.inr ?_, outcome.seen⟩
      rw [outcome.stored] at isStored
      rw [stored found isStored]
      rcases reason with found | ⟨-, busy | unavailable⟩
      · exact found
      · rw [isOutcome] at busy
        cases busy
      · rw [isOutcome] at unavailable
        cases unavailable
  | some result =>
      refine ⟨fun found isStored => ?_, outcome.seen⟩
      cases isStored
      rcases reason with known | ⟨rfl, deferred⟩
      · rcases settledRecord_cases record recovery (outcomeOf result) with isPending | same
        · exact Or.inl isPending
        · right
          rw [same]
          exact known
      · rw [isOutcome, Option.some.injEq, Option.some.injEq] at deferred
        rcases deferred with rfl | rfl
        · exact Or.inl rfl
        · exact Or.inl rfl

end Activated

/-! ## Ticks keep the account -/

section Account

variable {setting : Setting} {tick : Tick} {state : Dispatching}

/-- The record for which a tick calls the adapter. -/
def activates (setting : Setting) (tick : Tick) (state : Dispatching) : Option ActivationRecord :=
  if tick.recovered = true ∧ setting.pending ≠ [] ∧ tick.claimed = 0 ∧ tick.backingOff = false then
    let record := workRecord setting tick (cleaned setting state.stored)
    if record.state = .exhausted then none else some record
  else none

/-- The thread can be examined when the tick is to submit. -/
def Examines (setting : Setting) (tick : Tick) (state : Dispatching) : Prop :=
  ∀ record, activates setting tick state = some record → record.state = .pending →
    ∃ thread, tick.thread = some thread ∧
      Examinable setting.host setting.binding (setting.request record.operationId false) thread

def ExaminesAll (setting : Setting) : List Tick → Dispatching → Prop
  | [], _ => True
  | tick :: ticks, state =>
      Examines setting tick state ∧ ExaminesAll setting ticks (afterTick setting tick state)

/-- A tick that activates submits its record, freshly when it is pending. -/
theorem afterTick_of_activates {record : ActivationRecord}
    (isActive : activates setting tick state = some record) :
    afterTick setting tick state =
      if record.state = .pending then
        ((submit setting.dispatcher setting.pending record false).run (serveTick setting tick)
          { state with stored := some { record with state := .submitting } }).2
      else
        ((submit setting.dispatcher setting.pending record true).run (serveTick setting tick)
          { state with stored := some record }).2 := by
  unfold activates at isActive
  split at isActive
  · next meets =>
      dsimp only at isActive
      split at isActive
      · cases isActive
      · next active =>
          cases isActive
          have busy : ¬(setting.pending = [] ∨ 0 < tick.claimed) := by
            rw [not_or, meets.2.2.1]
            exact ⟨meets.2.1, Nat.lt_irrefl 0⟩
          have isOpen :
              ¬((workRecord setting tick (cleaned setting state.stored)).state = .exhausted ∨
              tick.backingOff = true) := by
            rw [not_or, meets.2.2.2]
            exact ⟨active, Bool.false_ne_true⟩
          rw [afterTick_eq, if_pos meets.1, run_dispatch (cleaned setting state.stored) (by rfl),
            if_neg busy, run_activateRecord, if_neg isOpen]
  · cases isActive

/-- A tick that does not activate cleans the record, or creates one. -/
theorem afterTick_of_not_activates (idle : activates setting tick state = none) :
    afterTick setting tick state = state ∨
      afterTick setting tick state = { state with stored := cleaned setting state.stored } ∨
        afterTick setting tick state =
          { state with stored := some (workRecord setting tick
              (cleaned setting state.stored)) } := by
  rw [afterTick_eq]
  split
  · next recovered =>
      rw [run_dispatch (cleaned setting state.stored) (by rfl)]
      split
      · exact Or.inr (Or.inl rfl)
      · next busy =>
          rw [not_or, Nat.not_lt, Nat.le_zero] at busy
          rw [run_activateRecord]
          split
          · exact Or.inr (Or.inr rfl)
          · next isOpen =>
              rw [not_or, Bool.not_eq_true] at isOpen
              unfold activates at idle
              rw [if_pos ⟨recovered, busy.1, busy.2, isOpen.2⟩] at idle
              dsimp only at idle
              rw [if_neg isOpen.1] at idle
              cases idle
  · exact Or.inl rfl

theorem cleaned_cases (record : Option ActivationRecord) :
    cleaned setting record = none ∨ cleaned setting record = record := by
  unfold cleaned
  split
  · exact Or.inl rfl
  · exact Or.inr rfl

/-- A record that a tick works on is pending or the stored one. -/
theorem Accounted.work (accounted : Accounted setting state) :
    (workRecord setting tick (cleaned setting state.stored)).state = .pending ∨
      Known setting state (workRecord setting tick (cleaned setting state.stored)).operationId := by
  cases isCleaned : cleaned setting state.stored with
  | none => exact Or.inl rfl
  | some record =>
      rcases @cleaned_cases setting state.stored with none | same
      · rw [isCleaned] at none
        cases none
      · exact accounted.record record (same ▸ isCleaned)

theorem activates_eq {record : ActivationRecord}
    (isActive : activates setting tick state = some record) :
    record = workRecord setting tick (cleaned setting state.stored) := by
  unfold activates at isActive
  split at isActive
  · dsimp only at isActive
    split at isActive
    · cases isActive
    · exact (Option.some.inj isActive).symm
  · cases isActive

theorem Accounted.next (accounted : Accounted setting state)
    (examines : Examines setting tick state) :
    Accounted setting (afterTick setting tick state) := by
  cases isActive : activates setting tick state with
  | none =>
      rcases afterTick_of_not_activates isActive with same | same | same
      · rw [same]
        exact accounted
      · rw [same]
        refine ⟨fun record isStored => ?_, accounted.seen⟩
        rcases @cleaned_cases setting state.stored with none | kept
        · rw [show cleaned setting state.stored = some record from isStored] at none
          cases none
        · exact accounted.record record (kept ▸ isStored)
      · rw [same]
        refine ⟨fun record isStored => ?_, accounted.seen⟩
        cases isStored
        exact accounted.work
  | some record =>
      have isWork := activates_eq isActive
      rw [afterTick_of_activates isActive]
      split
      · next isPending =>
          rw [run_submit]
          apply Accounted.submitted (@activated_outcome setting tick
            { state with stored := some { record with state := .submitting } } record.operationId
              false accounted.seen fun _ => examines record isActive isPending)
          · intro found isStored
            cases isStored
            rfl
          · intro recovering
            cases recovering
      · next notPending =>
          rw [run_submit]
          apply Accounted.submitted (@activated_outcome setting tick
            { state with stored := some record } record.operationId true accounted.seen
              fun fresh => nomatch fresh)
          · intro found isStored
            cases isStored
            rfl
          · intro _
            rcases @Accounted.work setting tick state accounted with isPending | known
            · exact absurd (isWork ▸ isPending) notPending
            · exact isWork ▸ known

theorem Accounted.run (ticks : List Tick) (accounted : Accounted setting state)
    (examines : ExaminesAll setting ticks state) :
    Accounted setting (afterTicks setting ticks state) := by
  induction ticks generalizing state with
  | nil => exact accounted
  | cons tick ticks induction => exact induction (accounted.next examines.1) examines.2

/-- A thread of the binding with all its turns, none of which is active or shows the
operation. -/
structure Ready (host : RuntimeAdapter.Host) (binding : RuntimeAdapter.Binding)
    (request : RuntimeAdapter.ActivationRequest) (thread : Json) : Prop where
  identity : textOf host (thread.field "id") = some binding.runtimeId
  directory : ∃ cwd, thread.field "cwd" = some (.string cwd) ∧
    host.resolve cwd = host.resolve binding.workingDirectory
  turns : ∃ turns, thread.field "turns" = some (.array turns) ∧
    (∀ turn ∈ turns, shows request turn = false) ∧ activeTurn host turns = some false ∧
      turns.any (unitemised host) = false

theorem findTurn_of_hidden {host : RuntimeAdapter.Host}
    {request : RuntimeAdapter.ActivationRequest} {turns : List Json}
    (hidden : ∀ turn ∈ turns, shows request turn = false) :
    findTurn host request turns = some none := by
  induction turns with
  | nil => rfl
  | cons turn turns induction =>
      rw [findTurn, if_neg (Bool.eq_false_iff.mp (hidden turn List.mem_cons_self))]
      exact induction fun other member => hidden other (List.mem_cons_of_mem _ member)

theorem examine_of_ready {host : RuntimeAdapter.Host} {binding : RuntimeAdapter.Binding}
    {request : RuntimeAdapter.ActivationRequest} {thread : Json}
    (ready : Ready host binding request thread) :
    examine host binding request thread = some .proceeds := by
  rcases ready.directory with ⟨cwd, isCwd, sameCwd⟩
  rcases ready.turns with ⟨turns, isTurns, hidden, idle, itemised⟩
  unfold examine
  rw [ready.identity, Option.bind_eq_bind, Option.bind_some, isCwd]
  dsimp only
  rw [if_neg (not_or.mpr ⟨not_not.mpr rfl, not_not.mpr sameCwd⟩), isTurns]
  dsimp only
  rw [findTurn_of_hidden hidden, Option.bind_eq_bind, Option.bind_some]
  dsimp only
  rw [idle, Option.bind_eq_bind, Option.bind_some, itemised]
  rfl

/-- A pending operation is requested as soon as a tick finds the thread ready. -/
theorem requested_of_ready {record : ActivationRecord} {thread : Json}
    (accounted : Accounted setting state) (isActive : activates setting tick state = some record)
    (isPending : record.state = .pending) (isThread : tick.thread = some thread)
    (ready : Ready setting.host setting.binding (setting.request record.operationId false) thread) :
    Requested (afterTick setting tick state) record.operationId := by
  have ran := run_activate setting.host setting.binding (setting.request record.operationId false)
    (tick.meets state.adapter)
  rw [show (tick.meets state.adapter).thread = some thread from isThread] at ran
  dsimp only at ran
  rw [examine_of_ready ready] at ran
  dsimp only at ran
  rw [if_neg (show ¬(setting.request record.operationId false).recoverOnly = true from
    Bool.false_ne_true)] at ran
  have requested : Requested (activated setting tick record.operationId false
      { state with stored := some { record with state := .submitting } }) record.operationId := by
    by_cases found : (state.adapter.seen.any fun entry => entry.1 = record.operationId) = true
    · have earlier := accounted.seen record.operationId (RuntimeAdapter.any_key_iff.mp found)
      have unasked : RuntimeAdapter.serve setting.host 0
          (.submit (setting.request record.operationId false).operationId)
            (tick.meets state.adapter) = (false, tick.meets state.adapter) := if_pos found
      rw [unasked, if_neg Bool.false_ne_true] at ran
      have isAdapter : (activated setting tick record.operationId false
          { state with stored := some { record with state := .submitting } }).adapter =
            tick.meets state.adapter := congrArg Prod.snd ran
      rw [Requested, isAdapter]
      exact earlier
    · have asked : RuntimeAdapter.serve setting.host 0
          (.submit (setting.request record.operationId false).operationId)
            (tick.meets state.adapter) =
          (true, requesting record.operationId (tick.meets state.adapter)) := if_neg found
      rw [asked, if_pos rfl] at ran
      dsimp only at ran
      have isAdapter : (activated setting tick record.operationId false
          { state with stored := some { record with state := .submitting } }).adapter =
            ((requesting record.operationId (tick.meets state.adapter)).settle setting.host 0
              record.operationId).2 := congrArg Prod.snd ran
      rw [Requested, isAdapter]
      exact (settle_keeps setting.host _ record.operationId).1 _ List.mem_cons_self
  rw [afterTick_of_activates isActive, if_pos isPending, run_submit]
  split
  · exact requested
  · exact requested

/-- A dispatcher that begins: nothing is stored, or a pending record. -/
structure Begins (state : Dispatching) : Prop where
  stored : ∀ record, state.stored = some record → record.state = .pending
  adapter : RuntimeAdapter.Initial state.adapter
  reads : state.reads = []

theorem Begins.accounted (begins : Begins state) : Accounted setting state where
  record found isStored := Or.inl (begins.stored found isStored)
  seen operationId member := by
    rw [begins.adapter.seen] at member
    cases member

/-- What holds between two ticks: an operation that is not known is pending, and the next
tick that finds its thread ready requests it. -/
structure KeepsOperation (setting : Setting) (state : Dispatching) : Prop where
  pending : ∀ record, state.stored = some record → ¬Known setting state record.operationId →
    record.state = .pending
  requests : ∀ tick record thread, activates setting tick state = some record →
    ¬Known setting state record.operationId → tick.thread = some thread →
      Ready setting.host setting.binding (setting.request record.operationId false) thread →
        Requested (afterTick setting tick state) record.operationId

theorem failures_keep_operation (setting : Setting) (ticks : List Tick) (state : Dispatching)
    (begins : Begins state) (examines : ExaminesAll setting ticks state) :
    KeepsOperation setting (afterTicks setting ticks state) := by
  have accounted := (@Begins.accounted setting state begins).run ticks examines
  constructor
  · intro record isStored unknown
    rcases accounted.record record isStored with isPending | known
    · exact isPending
    · exact absurd known unknown
  · intro tick record thread isActive unknown isThread ready
    have isWork := activates_eq isActive
    rcases @Accounted.work setting tick _ accounted with isPending | known
    · exact requested_of_ready accounted isActive (isWork ▸ isPending) isThread ready
    · exact absurd (isWork ▸ known) unknown

end Account

/-! ## A thread that cannot be read -/

section Unread

def exampleSetting : Setting where
  host := RuntimeAdapter.exampleHost
  binding := RuntimeAdapter.exampleBinding
  dispatcher := ⟨⟨"t", "token"⟩, 3, fun _ _ attempt => if attempt = 1 then "op" else "next"⟩
  prompt _ := "Check the inbox"
  pending := ["m"]

def tickOf (thread : Option Json) : Tick where
  recovered := true
  claimed := 0
  clock := "2026-01-01T00:00:00.000Z"
  backingOff := false
  thread := thread
  response := .raised "Error: Codex RPC timeout"

def emptyDispatching : Dispatching where
  stored := none
  adapter := RuntimeAdapter.busyWorld []
  outcome := none
  reads := []

theorem emptyDispatching_begins : Begins emptyDispatching where
  stored _ isStored := nomatch isStored
  adapter := RuntimeAdapter.busyWorld_initial []
  reads := rfl

/-- The read of the thread fails, and the operation stays submitted without a request. -/
theorem failed_read_uses_operation :
    ¬∀ setting ticks state, Begins state →
      KeepsOperation setting (afterTicks setting ticks state) := by
  intro always
  have keeps := always exampleSetting [tickOf none] emptyDispatching emptyDispatching_begins
  have isState : (afterTicks exampleSetting [tickOf none] emptyDispatching).stored.map (·.state) =
      some .submitting := by decide +kernel
  have unasked : (afterTicks exampleSetting [tickOf none] emptyDispatching).adapter.log = [] := by
    decide +kernel
  have unread : (afterTicks exampleSetting [tickOf none] emptyDispatching).reads = [] := rfl
  rcases Option.map_eq_some_iff.mp isState with ⟨record, isStored, isSubmitting⟩
  have isPending := keeps.pending record isStored fun known => by
    rcases known with requested | ⟨thread, read, -⟩
    · rw [Requested, unasked] at requested
      cases requested
    · rw [unread] at read
      cases read
  rw [isSubmitting] at isPending
  cases isPending

/-- The thread has no turns yet, and the operation is requested. -/
theorem ready_read_keeps_operation :
    KeepsOperation exampleSetting (afterTicks exampleSetting
      [tickOf (some (RuntimeAdapter.threadOf []))] emptyDispatching) := by
  apply failures_keep_operation exampleSetting _ emptyDispatching emptyDispatching_begins
  refine ⟨fun record _ _ => ⟨_, rfl, ?_⟩, trivial⟩
  have isTurns : ∀ turns, (RuntimeAdapter.threadOf []).field "turns" = some (.array turns) →
      turns = [] := by
    intro turns same
    cases same
    rfl
  exact
    { identity := rfl
      directory := ⟨"/w", rfl, rfl⟩
      ids := fun turns same turn member => by
        rw [isTurns turns same] at member
        cases member
      statuses := fun turns same turn member => by
        rw [isTurns turns same] at member
        cases member
      itemised := fun turns same _ _ => by
        rw [isTurns turns same]
        rfl }

end Unread

end GptQueue.Activation
