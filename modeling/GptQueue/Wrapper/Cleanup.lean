import GptQueue.Wrapper.Lifecycle

/-! # What a wrapper releases

A child runs while everything it needs is held. The cleanup releases each phase once, what
depends on it first, and a wrapper that exits with zero has released everything.
-/

namespace GptQueue.WrapperRun

/-! ## Before the cleanup -/

/-- Nothing has been released, and only signals have closed connections by force. -/
structure Starting (run : Run) : Prop where
  calls : run.calls = []
  failures : run.cleanupFailures = fun _ => none
  thrown : run.thrown = none
  released : ∀ phase ∈ run.released, phase = .redis ∧ run.cleanupForced = true
  forced : run.cleanupForced = true → run.firstSignal.isSome
  claim : 1 ≤ run.stage.rank → run.identityClaim = true
  session : 2 ≤ run.stage.rank → run.client.registered = true ∧ run.client.sessionId.isSome
  bridge : 4 ≤ run.stage.rank → run.bridge = true
  child : run.childRunning = true → run.stage = .running ∧ run.cleanupForced = false

/-! ## The cleanup -/

/-- The result is the exit code of the child, or of the signal that kept it from starting. -/
inductive Coded (signals : String → Option Nat) (run : Run) : Nat → Prop
  | child {outcome : ChildOutcome} (isOutcome : run.outcome = some outcome) :
      Coded signals run (exitCodeFor signals outcome)
  | interrupted {signal : String} (first : run.firstSignal = some signal) :
      Coded signals run (exitCodeFor signals ⟨none, some signal⟩)

/-- An attempt is through with a phase. -/
def Handled (run : Run) (finalAttempt : Bool) (phase : CleanupPhase) : Prop :=
  phase ∈ run.released ∨
    if finalAttempt then run.cleanupFailures phase ≠ none
    else ∃ other, run.cleanupFailures other ≠ none

/-- Of two calls for one phase the first failed, in the first attempt. -/
def CleanupCall.Retries (earlier later : CleanupCall) : Prop :=
  earlier.phase = later.phase →
    earlier.release.isReleased = false ∧ earlier.finalAttempt = false ∧
      later.finalAttempt = true

/-- How a phase without a failure was released. -/
inductive Quiet (run : Run) (phase : CleanupPhase) : Prop
  | called {call : CleanupCall} (isCall : call ∈ run.calls) (isPhase : call.phase = phase)
      (released : call.release = .released)
  | forced (isRedis : phase = .redis) (isForced : run.cleanupForced = true)
  | absent (notCalled : ∀ call ∈ run.calls, call.phase ≠ phase)
      (isAbsent : run.absent phase = true)

structure Cleaning (signals : String → Option Nat) (run : Run) : Prop where
  idle : run.childRunning = false
  claim : run.thrown = none → run.identityClaim = true
  bridge : run.thrown = none → run.bridge = true
  session : run.thrown = none →
    run.client.registered = true ∨ ∃ call ∈ run.calls, call.phase = .registration
  coded : run.thrown = none → ∃ code, Coded signals run code ∧
    run.resultCode = if run.stage = .ended then
      finalExitCode signals code run.firstSignal run.cleanupFailed else code
  suffix : ∀ {finalAttempt rest}, run.stage.remaining = some (finalAttempt, rest) →
    rest <:+ steps
  passed : ∀ {finalAttempt rest}, run.stage.remaining = some (finalAttempt, rest) →
    ∀ phase, phase ∉ rest → Handled run finalAttempt phase
  fresh : ∀ {rest}, run.stage.remaining = some (false, rest) →
    ∀ phase ∈ rest, run.cleanupFailures phase = none
  ahead : ∀ {finalAttempt rest}, run.stage.remaining = some (finalAttempt, rest) →
    ∀ call ∈ run.calls, call.phase ∈ rest → call.finalAttempt = false ∧ finalAttempt = true
  early : ∀ {rest}, run.stage.remaining = some (false, rest) →
    ∀ call ∈ run.calls, call.finalAttempt = false
  inFlight : ∀ {finalAttempt phase rest}, run.stage = .releasing finalAttempt phase rest →
    (phase ∈ run.released → phase = .redis ∧ run.cleanupForced = true) ∧
      (∀ call ∈ run.calls, call.phase = phase → call.release.isReleased = false) ∧
      ready finalAttempt run.released phase = true
  spent : ∀ call ∈ run.calls, call.release.isReleased = true → call.phase ∈ run.released
  failing : ∀ call ∈ run.calls, call.phase ∉ run.released →
    run.cleanupFailures call.phase ≠ none
  quiet : ∀ phase ∈ run.released, run.cleanupFailures phase = none → Quiet run phase
  once : run.calls.Pairwise CleanupCall.Retries
  nested : ∀ call ∈ run.calls, ready call.finalAttempt run.released call.phase = true
  done : run.stage = .ended → run.cleanupFailed = false → ∀ phase, phase ∈ run.released

section Cleanup

variable {signals : String → Option Nat} {cleanup : CleanupMode} {run : Run}
  {finalAttempt : Bool} {phase : CleanupPhase} {rest : List CleanupPhase}

theorem suffix_nodup (suffix : rest <:+ steps) : rest.Nodup :=
  suffix.sublist.nodup (by decide)

/-- What a phase waits for comes before it. -/
theorem before_of_not_ready (suffix : phase :: rest <:+ steps) {released : Finset CleanupPhase}
    (notReady : ready finalAttempt released phase = false) :
    finalAttempt = false ∧ ∃ other, other ∉ phase :: rest ∧ other ∉ released := by
  have tails : phase :: rest ∈ steps.tails := (List.mem_tails _ _).mpr suffix
  cases phase with
  | bridge => cases notReady
  | registration => cases notReady
  | claim =>
      simp only [ready, decide_eq_false_iff_not, not_or, Bool.not_eq_true] at notReady
      refine ⟨notReady.2, .registration, ?_, notReady.1⟩
      simp [steps] at tails
      simp [tails]
  | redis =>
      simp only [ready, decide_eq_false_iff_not, not_or, not_and_or, Bool.not_eq_true] at notReady
      have rest_nil : rest = [] := by simpa [steps] using tails
      rcases notReady with ⟨missing | missing, isFirst⟩
      · exact ⟨isFirst, .registration, by simp [rest_nil], missing⟩
      · exact ⟨isFirst, .claim, by simp [rest_nil], missing⟩

theorem cleanupFailed_iff :
    run.cleanupFailed = true ↔ ∃ phase, run.cleanupFailures phase ≠ none := by
  simp [Run.cleanupFailed, mem_steps, Option.ne_none_iff_isSome]

theorem ready_mono {released grown : Finset CleanupPhase} (grows : released ⊆ grown)
    (isReady : ready finalAttempt released phase = true) :
    ready finalAttempt grown phase = true := by
  cases phase with
  | bridge => rfl
  | registration => rfl
  | claim =>
      simp only [ready, decide_eq_true_eq] at isReady ⊢
      exact isReady.imp_left fun member => grows member
  | redis =>
      simp only [ready, decide_eq_true_eq] at isReady ⊢
      exact isReady.imp_left fun members => ⟨grows members.1, grows members.2⟩

theorem Coded.kept {after : Run} {code : Nat} (coded : Coded signals run code)
    (outcome : after.outcome = run.outcome)
    (first : ∀ signal, run.firstSignal = some signal → after.firstSignal = some signal) :
    Coded signals after code := by
  cases coded with
  | child isOutcome => exact .child (outcome.trans isOutcome)
  | interrupted isFirst => exact .interrupted (first _ isFirst)

theorem Quiet.kept {after : Run} (quiet : Quiet run phase) (calls : after.calls = run.calls)
    (forced : run.cleanupForced = true → after.cleanupForced = true)
    (absent : after.absent phase = run.absent phase) : Quiet after phase := by
  cases quiet with
  | called isCall isPhase isReleased => exact .called (calls ▸ isCall) isPhase isReleased
  | forced isRedis isForced => exact .forced isRedis (forced isForced)
  | absent notCalled isAbsent => exact .absent (calls ▸ notCalled) (absent.trans isAbsent)

theorem absent_congr {after : Run} (bridge : after.bridge = run.bridge)
    (client : after.client = run.client) (claim : after.identityClaim = run.identityClaim) :
    after.absent phase = run.absent phase := by
  cases phase <;> simp [Run.absent, bridge, client, claim]

/-- The cleanup begins with nothing released. -/
theorem Cleaning.begins (idle : run.childRunning = false) (calls : run.calls = [])
    (failures : run.cleanupFailures = fun _ => none)
    (released : ∀ phase ∈ run.released, phase = .redis ∧ run.cleanupForced = true)
    (claim : run.thrown = none → run.identityClaim = true)
    (bridge : run.thrown = none → run.bridge = true)
    (session : run.thrown = none → run.client.registered = true)
    (coded : run.thrown = none → Coded signals run run.resultCode) :
    Cleaning signals run.cleans := by
  have nothing : ∀ {property : CleanupCall → Prop}, ∀ call ∈ run.calls, property call := by
    rw [calls]
    exact List.forall_mem_nil _
  refine
    { idle, claim, bridge
      session := fun notThrown => .inl (session notThrown)
      coded := ?_
      suffix := ?_
      passed := ?_
      fresh := fun _ _ _ => by rw [Run.cleans, failures]
      ahead := fun _ => nothing
      early := fun _ => nothing
      inFlight := fun isReleasing => by cases isReleasing
      spent := nothing
      failing := nothing
      quiet := fun phase member _ => .forced (released phase member).1 (released phase member).2
      once := by rw [Run.cleans, calls]; exact List.Pairwise.nil
      nested := nothing
      done := fun isEnded => by cases isEnded }
  · intro notThrown
    obtain ⟨code, isCode, same⟩ : ∃ code, Coded signals run code ∧ run.resultCode = code :=
      ⟨_, coded notThrown, rfl⟩
    exact ⟨code, isCode.kept rfl fun _ => id, same⟩
  · intro finalAttempt rest isRemaining
    cases isRemaining
    exact List.suffix_refl steps
  · intro finalAttempt rest isRemaining phase passed
    cases isRemaining
    exact absurd (mem_steps phase) passed

namespace Cleaning

/-- Connections are closed by force at any time. -/
theorem force (cleaning : Cleaning signals run) :
    Cleaning signals run.forceCleanupConnections := by
  unfold Run.forceCleanupConnections
  split
  · exact cleaning
  · have grows : run.released ⊆ insert .redis run.released := Finset.subset_insert _ _
    exact
      { cleaning with
        coded := fun notThrown => by
          rcases cleaning.coded notThrown with ⟨code, isCode, same⟩
          exact ⟨code, isCode.kept rfl fun _ => id, same⟩
        passed := fun isRemaining phase passed =>
          (cleaning.passed isRemaining phase passed).imp_left fun member => grows member
        inFlight := fun isReleasing => by
          have inFlight := cleaning.inFlight isReleasing
          refine ⟨?_, inFlight.2.1, ready_mono grows inFlight.2.2⟩
          intro member
          rcases Finset.mem_insert.mp member with isRedis | released
          · exact ⟨isRedis, rfl⟩
          · exact ⟨(inFlight.1 released).1, rfl⟩
        spent := fun call member released => grows (cleaning.spent call member released)
        failing := fun call member missing =>
          cleaning.failing call member fun released => missing (grows released)
        quiet := fun phase member none => by
          rcases Finset.mem_insert.mp member with isRedis | released
          · exact .forced isRedis rfl
          · exact (cleaning.quiet phase released none).kept rfl (fun _ => rfl)
              (absent_congr rfl rfl rfl)
        nested := fun call member => ready_mono grows (cleaning.nested call member)
        done := fun isEnded failed phase => grows (cleaning.done isEnded failed phase) }

theorem signal (cleaning : Cleaning signals run) (live : run.stage ≠ .ended) (signal : String) :
    Cleaning signals (run.forwardSignal signal) := by
  have counted : Cleaning signals
      { run with
        signalCount := run.signalCount + 1
        firstSignal := run.firstSignal.or (some signal) } :=
    { cleaning with
      coded := fun notThrown => by
        rcases cleaning.coded notThrown with ⟨code, isCode, same⟩
        rw [if_neg live] at same
        refine ⟨code, isCode.kept rfl ?_, same.trans (if_neg live).symm⟩
        intro first isFirst
        rw [isFirst]
        rfl
      quiet := fun phase member none =>
        (cleaning.quiet phase member none).kept rfl id (absent_congr rfl rfl rfl) }
  unfold Run.forwardSignal
  split
  · exact counted.force
  · exact counted

theorem coded_live (cleaning : Cleaning signals run) (live : run.stage ≠ .ended)
    (notThrown : run.thrown = none) : Coded signals run run.resultCode := by
  rcases cleaning.coded notThrown with ⟨code, isCode, same⟩
  rw [if_neg live] at same
  exact same ▸ isCode

/-- A step is over without a call. -/
theorem moves (cleaning : Cleaning signals run)
    (isCleaning : run.stage = .cleaning finalAttempt (phase :: rest))
    {released : Finset CleanupPhase} {failures : CleanupPhase → Option String}
    (grows : run.released ⊆ released)
    (only : ∀ other ∈ released, other ∈ run.released ∨ other = phase)
    (others : ∀ other, other ≠ phase → failures other = run.cleanupFailures other)
    (worse : run.cleanupFailures phase ≠ none → failures phase ≠ none)
    (handled : Handled { run with released, cleanupFailures := failures } finalAttempt phase)
    (quietly : phase ∈ released → phase ∉ run.released → failures phase = none →
      (∀ call ∈ run.calls, call.phase ≠ phase) ∧ run.absent phase = true) :
    Cleaning signals
      { run with
        stage := .cleaning finalAttempt rest
        released
        cleanupFailures := failures } := by
  have remaining : run.stage.remaining = some (finalAttempt, phase :: rest) := by
    rw [isCleaning, Stage.remaining]
  have live : run.stage ≠ .ended := by simp [isCleaning]
  have suffix := cleaning.suffix remaining
  have notLater : phase ∉ rest := (List.nodup_cons.mp (suffix_nodup suffix)).1
  have still : ∀ other, run.cleanupFailures other ≠ none → failures other ≠ none := by
    intro other failed
    by_cases same : other = phase
    · exact same ▸ worse (same ▸ failed)
    · rwa [others other same]
  refine
    { cleaning with
      coded := fun notThrown => ⟨_, (cleaning.coded_live live notThrown).kept rfl fun _ => id, rfl⟩
      suffix := ?_
      passed := ?_
      fresh := ?_
      ahead := ?_
      early := ?_
      inFlight := fun isReleasing => by cases isReleasing
      spent := fun call member isReleased => grows (cleaning.spent call member isReleased)
      failing := fun call member missing =>
        still _ (cleaning.failing call member fun inside => missing (grows inside))
      quiet := ?_
      nested := fun call member => ready_mono grows (cleaning.nested call member)
      done := fun isEnded => by cases isEnded }
  · intro attempt others isRemaining
    cases isRemaining
    exact (List.suffix_cons phase rest).trans suffix
  · intro attempt others isRemaining other passed
    cases isRemaining
    by_cases same : other = phase
    · exact same ▸ handled
    · have before := cleaning.passed remaining other (by simp [same, passed])
      rcases before with inside | failed
      · exact .inl (grows inside)
      · right
        cases finalAttempt with
        | true => exact still other failed
        | false =>
            rcases failed with ⟨failing, failed⟩
            exact ⟨failing, still failing failed⟩
  · intro later isRemaining other member
    cases isRemaining
    have different : other ≠ phase := by
      rintro rfl
      exact notLater member
    exact (others other different).trans
      (cleaning.fresh remaining other (List.mem_cons_of_mem phase member))
  · intro attempt later isRemaining call isCall member
    cases isRemaining
    exact cleaning.ahead remaining call isCall (List.mem_cons_of_mem phase member)
  · intro later isRemaining
    cases isRemaining
    exact cleaning.early remaining
  · intro other member none
    by_cases inside : other ∈ run.released
    · have before : run.cleanupFailures other = Option.none := by
        by_contra failed
        exact still other failed none
      exact (cleaning.quiet other inside before).kept rfl id (absent_congr rfl rfl rfl)
    · cases (only other member).resolve_left inside
      rcases quietly member inside none with ⟨notCalled, isAbsent⟩
      exact .absent notCalled ((absent_congr rfl rfl rfl).trans isAbsent)

theorem tries (cleaning : Cleaning signals run)
    (isCleaning : run.stage = .cleaning finalAttempt (phase :: rest)) :
    Cleaning signals (run.tries finalAttempt phase rest) := by
  have remaining : run.stage.remaining = some (finalAttempt, phase :: rest) := by
    rw [isCleaning, Stage.remaining]
  have live : run.stage ≠ .ended := by simp [isCleaning]
  unfold Run.tries
  split
  · next skipped =>
      apply cleaning.moves isCleaning (Finset.Subset.refl _) (fun _ => .inl) (fun _ _ => rfl) id
      · rcases skipped with inside | notReady
        · exact .inl inside
        · -- A phase that is not ready waits for one that has failed.
          rcases before_of_not_ready (cleaning.suffix remaining) notReady with
            ⟨rfl, other, passed, missing⟩
          exact .inr ((cleaning.passed remaining other passed).resolve_left missing)
      · intro inside missing
        exact absurd inside missing
  · next tried =>
      rw [not_or, Bool.not_eq_false] at tried
      rcases tried with ⟨missing, isReady⟩
      split
      · next isAbsent =>
          apply cleaning.moves isCleaning (Finset.subset_insert _ _) _ (fun _ _ => rfl) id
          · exact .inl (Finset.mem_insert_self _ _)
          · intro _ _ none
            refine ⟨?_, isAbsent⟩
            rintro call member rfl
            exact cleaning.failing call member missing none
          · intro other member
            exact (Finset.mem_insert.mp member).symm
      · split
        · next message abandoned =>
            apply cleaning.moves isCleaning (Finset.Subset.refl _) (fun _ => .inl)
              (fun _ different => Function.update_of_ne different _ _)
            · simp
            · right
              cases finalAttempt with
              | true => simp
              | false => exact ⟨phase, by simp⟩
            · intro inside
              exact absurd inside missing
        · exact
            { cleaning with
              coded := fun notThrown =>
                ⟨_, (cleaning.coded_live live notThrown).kept rfl fun _ => id, rfl⟩
              suffix := fun isRemaining => cleaning.suffix (remaining.trans isRemaining)
              passed := fun isRemaining => cleaning.passed (remaining.trans isRemaining)
              fresh := fun isRemaining => cleaning.fresh (remaining.trans isRemaining)
              ahead := fun isRemaining => cleaning.ahead (remaining.trans isRemaining)
              early := fun isRemaining => cleaning.early (remaining.trans isRemaining)
              inFlight := fun isReleasing => by
                cases isReleasing
                refine ⟨fun inside => absurd inside missing, ?_, isReady⟩
                rintro call member rfl
                rw [← Bool.not_eq_true]
                exact fun isReleased => missing (cleaning.spent call member isReleased)
              quiet := fun other member none =>
                (cleaning.quiet other member none).kept rfl id (absent_congr rfl rfl rfl)
              done := fun isEnded => by cases isEnded }

end Cleaning

/-- What has changed when a call is over. -/
structure Settled (run after : Run) (finalAttempt : Bool) (phase : CleanupPhase)
    (rest : List CleanupPhase) (release : Release) : Prop where
  stage : after.stage = .cleaning finalAttempt rest
  idle : after.childRunning = run.childRunning
  claim : after.identityClaim = run.identityClaim
  bridge : after.bridge = run.bridge
  client : phase ≠ .registration → after.client = run.client
  outcome : after.outcome = run.outcome
  forced : after.cleanupForced = run.cleanupForced
  first : after.firstSignal = run.firstSignal
  result : after.resultCode = run.resultCode
  thrown : after.thrown = run.thrown
  calls : after.calls = run.calls ++ [⟨finalAttempt, phase, release⟩]
  grows : run.released ⊆ after.released
  inserted : release.isReleased = true → phase ∈ after.released
  only : ∀ other, other ≠ phase → other ∈ after.released → other ∈ run.released
  failure : after.cleanupFailures phase = release.failure
  others : ∀ other, other ≠ phase → after.cleanupFailures other = run.cleanupFailures other

theorem settled_settles {release : Release} {client : Client}
    (releases : Releases cleanup run phase release client) :
    Settled run (run.settles finalAttempt phase rest release client) finalAttempt phase rest
      release := by
  refine
    { stage := rfl
      idle := rfl
      claim := rfl
      bridge := rfl
      client := ?_
      outcome := rfl
      forced := rfl
      first := rfl
      result := rfl
      thrown := rfl
      calls := rfl
      grows := ?_
      inserted := ?_
      only := ?_
      failure := Function.update_self _ _ _
      others := fun other different => Function.update_of_ne different _ _ }
  · intro other
    cases releases with
    | registration calls => exact absurd rfl other
    | done _ => rfl
    | failed _ error => rfl
  · unfold Run.settles
    dsimp only
    split
    · exact Finset.subset_insert _ _
    · exact Finset.Subset.refl _
  · intro isReleased
    unfold Run.settles
    dsimp only
    rw [if_pos isReleased]
    exact Finset.mem_insert_self _ _
  · intro other different member
    unfold Run.settles at member
    dsimp only at member
    split at member
    · exact Finset.mem_of_mem_insert_of_ne member different
    · exact member

section Settling

variable {after : Run} {release : Release}

theorem Settled.unreleased (settled : Settled run after finalAttempt phase rest release)
    (failed : release.isReleased = false) : after.cleanupFailures phase ≠ none := by
  rw [settled.failure]
  cases release with
  | failed error => exact Option.some_ne_none error
  | released => cases failed
  | warned warning => cases failed

theorem Settled.absent (settled : Settled run after finalAttempt phase rest release)
    {other : CleanupPhase} (different : other ≠ phase) :
    after.absent other = run.absent other := by
  by_cases isRegistration : phase = .registration
  · subst isRegistration
    cases other with
    | bridge => simp [Run.absent, settled.bridge]
    | registration => exact absurd rfl different
    | claim => simp [Run.absent, settled.claim]
    | redis => rfl
  · exact absent_congr settled.bridge (settled.client isRegistration) settled.claim

theorem Settled.remaining (settled : Settled run after finalAttempt phase rest release)
    {attempt : Bool} {later : List CleanupPhase}
    (isRemaining : after.stage.remaining = some (attempt, later)) :
    attempt = finalAttempt ∧ later = rest := by
  rw [settled.stage] at isRemaining
  cases isRemaining
  exact ⟨rfl, rfl⟩

/-- The attempt is through with the phase as well. -/
theorem Settled.passed (settled : Settled run after finalAttempt phase rest release)
    (cleaning : Cleaning signals run)
    (remaining : run.stage.remaining = some (finalAttempt, phase :: rest)) {other : CleanupPhase}
    (passed : other ∉ rest) : Handled after finalAttempt other := by
  by_cases same : other = phase
  · subst same
    cases isReleased : release.isReleased with
    | true => exact .inl (settled.inserted isReleased)
    | false =>
        right
        cases finalAttempt with
        | true => exact settled.unreleased isReleased
        | false => exact ⟨other, settled.unreleased isReleased⟩
  · rcases cleaning.passed remaining other (by simp [same, passed]) with inside | failed
    · exact .inl (settled.grows inside)
    · right
      cases finalAttempt with
      | true =>
          rw [if_pos rfl, settled.others other same]
          exact failed
      | false =>
          -- Nothing that failed in this attempt is tried again in it.
          rcases failed with ⟨failing, failed⟩
          have different : failing ≠ phase := by
            rintro rfl
            exact failed (cleaning.fresh remaining failing List.mem_cons_self)
          exact ⟨failing, by rwa [settled.others failing different]⟩

theorem Settled.quiet (settled : Settled run after finalAttempt phase rest release)
    (cleaning : Cleaning signals run) {other : CleanupPhase} (member : other ∈ after.released)
    (none : after.cleanupFailures other = none) : Quiet after other := by
  by_cases same : other = phase
  · subst same
    rw [settled.failure] at none
    apply Quiet.called
    · rw [settled.calls]
      exact List.mem_append_right _ (List.mem_singleton.mpr rfl)
    · rfl
    · exact Release.released_of_failure none
  · rw [settled.others other same] at none
    cases cleaning.quiet other (settled.only other same member) none with
    | called isCall isPhase isReleased =>
        exact .called (settled.calls ▸ List.mem_append_left _ isCall) isPhase isReleased
    | forced isRedis isForced => exact .forced isRedis (settled.forced.trans isForced)
    | absent notCalled isAbsent =>
        apply Quiet.absent
        · rw [settled.calls, List.forall_mem_append, List.forall_mem_singleton]
          exact ⟨notCalled, Ne.symm same⟩
        · exact (settled.absent same).trans isAbsent

theorem Cleaning.settles (cleaning : Cleaning signals run)
    (isReleasing : run.stage = .releasing finalAttempt phase rest)
    (settled : Settled run after finalAttempt phase rest release) : Cleaning signals after := by
  have remaining : run.stage.remaining = some (finalAttempt, phase :: rest) := by
    rw [isReleasing, Stage.remaining]
  have live : run.stage ≠ .ended := by simp [isReleasing]
  have suffix := cleaning.suffix remaining
  have notLater : phase ∉ rest := (List.nodup_cons.mp (suffix_nodup suffix)).1
  have inFlight := cleaning.inFlight isReleasing
  have isLive : ∀ {property : Prop}, after.stage = .ended → property := by
    intro property isEnded
    cases settled.stage ▸ isEnded
  refine
    { idle := settled.idle.trans cleaning.idle
      claim := fun notThrown =>
        settled.claim.trans (cleaning.claim (settled.thrown ▸ notThrown))
      bridge := fun notThrown =>
        settled.bridge.trans (cleaning.bridge (settled.thrown ▸ notThrown))
      session := ?_
      coded := ?_
      suffix := ?_
      passed := ?_
      fresh := ?_
      ahead := ?_
      early := ?_
      inFlight := fun isReleasing => by cases settled.stage ▸ isReleasing
      spent := ?_
      failing := ?_
      quiet := fun other member none => settled.quiet cleaning member none
      once := ?_
      nested := ?_
      done := isLive }
  · intro notThrown
    rw [settled.calls]
    by_cases isRegistration : phase = .registration
    · exact .inr ⟨_, List.mem_append_right _ (List.mem_singleton.mpr rfl), isRegistration⟩
    · rcases cleaning.session (settled.thrown ▸ notThrown) with
        registered | ⟨call, isCall, isPhase⟩
      · rw [settled.client isRegistration]
        exact .inl registered
      · exact .inr ⟨call, List.mem_append_left _ isCall, isPhase⟩
  · intro notThrown
    have isCode := cleaning.coded_live live (settled.thrown ▸ notThrown)
    refine ⟨run.resultCode, isCode.kept settled.outcome ?_, ?_⟩
    · rw [settled.first]
      exact fun _ => id
    · rw [if_neg (by simp [settled.stage]), settled.result]
  · intro attempt later isRemaining
    rcases settled.remaining isRemaining with ⟨rfl, rfl⟩
    exact (List.suffix_cons phase _).trans suffix
  · intro attempt later isRemaining other passed
    rcases settled.remaining isRemaining with ⟨rfl, rfl⟩
    exact settled.passed cleaning remaining passed
  · intro later isRemaining other member
    rcases settled.remaining isRemaining with ⟨rfl, rfl⟩
    have different : other ≠ phase := by
      rintro rfl
      exact notLater member
    rw [settled.others other different]
    exact cleaning.fresh remaining other (List.mem_cons_of_mem phase member)
  · intro attempt later isRemaining
    rcases settled.remaining isRemaining with ⟨rfl, rfl⟩
    rw [settled.calls, List.forall_mem_append, List.forall_mem_singleton]
    refine ⟨?_, fun member => absurd member notLater⟩
    intro call isCall member
    exact cleaning.ahead remaining call isCall (List.mem_cons_of_mem phase member)
  · intro later isRemaining
    rcases settled.remaining isRemaining with ⟨rfl, rfl⟩
    rw [settled.calls, List.forall_mem_append, List.forall_mem_singleton]
    exact ⟨cleaning.early remaining, rfl⟩
  · rw [settled.calls, List.forall_mem_append, List.forall_mem_singleton]
    exact ⟨fun call isCall isReleased => settled.grows (cleaning.spent call isCall isReleased),
      settled.inserted⟩
  · have missing : phase ∉ after.released → after.cleanupFailures phase ≠ none := by
      intro missing
      apply settled.unreleased
      rw [← Bool.not_eq_true]
      exact fun isReleased => missing (settled.inserted isReleased)
    rw [settled.calls, List.forall_mem_append, List.forall_mem_singleton]
    refine ⟨?_, missing⟩
    intro call isCall isMissing
    by_cases same : call.phase = phase
    · exact same ▸ missing (same ▸ isMissing)
    · rw [settled.others _ same]
      exact cleaning.failing call isCall fun inside => isMissing (settled.grows inside)
  · rw [settled.calls, List.pairwise_append]
    refine ⟨cleaning.once, List.pairwise_singleton _ _, ?_⟩
    intro call isCall made isMade isPhase
    cases List.mem_singleton.mp isMade
    have ahead := cleaning.ahead remaining call isCall (isPhase ▸ List.mem_cons_self)
    exact ⟨inFlight.2.1 call isCall isPhase, ahead.1, ahead.2⟩
  · rw [settled.calls, List.forall_mem_append, List.forall_mem_singleton]
    exact ⟨fun call isCall => ready_mono settled.grows (cleaning.nested call isCall),
      ready_mono settled.grows inFlight.2.2⟩

end Settling

theorem Cleaning.reports (cleaning : Cleaning signals run)
    (isCleaning : run.stage = .cleaning finalAttempt []) :
    Cleaning signals (run.reports signals finalAttempt) := by
  have remaining : run.stage.remaining = some (finalAttempt, []) := by
    rw [isCleaning, Stage.remaining]
  have live : run.stage ≠ .ended := by simp [isCleaning]
  unfold Run.reports
  split
  · next again =>
      rcases again with ⟨-, rfl⟩
      exact
        { cleaning with
          coded := fun notThrown =>
            ⟨_, (cleaning.coded_live live notThrown).kept rfl fun _ => id, rfl⟩
          suffix := fun isRemaining => by
            cases isRemaining
            exact List.suffix_refl steps
          passed := fun isRemaining phase passed => by
            cases isRemaining
            exact absurd (mem_steps phase) passed
          fresh := fun isRemaining => by cases isRemaining
          ahead := fun isRemaining call isCall _ => by
            cases isRemaining
            exact ⟨cleaning.early remaining call isCall, rfl⟩
          early := fun isRemaining => by cases isRemaining
          inFlight := fun isReleasing => by cases isReleasing
          quiet := fun phase member none =>
            (cleaning.quiet phase member none).kept rfl id (absent_congr rfl rfl rfl)
          done := fun isEnded => by cases isEnded }
  · exact
      { cleaning with
        coded := fun notThrown =>
          ⟨_, (cleaning.coded_live live notThrown).kept rfl fun _ => id, rfl⟩
        suffix := fun isRemaining => by cases isRemaining
        passed := fun isRemaining => by cases isRemaining
        fresh := fun isRemaining => by cases isRemaining
        ahead := fun isRemaining => by cases isRemaining
        early := fun isRemaining => by cases isRemaining
        inFlight := fun isReleasing => by cases isReleasing
        quiet := fun phase member none =>
          (cleaning.quiet phase member none).kept rfl id (absent_congr rfl rfl rfl)
        done := fun _ quiet phase => by
          apply (cleaning.passed remaining phase List.not_mem_nil).resolve_right
          intro failed
          apply Bool.false_ne_true
          rw [← quiet]
          apply cleanupFailed_iff.mpr
          cases finalAttempt with
          | true => exact ⟨phase, failed⟩
          | false => exact failed }

/-! ## Every step -/

theorem Starting.force (starting : Starting run) (idle : run.childRunning = false)
    (first : run.firstSignal.isSome) : Starting run.forceCleanupConnections := by
  unfold Run.forceCleanupConnections
  split
  · exact starting
  · exact
      { starting with
        released := fun phase member => by
          refine ⟨?_, rfl⟩
          rcases Finset.mem_insert.mp member with isRedis | released
          · exact isRedis
          · exact (starting.released phase released).1
        forced := fun _ => first
        child := fun isRunning => by simp [idle] at isRunning }

theorem Starting.signal (starting : Starting run) (signal : String) :
    Starting (run.forwardSignal signal) := by
  have first : (run.firstSignal.or (some signal)).isSome := by
    cases run.firstSignal <;> rfl
  have counted : Starting
      { run with
        signalCount := run.signalCount + 1
        firstSignal := run.firstSignal.or (some signal) } :=
    { starting with forced := fun _ => first }
  unfold Run.forwardSignal
  split
  · next forces => exact counted.force forces.1 first
  · exact counted

theorem Starting.idle_of (starting : Starting run) (notRunning : run.stage ≠ .running) :
    run.childRunning = false := by
  rw [← Bool.not_eq_true]
  exact fun isRunning => notRunning (starting.child isRunning).1

/-- The cleanup begins after an error. -/
theorem Starting.throws (starting : Starting run) (idle : run.childRunning = false)
    (error : String) : Cleaning signals (run.throws error) :=
  Cleaning.begins idle starting.calls starting.failures starting.released nofun nofun nofun nofun

/-- The cleanup begins when everything is held. -/
theorem Starting.cleans (starting : Starting run) (idle : run.childRunning = false)
    (late : 3 ≤ run.stage.rank) (bridge : run.bridge = true)
    (coded : Coded signals run run.resultCode) : Cleaning signals run.cleans :=
  Cleaning.begins idle starting.calls starting.failures starting.released
    (fun _ => starting.claim (by omega)) (fun _ => bridge)
    (fun _ => (starting.session (by omega)).1) (fun _ => coded)

inductive Sound (signals : String → Option Nat) (run : Run) : Prop
  | starting (startup : run.stage.rank < 6) (starting : Starting run)
  | cleaning (cleanup : ¬run.stage.rank < 6) (cleaning : Cleaning signals run)

theorem Run.stage_force (run : Run) : run.forceCleanupConnections.stage = run.stage := by
  unfold Run.forceCleanupConnections
  split <;> rfl

theorem Run.stage_signal (run : Run) (signal : String) :
    (run.forwardSignal signal).stage = run.stage := by
  unfold Run.forwardSignal
  split
  · exact Run.stage_force _
  · rfl

theorem Sound.starting_of (sound : Sound signals run) (startup : run.stage.rank < 6) :
    Starting run := by
  cases sound with
  | starting _ starting => exact starting
  | cleaning cleanup _ => exact absurd startup cleanup

theorem Sound.cleaning_of (sound : Sound signals run) (cleanup : ¬run.stage.rank < 6) :
    Cleaning signals run := by
  cases sound with
  | starting startup _ => exact absurd startup cleanup
  | cleaning _ cleaning => exact cleaning

theorem Starting.interrupted (starting : Starting run) (idle : run.childRunning = false)
    (late : 3 ≤ run.stage.rank) (bridge : run.bridge = true) {next : Run}
    (goes : run.firstSignal = none → Sound signals next) :
    Sound signals (run.unlessInterrupted signals next) := by
  unfold Run.unlessInterrupted
  split
  · next signal first =>
      have coded : Starting { run with resultCode := exitCodeFor signals ⟨none, some signal⟩ } :=
        { starting with }
      exact .cleaning (Nat.lt_irrefl 6) (coded.cleans idle late bridge (.interrupted first))
  · next none => exact goes none

theorem Sound.step (sound : Sound signals run) {after : Run}
    (stepped : Step signals cleanup run after) : Sound signals after := by
  cases stepped with
  | signal signal live =>
      cases sound with
      | starting startup starting =>
          exact .starting (run.stage_signal signal ▸ startup) (starting.signal signal)
      | cleaning cleanup cleaning =>
          exact .cleaning (run.stage_signal signal ▸ cleanup) (cleaning.signal live signal)
  | deadline inCleanup =>
      have isCleanup : ¬run.stage.rank < 6 := by
        cases stage : run.stage <;> simp [stage, Stage.remaining, Stage.rank] at inCleanup ⊢
      exact .cleaning (run.stage_force ▸ isCleanup) (sound.cleaning_of isCleanup).force
  | acquired acquiring =>
      have starting := sound.starting_of (by simp [acquiring, Stage.rank])
      exact .starting (by decide : (2 : Nat) ≤ 6)
        { starting with
          claim := fun _ => rfl
          session := fun late => absurd late (by decide : ¬2 ≤ 1)
          bridge := fun late => absurd late (by decide : ¬4 ≤ 1)
          child := fun isRunning => by
            simp [starting.idle_of (by simp [acquiring])] at isRunning }
  | registered registering name sessionId =>
      have starting := sound.starting_of (by simp [registering, Stage.rank])
      have idle := starting.idle_of (by simp [registering])
      unfold Run.registers
      dsimp only
      split
      · exact .cleaning (Nat.lt_irrefl 6) (Cleaning.begins idle starting.calls starting.failures
          starting.released nofun nofun nofun nofun)
      · next bound =>
          exact .starting (by decide : (3 : Nat) ≤ 6)
            { starting with
              claim := fun _ => starting.claim (by simp [registering, Stage.rank])
              session := fun _ => ⟨rfl, Option.isSome_iff_ne_none.mpr bound⟩
              bridge := fun late => absurd late (by decide : ¬4 ≤ 2)
              child := fun isRunning => by simp [idle] at isRunning }
  | notRegistered registering client error =>
      have starting := sound.starting_of (by simp [registering, Stage.rank])
      have idle := starting.idle_of (by simp [registering])
      exact .cleaning (Nat.lt_irrefl 6) (Cleaning.begins idle starting.calls starting.failures
        starting.released nofun nofun nofun nofun)
  | asserted asserting =>
      have starting := sound.starting_of (by simp [asserting, Stage.rank])
      exact .starting (by decide : (4 : Nat) ≤ 6)
        { starting with
          claim := fun _ => starting.claim (by simp [asserting, Stage.rank])
          session := fun _ => starting.session (by simp [asserting, Stage.rank])
          bridge := fun late => absurd late (by decide : ¬4 ≤ 3)
          child := fun isRunning => by
            simp [starting.idle_of (by simp [asserting])] at isRunning }
  | bridged bridging =>
      have starting := sound.starting_of (by simp [bridging, Stage.rank])
      have idle := starting.idle_of (by simp [bridging])
      have rank : run.stage.rank = 3 := by rw [bridging, Stage.rank]
      have bridged : Starting { run with bridge := true } :=
        { starting with bridge := fun _ => rfl }
      apply bridged.interrupted idle rank.ge rfl
      intro _
      exact .starting (by decide : (5 : Nat) ≤ 6)
        { bridged with
          claim := fun _ => starting.claim (by omega)
          session := fun _ => starting.session (by omega)
          bridge := fun _ => rfl
          child := fun isRunning => by simp [idle] at isRunning }
  | launched preparing spawned =>
      have starting := sound.starting_of (by simp [preparing, Stage.rank])
      have idle := starting.idle_of (by simp [preparing])
      have rank : run.stage.rank = 4 := by rw [preparing, Stage.rank]
      apply starting.interrupted idle (by omega) (starting.bridge rank.ge)
      intro none
      exact .starting (by decide : (6 : Nat) ≤ 6)
        { starting with
          claim := fun _ => starting.claim (by omega)
          session := fun _ => starting.session (by omega)
          bridge := fun _ => starting.bridge rank.ge
          child := fun _ => by
            refine ⟨rfl, ?_⟩
            rw [← Bool.not_eq_true]
            intro forced
            have first := starting.forced forced
            rw [none] at first
            cases first }
  | exited isRunning outcome =>
      have rank : run.stage.rank < 6 := by
        cases sound with
        | starting startup _ => exact startup
        | cleaning _ cleaning => exact absurd (cleaning.idle.symm.trans isRunning) (by decide)
      have starting := sound.starting_of rank
      have stage := (starting.child isRunning).1
      have rank : run.stage.rank = 5 := by rw [stage, Stage.rank]
      have exits : Starting
          { run with
            childRunning := false
            outcome := some outcome
            resultCode := exitCodeFor signals outcome } :=
        { starting with child := nofun }
      exact .cleaning (Nat.lt_irrefl 6) (exits.cleans rfl (Nat.le_trans (by decide) rank.ge)
        (starting.bridge (by omega)) (.child rfl))
  | thrown startup idle error =>
      exact .cleaning (Nat.lt_irrefl 6) ((sound.starting_of startup).throws idle error)
  | tried isCleaning =>
      have cleaning := sound.cleaning_of (by simp [isCleaning, Stage.rank])
      refine .cleaning ?_ (cleaning.tries isCleaning)
      unfold Run.tries
      repeat' split
      all_goals exact Nat.lt_irrefl 6
  | settled isReleasing releases =>
      have cleaning := sound.cleaning_of (by simp [isReleasing, Stage.rank])
      exact .cleaning (Nat.lt_irrefl 6) (cleaning.settles isReleasing (settled_settles releases))
  | reported isCleaning =>
      have cleaning := sound.cleaning_of (by simp [isCleaning, Stage.rank])
      refine .cleaning ?_ (cleaning.reports isCleaning)
      unfold Run.reports
      split
      · exact Nat.lt_irrefl 6
      · exact Nat.lt_irrefl 6

theorem Reachable.sound (reached : Reachable signals cleanup run) : Sound signals run := by
  induction reached with
  | refl =>
      exact .starting (by decide)
        { calls := rfl
          failures := rfl
          thrown := rfl
          released := fun phase member => absurd member (Finset.notMem_empty phase)
          forced := nofun
          claim := nofun
          session := nofun
          bridge := nofun
          child := nofun }
  | tail _ stepped induction => exact induction.step stepped

/-! ## Whole runs -/

/-- Everything the child depends on is held. -/
structure Protected (run : Run) : Prop where
  claim : run.identityClaim = true
  session : run.client.registered = true ∧ run.client.sessionId.isSome
  bridge : run.bridge = true
  notForced : run.cleanupForced = false
  released : run.released = ∅
  calls : run.calls = []

/-- Whenever the child runs, the name is claimed and registered, the bridge is open and
nothing has been released or closed by force, whatever signals have arrived. -/
theorem child_protected (reached : Reachable signals cleanup run)
    (isRunning : run.childRunning = true) : Protected run := by
  cases reached.sound with
  | cleaning _ cleaning => exact absurd (cleaning.idle.symm.trans isRunning) (by decide)
  | starting _ starting =>
      rcases starting.child isRunning with ⟨stage, notForced⟩
      have rank : run.stage.rank = 5 := by rw [stage, Stage.rank]
      refine ⟨starting.claim (by omega), starting.session (by omega), starting.bridge (by omega),
        notForced, ?_, starting.calls⟩
      apply Finset.eq_empty_of_forall_notMem
      intro phase member
      rw [(starting.released phase member).2] at notForced
      cases notForced

/-- A call has released the phase, without a warning. -/
def Run.Releases (run : Run) (phase : CleanupPhase) : Prop :=
  ∃ call ∈ run.calls, call.phase = phase ∧ call.release = .released

structure ExitsCleanly (run : Run) : Prop where
  notThrown : run.thrown = none
  uninterrupted : run.firstSignal = none
  child : ∃ outcome, run.outcome = some outcome ∧ outcome.code = some 0
  failures : ∀ phase, run.cleanupFailures phase = none

structure ReleasesAll (run : Run) : Prop where
  bridge : run.Releases .bridge
  registration : run.Releases .registration
  claim : run.Releases .claim
  redis : run.Releases .redis ∨ run.cleanupForced = true

theorem Quiet.releases (quiet : Quiet run phase) (other : phase ≠ .redis)
    (held : run.absent phase = false ∨ ∃ call ∈ run.calls, call.phase = phase) :
    run.Releases phase := by
  cases quiet with
  | called isCall isPhase released => exact ⟨_, isCall, isPhase, released⟩
  | forced isRedis _ => exact absurd isRedis other
  | absent notCalled isAbsent =>
      rcases held with present | ⟨call, isCall, isPhase⟩
      · rw [present] at isAbsent
        cases isAbsent
      · exact absurd isPhase (notCalled call isCall)

theorem ExitsCleanly.not_failed (clean : ExitsCleanly run) : run.cleanupFailed = false := by
  rw [← Bool.not_eq_true, cleanupFailed_iff]
  rintro ⟨phase, failed⟩
  exact failed (clean.failures phase)

theorem exitsCleanly_iff (reached : Reachable signals cleanup run)
    (isEnded : run.stage = .ended) : run.exitCode = 0 ↔ ExitsCleanly run := by
  have cleaning := reached.sound.cleaning_of (by simp [isEnded, Stage.rank])
  unfold Run.exitCode
  constructor
  · intro zero
    have notThrown : run.thrown = none := by
      by_contra thrown
      rw [if_pos (Option.isSome_iff_ne_none.mpr thrown)] at zero
      cases zero
    rw [notThrown, Option.isSome_none, if_neg Bool.false_ne_true] at zero
    rcases cleaning.coded notThrown with ⟨code, isCode, same⟩
    rw [if_pos isEnded, zero, eq_comm, finalExitCode_eq_zero] at same
    rcases same with ⟨quiet, uninterrupted, isZero⟩
    have none : ∀ phase, run.cleanupFailures phase = Option.none := by
      intro phase
      by_contra failed
      rw [cleanupFailed_iff.mpr ⟨phase, failed⟩] at quiet
      cases quiet
    refine ⟨notThrown, uninterrupted, ?_, none⟩
    cases isCode with
    | child isOutcome => exact ⟨_, isOutcome, exitCodeFor_eq_zero.mp isZero⟩
    | interrupted first => cases uninterrupted.symm.trans first
  · intro clean
    rw [clean.notThrown, Option.isSome_none, if_neg Bool.false_ne_true]
    rcases cleaning.coded clean.notThrown with ⟨code, isCode, same⟩
    rw [same, if_pos isEnded, finalExitCode_eq_zero]
    refine ⟨clean.not_failed, clean.uninterrupted, ?_⟩
    cases isCode with
    | child isOutcome =>
        rcases clean.child with ⟨outcome, isChild, isZero⟩
        cases isOutcome.symm.trans isChild
        exact exitCodeFor_eq_zero.mpr isZero
    | interrupted first => cases clean.uninterrupted.symm.trans first

/-- What had no failure was released by a call, unless there was nothing to release. -/
theorem ExitsCleanly.releases (clean : ExitsCleanly run) (reached : Reachable signals cleanup run)
    (isEnded : run.stage = .ended) : ReleasesAll run := by
  have cleaning := reached.sound.cleaning_of (by simp [isEnded, Stage.rank])
  have released := fun phase =>
    cleaning.quiet phase (cleaning.done isEnded clean.not_failed phase) (clean.failures phase)
  refine ⟨?_, ?_, ?_, ?_⟩
  · exact (released .bridge).releases (by decide)
      (.inl (by simp [Run.absent, cleaning.bridge clean.notThrown]))
  · apply (released .registration).releases (by decide)
    rcases cleaning.session clean.notThrown with registered | called
    · exact .inl (by simp [Run.absent, registered])
    · exact .inr called
  · exact (released .claim).releases (by decide)
      (.inl (by simp [Run.absent, cleaning.claim clean.notThrown]))
  · cases released .redis with
    | called isCall isPhase isReleased => exact .inl ⟨_, isCall, isPhase, isReleased⟩
    | forced _ isForced => exact .inr isForced
    | absent _ isAbsent => cases isAbsent

/-- A wrapper exits with zero exactly if the child did, no signal arrived and nothing failed;
then the bridge, the registration and the claim were all released without a warning. -/
theorem exit_zero (reached : Reachable signals cleanup run) (isEnded : run.stage = .ended) :
    (run.exitCode = 0 ↔ ExitsCleanly run) ∧ (run.exitCode = 0 → ReleasesAll run) := by
  have clean := exitsCleanly_iff reached isEnded
  exact ⟨clean, fun zero => (clean.mp zero).releases reached isEnded⟩

/-- How the phases are released. -/
structure ReleasedInOrder (run : Run) : Prop where
  /-- In the first attempt the claim waits for the registration, and Redis for both. -/
  nested : ∀ call ∈ run.calls, call.finalAttempt = false →
    (call.phase = .claim → .registration ∈ run.released) ∧
      (call.phase = .redis → .registration ∈ run.released ∧ .claim ∈ run.released)
  once : run.calls.Pairwise CleanupCall.Retries
  spent : ∀ call ∈ run.calls, call.release.isReleased = true → call.phase ∈ run.released
  reported : run.stage = .ended → ∀ phase, phase ∉ run.released → run.exitCode ≠ 0

/-- Nothing is released before what depends on it, except in the last attempt; nothing is
released twice or tried more than twice; and what was not released shows in the exit code. -/
theorem released_in_order (reached : Reachable signals cleanup run)
    (begun : ¬run.stage.rank < 6) : ReleasedInOrder run := by
  have cleaning := reached.sound.cleaning_of begun
  refine ⟨?_, cleaning.once, cleaning.spent, ?_⟩
  · intro call isCall isFirst
    have nested := cleaning.nested call isCall
    rw [isFirst] at nested
    constructor
    · intro isPhase
      rw [isPhase] at nested
      simpa [ready] using nested
    · intro isPhase
      rw [isPhase] at nested
      simpa [ready] using nested
  · intro isEnded phase missing zero
    unfold Run.exitCode at zero
    split at zero
    · cases zero
    · next notThrown =>
        rcases cleaning.coded (by simpa using notThrown) with ⟨code, -, same⟩
        rw [if_pos isEnded, zero, eq_comm, finalExitCode_eq_zero] at same
        exact missing (cleaning.done isEnded same.1 phase)

end Cleanup

/-! A child that starts and exits with zero. -/

/-- No signal has a number. -/
def unnumbered : String → Option Nat := fun _ => none

def startedRun : Run :=
  { Run.start with
    stage := .running
    identityClaim := true
    client := ⟨some "a", some "s"⟩
    bridge := true
    childRunning := true }

theorem startedRun_reachable : Reachable unnumbered .close startedRun :=
  ((((Relation.ReflTransGen.refl.tail (.acquired rfl)).tail
    (.registered rfl "a" (some "s"))).tail (.asserted rfl)).tail (.bridged rfl)).tail
    (.launched rfl true)

theorem startedRun_protected : Protected startedRun := child_protected startedRun_reachable rfl

/-- Its child exits, and everything is released. -/
theorem exists_exitedRun : ∃ run, Reachable unnumbered .close run ∧ run.stage = .ended ∧
    run.exitCode = 0 := by
  have exited := startedRun_reachable.tail (.exited rfl ⟨some 0, none⟩)
  have bridge := (exited.tail (.tried rfl)).tail (.settled rfl (.done (by decide)))
  have registration := (bridge.tail (.tried rfl)).tail
    (.settled rfl (.registration ⟨none, .ok .unregistered⟩))
  have claim := (registration.tail (.tried rfl)).tail (.settled rfl (.done (by decide)))
  have redis := (claim.tail (.tried rfl)).tail (.settled rfl (.done (by decide)))
  exact ⟨_, redis.tail (.reported rfl), rfl, rfl⟩

theorem exitedRun_clean : ∃ run, run.exitCode = 0 ∧ ExitsCleanly run ∧ ReleasesAll run := by
  rcases exists_exitedRun with ⟨run, reached, isEnded, zero⟩
  have exits := exit_zero reached isEnded
  exact ⟨run, zero, exits.1.mp zero, exits.2 zero⟩

theorem exitedRun_released : ∃ run, run.stage = .ended ∧ ReleasedInOrder run := by
  rcases exists_exitedRun with ⟨run, reached, isEnded, -⟩
  exact ⟨run, isEnded, released_in_order reached (by simp [isEnded, Stage.rank])⟩

end GptQueue.WrapperRun
