import Mathlib.Data.Finset.Insert
import Mathlib.Data.List.Infix
import Mathlib.Logic.Relation

/-! # The run of a wrapper

A wrapper claims its name, registers it, opens a bridge and runs a child; then it releases
all of them, in one attempt or two. Signals arrive at any time, and the deadline of the
cleanup at any time of the cleanup.
-/

namespace GptQueue.WrapperRun

/-! ## Exit codes -/

structure ChildOutcome where
  code : Option Nat
  signal : Option String
deriving DecidableEq

section ExitCodes

-- The numbers of the signals are those of the platform, `constants.signals`.
variable (signals : String → Option Nat)

def exitCodeFor (outcome : ChildOutcome) : Nat :=
  match outcome.code, outcome.signal with
  | some code, _ => code
  | none, some signal => 128 + (signals signal).getD 0
  | none, none => 1

def finalExitCode (childCode : Nat) (firstSignal : Option String) (cleanupFailed : Bool) : Nat :=
  match cleanupFailed, firstSignal with
  | true, some signal => exitCodeFor signals ⟨none, some signal⟩
  | true, none => 1
  | false, some signal =>
      if childCode = 0 then exitCodeFor signals ⟨none, some signal⟩ else childCode
  | false, none => childCode

variable {signals}

theorem exitCodeFor_eq_zero {outcome : ChildOutcome} :
    exitCodeFor signals outcome = 0 ↔ outcome.code = some 0 := by
  rcases outcome with ⟨code | code, signal | signal⟩ <;> simp [exitCodeFor]

theorem exitCodeFor_signal_ne_zero (signal : String) :
    exitCodeFor signals ⟨none, some signal⟩ ≠ 0 := by
  rw [Ne, exitCodeFor_eq_zero]
  exact nofun

theorem finalExitCode_eq_zero {childCode : Nat} {firstSignal : Option String}
    {cleanupFailed : Bool} :
    finalExitCode signals childCode firstSignal cleanupFailed = 0 ↔
      cleanupFailed = false ∧ firstSignal = none ∧ childCode = 0 := by
  cases cleanupFailed with
  | true =>
      cases firstSignal with
      | none => simp [finalExitCode]
      | some signal => simp [finalExitCode, exitCodeFor_signal_ne_zero]
  | false =>
      cases firstSignal with
      | none => simp [finalExitCode]
      | some signal =>
          by_cases zero : childCode = 0
          · simp [finalExitCode, zero, exitCodeFor_signal_ne_zero]
          · simp [finalExitCode, zero]

end ExitCodes

/-! ## The cleanup -/

inductive CleanupMode
  | close
  | unregister
deriving DecidableEq

inductive CleanupPhase
  | bridge
  | registration
  | claim
  | redis
deriving DecidableEq

/-- What a call to release something comes to. -/
inductive Release
  | released
  | warned (warning : String)
  | failed (error : String)
deriving DecidableEq

def Release.isReleased : Release → Bool
  | .failed _ => false
  | _ => true

/-- What is recorded of it. -/
def Release.failure : Release → Option String
  | .released => none
  | .warned warning => some warning
  | .failed error => some error

theorem Release.released_of_failure {release : Release} (none : release.failure = none) :
    release = .released := by
  cases release with
  | released => rfl
  | warned warning => cases none
  | failed error => cases none

/-- The name and the session of the Redis client. -/
structure Client where
  agentName : Option String
  sessionId : Option String
deriving DecidableEq

def Client.registered (client : Client) : Bool := client.agentName.isSome

inductive ExclusiveUnregisterOutcome
  | unregistered
  | sessionClosedOnly
deriving DecidableEq

/-- What the calls of `releaseRegistration` come to: the error of `closeCurrentSession`, if
any, and what `unregisterExclusiveSession` says. -/
structure RegistrationCalls where
  close : Option String
  unregister : Except String ExclusiveUnregisterOutcome

def releaseRegistration (client : Client) (cleanup : CleanupMode) (identityClaim : Bool)
    (calls : RegistrationCalls) : Release × Client :=
  if client.registered = false then (.released, client)
  else
    match cleanup with
    | .unregister =>
        if identityClaim = false ∨ client.sessionId = none then
          match calls.close with
          | some error => (.failed error, client)
          | none =>
              (.failed ("Destructive cleanup skipped because exclusive session ownership " ++
                "was unavailable."), ⟨none, none⟩)
        else
          match calls.unregister with
          | .error error => (.failed error, client)
          | .ok .sessionClosedOnly =>
              (.warned ("Destructive cleanup skipped because agent " ++
                client.agentName.getD "null" ++ " gained another active session."), client)
          | .ok .unregistered => (.released, client)
    | .close =>
        match calls.close with
        | some error => (.failed error, client)
        | none => (.released, ⟨none, none⟩)

/-- `steps`, in the order in which they are tried. -/
def steps : List CleanupPhase := [.bridge, .registration, .claim, .redis]

theorem mem_steps (phase : CleanupPhase) : phase ∈ steps := by
  cases phase <;> decide

def ready (finalAttempt : Bool) (released : Finset CleanupPhase) : CleanupPhase → Bool
  | .bridge => true
  | .registration => true
  | .claim => .registration ∈ released ∨ finalAttempt
  | .redis => (.registration ∈ released ∧ .claim ∈ released) ∨ finalAttempt

def abandonedMessage : CleanupPhase → Option String
  | .registration => some "Registration cleanup was abandoned after its deadline."
  | .claim => some "Identity claim remains fail-closed after cleanup timeout."
  | _ => none

/-! ## The run -/

inductive Stage
  | acquiring
  | registering
  | asserting
  | bridging
  | preparing
  | running
  /-- Before the next of the steps of an attempt. -/
  | cleaning (finalAttempt : Bool) (steps : List CleanupPhase)
  | releasing (finalAttempt : Bool) (phase : CleanupPhase) (steps : List CleanupPhase)
  | ended
deriving DecidableEq

/-- What an attempt has not dealt with. -/
def Stage.remaining : Stage → Option (Bool × List CleanupPhase)
  | .cleaning finalAttempt steps => some (finalAttempt, steps)
  | .releasing finalAttempt phase steps => some (finalAttempt, phase :: steps)
  | _ => none

def Stage.rank : Stage → Nat
  | .acquiring => 0
  | .registering => 1
  | .asserting => 2
  | .bridging => 3
  | .preparing => 4
  | .running => 5
  | _ => 6

/-- A call to release something, in the attempt that made it. -/
structure CleanupCall where
  finalAttempt : Bool
  phase : CleanupPhase
  release : Release
deriving DecidableEq

structure Run where
  stage : Stage
  identityClaim : Bool
  client : Client
  bridge : Bool
  childRunning : Bool
  outcome : Option ChildOutcome
  released : Finset CleanupPhase
  cleanupFailures : CleanupPhase → Option String
  cleanupForced : Bool
  signalCount : Nat
  firstSignal : Option String
  resultCode : Nat
  thrown : Option String
  /-- The calls that are over, the latest last. -/
  calls : List CleanupCall

namespace Run

def start : Run where
  stage := .acquiring
  identityClaim := false
  client := ⟨none, none⟩
  bridge := false
  childRunning := false
  outcome := none
  released := ∅
  cleanupFailures _ := none
  cleanupForced := false
  signalCount := 0
  firstSignal := none
  resultCode := 1
  thrown := none
  calls := []

variable (signals : String → Option Nat) (run : Run)

def forceCleanupConnections : Run :=
  if run.cleanupForced then run
  else { run with cleanupForced := true, released := insert .redis run.released }

/-- What it sends to a running child is left to the child. -/
def forwardSignal (signal : String) : Run :=
  let counted :=
    { run with
      signalCount := run.signalCount + 1
      firstSignal := run.firstSignal.or (some signal) }
  if run.childRunning = false ∧ 2 ≤ run.signalCount + 1 then counted.forceCleanupConnections
  else counted

/-- The cleanup is what the `finally` block does. -/
def cleans : Run := { run with stage := .cleaning false steps }

def throws (error : String) : Run := { run with thrown := some error }.cleans

/-- Go on, unless a signal has arrived. -/
def unlessInterrupted (next : Run) : Run :=
  match run.firstSignal with
  | some signal => { run with resultCode := exitCodeFor signals ⟨none, some signal⟩ }.cleans
  | none => next

def registers (name : String) (sessionId : Option String) : Run :=
  let bound := { run with client := ⟨some name, sessionId⟩ }
  if sessionId = none then
    bound.throws "Registration returned without a bound GPTQueue session."
  else { bound with stage := .asserting }

def bridges : Run :=
  let bridged := { run with bridge := true }
  bridged.unlessInterrupted signals { bridged with stage := .preparing }

def launches (spawned : Bool) : Run :=
  run.unlessInterrupted signals { run with stage := .running, childRunning := spawned }

def exits (outcome : ChildOutcome) : Run :=
  { run with
    childRunning := false
    outcome := some outcome
    resultCode := exitCodeFor signals outcome }.cleans

def absent : CleanupPhase → Bool
  | .bridge => run.bridge = false
  | .registration => run.client.registered = false
  | .claim => run.identityClaim = false
  | .redis => false

/-- One turn of the loop of `cleanup`, up to the call that releases the phase. -/
def tries (finalAttempt : Bool) (phase : CleanupPhase) (steps : List CleanupPhase) : Run :=
  if phase ∈ run.released ∨ ready finalAttempt run.released phase = false then
    { run with stage := .cleaning finalAttempt steps }
  else if run.absent phase then
    { run with
      stage := .cleaning finalAttempt steps
      released := insert phase run.released }
  else
    match if run.cleanupForced then abandonedMessage phase else none with
    | some message =>
        { run with
          stage := .cleaning finalAttempt steps
          cleanupFailures := Function.update run.cleanupFailures phase (some message) }
    | none => { run with stage := .releasing finalAttempt phase steps }

/-- The call is over. -/
def settles (finalAttempt : Bool) (phase : CleanupPhase) (steps : List CleanupPhase)
    (release : Release) (client : Client) : Run :=
  { run with
    stage := .cleaning finalAttempt steps
    client
    released := if release.isReleased then insert phase run.released else run.released
    cleanupFailures := Function.update run.cleanupFailures phase release.failure
    calls := run.calls ++ [⟨finalAttempt, phase, release⟩] }

def cleanupFailed : Bool := steps.any fun phase => (run.cleanupFailures phase).isSome

/-- An attempt is over. -/
def reports (finalAttempt : Bool) : Run :=
  if run.cleanupFailed ∧ finalAttempt = false then { run with stage := .cleaning true steps }
  else
    { run with
      stage := .ended
      resultCode := finalExitCode signals run.resultCode run.firstSignal run.cleanupFailed }

/-- What `runExperimentalWrapperCli` sets. -/
def exitCode : Nat := if run.thrown.isSome then 1 else run.resultCode

end Run

/-- What a call to release a phase can come to, and the client after it. -/
inductive Releases (cleanup : CleanupMode) (run : Run) : CleanupPhase → Release → Client → Prop
  | registration (calls : RegistrationCalls) :
      Releases cleanup run .registration
        (releaseRegistration run.client cleanup run.identityClaim calls).1
        (releaseRegistration run.client cleanup run.identityClaim calls).2
  | done {phase : CleanupPhase} (other : phase ≠ .registration) :
      Releases cleanup run phase .released run.client
  | failed {phase : CleanupPhase} (other : phase ≠ .registration) (error : String) :
      Releases cleanup run phase (.failed error) run.client

inductive Step (signals : String → Option Nat) (cleanup : CleanupMode) : Run → Run → Prop
  | signal {run : Run} (signal : String) (live : run.stage ≠ .ended) :
      Step signals cleanup run (run.forwardSignal signal)
  | deadline {run : Run} (inCleanup : run.stage.remaining.isSome) :
      Step signals cleanup run run.forceCleanupConnections
  | acquired {run : Run} (acquiring : run.stage = .acquiring) :
      Step signals cleanup run { run with identityClaim := true, stage := .registering }
  | registered {run : Run} (registering : run.stage = .registering) (name : String)
      (sessionId : Option String) : Step signals cleanup run (run.registers name sessionId)
  /-- A registration can fail before or after the client has its name. -/
  | notRegistered {run : Run} (registering : run.stage = .registering) (client : Client)
      (error : String) : Step signals cleanup run ({ run with client }.throws error)
  | asserted {run : Run} (asserting : run.stage = .asserting) :
      Step signals cleanup run { run with stage := .bridging }
  | bridged {run : Run} (bridging : run.stage = .bridging) :
      Step signals cleanup run (run.bridges signals)
  | launched {run : Run} (preparing : run.stage = .preparing) (spawned : Bool) :
      Step signals cleanup run (run.launches signals spawned)
  | exited {run : Run} (isRunning : run.childRunning = true) (outcome : ChildOutcome) :
      Step signals cleanup run (run.exits signals outcome)
  /-- A call of the `try` block fails. -/
  | thrown {run : Run} (startup : run.stage.rank < 6) (idle : run.childRunning = false)
      (error : String) : Step signals cleanup run (run.throws error)
  | tried {run : Run} {finalAttempt : Bool} {phase : CleanupPhase} {rest : List CleanupPhase}
      (cleaning : run.stage = .cleaning finalAttempt (phase :: rest)) :
      Step signals cleanup run (run.tries finalAttempt phase rest)
  | settled {run : Run} {finalAttempt : Bool} {phase : CleanupPhase} {rest : List CleanupPhase}
      (releasing : run.stage = .releasing finalAttempt phase rest) {release : Release}
      {client : Client} (releases : Releases cleanup run phase release client) :
      Step signals cleanup run (run.settles finalAttempt phase rest release client)
  | reported {run : Run} {finalAttempt : Bool}
      (cleaning : run.stage = .cleaning finalAttempt []) :
      Step signals cleanup run (run.reports signals finalAttempt)

def Reachable (signals : String → Option Nat) (cleanup : CleanupMode) (run : Run) : Prop :=
  Relation.ReflTransGen (Step signals cleanup) Run.start run

end GptQueue.WrapperRun
