import Mathlib.Logic.Relation
import Mathlib.Tactic

/-! # The PTY wrapper

A watcher reads the depth of the inbox of an agent whenever something is pushed, or polls it.
What it finds becomes a prompt that is written to the wrapped program once the program has been
quiet for a while. Pushes, reads, output and the timer interleave in any order.
-/

namespace GptQueue.Pty

/-! ## The wrapper -/

/-- The wait of the `IdleDetector`. -/
def quiescenceMs : Nat := 2000

def BRACKETED_PASTE_BEGIN : String := "\u001b[200~"

def BRACKETED_PASTE_END : String := "\u001b[201~"

/-- One paste, and the key that submits it. -/
def terminalPromptBytes (text : String) : String :=
  BRACKETED_PASTE_BEGIN ++ text ++ BRACKETED_PASTE_END ++ "\r"

def prompt (count : Nat) : String :=
  "You have " ++ toString count ++ " pending message(s) in your GPTQueue inbox. " ++
    "Call claim_tasks to claim a batch (optional max_batch and ttl_seconds), " ++
    "process the tasks, then acknowledge them with acknowledge_tasks (claim_id)."

/-- What a polling watcher does. -/
inductive Poll
  | asking
  /-- `none` stands for an error. -/
  | answered (depth : Option Nat)
  | waiting (due : Nat)
deriving DecidableEq

inductive Mode
  /-- `start` has not subscribed yet, as far as it knows. -/
  | starting
  | watching
  | polling (poll : Poll)
deriving DecidableEq

inductive Event
  | pushed
  | output (time : Nat)
  /-- A read of the depth failed and was ignored. -/
  | failed
  /-- A notification was lost with the connection of the subscriber. -/
  | lost
  | prompted (time : Nat) (bytes : String)
deriving DecidableEq

/-- The wrapper, with the inbox and what is on its way between them. -/
structure Wrapper where
  running : Bool
  mode : Mode
  /-- Whether the server has the subscription. -/
  subscribed : Bool
  /-- Whether the connection of the subscriber stands. -/
  connected : Bool
  depth : Nat
  notices : Nat
  /-- Reads of the depth that are not served yet. -/
  asks : Nat
  replies : List Nat
  /-- The count of the prompt that waits for the program. -/
  pendingInjection : Option Nat
  idle : Bool
  timer : Option Nat
  now : Nat
  /-- Latest first. -/
  log : List Event

namespace Wrapper

/-- The wrapper as it starts, with messages in the inbox already. -/
def start (depth : Nat) : Wrapper where
  running := true
  mode := .starting
  subscribed := false
  connected := true
  depth
  notices := 0
  asks := 0
  replies := []
  pendingInjection := none
  idle := false
  timer := none
  now := 0
  log := []

section Handlers

variable (wrapper : Wrapper)

def inject (count : Nat) : Wrapper :=
  { wrapper with
    pendingInjection := none
    log := .prompted wrapper.now (terminalPromptBytes (prompt count)) :: wrapper.log }

/-- The handler of `message`. -/
def onMessage (count : Nat) : Wrapper :=
  match wrapper.pendingInjection with
  | some _ => wrapper
  | none =>
      if wrapper.idle then wrapper.inject count
      else { wrapper with pendingInjection := some count }

def onOutput : Wrapper :=
  { wrapper with
    idle := false
    timer := some (wrapper.now + quiescenceMs)
    log := .output wrapper.now :: wrapper.log }

/-- The timer, with the listener of `idle`. -/
def onTimer : Wrapper :=
  match wrapper.pendingInjection with
  | some count => { wrapper with idle := true, timer := none }.inject count
  | none => { wrapper with idle := true, timer := none }

/-- A depth that was read is told if there is anything. -/
def onDepth (depth : Nat) : Wrapper := if 0 < depth then wrapper.onMessage depth else wrapper

/-- A keyspace notification of a push. -/
def onNotice : Wrapper :=
  if wrapper.running then
    { wrapper with notices := wrapper.notices - 1, asks := wrapper.asks + 1 }
  else { wrapper with notices := wrapper.notices - 1 }

def filled (count : Nat) : Wrapper :=
  { wrapper with
    depth := wrapper.depth + count
    log := .pushed :: wrapper.log }

/-- The server notifies whoever it is connected to, and keeps no notification. -/
def pushed (count : Nat) : Wrapper :=
  if wrapper.subscribed then
    if wrapper.connected then { wrapper.filled count with notices := wrapper.notices + 1 }
    else { wrapper.filled count with log := .lost :: .pushed :: wrapper.log }
  else wrapper.filled count

/-- The connection of the subscriber breaks, and some notifications have come through. -/
def disconnected (kept : Nat) : Wrapper :=
  if kept < wrapper.notices then
    { wrapper with
      connected := false
      notices := kept
      log := .lost :: wrapper.log }
  else { wrapper with connected := false }

/-- One turn of the polling loop with the answer that has come. -/
def onPoll (depth : Option Nat) : Wrapper :=
  match depth with
  | none => { wrapper with mode := .polling (.waiting (wrapper.now + 2000)) }
  | some depth =>
      if 0 < depth then
        { wrapper.onMessage depth with mode := .polling (.waiting (wrapper.now + 5000)) }
      else { wrapper with mode := .polling (.waiting (wrapper.now + 1000)) }

end Handlers

end Wrapper

/-- Everything that may happen next. -/
inductive Step : Wrapper → Wrapper → Prop
  | pushed {wrapper : Wrapper} {count : Nat} (positive : 0 < count) :
      Step wrapper (wrapper.pushed count)
  /-- The agent takes messages. -/
  | taken {wrapper : Wrapper} (count : Nat) :
      Step wrapper { wrapper with depth := wrapper.depth - count }
  | disconnects {wrapper : Wrapper} (kept : Nat) : Step wrapper (wrapper.disconnected kept)
  /-- The client subscribes again by itself; the depth is not read again. -/
  | reconnects {wrapper : Wrapper} : Step wrapper { wrapper with connected := true }
  | subscribes {wrapper : Wrapper} (starting : wrapper.mode = .starting)
      (connected : wrapper.connected = true) : Step wrapper { wrapper with subscribed := true }
  /-- `start` goes on and looks into the inbox. -/
  | watches {wrapper : Wrapper} (starting : wrapper.mode = .starting)
      (subscribed : wrapper.subscribed = true) :
      Step wrapper { wrapper with mode := .watching, asks := wrapper.asks + 1 }
  | fallsBack {wrapper : Wrapper} (starting : wrapper.mode = .starting)
      (running : wrapper.running = true) :
      Step wrapper { wrapper with mode := .polling .asking }
  | noticed {wrapper : Wrapper} (waiting : 0 < wrapper.notices) : Step wrapper wrapper.onNotice
  | read {wrapper : Wrapper} (waiting : 0 < wrapper.asks) :
      Step wrapper { wrapper with
        asks := wrapper.asks - 1
        replies := wrapper.replies ++ [wrapper.depth] }
  | failed {wrapper : Wrapper} (waiting : 0 < wrapper.asks) :
      Step wrapper { wrapper with asks := wrapper.asks - 1, log := .failed :: wrapper.log }
  | replied {wrapper : Wrapper} {depth : Nat} {rest : List Nat}
      (first : wrapper.replies = depth :: rest) :
      Step wrapper ({ wrapper with replies := rest }.onDepth depth)
  | polled {wrapper : Wrapper} (asking : wrapper.mode = .polling .asking) (depth : Option Nat)
      (isDepth : ∀ read, depth = some read → read = wrapper.depth) :
      Step wrapper { wrapper with mode := .polling (.answered depth) }
  | turned {wrapper : Wrapper} {depth : Option Nat}
      (answered : wrapper.mode = .polling (.answered depth)) : Step wrapper (wrapper.onPoll depth)
  | pollsAgain {wrapper : Wrapper} {due : Nat} (waiting : wrapper.mode = .polling (.waiting due))
      (elapsed : due ≤ wrapper.now) (running : wrapper.running = true) :
      Step wrapper { wrapper with mode := .polling .asking }
  | output {wrapper : Wrapper} : Step wrapper wrapper.onOutput
  | ticks {wrapper : Wrapper} : Step wrapper { wrapper with now := wrapper.now + 1 }
  | fires {wrapper : Wrapper} {due : Nat} (armed : wrapper.timer = some due)
      (elapsed : due ≤ wrapper.now) : Step wrapper wrapper.onTimer
  /-- The program has exited or the wrapper is stopped. -/
  | stops {wrapper : Wrapper} : Step wrapper { wrapper with running := false, timer := none }

def Reachable (wrapper : Wrapper) : Prop :=
  ∃ depth, Relation.ReflTransGen Step (Wrapper.start depth) wrapper

/-! ## What holds of every run -/

def isPrompt : Event → Bool
  | .prompted _ _ => true
  | _ => false

/-- What happened since the last push. -/
def sincePush (log : List Event) : List Event := log.takeWhile (· ≠ .pushed)

/-- A prompt was written, a read failed or a notification was lost, since the last push. -/
def Answered (log : List Event) : Prop :=
  ∃ event ∈ sincePush log, isPrompt event = true ∨ event = .failed ∨ event = .lost

/-- Something is under way that leads to a prompt. -/
def UnderWay (wrapper : Wrapper) : Prop :=
  0 < wrapper.notices ∨ 0 < wrapper.asks ∨ (∃ depth ∈ wrapper.replies, 0 < depth) ∨
    wrapper.pendingInjection ≠ none

/-! ### Prompts are written when the program is quiet -/

/-- The program has written something, and nothing for a while before the time. -/
structure QuietAt (time : Nat) (log : List Event) : Prop where
  wrote : ∃ written, .output written ∈ log
  quiet : ∀ written, .output written ∈ log → written + quiescenceMs ≤ time

/-- What is written is one prompt about some messages. -/
def IsPrompt (bytes : String) : Prop :=
  ∃ count, 0 < count ∧ bytes = terminalPromptBytes (prompt count)

def PromptsQuiet : List Event → Prop
  | [] => True
  | .prompted time bytes :: older => (IsPrompt bytes ∧ QuietAt time older) ∧ PromptsQuiet older
  | _ :: older => PromptsQuiet older

structure Timed (wrapper : Wrapper) : Prop where
  idle : wrapper.idle = true → QuietAt wrapper.now wrapper.log
  timer : ∀ due, wrapper.timer = some due → QuietAt due wrapper.log
  /-- While the wrapper runs, a program that has written something becomes idle. -/
  armed : wrapper.running = true → (∃ written, .output written ∈ wrapper.log) →
    wrapper.idle = true ∨ ∃ due, wrapper.timer = some due
  past : ∀ written, .output written ∈ wrapper.log → written ≤ wrapper.now
  waits : wrapper.idle = true → wrapper.pendingInjection = none
  positive : ∀ count, wrapper.pendingInjection = some count → 0 < count
  prompts : PromptsQuiet wrapper.log

section Timing

variable {wrapper after : Wrapper} {log : List Event} {time : Nat} {event : Event}

theorem QuietAt.mono {later : Nat} (quiet : QuietAt time log) (le : time ≤ later) :
    QuietAt later log :=
  ⟨quiet.wrote, fun written member => Nat.le_trans (quiet.quiet written member) le⟩

theorem QuietAt.cons (quiet : QuietAt time log) (notOutput : ∀ written, event ≠ .output written) :
    QuietAt time (event :: log) := by
  rcases quiet.wrote with ⟨written, member⟩
  refine ⟨⟨written, List.mem_cons_of_mem _ member⟩, ?_⟩
  intro other member
  rcases List.mem_cons.mp member with same | earlier
  · exact absurd same.symm (notOutput other)
  · exact quiet.quiet other earlier

theorem mem_of_cons (notOutput : ∀ written, event ≠ .output written) {written : Nat}
    (member : .output written ∈ event :: log) : .output written ∈ log := by
  rcases List.mem_cons.mp member with same | earlier
  · exact absurd same.symm (notOutput written)
  · exact earlier

theorem Timed.start (depth : Nat) : Timed (Wrapper.start depth) where
  idle isIdle := by cases isIdle
  timer due isDue := by cases isDue
  armed _ wrote := by
    rcases wrote with ⟨written, member⟩
    cases member
  past written member := by cases member
  waits isIdle := by cases isIdle
  positive count isCount := by cases isCount
  prompts := trivial

/-- An event that is neither output nor a prompt. -/
theorem Timed.logs (timed : Timed wrapper) (notOutput : ∀ written, event ≠ .output written)
    (notPrompt : isPrompt event = false) : Timed { wrapper with log := event :: wrapper.log } where
  idle isIdle := (timed.idle isIdle).cons notOutput
  timer due isDue := (timed.timer due isDue).cons notOutput
  armed runs wrote := by
    rcases wrote with ⟨written, member⟩
    exact timed.armed runs ⟨written, mem_of_cons notOutput member⟩
  past written member := timed.past written (mem_of_cons notOutput member)
  waits := timed.waits
  positive := timed.positive
  prompts := by
    cases event with
    | prompted time bytes => cases notPrompt
    | pushed => exact timed.prompts
    | output time => exact timed.prompts
    | failed => exact timed.prompts
    | lost => exact timed.prompts

theorem Timed.inject (timed : Timed wrapper) (isIdle : wrapper.idle = true) {count : Nat}
    (positive : 0 < count) : Timed (wrapper.inject count) := by
  have notOutput : ∀ written, Event.prompted wrapper.now (terminalPromptBytes (prompt count)) ≠
      .output written := fun _ => Event.noConfusion
  exact
    { idle := fun isIdle => (timed.idle isIdle).cons notOutput
      timer := fun due isDue => (timed.timer due isDue).cons notOutput
      armed := fun _ _ => .inl isIdle
      past := fun written member => timed.past written (mem_of_cons notOutput member)
      waits := fun _ => rfl
      positive := fun _ isCount => by cases isCount
      prompts := ⟨⟨⟨count, positive, rfl⟩, timed.idle isIdle⟩, timed.prompts⟩ }

theorem Timed.onMessage (timed : Timed wrapper) {count : Nat} (positive : 0 < count) :
    Timed (wrapper.onMessage count) := by
  unfold Wrapper.onMessage
  split
  · exact timed
  · split
    · next isIdle => exact timed.inject isIdle positive
    · next notIdle =>
        exact ⟨timed.idle, timed.timer, timed.armed, timed.past,
          fun isIdle => absurd isIdle notIdle, fun _ isCount => Option.some.inj isCount ▸ positive,
          timed.prompts⟩

theorem Timed.onDepth (timed : Timed wrapper) (depth : Nat) : Timed (wrapper.onDepth depth) := by
  unfold Wrapper.onDepth
  split
  · next positive => exact timed.onMessage positive
  · exact timed

theorem Timed.onOutput (timed : Timed wrapper) : Timed wrapper.onOutput where
  idle isIdle := by cases isIdle
  timer due isDue := by
    cases isDue
    refine ⟨⟨wrapper.now, List.mem_cons_self⟩, ?_⟩
    intro written member
    rcases List.mem_cons.mp member with same | earlier
    · cases same
      exact Nat.le_refl _
    · exact Nat.add_le_add_right (timed.past written earlier) _
  armed _ _ := .inr ⟨_, rfl⟩
  past written member := by
    rcases List.mem_cons.mp member with same | earlier
    · cases same
      exact Nat.le_refl _
    · exact timed.past written earlier
  waits isIdle := by cases isIdle
  positive := timed.positive
  prompts := timed.prompts

theorem Timed.onTimer (timed : Timed wrapper) {due : Nat} (armed : wrapper.timer = some due)
    (elapsed : due ≤ wrapper.now) : Timed wrapper.onTimer := by
  have quiet := (timed.timer due armed).mono elapsed
  have becomes : Timed { wrapper with idle := true, timer := none, pendingInjection := none } :=
    { idle := fun _ => quiet
      timer := fun _ isDue => by cases isDue
      armed := fun _ _ => .inl rfl
      past := timed.past
      waits := fun _ => rfl
      positive := fun _ isCount => by cases isCount
      prompts := timed.prompts }
  unfold Wrapper.onTimer
  split
  · next count isCount => exact becomes.inject rfl (timed.positive count isCount)
  · next nothing =>
      have same : { wrapper with idle := true, timer := none } =
          { wrapper with idle := true, timer := none, pendingInjection := none } := by
        rw [nothing]
      exact same ▸ becomes

theorem Timed.onPoll (timed : Timed wrapper) (depth : Option Nat) :
    Timed (wrapper.onPoll depth) := by
  unfold Wrapper.onPoll
  split
  · exact ⟨timed.idle, timed.timer, timed.armed, timed.past, timed.waits, timed.positive,
      timed.prompts⟩
  · split
    · next positive =>
        have told := timed.onMessage positive
        exact ⟨told.idle, told.timer, told.armed, told.past, told.waits, told.positive,
          told.prompts⟩
    · exact ⟨timed.idle, timed.timer, timed.armed, timed.past, timed.waits, timed.positive,
        timed.prompts⟩

theorem Timed.pushed (timed : Timed wrapper) (count : Nat) : Timed (wrapper.pushed count) := by
  have logged := timed.logs (fun _ => Event.noConfusion) (rfl : isPrompt .pushed = false)
  have lost := logged.logs (fun _ => Event.noConfusion) (rfl : isPrompt .lost = false)
  unfold Wrapper.pushed
  split
  · split
    · exact ⟨logged.idle, logged.timer, logged.armed, logged.past, logged.waits,
        logged.positive, logged.prompts⟩
    · exact ⟨lost.idle, lost.timer, lost.armed, lost.past, lost.waits, lost.positive,
        lost.prompts⟩
  · exact ⟨logged.idle, logged.timer, logged.armed, logged.past, logged.waits, logged.positive,
      logged.prompts⟩

theorem Timed.disconnected (timed : Timed wrapper) (kept : Nat) :
    Timed (wrapper.disconnected kept) := by
  have lost := timed.logs (fun _ => Event.noConfusion) (rfl : isPrompt .lost = false)
  unfold Wrapper.disconnected
  split
  · exact ⟨lost.idle, lost.timer, lost.armed, lost.past, lost.waits, lost.positive, lost.prompts⟩
  · exact ⟨timed.idle, timed.timer, timed.armed, timed.past, timed.waits, timed.positive,
      timed.prompts⟩

theorem Timed.step (timed : Timed wrapper) (step : Step wrapper after) : Timed after := by
  cases step with
  | pushed positive => exact timed.pushed _
  | disconnects kept => exact timed.disconnected kept
  | failed =>
      have logged := timed.logs (fun _ => Event.noConfusion) (rfl : isPrompt .failed = false)
      exact ⟨logged.idle, logged.timer, logged.armed, logged.past, logged.waits, logged.positive,
        logged.prompts⟩
  | noticed =>
      unfold Wrapper.onNotice
      split
      · exact ⟨timed.idle, timed.timer, timed.armed, timed.past, timed.waits, timed.positive,
          timed.prompts⟩
      · exact ⟨timed.idle, timed.timer, timed.armed, timed.past, timed.waits, timed.positive,
          timed.prompts⟩
  | @replied depth rest first =>
      have same : Timed { wrapper with replies := rest } :=
        ⟨timed.idle, timed.timer, timed.armed, timed.past, timed.waits, timed.positive,
          timed.prompts⟩
      exact same.onDepth depth
  | turned => exact timed.onPoll _
  | output => exact timed.onOutput
  | fires armed elapsed => exact timed.onTimer armed elapsed
  | ticks =>
      exact ⟨fun isIdle => (timed.idle isIdle).mono (Nat.le_succ _), timed.timer, timed.armed,
        fun written member => Nat.le_succ_of_le (timed.past written member), timed.waits,
        timed.positive, timed.prompts⟩
  | stops =>
      exact
        { idle := timed.idle
          timer := fun _ isDue => by cases isDue
          armed := fun runs => by cases runs
          past := timed.past
          waits := timed.waits
          positive := timed.positive
          prompts := timed.prompts }
  | taken | reconnects | subscribes | watches | fallsBack | read | polled | pollsAgain =>
      exact ⟨timed.idle, timed.timer, timed.armed, timed.past, timed.waits, timed.positive,
        timed.prompts⟩

theorem Timed.of_reachable (reached : Reachable wrapper) : Timed wrapper := by
  rcases reached with ⟨depth, steps⟩
  induction steps with
  | refl => exact Timed.start depth
  | tail _ step induction => exact induction.step step

end Timing

/-! ### No more prompts than pushes -/

def isPush : Event → Bool
  | .pushed => true
  | _ => false

/-- What can still become a prompt. -/
def awaited (wrapper : Wrapper) : Nat :=
  wrapper.notices + wrapper.asks + wrapper.replies.length +
    wrapper.pendingInjection.toList.length

/-- The read that a watcher begins with. -/
def firstRead : Mode → Nat
  | .watching => 1
  | _ => 0

/-- A watcher prompts for a push once, and once for what it finds when it begins. -/
def Sparing (wrapper : Wrapper) : Prop :=
  (∀ poll, wrapper.mode ≠ .polling poll) →
    awaited wrapper + wrapper.log.countP isPrompt ≤
      wrapper.log.countP isPush + firstRead wrapper.mode

section Budget

variable {wrapper after : Wrapper}

@[simp] theorem inject_mode (count : Nat) : (wrapper.inject count).mode = wrapper.mode := rfl

@[simp] theorem onMessage_mode (count : Nat) :
    (wrapper.onMessage count).mode = wrapper.mode := by
  unfold Wrapper.onMessage
  split
  · rfl
  · split <;> rfl

@[simp] theorem onDepth_mode (depth : Nat) : (wrapper.onDepth depth).mode = wrapper.mode := by
  unfold Wrapper.onDepth
  split
  · exact onMessage_mode depth
  · rfl

@[simp] theorem onTimer_mode : wrapper.onTimer.mode = wrapper.mode := by
  unfold Wrapper.onTimer
  split <;> rfl

theorem awaited_onMessage (count : Nat) :
    awaited (wrapper.onMessage count) + (wrapper.onMessage count).log.countP isPrompt ≤
        awaited wrapper + wrapper.log.countP isPrompt + 1 ∧
      (wrapper.onMessage count).log.countP isPush = wrapper.log.countP isPush := by
  unfold Wrapper.onMessage
  split
  · exact ⟨Nat.le_succ _, rfl⟩
  · next nothing =>
      split
      · simp only [Wrapper.inject, awaited, nothing, List.countP_cons, isPrompt, isPush,
          Option.toList_none, List.length_nil, if_true, Bool.false_eq_true, if_false]
        exact ⟨Nat.le_refl _, rfl⟩
      · simp only [awaited, nothing, Option.toList_none, Option.toList_some, List.length_nil,
          List.length_singleton]
        exact ⟨by omega, trivial⟩

theorem awaited_onDepth (depth : Nat) :
    awaited (wrapper.onDepth depth) + (wrapper.onDepth depth).log.countP isPrompt ≤
        awaited wrapper + wrapper.log.countP isPrompt + 1 ∧
      (wrapper.onDepth depth).log.countP isPush = wrapper.log.countP isPush := by
  unfold Wrapper.onDepth
  split
  · exact awaited_onMessage depth
  · exact ⟨Nat.le_succ _, rfl⟩

theorem awaited_onTimer :
    awaited wrapper.onTimer + wrapper.onTimer.log.countP isPrompt =
        awaited wrapper + wrapper.log.countP isPrompt ∧
      wrapper.onTimer.log.countP isPush = wrapper.log.countP isPush := by
  unfold Wrapper.onTimer
  split
  · next count isCount =>
      simp only [Wrapper.inject, awaited, isCount, List.countP_cons, isPrompt, isPush,
        Option.toList_none, Option.toList_some, List.length_nil, List.length_singleton, if_true,
        Bool.false_eq_true, if_false]
      omega
  · exact ⟨rfl, rfl⟩

@[simp] theorem pushed_mode (count : Nat) : (wrapper.pushed count).mode = wrapper.mode := by
  unfold Wrapper.pushed
  split
  · split <;> rfl
  · rfl

@[simp] theorem disconnected_mode (kept : Nat) :
    (wrapper.disconnected kept).mode = wrapper.mode := by
  unfold Wrapper.disconnected
  split <;> rfl

/-- A push can lead to one more prompt. -/
theorem awaited_pushed (count : Nat) :
    awaited (wrapper.pushed count) + (wrapper.pushed count).log.countP isPrompt ≤
        awaited wrapper + wrapper.log.countP isPrompt + 1 ∧
      (wrapper.pushed count).log.countP isPush = wrapper.log.countP isPush + 1 := by
  unfold Wrapper.pushed
  split
  · split
    · simp only [Wrapper.filled, awaited, List.countP_cons, isPrompt, isPush, if_true,
        Bool.false_eq_true, if_false]
      exact ⟨by omega, trivial⟩
    · simp only [Wrapper.filled, awaited, List.countP_cons, isPrompt, isPush, if_true,
        Bool.false_eq_true, if_false]
      exact ⟨by omega, trivial⟩
  · simp only [Wrapper.filled, awaited, List.countP_cons, isPrompt, isPush, if_true,
      Bool.false_eq_true, if_false]
    exact ⟨by omega, trivial⟩

theorem awaited_disconnected (kept : Nat) :
    awaited (wrapper.disconnected kept) + (wrapper.disconnected kept).log.countP isPrompt ≤
        awaited wrapper + wrapper.log.countP isPrompt ∧
      (wrapper.disconnected kept).log.countP isPush = wrapper.log.countP isPush := by
  unfold Wrapper.disconnected
  split
  · next fewer =>
      simp only [awaited, List.countP_cons, isPrompt, isPush, Bool.false_eq_true, if_false]
      omega
  · exact ⟨Nat.le_refl _, rfl⟩

theorem Sparing.step (sparing : Sparing wrapper) (step : Step wrapper after) : Sparing after := by
  intro notPolling
  cases step with
  | @pushed count positive =>
      rw [pushed_mode] at notPolling ⊢
      have before := sparing notPolling
      have told := @awaited_pushed wrapper count
      omega
  | disconnects kept =>
      rw [disconnected_mode] at notPolling ⊢
      have before := sparing notPolling
      have told := @awaited_disconnected wrapper kept
      omega
  | watches starting =>
      have before := sparing (by simp [starting])
      simp only [awaited, starting, firstRead] at before ⊢
      omega
  | noticed waiting =>
      have before := sparing (by
        intro poll isPolling
        refine notPolling poll ?_
        unfold Wrapper.onNotice
        split <;> exact isPolling)
      unfold Wrapper.onNotice
      split
      · simp only [awaited] at before ⊢
        omega
      · simp only [awaited] at before ⊢
        omega
  | read waiting =>
      have before := sparing notPolling
      simp only [awaited, List.length_append, List.length_singleton] at before ⊢
      omega
  | failed waiting =>
      have before := sparing notPolling
      simp only [awaited, List.countP_cons, isPrompt, isPush, Bool.false_eq_true, if_false]
        at before ⊢
      omega
  | @replied depth rest first =>
      rw [onDepth_mode] at notPolling ⊢
      have before := sparing notPolling
      have told := @awaited_onDepth { wrapper with replies := rest } depth
      simp only [awaited, first, List.length_cons] at before told ⊢
      omega
  | fires =>
      rw [onTimer_mode] at notPolling ⊢
      have before := sparing notPolling
      have told := @awaited_onTimer wrapper
      omega
  | output =>
      have before := sparing notPolling
      simp only [Wrapper.onOutput, awaited, List.countP_cons, isPrompt, isPush,
        Bool.false_eq_true, if_false] at before ⊢
      omega
  | reconnects | subscribes | taken | ticks | stops => exact sparing notPolling
  | fallsBack => exact absurd rfl (notPolling .asking)
  | @polled _ depth => exact absurd rfl (notPolling (.answered depth))
  | pollsAgain => exact absurd rfl (notPolling .asking)
  | @turned depth =>
      unfold Wrapper.onPoll at notPolling
      split at notPolling
      · exact absurd rfl (notPolling _)
      · split at notPolling
        · exact absurd rfl (notPolling _)
        · exact absurd rfl (notPolling _)

theorem Sparing.of_reachable (reached : Reachable wrapper) : Sparing wrapper := by
  rcases reached with ⟨depth, steps⟩
  induction steps with
  | refl => exact fun _ => Nat.zero_le _
  | tail _ step induction => exact induction.step step

end Budget

/-! ### No push is overlooked -/

/-- What is in the inbox of a running watcher is on its way to a prompt, or there was a prompt
since it came, or a read failed, or a notification was lost. -/
structure Covered (wrapper : Wrapper) : Prop where
  subscribed : wrapper.mode = .watching → wrapper.subscribed = true
  covered : wrapper.running = true → wrapper.mode = .watching → 0 < wrapper.depth →
    UnderWay wrapper ∨ Answered wrapper.log

section Coverage

variable {wrapper after : Wrapper} {log : List Event} {event : Event}

theorem sincePush_cons (notPush : event ≠ .pushed) :
    sincePush (event :: log) = event :: sincePush log := by
  rw [sincePush, List.takeWhile_cons, if_pos (by simpa using notPush)]
  rfl

theorem Answered.cons (answered : Answered log) (notPush : event ≠ .pushed) :
    Answered (event :: log) := by
  rcases answered with ⟨answer, member, isAnswer⟩
  refine ⟨answer, ?_, isAnswer⟩
  rw [sincePush_cons notPush]
  exact List.mem_cons_of_mem _ member

theorem answered_prompted (time : Nat) (bytes : String) :
    Answered (.prompted time bytes :: log) := by
  refine ⟨.prompted time bytes, ?_, .inl rfl⟩
  rw [sincePush_cons Event.noConfusion]
  exact List.mem_cons_self

theorem answered_failed : Answered (.failed :: log) := by
  refine ⟨.failed, ?_, .inr (.inl rfl)⟩
  rw [sincePush_cons Event.noConfusion]
  exact List.mem_cons_self

theorem answered_lost : Answered (.lost :: log) := by
  refine ⟨.lost, ?_, .inr (.inr rfl)⟩
  rw [sincePush_cons Event.noConfusion]
  exact List.mem_cons_self

/-- A message becomes a prompt or waits for the timer. -/
theorem onMessage_covers (count : Nat) :
    UnderWay (wrapper.onMessage count) ∨ Answered (wrapper.onMessage count).log := by
  unfold Wrapper.onMessage
  split
  · next waiting isWaiting =>
      left
      right; right; right
      rw [isWaiting]
      exact Option.some_ne_none waiting
  · split
    · exact .inr (answered_prompted _ _)
    · left
      right; right; right
      exact Option.some_ne_none count

theorem onTimer_covers (before : UnderWay wrapper ∨ Answered wrapper.log) :
    UnderWay wrapper.onTimer ∨ Answered wrapper.onTimer.log := by
  unfold Wrapper.onTimer
  split
  · exact .inr (answered_prompted _ _)
  · exact before

theorem onDepth_covers {depth : Nat} {rest : List Nat} (first : wrapper.replies = depth :: rest)
    (before : UnderWay wrapper ∨ Answered wrapper.log) :
    UnderWay ({ wrapper with replies := rest }.onDepth depth) ∨
      Answered ({ wrapper with replies := rest }.onDepth depth).log := by
  unfold Wrapper.onDepth
  split
  · exact onMessage_covers depth
  · next nothing =>
      rcases before with (notices | asks | ⟨reply, member, positive⟩ | pending) | answered
      · exact .inl (.inl notices)
      · exact .inl (.inr (.inl asks))
      · rw [first] at member
        rcases List.mem_cons.mp member with rfl | later
        · exact absurd positive nothing
        · exact .inl (.inr (.inr (.inl ⟨reply, later, positive⟩)))
      · exact .inl (.inr (.inr (.inr pending)))
      · exact .inr answered

@[simp] theorem onMessage_inbox (count : Nat) :
    (wrapper.onMessage count).running = wrapper.running ∧
      (wrapper.onMessage count).subscribed = wrapper.subscribed ∧
      (wrapper.onMessage count).depth = wrapper.depth := by
  unfold Wrapper.onMessage
  split
  · exact ⟨rfl, rfl, rfl⟩
  · split <;> exact ⟨rfl, rfl, rfl⟩

theorem onDepth_inbox (depth : Nat) :
    (wrapper.onDepth depth).running = wrapper.running ∧
      (wrapper.onDepth depth).subscribed = wrapper.subscribed ∧
      (wrapper.onDepth depth).depth = wrapper.depth := by
  unfold Wrapper.onDepth
  split
  · exact onMessage_inbox depth
  · exact ⟨rfl, rfl, rfl⟩

theorem onTimer_inbox : wrapper.onTimer.running = wrapper.running ∧
    wrapper.onTimer.subscribed = wrapper.subscribed ∧ wrapper.onTimer.depth = wrapper.depth := by
  unfold Wrapper.onTimer
  split <;> exact ⟨rfl, rfl, rfl⟩

theorem Covered.pushed (covered : Covered wrapper) (count : Nat) :
    Covered (wrapper.pushed count) := by
  have sameSubscribed : (wrapper.pushed count).subscribed = wrapper.subscribed := by
    unfold Wrapper.pushed
    split
    · split <;> rfl
    · rfl
  constructor
  · rw [pushed_mode, sameSubscribed]
    exact covered.subscribed
  · intro _ watching _
    rw [pushed_mode] at watching
    rw [Wrapper.pushed, if_pos (covered.subscribed watching)]
    split
    · exact .inl (.inl (Nat.succ_pos _))
    · exact .inr answered_lost

theorem Covered.disconnected (covered : Covered wrapper) (kept : Nat) :
    Covered (wrapper.disconnected kept) := by
  unfold Wrapper.disconnected
  split
  · exact ⟨covered.subscribed, fun _ _ _ => .inr answered_lost⟩
  · exact ⟨covered.subscribed, covered.covered⟩

theorem covered_of_not_watching (notWatching : wrapper.mode ≠ .watching) : Covered wrapper :=
  ⟨fun watching => absurd watching notWatching, fun _ watching => absurd watching notWatching⟩

theorem covered_of_polling (poll : Poll) (polls : wrapper.mode = .polling poll) :
    Covered wrapper :=
  covered_of_not_watching (polls ▸ Mode.noConfusion)

theorem Covered.step (covered : Covered wrapper) (step : Step wrapper after) : Covered after := by
  cases step with
  | pushed => exact covered.pushed _
  | disconnects kept => exact covered.disconnected kept
  | reconnects => exact ⟨covered.subscribed, covered.covered⟩
  | taken count =>
      refine ⟨covered.subscribed, fun runs watching left => ?_⟩
      exact covered.covered runs watching (Nat.lt_of_lt_of_le left (Nat.sub_le _ _))
  | subscribes starting => exact ⟨fun _ => rfl, covered.covered⟩
  | watches starting subscribed =>
      exact ⟨fun _ => subscribed, fun _ _ _ => .inl (.inr (.inl (Nat.succ_pos _)))⟩
  | fallsBack => exact covered_of_polling _ rfl
  | noticed =>
      unfold Wrapper.onNotice
      split
      · exact ⟨covered.subscribed, fun _ _ _ => .inl (.inr (.inl (Nat.succ_pos _)))⟩
      · next stopped => exact ⟨covered.subscribed, fun runs => absurd runs stopped⟩
  | read =>
      refine ⟨covered.subscribed, fun _ _ left => .inl (.inr (.inr (.inl ?_)))⟩
      exact ⟨wrapper.depth, List.mem_append_right _ List.mem_cons_self, left⟩
  | failed => exact ⟨covered.subscribed, fun _ _ _ => .inr answered_failed⟩
  | @replied depth rest first =>
      rcases @onDepth_inbox { wrapper with replies := rest } depth with
        ⟨sameRunning, sameSubscribed, sameDepth⟩
      constructor
      · rw [onDepth_mode, sameSubscribed]
        exact covered.subscribed
      · rw [onDepth_mode, sameRunning, sameDepth]
        intro runs watching left
        exact onDepth_covers first (covered.covered runs watching left)
  | polled => exact covered_of_polling _ rfl
  | turned =>
      unfold Wrapper.onPoll
      split
      · exact covered_of_polling _ rfl
      · split
        · exact covered_of_polling _ rfl
        · exact covered_of_polling _ rfl
  | pollsAgain => exact covered_of_polling _ rfl
  | output =>
      refine ⟨covered.subscribed, fun runs watching left => ?_⟩
      rcases covered.covered runs watching left with underWay | answered
      · exact .inl underWay
      · exact .inr (answered.cons Event.noConfusion)
  | ticks => exact ⟨covered.subscribed, covered.covered⟩
  | fires =>
      rcases @onTimer_inbox wrapper with ⟨sameRunning, sameSubscribed, sameDepth⟩
      constructor
      · rw [onTimer_mode, sameSubscribed]
        exact covered.subscribed
      · rw [onTimer_mode, sameRunning, sameDepth]
        intro runs watching left
        exact onTimer_covers (covered.covered runs watching left)
  | stops => exact ⟨covered.subscribed, fun runs => by cases runs⟩

theorem Covered.of_reachable (reached : Reachable wrapper) : Covered wrapper := by
  rcases reached with ⟨depth, steps⟩
  induction steps with
  | refl => exact covered_of_not_watching Mode.noConfusion
  | tail _ step induction => exact induction.step step

end Coverage

/-! ### A wake-up can be completed -/

/-- What the wrapper does by itself, with what is on its way to it. -/
inductive OwnStep : Wrapper → Wrapper → Prop
  | noticed {wrapper : Wrapper} (waiting : 0 < wrapper.notices) : OwnStep wrapper wrapper.onNotice
  | read {wrapper : Wrapper} (waiting : 0 < wrapper.asks) :
      OwnStep wrapper { wrapper with
        asks := wrapper.asks - 1
        replies := wrapper.replies ++ [wrapper.depth] }
  | replied {wrapper : Wrapper} {depth : Nat} {rest : List Nat}
      (first : wrapper.replies = depth :: rest) :
      OwnStep wrapper ({ wrapper with replies := rest }.onDepth depth)
  | ticks {wrapper : Wrapper} : OwnStep wrapper { wrapper with now := wrapper.now + 1 }
  | fires {wrapper : Wrapper} {due : Nat} (armed : wrapper.timer = some due)
      (elapsed : due ≤ wrapper.now) : OwnStep wrapper wrapper.onTimer

theorem OwnStep.step {wrapper after : Wrapper} (own : OwnStep wrapper after) :
    Step wrapper after := by
  cases own with
  | noticed waiting => exact .noticed waiting
  | read waiting => exact .read waiting
  | replied first => exact .replied first
  | ticks => exact .ticks
  | fires armed elapsed => exact .fires armed elapsed

/-- The wrapper can write one more prompt without anything else. -/
def CanPrompt (wrapper : Wrapper) : Prop :=
  ∃ after time bytes, Relation.ReflTransGen OwnStep wrapper after ∧
    after.log = .prompted time bytes :: wrapper.log

section Completion

variable {wrapper after : Wrapper}

theorem CanPrompt.earlier (can : CanPrompt after) (own : OwnStep wrapper after)
    (sameLog : after.log = wrapper.log) : CanPrompt wrapper := by
  rcases can with ⟨last, time, bytes, steps, isLog⟩
  exact ⟨last, time, bytes, .head own steps, sameLog ▸ isLog⟩

theorem ticks_of (wrapper : Wrapper) (count : Nat) :
    Relation.ReflTransGen OwnStep wrapper { wrapper with now := wrapper.now + count } := by
  induction count with
  | zero => exact .refl
  | succ count induction => exact induction.tail .ticks

end Completion

/-! ### The wrapper as a whole -/

section Wrapping

variable {wrapper : Wrapper}

theorem PromptsQuiet.at {newer older : List Event} {time : Nat} {bytes : String}
    (quiet : PromptsQuiet (newer ++ .prompted time bytes :: older)) :
    IsPrompt bytes ∧ QuietAt time older := by
  induction newer with
  | nil => exact quiet.1
  | cons event newer induction =>
      cases event with
      | prompted => exact induction quiet.2
      | pushed | output | failed | lost => exact induction quiet

/-- Whatever is written to the program is one whole prompt about some messages, and the program
has been quiet for the whole wait before it. -/
theorem prompts_when_quiet (reached : Reachable wrapper) {newer older : List Event} {time : Nat}
    {bytes : String} (isLog : wrapper.log = newer ++ .prompted time bytes :: older) :
    IsPrompt bytes ∧ QuietAt time older := by
  have prompts := (Timed.of_reachable reached).prompts
  rw [isLog] at prompts
  exact prompts.at

/-- The wrapper of a program that writes something and is told, once it is quiet, of a message
that was in its inbox from the start. -/
def listening : Wrapper :=
  { Wrapper.start 1 with
    mode := .watching
    subscribed := true
    asks := 1
    timer := some 2000
    log := [.output 0] }

def greeted : Wrapper :=
  { Wrapper.start 1 with
    mode := .watching
    subscribed := true
    idle := true
    now := 2000
    log := [.prompted 2000 (terminalPromptBytes (prompt 1)), .output 0] }

theorem listening_reachable : Reachable listening := by
  have subscribed : Step (Wrapper.start 1) { Wrapper.start 1 with subscribed := true } :=
    .subscribes rfl rfl
  have watching := Relation.ReflTransGen.tail (.single subscribed) (.watches rfl rfl)
  exact ⟨1, watching.tail .output⟩

theorem greeted_reachable : Reachable greeted := by
  rcases listening_reachable with ⟨depth, steps⟩
  have quiet : Relation.ReflTransGen Step listening { listening with now := 2000 } :=
    (ticks_of listening 2000).lift id fun _ _ => OwnStep.step
  have fired : Step { listening with now := 2000 }
      { listening with now := 2000, idle := true, timer := none } :=
    .fires rfl (Nat.le_refl 2000)
  have read : Step { listening with now := 2000, idle := true, timer := none }
      { listening with now := 2000, idle := true, timer := none, asks := 0, replies := [1] } :=
    .read Nat.one_pos
  have replied : Step
      { listening with now := 2000, idle := true, timer := none, asks := 0, replies := [1] }
      greeted :=
    @Step.replied _ 1 [] rfl
  exact ⟨depth, (((steps.trans quiet).tail fired).tail read).tail replied⟩

theorem greeted_when_quiet :
    IsPrompt (terminalPromptBytes (prompt 1)) ∧ QuietAt 2000 [.output 0] := by
  have isLog : greeted.log =
      [] ++ .prompted 2000 (terminalPromptBytes (prompt 1)) :: [.output 0] := rfl
  exact prompts_when_quiet greeted_reachable isLog

/-- A wrapper that does not poll prompts at most once for a push, and once for what it finds as
it starts. -/
theorem prompts_within_pushes (reached : Reachable wrapper)
    (notPolling : ∀ poll, wrapper.mode ≠ .polling poll) :
    wrapper.log.countP isPrompt ≤ wrapper.log.countP isPush + 1 := by
  have sparing := Sparing.of_reachable reached notPolling
  have first : firstRead wrapper.mode ≤ 1 := by
    cases wrapper.mode with
    | watching => exact Nat.le_refl 1
    | starting | polling => exact Nat.zero_le 1
  omega

theorem greeted_within_pushes :
    greeted.log.countP isPrompt = 1 ∧ greeted.log.countP isPrompt ≤ greeted.log.countP isPush + 1 :=
  ⟨rfl, prompts_within_pushes greeted_reachable fun _ => Mode.noConfusion⟩

end Wrapping

end GptQueue.Pty
