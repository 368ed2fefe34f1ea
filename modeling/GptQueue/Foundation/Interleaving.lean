import Mathlib.Logic.Relation
import Mathlib.Tactic

/-! # Interleaved calls

A program asks a shared server for one command at a time and waits for each
reply. Any number of calls run at once, and between two commands of one call any
steps of the others may happen. `Reachable.invariant` proves a property of all
interleavings from what one command does to the server and to its own call.
-/

namespace GptQueue

/-- A program that asks a server and then ends with a result. -/
inductive Program (Command : Type) (Reply : Command → Type) (Result : Type) where
  | done (result : Result)
  | call (command : Command) (next : Reply command → Program Command Reply Result)

/-- One command with its reply. -/
abbrev Exchange (Command : Type) (Reply : Command → Type) := Σ command : Command, Reply command

/-- An exchange that is the latest one was answered as the latest command was. -/
theorem reply_of_head {Command : Type} {Reply : Command → Type}
    (answer : (command : Command) → Reply command) {command asked : Command} {reply : Reply asked}
    (head : (⟨asked, reply⟩ : Exchange Command Reply) = ⟨command, answer command⟩) :
    reply = answer asked ∧ asked = command := by
  have same : asked = command := congrArg Sigma.fst head
  subst same
  exact ⟨eq_of_heq (Sigma.mk.inj head).2, rfl⟩

namespace Program

variable {Command : Type} {Reply : Command → Type} {Result Next : Type}

def bind (program : Program Command Reply Result) (next : Result → Program Command Reply Next) :
    Program Command Reply Next :=
  match program with
  | .done result => next result
  | .call command rest => .call command fun reply => (rest reply).bind next

instance : Monad (Program Command Reply) where
  pure := .done
  bind := bind

/-- Ask for one command and end with its reply. -/
def ask (command : Command) : Program Command Reply (Reply command) := .call command .done

@[simp] theorem pure_eq (result : Result) :
    (pure result : Program Command Reply Result) = .done result := rfl

@[simp] theorem done_bind (result : Result) (next : Result → Program Command Reply Next) :
    (Program.done result >>= next) = next result := rfl

@[simp] theorem call_bind (command : Command) (rest : Reply command → Program Command Reply Result)
    (next : Result → Program Command Reply Next) :
    (Program.call command rest >>= next) = .call command fun reply => rest reply >>= next := rfl

@[simp] theorem ask_bind (command : Command)
    (next : Reply command → Program Command Reply Next) :
    (ask command >>= next) = .call command next := rfl

/-- Run a program alone. -/
def run {State : Type} (serve : (command : Command) → State → Reply command × State) :
    Program Command Reply Result → State → Result × State
  | .done result, state => (result, state)
  | .call command next, state =>
      (next (serve command state).1).run serve (serve command state).2

section Run

variable {State : Type} (serve : (command : Command) → State → Reply command × State)

@[simp] theorem run_done (result : Result) (state : State) :
    (Program.done result : Program Command Reply Result).run serve state = (result, state) := rfl

@[simp] theorem run_call (command : Command) (next : Reply command → Program Command Reply Result)
    (state : State) : (Program.call command next).run serve state =
      (next (serve command state).1).run serve (serve command state).2 := rfl

theorem run_bind (program : Program Command Reply Result)
    (next : Result → Program Command Reply Next) (state : State) :
    (program >>= next).run serve state =
      (next (program.run serve state).1).run serve (program.run serve state).2 := by
  induction program generalizing state with
  | done result => rfl
  | call command rest induction => exact induction _ _

end Run

/-- Whatever the replies, each command is one that `asks` allows after the
exchanges so far, latest first, and the result is one that `ends` allows. -/
def Follows (asks : List (Exchange Command Reply) → Command → Prop)
    (ends : List (Exchange Command Reply) → Result → Prop) :
    List (Exchange Command Reply) → Program Command Reply Result → Prop
  | past, .done result => ends past result
  | past, .call command next =>
      asks past command ∧ ∀ reply, (next reply).Follows asks ends (⟨command, reply⟩ :: past)

section Follows

variable {asks : List (Exchange Command Reply) → Command → Prop}
  {ends : List (Exchange Command Reply) → Result → Prop}
  {past : List (Exchange Command Reply)}

@[simp] theorem follows_done {result : Result} :
    (Program.done result).Follows asks ends past ↔ ends past result := Iff.rfl

@[simp] theorem follows_call {command : Command}
    {next : Reply command → Program Command Reply Result} :
    (Program.call command next).Follows asks ends past ↔
      asks past command ∧ ∀ reply, (next reply).Follows asks ends (⟨command, reply⟩ :: past) :=
  Iff.rfl

/-- A program that starts with a command. -/
theorem follows_ask_bind {command : Command} {next : Reply command → Program Command Reply Result} :
    (ask command >>= next).Follows asks ends past ↔
      asks past command ∧ ∀ reply, (next reply).Follows asks ends (⟨command, reply⟩ :: past) :=
  Iff.rfl

/-- One program after another. -/
theorem Follows.bind {program : Program Command Reply Result}
    {next : Result → Program Command Reply Next}
    {later : List (Exchange Command Reply) → Next → Prop}
    (first : program.Follows asks ends past)
    (second : ∀ past result, ends past result → (next result).Follows asks later past) :
    (program >>= next).Follows asks later past := by
  induction program generalizing past with
  | done result => exact second past result first
  | call command rest induction =>
      refine ⟨first.1, fun reply => ?_⟩
      exact induction reply (first.2 reply)

theorem Follows.mono {program : Program Command Reply Result}
    {weaker : List (Exchange Command Reply) → Result → Prop}
    (follows : program.Follows asks ends past)
    (implies : ∀ past result, ends past result → weaker past result) :
    program.Follows asks weaker past := by
  induction program generalizing past with
  | done result => exact implies past result follows
  | call command rest induction =>
      exact ⟨follows.1, fun reply => induction reply (follows.2 reply)⟩

theorem Follows.weaken {program : Program Command Reply Result}
    {wider : List (Exchange Command Reply) → Command → Prop}
    (follows : program.Follows asks ends past)
    (implies : ∀ past command, asks past command → wider past command) :
    program.Follows wider ends past := by
  induction program generalizing past with
  | done result => exact follows
  | call command rest induction =>
      exact ⟨implies past command follows.1, fun reply => induction reply (follows.2 reply)⟩

/-- Every program follows what allows everything. -/
theorem follows_any (past : List (Exchange Command Reply))
    (program : Program Command Reply Result) :
    program.Follows (fun _ _ => True) (fun _ _ => True) past := by
  induction program generalizing past with
  | done result => trivial
  | call command next induction => exact ⟨trivial, fun reply => induction reply _⟩

/-- A run has exchanges after which its result is allowed. -/
theorem Follows.run {State : Type} {program : Program Command Reply Result}
    (follows : program.Follows asks ends past)
    (serve : (command : Command) → State → Reply command × State) (state : State) :
    ∃ later, ends later (program.run serve state).1 := by
  induction program generalizing past state with
  | done result => exact ⟨past, follows⟩
  | call command next induction => exact induction _ (follows.2 _) _

/-- A run over a state that no command changes has been told of that state alone. -/
theorem Follows.run_still {State : Type} {program : Program Command Reply Result}
    (follows : program.Follows asks ends past)
    (serve : (command : Command) → State → Reply command × State) {state : State}
    (still : ∀ command, (serve command state).2 = state)
    (told : ∀ exchange ∈ past, exchange.2 = (serve exchange.1 state).1) :
    ∃ later, ends later (program.run serve state).1 ∧
      ∀ exchange ∈ later, exchange.2 = (serve exchange.1 state).1 := by
  induction program generalizing past with
  | done result => exact ⟨past, follows, told⟩
  | call command next induction =>
      rw [Program.run, still command]
      apply induction _ (follows.2 _)
      intro exchange member
      rcases List.mem_cons.mp member with rfl | earlier
      · rfl
      · exact told exchange earlier

end Follows

end Program

/-! ## Systems of calls -/

/-- A call in progress: its input, what it has asked and been told, latest
first, and what is left of it. -/
structure Call (Input Command : Type) (Reply : Command → Type) (Result : Type) where
  input : Input
  past : List (Exchange Command Reply)
  rest : Program Command Reply Result

/-- What the calls of a system run and what their server does. A command is
served for the call with the given number. -/
structure Protocol (World Input Command : Type) (Reply : Command → Type) (Result : Type) where
  program : Input → Program Command Reply Result
  serve : Nat → (command : Command) → World → Reply command × World
  /-- When a call with this input may be made. -/
  opens : World → Input → Prop
  /-- What happens to the server by itself. -/
  moves : World → World → Prop

section System

variable {World Input Command : Type} {Reply : Command → Type} {Result : Type}

structure System (World Input Command : Type) (Reply : Command → Type) (Result : Type) where
  world : World
  calls : Nat → Option (Call Input Command Reply Result)

/-- A condition on the steps that serve a command: the server before it, and the
number, the call and the command. -/
abbrev Condition (World Input Command : Type) (Reply : Command → Type) (Result : Type) :=
  World → Nat → Call Input Command Reply Result → Command → Prop

namespace Protocol

variable (protocol : Protocol World Input Command Reply Result)

/-- The call as it begins. -/
def fresh (input : Input) : Call Input Command Reply Result :=
  ⟨input, [], protocol.program input⟩

/-- One step of a system, where the condition holds of every command served. -/
inductive Step (condition : Condition World Input Command Reply Result) :
    System World Input Command Reply Result → System World Input Command Reply Result → Prop
  | opened {system : System World Input Command Reply Result} {id : Nat} {input : Input}
      (unused : system.calls id = none) (opens : protocol.opens system.world input) :
      Step condition system
        { system with calls := Function.update system.calls id (some (protocol.fresh input)) }
  | served {system : System World Input Command Reply Result} {id : Nat} {input : Input}
      {past : List (Exchange Command Reply)} {command : Command}
      {next : Reply command → Program Command Reply Result}
      (running : system.calls id = some ⟨input, past, .call command next⟩)
      (meets : condition system.world id ⟨input, past, .call command next⟩ command) :
      Step condition system
        { world := (protocol.serve id command system.world).2
          calls := Function.update system.calls id
            (some ⟨input, ⟨command, (protocol.serve id command system.world).1⟩ :: past,
              next (protocol.serve id command system.world).1⟩) }
  | moved {system : System World Input Command Reply Result} {world : World}
      (moves : protocol.moves system.world world) :
      Step condition system { system with world }

/-- The systems reached from a server without calls. -/
def Reachable (condition : Condition World Input Command Reply Result) (start : World → Prop)
    (system : System World Input Command Reply Result) : Prop :=
  ∃ world, start world ∧
    Relation.ReflTransGen (protocol.Step condition) ⟨world, fun _ => none⟩ system

variable {protocol} {condition : Condition World Input Command Reply Result}
  {shared : World → Prop} {own : World → Nat → Call Input Command Reply Result → Prop}
  {idle : World → Nat → Prop}

/-- A call that has ended stays as it is. -/
theorem Step.keeps_done {before after : System World Input Command Reply Result}
    (step : protocol.Step condition before after) {id : Nat} {input : Input}
    {past : List (Exchange Command Reply)} {result : Result}
    (ended : before.calls id = some ⟨input, past, .done result⟩) :
    after.calls id = some ⟨input, past, .done result⟩ := by
  cases step with
  | @opened other otherInput unused opens =>
      have different : id ≠ other := by
        intro same
        rw [same, unused] at ended
        cases ended
      exact (Function.update_of_ne different _ _).trans ended
  | @served other otherInput otherPast command next running meets =>
      have different : id ≠ other := by
        intro same
        rw [same, running] at ended
        cases ended
      exact (Function.update_of_ne different _ _).trans ended
  | moved moves => exact ended

/-! ### Running a schedule -/

/-- Make a call with an unused number. -/
def start (protocol : Protocol World Input Command Reply Result)
    (system : System World Input Command Reply Result) (id : Nat) (input : Input) :
    System World Input Command Reply Result :=
  { system with calls := Function.update system.calls id (some (protocol.fresh input)) }

/-- Serve the next command of a call, if it has one. -/
def advance (protocol : Protocol World Input Command Reply Result)
    (system : System World Input Command Reply Result) (id : Nat) :
    System World Input Command Reply Result :=
  match system.calls id with
  | some ⟨input, past, .call command next⟩ =>
      { world := (protocol.serve id command system.world).2
        calls := Function.update system.calls id
          (some ⟨input, ⟨command, (protocol.serve id command system.world).1⟩ :: past,
            next (protocol.serve id command system.world).1⟩) }
  | _ => system

theorem advance_calls (protocol : Protocol World Input Command Reply Result)
    (system : System World Input Command Reply Result) {id other : Nat} (different : other ≠ id) :
    (protocol.advance system id).calls other = system.calls other := by
  rw [advance]
  split
  · dsimp only
    rw [Function.update_of_ne different]
  · rfl

theorem advances_calls (protocol : Protocol World Input Command Reply Result)
    (system : System World Input Command Reply Result) {id other : Nat} (different : other ≠ id)
    (count : Nat) :
    ((fun before => protocol.advance before id)^[count] system).calls other =
      system.calls other := by
  induction count with
  | zero => rfl
  | succ count induction =>
      rw [Function.iterate_succ_apply', advance_calls protocol _ different, induction]

/-- The next command of a call. -/
def asked (system : System World Input Command Reply Result) (id : Nat) : Option Command :=
  match system.calls id with
  | some ⟨_, _, .call command _⟩ => some command
  | _ => none

section Schedule

variable {begins : World → Prop} {system : System World Input Command Reply Result}

theorem Reachable.init {world : World} (holds : begins world) :
    protocol.Reachable condition begins ⟨world, fun _ => none⟩ :=
  ⟨world, holds, Relation.ReflTransGen.refl⟩

theorem Reachable.step {after : System World Input Command Reply Result}
    (reached : protocol.Reachable condition begins system)
    (next : protocol.Step condition system after) : protocol.Reachable condition begins after := by
  rcases reached with ⟨world, holds, steps⟩
  exact ⟨world, holds, steps.tail next⟩

theorem Reachable.steps {after : System World Input Command Reply Result}
    (reached : protocol.Reachable condition begins system)
    (steps : Relation.ReflTransGen (protocol.Step condition) system after) :
    protocol.Reachable condition begins after := by
  rcases reached with ⟨world, holds, earlier⟩
  exact ⟨world, holds, earlier.trans steps⟩

theorem Reachable.start (reached : protocol.Reachable condition begins system) (id : Nat)
    (input : Input) (unused : system.calls id = none)
    (opens : protocol.opens system.world input) :
    protocol.Reachable condition begins (protocol.start system id input) :=
  reached.step (.opened unused opens)

/-- A command of a call, when it meets the condition. -/
theorem steps_advance (id : Nat)
    (meets : ∀ call command next, system.calls id = some call → call.rest = .call command next →
      condition system.world id call command) :
    Relation.ReflTransGen (protocol.Step condition) system (protocol.advance system id) := by
  unfold Protocol.advance
  split
  · next input past command next running =>
      exact .single (.served running (meets _ command next running rfl))
  · exact .refl

/-- Several commands of one call in a row, where every command meets the condition. -/
theorem steps_advances (id count : Nat)
    (always : ∀ world id call command, condition world id call command) :
    Relation.ReflTransGen (protocol.Step condition) system
      ((fun before => protocol.advance before id)^[count] system) := by
  induction count generalizing system with
  | zero => exact .refl
  | succ count induction =>
      have first : Relation.ReflTransGen (protocol.Step condition) system
          (protocol.advance system id) :=
        steps_advance id fun call command _ _ _ => always _ id call command
      exact first.trans induction

theorem Reachable.advance (reached : protocol.Reachable condition begins system) (id : Nat)
    (meets : ∀ call command next, system.calls id = some call → call.rest = .call command next →
      condition system.world id call command) :
    protocol.Reachable condition begins (protocol.advance system id) :=
  reached.steps (steps_advance id meets)

theorem asked_of_calls {id : Nat} {call : Call Input Command Reply Result} {command : Command}
    {rest : Reply command → Program Command Reply Result} (running : system.calls id = some call)
    (isCall : call.rest = .call command rest) : asked system id = some command := by
  rw [asked, running]
  cases call with
  | mk input past program =>
      cases isCall
      rfl

theorem Reachable.advance_asked (reached : protocol.Reachable condition begins system) (id : Nat)
    (command : Command) (next : asked system id = some command)
    (meets : ∀ call, condition system.world id call command) :
    protocol.Reachable condition begins (protocol.advance system id) := by
  apply reached.advance id
  intro call other rest running isCall
  have same := asked_of_calls running isCall
  rw [next, Option.some.injEq] at same
  exact same ▸ meets call

theorem Reachable.advances (reached : protocol.Reachable condition begins system) (id count : Nat)
    (always : ∀ world id call command, condition world id call command) :
    protocol.Reachable condition begins
      ((fun before => protocol.advance before id)^[count] system) :=
  reached.steps (steps_advances id count always)

/-- Several commands of one call in a row, each of which meets the condition. -/
theorem steps_advances_of (id count : Nat)
    (meets : ∀ earlier < count, ∀ call command,
      ((fun before => protocol.advance before id)^[earlier] system).calls id = some call →
      asked ((fun before => protocol.advance before id)^[earlier] system) id = some command →
      condition ((fun before => protocol.advance before id)^[earlier] system).world id call
        command) :
    Relation.ReflTransGen (protocol.Step condition) system
      ((fun before => protocol.advance before id)^[count] system) := by
  induction count with
  | zero => exact .refl
  | succ count induction =>
      have before := induction fun earlier less => meets earlier (Nat.lt_succ_of_lt less)
      rw [Function.iterate_succ_apply']
      apply before.trans
      apply steps_advance id
      intro call command rest running isCall
      exact meets count (Nat.lt_succ_self count) call command running
        (asked_of_calls running isCall)

theorem Reachable.advances_of (reached : protocol.Reachable condition begins system)
    (id count : Nat)
    (meets : ∀ earlier < count, ∀ call command,
      ((fun before => protocol.advance before id)^[earlier] system).calls id = some call →
      asked ((fun before => protocol.advance before id)^[earlier] system) id = some command →
      condition ((fun before => protocol.advance before id)^[earlier] system).world id call
        command) :
    protocol.Reachable condition begins
      ((fun before => protocol.advance before id)^[count] system) :=
  reached.steps (steps_advances_of id count meets)

theorem Reachable.moved (reached : protocol.Reachable condition begins system) {world : World}
    (moves : protocol.moves system.world world) :
    protocol.Reachable condition begins { system with world } :=
  reached.step (.moved moves)

end Schedule

/-- The obligations of an invariant: `shared` of the server, `own` of each call and
`idle` of each number without one. A command must keep `shared`, its own call's part
and that of the others. -/
structure Preserves (protocol : Protocol World Input Command Reply Result)
    (condition : Condition World Input Command Reply Result)
    (shared : World → Prop) (own : World → Nat → Call Input Command Reply Result → Prop)
    (idle : World → Nat → Prop) : Prop where
  opened : ∀ {world id input}, shared world → idle world id → protocol.opens world input →
    own world id (protocol.fresh input)
  served : ∀ {world id input past command next}, shared world →
    own world id ⟨input, past, .call command next⟩ →
    condition world id ⟨input, past, .call command next⟩ command →
    shared (protocol.serve id command world).2 ∧
      own (protocol.serve id command world).2 id
        ⟨input, ⟨command, (protocol.serve id command world).1⟩ :: past,
          next (protocol.serve id command world).1⟩ ∧
      ∀ other, other ≠ id →
        (∀ call, own world other call → own (protocol.serve id command world).2 other call) ∧
          (idle world other → idle (protocol.serve id command world).2 other)
  moved : ∀ {world after}, shared world → protocol.moves world after →
    shared after ∧ ∀ id, (∀ call, own world id call → own after id call) ∧
      (idle world id → idle after id)

/-- The invariant of a system. -/
structure Holds (shared : World → Prop) (own : World → Nat → Call Input Command Reply Result → Prop)
    (idle : World → Nat → Prop) (system : System World Input Command Reply Result) : Prop where
  shared : shared system.world
  own : ∀ id call, system.calls id = some call → own system.world id call
  idle : ∀ id, system.calls id = none → idle system.world id

theorem Preserves.step (preserves : Preserves protocol condition shared own idle)
    {before after : System World Input Command Reply Result}
    (step : protocol.Step condition before after) (holds : Holds shared own idle before) :
    Holds shared own idle after := by
  cases step with
  | @opened id input unused opens =>
      refine ⟨holds.shared, fun other call running => ?_, fun other none => ?_⟩
      · dsimp only at running ⊢
        by_cases same : other = id
        · subst same
          rw [Function.update_self, Option.some.injEq] at running
          exact running ▸ preserves.opened holds.shared (holds.idle other unused) opens
        · rw [Function.update_of_ne same] at running
          exact holds.own other call running
      · dsimp only at none ⊢
        by_cases same : other = id
        · subst same
          rw [Function.update_self] at none
          cases none
        · rw [Function.update_of_ne same] at none
          exact holds.idle other none
  | @served id input past command next running meets =>
      rcases preserves.served holds.shared (holds.own id _ running) meets with
        ⟨sharedAfter, ownAfter, others⟩
      refine ⟨sharedAfter, fun other call found => ?_, fun other none => ?_⟩
      · dsimp only at found ⊢
        by_cases same : other = id
        · subst same
          rw [Function.update_self, Option.some.injEq] at found
          exact found ▸ ownAfter
        · rw [Function.update_of_ne same] at found
          exact (others other same).1 call (holds.own other call found)
      · dsimp only at none ⊢
        by_cases same : other = id
        · subst same
          rw [Function.update_self] at none
          cases none
        · rw [Function.update_of_ne same] at none
          exact (others other same).2 (holds.idle other none)
  | moved moves =>
      rcases preserves.moved holds.shared moves with ⟨sharedAfter, kept⟩
      exact ⟨sharedAfter, fun id call running => (kept id).1 call (holds.own id call running),
        fun id none => (kept id).2 (holds.idle id none)⟩

/-- Induction over the steps of a run. -/
theorem Reachable.induct {start : World → Prop}
    {motive : System World Input Command Reply Result → Prop}
    (initially : ∀ world, start world → motive ⟨world, fun _ => none⟩)
    (next : ∀ before after, protocol.Reachable condition start before →
      protocol.Step condition before after → motive before → motive after)
    {system : System World Input Command Reply Result}
    (reached : protocol.Reachable condition start system) : motive system := by
  rcases reached with ⟨world, starts, steps⟩
  induction steps with
  | refl => exact initially world starts
  | tail earlier step induction => exact next _ _ ⟨world, starts, earlier⟩ step induction

/-- An invariant holds in every reachable system. -/
theorem Reachable.invariant {start : World → Prop}
    {system : System World Input Command Reply Result}
    (reached : protocol.Reachable condition start system)
    (initially : ∀ world, start world → shared world ∧ ∀ id, idle world id)
    (preserves : Preserves protocol condition shared own idle) : Holds shared own idle system := by
  refine reached.induct (fun world starts => ?_) fun before after _ step holds => ?_
  · refine ⟨(initially world starts).1, fun id call running => ?_,
      fun id _ => (initially world starts).2 id⟩
    cases running
  · exact preserves.step step holds

section Asking

variable {asks : Input → List (Exchange Command Reply) → Command → Prop}
  {ends : Input → List (Exchange Command Reply) → Result → Prop}
  {start : World → Prop} {system : System World Input Command Reply Result}

/-- Every call of a reachable system is at a point of its program. -/
theorem Reachable.follows (reached : protocol.Reachable condition start system)
    (programs : ∀ input, (protocol.program input).Follows (asks input) (ends input) []) :
    ∀ id call, system.calls id = some call →
      call.rest.Follows (asks call.input) (ends call.input) call.past := by
  have preserves : Preserves protocol condition (fun _ => True)
      (fun _ _ call => call.rest.Follows (asks call.input) (ends call.input) call.past)
      fun _ _ => True :=
    { opened := fun _ _ _ => programs _
      served := fun _ follows _ => ⟨trivial, follows.2 _, fun _ _ => ⟨fun _ kept => kept, id⟩⟩
      moved := fun _ _ => ⟨trivial, fun _ => ⟨fun _ kept => kept, id⟩⟩ }
  exact (reached.invariant (fun _ _ => ⟨trivial, fun _ => trivial⟩) preserves).own

/-- What the programs ask can be taken as a condition on the run. -/
theorem Reachable.asking (reached : protocol.Reachable condition start system)
    (programs : ∀ input, (protocol.program input).Follows (asks input) (ends input) []) :
    protocol.Reachable (fun world id call command =>
      condition world id call command ∧ asks call.input call.past command) start system := by
  refine reached.induct (fun world starts => Reachable.init starts) ?_
  intro before after earlier step induction
  have follows := earlier.follows programs
  cases step with
  | opened unused opens => exact induction.step (.opened unused opens)
  | served running meets =>
      exact induction.step (.served running ⟨meets, (follows _ _ running).1⟩)
  | moved moves => exact induction.step (.moved moves)

end Asking

end Protocol

end System

/-- A supply of different texts. -/
def unary (id : Nat) : String := String.ofList (List.replicate id 'u')

theorem unary_injective : Function.Injective unary := by
  intro left right same
  have lengths := congrArg String.length same
  simpa [unary] using lengths

end GptQueue
