import GptQueue.Foundation.Interleaving
import GptQueue.Foundation.Json

/-! # Destructive receives

`receive_message` refuses a name with an actor-directory record and else pops the
mailbox with a blocking command. The check is made once, before the pop.
-/

namespace GptQueue.Receive

/-! ## Commands -/

/-- A stored directory record: the owner that the script finds in it, and whether it
passes the read admission. -/
structure StoredRecord where
  registeredBy : Option String
  admissible : Bool
deriving DecidableEq

inductive Command
  /-- Read the directory record of the name. -/
  | readRecord
  /-- `actor-directory-conditional-set`. -/
  | conditionalSet (registeredBy : String)
  | blpop (timeout : Nat)
  /-- Park an unparseable payload in the dead-letter queue. -/
  | park (raw : String)
  | recordDepth
  /-- The push script of a send. -/
  | push (serialized : String)
deriving DecidableEq

abbrev Reply : Command → Type
  | .readRecord => Option StoredRecord
  | .conditionalSet _ => Bool
  | .blpop _ => Option String
  | .park _ => Unit
  | .recordDepth => Unit
  | .push _ => Bool

abbrev ask (command : Command) : Program Command Reply (Reply command) := Program.ask command

inductive Result
  | durableActorClaimRequired
  | storeCorrupt
  | message (message : Json)
  | noMessages
  | registered
  | refused (code : String)
  | sent
  | full

/-! ## Programs -/

def receiveMessage (timeout : Nat) : Program Command Reply Result := do
  match ← ask .readRecord with
  | some record => pure (if record.admissible then .durableActorClaimRequired else .storeCorrupt)
  | none =>
      match ← ask (.blpop timeout) with
      | none => pure .noMessages
      | some raw =>
          match Json.parse raw with
          | none => do
              let _ ← ask (.park raw)
              pure .noMessages
          | some message => do
              let _ ← ask .recordDepth
              pure (.message message)

/-- Write the record, or go on with the next attempt. -/
def persist (registeredBy : String) (next : Program Command Reply Result) :
    Program Command Reply Result := do
  if ← ask (.conditionalSet registeredBy) then pure .registered else next

/-- The attempts of `ActorDirectory.register` that are left. -/
def registerAttempts (registeredBy : String) : Nat → Program Command Reply Result
  | 0 => do
      match ← ask .readRecord with
      | some record => pure (if record.admissible then .refused "actor_owned_elsewhere"
          else .storeCorrupt)
      | none => pure (.refused "actor_owned_elsewhere")
  | attempts + 1 => do
      match ← ask .readRecord with
      | none => persist registeredBy (registerAttempts registeredBy attempts)
      | some record =>
          if record.admissible then
            if record.registeredBy = some registeredBy then
              persist registeredBy (registerAttempts registeredBy attempts)
            else pure (.refused "actor_owned_elsewhere")
          else pure .storeCorrupt

/-- `actor_register`; `refusal` is what admission or the launch policy says. -/
def actorRegister (registeredBy : String) (refusal : Option String) :
    Program Command Reply Result :=
  match refusal with
  | some code => pure (.refused code)
  | none => registerAttempts registeredBy 2

/-- The attempts of a send that are left. -/
def sendAttempts (serialized : String) : Nat → Program Command Reply Result
  | 0 => pure .full
  | attempts + 1 => do
      if ← ask (.push serialized) then pure .sent else sendAttempts serialized attempts

inductive Input
  | receive (timeout : Nat)
  | actorRegister (registeredBy : String) (refusal : Option String)
  | send (serialized : String)

def program : Input → Program Command Reply Result
  | .receive timeout => receiveMessage timeout
  | .actorRegister registeredBy refusal => actorRegister registeredBy refusal
  | .send serialized => sendAttempts serialized 10

/-! ## The server -/

/-- A message of the mailbox, and whether the name had a directory record when it was
pushed. -/
structure Queued where
  serialized : String
  durable : Bool
deriving DecidableEq

inductive Event
  | read (call : Nat)
  /-- The name has got a directory record. -/
  | recorded
  | popped (call : Nat) (message : Queued)
deriving DecidableEq

structure World where
  record : Option StoredRecord
  mailbox : List Queued
  queueBound : Option Nat
  currentSize : Nat
  dlq : List String
  /-- Latest first. -/
  log : List Event

def dlqMaxLength : Nat := 1000

def serve (id : Nat) : (command : Command) → World → Reply command × World
  | .readRecord, world => (world.record, { world with log := .read id :: world.log })
  | .conditionalSet registeredBy, world =>
      match world.record with
      | none =>
          (true,
            { world with record := some ⟨some registeredBy, true⟩, log := .recorded :: world.log })
      | some record =>
          if record.registeredBy = some registeredBy then
            (true, { world with record := some ⟨some registeredBy, true⟩ })
          else (false, world)
  | .blpop _, world =>
      match world.mailbox with
      | [] => (none, world)
      | message :: rest =>
          (some message.serialized,
            { world with mailbox := rest, log := .popped id message :: world.log })
  | .park raw, world => ((), { world with dlq := (raw :: world.dlq).take dlqMaxLength })
  | .recordDepth, world => ((), { world with currentSize := world.mailbox.length })
  | .push serialized, world =>
      if world.queueBound.any fun bound => bound ≤ world.mailbox.length then (false, world)
      else
        (true,
          { world with
            mailbox := world.mailbox ++ [⟨serialized, world.record.isSome⟩]
            currentSize := world.mailbox.length + 1 })

def receiveProtocol : Protocol World Input Command Reply Result where
  program := program
  serve := serve
  opens _ _ := True
  moves _ _ := False

abbrev ReceiveSystem := System World Input Command Reply Result

/-- A pop with timeout 0 is answered only when there is a message. -/
def Blocks : Condition World Input Command Reply Result := fun world _ _ command =>
  command = .blpop 0 → world.mailbox ≠ []

/-- Messages of a name without a record were pushed without one. -/
def Unrecorded (world : World) : Prop :=
  world.record = none → ∀ message ∈ world.mailbox, message.durable = false

structure Initial (world : World) : Prop where
  log : world.log = []
  unrecorded : Unrecorded world

/-- No message pushed for a name with a directory record was popped. -/
def NeverPopped (world : World) : Prop :=
  ∀ call message, .popped call message ∈ world.log → message.durable = false

/-! ## What a call asks -/

abbrev Past := List (Exchange Command Reply)

/-- A pop comes right after the read that found no record. -/
def Asks (past : Past) : Command → Prop
  | .blpop _ => past = [⟨.readRecord, none⟩]
  | _ => True

section Follows

theorem follows_persist {registeredBy : String} {next : Program Command Reply Result} {past : Past}
    (rest : ∀ past, next.Follows Asks (fun _ _ => True) past) :
    (persist registeredBy next).Follows Asks (fun _ _ => True) past := by
  refine Program.follows_ask_bind.mpr ⟨trivial, fun persisted => ?_⟩
  cases persisted with
  | true => trivial
  | false => exact rest _

theorem follows_registerAttempts (registeredBy : String) (attempts : Nat) (past : Past) :
    (registerAttempts registeredBy attempts).Follows Asks (fun _ _ => True) past := by
  induction attempts generalizing past with
  | zero =>
      refine Program.follows_ask_bind.mpr ⟨trivial, fun found => ?_⟩
      cases found <;> trivial
  | succ attempts induction =>
      refine Program.follows_ask_bind.mpr ⟨trivial, fun found => ?_⟩
      cases found with
      | none => exact follows_persist induction
      | some record =>
          dsimp only
          split
          · split
            · exact follows_persist induction
            · trivial
          · trivial

theorem follows_sendAttempts (serialized : String) (attempts : Nat) (past : Past) :
    (sendAttempts serialized attempts).Follows Asks (fun _ _ => True) past := by
  induction attempts generalizing past with
  | zero => trivial
  | succ attempts induction =>
      refine Program.follows_ask_bind.mpr ⟨trivial, fun pushed => ?_⟩
      cases pushed with
      | true => trivial
      | false => exact induction _

theorem follows_program (input : Input) :
    (program input).Follows Asks (fun _ _ => True) [] := by
  cases input with
  | receive timeout =>
      refine Program.follows_ask_bind.mpr ⟨trivial, fun found => ?_⟩
      cases found with
      | some record => trivial
      | none =>
          refine Program.follows_ask_bind.mpr ⟨rfl, fun popped => ?_⟩
          cases popped with
          | none => trivial
          | some raw =>
              dsimp only
              split <;> exact ⟨trivial, fun _ => trivial⟩
  | actorRegister registeredBy refusal =>
      cases refusal with
      | some code => trivial
      | none => exact follows_registerAttempts registeredBy 2 []
  | send serialized => exact follows_sendAttempts serialized 10 []

end Follows

/-! ## Pops before any registration -/

/-- What was logged since a call read the directory. -/
def sinceRead (id : Nat) (log : List Event) : List Event :=
  log.takeWhile fun event => event ≠ .read id

/-- No `actor_register` gives the name its record between a receive's check and its
pop. -/
def PopsUnrecorded : Condition World Input Command Reply Result := fun world id call command =>
  Blocks world id call command ∧
    ∀ timeout, command = .blpop timeout → .recorded ∉ sinceRead id world.log

/-- A call that has only read that there is no record. -/
def Checked (world : World) (id : Nat) (call : Call Input Command Reply Result) : Prop :=
  call.past = [⟨.readRecord, none⟩] → world.record = none ∨ .recorded ∈ sinceRead id world.log

section Runs

variable {id : Nat} {world : World}

/-- What a command does to the record and the log. -/
theorem serve_log (command : Command) :
    ((serve id command world).2.log = world.log ∧
      (world.record = none → (serve id command world).2.record = none)) ∨
    ∃ event, (serve id command world).2.log = event :: world.log ∧
      ((event = .read id ∧ command = .readRecord ∧
          (serve id command world).2.record = world.record) ∨
        event = .recorded ∨
        ∃ message timeout, event = .popped id message ∧ command = .blpop timeout ∧
          world.mailbox.head? = some message ∧
          (serve id command world).2.record = world.record) := by
  cases command with
  | readRecord => exact Or.inr ⟨_, rfl, Or.inl ⟨rfl, rfl, rfl⟩⟩
  | conditionalSet registeredBy =>
      cases held : world.record with
      | none =>
          right
          refine ⟨.recorded, ?_, Or.inr (Or.inl rfl)⟩
          simp [serve, held]
      | some record =>
          left
          by_cases own : record.registeredBy = some registeredBy <;> simp [serve, held, own]
  | blpop timeout =>
      cases mailbox : world.mailbox with
      | nil =>
          left
          simp [serve, mailbox]
      | cons message rest =>
          right
          refine ⟨.popped id message, ?_, Or.inr (Or.inr ⟨message, timeout, rfl, rfl, rfl, ?_⟩)⟩
          · simp [serve, mailbox]
          · simp [serve, mailbox]
  | push serialized =>
      left
      dsimp only [serve]
      split <;> exact ⟨rfl, fun none => none⟩
  | _ => exact Or.inl ⟨rfl, fun none => none⟩

theorem Unrecorded.served (unrecorded : Unrecorded world) (command : Command) :
    Unrecorded (serve id command world).2 := by
  cases command with
  | conditionalSet registeredBy =>
      intro none
      cases held : world.record with
      | none => simp [serve, held] at none
      | some record =>
          by_cases own : record.registeredBy = some registeredBy <;>
            simp [serve, held, own] at none
  | blpop timeout =>
      intro none
      cases mailbox : world.mailbox with
      | nil =>
          simp [serve, mailbox]
      | cons message rest =>
          simp only [serve, mailbox] at none ⊢
          intro other member
          apply unrecorded none
          rw [mailbox]
          exact List.mem_cons_of_mem _ member
  | push serialized =>
      intro none
      dsimp only [serve] at none ⊢
      split at none
      · next full =>
          rw [if_pos full]
          exact unrecorded none
      · next room =>
          rw [if_neg room]
          intro message member
          rcases List.mem_append.mp member with old | new
          · exact unrecorded none message old
          · have absent : world.record = Option.none := none
            rw [List.mem_singleton.mp new, absent]
            rfl
  | _ => exact unrecorded

theorem sinceRead_cons {event : Event} (other : event ≠ .read id) (log : List Event) :
    sinceRead id (event :: log) = event :: sinceRead id log := by
  rw [sinceRead, List.takeWhile_cons_of_pos (by simpa using other)]
  rfl

/-- A step that is no read of the call keeps what the call has checked. -/
theorem Checked.served {reader : Nat} {call : Call Input Command Reply Result}
    (checked : Checked world reader call) {command : Command}
    (notRead : id = reader → command ≠ .readRecord) :
    Checked (serve id command world).2 reader call := by
  intro read
  rcases @serve_log id world command with ⟨same, stays⟩ | ⟨event, log, happened⟩
  · rw [same]
    exact (checked read).imp_left stays
  · have other : event ≠ .read reader := by
      rcases happened with ⟨isRead, isCommand, -⟩ | isRecorded | ⟨message, timeout, isPop, -⟩
      · intro own
        have same : id = reader := Event.read.inj (isRead.symm.trans own)
        exact notRead same isCommand
      · rw [isRecorded]
        simp
      · rw [isPop]
        simp
    rw [log, sinceRead_cons other]
    rcases happened with ⟨-, -, record⟩ | isRecorded | ⟨message, timeout, -, -, -, record⟩
    · rw [record]
      exact (checked read).imp_right (List.mem_cons_of_mem _)
    · rw [isRecorded]
      exact Or.inr List.mem_cons_self
    · rw [record]
      exact (checked read).imp_right (List.mem_cons_of_mem _)

/-- The call's own command. -/
theorem Checked.next {input : Input} {past : Past} {command : Command}
    {rest : Program Command Reply Result} :
    Checked (serve id command world).2 id
      ⟨input, ⟨command, (serve id command world).1⟩ :: past, rest⟩ := by
  intro read
  have head := (List.cons.inj read).1
  have isRead : command = .readRecord := congrArg Sigma.fst head
  subst isRead
  exact Or.inl (eq_of_heq (Sigma.mk.inj head).2)

theorem preserves_unrecorded :
    Protocol.Preserves receiveProtocol
      (fun world id call command => PopsUnrecorded world id call command ∧
        Asks call.past command)
      (fun world => Unrecorded world ∧ NeverPopped world) Checked (fun _ _ => True) where
  opened _ _ _ := fun read => by cases read
  served {world id input past command next} shared checked meets := by
    rcases shared with ⟨unrecorded, never⟩
    refine ⟨⟨unrecorded.served command, ?_⟩, Checked.next, fun other different =>
      ⟨fun call kept => kept.served fun same => absurd same.symm different, fun _ => trivial⟩⟩
    intro call message member
    rcases @serve_log id world command with ⟨same, -⟩ | ⟨event, log, happened⟩
    · exact never call message (same ▸ member)
    · have logged : .popped call message ∈ event :: world.log := log ▸ member
      rcases List.mem_cons.mp logged with head | earlier
      · rcases happened with ⟨isRead, -⟩ | isRecorded | ⟨popped, timeout, isPop, isBlpop, first, -⟩
        · cases head.trans isRead
        · cases head.trans isRecorded
        · have same : message = popped := (Event.popped.inj (head.trans isPop)).2
          subst isBlpop same
          -- the pop comes right after the check, so the record is still absent
          have absent : world.record = none :=
            (checked meets.2).resolve_right (meets.1.2 timeout rfl)
          exact unrecorded absent message (List.mem_of_mem_head? first)
      · exact never call message earlier
  moved _ moves := moves.elim

/-- If no `actor_register` gives the name its record between a receive's check and its
pop, no message pushed for a name with a record is ever popped. -/
theorem durable_never_popped {system : ReceiveSystem}
    (reached : receiveProtocol.Reachable PopsUnrecorded Initial system) :
    NeverPopped system.world := by
  have holds := (reached.asking follows_program).invariant
    (fun world initial => ⟨⟨initial.unrecorded, fun _ _ member => by
      rw [initial.log] at member
      cases member⟩, fun _ => trivial⟩) preserves_unrecorded
  exact holds.shared.2

end Runs

/-! ## A registration during a blocking pop -/

section Schedules

def sampleWorld : World := ⟨none, [], some 100, 0, [], []⟩

theorem sampleWorld_initial : Initial sampleWorld where
  log := rfl
  unrecorded _ _ member := absurd member List.not_mem_nil

/-- A receive has checked and waits in its pop. -/
def waiting : ReceiveSystem :=
  receiveProtocol.advance (receiveProtocol.start ⟨sampleWorld, fun _ => none⟩ 0 (.receive 0)) 0

/-- The name registers as a durable actor, and then a message is sent. -/
def sentToActor : ReceiveSystem :=
  receiveProtocol.advance (receiveProtocol.start
    (receiveProtocol.advance (receiveProtocol.advance
      (receiveProtocol.start waiting 1 (.actorRegister "s" none)) 1) 1) 2 (.send "task")) 2

/-- The waiting pop takes it. -/
def poppedFromActor : ReceiveSystem := receiveProtocol.advance sentToActor 0

theorem poppedFromActor_reachable :
    receiveProtocol.Reachable Blocks Initial poppedFromActor := by
  have other : ∀ {system : ReceiveSystem} (id : Nat) (command : Command),
      receiveProtocol.Reachable Blocks Initial system →
      Protocol.asked system id = some command → command ≠ .blpop 0 →
      receiveProtocol.Reachable Blocks Initial (receiveProtocol.advance system id) := by
    intro system id command reached next notPop
    exact reached.advance_asked id command next fun _ isPop => absurd isPop notPop
  have begun := (Protocol.Reachable.init sampleWorld_initial : receiveProtocol.Reachable Blocks
    Initial _).start 0 (.receive 0) rfl trivial
  have checked : receiveProtocol.Reachable Blocks Initial waiting :=
    other 0 .readRecord begun rfl (by decide)
  have read := other 1 .readRecord (checked.start 1 (.actorRegister "s" none) rfl trivial) rfl
    (by decide)
  have recorded := other 1 (.conditionalSet "s") read rfl (by decide)
  have sent : receiveProtocol.Reachable Blocks Initial sentToActor :=
    other 2 (.push "task") (recorded.start 2 (.send "task") rfl trivial) rfl (by decide)
  exact sent.advance_asked 0 (.blpop 0) rfl fun _ _ => by decide +kernel

/-- A message sent to a durable actor is popped. -/
theorem durable_popped :
    ¬∀ system : ReceiveSystem, receiveProtocol.Reachable Blocks Initial system →
      NeverPopped system.world := by
  intro never
  have logged : .popped 0 ⟨"task", true⟩ ∈ poppedFromActor.world.log := by decide +kernel
  cases never poppedFromActor poppedFromActor_reachable 0 _ logged

/-- A message is sent to a name without a record and received. -/
def receivedPlain : ReceiveSystem :=
  receiveProtocol.advance (receiveProtocol.advance
    (receiveProtocol.start waiting 1 (.send "task")) 1) 0

theorem receivedPlain_reachable :
    receiveProtocol.Reachable PopsUnrecorded Initial receivedPlain := by
  have other : ∀ {system : ReceiveSystem} (id : Nat) (command : Command),
      receiveProtocol.Reachable PopsUnrecorded Initial system →
      Protocol.asked system id = some command → (∀ timeout, command ≠ .blpop timeout) →
      receiveProtocol.Reachable PopsUnrecorded Initial (receiveProtocol.advance system id) := by
    intro system id command reached next notPop
    exact reached.advance_asked id command next fun _ =>
      ⟨fun isPop => absurd isPop (notPop 0), fun timeout isPop => absurd isPop (notPop timeout)⟩
  have begun := (Protocol.Reachable.init sampleWorld_initial : receiveProtocol.Reachable
    PopsUnrecorded Initial _).start 0 (.receive 0) rfl trivial
  have checked : receiveProtocol.Reachable PopsUnrecorded Initial waiting :=
    other 0 .readRecord begun rfl (by simp)
  have sent := other 1 (.push "task") (checked.start 1 (.send "task") rfl trivial) rfl (by simp)
  exact sent.advance_asked 0 (.blpop 0) rfl fun _ =>
    ⟨fun _ => by decide +kernel, fun _ _ => by decide +kernel⟩

theorem receivedPlain_popped : NeverPopped receivedPlain.world ∧
    .popped 0 ⟨"task", false⟩ ∈ receivedPlain.world.log :=
  ⟨durable_never_popped receivedPlain_reachable, by decide +kernel⟩

end Schedules

end GptQueue.Receive
