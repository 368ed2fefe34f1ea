import GptQueue.Foundation.Interleaving

/-! # The inbox dispatcher

A dispatcher owns the runtime binding of an agent for as long as the binding key
lives. Every write of the activation record is fenced by the owner's token.
-/

namespace GptQueue.Activation

/-! ## Records -/

inductive ActivationState
  | pending
  | submitting
  | accepted
  | ambiguous
  | exhausted
deriving DecidableEq

structure ActivationRecord where
  operationId : String
  messageIds : List String
  attempt : Nat
  state : ActivationState
  createdAt : String
deriving DecidableEq

/-- The text of the activation key. -/
inductive Stored
  | readable (record : ActivationRecord)
  | corrupt
deriving DecidableEq

/-- A corrupt record reads as absent. -/
def Stored.parse : Option Stored → Option ActivationRecord
  | some (.readable record) => some record
  | _ => none

inductive ActivationOutcome
  | started (turnId : String)
  | completed (turnId : String)
  | queued
  | busy
  | unavailable
  | ambiguous
deriving DecidableEq

def ActivationOutcome.deferred : ActivationOutcome → Bool
  | .busy => true
  | .unavailable => true
  | _ => false

/-- The value of the binding key: the runtime and the dispatcher's token. -/
structure Owner where
  runtimeId : String
  token : String
deriving DecidableEq

/-! ## Commands -/

inductive Command
  | randomUUID
  | attach (owner : Owner)
  | refresh (owner : Owner)
  | recoverExpired
  /-- The ids of the pending messages. -/
  | pending
  | current
  | save (owner : Owner) (record : Option ActivationRecord)
  | zcard
  | clock
  /-- Whether `retryAt` lies ahead. -/
  | backingOff
  | trace
  /-- The call of the adapter, and its end. -/
  | activate (operationId : String) (recoverOnly : Bool)
  | outcome
  | aborted
  | wait
  | detach (owner : Owner)
deriving DecidableEq

abbrev Answer : Command → Type
  | .randomUUID => String
  | .attach _ => Bool
  | .refresh _ => Bool
  | .recoverExpired => Bool
  | .pending => List String
  | .current => Option ActivationRecord
  | .save _ _ => Bool
  | .zcard => Nat
  | .clock => String
  | .backingOff => Bool
  | .trace => Unit
  | .activate _ _ => Unit
  | .outcome => ActivationOutcome
  | .aborted => Bool
  | .wait => Unit
  | .detach _ => Unit

/-- `none` when the promise rejects. -/
abbrev Reply (command : Command) : Type := Option (Answer command)

abbrev ask (command : Command) : Program Command Reply (Reply command) := Program.ask command

/-! ## Programs -/

inductive Next
  | goOn
  | stop
deriving DecidableEq

/-- Await a command inside `reconcile`; a rejection ends it. -/
def await (command : Command)
    (next : Answer command → Program Command Reply (Option Next)) :
    Program Command Reply (Option Next) := do
  match ← ask command with
  | none => pure none
  | some answer => next answer

structure Dispatcher where
  owner : Owner
  maxAttempts : Nat
  /-- `activationOperationId` for the agent, by runtime, message ids and attempt. -/
  operationId : String → List String → Nat → String

def createRecord (dispatcher : Dispatcher) (ids : List String) (attempt : Nat)
    (createdAt : String) : ActivationRecord where
  operationId := dispatcher.operationId dispatcher.owner.runtimeId ids attempt
  messageIds := ids
  attempt := attempt
  state := .pending
  createdAt := createdAt

/-- Save the record in a new state, whatever the save comes to, and trace it. -/
def saveResult (dispatcher : Dispatcher) (record : ActivationRecord) (state : ActivationState)
    (traces : Bool) : Program Command Reply (Option Next) :=
  await (.save dispatcher.owner (some { record with state })) fun _ =>
    if traces then await .trace fun _ => pure (some .goOn) else pure (some .goOn)

/-- What is saved for an outcome. A deferral is traced each time here; the source
leaves out repetitions. -/
def settle (dispatcher : Dispatcher) (pending : List String) (record : ActivationRecord)
    (recovery : Bool) (outcome : ActivationOutcome) : Program Command Reply (Option Next) :=
  match outcome with
  | .started _ | .queued => saveResult dispatcher record .accepted (record.state ≠ .accepted)
  | .completed _ =>
      if record.attempt < dispatcher.maxAttempts then
        await .clock fun now =>
          await (.save dispatcher.owner
            (some (createRecord dispatcher pending (record.attempt + 1) now))) fun _ =>
              pure (some .goOn)
      else saveResult dispatcher record .exhausted true
  | .ambiguous => saveResult dispatcher record .ambiguous (record.state ≠ .ambiguous)
  | .busy | .unavailable =>
      await .trace fun _ =>
        await (.save dispatcher.owner
          (some { record with state := if recovery then record.state else .pending })) fun _ =>
            pure (some .goOn)

def submit (dispatcher : Dispatcher) (pending : List String) (record : ActivationRecord)
    (recovery : Bool) : Program Command Reply (Option Next) :=
  await (.activate record.operationId recovery) fun _ =>
    await .outcome fun outcome =>
      await .aborted fun aborted =>
        if aborted then pure (some .goOn)
        else await (.refresh dispatcher.owner) fun renewed =>
          if renewed then settle dispatcher pending record recovery outcome
          else pure (some .goOn)

/-- From the record on that is current for the pending messages. -/
def activateRecord (dispatcher : Dispatcher) (pending : List String) (record : ActivationRecord) :
    Program Command Reply (Option Next) :=
  if record.state = .exhausted then pure (some .goOn)
  else await .backingOff fun backingOff =>
    if backingOff then pure (some .goOn)
    else if record.state = .pending then
      await (.save dispatcher.owner (some { record with state := .submitting })) fun saved =>
        if saved then await .trace fun _ => submit dispatcher pending record false
        else pure (some .stop)
    else submit dispatcher pending record true

def dispatch (dispatcher : Dispatcher) (pending : List String)
    (record : Option ActivationRecord) : Program Command Reply (Option Next) :=
  if pending = [] then pure (some .goOn)
  else await .zcard fun claimed =>
    if 0 < claimed then pure (some .goOn)
    else
      match record with
      | some record => activateRecord dispatcher pending record
      | none =>
          await .clock fun now =>
            await (.save dispatcher.owner (some (createRecord dispatcher pending 1 now))) fun saved =>
              if saved then
                activateRecord dispatcher pending (createRecord dispatcher pending 1 now)
              else pure (some .stop)

/-- None of the record's messages is pending any more. -/
def stale (record : Option ActivationRecord) (pending : List String) : Bool :=
  match record with
  | some record => !record.messageIds.any fun id => pending.contains id
  | none => false

/-- An exhausted record does not cover all pending messages. -/
def superseded (record : Option ActivationRecord) (pending : List String) : Bool :=
  match record with
  | some record =>
      record.state = .exhausted && pending.any fun id => !record.messageIds.contains id
  | none => false

def reconcile (dispatcher : Dispatcher) : Program Command Reply (Option Next) :=
  await (.refresh dispatcher.owner) fun renewed =>
    if renewed then
      await .recoverExpired fun recovered =>
        if recovered then
          await .pending fun pending =>
            await .current fun record =>
              if pending = [] || stale record pending || superseded record pending then
                await (.save dispatcher.owner none) fun saved =>
                  if saved then dispatch dispatcher pending none else pure (some .stop)
              else dispatch dispatcher pending record
        else pure none
    else pure (some .stop)

/-- The end of the dispatcher's loop. -/
def finish (dispatcher : Dispatcher) : Program Command Reply Unit := do
  let _ ← ask (.detach dispatcher.owner)
  let _ ← ask .trace

/-- The loop, for a number of rounds. -/
def rounds (dispatcher : Dispatcher) : Nat → Program Command Reply Unit
  | 0 => finish dispatcher
  | count + 1 => do
      match ← ask .aborted with
      | some true => finish dispatcher
      | _ =>
          match ← reconcile dispatcher with
          | some .stop => finish dispatcher
          | _ => do
              let _ ← ask .wait
              rounds dispatcher count

/-- One dispatcher instance. -/
structure Input where
  runtimeId : String
  maxAttempts : Nat
  rounds : Nat

def startInboxDispatcher (operationId : String → List String → Nat → String) (input : Input) :
    Program Command Reply Unit := do
  match ← ask .randomUUID with
  | none => pure ()
  | some token =>
      let dispatcher : Dispatcher := ⟨⟨input.runtimeId, token⟩, input.maxAttempts, operationId⟩
      match ← ask (.attach dispatcher.owner) with
      | some true => do
          match ← ask .trace with
          | some _ => rounds dispatcher input.rounds
          | none => pure ()
      | _ => pure ()

/-! ## The server -/

/-- What the scripts do to the two keys. -/
structure Keys where
  binding : Option Owner
  stored : Option Stored

def Keys.attach (keys : Keys) (owner : Owner) : Bool × Keys :=
  match keys.binding with
  | none => (true, { keys with binding := some owner })
  | some _ => (false, keys)

def Keys.save (keys : Keys) (owner : Owner) (record : Option ActivationRecord) : Bool × Keys :=
  if keys.binding = some owner then (true, { keys with stored := record.map Stored.readable })
  else (false, keys)

def Keys.detach (keys : Keys) (owner : Owner) : Keys :=
  if keys.binding = some owner then { keys with binding := none } else keys

/-- A reply may get lost, before its command is run or after. -/
inductive Link
  | up
  | down
  | lost
deriving DecidableEq

/-- What the calls only read. -/
structure Environment where
  link : Link
  recovered : Bool
  pending : List String
  claimed : Nat
  clock : String
  backingOff : Bool
  outcome : Option ActivationOutcome
  aborted : Bool

inductive Event
  /-- A save was applied. -/
  | saved (call : Nat) (record : Option ActivationRecord)
  /-- The activation key expired. -/
  | lapsed
  /-- `activate` was called without `recover_only`. -/
  | submitted (call : Nat) (operationId : String)
  /-- A call of `activate` returned. -/
  | returned (call : Nat) (outcome : ActivationOutcome)
deriving DecidableEq

structure World where
  keys : Keys
  environment : Environment
  /-- Latest first. -/
  log : List Event

/-- Run a command of the server over the link. -/
def World.over (world : World) {α : Type} (ran : α × World) : Option α × World :=
  match world.environment.link with
  | .up => (some ran.1, ran.2)
  | .down => (none, world)
  | .lost => (none, ran.2)

/-- `uuid` has the token that each dispatcher draws. -/
def serve (uuid : Nat → String) (id : Nat) :
    (command : Command) → World → Reply command × World
  | .randomUUID, world => (some (uuid id), world)
  | .attach owner, world =>
      let ran := world.keys.attach owner
      world.over (ran.1, { world with keys := ran.2 })
  | .refresh owner, world => world.over (decide (world.keys.binding = some owner), world)
  | .recoverExpired, world => world.over (world.environment.recovered, world)
  | .pending, world => world.over (world.environment.pending, world)
  | .current, world => world.over (Stored.parse world.keys.stored, world)
  | .save owner record, world =>
      let ran := world.keys.save owner record
      world.over (ran.1,
        { world with
          keys := ran.2
          log := if ran.1 then .saved id record :: world.log else world.log })
  | .zcard, world => world.over (world.environment.claimed, world)
  | .clock, world => (some world.environment.clock, world)
  | .backingOff, world => (some world.environment.backingOff, world)
  | .trace, world => world.over ((), world)
  | .activate operationId recoverOnly, world =>
      (some (),
        { world with
          log := if recoverOnly then world.log else .submitted id operationId :: world.log })
  | .outcome, world =>
      (world.environment.outcome,
        { world with
          log := match world.environment.outcome with
            | some outcome => .returned id outcome :: world.log
            | none => world.log })
  | .aborted, world => (some world.environment.aborted, world)
  | .wait, world => world.over ((), world)
  | .detach owner, world => world.over ((), { world with keys := world.keys.detach owner })

inductive Moves : World → World → Prop
  /-- The binding key expires. -/
  | unbound {world : World} : Moves world { world with keys := { world.keys with binding := none } }
  /-- The activation key expires. -/
  | lapsed {world : World} :
      Moves world
        { world with keys := { world.keys with stored := none }, log := .lapsed :: world.log }
  | changed {world : World} (environment : Environment) : Moves world { world with environment }

def dispatcherProtocol (uuid : Nat → String)
    (operationId : String → List String → Nat → String) :
    Protocol World Input Command Reply Unit where
  program := startInboxDispatcher operationId
  serve := serve uuid
  opens _ _ := True
  moves := Moves

abbrev DispatcherSystem := System World Input Command Reply Unit

end GptQueue.Activation
