import GptQueue.Foundation.CodeUnits
import GptQueue.Foundation.Interleaving
import GptQueue.Foundation.Texts

/-! # The owner of OpenCode sessions

One backend is created for each session and closed when the session is. A command is
what the code runs between two awaits, and an await is a command that is served once its
promise has settled.
-/

namespace GptQueue.OpenCode

structure OpenCodeSessionIdentity where
  sessionID : String
  directory : String
deriving DecidableEq

def validateIdentity (identity : OpenCodeSessionIdentity) : Bool :=
  Texts.trim identity.sessionID ≠ "" && CodeUnits.length identity.sessionID ≤ 200 &&
    Texts.trim identity.directory ≠ "" && Texts.isAbsolute identity.directory

/-! ## State -/

inductive Outcome
  | fulfilled
  /-- `cancellation` says whether the reason is a `SessionClosedDuringCreationError`. -/
  | rejected (cancellation : Bool)
deriving DecidableEq

/-- A `SessionEntry`, with what its handle closes over. An entry has the number of the
call of `getOrCreate` that has made it. -/
structure SessionEntry where
  identity : OpenCodeSessionIdentity
  result : Option Outcome
  cancelled : Bool
  ready : Bool
  closing : Bool
  closed : Bool

structure Backend where
  created : Bool
  closes : Nat
  /-- Whether its close was fulfilled, once it has settled. -/
  settled : Option Bool

structure World where
  entries : List (String × Nat)
  info : Nat → Option SessionEntry
  backends : Nat → Backend
  disposed : Bool
  /-- The closes that the disposal has begun. -/
  tasks : Option (List (String × Nat))
  /-- The entries whose close in the disposal has ended. -/
  done : List Nat
  factory : Bool
  cancellations : List (Nat × Nat)

def World.update (world : World) (entry : Nat) (change : SessionEntry → SessionEntry) : World :=
  { world with info := Function.update world.info entry ((world.info entry).map change) }

def World.remove (world : World) (sessionID : String) (entry : Nat) : World :=
  { world with entries := world.entries.filter (· ≠ (sessionID, entry)) }

def World.closeBackend (world : World) (entry : Nat) : World :=
  { world with
    backends := Function.update world.backends entry
      { world.backends entry with closes := (world.backends entry).closes + 1 } }

/-! ## Commands -/

inductive Admission
  | raised
  | existing (entry : Nat)
  | created
deriving DecidableEq

inductive Command
  | getOrCreate (identity : OpenCodeSessionIdentity)
  /-- The factory settles, with a backend or not. -/
  | create
  /-- The callback with the backend: whether the entry was cancelled. -/
  | receive
  | awaitCleanup
  | publish
  /-- The `catch` of the creation. -/
  | fail (cancellation : Bool)
  | closeSession (sessionID : String) (directory : Option String)
  | awaitResult (entry : Nat)
  | closeHandle (entry : Nat)
  | awaitClosed (entry : Nat)
  /-- The end of `close`: whether the entry was ready. -/
  | finish (sessionID : String) (entry : Nat)
  /-- The beginning of `dispose`, if it is the first. -/
  | dispose
  | taskDone (entry : Nat)
  | awaitDisposal
deriving DecidableEq

abbrev Reply : Command → Type
  | .getOrCreate _ => Admission
  | .create => Bool
  | .receive => Bool
  | .awaitCleanup => Bool
  | .publish => Unit
  | .fail _ => Unit
  | .closeSession _ _ => Option Nat
  | .awaitResult _ => Outcome
  | .closeHandle _ => Unit
  | .awaitClosed _ => Bool
  | .finish _ _ => Bool
  | .dispose => Unit
  | .taskDone _ => Unit
  | .awaitDisposal => Unit

abbrev ask (command : Command) : Program Command Reply (Reply command) := Program.ask command

/-! ## Programs -/

inductive Result
  | raised
  | promise (entry : Nat)
  | settled (outcome : Outcome)
  | closed (found : Bool)
  | ended
deriving DecidableEq

/-- `getOrCreate`, with the promise chain of the entry it makes. -/
def getOrCreate (identity : OpenCodeSessionIdentity) : Program Command Reply Result := do
  match ← ask (.getOrCreate identity) with
  | .raised => pure .raised
  | .existing entry => pure (.promise entry)
  | .created =>
      if ← ask .create then
        if ← ask .receive then
          let cleaned ← ask .awaitCleanup
          let _ ← ask (.fail cleaned)
          pure (.settled (.rejected cleaned))
        else
          let _ ← ask .publish
          pure (.settled .fulfilled)
      else
        let _ ← ask (.fail false)
        pure (.settled (.rejected false))

/-- `close` from its first await on. -/
def closeEntry (sessionID : String) (entry : Nat) : Program Command Reply Result := do
  match ← ask (.awaitResult entry) with
  | .fulfilled =>
      let _ ← ask (.closeHandle entry)
      let succeeded ← ask (.awaitClosed entry)
      let _ ← ask (.finish sessionID entry)
      -- A failure of the close is no cancellation, so it is raised again.
      pure (if succeeded then .closed true else .raised)
  | .rejected cancellation =>
      let ready ← ask (.finish sessionID entry)
      pure (if ready || !cancellation then .raised else .closed true)

def close (sessionID : String) (directory : Option String) : Program Command Reply Result := do
  match ← ask (.closeSession sessionID directory) with
  | none => pure (.closed false)
  | some entry => closeEntry sessionID entry

def closeHandle (entry : Nat) : Program Command Reply Result := do
  let _ ← ask (.closeHandle entry)
  let _ ← ask (.awaitClosed entry)
  pure .ended

def disposeTask (sessionID : String) (entry : Nat) : Program Command Reply Result := do
  let result ← closeEntry sessionID entry
  let _ ← ask (.taskDone entry)
  pure result

def dispose : Program Command Reply Result := do
  let _ ← ask .dispose
  let _ ← ask .awaitDisposal
  pure .ended

inductive Input
  | getOrCreate (identity : OpenCodeSessionIdentity)
  | close (sessionID : String) (directory : Option String)
  | closeHandle (entry : Nat)
  | dispose
  | disposeTask (sessionID : String) (entry : Nat)
deriving DecidableEq

def program : Input → Program Command Reply Result
  | .getOrCreate identity => getOrCreate identity
  | .close sessionID directory => close sessionID directory
  | .closeHandle entry => closeHandle entry
  | .dispose => dispose
  | .disposeTask sessionID entry => disposeTask sessionID entry

/-! ## The event loop -/

def freshEntry (identity : OpenCodeSessionIdentity) : SessionEntry :=
  ⟨identity, none, false, false, false, false⟩

def serve (id : Nat) : (command : Command) → World → Reply command × World
  | .getOrCreate identity, world =>
      if validateIdentity identity = false ∨ world.disposed = true then (.raised, world)
      else
        match world.entries.lookup identity.sessionID with
        | some entry =>
            match world.info entry with
            | some existing =>
                if existing.identity.directory ≠ identity.directory then (.raised, world)
                else (.existing entry, world)
            | none => (.raised, world)
        | none =>
            (.created,
              { world with
                entries := world.entries ++ [(identity.sessionID, id)]
                info := Function.update world.info id (some (freshEntry identity)) })
  | .create, world =>
      (world.factory,
        { world with
          backends := Function.update world.backends id
            { world.backends id with created := world.factory } })
  | .receive, world =>
      if (world.info id).any (·.cancelled) then (true, world.closeBackend id)
      else (false, world.update id fun entry => { entry with ready := true })
  | .awaitCleanup, world => ((world.backends id).settled.getD true, world)
  | .publish, world => ((), world.update id fun entry => { entry with result := some .fulfilled })
  | .fail cancellation, world =>
      ((), (match world.info id with
        | some entry => world.remove entry.identity.sessionID id
        | none => world).update id fun entry => { entry with result := some (.rejected cancellation) })
  | .closeSession sessionID directory, world =>
      match world.entries.lookup sessionID with
      | none => (none, world)
      | some entry =>
          if directory.any fun directory =>
              (world.info entry).any fun found => found.identity.directory ≠ directory then
            (none, world)
          else
            (some entry,
              { world.update entry fun found => { found with cancelled := true } with
                cancellations := (id, entry) :: world.cancellations })
  | .awaitResult entry, world =>
      (((world.info entry).bind (·.result)).getD (.rejected false), world)
  | .closeHandle entry, world =>
      if (world.info entry).all (·.closing) then ((), world)
      else ((), (world.update entry fun found => { found with closing := true }).closeBackend entry)
  | .awaitClosed entry, world => ((world.backends entry).settled.getD true, world)
  | .finish sessionID entry, world =>
      ((world.info entry).any (·.ready), world.remove sessionID entry)
  | .dispose, world =>
      match world.tasks with
      | some _ => ((), world)
      | none =>
          ((),
            { world with
              disposed := true
              tasks := some world.entries
              info := fun entry => (world.info entry).map fun found =>
                if (found.identity.sessionID, entry) ∈ world.entries then
                  { found with cancelled := true }
                else found })
  | .taskDone entry, world => ((), { world with done := entry :: world.done })
  | .awaitDisposal, world => ((), world)

def Settled (world : World) (id : Nat) : Command → Prop
  | .awaitCleanup => (world.backends id).settled ≠ none
  | .awaitResult entry => ∃ found, world.info entry = some found ∧ found.result ≠ none
  | .awaitClosed entry => ∃ found, world.info entry = some found ∧ found.closed = true
  | .awaitDisposal => ∃ tasks, world.tasks = some tasks ∧ ∀ task ∈ tasks, task.2 ∈ world.done
  | _ => True

inductive Moves : World → World → Prop
  | factory {world : World} (factory : Bool) : Moves world { world with factory }
  | settles {world : World} (entry : Nat) (succeeds : Bool)
      (invoked : 0 < (world.backends entry).closes)
      (unsettled : (world.backends entry).settled = none) :
      Moves world
        { world with
          backends := Function.update world.backends entry
            { world.backends entry with settled := some succeeds } }
  /-- The `finally` of the close of a handle. -/
  | finalises {world : World} (entry : Nat) (found : SessionEntry)
      (isEntry : world.info entry = some found) (closing : found.closing = true)
      (settled : (world.backends entry).settled ≠ none) :
      Moves world
        ((world.update entry fun found => { found with closed := true }).remove
          found.identity.sessionID entry)

/-- A handle is closed by whoever has got it, and a close of the disposal is one that it
has begun. -/
def Opens (world : World) : Input → Prop
  | .closeHandle entry => ∃ found, world.info entry = some found ∧ found.result = some .fulfilled
  | .disposeTask sessionID entry => ∃ tasks, world.tasks = some tasks ∧ (sessionID, entry) ∈ tasks
  | _ => True

def ownerProtocol : Protocol World Input Command Reply Result where
  program := program
  serve := serve
  opens := Opens
  moves := Moves

def inTurn : Condition World Input Command Reply Result :=
  fun world id _ command => Settled world id command

abbrev OwnerSystem := System World Input Command Reply Result

abbrev OwnerCall := Call Input Command Reply Result

abbrev Past := List (Exchange Command Reply)

structure Initial (world : World) : Prop where
  entries : world.entries = []
  info : world.info = fun _ => none
  backends : world.backends = fun _ => ⟨false, 0, none⟩
  disposed : world.disposed = false
  tasks : world.tasks = none
  done : world.done = []
  cancellations : world.cancellations = []

end GptQueue.OpenCode
