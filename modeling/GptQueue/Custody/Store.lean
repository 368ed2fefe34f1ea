import GptQueue.Custody.Model
import GptQueue.Foundation.Interleaving

/-! # The custody store

Claims, releases and status calls on worktrees. Every write goes through one script
that compares only the stored state, and for a release the stored session.
-/

namespace GptQueue.Custody

/-! ## Stored values -/

/-- The text of a hash field: a serialized record, or a text of which the script finds
the given state and session. -/
inductive Stored
  | serialized (record : CustodyRecord)
  | foreign (state session : Option String)
deriving DecidableEq

namespace Stored

/-- The `.state` that the script finds. -/
def state : Stored → Option String
  | .serialized record => some record.state.text
  | .foreign state _ => state

/-- The `.custodian.session_id` that the script finds. -/
def session : Stored → Option String
  | .serialized record => record.session
  | .foreign _ session => session

end Stored

/-- The read admission of a record. -/
def storedCustodySchema (record : CustodyRecord) : Bool :=
  record.worktree.worktreePath != "" &&
    (record.state != .held || record.custodian.isSome) &&
    (record.state != .held || record.leaseExpiresAt.isSome) &&
    (record.state != .released || record.handoff.isSome) &&
    record.handoff.all HandoffRecord.isStored

/-- The outcome of reading a field; the diagnostic of a corrupt one is left out. -/
inductive StoredRead
  | absent
  | found (record : CustodyRecord)
  | corrupt

def parseStored : Stored → StoredRead
  | .serialized record => if storedCustodySchema record then .found record else .corrupt
  | .foreign _ _ => .corrupt

/-- `readRecord`, from the reply of the server. -/
def readRecord : Option Stored → StoredRead
  | none => .absent
  | some stored => parseStored stored

/-! ## Commands -/

/-- What the script expects of the field: absent, or a state and a session unless it is
empty. -/
inductive Precondition
  | absent
  | state (state : CustodyState) (session : String)
deriving DecidableEq

inductive Command
  | hget (path : String)
  | hgetall
  /-- `custody-conditional-set`. -/
  | conditionalSet (path : String) (record : CustodyRecord) (expected : Precondition)
deriving DecidableEq

abbrev Reply : Command → Type
  | .hget _ => Option Stored
  | .hgetall => List (String × Stored)
  | .conditionalSet _ _ _ => Bool

abbrev ask (command : Command) : Program Command Reply (Reply command) := Program.ask command

inductive Result
  | ok (record : CustodyRecord)
  | status (record : Option CustodyRecord)
  | list (records : List CustodyRecord)
  | failed (error : CustodyError)
  | storeCorrupt
  | throws
deriving DecidableEq

def fail (code : CustodyErrorCode) (message : String) : Result := .failed ⟨code, message⟩

/-! ## Programs -/

structure ClaimInput where
  worktree : WorktreeIdentity
  leaseSeconds : Int
  inventory : List String
  custodian : CustodianIdentity
  now : Timestamp
deriving DecidableEq

structure ReleaseInput where
  worktreePath : String
  sessionId : String
  handoff : Json
  now : Timestamp

/-- Whether `lazyExpire` leaves a record as it is. -/
def stays (record : CustodyRecord) (now : Timestamp) : Bool :=
  record.state != .held ||
    match record.leaseEnd, now.parse with
    | some lease, some now => now ≤ lease
    | _, _ => true

def lazyExpire (record : CustodyRecord) (now : Timestamp) :
    Program Command Reply CustodyRecord :=
  if stays record now then pure record
  else match transitionCustody record (.expire now) with
  | .ok state =>
      if state.state = .forfeited then do
        let _ ← ask (.conditionalSet record.worktree.worktreePath state (.state .held ""))
        pure state
      else pure record
  | .error _ => pure record

/-- The event with which a record that is not held is claimed. -/
def claimEvent (input : ClaimInput) (lease : Timestamp) (record : CustodyRecord) : CustodyEvent :=
  if record.state = .forfeited then .assume input.custodian lease input.inventory input.now
  else .claim input.custodian lease input.now

/-- Apply a transition and write its result, or go on with the next attempt. -/
def persist (path : String) (transition : Transition) (expected : Precondition)
    (next : Program Command Reply Result) : Program Command Reply Result :=
  match transition with
  | .error error => pure (.failed error)
  | .ok state => do
      if ← ask (.conditionalSet path state expected) then pure (.ok state) else next

def changedConcurrently : String :=
  "worktree custody changed concurrently; re-read the current state and retry"

/-- The error of a claim that lost its last attempt to the record. -/
def claimDefeat (current : CustodyRecord) : Result :=
  match current.state with
  | .held => fail .alreadyHeld (heldBy current)
  | .forfeited => fail .forfeitedRequiresTakeover
      "a forfeited worktree may only be reclaimed via successor takeover"
  | _ => fail .alreadyHeld changedConcurrently

/-- The attempts of a claim that are left. -/
def claimAttempts (input : ClaimInput) (lease : Timestamp) : Nat → Program Command Reply Result
  | 0 => do
      match readRecord (← ask (.hget input.worktree.worktreePath)) with
      | .corrupt => pure .storeCorrupt
      | .absent => pure (fail .alreadyHeld changedConcurrently)
      | .found current => pure (claimDefeat current)
  | attempts + 1 => do
      match readRecord (← ask (.hget input.worktree.worktreePath)) with
      | .corrupt => pure .storeCorrupt
      | .absent =>
          persist input.worktree.worktreePath
            (transitionCustody (createCustody input.worktree)
              (.claim input.custodian lease input.now))
            .absent (claimAttempts input lease attempts)
      | .found stored => do
          let record ← lazyExpire stored input.now
          if record.state = .held then pure (fail .alreadyHeld (heldBy record))
          else if record.state = .forfeited ∧ isValidInventory input.inventory = false then
            pure <| fail .takeoverRequiresInventory <|
              "a forfeited worktree may only be reclaimed via successor takeover, " ++
              "which requires a non-empty inventory of non-empty strings"
          else
            persist input.worktree.worktreePath
              (transitionCustody record (claimEvent input lease record))
              (.state record.state "") (claimAttempts input lease attempts)

/-- The end of the lease that a claim asks for; `none` when making it throws. -/
def ClaimInput.lease (input : ClaimInput) : Option Timestamp :=
  input.now.parse.bind fun now => Timestamp.toISOString (now + input.leaseSeconds * 1000)

def claim (input : ClaimInput) : Program Command Reply Result :=
  match input.lease with
  | none => pure .throws
  | some lease => claimAttempts input lease 2

def notHeld : Result := fail .notHeld "cannot release a worktree that is not held"

def notCustodian : Result :=
  fail .notCustodian "only the current custodian session may release this worktree"

/-- The error of a release that lost its last attempt to the record. -/
def releaseDefeat (input : ReleaseInput) (current : CustodyRecord) : Result :=
  if current.state ≠ .held then notHeld
  else if current.session ≠ some input.sessionId then notCustodian
  else fail .notHeld changedConcurrently

/-- The attempts of a release that are left. -/
def releaseAttempts (input : ReleaseInput) (handoff : HandoffRecord) :
    Nat → Program Command Reply Result
  | 0 => do
      match readRecord (← ask (.hget input.worktreePath)) with
      | .corrupt => pure .storeCorrupt
      | .absent => pure notHeld
      | .found current => pure (releaseDefeat input current)
  | attempts + 1 => do
      match readRecord (← ask (.hget input.worktreePath)) with
      | .corrupt => pure .storeCorrupt
      | .absent => pure notHeld
      | .found stored => do
          let record ← lazyExpire stored input.now
          if record.state ≠ .held then pure notHeld
          else if record.session ≠ some input.sessionId then pure notCustodian
          else
            persist input.worktreePath (transitionCustody record (.release handoff))
              (.state .held input.sessionId) (releaseAttempts input handoff attempts)

def release (input : ReleaseInput) : Program Command Reply Result :=
  match admitHandoffRecord input.handoff with
  | .refused error => pure (.failed error)
  | .throws => pure .throws
  | .ok handoff => releaseAttempts input handoff 2

def statusOf (path : String) (now : Timestamp) : Program Command Reply Result := do
  match readRecord (← ask (.hget path)) with
  | .corrupt => pure .storeCorrupt
  | .absent => pure (.status none)
  | .found stored => do
      let record ← lazyExpire stored now
      pure (.status (some record))

/-- The records of a listing, each lazily forfeited, after those already done. -/
def expireAll (now : Timestamp) (done : List CustodyRecord) :
    List (String × Stored) → Program Command Reply Result
  | [] => pure (.list done.reverse)
  | (_, raw) :: rest =>
      match parseStored raw with
      | .corrupt => pure .storeCorrupt
      | .absent => expireAll now done rest
      | .found stored => do
          let record ← lazyExpire stored now
          expireAll now (record :: done) rest

def statusAll (now : Timestamp) : Program Command Reply Result := do
  expireAll now [] (← ask .hgetall)

inductive Input
  | claim (input : ClaimInput)
  | release (input : ReleaseInput)
  | status (worktreePath : Option String) (now : Timestamp)

def Input.now : Input → Timestamp
  | .claim input => input.now
  | .release input => input.now
  | .status _ now => now

def program : Input → Program Command Reply Result
  | .claim input => claim input
  | .release input => release input
  | .status (some path) now => statusOf path now
  | .status none now => statusAll now

/-! ## The server -/

/-- A read of the field, or an applied write with what was there before. -/
inductive Event
  | read (call : Nat)
  | wrote (call : Nat) (path : String) (before : Option Stored) (record : CustodyRecord)
deriving DecidableEq

structure World where
  records : List (String × Stored)
  /-- In milliseconds. -/
  clock : Int
  /-- Latest first. -/
  log : List Event

/-- The field of a worktree. -/
def World.field (world : World) (path : String) : Option Stored := world.records.lookup path

/-- Whether the script writes. -/
def Precondition.met (expected : Precondition) (current : Option Stored) : Bool :=
  match expected, current with
  | .absent, none => true
  | .absent, some stored => stored.state == some "ABSENT"
  | .state _ _, none => false
  | .state required session, some stored =>
      stored.state == some required.text && (session == "" || stored.session == some session)

/-- Set a field of a hash. -/
def setField (path : String) (stored : Stored) (records : List (String × Stored)) :
    List (String × Stored) :=
  (path, stored) :: records.filter (·.1 != path)

def serve (id : Nat) : (command : Command) → World → Reply command × World
  | .hget path, world => (world.field path, { world with log := .read id :: world.log })
  | .hgetall, world => (world.records, { world with log := .read id :: world.log })
  | .conditionalSet path record expected, world =>
      if expected.met (world.field path) then
        (true, { world with
          records := setField path (.serialized record) world.records
          log := .wrote id path (world.field path) record :: world.log })
      else (false, world)

/-- Time passes. -/
inductive Moves : World → World → Prop
  | ticked {world : World} (clock : Int) (later : world.clock ≤ clock) :
      Moves world { world with clock }

/-- A call takes its `now` from the clock, and a release names a session. -/
def Opens (world : World) (input : Input) : Prop :=
  input.now = .instant world.clock ∧
    ∀ released, input = .release released → released.sessionId ≠ ""

def custodyProtocol : Protocol World Input Command Reply Result where
  program := program
  serve := serve
  opens := Opens
  moves := Moves

abbrev CustodySystem := System World Input Command Reply Result

end GptQueue.Custody
