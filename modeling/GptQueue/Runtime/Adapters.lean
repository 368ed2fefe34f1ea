import GptQueue.Foundation.Interleaving
import GptQueue.Foundation.JsValue

/-! # The runtime adapters

The Codex adapter reads the thread, looks for the operation in it and asks for a turn.
The Pi adapter looks at its own session and queues a message. Both remember what they
have submitted.
-/

namespace GptQueue.RuntimeAdapter

inductive ActivationOutcome
  | started (turnId : String)
  | completed (turnId : String)
  | queued
  | busy
  | unavailable
  | ambiguous
deriving DecidableEq

structure ActivationRequest where
  operationId : String
  prompt : String
  recoverOnly : Bool
deriving DecidableEq

structure Binding where
  runtimeId : String
  epoch : String
  workingDirectory : String
deriving DecidableEq

structure Host where
  numbers : JsValue.Numbers
  lower : String → String
  resolve : String → String
  isAbsolute : String → Bool

/-! ## Threads -/

section Thread

variable (host : Host)

/-- `String(value ?? "")`; `none` when it raises. -/
def textOf : Option Json → Option String
  | none => some ""
  | some .null => some ""
  | some value => JsValue.toText host.numbers value

def isText (value : Option Json) (text : String) : Bool := Json.asString value = some text

def isObject : Json → Bool
  | .array _ => true
  | .object _ => true
  | _ => false

def userMessageMatches (item : Json) (operationId prompt : String) : Bool :=
  isText (item.field "type") "userMessage" &&
    (isText (item.field "clientId") operationId ||
      match item.field "content" with
      | some (.array [only]) =>
          isText (only.field "type") "text" && isText (only.field "text") prompt
      | _ => false)

def shows (request : ActivationRequest) (turn : Json) : Bool :=
  match turn.field "items" with
  | some (.array items) =>
      items.any fun item =>
        isObject item && userMessageMatches item request.operationId request.prompt
  | _ => false

abbrev Raising (α : Type) := Option α

/-- The outcome of the first turn that shows the operation and has an id. -/
def findTurn (request : ActivationRequest) : List Json → Raising (Option ActivationOutcome)
  | [] => some none
  | turn :: turns =>
      if shows request turn then do
        let id ← textOf host (turn.field "id")
        if id = "" then findTurn request turns
        else do
          let status ← textOf host (turn.field "status")
          if host.lower status ∈ ["completed", "succeeded", "failed", "interrupted"] then
            some (some (.completed id))
          else some (some (.started id))
      else findTurn request turns

def activeTurn : List Json → Raising Bool
  | [] => some false
  | turn :: turns =>
      if isObject turn then do
        let status ← textOf host (turn.field "status")
        if host.lower status ∈ ["inprogress", "in_progress", "running", "started"] then some true
        else activeTurn turns
      else activeTurn turns

def unitemised (turn : Json) : Bool :=
  match turn.field "items" with
  | some (.array _) =>
      match turn.field "itemsView" with
      | none => false
      | some view => JsValue.truthy host.numbers.isZero view && !isText (some view) "full"
  | _ => true

/-- What the history decides before the adapter looks at what it has submitted. -/
inductive Verdict
  | returns (outcome : ActivationOutcome)
  | proceeds
deriving DecidableEq

def examine (binding : Binding) (request : ActivationRequest) (thread : Json) :
    Raising Verdict := do
  let id ← textOf host (thread.field "id")
  match thread.field "cwd" with
  | some (.string cwd) =>
      if id ≠ binding.runtimeId ∨ host.resolve cwd ≠ host.resolve binding.workingDirectory then none
      else
        match thread.field "turns" with
        | some (.array turns) => do
            match ← findTurn host request turns with
            | some outcome => some (.returns outcome)
            | none => do
                if ← activeTurn host turns then some (.returns .busy)
                else if turns.any (unitemised host) then some (.returns .ambiguous)
                else some .proceeds
        | _ => some (.returns .unavailable)
  | _ => none

def Visible (request : ActivationRequest) (thread : Json) : Prop :=
  ∃ turns, thread.field "turns" = some (.array turns) ∧ ∃ turn ∈ turns, shows request turn = true

/-- Of the turns that show the operation, one has an id. -/
def Named (request : ActivationRequest) (thread : Json) : Prop :=
  Visible request thread → ∃ turns, thread.field "turns" = some (.array turns) ∧
    ∃ turn ∈ turns, shows request turn = true ∧ textOf host (turn.field "id") ≠ some ""

/-- A named turn that shows the operation keeps the adapter from going on. -/
theorem findTurn_of_shows {request : ActivationRequest} {turns : List Json}
    (shown : ∃ turn ∈ turns, shows request turn = true ∧ textOf host (turn.field "id") ≠ some "") :
    findTurn host request turns ≠ some none := by
  induction turns with
  | nil =>
      rcases shown with ⟨turn, member, -⟩
      cases member
  | cons turn turns induction =>
      have later : ¬(shows request turn = true ∧ textOf host (turn.field "id") ≠ some "") →
          findTurn host request turns ≠ some none := by
        intro other
        rcases shown with ⟨found, member, named⟩
        rcases List.mem_cons.mp member with rfl | member
        · exact absurd named other
        · exact induction ⟨found, member, named⟩
      rw [findTurn]
      by_cases here : shows request turn = true
      · rw [if_pos here]
        cases id : textOf host (turn.field "id") with
        | none => exact Option.some_ne_none _ |>.symm
        | some text =>
            rw [Option.bind_eq_bind, Option.bind_some]
            by_cases empty : text = ""
            · rw [if_pos empty]
              exact later fun both => both.2 (by rw [id, empty])
            · rw [if_neg empty]
              cases textOf host (turn.field "status") with
              | none => simp
              | some status =>
                  rw [Option.bind_some]
                  split <;> simp
      · rw [if_neg here]
        exact later fun both => here both.1

theorem examine_ne_proceeds {binding : Binding} {request : ActivationRequest} {thread : Json}
    (visible : Visible request thread) (named : Named host request thread) :
    examine host binding request thread ≠ some .proceeds := by
  rcases named visible with ⟨turns, isTurns, shown⟩
  have stops := findTurn_of_shows host shown
  intro proceeds
  unfold examine at proceeds
  rcases Option.bind_eq_some_iff.mp proceeds with ⟨id, -, proceeds⟩
  split at proceeds
  · split at proceeds
    · cases proceeds
    · rw [isTurns] at proceeds
      rcases Option.bind_eq_some_iff.mp proceeds with ⟨found, isFound, proceeds⟩
      cases found with
      | none => exact stops isFound
      | some outcome => cases proceeds
  · cases proceeds

end Thread

/-! ## Submissions of the Codex adapter -/

/-- How the request for a turn ends; a rejection has the text of its error. -/
inductive Response
  | answered (result : Json)
  | raised (error : String)

/-- A text contains one of the words, in any case. -/
def mentions (words : List String) (text : List Char) : Bool :=
  text.tails.any fun suffix => words.any fun word =>
    (word.toList.map Char.toLower).isPrefixOf (suffix.map Char.toLower)

/-- The pattern of a busy rejection: a word after the marker on the same line. -/
def isBusyRejection (error : String) : Bool :=
  error.toList.tails.any fun suffix =>
    ("Codex RPC rejected:".toList.map Char.toLower).isPrefixOf (suffix.map Char.toLower) &&
      mentions ["busy", "active", "in progress"]
        ((suffix.drop "Codex RPC rejected:".length).takeWhile fun char =>
          char ≠ '\n' && char ≠ '\r' && char.toNat ≠ 0x2028 && char.toNat ≠ 0x2029)

def isConnectionError (error : String) : Bool :=
  mentions ["timeout", "disconnect", "closed", "network", "aborted"] error.toList

def turnId (host : Host) (result : Json) : Option String :=
  let turn := match result.field "turn" with
    | none => result
    | some .null => result
    | some turn => turn
  textOf host (turn.field "id")

/-- The `Map` after a `set`: an existing key keeps its place, and the first of more than
1024 is evicted. -/
def remember {State : Type} (seen : List (String × State)) (key : String) (value : State) :
    List (String × State) :=
  let set :=
    if seen.any (·.1 = key) then
      seen.map fun entry => if entry.1 = key then (key, value) else entry
    else seen ++ [(key, value)]
  if 1024 < set.length then set.drop 1 else set

inductive Event
  | requested (call : Nat) (operationId : String)
  | rejectedBusy (call : Nat) (operationId : String)
deriving DecidableEq

structure World where
  seen : List (String × String)
  /-- What the next read of the thread gives; `none` when it rejects. -/
  thread : Option Json
  response : Response
  aborted : Bool
  log : List Event
  /-- The call whose request for an operation is not answered yet. -/
  inFlight : String → Option Nat

inductive Command
  | read
  /-- `seen.has`, and if not, `seen.set` and the request. -/
  | submit (operationId : String)
  | settle (operationId : String)
deriving DecidableEq

abbrev Reply : Command → Type
  | .read => Option Json
  | .submit _ => Bool
  | .settle _ => ActivationOutcome

abbrev ask (command : Command) : Program Command Reply (Reply command) := Program.ask command

def World.settle (host : Host) (world : World) (id : Nat) (operationId : String) :
    ActivationOutcome × World :=
  let answered := { world with inFlight := Function.update world.inFlight operationId none }
  match world.response with
  | .answered result =>
      match turnId host result with
      | none => (.ambiguous, answered)
      | some turn =>
          if turn = "" then (.ambiguous, answered)
          else
            (.started turn, { answered with seen := remember world.seen operationId turn })
  | .raised error =>
      if world.aborted then (.ambiguous, answered)
      else if isConnectionError error then (.ambiguous, answered)
      else if isBusyRejection error then
        (.busy,
          { answered with
            seen := world.seen.filter (·.1 ≠ operationId)
            log := .rejectedBusy id operationId :: world.log })
      else (.ambiguous, answered)

def serve (host : Host) (id : Nat) : (command : Command) → World → Reply command × World
  | .read, world => (world.thread, world)
  | .submit operationId, world =>
      if world.seen.any (·.1 = operationId) then (false, world)
      else
        (true,
          { world with
            seen := remember world.seen operationId "pending"
            log := .requested id operationId :: world.log
            inFlight := Function.update world.inFlight operationId (some id) })
  | .settle operationId, world => world.settle host id operationId

/-- `activate`; `none` when it rejects. -/
def activate (host : Host) (binding : Binding) (request : ActivationRequest) :
    Program Command Reply (Option ActivationOutcome) := do
  match ← ask .read with
  | none => pure none
  | some thread =>
      match examine host binding request thread with
      | none => pure none
      | some (.returns outcome) => pure (some outcome)
      | some .proceeds =>
          -- `seen` is looked at first, which changes nothing.
          if request.recoverOnly then pure (some .ambiguous)
          else if ← ask (.submit request.operationId) then do
            let outcome ← ask (.settle request.operationId)
            pure (some outcome)
          else pure (some .ambiguous)

/-- The thread, the answers and the abort signal are anything at any time. -/
inductive Moves : World → World → Prop
  | changed {world : World} (thread : Option Json) (response : Response) (aborted : Bool) :
      Moves world { world with thread, response, aborted }

def adapterProtocol (host : Host) (binding : Binding) (ids : Finset String) :
    Protocol World ActivationRequest Command Reply (Option ActivationOutcome) where
  program := activate host binding
  serve := serve host
  opens _ request := request.operationId ∈ ids
  moves := Moves

abbrev AdapterSystem := System World ActivationRequest Command Reply (Option ActivationOutcome)

structure Initial (world : World) : Prop where
  seen : world.seen = []
  log : world.log = []
  inFlight : world.inFlight = fun _ => none

/-! ## The Pi adapter -/

namespace Pi

inductive Submitted
  | queued
  | ambiguous
deriving DecidableEq

structure Context where
  sessionId : String
  cwd : Option String
  entries : List Json
  epoch : Option String

structure Adapter where
  submitted : List (String × Submitted)
  invalidated : Bool

section Activate

variable (host : Host) (binding : Binding)

def isCurrent (context : Context) : Bool :=
  context.sessionId = binding.runtimeId &&
    (context.cwd.any fun cwd => host.isAbsolute cwd && host.isAbsolute binding.workingDirectory &&
      host.resolve cwd = host.resolve binding.workingDirectory) &&
    context.epoch.all (· = binding.epoch)

/-- The turn in the entry that the operation has been completed. -/
def completion (operationId : String) (entry : Json) : Option String :=
  if isText (entry.field "type") "custom" ∧
      isText (entry.field "customType") "gptqueue-inbox-activation-completed" then
    match entry.field "data" with
    | none => none
    | some data =>
        if isText (data.field "operation_id") operationId ∧
            isText (data.field "runtime_id") binding.runtimeId then
          Json.asString (data.field "turn_id")
        else none
  else none

/-- The details of the message that submitted the operation. -/
def submission (operationId : String) (entry : Json) : Option Json :=
  match entry.field "message" with
  | none => none
  | some message =>
      if isText (entry.field "type") "message" ∧ isText (message.field "role") "custom" ∧
          isText (message.field "customType") "gptqueue-inbox-activation" then
        (message.field "details").filter fun details =>
          isText (details.field "operation_id") operationId
      else none

/-- `recorded`: the outcome that the session shows for the operation. -/
def recorded (operationId : String) (entries : List Json) : Option ActivationOutcome :=
  match entries.findSome? (completion binding operationId) with
  | some turn => some (.completed turn)
  | none =>
      match entries.findSome? (submission operationId) with
      | some details =>
          match isText (details.field "status") "completed",
            Json.asString (details.field "turn_id") with
          | true, some turn => some (.completed turn)
          | _, _ => some .queued
      | none => none

/-- One call, which never waits. -/
structure Call where
  request : ActivationRequest
  context : Context
  aborted : Bool
  throws : Bool

/-- `activate`: the outcome, whether `sendMessage` was called, and the adapter. -/
def activate (call : Call) (adapter : Adapter) : ActivationOutcome × Bool × Adapter :=
  if call.aborted || adapter.invalidated || !isCurrent host binding call.context then
    (.unavailable, false, adapter)
  else
    match recorded binding call.request.operationId call.context.entries with
    | some outcome => (outcome, false, adapter)
    | none =>
        match adapter.submitted.lookup call.request.operationId with
        | some .queued => (.queued, false, adapter)
        | some .ambiguous => (.ambiguous, false, adapter)
        | none =>
            if call.request.recoverOnly then (.ambiguous, false, adapter)
            else
              let submitted := remember adapter.submitted call.request.operationId .ambiguous
              if call.throws then (.ambiguous, true, { adapter with submitted })
              else
                (.queued, true,
                  { adapter with
                    submitted := remember submitted call.request.operationId .queued })

inductive Step
  | invalidate
  | activate (call : Call)

/-- The calls of a run in order, and which of them called `sendMessage`. -/
def run : List Step → Adapter → List (Call × Bool)
  | [], _ => []
  | .invalidate :: steps, adapter => run steps { adapter with invalidated := true }
  | .activate call :: steps, adapter =>
      let done := activate host binding call adapter
      (call, done.2.1) :: run steps done.2.2

end Activate

/-- An entry that says of the operation, with these data, that it has been completed. -/
structure Marks (operationId : String) (entry data : Json) : Prop where
  custom : isText (entry.field "type") "custom" = true
  marker : isText (entry.field "customType") "gptqueue-inbox-activation-completed" = true
  found : entry.field "data" = some data
  operation : isText (data.field "operation_id") operationId = true

/-- An entry with a message that submits the operation. -/
structure Carries (operationId : String) (entry message details : Json) : Prop where
  kind : isText (entry.field "type") "message" = true
  found : entry.field "message" = some message
  role : isText (message.field "role") "custom" = true
  custom : isText (message.field "customType") "gptqueue-inbox-activation" = true
  held : message.field "details" = some details
  operation : isText (details.field "operation_id") operationId = true

def Shown (operationId : String) (entries : List Json) : Prop :=
  ∃ entry ∈ entries, ∃ message details, Carries operationId entry message details

def Visible (operationId : String) (entries : List Json) : Prop :=
  (∃ entry ∈ entries, ∃ data, Marks operationId entry data) ∨ Shown operationId entries

/-- A session that says that an operation has been completed says so once with the runtime of
the binding and with a turn, or has the message that submitted the operation. -/
def LegibleIn (binding : Binding) (operationId : String) (entries : List Json) : Prop :=
  (∃ entry ∈ entries, ∃ data, Marks operationId entry data) →
    (∃ entry ∈ entries, ∃ data turn, Marks operationId entry data ∧
      isText (data.field "runtime_id") binding.runtimeId = true ∧
        data.field "turn_id" = some (.string turn)) ∨
      Shown operationId entries

def Legible (binding : Binding) (call : Call) : Prop :=
  LegibleIn binding call.request.operationId call.context.entries

end Pi

end GptQueue.RuntimeAdapter
