import Mathlib.Logic.Relation
import GptQueue.Foundation.Texts
import GptQueue.Runtime.PiCatalog

/-! # The Pi extension

The extension connects a conversation of Pi to a sidecar: it gives the tools of the sidecar to
Pi and takes requests to activate the conversation. Its handlers wait in between, and others
run meanwhile.
-/

namespace GptQueue.PiExtension

open RuntimeAdapter (Host Binding ActivationRequest ActivationOutcome isText)
open RuntimeAdapter.Pi (Adapter Context)

/-! ## Completed activations -/

/-- What the Pi adapter sends. -/
def payload (binding : Binding) (request : ActivationRequest) : List (String × Json) :=
  [("customType", .string "gptqueue-inbox-activation"), ("content", .string request.prompt),
    ("display", .bool false),
    ("details", .object [("operation_id", .string request.operationId),
      ("runtime_id", .string binding.runtimeId), ("epoch", .string binding.epoch)])]

/-- The message that Pi makes of it. -/
def asMessage (payload : List (String × Json)) : Json :=
  .object (("role", .string "custom") :: payload)

/-- `details?.runtime_id === binding?.runtime_id`. -/
def sameRuntime (binding : Option Binding) (value : Option Json) : Bool :=
  match binding with
  | some own => isText value own.runtimeId
  | none => value.isNone

/-- The operation of a message that activated the bound conversation. -/
def activated (binding : Option Binding) (message : Json) : Option String :=
  let details := message.field "details"
  if RuntimeAdapter.isObject message ∧ isText (message.field "role") "custom" ∧
      isText (message.field "customType") "gptqueue-inbox-activation" ∧
      sameRuntime binding (details.bind (·.field "runtime_id")) then
    Json.asString (details.bind (·.field "operation_id"))
  else none

/-- The entry that Pi keeps of `appendEntry`. -/
def completionEntry (binding : Binding) (operationId : String) : Json :=
  .object [("type", .string "custom"),
    ("customType", .string "gptqueue-inbox-activation-completed"),
    ("data", .object [("operation_id", .string operationId),
      ("runtime_id", .string binding.runtimeId), ("turn_id", .string ("pi:" ++ operationId)),
      ("status", .string "completed")])]

/-- The handler of `agent_end`: the entries that it appends, and whether it raises. -/
def agentEnd (binding : Option Binding) : List Json → List Json × Bool
  | [] => ([], false)
  | message :: messages =>
      match activated binding message with
      | none => agentEnd binding messages
      | some operationId =>
          match binding with
          | none => ([], true)
          | some own =>
              let rest := agentEnd binding messages
              (completionEntry own operationId :: rest.1, rest.2)

section Completed

variable {own binding : Binding} {request : ActivationRequest} {messages entries : List Json}

theorem activated_asMessage : activated (some own) (asMessage (payload own request)) =
    some request.operationId := by
  simp [activated, asMessage, payload, sameRuntime, isText, Json.field, Json.asString,
    RuntimeAdapter.isObject, List.lookup]

theorem completionEntry_mem (shows : asMessage (payload own request) ∈ messages) :
    completionEntry own request.operationId ∈ (agentEnd (some own) messages).1 := by
  induction messages with
  | nil => cases shows
  | cons message messages induction =>
      rw [agentEnd]
      rcases List.mem_cons.mp shows with rfl | later
      · rw [activated_asMessage]
        exact List.mem_cons_self
      · split
        · exact induction later
        · exact List.mem_cons_of_mem _ (induction later)

/-- An adapter for the same runtime reads it as completed. -/
theorem completion_completionEntry (sameRuntime : binding.runtimeId = own.runtimeId)
    (operationId : String) :
    RuntimeAdapter.Pi.completion binding operationId (completionEntry own operationId) =
      some ("pi:" ++ operationId) := by
  simp [RuntimeAdapter.Pi.completion, completionEntry, isText, Json.field, Json.asString,
    List.lookup, sameRuntime]

theorem recorded_of_mem (sameRuntime : binding.runtimeId = own.runtimeId) {operationId : String}
    (member : completionEntry own operationId ∈ entries) :
    ∃ turn, RuntimeAdapter.Pi.recorded binding operationId entries = some (.completed turn) := by
  have isSome : (entries.findSome? (RuntimeAdapter.Pi.completion binding operationId)).isSome := by
    rw [List.findSome?_isSome_iff]
    refine ⟨completionEntry own operationId, member, ?_⟩
    rw [completion_completionEntry sameRuntime]
    rfl
  rcases Option.isSome_iff_exists.mp isSome with ⟨turn, isTurn⟩
  refine ⟨turn, ?_⟩
  rw [RuntimeAdapter.Pi.recorded, isTurn]

end Completed

/-! ## The extension -/

/-- What Pi shows of a conversation. -/
structure Shown where
  sessionId : String
  cwd : Option String
  entries : List Json

/-- What a connection is for. -/
inductive Goal
  /-- `startRuntime` in the directory of a context; a turn of the agent may wait for it. -/
  | start (context : Nat) (workingDirectory : String) (resumes : Bool)
  /-- A turn of the agent. -/
  | ready
deriving DecidableEq

inductive AfterClose
  | nothing
  | exits
  | starts (goal : Goal)
deriving DecidableEq

/-- What a handler waits for. -/
inductive Task
  | closing (client : Option Nat) (next : AfterClose)
  | connecting (goal : Goal)
  | listing (goal : Goal)
  /-- The next turn of the event loop, after `connect`. -/
  | listed (goal : Goal) (catalog : List BoundTool)
  /-- The answer of `bind_runtime`. -/
  | binding (resumes : Bool)

/-- The variables of the extension, with the clients and adapters that were made, which go by
their numbers, and what Pi shows of its contexts. -/
structure Extension where
  client : Option Nat
  runtime : Option Nat
  binding : Option Binding
  context : Option Nat
  instructions : String
  registered : List BoundTool
  clients : Nat
  /-- The adapter that the activation handler of a client is for. -/
  handlers : Nat → Option Nat
  made : Nat
  adapters : Nat → Binding × Adapter
  shown : Nat → Shown
  tasks : List Task
  exited : Bool

structure Incoming where
  client : String
  binding : Binding

/-- A tool is registered once. -/
def register (registered : List BoundTool) (tool : BoundTool) : List BoundTool :=
  if tool.name ∈ registered.map (·.name) then registered else registered ++ [tool]

namespace Extension

def start (shown : Nat → Shown) : Extension where
  client := none
  runtime := none
  binding := none
  context := none
  instructions := ""
  registered := []
  clients := 0
  handlers _ := none
  made := 0
  adapters _ := (⟨"", "", ""⟩, ⟨[], false⟩)
  shown
  tasks := []
  exited := false

variable (extension : Extension)

def await (task : Task) : Extension := { extension with tasks := extension.tasks ++ [task] }

/-- A handler goes on. -/
def resume (index : Nat) : Extension :=
  { extension with tasks := extension.tasks.eraseIdx index }

def invalidate : Extension :=
  match extension.runtime with
  | none => extension
  | some adapter =>
      { extension with
        adapters := Function.update extension.adapters adapter
          ((extension.adapters adapter).1,
            { (extension.adapters adapter).2 with invalidated := true }) }

/-- `close`, up to the end of the client. -/
def close (next : AfterClose) : Extension :=
  { extension.invalidate with
    runtime := none
    binding := none
    client := none
    tasks := extension.tasks ++ [.closing extension.client next] }

/-- An error ends the process once the client is closed. -/
def fatal : Extension := extension.close .exits

def connect (goal : Goal) : Extension :=
  if extension.client.isSome then extension.await (.listing goal)
  else extension.await (.connecting goal)

def registerCatalog (catalog : List BoundTool) : Extension :=
  { extension with registered := catalog.foldl register extension.registered }

section Handlers

variable (host : Host) (sends : Bool)

/-- `startRuntime` up to its first await. `sends` is whether Pi has `sendMessage`. -/
def startRuntime (context : Nat) (resumes : Bool) : Extension :=
  let extension := { extension with context := some context }
  let shown := extension.shown context
  match shown.cwd with
  | none => extension.fatal
  | some cwd =>
      if host.isAbsolute cwd ∧ shown.sessionId ≠ "" ∧ sends then
        if extension.binding.any (·.runtimeId = shown.sessionId) ∧ extension.runtime.isSome ∧
            extension.client.isSome then
          if resumes then extension.connect .ready else extension
        else if extension.binding.isSome then
          extension.close (.starts (.start context cwd resumes))
        else extension.connect (.start context cwd resumes)
      else extension.fatal

/-- The handler of `before_agent_start`, up to its first await. -/
def beforeAgentStart : Extension :=
  match extension.context with
  | none => extension.fatal
  | some context =>
      if extension.runtime.isNone then extension.startRuntime host sends context true
      else extension.connect .ready

end Handlers

/-- The client has closed, or that failed. -/
def closed (next : AfterClose) (succeeds : Bool) : Extension :=
  match next with
  | .nothing => extension
  | .exits => { extension with exited := true }
  | .starts goal => if succeeds then extension.connect goal else extension.fatal

/-- `makeClient` has resolved, or rejected. -/
def connected (goal : Goal) (succeeds : Bool) : Extension :=
  if succeeds then
    { extension with client := some extension.clients, clients := extension.clients + 1 }.await
      (.listing goal)
  else extension.fatal

/-- `listTools` has resolved, or rejected. Without a client there are no instructions. -/
def listed (goal : Goal) (tools : Option (List CatalogTool)) (instructions : String) : Extension :=
  match tools.map (validateCatalog true) with
  | some (.ok catalog) =>
      if extension.client.isNone then extension.fatal
      else if Texts.trim instructions = "" then { extension with instructions }.fatal
      else { extension with instructions }.await (.listed goal catalog)
  | _ => extension.fatal

/-- `startRuntime` makes its adapter, and asks to be bound. -/
def starts (context : Nat) (workingDirectory epoch : String) (resumes : Bool) : Extension :=
  match extension.client with
  | none => extension.fatal
  | some session =>
      let binding : Binding := ⟨(extension.shown context).sessionId, epoch, workingDirectory⟩
      { extension with
        binding := some binding
        runtime := some extension.made
        made := extension.made + 1
        adapters := Function.update extension.adapters extension.made (binding, ⟨[], false⟩)
        handlers := Function.update extension.handlers session (some extension.made) }.await
          (.binding resumes)

/-- After `connect`. A turn of the agent begins if the tools can be made active. -/
def goesOn (goal : Goal) (catalog : List BoundTool) (epoch : String) (active : Bool) :
    Extension :=
  match goal with
  | .ready => if active then extension else extension.fatal
  | .start context workingDirectory resumes =>
      (extension.registerCatalog catalog).starts context workingDirectory epoch resumes

/-- `bind_runtime` has answered. -/
def bound (resumes ready : Bool) : Extension :=
  if ready then
    if resumes then extension.connect .ready else extension
  else extension.fatal

/-- What the adapters see of the host. There is no adapter before there is a context. -/
def seen : Context :=
  let shown := extension.context.elim ⟨"", none, []⟩ extension.shown
  { sessionId := shown.sessionId
    cwd := shown.cwd
    entries := shown.entries
    epoch := some ((extension.binding.map (·.epoch)).getD "") }

/-- A client is asked to activate the conversation: the outcome, whether `sendMessage` was
called, and the extension. -/
def activation (host : Host) (client : Nat) (incoming : Incoming) (request : ActivationRequest)
    (aborted throws : Bool) : ActivationOutcome × Bool × Extension :=
  match extension.handlers client with
  | none => (.unavailable, false, extension)
  | some adapter =>
      let own := (extension.adapters adapter).1
      if incoming.client = "pi" ∧ incoming.binding = own ∧ extension.runtime = some adapter then
        let done := RuntimeAdapter.Pi.activate host own
          ⟨request, extension.seen, aborted, throws⟩ (extension.adapters adapter).2
        (done.1, done.2.1,
          { extension with
            adapters := Function.update extension.adapters adapter (own, done.2.2) })
      else (.unavailable, false, extension)

/-- A turn of the agent has ended in a context, and what is recorded of it is in its session. -/
def ended (context : Nat) (messages : List Json) : Extension :=
  { extension with
    shown := Function.update extension.shown context
      { extension.shown context with
        entries := (extension.shown context).entries ++
          (agentEnd extension.binding messages).1 } }

/-- Pi goes on with a conversation. -/
def shows (context : Nat) (sessionId : String) (entries : List Json) : Extension :=
  { extension with
    shown := Function.update extension.shown context
      ⟨sessionId, (extension.shown context).cwd, entries⟩ }

end Extension

/-- Handlers begin and go on in any order, requests arrive at any client and Pi goes on. -/
inductive Step (host : Host) (sends : Bool) : Extension → Extension → Prop
  | sessionStart {extension : Extension} (context : Nat) :
      Step host sends extension (extension.startRuntime host sends context false)
  | beforeAgentStart {extension : Extension} :
      Step host sends extension (extension.beforeAgentStart host sends)
  /-- `session_before_switch` or `session_shutdown`. -/
  | leaves {extension : Extension} : Step host sends extension (extension.close .nothing)
  | closed {extension : Extension} {index : Nat} {client : Option Nat} {next : AfterClose}
      (waits : extension.tasks[index]? = some (.closing client next)) (succeeds : Bool) :
      Step host sends extension ((extension.resume index).closed next succeeds)
  | connected {extension : Extension} {index : Nat} {goal : Goal}
      (waits : extension.tasks[index]? = some (.connecting goal)) (succeeds : Bool) :
      Step host sends extension ((extension.resume index).connected goal succeeds)
  | listed {extension : Extension} {index : Nat} {goal : Goal}
      (waits : extension.tasks[index]? = some (.listing goal))
      (tools : Option (List CatalogTool)) (instructions : String) :
      Step host sends extension ((extension.resume index).listed goal tools instructions)
  /-- An epoch is made once. -/
  | goesOn {extension : Extension} {index : Nat} {goal : Goal} {catalog : List BoundTool}
      (waits : extension.tasks[index]? = some (.listed goal catalog)) {epoch : String}
      (fresh : ∀ adapter < extension.made, (extension.adapters adapter).1.epoch ≠ epoch)
      (active : Bool) :
      Step host sends extension ((extension.resume index).goesOn goal catalog epoch active)
  | bound {extension : Extension} {index : Nat} {resumes : Bool}
      (waits : extension.tasks[index]? = some (.binding resumes)) (ready : Bool) :
      Step host sends extension ((extension.resume index).bound resumes ready)
  | activates {extension : Extension} (client : Nat) (incoming : Incoming)
      (request : ActivationRequest) (aborted throws : Bool) :
      Step host sends extension
        (extension.activation host client incoming request aborted throws).2.2
  | ended {extension : Extension} (context : Nat) (messages : List Json) :
      Step host sends extension (extension.ended context messages)
  | shows {extension : Extension} (context : Nat) (sessionId : String) (entries : List Json) :
      Step host sends extension (extension.shows context sessionId entries)

/-- A process that has exited does nothing more. -/
def Moves (host : Host) (sends : Bool) (before after : Extension) : Prop :=
  before.exited = false ∧ Step host sends before after

def Reachable (host : Host) (sends : Bool) (extension : Extension) : Prop :=
  ∃ shown, Relation.ReflTransGen (Moves host sends) (.start shown) extension

/-! ## A conversation -/

def posixHost : Host where
  numbers :=
    ⟨fun _ => false, fun left right => left = right, fun token => String.ofList token.text⟩
  lower := String.toLower
  resolve := Texts.resolve "/"
  isAbsolute := Texts.isAbsolute

def ownBinding : Binding := ⟨"s", "1", "/a"⟩

def sidecarTools : List BoundTool :=
  (expected true).map fun name => ⟨name, none, .object [("type", .string "object")]⟩

def opened : Shown := ⟨"s", some "/a", []⟩

/-- An extension that waits for one thing, with what it has so far. -/
def waiting (client : Option Nat) (clients : Nat) (context : Option Nat) (instructions : String)
    (tasks : List Task) : Extension :=
  { Extension.start fun _ => opened with client, clients, context, instructions, tasks }

/-- A conversation that is bound and waits for the answer. -/
def conversing : Extension :=
  { waiting (some 0) 1 (some 0) "Use them." [.binding false] with
    runtime := some 0
    binding := some ownBinding
    registered := sidecarTools
    made := 1
    adapters := Function.update (fun _ => (⟨"", "", ""⟩, ⟨[], false⟩)) 0 (ownBinding, ⟨[], false⟩)
    handlers := Function.update (fun _ => none) 0 (some 0) }

theorem conversing_reachable : Reachable posixHost true conversing := by
  have begins : Step posixHost true (.start fun _ => opened)
      (waiting none 0 (some 0) "" [.connecting (.start 0 "/a" false)]) :=
    @Step.sessionStart posixHost true (.start fun _ => opened) 0
  have connects : Step posixHost true
      (waiting none 0 (some 0) "" [.connecting (.start 0 "/a" false)])
      (waiting (some 0) 1 (some 0) "" [.listing (.start 0 "/a" false)]) :=
    @Step.connected posixHost true _ 0 _ rfl true
  have lists : Step posixHost true
      (waiting (some 0) 1 (some 0) "" [.listing (.start 0 "/a" false)])
      (waiting (some 0) 1 (some 0) "Use them." [.listed (.start 0 "/a" false) sidecarTools]) :=
    @Step.listed posixHost true _ 0 _ rfl (some (sidecarTools.map BoundTool.offered)) "Use them."
  have starts : Step posixHost true
      (waiting (some 0) 1 (some 0) "Use them." [.listed (.start 0 "/a" false) sidecarTools])
      conversing :=
    @Step.goesOn posixHost true
      (waiting (some 0) 1 (some 0) "Use them." [.listed (.start 0 "/a" false) sidecarTools]) 0
      (.start 0 "/a" false) sidecarTools rfl "1" (fun _ less => absurd less (Nat.not_lt_zero _))
      true
  exact ⟨_, (((Relation.ReflTransGen.single ⟨rfl, begins⟩).tail ⟨rfl, connects⟩).tail
    ⟨rfl, lists⟩).tail ⟨rfl, starts⟩⟩

/-! ## What a step does to the binding -/

/-- The runtime and its binding stay, are given up together or are new together. -/
inductive Effect (before after : Extension) : Prop
  | keeps (runtime : after.runtime = before.runtime) (binding : after.binding = before.binding)
      (made : after.made = before.made) (handlers : after.handlers = before.handlers)
      (own : ∀ adapter, (after.adapters adapter).1 = (before.adapters adapter).1)
  | closes (runtime : after.runtime = none) (binding : after.binding = none)
      (made : after.made = before.made) (handlers : after.handlers = before.handlers)
      (own : ∀ adapter, (after.adapters adapter).1 = (before.adapters adapter).1)
  | starts (session : Nat) (runtime : after.runtime = some before.made)
      (binding : after.binding = some (after.adapters before.made).1)
      (made : after.made = before.made + 1)
      (handlers : after.handlers = Function.update before.handlers session (some before.made))
      (own : ∀ adapter, adapter ≠ before.made →
        (after.adapters adapter).1 = (before.adapters adapter).1)
      (fresh : ∀ adapter < before.made,
        (before.adapters adapter).1.epoch ≠ (after.adapters before.made).1.epoch)

section Effects

variable {host : Host} {sends : Bool} {extension before after : Extension}

/-- An adapter keeps its binding. -/
theorem update_own (adapters : Nat → Binding × Adapter) (adapter : Nat) (state : Adapter)
    (other : Nat) :
    (Function.update adapters adapter ((adapters adapter).1, state) other).1 =
      (adapters other).1 := by
  by_cases same : other = adapter
  · subst same
    rw [Function.update_self]
  · rw [Function.update_of_ne same]

theorem invalidate_own (extension : Extension) (adapter : Nat) :
    (extension.invalidate.adapters adapter).1 = (extension.adapters adapter).1 := by
  unfold Extension.invalidate
  split
  · rfl
  · next current isCurrent => exact update_own _ current _ adapter

theorem invalidate_rest (extension : Extension) :
    extension.invalidate.made = extension.made ∧
      extension.invalidate.handlers = extension.handlers := by
  unfold Extension.invalidate
  split
  · exact ⟨rfl, rfl⟩
  · exact ⟨rfl, rfl⟩

theorem effect_close (next : AfterClose) : Effect extension (extension.close next) :=
  .closes rfl rfl (invalidate_rest extension).1 (invalidate_rest extension).2
    (invalidate_own extension)

theorem effect_connect (goal : Goal) : Effect extension (extension.connect goal) := by
  unfold Extension.connect
  split
  · exact .keeps rfl rfl rfl rfl fun _ => rfl
  · exact .keeps rfl rfl rfl rfl fun _ => rfl

/-- What stays the same before a step does not matter for its effect. -/
theorem Effect.of_same {middle : Extension} (effect : Effect middle after)
    (runtime : middle.runtime = before.runtime) (binding : middle.binding = before.binding)
    (made : middle.made = before.made) (handlers : middle.handlers = before.handlers)
    (own : middle.adapters = before.adapters) : Effect before after := by
  cases effect with
  | keeps sameRuntime sameBinding sameMade sameHandlers sameOwn =>
      exact .keeps (sameRuntime.trans runtime) (sameBinding.trans binding) (sameMade.trans made)
        (sameHandlers.trans handlers) (own ▸ sameOwn)
  | closes noRuntime noBinding sameMade sameHandlers sameOwn =>
      exact .closes noRuntime noBinding (sameMade.trans made) (sameHandlers.trans handlers)
        (own ▸ sameOwn)
  | starts session isRuntime isBinding isMade isHandlers sameOwn fresh =>
      rw [made] at isRuntime isBinding isMade isHandlers sameOwn fresh
      rw [handlers] at isHandlers
      rw [own] at sameOwn fresh
      exact .starts session isRuntime isBinding isMade isHandlers sameOwn fresh

theorem effect_startRuntime (context : Nat) (resumes : Bool) :
    Effect extension (extension.startRuntime host sends context resumes) := by
  unfold Extension.startRuntime
  dsimp only
  split
  · exact (effect_close _).of_same rfl rfl rfl rfl rfl
  · split
    · split
      · split
        · exact (effect_connect _).of_same rfl rfl rfl rfl rfl
        · exact .keeps rfl rfl rfl rfl fun _ => rfl
      · split
        · exact (effect_close _).of_same rfl rfl rfl rfl rfl
        · exact (effect_connect _).of_same rfl rfl rfl rfl rfl
    · exact (effect_close _).of_same rfl rfl rfl rfl rfl

theorem effect_starts (context : Nat) (workingDirectory : String) {epoch : String}
    (resumes : Bool)
    (fresh : ∀ adapter < extension.made, (extension.adapters adapter).1.epoch ≠ epoch) :
    Effect extension (extension.starts context workingDirectory epoch resumes) := by
  unfold Extension.starts
  split
  · exact effect_close _
  · next session isSession =>
      refine .starts session rfl ?_ rfl rfl ?_ ?_
      · simp [Extension.await]
      · intro adapter other
        simp [Extension.await, Function.update_of_ne other]
      · intro adapter earlier
        simpa [Extension.await] using fresh adapter earlier

theorem effect_step (step : Step host sends before after) : Effect before after := by
  cases step with
  | sessionStart context => exact effect_startRuntime context false
  | beforeAgentStart =>
      unfold Extension.beforeAgentStart
      split
      · exact effect_close _
      · split
        · exact effect_startRuntime _ true
        · exact effect_connect _
  | leaves => exact effect_close _
  | @closed index client next waits succeeds =>
      cases next with
      | nothing => exact .keeps rfl rfl rfl rfl fun _ => rfl
      | exits => exact .keeps rfl rfl rfl rfl fun _ => rfl
      | starts goal =>
          unfold Extension.closed
          dsimp only
          split
          · exact (effect_connect goal).of_same rfl rfl rfl rfl rfl
          · exact (effect_close _).of_same rfl rfl rfl rfl rfl
  | connected waits succeeds =>
      unfold Extension.connected
      split
      · exact .keeps rfl rfl rfl rfl fun _ => rfl
      · exact (effect_close _).of_same rfl rfl rfl rfl rfl
  | listed waits tools instructions =>
      unfold Extension.listed
      split
      · split
        · exact (effect_close _).of_same rfl rfl rfl rfl rfl
        · split
          · exact (effect_close _).of_same rfl rfl rfl rfl rfl
          · exact .keeps rfl rfl rfl rfl fun _ => rfl
      · exact (effect_close _).of_same rfl rfl rfl rfl rfl
  | @goesOn index goal catalog waits epoch fresh active =>
      cases goal with
      | ready =>
          unfold Extension.goesOn
          dsimp only
          split
          · exact .keeps rfl rfl rfl rfl fun _ => rfl
          · exact (effect_close _).of_same rfl rfl rfl rfl rfl
      | start context workingDirectory resumes =>
          have effect : Effect ((before.resume index).registerCatalog catalog)
              (((before.resume index).registerCatalog catalog).starts context workingDirectory epoch
                resumes) :=
            effect_starts context workingDirectory resumes fresh
          exact effect.of_same rfl rfl rfl rfl rfl
  | bound waits ready =>
      unfold Extension.bound
      split
      · split
        · exact (effect_connect _).of_same rfl rfl rfl rfl rfl
        · exact .keeps rfl rfl rfl rfl fun _ => rfl
      · exact (effect_close _).of_same rfl rfl rfl rfl rfl
  | activates client incoming request aborted throws =>
      unfold Extension.activation
      split
      · exact .keeps rfl rfl rfl rfl fun _ => rfl
      · next adapter isAdapter =>
          dsimp only
          split
          · exact .keeps rfl rfl rfl rfl (update_own _ adapter _)
          · exact .keeps rfl rfl rfl rfl fun _ => rfl
  | ended context messages => exact .keeps rfl rfl rfl rfl fun _ => rfl
  | shows context sessionId entries => exact .keeps rfl rfl rfl rfl fun _ => rfl

end Effects

/-! ## Activations -/

/-- The runtime in use has the binding, and no two adapters have the same. -/
structure Sound (extension : Extension) : Prop where
  inUse : ∀ adapter, extension.runtime = some adapter →
    adapter < extension.made ∧ extension.binding = some (extension.adapters adapter).1
  handled : ∀ client adapter, extension.handlers client = some adapter → adapter < extension.made
  epochs : ∀ one < extension.made, ∀ other < extension.made,
    (extension.adapters one).1.epoch = (extension.adapters other).1.epoch → one = other

section Activations

variable {host : Host} {sends : Bool} {extension before after : Extension}

theorem Sound.start (shown : Nat → Shown) : Sound (.start shown) where
  inUse adapter inUse := by cases inUse
  handled client adapter handled := by cases handled
  epochs one less := absurd less (Nat.not_lt_zero one)

theorem Sound.of_effect (sound : Sound before) (effect : Effect before after) : Sound after := by
  cases effect with
  | keeps runtime binding made handlers own =>
      constructor
      · intro adapter inUse
        rw [made, binding, own]
        exact sound.inUse adapter (runtime ▸ inUse)
      · rw [made, handlers]
        exact sound.handled
      · intro one less other otherLess
        rw [own, own]
        exact sound.epochs one (made ▸ less) other (made ▸ otherLess)
  | closes runtime binding made handlers own =>
      constructor
      · intro adapter inUse
        rw [runtime] at inUse
        cases inUse
      · rw [made, handlers]
        exact sound.handled
      · intro one less other otherLess
        rw [own, own]
        exact sound.epochs one (made ▸ less) other (made ▸ otherLess)
  | starts session runtime binding made handlers own fresh =>
      constructor
      · intro adapter inUse
        obtain rfl : before.made = adapter := Option.some.inj (runtime.symm.trans inUse)
        exact ⟨made ▸ Nat.lt_succ_self _, binding⟩
      · intro client adapter handled
        rw [handlers] at handled
        rw [made]
        by_cases same : client = session
        · subst same
          rw [Function.update_self] at handled
          exact Nat.lt_succ_of_le (Option.some.inj handled).ge
        · rw [Function.update_of_ne same] at handled
          exact Nat.lt_succ_of_lt (sound.handled client adapter handled)
      · intro one less other otherLess same
        rw [made] at less otherLess
        rcases Nat.lt_succ_iff_lt_or_eq.mp less with oneEarlier | rfl
        · rcases Nat.lt_succ_iff_lt_or_eq.mp otherLess with otherEarlier | rfl
          · rw [own one oneEarlier.ne, own other otherEarlier.ne] at same
            exact sound.epochs one oneEarlier other otherEarlier same
          · rw [own one oneEarlier.ne] at same
            exact absurd same (fresh one oneEarlier)
        · rcases Nat.lt_succ_iff_lt_or_eq.mp otherLess with otherEarlier | rfl
          · rw [own other otherEarlier.ne] at same
            exact absurd same.symm (fresh other otherEarlier)
          · rfl

theorem Sound.of_reachable (reached : Reachable host sends extension) : Sound extension := by
  rcases reached with ⟨shown, moves⟩
  induction moves with
  | refl => exact Sound.start shown
  | tail _ move induction => exact induction.of_effect (effect_step move.2)

/-- The adapter was made and is not in use. -/
def Retired (adapter : Nat) (extension : Extension) : Prop :=
  adapter < extension.made ∧ extension.runtime ≠ some adapter

/-- An adapter that is given up is never used again, and keeps its binding. -/
theorem Retired.of_effect {adapter : Nat} (retired : Retired adapter before)
    (effect : Effect before after) :
    Retired adapter after ∧ (after.adapters adapter).1 = (before.adapters adapter).1 := by
  rcases retired with ⟨earlier, unused⟩
  cases effect with
  | keeps runtime binding made handlers own =>
      exact ⟨⟨made ▸ earlier, runtime ▸ unused⟩, own adapter⟩
  | closes runtime binding made handlers own =>
      exact ⟨⟨made ▸ earlier, runtime ▸ Option.some_ne_none adapter |>.symm⟩, own adapter⟩
  | starts session runtime binding made handlers own fresh =>
      refine ⟨⟨made ▸ Nat.lt_succ_of_lt earlier, ?_⟩, own adapter earlier.ne⟩
      rw [runtime]
      exact fun same => earlier.ne' (Option.some.inj same)

theorem Retired.later {adapter : Nat} (retired : Retired adapter before)
    (moves : Relation.ReflTransGen (Moves host sends) before after) :
    Retired adapter after ∧ (after.adapters adapter).1 = (before.adapters adapter).1 := by
  induction moves with
  | refl => exact ⟨retired, rfl⟩
  | tail _ move induction =>
      rcases induction.1.of_effect (effect_step move.2) with ⟨stays, own⟩
      exact ⟨stays, own.trans induction.2⟩

/-- What the Pi adapter has checked when it sends. -/
theorem checks_of_sends {binding : Binding} {call : RuntimeAdapter.Pi.Call} {adapter : Adapter}
    (sent : (RuntimeAdapter.Pi.activate host binding call adapter).2.1 = true) :
    RuntimeAdapter.Pi.isCurrent host binding call.context = true ∧
      RuntimeAdapter.Pi.recorded binding call.request.operationId call.context.entries = none := by
  unfold RuntimeAdapter.Pi.activate at sent
  split at sent
  · cases sent
  · next passes =>
      split at sent
      · cases sent
      · next unrecorded =>
          refine ⟨?_, unrecorded⟩
          cases isCurrent : RuntimeAdapter.Pi.isCurrent host binding call.context with
          | true => rfl
          | false => simp [isCurrent] at passes

/-- The context whose session an adapter finds current. -/
theorem context_of_isCurrent {binding : Binding}
    (isCurrent : RuntimeAdapter.Pi.isCurrent host binding extension.seen = true) :
    ∃ context cwd, extension.context = some context ∧
      (extension.shown context).sessionId = binding.runtimeId ∧
        (extension.shown context).cwd = some cwd ∧
          host.resolve cwd = host.resolve binding.workingDirectory := by
  simp only [RuntimeAdapter.Pi.isCurrent, Bool.and_eq_true, decide_eq_true_eq] at isCurrent
  rcases isCurrent with ⟨⟨sameSession, inDirectory⟩, -⟩
  rcases (Option.any_eq_true _ _).mp inDirectory with ⟨cwd, isCwd, resolves⟩
  simp only [Bool.and_eq_true, decide_eq_true_eq] at resolves
  cases isContext : extension.context with
  | none =>
      rw [Extension.seen, isContext] at isCwd
      cases isCwd
  | some context =>
      rw [Extension.seen, isContext] at sameSession isCwd
      exact ⟨context, cwd, rfl, sameSession, isCwd, resolves.2⟩

/-- Whatever requests arrive at whatever client, a message is sent only for the binding that the
extension has now, into the conversation that Pi shows now, where it is the bound one and does
not show the operation yet. -/
theorem sends_where_bound (reached : Reachable host sends extension) {client : Nat}
    {incoming : Incoming} {request : ActivationRequest} {aborted throws : Bool}
    (sent : (extension.activation host client incoming request aborted throws).2.1 = true) :
    incoming.client = "pi" ∧ extension.binding = some incoming.binding ∧
      ∃ context cwd, extension.context = some context ∧
        (extension.shown context).sessionId = incoming.binding.runtimeId ∧
          (extension.shown context).cwd = some cwd ∧
            host.resolve cwd = host.resolve incoming.binding.workingDirectory ∧
              RuntimeAdapter.Pi.recorded incoming.binding request.operationId
                (extension.shown context).entries = none := by
  unfold Extension.activation at sent
  split at sent
  · cases sent
  · next adapter isHandler =>
      dsimp only at sent
      split at sent
      · next accepted =>
          rcases accepted with ⟨isPi, isOwn, inUse⟩
          rcases checks_of_sends sent with ⟨isCurrent, unrecorded⟩
          rcases context_of_isCurrent isCurrent with
            ⟨context, cwd, isContext, sameSession, isCwd, resolves⟩
          have entries : extension.seen.entries = (extension.shown context).entries := by
            rw [Extension.seen, isContext]
            rfl
          rw [entries] at unrecorded
          rw [isOwn]
          exact ⟨isPi, ((Sound.of_reachable reached).inUse adapter inUse).2, context, cwd,
            isContext, sameSession, isCwd, resolves, unrecorded⟩
      · cases sent

def greetingRequest : ActivationRequest := ⟨"o", "Look into your inbox.", false⟩

theorem conversing_sends :
    (conversing.activation posixHost 0 ⟨"pi", ownBinding⟩ greetingRequest false false).2.1 = true ∧
      conversing.binding = some ownBinding := by
  have sent : (conversing.activation posixHost 0 ⟨"pi", ownBinding⟩ greetingRequest false
      false).2.1 = true := by
    rfl
  exact ⟨sent, (sends_where_bound conversing_reachable sent).2.1⟩

/-- Once a binding is given up, for another conversation or with its client, requests for it are
refused at every client for good. -/
theorem retired_unavailable (reached : Reachable host sends before) {adapter : Nat}
    (retired : Retired adapter before)
    (moves : Relation.ReflTransGen (Moves host sends) before after) (client : Nat)
    {incoming : Incoming} (isOld : incoming.binding = (before.adapters adapter).1)
    (request : ActivationRequest) (aborted throws : Bool) :
    after.activation host client incoming request aborted throws =
      (.unavailable, false, after) := by
  have sound : Sound after := by
    rcases reached with ⟨shown, earlier⟩
    exact Sound.of_reachable ⟨shown, earlier.trans moves⟩
  rcases retired.later moves with ⟨⟨less, unused⟩, own⟩
  unfold Extension.activation
  split
  · rfl
  · next current isHandler =>
      dsimp only
      apply if_neg
      rintro ⟨-, isOwn, inUse⟩
      have sameEpoch : (after.adapters current).1.epoch = (after.adapters adapter).1.epoch := by
        rw [own, ← isOld, isOwn]
      have same := sound.epochs current (sound.handled client current isHandler) adapter less
        sameEpoch
      exact unused (same ▸ inUse)

theorem left_unavailable :
    (conversing.close .nothing).activation posixHost 0 ⟨"pi", ownBinding⟩ greetingRequest false
      false = (.unavailable, false, conversing.close .nothing) := by
  have reached : Reachable posixHost true (conversing.close .nothing) := by
    rcases conversing_reachable with ⟨shown, moves⟩
    exact ⟨shown, moves.tail ⟨rfl, .leaves⟩⟩
  have retired : Retired 0 (conversing.close .nothing) :=
    ⟨Nat.one_pos, Option.some_ne_none 0 |>.symm⟩
  exact retired_unavailable reached retired .refl 0 rfl greetingRequest false false

/-- What the Pi adapter answers when its session shows the operation as completed. -/
theorem activate_of_recorded {binding : Binding} (call : RuntimeAdapter.Pi.Call)
    (adapter : Adapter) {turn : String}
    (recorded : RuntimeAdapter.Pi.isCurrent host binding call.context = true →
      RuntimeAdapter.Pi.recorded binding call.request.operationId call.context.entries =
        some (.completed turn)) :
    (RuntimeAdapter.Pi.activate host binding call adapter).2.1 = false ∧
      (RuntimeAdapter.Pi.activate host binding call adapter).1 ∈
        [.unavailable, .completed turn] := by
  unfold RuntimeAdapter.Pi.activate
  split
  · exact ⟨rfl, List.mem_cons_self⟩
  · next passes =>
      have isCurrent : RuntimeAdapter.Pi.isCurrent host binding call.context = true := by
        cases isCurrent : RuntimeAdapter.Pi.isCurrent host binding call.context with
        | true => rfl
        | false => simp [isCurrent] at passes
      rw [recorded isCurrent]
      exact ⟨rfl, List.mem_cons_of_mem _ List.mem_cons_self⟩

/-- A message that activated the conversation is read back: once a turn with it has ended, no
adapter for this session sends the operation again as long as Pi keeps what was recorded. -/
theorem ended_not_resent {own : Binding} {done request : ActivationRequest} {messages : List Json}
    (bound : before.binding = some own) (ran : asMessage (payload own done) ∈ messages)
    (kept : ∀ context, after.context = some context →
      (after.shown context).sessionId = own.runtimeId →
        (agentEnd before.binding messages).1 ⊆ (after.shown context).entries)
    (same : request.operationId = done.operationId) (client : Nat) {incoming : Incoming}
    (sameSession : incoming.binding.runtimeId = own.runtimeId) (aborted throws : Bool) :
    (after.activation host client incoming request aborted throws).2.1 = false ∧
      ∃ turn, (after.activation host client incoming request aborted throws).1 ∈
        [.unavailable, .completed turn] := by
  unfold Extension.activation
  split
  · exact ⟨rfl, "", List.mem_cons_self⟩
  · next adapter isHandler =>
      dsimp only
      split
      · next accepted =>
          rw [accepted.2.1] at sameSession
          have recorded : RuntimeAdapter.Pi.isCurrent host (after.adapters adapter).1 after.seen =
              true → ∃ turn, RuntimeAdapter.Pi.recorded (after.adapters adapter).1
                request.operationId after.seen.entries = some (.completed turn) := by
            intro isCurrent
            rcases context_of_isCurrent isCurrent with ⟨context, -, isContext, isSession, -, -⟩
            have shown := kept context isContext (isSession.trans sameSession)
            rw [bound] at shown
            have entries : after.seen.entries = (after.shown context).entries := by
              rw [Extension.seen, isContext]
              rfl
            rw [entries, same]
            exact recorded_of_mem sameSession (shown (completionEntry_mem ran))
          by_cases isCurrent :
              RuntimeAdapter.Pi.isCurrent host (after.adapters adapter).1 after.seen = true
          · rcases recorded isCurrent with ⟨turn, isTurn⟩
            rcases activate_of_recorded ⟨request, after.seen, aborted, throws⟩
              (after.adapters adapter).2 fun _ => isTurn with ⟨unsent, answers⟩
            exact ⟨unsent, turn, answers⟩
          · rcases activate_of_recorded ⟨request, after.seen, aborted, throws⟩
              (after.adapters adapter).2 fun current => absurd current isCurrent with
                ⟨unsent, answers⟩
            exact ⟨unsent, "", answers⟩
      · exact ⟨rfl, "", List.mem_cons_self⟩

theorem ended_entries (context : Nat) (messages : List Json) :
    ((extension.ended context messages).shown context).entries =
      (extension.shown context).entries ++ (agentEnd extension.binding messages).1 := by
  simp only [Extension.ended, Function.update_self]

theorem conversing_not_resent :
    ((conversing.ended 0 [asMessage (payload ownBinding greetingRequest)]).activation posixHost 0
      ⟨"pi", ownBinding⟩ greetingRequest false false).2.1 = false := by
  have kept : ∀ context, conversing.context = some context →
      ((conversing.ended 0 [asMessage (payload ownBinding greetingRequest)]).shown
        context).sessionId = ownBinding.runtimeId →
      (agentEnd conversing.binding [asMessage (payload ownBinding greetingRequest)]).1 ⊆
        ((conversing.ended 0 [asMessage (payload ownBinding greetingRequest)]).shown
          context).entries := by
    intro context isContext _
    cases isContext
    rw [ended_entries]
    exact List.subset_append_right _ _
  exact (ended_not_resent (rfl : conversing.binding = some ownBinding) List.mem_cons_self kept rfl 0
    rfl false false).1

end Activations

/-! ## The tools -/

/-- A known tool that asks for no session. -/
def Fit (tool : BoundTool) : Prop := tool.name ∈ allowed true ∧ Sessionless tool.inputSchema

/-- What may be registered together. -/
def Offers (tools : List BoundTool) : Prop :=
  (∀ tool ∈ tools, Fit tool) ∧ ∀ name ∈ expected true, name ∈ tools.map (·.name)

structure Tools (extension : Extension) : Prop where
  distinct : (extension.registered.map (·.name)).Nodup
  offers : extension.registered = [] ∨ Offers extension.registered
  catalogs : ∀ goal catalog, .listed goal catalog ∈ extension.tasks → Offers catalog

section Tooling

variable {host : Host} {sends : Bool} {extension before middle after : Extension}

theorem offers_of_validateCatalog {tools : List CatalogTool} {catalog : List BoundTool}
    (isOk : validateCatalog true tools = .ok catalog) : Offers catalog := by
  rcases acceptable_of_validateCatalog isOk with ⟨acceptable, ordered, members⟩
  constructor
  · intro tool member
    have offered := (members tool).mp member
    rcases acceptable.schemas _ offered with ⟨schema, isSchema, sessionless⟩
    have isOwn : tool.inputSchema = schema := Option.some.inj isSchema
    exact ⟨ordered.subset (List.mem_map_of_mem member), isOwn ▸ sessionless⟩
  · intro name isExpected
    rcases acceptable.complete name isExpected with ⟨tool, member, named⟩
    rcases acceptable.schemas tool member with ⟨schema, isSchema, -⟩
    have isOffered : BoundTool.offered ⟨name, tool.description, schema⟩ = tool := by
      rw [BoundTool.offered, ← named, ← isSchema]
    have bound := (members ⟨name, tool.description, schema⟩).mpr (isOffered ▸ member)
    exact List.mem_map.mpr ⟨_, bound, rfl⟩

/-- Neither the tools nor the catalogs in hand become more. -/
structure Still (before after : Extension) : Prop where
  registered : after.registered = before.registered
  catalogs : ∀ goal catalog, .listed goal catalog ∈ after.tasks →
    .listed goal catalog ∈ before.tasks

theorem Still.trans (one : Still before middle) (other : Still middle after) :
    Still before after :=
  ⟨other.registered.trans one.registered,
    fun goal catalog member => one.catalogs goal catalog (other.catalogs goal catalog member)⟩

theorem Tools.of_still (tools : Tools before) (still : Still before after) : Tools after where
  distinct := still.registered ▸ tools.distinct
  offers := still.registered ▸ tools.offers
  catalogs goal catalog member := tools.catalogs goal catalog (still.catalogs goal catalog member)

theorem still_await {task : Task} (other : ∀ goal catalog, task ≠ .listed goal catalog)
    (registered : after.registered = before.registered)
    (tasks : after.tasks = before.tasks ++ [task]) : Still before after := by
  refine ⟨registered, fun goal catalog member => ?_⟩
  rw [tasks] at member
  rcases List.mem_append.mp member with earlier | new
  · exact earlier
  · exact absurd (List.mem_singleton.mp new).symm (other goal catalog)

theorem still_resume (index : Nat) : Still extension (extension.resume index) :=
  ⟨rfl, fun _ _ member => List.mem_of_mem_eraseIdx member⟩

theorem still_close (next : AfterClose) : Still extension (extension.close next) := by
  refine still_await (fun _ _ => Task.noConfusion) ?_ rfl
  change extension.invalidate.registered = extension.registered
  unfold Extension.invalidate
  split
  · rfl
  · rfl

theorem still_connect (goal : Goal) : Still extension (extension.connect goal) := by
  unfold Extension.connect
  split
  · exact still_await (fun _ _ => Task.noConfusion) rfl rfl
  · exact still_await (fun _ _ => Task.noConfusion) rfl rfl

theorem still_startRuntime (context : Nat) (resumes : Bool) :
    Still extension (extension.startRuntime host sends context resumes) := by
  have same : Still extension { extension with context := some context } :=
    ⟨rfl, fun _ _ member => member⟩
  unfold Extension.startRuntime
  dsimp only
  split
  · exact same.trans (still_close _)
  · split
    · split
      · split
        · exact same.trans (still_connect _)
        · exact same
      · split
        · exact same.trans (still_close _)
        · exact same.trans (still_connect _)
    · exact same.trans (still_close _)

theorem foldl_register (catalog registered : List BoundTool)
    (distinct : (registered.map (·.name)).Nodup) :
    ((catalog.foldl register registered).map (·.name)).Nodup ∧
      (∀ tool ∈ catalog.foldl register registered, tool ∈ registered ∨ tool ∈ catalog) ∧
        ∀ name, name ∈ registered.map (·.name) ∨ name ∈ catalog.map (·.name) →
          name ∈ (catalog.foldl register registered).map (·.name) := by
  induction catalog generalizing registered with
  | nil => exact ⟨distinct, fun _ => .inl, fun name named => named.resolve_right List.not_mem_nil⟩
  | cons tool catalog induction =>
      rw [List.foldl_cons, register]
      split
      · next known =>
          rcases induction registered distinct with ⟨stays, within, names⟩
          refine ⟨stays, fun other member => (within other member).imp_right
            (List.mem_cons_of_mem _), fun name named => names name ?_⟩
          rcases named with before | asked
          · exact .inl before
          · rcases List.mem_cons.mp asked with rfl | later
            · exact .inl known
            · exact .inr later
      · next unknown =>
          have more : ((registered ++ [tool]).map (·.name)).Nodup := by
            rw [List.map_append, List.nodup_append]
            refine ⟨distinct, List.nodup_singleton _, ?_⟩
            intro name member other isNew same
            rw [List.map_singleton, List.mem_singleton] at isNew
            exact unknown (isNew ▸ same ▸ member)
          rcases induction (registered ++ [tool]) more with ⟨stays, within, names⟩
          refine ⟨stays, fun other member => ?_, fun name named => names name ?_⟩
          · rcases within other member with present | later
            · rcases List.mem_append.mp present with before | new
              · exact .inl before
              · exact .inr (List.mem_singleton.mp new ▸ List.mem_cons_self)
            · exact .inr (List.mem_cons_of_mem _ later)
          · rw [List.map_append, List.mem_append]
            rcases named with before | asked
            · exact .inl (.inl before)
            · rcases List.mem_cons.mp asked with rfl | later
              · exact .inl (.inr List.mem_cons_self)
              · exact .inr later

theorem Tools.registerCatalog (tools : Tools extension) {catalog : List BoundTool}
    (offers : Offers catalog) : Tools (extension.registerCatalog catalog) := by
  rcases foldl_register catalog extension.registered tools.distinct with ⟨distinct, within, names⟩
  refine ⟨distinct, .inr ⟨fun tool member => ?_, fun name isExpected => ?_⟩, tools.catalogs⟩
  · rcases within tool member with before | new
    · rcases tools.offers with none | earlier
      · rw [none] at before
        cases before
      · exact earlier.1 tool before
    · exact offers.1 tool new
  · exact names name (.inr (offers.2 name isExpected))

theorem Tools.starts (tools : Tools extension) (context : Nat) (workingDirectory epoch : String)
    (resumes : Bool) : Tools (extension.starts context workingDirectory epoch resumes) := by
  unfold Extension.starts
  split
  · exact tools.of_still (still_close _)
  · exact tools.of_still (still_await (fun _ _ => Task.noConfusion) rfl rfl)

theorem Tools.listed (tools : Tools extension) (goal : Goal)
    (offered : Option (List CatalogTool)) (instructions : String) :
    Tools (extension.listed goal offered instructions) := by
  have same : Still extension { extension with instructions } := ⟨rfl, fun _ _ member => member⟩
  unfold Extension.listed
  split
  · next catalog isOk =>
      split
      · exact tools.of_still (still_close _)
      · split
        · exact tools.of_still (same.trans (still_close _))
        · refine ⟨tools.distinct, tools.offers, fun other found member => ?_⟩
          rcases List.mem_append.mp member with earlier | new
          · exact tools.catalogs other found earlier
          · cases List.mem_singleton.mp new
            rcases Option.map_eq_some_iff.mp isOk with ⟨sent, -, isCatalog⟩
            exact offers_of_validateCatalog isCatalog
  · exact tools.of_still (still_close _)

theorem Tools.step (tools : Tools before) (step : Step host sends before after) : Tools after := by
  cases step with
  | sessionStart context => exact tools.of_still (still_startRuntime context false)
  | beforeAgentStart =>
      unfold Extension.beforeAgentStart
      split
      · exact tools.of_still (still_close _)
      · split
        · exact tools.of_still (still_startRuntime _ true)
        · exact tools.of_still (still_connect _)
  | leaves => exact tools.of_still (still_close _)
  | @closed index client next waits succeeds =>
      have resumed := tools.of_still (still_resume index)
      cases next with
      | nothing => exact resumed
      | exits => exact resumed.of_still ⟨rfl, fun _ _ member => member⟩
      | starts goal =>
          unfold Extension.closed
          dsimp only
          split
          · exact resumed.of_still (still_connect _)
          · exact resumed.of_still (still_close _)
  | @connected index goal waits succeeds =>
      have resumed := tools.of_still (still_resume index)
      unfold Extension.connected
      split
      · exact resumed.of_still (still_await (fun _ _ => Task.noConfusion) rfl rfl)
      · exact resumed.of_still (still_close _)
  | @listed index goal waits offered instructions =>
      exact (tools.of_still (still_resume index)).listed goal offered instructions
  | @goesOn index goal catalog waits epoch fresh active =>
      have resumed := tools.of_still (still_resume index)
      cases goal with
      | ready =>
          unfold Extension.goesOn
          dsimp only
          split
          · exact resumed
          · exact resumed.of_still (still_close _)
      | start context workingDirectory resumes =>
          have offers := tools.catalogs _ catalog (List.mem_of_getElem? waits)
          exact (resumed.registerCatalog offers).starts context workingDirectory epoch resumes
  | @bound index resumes waits ready =>
      have resumed := tools.of_still (still_resume index)
      unfold Extension.bound
      split
      · split
        · exact resumed.of_still (still_connect _)
        · exact resumed
      · exact resumed.of_still (still_close _)
  | activates client incoming request aborted throws =>
      refine tools.of_still ?_
      unfold Extension.activation
      split
      · exact ⟨rfl, fun _ _ member => member⟩
      · dsimp only
        split
        · exact ⟨rfl, fun _ _ member => member⟩
        · exact ⟨rfl, fun _ _ member => member⟩
  | ended | shows => exact tools.of_still ⟨rfl, fun _ _ member => member⟩

/-- In every run the tools that Pi has are different known ones whose schemas ask for no session,
and all that are expected are among them as soon as there is any. -/
theorem registered_tools_fit (reached : Reachable host sends extension) :
    (extension.registered.map (·.name)).Nodup ∧
      (extension.registered = [] ∨ Offers extension.registered) := by
  rcases reached with ⟨shown, moves⟩
  have tools : Tools extension := by
    induction moves with
    | refl => exact ⟨List.nodup_nil, .inl rfl, fun _ _ member => by cases member⟩
    | tail _ move induction => exact induction.step move.2
  exact ⟨tools.distinct, tools.offers⟩

theorem conversing_tools_fit : conversing.registered = sidecarTools ∧
    (conversing.registered.map (·.name)).Nodup :=
  ⟨rfl, (registered_tools_fit conversing_reachable).1⟩

end Tooling

end GptQueue.PiExtension
