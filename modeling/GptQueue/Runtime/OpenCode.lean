import GptQueue.Foundation.Texts
import GptQueue.Runtime.Adapters

/-! # The OpenCode adapter

The adapter looks for the native message of an operation in the history of its session, and
prompts the session if the message is not there. It remembers nothing itself: the id of the
message and the marker in its text are how it recognises what was delivered.
-/

namespace GptQueue.OpenCodeRuntime

open RuntimeAdapter (ActivationOutcome ActivationRequest Binding)

/-! ## The host -/

structure Part where
  type : Option String
  text : Option String
deriving DecidableEq

structure Info where
  id : Option String
  role : Option String
  sessionID : Option String
deriving DecidableEq

structure HistoryEntry where
  info : Option Info
  parts : Option (List Part)
deriving DecidableEq

inductive SessionStatus
  | idle
  | busy
  | retry
deriving DecidableEq

structure Identity where
  runtimeId : String
  workingDirectory : String
  epoch : Option String
deriving DecidableEq

/-- The functions of the host that the adapter uses. -/
structure Host where
  /-- The digest in hexadecimal digits. -/
  sha256 : String → String
  /-- `path.resolve`. -/
  resolve : String → String

/-! ## Messages -/

def marker (operationId : String) : String := "GPTQueue activation operation: " ++ operationId

def promptText (operationId prompt : String) : String := marker operationId ++ "\n" ++ prompt

section Messages

variable (host : Host) (binding : Binding)

def nativeMessageId (operationId : String) : String := "msg_" ++ host.sha256 operationId

def identityMatches (identity : Identity) : Bool :=
  identity.runtimeId = binding.runtimeId &&
    host.resolve identity.workingDirectory = host.resolve binding.workingDirectory &&
    (identity.epoch = none || identity.epoch = some binding.epoch)

def partContains (operationId : String) (part : Part) : Bool :=
  part.type = some "text" &&
    match part.text with
    | none => false
    | some text =>
        text = marker operationId || Texts.startsWith text (marker operationId ++ "\n")

def entryContains (operationId : String) (entry : HistoryEntry) : Bool :=
  match entry.info with
  | none => false
  | some info =>
      info.role = some "user" && info.id = some (nativeMessageId host operationId) &&
        info.sessionID = some binding.runtimeId &&
        (entry.parts.getD []).any (partContains operationId)

/-- `none` when it raises. -/
def turnId (operationId : String) (entry : HistoryEntry) : Option String :=
  match entry.info.bind Info.id with
  | none => none
  | some id =>
      if id = "" ∨ entryContains host binding operationId entry = false then none else some id

end Messages

/-! ## The adapter -/

inductive Event
  /-- A call has read the history. -/
  | read (call : Nat)
  | prompted (call : Nat) (messageID text : String)
  /-- The session has got a message, maybe after its prompt was rejected. -/
  | delivered (messageID text : String)
deriving DecidableEq

/-- What the next commands are told. A read or a prompt is rejected as well when its deadline
is over. -/
structure World where
  closed : Bool
  identity : Option Identity
  history : Option (List HistoryEntry)
  status : Option SessionStatus
  accepts : Bool
  /-- Latest first. -/
  log : List Event

inductive Command
  /-- Whether the adapter is closed or the call aborted. -/
  | closed
  | readIdentity
  | history
  | status
  | promptAsync (messageID text : String)
deriving DecidableEq

abbrev Reply : Command → Type
  | .closed => Bool
  | .readIdentity => Option Identity
  | .history => Option (List HistoryEntry)
  | .status => Option SessionStatus
  | .promptAsync _ _ => Bool

abbrev ask (command : Command) : Program Command Reply (Reply command) := Program.ask command

def serve (id : Nat) : (command : Command) → World → Reply command × World
  | .closed, world => (world.closed, world)
  | .readIdentity, world => (world.identity, world)
  | .history, world => (world.history, { world with log := .read id :: world.log })
  | .status, world => (world.status, world)
  | .promptAsync messageID text, world =>
      (world.accepts, { world with log := .prompted id messageID text :: world.log })

section Activate

variable (host : Host) (binding : Binding)

/-- The operation is in the history already. -/
def reconcile (operationId : String) (existing : HistoryEntry) :
    Program Command Reply ActivationOutcome := do
  match ← ask .status with
  | none => pure .ambiguous
  | some status =>
      match turnId host binding operationId existing with
      | none => pure .ambiguous
      | some turn => if status = .idle then pure (.completed turn) else pure (.started turn)

def submit (request : ActivationRequest) : Program Command Reply ActivationOutcome := do
  match ← ask .status with
  | none => pure .unavailable
  | some .idle =>
      if ← ask (.promptAsync (nativeMessageId host request.operationId)
          (promptText request.operationId request.prompt)) then pure .queued
      else pure .ambiguous
  | some _ => pure .busy

def activate (request : ActivationRequest) : Program Command Reply ActivationOutcome := do
  if ← ask .closed then pure .unavailable
  else
    match ← ask .readIdentity with
    | none => pure .unavailable
    | some identity =>
        if identityMatches host binding identity = false then pure .unavailable
        else
          match ← ask .history with
          | none => pure .ambiguous
          | some entries =>
              match entries.find? (entryContains host binding request.operationId) with
              | some existing => reconcile host binding request.operationId existing
              | none => if request.recoverOnly then pure .ambiguous else submit host request

/-- The session does anything, and gets a message that it was prompted with at any time. -/
inductive Moves : World → World → Prop
  | changed {world : World} (closed : Bool) (identity : Option Identity)
      (history : Option (List HistoryEntry)) (status : Option SessionStatus) (accepts : Bool) :
      Moves world { world with closed, identity, history, status, accepts }
  | delivers {world : World} {call : Nat} {messageID text : String}
      (prompted : .prompted call messageID text ∈ world.log) :
      Moves world { world with log := .delivered messageID text :: world.log }

def openCodeProtocol : Protocol World ActivationRequest Command Reply ActivationOutcome where
  program := activate host binding
  serve := serve
  opens _ _ := True
  moves := Moves

end Activate

abbrev OpenCodeSystem := System World ActivationRequest Command Reply ActivationOutcome

abbrev OpenCodeCall := Call ActivationRequest Command Reply ActivationOutcome

abbrev Past := List (Exchange Command Reply)

/-- An entry is the user message that a session keeps of a prompt. -/
structure Shows (binding : Binding) (messageID text : String) (entry : HistoryEntry) : Prop where
  info : entry.info = some ⟨some messageID, some "user", some binding.runtimeId⟩
  part : ∃ parts, entry.parts = some parts ∧ ⟨some "text", some text⟩ ∈ parts

/-- A history that is read has every message that was delivered. -/
def ReadsDelivered (binding : Binding) :
    Condition World ActivationRequest Command Reply ActivationOutcome :=
  fun world _ _ command => command = .history → ∀ entries, world.history = some entries →
    ∀ messageID text, .delivered messageID text ∈ world.log →
      ∃ entry ∈ entries, Shows binding messageID text entry

/-! ## What a call asks -/

section Asks

variable {host : Host} {binding : Binding}

/-- The history that was read does not have the operation. -/
def Hidden (host : Host) (binding : Binding) (operationId : String) (past : Past) : Prop :=
  ∃ entries, ⟨.history, some entries⟩ ∈ past ∧
    ∀ entry ∈ entries, entryContains host binding operationId entry = false

def Prompts (past : Past) : Prop :=
  ∃ messageID text accepted, ⟨.promptAsync messageID text, accepted⟩ ∈ past

def Asks (host : Host) (binding : Binding) (request : ActivationRequest) (past : Past) :
    Command → Prop
  | .history => ∀ reply, ⟨.history, reply⟩ ∉ past
  | .promptAsync messageID text =>
      messageID = nativeMessageId host request.operationId ∧
        text = promptText request.operationId request.prompt ∧ request.recoverOnly = false ∧
        Hidden host binding request.operationId past ∧ ¬Prompts past
  | _ => True

/-- What an outcome says of the call. -/
def Ends (host : Host) (binding : Binding) (request : ActivationRequest) (past : Past) :
    ActivationOutcome → Prop
  | .started turn => turn = nativeMessageId host request.operationId ∧ ¬Prompts past
  | .completed turn => turn = nativeMessageId host request.operationId ∧ ¬Prompts past
  | .queued => Hidden host binding request.operationId past ∧
      ⟨.promptAsync (nativeMessageId host request.operationId)
        (promptText request.operationId request.prompt), true⟩ ∈ past
  | .busy => ¬Prompts past
  | .unavailable => ¬Prompts past
  | .ambiguous => True

theorem turnId_eq {operationId turn : String} {entry : HistoryEntry}
    (isTurn : turnId host binding operationId entry = some turn) :
    turn = nativeMessageId host operationId := by
  unfold turnId at isTurn
  split at isTurn
  · cases isTurn
  · next id isId =>
      split at isTurn
      · cases isTurn
      · next named =>
          rw [not_or, Bool.not_eq_false] at named
          cases isTurn
          rcases Option.bind_eq_some_iff.mp isId with ⟨info, isInfo, isId⟩
          have contains := named.2
          rw [entryContains, isInfo] at contains
          simp only [Bool.and_eq_true, decide_eq_true_eq] at contains
          rw [isId, Option.some_inj] at contains
          exact contains.1.1.2

theorem not_prompts_status {past : Past} (quiet : ¬Prompts past) (reply : Reply .status) :
    ¬Prompts (⟨.status, reply⟩ :: past) := by
  rintro ⟨messageID, text, accepted, member⟩
  rcases List.mem_cons.mp member with same | earlier
  · cases same
  · exact quiet ⟨messageID, text, accepted, earlier⟩

theorem Hidden.cons {operationId : String} {past : Past}
    (hidden : Hidden host binding operationId past) (exchange : Exchange Command Reply) :
    Hidden host binding operationId (exchange :: past) := by
  rcases hidden with ⟨entries, read, absent⟩
  exact ⟨entries, List.mem_cons_of_mem _ read, absent⟩

theorem follows_reconcile {request : ActivationRequest} {past : Past} (quiet : ¬Prompts past)
    (existing : HistoryEntry) :
    (reconcile host binding request.operationId existing).Follows (Asks host binding request)
      (Ends host binding request) past := by
  have still := not_prompts_status quiet
  apply Program.follows_ask_bind.mpr ⟨trivial, fun reply => ?_⟩
  cases reply with
  | none => trivial
  | some status =>
      dsimp only
      split
      · trivial
      · next turn isTurn =>
          split
          · exact ⟨turnId_eq isTurn, still _⟩
          · exact ⟨turnId_eq isTurn, still _⟩

theorem follows_submit {request : ActivationRequest} {past : Past} (quiet : ¬Prompts past)
    (notRecovering : request.recoverOnly = false)
    (hidden : Hidden host binding request.operationId past) :
    (submit host request).Follows (Asks host binding request) (Ends host binding request) past := by
  have still := not_prompts_status quiet
  apply Program.follows_ask_bind.mpr ⟨trivial, fun reply => ?_⟩
  rcases reply with - | status
  · exact still _
  · cases status with
    | busy => exact still _
    | retry => exact still _
    | idle =>
        apply Program.follows_ask_bind.mpr
          ⟨⟨rfl, rfl, notRecovering, hidden.cons _, still _⟩, fun accepted => ?_⟩
        cases accepted with
        | false => trivial
        | true => exact ⟨(hidden.cons _).cons _, List.mem_cons_self⟩

theorem follows_activate (request : ActivationRequest) :
    (activate host binding request).Follows (Asks host binding request)
      (Ends host binding request) [] := by
  have quiet : ∀ closed identity reply,
      ¬Prompts [⟨.history, reply⟩, ⟨.readIdentity, identity⟩, ⟨.closed, closed⟩] := by
    rintro closed identity reply ⟨messageID, text, accepted, member⟩
    simp at member
  have unread : ∀ (closed : Bool) (identity : Option Identity) (reply : Reply .history),
      (⟨.history, reply⟩ : Exchange Command Reply) ∉
        ([⟨.readIdentity, identity⟩, ⟨.closed, closed⟩] : Past) := by
    intro closed identity reply member
    simp at member
  have early : ∀ past : Past, (∀ exchange ∈ past, exchange.1 = .closed ∨
      exchange.1 = .readIdentity) → ¬Prompts past := by
    rintro past early ⟨messageID, text, accepted, member⟩
    rcases early _ member with same | same
    · cases same
    · cases same
  apply Program.follows_ask_bind.mpr ⟨trivial, fun closed => ?_⟩
  split
  · exact early _ (by simp)
  · apply Program.follows_ask_bind.mpr ⟨trivial, fun identity => ?_⟩
    cases identity with
    | none => exact early _ (by simp)
    | some identity =>
        dsimp only
        split
        · exact early _ (by simp)
        · apply Program.follows_ask_bind.mpr ⟨unread closed _, fun reply => ?_⟩
          cases reply with
          | none => trivial
          | some entries =>
              dsimp only
              split
              · exact follows_reconcile (quiet _ _ _) _
              · next absent =>
                  split
                  · trivial
                  · next mayPrompt =>
                      apply follows_submit (quiet _ _ _) (by simpa using mayPrompt)
                      refine ⟨entries, List.mem_cons_self, ?_⟩
                      intro entry member
                      have notFound := List.find?_eq_none.mp absent entry member
                      simpa using notFound

end Asks

/-! ## Runs -/

section Runs

variable {host : Host} {binding : Binding} {world after : World} {id : Nat}

def isPrompt (id : Nat) : Event → Bool
  | .prompted call _ _ => call = id
  | _ => false

theorem countP_of_prompted {log : List Event} {messageID text : String}
    (prompted : .prompted id messageID text ∈ log) : 0 < log.countP (isPrompt id) := by
  apply List.countP_pos_iff.mpr
  exact ⟨_, prompted, decide_eq_true rfl⟩

/-- The adapter recognises what it has prompted with. -/
theorem entryContains_of_shows {operationId prompt : String} {entry : HistoryEntry}
    (shows_ : Shows binding (nativeMessageId host operationId) (promptText operationId prompt)
      entry) : entryContains host binding operationId entry = true := by
  rcases shows_ with ⟨info, parts, isParts, member⟩
  have starts : Texts.startsWith (promptText operationId prompt) (marker operationId ++ "\n") =
      true := by
    rw [Texts.startsWith, promptText, List.isPrefixOf_iff_prefix]
    simp only [String.toList_append]
    exact List.prefix_append _ _
  rw [entryContains, info, isParts]
  simp only [decide_true, Bool.true_and, Option.getD_some, List.any_eq_true]
  exact ⟨_, member, by simp [partContains, starts]⟩

/-- What is known of one call. -/
structure Knows (host : Host) (binding : Binding) (world : World) (id : Nat) (call : OpenCodeCall) :
    Prop where
  read : .read id ∈ world.log → ∃ reply, ⟨.history, reply⟩ ∈ call.past
  prompted : ∀ messageID text, .prompted id messageID text ∈ world.log →
    messageID = nativeMessageId host call.input.operationId ∧
      text = promptText call.input.operationId call.input.prompt ∧
      call.input.recoverOnly = false ∧ Hidden host binding call.input.operationId call.past
  single : world.log.countP (isPrompt id) ≤ 1
  quiet : ¬Prompts call.past → world.log.countP (isPrompt id) = 0
  fresh : Hidden host binding call.input.operationId call.past →
    ∀ newer older, world.log = newer ++ .read id :: older →
      ∀ prompt, .delivered (nativeMessageId host call.input.operationId)
        (promptText call.input.operationId prompt) ∉ older

/-- A number without a call is in no event. -/
structure Unused (world : World) (id : Nat) : Prop where
  read : .read id ∉ world.log
  prompted : world.log.countP (isPrompt id) = 0

theorem split_of_cons {event other : Event} {log newer older : List Event}
    (different : event ≠ other) (split : event :: log = newer ++ other :: older) :
    ∃ rest, log = rest ++ other :: older := by
  cases newer with
  | nil =>
      rw [List.nil_append, List.cons.injEq] at split
      exact absurd split.1 different
  | cons first rest =>
      rw [List.cons_append, List.cons.injEq] at split
      exact ⟨rest, split.2⟩

/-- An event of something else. -/
theorem Knows.cons {call : OpenCodeCall} (knows : Knows host binding world id call) {event : Event}
    (notRead : event ≠ .read id) (notPrompt : isPrompt id event = false)
    (log : after.log = event :: world.log) : Knows host binding after id call := by
  have count : after.log.countP (isPrompt id) = world.log.countP (isPrompt id) := by
    rw [log, List.countP_cons, notPrompt, if_neg Bool.false_ne_true, Nat.add_zero]
  refine ⟨?_, ?_, count ▸ knows.single, fun quiet => count.trans (knows.quiet quiet), ?_⟩
  · intro member
    rw [log] at member
    exact knows.read ((List.mem_cons.mp member).resolve_left (Ne.symm notRead))
  · intro messageID text member
    rw [log] at member
    rcases List.mem_cons.mp member with same | earlier
    · rw [← same] at notPrompt
      simp [isPrompt] at notPrompt
    · exact knows.prompted messageID text earlier
  · intro hidden newer older isLog
    rw [log] at isLog
    rcases split_of_cons notRead isLog with ⟨rest, earlier⟩
    exact knows.fresh hidden rest older earlier

theorem Unused.cons (unused : Unused world id) {event : Event} (notRead : event ≠ .read id)
    (notPrompt : isPrompt id event = false) (log : after.log = event :: world.log) :
    Unused after id := by
  constructor
  · rw [log, List.mem_cons, not_or]
    exact ⟨Ne.symm notRead, unused.read⟩
  · rw [log, List.countP_cons, notPrompt, if_neg Bool.false_ne_true, Nat.add_zero]
    exact unused.prompted

/-- A command that logs nothing. -/
theorem Knows.silent {input : ActivationRequest} {past : Past} {command : Command}
    {next : Reply command → Program Command Reply ActivationOutcome}
    (knows : Knows host binding world id ⟨input, past, .call command next⟩)
    (reply : Reply command) (notHistory : ∀ entries, (⟨command, reply⟩ : Exchange Command Reply) ≠
      ⟨.history, some entries⟩) :
    Knows host binding world id ⟨input, ⟨command, reply⟩ :: past, next reply⟩ := by
  have hidden : Hidden host binding input.operationId (⟨command, reply⟩ :: past) →
      Hidden host binding input.operationId past := by
    rintro ⟨entries, read, absent⟩
    exact ⟨entries, (List.mem_cons.mp read).resolve_left (Ne.symm (notHistory entries)), absent⟩
  refine ⟨?_, ?_, knows.single, ?_, fun isHidden => knows.fresh (hidden isHidden)⟩
  · intro member
    rcases knows.read member with ⟨earlier, read⟩
    exact ⟨earlier, List.mem_cons_of_mem _ read⟩
  · intro messageID text member
    rcases knows.prompted messageID text member with ⟨isId, isText, notRecovering, isHidden⟩
    exact ⟨isId, isText, notRecovering, isHidden.cons _⟩
  · intro quiet
    apply knows.quiet
    rintro ⟨messageID, text, accepted, member⟩
    exact quiet ⟨messageID, text, accepted, List.mem_cons_of_mem _ member⟩

theorem Knows.reads {input : ActivationRequest} {past : Past}
    {next : Reply .history → Program Command Reply ActivationOutcome}
    (knows : Knows host binding world id ⟨input, past, .call .history next⟩)
    (delivered : ReadsDelivered binding world id ⟨input, past, .call .history next⟩ .history)
    (unread : ∀ reply, ⟨.history, reply⟩ ∉ past) :
    Knows host binding (serve id .history world).2 id
      ⟨input, ⟨.history, world.history⟩ :: past, next world.history⟩ := by
  have notRead : .read id ∉ world.log := by
    intro member
    rcases knows.read member with ⟨reply, read⟩
    exact unread reply read
  have count : (serve id .history world).2.log.countP (isPrompt id) =
      world.log.countP (isPrompt id) := by
    rw [serve, List.countP_cons]
    rfl
  refine ⟨fun _ => ⟨world.history, List.mem_cons_self⟩, ?_, count ▸ knows.single, ?_, ?_⟩
  · intro messageID text member
    rcases List.mem_cons.mp member with same | earlier
    · cases same
    · rcases knows.prompted messageID text earlier with ⟨isId, isText, notRecovering, isHidden⟩
      exact ⟨isId, isText, notRecovering, isHidden.cons _⟩
  · intro quiet
    rw [count]
    apply knows.quiet
    rintro ⟨messageID, text, accepted, member⟩
    exact quiet ⟨messageID, text, accepted, List.mem_cons_of_mem _ member⟩
  · rintro ⟨entries, read, absent⟩ newer older isLog prompt member
    have isHistory : world.history = some entries := by
      rcases List.mem_cons.mp read with same | earlier
      · exact (eq_of_heq (Sigma.mk.inj same).2).symm
      · exact absurd earlier (unread _)
    rw [serve] at isLog
    cases newer with
    | nil =>
        rw [List.nil_append, List.cons.injEq] at isLog
        rw [← isLog.2] at member
        rcases delivered rfl entries isHistory _ _ member with ⟨entry, isEntry, isShown⟩
        have contains := entryContains_of_shows isShown
        rw [absent entry isEntry] at contains
        cases contains
    | cons event rest =>
        rw [List.cons_append, List.cons.injEq] at isLog
        exact notRead (isLog.2 ▸ List.mem_append_right _ List.mem_cons_self)

theorem Knows.prompts {input : ActivationRequest} {past : Past} {messageID text : String}
    {next : Bool → Program Command Reply ActivationOutcome}
    (knows : Knows host binding world id ⟨input, past, .call (.promptAsync messageID text) next⟩)
    (asks : Asks host binding input past (.promptAsync messageID text)) :
    Knows host binding (serve id (.promptAsync messageID text) world).2 id
      ⟨input, ⟨.promptAsync messageID text, world.accepts⟩ :: past, next world.accepts⟩ := by
  rcases asks with ⟨isId, isText, notRecovering, hidden, quiet⟩
  refine ⟨?_, ?_, ?_, ?_, ?_⟩
  · intro member
    rcases List.mem_cons.mp member with same | earlier
    · cases same
    · rcases knows.read earlier with ⟨reply, read⟩
      exact ⟨reply, List.mem_cons_of_mem _ read⟩
  · intro otherID otherText member
    rcases List.mem_cons.mp member with same | earlier
    · cases same
      exact ⟨isId, isText, notRecovering, hidden.cons _⟩
    · rcases knows.prompted otherID otherText earlier with ⟨isId, isText, notRecovering, isHidden⟩
      exact ⟨isId, isText, notRecovering, isHidden.cons _⟩
  · have none := knows.quiet quiet
    rw [serve, List.countP_cons, none]
    split
    · exact Nat.le_refl 1
    · exact Nat.zero_le 1
  · intro notPrompts
    exact absurd ⟨messageID, text, world.accepts, List.mem_cons_self⟩ notPrompts
  · intro _ newer older isLog
    rcases split_of_cons (by simp) isLog with ⟨rest, earlier⟩
    exact knows.fresh hidden rest older earlier

theorem preserves_knows :
    Protocol.Preserves (openCodeProtocol host binding)
      (fun world id call command => ReadsDelivered binding world id call command ∧
        Asks host binding call.input call.past command)
      (fun _ => True) (Knows host binding) Unused where
  opened _ unused _ :=
    { read := fun member => absurd member unused.read
      prompted := fun messageID text member => by
        have some := countP_of_prompted member
        rw [unused.prompted] at some
        cases some
      single := by
        rw [unused.prompted]
        exact Nat.zero_le 1
      quiet := fun _ => unused.prompted
      fresh := fun hidden => by
        rcases hidden with ⟨entries, read, -⟩
        exact absurd read List.not_mem_nil }
  served {world id input past command next} _ knows meets := by
    refine ⟨trivial, ?_, ?_⟩
    · cases command with
      | closed => exact knows.silent _ (by simp)
      | readIdentity => exact knows.silent _ (by simp)
      | status => exact knows.silent _ (by simp)
      | history => exact knows.reads meets.1 meets.2
      | promptAsync messageID text => exact knows.prompts meets.2
    · intro other different
      cases command with
      | closed => exact ⟨fun _ known => known, fun unused => unused⟩
      | readIdentity => exact ⟨fun _ known => known, fun unused => unused⟩
      | status => exact ⟨fun _ known => known, fun unused => unused⟩
      | history =>
          exact ⟨fun _ known => known.cons (by simpa using different.symm) rfl rfl,
            fun unused => unused.cons (by simpa using different.symm) rfl rfl⟩
      | promptAsync messageID text =>
          have foreign : isPrompt other (.prompted id messageID text) = false := by
            simpa [isPrompt] using different.symm
          exact ⟨fun _ known => known.cons (by simp) foreign rfl,
            fun unused => unused.cons (by simp) foreign rfl⟩
  moved _ moves := by
    refine ⟨trivial, fun id => ?_⟩
    cases moves with
    | changed closed identity history status accepts =>
        exact ⟨fun _ known => ⟨known.read, known.prompted, known.single, known.quiet, known.fresh⟩,
          fun unused => ⟨unused.read, unused.prompted⟩⟩
    | delivers prompted =>
        exact ⟨fun _ known => known.cons (by simp) rfl rfl,
          fun unused => unused.cons (by simp) rfl rfl⟩

/-- What holds of the prompts of a run. -/
structure SubmitsFresh (host : Host) (binding : Binding) (system : OpenCodeSystem) : Prop where
  single : ∀ id, system.world.log.countP (isPrompt id) ≤ 1
  own : ∀ id messageID text, .prompted id messageID text ∈ system.world.log →
    ∃ call, system.calls id = some call ∧ call.input.recoverOnly = false ∧
      messageID = nativeMessageId host call.input.operationId ∧
      text = promptText call.input.operationId call.input.prompt
  /-- What was delivered before the call read the history is not prompted with again. -/
  fresh : ∀ id call messageID text, system.calls id = some call →
    .prompted id messageID text ∈ system.world.log →
    ∀ newer older, system.world.log = newer ++ .read id :: older →
      ∀ prompt, .delivered messageID (promptText call.input.operationId prompt) ∉ older
  outcomes : ∀ id call outcome, system.calls id = some call → call.rest = .done outcome →
    Ends host binding call.input call.past outcome

/-- In every interleaving of calls over a session that shows what was delivered to it, a call
prompts once at most, never to recover, and never for an operation whose message was delivered
before the call read the history. -/
theorem opencode_submits_fresh {system : OpenCodeSystem}
    (reached : (openCodeProtocol host binding).Reachable (ReadsDelivered binding)
      (fun world => world.log = []) system) : SubmitsFresh host binding system := by
  have follows := reached.follows follows_activate
  have holds := (reached.asking follows_activate).invariant
    (fun world empty => ⟨trivial, fun id => ⟨by simp [empty], by simp [empty]⟩⟩) preserves_knows
  have owner : ∀ id messageID text, .prompted id messageID text ∈ system.world.log →
      ∃ call, system.calls id = some call := by
    intro id messageID text member
    cases running : system.calls id with
    | some call => exact ⟨call, rfl⟩
    | none =>
        have some := countP_of_prompted member
        rw [(holds.idle id running).prompted] at some
        cases some
  refine ⟨?_, ?_, ?_, ?_⟩
  · intro id
    cases running : system.calls id with
    | some call => exact (holds.own id call running).single
    | none =>
        rw [(holds.idle id running).prompted]
        exact Nat.zero_le 1
  · intro id messageID text member
    rcases owner id messageID text member with ⟨call, running⟩
    rcases (holds.own id call running).prompted messageID text member with
      ⟨isId, isText, notRecovering, -⟩
    exact ⟨call, running, notRecovering, isId, isText⟩
  · intro id call messageID text running member newer older isLog prompt
    have knows := holds.own id call running
    rcases knows.prompted messageID text member with ⟨rfl, -, -, hidden⟩
    exact knows.fresh hidden newer older isLog prompt
  · intro id call outcome running isDone
    have ends := follows id call running
    rw [isDone] at ends
    exact ends

end Runs

/-! ## An operation that is delivered and recovered -/

def exampleHost : Host := ⟨id, id⟩

def exampleBinding : Binding := ⟨"ses_1", "ses_1", "/w"⟩

def exampleRequest : ActivationRequest := ⟨"op", "read", false⟩

/-- What the session keeps of the prompt. -/
def deliveredEntry : HistoryEntry :=
  ⟨some ⟨some "msg_op", some "user", some "ses_1"⟩,
    some [⟨some "text", some (promptText "op" "read")⟩]⟩

abbrev exampleProtocol := openCodeProtocol exampleHost exampleBinding

def newSession : OpenCodeSystem :=
  ⟨⟨false, some ⟨"ses_1", "/w", some "ses_1"⟩, some [], some .idle, false, []⟩, fun _ => none⟩

/-- The prompt is rejected. -/
def promptedSystem : OpenCodeSystem :=
  (fun before => exampleProtocol.advance before 0)^[5]
    (exampleProtocol.start newSession 0 exampleRequest)

/-- The session has the message nevertheless. -/
def deliveredSystem : OpenCodeSystem :=
  { promptedSystem with
    world := { promptedSystem.world with
      history := some [deliveredEntry]
      log := .delivered "msg_op" (promptText "op" "read") :: promptedSystem.world.log } }

def recoveredSystem : OpenCodeSystem :=
  (fun before => exampleProtocol.advance before 1)^[4]
    (exampleProtocol.start deliveredSystem 1 { exampleRequest with recoverOnly := true })

/-- The messages that were delivered. -/
def deliveries (log : List Event) : List (String × String) :=
  log.filterMap fun
    | .delivered messageID text => some (messageID, text)
    | _ => none

theorem readsDelivered_of {world : World} {id : Nat} {call : OpenCodeCall} {command : Command}
    {entries : List HistoryEntry} (isHistory : world.history = some entries)
    (shown : ∀ delivery ∈ deliveries world.log,
      ∃ entry ∈ entries, Shows exampleBinding delivery.1 delivery.2 entry) :
    ReadsDelivered exampleBinding world id call command := by
  intro _ read isRead messageID text member
  rw [isHistory, Option.some.injEq] at isRead
  subst isRead
  exact shown (messageID, text) (List.mem_filterMap.mpr ⟨_, member, rfl⟩)

theorem deliveredSystem_reachable :
    exampleProtocol.Reachable (ReadsDelivered exampleBinding) (fun world => world.log = [])
      deliveredSystem := by
  have fresh : exampleProtocol.Reachable (ReadsDelivered exampleBinding)
      (fun world => world.log = []) newSession := Protocol.Reachable.init rfl
  have started := fresh.start 0 exampleRequest rfl trivial
  have prompted : exampleProtocol.Reachable (ReadsDelivered exampleBinding)
      (fun world => world.log = []) promptedSystem := by
    apply started.advances_of 0 5
    intro earlier less call command _ _
    have nothing : ∀ earlier < 5, ((fun before => exampleProtocol.advance before 0)^[earlier]
        (exampleProtocol.start newSession 0 exampleRequest)).world.history = some [] ∧
          deliveries ((fun before => exampleProtocol.advance before 0)^[earlier]
            (exampleProtocol.start newSession 0 exampleRequest)).world.log = [] := by
      decide +kernel
    apply readsDelivered_of (nothing earlier less).1
    rw [(nothing earlier less).2]
    exact fun delivery member => absurd member List.not_mem_nil
  have delivers : Moves promptedSystem.world
      { promptedSystem.world with
        log := .delivered "msg_op" (promptText "op" "read") :: promptedSystem.world.log } := by
    apply Moves.delivers
    show .prompted 0 "msg_op" (promptText "op" "read") ∈ promptedSystem.world.log
    decide +kernel
  exact (prompted.moved delivers).moved (.changed _ _ (some [deliveredEntry]) _ _)

theorem recoveredSystem_reachable :
    exampleProtocol.Reachable (ReadsDelivered exampleBinding) (fun world => world.log = [])
      recoveredSystem := by
  have started : exampleProtocol.Reachable (ReadsDelivered exampleBinding)
      (fun world => world.log = [])
      (exampleProtocol.start deliveredSystem 1 { exampleRequest with recoverOnly := true }) :=
    deliveredSystem_reachable.start 1 _ (by decide +kernel) trivial
  apply started.advances_of 1 4
  intro earlier less call command _ _
  have one : ∀ earlier < 4, ((fun before => exampleProtocol.advance before 1)^[earlier]
      (exampleProtocol.start deliveredSystem 1
        { exampleRequest with recoverOnly := true })).world.history = some [deliveredEntry] ∧
        deliveries ((fun before => exampleProtocol.advance before 1)^[earlier]
          (exampleProtocol.start deliveredSystem 1
            { exampleRequest with recoverOnly := true })).world.log =
              [("msg_op", promptText "op" "read")] := by
    decide +kernel
  apply readsDelivered_of (one earlier less).1
  intro delivery member
  rw [(one earlier less).2, List.mem_singleton] at member
  subst member
  exact ⟨deliveredEntry, List.mem_cons_self, rfl, _, rfl, List.mem_cons_self⟩

/-- The recovery finds the message and does not prompt again. -/
theorem recoveredSystem_submits :
    recoveredSystem.world.log =
      [.read 1, .delivered "msg_op" (promptText "op" "read"),
        .prompted 0 "msg_op" (promptText "op" "read"), .read 0] ∧
      SubmitsFresh exampleHost exampleBinding recoveredSystem :=
  ⟨by decide +kernel, opencode_submits_fresh recoveredSystem_reachable⟩

end GptQueue.OpenCodeRuntime
