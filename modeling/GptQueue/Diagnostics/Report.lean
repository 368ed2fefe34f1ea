import GptQueue.Foundation.Texts
import GptQueue.Mailbox.InboxEvents
import GptQueue.Sessions.Registration

/-! # What is reported about an agent

`AgentDiagnostics.details` and the filter of `find` for one name, as functions of the
keyspace. Timestamps and the process id of a report are left out.
-/

namespace GptQueue.Diagnostics

open Redis
open GptQueue.Registration
open Texts (isAbsolute)

/-- Functions of JavaScript and Node that the reports use. Nothing below depends
on what they compute. -/
structure Host where
  numbers : JsValue.Numbers
  /-- The value of a number that `Number.isSafeInteger` accepts. -/
  safeInteger : Numeral → Option Int
  /-- `String(value)`. -/
  toText : Json → String
  toLowerCase : String → String
  trim : String → String
  /-- `path.resolve`. -/
  resolve : String → String

/-! ## Reading stored documents -/

/-- A missing or unreadable document is `null`. -/
def json (raw : Option String) : Json := (raw.bind Json.parse).getD .null

/-- Anything but an object counts as an object without fields. -/
def record : Json → List (String × Json)
  | .object fields => fields
  | _ => []

def textField (fields : List (String × Json)) (name : String) : Option String :=
  Json.asString ((Json.object fields).field name)

inductive AgentKind
  | controller
  | worker
  | interactive
  | unknown
deriving DecidableEq, Repr

def AgentKind.name : AgentKind → String
  | .controller => "controller"
  | .worker => "worker"
  | .interactive => "interactive"
  | .unknown => "unknown"

def kind (fields : List (String × Json)) : AgentKind :=
  match textField fields "kind" with
  | some "controller" => .controller
  | some "worker" => .worker
  | some "interactive" => .interactive
  | _ => .unknown

structure Profile where
  label : Option String
  purpose : Option String
  kind : AgentKind
  declarationSource : String
  authoritative : Bool
deriving DecidableEq, Repr

def safeProfile (raw : Option String) : Option Profile :=
  match record (json raw) with
  | [] => none
  | fields => some {
      label := textField fields "label"
      purpose := textField fields "purpose"
      kind := kind fields
      declarationSource := "self"
      authoritative := false }

/-- `z.string().min(1).max(200)`. -/
def isIdentifier (text : String) : Bool :=
  1 ≤ CodeUnits.length text && CodeUnits.length text ≤ 200

structure Binding where
  client : HostClient
  runtimeId : String
  epoch : String
  workingDirectory : String
deriving DecidableEq, Repr

/-- `safeBinding` of the stored text; fields outside the schema are dropped before
it is applied. -/
def safeBinding (raw : Option String) : Option Binding := do
  let fields := record (json raw)
  let client ← (textField fields "client").bind HostClient.ofName
  let runtimeId ← (textField fields "runtime_id").filter isIdentifier
  let epoch ← (textField fields "epoch").filter isIdentifier
  let workingDirectory ← (textField fields "working_directory").filter isAbsolute
  some { client, runtimeId, epoch, workingDirectory }

structure Activation where
  state : Option String
  attempt : Option Int
deriving DecidableEq, Repr

def activationOf (host : Host) (raw : Option String) : Activation where
  state := textField (record (json raw)) "state"
  attempt :=
    match (Json.object (record (json raw))).field "attempt" with
    | some (.number token) => host.safeInteger token
    | _ => none

/-! ## Discovery -/

/-- `AgentDiscoveryRecord` without `registered_at` and `pid`. -/
structure Discovery where
  name : String
  role : String
  description : Option String
  online : Bool
  label : String
  uuid : Option String
  client : Option HostClient
  workingDirectory : Option String
deriving DecidableEq, Repr

def nonblank (host : Host) (text : Option String) : Option String :=
  (text.map host.trim).filter (· ≠ "")

def isHex (char : Char) : Bool := char.isDigit || ('a' ≤ char.toLower && char.toLower ≤ 'f')

/-- The character classes of the pattern of a UUID, which ignores case. -/
def uuidPattern : List (Char → Bool) :=
  List.replicate 8 isHex ++ [(· == '-')] ++ List.replicate 4 isHex ++ [(· == '-')] ++
    [fun char => '1' ≤ char && char ≤ '5'] ++ List.replicate 3 isHex ++ [(· == '-')] ++
    [fun char => ['8', '9', 'a', 'b'].contains char.toLower] ++ List.replicate 3 isHex ++
    [(· == '-')] ++ List.replicate 12 isHex

def isUuid (text : String) : Bool :=
  text.toList.length == uuidPattern.length &&
    (uuidPattern.zip text.toList).all fun (accepts, char) => accepts char

def discoveryRecord (host : Host) (name : String) (reg : List (String × Json)) (online : Bool) :
    Discovery :=
  let metadata := record (((Json.object reg).field "metadata").getD .null)
  { name
    role := (textField reg "role").getD "unknown"
    description := textField reg "description"
    online
    label := (nonblank host (textField metadata "label")).getD name
    uuid := (textField metadata "uuid").filter isUuid
    client := (textField metadata "client").bind HostClient.ofName
    workingDirectory := (textField metadata "working_directory").filter isAbsolute }

/-! ## Readiness -/

inductive Readiness
  | unknownLegacy
  | offline
  | unbound
  | boundUnverified
  | ready
deriving DecidableEq, Repr

def Readiness.name : Readiness → String
  | .unknownLegacy => "unknown_legacy"
  | .offline => "offline"
  | .unbound => "unbound"
  | .boundUnverified => "bound_unverified"
  | .ready => "ready"

def toolNames (metadata : List (String × Json)) : List String :=
  match (Json.object metadata).field "tool_names" with
  | some (.array items) => items.filterMap fun item => Json.asString (some item)
  | _ => []

def protocolVersion (host : Host) (metadata : List (String × Json)) : Option String :=
  match (Json.object metadata).field "protocol_version" with
  | some (.string text) => some text
  | some (.number token) => some (host.toText (.number token))
  | _ => none

def published (host : Host) (metadata : List (String × Json)) : Bool :=
  (protocolVersion host metadata).isSome && (toolNames metadata).contains "get_runtime_status" &&
    (toolNames metadata).contains "bind_runtime"

def deriveReadiness (online : Bool) (binding : Option Binding) (published : Bool) : Readiness :=
  if online = false then .offline
  else if binding.isSome then .boundUnverified
  else if published = false then .unknownLegacy
  else .unbound

/-- `activation_ready`; `none` stands for `null`. -/
def Readiness.activationReady (readiness : Readiness) : Option Bool :=
  if readiness = .boundUnverified then none else some false

/-! ## Details -/

/-- `DiagnosticsDetails` without `evidence_at`. -/
structure Details where
  name : String
  discovery : Option Discovery
  profile : Option Profile
  protocolVersion : Option String
  toolNames : List String
  published : Bool
  online : Bool
  runtimeBinding : Option Binding
  activation : Activation
  readiness : Readiness
  activationReady : Option Bool
  queued : Nat
  claimed : Nat
  deadLettered : Nat
  nextAction : String
deriving DecidableEq, Repr

/-- The report about a name without a readable registration. -/
def Details.unknown (name : String) : Details where
  name
  discovery := none
  profile := none
  protocolVersion := none
  toolNames := []
  published := false
  online := false
  runtimeBinding := none
  activation := ⟨none, none⟩
  readiness := .offline
  activationReady := some false
  queued := 0
  claimed := 0
  deadLettered := 0
  nextAction := "unknown_agent"

/-! ## Reads -/

section Reads

variable (keyspace : Keyspace Key)

/-- The reply to a read of a key, or `none`: a key of another kind is refused. -/
def replied {Reply : Type} (key : Key) (reply : Reply) : Option Reply :=
  if keyspace.admits key key.kind then some reply else none

def get (key : Key) : Option (Option String) := replied keyspace key (keyspace.text key)

def Admitted (keys : List Key) : Prop := ∀ key ∈ keys, keyspace.admits key key.kind = true

end Reads

section Replies

variable {Reply : Type} {keyspace : Keyspace Key} {key : Key}

theorem replied_typed (reply : Reply) (typed : keyspace.admits key key.kind = true) :
    replied keyspace key reply = some reply :=
  if_pos typed

theorem get_typed (typed : keyspace.admits key key.kind = true) :
    get keyspace key = some (keyspace.text key) :=
  if_pos typed

theorem typed_of_replied {reply given : Reply}
    (answered : replied keyspace key reply = some given) :
    keyspace.admits key key.kind = true ∧ given = reply := by
  unfold replied at answered
  split at answered
  · next typed => exact ⟨typed, (Option.some.inj answered).symm⟩
  · cases answered

theorem admitted_of_wellTyped (typed : WellTyped keyspace) (keys : List Key) :
    Admitted keyspace keys :=
  fun key _ => typed key

end Replies

section Reports

variable (host : Host) (live : String → Bool) (keyspace : Keyspace Key)

def present (agent : String) : Bool :=
  (keyspace.members (.agentSessions agent)).any live || (keyspace.value (.heartbeat agent)).isSome

def isOnline (agent : String) : Option Bool :=
  replied keyspace (.agentSessions agent) (present live keyspace agent)

def registryRecord (agent : String) : List (String × Json) :=
  record (json ((keyspace.fields .registry).lookup agent))

def metadataOf (reg : List (String × Json)) : List (String × Json) :=
  record (((Json.object reg).field "metadata").getD .null)

def describe (agent : String) (reg : List (String × Json)) (online : Bool)
    (binding : Option Binding) (activation : Activation) (profile : Option Profile)
    (queued claimed deadLettered : Nat) : Details :=
  let metadata := metadataOf reg
  let readiness := deriveReadiness online binding (published host metadata)
  { name := agent
    discovery := some (discoveryRecord host agent reg online)
    profile
    protocolVersion := protocolVersion host metadata
    toolNames := (toolNames metadata).take 100
    published := published host metadata
    online
    runtimeBinding := binding
    activation
    readiness
    activationReady := readiness.activationReady
    queued
    claimed
    deadLettered
    nextAction :=
      if readiness = .boundUnverified then "probe_exact_runtime_before_relying_on_activation"
      else readiness.name }

def details (agent : String) : Option Details := do
  let reg ← replied keyspace .registry (registryRecord keyspace agent)
  if reg = [] then some (Details.unknown agent)
  else
    let online ← isOnline live keyspace agent
    let binding ← get keyspace (.runtimeBinding agent)
    let activation ← get keyspace (.activation agent)
    let profile ← get keyspace (.agentProfile agent)
    let queued ← replied keyspace (.queue agent) (keyspace.items (.queue agent)).length
    let claimed ←
      replied keyspace (.claimsIndex agent) (keyspace.scores (.claimsIndex agent)).entries.length
    let deadLettered ← replied keyspace (.dlq agent) (keyspace.items (.dlq agent)).length
    some (describe host agent reg online (safeBinding binding) (activationOf host activation)
      (safeProfile profile) queued claimed deadLettered)

def reportedKeys (name : String) : List Key :=
  [.agentSessions name, .runtimeBinding name, .activation name, .agentProfile name, .queue name,
    .claimsIndex name, .dlq name]

theorem details_admitted {host : Host} {live : String → Bool} {keyspace : Keyspace Key}
    {agent : String} (registry : keyspace.admits .registry .hash = true)
    (admitted : Admitted keyspace (reportedKeys agent))
    (registered : registryRecord keyspace agent ≠ []) :
    details host live keyspace agent =
      some (describe host agent (registryRecord keyspace agent) (present live keyspace agent)
        (safeBinding (keyspace.text (.runtimeBinding agent)))
        (activationOf host (keyspace.text (.activation agent)))
        (safeProfile (keyspace.text (.agentProfile agent)))
        (keyspace.items (.queue agent)).length
        (keyspace.scores (.claimsIndex agent)).entries.length
        (keyspace.items (.dlq agent)).length) := by
  have read : replied keyspace .registry (registryRecord keyspace agent) =
      some (registryRecord keyspace agent) := replied_typed _ registry
  simp only [Admitted, reportedKeys, List.mem_cons, List.not_mem_nil, or_false,
    forall_eq_or_imp, forall_eq] at admitted
  rcases admitted with ⟨sessions, binding, activation, profile, queue, index, dlq⟩
  simp only [details, isOnline, read, replied_typed _ sessions, get_typed binding,
    get_typed activation, get_typed profile, replied_typed _ queue, replied_typed _ index,
    replied_typed _ dlq, Option.bind_eq_bind, Option.bind_some, if_neg registered]

theorem admitted_of_details {host : Host} {live : String → Bool} {keyspace : Keyspace Key}
    {agent : String} {report : Details} (registered : registryRecord keyspace agent ≠ [])
    (reported : details host live keyspace agent = some report) :
    Admitted keyspace (reportedKeys agent) := by
  simp only [details, Option.bind_eq_bind, Option.bind_eq_some_iff] at reported
  rcases reported with ⟨reg, read, reported⟩
  rw [(typed_of_replied read).2, if_neg registered] at reported
  simp only [Option.bind_eq_some_iff] at reported
  rcases reported with ⟨online, sessions, first, binding, second, activation, third, profile,
    queued, queue, claimed, index, dead, dlq, -⟩
  simp only [Admitted, reportedKeys, List.mem_cons, List.not_mem_nil, or_false,
    forall_eq_or_imp, forall_eq]
  exact ⟨(typed_of_replied sessions).1, (typed_of_replied binding).1,
    (typed_of_replied activation).1, (typed_of_replied profile).1, (typed_of_replied queue).1,
    (typed_of_replied index).1, (typed_of_replied dlq).1⟩

/-! ## Search -/

/-- The filters of `find`; the page limit is not about a single name. -/
structure Filters where
  query : Option String
  client : Option HostClient
  cwd : Option String
  workingDirectory : Option String
  kind : Option AgentKind
  activationReady : Option Bool
  online : Option Bool

def sameDirectory (left : Option String) (right : String) : Bool :=
  left.any fun left => host.resolve left == host.resolve right

def passes (filters : Filters) (name : String) (reg profileRaw : List (String × Json))
    (binding : Option Binding) (online : Bool) : Bool :=
  let discovery := discoveryRecord host name reg false
  let activationReady :=
    (deriveReadiness online binding (published host (metadataOf reg))).activationReady
  let text := host.toLowerCase (" ".intercalate ([name, discovery.label] ++
    (textField profileRaw "label").toList ++ (textField profileRaw "purpose").toList))
  let bindingClient := (binding.map Binding.client).or discovery.client
  let bindingDirectory := (binding.map Binding.workingDirectory).or discovery.workingDirectory
  ((filters.query.map host.toLowerCase).all fun query =>
      query == "" || decide (CodeUnits.codeUnits query <:+: CodeUnits.codeUnits text)) &&
    (filters.client.all fun client => bindingClient == some client) &&
    ((filters.workingDirectory.or filters.cwd).all fun directory =>
      sameDirectory host bindingDirectory directory) &&
    (filters.kind.all fun wanted => kind profileRaw == wanted) &&
    (filters.activationReady.all fun wanted => activationReady == some wanted) &&
    (filters.online.all fun wanted => online == wanted)

/-- A read that is made only when it is needed. -/
def readIf {Reply : Type} (needed : Bool) (read : Option Reply) (otherwise : Reply) :
    Option Reply :=
  if needed then read else some otherwise

/-- Whether `find` counts a registered name as a match; `none` when a read is refused. -/
def finds (filters : Filters) (name : String) : Option Bool := do
  let directory := filters.workingDirectory.or filters.cwd
  let needProfile := filters.query.isSome || filters.kind.isSome
  let needBinding := filters.client.isSome || directory.isSome || filters.activationReady.isSome
  let needOnline := filters.online.isSome || filters.activationReady.isSome
  let reg ← replied keyspace .registry (registryRecord keyspace name)
  let profileRaw ←
    readIf needProfile ((get keyspace (.agentProfile name)).map fun raw => record (json raw)) []
  let binding ←
    readIf needBinding ((get keyspace (.runtimeBinding name)).map safeBinding) none
  let online ← readIf needOnline (isOnline live keyspace name) false
  some (passes host filters name reg profileRaw binding online)

/-! ## The inbox and the claims -/

def outstandingClaims (agent : String) : List (String × Option String) :=
  (sortedMembers (keyspace.scores (.claimsIndex agent))).map fun id =>
    (id, (keyspace.fields .claims).lookup id)

structure Report where
  details : Option Details
  /-- Whether a search shows the name. -/
  found : Option Bool
  pending : Option (List Json)
  claims : List (String × Option String)
  deadLetters : List String
  events : List (List (String × String))
  trace : List (List (String × String))

def leased (sessionId : String) : Bool := (keyspace.value (.lease sessionId)).isSome

def report (filters : Filters) (agent : String) : Report where
  details := details host (leased keyspace) keyspace agent
  found :=
    if agent ∈ keyspace.fields .registry then finds host (leased keyspace) keyspace filters agent
    else replied keyspace .registry false
  pending := Mailbox.pending host.numbers keyspace agent
  claims := outstandingClaims keyspace agent
  deadLetters := keyspace.items (.dlq agent)
  events := Value.entries (keyspace.value (.inboxEvents agent))
  trace := Value.entries (keyspace.value (.inboxTrace agent))

end Reports

/-- Any reading of numbers and paths will do for the examples. -/
def plainHost : Host where
  numbers := ⟨fun _ => false, fun left right => left == right, fun _ => ""⟩
  safeInteger _ := none
  toText _ := ""
  toLowerCase := id
  trim := id
  resolve := id

end GptQueue.Diagnostics
