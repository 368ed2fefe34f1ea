import GptQueue.Launch.Policy

/-! # Registering and waking durable actors

The stored record of a durable actor, its registration, and the wake that spawns its
runtime. Whatever is stored and whatever happens to the allowlist, a wake spawns only
what the policy allows at that moment.
-/

namespace GptQueue.Launch

open Wake (RuntimeLaunchContract ActivationPolicyMode)

open Texts (trim)

/-! ## Stored records -/

/-- What is read of a record that passes read admission. -/
structure StoredRecord where
  mode : ActivationPolicyMode
  launch : Option RuntimeLaunchContract
  registeredBy : String
deriving DecidableEq

inductive ProfileErrorCode
  | invalidIdentity
  | invalidIdentityCharset
  | invalidPolicy
  | invalidConcurrency
deriving DecidableEq

def ProfileErrorCode.text : ProfileErrorCode → String
  | .invalidIdentity => "invalid_identity"
  | .invalidIdentityCharset => "invalid_identity_charset"
  | .invalidPolicy => "invalid_policy"
  | .invalidConcurrency => "invalid_concurrency"

inductive ProfileAdmission
  | admitted (mode : ActivationPolicyMode)
  | refused (code : ProfileErrorCode) (message : String)
deriving DecidableEq

section Admission

variable (host : Host)

/-- `value.length === 0`; `none` when it raises. -/
def lengthIsZero : Option Json → Option Bool
  | none => none
  | some .null => none
  | some (.string text) => some (text = "")
  | some (.array items) => some items.isEmpty
  | some (.object fields) =>
      match (Json.object fields).field "length" with
      | some (.number token) => some (host.numbers.isZero token)
      | _ => some false
  | some _ => some false

def isIdentityChar (char : Char) : Bool :=
  char.isAlphanum || char = '.' || char = '_' || char = '-'

/-- `IDENTITY_CHARSET`. -/
def hasIdentityCharset (text : String) : Bool :=
  text ≠ "" && text.length ≤ 64 && text.toList.all isIdentityChar

def activationPolicyMode : Option Json → Option ActivationPolicyMode
  | some (.string "wake_if_offline") => some .wakeIfOffline
  | some (.string "store_only") => some .storeOnly
  | _ => none

/-- `admitActorProfile`; `none` when it raises. -/
def admitActorProfile (candidate : Json) : Option ProfileAdmission := do
  let isNameless ← lengthIsZero host (candidate.field "actor_id")
  if isNameless then
    some (.refused .invalidIdentity "actor_id must be a non-empty stable identity")
  else
    let isUnaddressed ← lengthIsZero host (candidate.field "alias")
    if isUnaddressed then some (.refused .invalidIdentity "alias must be a non-empty address")
    else
      let actorId ← (candidate.field "actor_id").bind (JsValue.toText host.numbers)
      if hasIdentityCharset actorId = false then
        some (.refused .invalidIdentityCharset
          ("actor_id must match /^[A-Za-z0-9._-]\x7b1,64\x7d$/ " ++
          "(letters, digits, '.', '_', '-'; 1..64 chars)"))
      else
        let name ← (candidate.field "alias").bind (JsValue.toText host.numbers)
        if hasIdentityCharset name = false then
          some (.refused .invalidIdentityCharset
            ("alias must match /^[A-Za-z0-9._-]\x7b1,64\x7d$/ " ++
            "(letters, digits, '.', '_', '-'; 1..64 chars)"))
        else
          match activationPolicyMode
            ((candidate.field "activation_policy").bind fun policy => policy.field "mode") with
          | none =>
              some (.refused .invalidPolicy
                "activation_policy.mode must be wake_if_offline or store_only")
          | some mode =>
              match candidate.field "max_concurrency" with
              | some (.number token) =>
                  if host.isCount token then
                    -- The copy of the capabilities raises for what is not iterable.
                    match candidate.field "capabilities" with
                    | some (.array _) => some (.admitted mode)
                    | some (.string _) => some (.admitted mode)
                    | _ => none
                  else
                    some (.refused .invalidConcurrency
                      "max_concurrency must be an integer of at least 1")
              | _ =>
                  some (.refused .invalidConcurrency
                    "max_concurrency must be an integer of at least 1")

/-- `isStoredLaunch`, with the launch it admits. -/
def storedLaunch : Option Json → Option (Option RuntimeLaunchContract)
  | some .null => some none
  | some (.object fields) => do
      let command ← Json.asString ((Json.object fields).field "command")
      let args ← ((Json.object fields).field "args").bind stringArray
      match (Json.object fields).field "cwd" with
      | none => some (some ⟨command, args, none⟩)
      | some (.string cwd) => some (some ⟨command, args, some cwd⟩)
      | _ => none
  | _ => none

/-- `storedActorFailure`, with the record when nothing fails. -/
def storedActor (parsed : Json) : Except String StoredRecord :=
  if isObject parsed then
    match parsed.field "profile" with
    | none => .error "profile"
    | some profile =>
        if isObject profile then
          match Json.asString (parsed.field "registered_by") with
          | none => .error "registered_by"
          | some registeredBy =>
              match storedLaunch (parsed.field "launch") with
              | none => .error "launch"
              | some launch =>
                  match admitActorProfile host profile with
                  | none => .error "profile"
                  | some (.refused code _) => .error ("profile (" ++ code.text ++ ")")
                  | some (.admitted mode) => .ok ⟨mode, launch, registeredBy⟩
        else .error "profile"
  else .error "(root)"

/-- A record, or the diagnostic of a corrupt one. -/
def parseStored (raw actorId : String) : Except String StoredRecord :=
  match Json.parse raw with
  | none => .error (actorId ++ ": " ++ host.describeStored raw "JSON")
  | some parsed =>
      match storedActor host parsed with
      | .ok record => .ok record
      | .error failing => .error (actorId ++ ": " ++ host.describeStored raw failing)

end Admission

/-! ## Registrations -/

/-- A call of `actor_register` of a session. -/
structure Registration where
  agent : String
  sessionId : String
  name : String
  mode : ActivationPolicyMode
  maxConcurrency : Numeral
  launchCommand : Option String
  launchArgs : Option (List String)
  launchCwd : Option String
  capabilities : Option (List String)
  registeredAt : String

inductive RegisterResult
  | ok
  | refused (code message : String)
deriving DecidableEq

section Register

variable (host : Host)

def modeText : ActivationPolicyMode → String
  | .wakeIfOffline => "wake_if_offline"
  | .storeOnly => "store_only"

def buildProfileInput (registration : Registration) : Json :=
  let launchCommand := (registration.launchCommand.map trim).getD ""
  .object [("actor_id", .string registration.agent),
    ("alias", .string registration.name),
    ("capabilities", .array ((registration.capabilities.getD []).map .string)),
    ("workspace_root", .string host.cwd),
    ("working_directory", .string host.cwd),
    ("runtime", .string (if launchCommand ≠ "" then launchCommand else "manual")),
    ("activation_policy", .object [("mode", .string (modeText registration.mode))]),
    ("max_concurrency", .number registration.maxConcurrency)]

def buildLaunch (registration : Registration) : Option RuntimeLaunchContract :=
  match registration.launchCommand.map trim with
  | none => none
  | some command =>
      if command = "" then none
      else some ⟨command, registration.launchArgs.getD [], registration.launchCwd⟩

def launchJson : Option RuntimeLaunchContract → Json
  | none => .null
  | some launch =>
      .object ([("command", .string launch.command), ("args", .array (launch.args.map .string))] ++
        (launch.cwd.map fun cwd => ("cwd", Json.string cwd)).toList)

/-- `JSON.stringify` of the record of a registration. -/
def recordText (registration : Registration) : String :=
  (Json.object [("profile", buildProfileInput host registration),
    ("launch", launchJson (buildLaunch registration)),
    ("registered_by", .string registration.sessionId),
    ("registered_at", .string registration.registeredAt)]).render

def policyCode : LaunchPolicyErrorCode → String
  | .launchCommandRejected => "launch_command_rejected"
  | .launchNotAllowlisted => "launch_not_allowlisted"
  | .launchCwdConfined => "launch_cwd_confined"

def corrupt (diagnostic : String) : RegisterResult :=
  .refused "store_corrupt" ("stored actor directory record is corrupt (" ++ diagnostic ++
    "); refusing to operate on it")

def ownedElsewhere (actorId : String) : RegisterResult :=
  .refused "actor_owned_elsewhere" ("actor '" ++ actorId ++ "' is owned by another session")

/-- `readRecord`. -/
def readRecord (actorId : String) :
    Program Command Reply (Except String (Option StoredRecord)) := do
  match ← ask (.hget actorId) with
  | none => pure (.ok none)
  | some raw =>
      match parseStored host raw actorId with
      | .error diagnostic => pure (.error diagnostic)
      | .ok record => pure (.ok (some record))

/-- The bounded retry of `register`. -/
def registerAttempts (registration : Registration) : Nat → Program Command Reply RegisterResult
  | 0 => do
      match ← readRecord host registration.agent with
      | .error diagnostic => pure (corrupt diagnostic)
      | .ok current =>
          if current.any (·.registeredBy ≠ registration.sessionId) then
            pure (ownedElsewhere registration.agent)
          else
            pure (.refused "actor_owned_elsewhere" ("actor '" ++ registration.agent ++
              "' was registered concurrently by another session; re-read the current state and retry"))
  | attempts + 1 => do
      match ← readRecord host registration.agent with
      | .error diagnostic => pure (corrupt diagnostic)
      | .ok existing =>
          if existing.any (·.registeredBy ≠ registration.sessionId) then
            pure (ownedElsewhere registration.agent)
          else if ← ask (.conditionalSet registration.agent (recordText host registration)
              registration.sessionId) then pure .ok
          else registerAttempts registration attempts

/-- `actorRegister` after the session is bound; `none` when it raises. -/
def register (registration : Registration) : Program Command Reply (Option RegisterResult) := do
  match admitActorProfile host (buildProfileInput host registration) with
  | none => pure none
  | some (.refused code message) => pure (some (.refused code.text message))
  | some (.admitted mode) =>
      match mode, buildLaunch registration with
      | .wakeIfOffline, none =>
          pure (some (.refused "invalid_launch_contract"
            "a wake_if_offline actor requires a launch contract with a non-empty command and string[] args"))
      | .wakeIfOffline, some launch =>
          match ← evaluateLaunchPolicy host launch with
          | .error code message => pure (some (.refused (policyCode code) message))
          | .ok => some <$> registerAttempts host registration 2
      | .storeOnly, _ => some <$> registerAttempts host registration 2

end Register

/-! ## Wakes -/

inductive WakeResult
  | noWake
  | wakeError (message : String)
  | launchFailed (message : String)
  | wakeDispatched (pid : Option Nat)
deriving DecidableEq

section Wake

variable (host : Host)

/-- `dispatchLaunch`. -/
def dispatchLaunch (contract : RuntimeLaunchContract) : Program Command Reply WakeResult := do
  match ← evaluateLaunchPolicy host contract with
  | .error _ message => pure (.launchFailed message)
  | .ok =>
      match ← ask (.spawn contract) with
      | .spawned pid => pure (.wakeDispatched pid)
      | .failed message => pure (.launchFailed message)

/-- The wake gate of `send_message`, from the record it reads to the spawn. -/
def wake (actorId : String) : Program Command Reply WakeResult := do
  match ← readRecord host actorId with
  | .error diagnostic =>
      pure (.wakeError ("stored actor directory record is corrupt (" ++ diagnostic ++
        "); refusing to operate on it"))
  | .ok none => pure .noWake
  | .ok (some record) =>
      match record.mode with
      | .storeOnly => pure .noWake
      | .wakeIfOffline =>
          if ← ask (.gate actorId) then
            match record.launch with
            | none => pure (.wakeError "launch contract missing for wake_if_offline actor")
            | some launch => dispatchLaunch host launch
          else pure .noWake

end Wake

/-! ## Runs -/

inductive Input
  | register (registration : Registration)
  | wake (actorId : String)

inductive Result
  | registered (result : Option RegisterResult)
  | woken (result : WakeResult)

def program (host : Host) : Input → Program Command Reply Result
  | .register registration => .registered <$> register host registration
  | .wake actorId => .woken <$> wake host actorId

inductive Event
  | stored (call : Nat) (actorId value : String)
  | spawned (call : Nat) (contract : RuntimeLaunchContract)

structure World where
  profiles : String → Option String
  /-- What `lstat` and then the read of the allowlist file give. -/
  lstat : Except FileError FileInfo
  text : Except FileError String
  legacy : Bool
  isDirectory : String → Bool
  gate : String → Bool
  outcome : SpawnOutcome
  /-- Latest first. -/
  log : List Event

/-- Whether the script finds the field absent or owned by the session. -/
def mayWrite (host : Host) (stored : Option String) (expectedOwner : String) : Bool :=
  match stored with
  | none => true
  | some current => host.scriptOwner current = some expectedOwner

def serve (host : Host) (id : Nat) : (command : Command) → World → Reply command × World
  | .hget actorId, world => (world.profiles actorId, world)
  | .conditionalSet actorId newValue expectedOwner, world =>
      if mayWrite host (world.profiles actorId) expectedOwner then
        (true,
          { world with
            profiles := Function.update world.profiles actorId (some newValue)
            log := .stored id actorId newValue :: world.log })
      else (false, world)
  | .gate actorId, world => (world.gate actorId, world)
  | .stat path, world => (world.isDirectory path, world)
  | .lstat, world => (world.lstat, world)
  | .lstatLegacy, world => (world.legacy, world)
  | .readFile, world => (world.text, world)
  | .spawn contract, world =>
      (world.outcome, { world with log := .spawned id contract :: world.log })

/-- Everything outside the calls is anything at any time, the stored records included. -/
inductive Moves : World → World → Prop
  | changed {world after : World} (sameLog : after.log = world.log) : Moves world after

def launchProtocol (host : Host) : Protocol World Input Command Reply Result where
  program := program host
  serve := serve host
  opens _ _ := True
  moves := Moves

abbrev LaunchSystem := System World Input Command Reply Result

abbrev Past := List (Exchange Command Reply)

end GptQueue.Launch
