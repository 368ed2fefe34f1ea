import GptQueue.Foundation.Interleaving
import GptQueue.Foundation.JsValue
import GptQueue.Foundation.Texts
import GptQueue.Wake.Lease

/-! # The launch policy

The operator's allowlist, and what a launch contract must satisfy to be registered and
to be spawned. Paths are those of a POSIX host.
-/

namespace GptQueue.Launch

open Wake (RuntimeLaunchContract)

open Texts (isAbsolute resolve basename trim startsWith)

/-- What the policy reads of the process, and functions of the host. -/
structure Host where
  numbers : JsValue.Numbers
  /-- `Number.isInteger`, and at least 1. -/
  isCount : Numeral → Bool
  /-- `toLowerCase`. -/
  lower : String → String
  /-- `process.cwd()`. -/
  cwd : String
  /-- `allowlistFilePath()`. -/
  allowlistPath : String
  /-- Whether `GPTQUEUE_LAUNCH_ALLOWLIST` is set and not blank. -/
  overridden : Bool
  /-- The message of the exception of `JSON.parse`. -/
  parseError : String → String
  /-- `JSON.stringify` of a parsed value. -/
  stringify : Option Json → String
  /-- `describeStored`. -/
  describeStored : String → String → String
  /-- The `registered_by` that the decoder of the script finds in a text. -/
  scriptOwner : String → Option String

/-! ## The allowlist -/

structure LaunchAllowlistEntry where
  command : String
  allowedArgs : List (List String)
deriving DecidableEq

inductive AllowlistLoad
  | loaded (commands : List LaunchAllowlistEntry)
  | absent
  | unparseable (reason : String)
deriving DecidableEq

section Document

variable (host : Host)

def two : Numeral := ⟨['2'], by decide, by decide⟩

/-- `===` with a number. -/
def isNumber (value : Option Json) (literal : Numeral) : Bool :=
  match value with
  | some (.number token) => host.numbers.same token literal
  | _ => false

/-- A value that is an object and not null. -/
def isObject : Json → Bool
  | .array _ => true
  | .object _ => true
  | _ => false

/-- An array of strings. -/
def stringArray : Json → Option (List String)
  | .array items => items.mapM fun item => Json.asString (some item)
  | _ => none

def parseTemplates (source command : String) : List Json → Except String (List (List String))
  | [] => .ok []
  | item :: items =>
      match stringArray item with
      | none =>
          .error (source ++
            ": each allowed_args template must be an array of strings for command '" ++ command ++ "'")
      | some template => do
          let templates ← parseTemplates source command items
          .ok (template :: templates)

def parseEntry (source : String) (entry : Json) : Except String LaunchAllowlistEntry :=
  if isObject entry then
    match entry.field "command" with
    | some (.string command) =>
        if trim command = "" then
          .error (source ++ ": allowlisted 'command' must be a non-empty string")
        else
          match entry.field "allowed_args" with
          | some (.array items) => do
              let templates ← parseTemplates source command items
              .ok ⟨trim command, templates⟩
          | _ =>
              .error (source ++ ": 'allowed_args' must be an array for command '" ++ command ++ "'")
    | _ => .error (source ++ ": allowlisted 'command' must be a non-empty string")
  else .error (source ++ ": each command entry must be an object")

def parseEntries (source : String) : List Json → Except String (List LaunchAllowlistEntry)
  | [] => .ok []
  | item :: items => do
      let entry ← parseEntry source item
      let entries ← parseEntries source items
      .ok (entry :: entries)

def versionHint (version : Option Json) : String :=
  if isNumber host version Numeral.one then
    "version-1 prefix-based documents are no longer accepted (basename matching and " ++
      "unbounded args suffixes permitted arbitrary interpreter execution); migrate each " ++
        "'allowed_args_prefixes' entry to an exact 'allowed_args' template — a full argv, or " ++
          "[] for no args"
  else "expected 2"

def parseLaunchAllowlist (raw source : String) : AllowlistLoad :=
  match Json.parse raw with
  | none => .unparseable ("cannot parse " ++ source ++ ": " ++ host.parseError raw)
  | some document =>
      if isObject document then
        if isNumber host (document.field "version") two then
          match document.field "commands" with
          | some (.array items) =>
              match parseEntries source items with
              | .ok commands => .loaded commands
              | .error reason => .unparseable reason
          | _ => .unparseable (source ++ ": 'commands' must be an array")
        else
          .unparseable (source ++ ": unsupported allowlist version " ++
            host.stringify (document.field "version") ++ " (" ++
              versionHint host (document.field "version") ++ ")")
      else .unparseable (source ++ ": allowlist must be a JSON object")

def commandMatches (requestedCommand allowlistedCommand : String) : Bool :=
  if isAbsolute requestedCommand ≠ isAbsolute allowlistedCommand then false
  else if isAbsolute requestedCommand then
    resolve host.cwd requestedCommand = resolve host.cwd allowlistedCommand
  else requestedCommand = allowlistedCommand

def launchMatchesConfig (command : String) (args : List String)
    (commands : List LaunchAllowlistEntry) : Bool :=
  commands.any fun entry =>
    commandMatches host command entry.command &&
      entry.allowedArgs.any fun template => args = template

end Document

/-! ## Rejections -/

section Rejections

def dangerousShellBasenames : List String :=
  ["sh", "bash", "zsh", "dash", "fish", "ksh", "cmd", "powershell", "pwsh"]

def dangerousInterpreterBasenames : List String :=
  ["node", "nodejs", "deno", "bun", "tsx", "ts-node", "python", "python2", "python3",
    "ruby", "perl",
    "php"]

def dangerousAwkBasenames : List String := ["awk", "gawk", "mawk"]

def dangerousInterpreterArgs : List String :=
  ["-e", "--eval", "-c", "--command", "-p", "--print", "-E", "-r"]

def isInlineCodeArg (arg : String) : Bool :=
  arg ∈ dangerousInterpreterArgs ||
    ["--eval=", "--print=", "--command="].any (startsWith arg) ||
    match arg.toList with
    | '-' :: flag :: next :: _ =>
        flag ∈ ['e', 'c', 'E', 'p', 'r'] && next.toNat ∉ [0x0A, 0x0D, 0x2028, 0x2029]
    | _ => false

variable (host : Host)

def isDangerousDelegator (command : String) : Bool :=
  host.lower (basename command) ∈ dangerousShellBasenames

def isDangerousInterpreter (command : String) (args : List String) : Bool :=
  if host.lower (basename command) ∈ dangerousAwkBasenames then true
  else if host.lower (basename command) ∈ dangerousInterpreterBasenames then
    args.any isInlineCodeArg
  else false

end Rejections

/-! ## Commands -/

inductive FileError
  /-- `ENOENT`. -/
  | absent
  | other (message : String)
deriving DecidableEq

structure FileInfo where
  isFile : Bool
  mode : Nat
deriving DecidableEq

inductive SpawnOutcome
  | spawned (pid : Option Nat)
  | failed (message : String)
deriving DecidableEq

/-- What a registration or a wake asks of the store, the file system and the host. -/
inductive Command
  | hget (actorId : String)
  /-- `actor-conditional-set.lua`. -/
  | conditionalSet (actorId newValue expectedOwner : String)
  /-- The presence of the actor and its wake lease, up to the launch. -/
  | gate (actorId : String)
  /-- Whether a path is a directory, of which an error is no. -/
  | stat (path : String)
  /-- Of the allowlist file. -/
  | lstat
  /-- The legacy allowlist is there. -/
  | lstatLegacy
  | readFile
  | spawn (contract : RuntimeLaunchContract)
deriving DecidableEq

abbrev Reply : Command → Type
  | .hget _ => Option String
  | .conditionalSet _ _ _ => Bool
  | .gate _ => Bool
  | .stat _ => Bool
  | .lstat => Except FileError FileInfo
  | .lstatLegacy => Bool
  | .readFile => Except FileError String
  | .spawn _ => SpawnOutcome

abbrev ask (command : Command) : Program Command Reply (Reply command) := Program.ask command

/-! ## The decision -/

inductive LaunchPolicyErrorCode
  | launchCommandRejected
  | launchNotAllowlisted
  | launchCwdConfined
deriving DecidableEq

inductive LaunchPolicyDecision
  | ok
  | error (code : LaunchPolicyErrorCode) (message : String)
deriving DecidableEq

section Decision

variable (host : Host)

def launchCwdIsConfined (cwd : String) : Program Command Reply (Except String Unit) := do
  if ← ask (.stat cwd) then
    let workspaceRoot := resolve host.cwd host.cwd
    let resolved := resolve host.cwd cwd
    if resolved = workspaceRoot ∨ startsWith resolved (workspaceRoot ++ "/") = true then
      pure (.ok ())
    else
      pure (.error ("launch_cwd '" ++ cwd ++ "' resolves to '" ++ resolved ++
        "' which is outside the server workspace root '" ++ workspaceRoot ++ "'"))
  else pure (.error ("launch_cwd '" ++ cwd ++ "' is not an existing directory"))

/-- The `catch` of `loadLaunchAllowlist`. -/
def allowlistUnread : FileError → Program Command Reply AllowlistLoad
  | .absent => do
      if host.overridden then pure .absent
      else if ← ask .lstatLegacy then
        pure (.unparseable ("found .gptqueue/launch-allowlist.json in the working directory, " ++
          "which is no longer read because agents can write it; move it to " ++
            host.allowlistPath ++ " or set GPTQUEUE_LAUNCH_ALLOWLIST"))
      else pure .absent
  | .other message =>
      pure (.unparseable ("cannot read " ++ host.allowlistPath ++ ": " ++ message))

def loadLaunchAllowlist : Program Command Reply AllowlistLoad := do
  match ← ask .lstat with
  | .error error => allowlistUnread host error
  | .ok info =>
      if info.isFile = false then
        pure (.unparseable (host.allowlistPath ++ " is not a regular file (symlinks are refused)"))
      else if info.mode &&& 0o022 ≠ 0 then
        pure (.unparseable (host.allowlistPath ++
          " is group- or world-writable; restrict it (chmod go-w)"))
      else
        match ← ask .readFile with
        | .error error => allowlistUnread host error
        | .ok raw => pure (parseLaunchAllowlist host raw host.allowlistPath)

/-- The policy after the check of the working directory. -/
def evaluateCommand (contract : RuntimeLaunchContract) :
    Program Command Reply LaunchPolicyDecision := do
  if isDangerousDelegator host contract.command then
    pure (.error .launchCommandRejected ("command '" ++ contract.command ++
      "' is a dangerous delegator (shell) and is rejected regardless of the launch allowlist"))
  else if isDangerousInterpreter host contract.command contract.args then
    pure (.error .launchCommandRejected ("command '" ++ contract.command ++
      "' carries an inline-code flag (" ++
        (contract.args.find? isInlineCodeArg).getD "undefined" ++
          ") and is rejected regardless of the launch allowlist; point the interpreter at a " ++
            "fixed script file instead"))
  else
    match ← loadLaunchAllowlist host with
    | .absent =>
        pure (.error .launchNotAllowlisted ("launch allowlist at " ++ host.allowlistPath ++
          " is unavailable (file is absent); refusing to launch (fail closed)"))
    | .unparseable reason =>
        pure (.error .launchNotAllowlisted ("launch allowlist at " ++ host.allowlistPath ++
          " is unavailable (file is unparseable: " ++ reason ++
            "); refusing to launch (fail closed)"))
    | .loaded commands =>
        if launchMatchesConfig host contract.command contract.args commands then pure .ok
        else
          pure (.error .launchNotAllowlisted ("command '" ++ contract.command ++ "' (args " ++
            (Json.array (contract.args.map .string)).render ++
              ") is not permitted by the launch allowlist at " ++ host.allowlistPath))

def evaluateLaunchPolicy (contract : RuntimeLaunchContract) :
    Program Command Reply LaunchPolicyDecision := do
  match contract.cwd with
  | none => evaluateCommand host contract
  | some cwd =>
      match ← launchCwdIsConfined host cwd with
      | .error message => pure (.error .launchCwdConfined message)
      | .ok () => evaluateCommand host contract

end Decision

/-! ## What a loaded document contains -/

section Loaded

variable {host : Host} {source raw : String}

/-- The document has an entry with this command and these arguments as a template. -/
def Lists (document : Json) (command : String) (args : List String) : Prop :=
  ∃ items, document.field "commands" = some (.array items) ∧ ∃ item ∈ items, ∃ templates,
    item.field "command" = some (.string command) ∧
      item.field "allowed_args" = some (.array templates) ∧ .array (args.map .string) ∈ templates

/-- A document in which every entry has a command and templates of strings. -/
structure ValidDocument (host : Host) (document : Json) : Prop where
  version : isNumber host (document.field "version") two = true
  commands : ∃ items, document.field "commands" = some (.array items) ∧ ∀ item ∈ items,
    ∃ command templates, item.field "command" = some (.string command) ∧ trim command ≠ "" ∧
      item.field "allowed_args" = some (.array templates) ∧
        ∀ template ∈ templates, ∃ args : List String, template = .array (args.map .string)

theorem mapM_asString {items : List Json} {args : List String}
    (strings : (items.mapM fun item => Json.asString (some item)) = some args) :
    items = args.map .string := by
  induction items generalizing args with
  | nil =>
      cases strings
      rfl
  | cons item items induction =>
      rw [List.mapM_cons] at strings
      rcases Option.bind_eq_some_iff.mp strings with ⟨arg, isArg, rest⟩
      rcases Option.bind_eq_some_iff.mp rest with ⟨later, isLater, same⟩
      cases same
      cases item with
      | string text =>
          cases isArg
          rw [List.map_cons, ← induction isLater]
      | _ => cases isArg

theorem stringArray_eq {item : Json} {args : List String}
    (strings : stringArray item = some args) : item = .array (args.map .string) := by
  cases item with
  | array items => exact congrArg Json.array (mapM_asString strings)
  | _ => cases strings

theorem parseTemplates_ok {command : String} {items : List Json} {templates : List (List String)}
    (parsed : parseTemplates source command items = .ok templates) :
    items = templates.map fun args => .array (args.map .string) := by
  induction items generalizing templates with
  | nil =>
      cases parsed
      rfl
  | cons item items induction =>
      rw [parseTemplates] at parsed
      cases strings : stringArray item with
      | none =>
          rw [strings] at parsed
          cases parsed
      | some template =>
          rw [strings] at parsed
          dsimp only at parsed
          cases later : parseTemplates source command items with
          | error reason =>
              rw [later] at parsed
              cases parsed
          | ok rest =>
              rw [later] at parsed
              cases parsed
              rw [List.map_cons, ← induction later, stringArray_eq strings]

/-- What an entry says, as it stands in the document. -/
structure Reads (item : Json) (entry : LaunchAllowlistEntry) : Prop where
  command : ∃ written, item.field "command" = some (.string written) ∧ trim written ≠ "" ∧
    entry.command = trim written
  templates : item.field "allowed_args" =
    some (.array (entry.allowedArgs.map fun args => .array (args.map .string)))

theorem parseEntry_ok {item : Json} {entry : LaunchAllowlistEntry}
    (parsed : parseEntry source item = .ok entry) : Reads item entry := by
  unfold parseEntry at parsed
  split at parsed
  · split at parsed
    · next written isCommand =>
        split at parsed
        · cases parsed
        · next notBlank =>
            split at parsed
            · next items isItems =>
                cases templates : parseTemplates source written items with
                | error reason =>
                    rw [templates] at parsed
                    cases parsed
                | ok found =>
                    rw [templates] at parsed
                    cases parsed
                    refine ⟨⟨written, isCommand, notBlank, rfl⟩, ?_⟩
                    rw [isItems, parseTemplates_ok templates]
            · cases parsed
    · cases parsed
  · cases parsed

theorem parseEntries_ok {items : List Json} {entries : List LaunchAllowlistEntry}
    (parsed : parseEntries source items = .ok entries) : List.Forall₂ Reads items entries := by
  induction items generalizing entries with
  | nil =>
      cases parsed
      exact List.Forall₂.nil
  | cons item items induction =>
      rw [parseEntries] at parsed
      cases first : parseEntry source item with
      | error reason =>
          rw [first] at parsed
          cases parsed
      | ok entry =>
          cases later : parseEntries source items with
          | error reason =>
              rw [first, later] at parsed
              cases parsed
          | ok rest =>
              rw [first, later] at parsed
              cases parsed
              exact List.Forall₂.cons (parseEntry_ok first) (induction later)

/-- A text is loaded only as a valid document, whose entries are those of the result. -/
theorem parseLaunchAllowlist_loaded {commands : List LaunchAllowlistEntry}
    (loaded : parseLaunchAllowlist host raw source = .loaded commands) :
    ∃ document items, Json.parse raw = some document ∧ ValidDocument host document ∧
      document.field "commands" = some (.array items) ∧ List.Forall₂ Reads items commands := by
  unfold parseLaunchAllowlist at loaded
  split at loaded
  · cases loaded
  · next document isDocument =>
      split at loaded
      · split at loaded
        · next isTwo =>
            split at loaded
            · next items isItems =>
                split at loaded
                · next entries parsed =>
                    cases loaded
                    have reads := parseEntries_ok parsed
                    refine ⟨document, items, isDocument, ⟨isTwo, items, isItems, ?_⟩,
                      isItems, reads⟩
                    intro item member
                    rcases List.mem_iff_getElem.mp member with ⟨index, less, rfl⟩
                    have entry := List.forall₂_iff_get.mp reads
                    have inside : index < commands.length := entry.1 ▸ less
                    rcases (entry.2 index less inside) with
                      ⟨⟨written, isCommand, notBlank, -⟩, isArgs⟩
                    refine ⟨written, _, isCommand, notBlank, isArgs, fun template listed => ?_⟩
                    rcases List.mem_map.mp listed with ⟨args, -, rfl⟩
                    exact ⟨args, rfl⟩
                · cases loaded
            · cases loaded
        · cases loaded
      · cases loaded

end Loaded

end GptQueue.Launch
