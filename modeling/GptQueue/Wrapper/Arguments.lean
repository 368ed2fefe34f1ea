import GptQueue.Foundation.Decimal
import GptQueue.Foundation.Json
import GptQueue.Foundation.Texts
import GptQueue.Wrapper.Lifecycle

/-! # The command line of a wrapper

What the arguments of the wrapper say, and what the child gets of them. The last value of
an option counts, and what follows the first `--` is the prompt.
-/

namespace GptQueue.WrapperRun

open Texts (isAbsolute resolve startsWith trim)

/-! ## The host -/

structure Url where
  protocol : String
  pathname : String

/-- The working directory and `new URL`, which throws on what is not a URL. -/
structure Host where
  cwd : String
  url : String → Option Url

/-! ## The options -/

inductive WrappedClient
  | codex
  | pi
deriving DecidableEq

def WrappedClient.token : WrappedClient → String
  | .codex => "codex"
  | .pi => "pi"

def isWrappedClient (token : String) : Option WrappedClient :=
  if token = "codex" then some .codex else if token = "pi" then some .pi else none

structure WrapperOptions where
  client : WrappedClient
  agent : String
  description : String
  workspace : String
  redisUrl : String
  cleanup : CleanupMode
  model : Option String
  prompt : String
deriving DecidableEq

structure ParseState where
  agent : Option String := none
  description : Option String := none
  workspace : Option String := none
  redisUrl : Option String := none
  cleanup : Option CleanupMode := none
  model : Option String := none
deriving DecidableEq

def DEFAULT_REDIS_URL : String := "redis://127.0.0.1:6379/14"
def DISPOSABLE_AGENT_PREFIX : String := "gptqueue-experiment-"

inductive Flag
  | agent
  | description
  | workspace
  | redisUrl
  | cleanup
  | model
deriving DecidableEq

def Flag.token : Flag → String
  | .agent => "--agent"
  | .description => "--description"
  | .workspace => "--workspace"
  | .redisUrl => "--redis-url"
  | .cleanup => "--cleanup"
  | .model => "--model"

def Flag.all : List Flag := [.agent, .description, .workspace, .redisUrl, .cleanup, .model]

/-- The cases of the `switch` of `parseOptions`. -/
def Flag.of (token : String) : Option Flag := Flag.all.find? fun flag => flag.token = token

def readCleanup (value : String) : Option CleanupMode :=
  if value = "close" then some .close else if value = "unregister" then some .unregister else none

/-- The state with the value of an option. -/
def ParseState.set (state : ParseState) (flag : Flag) (value : String) : ParseState :=
  match flag with
  | .agent => { state with agent := some value }
  | .description => { state with description := some value }
  | .workspace => { state with workspace := some value }
  | .redisUrl => { state with redisUrl := some value }
  | .cleanup => { state with cleanup := readCleanup value }
  | .model => { state with model := some value }

def isValue (value : String) : Bool := value ≠ "" && !startsWith value "--"

def parseOptions : List String → ParseState → Except String (ParseState × List String)
  | [], state => .ok (state, [])
  | token :: rest, state =>
      if token = "--" then .ok (state, rest)
      else
        match Flag.of token with
        | none => .error ("Unknown option: " ++ token)
        | some flag =>
            match rest with
            | [] => .error (token ++ " requires a value.")
            | value :: rest =>
                if isValue value = false then .error (token ++ " requires a value.")
                else if flag = .cleanup ∧ readCleanup value = none then
                  .error "--cleanup must be close or unregister."
                else parseOptions rest (state.set flag value)

def isControlChar (char : Char) : Bool := char.toNat < 32 || char.toNat == 127

def requireSafeAgentName (value : Option String) : Except String String :=
  let name := trim (value.getD "")
  if name = "" ∨ name.toList.any isControlChar = true then
    .error "--agent must be a non-empty name without control characters."
  else .ok name

def redisDatabase (host : Host) (redisUrl : String) : Except String Nat :=
  match host.url redisUrl with
  | none => .error "Invalid URL"
  | some parsed =>
      if parsed.protocol ≠ "redis:" ∧ parsed.protocol ≠ "rediss:" then
        .error ("Redis URL must use redis:// or rediss://: " ++ redisUrl)
      else
        let raw := match parsed.pathname.toList with
          | '/' :: rest => rest
          | path => path
        if raw ≠ [] ∧ Decimal.isCanonical raw = false then
          .error ("Redis URL has an invalid database: " ++ redisUrl)
        -- The largest safe integer is 2 ^ 53 - 1.
        else if 2 ^ 53 ≤ Decimal.value raw then
          .error ("Redis URL has an invalid database: " ++ redisUrl)
        else .ok (Decimal.value raw)

def requireIsolatedRedis (host : Host) (redisUrl : String) : Except String String := do
  let database ← redisDatabase host redisUrl
  if database = 0 then
    .error ("The experimental wrapper refuses Redis db0; pass an isolated Redis URL such as " ++
      "redis://127.0.0.1:6379/14.")
  else .ok redisUrl

def parseWrapperArgs (host : Host) (argv : List String) : Except String WrapperOptions :=
  match argv with
  | [] => .error "First argument must be codex or pi."
  | clientToken :: rest =>
      match isWrappedClient clientToken with
      | none => .error "First argument must be codex or pi."
      | some client => do
          let (state, promptTokens) ← parseOptions rest {}
          let agent ← requireSafeAgentName state.agent
          let prompt := trim (" ".intercalate promptTokens)
          if prompt = "" then .error "A prompt is required after --."
          else
            match state.workspace with
            | none => .error "--workspace is required."
            | some workspace =>
                let cleanup := state.cleanup.getD .close
                if cleanup = .unregister ∧ startsWith agent DISPOSABLE_AGENT_PREFIX = false then
                  .error ("--cleanup unregister requires an agent name starting with " ++
                    DISPOSABLE_AGENT_PREFIX)
                else do
                  let redisUrl ← requireIsolatedRedis host (state.redisUrl.getD DEFAULT_REDIS_URL)
                  .ok
                    { client
                      agent
                      description := state.description.getD
                        (client.token ++ " launched by the experimental registered wrapper")
                      workspace := resolve host.cwd workspace
                      redisUrl
                      cleanup
                      model := state.model
                      prompt }

/-! ## What is accepted -/

/-- An option with its value, as it is written. -/
abbrev Assignment := Flag × String

def Assignment.written (assignment : Assignment) : List String :=
  [assignment.1.token, assignment.2]

/-- A value that its option takes. -/
structure Assignment.Valued (assignment : Assignment) : Prop where
  isValue : isValue assignment.2 = true
  cleanup : assignment.1 = .cleanup → readCleanup assignment.2 ≠ none

/-- The last value of an option. -/
def last (flag : Flag) (assignments : List Assignment) : Option String :=
  (assignments.reverse.find? fun assignment => assignment.1 = flag).map Prod.snd

def assigned (state : ParseState) (assignments : List Assignment) : ParseState :=
  assignments.foldl (fun state assignment => state.set assignment.1 assignment.2) state

section Parsing

variable {state after : ParseState} {tokens prompt : List String}
  {assignments : List Assignment}

@[simp]
theorem Flag.of_token (flag : Flag) : Flag.of flag.token = some flag := by
  cases flag <;> decide

@[simp]
theorem Flag.token_ne (flag : Flag) : flag.token ≠ "--" := by
  cases flag <;> decide

theorem Flag.token_of {token : String} {flag : Flag} (isFlag : Flag.of token = some flag) :
    flag.token = token := by
  simpa using List.find?_some isFlag

/-- What is parsed is a sequence of options with their values, up to the first `--`. -/
theorem written_of_parseOptions (parsed : parseOptions tokens state = .ok (after, prompt)) :
    ∃ assignments : List Assignment, (∀ assignment ∈ assignments, assignment.Valued) ∧
      after = assigned state assignments ∧
      (tokens = assignments.flatMap Assignment.written ++ "--" :: prompt ∨
        tokens = assignments.flatMap Assignment.written ∧ prompt = []) := by
  induction tokens, state using parseOptions.induct with
  | case1 state =>
      cases parsed
      exact ⟨[], nofun, rfl, .inr ⟨rfl, rfl⟩⟩
  | case2 rest state =>
      rw [parseOptions, if_pos rfl] at parsed
      cases parsed
      exact ⟨[], nofun, rfl, .inl rfl⟩
  | case3 token rest state other unknown =>
      rw [parseOptions, if_neg other, unknown] at parsed
      cases parsed
  | case4 token state other flag isFlag =>
      rw [parseOptions, if_neg other, isFlag] at parsed
      cases parsed
  | case5 token state other flag isFlag value rest notValue =>
      rw [parseOptions, if_neg other, isFlag] at parsed
      dsimp only at parsed
      rw [if_pos notValue] at parsed
      cases parsed
  | case6 token state other flag isFlag value rest isValue refused =>
      rw [parseOptions, if_neg other, isFlag] at parsed
      dsimp only at parsed
      rw [if_neg isValue, if_pos refused] at parsed
      cases parsed
  | case7 token state other flag isFlag value rest isValue taken induction =>
      rw [parseOptions, if_neg other, isFlag] at parsed
      dsimp only at parsed
      rw [if_neg isValue, if_neg taken] at parsed
      rcases induction parsed with ⟨assignments, valued, isAfter, written⟩
      refine ⟨(flag, value) :: assignments, ?_, isAfter, ?_⟩
      · rw [List.forall_mem_cons]
        exact ⟨⟨by simpa using isValue, not_and.mp taken⟩, valued⟩
      · rw [List.flatMap_cons, ← Flag.token_of isFlag]
        rcases written with rfl | ⟨rfl, empty⟩
        · exact .inl rfl
        · exact .inr ⟨rfl, empty⟩

theorem parseOptions_written (valued : ∀ assignment ∈ assignments, assignment.Valued)
    (state : ParseState) (rest : List String) :
    parseOptions (assignments.flatMap Assignment.written ++ rest) state =
      parseOptions rest (assigned state assignments) := by
  induction assignments generalizing state with
  | nil => rfl
  | cons assignment assignments induction =>
      rcases List.forall_mem_cons.mp valued with ⟨first, later⟩
      rcases assignment with ⟨flag, value⟩
      rw [List.flatMap_cons, Assignment.written, List.append_assoc, List.cons_append,
        List.cons_append, List.nil_append, parseOptions, if_neg flag.token_ne, Flag.of_token]
      dsimp only
      rw [if_neg (by simp [first.isValue]), if_neg (by simpa using first.cleanup),
        induction later (state.set flag value)]
      rfl

/-- Options parse exactly if they are written as options with their values. -/
theorem parseOptions_iff :
    parseOptions tokens state = .ok (after, prompt) ↔
      ∃ assignments : List Assignment, (∀ assignment ∈ assignments, assignment.Valued) ∧
        after = assigned state assignments ∧
        (tokens = assignments.flatMap Assignment.written ++ "--" :: prompt ∨
          tokens = assignments.flatMap Assignment.written ∧ prompt = []) := by
  constructor
  · exact written_of_parseOptions
  · rintro ⟨assignments, valued, rfl, rfl | ⟨rfl, rfl⟩⟩
    · rw [parseOptions_written valued, parseOptions, if_pos rfl]
    · have parsed := parseOptions_written valued state []
      rw [List.append_nil] at parsed
      rw [parsed, parseOptions]

theorem last_append (flag : Flag) (assignments : List Assignment) (assignment : Assignment) :
    last flag (assignments ++ [assignment]) =
      if assignment.1 = flag then some assignment.2 else last flag assignments := by
  rw [last, List.reverse_append, List.reverse_singleton, List.singleton_append, List.find?_cons]
  by_cases same : assignment.1 = flag
  · simp [same]
  · simp [same, last]

theorem assigned_append (state : ParseState) (assignments : List Assignment)
    (assignment : Assignment) : assigned state (assignments ++ [assignment]) =
      (assigned state assignments).set assignment.1 assignment.2 := by
  rw [assigned, List.foldl_append]
  rfl

/-- The last value of each option is what is assigned. -/
theorem assigned_eq (assignments : List Assignment) :
    assigned {} assignments =
      { agent := last .agent assignments
        description := last .description assignments
        workspace := last .workspace assignments
        redisUrl := last .redisUrl assignments
        cleanup := (last .cleanup assignments).bind readCleanup
        model := last .model assignments } := by
  induction assignments using List.reverseRecOn with
  | nil => rfl
  | append_singleton assignments assignment induction =>
      rcases assignment with ⟨flag, value⟩
      rw [assigned_append, induction]
      simp only [last_append]
      cases flag <;> rfl

end Parsing

/-- What the wrapper makes of a command line. -/
structure Accepts (host : Host) (assignments : List Assignment) (prompt : List String)
    (options : WrapperOptions) : Prop where
  valued : ∀ assignment ∈ assignments, assignment.Valued
  agent : options.agent = trim ((last .agent assignments).getD "")
  named : options.agent ≠ "" ∧ options.agent.toList.any isControlChar = false
  description : options.description = (last .description assignments).getD
    (options.client.token ++ " launched by the experimental registered wrapper")
  workspace : ∃ workspace, last .workspace assignments = some workspace ∧
    options.workspace = resolve host.cwd workspace
  redisUrl : options.redisUrl = (last .redisUrl assignments).getD DEFAULT_REDIS_URL
  isolated : ∃ database, redisDatabase host options.redisUrl = .ok database ∧ database ≠ 0
  cleanup : options.cleanup = ((last .cleanup assignments).bind readCleanup).getD .close
  disposable : options.cleanup = .unregister →
    startsWith options.agent DISPOSABLE_AGENT_PREFIX = true
  model : options.model = last .model assignments
  prompt : options.prompt = trim (" ".intercalate prompt)
  asked : options.prompt ≠ ""

section Accepting

variable {host : Host} {argv : List String} {options : WrapperOptions}

theorem isWrappedClient_iff {token : String} {client : WrappedClient} :
    isWrappedClient token = some client ↔ token = client.token := by
  unfold isWrappedClient
  constructor
  · intro isClient
    split at isClient
    · next same =>
        cases isClient
        exact same
    · split at isClient
      · next same =>
          cases isClient
          exact same
      · cases isClient
  · rintro rfl
    cases client <;> rfl

theorem requireSafeAgentName_iff {value : Option String} {name : String} :
    requireSafeAgentName value = .ok name ↔
      name = trim (value.getD "") ∧ name ≠ "" ∧ name.toList.any isControlChar = false := by
  unfold requireSafeAgentName
  dsimp only
  split
  · next refused =>
      constructor
      · intro named
        cases named
      · rintro ⟨rfl, nonempty, plain⟩
        rw [plain] at refused
        exact absurd refused (by simpa using nonempty)
  · next accepted =>
      rw [not_or, Bool.not_eq_true] at accepted
      constructor
      · intro named
        cases named
        exact ⟨rfl, accepted⟩
      · rintro ⟨rfl, -⟩
        rfl

theorem requireIsolatedRedis_iff {redisUrl url : String} :
    requireIsolatedRedis host redisUrl = .ok url ↔
      url = redisUrl ∧ ∃ database, redisDatabase host redisUrl = .ok database ∧ database ≠ 0 := by
  unfold requireIsolatedRedis
  cases redisDatabase host redisUrl with
  | error message => simp [bind, Except.bind]
  | ok database =>
      by_cases zero : database = 0
      · simp [bind, Except.bind, zero]
      · simp [bind, Except.bind, zero, eq_comm]

theorem bind_ok_iff {α β : Type} {first : Except String α} {next : α → Except String β}
    {result : β} : first >>= next = .ok result ↔ ∃ value, first = .ok value ∧
      next value = .ok result := by
  cases first with
  | error message => simp [bind, Except.bind]
  | ok value => simp [bind, Except.bind]

theorem accepts_of_parseWrapperArgs (parsed : parseWrapperArgs host argv = .ok options) :
    ∃ assignments prompt,
      argv = options.client.token ::
        (assignments.flatMap Assignment.written ++ "--" :: prompt) ∧
      Accepts host assignments prompt options := by
  cases argv with
  | nil => cases parsed
  | cons clientToken rest =>
      unfold parseWrapperArgs at parsed
      dsimp only at parsed
      cases isClient : isWrappedClient clientToken with
      | none =>
          rw [isClient] at parsed
          cases parsed
      | some client =>
          rw [isClient] at parsed
          rcases bind_ok_iff.mp parsed with ⟨⟨state, prompt⟩, isParsed, parsed⟩
          rcases bind_ok_iff.mp parsed with ⟨agent, isAgent, parsed⟩
          rcases parseOptions_iff.mp isParsed with ⟨assignments, valued, rfl, written⟩
          rcases requireSafeAgentName_iff.mp isAgent with ⟨agentEq, nonempty, plain⟩
          dsimp only at parsed
          rw [assigned_eq] at parsed agentEq
          split at parsed
          · cases parsed
          · next asked =>
              split at parsed
              · cases parsed
              · next workspace isWorkspace =>
                  split at parsed
                  · cases parsed
                  · next disposable =>
                      rcases bind_ok_iff.mp parsed with ⟨redisUrl, isRedis, built⟩
                      cases built
                      rcases requireIsolatedRedis_iff.mp isRedis with ⟨urlEq, isolated⟩
                      have dashes : rest = assignments.flatMap Assignment.written ++
                          "--" :: prompt := by
                        rcases written with isWritten | ⟨-, rfl⟩
                        · exact isWritten
                        · exact absurd (by decide) asked
                      refine ⟨assignments, prompt, ?_, ?_⟩
                      · rw [isWrappedClient_iff.mp isClient, dashes]
                      · refine ⟨valued, agentEq, ⟨nonempty, plain⟩, rfl,
                          ⟨workspace, isWorkspace, rfl⟩, urlEq, urlEq ▸ isolated, rfl, ?_, rfl,
                          rfl, asked⟩
                        intro unregister
                        simpa using not_and.mp disposable unregister

theorem parseWrapperArgs_of_accepts {assignments : List Assignment} {prompt : List String}
    (accepts : Accepts host assignments prompt options) :
    parseWrapperArgs host (options.client.token ::
      (assignments.flatMap Assignment.written ++ "--" :: prompt)) = .ok options := by
  rcases accepts.workspace with ⟨workspace, isWorkspace, resolved⟩
  have isParsed : parseOptions (assignments.flatMap Assignment.written ++ "--" :: prompt) {} =
      .ok (assigned {} assignments, prompt) :=
    parseOptions_iff.mpr ⟨assignments, accepts.valued, rfl, .inl rfl⟩
  unfold parseWrapperArgs
  dsimp only
  rw [isWrappedClient_iff.mpr rfl]
  refine bind_ok_iff.mpr ⟨_, isParsed, bind_ok_iff.mpr
    ⟨options.agent, requireSafeAgentName_iff.mpr ⟨?_, accepts.named⟩, ?_⟩⟩
  · rw [assigned_eq]
    exact accepts.agent
  · rw [assigned_eq]
    dsimp only
    rw [← accepts.prompt, if_neg accepts.asked, isWorkspace]
    dsimp only
    rw [← accepts.cleanup, if_neg, ← accepts.redisUrl]
    · refine bind_ok_iff.mpr ⟨_, requireIsolatedRedis_iff.mpr ⟨rfl, accepts.isolated⟩, ?_⟩
      rw [← accepts.description, ← resolved, ← accepts.model]
    · rintro ⟨unregister, other⟩
      rw [accepts.disposable unregister] at other
      cases other

/-- A command line is accepted exactly if it consists of the client, options with values that
they take, `--` and the prompt, and the last values are those of a run that is isolated from
the default database and that deletes nothing but a disposable name. -/
theorem parseWrapperArgs_iff :
    parseWrapperArgs host argv = .ok options ↔
      ∃ assignments prompt,
        argv = options.client.token ::
          (assignments.flatMap Assignment.written ++ "--" :: prompt) ∧
        Accepts host assignments prompt options := by
  constructor
  · exact accepts_of_parseWrapperArgs
  · rintro ⟨assignments, prompt, rfl, accepts⟩
    exact parseWrapperArgs_of_accepts accepts

end Accepting

/-! ## What the child gets -/

structure ChildInvocation where
  command : String
  args : List String

def WRAPPER_VISIBLE_TOOLS : List String :=
  ["send_message", "receive_message", "list_agents", "get_queue_status"]

def registeredIdentityPrompt (agent : String) : String :=
  "You are already registered in GPTQueue as \"" ++ agent ++ "\". " ++
    "Do not call register_agent and do not supply a session_id. "

def quotedString (value : String) : String := (Json.string value).render

/-- The value of a variable of the environment, if it is not empty. -/
def nonemptyOr (value : Option String) (default : String) : String :=
  match value with
  | some value => if value = "" then default else value
  | none => default

def modelArgs (model : Option String) : List String :=
  match model with
  | some model => ["--model", model]
  | none => []

def codexConfig (bridgeUrl : String) : List String :=
  ["mcp_servers.gptqueue_wrapper.url=" ++ quotedString bridgeUrl,
    "mcp_servers.gptqueue_wrapper.bearer_token_env_var=" ++ quotedString "GPTQ_BRIDGE_TOKEN",
    "mcp_servers.gptqueue_wrapper.required=true",
    "mcp_servers.gptqueue_wrapper.startup_timeout_sec=15",
    "mcp_servers.gptqueue_wrapper.tool_timeout_sec=70",
    "mcp_servers.gptqueue_wrapper.enabled_tools=" ++
      (Json.array (WRAPPER_VISIBLE_TOOLS.map Json.string)).render,
    "mcp_servers.gptqueue_wrapper.default_tools_approval_mode=" ++ quotedString "auto",
    "approval_policy=" ++ quotedString "on-request"]

def buildCodexInvocation (bin : Option String) (options : WrapperOptions) (bridgeUrl : String) :
    ChildInvocation where
  command := nonemptyOr bin "codex"
  args := (codexConfig bridgeUrl).flatMap (fun entry => ["-c", entry]) ++
    ["exec", "--ignore-user-config", "--strict-config", "--skip-git-repo-check", "--ephemeral",
      "--approve-for-me", "-C", options.workspace] ++
    modelArgs options.model ++ [registeredIdentityPrompt options.agent ++ options.prompt]

/-- The extension lies below the workspace, and the sessions lie beside it. -/
def buildPiInvocation (bin : Option String) (options : WrapperOptions) (agentKey : String) :
    ChildInvocation where
  command := nonemptyOr bin "pi"
  args :=
    ["-p", "--offline", "--no-session", "--session-dir",
      resolve options.workspace (".gptqueue-wrapper/" ++ agentKey ++ "/pi-sessions"),
      "--no-extensions", "--extension",
      resolve options.workspace
        (".gptqueue-wrapper/" ++ agentKey ++ "/pi-gptqueue-extension.ts"),
      "--no-builtin-tools", "--no-skills", "--no-prompt-templates", "--no-context-files",
      "--approve"] ++
    modelArgs options.model ++ [registeredIdentityPrompt options.agent ++ options.prompt]

/-- The invocation of the wrapper, in the workspace as the file system spells it. -/
def invocation (bin : Option String) (options : WrapperOptions)
    (workspace agentKey bridgeUrl : String) : ChildInvocation :=
  match options.client with
  | .codex => buildCodexInvocation bin { options with workspace } bridgeUrl
  | .pi => buildPiInvocation bin { options with workspace } agentKey

def childFlags : List String :=
  ["-c", "--ignore-user-config", "--strict-config", "--skip-git-repo-check", "--ephemeral",
    "--approve-for-me", "-C", "-p", "--offline", "--no-session", "--session-dir",
    "--no-extensions", "--extension", "--no-builtin-tools", "--no-skills",
    "--no-prompt-templates", "--no-context-files", "--approve", "--model"]

section Invoking

variable {host : Host} {argv : List String} {options : WrapperOptions}

/-- A text that does not start like an option. -/
def Plain (text : String) : Prop := ∃ char rest, text.toList = char :: rest ∧ char ≠ '-'

theorem Plain.append {text : String} (plain : Plain text) (rest : String) :
    Plain (text ++ rest) := by
  rcases plain with ⟨char, after, isText, other⟩
  exact ⟨char, after ++ rest.toList, by rw [String.toList_append, isText, List.cons_append], other⟩

theorem Plain.startsWith {text : String} (plain : Plain text) : startsWith text "-" = false := by
  rcases plain with ⟨char, after, isText, other⟩
  rw [Texts.startsWith, isText]
  simp [List.isPrefixOf, Ne.symm other]

theorem plain_of_absolute {path : String} (absolute : isAbsolute path = true) : Plain path := by
  rw [isAbsolute, decide_eq_true_eq, List.head?_eq_some_iff] at absolute
  rcases absolute with ⟨rest, isPath⟩
  exact ⟨'/', rest, isPath, by decide⟩

theorem plain_resolve (cwd path : String) : Plain (resolve cwd path) :=
  ⟨'/', _, by rw [resolve, String.toList_ofList], by decide⟩

theorem plain_prompt (agent prompt : String) :
    Plain (registeredIdentityPrompt agent ++ prompt) := by
  unfold registeredIdentityPrompt
  refine Plain.append (Plain.append (Plain.append (Plain.append ?_ agent) _) _) prompt
  exact ⟨'Y', _, rfl, by decide⟩

theorem plain_codexConfig (bridgeUrl : String) : ∀ entry ∈ codexConfig bridgeUrl, Plain entry := by
  unfold codexConfig
  simp only [List.forall_mem_cons]
  refine ⟨Plain.append ⟨'m', _, rfl, by decide⟩ _, Plain.append ⟨'m', _, rfl, by decide⟩ _,
    ⟨'m', _, rfl, by decide⟩, ⟨'m', _, rfl, by decide⟩, ⟨'m', _, rfl, by decide⟩,
    Plain.append ⟨'m', _, rfl, by decide⟩ _, Plain.append ⟨'m', _, rfl, by decide⟩ _,
    Plain.append ⟨'a', _, rfl, by decide⟩ _, List.forall_mem_nil _⟩

theorem isValue_last {flag : Flag} {assignments : List Assignment} {value : String}
    (valued : ∀ assignment ∈ assignments, assignment.Valued)
    (isLast : last flag assignments = some value) : isValue value = true := by
  rcases Option.map_eq_some_iff.mp isLast with ⟨assignment, found, rfl⟩
  exact (valued assignment (List.mem_reverse.mp (List.mem_of_find?_eq_some found))).isValue

/-- What starts with a dash is one of the fixed options or the model. -/
def Fixed (model : Option String) (arg : String) : Prop :=
  startsWith arg "-" = true →
    arg ∈ childFlags ∨ model = some arg ∧ startsWith arg "--" = false

theorem Plain.fixed {model : Option String} {arg : String} (plain : Plain arg) :
    Fixed model arg := by
  intro dashed
  rw [plain.startsWith] at dashed
  cases dashed

theorem fixed_flag {model : Option String} {arg : String} (flag : arg ∈ childFlags) :
    Fixed model arg := fun _ => .inl flag

theorem fixed_modelArgs (accepted : parseWrapperArgs host argv = .ok options) :
    ∀ arg ∈ modelArgs options.model, Fixed options.model arg := by
  rcases accepts_of_parseWrapperArgs accepted with ⟨assignments, prompt, -, accepts⟩
  cases isModel : options.model with
  | none => exact List.forall_mem_nil _
  | some model =>
      have value := isValue_last accepts.valued (accepts.model.symm.trans isModel)
      rw [isValue, Bool.and_eq_true, Bool.not_eq_true'] at value
      rw [modelArgs, List.forall_mem_cons, List.forall_mem_singleton]
      exact ⟨fixed_flag (by decide), fun _ => .inr ⟨rfl, value.2⟩⟩

theorem fixed_codex {model : Option String} (bin : Option String) {workspace : String}
    (absolute : isAbsolute workspace = true) (bridgeUrl : String)
    (fixed : ∀ arg ∈ modelArgs options.model, Fixed model arg) :
    ∀ arg ∈ (buildCodexInvocation bin { options with workspace } bridgeUrl).args,
      Fixed model arg := by
  unfold buildCodexInvocation
  dsimp only
  rw [List.forall_mem_append, List.forall_mem_append, List.forall_mem_append,
    List.forall_mem_singleton]
  refine ⟨⟨⟨?_, ?_⟩, fixed⟩, (plain_prompt _ _).fixed⟩
  · intro arg member
    rcases List.mem_flatMap.mp member with ⟨entry, isEntry, isArg⟩
    rcases List.mem_cons.mp isArg with rfl | isArg
    · exact fixed_flag (by decide)
    · cases List.mem_singleton.mp isArg
      exact (plain_codexConfig bridgeUrl _ isEntry).fixed
  · simp only [List.forall_mem_cons]
    exact ⟨Plain.fixed ⟨'e', _, rfl, by decide⟩, fixed_flag (by decide), fixed_flag (by decide),
      fixed_flag (by decide), fixed_flag (by decide), fixed_flag (by decide),
      fixed_flag (by decide), (plain_of_absolute absolute).fixed, List.forall_mem_nil _⟩

theorem fixed_pi {model : Option String} (bin : Option String) (workspace agentKey : String)
    (fixed : ∀ arg ∈ modelArgs options.model, Fixed model arg) :
    ∀ arg ∈ (buildPiInvocation bin { options with workspace } agentKey).args,
      Fixed model arg := by
  unfold buildPiInvocation
  dsimp only
  rw [List.forall_mem_append, List.forall_mem_append, List.forall_mem_singleton]
  refine ⟨⟨?_, fixed⟩, (plain_prompt _ _).fixed⟩
  simp only [List.forall_mem_cons]
  exact ⟨fixed_flag (by decide), fixed_flag (by decide), fixed_flag (by decide),
    fixed_flag (by decide), (plain_resolve _ _).fixed, fixed_flag (by decide),
    fixed_flag (by decide), (plain_resolve _ _).fixed, fixed_flag (by decide),
    fixed_flag (by decide), fixed_flag (by decide), fixed_flag (by decide),
    fixed_flag (by decide), List.forall_mem_nil _⟩

/-- Nothing in the command line of the wrapper can pass for an option of the child: apart
from the value of `--model`, what starts with a dash is one of the fixed options. -/
theorem child_flags_fixed (accepted : parseWrapperArgs host argv = .ok options)
    (bin : Option String) {workspace : String} (absolute : isAbsolute workspace = true)
    (agentKey bridgeUrl : String) :
    ∀ arg ∈ (invocation bin options workspace agentKey bridgeUrl).args,
      Fixed options.model arg := by
  have fixed := fixed_modelArgs accepted
  unfold invocation
  split
  · exact fixed_codex bin absolute bridgeUrl fixed
  · exact fixed_pi bin workspace agentKey fixed

end Invoking

/-! A command line whose prompt looks like options. -/

def localHost : Host where
  cwd := "/repo"
  url _ := some ⟨"redis:", "/14"⟩

def dashedOptions : WrapperOptions where
  client := .codex
  agent := "a"
  description := "codex launched by the experimental registered wrapper"
  workspace := "/repo/w"
  redisUrl := DEFAULT_REDIS_URL
  cleanup := .close
  model := none
  prompt := "-- --yolo"

theorem dashed_accepted : parseWrapperArgs localHost
    ["codex", "--agent", "a", "--workspace", "w", "--", "--", "--yolo"] = .ok dashedOptions := by
  decide +kernel

theorem dashed_flags_fixed : Fixed none (registeredIdentityPrompt "a" ++ "-- --yolo") := by
  have absolute : isAbsolute "/repo/w" = true := by decide
  apply child_flags_fixed dashed_accepted none absolute "key" "http://127.0.0.1:1/mcp"
  decide +kernel

end GptQueue.WrapperRun
