import GptQueue.Foundation.Interleaving
import GptQueue.Foundation.Json

/-! # Mailbox continuity

A native conversation has a mapping to the mailbox it owns. A sidecar of the
conversation creates the mapping or attaches its session to the mapped mailbox, and
an operator can map the conversation to another one. Both look at the same signals
before they take a mailbox, and the live lease of a running sidecar is one of them.
-/

namespace GptQueue.Continuity

/-! ## Mappings -/

/-- The stored mapping of a conversation. -/
structure Mapping where
  agent : String
  workingDirectory : String
deriving DecidableEq, Repr

def Mapping.toJson (mapping : Mapping) : Json :=
  .object [("agent", .string mapping.agent),
    ("working_directory", .string mapping.workingDirectory)]

/-- `JSON.stringify` of the mapping. -/
def Mapping.render (mapping : Mapping) : String := mapping.toJson.render

/-- The two string fields of a strict object, and nothing else. -/
def mappingFields : Json → Option Mapping
  | .object fields =>
      if fields.all fun entry => entry.1 = "agent" ∨ entry.1 = "working_directory" then do
        let agent ← Json.asString ((Json.object fields).field "agent")
        let workingDirectory ← Json.asString ((Json.object fields).field "working_directory")
        some { agent, workingDirectory }
      else none
  | _ => none

/-- The mapping in a stored text. -/
def readMapping (raw : String) : Option Mapping := (Json.parse raw).bind mappingFields

/-- The stricter schema, with a nonempty agent. -/
def readNonemptyMapping (raw : String) : Option Mapping :=
  (readMapping raw).filter (·.agent ≠ "")

/-! ## The server -/

/-- A conversation of one client. -/
structure Conversation where
  client : String
  runtimeId : String
deriving DecidableEq, Repr

structure World where
  /-- The mappings by their keys. -/
  mapping : String → Option String
  registry : String → Option String
  /-- The `agent_name` of a session record. -/
  record : String → Option String
  lease : String → Bool
  agentSessions : String → Finset String
  runtimeBinding : String → Bool
  heartbeat : String → Bool
  wrapperClaim : String → Bool
  /-- Whether the claims index, the queue and the outbound activity of a name have
  anything. -/
  claimed : String → Bool
  queued : String → Bool
  outbound : String → Bool
  /-- The sessions of the sidecars that run, those of all so far, the agent name each
  client has, and which of them have restored their mailbox. -/
  running : Finset String
  started : Finset String
  identity : String → String
  restored : String → Bool

namespace World

/-- The shared guard of both paths. -/
def occupied (world : World) (agent : String) : Prop :=
  world.runtimeBinding agent = true ∨ world.heartbeat agent = true ∨
    world.wrapperClaim agent = true ∨
    (∃ sessionId ∈ world.agentSessions agent, world.lease sessionId = true) ∨
    world.claimed agent = true

instance (world : World) (agent : String) : Decidable (world.occupied agent) :=
  inferInstanceAs (Decidable (world.runtimeBinding agent = true ∨
    world.heartbeat agent = true ∨ world.wrapperClaim agent = true ∨
    (∃ sessionId ∈ world.agentSessions agent, world.lease sessionId = true) ∨
    world.claimed agent = true))

/-- The writes of an adoption. `merged` is the target's new registry value. -/
def adopted (world : World) (sessionId source target merged : String) : World :=
  let left := Function.update world.agentSessions source
    ((world.agentSessions source).erase sessionId)
  { world with
    record := Function.update world.record sessionId (some target)
    agentSessions := Function.update left target (insert sessionId (left target))
    registry := Function.update (Function.update world.registry target (some merged)) source none
    heartbeat := Function.update world.heartbeat source false }

/-- The script of `adoptIdentity`; `none` when it raises. `merge` is what `cjson` makes
of the two registry values. -/
def adoptIdentity (world : World) (merge : String → String → Option String)
    (sessionId source target key expected : String) : Option Int × World :=
  if world.mapping key ≠ some expected then (some (-1), world)
  else
    match world.registry source, world.registry target with
    | some sourceRaw, some targetRaw =>
        match merge sourceRaw targetRaw with
        | none => (none, world)
        | some merged =>
            if world.record sessionId ≠ some source ∨ world.lease sessionId = false then
              (some (-3), world)
            else if (world.agentSessions source).card ≠ 1 ∨
                sessionId ∉ world.agentSessions source then (some (-4), world)
            else if world.occupied target then (some (-5), world)
            else if world.queued source = true ∨ world.claimed source = true ∨
                world.outbound source = true ∨ world.wrapperClaim source = true then
              (some (-6), world)
            else (some 1, world.adopted sessionId source target merged)
    | _, _ => (some (-2), world)

end World

/-- `ContinuityPlan`. -/
structure Plan where
  conversation : Conversation
  workingDirectory : String
  source : Option String
  target : String
  mappingKey : String
  expectedMapping : Option String
  redisNamespace : String
  sourceFingerprint : String
  targetFingerprint : String
  legacyAdoption : Bool
deriving DecidableEq, Repr

/-- The mapping an apply writes. -/
def Plan.desired (plan : Plan) : String := Mapping.render ⟨plan.target, plan.workingDirectory⟩

/-- The script of `applyContinuity`. A missing value is compared as the empty text. -/
def World.applyContinuity (world : World) (plan : Plan) (targetRaw : String)
    (sourceRaw : Option String) : Int × World :=
  let source := plan.source.getD ""
  if (world.mapping plan.mappingKey).getD "" ≠ plan.expectedMapping.getD "" then (-1, world)
  else if (world.registry plan.target).getD "" ≠ targetRaw then (-2, world)
  else if source ≠ "" ∧ (world.registry source).getD "" ≠ sourceRaw.getD "" then (-3, world)
  else if world.occupied plan.target then (-4, world)
  else if source ≠ "" ∧ source ≠ plan.target ∧
      (world.occupied source ∨ world.queued source = true ∨ world.outbound source = true) then
    (-5, world)
  else
    (1, { world with
      mapping := Function.update world.mapping plan.mappingKey (some plan.desired) })

/-! ## Commands -/

inductive Command
  | identity (sessionId : String)
  | setNX (key text : String)
  | get (key : String)
  | adopt (sessionId source target key expected : String)
  | assign (sessionId agentName : String)
  /-- `restoreRuntimeMailbox` returns. -/
  | complete (sessionId : String)
  | hget (name : String)
  | apply (plan : Plan) (targetRaw : String) (sourceRaw : Option String)
deriving DecidableEq

abbrev Reply : Command → Type
  | .identity _ => String
  | .get _ => Option String
  | .adopt _ _ _ _ _ => Option Int
  | .hget _ => Option String
  | .apply _ _ _ => Int
  | _ => Unit

abbrev ask (command : Command) : Program Command Reply (Reply command) := Program.ask command

def serve (merge : String → String → Option String) (_id : Nat) :
    (command : Command) → World → Reply command × World
  | .identity sessionId, world => (world.identity sessionId, world)
  | .setNX key text, world =>
      ((), if world.mapping key = none then
        { world with mapping := Function.update world.mapping key (some text) } else world)
  | .get key, world => (world.mapping key, world)
  | .adopt sessionId source target key expected, world =>
      world.adoptIdentity merge sessionId source target key expected
  | .assign sessionId agentName, world =>
      ((), { world with
        identity := Function.update world.identity sessionId agentName
        heartbeat := Function.update world.heartbeat agentName true })
  | .complete sessionId, world =>
      ((), { world with restored := Function.update world.restored sessionId true })
  | .hget name, world => (world.registry name, world)
  | .apply plan targetRaw sourceRaw, world => world.applyContinuity plan targetRaw sourceRaw

/-! ## Programs -/

/-- The functions and values of the host that the programs use. -/
structure Setting where
  /-- `runtimeMailboxKey`. -/
  mailboxKey : Conversation → String
  /-- The conversation of a sidecar: the runtime controller binds it to one only. -/
  conversation : String → Conversation
  /-- `path.resolve`. -/
  resolve : String → String
  fingerprint : Option String → String
  redisNamespace : String
  /-- The registry value of an adopted target, from the two registry values. -/
  merge : String → String → Option String

/-- The mapping key of a sidecar. -/
def Setting.key (setting : Setting) (sessionId : String) : String :=
  setting.mailboxKey (setting.conversation sessionId)

inductive Input
  | restoreRuntimeMailbox (sessionId workingDirectory : String)
  | prepareContinuity (conversation : Conversation) (workingDirectory target : String)
      (allowLegacy : Bool)
  | applyContinuity (plan : Plan)

inductive Result
  | restored
  | planned (plan : Plan)
  | applied
  | idempotent
  | failed
deriving DecidableEq, Repr

section Programs

variable (setting : Setting)

/-- `adoptIdentity`, with its checks of the client. -/
def adoptIdentity (sessionId source target key raw : String) : Program Command Reply Result := do
  let current ← ask (.identity sessionId)
  if current ≠ source ∨ source = target then pure .failed
  else if (← ask (.adopt sessionId source target key raw)) = some 1 then do
    let _ ← ask (.assign sessionId target)
    let _ ← ask (.complete sessionId)
    pure .restored
  else pure .failed

def restoreRuntimeMailbox (sessionId workingDirectory : String) :
    Program Command Reply Result := do
  let source ← ask (.identity sessionId)
  let _ ← ask (.setNX (setting.key sessionId) (Mapping.render ⟨source, workingDirectory⟩))
  match ← ask (.get (setting.key sessionId)) with
  | none => pure .failed
  | some raw =>
      match readNonemptyMapping raw with
      | none => pure .failed
      | some mapping =>
          if setting.resolve mapping.workingDirectory ≠ setting.resolve workingDirectory then
            pure .failed
          else if mapping.agent = source then do
            let _ ← ask (.complete sessionId)
            pure .restored
          else adoptIdentity sessionId source mapping.agent (setting.key sessionId) raw

/-- `z.string().min(1)` on the plan's names; upper bounds only refuse more. -/
def Plan.admissible (plan : Plan) : Bool :=
  plan.source != some "" && plan.target != "" && plan.mappingKey != ""

/-- A stored text counts as absent when it is empty. -/
def truthy (raw : Option String) : Option String := raw.filter (· ≠ "")

def prepareContinuity (conversation : Conversation) (workingDirectory target : String)
    (allowLegacy : Bool) : Program Command Reply Result := do
  let raw ← ask (.get (setting.mailboxKey conversation))
  match truthy raw with
  | none =>
      if allowLegacy = false then pure .failed
      else do
        let targetRaw ← ask (.hget target)
        if truthy targetRaw = none then pure .failed
        else pure (.planned {
          conversation, workingDirectory, target
          source := none
          mappingKey := setting.mailboxKey conversation
          expectedMapping := raw
          redisNamespace := setting.redisNamespace
          sourceFingerprint := setting.fingerprint none
          targetFingerprint := setting.fingerprint targetRaw
          legacyAdoption := true })
  | some text =>
      match readNonemptyMapping text with
      | none => pure .failed
      | some mapping =>
          if setting.resolve mapping.workingDirectory ≠ setting.resolve workingDirectory then
            pure .failed
          else do
            let sourceRaw ← ask (.hget mapping.agent)
            let targetRaw ← ask (.hget target)
            if truthy targetRaw = none ∨ truthy sourceRaw = none then pure .failed
            else pure (.planned {
              conversation, workingDirectory, target
              source := some mapping.agent
              mappingKey := setting.mailboxKey conversation
              expectedMapping := raw
              redisNamespace := setting.redisNamespace
              sourceFingerprint := setting.fingerprint sourceRaw
              targetFingerprint := setting.fingerprint targetRaw
              legacyAdoption := false })

/-- The checks of a plan against itself: the expected mapping names its source. -/
def Plan.isConsistent (plan : Plan) : Bool :=
  match truthy plan.expectedMapping with
  | none => plan.source == none && plan.legacyAdoption
  | some text =>
      (readMapping text).any fun mapping =>
        plan.source == some mapping.agent && !plan.legacyAdoption &&
          setting.resolve mapping.workingDirectory == setting.resolve plan.workingDirectory

/-- The registry value of the plan's source, if it has one. -/
def sourceEntry (plan : Plan) : Program Command Reply (Option String) :=
  match plan.source with
  | none => pure none
  | some source => ask (.hget source)

def applyContinuity (plan : Plan) : Program Command Reply Result :=
  if plan.admissible = false ∨ plan.mappingKey ≠ setting.mailboxKey plan.conversation ∨
      plan.redisNamespace ≠ setting.redisNamespace ∨ plan.isConsistent setting = false then
    pure .failed
  else do
    let current ← ask (.get plan.mappingKey)
    let sourceRaw ← sourceEntry plan
    let targetRaw ← ask (.hget plan.target)
    if current = some plan.desired ∧ truthy targetRaw ≠ none ∧
        setting.fingerprint targetRaw = plan.targetFingerprint then pure .idempotent
    else if current ≠ plan.expectedMapping ∨
        setting.fingerprint sourceRaw ≠ plan.sourceFingerprint ∨
        setting.fingerprint targetRaw ≠ plan.targetFingerprint then pure .failed
    else
      match truthy targetRaw with
      | none => pure .failed
      | some targetRaw =>
          if (← ask (.apply plan targetRaw sourceRaw)) = 1 then pure .applied else pure .failed

def program : Input → Program Command Reply Result
  | .restoreRuntimeMailbox sessionId workingDirectory =>
      restoreRuntimeMailbox setting sessionId workingDirectory
  | .prepareContinuity conversation workingDirectory target allowLegacy =>
      prepareContinuity setting conversation workingDirectory target allowLegacy
  | .applyContinuity plan => applyContinuity setting plan

end Programs

/-! ## Runs -/

/-- What the rest of the system does. -/
inductive Moves : World → World → Prop
  /-- A sidecar registers under a name that nobody has used. -/
  | started {world : World} (sessionId name : String) (fresh : sessionId ∉ world.started)
      (unlisted : ∀ other, sessionId ∉ world.agentSessions other)
      (unused : ∀ other, world.record other ≠ some name)
      (noSessions : world.agentSessions name = ∅) :
      Moves world { world with
        record := Function.update world.record sessionId (some name)
        lease := Function.update world.lease sessionId true
        agentSessions := Function.update world.agentSessions name {sessionId}
        running := insert sessionId world.running
        started := insert sessionId world.started
        identity := Function.update world.identity sessionId name }
  | stopped {world : World} (sessionId : String) :
      Moves world { world with running := world.running.erase sessionId }
  /-- Sessions that belong to no running sidecar come, lapse and go. -/
  | sessions {world : World} (record : String → Option String) (lease : String → Bool)
      (agentSessions : String → Finset String)
      (sameRecord : ∀ sessionId ∈ world.running, record sessionId = world.record sessionId)
      (sameLease : ∀ sessionId ∈ world.running, lease sessionId = world.lease sessionId)
      (sameSets : ∀ sessionId ∈ world.running, ∀ name,
        sessionId ∈ agentSessions name ↔ sessionId ∈ world.agentSessions name) :
      Moves world { world with record, lease, agentSessions }
  | signals {world : World} (registry : String → Option String)
      (runtimeBinding heartbeat wrapperClaim claimed queued outbound : String → Bool) :
      Moves world { world with
        registry, runtimeBinding, heartbeat, wrapperClaim, claimed, queued, outbound }

/-- Only a running sidecar restores. -/
def Opens (world : World) : Input → Prop
  | .restoreRuntimeMailbox sessionId _ => sessionId ∈ world.running
  | _ => True

def continuityProtocol (setting : Setting) : Protocol World Input Command Reply Result where
  program := program setting
  serve := serve setting.merge
  opens := Opens
  moves := Moves

abbrev ContinuitySystem := System World Input Command Reply Result

/-- No sidecar has started; mappings, sessions and signals are arbitrary. -/
structure Initial (world : World) : Prop where
  started : world.started = ∅
  running : world.running = ∅
  restored : ∀ sessionId, world.restored sessionId = false

def anyStep : Condition World Input Command Reply Result := fun _ _ _ _ => True

/-! ## What the programs ask -/

abbrev Past := List (Exchange Command Reply)

/-- A mapping to `agent` in a stored text. -/
def Names (raw agent : String) : Prop := ∃ mapping, readMapping raw = some mapping ∧
  mapping.agent = agent

/-- The mapping read last names the source. -/
def FoundOwn (setting : Setting) (past : Past) (sessionId : String) : Prop :=
  ∃ source raw older, past = ⟨.get (setting.key sessionId), some raw⟩ :: older ∧
    ⟨.identity sessionId, source⟩ ∈ older ∧ Names raw source

/-- What each input may ask next. -/
def Asks (setting : Setting) (input : Input) (past : Past) : Command → Prop
  | .identity sessionId => ∃ directory, input = .restoreRuntimeMailbox sessionId directory
  | .adopt sessionId _ target key expected =>
      ∃ directory, input = .restoreRuntimeMailbox sessionId directory ∧
        key = setting.key sessionId ∧ Names expected target
  | .assign sessionId agentName =>
      ∃ directory source key expected, input = .restoreRuntimeMailbox sessionId directory ∧
        ⟨.adopt sessionId source agentName key expected, some 1⟩ ∈ past
  | .complete sessionId =>
      (∃ directory, input = .restoreRuntimeMailbox sessionId directory) ∧
        (FoundOwn setting past sessionId ∨ ∃ agentName, ⟨.assign sessionId agentName, ()⟩ ∈ past)
  | .apply plan _ _ => plan.admissible = true ∧ plan.isConsistent setting = true
  | _ => True

section Follows

variable {setting : Setting} {past : Past}

theorem names_of_readNonempty {raw : String} {mapping : Mapping}
    (read : readNonemptyMapping raw = some mapping) : Names raw mapping.agent :=
  ⟨mapping, (Option.filter_eq_some_iff.mp read).1, rfl⟩

theorem follows_adoptIdentity {sessionId directory source target raw : String}
    (names : Names raw target) :
    (adoptIdentity sessionId source target (setting.key sessionId) raw).Follows
      (Asks setting (.restoreRuntimeMailbox sessionId directory)) (fun _ _ => True) past := by
  apply Program.follows_ask_bind.mpr ⟨⟨directory, rfl⟩, fun current => ?_⟩
  split
  · trivial
  · apply Program.follows_ask_bind.mpr ⟨⟨directory, rfl, rfl, names⟩, fun reply => ?_⟩
    split
    · next succeeded =>
        subst succeeded
        have asked : (⟨.adopt sessionId source target (setting.key sessionId) raw, some 1⟩ :
            Exchange Command Reply) ∈ (⟨.adopt sessionId source target (setting.key sessionId) raw,
              some 1⟩ :: ⟨.identity sessionId, current⟩ :: past : Past) := List.mem_cons_self
        apply Program.follows_ask_bind.mpr
          ⟨⟨directory, source, setting.key sessionId, raw, rfl, asked⟩, fun _ => ?_⟩
        exact Program.follows_ask_bind.mpr
          ⟨⟨⟨directory, rfl⟩, Or.inr ⟨target, List.mem_cons_self⟩⟩, fun _ => trivial⟩
    · trivial

theorem follows_restoreRuntimeMailbox (sessionId directory : String) :
    (restoreRuntimeMailbox setting sessionId directory).Follows
      (Asks setting (.restoreRuntimeMailbox sessionId directory)) (fun _ _ => True) [] := by
  apply Program.follows_ask_bind.mpr ⟨⟨directory, rfl⟩, fun source => ?_⟩
  apply Program.follows_ask_bind.mpr ⟨trivial, fun _ => ?_⟩
  apply Program.follows_ask_bind.mpr ⟨trivial, fun reply => ?_⟩
  cases reply with
  | none => trivial
  | some raw =>
      dsimp only
      split
      · trivial
      · next mapping read =>
          have names := names_of_readNonempty read
          split
          · trivial
          · split
            · next own =>
                have found : FoundOwn setting (⟨.get (setting.key sessionId), some raw⟩ ::
                    ⟨.setNX (setting.key sessionId) (Mapping.render ⟨source, directory⟩), ()⟩ ::
                    ⟨.identity sessionId, source⟩ :: []) sessionId :=
                  ⟨source, raw, _, rfl, List.mem_cons_of_mem _ List.mem_cons_self, own ▸ names⟩
                exact Program.follows_ask_bind.mpr
                  ⟨⟨⟨directory, rfl⟩, Or.inl found⟩, fun _ => trivial⟩
            · exact follows_adoptIdentity names

theorem follows_sourceEntry {input : Input} (plan : Plan) :
    (sourceEntry plan).Follows (Asks setting input) (fun _ _ => True) past := by
  unfold sourceEntry
  cases plan.source with
  | none => trivial
  | some source => exact ⟨trivial, fun _ => trivial⟩

theorem follows_applyContinuity (plan : Plan) :
    (applyContinuity setting plan).Follows (Asks setting (.applyContinuity plan))
      (fun _ _ => True) [] := by
  unfold applyContinuity
  split
  · trivial
  · next accepted =>
      have checked : plan.admissible = true ∧ plan.isConsistent setting = true := by
        simp only [not_or, Bool.not_eq_false, ne_eq] at accepted
        exact ⟨accepted.1, accepted.2.2.2⟩
      apply Program.follows_ask_bind.mpr ⟨trivial, fun current => ?_⟩
      apply (follows_sourceEntry plan).bind
      intro later sourceRaw _
      apply Program.follows_ask_bind.mpr ⟨trivial, fun targetRaw => ?_⟩
      split
      · trivial
      · split
        · trivial
        · split
          · trivial
          · apply Program.follows_ask_bind.mpr ⟨checked, fun result => ?_⟩
            split <;> trivial

theorem follows_prepareContinuity (conversation : Conversation)
    (directory target : String) (allowLegacy : Bool) :
    (prepareContinuity setting conversation directory target allowLegacy).Follows
      (Asks setting (.prepareContinuity conversation directory target allowLegacy))
      (fun _ _ => True) [] := by
  apply Program.follows_ask_bind.mpr ⟨trivial, fun raw => ?_⟩
  split
  · split
    · trivial
    · apply Program.follows_ask_bind.mpr ⟨trivial, fun targetRaw => ?_⟩
      split <;> trivial
  · split
    · trivial
    · split
      · trivial
      · apply Program.follows_ask_bind.mpr ⟨trivial, fun sourceRaw => ?_⟩
        apply Program.follows_ask_bind.mpr ⟨trivial, fun targetRaw => ?_⟩
        split <;> trivial

theorem follows_program (input : Input) :
    (program setting input).Follows (Asks setting input) (fun _ _ => True) [] := by
  cases input with
  | restoreRuntimeMailbox sessionId directory =>
      exact follows_restoreRuntimeMailbox sessionId directory
  | prepareContinuity conversation directory target allowLegacy =>
      exact follows_prepareContinuity conversation directory target allowLegacy
  | applyContinuity plan => exact follows_applyContinuity plan

end Follows

/-! ## What the scripts do -/

section Scripts

variable {world : World}

/-- An adoption changes nothing, or all its guards have passed. -/
theorem adoptIdentity_cases (merge : String → String → Option String)
    (sessionId source target key expected : String) :
    ((world.adoptIdentity merge sessionId source target key expected).1 ≠ some 1 ∧
      (world.adoptIdentity merge sessionId source target key expected).2 = world) ∨
    ∃ merged, world.mapping key = some expected ∧ world.record sessionId = some source ∧
      world.lease sessionId = true ∧ sessionId ∈ world.agentSessions source ∧
      ¬world.occupied target ∧
      (world.adoptIdentity merge sessionId source target key expected).2 =
        world.adopted sessionId source target merged := by
  unfold World.adoptIdentity
  split
  · exact Or.inl ⟨by simp, rfl⟩
  · next mapped =>
      split
      · next sourceRaw targetRaw _ _ =>
          split
          · exact Or.inl ⟨by simp, rfl⟩
          · next merged _ =>
              split
              · exact Or.inl ⟨by simp, rfl⟩
              · next owned =>
                  split
                  · exact Or.inl ⟨by simp, rfl⟩
                  · next sole =>
                      split
                      · exact Or.inl ⟨by simp, rfl⟩
                      · next free =>
                          split
                          · exact Or.inl ⟨by simp, rfl⟩
                          · simp only [not_or, ne_eq, not_not, Bool.not_eq_false]
                              at mapped owned sole
                            exact Or.inr ⟨merged, mapped, owned.1, owned.2, sole.2, free, rfl⟩
      · exact Or.inl ⟨by simp, rfl⟩

/-- An apply changes nothing, or it replaces the mapping it expected, which neither
its target nor a named source stops. -/
theorem applyContinuity_cases (plan : Plan) (targetRaw : String) (sourceRaw : Option String) :
    ((world.applyContinuity plan targetRaw sourceRaw).1 ≠ 1 ∧
      (world.applyContinuity plan targetRaw sourceRaw).2 = world) ∨
    (world.mapping plan.mappingKey).getD "" = plan.expectedMapping.getD "" ∧
      ¬world.occupied plan.target ∧
      (plan.source.getD "" ≠ "" → ¬world.occupied (plan.source.getD "")) ∧
      (world.applyContinuity plan targetRaw sourceRaw).2 =
        { world with
          mapping := Function.update world.mapping plan.mappingKey (some plan.desired) } := by
  dsimp only [World.applyContinuity]
  split
  · exact Or.inl ⟨by simp, rfl⟩
  · next expected =>
      split
      · exact Or.inl ⟨by simp, rfl⟩
      · split
        · exact Or.inl ⟨by simp, rfl⟩
        · split
          · exact Or.inl ⟨by simp, rfl⟩
          · next free =>
              split
              · exact Or.inl ⟨by simp, rfl⟩
              · next quiet =>
                  refine Or.inr ⟨not_not.mp expected, free, fun named live => ?_, rfl⟩
                  by_cases same : plan.source.getD "" = plan.target
                  · exact free (same ▸ live)
                  · exact quiet ⟨named, same, Or.inl live⟩

end Scripts

/-! ## The invariant -/

/-- The session is that of the mapped mailbox. -/
structure Attached (setting : Setting) (world : World) (sessionId agent : String) : Prop where
  mapped : ∃ raw, world.mapping (setting.key sessionId) = some raw ∧ Names raw agent
  record : world.record sessionId = some agent

/-- A running sidecar has a live session in the set of a name of its own. -/
structure Live (world : World) : Prop where
  started : world.running ⊆ world.started
  session : ∀ sessionId ∈ world.running, ∃ agent, world.record sessionId = some agent ∧
    sessionId ∈ world.agentSessions agent ∧ world.lease sessionId = true
  distinct : ∀ sessionId ∈ world.running, ∀ other ∈ world.running,
    world.record sessionId = world.record other → sessionId = other

/-- The name of the client lags behind the session only when that is attached, and a
sidecar that has restored has caught up. -/
structure Coherent (setting : Setting) (world : World) : Prop extends Live world where
  client : ∀ sessionId ∈ world.running, world.record sessionId = some (world.identity sessionId) ∨
    ∃ agent, Attached setting world sessionId agent
  restored : ∀ sessionId ∈ world.running, world.restored sessionId = true →
    Attached setting world sessionId (world.identity sessionId)
  restoredStarted : ∀ sessionId, world.restored sessionId = true → sessionId ∈ world.started

/-- What a step leaves to a sidecar. -/
structure Keeps (setting : Setting) (world after : World) (sessionId : String) : Prop where
  started : sessionId ∈ world.started → sessionId ∈ after.started
  running : sessionId ∈ after.running → sessionId ∈ world.running
  attached : sessionId ∈ after.running → ∀ agent, Attached setting world sessionId agent →
    after.mapping (setting.key sessionId) = world.mapping (setting.key sessionId) ∧
      after.record sessionId = world.record sessionId
  record : sessionId ∈ after.running → after.record sessionId = world.record sessionId ∨
    ∃ agent, Attached setting after sessionId agent
  identity : sessionId ∈ after.running → after.identity sessionId = world.identity sessionId ∨
    Attached setting after sessionId (after.identity sessionId)

section Attachment

variable {setting : Setting} {world after : World} {sessionId agent : String}

theorem Names.unique {raw left right : String} (first : Names raw left)
    (second : Names raw right) : left = right := by
  rcases first with ⟨mapping, read, rfl⟩
  rcases second with ⟨other, again, rfl⟩
  rw [read, Option.some.injEq] at again
  rw [again]

theorem Names.ne_empty {raw agent : String} (names : Names raw agent) : raw ≠ "" := by
  rintro rfl
  rcases names with ⟨mapping, read, -⟩
  have nothing : readMapping "" = none := by decide +kernel
  rw [nothing] at read
  cases read

theorem Attached.unique {other : String} (first : Attached setting world sessionId agent)
    (second : Attached setting world sessionId other) : agent = other :=
  Option.some.inj (first.record.symm.trans second.record)

/-- The mailbox of a running sidecar is occupied. -/
theorem Live.occupied (live : Live world) (running : sessionId ∈ world.running)
    (record : world.record sessionId = some agent) : world.occupied agent := by
  rcases live.session sessionId running with ⟨name, isName, member, leased⟩
  rw [record, Option.some.injEq] at isName
  subst isName
  exact Or.inr (Or.inr (Or.inr (Or.inl ⟨sessionId, member, leased⟩)))

theorem Keeps.attach (keeps : Keeps setting world after sessionId)
    (running : sessionId ∈ after.running) (attached : Attached setting world sessionId agent) :
    Attached setting after sessionId agent := by
  rcases keeps.attached running agent attached with ⟨mapping, record⟩
  exact ⟨mapping ▸ attached.mapped, record ▸ attached.record⟩

/-- A step that leaves mapping, record and name of a sidecar alone. -/
theorem Keeps.of_same (started : sessionId ∈ world.started → sessionId ∈ after.started)
    (running : sessionId ∈ after.running → sessionId ∈ world.running)
    (mapping : sessionId ∈ after.running → ∀ agent, Attached setting world sessionId agent →
      after.mapping (setting.key sessionId) = world.mapping (setting.key sessionId))
    (record : sessionId ∈ after.running → after.record sessionId = world.record sessionId)
    (identity : after.identity sessionId = world.identity sessionId) :
    Keeps setting world after sessionId where
  started := started
  running := running
  attached isRunning agent attached := ⟨mapping isRunning agent attached, record isRunning⟩
  record isRunning := Or.inl (record isRunning)
  identity _ := Or.inl identity

/-- A name that the client has or has left for the attached one. -/
theorem Keeps.client (keeps : Keeps setting world after sessionId)
    (running : sessionId ∈ after.running)
    (record : world.record sessionId = some agent ∨
      ∃ name, Attached setting world sessionId name) :
    after.record sessionId = some agent ∨ ∃ name, Attached setting after sessionId name := by
  rcases record with isAgent | ⟨name, attached⟩
  · rcases keeps.record running with same | attached
    · exact Or.inl (same.trans isAgent)
    · exact Or.inr attached
  · exact Or.inr ⟨name, keeps.attach running attached⟩

theorem Keeps.identified (keeps : Keeps setting world after sessionId)
    (running : sessionId ∈ after.running)
    (identity : world.identity sessionId = agent ∨
      Attached setting world sessionId (world.identity sessionId)) :
    after.identity sessionId = agent ∨
      Attached setting after sessionId (after.identity sessionId) := by
  rcases keeps.identity running with same | attached
  · rcases identity with isAgent | attached
    · exact Or.inl (same.trans isAgent)
    · exact Or.inr (same ▸ keeps.attach running attached)
  · exact Or.inr attached

/-- Only a mapping that names the source, or none, can be replaced. -/
theorem Plan.mapped_source {plan : Plan} {raw : String} (admissible : plan.admissible = true)
    (consistent : plan.isConsistent setting = true) (names : Names raw agent)
    (expected : raw = plan.expectedMapping.getD "") :
    plan.source.getD "" = agent ∧ agent ≠ "" := by
  have isExpected : truthy plan.expectedMapping = some raw := by
    cases found : plan.expectedMapping with
    | none =>
        rw [found] at expected
        exact absurd expected names.ne_empty
    | some text =>
        rw [found] at expected
        rw [← show raw = text from expected]
        exact Option.filter_eq_some_iff.mpr ⟨rfl, by simpa using names.ne_empty⟩
  rcases names with ⟨mapping, read, rfl⟩
  rw [Plan.isConsistent, isExpected] at consistent
  simp only [read, Option.any_some, Bool.and_eq_true, beq_iff_eq] at consistent
  rw [Plan.admissible, consistent.1.1] at admissible
  rw [consistent.1.1]
  simp only [Bool.and_eq_true, bne_iff_ne, ne_eq, Option.some.injEq] at admissible
  exact ⟨rfl, admissible.1.1⟩

end Attachment

/-- What a restore has learned of its sidecar, while that runs. -/
structure Learned (setting : Setting) (world : World) (past : Past) (sessionId : String) :
    Prop where
  source : ∀ {source}, ⟨.identity sessionId, source⟩ ∈ past →
    (world.record sessionId = some source ∨ ∃ agent, Attached setting world sessionId agent) ∧
      (world.identity sessionId = source ∨
        Attached setting world sessionId (world.identity sessionId))
  found : ∀ {source raw older}, past = ⟨.get (setting.key sessionId), some raw⟩ :: older →
    ⟨.identity sessionId, source⟩ ∈ older → Names raw source →
    Attached setting world sessionId source
  adopted : ∀ {source target key expected},
    ⟨.adopt sessionId source target key expected, some 1⟩ ∈ past →
    Attached setting world sessionId target
  assigned : ∀ {agent}, ⟨.assign sessionId agent, ()⟩ ∈ past →
    Attached setting world sessionId agent ∧ world.identity sessionId = agent

/-- What is known of one call: a restore is one of a sidecar that has started. -/
def Knows (setting : Setting) (world : World) (_id : Nat)
    (call : Call Input Command Reply Result) : Prop :=
  ∀ sessionId directory, call.input = .restoreRuntimeMailbox sessionId directory →
    sessionId ∈ world.started ∧
      (sessionId ∈ world.running → Learned setting world call.past sessionId)

section Serve

variable {setting : Setting} {world after : World} {id : Nat} {input : Input} {past : Past}
  {rest : Program Command Reply Result}

/-- Adoption moves one session and no other. -/
theorem mem_agentSessions_adopted {sessionId source target merged other name : String}
    (different : other ≠ sessionId) :
    other ∈ (world.adopted sessionId source target merged).agentSessions name ↔
      other ∈ world.agentSessions name := by
  have left : other ∈ Function.update world.agentSessions source
      ((world.agentSessions source).erase sessionId) name ↔ other ∈ world.agentSessions name := by
    by_cases same : name = source
    · subst same
      simp [different]
    · rw [Function.update_of_ne same]
  dsimp only [World.adopted]
  by_cases same : name = target
  · subst same
    rw [Function.update_self, Finset.mem_insert, left]
    simp [different]
  · rw [Function.update_of_ne same]
    exact left

/-- The mapped mailbox of a running sidecar is not adopted again, nor mapped away. -/
theorem serve_keeps {command : Command} (live : Live world)
    (knows : Knows setting world id ⟨input, past, rest⟩) (asks : Asks setting input past command)
    (sessionId : String) :
    Keeps setting world (serve setting.merge id command world).2 sessionId := by
  cases command with
  | setNX key text =>
      dsimp only [serve]
      split
      · next missing =>
          refine Keeps.of_same (fun kept => kept) (fun kept => kept) (fun _ agent attached => ?_)
            (fun _ => rfl) rfl
          rcases attached.mapped with ⟨raw, found, -⟩
          apply Function.update_of_ne
          intro same
          rw [same, missing] at found
          cases found
      · exact Keeps.of_same (fun kept => kept) (fun kept => kept) (fun _ _ _ => rfl)
          (fun _ => rfl) rfl
  | adopt adopting source target key expected =>
      rcases asks with ⟨directory, -, rfl, names⟩
      dsimp only [serve]
      rcases adoptIdentity_cases setting.merge adopting source target (setting.key adopting)
        expected with ⟨-, same⟩ | ⟨merged, mapped, owned, -, -, free, same⟩
      · rw [same]
        exact Keeps.of_same (fun kept => kept) (fun kept => kept) (fun _ _ _ => rfl)
          (fun _ => rfl) rfl
      · rw [same]
        by_cases isAdopting : sessionId = adopting
        · subst isAdopting
          refine ⟨fun kept => kept, fun kept => kept, fun running agent attached => ?_,
            fun _ => Or.inr ⟨target, ⟨expected, mapped, names⟩, Function.update_self ..⟩,
            fun _ => Or.inl rfl⟩
          -- An attached session would have to adopt its own occupied mailbox.
          rcases attached.mapped with ⟨raw, found, isAgent⟩
          rw [mapped, Option.some.injEq] at found
          subst found
          have isTarget := isAgent.unique names
          subst isTarget
          exact absurd (live.occupied running attached.record) free
        · exact Keeps.of_same (fun kept => kept) (fun kept => kept) (fun _ _ _ => rfl)
            (fun _ => Function.update_of_ne isAdopting _ _) rfl
  | assign assigning agentName =>
      rcases asks with ⟨directory, source, key, expected, isInput, adopted⟩
      by_cases isAssigning : sessionId = assigning
      · subst isAssigning
        refine ⟨fun kept => kept, fun kept => kept, fun _ _ _ => ⟨rfl, rfl⟩, fun _ => Or.inl rfl,
          fun running => Or.inr ?_⟩
        have attached := ((knows sessionId directory isInput).2 running).adopted adopted
        have isName : (serve setting.merge id (.assign sessionId agentName) world).2.identity
            sessionId = agentName := Function.update_self ..
        rw [isName]
        exact ⟨attached.mapped, attached.record⟩
      · exact Keeps.of_same (fun kept => kept) (fun kept => kept) (fun _ _ _ => rfl)
          (fun _ => rfl) (Function.update_of_ne isAssigning _ _)
  | apply plan targetRaw sourceRaw =>
      dsimp only [serve]
      rcases @applyContinuity_cases world plan targetRaw sourceRaw with
        ⟨-, same⟩ | ⟨expected, -, free, same⟩
      · rw [same]
        exact Keeps.of_same (fun kept => kept) (fun kept => kept) (fun _ _ _ => rfl)
          (fun _ => rfl) rfl
      · rw [same]
        refine Keeps.of_same (fun kept => kept) (fun kept => kept)
          (fun running agent attached => ?_) (fun _ => rfl) rfl
        rcases attached.mapped with ⟨raw, found, names⟩
        apply Function.update_of_ne
        intro isKey
        rw [← isKey, found, Option.getD_some] at expected
        rcases plan.mapped_source asks.1 asks.2 names expected with ⟨isSource, named⟩
        rw [isSource] at free
        exact free named (live.occupied running attached.record)
  | _ =>
      exact Keeps.of_same (fun kept => kept) (fun kept => kept) (fun _ _ _ => rfl)
        (fun _ => rfl) rfl

theorem Live.served {command : Command} (live : Live world) :
    Live (serve setting.merge id command world).2 := by
  cases command with
  | setNX key text =>
      dsimp only [serve]
      split
      · exact ⟨live.started, live.session, live.distinct⟩
      · exact live
  | adopt adopting source target key expected =>
      dsimp only [serve]
      rcases adoptIdentity_cases setting.merge adopting source target key expected with
        ⟨-, same⟩ | ⟨merged, -, -, leased, -, free, same⟩
      · rw [same]
        exact live
      · rw [same]
        have others : ∀ other, other ≠ adopting →
            (world.adopted adopting source target merged).record other = world.record other :=
          fun other different => Function.update_of_ne different _ _
        have own : (world.adopted adopting source target merged).record adopting = some target :=
          Function.update_self ..
        have taken : ∀ other ∈ world.running, world.record other ≠ some target :=
          fun other running record => free (live.occupied running record)
        refine ⟨live.started, fun sessionId running => ?_, fun sessionId running other alsoRunning
          sameRecord => ?_⟩
        · by_cases isAdopting : sessionId = adopting
          · subst isAdopting
            refine ⟨target, own, ?_, leased⟩
            dsimp only [World.adopted]
            rw [Function.update_self]
            exact Finset.mem_insert_self _ _
          · rcases live.session sessionId running with ⟨agent, record, member, leasedToo⟩
            exact ⟨agent, (others sessionId isAdopting).trans record,
              (mem_agentSessions_adopted isAdopting).mpr member, leasedToo⟩
        · by_cases isAdopting : sessionId = adopting
          · by_cases otherAdopting : other = adopting
            · exact isAdopting.trans otherAdopting.symm
            · rw [isAdopting, own, others other otherAdopting] at sameRecord
              exact absurd sameRecord.symm (taken other alsoRunning)
          · by_cases otherAdopting : other = adopting
            · rw [otherAdopting, own, others sessionId isAdopting] at sameRecord
              exact absurd sameRecord (taken sessionId running)
            · rw [others sessionId isAdopting, others other otherAdopting] at sameRecord
              exact live.distinct sessionId running other alsoRunning sameRecord
  | apply plan targetRaw sourceRaw =>
      dsimp only [serve]
      rcases @applyContinuity_cases world plan targetRaw sourceRaw with
        ⟨-, same⟩ | ⟨-, -, -, same⟩
      · rw [same]
        exact live
      · rw [same]
        exact ⟨live.started, live.session, live.distinct⟩
  | _ => exact ⟨live.started, live.session, live.distinct⟩

theorem Learned.mono {sessionId : String} (learned : Learned setting world past sessionId)
    (keeps : Keeps setting world after sessionId) (running : sessionId ∈ after.running) :
    Learned setting after past sessionId where
  source member := ⟨keeps.client running (learned.source member).1,
    keeps.identified running (learned.source member).2⟩
  found isPast member names := keeps.attach running (learned.found isPast member names)
  adopted member := keeps.attach running (learned.adopted member)
  assigned member := by
    rcases learned.assigned member with ⟨attached, identity⟩
    have still := keeps.attach running attached
    rcases keeps.identified running (Or.inl identity) with same | other
    · exact ⟨still, same⟩
    · exact ⟨still, other.unique still⟩

theorem Knows.mono {call : Call Input Command Reply Result} {other : Nat}
    (knows : Knows setting world other call)
    (keeps : ∀ sessionId ∈ world.started, Keeps setting world after sessionId) :
    Knows setting after other call := by
  intro sessionId directory isInput
  rcases knows sessionId directory isInput with ⟨started, learned⟩
  have kept := keeps sessionId started
  exact ⟨kept.started started,
    fun running => (learned (kept.running running)).mono kept running⟩

theorem Learned.served {command : Command} {sessionId : String} (coherent : Coherent setting world)
    (learned : Learned setting world past sessionId) (running : sessionId ∈ world.running)
    (asks : Asks setting input past command)
    (keeps : Keeps setting world (serve setting.merge id command world).2 sessionId)
    (still : sessionId ∈ (serve setting.merge id command world).2.running) :
    Learned setting (serve setting.merge id command world).2
      (⟨command, (serve setting.merge id command world).1⟩ :: past) sessionId := by
  have earlierLearned := learned.mono keeps still
  refine ⟨fun member => ?_, fun isPast member names => ?_, fun member => ?_, fun member => ?_⟩
  · rcases List.mem_cons.mp member with head | earlier
    · rcases reply_of_head (fun asked => (serve setting.merge id asked world).1) head with
        ⟨isIdentity, rfl⟩
      rw [isIdentity]
      exact ⟨coherent.client sessionId running, Or.inl rfl⟩
    · exact earlierLearned.source earlier
  · rcases List.cons.inj isPast with ⟨head, rfl⟩
    rcases reply_of_head (fun asked => (serve setting.merge id asked world).1) head.symm with
      ⟨isMapping, rfl⟩
    have mapped : world.mapping (setting.key sessionId) = some _ := isMapping.symm
    -- An attached session is attached to the name just read.
    rcases (learned.source member).1 with record | ⟨agent, attached⟩
    · exact ⟨⟨_, mapped, names⟩, record⟩
    · rcases attached.mapped with ⟨raw, found, isAgent⟩
      rw [mapped, Option.some.injEq] at found
      subst found
      exact isAgent.unique names ▸ attached
  · rcases List.mem_cons.mp member with head | earlier
    · rcases reply_of_head (fun asked => (serve setting.merge id asked world).1) head with
        ⟨succeeded, rfl⟩
      rcases asks with ⟨directory, -, rfl, names⟩
      rename_i source target expected
      dsimp only [serve] at succeeded ⊢
      rcases adoptIdentity_cases setting.merge sessionId source target (setting.key sessionId)
        expected with ⟨failed, -⟩ | ⟨merged, mapped, -, -, -, -, same⟩
      · exact absurd succeeded.symm failed
      · rw [same]
        exact ⟨⟨expected, mapped, names⟩, Function.update_self ..⟩
    · exact earlierLearned.adopted earlier
  · rcases List.mem_cons.mp member with head | earlier
    · rcases reply_of_head (fun asked => (serve setting.merge id asked world).1) head with
        ⟨-, rfl⟩
      rcases asks with ⟨directory, source, key, expected, -, adopted⟩
      exact ⟨earlierLearned.adopted adopted, Function.update_self ..⟩
    · exact earlierLearned.assigned earlier

theorem Knows.served {command : Command} {next : Reply command → Program Command Reply Result}
    (coherent : Coherent setting world)
    (knows : Knows setting world id ⟨input, past, .call command next⟩)
    (asks : Asks setting input past command) :
    Knows setting (serve setting.merge id command world).2 id
      ⟨input, ⟨command, (serve setting.merge id command world).1⟩ :: past,
        next (serve setting.merge id command world).1⟩ := by
  intro sessionId directory isInput
  rcases knows sessionId directory isInput with ⟨started, learned⟩
  have kept := serve_keeps coherent.toLive knows asks sessionId
  refine ⟨kept.started started, fun running => ?_⟩
  exact (learned (kept.running running)).served coherent (kept.running running) asks kept running

theorem Coherent.keep (coherent : Coherent setting world) (live : Live after)
    (keeps : ∀ sessionId ∈ world.started, Keeps setting world after sessionId)
    (fresh : ∀ sessionId ∈ after.running, sessionId ∉ world.started →
      after.record sessionId = some (after.identity sessionId))
    (restored : ∀ sessionId, after.restored sessionId = true →
      world.restored sessionId = true ∨ sessionId ∈ world.started ∧
        (sessionId ∈ after.running →
          Attached setting after sessionId (after.identity sessionId))) :
    Coherent setting after where
  toLive := live
  client sessionId running := by
    by_cases started : sessionId ∈ world.started
    · have kept := keeps sessionId started
      rcases kept.client running (coherent.client sessionId (kept.running running)) with
        record | attached
      · rcases kept.identity running with same | attached
        · exact Or.inl (same ▸ record)
        · exact Or.inr ⟨_, attached⟩
      · exact Or.inr attached
    · exact Or.inl (fresh sessionId running started)
  restored sessionId running isRestored := by
    rcases restored sessionId isRestored with already | ⟨-, attached⟩
    · have kept := keeps sessionId (coherent.restoredStarted sessionId already)
      have attached := kept.attach running
        (coherent.restored sessionId (kept.running running) already)
      rcases kept.identity running with same | attachedToo
      · rwa [same]
      · exact attachedToo
    · exact attached running
  restoredStarted sessionId isRestored := by
    rcases restored sessionId isRestored with already | ⟨started, -⟩
    · have started := coherent.restoredStarted sessionId already
      exact (keeps sessionId started).started started
    · exact (keeps sessionId started).started started

/-- No command starts or stops a sidecar, and only the end of a restore marks one. -/
theorem serve_frame (command : Command) :
    (serve setting.merge id command world).2.running = world.running ∧
      ((∀ sessionId, command ≠ .complete sessionId) →
        (serve setting.merge id command world).2.restored = world.restored) := by
  cases command with
  | complete completed => exact ⟨rfl, fun other => absurd rfl (other completed)⟩
  | setNX key text =>
      dsimp only [serve]
      split <;> exact ⟨rfl, fun _ => rfl⟩
  | adopt adopting source target key expected =>
      dsimp only [serve]
      rcases adoptIdentity_cases setting.merge adopting source target key expected with
        ⟨-, same⟩ | ⟨merged, -, -, -, -, -, same⟩
      · rw [same]
        exact ⟨rfl, fun _ => rfl⟩
      · rw [same]
        exact ⟨rfl, fun _ => rfl⟩
  | apply plan targetRaw sourceRaw =>
      dsimp only [serve]
      rcases @applyContinuity_cases world plan targetRaw sourceRaw with
        ⟨-, same⟩ | ⟨-, -, -, same⟩
      · rw [same]
        exact ⟨rfl, fun _ => rfl⟩
      · rw [same]
        exact ⟨rfl, fun _ => rfl⟩
  | _ => exact ⟨rfl, fun _ => rfl⟩

/-- A sidecar is attached when its restore ends. -/
theorem restored_served {command : Command} {sessionId : String}
    (knows : Knows setting world id ⟨input, past, rest⟩) (asks : Asks setting input past command)
    (restored : (serve setting.merge id command world).2.restored sessionId = true) :
    world.restored sessionId = true ∨ sessionId ∈ world.started ∧
      (sessionId ∈ (serve setting.merge id command world).2.running →
        Attached setting (serve setting.merge id command world).2 sessionId
          ((serve setting.merge id command world).2.identity sessionId)) := by
  cases command with
  | complete completed =>
      by_cases isCompleted : sessionId = completed
      · subst isCompleted
        rcases asks with ⟨⟨directory, isInput⟩, path⟩
        rcases knows sessionId directory isInput with ⟨started, learned⟩
        refine Or.inr ⟨started, fun running => ?_⟩
        have known := learned running
        have attached : Attached setting world sessionId (world.identity sessionId) := by
          rcases path with ⟨source, raw, older, isPast, member, names⟩ | ⟨agent, assigned⟩
          · have attached := known.found isPast member names
            have read := (known.source (isPast ▸ List.mem_cons_of_mem _ member)).2
            rcases read with same | attachedToo
            · rwa [same]
            · exact attachedToo
          · rcases known.assigned assigned with ⟨attached, same⟩
            rwa [same]
        exact ⟨attached.mapped, attached.record⟩
      · have same : (serve setting.merge id (.complete completed) world).2.restored sessionId =
            world.restored sessionId := Function.update_of_ne isCompleted _ _
        exact Or.inl (same ▸ restored)
  | _ =>
      rw [(serve_frame _).2 (by simp)] at restored
      exact Or.inl restored

end Serve

/-! ## Runs -/

section Runs

variable {setting : Setting} {world after : World}

theorem moves_keep (moves : Moves world after) (sessionId : String)
    (started : sessionId ∈ world.started) : Keeps setting world after sessionId := by
  cases moves with
  | started fresh name isFresh unlisted unused noSessions =>
      have different : sessionId ≠ fresh := fun same => isFresh (same ▸ started)
      exact Keeps.of_same (fun kept => Finset.mem_insert_of_mem kept)
        (fun running => (Finset.mem_insert.mp running).resolve_left different)
        (fun _ _ _ => rfl) (fun _ => Function.update_of_ne different _ _)
        (Function.update_of_ne different _ _)
  | stopped stopping =>
      exact Keeps.of_same (fun kept => kept) (fun running => Finset.mem_of_mem_erase running)
        (fun _ _ _ => rfl) (fun _ => rfl) rfl
  | sessions record lease agentSessions sameRecord sameLease sameSets =>
      exact Keeps.of_same (fun kept => kept) (fun kept => kept) (fun _ _ _ => rfl)
        (fun running => sameRecord sessionId running) rfl
  | signals =>
      exact Keeps.of_same (fun kept => kept) (fun kept => kept) (fun _ _ _ => rfl)
        (fun _ => rfl) rfl

theorem Live.moved (live : Live world) (moves : Moves world after) : Live after := by
  cases moves with
  | started fresh name isFresh unlisted unused noSessions =>
      have notFresh : ∀ sessionId ∈ world.running, sessionId ≠ fresh :=
        fun sessionId running same => isFresh (same ▸ live.started running)
      have others : ∀ sessionId ∈ world.running,
          Function.update world.record fresh (some name) sessionId = world.record sessionId :=
        fun sessionId running => Function.update_of_ne (notFresh sessionId running) _ _
      have own : Function.update world.record fresh (some name) fresh = some name :=
        Function.update_self ..
      refine ⟨Finset.insert_subset_insert _ live.started, fun sessionId running => ?_,
        fun sessionId running other alsoRunning sameRecord => ?_⟩
      · dsimp only
        rcases Finset.mem_insert.mp running with rfl | earlier
        · exact ⟨name, own, by simp, Function.update_self ..⟩
        · rcases live.session sessionId earlier with ⟨agent, record, member, leased⟩
          have different : agent ≠ name := fun same => unused sessionId (same ▸ record)
          refine ⟨agent, (others sessionId earlier).trans record, ?_,
            (Function.update_of_ne (notFresh sessionId earlier) _ _).trans leased⟩
          rwa [Function.update_of_ne different]
      · dsimp only at sameRecord
        rcases Finset.mem_insert.mp running with rfl | earlier
        · rcases Finset.mem_insert.mp alsoRunning with rfl | otherEarlier
          · rfl
          · rw [own, others other otherEarlier] at sameRecord
            exact absurd sameRecord.symm (unused other)
        · rcases Finset.mem_insert.mp alsoRunning with rfl | otherEarlier
          · rw [own, others sessionId earlier] at sameRecord
            exact absurd sameRecord (unused sessionId)
          · rw [others sessionId earlier, others other otherEarlier] at sameRecord
            exact live.distinct sessionId earlier other otherEarlier sameRecord
  | stopped stopping =>
      refine ⟨(Finset.erase_subset _ _).trans live.started, fun sessionId running => ?_,
        fun sessionId running other alsoRunning => ?_⟩
      · exact live.session sessionId (Finset.mem_of_mem_erase running)
      · exact live.distinct sessionId (Finset.mem_of_mem_erase running) other
          (Finset.mem_of_mem_erase alsoRunning)
  | sessions record lease agentSessions sameRecord sameLease sameSets =>
      refine ⟨live.started, fun sessionId running => ?_,
        fun sessionId running other alsoRunning same => ?_⟩
      · rcases live.session sessionId running with ⟨agent, isAgent, member, leased⟩
        exact ⟨agent, (sameRecord sessionId running).trans isAgent,
          (sameSets sessionId running agent).mpr member,
          (sameLease sessionId running).trans leased⟩
      · dsimp only at same
        rw [sameRecord sessionId running, sameRecord other alsoRunning] at same
        exact live.distinct sessionId running other alsoRunning same
  | signals => exact ⟨live.started, live.session, live.distinct⟩

theorem Coherent.moved (coherent : Coherent setting world) (moves : Moves world after) :
    Coherent setting after := by
  apply coherent.keep (coherent.toLive.moved moves) (moves_keep moves)
  · intro sessionId running unstarted
    cases moves with
    | started fresh name isFresh unlisted unused noSessions =>
        rcases Finset.mem_insert.mp running with rfl | earlier
        · dsimp only
          rw [Function.update_self, Function.update_self]
        · exact absurd (coherent.started earlier) unstarted
    | stopped stopping =>
        exact absurd (coherent.started (Finset.mem_of_mem_erase running)) unstarted
    | sessions => exact absurd (coherent.started running) unstarted
    | signals => exact absurd (coherent.started running) unstarted
  · intro sessionId restored
    cases moves <;> exact Or.inl restored

theorem Coherent.served {id : Nat} {input : Input} {past : Past} {command : Command}
    {rest : Program Command Reply Result} (coherent : Coherent setting world)
    (knows : Knows setting world id ⟨input, past, rest⟩) (asks : Asks setting input past command) :
    Coherent setting (serve setting.merge id command world).2 := by
  apply coherent.keep coherent.toLive.served
  · intro sessionId _
    exact serve_keeps coherent.toLive knows asks sessionId
  · intro sessionId running unstarted
    rw [(serve_frame command).1] at running
    exact absurd (coherent.started running) unstarted
  · intro sessionId restored
    exact restored_served knows asks restored

theorem preserves_coherent :
    Protocol.Preserves (continuityProtocol setting)
      (fun world id call command =>
        anyStep world id call command ∧ Asks setting call.input call.past command)
      (Coherent setting) (Knows setting) (fun _ _ => True) where
  opened {world id input} coherent _ opens := by
    intro sessionId directory isInput
    have isRestore : input = .restoreRuntimeMailbox sessionId directory := isInput
    subst isRestore
    have running : sessionId ∈ world.running := opens
    refine ⟨coherent.started running, fun _ => ⟨fun member => ?_, fun isPast => ?_,
      fun member => ?_, fun member => ?_⟩⟩
    · cases member
    · cases isPast
    · cases member
    · cases member
  served {world id input past command next} coherent knows meets := by
    refine ⟨coherent.served knows meets.2, knows.served coherent meets.2,
      fun other _ => ⟨fun call known => ?_, fun _ => trivial⟩⟩
    exact known.mono fun sessionId _ => serve_keeps coherent.toLive knows meets.2 sessionId
  moved {world after} coherent moves :=
    ⟨coherent.moved moves,
      fun _ => ⟨fun _ known => known.mono (moves_keep moves), fun _ => trivial⟩⟩

theorem coherent_of_initial (initial : Initial world) : Coherent setting world where
  started := by simp [initial.running]
  session := by simp [initial.running]
  distinct := by simp [initial.running]
  client := by simp [initial.running]
  restored := by simp [initial.running]
  restoredStarted sessionId restored := by
    rw [initial.restored sessionId] at restored
    cases restored

theorem holds_of_reachable {system : ContinuitySystem}
    (reached : (continuityProtocol setting).Reachable anyStep Initial system) :
    Protocol.Holds (Coherent setting) (Knows setting) (fun _ _ => True) system :=
  (reached.asking follows_program).invariant
    (fun _ initial => ⟨coherent_of_initial initial, fun _ => trivial⟩) preserves_coherent

/-- A mark is never taken back. -/
theorem restored_of_restored {id : Nat} {command : Command} {sessionId : String}
    (restored : world.restored sessionId = true) :
    (serve setting.merge id command world).2.restored sessionId = true := by
  by_cases completes : ∃ completed, command = .complete completed
  · rcases completes with ⟨completed, rfl⟩
    dsimp only [serve]
    by_cases same : sessionId = completed
    · rw [same, Function.update_self]
    · rwa [Function.update_of_ne same]
  · rwa [(serve_frame command).2 (not_exists.mp completes)]

/-- A sidecar that has restored goes on undisturbed as long as it runs. -/
structure Undisturbed (setting : Setting) (world after : World) (sessionId : String) : Prop where
  mapping : after.mapping (setting.key sessionId) = world.mapping (setting.key sessionId)
  identity : after.identity sessionId = world.identity sessionId
  restored : after.restored sessionId = true

theorem undisturbed_of_keeps {sessionId : String} (coherent : Coherent setting world)
    (keeps : Keeps setting world after sessionId) (running : sessionId ∈ after.running)
    (restored : world.restored sessionId = true) (still : after.restored sessionId = true) :
    Undisturbed setting world after sessionId := by
  have attached := coherent.restored sessionId (keeps.running running) restored
  refine ⟨(keeps.attached running _ attached).1, ?_, still⟩
  rcases keeps.identity running with same | attachedToo
  · exact same
  · exact attachedToo.unique (keeps.attach running attached)

theorem keeps_of_step {system next : ContinuitySystem}
    (reached : (continuityProtocol setting).Reachable anyStep Initial system)
    (step : (continuityProtocol setting).Step anyStep system next) (sessionId : String)
    (started : sessionId ∈ system.world.started) :
    Keeps setting system.world next.world sessionId ∧
      (system.world.restored sessionId = true → next.world.restored sessionId = true) := by
  have holds := holds_of_reachable reached
  have follows := reached.follows follows_program
  cases step with
  | opened unused opens =>
      exact ⟨Keeps.of_same (fun kept => kept) (fun kept => kept) (fun _ _ _ => rfl)
        (fun _ => rfl) rfl, fun restored => restored⟩
  | @served id input past command rest running meets =>
      exact ⟨serve_keeps holds.shared.toLive (holds.own id _ running) (follows id _ running).1
        sessionId, restored_of_restored⟩
  | moved moves =>
      refine ⟨moves_keep moves sessionId started, fun restored => ?_⟩
      cases moves <;> exact restored

/-- By induction on the run: a sidecar that still runs has run all along. -/
theorem undisturbed_of_steps {system later : ContinuitySystem}
    (reached : (continuityProtocol setting).Reachable anyStep Initial system)
    (steps : Relation.ReflTransGen ((continuityProtocol setting).Step anyStep) system later)
    (sessionId : String) (started : sessionId ∈ system.world.started)
    (restored : system.world.restored sessionId = true) :
    sessionId ∈ later.world.started ∧ (sessionId ∈ later.world.running →
      Undisturbed setting system.world later.world sessionId) := by
  induction steps with
  | refl => exact ⟨started, fun _ => ⟨rfl, rfl, restored⟩⟩
  | tail earlier step induction =>
      have midReached := reached.steps earlier
      rcases keeps_of_step midReached step sessionId induction.1 with ⟨keeps, still⟩
      refine ⟨keeps.started induction.1, fun running => ?_⟩
      have before := induction.2 (keeps.running running)
      have next := undisturbed_of_keeps (holds_of_reachable midReached).shared keeps running
        before.restored (still before.restored)
      exact ⟨next.mapping.trans before.mapping, next.identity.trans before.identity,
        next.restored⟩

/-- What is true of the running sidecars that have restored their mailbox. -/
structure OneSidecar (setting : Setting) (world : World) : Prop where
  unique : ∀ sessionId ∈ world.running, ∀ other ∈ world.running,
    world.restored sessionId = true → world.restored other = true →
    setting.conversation sessionId = setting.conversation other → sessionId = other
  mapped : ∀ sessionId ∈ world.running, world.restored sessionId = true →
    ∃ raw, world.mapping (setting.key sessionId) = some raw ∧
      Names raw (world.identity sessionId)
  alone : ∀ sessionId ∈ world.running, world.restored sessionId = true →
    ∀ other ∈ world.running, world.record other = some (world.identity sessionId) →
      other = sessionId
  /-- Neither path takes the name. -/
  adoption : ∀ sessionId ∈ world.running, world.restored sessionId = true →
    ∀ other source key expected, (world.adoptIdentity setting.merge other source
      (world.identity sessionId) key expected).1 ≠ some 1
  apply : ∀ sessionId ∈ world.running, world.restored sessionId = true →
    ∀ plan targetRaw sourceRaw, plan.target = world.identity sessionId →
      (world.applyContinuity plan targetRaw sourceRaw).1 ≠ 1

theorem Coherent.oneSidecar (coherent : Coherent setting world) : OneSidecar setting world where
  unique sessionId running other alsoRunning restored otherRestored same := by
    have attached := coherent.restored sessionId running restored
    have otherAttached := coherent.restored other alsoRunning otherRestored
    have sameKey : setting.key sessionId = setting.key other :=
      congrArg setting.mailboxKey same
    rcases attached.mapped with ⟨raw, found, names⟩
    rcases otherAttached.mapped with ⟨otherRaw, otherFound, otherNames⟩
    rw [← sameKey, found, Option.some.injEq] at otherFound
    subst otherFound
    apply coherent.distinct sessionId running other alsoRunning
    rw [attached.record, otherAttached.record, names.unique otherNames]
  mapped sessionId running restored := (coherent.restored sessionId running restored).mapped
  alone sessionId running restored other alsoRunning record := by
    apply coherent.distinct other alsoRunning sessionId running
    rw [record, (coherent.restored sessionId running restored).record]
  adoption sessionId running restored other source key expected := by
    have attached := coherent.restored sessionId running restored
    rcases adoptIdentity_cases setting.merge other source (world.identity sessionId) key
      expected with ⟨refused, -⟩ | ⟨merged, -, -, -, -, free, -⟩
    · exact refused
    · exact absurd (coherent.toLive.occupied running attached.record) free
  apply sessionId running restored plan targetRaw sourceRaw isTarget := by
    have attached := coherent.restored sessionId running restored
    rcases @applyContinuity_cases world plan targetRaw sourceRaw with
      ⟨refused, -⟩ | ⟨-, free, -, -⟩
    · exact refused
    · rw [isTarget] at free
      exact absurd (coherent.toLive.occupied running attached.record) free

/-- In every run at most one running sidecar of a conversation has restored. Its name
is the mapped one, nobody takes it, and in every later state in which the sidecar still
runs both are what they were. -/
theorem one_sidecar_per_conversation {setting : Setting} {system : ContinuitySystem}
    (reached : (continuityProtocol setting).Reachable anyStep Initial system) :
    OneSidecar setting system.world ∧
      ∀ later, Relation.ReflTransGen ((continuityProtocol setting).Step anyStep) system later →
        ∀ sessionId ∈ system.world.running, system.world.restored sessionId = true →
          sessionId ∈ later.world.running →
          Undisturbed setting system.world later.world sessionId := by
  have holds := holds_of_reachable reached
  refine ⟨holds.shared.oneSidecar, fun later steps sessionId running restored still => ?_⟩
  exact (undisturbed_of_steps reached steps sessionId (holds.shared.started running)
    restored).2 still

end Runs

/-! Two sidecars of one conversation that both read its mapping to an old mailbox
before either of them adopts it. -/

section Schedule

def oneConversation : Setting where
  mailboxKey conversation :=
    if conversation = ⟨"codex", "thread-1"⟩ then
      "gptq:runtime-mailbox:618b41277fc2e6ef412e5f7d3e346b9da75ca091c753a634f91790f3943cd8f9"
    else conversation.client ++ conversation.runtimeId
  conversation _ := ⟨"codex", "thread-1"⟩
  resolve directory := directory
  fingerprint raw := raw.getD "<missing>"
  redisNamespace := ""
  merge _ _ := some "\x7b\"metadata\":\x7b\x7d\x7d"

def oldMailbox : World where
  mapping _ := some (Mapping.render ⟨"mailbox", "/work"⟩)
  registry _ := some "\x7b\x7d"
  record _ := none
  lease _ := false
  agentSessions _ := ∅
  runtimeBinding _ := false
  heartbeat _ := false
  wrapperClaim _ := false
  claimed _ := false
  queued _ := false
  outbound _ := false
  running := ∅
  started := ∅
  identity _ := ""
  restored _ := false

/-- The world after a sidecar has started. -/
def World.start (world : World) (sessionId name : String) : World :=
  { world with
    record := Function.update world.record sessionId (some name)
    lease := Function.update world.lease sessionId true
    agentSessions := Function.update world.agentSessions name {sessionId}
    running := insert sessionId world.running
    started := insert sessionId world.started
    identity := Function.update world.identity sessionId name }

def bothStarted : World := (oldMailbox.start "s1" "worker-1").start "s2" "worker-2"

def advances (system : ContinuitySystem) (id count : Nat) : ContinuitySystem :=
  (fun before => (continuityProtocol oneConversation).advance before id)^[count] system

def bothReading : ContinuitySystem :=
  advances ((continuityProtocol oneConversation).start
    (advances ((continuityProtocol oneConversation).start ⟨bothStarted, fun _ => none⟩ 1
      (.restoreRuntimeMailbox "s1" "/work")) 1 3) 2 (.restoreRuntimeMailbox "s2" "/work")) 2 3

def firstAdopted : ContinuitySystem := advances bothReading 1 4

def secondRefused : ContinuitySystem := advances firstAdopted 2 2

theorem opens_of_running {world : World} {sessionId directory : String}
    (running : sessionId ∈ world.running) : (continuityProtocol oneConversation).opens world
      (.restoreRuntimeMailbox sessionId directory) := running

theorem firstAdopted_reachable :
    (continuityProtocol oneConversation).Reachable anyStep Initial firstAdopted := by
  have empty : (continuityProtocol oneConversation).Reachable anyStep Initial
      ⟨oldMailbox, fun _ => none⟩ := Protocol.Reachable.init ⟨rfl, rfl, fun _ => rfl⟩
  have first : Moves oldMailbox (oldMailbox.start "s1" "worker-1") :=
    .started "s1" "worker-1" (by decide) (fun _ => by simp [oldMailbox])
      (fun _ => by simp [oldMailbox]) rfl
  have second : Moves (oldMailbox.start "s1" "worker-1") bothStarted := by
    refine .started "s2" "worker-2" (by decide) (fun other => ?_) (fun other => ?_) (by decide)
    · dsimp only [World.start, oldMailbox]
      by_cases same : other = "worker-1"
      · subst same
        decide
      · rw [Function.update_of_ne same]
        decide
    · dsimp only [World.start, oldMailbox]
      by_cases same : other = "s1"
      · subst same
        decide
      · rw [Function.update_of_ne same]
        decide
  have started := (empty.moved first).moved second
  have reading := (started.start 1 (.restoreRuntimeMailbox "s1" "/work") rfl
    (opens_of_running (by decide))).advances 1 3 fun _ _ _ _ => trivial
  have both : (continuityProtocol oneConversation).Reachable anyStep Initial bothReading :=
    (reading.start 2 (.restoreRuntimeMailbox "s2" "/work") (by decide +kernel)
      (opens_of_running (by decide +kernel))).advances 2 3 fun _ _ _ _ => trivial
  exact both.advances 1 4 fun _ _ _ _ => trivial

theorem second_sidecar_refused :
    firstAdopted.world.identity "s1" = "mailbox" ∧
      secondRefused.world.restored "s2" = false ∧
      OneSidecar oneConversation firstAdopted.world ∧
      Undisturbed oneConversation firstAdopted.world secondRefused.world "s1" := by
  rcases one_sidecar_per_conversation firstAdopted_reachable with ⟨one, undisturbed⟩
  have steps : Relation.ReflTransGen ((continuityProtocol oneConversation).Step anyStep)
      firstAdopted secondRefused := Protocol.steps_advances 2 2 fun _ _ _ _ => trivial
  exact ⟨by decide +kernel, by decide +kernel, one,
    undisturbed _ steps "s1" (by decide +kernel) (by decide +kernel) (by decide +kernel)⟩

end Schedule

end GptQueue.Continuity
