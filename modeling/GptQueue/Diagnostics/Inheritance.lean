import GptQueue.Diagnostics.Report

/-! # What a name inherits

A client unregisters its name, and the name is registered again. The reports
about the new owner are those about a name that was never used exactly when no
profile, no runtime binding and no activation had been left under it: the script
behind `unregister` does not delete these three keys.
-/

namespace GptQueue.Diagnostics

open Redis
open Redis.Script
open GptQueue.Registration

/-! ## Reports that cannot be told apart -/

/-- Two keyspaces that say the same about an agent. -/
structure Alike (host : Host) (agent : String) (left right : Keyspace Key) : Prop where
  typed : WellTyped left
  typedRight : WellTyped right
  registered : registryRecord left agent ≠ []
  registeredRight : registryRecord right agent ≠ []
  field : ∀ name ∈ ["role", "description", "metadata"],
    (Json.object (registryRecord left agent)).field name =
      (Json.object (registryRecord right agent)).field name
  online : present (leased left) left agent = present (leased right) right agent
  profile : record (json (left.text (.agentProfile agent))) =
    record (json (right.text (.agentProfile agent)))
  binding : safeBinding (left.text (.runtimeBinding agent)) =
    safeBinding (right.text (.runtimeBinding agent))
  activation : activationOf host (left.text (.activation agent)) =
    activationOf host (right.text (.activation agent))
  queue : left.value (.queue agent) = none
  queueRight : right.value (.queue agent) = none
  index : left.value (.claimsIndex agent) = none
  indexRight : right.value (.claimsIndex agent) = none
  dlq : left.value (.dlq agent) = right.value (.dlq agent)
  events : left.value (.inboxEvents agent) = right.value (.inboxEvents agent)
  trace : left.value (.inboxTrace agent) = right.value (.inboxTrace agent)

theorem mem_of_registryRecord {keyspace : Keyspace Key} {agent : String}
    (registered : registryRecord keyspace agent ≠ []) : agent ∈ keyspace.fields .registry := by
  rw [← AList.lookup_isSome]
  cases found : (keyspace.fields .registry).lookup agent with
  | some raw => rfl
  | none =>
      rw [registryRecord, found] at registered
      exact absurd rfl registered

namespace Alike

variable {host : Host} {agent : String} {left right : Keyspace Key}
  (alike : Alike host agent left right)

include alike

theorem metadataOf_eq : metadataOf (registryRecord left agent) =
    metadataOf (registryRecord right agent) := by
  rw [metadataOf, metadataOf, alike.field "metadata" (by simp)]

theorem discoveryRecord_eq (online : Bool) :
    discoveryRecord host agent (registryRecord left agent) online =
      discoveryRecord host agent (registryRecord right agent) online := by
  simp only [discoveryRecord, textField, alike.field "role" (by simp),
    alike.field "description" (by simp), alike.field "metadata" (by simp)]

theorem details_eq : details host (leased left) left agent =
    details host (leased right) right agent := by
  have profile : safeProfile (left.text (.agentProfile agent)) =
      safeProfile (right.text (.agentProfile agent)) := by
    rw [safeProfile, safeProfile, alike.profile]
  rw [details_admitted (alike.typed .registry) (admitted_of_wellTyped alike.typed _) alike.registered,
    details_admitted (alike.typedRight .registry) (admitted_of_wellTyped alike.typedRight _)
      alike.registeredRight]
  simp only [describe, alike.online, alike.metadataOf_eq, alike.discoveryRecord_eq, alike.binding,
    alike.activation, profile, Keyspace.items, Keyspace.scores, alike.queue, alike.queueRight,
    alike.index, alike.indexRight, alike.dlq]

theorem finds_eq (filters : Filters) : finds host (leased left) left filters agent =
    finds host (leased right) right filters agent := by
  simp only [finds, passes, isOnline, replied_typed _ (alike.typed _), replied_typed _ (alike.typedRight _),
    get_typed (alike.typed _), get_typed (alike.typedRight _), Option.map_some, alike.online,
    alike.metadataOf_eq, alike.discoveryRecord_eq, alike.binding, alike.profile,
    Option.bind_eq_bind, Option.bind_some]

theorem pending_eq : Mailbox.pending host.numbers left agent =
    Mailbox.pending host.numbers right agent := by
  simp only [Mailbox.pending, Keyspace.admits, Keyspace.items, alike.queue, alike.queueRight,
    Value.items_none]
  rfl

theorem report_eq (filters : Filters) : report host left filters agent =
    report host right filters agent := by
  simp only [report, alike.details_eq, alike.finds_eq, alike.pending_eq,
    mem_of_registryRecord alike.registered, mem_of_registryRecord alike.registeredRight,
    outstandingClaims, Keyspace.items, Keyspace.scores, alike.index, alike.indexRight, alike.dlq,
    alike.events, alike.trace, Value.scores_none]
  rfl

end Alike

/-! ## Unregistration -/

/-- The keys that an unregistration can change. -/
def isUnregisterKey : Key → Bool
  | .queue _ => true
  | .mailboxMeta _ => true
  | .session _ => true
  | .lease _ => true
  | .agentSessions _ => true
  | .registry => true
  | .heartbeat _ => true
  | .inboxEvents _ => true
  | .inboxTrace _ => true
  | .claims => true
  | .claimsIndex _ => true
  | .recoverCountFor _ => true
  | .dlq _ => true
  | _ => false

theorem isUnregisterKey_of_isCounter {key : Key} (counter : key.isCounter = true) :
    isUnregisterKey key = true := by
  cases key <;> first | rfl | cases counter

theorem settles_delCounters {keys : List (Option Key)}
    (counters : ∀ key ∈ keys, key.all Key.isCounter = true) :
    Settles (isUnregisterKey ·) (Claims.delCounters keys) := by
  induction keys with
  | nil => exact Settles.pure ()
  | cons key rest induction =>
      have later := induction fun other member => counters other (List.mem_cons_of_mem _ member)
      cases key with
      | none => exact later
      | some key =>
          have counter : key.isCounter = true := counters (some key) List.mem_cons_self
          exact Settles.bind (settles_del (isUnregisterKey_of_isCounter counter)) fun _ => later

/-- The last deletions of a purge. -/
theorem run_purge_deletes (cjson : Cjson) (actor : String) {keyspace : Keyspace Key}
    (typed : WellTyped keyspace) :
    ∃ count middle, WellTyped middle ∧ SameOutside (isUnregisterKey ·) keyspace middle ∧
      (Claims.purgeActorClaims cjson actor).run keyspace = (.ok count,
        (((middle.store (.claimsIndex actor) none).store (.dlq actor) none).store
          (.inboxEvents actor) none).store (.inboxTrace actor) none) := by
  rcases Claims.run_purgeIndexed cjson actor keyspace
    (sortedMembers (keyspace.scores (.claimsIndex actor))) with
    ⟨counters, erased, ran, counted, erasure⟩
  have erasedTyped := erasure.typed typed
  have allCounters : ∀ key ∈ counters ++ (erased.items (.dlq actor)).map fun payload =>
      Claims.counterKey cjson (some actor) (.string payload),
      key.all Key.isCounter = true := by
    intro key member
    rcases List.mem_append.mp member with first | later
    · exact counted.isCounter key first
    · rcases List.mem_map.mp later with ⟨payload, -, rfl⟩
      exact Claims.isCounter_counterKey cjson _ _
  rcases settles_delCounters allCounters erased erasedTyped with
    ⟨⟨⟩, middle, deleted, middleTyped, quiet⟩
  refine ⟨(sortedMembers (keyspace.scores (.claimsIndex actor))).length, middle, middleTyped,
    ?_, ?_⟩
  · intro key outside
    rw [quiet.value key outside, erasure.value key]
    rintro rfl
    exact outside rfl
  · rw [Claims.purgeActorClaims, Script.run_bind_ok (Claims.run_indexedIds actor keyspace),
      Script.run_bind_ok ran, Script.run_bind_ok (Claims.run_deadPayloads actor erased),
      Script.run_bind_ok deleted]
    rfl

/-- What an unregistration leaves of a name. -/
structure Cleared (name : String) (before after : Keyspace Key) : Prop where
  typed : WellTyped after
  queue : after.value (.queue name) = none
  index : after.value (.claimsIndex name) = none
  dlq : after.value (.dlq name) = none
  events : after.value (.inboxEvents name) = none
  trace : after.value (.inboxTrace name) = none
  others : SameOutside (isUnregisterKey ·) before after

theorem run_unregister_cleared (cjson : Cjson) {keyspace : Keyspace Key}
    (typed : WellTyped keyspace) (name sessionId : String) :
    Cleared name keyspace ((Claims.unregister cjson name sessionId).run keyspace).2 := by
  have opening : Settles (isUnregisterKey ·) (do
      Script.when (sessionId ≠ "") (do
        del (.session sessionId)
        del (.lease sessionId)
        srem (.agentSessions name) sessionId)
      hdel .registry name) := by
    refine Settles.bind (Settles.when ?_) fun _ => settles_hdel (by rfl) rfl name
    refine Settles.bind (settles_del (by rfl)) fun _ => ?_
    exact Settles.bind (settles_del (by rfl)) fun _ => settles_srem (by rfl) rfl sessionId
  rcases opening keyspace typed with ⟨⟨⟩, retired, retirement, retiredTyped, quiet⟩
  rcases run_purge_deletes cjson name retiredTyped with
    ⟨count, middle, middleTyped, same, purged⟩
  rcases Script.of_run_bind_ok retirement with ⟨⟨⟩, closed, closing, later⟩
  rw [Claims.unregister, Script.run_bind_ok closing, Script.run_bind_ok later,
    Script.run_bind_ok purged]
  constructor
  · exact ((((((middleTyped.store rfl).store rfl).store rfl).store rfl).store rfl).store
      rfl).store rfl
  · simp [Script.run_bind, del]
  · simp [Script.run_bind, del]
  · simp [Script.run_bind, del]
  · simp [Script.run_bind, del]
  · simp [Script.run_bind, del]
  · intro key outside
    rw [← quiet.value key outside, ← same key outside]
    have different : ∀ inside : Key, isUnregisterKey inside = true → key ≠ inside := by
      rintro inside member rfl
      exact outside member
    simp [Script.run_bind, del, different (.heartbeat name) rfl,
      different (.mailboxMeta name) rfl, different (.queue name) rfl,
      different (.inboxTrace name) rfl, different (.inboxEvents name) rfl,
      different (.dlq name) rfl, different (.claimsIndex name) rfl]

/-! ## Runs -/

/-- The parameters of `set_agent_profile`. -/
structure ProfileParams where
  label : String
  purpose : String
  kind : AgentKind

def ProfileParams.toJson (params : ProfileParams) (updatedAt : String) : Json :=
  .object [("label", .string params.label), ("purpose", .string params.purpose),
    ("kind", .string params.kind.name), ("declaration_source", .string "self"),
    ("updated_at", .string updatedAt)]

/-- The command of `set_agent_profile`. -/
def setAgentProfile (agent : String) (params : ProfileParams) (updatedAt : String) :
    Script Key Unit :=
  Redis.set (.agentProfile agent) (params.toJson updatedAt).render

inductive Action
  | claims (action : Claims.Action)
  | register (queueBound : Nat) (args : Arguments) (occasion : Occasion)
  | setAgentProfile (agent : String) (params : ProfileParams) (updatedAt : String)
  /-- Any write by another module to a key that holds no tasks. -/
  | write (key : Key) (value : Option Value)

def Action.after (cjson : Cjson) (keyspace : Keyspace Key) : Action → Keyspace Key
  | .claims action => action.after cjson keyspace
  | .register queueBound args occasion =>
      ((Registration.register queueBound args occasion).run keyspace).2
  | .setAgentProfile agent params updatedAt =>
      ((Diagnostics.setAgentProfile agent params updatedAt).run keyspace).2
  | .write key value => keyspace.store key value

def Action.Admissible (keyspace : Keyspace Key) : Action → Prop
  | .claims action => action.Admissible keyspace
  | .write key value => key.holdsTasks = false ∧ Value.admits value key.kind = true
  | _ => True

/-- The keyspaces of the runs from an empty server. -/
inductive Reachable (cjson : Cjson) : Keyspace Key → Prop
  | start : Reachable cjson Keyspace.empty
  | step {keyspace : Keyspace Key} (action : Action) :
      Reachable cjson keyspace → action.Admissible keyspace →
      Reachable cjson (action.after cjson keyspace)

theorem Reachable.sound {cjson : Cjson} (roundTrips : Claims.RoundTrips cjson)
    (reads : Claims.ReadsMessages cjson) {keyspace : Keyspace Key}
    (reachable : Reachable cjson keyspace) : Claims.Sound cjson keyspace := by
  induction reachable with
  | start => exact Claims.Sound.empty
  | @step keyspace action _ admissible sound =>
      cases action with
      | claims action => exact sound.after roundTrips reads admissible
      | register queueBound args occasion =>
          rcases run_register sound.typed queueBound args occasion with ⟨after, ran, registered⟩
          rw [Action.after, ran]
          exact sound.of_sameTasks
            (registered.quiet.sameTasks registered.typed holdsTasks_of_isRegistrationKey)
      | setAgentProfile agent params updatedAt =>
          exact sound.of_sameTasks ((SameTasks.refl keyspace).store rfl rfl)
      | write key value =>
          exact sound.of_sameTasks ((SameTasks.refl keyspace).store admissible.1 admissible.2)

/-! ## The new owner -/

/-- The name has never been used: no key of it is there. -/
structure Unused (keyspace : Keyspace Key) (name : String) : Prop where
  registry : (keyspace.fields .registry).lookup name = none
  queue : keyspace.value (.queue name) = none
  mailboxMeta : keyspace.value (.mailboxMeta name) = none
  agentSessions : keyspace.value (.agentSessions name) = none
  heartbeat : keyspace.value (.heartbeat name) = none
  inboxEvents : keyspace.value (.inboxEvents name) = none
  inboxTrace : keyspace.value (.inboxTrace name) = none
  runtimeBinding : keyspace.value (.runtimeBinding name) = none
  activation : keyspace.value (.activation name) = none
  agentProfile : keyspace.value (.agentProfile name) = none
  claimsIndex : keyspace.value (.claimsIndex name) = none
  dlq : keyspace.value (.dlq name) = none

theorem unused_empty (name : String) : Unused Keyspace.empty name :=
  ⟨rfl, rfl, rfl, rfl, rfl, rfl, rfl, rfl, rfl, rfl, rfl, rfl⟩

/-- Nothing is stored under the name that `unregister` keeps and a report reads:
no profile with a field, no valid runtime binding, no activation. -/
structure NothingKept (host : Host) (keyspace : Keyspace Key) (name : String) : Prop where
  profile : record (json (keyspace.text (.agentProfile name))) = []
  binding : safeBinding (keyspace.text (.runtimeBinding name)) = none
  activation : activationOf host (keyspace.text (.activation name)) = ⟨none, none⟩

/-- The keyspace after a registration. -/
def registeredIn (keyspace : Keyspace Key) (queueBound : Nat) (args : Arguments)
    (occasion : Occasion) : Keyspace Key :=
  ((register queueBound args occasion).run keyspace).2

/-- The keyspace after the owner of a name unregistered it. -/
def unregisteredIn (cjson : Cjson) (keyspace : Keyspace Key) (name sessionId : String) :
    Keyspace Key :=
  ((Claims.unregister cjson name sessionId).run keyspace).2

theorem registered_registeredIn {keyspace : Keyspace Key} (typed : WellTyped keyspace)
    (queueBound : Nat) (args : Arguments) (occasion : Occasion) :
    Registered args occasion keyspace (registeredIn keyspace queueBound args occasion) := by
  rcases run_register typed queueBound args occasion with ⟨after, ran, registered⟩
  rw [registeredIn, ran]
  exact registered

section Registered

variable {args : Arguments} {occasion : Occasion} {before after : Keyspace Key}

theorem registryRecord_of_registered (registered : Registered args occasion before after) :
    Json.object (registryRecord after args.name) = args.registration occasion := by
  rw [registryRecord, registered.entry, json]
  simp only [Option.bind_some, Json.parse_render, Option.getD_some]
  rfl

theorem registryRecord_ne_nil (registered : Registered args occasion before after) :
    registryRecord after args.name ≠ [] := by
  intro empty
  have same := registryRecord_of_registered registered
  rw [empty, Arguments.registration] at same
  simp at same

/-- The fields that a report reads do not depend on the occasion. -/
theorem field_registration (args : Arguments) (first second : Occasion) :
    ∀ name ∈ ["role", "description", "metadata"],
      (args.registration first).field name = (args.registration second).field name := by
  intro name member
  cases description : args.shownDescription <;> cases metadata : args.metadata <;>
    fin_cases member <;>
    simp [Arguments.registration, Json.field, description, metadata, List.lookup]

theorem present_of_registered (registered : Registered args occasion before after) :
    present (leased after) after args.name = true := by
  rw [present, registered.beating, Bool.or_true]

theorem value_of_registered (registered : Registered args occasion before after) (key : Key)
    (outside : isRegistrationKey key = false) : after.value key = before.value key :=
  registered.quiet.value key (by simp [outside])

end Registered

section NewOwner

variable {host : Host} {args : Arguments} {first second : Occasion}
  {start before after other otherAfter : Keyspace Key}

/-- A name that keeps nothing is reported like one that was never used. -/
theorem alike_of_nothingKept (registered : Registered args first before after)
    (otherRegistered : Registered args second other otherAfter)
    (cleared : Cleared args.name start before)
    (kept : NothingKept host before args.name) (unused : Unused other args.name) :
    Alike host args.name after otherAfter where
  typed := registered.typed
  typedRight := otherRegistered.typed
  registered := registryRecord_ne_nil registered
  registeredRight := registryRecord_ne_nil otherRegistered
  field name member := by
    rw [registryRecord_of_registered registered, registryRecord_of_registered otherRegistered]
    exact field_registration args first second name member
  online := by rw [present_of_registered registered, present_of_registered otherRegistered]
  profile := by
    rw [Keyspace.text, Keyspace.text, value_of_registered registered _ rfl,
      value_of_registered otherRegistered _ rfl, unused.agentProfile]
    exact kept.profile
  binding := by
    rw [Keyspace.text, Keyspace.text, value_of_registered registered _ rfl,
      value_of_registered otherRegistered _ rfl, unused.runtimeBinding]
    exact kept.binding
  activation := by
    rw [Keyspace.text, Keyspace.text, value_of_registered registered _ rfl,
      value_of_registered otherRegistered _ rfl, unused.activation]
    exact kept.activation
  queue := (value_of_registered registered _ rfl).trans cleared.queue
  queueRight := (value_of_registered otherRegistered _ rfl).trans unused.queue
  index := (value_of_registered registered _ rfl).trans cleared.index
  indexRight := (value_of_registered otherRegistered _ rfl).trans unused.claimsIndex
  dlq := by
    rw [value_of_registered registered _ rfl, value_of_registered otherRegistered _ rfl,
      cleared.dlq, unused.dlq]
  events := by
    rw [value_of_registered registered _ rfl, value_of_registered otherRegistered _ rfl,
      cleared.events, unused.inboxEvents]
  trace := by
    rw [value_of_registered registered _ rfl, value_of_registered otherRegistered _ rfl,
      cleared.trace, unused.inboxTrace]

theorem Cleared.text {name : String} (cleared : Cleared name before after) {key : Key}
    (outside : isUnregisterKey key = false) : after.text key = before.text key := by
  rw [Keyspace.text, Keyspace.text, cleared.others key (by simp [outside])]

/-- An unregistration does not touch what it keeps. -/
theorem nothingKept_of_cleared {name : String} (cleared : Cleared name before after) :
    NothingKept host after name ↔ NothingKept host before name := by
  have profile := @Cleared.text _ _ _ cleared (.agentProfile name) rfl
  have binding := @Cleared.text _ _ _ cleared (.runtimeBinding name) rfl
  have activation := @Cleared.text _ _ _ cleared (.activation name) rfl
  constructor
  · intro kept
    exact ⟨profile ▸ kept.profile, binding ▸ kept.binding, activation ▸ kept.activation⟩
  · intro kept
    exact ⟨profile.symm ▸ kept.profile, binding.symm ▸ kept.binding,
      activation.symm ▸ kept.activation⟩

theorem record_eq_nil_of_safeProfile {raw : Option String} (absent : safeProfile raw = none) :
    record (json raw) = [] := by
  unfold safeProfile at absent
  split at absent
  · assumption
  · cases absent

/-- The details of a new owner show what was kept. -/
theorem nothingKept_of_details (registered : Registered args first before after)
    (otherRegistered : Registered args second other otherAfter) (unused : Unused other args.name)
    (same : details host (leased after) after args.name =
      details host (leased otherAfter) otherAfter args.name) :
    NothingKept host before args.name := by
  rw [details_admitted (registered.typed .registry) (admitted_of_wellTyped registered.typed _)
      (registryRecord_ne_nil registered),
    details_admitted (otherRegistered.typed .registry) (admitted_of_wellTyped otherRegistered.typed _)
      (registryRecord_ne_nil otherRegistered)] at same
  simp only [describe, Option.some.injEq, Keyspace.text,
    value_of_registered registered (.agentProfile args.name) rfl,
    value_of_registered registered (.runtimeBinding args.name) rfl,
    value_of_registered registered (.activation args.name) rfl,
    value_of_registered otherRegistered (.agentProfile args.name) rfl,
    value_of_registered otherRegistered (.runtimeBinding args.name) rfl,
    value_of_registered otherRegistered (.activation args.name) rfl,
    unused.agentProfile, unused.runtimeBinding, unused.activation, Details.mk.injEq] at same
  rcases same with ⟨-, -, profile, -, -, -, -, binding, activation, -⟩
  exact ⟨record_eq_nil_of_safeProfile profile, binding, activation⟩

end NewOwner

theorem cleared_unregisteredIn (cjson : Cjson) {keyspace : Keyspace Key}
    (typed : WellTyped keyspace) (name sessionId : String) :
    Cleared name keyspace (unregisteredIn cjson keyspace name sessionId) :=
  run_unregister_cleared cjson typed name sessionId

section Reregistration

variable {cjson : Cjson} (roundTrips : Claims.RoundTrips cjson)
  (reads : Claims.ReadsMessages cjson) {host : Host} {keyspace : Keyspace Key}
  (reachable : Reachable cjson keyspace) {sessionId : String} {queueBound : Nat}
  {args : Arguments} {first second : Occasion}

include roundTrips reads reachable

/-- One report about the new owner that equals the one on an empty server shows
that nothing was kept. -/
theorem nothingKept_of_report {filters : Filters}
    (same : report host (registeredIn (unregisteredIn cjson keyspace args.name sessionId)
        queueBound args first) filters args.name =
      report host (registeredIn Keyspace.empty queueBound args second) filters args.name) :
    NothingKept host keyspace args.name := by
  have cleared := cleared_unregisteredIn cjson (reachable.sound roundTrips reads).typed
    args.name sessionId
  have registered := registered_registeredIn cleared.typed queueBound args first
  have fresh := registered_registeredIn (@Claims.Sound.empty cjson).typed queueBound args second
  rw [← nothingKept_of_cleared cleared]
  exact nothingKept_of_details registered fresh (unused_empty args.name)
    (congrArg Report.details same)

theorem report_eq_of_nothingKept (kept : NothingKept host keyspace args.name)
    {other : Keyspace Key} (otherReachable : Reachable cjson other)
    (unused : Unused other args.name) (filters : Filters) :
    report host (registeredIn (unregisteredIn cjson keyspace args.name sessionId) queueBound
        args first) filters args.name =
      report host (registeredIn other queueBound args second) filters args.name := by
  have cleared := cleared_unregisteredIn cjson (reachable.sound roundTrips reads).typed
    args.name sessionId
  have registered := registered_registeredIn cleared.typed queueBound args first
  have otherRegistered := registered_registeredIn (otherReachable.sound roundTrips reads).typed
    queueBound args second
  rw [← nothingKept_of_cleared cleared] at kept
  exact (alike_of_nothingKept registered otherRegistered cleared kept unused).report_eq filters

end Reregistration

/-- The filters of a search for everything. -/
def Filters.all : Filters := ⟨none, none, none, none, none, none, none⟩

/-- After its owner unregistered a name and the name was registered again,
everything reported about it is what is reported about a name that was never used,
whichever the occasions, exactly when nothing that `unregister` keeps was stored. -/
theorem report_of_new_owner_iff {cjson : Cjson} (roundTrips : Claims.RoundTrips cjson)
    (reads : Claims.ReadsMessages cjson) (host : Host) {keyspace : Keyspace Key}
    (reachable : Reachable cjson keyspace) (sessionId : String) (queueBound : Nat)
    (args : Arguments) (first second : Occasion) :
    (∀ other, Reachable cjson other → Unused other args.name → ∀ filters,
      report host (registeredIn (unregisteredIn cjson keyspace args.name sessionId) queueBound
          args first) filters args.name =
        report host (registeredIn other queueBound args second) filters args.name) ↔
      NothingKept host keyspace args.name := by
  constructor
  · intro same
    exact nothingKept_of_report roundTrips reads reachable
      (same Keyspace.empty .start (unused_empty args.name) Filters.all)
  · intro kept other otherReachable unused filters
    exact report_eq_of_nothingKept roundTrips reads reachable kept otherReachable unused filters

/-! ## A profile that outlives its owner -/

def worker : Arguments where
  role := "consumer"
  name := "worker"
  description := none
  metadata := none

def morning : Occasion where
  sessionId := "s1"
  pid := Numeral.one
  createdAt := "2026-01-01T08:00:00.000Z"
  registeredAt := "2026-01-01T08:00:00.000Z"
  mailboxAt := "2026-01-01T08:00:00.000Z"
  lastSeen := "2026-01-01T08:00:00.000Z"

def evening : Occasion := { morning with sessionId := "s2" }

def builder : ProfileParams := ⟨"builder", "builds", .worker⟩

theorem reachable_registered :
    Reachable Cjson.plain (registeredIn Keyspace.empty 10 worker morning) :=
  .step (.register 10 worker morning) .start trivial

/-- The worker registers and declares a profile. -/
def profiled : Keyspace Key :=
  ((setAgentProfile worker.name builder "2026-01-01T09:00:00.000Z").run
    (registeredIn Keyspace.empty 10 worker morning)).2

theorem reachable_profiled : Reachable Cjson.plain profiled :=
  .step (.setAgentProfile worker.name builder "2026-01-01T09:00:00.000Z")
    reachable_registered trivial

/-- A declared profile is kept by `unregister`. -/
theorem not_nothingKept_of_setAgentProfile (host : Host) (keyspace : Keyspace Key)
    (agent : String) (params : ProfileParams) (updatedAt : String) :
    ¬NothingKept host ((setAgentProfile agent params updatedAt).run keyspace).2 agent := by
  intro kept
  have profile := kept.profile
  have stored : ((setAgentProfile agent params updatedAt).run keyspace).2.text
      (.agentProfile agent) = some (params.toJson updatedAt).render := by
    simp [setAgentProfile, Redis.set, Keyspace.text]
  rw [stored, json, Option.bind_some, Json.parse_render] at profile
  cases profile

/-- The only session of the name unregisters it; the next owner is reported with
its profile. -/
theorem new_owner_inherits_profile :
    ¬∀ (host : Host) (keyspace : Keyspace Key) (sessionId : String) (args : Arguments)
      (first second : Occasion), Reachable Cjson.plain keyspace →
      keyspace.members (.agentSessions args.name) = [sessionId] →
      ∀ other, Reachable Cjson.plain other → Unused other args.name → ∀ filters,
        report host (registeredIn (unregisteredIn Cjson.plain keyspace args.name sessionId) 10
            args first) filters args.name =
          report host (registeredIn other 10 args second) filters args.name := by
  intro inheritsNothing
  have oneSession : profiled.members (.agentSessions worker.name) = ["s1"] := by decide +kernel
  have same := inheritsNothing plainHost profiled "s1" worker evening evening reachable_profiled
    oneSession Keyspace.empty .start (unused_empty worker.name) Filters.all
  exact not_nothingKept_of_setAgentProfile plainHost
    (registeredIn Keyspace.empty 10 worker morning) worker.name builder
    "2026-01-01T09:00:00.000Z" (nothingKept_of_report Claims.plain_roundTrips
      Claims.plain_readsMessages reachable_profiled same)

/-- Without a profile the next owner is reported as a new name. -/
theorem new_owner_inherits_nothing :
    report plainHost (registeredIn (unregisteredIn Cjson.plain
        (registeredIn Keyspace.empty 10 worker morning) worker.name "s1") 10 worker evening)
        ⟨some "worker", none, none, none, none, none, none⟩ worker.name =
      report plainHost (registeredIn Keyspace.empty 10 worker evening)
        ⟨some "worker", none, none, none, none, none, none⟩ worker.name := by
  have registered := registered_registeredIn (@Claims.Sound.empty Cjson.plain).typed 10 worker
    morning
  refine (report_of_new_owner_iff Claims.plain_roundTrips Claims.plain_readsMessages plainHost
    reachable_registered "s1" 10 worker evening evening).mpr ?_ Keyspace.empty .start
    (unused_empty worker.name) _
  refine ⟨?_, ?_, ?_⟩
  · rw [Keyspace.text, value_of_registered registered _ rfl]
    rfl
  · rw [Keyspace.text, value_of_registered registered _ rfl]
    rfl
  · rw [Keyspace.text, value_of_registered registered _ rfl]
    rfl

end GptQueue.Diagnostics
