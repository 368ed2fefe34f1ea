import GptQueue.Foundation.OwnedTable
import GptQueue.Launch.Soundness

/-! # Owners of durable actors

Runs in which only registrations write the directory. The session that registers an
actor first owns it from then on, and what a registration stores is read back whole.
-/

namespace GptQueue.Launch

open Wake (RuntimeLaunchContract ActivationPolicyMode)

/-- Nothing but the registrations writes the directory; the rest is anything at any time. -/
inductive DirectoryMoves : World → World → Prop
  | changed {world after : World} (sameLog : after.log = world.log)
      (sameProfiles : after.profiles = world.profiles) : DirectoryMoves world after

def directoryProtocol (host : Host) : Protocol World Input Command Reply Result :=
  { launchProtocol host with moves := DirectoryMoves }

section Records

variable (host : Host)

/-- What `register` has checked before it writes. -/
structure Admissible (registration : Registration) : Prop where
  profile : admitActorProfile host (buildProfileInput host registration) =
    some (.admitted registration.mode)
  launch : registration.mode = .wakeIfOffline → ∃ launch, buildLaunch registration = some launch

/-- The text is the record of an admissible registration of the actor by the session. -/
def Registered (actorId text sessionId : String) : Prop :=
  ∃ registration, Admissible host registration ∧ registration.agent = actorId ∧
    registration.sessionId = sessionId ∧ text = recordText host registration

/-- The script reads the owner of a registered record, or cannot decode the record. -/
def ReadsRecords : Prop :=
  ∀ registration owner, host.scriptOwner (recordText host registration) = some owner →
    owner = registration.sessionId

/-- The directory is the table without its owners; in a text that it can decode the script
reads the owner of the table. -/
structure Mirrors (table : OwnedTable String (Option String) String)
    (profiles : String → Option String) : Prop where
  texts : ∀ actorId, profiles actorId = (table actorId).map OwnedEntry.value
  owners : ∀ actorId entry, table actorId = some entry → ∀ owner,
    host.scriptOwner entry.value = some owner → entry.owner = some owner

/-- Sessions write records of their own registrations. -/
def RecordOf (actorId : String) (owner : Option String) (text : String) : Prop :=
  ∃ sessionId, owner = some sessionId ∧ Registered host actorId text sessionId

end Records

/-! ## A stored registration -/

section Stored

variable {host : Host} {registration : Registration}

theorem activationPolicyMode_modeText (mode : ActivationPolicyMode) :
    activationPolicyMode (some (.string (modeText mode))) = some mode := by
  cases mode <;> rfl

/-- The admission of a registration never raises, and admits its own mode. -/
theorem admitActorProfile_buildProfileInput :
    ∃ admission, admitActorProfile host (buildProfileInput host registration) = some admission ∧
      ∀ mode, admission = .admitted mode → mode = registration.mode := by
  have policy : (((buildProfileInput host registration).field "activation_policy").bind
      fun policy => policy.field "mode") = some (.string (modeText registration.mode)) := rfl
  have nameless : lengthIsZero host ((buildProfileInput host registration).field "actor_id") =
      some (decide (registration.agent = "")) := rfl
  have unaddressed : lengthIsZero host ((buildProfileInput host registration).field "alias") =
      some (decide (registration.name = "")) := rfl
  have actorId : ((buildProfileInput host registration).field "actor_id").bind
      (JsValue.toText host.numbers) = some registration.agent := rfl
  have name : ((buildProfileInput host registration).field "alias").bind
      (JsValue.toText host.numbers) = some registration.name := rfl
  have concurrency : (buildProfileInput host registration).field "max_concurrency" =
      some (.number registration.maxConcurrency) := rfl
  have capabilities : (buildProfileInput host registration).field "capabilities" =
      some (.array ((registration.capabilities.getD []).map .string)) := rfl
  rw [admitActorProfile, nameless, unaddressed, actorId, name, policy, concurrency, capabilities,
    activationPolicyMode_modeText]
  dsimp only [bind, Option.bind]
  split
  · exact ⟨_, rfl, fun mode same => by cases same⟩
  · split
    · exact ⟨_, rfl, fun mode same => by cases same⟩
    · split
      · exact ⟨_, rfl, fun mode same => by cases same⟩
      · split
        · exact ⟨_, rfl, fun mode same => by cases same⟩
        · split
          · exact ⟨_, rfl, fun mode same => by cases same; rfl⟩
          · exact ⟨_, rfl, fun mode same => by cases same⟩

/-- What a registration stores is read back with its mode, its launch and its session. -/
theorem parseStored_recordText (admissible : Admissible host registration) (actorId : String) :
    parseStored host (recordText host registration) actorId =
      .ok ⟨registration.mode, buildLaunch registration, registration.sessionId⟩ := by
  have isProfile : isObject (buildProfileInput host registration) = true := rfl
  have found : storedActor host (.object [("profile", buildProfileInput host registration),
      ("launch", launchJson (buildLaunch registration)),
      ("registered_by", .string registration.sessionId),
      ("registered_at", .string registration.registeredAt)]) =
      .ok ⟨registration.mode, buildLaunch registration, registration.sessionId⟩ := by
    have profile : (Json.object [("profile", buildProfileInput host registration),
        ("launch", launchJson (buildLaunch registration)),
        ("registered_by", .string registration.sessionId),
        ("registered_at", .string registration.registeredAt)]).field "profile" =
        some (buildProfileInput host registration) := rfl
    have owner : Json.asString ((Json.object [("profile", buildProfileInput host registration),
        ("launch", launchJson (buildLaunch registration)),
        ("registered_by", .string registration.sessionId),
        ("registered_at", .string registration.registeredAt)]).field "registered_by") =
        some registration.sessionId := rfl
    have launch : storedLaunch ((Json.object [("profile", buildProfileInput host registration),
        ("launch", launchJson (buildLaunch registration)),
        ("registered_by", .string registration.sessionId),
        ("registered_at", .string registration.registeredAt)]).field "launch") =
        some (buildLaunch registration) := storedLaunch_launchJson _
    rw [storedActor, profile, owner, launch]
    dsimp only
    rw [isProfile, admissible.profile]
    rfl
  rw [parseStored, recordText, Json.parse_render]
  dsimp only
  rw [found]

theorem Registered.read {actorId text sessionId : String}
    (registered : Registered host actorId text sessionId) :
    ∃ record, parseStored host text actorId = .ok record ∧ record.registeredBy = sessionId ∧
      (record.mode = .wakeIfOffline → record.launch ≠ none) := by
  rcases registered with ⟨registration, admissible, -, rfl, rfl⟩
  refine ⟨_, parseStored_recordText admissible actorId, rfl, fun wakes => ?_⟩
  rcases admissible.launch wakes with ⟨launch, isLaunch⟩
  dsimp only
  rw [isLaunch]
  exact Option.some_ne_none launch

theorem Registered.scriptOwner (reads : ReadsRecords host) {actorId text sessionId owner : String}
    (registered : Registered host actorId text sessionId)
    (read : host.scriptOwner text = some owner) : owner = sessionId := by
  rcases registered with ⟨registration, -, -, rfl, rfl⟩
  exact reads registration owner read

end Stored

/-! ## What a registration asks -/

section Asks

variable (host : Host)

def AsksRecord (input : Input) : Past → Command → Prop
  | _, .conditionalSet actorId value owner => ∃ registration, input = .register registration ∧
      Admissible host registration ∧ actorId = registration.agent ∧
        value = recordText host registration ∧ owner = registration.sessionId
  | _, _ => True

/-- A text that does not read back was found. -/
def FoundCorrupt (past : Past) : Prop :=
  ∃ actorId raw diagnostic, ⟨.hget actorId, some raw⟩ ∈ past ∧
    parseStored host raw actorId = .error diagnostic

/-- The record of another session was found, or the write was refused. -/
def FoundOther (registration : Registration) (past : Past) : Prop :=
  (∃ raw record, ⟨.hget registration.agent, some raw⟩ ∈ past ∧
    parseStored host raw registration.agent = .ok record ∧
      record.registeredBy ≠ registration.sessionId) ∨
  ⟨.conditionalSet registration.agent (recordText host registration) registration.sessionId,
    false⟩ ∈ past

/-- What the result of a registration tells of its exchanges. -/
def TellsRegistered (registration : Registration) (past : Past) : RegisterResult → Prop
  | .ok => ⟨.conditionalSet registration.agent (recordText host registration)
      registration.sessionId, true⟩ ∈ past
  | .refused code _ => (code = "store_corrupt" → FoundCorrupt host past) ∧
      (code = "actor_owned_elsewhere" → FoundOther host registration past)

/-- What the result of a wake tells of its exchanges. -/
def TellsWoken (past : Past) : WakeResult → Prop
  | .wakeError _ => FoundCorrupt host past ∨ ∃ actorId raw record,
      ⟨.hget actorId, some raw⟩ ∈ past ∧ parseStored host raw actorId = .ok record ∧
        record.mode = .wakeIfOffline ∧ record.launch = none
  | _ => True

def Tells (input : Input) (past : Past) : Result → Prop
  | .registered result => ∃ registration outcome, input = .register registration ∧
      result = some outcome ∧ TellsRegistered host registration past outcome
  | .woken result => TellsWoken host past result

variable {host} {input : Input} {past : Past}

theorem follows_readRecord_found (actorId : String) :
    (readRecord host actorId).Follows (AsksRecord host input)
      (fun later found => past ⊆ later ∧
        (∀ diagnostic, found = .error diagnostic → ∃ raw, ⟨.hget actorId, some raw⟩ ∈ later ∧
          parseStored host raw actorId = .error diagnostic) ∧
        ∀ record, found = .ok (some record) → ∃ raw, ⟨.hget actorId, some raw⟩ ∈ later ∧
          parseStored host raw actorId = .ok record) past := by
  apply Program.follows_ask_bind.mpr ⟨trivial, fun reply => ?_⟩
  have more := List.subset_cons_self (⟨.hget actorId, reply⟩ : Exchange Command Reply) past
  cases reply with
  | none =>
      refine ⟨more, ?_, ?_⟩
      · intro diagnostic same
        cases same
      · intro record same
        cases same
  | some raw =>
      dsimp only
      split
      · next diagnostic corrupted =>
          refine ⟨more, ?_, ?_⟩
          · intro other same
            cases same
            exact ⟨raw, List.mem_cons_self, corrupted⟩
          · intro record same
            cases same
      · next record parsed =>
          refine ⟨more, ?_, ?_⟩
          · intro diagnostic same
            cases same
          · intro other same
            cases same
            exact ⟨raw, List.mem_cons_self, parsed⟩

/-- A registration that has no attempt left has been refused a write. -/
theorem follows_registerAttempts_tells {registration : Registration}
    (isInput : input = .register registration) (admissible : Admissible host registration)
    (attempts : Nat)
    (lost : attempts = 0 → ⟨.conditionalSet registration.agent (recordText host registration)
      registration.sessionId, false⟩ ∈ past) :
    (registerAttempts host registration attempts).Follows (AsksRecord host input)
      (TellsRegistered host registration) past := by
  induction attempts generalizing past with
  | zero =>
      apply (follows_readRecord_found registration.agent).bind
      intro later current ends
      split
      · next diagnostic =>
          rcases ends.2.1 diagnostic rfl with ⟨raw, read, corrupted⟩
          exact ⟨fun _ => ⟨_, raw, _, read, corrupted⟩, fun same => absurd same (by decide)⟩
      · split
        · exact ⟨fun same => absurd same (by decide), fun _ => Or.inr (ends.1 (lost rfl))⟩
        · exact ⟨fun same => absurd same (by decide), fun _ => Or.inr (ends.1 (lost rfl))⟩
  | succ attempts induction =>
      apply (follows_readRecord_found registration.agent).bind
      intro later existing ends
      split
      · next diagnostic =>
          rcases ends.2.1 diagnostic rfl with ⟨raw, read, corrupted⟩
          exact ⟨fun _ => ⟨_, raw, _, read, corrupted⟩, fun same => absurd same (by decide)⟩
      · next existing =>
          split
          · next foreign =>
              cases existing with
              | none => cases foreign
              | some record =>
                  rcases ends.2.2 record rfl with ⟨raw, read, parsed⟩
                  have other : record.registeredBy ≠ registration.sessionId :=
                    of_decide_eq_true foreign
                  exact ⟨fun same => absurd same (by decide),
                    fun _ => Or.inl ⟨raw, record, read, parsed, other⟩⟩
          · refine Program.follows_ask_bind.mpr
              ⟨⟨registration, isInput, admissible, rfl, rfl, rfl⟩, fun written => ?_⟩
            cases written with
            | true => exact List.mem_cons_self
            | false =>
                rw [if_neg Bool.false_ne_true]
                exact induction fun _ => List.mem_cons_self

/-- The policy asks for no write. -/
theorem follows_evaluateLaunchPolicy_more (contract : RuntimeLaunchContract) :
    (evaluateLaunchPolicy host contract).Follows (AsksRecord host input)
      (fun later _ => past ⊆ later) past := by
  have asked := @follows_evaluateLaunchPolicy host (.wake "") past contract
  apply (asked.weaken ?_).mono fun later decision ends => ends.1
  intro before command asks
  cases command with
  | conditionalSet actorId value owner =>
      rcases asks with ⟨registration, isInput, -⟩
      cases isInput
  | _ => trivial

theorem ProfileErrorCode.text_ne (code : ProfileErrorCode) :
    code.text ≠ "store_corrupt" ∧ code.text ≠ "actor_owned_elsewhere" := by
  cases code <;> decide

theorem policyCode_ne (code : LaunchPolicyErrorCode) :
    policyCode code ≠ "store_corrupt" ∧ policyCode code ≠ "actor_owned_elsewhere" := by
  cases code <;> decide

theorem follows_register_tells {registration : Registration}
    (isInput : input = .register registration) :
    (register host registration).Follows (AsksRecord host input)
      (fun later result => ∃ outcome, result = some outcome ∧
        TellsRegistered host registration later outcome) past := by
  have attempts : ∀ between, Admissible host registration →
      (some <$> registerAttempts host registration 2).Follows (AsksRecord host input)
        (fun later result => ∃ outcome, result = some outcome ∧
          TellsRegistered host registration later outcome) between := by
    intro between admissible
    apply (follows_registerAttempts_tells isInput admissible 2 (by intro same; cases same)).bind
    intro later outcome tells
    exact ⟨outcome, rfl, tells⟩
  rcases @admitActorProfile_buildProfileInput host registration with
    ⟨admission, isAdmission, ownMode⟩
  rw [register, isAdmission]
  cases admission with
  | refused code message =>
      exact ⟨_, rfl, fun same => absurd same code.text_ne.1, fun same => absurd same code.text_ne.2⟩
  | admitted mode =>
      cases ownMode mode rfl
      dsimp only
      split
      · exact ⟨_, rfl, fun same => absurd same (by decide), fun same => absurd same (by decide)⟩
      · next launch isWake isLaunch =>
          have admissible : Admissible host registration :=
            ⟨isAdmission, fun _ => ⟨launch, isLaunch⟩⟩
          apply (follows_evaluateLaunchPolicy_more launch).bind
          intro between decision _
          cases decision with
          | ok => exact attempts between admissible
          | error code message =>
              exact ⟨_, rfl, fun same => absurd same (policyCode_ne code).1,
                fun same => absurd same (policyCode_ne code).2⟩
      · next isStore =>
          apply attempts past
          refine ⟨isAdmission, fun isWake => ?_⟩
          rw [isStore] at isWake
          cases isWake

theorem follows_dispatchLaunch_tells (contract : RuntimeLaunchContract) :
    (dispatchLaunch host contract).Follows (AsksRecord host input) (TellsWoken host) past := by
  apply (follows_evaluateLaunchPolicy_more contract).bind
  intro later decision _
  cases decision with
  | error code message => trivial
  | ok =>
      apply Program.follows_ask_bind.mpr ⟨trivial, fun outcome => ?_⟩
      cases outcome <;> trivial

theorem follows_wake_tells (actorId : String) :
    (wake host actorId).Follows (AsksRecord host input) (TellsWoken host) past := by
  apply (follows_readRecord_found actorId).bind
  intro later found ends
  split
  · next diagnostic =>
      rcases ends.2.1 diagnostic rfl with ⟨raw, read, corrupted⟩
      exact Or.inl ⟨actorId, raw, diagnostic, read, corrupted⟩
  · trivial
  · next record =>
      rcases ends.2.2 record rfl with ⟨raw, read, parsed⟩
      split
      · trivial
      · next isWake =>
          apply Program.follows_ask_bind.mpr ⟨trivial, fun gate => ?_⟩
          split
          · split
            · next noLaunch =>
                exact Or.inr ⟨actorId, raw, record, List.mem_cons_of_mem _ read, parsed, isWake,
                  noLaunch⟩
            · exact follows_dispatchLaunch_tells _
          · trivial

theorem follows_program_tells (host : Host) (input : Input) :
    (program host input).Follows (AsksRecord host input) (Tells host input) [] := by
  cases input with
  | register registration =>
      apply (follows_register_tells rfl).bind
      intro later result ends
      rcases ends with ⟨outcome, isOutcome, tells⟩
      exact ⟨registration, outcome, rfl, isOutcome, tells⟩
  | wake actorId => exact (follows_wake_tells actorId).bind fun _ _ tells => tells

end Asks

/-! ## The directory refines a table of owners -/

section Refines

variable {host : Host}

/-- Every directory is that of a table, whose entry for one actor may have any owner that
the script does not contradict. -/
theorem exists_mirrors {profiles : String → Option String} {actorId text : String}
    {owner : Option String} (stored : profiles actorId = some text)
    (reads : ∀ other, host.scriptOwner text = some other → owner = some other) :
    ∃ table, Mirrors host table profiles ∧ table actorId = some ⟨owner, text⟩ := by
  refine ⟨Function.update
    (fun other => (profiles other).map fun found => ⟨host.scriptOwner found, found⟩) actorId
    (some ⟨owner, text⟩), ?_, Function.update_self _ _ _⟩
  constructor
  · intro other
    by_cases same : other = actorId
    · subst same
      rw [Function.update_self, stored, Option.map_some]
    · rw [Function.update_of_ne same, Option.map_map]
      exact Option.map_id'.symm
  · intro other entry found session read
    by_cases same : other = actorId
    · subst same
      rw [Function.update_self, Option.some.injEq] at found
      subst found
      exact reads session read
    · rw [Function.update_of_ne same] at found
      rcases Option.map_eq_some_iff.mp found with ⟨text, -, rfl⟩
      exact read

/-- One command of a call leaves the table or is a write of its session. -/
theorem Mirrors.serve (reads : ReadsRecords host) {world : World}
    {table : OwnedTable String (Option String) String}
    (mirrors : Mirrors host table world.profiles) (id : Nat) {input : Input} {past : Past}
    {command : Command} (asks : AsksRecord host input past command) :
    ∃ later, Relation.ReflGen (OwnedTable.Step (RecordOf host)) table later ∧
      Mirrors host later (Launch.serve host id command world).2.profiles := by
  cases command with
  | conditionalSet actorId value owner =>
      rcases asks with ⟨registration, -, admissible, isActor, isRecord, isOwner⟩
      dsimp only [Launch.serve]
      split
      · next may =>
          refine ⟨Function.update table actorId (some ⟨some owner, value⟩), .single (.write ?_ ?_),
            ?_, ?_⟩
          · intro entry found
            rw [mirrors.texts actorId, found] at may
            exact mirrors.owners actorId entry found owner (of_decide_eq_true may)
          · exact ⟨owner, rfl, registration, admissible, isActor.symm, isOwner.symm, isRecord⟩
          · intro other
            dsimp only
            by_cases same : other = actorId
            · subst same
              rw [Function.update_self, Function.update_self, Option.map_some]
            · rw [Function.update_of_ne same, Function.update_of_ne same]
              exact mirrors.texts other
          · intro other entry found session read
            by_cases same : other = actorId
            · subst same
              rw [Function.update_self, Option.some.injEq] at found
              subst found
              rw [isRecord] at read
              rw [reads registration session read, isOwner]
            · rw [Function.update_of_ne same] at found
              exact mirrors.owners other entry found session read
      · exact ⟨table, .refl, mirrors⟩
  | _ => exact ⟨table, .refl, mirrors⟩

/-- Between two moments of a run the directory is that of a run of a table of owners. -/
theorem Mirrors.steps (reads : ReadsRecords host) {begins : World → Prop}
    {before after : LaunchSystem} {table : OwnedTable String (Option String) String}
    (mirrors : Mirrors host table before.world.profiles)
    (reached : (directoryProtocol host).Reachable anyStep begins before)
    (steps : Relation.ReflTransGen ((directoryProtocol host).Step anyStep) before after) :
    ∃ later, Relation.ReflTransGen (OwnedTable.Step (RecordOf host)) table later ∧
      Mirrors host later after.world.profiles := by
  induction steps with
  | refl => exact ⟨table, .refl, mirrors⟩
  | @tail between last earlier step induction =>
      have follows := (reached.steps earlier).follows (follows_program_tells host)
      rcases induction with ⟨middle, run, mirrored⟩
      cases step with
      | opened unused opens => exact ⟨middle, run, mirrored⟩
      | @served id input past command next running meets =>
          rcases mirrored.serve reads id (follows _ _ running).1 with ⟨later, write, isLater⟩
          exact ⟨later, run.trans write.to_reflTransGen, isLater⟩
      | moved moves =>
          cases moves with
          | changed sameLog sameProfiles => exact ⟨middle, run, sameProfiles ▸ mirrored⟩

/-- Whatever calls run and in whatever order, a stored record stays, or it is replaced by
another one of the session that the script reads in it. -/
theorem actor_keeps_owner (reads : ReadsRecords host) {begins : World → Prop}
    {before after : LaunchSystem}
    (reached : (directoryProtocol host).Reachable anyStep begins before)
    (steps : Relation.ReflTransGen ((directoryProtocol host).Step anyStep) before after)
    {actorId text : String} (stored : before.world.profiles actorId = some text) :
    ∃ later, after.world.profiles actorId = some later ∧
      (later = text ∨ ∃ sessionId, host.scriptOwner text = some sessionId ∧
        Registered host actorId later sessionId) := by
  rcases exists_mirrors stored fun _ read => read with ⟨table, mirrors, isEntry⟩
  rcases mirrors.steps reads reached steps with ⟨last, run, mirrored⟩
  rcases OwnedTable.entry_of_steps run isEntry with ⟨entry, found, -, origin⟩
  refine ⟨entry.value, by rw [mirrored.texts actorId, found, Option.map_some], ?_⟩
  rcases origin with rfl | written
  · exact Or.inl rfl
  · exact Or.inr written

end Refines

/-! ## Results -/

section Results

variable {host : Host}

def AllRegistered (host : Host) (world : World) : Prop :=
  ∀ actorId text, world.profiles actorId = some text →
    ∃ sessionId, Registered host actorId text sessionId

def OwnedBy (host : Host) (world : World) (actorId sessionId : String) : Prop :=
  ∃ text, world.profiles actorId = some text ∧ Registered host actorId text sessionId

/-- The script cannot decode the record of the actor. -/
def Unreadable (host : Host) (world : World) (actorId : String) : Prop :=
  ∃ text, world.profiles actorId = some text ∧ host.scriptOwner text = none ∧
    ∃ sessionId, Registered host actorId text sessionId

/-- What the exchanges of a call tell of the directory, also later. -/
structure Learned (host : Host) (world : World) (past : Past) : Prop where
  read : ∀ actorId raw, ⟨.hget actorId, some raw⟩ ∈ past →
    ∃ sessionId, Registered host actorId raw sessionId ∧ OwnedBy host world actorId sessionId
  wrote : ∀ actorId value owner, ⟨.conditionalSet actorId value owner, true⟩ ∈ past →
    OwnedBy host world actorId owner
  lost : ∀ actorId value owner, ⟨.conditionalSet actorId value owner, false⟩ ∈ past →
    (∃ other, other ≠ owner ∧ OwnedBy host world actorId other) ∨ Unreadable host world actorId

theorem AllRegistered.serve {world : World} {input : Input} {past : Past} {command : Command}
    (registered : AllRegistered host world) (id : Nat)
    (asks : AsksRecord host input past command) :
    AllRegistered host (Launch.serve host id command world).2 := by
  cases command with
  | conditionalSet actorId value owner =>
      rcases asks with ⟨registration, -, admissible, isActor, isRecord, -⟩
      dsimp only [Launch.serve]
      split
      · intro other text stored
        dsimp only at stored
        by_cases same : other = actorId
        · subst same
          rw [Function.update_self, Option.some.injEq] at stored
          exact ⟨_, registration, admissible, isActor.symm, rfl, stored.symm.trans isRecord⟩
        · rw [Function.update_of_ne same] at stored
          exact registered other text stored
      · exact registered
  | _ => exact registered

theorem OwnedBy.serve (reads : ReadsRecords host) {world : World} {id : Nat} {input : Input}
    {past : Past} {command : Command} {actorId sessionId : String}
    (owned : OwnedBy host world actorId sessionId) (asks : AsksRecord host input past command) :
    OwnedBy host (Launch.serve host id command world).2 actorId sessionId := by
  rcases owned with ⟨text, stored, own⟩
  rcases exists_mirrors stored fun other read => congrArg some (own.scriptOwner reads read).symm
    with ⟨table, mirrors, isEntry⟩
  rcases mirrors.serve reads id asks with ⟨last, write, mirrored⟩
  rcases OwnedTable.entry_of_steps write.to_reflTransGen isEntry with ⟨entry, found, -, origin⟩
  refine ⟨entry.value, by rw [mirrored.texts actorId, found, Option.map_some], ?_⟩
  rcases origin with rfl | ⟨session, same, isRegistered⟩
  · exact own
  · cases same
    exact isRegistered

/-- What the script cannot decode stays, since it is nobody's to write. -/
theorem Unreadable.serve {world : World} {id : Nat} {command : Command} {actorId : String}
    (unreadable : Unreadable host world actorId) :
    Unreadable host (Launch.serve host id command world).2 actorId := by
  rcases unreadable with ⟨text, stored, undecoded, isRegistered⟩
  refine ⟨text, ?_, undecoded, isRegistered⟩
  cases command with
  | conditionalSet written value owner =>
      dsimp only [Launch.serve]
      split
      · next may =>
          have different : actorId ≠ written := by
            intro same
            rw [← same, stored, mayWrite, undecoded] at may
            cases of_decide_eq_true may
          exact (Function.update_of_ne different _ _).trans stored
      · exact stored
  | _ => exact stored

theorem Learned.serve (reads : ReadsRecords host) {world : World} {id : Nat} {input : Input}
    {past known : Past} {command : Command} (learned : Learned host world known)
    (asks : AsksRecord host input past command) :
    Learned host (Launch.serve host id command world).2 known where
  read actorId raw member := by
    rcases learned.read actorId raw member with ⟨sessionId, isRegistered, owned⟩
    exact ⟨sessionId, isRegistered, owned.serve reads asks⟩
  wrote actorId value owner member :=
    (learned.wrote actorId value owner member).serve reads asks
  lost actorId value owner member := by
    rcases learned.lost actorId value owner member with ⟨session, different, owned⟩ | unreadable
    · exact Or.inl ⟨session, different, owned.serve reads asks⟩
    · exact Or.inr unreadable.serve

theorem OwnedBy.of_profiles {world after : World} (same : after.profiles = world.profiles)
    {actorId sessionId : String} (owned : OwnedBy host world actorId sessionId) :
    OwnedBy host after actorId sessionId := by
  rcases owned with ⟨text, stored, isRegistered⟩
  exact ⟨text, same ▸ stored, isRegistered⟩

/-- What is known of the directory depends on the directory only. -/
theorem Learned.of_profiles {world after : World} (same : after.profiles = world.profiles)
    {past : Past} (learned : Learned host world past) : Learned host after past where
  read actorId raw member := by
    rcases learned.read actorId raw member with ⟨sessionId, isRegistered, owned⟩
    exact ⟨sessionId, isRegistered, owned.of_profiles same⟩
  wrote actorId value owner member :=
    (learned.wrote actorId value owner member).of_profiles same
  lost actorId value owner member := by
    rcases learned.lost actorId value owner member with
      ⟨session, different, owned⟩ | ⟨text, stored, undecoded⟩
    · exact Or.inl ⟨session, different, owned.of_profiles same⟩
    · exact Or.inr ⟨text, same ▸ stored, undecoded⟩

/-- What the reply to a command tells is so after it. -/
theorem learned_reply (reads : ReadsRecords host) {world : World} {id : Nat} {input : Input}
    {past : Past} {command : Command} (registered : AllRegistered host world)
    (asks : AsksRecord host input past command) :
    Learned host (serve host id command world).2
      [⟨command, (serve host id command world).1⟩] := by
  constructor
  · intro actorId raw member
    rcases reply_of_head (fun command => (serve host id command world).1)
      (List.mem_singleton.mp member) with ⟨isReply, rfl⟩
    have stored : world.profiles actorId = some raw := isReply.symm
    rcases registered actorId raw stored with ⟨sessionId, isRegistered⟩
    exact ⟨sessionId, isRegistered, raw, stored, isRegistered⟩
  · intro actorId value owner member
    rcases reply_of_head (fun command => (serve host id command world).1)
      (List.mem_singleton.mp member) with ⟨isReply, rfl⟩
    rcases asks with ⟨registration, -, admissible, rfl, rfl, rfl⟩
    dsimp only [serve] at isReply ⊢
    split at isReply
    · next may =>
        rw [if_pos may]
        exact ⟨_, Function.update_self _ _ _, registration, admissible, rfl, rfl, rfl⟩
    · cases isReply
  · intro actorId value owner member
    rcases reply_of_head (fun command => (serve host id command world).1)
      (List.mem_singleton.mp member) with ⟨isReply, rfl⟩
    dsimp only [serve] at isReply ⊢
    split at isReply
    · cases isReply
    · next mayNot =>
        rw [if_neg mayNot]
        cases stored : world.profiles actorId with
        | none =>
            rw [stored] at mayNot
            exact absurd rfl mayNot
        | some text =>
            rcases registered actorId text stored with ⟨session, isRegistered⟩
            cases isRead : host.scriptOwner text with
            | none => exact Or.inr ⟨text, stored, isRead, session, isRegistered⟩
            | some reader =>
                have same := isRegistered.scriptOwner reads isRead
                refine Or.inl ⟨session, fun own => mayNot ?_, text, stored, isRegistered⟩
                rw [stored, mayWrite, isRead, same, own]
                exact decide_eq_true rfl

theorem Learned.append {world : World} {new past : Past} (latest : Learned host world new)
    (earlier : Learned host world past) : Learned host world (new ++ past) where
  read actorId raw member :=
    (List.mem_append.mp member).elim (latest.read actorId raw) (earlier.read actorId raw)
  wrote actorId value owner member :=
    (List.mem_append.mp member).elim (latest.wrote actorId value owner)
      (earlier.wrote actorId value owner)
  lost actorId value owner member :=
    (List.mem_append.mp member).elim (latest.lost actorId value owner)
      (earlier.lost actorId value owner)

theorem preserves_learned (reads : ReadsRecords host) :
    Protocol.Preserves (directoryProtocol host)
      (fun world id call command => anyStep world id call command ∧
        AsksRecord host call.input call.past command)
      (AllRegistered host) (fun world _ call => Learned host world call.past) fun _ _ => True where
  opened _ _ _ :=
    { read := fun _ _ member => absurd member List.not_mem_nil
      wrote := fun _ _ _ member => absurd member List.not_mem_nil
      lost := fun _ _ _ member => absurd member List.not_mem_nil }
  served {world id input past command next} registered learned meets := by
    refine ⟨registered.serve id meets.2, ?_,
      fun other _ => ⟨fun call known => ?_, fun _ => trivial⟩⟩
    · exact (learned_reply reads registered meets.2).append (learned.serve reads meets.2)
    · exact known.serve reads meets.2
  moved registered moves := by
    cases moves with
    | changed sameLog sameProfiles =>
        exact ⟨fun actorId text stored => registered actorId text (sameProfiles ▸ stored),
          fun id => ⟨fun call known => known.of_profiles sameProfiles, fun _ => trivial⟩⟩

theorem learned_of_reachable (reads : ReadsRecords host) {system : LaunchSystem}
    (reached : (directoryProtocol host).Reachable anyStep (AllRegistered host) system) :
    Protocol.Holds (AllRegistered host) (fun world _ call => Learned host world call.past)
      (fun _ _ => True) system :=
  (reached.asking (follows_program_tells host)).invariant
    (fun _ begins => ⟨begins, fun _ => trivial⟩) (preserves_learned reads)

end Results

/-! ## Every run -/

section Runs

variable {host : Host}

/-- The stored record of an actor, as it is read. -/
def HasRecord (host : Host) (world : World) (actorId : String) (record : StoredRecord) : Prop :=
  ∃ text, world.profiles actorId = some text ∧ parseStored host text actorId = .ok record

/-- `list`, from the reply of `HGETALL`. -/
def list (host : Host) (all : List (String × String)) : Except String (List StoredRecord) :=
  all.mapM fun entry => parseStored host entry.2 entry.1

theorem OwnedBy.reads {world : World} {actorId sessionId : String}
    (owned : OwnedBy host world actorId sessionId) :
    ∃ record, HasRecord host world actorId record ∧ record.registeredBy = sessionId := by
  rcases owned with ⟨text, stored, isRegistered⟩
  rcases isRegistered.read with ⟨record, parsed, isOwner, -⟩
  exact ⟨record, ⟨text, stored, parsed⟩, isOwner⟩

theorem Learned.not_corrupt {world : World} {past : Past} (learned : Learned host world past) :
    ¬FoundCorrupt host past := by
  intro found
  rcases found with ⟨actorId, raw, diagnostic, read, corrupted⟩
  rcases learned.read actorId raw read with ⟨sessionId, isRegistered, -⟩
  rcases isRegistered.read with ⟨record, parsed, -⟩
  rw [parsed] at corrupted
  cases corrupted

theorem Learned.other {world : World} {past : Past} (learned : Learned host world past)
    {registration : Registration} (found : FoundOther host registration past) :
    (∃ other, other ≠ registration.sessionId ∧ OwnedBy host world registration.agent other) ∨
      Unreadable host world registration.agent := by
  rcases found with ⟨raw, record, read, parsed, different⟩ | refused
  · rcases learned.read _ raw read with ⟨sessionId, isRegistered, owned⟩
    rcases isRegistered.read with ⟨same, parsedToo, isOwner, -⟩
    rw [parsed, Except.ok.injEq] at parsedToo
    subst parsedToo
    exact Or.inl ⟨sessionId, isOwner ▸ different, owned⟩
  · exact learned.lost _ _ _ refused

theorem list_of_registered {all : List (String × String)}
    (registered : ∀ entry ∈ all, ∃ sessionId, Registered host entry.1 entry.2 sessionId) :
    ∃ records, list host all = .ok records ∧
      List.Forall₂ (fun entry record => parseStored host entry.2 entry.1 = .ok record) all
        records := by
  induction all with
  | nil => exact ⟨[], rfl, .nil⟩
  | cons entry all induction =>
      rcases registered entry List.mem_cons_self with ⟨sessionId, isRegistered⟩
      rcases isRegistered.read with ⟨record, parsed, -⟩
      rcases induction fun other member => registered other (List.mem_cons_of_mem _ member) with
        ⟨records, listed, each⟩
      refine ⟨record :: records, ?_, .cons parsed each⟩
      rw [list] at listed ⊢
      rw [List.mapM_cons, parsed, listed]
      rfl

/-- What the results of registrations say of the directory, whenever one looks. -/
structure ResultsExact (host : Host) (system : LaunchSystem) : Prop where
  succeeded : ∀ id registration past,
    system.calls id = some ⟨.register registration, past, .done (.registered (some .ok))⟩ →
      ∃ record, HasRecord host system.world registration.agent record ∧
        record.registeredBy = registration.sessionId
  refused : ∀ id registration past message,
    system.calls id = some ⟨.register registration, past,
      .done (.registered (some (.refused "actor_owned_elsewhere" message)))⟩ →
      ∃ text record, system.world.profiles registration.agent = some text ∧
        parseStored host text registration.agent = .ok record ∧
          (record.registeredBy ≠ registration.sessionId ∨ host.scriptOwner text = none)

/-- In every run from a directory of registrations, a session that has registered an
actor owns it for ever, and one that was refused it was refused for another owner or for
a record that the script cannot decode. -/
theorem registration_results_exact (reads : ReadsRecords host) (system : LaunchSystem)
    (reached : (directoryProtocol host).Reachable anyStep (AllRegistered host) system) :
    ResultsExact host system := by
  have holds := learned_of_reachable reads reached
  have follows := reached.follows (follows_program_tells host)
  constructor
  · intro id registration past ended
    rcases follows id _ ended with ⟨same, outcome, isInput, isOutcome, tells⟩
    cases isInput
    cases isOutcome
    exact ((holds.own id _ ended).wrote _ _ _ tells).reads
  · intro id registration past message ended
    rcases follows id _ ended with ⟨same, outcome, isInput, isOutcome, tells⟩
    cases isInput
    cases isOutcome
    rcases (holds.own id _ ended).other (tells.2 rfl) with
      ⟨other, different, owned⟩ | ⟨text, stored, undecoded, session, isRegistered⟩
    · rcases owned.reads with ⟨record, ⟨text, stored, parsed⟩, isOwner⟩
      exact ⟨text, record, stored, parsed, Or.inl (isOwner ▸ different)⟩
    · rcases isRegistered.read with ⟨record, parsed, -⟩
      exact ⟨text, record, stored, parsed, Or.inr undecoded⟩

/-- Nothing that a run stores is ever found corrupt or without its launch. -/
structure NeverCorrupt (host : Host) (system : LaunchSystem) : Prop where
  stored : ∀ actorId text, system.world.profiles actorId = some text →
    ∃ record, parseStored host text actorId = .ok record ∧
      (record.mode = .wakeIfOffline → record.launch ≠ none)
  listed : ∀ all, (∀ entry ∈ all, system.world.profiles entry.1 = some entry.2) →
    ∃ records, list host all = .ok records ∧
      List.Forall₂ (fun entry record => HasRecord host system.world entry.1 record) all records
  registers : ∀ id registration past result,
    system.calls id = some ⟨.register registration, past, .done (.registered result)⟩ →
      ∃ outcome, result = some outcome ∧ ∀ message, outcome ≠ .refused "store_corrupt" message
  wakes : ∀ id actorId past message,
    system.calls id ≠ some ⟨.wake actorId, past, .done (.woken (.wakeError message))⟩

theorem directory_never_corrupt (reads : ReadsRecords host) (system : LaunchSystem)
    (reached : (directoryProtocol host).Reachable anyStep (AllRegistered host) system) :
    NeverCorrupt host system := by
  have holds := learned_of_reachable reads reached
  have follows := reached.follows (follows_program_tells host)
  constructor
  · intro actorId text stored
    rcases holds.shared actorId text stored with ⟨sessionId, isRegistered⟩
    rcases isRegistered.read with ⟨record, parsed, -, launch⟩
    exact ⟨record, parsed, launch⟩
  · intro all isStored
    rcases list_of_registered fun entry member =>
      holds.shared entry.1 entry.2 (isStored entry member) with ⟨records, listed, each⟩
    refine ⟨records, listed, ?_⟩
    have both := (List.forall₂_and_left _ _).mpr ⟨isStored, each⟩
    exact both.imp fun entry record known => ⟨entry.2, known.1, known.2⟩
  · intro id registration past result ended
    rcases follows id _ ended with ⟨same, outcome, isInput, isOutcome, tells⟩
    cases isInput
    refine ⟨outcome, isOutcome, fun message corrupted => ?_⟩
    subst corrupted
    exact (holds.own id _ ended).not_corrupt (tells.1 rfl)
  · intro id actorId past message ended
    have learned := holds.own id _ ended
    rcases follows id _ ended with corrupted | ⟨found, raw, record, read, parsed, isWake, noLaunch⟩
    · exact learned.not_corrupt corrupted
    · rcases learned.read found raw read with ⟨sessionId, isRegistered, -⟩
      rcases isRegistered.read with ⟨same, parsedToo, -, launch⟩
      rw [parsed, Except.ok.injEq] at parsedToo
      subst parsedToo
      exact launch isWake noLaunch

end Runs

/-! ## Two sessions and one actor -/

section Example

theorem exampleHost_scriptOwner (registration : Registration) :
    exampleHost.scriptOwner (recordText exampleHost registration) =
      some registration.sessionId := by
  have decoder : ∀ text, exampleHost.scriptOwner text =
      (Json.parse text).bind fun record => Json.asString (record.field "registered_by") :=
    fun text => rfl
  rw [decoder, recordText, Json.parse_render]
  rfl

theorem exampleHost_reads : ReadsRecords exampleHost := by
  intro registration owner read
  rw [exampleHost_scriptOwner, Option.some.injEq] at read
  exact read.symm

def emptyDirectory : World := { exampleWorld with profiles := fun _ => none }

def exampleRegistration (sessionId : String) : Registration where
  agent := "a"
  sessionId := sessionId
  name := "a"
  mode := .storeOnly
  maxConcurrency := Numeral.one
  launchCommand := none
  launchArgs := none
  launchCwd := none
  capabilities := none
  registeredAt := ""

/-- A whole registration. -/
def registeredOnce : LaunchSystem :=
  (fun before => (directoryProtocol exampleHost).advance before 0)^[2]
    ((directoryProtocol exampleHost).start ⟨emptyDirectory, fun _ => none⟩ 0
      (.register (exampleRegistration "s")))

/-- And the beginning of one by another session. -/
def registeredTwice : LaunchSystem :=
  (fun before => (directoryProtocol exampleHost).advance before 1)^[2]
    ((directoryProtocol exampleHost).start registeredOnce 1 (.register (exampleRegistration "t")))

theorem registeredOnce_reachable :
    (directoryProtocol exampleHost).Reachable anyStep (AllRegistered exampleHost)
      registeredOnce := by
  have empty : (directoryProtocol exampleHost).Reachable anyStep (AllRegistered exampleHost)
      ⟨emptyDirectory, fun _ => none⟩ := by
    apply Protocol.Reachable.init
    intro actorId text stored
    cases stored
  have started := empty.start 0 (.register (exampleRegistration "s")) rfl trivial
  exact started.advances 0 2 fun _ _ _ _ => trivial

/-- The session whose registration has succeeded in a call. -/
def registeredBy (system : LaunchSystem) (id : Nat) : Option (String × String) :=
  match system.calls id with
  | some ⟨.register registration, _, .done (.registered (some .ok))⟩ =>
      some (registration.agent, registration.sessionId)
  | _ => none

theorem ended_of_registeredBy {system : LaunchSystem} {id : Nat} {actorId sessionId : String}
    (ended : registeredBy system id = some (actorId, sessionId)) :
    ∃ registration past, system.calls id =
      some ⟨.register registration, past, .done (.registered (some .ok))⟩ ∧
        registration.agent = actorId ∧ registration.sessionId = sessionId := by
  rw [registeredBy] at ended
  split at ended
  · next registration past isCall =>
      cases ended
      exact ⟨registration, past, isCall, rfl, rfl⟩
  · cases ended

theorem registeredOnce_ended : registeredBy registeredOnce 0 = some ("a", "s") := by
  decide +kernel

theorem registeredOnce_calls : registeredOnce.calls 1 = none := by
  rw [registeredOnce, Protocol.advances_calls _ _ Nat.one_ne_zero]
  dsimp only [Protocol.start]
  rw [Function.update_of_ne Nat.one_ne_zero]

/-- The record of the first registration is not found corrupt. -/
theorem registeredOnce_never_corrupt :
    registeredBy registeredOnce 0 = some ("a", "s") ∧ NeverCorrupt exampleHost registeredOnce :=
  ⟨registeredOnce_ended, directory_never_corrupt exampleHost_reads _ registeredOnce_reachable⟩

/-- The second session finds the actor taken and leaves it to the first. -/
theorem registeredTwice_keeps_owner : ∃ text later,
    registeredOnce.world.profiles "a" = some text ∧
      registeredTwice.world.profiles "a" = some later ∧
        exampleHost.scriptOwner later = some "s" := by
  rcases ended_of_registeredBy registeredOnce_ended with
    ⟨registration, past, ended, isActor, isOwner⟩
  have wrote : OwnedBy exampleHost registeredOnce.world "a" "s" := by
    rcases registeredOnce_reachable.follows (follows_program_tells exampleHost) 0 _ ended with
      ⟨same, outcome, isInput, isOutcome, tells⟩
    cases isInput
    cases isOutcome
    have learned :=
      (learned_of_reachable exampleHost_reads registeredOnce_reachable).own 0 _ ended
    exact isActor ▸ isOwner ▸ learned.wrote _ _ _ tells
  rcases wrote with ⟨text, stored, earlier, -, -, isSession, rfl⟩
  have opened : Relation.ReflTransGen ((directoryProtocol exampleHost).Step anyStep) registeredOnce
      ((directoryProtocol exampleHost).start registeredOnce 1
        (.register (exampleRegistration "t"))) :=
    .single (.opened registeredOnce_calls trivial)
  have advanced : Relation.ReflTransGen ((directoryProtocol exampleHost).Step anyStep)
      ((directoryProtocol exampleHost).start registeredOnce 1
        (.register (exampleRegistration "t"))) registeredTwice :=
    Protocol.steps_advances 1 2 fun _ _ _ _ => trivial
  have owner : exampleHost.scriptOwner (recordText exampleHost earlier) = some "s" :=
    (exampleHost_scriptOwner earlier).trans (congrArg some isSession)
  rcases actor_keeps_owner exampleHost_reads registeredOnce_reachable (opened.trans advanced)
    stored with ⟨later, isLater, rfl | ⟨session, read, replaced, -, -, isReplaced, rfl⟩⟩
  · exact ⟨_, _, stored, isLater, owner⟩
  · rw [owner, Option.some.injEq] at read
    refine ⟨_, _, stored, isLater, ?_⟩
    rw [exampleHost_scriptOwner, isReplaced, read]

/-- A decoder that refuses an escaped surrogate without its pair. -/
def strictHost : Host where
  __ := exampleHost
  scriptOwner text :=
    if "\\ud".toList <:+: text.toList then none else exampleHost.scriptOwner text

theorem strictHost_reads : ReadsRecords strictHost := by
  intro registration owner read
  have decoder : ∀ text, strictHost.scriptOwner text =
      if "\\ud".toList <:+: text.toList then none else exampleHost.scriptOwner text :=
    fun text => rfl
  rw [decoder] at read
  split at read
  · cases read
  · exact exampleHost_reads registration owner read

/-- A registration with half of a pair in a capability. -/
def halvedRegistration : Registration where
  __ := exampleRegistration "s"
  capabilities := some [String.ofList (CodeUnits.unpaired 0xD800)]

/-- The session registers once, -/
def registeredHalf : LaunchSystem :=
  (fun before => (directoryProtocol strictHost).advance before 0)^[2]
    ((directoryProtocol strictHost).start ⟨emptyDirectory, fun _ => none⟩ 0
      (.register halvedRegistration))

/-- and once more. -/
def registeredAgain : LaunchSystem :=
  (fun before => (directoryProtocol strictHost).advance before 1)^[5]
    ((directoryProtocol strictHost).start registeredHalf 1 (.register halvedRegistration))

theorem registeredAgain_reachable :
    (directoryProtocol strictHost).Reachable anyStep (AllRegistered strictHost)
      registeredAgain := by
  have empty : (directoryProtocol strictHost).Reachable anyStep (AllRegistered strictHost)
      ⟨emptyDirectory, fun _ => none⟩ := by
    apply Protocol.Reachable.init
    intro actorId text stored
    cases stored
  have once := (empty.start 0 (.register halvedRegistration) rfl trivial).advances 0 2
    fun _ _ _ _ => trivial
  have unused : registeredHalf.calls 1 = none := by
    rw [registeredHalf, Protocol.advances_calls _ _ Nat.one_ne_zero]
    dsimp only [Protocol.start]
    rw [Function.update_of_ne Nat.one_ne_zero]
  exact (once.start 1 (.register halvedRegistration) unused trivial).advances 1 5
    fun _ _ _ _ => trivial

/-- The session that a call has refused as not the owner. -/
def refusedTo (system : LaunchSystem) (id : Nat) : Option (String × String) :=
  match system.calls id with
  | some ⟨.register registration, _, .done (.registered (some (.refused code _)))⟩ =>
      if code = "actor_owned_elsewhere" then some (registration.agent, registration.sessionId)
      else none
  | _ => none

theorem ended_of_refusedTo {system : LaunchSystem} {id : Nat} {actorId sessionId : String}
    (ended : refusedTo system id = some (actorId, sessionId)) :
    ∃ registration past message, system.calls id =
      some ⟨.register registration, past,
        .done (.registered (some (.refused "actor_owned_elsewhere" message)))⟩ ∧
          registration.agent = actorId ∧ registration.sessionId = sessionId := by
  rw [refusedTo] at ended
  split at ended
  · next registration past code message isCall =>
      split at ended
      · next isCode =>
          cases ended
          exact ⟨registration, past, message, isCode ▸ isCall, rfl, rfl⟩
      · cases ended
  · cases ended

theorem registeredAgain_ended : registeredBy registeredAgain 0 = some ("a", "s") ∧
    refusedTo registeredAgain 1 = some ("a", "s") := by
  decide +kernel

/-- The session owns the actor, and is refused the second time, since the script cannot decode
the record. -/
theorem registeredAgain_owned : ∃ text record,
    registeredAgain.world.profiles "a" = some text ∧
      parseStored strictHost text "a" = .ok record ∧ record.registeredBy = "s" ∧
        strictHost.scriptOwner text = none := by
  rcases ended_of_registeredBy registeredAgain_ended.1 with
    ⟨registration, past, ended, isOnce, isOwner⟩
  rcases ended_of_refusedTo registeredAgain_ended.2 with
    ⟨again, later, message, refused, isActor, isAgain⟩
  have exact_results :=
    registration_results_exact strictHost_reads registeredAgain registeredAgain_reachable
  rcases exact_results.succeeded 0 registration past ended with
    ⟨record, ⟨text, stored, parsed⟩, own⟩
  rcases exact_results.refused 1 again later message refused with
    ⟨found, read, isFound, isRead, reason⟩
  rw [isOnce] at stored parsed
  rw [isActor, stored, Option.some.injEq] at isFound
  subst isFound
  rw [isActor, parsed, Except.ok.injEq] at isRead
  subst isRead
  refine ⟨text, record, stored, parsed, own.trans isOwner, ?_⟩
  rcases reason with other | undecoded
  · exact absurd (own.trans (isOwner.trans isAgain.symm)) other
  · exact undecoded

end Example

end GptQueue.Launch
