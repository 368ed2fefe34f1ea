import GptQueue.Launch.Dispatch

/-! # Soundness of the launch policy

Every spawn of a run is allowed by what its wake has read: a stored contract, and an
allowlist with an entry for it.
-/

namespace GptQueue.Launch

open Wake (RuntimeLaunchContract)

open Texts (isAbsolute resolve basename trim startsWith)

/-! ## What is allowed -/

section Allowed

variable (host : Host)

/-- A requested command is the listed one, or both are absolute paths of one file. -/
def SameCommand (requested listed : String) : Prop :=
  isAbsolute requested = false ∧ requested = listed ∨
    isAbsolute requested = true ∧ isAbsolute listed = true ∧
      resolve host.cwd requested = resolve host.cwd listed

/-- A directory in the root of the server. -/
structure Confined (past : Past) (cwd : String) : Prop where
  directory : ⟨.stat cwd, true⟩ ∈ past
  inside : resolve host.cwd cwd = resolve host.cwd host.cwd ∨
    startsWith (resolve host.cwd cwd) (resolve host.cwd host.cwd ++ "/") = true

/-- The allowlist that was read has an entry for the contract, whose command is `read`
from the document. -/
structure Listed (read : String → String) (past : Past) (contract : RuntimeLaunchContract) :
    Prop where
  file : ∃ info, ⟨.lstat, .ok info⟩ ∈ past ∧ info.isFile = true ∧ info.mode &&& 0o022 = 0
  entry : ∃ text document command, ⟨.readFile, .ok text⟩ ∈ past ∧
    Json.parse text = some document ∧ ValidDocument host document ∧
      Lists document command contract.args ∧ SameCommand host contract.command (read command)

structure Allowed (read : String → String) (past : Past) (contract : RuntimeLaunchContract) :
    Prop where
  listed : Listed host read past contract
  notShell : host.lower (basename contract.command) ∉ dangerousShellBasenames
  notAwk : host.lower (basename contract.command) ∉ dangerousAwkBasenames
  confined : ∀ cwd, contract.cwd = some cwd → Confined host past cwd

/-- The contract is that of the stored record that was read. -/
def OfRecord (actorId : String) (past : Past) (contract : RuntimeLaunchContract) : Prop :=
  ∃ raw record, ⟨.hget actorId, some raw⟩ ∈ past ∧ parseStored host raw actorId = .ok record ∧
    record.launch = some contract

/-- What holds of the spawns and of the registrations of a run. -/
structure SpawnsAllowed (read : String → String) (system : LaunchSystem) : Prop where
  allowed : ∀ id contract, .spawned id contract ∈ system.world.log →
    ∃ call actorId, system.calls id = some call ∧ call.input = .wake actorId ∧
      OfRecord host actorId call.past contract ∧ Allowed host read call.past contract
  stored : ∀ id actorId value, .stored id actorId value ∈ system.world.log →
    ∃ call registration, system.calls id = some call ∧ call.input = .register registration ∧
      registration.agent = actorId ∧ ∀ record, parseStored host value actorId = .ok record →
        record.launch = buildLaunch registration

end Allowed

section More

variable {host : Host} {read : String → String} {past later : Past}
  {contract : RuntimeLaunchContract}
  {actorId : String}

theorem Confined.mono {cwd : String} (confined : Confined host past cwd) (more : past ⊆ later) :
    Confined host later cwd :=
  ⟨more confined.directory, confined.inside⟩

theorem Listed.mono (listed : Listed host read past contract) (more : past ⊆ later) :
    Listed host read later contract := by
  rcases listed with ⟨⟨info, seen, file⟩, text, document, command, readText, entry⟩
  exact ⟨⟨info, more seen, file⟩, text, document, command, more readText, entry⟩

theorem Allowed.mono (allowed : Allowed host read past contract) (more : past ⊆ later) :
    Allowed host read later contract where
  listed := allowed.listed.mono more
  notShell := allowed.notShell
  notAwk := allowed.notAwk
  confined cwd isCwd := (allowed.confined cwd isCwd).mono more

theorem OfRecord.mono (ofRecord : OfRecord host actorId past contract) (more : past ⊆ later) :
    OfRecord host actorId later contract := by
  rcases ofRecord with ⟨raw, record, found, isRecord⟩
  exact ⟨raw, record, more found, isRecord⟩

end More

/-! ## A stored registration -/

section Stored

variable {host : Host}

theorem mapM_string (args : List String) :
    ((args.map Json.string).mapM fun item => Json.asString (some item)) = some args := by
  induction args with
  | nil => rfl
  | cons arg args induction =>
      rw [List.map_cons, List.mapM_cons, induction]
      rfl

theorem stringArray_map (args : List String) :
    stringArray (.array (args.map .string)) = some args := mapM_string args

theorem storedLaunch_launchJson (launch : Option RuntimeLaunchContract) :
    storedLaunch (some (launchJson launch)) = some launch := by
  cases launch with
  | none => rfl
  | some launch =>
      cases launch with
      | mk command args cwd =>
          have reads : storedLaunch (some (launchJson (some ⟨command, args, cwd⟩))) =
              (stringArray (.array (args.map .string))).bind fun args =>
                some (some ⟨command, args, cwd⟩) := by
            cases cwd <;> rfl
          rw [reads, stringArray_map, Option.bind_some]

/-- What a registration has stored is read with the launch of the registration. -/
theorem launch_of_storedActor {parsed : Json} {record : StoredRecord}
    (found : storedActor host parsed = .ok record) :
    storedLaunch (parsed.field "launch") = some record.launch := by
  unfold storedActor at found
  split at found
  · split at found
    · cases found
    · split at found
      · split at found
        · cases found
        · split at found
          · cases found
          · next isLaunch =>
              split at found
              · cases found
              · cases found
              · cases found
                exact isLaunch
      · cases found
  · cases found

theorem launch_of_recordText {registration : Registration} {actorId : String}
    {record : StoredRecord}
    (parsed : parseStored host (recordText host registration) actorId = .ok record) :
    record.launch = buildLaunch registration := by
  rw [parseStored, recordText, Json.parse_render] at parsed
  dsimp only at parsed
  split at parsed
  · next found isFound =>
      cases parsed
      have launched := launch_of_storedActor isFound
      have field : (Json.object [("profile", buildProfileInput host registration),
          ("launch", launchJson (buildLaunch registration)),
          ("registered_by", .string registration.sessionId),
          ("registered_at", .string registration.registeredAt)]).field "launch" =
          some (launchJson (buildLaunch registration)) := rfl
      rw [field, storedLaunch_launchJson] at launched
      exact (Option.some.inj launched).symm
  · cases parsed

end Stored

/-! ## What the programs ask -/

section Asks

variable (host : Host)

def Asks (input : Input) (past : Past) : Command → Prop
  | .spawn contract => ∃ actorId, input = .wake actorId ∧ OfRecord host actorId past contract ∧
      Allowed host trim past contract
  | .conditionalSet actorId newValue _ => ∃ registration, input = .register registration ∧
      actorId = registration.agent ∧ newValue = recordText host registration
  | _ => True

variable {host} {input : Input} {past : Past}

theorem follows_launchCwdIsConfined (cwd : String) :
    (launchCwdIsConfined host cwd).Follows (Asks host input)
      (fun later result => past ⊆ later ∧ (result = .ok () → Confined host later cwd)) past := by
  apply Program.follows_ask_bind.mpr ⟨trivial, fun reply => ?_⟩
  have more := List.subset_cons_self (⟨.stat cwd, reply⟩ : Exchange Command Reply) past
  cases reply with
  | false => exact ⟨more, fun isOk => nomatch isOk⟩
  | true =>
      rw [if_pos rfl]
      dsimp only
      split
      · next inside => exact ⟨more, fun _ => ⟨List.mem_cons_self, inside⟩⟩
      · exact ⟨more, fun isOk => nomatch isOk⟩

theorem follows_allowlistUnread (error : FileError) :
    (allowlistUnread host error).Follows (Asks host input)
      (fun later load => past ⊆ later ∧ ∀ commands, load ≠ .loaded commands) past := by
  cases error with
  | other message => exact ⟨List.Subset.refl past, fun _ isLoaded => nomatch isLoaded⟩
  | absent =>
      rw [allowlistUnread]
      split
      · exact ⟨List.Subset.refl past, fun _ isLoaded => nomatch isLoaded⟩
      · apply Program.follows_ask_bind.mpr ⟨trivial, fun reply => ?_⟩
        have more := List.subset_cons_self (⟨.lstatLegacy, reply⟩ : Exchange Command Reply) past
        split
        · exact ⟨more, fun _ isLoaded => nomatch isLoaded⟩
        · exact ⟨more, fun _ isLoaded => nomatch isLoaded⟩

/-- The allowlist is loaded only from a regular file that others cannot write. -/
theorem follows_loadLaunchAllowlist :
    (loadLaunchAllowlist host).Follows (Asks host input)
      (fun later load => past ⊆ later ∧ ∀ commands, load = .loaded commands →
        (∃ info, ⟨.lstat, .ok info⟩ ∈ later ∧ info.isFile = true ∧ info.mode &&& 0o022 = 0) ∧
          ∃ text, ⟨.readFile, .ok text⟩ ∈ later ∧
            parseLaunchAllowlist host text host.allowlistPath = .loaded commands) past := by
  apply Program.follows_ask_bind.mpr ⟨trivial, fun reply => ?_⟩
  have more := List.subset_cons_self (⟨.lstat, reply⟩ : Exchange Command Reply) past
  cases reply with
  | error error =>
      apply (follows_allowlistUnread error).mono
      intro later load ends
      exact ⟨List.Subset.trans more ends.1,
        fun commands isLoaded => absurd isLoaded (ends.2 commands)⟩
  | ok info =>
      dsimp only
      split
      · exact ⟨more, fun _ isLoaded => nomatch isLoaded⟩
      · next isFile =>
          split
          · exact ⟨more, fun _ isLoaded => nomatch isLoaded⟩
          · next ownOnly =>
              apply Program.follows_ask_bind.mpr ⟨trivial, fun text => ?_⟩
              have evenMore := List.subset_cons_self (⟨.readFile, text⟩ : Exchange Command Reply)
                (⟨.lstat, .ok info⟩ :: past)
              cases text with
              | error error =>
                  apply (follows_allowlistUnread error).mono
                  intro later load ends
                  exact ⟨List.Subset.trans (List.Subset.trans more evenMore) ends.1,
                    fun commands isLoaded => absurd isLoaded (ends.2 commands)⟩
              | ok raw =>
                  refine ⟨List.Subset.trans more evenMore, fun commands isLoaded => ⟨⟨info, ?_⟩,
                    raw, List.mem_cons_self, isLoaded⟩⟩
                  exact ⟨evenMore List.mem_cons_self, by simpa using isFile, by simpa using ownOnly⟩

theorem isDangerous_awk {command : String} {args : List String}
    (safe : ¬isDangerousInterpreter host command args = true) :
    host.lower (basename command) ∉ dangerousAwkBasenames := by
  intro isAwk
  exact safe (if_pos isAwk)

theorem sameCommand_of_matches {requested listed : String}
    (found : commandMatches host requested listed = true) : SameCommand host requested listed := by
  unfold commandMatches at found
  split at found
  · cases found
  · next same =>
      rw [not_not] at same
      split at found
      · next absolute => exact Or.inr ⟨absolute, same ▸ absolute, of_decide_eq_true found⟩
      · next relative => exact Or.inl ⟨by simpa using relative, of_decide_eq_true found⟩

/-- A match with a loaded allowlist is an entry of its document. -/
theorem listed_of_matches {contract : RuntimeLaunchContract} {text : String}
    {commands : List LaunchAllowlistEntry}
    (loaded : parseLaunchAllowlist host text host.allowlistPath = .loaded commands)
    (found : launchMatchesConfig host contract.command contract.args commands = true) :
    ∃ document command, Json.parse text = some document ∧ ValidDocument host document ∧
      Lists document command contract.args ∧ SameCommand host contract.command (trim command) := by
  rcases parseLaunchAllowlist_loaded loaded with
    ⟨document, items, isDocument, valid, isItems, reads⟩
  rcases List.any_eq_true.mp found with ⟨entry, member, both⟩
  rw [Bool.and_eq_true] at both
  rcases List.any_eq_true.mp both.2 with ⟨template, isTemplate, same⟩
  have isArgs : contract.args = template := of_decide_eq_true same
  rcases List.mem_iff_getElem.mp member with ⟨index, less, rfl⟩
  have inside : index < items.length := (List.forall₂_iff_get.mp reads).1 ▸ less
  rcases (List.forall₂_iff_get.mp reads).2 index inside less with
    ⟨⟨written, isCommand, -, isTrimmed⟩, templates⟩
  refine ⟨document, written, isDocument, valid, ⟨items, isItems, items[index],
    List.getElem_mem inside, _, isCommand, templates, ?_⟩, ?_⟩
  · exact List.mem_map.mpr ⟨template, isTemplate, by rw [isArgs]⟩
  · rw [← isTrimmed]
    exact sameCommand_of_matches both.1

theorem follows_evaluateCommand (contract : RuntimeLaunchContract)
    (confined : ∀ cwd, contract.cwd = some cwd → Confined host past cwd) :
    (evaluateCommand host contract).Follows (Asks host input)
      (fun later decision => past ⊆ later ∧ (decision = .ok → Allowed host trim later contract))
      past := by
  unfold evaluateCommand
  split
  · exact ⟨List.Subset.refl past, fun isOk => nomatch isOk⟩
  · next notShell =>
      split
      · exact ⟨List.Subset.refl past, fun isOk => nomatch isOk⟩
      · next safe =>
          apply follows_loadLaunchAllowlist.bind
          intro later load ends
          cases load with
          | absent => exact ⟨ends.1, fun isOk => nomatch isOk⟩
          | unparseable reason => exact ⟨ends.1, fun isOk => nomatch isOk⟩
          | loaded commands =>
              dsimp only
              split
              · next found =>
                  rcases ends.2 commands rfl with ⟨file, text, readText, loaded⟩
                  rcases listed_of_matches loaded found with ⟨document, command, entry⟩
                  exact ⟨ends.1, fun _ =>
                    { listed := ⟨file, text, document, command, readText, entry⟩
                      notShell := fun isShell => notShell (decide_eq_true isShell)
                      notAwk := isDangerous_awk safe
                      confined := fun cwd isCwd => (confined cwd isCwd).mono ends.1 }⟩
              · exact ⟨ends.1, fun isOk => nomatch isOk⟩

theorem follows_evaluateLaunchPolicy (contract : RuntimeLaunchContract) :
    (evaluateLaunchPolicy host contract).Follows (Asks host input)
      (fun later decision => past ⊆ later ∧ (decision = .ok → Allowed host trim later contract))
      past := by
  rw [evaluateLaunchPolicy]
  cases isCwd : contract.cwd with
  | none =>
      apply follows_evaluateCommand contract
      intro cwd isSome
      rw [isCwd] at isSome
      cases isSome
  | some cwd =>
      apply (follows_launchCwdIsConfined cwd).bind
      intro between result ends
      cases result with
      | error message => exact ⟨ends.1, fun isOk => nomatch isOk⟩
      | ok =>
          apply (follows_evaluateCommand contract ?_).mono
          · intro later decision allowed
            exact ⟨List.Subset.trans ends.1 allowed.1, allowed.2⟩
          · intro other isOther
            rw [isCwd] at isOther
            cases isOther
            exact ends.2 rfl

theorem follows_readRecord (actorId : String) :
    (readRecord host actorId).Follows (Asks host input)
      (fun later found => ∀ record, found = .ok (some record) → ∃ raw,
        ⟨.hget actorId, some raw⟩ ∈ later ∧ parseStored host raw actorId = .ok record) past := by
  apply Program.follows_ask_bind.mpr ⟨trivial, fun reply => ?_⟩
  cases reply with
  | none => exact fun _ isRecord => nomatch isRecord
  | some raw =>
      dsimp only
      split
      · exact fun _ isRecord => nomatch isRecord
      · next record parsed =>
          intro found isFound
          cases isFound
          exact ⟨raw, List.mem_cons_self, parsed⟩

theorem follows_registerAttempts (registration : Registration)
    (isInput : input = .register registration) (attempts : Nat) :
    (registerAttempts host registration attempts).Follows (Asks host input) (fun _ _ => True)
      past := by
  induction attempts generalizing past with
  | zero =>
      apply (follows_readRecord registration.agent).bind
      intro later current _
      split
      · trivial
      · split <;> trivial
  | succ attempts induction =>
      apply (follows_readRecord registration.agent).bind
      intro later existing _
      split
      · trivial
      · split
        · trivial
        · apply Program.follows_ask_bind.mpr ⟨⟨registration, isInput, rfl, rfl⟩, fun written => ?_⟩
          split
          · trivial
          · exact induction

theorem follows_register (registration : Registration)
    (isInput : input = .register registration) :
    (register host registration).Follows (Asks host input) (fun _ _ => True) past := by
  have attempts : ∀ past, (some <$> registerAttempts host registration 2).Follows
      (Asks host input) (fun _ _ => True) past := by
    intro past
    exact (follows_registerAttempts registration isInput 2).bind fun _ _ _ => trivial
  unfold register
  split
  · trivial
  · trivial
  · split
    · trivial
    · apply (follows_evaluateLaunchPolicy _).bind
      intro later decision _
      cases decision with
      | ok => exact attempts later
      | error code message => trivial
    · exact attempts past

theorem follows_dispatchLaunch {actorId : String} {contract : RuntimeLaunchContract}
    (isInput : input = .wake actorId) (ofRecord : OfRecord host actorId past contract) :
    (dispatchLaunch host contract).Follows (Asks host input) (fun _ _ => True) past := by
  apply (follows_evaluateLaunchPolicy contract).bind
  intro later decision ends
  cases decision with
  | error code message => trivial
  | ok =>
      apply Program.follows_ask_bind.mpr
        ⟨⟨actorId, isInput, ofRecord.mono ends.1, ends.2 rfl⟩, fun outcome => ?_⟩
      cases outcome <;> trivial

theorem follows_wake {actorId : String} (isInput : input = .wake actorId) :
    (wake host actorId).Follows (Asks host input) (fun _ _ => True) past := by
  apply (follows_readRecord actorId).bind
  intro later found reads
  split
  · trivial
  · trivial
  · next record =>
      rcases reads record rfl with ⟨raw, isRead, parsed⟩
      split
      · trivial
      · apply Program.follows_ask_bind.mpr ⟨trivial, fun gate => ?_⟩
        split
        · split
          · trivial
          · next launch isLaunch =>
              apply follows_dispatchLaunch isInput
              exact ⟨raw, record, List.mem_cons_of_mem _ isRead, parsed, isLaunch⟩
        · trivial

theorem follows_program (host : Host) (input : Input) :
    (program host input).Follows (Asks host input) (fun _ _ => True) [] := by
  cases input with
  | register registration => exact (follows_register registration rfl).bind fun _ _ _ => trivial
  | wake actorId => exact (follows_wake rfl).bind fun _ _ _ => trivial

end Asks

/-! ## Runs -/

section Runs

variable {host : Host}

/-- The events of a call follow from its input and what it has read. -/
structure Knows (host : Host) (world : World) (id : Nat)
    (call : Call Input Command Reply Result) : Prop where
  spawned : ∀ contract, .spawned id contract ∈ world.log → ∃ actorId, call.input = .wake actorId ∧
    OfRecord host actorId call.past contract ∧ Allowed host trim call.past contract
  stored : ∀ actorId value, .stored id actorId value ∈ world.log → ∃ registration,
    call.input = .register registration ∧ actorId = registration.agent ∧
      value = recordText host registration

def Event.call : Event → Nat
  | .stored call _ _ => call
  | .spawned call _ => call

/-- What one command adds to the log. -/
theorem serve_log (id : Nat) (command : Command) (world : World) :
    ∀ event ∈ (serve host id command world).2.log, event ∈ world.log ∨
      (∃ actorId value owner, command = .conditionalSet actorId value owner ∧
        event = .stored id actorId value) ∨
        ∃ contract, command = .spawn contract ∧ event = .spawned id contract := by
  intro event member
  cases command with
  | conditionalSet actorId value owner =>
      dsimp only [serve] at member
      split at member
      · rcases List.mem_cons.mp member with new | earlier
        · exact Or.inr (Or.inl ⟨actorId, value, owner, rfl, new⟩)
        · exact Or.inl earlier
      · exact Or.inl member
  | spawn contract =>
      rcases List.mem_cons.mp member with new | earlier
      · exact Or.inr (Or.inr ⟨contract, rfl, new⟩)
      · exact Or.inl earlier
  | _ => exact Or.inl member

def anyStep : Condition World Input Command Reply Result := fun _ _ _ _ => True

/-- Nothing has been stored or spawned by a call yet. -/
def Initial (world : World) : Prop := world.log = []

theorem preserves_knows : Protocol.Preserves (launchProtocol host)
    (fun world id call command => anyStep world id call command ∧
      Asks host call.input call.past command)
    (fun _ => True) (Knows host) fun world id => ∀ event ∈ world.log, event.call ≠ id where
  opened _ silent _ :=
    { spawned := fun _ member => absurd rfl (silent _ member)
      stored := fun _ _ member => absurd rfl (silent _ member) }
  served {world id input past command next} _ knows meets := by
    have more := List.subset_cons_self
      (⟨command, (serve host id command world).1⟩ : Exchange Command Reply) past
    refine ⟨trivial, ⟨fun contract member => ?_, fun actorId value member => ?_⟩,
      fun other different => ⟨fun call known => ⟨fun contract member => ?_,
        fun actorId value member => ?_⟩, fun silent event member => ?_⟩⟩
    · rcases serve_log id command world _ member with earlier | ⟨_, _, _, -, same⟩ | new
      · rcases knows.spawned contract earlier with ⟨actorId, isInput, ofRecord, allowed⟩
        exact ⟨actorId, isInput, ofRecord.mono more, allowed.mono more⟩
      · cases same
      · rcases new with ⟨found, isSpawn, same⟩
        cases same
        subst isSpawn
        rcases meets.2 with ⟨actorId, isInput, ofRecord, allowed⟩
        exact ⟨actorId, isInput, ofRecord.mono more, allowed.mono more⟩
    · rcases serve_log id command world _ member with earlier | new | ⟨_, -, same⟩
      · exact knows.stored actorId value earlier
      · rcases new with ⟨found, text, owner, isSet, same⟩
        cases same
        subst isSet
        exact meets.2
      · cases same
    · rcases serve_log id command world _ member with earlier | ⟨_, _, _, -, same⟩ | ⟨_, -, same⟩
      · exact known.spawned contract earlier
      · cases same
      · cases same
        exact absurd rfl different
    · rcases serve_log id command world _ member with earlier | ⟨_, _, _, -, same⟩ | ⟨_, -, same⟩
      · exact known.stored actorId value earlier
      · cases same
        exact absurd rfl different
      · cases same
    · rcases serve_log id command world _ member with earlier | ⟨_, _, _, -, rfl⟩ | ⟨_, -, rfl⟩
      · exact silent event earlier
      · exact different.symm
      · exact different.symm
  moved _ moves := by
    cases moves with
    | changed sameLog =>
        refine ⟨trivial, fun id => ⟨fun call known => ?_, fun silent => ?_⟩⟩
        · exact ⟨sameLog ▸ known.spawned, sameLog ▸ known.stored⟩
        · exact sameLog ▸ silent

theorem spawns_only_allowed (host : Host) (system : LaunchSystem)
    (reached : (launchProtocol host).Reachable anyStep Initial system) :
    SpawnsAllowed host trim system := by
  have holds := (reached.asking (follows_program host)).invariant
    (fun world initial => ⟨trivial, fun id event member => by
      rw [show world.log = [] from initial] at member
      cases member⟩) preserves_knows
  have running : ∀ event ∈ system.world.log, ∃ call, system.calls event.call = some call := by
    intro event member
    cases isCall : system.calls event.call with
    | none => exact absurd rfl (holds.idle event.call isCall event member)
    | some call => exact ⟨call, rfl⟩
  constructor
  · intro id contract member
    rcases running _ member with ⟨call, isCall⟩
    rcases (holds.own id call isCall).spawned contract member with
      ⟨actorId, isInput, ofRecord, allowed⟩
    exact ⟨call, actorId, isCall, isInput, ofRecord, allowed⟩
  · intro id actorId value member
    rcases running _ member with ⟨call, isCall⟩
    rcases (holds.own id call isCall).stored actorId value member with
      ⟨registration, isInput, isAgent, rfl⟩
    exact ⟨call, registration, isCall, isInput, isAgent.symm, fun record parsed =>
      launch_of_recordText parsed⟩

end Runs

/-! ## An entry with blanks around its command -/

section Blanks

def exampleHost : Host where
  numbers := ⟨fun token => Decimal.value token.text = 0, fun left right => left = right,
    fun token => String.ofList token.text⟩
  isCount token := token.text ≠ ['0']
  lower := String.toLower
  cwd := "/w"
  allowlistPath := "/allowlist.json"
  overridden := true
  parseError _ := "Unexpected token"
  stringify value := (value.map Json.render).getD "undefined"
  describeStored _ failing := failing
  scriptOwner text :=
    (Json.parse text).bind fun record => Json.asString (record.field "registered_by")

/-- The stored record of an actor that `codex` serves. -/
def exampleText : String :=
  "\x7b\"profile\":\x7b\"actor_id\":\"a\",\"alias\":\"a\",\"capabilities\":[]," ++
    "\"activation_policy\":\x7b\"mode\":\"wake_if_offline\"\x7d,\"max_concurrency\":1\x7d," ++
      "\"launch\":\x7b\"command\":\"codex\",\"args\":[]\x7d,\"registered_by\":\"s\"\x7d"

def exampleContract : RuntimeLaunchContract := ⟨"codex", [], none⟩

/-- An allowlist with one command, written with blanks around it. -/
def blankAllowlist : String :=
  "\x7b\"version\":2,\"commands\":[\x7b\"command\":\" codex \",\"allowed_args\":[[]]\x7d]\x7d"

def blankDocument : Json :=
  .object [("version", .number ⟨['2'], rfl, rfl⟩),
    ("commands", .array [.object [("command", .string " codex "),
      ("allowed_args", .array [.array []])]])]

theorem blankAllowlist_eq : blankAllowlist = blankDocument.render := by decide +kernel

def exampleWorld : World where
  profiles _ := some exampleText
  lstat := .ok ⟨true, 0o600⟩
  text := .ok blankAllowlist
  legacy := false
  isDirectory _ := false
  gate _ := true
  outcome := .spawned none
  log := []

/-- A whole wake of the actor. -/
def oneWake : LaunchSystem :=
  (fun before => (launchProtocol exampleHost).advance before 0)^[5]
    ((launchProtocol exampleHost).start ⟨exampleWorld, fun _ => none⟩ 0 (.wake "a"))

theorem oneWake_reachable : (launchProtocol exampleHost).Reachable anyStep Initial oneWake := by
  have empty : (launchProtocol exampleHost).Reachable anyStep Initial
      ⟨exampleWorld, fun _ => none⟩ := Protocol.Reachable.init rfl
  have started := empty.start 0 (.wake "a") rfl trivial
  exact started.advances 0 5 fun _ _ _ _ => trivial

/-- What a call has read of the allowlist. -/
def textsRead (past : Past) : List String :=
  past.filterMap fun
    | ⟨.readFile, .ok text⟩ => some text
    | _ => none

theorem mem_textsRead {past : Past} {text : String} (read : ⟨.readFile, .ok text⟩ ∈ past) :
    text ∈ textsRead past :=
  List.mem_filterMap.mpr ⟨_, read, rfl⟩

def spawns (log : List Event) : List RuntimeLaunchContract :=
  log.filterMap fun
    | .spawned 0 contract => some contract
    | _ => none

theorem mem_of_spawns {log : List Event} {contract : RuntimeLaunchContract}
    (member : contract ∈ spawns log) : .spawned 0 contract ∈ log := by
  rcases List.mem_filterMap.mp member with ⟨event, inside, same⟩
  split at same
  · cases same
    exact inside
  · cases same

/-- The wake spawns, from the one text it has read. -/
theorem oneWake_spawns : spawns oneWake.world.log = [exampleContract] ∧
    (oneWake.calls 0).map (fun call => textsRead call.past) = some [blankAllowlist] := by
  decide +kernel

theorem oneWake_spawned : .spawned 0 exampleContract ∈ oneWake.world.log := by
  apply mem_of_spawns
  rw [oneWake_spawns.1]
  exact List.mem_cons_self

/-- A listed command is spawned. -/
theorem listed_command_spawned : .spawned 0 exampleContract ∈ oneWake.world.log ∧
    SpawnsAllowed exampleHost trim oneWake :=
  ⟨oneWake_spawned, spawns_only_allowed exampleHost _ oneWake_reachable⟩

/-- The entry reads `" codex "`, and `codex` is spawned. -/
theorem blank_entry_admits :
    ¬∀ system, (launchProtocol exampleHost).Reachable anyStep Initial system →
      SpawnsAllowed exampleHost id system := by
  intro always
  rcases (always _ oneWake_reachable).allowed 0 _ oneWake_spawned with
    ⟨call, actorId, isCall, -, -, allowed⟩
  rcases allowed.listed.entry with ⟨text, document, command, read, parsed, -, lists, same⟩
  have reads := oneWake_spawns.2
  rw [isCall, Option.map_some, Option.some.injEq] at reads
  have isText : text = blankAllowlist := by
    have inside := mem_textsRead read
    rw [reads] at inside
    exact List.mem_singleton.mp inside
  subst isText
  have isCommand : command = "codex" := by
    rcases same with ⟨-, same⟩ | ⟨absolute, -⟩
    · exact same.symm
    · exact absurd absolute (by decide +kernel)
  rw [blankAllowlist_eq, Json.parse_render, Option.some.injEq] at parsed
  subst parsed
  rcases lists with ⟨items, isItems, item, inside, templates, written, -⟩
  cases isItems
  cases List.mem_singleton.mp inside
  have other : some (Json.string " codex ") = some (.string command) := written
  rw [isCommand] at other
  exact absurd (Json.string.inj (Option.some.inj other)) (by decide)

end Blanks

end GptQueue.Launch
