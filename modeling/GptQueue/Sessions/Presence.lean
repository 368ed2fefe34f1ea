import GptQueue.Foundation.Interleaving

/-! # Presence

A session has a record, a lease and a place in its agent's session set. The three
are written separately, and `getPresence` reads only the set and the leases.
-/

namespace GptQueue.Presence

/-! ## The server -/

structure SessionKeys where
  /-- The `agent_name` of a session record. -/
  record : String → Option String
  /-- Whether the lease key of a session exists. -/
  lease : String → Bool
  agentSessions : String → Finset String
  /-- The sessions created so far. -/
  created : Finset String
  /-- Whether the next registry write succeeds. -/
  registryUp : Bool

namespace SessionKeys

/-- `getPresence`. -/
def activeSessions (keys : SessionKeys) (agentName : String) : Finset String :=
  (keys.agentSessions agentName).filter fun sessionId => keys.lease sessionId = true

/-- The transaction of `createSession`. -/
def create (keys : SessionKeys) (sessionId agentName : String) : SessionKeys :=
  { keys with
    record := Function.update keys.record sessionId (some agentName)
    lease := Function.update keys.lease sessionId true
    agentSessions := Function.update keys.agentSessions agentName
      (insert sessionId (keys.agentSessions agentName))
    created := insert sessionId keys.created }

/-- `REFRESH_LEASE_SCRIPT`. -/
def refreshLease (keys : SessionKeys) (sessionId : String) : Bool × SessionKeys :=
  match keys.record sessionId with
  | none => (false, keys)
  | some agentName =>
      if agentName = "" then (false, keys)
      else
        (true,
          { keys with
            lease := Function.update keys.lease sessionId true
            agentSessions := Function.update keys.agentSessions agentName
              (insert sessionId (keys.agentSessions agentName)) })

/-- `PRUNE_EXPIRED_SCRIPT`. -/
def pruneExpired (keys : SessionKeys) (agentName : String) : SessionKeys :=
  { keys with
    record := fun sessionId =>
      if sessionId ∈ keys.agentSessions agentName ∧ keys.lease sessionId = false then none
      else keys.record sessionId
    agentSessions := Function.update keys.agentSessions agentName
      ((keys.agentSessions agentName).filter fun sessionId => keys.lease sessionId = true) }

/-- Delete the record and the lease of a session. -/
def delete (keys : SessionKeys) (sessionId : String) : SessionKeys :=
  { keys with
    record := Function.update keys.record sessionId none
    lease := Function.update keys.lease sessionId false }

def srem (keys : SessionKeys) (agentName sessionId : String) : SessionKeys :=
  { keys with
    agentSessions := Function.update keys.agentSessions agentName
      ((keys.agentSessions agentName).erase sessionId) }

/-- The script of `adoptIdentity` on the session keys. `guards` is what it finds in
the other keys: the mapping, the registry entries, the occupancy of the target
besides its sessions, and whether the source is quiet. -/
def adoptIdentity (keys : SessionKeys) (source target sessionId : String) (guards : Bool) :
    Bool × SessionKeys :=
  if guards = true ∧ keys.record sessionId = some source ∧ keys.lease sessionId = true ∧
      (keys.agentSessions source).card = 1 ∧ sessionId ∈ keys.agentSessions source ∧
      ¬∃ occupant ∈ keys.agentSessions target, keys.lease occupant = true then
    let left := keys.srem source sessionId
    (true,
      { left with
        record := Function.update keys.record sessionId (some target)
        agentSessions := Function.update left.agentSessions target
          (insert sessionId (left.agentSessions target)) })
  else (false, keys)

/-- `UNREGISTER_SCRIPT` on the session keys. -/
def unregister (keys : SessionKeys) (agentName sessionId : String) : SessionKeys :=
  if sessionId ≠ "" then (keys.delete sessionId).srem agentName sessionId else keys

end SessionKeys

/-! ## Calls -/

inductive Command
  | randomUUID
  | pruneExpired (agentName : String)
  | create (sessionId agentName : String)
  | writeRegistry
  /-- Remove the session again in one transaction. -/
  | rollback (sessionId agentName : String)
  | refreshLease (sessionId : String)
  | hget (sessionId : String)
  | del (sessionId : String)
  | srem (agentName sessionId : String)
  | adoptIdentity (source target sessionId : String) (guards : Bool)
  | unregister (agentName sessionId : String)
deriving DecidableEq

abbrev Reply : Command → Type
  | .randomUUID => String
  | .writeRegistry => Bool
  | .refreshLease _ => Bool
  | .hget _ => Option String
  | .adoptIdentity _ _ _ _ => Bool
  | _ => Unit

abbrev ask (command : Command) : Program Command Reply (Reply command) := Program.ask command

inductive Input
  | createSession (agentName : String)
  | refreshLease (sessionId : String)
  | pruneExpiredSessions (agentName : String)
  | closeSession (sessionId : String)
  | adoptIdentity (source target sessionId : String) (guards : Bool)
  | unregister (agentName sessionId : String)

inductive Result
  | created (sessionId : String)
  | failed
  | done
  | closed (agentName : Option String)
deriving DecidableEq

def createSession (agentName : String) : Program Command Reply Result := do
  let sessionId ← ask .randomUUID
  let _ ← ask (.pruneExpired agentName)
  let _ ← ask (.create sessionId agentName)
  if ← ask .writeRegistry then pure (.created sessionId)
  else do
    let _ ← ask (.rollback sessionId agentName)
    pure .failed

def closeSession (sessionId : String) : Program Command Reply Result := do
  match ← ask (.hget sessionId) with
  | none => pure (.closed none)
  | some agentName =>
      if agentName = "" then pure (.closed none)
      else do
        let _ ← ask (.del sessionId)
        let _ ← ask (.srem agentName sessionId)
        pure (.closed (some agentName))

def program : Input → Program Command Reply Result
  | .createSession agentName => createSession agentName
  | .refreshLease sessionId => do
      let renewed ← ask (.refreshLease sessionId)
      pure (if renewed then .done else .failed)
  | .pruneExpiredSessions agentName => do
      let _ ← ask (.pruneExpired agentName)
      pure .done
  | .closeSession sessionId => closeSession sessionId
  | .adoptIdentity source target sessionId guards =>
      if source = target then pure .failed
      else do
        let adopted ← ask (.adoptIdentity source target sessionId guards)
        pure (if adopted then .done else .failed)
  | .unregister agentName sessionId => do
      let _ ← ask (.unregister agentName sessionId)
      pure .done

/-- `uuid` has the session id that each call draws. -/
def serve (uuid : Nat → String) (id : Nat) :
    (command : Command) → SessionKeys → Reply command × SessionKeys
  | .randomUUID, keys => (uuid id, keys)
  | .pruneExpired agentName, keys => ((), keys.pruneExpired agentName)
  | .create sessionId agentName, keys => ((), keys.create sessionId agentName)
  | .writeRegistry, keys => (keys.registryUp, keys)
  | .rollback sessionId agentName, keys => ((), (keys.delete sessionId).srem agentName sessionId)
  | .refreshLease sessionId, keys => keys.refreshLease sessionId
  | .hget sessionId, keys => (keys.record sessionId, keys)
  | .del sessionId, keys => ((), keys.delete sessionId)
  | .srem agentName sessionId, keys => ((), keys.srem agentName sessionId)
  | .adoptIdentity source target sessionId guards, keys =>
      keys.adoptIdentity source target sessionId guards
  | .unregister agentName sessionId, keys => ((), keys.unregister agentName sessionId)

inductive Moves : SessionKeys → SessionKeys → Prop
  /-- A lease key expires. -/
  | expired {keys : SessionKeys} (sessionId : String) :
      Moves keys { keys with lease := Function.update keys.lease sessionId false }
  | registry {keys : SessionKeys} (registryUp : Bool) : Moves keys { keys with registryUp }

def sessionProtocol (uuid : Nat → String) :
    Protocol SessionKeys Input Command Reply Result where
  program := program
  serve := serve uuid
  opens _ _ := True
  moves := Moves

abbrev SessionSystem := System SessionKeys Input Command Reply Result

/-- The empty server. -/
structure Initial (keys : SessionKeys) : Prop where
  record : ∀ sessionId, keys.record sessionId = none
  lease : ∀ sessionId, keys.lease sessionId = false
  agentSessions : ∀ agentName, keys.agentSessions agentName = ∅
  created : keys.created = ∅

/-- Every run. -/
def anyStep : Condition SessionKeys Input Command Reply Result := fun _ _ _ _ => True

/-! ## What a call asks -/

abbrev Past := List (Exchange Command Reply)

def Command.isCreate : Command → Bool
  | .create _ _ => true
  | _ => false

/-- A session is created once, under the id just drawn. A set is left only after the
record that was read is deleted. -/
def Asks (past : Past) : Command → Prop
  | .create sessionId _ =>
      (∀ exchange ∈ past, exchange.1.isCreate = false) ∧ ⟨.randomUUID, sessionId⟩ ∈ past
  | .del sessionId => ∃ agentName, ⟨.hget sessionId, some agentName⟩ ∈ past
  | .srem _ sessionId => ⟨.del sessionId, ()⟩ ∈ past
  | _ => True

theorem follows_program (input : Input) :
    (program input).Follows Asks (fun _ _ => True) [] := by
  cases input with
  | createSession agentName =>
      refine Program.follows_ask_bind.mpr ⟨trivial, fun sessionId => ?_⟩
      refine Program.follows_ask_bind.mpr ⟨trivial, fun _ => ?_⟩
      refine Program.follows_ask_bind.mpr ⟨⟨?_, ?_⟩, fun _ => ?_⟩
      · simp [Command.isCreate]
      · simp
      · refine Program.follows_ask_bind.mpr ⟨trivial, fun written => ?_⟩
        cases written with
        | true => trivial
        | false => exact ⟨trivial, fun _ => trivial⟩
  | closeSession sessionId =>
      refine Program.follows_ask_bind.mpr ⟨trivial, fun found => ?_⟩
      cases found with
      | none => trivial
      | some agentName =>
          dsimp only
          split
          · trivial
          · refine Program.follows_ask_bind.mpr ⟨⟨agentName, List.mem_cons_self⟩, fun _ => ?_⟩
            exact Program.follows_ask_bind.mpr ⟨List.mem_cons_self, fun _ => trivial⟩
  | adoptIdentity source target sessionId guards =>
      dsimp only [program]
      split
      · trivial
      · exact ⟨trivial, fun _ => trivial⟩
  | _ => exact ⟨trivial, fun _ => trivial⟩

/-! ## The invariant -/

/-- A live lease has a record, a recorded session is in no other agent's set, and it is
in its own agent's set while its lease lives. -/
structure Exact (keys : SessionKeys) : Prop where
  recorded : ∀ {sessionId}, keys.lease sessionId = true → keys.record sessionId ≠ none
  only : ∀ {sessionId agentName other}, keys.record sessionId = some agentName →
    sessionId ∈ keys.agentSessions other → other = agentName
  listed : ∀ {sessionId agentName}, keys.record sessionId = some agentName →
    keys.lease sessionId = true → sessionId ∈ keys.agentSessions agentName
  created : ∀ {sessionId}, keys.record sessionId ≠ none → sessionId ∈ keys.created
  member : ∀ {sessionId agentName}, sessionId ∈ keys.agentSessions agentName →
    sessionId ∈ keys.created

section Exact

variable {keys : SessionKeys} {sessionId agentName : String}

theorem Exact.mem_activeSessions (sound : Exact keys) :
    sessionId ∈ keys.activeSessions agentName ↔
      keys.record sessionId = some agentName ∧ keys.lease sessionId = true := by
  rw [SessionKeys.activeSessions, Finset.mem_filter]
  constructor
  · intro active
    rcases active with ⟨member, live⟩
    cases found : keys.record sessionId with
    | none => exact absurd found (sound.recorded live)
    | some name => exact ⟨congrArg some (sound.only found member).symm, live⟩
  · intro present
    exact ⟨sound.listed present.1 present.2, present.2⟩

theorem Initial.exact (initial : Initial keys) : Exact keys where
  recorded live := by simp [initial.lease] at live
  only found := by simp [initial.record] at found
  listed found := by simp [initial.record] at found
  created found := by simp [initial.record] at found
  member found := by simp [initial.agentSessions] at found

theorem mem_update_insert {sets : String → Finset String} {name other added member : String} :
    member ∈ Function.update sets name (insert added (sets name)) other ↔
      (other = name ∧ member = added) ∨ member ∈ sets other := by
  by_cases same : other = name
  · subst same
    simp
  · simp [same]

theorem Exact.create (sound : Exact keys) (fresh : sessionId ∉ keys.created) :
    Exact (keys.create sessionId agentName) where
  recorded := by
    intro other live
    by_cases same : other = sessionId
    · simp [SessionKeys.create, same]
    · simp only [SessionKeys.create, Function.update_of_ne same] at live ⊢
      exact sound.recorded live
  only := by
    intro other name set found member
    rcases mem_update_insert.mp member with ⟨rfl, rfl⟩ | old
    · simpa [SessionKeys.create] using found
    · have different : other ≠ sessionId := fun same => fresh (same ▸ sound.member old)
      simp only [SessionKeys.create, Function.update_of_ne different] at found
      exact sound.only found old
  listed := by
    intro other name found live
    apply mem_update_insert.mpr
    by_cases same : other = sessionId
    · subst same
      simp only [SessionKeys.create, Function.update_self, Option.some.injEq] at found
      exact Or.inl ⟨found.symm, rfl⟩
    · simp only [SessionKeys.create, Function.update_of_ne same] at found live
      exact Or.inr (sound.listed found live)
  created := by
    intro other found
    by_cases same : other = sessionId
    · exact same ▸ Finset.mem_insert_self ..
    · simp only [SessionKeys.create, Function.update_of_ne same] at found
      exact Finset.mem_insert_of_mem (sound.created found)
  member := by
    intro other set member
    rcases mem_update_insert.mp member with ⟨-, same⟩ | old
    · exact same ▸ Finset.mem_insert_self ..
    · exact Finset.mem_insert_of_mem (sound.member old)

theorem Exact.refreshLease (sound : Exact keys) (sessionId : String) :
    Exact (keys.refreshLease sessionId).2 := by
  unfold SessionKeys.refreshLease
  cases found : keys.record sessionId with
  | none => exact sound
  | some agentName =>
      dsimp only
      split
      · exact sound
      · refine ⟨fun {other} live => ?_, fun {other name set} recorded member => ?_,
          fun {other name} recorded live => mem_update_insert.mpr ?_, sound.created,
          fun {other set} member => ?_⟩
        · by_cases same : other = sessionId
          · simp [same, found]
          · simp only [Function.update_of_ne same] at live
            exact sound.recorded live
        · rcases mem_update_insert.mp member with ⟨rfl, rfl⟩ | old
          · exact Option.some.inj (found.symm.trans recorded)
          · exact sound.only recorded old
        · by_cases same : other = sessionId
          · subst same
            exact Or.inl ⟨Option.some.inj (recorded.symm.trans found), rfl⟩
          · simp only [Function.update_of_ne same] at live
            exact Or.inr (sound.listed recorded live)
        · rcases mem_update_insert.mp member with ⟨-, rfl⟩ | old
          · exact sound.created (by simp [found])
          · exact sound.member old

theorem mem_pruneExpired {set member : String} :
    member ∈ (keys.pruneExpired agentName).agentSessions set ↔
      member ∈ keys.agentSessions set ∧ (set = agentName → keys.lease member = true) := by
  by_cases same : set = agentName
  · subst same
    simp [SessionKeys.pruneExpired]
  · simp [SessionKeys.pruneExpired, same]

theorem record_pruneExpired {name : String}
    (found : (keys.pruneExpired agentName).record sessionId = some name) :
    keys.record sessionId = some name := by
  dsimp only [SessionKeys.pruneExpired] at found
  split at found
  · cases found
  · exact found

theorem Exact.pruneExpired (sound : Exact keys) (agentName : String) :
    Exact (keys.pruneExpired agentName) where
  recorded := by
    intro other live
    have alive : keys.lease other = true := live
    simp only [SessionKeys.pruneExpired, alive, Bool.true_eq_false, and_false, if_false]
    exact sound.recorded live
  only found member := sound.only (record_pruneExpired found) (mem_pruneExpired.mp member).1
  listed found live := by
    have recorded := record_pruneExpired found
    exact mem_pruneExpired.mpr ⟨sound.listed recorded live, fun _ => live⟩
  created := by
    intro other found
    apply sound.created
    intro absent
    apply found
    simp [SessionKeys.pruneExpired, absent]
  member member := sound.member (mem_pruneExpired.mp member).1

theorem Exact.delete (sound : Exact keys) (sessionId : String) : Exact (keys.delete sessionId) := by
  have old : ∀ {other name}, (keys.delete sessionId).record other = some name →
      keys.record other = some name ∧ other ≠ sessionId := by
    intro other name found
    by_cases same : other = sessionId
    · simp [SessionKeys.delete, same] at found
    · simp only [SessionKeys.delete, Function.update_of_ne same] at found
      exact ⟨found, same⟩
  refine ⟨fun {other} live => ?_, fun found member => sound.only (old found).1 member,
    fun found live => ?_, fun {other} found => ?_, sound.member⟩
  · by_cases same : other = sessionId
    · simp [SessionKeys.delete, same] at live
    · simp only [SessionKeys.delete, Function.update_of_ne same] at live ⊢
      exact sound.recorded live
  · rcases old found with ⟨recorded, same⟩
    simp only [SessionKeys.delete, Function.update_of_ne same] at live
    exact sound.listed recorded live
  · rcases Option.ne_none_iff_exists'.mp found with ⟨name, some⟩
    apply sound.created
    rw [(old some).1]
    simp

theorem mem_srem {set member : String} :
    member ∈ (keys.srem agentName sessionId).agentSessions set ↔
      member ∈ keys.agentSessions set ∧ ¬(set = agentName ∧ member = sessionId) := by
  by_cases same : set = agentName
  · subst same
    simp [SessionKeys.srem, and_comm]
  · simp [SessionKeys.srem, same]

theorem Exact.srem (sound : Exact keys) (gone : keys.record sessionId = none)
    (agentName : String) : Exact (keys.srem agentName sessionId) where
  recorded := sound.recorded
  only found member := sound.only found (mem_srem.mp member).1
  listed := by
    intro other name found live
    refine mem_srem.mpr ⟨sound.listed found live, fun same => ?_⟩
    rw [same.2] at found
    cases gone.symm.trans found
  created := sound.created
  member member := sound.member (mem_srem.mp member).1

theorem delete_record (keys : SessionKeys) (sessionId : String) :
    (keys.delete sessionId).record sessionId = none :=
  Function.update_self ..

theorem Exact.unregister (sound : Exact keys) (agentName sessionId : String) :
    Exact (keys.unregister agentName sessionId) := by
  unfold SessionKeys.unregister
  split
  · exact (sound.delete sessionId).srem (delete_record keys sessionId) agentName
  · exact sound

theorem Exact.adoptIdentity (sound : Exact keys) (source target sessionId : String)
    (guards : Bool) : Exact (keys.adoptIdentity source target sessionId guards).2 := by
  unfold SessionKeys.adoptIdentity
  split
  · next adopts =>
      rcases adopts with ⟨-, owned, live, -, member, -⟩
      have moved : ∀ {set other}, other ∈ Function.update (keys.srem source sessionId).agentSessions
          target (insert sessionId ((keys.srem source sessionId).agentSessions target)) set →
          (set = target ∧ other = sessionId) ∨ other ∈ keys.agentSessions set ∧
            ¬(set = source ∧ other = sessionId) := by
        intro set other isMember
        exact (mem_update_insert.mp isMember).imp_right mem_srem.mp
      refine ⟨fun {other} alive => ?_, fun {other name set} found isMember => ?_,
        fun {other name} found alive => mem_update_insert.mpr ?_, fun {other} found => ?_,
        fun {other set} isMember => ?_⟩
      · by_cases same : other = sessionId
        · simp [same]
        · simp only [Function.update_of_ne same]
          exact sound.recorded alive
      · by_cases same : other = sessionId
        · subst same
          simp only [Function.update_self, Option.some.injEq] at found
          rcases moved isMember with ⟨here, -⟩ | ⟨old, notSource⟩
          · exact here.trans found
          · exact absurd ⟨sound.only owned old, rfl⟩ notSource
        · simp only [Function.update_of_ne same] at found
          rcases moved isMember with ⟨-, isOther⟩ | ⟨old, -⟩
          · exact absurd isOther same
          · exact sound.only found old
      · by_cases same : other = sessionId
        · subst same
          simp only [Function.update_self, Option.some.injEq] at found
          exact Or.inl ⟨found.symm, rfl⟩
        · simp only [Function.update_of_ne same] at found
          exact Or.inr (mem_srem.mpr ⟨sound.listed found alive, fun both => same both.2⟩)
      · by_cases same : other = sessionId
        · subst same
          exact sound.member member
        · simp only [Function.update_of_ne same] at found
          exact sound.created found
      · rcases moved isMember with ⟨-, isOther⟩ | ⟨old, -⟩
        · subst isOther
          exact sound.member member
        · exact sound.member old
  · exact sound

theorem Exact.moved {after : SessionKeys} (sound : Exact keys) (moves : Moves keys after) :
    Exact after := by
  cases moves with
  | registry registryUp => exact ⟨sound.recorded, sound.only, sound.listed, sound.created,
      sound.member⟩
  | expired expired =>
      have old : ∀ {other}, Function.update keys.lease expired false other = true →
          keys.lease other = true := by
        intro other live
        by_cases same : other = expired
        · simp [same] at live
        · rwa [Function.update_of_ne same] at live
      exact ⟨fun live => sound.recorded (old live), sound.only,
        fun found live => sound.listed found (old live), sound.created, sound.member⟩

end Exact

/-! ## Runs -/

/-- What is known of one call: the id it drew is its own, and unused until it creates
its session; a session it has read was created, and one it has deleted stays so. -/
structure Knows (uuid : Nat → String) (keys : SessionKeys) (id : Nat)
    (call : Call Input Command Reply Result) : Prop where
  drew : ∀ {drawn : String}, ⟨.randomUUID, drawn⟩ ∈ call.past → drawn = uuid id
  fresh : (∀ exchange ∈ call.past, exchange.1.isCreate = false) → uuid id ∉ keys.created
  read : ∀ {sessionId agentName}, ⟨.hget sessionId, some agentName⟩ ∈ call.past →
    sessionId ∈ keys.created
  deleted : ∀ {sessionId}, ⟨.del sessionId, ()⟩ ∈ call.past →
    sessionId ∈ keys.created ∧ keys.record sessionId = none

section Runs

variable {uuid : Nat → String} {id : Nat} {keys after : SessionKeys}

/-- Sessions come only from the creating transaction. -/
structure Grows (keys after : SessionKeys) (new : Option String) : Prop where
  created : ∀ {sessionId}, sessionId ∈ after.created ↔
    sessionId ∈ keys.created ∨ some sessionId = new
  record : ∀ {sessionId}, keys.record sessionId = none → some sessionId ≠ new →
    after.record sessionId = none

theorem Grows.refl (keys : SessionKeys) : Grows keys keys none :=
  ⟨by simp, fun absent _ => absent⟩

def Command.creates : Command → Option String
  | .create sessionId _ => some sessionId
  | _ => none

theorem grows_delete (keys : SessionKeys) (sessionId : String) :
    Grows keys (keys.delete sessionId) none := by
  refine ⟨by simp [SessionKeys.delete], fun {other} absent _ => ?_⟩
  by_cases same : other = sessionId
  · rw [same]
    exact delete_record keys sessionId
  · simpa [SessionKeys.delete, same] using absent

theorem serve_grows (command : Command) :
    Grows keys (serve uuid id command keys).2 command.creates := by
  cases command with
  | pruneExpired agentName =>
      refine ⟨by simp [serve, SessionKeys.pruneExpired, Command.creates], fun absent _ => ?_⟩
      simp [serve, SessionKeys.pruneExpired, absent]
  | create sessionId agentName =>
      refine ⟨?_, fun {other} absent different => ?_⟩
      · intro other
        simp [serve, SessionKeys.create, Command.creates, or_comm]
      · have other : other ≠ sessionId := fun same => different (congrArg some same)
        simpa [serve, SessionKeys.create, other] using absent
  | rollback sessionId agentName => exact ⟨(grows_delete keys sessionId).created,
      (grows_delete keys sessionId).record⟩
  | refreshLease sessionId =>
      dsimp only [serve, SessionKeys.refreshLease]
      split
      · exact Grows.refl keys
      · split
        · exact Grows.refl keys
        · exact ⟨by simp [Command.creates], fun absent _ => absent⟩
  | del sessionId => exact grows_delete keys sessionId
  | srem agentName sessionId => exact ⟨by simp [serve, SessionKeys.srem, Command.creates],
      fun absent _ => absent⟩
  | adoptIdentity source target sessionId guards =>
      dsimp only [serve, SessionKeys.adoptIdentity]
      split
      · next adopts =>
          refine ⟨by simp [SessionKeys.srem, Command.creates], fun {other} absent _ => ?_⟩
          have different : other ≠ sessionId := by
            intro same
            rw [same, adopts.2.1] at absent
            cases absent
          simpa [different] using absent
      · exact Grows.refl keys
  | unregister agentName sessionId =>
      dsimp only [serve, SessionKeys.unregister]
      split
      · exact ⟨(grows_delete keys sessionId).created, (grows_delete keys sessionId).record⟩
      · exact Grows.refl keys
  | _ => exact Grows.refl keys

theorem Moves.grows (moves : Moves keys after) : Grows keys after none := by
  cases moves <;> exact ⟨by simp, fun absent _ => absent⟩

/-- A session without a record that was created before stays without one. -/
theorem Grows.deleted {new : Option String} (grows : Grows keys after new)
    (fresh : ∀ created ∈ new, created ∉ keys.created) {sessionId : String}
    (created : sessionId ∈ keys.created) (absent : keys.record sessionId = none) :
    sessionId ∈ after.created ∧ after.record sessionId = none := by
  refine ⟨grows.created.mpr (Or.inl created), grows.record absent ?_⟩
  intro same
  exact fresh sessionId same.symm created

/-- A step of another call, or of none. -/
theorem Knows.mono {call : Call Input Command Reply Result} {new : Option String}
    (knows : Knows uuid keys id call) (grows : Grows keys after new)
    (fresh : ∀ created ∈ new, created ∉ keys.created) (other : some (uuid id) ≠ new) :
    Knows uuid after id call where
  drew := knows.drew
  fresh none isCreated := by
    rcases grows.created.mp isCreated with old | own
    · exact knows.fresh none old
    · exact other own
  read found := grows.created.mpr (Or.inl (knows.read found))
  deleted found := grows.deleted fresh (knows.deleted found).1 (knows.deleted found).2

/-- The session that a command creates is the call's own and new. -/
theorem Knows.creates {input : Input} {past : Past} {command : Command}
    {rest : Program Command Reply Result} (knows : Knows uuid keys id ⟨input, past, rest⟩)
    (asks : Asks past command) :
    ∀ created ∈ command.creates, created = uuid id ∧ created ∉ keys.created := by
  intro created isNew
  cases command with
  | create sessionId agentName =>
      have same : sessionId = created := Option.some.inj isNew
      subst same
      rcases asks with ⟨first, drawn⟩
      have own : sessionId = uuid id := knows.drew drawn
      exact ⟨own, own ▸ knows.fresh first⟩
  | _ => cases isNew

theorem Knows.served {input : Input} {past : Past} {command : Command}
    {next : Reply command → Program Command Reply Result} (sound : Exact keys)
    (knows : Knows uuid keys id ⟨input, past, .call command next⟩) (asks : Asks past command) :
    Knows uuid (serve uuid id command keys).2 id
      ⟨input, ⟨command, (serve uuid id command keys).1⟩ :: past,
        next (serve uuid id command keys).1⟩ := by
  have grows := @serve_grows uuid id keys command
  have fresh : ∀ created ∈ command.creates, created ∉ keys.created :=
    fun created isNew => (knows.creates asks created isNew).2
  refine ⟨fun found => ?_, fun none isCreated => ?_, fun found => ?_, fun found => ?_⟩
  · rcases List.mem_cons.mp found with head | earlier
    · exact (reply_of_head (fun asked => (serve uuid id asked keys).1) head).1
    · exact knows.drew earlier
  · have before : ∀ exchange ∈ past, exchange.1.isCreate = false :=
      fun exchange earlier => none exchange (List.mem_cons_of_mem _ earlier)
    rcases grows.created.mp isCreated with old | own
    · exact knows.fresh before old
    · have last := none _ List.mem_cons_self
      cases command with
      | create sessionId agentName => cases last
      | _ => cases own
  · apply grows.created.mpr
    left
    rcases List.mem_cons.mp found with head | earlier
    · rcases reply_of_head (fun asked => (serve uuid id asked keys).1) head with ⟨read, rfl⟩
      apply sound.created
      intro absent
      cases read.trans absent
    · exact knows.read earlier
  · rcases List.mem_cons.mp found with head | earlier
    · rcases reply_of_head (fun asked => (serve uuid id asked keys).1) head with ⟨-, rfl⟩
      rcases asks with ⟨agentName, read⟩
      exact ⟨grows.created.mpr (Or.inl (knows.read read)), delete_record keys _⟩
    · exact grows.deleted fresh (knows.deleted earlier).1 (knows.deleted earlier).2

theorem exact_served {input : Input} {past : Past} {command : Command}
    {next : Reply command → Program Command Reply Result} (sound : Exact keys)
    (knows : Knows uuid keys id ⟨input, past, .call command next⟩) (asks : Asks past command) :
    Exact (serve uuid id command keys).2 := by
  cases command with
  | pruneExpired agentName => exact sound.pruneExpired agentName
  | create sessionId agentName => exact sound.create (knows.creates asks sessionId rfl).2
  | rollback sessionId agentName =>
      exact (sound.delete sessionId).srem (delete_record keys sessionId) agentName
  | refreshLease sessionId => exact sound.refreshLease sessionId
  | del sessionId => exact sound.delete sessionId
  | srem agentName sessionId => exact sound.srem (knows.deleted asks).2 agentName
  | adoptIdentity source target sessionId guards =>
      exact sound.adoptIdentity source target sessionId guards
  | unregister agentName sessionId => exact sound.unregister agentName sessionId
  | _ => exact sound

theorem preserves_exact (injective : Function.Injective uuid) :
    Protocol.Preserves (sessionProtocol uuid)
      (fun keys id call command => anyStep keys id call command ∧ Asks call.past command)
      Exact (Knows uuid) (fun keys id => uuid id ∉ keys.created) where
  opened _ unused _ :=
    { drew := fun found => absurd found List.not_mem_nil
      fresh := fun _ => unused
      read := fun found => absurd found List.not_mem_nil
      deleted := fun found => absurd found List.not_mem_nil }
  served {keys id input past command next} sound knows meets := by
    have creates := knows.creates meets.2
    have grows := @serve_grows uuid id keys command
    refine ⟨exact_served sound knows meets.2, knows.served sound meets.2, fun other different => ?_⟩
    have foreign : some (uuid other) ≠ command.creates := by
      intro same
      exact different (injective (creates _ same.symm).1)
    refine ⟨fun call kept => kept.mono grows (fun created isNew => (creates created isNew).2)
      foreign, fun unused isCreated => ?_⟩
    rcases grows.created.mp isCreated with old | own
    · exact unused old
    · exact foreign own
  moved {keys after} sound moves := by
    refine ⟨sound.moved moves, fun id => ⟨fun call kept => ?_, fun unused isCreated => ?_⟩⟩
    · exact kept.mono moves.grows (fun _ none => by cases none) (by simp)
    · rcases moves.grows.created.mp isCreated with old | own
      · exact unused old
      · cases own

variable {system : SessionSystem}

theorem holds_of_reachable (injective : Function.Injective uuid)
    (reached : (sessionProtocol uuid).Reachable anyStep Initial system) :
    Protocol.Holds Exact (Knows uuid) (fun keys id => uuid id ∉ keys.created) system :=
  (reached.asking follows_program).invariant
    (fun _ initial => ⟨initial.exact, fun _ => by simp [initial.created]⟩)
    (preserves_exact injective)

/-- A created session stays created, and a deleted one stays deleted. -/
theorem created_of_step (injective : Function.Injective uuid)
    (reached : (sessionProtocol uuid).Reachable anyStep Initial system) {later : SessionSystem}
    (step : (sessionProtocol uuid).Step anyStep system later) {sessionId : String}
    (created : sessionId ∈ system.world.created) :
    sessionId ∈ later.world.created ∧
      (system.world.record sessionId = none → later.world.record sessionId = none) := by
  have holds := holds_of_reachable injective reached
  have follows := reached.follows follows_program
  cases step with
  | opened unused opens => exact ⟨created, id⟩
  | @served id input past command next running meets =>
      have creates := (holds.own id _ running).creates (follows id _ running).1
      have grows := @serve_grows uuid id system.world command
      exact ⟨grows.created.mpr (Or.inl created), fun absent => (grows.deleted
        (fun new isNew => (creates new isNew).2) created absent).2⟩
  | moved moves =>
      have grows := Moves.grows moves
      exact ⟨grows.created.mpr (Or.inl created), fun absent => (grows.deleted
        (fun _ none => by cases none) created absent).2⟩

theorem created_of_steps (injective : Function.Injective uuid)
    (reached : (sessionProtocol uuid).Reachable anyStep Initial system) {later : SessionSystem}
    (steps : Relation.ReflTransGen ((sessionProtocol uuid).Step anyStep) system later)
    {sessionId : String} (created : sessionId ∈ system.world.created) :
    sessionId ∈ later.world.created ∧
      (system.world.record sessionId = none → later.world.record sessionId = none) := by
  induction steps with
  | refl => exact ⟨created, id⟩
  | tail earlier step induction =>
      rcases created_of_step injective (reached.steps earlier) step induction.1 with ⟨kept, deleted⟩
      exact ⟨kept, fun absent => deleted (induction.2 absent)⟩

/-- A session is active for an agent exactly if its record names the agent and its
lease exists, and once its record is deleted it is never active again. -/
theorem presence_exact (injective : Function.Injective uuid)
    (reached : (sessionProtocol uuid).Reachable anyStep Initial system) :
    (∀ agentName sessionId, sessionId ∈ system.world.activeSessions agentName ↔
      system.world.record sessionId = some agentName ∧ system.world.lease sessionId = true) ∧
    ∀ deleted later sessionId,
      Relation.ReflTransGen ((sessionProtocol uuid).Step anyStep) system deleted →
      Relation.ReflTransGen ((sessionProtocol uuid).Step anyStep) deleted later →
      system.world.record sessionId ≠ none → deleted.world.record sessionId = none →
      ∀ agentName, sessionId ∉ later.world.activeSessions agentName := by
  have sound := (holds_of_reachable injective reached).shared
  refine ⟨fun agentName sessionId => sound.mem_activeSessions, ?_⟩
  intro deleted later sessionId first second present absent agentName active
  have reachedDeleted := reached.steps first
  have created := (created_of_steps injective reached first (sound.created present)).1
  have gone := (created_of_steps injective reachedDeleted second created).2 absent
  have laterSound := (holds_of_reachable injective (reachedDeleted.steps second)).shared
  have recorded := (laterSound.mem_activeSessions.mp active).1
  cases gone.symm.trans recorded

end Runs

/-! One session is created and closed. -/

section Schedule

def emptyKeys : SessionKeys := ⟨fun _ => none, fun _ => false, fun _ => ∅, ∅, true⟩

def advances (system : SessionSystem) (id count : Nat) : SessionSystem :=
  (fun before => (sessionProtocol unary).advance before id)^[count] system

def openedSession : SessionSystem :=
  advances ((sessionProtocol unary).start ⟨emptyKeys, fun _ => none⟩ 1
    (.createSession "worker")) 1 4

def closedSession : SessionSystem :=
  advances ((sessionProtocol unary).start openedSession 2 (.closeSession "u")) 2 2

theorem openedSession_reachable :
    (sessionProtocol unary).Reachable anyStep Initial openedSession := by
  have empty : Initial emptyKeys := ⟨fun _ => rfl, fun _ => rfl, fun _ => rfl, rfl⟩
  have begun : (sessionProtocol unary).Reachable anyStep Initial
      ((sessionProtocol unary).start ⟨emptyKeys, fun _ => none⟩ 1 (.createSession "worker")) :=
    (Protocol.Reachable.init empty).start 1 _ rfl trivial
  exact begun.advances 1 4 fun _ _ _ _ => trivial

theorem closedSession_steps :
    Relation.ReflTransGen ((sessionProtocol unary).Step anyStep) openedSession closedSession := by
  have begun : (sessionProtocol unary).Step anyStep openedSession
      ((sessionProtocol unary).start openedSession 2 (.closeSession "u")) := .opened rfl trivial
  exact (Relation.ReflTransGen.single begun).trans
    (Protocol.steps_advances 2 2 fun _ _ _ _ => trivial)

theorem closedSession_inactive :
    "u" ∈ openedSession.world.activeSessions "worker" ∧
      "u" ∉ closedSession.world.activeSessions "worker" := by
  rcases presence_exact unary_injective openedSession_reachable with ⟨active, gone⟩
  refine ⟨(active "worker" "u").mpr (by decide +kernel), ?_⟩
  exact gone closedSession closedSession "u" closedSession_steps .refl (by decide +kernel)
    (by decide +kernel) "worker"

end Schedule

end GptQueue.Presence
