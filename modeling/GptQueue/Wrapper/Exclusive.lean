import GptQueue.Wrapper.IdentityClaim

/-! # What a claim protects

The scripts of a wrapper look at the session set of its name. Every live lease of the
name is in the set, so what they find there is true of the leases.
-/

namespace GptQueue.Wrapper

open Redis

abbrev Past := List (Exchange Command Reply)

abbrev ClaimCall := Call Input Command Reply Result

/-! ## What the calls ask -/

section Asks

/-- What a call has asked of the sessions. -/
def sessionPast : Past → Presence.Past
  | [] => []
  | ⟨.session command, reply⟩ :: past => ⟨command, reply⟩ :: sessionPast past
  | _ :: past => sessionPast past

def Asks (input : Input) (past : Past) : Command → Prop
  | .session command => Presence.Asks (sessionPast past) command
  | .acquire requireFresh => input = .acquire requireFresh
  | .release holder => input = .release holder
  | _ => True

def AnyEnd (_ : Past) (_ : Result) : Prop := True

theorem follows_sessionProgram {input : Input} {past : Past}
    {program : Program Presence.Command Presence.Reply Presence.Result}
    (follows : program.Follows Presence.Asks (fun _ _ => True) (sessionPast past)) :
    (sessionProgram program).Follows (Asks input) AnyEnd past := by
  induction program generalizing past with
  | done result => trivial
  | call command next induction =>
      exact ⟨follows.1, fun reply => induction reply (follows.2 reply)⟩

theorem follows_connected {input : Input} {holder : Nat} {request : Program Command Reply Result}
    (follows : ∀ past, request.Follows (Asks input) AnyEnd past) :
    (connected holder request).Follows (Asks input) AnyEnd [] := by
  apply Program.follows_ask_bind.mpr
  refine ⟨trivial, fun handle => ?_⟩
  split
  · exact follows _
  · trivial

theorem follows_closeRedis {input : Input} (holder : Nat) (handle : Option Handle) (past : Past) :
    (closeRedis holder handle).Follows (Asks input) AnyEnd past := by
  unfold closeRedis
  split
  · trivial
  · exact Program.follows_ask_bind.mpr ⟨trivial, fun _ => trivial⟩

theorem follows_acquire (agent : String) (requireFresh : Bool) :
    (acquireWrapperIdentityClaim agent requireFresh).Follows (Asks (.acquire requireFresh)) AnyEnd
      [] := by
  apply Program.follows_ask_bind.mpr
  refine ⟨rfl, fun answer => ?_⟩
  cases answer with
  | none => trivial
  | some acquired =>
      dsimp only
      split
      · trivial
      · split
        · split <;> trivial
        · trivial

theorem follows_release (agent : String) (holder : Nat) :
    (release agent holder).Follows (Asks (.release holder)) AnyEnd [] := by
  apply Program.follows_ask_bind.mpr
  refine ⟨trivial, fun handle => ?_⟩
  split
  · exact follows_closeRedis holder handle _
  · split
    · trivial
    · split
      · apply Program.follows_ask_bind.mpr
        refine ⟨rfl, fun answer => ?_⟩
        cases answer with
        | none => trivial
        | some deleted =>
            dsimp only
            split
            · trivial
            · apply Program.follows_ask_bind.mpr
              exact ⟨trivial, fun handle => follows_closeRedis holder handle _⟩
      · trivial

theorem follows_program (agent : String) (input : Input) :
    (program agent input).Follows (Asks input) AnyEnd [] := by
  cases input with
  | session input => exact follows_sessionProgram (Presence.follows_program input)
  | acquire requireFresh => exact follows_acquire agent requireFresh
  | assertExclusiveSession holder sessionId =>
      apply follows_connected
      intro past
      apply Program.follows_ask_bind.mpr
      refine ⟨trivial, fun answer => ?_⟩
      cases answer with
      | none => trivial
      | some verified =>
          dsimp only
          split <;> trivial
  | unregisterExclusiveSession holder sessionId =>
      apply follows_connected
      intro past
      apply Program.follows_ask_bind.mpr
      refine ⟨trivial, fun answer => ?_⟩
      split <;> trivial
  | release holder => exact follows_release agent holder
  | abandon holder => exact Program.follows_ask_bind.mpr ⟨trivial, fun _ => trivial⟩

end Asks

/-! ## The scripts -/

/-- What an acquisition finds. -/
structure Free (agent : String) (requireFresh : Bool) (world : World) : Prop where
  unclaimed : world.claim = none
  inactive : ∀ sessionId, world.sessions.record sessionId = some agent →
    world.sessions.lease sessionId = false
  heartbeat : world.keyspace.value (.heartbeat agent) = none
  unregistered : requireFresh = true → (world.keyspace.fields .registry).lookup agent = none

/-- Only keys of the session are touched. -/
structure TouchesOwn (agent sessionId : String) (before after : World) : Prop where
  keyspace : after.keyspace = before.keyspace
  claim : after.claim = before.claim
  record : ∀ other, other ≠ sessionId →
    after.sessions.record other = before.sessions.record other
  lease : ∀ other, other ≠ sessionId → after.sessions.lease other = before.sessions.lease other
  agentSessions : ∀ name other, ¬(name = agent ∧ other = sessionId) →
    (other ∈ after.sessions.agentSessions name ↔ other ∈ before.sessions.agentSessions name)

/-- What an unregistration does: nothing without the token or with a session of another
name, and more than the removal of the session only where no other session is live. -/
def Unregisters (agent token sessionId : String) (before after : World) : Prop :=
  after = before ∨ before.claim = some token ∧ before.sessions.record sessionId = some agent ∧
    (TouchesOwn agent sessionId before after ∨
      ∀ other, before.sessions.record other = some agent → before.sessions.lease other = true →
        other = sessionId)

section Scripts

variable {cjson : Cjson} {agent token sessionId : String} {fresh : Bool} {world : World}

/-- An acquisition stores its token in a free name, or changes nothing. -/
theorem acquire_cases (sound : Presence.Exact world.sessions) :
    (world.acquire agent token fresh).1 ≠ some 1 ∧
        (world.acquire agent token fresh).2 = world ∨
      world.acquire agent token fresh = (some 1, { world with claim := some token }) ∧
        Free agent fresh world := by
  unfold World.acquire
  split
  · exact Or.inl ⟨by simp, rfl⟩
  next unclaimed =>
    have isNone : world.claim = none := by simpa using unclaimed
    split
    · exact Or.inl ⟨by simp, rfl⟩
    · exact Or.inl ⟨by simp, rfl⟩
    next found =>
      split
      · exact Or.inl ⟨by simp, rfl⟩
      next inactive =>
        split
        · exact Or.inl ⟨by simp, rfl⟩
        next silent =>
          refine Or.inr ⟨rfl, isNone, fun other recorded => ?_, by simpa using silent, ?_⟩
          · by_contra live
            have active := sound.mem_activeSessions.mpr ⟨recorded, by simpa using live⟩
            exact inactive ⟨other, active⟩
          · intro isFresh
            rw [if_pos isFresh, hexists] at found
            cases admitted : world.keyspace.admits .registry .hash with
            | false =>
                rw [run_typed_of_refused admitted] at found
                cases found
            | true =>
                rw [run_typed admitted] at found
                simpa using found

theorem touchesOwn_delete (agent sessionId : String) (world : World) :
    TouchesOwn agent sessionId world
      { world with sessions := (world.sessions.delete sessionId).srem agent sessionId } where
  keyspace := rfl
  claim := rfl
  record _ different := Function.update_of_ne different _ _
  lease _ different := Function.update_of_ne different _ _
  agentSessions name other outside := by
    rw [Presence.mem_srem]
    exact ⟨fun member => member.1, fun member => ⟨member, outside⟩⟩

/-- A session that is alone in its set is the only live one. -/
theorem live_of_alone (sound : Presence.Exact world.sessions)
    (alone : world.alone agent sessionId = true) {other : String}
    (recorded : world.sessions.record other = some agent)
    (live : world.sessions.lease other = true) : other = sessionId := by
  have both := of_decide_eq_true alone
  rcases Finset.card_eq_one.mp both.1 with ⟨only, isOnly⟩
  have listed := sound.listed recorded live
  have own := both.2
  rw [isOnly, Finset.mem_singleton] at listed own
  exact listed.trans own.symm

theorem unregisterExclusive_cases (sound : Presence.Exact world.sessions) :
    Unregisters agent token sessionId world
      (world.unregisterExclusive cjson agent token sessionId).2 := by
  unfold World.unregisterExclusive
  split
  · exact Or.inl rfl
  next isToken =>
    split
    · exact Or.inl rfl
    next isAgent =>
      refine Or.inr ⟨not_not.mp isToken, not_not.mp isAgent, ?_⟩
      dsimp only
      split
      · exact Or.inl (touchesOwn_delete agent sessionId world)
      next alone =>
        right
        intro other recorded live
        exact live_of_alone sound (by simpa using alone) recorded live

/-- The session keys after an unregistration. -/
theorem unregisterExclusive_sessions (cjson : Cjson) (agent token sessionId : String)
    (world : World) :
    (world.unregisterExclusive cjson agent token sessionId).2.sessions = world.sessions ∨
      (world.unregisterExclusive cjson agent token sessionId).2.sessions =
        (world.sessions.delete sessionId).srem agent sessionId := by
  unfold World.unregisterExclusive
  split
  · exact Or.inl rfl
  · split
    · exact Or.inl rfl
    · right
      dsimp only
      split
      · rfl
      · split <;> rfl

theorem unregisterExclusive_claim (cjson : Cjson) (agent token sessionId : String)
    (world : World) :
    (world.unregisterExclusive cjson agent token sessionId).2.claim = world.claim := by
  unfold World.unregisterExclusive
  split
  · rfl
  · split
    · rfl
    · dsimp only
      split
      · rfl
      · split <;> rfl

end Scripts

/-! ## Steps -/

section Steps

variable {cjson : Cjson} {agent : String} {draws : Draws} {id : Nat} {world after : World}

/-- The claim after a step: as before, newly acquired, or released. -/
inductive ClaimStep (draws : Draws) (agent : String) (id : Nat) (command : Command)
    (before after : World) : Prop
  | same (same : after.claim = before.claim)
  | acquired (requireFresh : Bool) (acquires : command = .acquire requireFresh)
      (free : Free agent requireFresh before) (stored : after.claim = some (draws.token id))
  | released (holder : Nat) (releases : command = .release holder)
      (held : before.claim = some (draws.token holder)) (gone : after.claim = none)

theorem serve_claim (sound : Presence.Exact world.sessions) (command : Command) :
    ClaimStep draws agent id command world (serve cjson agent draws id command world).2 := by
  cases command with
  | acquire requireFresh =>
      have isServed : (serve cjson agent draws id (.acquire requireFresh) world).2.claim =
          (world.acquire agent (draws.token id) requireFresh).2.claim := by
        dsimp only [serve]
        split <;> rfl
      rcases @acquire_cases agent (draws.token id) requireFresh world sound with
        ⟨-, unchanged⟩ | ⟨acquired, free⟩
      · exact .same (isServed.trans (congrArg World.claim unchanged))
      · exact .acquired requireFresh rfl free (isServed.trans (by rw [acquired]))
  | unregisterExclusive holder sessionId =>
      exact .same (unregisterExclusive_claim cjson agent (draws.token holder) sessionId world)
  | release holder =>
      by_cases held : world.claim = some (draws.token holder)
      · refine .released holder rfl held ?_
        dsimp only [serve, World.release]
        rw [if_pos held]
      · refine .same ?_
        dsimp only [serve, World.release]
        rw [if_neg held]
  | quit holder =>
      apply ClaimStep.same
      dsimp only [serve]
      split <;> rfl
  | _ => exact .same rfl

/-- Commands that are not of a client's sessions keep what holds of these. -/
theorem serve_sessions (sound : Presence.Exact world.sessions) (command : Command)
    (other : ∀ asked, command ≠ .session asked) :
    Presence.Exact (serve cjson agent draws id command world).2.sessions ∧
      Presence.Grows world.sessions (serve cjson agent draws id command world).2.sessions none := by
  have unchanged : (serve cjson agent draws id command world).2.sessions = world.sessions →
      Presence.Exact (serve cjson agent draws id command world).2.sessions ∧
        Presence.Grows world.sessions (serve cjson agent draws id command world).2.sessions
          none := by
    intro same
    rw [same]
    exact ⟨sound, Presence.Grows.refl world.sessions⟩
  cases command with
  | session asked => exact absurd rfl (other asked)
  | acquire requireFresh =>
      apply unchanged
      have isServed : (serve cjson agent draws id (.acquire requireFresh) world).2.sessions =
          (world.acquire agent (draws.token id) requireFresh).2.sessions := by
        dsimp only [serve]
        split <;> rfl
      rcases @acquire_cases agent (draws.token id) requireFresh world sound with
        ⟨-, same⟩ | ⟨acquired, -⟩
      · exact isServed.trans (congrArg World.sessions same)
      · exact isServed.trans (by rw [acquired])
  | unregisterExclusive holder sessionId =>
      rcases unregisterExclusive_sessions cjson agent (draws.token holder) sessionId world with
        same | removed
      · exact unchanged same
      · have isServed : (serve cjson agent draws id (.unregisterExclusive holder sessionId)
            world).2.sessions = (world.sessions.delete sessionId).srem agent sessionId := removed
        rw [isServed]
        have gone := Presence.delete_record world.sessions sessionId
        have grows := Presence.grows_delete world.sessions sessionId
        exact ⟨(sound.delete sessionId).srem gone agent, grows.created, grows.record⟩
  | release holder =>
      apply unchanged
      dsimp only [serve, World.release]
      split <;> rfl
  | quit holder =>
      apply unchanged
      dsimp only [serve]
      split <;> rfl
  | _ => exact unchanged rfl

/-- What is known of the sessions that a call has asked for. -/
def Knows (draws : Draws) (world : World) (id : Nat) (call : ClaimCall) : Prop :=
  Presence.Knows draws.session world.sessions id
    ⟨.refreshLease "", sessionPast call.past, .done .failed⟩

/-- A stored token is that of a call. -/
structure Sound (draws : Draws) (world : World) : Prop where
  sessions : Presence.Exact world.sessions
  claim : ∀ stored, world.claim = some stored → ∃ owner, stored = draws.token owner

def Unused (draws : Draws) (world : World) (id : Nat) : Prop :=
  draws.session id ∉ world.sessions.created

/-- Only the commands of clients add to what a call has asked of the sessions. -/
theorem sessionPast_cons {command : Command} (other : ∀ asked, command ≠ .session asked)
    (reply : Reply command) (past : Past) :
    sessionPast (⟨command, reply⟩ :: past) = sessionPast past := by
  cases command with
  | session asked => exact absurd rfl (other asked)
  | _ => rfl

theorem ClaimStep.sound {command : Command} (step : ClaimStep draws agent id command world after)
    (owned : ∀ stored, world.claim = some stored → ∃ owner, stored = draws.token owner) :
    ∀ stored, after.claim = some stored → ∃ owner, stored = draws.token owner := by
  intro stored isStored
  cases step with
  | same same => exact owned stored (same ▸ isStored)
  | acquired requireFresh acquires free given =>
      rw [given, Option.some.injEq] at isStored
      exact ⟨id, isStored.symm⟩
  | released holder releases held gone =>
      rw [gone] at isStored
      cases isStored

/-- Two calls that have asked the same know the same. -/
theorem knows_of_past {uuid : Nat → String} {keys : Presence.SessionKeys}
    {call other : Call Presence.Input Presence.Command Presence.Reply Presence.Result}
    (knows : Presence.Knows uuid keys id call) (same : call.past = other.past) :
    Presence.Knows uuid keys id other :=
  ⟨same ▸ knows.drew, same ▸ knows.fresh, same ▸ knows.read, same ▸ knows.deleted⟩

theorem preserves_sound (injective : Function.Injective draws.session) :
    Protocol.Preserves (claimProtocol cjson agent draws)
      (fun world id call command => anyStep world id call command ∧
        Asks call.input call.past command) (Sound draws) (Knows draws) (Unused draws) where
  opened _ unused _ :=
    { drew := fun found => absurd found List.not_mem_nil
      fresh := fun _ => unused
      read := fun found => absurd found List.not_mem_nil
      deleted := fun found => absurd found List.not_mem_nil }
  served {world id input past command next} sound knows meets := by
    have claimStep := @serve_claim cjson agent draws id world sound.sessions command
    have owned := claimStep.sound sound.claim
    by_cases isSession : ∃ asked, command = .session asked
    · rcases isSession with ⟨asked, rfl⟩
      have before : Presence.Knows draws.session world.sessions id
          ⟨.refreshLease "", sessionPast past, .call asked fun _ => .done .failed⟩ :=
        knows_of_past knows rfl
      rcases (Presence.preserves_exact injective).served sound.sessions before ⟨trivial, meets.2⟩
        with ⟨exact, own, others⟩
      exact ⟨⟨exact, owned⟩, knows_of_past own rfl,
        fun other different => ⟨fun call => (others other different).1 _,
          (others other different).2⟩⟩
    · have other : ∀ asked, command ≠ .session asked :=
        fun asked same => isSession ⟨asked, same⟩
      rcases @serve_sessions cjson agent draws id world sound.sessions command other with
        ⟨exact, grows⟩
      have mono : ∀ caller call, Presence.Knows draws.session world.sessions caller call →
          Presence.Knows draws.session (serve cjson agent draws id command world).2.sessions caller
            call := by
        intro caller call known
        exact known.mono grows (fun created none => absurd none (Option.not_mem_none created))
          (Option.some_ne_none _)
      refine ⟨⟨exact, owned⟩, ?_, fun caller _ => ⟨fun call => mono caller _, ?_⟩⟩
      · exact knows_of_past (mono id _ knows) (sessionPast_cons other _ past).symm
      · intro unused isCreated
        rcases grows.created.mp isCreated with old | own
        · exact unused old
        · cases own
  moved {world after} sound moves := by
    cases moves with
    | sessions moves =>
        rcases (Presence.preserves_exact injective).moved sound.sessions moves with ⟨exact, kept⟩
        exact ⟨⟨exact, sound.claim⟩, fun id => ⟨fun call => (kept id).1 _, (kept id).2⟩⟩
    | keyspace keyspace =>
        exact ⟨⟨sound.sessions, sound.claim⟩,
          fun _ => ⟨fun _ known => known, fun unused => unused⟩⟩
    | answered answered =>
        exact ⟨⟨sound.sessions, sound.claim⟩,
          fun _ => ⟨fun _ known => known, fun unused => unused⟩⟩

end Steps

/-! ## Wrappers -/

section Wrappers

variable {cjson : Cjson} {agent : String} {draws : Draws} {system : ClaimSystem}

/-- Tokens are given and taken back by their wrappers, a name is acquired where it is
free, and its identity is removed where it is used by the wrapper alone. -/
structure ExclusiveCleanup (cjson : Cjson) (agent : String) (draws : Draws)
    (system : ClaimSystem) : Prop where
  owned : ∀ stored, system.world.claim = some stored → ∃ owner, stored = draws.token owner
  kept : ∀ after owner, (claimProtocol cjson agent draws).Step anyStep system after →
    system.world.claim = some (draws.token owner) →
      after.world.claim = some (draws.token owner) ∨
        after.world.claim = none ∧ ∃ id call, system.calls id = some call ∧
          call.input = .release owner
  given : ∀ after, (claimProtocol cjson agent draws).Step anyStep system after →
    system.world.claim = none → after.world.claim = none ∨
      ∃ id call requireFresh, system.calls id = some call ∧ call.input = .acquire requireFresh ∧
        after.world.claim = some (draws.token id) ∧ Free agent requireFresh system.world
  acquired : ∀ id call requireFresh next, system.calls id = some call →
    call.rest = .call (.acquire requireFresh) next →
      (serve cjson agent draws id (.acquire requireFresh) system.world).1 = some 1 →
        Free agent requireFresh system.world
  unregistered : ∀ id call holder sessionId next, system.calls id = some call →
    call.rest = .call (.unregisterExclusive holder sessionId) next →
      Unregisters agent (draws.token holder) sessionId system.world
        (serve cjson agent draws id (.unregisterExclusive holder sessionId) system.world).2

theorem sound_of_reachable (injective : Function.Injective draws.session)
    (reached : (claimProtocol cjson agent draws).Reachable anyStep Initial system) :
    Sound draws system.world := by
  refine ((reached.asking (follows_program agent)).invariant (fun world initial => ?_)
    (preserves_sound injective)).shared
  refine ⟨⟨initial.sessions.exact, fun stored isStored => ?_⟩, fun id => ?_⟩
  · rw [initial.claim] at isStored
    cases isStored
  · rw [Unused, initial.sessions.created]
    exact Finset.notMem_empty _

theorem free_of_answer {id : Nat} {requireFresh : Bool} {world : World}
    (sound : Presence.Exact world.sessions)
    (isAcquired : (serve cjson agent draws id (.acquire requireFresh) world).1 = some 1) :
    Free agent requireFresh world := by
  rcases @acquire_cases agent (draws.token id) requireFresh world sound with
    ⟨refused, -⟩ | ⟨-, free⟩
  · dsimp only [serve, World.answer] at isAcquired
    split at isAcquired
    · exact absurd isAcquired refused
    · cases isAcquired
  · exact free

theorem cleanup_exclusive (sessions : Function.Injective draws.session)
    (tokens : Function.Injective draws.token)
    (reached : (claimProtocol cjson agent draws).Reachable anyStep Initial system) :
    ExclusiveCleanup cjson agent draws system := by
  have sound := sound_of_reachable sessions reached
  have follows := reached.follows (follows_program agent)
  refine ⟨sound.claim, ?_, ?_, ?_, ?_⟩
  · intro after owner step held
    cases step with
    | opened unused opens => exact Or.inl held
    | moved moves =>
        cases moves <;> exact Or.inl held
    | @served id input past command next running meets =>
        have asks := (follows id _ running).1
        cases @serve_claim cjson agent draws id system.world sound.sessions command with
        | same same => exact Or.inl (same.trans held)
        | acquired requireFresh acquires free stored =>
            rw [free.unclaimed] at held
            cases held
        | released holder releases isHeld gone =>
            rw [held, Option.some.injEq] at isHeld
            subst releases
            exact Or.inr ⟨gone, id, _, running, (tokens isHeld).symm ▸ asks⟩
  · intro after step unclaimed
    cases step with
    | opened unused opens => exact Or.inl unclaimed
    | moved moves =>
        cases moves <;> exact Or.inl unclaimed
    | @served id input past command next running meets =>
        have asks := (follows id _ running).1
        cases @serve_claim cjson agent draws id system.world sound.sessions command with
        | same same => exact Or.inl (same.trans unclaimed)
        | acquired requireFresh acquires free stored =>
            subst acquires
            exact Or.inr ⟨id, _, requireFresh, running, asks, stored, free⟩
        | released holder releases isHeld gone => exact Or.inl gone
  · intro id call requireFresh next running isNext isAcquired
    exact free_of_answer sound.sessions isAcquired
  · intro id call holder sessionId next running isNext
    exact unregisterExclusive_cases sound.sessions

/-! A name is acquired, used by a session and cleaned up. -/

def emptyWorld : World := ⟨Presence.emptyKeys, .empty, none, fun _ => none, true⟩

def exampleDraws : Draws := ⟨unary, unary⟩

abbrev exampleProtocol := claimProtocol Cjson.plain "worker" exampleDraws

theorem fresh_name_cleaned : ∃ system,
    exampleProtocol.Reachable anyStep Initial system ∧
      system.world.sessions.record "u" = some "worker" ∧
      system.world.sessions.lease "u" = true ∧
      Protocol.asked system 2 = some (.unregisterExclusive 0 "u") ∧
      ExclusiveCleanup Cjson.plain "worker" exampleDraws system := by
  have empty : exampleProtocol.Reachable anyStep Initial ⟨emptyWorld, fun _ => none⟩ :=
    Protocol.Reachable.init ⟨⟨fun _ => rfl, fun _ => rfl, fun _ => rfl, rfl⟩, rfl, rfl⟩
  have acquired := (empty.start 0 (.acquire true) rfl trivial).advances 0 1 fun _ _ _ _ => trivial
  have created := (acquired.start 1 (.session (.createSession "worker")) rfl trivial).advances 1 4
    fun _ _ _ _ => trivial
  have called := created.start 2 (.unregisterExclusiveSession 0 "u") rfl (Option.some_ne_none _)
  have asked := called.advances 2 1 fun _ _ _ _ => trivial
  exact ⟨_, asked, by decide +kernel, by decide +kernel, by decide +kernel,
    cleanup_exclusive unary_injective unary_injective asked⟩

end Wrappers

end GptQueue.Wrapper
