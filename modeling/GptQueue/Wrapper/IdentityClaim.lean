import GptQueue.Claims.Scripts
import GptQueue.Sessions.Presence

/-! # The identity claim of a wrapper

A wrapper stores a token under its agent name before it registers the name, and
deletes it at its end. The sessions of the name are those of `Presence`, and any other
client may use them at the same time.
-/

namespace GptQueue.Wrapper

open Redis

/-! ## The server -/

/-- The state of one claim that a wrapper holds. -/
structure Handle where
  released : Bool
  redisClosed : Bool
  connected : Bool
deriving DecidableEq

structure World where
  sessions : Presence.SessionKeys
  /-- The registry, the mailboxes, the claims and the heartbeats. -/
  keyspace : Keyspace Key
  /-- The token under the claim key of the name. -/
  claim : Option String
  /-- The claims that wrappers have got, by the call that acquired them. -/
  handles : Nat → Option Handle
  /-- Whether the next answer arrives. -/
  answered : Bool

/-- Scripts answer with a number, or the answer is an error. -/
abbrev Answer := Option Int

def World.answer (world : World) (outcome : Answer) : Answer :=
  if world.answered then outcome else none

/-- `ACQUIRE_CLAIM_SCRIPT`. -/
def World.acquire (agent token : String) (fresh : Bool) (world : World) : Answer × World :=
  if world.claim.isSome then (some 0, world)
  else
    match if fresh then ((hexists Key.registry agent).run world.keyspace).1 else .ok false with
    | .error _ => (none, world)
    | .ok true => (some (-1), world)
    | .ok false =>
        -- Only a leased session is active.
        if (world.sessions.activeSessions agent).Nonempty then (some (-2), world)
        else if (world.keyspace.value (.heartbeat agent)).isSome then (some (-2), world)
        else (some 1, { world with claim := some token })

/-- `RELEASE_CLAIM_SCRIPT`. -/
def World.release (token : String) (world : World) : Answer × World :=
  if world.claim = some token then (some 1, { world with claim := none }) else (some 0, world)

/-- Whether the session is the only one in the set of the name. -/
def World.alone (agent sessionId : String) (world : World) : Bool :=
  (world.sessions.agentSessions agent).card = 1 ∧ sessionId ∈ world.sessions.agentSessions agent

/-- `VERIFY_SESSION_SCRIPT`. -/
def World.verify (agent token sessionId : String) (world : World) : Answer :=
  if world.claim ≠ some token then some 0
  else if world.alone agent sessionId then some 1
  else some (-1)

/-- The removal of the identity, with its claims and its mailbox. -/
def removeIdentity (cjson : Cjson) (agent : String) : Script Key Unit := do
  hdel .registry agent
  let _ ← Claims.purgeActorClaims cjson agent
  del (.queue agent)
  del (.mailboxMeta agent)
  del (.heartbeat agent)

/-- `UNREGISTER_EXCLUSIVE_SESSION_SCRIPT`. -/
def World.unregisterExclusive (cjson : Cjson) (agent token sessionId : String) (world : World) :
    Answer × World :=
  if world.claim ≠ some token then (some 0, world)
  else if world.sessions.record sessionId ≠ some agent then (some (-1), world)
  else
    let left := { world with sessions := (world.sessions.delete sessionId).srem agent sessionId }
    if world.alone agent sessionId = false then (some 2, left)
    else
      match (removeIdentity cjson agent).run world.keyspace with
      | (.ok _, keyspace) => (some 1, { left with keyspace })
      | (.error _, keyspace) => (none, { left with keyspace })

/-! ## Commands -/

inductive Command
  | session (command : Presence.Command)
  | acquire (requireFresh : Bool)
  /-- The flags of a claim when one of its methods is called. -/
  | handle (holder : Nat)
  | verify (holder : Nat) (sessionId : String)
  | unregisterExclusive (holder : Nat) (sessionId : String)
  | release (holder : Nat)
  /-- `released` is set. -/
  | released (holder : Nat)
  | quit (holder : Nat)
  | abandon (holder : Nat)
deriving DecidableEq

abbrev Reply : Command → Type
  | .session command => Presence.Reply command
  | .acquire _ => Answer
  | .handle _ => Option Handle
  | .verify _ _ => Answer
  | .unregisterExclusive _ _ => Answer
  | .release _ => Answer
  | .released _ => Option Handle
  | .quit _ => Bool
  | .abandon _ => Unit

abbrev ask (command : Command) : Program Command Reply (Reply command) := Program.ask command

/-! ## Programs -/

/-- A failure of the connection or of a script has a message of its own. -/
inductive Failure
  | redis
  | message (text : String)
deriving DecidableEq

inductive Result
  | session (result : Presence.Result)
  | raised (failure : Failure)
  | acquired
  | exclusive
  | unregistered
  | sessionClosedOnly
  | ended
deriving DecidableEq

/-- A client that works on sessions. -/
def sessionProgram :
    Program Presence.Command Presence.Reply Presence.Result → Program Command Reply Result
  | .done result => .done (.session result)
  | .call command next => .call (.session command) fun reply => sessionProgram (next reply)

def acquireWrapperIdentityClaim (agent : String) (requireFresh : Bool) :
    Program Command Reply Result := do
  match ← ask (.acquire requireFresh) with
  | none => pure (.raised .redis)
  | some acquired =>
      if acquired = -1 then
        pure (.raised (.message
          ("Refusing destructive cleanup for pre-existing agent: " ++ agent)))
      else if acquired ≠ 1 then
        if acquired = -2 then
          pure (.raised (.message
            ("Refusing concurrent wrapper ownership of active agent: " ++ agent)))
        else
          pure (.raised (.message
            ("Another experimental wrapper already owns the agent name: " ++ agent)))
      else pure .acquired

/-- A command on a connection that is closed is refused. -/
def connected (holder : Nat) (request : Program Command Reply Result) :
    Program Command Reply Result := do
  let handle ← ask (.handle holder)
  if handle.any (·.connected) then request else pure (.raised .redis)

def assertExclusiveSession (agent : String) (holder : Nat) (sessionId : String) :
    Program Command Reply Result :=
  connected holder do
    match ← ask (.verify holder sessionId) with
    | none => pure (.raised .redis)
    | some verified =>
        if verified ≠ 1 then
          pure (.raised (.message
            ("Agent identity lost exclusive session ownership before launch or cleanup: " ++
              agent)))
        else pure .exclusive

def unregisterExclusiveSession (agent : String) (holder : Nat) (sessionId : String) :
    Program Command Reply Result :=
  connected holder do
    match ← ask (.unregisterExclusive holder sessionId) with
    | none => pure (.raised .redis)
    | some 1 => pure .unregistered
    | some 2 => pure .sessionClosedOnly
    | some 0 => pure (.raised (.message ("Wrapper identity claim was lost for agent: " ++ agent)))
    | some (-1) => pure (.raised (.message
        ("Registered session no longer belongs to wrapper agent: " ++ agent)))
    | some outcome => pure (.raised (.message ("Unexpected atomic unregister result " ++
        toString outcome ++ " for agent: " ++ agent)))

/-- `closeRedis`, when the connection is not closed yet. -/
def closeRedis (holder : Nat) (handle : Option Handle) : Program Command Reply Result := do
  if handle.any (·.redisClosed) then pure .ended
  else
    let closed ← ask (.quit holder)
    pure (if closed then .ended else .raised .redis)

def release (agent : String) (holder : Nat) : Program Command Reply Result := do
  let handle ← ask (.handle holder)
  if handle.any (·.released) then closeRedis holder handle
  else if handle.any (·.redisClosed) then
    pure (.raised (.message ("Wrapper identity claim was abandoned for agent: " ++ agent)))
  else if handle.any (·.connected) then
    match ← ask (.release holder) with
    | none => pure (.raised .redis)
    | some deleted =>
        if deleted ≠ 1 then
          pure (.raised (.message ("Wrapper identity claim was lost for agent: " ++ agent)))
        else
          let handle ← ask (.released holder)
          closeRedis holder handle
  else pure (.raised .redis)

def abandon (holder : Nat) : Program Command Reply Result := do
  let _ ← ask (.abandon holder)
  pure .ended

inductive Input
  | session (input : Presence.Input)
  | acquire (requireFresh : Bool)
  | assertExclusiveSession (holder : Nat) (sessionId : String)
  | unregisterExclusiveSession (holder : Nat) (sessionId : String)
  | release (holder : Nat)
  | abandon (holder : Nat)

def program (agent : String) : Input → Program Command Reply Result
  | .session input => sessionProgram (Presence.program input)
  | .acquire requireFresh => acquireWrapperIdentityClaim agent requireFresh
  | .assertExclusiveSession holder sessionId => assertExclusiveSession agent holder sessionId
  | .unregisterExclusiveSession holder sessionId =>
      unregisterExclusiveSession agent holder sessionId
  | .release holder => release agent holder
  | .abandon holder => abandon holder

/-! ## Serving -/

/-- What `randomUUID` draws: the session id and the token of each call. -/
structure Draws where
  session : Nat → String
  token : Nat → String

def World.setHandle (world : World) (holder : Nat) (change : Handle → Handle) : World :=
  { world with handles := Function.update world.handles holder ((world.handles holder).map change) }

section Serve

variable (cjson : Cjson) (agent : String) (draws : Draws)

def serve (id : Nat) : (command : Command) → World → Reply command × World
  | .session command, world =>
      ((Presence.serve draws.session id command world.sessions).1,
        { world with sessions := (Presence.serve draws.session id command world.sessions).2 })
  | .acquire requireFresh, world =>
      let (outcome, after) := world.acquire agent (draws.token id) requireFresh
      (world.answer outcome,
        if world.answer outcome = some 1 then
          { after with handles := Function.update world.handles id (some ⟨false, false, true⟩) }
        else after)
  | .handle holder, world => (world.handles holder, world)
  | .verify holder sessionId, world =>
      (world.answer (world.verify agent (draws.token holder) sessionId), world)
  | .unregisterExclusive holder sessionId, world =>
      let (outcome, after) :=
        world.unregisterExclusive cjson agent (draws.token holder) sessionId
      (world.answer outcome, after)
  | .release holder, world =>
      let (outcome, after) := world.release (draws.token holder)
      (world.answer outcome, after)
  | .released holder, world =>
      let after := world.setHandle holder fun handle => { handle with released := true }
      (after.handles holder, after)
  | .quit holder, world =>
      if (world.handles holder).any (·.connected) ∧ world.answered then
        (true, world.setHandle holder fun handle =>
          { handle with redisClosed := true, connected := false })
      else (false, world.setHandle holder fun handle => { handle with connected := false })
  | .abandon holder, world =>
      ((), world.setHandle holder fun handle =>
        { handle with redisClosed := true, connected := false })

inductive Moves : World → World → Prop
  /-- A lease expires, or what the sessions meet changes. -/
  | sessions {world : World} {sessions : Presence.SessionKeys}
      (moves : Presence.Moves world.sessions sessions) : Moves world { world with sessions }
  /-- Other clients write the registry, the mailboxes, the claims and the heartbeats. -/
  | keyspace {world : World} (keyspace : Keyspace Key) : Moves world { world with keyspace }
  | answered {world : World} (answered : Bool) : Moves world { world with answered }

/-- The methods of a claim are called by a wrapper that has got it. -/
def Opens (world : World) : Input → Prop
  | .assertExclusiveSession holder _ => world.handles holder ≠ none
  | .unregisterExclusiveSession holder _ => world.handles holder ≠ none
  | .release holder => world.handles holder ≠ none
  | .abandon holder => world.handles holder ≠ none
  | _ => True

def claimProtocol : Protocol World Input Command Reply Result where
  program := program agent
  serve := serve cjson agent draws
  opens := Opens
  moves := Moves

end Serve

/-- No wrapper and no session yet. -/
structure Initial (world : World) : Prop where
  sessions : Presence.Initial world.sessions
  claim : world.claim = none
  handles : world.handles = fun _ => none

abbrev ClaimSystem := System World Input Command Reply Result

/-- Every run. -/
def anyStep : Condition World Input Command Reply Result := fun _ _ _ _ => True

end GptQueue.Wrapper
