import GptQueue.Foundation.Interleaving

/-! # Session binding

One client serves many tool calls, each for the session it names. The client has a
single agent name and session id; a call whose session is another one overwrites
them, and each call reads them back after further awaits.
-/

namespace GptQueue.Binding

/-! ## The client -/

/-- `_agentName` and `_sessionId`. -/
structure Identity where
  agentName : Option String
  sessionId : Option String
deriving DecidableEq, Repr

/-- What a tool call does under an identity. -/
inductive Effect
  /-- A push, with the sender of the message and the sender of the dedupe key. -/
  | push (sender : String) (dedupeSender : Option String)
  | claim (actorId sessionId : String)
  | renew (claimId actorId sessionId : String)
  | acknowledge (claimId actorId sessionId : String)
deriving DecidableEq, Repr

structure World where
  identity : Identity
  /-- The agent name of each session record. -/
  sessions : String → Option String
  /-- The calls that have bound their session and have still to read it back. -/
  bound : List (Nat × String)
  /-- Effects with the number of their call, latest first. -/
  log : List (Nat × Effect)
  /-- Whether the next recipient is known, the next directory read succeeds and the
  next push finds room. -/
  resolves : Bool
  readable : Bool
  accepts : Bool

inductive Command
  /-- `client.sessionId === sessionId && client.registered`; `binds` tells the check
  of `bindSession` from that of the recipient prologue. -/
  | check (sessionId : String) (binds : Bool)
  | getSession (sessionId : String)
  /-- The assignments of `reconnectSession`. -/
  | assign (sessionId agentName : String) (binds : Bool)
  /-- A read of the client's fields, the last one that the call relies on if `last`. -/
  | read (last : Bool)
  | requireRegistered
  | resolveRecipient
  | directoryGet
  | perform (effect : Effect)
deriving DecidableEq

abbrev Reply : Command → Type
  | .check _ _ => Bool
  | .getSession _ => Option String
  | .read _ => Identity
  | .requireRegistered => Bool
  | .resolveRecipient => Bool
  | .directoryGet => Bool
  | .perform _ => Bool
  | _ => Unit

abbrev ask (command : Command) : Program Command Reply (Reply command) := Program.ask command

/-- A call has bound its session. -/
def World.bind (world : World) (id : Nat) (sessionId : String) (binds : Bool) : World :=
  if binds then { world with bound := (id, sessionId) :: world.bound } else world

def serve (id : Nat) : (command : Command) → World → Reply command × World
  | .check sessionId binds, world =>
      if world.identity.sessionId = some sessionId ∧ world.identity.agentName ≠ none then
        (true, world.bind id sessionId binds)
      else (false, world)
  | .getSession sessionId, world => (world.sessions sessionId, world)
  | .assign sessionId agentName binds, world =>
      ((), { world with identity := ⟨some agentName, some sessionId⟩ }.bind id sessionId binds)
  | .read last, world =>
      (world.identity,
        if last then { world with bound := world.bound.filter (·.1 ≠ id) } else world)
  | .requireRegistered, world => (world.identity.agentName.any (· ≠ ""), world)
  | .resolveRecipient, world => (world.resolves, world)
  | .directoryGet, world => (world.readable, world)
  | .perform effect, world => (world.accepts, { world with log := (id, effect) :: world.log })

/-! ## Tool calls -/

inductive Input
  | sendMessage (sessionId : String) (idempotencyKey : Option String)
  | claimTasks (sessionId : String)
  | renewClaim (sessionId claimId : String)
  | acknowledgeTasks (sessionId claimId : String)

def Input.sessionId : Input → String
  | .sendMessage sessionId _ => sessionId
  | .claimTasks sessionId => sessionId
  | .renewClaim sessionId _ => sessionId
  | .acknowledgeTasks sessionId _ => sessionId

/-- `ensureSessionBinding`, with whether it succeeded. -/
def ensureSessionBinding (sessionId : String) (binds : Bool) : Program Command Reply Bool := do
  if ← ask (.check sessionId binds) then pure true
  else
    match ← ask (.getSession sessionId) with
    | none => pure false
    | some agentName => do
        let _ ← ask (.assign sessionId agentName binds)
        pure true

/-- The agent name and session id, unless one is missing or empty. -/
def Identity.usable (identity : Identity) : Option (String × String) := do
  let agentName ← identity.agentName.filter (· ≠ "")
  let sessionId ← identity.sessionId.filter (· ≠ "")
  some (agentName, sessionId)

def bindSession (sessionId : String) (last : Bool) :
    Program Command Reply (Option (String × String)) := do
  if ← ensureSessionBinding sessionId true then do
    let identity ← ask (.read last)
    pure identity.usable
  else pure none

/-- The push attempts that are left; all push the same message. -/
def pushAttempts (effect : Effect) : Nat → Program Command Reply Bool
  | 0 => pure false
  | remaining + 1 => do
      if ← ask (.perform effect) then pure true else pushAttempts effect remaining

/-- `client.sendMessage` or `client.sendMessageIdempotent` of a message from `sender`. -/
def deliver (sender : String) (idempotencyKey : Option String) : Program Command Reply Bool :=
  match idempotencyKey with
  | none => do
      if ← ask .requireRegistered then pushAttempts (.push sender none) 10 else pure false
  | some _ => do
      let identity ← ask (.read true)
      match identity.agentName.filter (· ≠ "") with
      | none => pure false
      | some dedupeSender => pushAttempts (.push sender (some dedupeSender)) 10

def sendMessage (sessionId : String) (idempotencyKey : Option String) :
    Program Command Reply Bool := do
  if ← ensureSessionBinding sessionId false then
    if ← ask .resolveRecipient then
      match ← bindSession sessionId idempotencyKey.isNone with
      | none => pure false
      | some (sender, _) => deliver sender idempotencyKey
    else pure false
  else pure false

def program : Input → Program Command Reply Bool
  | .sendMessage sessionId idempotencyKey => sendMessage sessionId idempotencyKey
  | .claimTasks sessionId => do
      match ← bindSession sessionId true with
      | none => pure false
      | some (actorId, bound) =>
          if ← ask .directoryGet then ask (.perform (.claim actorId bound)) else pure false
  | .renewClaim sessionId claimId => do
      match ← bindSession sessionId true with
      | none => pure false
      | some (actorId, bound) => ask (.perform (.renew claimId actorId bound))
  | .acknowledgeTasks sessionId claimId => do
      match ← bindSession sessionId true with
      | none => pure false
      | some (actorId, bound) => ask (.perform (.acknowledge claimId actorId bound))

inductive Moves : World → World → Prop
  | conditions {world : World} (resolves readable accepts : Bool) :
      Moves world { world with resolves, readable, accepts }

/-- Every call names an existing session. -/
def bindingProtocol : Protocol World Input Command Reply Bool where
  program := program
  serve := serve
  opens world input := world.sessions input.sessionId ≠ none
  moves := Moves

abbrev BindingSystem := System World Input Command Reply Bool

/-- The client has no session, or one with its agent name. -/
structure Initial (world : World) : Prop where
  identity : ∀ sessionId, world.identity.sessionId = some sessionId →
    world.identity.agentName = world.sessions sessionId
  bound : world.bound = []
  log : world.log = []

/-- Every run. -/
def anyStep : Condition World Input Command Reply Bool := fun _ _ _ _ => True

/-- A call assigns its session only when no other call has bound a different one that
it has still to read back. -/
def AssignsUncontested : Condition World Input Command Reply Bool
  | world, _, _, .assign sessionId _ _ => ∀ binding ∈ world.bound, binding.2 = sessionId
  | _, _, _, _ => True

/-- An effect is that of a session with this agent name. -/
def Effect.ActsAs (agentName sessionId : String) : Effect → Prop
  | .push sender dedupeSender => sender = agentName ∧ ∀ other ∈ dedupeSender, other = agentName
  | .claim actorId bound => actorId = agentName ∧ bound = sessionId
  | .renew _ actorId bound => actorId = agentName ∧ bound = sessionId
  | .acknowledge _ actorId bound => actorId = agentName ∧ bound = sessionId

/-- Every effect of a call is that of the session it was given. -/
def ActsAsNamed (system : BindingSystem) : Prop :=
  ∀ id call, system.calls id = some call → ∀ effect, (id, effect) ∈ system.world.log →
    ∃ agentName, system.world.sessions call.input.sessionId = some agentName ∧
      effect.ActsAs agentName call.input.sessionId

/-! ## What a call asks -/

abbrev Past := List (Exchange Command Reply)

def Command.isRead : Command → Bool
  | .read _ => true
  | _ => false

/-- `bindSession` has found or assigned the session. -/
def Binds (past : Past) (sessionId : String) : Prop :=
  ⟨.check sessionId true, true⟩ ∈ past ∨
    ∃ agentName, ⟨.assign sessionId agentName true, ()⟩ ∈ past

/-- Every read of the call returned this identity. -/
def ReadAs (past : Past) (agentName sessionId : String) : Prop :=
  ∀ last identity, ⟨.read last, identity⟩ ∈ past → identity = ⟨some agentName, some sessionId⟩

/-- A call binds its own session, reads it back only after that, and acts under what
it read. -/
def Asks (input : Input) (past : Past) : Command → Prop
  | .check sessionId _ => sessionId = input.sessionId
  | .assign sessionId agentName _ =>
      sessionId = input.sessionId ∧ ⟨.getSession sessionId, some agentName⟩ ∈ past
  | .read _ => Binds past input.sessionId ∧ ∀ exchange ∈ past, exchange.1 ≠ .read true
  | .perform effect => ∀ agentName, ReadAs past agentName input.sessionId →
      effect.ActsAs agentName input.sessionId
  | _ => True

section Follows

variable {input : Input} {past : Past}

theorem Binds.mono {later : Past} {sessionId : String} (binds : Binds past sessionId)
    (kept : ∀ exchange ∈ past, exchange ∈ later) : Binds later sessionId := by
  rcases binds with found | ⟨agentName, assigned⟩
  · exact Or.inl (kept _ found)
  · exact Or.inr ⟨agentName, kept _ assigned⟩

/-- A binding adds no read. -/
theorem follows_ensureSessionBinding (binds : Bool)
    (unread : ∀ exchange ∈ past, exchange.1.isRead = false) :
    (ensureSessionBinding input.sessionId binds).Follows (Asks input)
      (fun later success => (∀ exchange ∈ later, exchange.1.isRead = false) ∧
        (success = true → binds = true → Binds later input.sessionId)) past := by
  have added : ∀ {earlier : Past} (exchange : Exchange Command Reply),
      (∀ exchange ∈ earlier, exchange.1.isRead = false) → exchange.1.isRead = false →
      ∀ other ∈ exchange :: earlier, other.1.isRead = false := by
    intro earlier exchange before isOther other member
    rcases List.mem_cons.mp member with rfl | member
    · exact isOther
    · exact before other member
  refine Program.follows_ask_bind.mpr ⟨rfl, fun found => ?_⟩
  have checked := added ⟨.check input.sessionId binds, found⟩ unread rfl
  cases found with
  | true =>
      refine ⟨checked, fun _ isBinding => Or.inl ?_⟩
      subst isBinding
      exact List.mem_cons_self
  | false =>
      refine Program.follows_ask_bind.mpr ⟨trivial, fun session => ?_⟩
      have looked := added ⟨.getSession input.sessionId, session⟩ checked rfl
      cases session with
      | none => exact ⟨looked, fun impossible => by cases impossible⟩
      | some agentName =>
          refine Program.follows_ask_bind.mpr ⟨⟨rfl, List.mem_cons_self⟩, fun _ => ?_⟩
          refine ⟨added _ looked rfl, fun _ isBinding => Or.inr ⟨agentName, ?_⟩⟩
          subst isBinding
          exact List.mem_cons_self

/-- What `bindSession` returns is what it read. -/
theorem follows_bindSession (last : Bool)
    (unread : ∀ exchange ∈ past, exchange.1.isRead = false) :
    (bindSession input.sessionId last).Follows (Asks input)
      (fun later result => ∀ bound ∈ result, Binds later input.sessionId ∧
        (∃ identity, ⟨.read last, identity⟩ ∈ later ∧ identity.usable = some bound) ∧
        (last = false → ∀ exchange ∈ later, exchange.1 ≠ .read true)) past := by
  refine (follows_ensureSessionBinding true unread).bind fun later success facts => ?_
  rcases facts with ⟨stillUnread, binds⟩
  cases success with
  | false => exact fun bound isBound => by cases isBound
  | true =>
      have isBound := binds rfl rfl
      refine Program.follows_ask_bind.mpr ⟨⟨isBound, ?_⟩, fun identity => ?_⟩
      · intro exchange member isLast
        have other := stillUnread exchange member
        rw [isLast] at other
        cases other
      · intro bound usable
        refine ⟨isBound.mono fun _ member => List.mem_cons_of_mem _ member,
          ⟨identity, List.mem_cons_self, usable⟩, ?_⟩
        intro notLast exchange member isLast
        rcases List.mem_cons.mp member with rfl | earlier
        · cases isLast.symm.trans (congrArg Command.read notLast)
        · have other := stillUnread exchange earlier
          rw [isLast] at other
          cases other

theorem usable_of_readAs {agentName sessionId : String} {bound : String × String}
    (usable : Identity.usable ⟨some agentName, some sessionId⟩ = some bound) :
    bound = (agentName, sessionId) := by
  unfold Identity.usable at usable
  by_cases noName : agentName = ""
  · simp [noName, Option.filter_some] at usable
  · by_cases noSession : sessionId = ""
    · simp [noName, noSession, Option.filter_some] at usable
    · simp only [ne_eq, Option.filter_some, noName, noSession, not_false_eq_true, decide_true,
        if_true, Option.bind_eq_bind, Option.bind_some, Option.some.injEq] at usable
      exact usable.symm

theorem follows_pushAttempts {effect : Effect} (remaining : Nat)
    (acts : ∀ agentName, ReadAs past agentName input.sessionId →
      effect.ActsAs agentName input.sessionId) :
    (pushAttempts effect remaining).Follows (Asks input) (fun _ _ => True) past := by
  induction remaining generalizing past with
  | zero => trivial
  | succ remaining induction =>
      refine Program.follows_ask_bind.mpr ⟨acts, fun accepted => ?_⟩
      cases accepted with
      | true => trivial
      | false =>
          apply induction
          intro agentName readAs
          exact acts agentName fun last identity member =>
            readAs last identity (List.mem_cons_of_mem _ member)

theorem follows_deliver {sender bound : String} {idempotencyKey : Option String}
    (binds : Binds past input.sessionId)
    (read : ∃ identity, ⟨.read idempotencyKey.isNone, identity⟩ ∈ past ∧
      identity.usable = some (sender, bound))
    (notLast : idempotencyKey.isNone = false → ∀ exchange ∈ past, exchange.1 ≠ .read true) :
    (deliver sender idempotencyKey).Follows (Asks input) (fun _ _ => True) past := by
  rcases read with ⟨identity, member, usable⟩
  have isSender : ∀ {agentName}, ReadAs past agentName input.sessionId → sender = agentName := by
    intro agentName readAs
    have same := readAs _ _ member
    rw [same] at usable
    exact congrArg Prod.fst (usable_of_readAs usable)
  cases idempotencyKey with
  | none =>
      refine Program.follows_ask_bind.mpr ⟨trivial, fun registered => ?_⟩
      cases registered with
      | false => trivial
      | true =>
          apply follows_pushAttempts
          intro agentName readAs
          refine ⟨isSender fun last other found => ?_, fun _ none => by cases none⟩
          exact readAs last other (List.mem_cons_of_mem _ found)
  | some key =>
      refine Program.follows_ask_bind.mpr ⟨⟨binds, notLast rfl⟩, fun again => ?_⟩
      split
      · trivial
      · next dedupeSender found =>
          apply follows_pushAttempts
          intro agentName readAs
          refine ⟨isSender fun last other earlier => ?_, fun other isOther => ?_⟩
          · exact readAs last other (List.mem_cons_of_mem _ earlier)
          · have same := readAs true again List.mem_cons_self
            rw [same] at found
            rw [← Option.some.inj isOther]
            exact (Option.some.inj (Option.filter_eq_some_iff.mp found).1).symm

/-- The claim tools act under what their only read returned. -/
theorem actsAs_of_read {bound : String × String} {effect : Effect}
    (read : ∃ identity, ⟨.read true, identity⟩ ∈ past ∧ identity.usable = some bound)
    (performs : effect.ActsAs bound.1 bound.2) (agentName : String)
    (readAs : ReadAs past agentName input.sessionId) :
    effect.ActsAs agentName input.sessionId := by
  rcases read with ⟨identity, member, usable⟩
  rw [readAs _ _ member] at usable
  rwa [usable_of_readAs usable] at performs

theorem follows_program (input : Input) :
    (program input).Follows (Asks input) (fun _ _ => True) [] := by
  have unread : ∀ exchange ∈ ([] : Past), exchange.1.isRead = false := by simp
  cases input with
  | sendMessage sessionId idempotencyKey =>
      refine (@follows_ensureSessionBinding (.sendMessage sessionId idempotencyKey) [] false
        unread).bind fun later success facts => ?_
      cases success with
      | false => trivial
      | true =>
          refine Program.follows_ask_bind.mpr ⟨trivial, fun resolved => ?_⟩
          cases resolved with
          | false => trivial
          | true =>
              have stillUnread : ∀ exchange ∈ (⟨.resolveRecipient, true⟩ :: later : Past),
                  exchange.1.isRead = false := by
                intro exchange member
                rcases List.mem_cons.mp member with rfl | earlier
                · rfl
                · exact facts.1 exchange earlier
              refine (@follows_bindSession (.sendMessage sessionId idempotencyKey) _
                idempotencyKey.isNone stillUnread).bind fun final result read => ?_
              cases result with
              | none => trivial
              | some bound =>
                  rcases read bound rfl with ⟨binds, found, notLast⟩
                  exact follows_deliver binds found notLast
  | claimTasks sessionId =>
      refine (@follows_bindSession (.claimTasks sessionId) [] true unread).bind
        fun later result read => ?_
      cases result with
      | none => trivial
      | some bound =>
          rcases read bound rfl with ⟨-, found, -⟩
          refine Program.follows_ask_bind.mpr ⟨trivial, fun readable => ?_⟩
          cases readable with
          | false => trivial
          | true =>
              rcases found with ⟨identity, member, usable⟩
              exact ⟨actsAs_of_read ⟨identity, List.mem_cons_of_mem _ member, usable⟩ ⟨rfl, rfl⟩,
                fun _ => trivial⟩
  | renewClaim sessionId claimId =>
      refine (@follows_bindSession (.renewClaim sessionId claimId) [] true unread).bind
        fun later result read => ?_
      cases result with
      | none => trivial
      | some bound =>
          exact ⟨actsAs_of_read (read bound rfl).2.1 ⟨rfl, rfl⟩, fun _ => trivial⟩
  | acknowledgeTasks sessionId claimId =>
      refine (@follows_bindSession (.acknowledgeTasks sessionId claimId) [] true unread).bind
        fun later result read => ?_
      cases result with
      | none => trivial
      | some bound =>
          exact ⟨actsAs_of_read (read bound rfl).2.1 ⟨rfl, rfl⟩, fun _ => trivial⟩

end Follows

/-! ## The invariant -/

/-- The client's two fields belong together, and no binding in use is overwritten. -/
structure Coherent (world : World) : Prop where
  identity : ∀ sessionId, world.identity.sessionId = some sessionId →
    world.identity.agentName = world.sessions sessionId
  bound : ∀ binding ∈ world.bound, world.identity.sessionId = some binding.2

/-- What is known of one call: its session exists, a binding that it still needs is
kept, its reads returned its own session, and so its effects are those of it. -/
structure Knows (world : World) (id : Nat) (call : Call Input Command Reply Bool) : Prop where
  present : world.sessions call.input.sessionId ≠ none
  bound : Binds call.past call.input.sessionId →
    (∀ exchange ∈ call.past, exchange.1 ≠ .read true) →
    (id, call.input.sessionId) ∈ world.bound
  session : ∀ {sessionId agentName}, ⟨.getSession sessionId, some agentName⟩ ∈ call.past →
    world.sessions sessionId = some agentName
  read : ∀ {last : Bool} {identity : Identity}, ⟨.read last, identity⟩ ∈ call.past →
    identity = ⟨world.sessions call.input.sessionId, some call.input.sessionId⟩
  log : ∀ effect, (id, effect) ∈ world.log → ∃ agentName,
    world.sessions call.input.sessionId = some agentName ∧
      effect.ActsAs agentName call.input.sessionId

section Serve

variable {id : Nat} {world after : World}

theorem sessions_bind (world : World) (id : Nat) (sessionId : String) (binds : Bool) :
    (world.bind id sessionId binds).sessions = world.sessions ∧
      (world.bind id sessionId binds).identity = world.identity ∧
      (world.bind id sessionId binds).log = world.log := by
  unfold World.bind
  split <;> exact ⟨rfl, rfl, rfl⟩

theorem mem_bound_bind {world : World} {id : Nat} {sessionId : String} {binds : Bool}
    {binding : Nat × String} :
    binding ∈ (world.bind id sessionId binds).bound ↔
      (binds = true ∧ binding = (id, sessionId)) ∨ binding ∈ world.bound := by
  unfold World.bind
  split
  · next isBinding => simp [isBinding]
  · next notBinding => simp [notBinding]

/-- The effect of one command of call `id`. -/
structure ServeEffect (id : Nat) (world : World) (command : Command) (after : World) : Prop where
  sessions : after.sessions = world.sessions
  /-- Only an assignment changes the identity. -/
  identity : after.identity = world.identity ∨
    ∃ sessionId agentName binds, command = .assign sessionId agentName binds ∧
      after.identity = ⟨some agentName, some sessionId⟩
  /-- A call binds by a successful check or an assignment. -/
  began : ∀ binding ∈ after.bound, binding ∈ world.bound ∨
    after.identity.sessionId = some binding.2
  /-- A binding ends with the last read of its own call. -/
  kept : ∀ binding ∈ world.bound, binding.1 ≠ id ∨ command ≠ .read true → binding ∈ after.bound
  log : ∀ entry ∈ after.log, entry ∈ world.log ∨
    ∃ effect, command = .perform effect ∧ entry = (id, effect)

theorem serve_effect (command : Command) :
    ServeEffect id world command (serve id command world).2 := by
  cases command with
  | check sessionId binds =>
      dsimp only [serve]
      split
      · next current =>
          rcases sessions_bind world id sessionId binds with ⟨sessions, identity, log⟩
          refine ⟨sessions, Or.inl identity, fun binding member => ?_,
            fun binding member _ => mem_bound_bind.mpr (Or.inr member),
            fun entry member => Or.inl (log ▸ member)⟩
          rcases mem_bound_bind.mp member with ⟨-, rfl⟩ | earlier
          · exact Or.inr (identity ▸ current.1)
          · exact Or.inl earlier
      · exact ⟨rfl, Or.inl rfl, fun _ member => Or.inl member, fun _ member _ => member,
          fun _ member => Or.inl member⟩
  | assign sessionId agentName binds =>
      dsimp only [serve]
      rcases sessions_bind { world with identity := ⟨some agentName, some sessionId⟩ } id
        sessionId binds with ⟨sessions, identity, log⟩
      refine ⟨sessions, Or.inr ⟨sessionId, agentName, binds, rfl, identity⟩,
        fun binding member => ?_, fun binding member _ => mem_bound_bind.mpr (Or.inr member),
        fun entry member => Or.inl (log ▸ member)⟩
      rcases mem_bound_bind.mp member with ⟨-, rfl⟩ | earlier
      · exact Or.inr (congrArg Identity.sessionId identity)
      · exact Or.inl earlier
  | read last =>
      dsimp only [serve]
      split
      · next isLast =>
          refine ⟨rfl, Or.inl rfl, fun binding member => Or.inl (List.mem_filter.mp member).1,
            fun binding member other => ?_, fun _ member => Or.inl member⟩
          have different := other.resolve_right (not_not_intro (congrArg Command.read isLast))
          exact List.mem_filter.mpr ⟨member, by simpa using different⟩
      · exact ⟨rfl, Or.inl rfl, fun _ member => Or.inl member, fun _ member _ => member,
          fun _ member => Or.inl member⟩
  | perform effect =>
      refine ⟨rfl, Or.inl rfl, fun _ member => Or.inl member, fun _ member _ => member,
        fun entry member => ?_⟩
      rcases List.mem_cons.mp member with rfl | earlier
      · exact Or.inr ⟨effect, rfl, rfl⟩
      · exact Or.inl earlier
  | _ =>
      exact ⟨rfl, Or.inl rfl, fun _ member => Or.inl member, fun _ member _ => member,
        fun _ member => Or.inl member⟩

end Serve

section Runs

variable {id : Nat} {world after : World}

theorem Coherent.served {input : Input} {past : Past} {command : Command}
    {rest : Program Command Reply Bool} (coherent : Coherent world)
    (effect : ServeEffect id world command after) (knows : Knows world id ⟨input, past, rest⟩)
    (asks : Asks input past command)
    (assigns : AssignsUncontested world id ⟨input, past, rest⟩ command) : Coherent after := by
  rcases effect.identity with same | ⟨sessionId, agentName, binds, rfl, assigned⟩
  · refine ⟨fun sessionId current => ?_, fun binding member => ?_⟩
    · rw [same] at current ⊢
      rw [effect.sessions]
      exact coherent.identity sessionId current
    · rcases effect.began binding member with earlier | current
      · rw [same]
        exact coherent.bound binding earlier
      · exact current
  · refine ⟨fun other current => ?_, fun binding member => ?_⟩
    · rw [assigned] at current ⊢
      rw [effect.sessions, ← Option.some.inj current, knows.session asks.2]
    · rcases effect.began binding member with earlier | current
      · rw [assigned, assigns binding earlier]
      · exact current

/-- A command of another call. -/
theorem Knows.mono {other : Nat} {command : Command} {call : Call Input Command Reply Bool}
    (knows : Knows world other call) (effect : ServeEffect id world command after)
    (different : other ≠ id) : Knows after other call where
  present := effect.sessions ▸ knows.present
  bound binds unread := effect.kept _ (knows.bound binds unread) (Or.inl different)
  session found := (congrFun effect.sessions _).trans (knows.session found)
  read found := by
    rw [effect.sessions]
    exact knows.read found
  log performed member := by
    rw [effect.sessions]
    rcases effect.log _ member with earlier | ⟨_, _, same⟩
    · exact knows.log performed earlier
    · exact absurd (congrArg Prod.fst same) different

theorem Knows.served {input : Input} {past : Past} {command : Command}
    {next : Reply command → Program Command Reply Bool} (coherent : Coherent world)
    (knows : Knows world id ⟨input, past, .call command next⟩) (asks : Asks input past command) :
    Knows (serve id command world).2 id
      ⟨input, ⟨command, (serve id command world).1⟩ :: past,
        next (serve id command world).1⟩ := by
  have effect := @serve_effect id world command
  refine ⟨effect.sessions ▸ knows.present, fun binds unread => ?_, fun found => ?_,
    fun found => ?_, fun performed member => ?_⟩
  · dsimp only at binds ⊢
    have notLast : command ≠ .read true := unread _ List.mem_cons_self
    have earlierUnread : ∀ exchange ∈ past, exchange.1 ≠ .read true :=
      fun exchange member => unread exchange (List.mem_cons_of_mem _ member)
    have kept : Binds past input.sessionId → (id, input.sessionId) ∈
        (serve id command world).2.bound :=
      fun earlier => effect.kept _ (knows.bound earlier earlierUnread) (Or.inr notLast)
    rcases binds with found | ⟨agentName, assigned⟩
    · rcases List.mem_cons.mp found with head | earlier
      · rcases reply_of_head (fun asked => (serve id asked world).1) head with ⟨checked, rfl⟩
        dsimp only [serve] at checked ⊢
        split at checked
        · next current =>
            rw [if_pos current]
            exact mem_bound_bind.mpr (Or.inl ⟨rfl, rfl⟩)
        · cases checked
      · exact kept (Or.inl earlier)
    · rcases List.mem_cons.mp assigned with head | earlier
      · rcases reply_of_head (fun asked => (serve id asked world).1) head with ⟨-, rfl⟩
        exact mem_bound_bind.mpr (Or.inl ⟨rfl, rfl⟩)
      · exact kept (Or.inr ⟨agentName, earlier⟩)
  · rw [effect.sessions]
    rcases List.mem_cons.mp found with head | earlier
    · rcases reply_of_head (fun asked => (serve id asked world).1) head with ⟨looked, rfl⟩
      exact looked.symm
    · exact knows.session earlier
  · rw [effect.sessions]
    rcases List.mem_cons.mp found with head | earlier
    · rcases reply_of_head (fun asked => (serve id asked world).1) head with ⟨read, rfl⟩
      have current := coherent.bound _ (knows.bound asks.1 asks.2)
      have isIdentity : world.identity =
          ⟨world.sessions input.sessionId, some input.sessionId⟩ := by
        rw [← coherent.identity _ current, ← current]
      exact read.trans isIdentity
    · exact knows.read earlier
  · rw [effect.sessions]
    rcases effect.log _ member with earlier | ⟨asked, rfl, same⟩
    · exact knows.log performed earlier
    · have isPerformed : performed = asked := congrArg Prod.snd same
      subst isPerformed
      rcases Option.ne_none_iff_exists'.mp knows.present with ⟨agentName, found⟩
      refine ⟨agentName, found, asks agentName fun last identity earlier => ?_⟩
      rw [knows.read earlier, found]

theorem preserves_coherent :
    Protocol.Preserves bindingProtocol
      (fun world id call command =>
        AssignsUncontested world id call command ∧ Asks call.input call.past command)
      Coherent Knows (fun world id => ∀ effect, (id, effect) ∉ world.log) where
  opened _ unused present :=
    { present := present
      bound := fun binds => by rcases binds with found | ⟨_, found⟩ <;> cases found
      session := fun found => absurd found List.not_mem_nil
      read := fun found => absurd found List.not_mem_nil
      log := fun effect member => absurd member (unused effect) }
  served {world id input past command next} coherent knows meets := by
    have effect := @serve_effect id world command
    refine ⟨coherent.served effect knows meets.2 meets.1, knows.served coherent meets.2,
      fun other different => ⟨fun call kept => kept.mono effect different,
        fun unused performed member => ?_⟩⟩
    rcases effect.log _ member with earlier | ⟨_, _, same⟩
    · exact unused performed earlier
    · exact different (congrArg Prod.fst same)
  moved {world after} coherent moves := by
    cases moves
    refine ⟨⟨coherent.identity, coherent.bound⟩,
      fun _ => ⟨fun call knows => ?_, fun unused => unused⟩⟩
    exact ⟨knows.present, knows.bound, knows.session, knows.read, knows.log⟩

/-- In every run in which no session is assigned over one that another call has bound
and not read back yet, each call acts as the session it names. -/
theorem acts_as_named_session {system : BindingSystem}
    (reached : bindingProtocol.Reachable AssignsUncontested Initial system) :
    ActsAsNamed system := by
  have holds := (reached.asking follows_program).invariant
    (fun world initial => ⟨⟨initial.identity, by simp [initial.bound]⟩,
      fun _ _ => by simp [initial.log]⟩) preserves_coherent
  intro id call running effect member
  exact (holds.own id call running).log effect member

end Runs

/-! Two renewals for different sessions, whose session reads are answered one after the
other before either call reads its binding back. -/

section Schedule

def twoSessions : World where
  identity := ⟨none, none⟩
  sessions sessionId :=
    if sessionId = "s1" then some "alice" else if sessionId = "s2" then some "bob" else none
  bound := []
  log := []
  resolves := true
  readable := true
  accepts := true

theorem twoSessions_initial : Initial twoSessions :=
  ⟨fun _ current => (by cases current), rfl, rfl⟩

theorem opens_of_isSome {world : World} {input : Input}
    (present : (world.sessions input.sessionId).isSome = true) :
    bindingProtocol.opens world input :=
  Option.isSome_iff_ne_none.mp present

def advances (system : BindingSystem) (id count : Nat) : BindingSystem :=
  (fun before => bindingProtocol.advance before id)^[count] system

def bothLooking : BindingSystem :=
  advances (bindingProtocol.start (advances (bindingProtocol.start
    ⟨twoSessions, fun _ => none⟩ 1 (.renewClaim "s1" "c")) 1 2) 2 (.renewClaim "s2" "d")) 2 2

/-- The second call overwrites the first one's binding. -/
def crossed : BindingSystem := advances (advances (advances bothLooking 1 1) 2 1) 1 2

theorem crossed_reachable : bindingProtocol.Reachable anyStep Initial crossed := by
  have empty : bindingProtocol.Reachable anyStep Initial ⟨twoSessions, fun _ => none⟩ :=
    Protocol.Reachable.init twoSessions_initial
  have first := (empty.start 1 (.renewClaim "s1" "c") rfl
    (opens_of_isSome (by decide +kernel))).advances 1 2 fun _ _ _ _ => trivial
  have both : bindingProtocol.Reachable anyStep Initial bothLooking :=
    (first.start 2 (.renewClaim "s2" "d") (by decide +kernel)
      (opens_of_isSome (by decide +kernel))).advances 2 2 fun _ _ _ _ => trivial
  have assigned := (both.advances 1 1 fun _ _ _ _ => trivial).advances 2 1
    fun _ _ _ _ => trivial
  exact assigned.advances 1 2 fun _ _ _ _ => trivial

/-- The call that names the session of alice renews as bob. -/
theorem acts_as_other_session :
    ¬∀ system : BindingSystem, bindingProtocol.Reachable anyStep Initial system →
      ActsAsNamed system := by
  intro named
  have performed : (1, Effect.renew "c" "bob" "s2") ∈ crossed.world.log := by decide +kernel
  have running : ∃ call, crossed.calls 1 = some call ∧ call.input.sessionId = "s1" :=
    ⟨_, rfl, by decide +kernel⟩
  rcases running with ⟨call, found, isFirst⟩
  rcases named crossed crossed_reachable 1 call found _ performed with ⟨agentName, _, acts⟩
  rw [isFirst] at acts
  exact absurd acts.2 (by decide)

/-- The two renewals one after the other. -/
def inTurn : BindingSystem :=
  advances (bindingProtocol.start (advances (bindingProtocol.start
    ⟨twoSessions, fun _ => none⟩ 1 (.renewClaim "s1" "c")) 1 5) 2 (.renewClaim "s2" "d")) 2 5

/-- `AssignsUncontested` of the next command of a call. -/
def assignsUncontested (system : BindingSystem) (id : Nat) : Bool :=
  match Protocol.asked system id with
  | some (.assign sessionId _ _) => system.world.bound.all (·.2 == sessionId)
  | _ => true

theorem assignsUncontested_of_check {system : BindingSystem} {id : Nat} {command : Command}
    {call : Call Input Command Reply Bool} (asked : Protocol.asked system id = some command)
    (checked : assignsUncontested system id = true) :
    AssignsUncontested system.world id call command := by
  cases command with
  | assign sessionId agentName binds =>
      rw [assignsUncontested, asked] at checked
      intro binding member
      exact beq_iff_eq.mp (List.all_eq_true.mp checked binding member)
  | _ => trivial

theorem inTurn_reachable : bindingProtocol.Reachable AssignsUncontested Initial inTurn := by
  have empty : bindingProtocol.Reachable AssignsUncontested Initial
      ⟨twoSessions, fun _ => none⟩ := Protocol.Reachable.init twoSessions_initial
  have checkedFirst : ∀ earlier < 5, assignsUncontested (advances (bindingProtocol.start
      ⟨twoSessions, fun _ => none⟩ 1 (.renewClaim "s1" "c")) 1 earlier) 1 = true := by
    decide +kernel
  have first := (empty.start 1 (.renewClaim "s1" "c") rfl
    (opens_of_isSome (by decide +kernel))).advances_of 1 5
      fun earlier less call command running asked =>
        assignsUncontested_of_check asked (checkedFirst earlier less)
  have checked : ∀ earlier < 5, assignsUncontested (advances (bindingProtocol.start
      (advances (bindingProtocol.start ⟨twoSessions, fun _ => none⟩ 1 (.renewClaim "s1" "c")) 1 5)
      2 (.renewClaim "s2" "d")) 2 earlier) 2 = true := by
    decide +kernel
  apply (first.start 2 (.renewClaim "s2" "d") (by decide +kernel)
    (opens_of_isSome (by decide +kernel))).advances_of 2 5
  intro earlier less call command running asked
  exact assignsUncontested_of_check asked (checked earlier less)

theorem inTurn_acts_as_named :
    (2, Effect.renew "d" "bob" "s2") ∈ inTurn.world.log ∧ ActsAsNamed inTurn :=
  ⟨by decide +kernel, acts_as_named_session inTurn_reachable⟩

end Schedule

end GptQueue.Binding
