import GptQueue.Foundation.Interleaving
import GptQueue.Sessions.RegistryRollback

/-! # Recipients of a send

`send_message` resolves its recipient and then pushes, up to ten times. In between
the name can be retired: by its owner's `unregister`, by a rename or by the rollback
of a registration over a free name. The push itself does not look again.
-/

namespace GptQueue.Recipients

open GptQueue.Sessions (RegistryHashes)

/-! ## The server -/

/-- What `ActorDirectory.get` finds. -/
inductive DirectoryRead
  | absent
  | record
  | corrupt
deriving DecidableEq, Repr

/-- An accepted push, and whether its recipient was known at that moment. -/
structure Push where
  call : Nat
  recipient : String
  addressed : Bool
deriving DecidableEq, Repr

structure World where
  hashes : RegistryHashes
  directory : String → DirectoryRead
  /-- The mailboxes; a message is written as the number of the send. -/
  queue : String → List Nat
  /-- The live dedupe entries: sender and key. -/
  dedupe : List (String × String)
  /-- The sends that found their recipient in the registry only and have not ended:
  number and recipient. -/
  awaiting : List (Nat × String)
  /-- Accepted pushes, latest first. -/
  pushes : List Push
  /-- Whether the next session binding, registry write and transfer succeed. -/
  binds : Bool
  registryUp : Bool
  transfers : Bool

/-- The arguments of one `send_message`. -/
structure Send where
  recipient : String
  sender : String
  idempotencyKey : Option String
  queueBound : Nat
deriving DecidableEq, Repr

inductive PushReply
  | sent
  | duplicate
  | full
deriving DecidableEq, Repr

namespace World

/-- The name is registered or a durable actor. -/
def addressed (world : World) (name : String) : Bool :=
  (world.hashes.registry name).isSome || world.directory name == .record

/-- The send with this number has ended. -/
def settle (world : World) (id : Nat) : World :=
  { world with awaiting := world.awaiting.filter (·.1 ≠ id) }

/-- One attempt of `bounded-push` or `bounded-push-idempotent`. The last attempt ends
the send. -/
def push (world : World) (id : Nat) (send : Send) (last : Bool) : PushReply × World :=
  if send.idempotencyKey.any fun key => (send.sender, key) ∈ world.dedupe then
    (.duplicate, world.settle id)
  else if send.queueBound ≤ (world.queue send.recipient).length then
    (.full, if last then world.settle id else world)
  else
    (.sent,
      { world.settle id with
        queue := Function.update world.queue send.recipient
          (world.queue send.recipient ++ [id])
        dedupe := (send.idempotencyKey.map (send.sender, ·)).toList ++ world.dedupe
        pushes := ⟨id, send.recipient, world.addressed send.recipient⟩ :: world.pushes })

/-- `migrate-messages` between the mailboxes. -/
def transfer (world : World) (oldName name : String) : World :=
  { world with
    queue := Function.update (Function.update world.queue name
      (world.queue name ++ world.queue oldName)) oldName [] }

/-- `UNREGISTER_SCRIPT` on the registry and the mailboxes. -/
def unregister (world : World) (name : String) : World :=
  { world with
    hashes := world.hashes.retire name
    queue := Function.update world.queue name [] }

end World

inductive Command
  | directoryGet (name : String)
  /-- `resolveRegistered`, with what the directory had. -/
  | hexists (name : String) (found : DirectoryRead)
  | bindSession
  | push (send : Send) (last : Bool)
  | writeProvisional (name text : String)
  | transfer (oldName name : String)
  | undoRegistryWrite (name text : String)
  | hdelRegistry (name : String)
  | publishRegistration (name text : String)
  | unregister (name : String)
deriving DecidableEq

abbrev Reply : Command → Type
  | .directoryGet _ => DirectoryRead
  | .hexists _ _ => Bool
  | .bindSession => Bool
  | .push _ _ => PushReply
  | .writeProvisional _ _ => Bool
  | .transfer _ _ => Bool
  | _ => Unit

abbrev ask (command : Command) : Program Command Reply (Reply command) := Program.ask command

def serve (id : Nat) : (command : Command) → World → Reply command × World
  | .directoryGet name, world => (world.directory name, world)
  | .hexists name found, world =>
      ((world.hashes.registry name).isSome,
        if (world.hashes.registry name).isSome ∧ found = .absent then
          { world with awaiting := (id, name) :: world.awaiting }
        else world)
  | .bindSession, world => (world.binds, if world.binds then world else world.settle id)
  | .push send last, world => world.push id send last
  | .writeProvisional name text, world =>
      if world.registryUp then
        (true, { world with hashes := world.hashes.writeProvisional name text })
      else (false, world)
  | .transfer oldName name, world =>
      (world.transfers, if world.transfers then world.transfer oldName name else world)
  | .undoRegistryWrite name text, world =>
      ((), { world with hashes := (world.hashes.undoRegistryWrite name text).2 })
  | .hdelRegistry name, world => ((), { world with hashes := world.hashes.retire name })
  | .publishRegistration name text, world =>
      ((), { world with hashes := world.hashes.publishRegistration name text })
  | .unregister name, world => ((), world.unregister name)

/-! ## Calls -/

inductive Input
  | sendMessage (send : Send)
  /-- A registration, by a client that had the old name if there is one. -/
  | register (oldName : Option String) (name provisional completed : String)
  | unregister (name : String)

inductive Result
  | sent
  | duplicate
  | full
  | unknownRecipient
  | failed
  | done
deriving DecidableEq, Repr

/-- The attempts of `MailboxStore.send` and `sendIdempotent` that are left. -/
def pushAttempts (send : Send) : Nat → Program Command Reply Result
  | 0 => pure .full
  | remaining + 1 => do
      match ← ask (.push send (remaining = 0)) with
      | .sent => pure .sent
      | .duplicate => pure .duplicate
      | .full => pushAttempts send remaining

def sendMessage (send : Send) : Program Command Reply Result := do
  let found ← ask (.directoryGet send.recipient)
  let registered ← ask (.hexists send.recipient found)
  if found = .corrupt then pure .failed
  else if found = .absent ∧ registered = false then pure .unknownRecipient
  else if ← ask .bindSession then pushAttempts send 10
  else pure .failed

/-- The registry and mailbox part of `RedisClient.register`; its sessions are other
keys. -/
def register (oldName : Option String) (name provisional completed : String) :
    Program Command Reply Result := do
  if ← ask (.writeProvisional name provisional) then
    match oldName.filter (· ≠ name) with
    | none => do
        let _ ← ask (.publishRegistration name completed)
        pure .done
    | some oldName =>
        if ← ask (.transfer oldName name) then do
          let _ ← ask (.hdelRegistry oldName)
          let _ ← ask (.publishRegistration name completed)
          pure .done
        else do
          let _ ← ask (.undoRegistryWrite name provisional)
          pure .failed
  else pure .failed

def program : Input → Program Command Reply Result
  | .sendMessage send => sendMessage send
  | .register oldName name provisional completed => register oldName name provisional completed
  | .unregister name => do
      let _ ← ask (.unregister name)
      pure .done

inductive Moves : World → World → Prop
  /-- An actor is registered in the directory; records are never removed. -/
  | actor {world : World} (name : String) (readable : world.directory name ≠ .corrupt) :
      Moves world { world with directory := Function.update world.directory name .record }
  /-- A mailbox changes by a claim, a receive, a recovery or a requeue. -/
  | queue {world : World} (name : String) (messages : List Nat) :
      Moves world { world with queue := Function.update world.queue name messages }
  /-- Dedupe entries expire. -/
  | dedupe {world : World} (dedupe : List (String × String)) : Moves world { world with dedupe }
  | conditions {world : World} (binds registryUp transfers : Bool) :
      Moves world { world with binds, registryUp, transfers }

def recipientProtocol : Protocol World Input Command Reply Result where
  program := program
  serve := serve
  opens _ _ := True
  moves := Moves

abbrev RecipientSystem := System World Input Command Reply Result

/-- No send has begun. -/
structure Initial (world : World) : Prop where
  awaiting : world.awaiting = []
  pushes : world.pushes = []

/-- Every run. -/
def anyStep : Condition World Input Command Reply Result := fun _ _ _ _ => True

/-- The name whose registry entry a command removes. -/
def Command.removes (world : World) : Command → Option String
  | .unregister name => some name
  | .hdelRegistry name => some name
  | .undoRegistryWrite name text =>
      if world.hashes.registry name = some text ∧ world.hashes.restore name = none then some name
      else none
  | _ => none

/-- No name loses its registry entry while a send that found it only there is still
to push, unless it has become a durable actor. -/
def RemovesUnawaited : Condition World Input Command Reply Result :=
  fun world _ _ command => ∀ name ∈ command.removes world,
    world.directory name = .record ∨ ∀ send ∈ world.awaiting, send.2 ≠ name

/-- Every accepted push went to a known recipient, and a send that reports `sent` is
one of them. -/
def NoOrphanMailbox (system : RecipientSystem) : Prop :=
  (∀ push ∈ system.world.pushes, push.addressed = true) ∧
    ∀ id send past, system.calls id = some ⟨.sendMessage send, past, .done .sent⟩ →
      ∃ push ∈ system.world.pushes, push.call = id ∧ push.recipient = send.recipient ∧
        push.addressed = true

/-! ## What a send asks -/

abbrev Past := List (Exchange Command Reply)

/-- The exchanges after which a send pushes no more. -/
def finishes : Exchange Command Reply → Bool
  | ⟨.bindSession, bound⟩ => !bound
  | ⟨.push _ last, reply⟩ => reply != .full || last
  | _ => false

/-- The recipient was found, in the directory or in the registry alone. -/
def Resolved (past : Past) (name : String) : Prop :=
  ⟨.directoryGet name, .record⟩ ∈ past ∨ ⟨.hexists name .absent, true⟩ ∈ past

/-- A send pushes its own message, to the recipient it resolved, until it ends. -/
def Asks (input : Input) (past : Past) : Command → Prop
  | .push send _ => input = .sendMessage send ∧ Resolved past send.recipient ∧
      ∀ exchange ∈ past, finishes exchange = false
  | _ => True

def Ends (input : Input) (past : Past) : Result → Prop
  | .sent => ∀ send, input = .sendMessage send → ∃ last, ⟨.push send last, .sent⟩ ∈ past
  | _ => True

theorem Resolved.cons {past : Past} {name : String} (resolved : Resolved past name)
    (exchange : Exchange Command Reply) : Resolved (exchange :: past) name :=
  resolved.imp (List.mem_cons_of_mem _) (List.mem_cons_of_mem _)

theorem follows_pushAttempts (send : Send) (remaining : Nat) {past : Past}
    (resolved : Resolved past send.recipient)
    (unfinished : ∀ exchange ∈ past, finishes exchange = false) :
    (pushAttempts send remaining).Follows (Asks (.sendMessage send)) (Ends (.sendMessage send))
      past := by
  induction remaining generalizing past with
  | zero => trivial
  | succ remaining induction =>
      refine Program.follows_ask_bind.mpr ⟨⟨rfl, resolved, unfinished⟩, fun reply => ?_⟩
      cases reply with
      | sent =>
          intro other same
          cases same
          exact ⟨_, List.mem_cons_self⟩
      | duplicate => trivial
      | full =>
          cases remaining with
          | zero => trivial
          | succ remaining =>
              apply induction (resolved.cons _)
              intro exchange member
              rcases List.mem_cons.mp member with rfl | earlier
              · rfl
              · exact unfinished exchange earlier

theorem follows_sendMessage (send : Send) :
    (sendMessage send).Follows (Asks (.sendMessage send)) (Ends (.sendMessage send)) [] := by
  refine Program.follows_ask_bind.mpr ⟨trivial, fun found => ?_⟩
  refine Program.follows_ask_bind.mpr ⟨trivial, fun registered => ?_⟩
  split
  · trivial
  · next readable =>
      split
      · trivial
      · next known =>
          refine Program.follows_ask_bind.mpr ⟨trivial, fun bound => ?_⟩
          cases bound with
          | false => trivial
          | true =>
              have resolved : Resolved [⟨.hexists send.recipient found, registered⟩,
                  ⟨.directoryGet send.recipient, found⟩] send.recipient := by
                cases found with
                | absent =>
                    cases registered with
                    | false => exact absurd ⟨rfl, rfl⟩ known
                    | true => exact Or.inr List.mem_cons_self
                | record => exact Or.inl (List.mem_cons_of_mem _ List.mem_cons_self)
                | corrupt => exact absurd rfl readable
              apply follows_pushAttempts send 10 (resolved.cons _)
              intro exchange member
              simp only [List.mem_cons, List.not_mem_nil, or_false] at member
              rcases member with rfl | rfl | rfl <;> rfl

theorem follows_program (input : Input) :
    (program input).Follows (Asks input) (Ends input) [] := by
  cases input with
  | sendMessage send => exact follows_sendMessage send
  | register oldName name provisional completed =>
      refine Program.follows_ask_bind.mpr ⟨trivial, fun written => ?_⟩
      cases written with
      | false => trivial
      | true =>
          rw [if_pos rfl]
          split
          · exact Program.follows_ask_bind.mpr ⟨trivial, fun _ => trivial⟩
          · refine Program.follows_ask_bind.mpr ⟨trivial, fun transferred => ?_⟩
            cases transferred with
            | true =>
                refine Program.follows_ask_bind.mpr ⟨trivial, fun _ => ?_⟩
                exact Program.follows_ask_bind.mpr ⟨trivial, fun _ => trivial⟩
            | false => exact Program.follows_ask_bind.mpr ⟨trivial, fun _ => trivial⟩
  | unregister name => exact ⟨trivial, fun _ => trivial⟩

/-! ## What a command does -/

/-- The effect of one command of call `id` on the recipients and the waiting sends. -/
structure Effect (id : Nat) (world : World) (command : Command) (reply : Reply command)
    (after : World) : Prop where
  directory : after.directory = world.directory
  /-- Only a removal takes a name out of the registry. -/
  registry : ∀ name, after.hashes.registry name = none →
    world.hashes.registry name = none ∨ command.removes world = some name
  /-- A send waits until it ends itself. -/
  kept : ∀ waiting ∈ world.awaiting,
    waiting.1 ≠ id ∨ finishes ⟨command, reply⟩ = false → waiting ∈ after.awaiting
  /-- It starts to wait when its recipient is in the registry. -/
  began : ∀ waiting ∈ after.awaiting,
    waiting ∈ world.awaiting ∨ after.hashes.registry waiting.2 ≠ none
  pushes : after.pushes = world.pushes ∨ ∃ send last, command = .push send last ∧
    after.pushes = ⟨id, send.recipient, world.addressed send.recipient⟩ :: world.pushes

section Effect

variable {id : Nat} {world after : World} {command : Command} {reply : Reply command}

theorem Effect.quiet (hashes : after.hashes = world.hashes)
    (directory : after.directory = world.directory) (awaiting : after.awaiting = world.awaiting)
    (pushes : after.pushes = world.pushes) : Effect id world command reply after where
  directory := directory
  registry _ gone := Or.inl (hashes ▸ gone)
  kept _ member _ := awaiting ▸ member
  began _ member := Or.inl (awaiting ▸ member)
  pushes := Or.inl pushes

/-- A command that only writes the registry. -/
theorem Effect.hashes {hashes : RegistryHashes}
    (registry : ∀ name, hashes.registry name = none →
      world.hashes.registry name = none ∨ command.removes world = some name) :
    Effect id world command reply { world with hashes } where
  directory := rfl
  registry := registry
  kept _ member _ := member
  began _ member := Or.inl member
  pushes := Or.inl rfl

/-- The last exchange of a send. -/
theorem Effect.settled (finished : finishes ⟨command, reply⟩ = true)
    (hashes : after.hashes = world.hashes) (directory : after.directory = world.directory)
    (awaiting : after.awaiting = (world.settle id).awaiting)
    (pushes : after.pushes = world.pushes ∨ ∃ send last, command = .push send last ∧
      after.pushes = ⟨id, send.recipient, world.addressed send.recipient⟩ :: world.pushes) :
    Effect id world command reply after where
  directory := directory
  registry _ gone := Or.inl (hashes ▸ gone)
  kept waiting member unfinished := by
    have other : waiting.1 ≠ id := unfinished.resolve_right (by simp [finished])
    rw [awaiting]
    exact List.mem_filter.mpr ⟨member, by simpa using other⟩
  began waiting member := by
    rw [awaiting] at member
    exact Or.inl (List.mem_filter.mp member).1
  pushes := pushes

end Effect

section Serve

variable {id : Nat} {world : World}

theorem effect_push (send : Send) (last : Bool) :
    Effect id world (.push send last) (world.push id send last).1
      (world.push id send last).2 := by
  unfold World.push
  split
  · exact Effect.settled rfl rfl rfl rfl (Or.inl rfl)
  · split
    · cases last with
      | true => exact Effect.settled rfl rfl rfl rfl (Or.inl rfl)
      | false => exact Effect.quiet rfl rfl rfl rfl
    · exact Effect.settled rfl rfl rfl rfl (Or.inr ⟨send, last, rfl, rfl⟩)

theorem registry_undo {name other text : String}
    (gone : (world.hashes.undoRegistryWrite other text).2.registry name = none) :
    world.hashes.registry name = none ∨
      (Command.undoRegistryWrite other text).removes world = some name := by
  by_cases same : name = other
  · subst same
    by_cases own : world.hashes.registry name = some text
    · right
      have restored : world.hashes.restore name = none := by
        simpa [RegistryHashes.undoRegistryWrite, own] using gone
      rw [Command.removes, if_pos ⟨own, restored⟩]
    · left
      rwa [← congrFun (RegistryHashes.undoRegistryWrite_of_ne own).1 name]
  · left
    rwa [← (RegistryHashes.undoRegistryWrite_other same).1]

theorem serve_effect (command : Command) :
    Effect id world command (serve id command world).1 (serve id command world).2 := by
  cases command with
  | directoryGet name => exact Effect.quiet rfl rfl rfl rfl
  | hexists name found =>
      dsimp only [serve]
      split
      · next resolved =>
          refine ⟨rfl, fun _ gone => Or.inl gone, fun waiting member _ =>
            List.mem_cons_of_mem _ member, fun waiting member => ?_, Or.inl rfl⟩
          rcases List.mem_cons.mp member with rfl | earlier
          · exact Or.inr (Option.isSome_iff_ne_none.mp resolved.1)
          · exact Or.inl earlier
      · exact Effect.quiet rfl rfl rfl rfl
  | bindSession =>
      dsimp only [serve]
      split
      · exact Effect.quiet rfl rfl rfl rfl
      · next unbound =>
          exact Effect.settled (by simp [finishes, unbound]) rfl rfl rfl (Or.inl rfl)
  | push send last => exact effect_push send last
  | writeProvisional name text =>
      dsimp only [serve]
      split
      · refine Effect.hashes fun other gone => Or.inl ?_
        by_cases same : other = name
        · simp [same, RegistryHashes.writeProvisional] at gone
        · simpa [same, RegistryHashes.writeProvisional] using gone
      · exact Effect.quiet rfl rfl rfl rfl
  | transfer oldName name =>
      dsimp only [serve]
      split <;> exact Effect.quiet rfl rfl rfl rfl
  | undoRegistryWrite name text => exact Effect.hashes fun _ gone => registry_undo gone
  | hdelRegistry name =>
      refine Effect.hashes fun other gone => ?_
      by_cases same : other = name
      · exact Or.inr (congrArg some same.symm)
      · exact Or.inl (by simpa [RegistryHashes.retire, same] using gone)
  | publishRegistration name text =>
      refine Effect.hashes fun other gone => Or.inl ?_
      by_cases same : other = name
      · simp [same, RegistryHashes.publishRegistration] at gone
      · simpa [same, RegistryHashes.publishRegistration] using gone
  | unregister name =>
      refine ⟨rfl, fun other gone => ?_, fun _ member _ => member,
        fun _ member => Or.inl member, Or.inl rfl⟩
      by_cases same : other = name
      · exact Or.inr (congrArg some same.symm)
      · exact Or.inl (by simpa [serve, World.unregister, RegistryHashes.retire, same] using gone)

/-- A push that reports `sent` has been recorded. -/
theorem pushes_of_sent {send : Send} {last : Bool}
    (sent : (serve id (.push send last) world).1 = .sent) :
    ⟨id, send.recipient, world.addressed send.recipient⟩ ∈
      (serve id (.push send last) world).2.pushes := by
  dsimp only [serve, World.push] at sent ⊢
  split at sent
  · cases sent
  · next fresh =>
      rw [if_neg fresh]
      split at sent
      · cases sent
      · next space =>
          rw [if_neg space]
          exact List.mem_cons_self

end Serve

/-! ## The invariant -/

/-- The recipients of waiting sends are known, and so were those of the pushes. -/
structure Known (world : World) : Prop where
  awaiting : ∀ waiting ∈ world.awaiting, world.addressed waiting.2 = true
  pushes : ∀ push ∈ world.pushes, push.addressed = true

/-- What is known of one call. -/
structure Knows (world : World) (id : Nat) (call : Call Input Command Reply Result) : Prop where
  waits : ∀ {name}, ⟨.hexists name .absent, true⟩ ∈ call.past →
    (∀ exchange ∈ call.past, finishes exchange = false) → (id, name) ∈ world.awaiting
  durable : ∀ {name}, ⟨.directoryGet name, .record⟩ ∈ call.past → world.directory name = .record
  pushed : ∀ {send last}, ⟨.push send last, .sent⟩ ∈ call.past →
    ∃ push ∈ world.pushes, push.call = id ∧ push.recipient = send.recipient

section Runs

variable {id : Nat} {world after : World}

theorem addressed_iff {name : String} : world.addressed name = true ↔
    world.hashes.registry name ≠ none ∨ world.directory name = .record := by
  simp [World.addressed, Option.isSome_iff_ne_none]

/-- The names of waiting sends stay known when no removal takes them away. -/
theorem Effect.addressed {command : Command} {reply : Reply command}
    {call : Call Input Command Reply Result} (effect : Effect id world command reply after)
    (removes : RemovesUnawaited world id call command) {waiting : Nat × String}
    (member : waiting ∈ world.awaiting) (known : world.addressed waiting.2 = true) :
    after.addressed waiting.2 = true := by
  rw [addressed_iff, effect.directory]
  by_cases gone : after.hashes.registry waiting.2 = none
  · right
    rcases addressed_iff.mp known with registered | durable
    · have removed := (effect.registry waiting.2 gone).resolve_left registered
      exact (removes waiting.2 removed).resolve_right fun free => free waiting member rfl
    · exact durable
  · exact Or.inl gone

theorem Known.served {input : Input} {past : Past} {command : Command} {reply : Reply command}
    {rest : Program Command Reply Result} (known : Known world)
    (effect : Effect id world command reply after) (knows : Knows world id ⟨input, past, rest⟩)
    (asks : Asks input past command)
    (removes : RemovesUnawaited world id ⟨input, past, rest⟩ command) : Known after := by
  refine ⟨fun waiting member => ?_, fun push member => ?_⟩
  · rcases effect.began waiting member with earlier | registered
    · exact effect.addressed removes earlier (known.awaiting waiting earlier)
    · exact addressed_iff.mpr (Or.inl registered)
  · rcases effect.pushes with same | ⟨send, last, rfl, new⟩
    · rw [same] at member
      exact known.pushes push member
    · rw [new] at member
      rcases List.mem_cons.mp member with rfl | earlier
      · rcases asks with ⟨rfl, resolved, unfinished⟩
        rcases resolved with durable | registered
        · exact addressed_iff.mpr (Or.inr (knows.durable durable))
        · exact known.awaiting _ (knows.waits registered unfinished)
      · exact known.pushes push earlier

theorem Effect.mem_pushes {command : Command} {reply : Reply command}
    (effect : Effect id world command reply after) {push : Push} (member : push ∈ world.pushes) :
    push ∈ after.pushes := by
  rcases effect.pushes with same | ⟨send, last, rfl, new⟩
  · exact same ▸ member
  · rw [new]
    exact List.mem_cons_of_mem _ member

/-- A command of another call. -/
theorem Knows.mono {other : Nat} {command : Command} {reply : Reply command}
    {call : Call Input Command Reply Result} (knows : Knows world other call)
    (effect : Effect id world command reply after) (different : other ≠ id) :
    Knows after other call where
  waits found unfinished := effect.kept _ (knows.waits found unfinished) (Or.inl different)
  durable found := (congrFun effect.directory _).trans (knows.durable found)
  pushed found := by
    rcases knows.pushed found with ⟨push, member, same⟩
    exact ⟨push, effect.mem_pushes member, same⟩

theorem Knows.served {input : Input} {past : Past} {command : Command}
    {next : Reply command → Program Command Reply Result}
    (knows : Knows world id ⟨input, past, .call command next⟩) :
    Knows (serve id command world).2 id
      ⟨input, ⟨command, (serve id command world).1⟩ :: past,
        next (serve id command world).1⟩ := by
  have effect := @serve_effect id world command
  refine ⟨fun {name} found unfinished => ?_, fun {name} found => ?_, fun {send last} found => ?_⟩
  · rcases List.mem_cons.mp found with head | earlier
    · rcases reply_of_head (fun asked => (serve id asked world).1) head with ⟨registered, rfl⟩
      dsimp only [serve]
      rw [if_pos ⟨registered.symm, rfl⟩]
      exact List.mem_cons_self
    · have earlierUnfinished : ∀ exchange ∈ past, finishes exchange = false :=
        fun exchange member => unfinished exchange (List.mem_cons_of_mem _ member)
      exact effect.kept _ (knows.waits earlier earlierUnfinished)
        (Or.inr (unfinished _ List.mem_cons_self))
  · rcases List.mem_cons.mp found with head | earlier
    · rcases reply_of_head (fun asked => (serve id asked world).1) head with ⟨read, rfl⟩
      exact read.symm
    · exact (congrFun effect.directory name).trans (knows.durable earlier)
  · rcases List.mem_cons.mp found with head | earlier
    · rcases reply_of_head (fun asked => (serve id asked world).1) head with ⟨sent, rfl⟩
      exact ⟨_, pushes_of_sent sent.symm, rfl, rfl⟩
    · rcases knows.pushed earlier with ⟨push, member, same⟩
      exact ⟨push, effect.mem_pushes member, same⟩

theorem Known.moved (known : Known world) (moves : Moves world after) : Known after := by
  cases moves with
  | actor name readable =>
      refine ⟨fun waiting member => ?_, known.pushes⟩
      rcases addressed_iff.mp (known.awaiting waiting member) with registered | durable
      · exact addressed_iff.mpr (Or.inl registered)
      · apply addressed_iff.mpr
        right
        by_cases same : waiting.2 = name
        · simp [same]
        · simpa [same] using durable
  | _ => exact ⟨known.awaiting, known.pushes⟩

theorem Knows.moved {call : Call Input Command Reply Result} (knows : Knows world id call)
    (moves : Moves world after) : Knows after id call := by
  cases moves with
  | actor name readable =>
      refine ⟨knows.waits, fun {other} found => ?_, knows.pushed⟩
      by_cases same : other = name
      · simp [same]
      · simpa [same] using knows.durable found
  | _ => exact ⟨knows.waits, knows.durable, knows.pushed⟩

theorem preserves_known :
    Protocol.Preserves recipientProtocol
      (fun world id call command =>
        RemovesUnawaited world id call command ∧ Asks call.input call.past command)
      Known Knows (fun _ _ => True) where
  opened _ _ _ :=
    { waits := fun found => absurd found List.not_mem_nil
      durable := fun found => absurd found List.not_mem_nil
      pushed := fun found => absurd found List.not_mem_nil }
  served {world id input past command next} known knows meets := by
    have effect := @serve_effect id world command
    refine ⟨known.served effect knows meets.2 meets.1, knows.served, fun other different => ?_⟩
    exact ⟨fun call kept => kept.mono effect different, fun _ => trivial⟩
  moved {world after} known moves :=
    ⟨known.moved moves, fun _ => ⟨fun _ kept => kept.moved moves, fun _ => trivial⟩⟩

/-- In every run that removes no name a send is about to push to, every accepted push
has a known recipient. -/
theorem push_has_recipient {system : RecipientSystem}
    (reached : recipientProtocol.Reachable RemovesUnawaited Initial system) :
    NoOrphanMailbox system := by
  have holds := (reached.asking follows_program).invariant
    (fun world initial => ⟨⟨by simp [initial.awaiting], by simp [initial.pushes]⟩,
      fun _ => trivial⟩) preserves_known
  have follows := reached.follows follows_program
  refine ⟨holds.shared.pushes, fun id send past ended => ?_⟩
  rcases follows id _ ended send rfl with ⟨last, sent⟩
  rcases (holds.own id _ ended).pushed sent with ⟨push, member, sameCall, sameRecipient⟩
  exact ⟨push, member, sameCall, sameRecipient, holds.shared.pushes push member⟩

end Runs

/-! A recipient is unregistered between the resolution and the push. -/

section Schedule

def oneAgent : World where
  hashes := ⟨fun name => if name = "worker" then some "completed" else none,
    fun _ => none, fun _ => none⟩
  directory _ := .absent
  queue _ := []
  dedupe := []
  awaiting := []
  pushes := []
  binds := true
  registryUp := true
  transfers := true

def greeting : Send := ⟨"worker", "boss", none, 10⟩

def advances (system : RecipientSystem) (id count : Nat) : RecipientSystem :=
  (fun before => recipientProtocol.advance before id)^[count] system

def resolvedSend : RecipientSystem :=
  advances (recipientProtocol.start ⟨oneAgent, fun _ => none⟩ 1 (.sendMessage greeting)) 1 3

def unregisteredMeanwhile : RecipientSystem :=
  advances (recipientProtocol.start resolvedSend 2 (.unregister "worker")) 2 1

def orphaned : RecipientSystem := advances unregisteredMeanwhile 1 1

theorem orphaned_reachable : recipientProtocol.Reachable anyStep Initial orphaned := by
  have empty : recipientProtocol.Reachable anyStep Initial ⟨oneAgent, fun _ => none⟩ :=
    Protocol.Reachable.init ⟨rfl, rfl⟩
  have resolved : recipientProtocol.Reachable anyStep Initial resolvedSend :=
    (empty.start 1 (.sendMessage greeting) rfl trivial).advances 1 3 fun _ _ _ _ => trivial
  have unregistered : recipientProtocol.Reachable anyStep Initial unregisteredMeanwhile :=
    (resolved.start 2 (.unregister "worker") (by decide +kernel) trivial).advances 2 1
      fun _ _ _ _ => trivial
  exact unregistered.advances 1 1 fun _ _ _ _ => trivial

/-- The send reports `sent`, and its message is in the mailbox of nobody. -/
theorem push_without_recipient :
    ¬∀ system : RecipientSystem, recipientProtocol.Reachable anyStep Initial system →
      NoOrphanMailbox system := by
  intro always
  have known := (always orphaned orphaned_reachable).1 ⟨1, "worker", false⟩ (by decide +kernel)
  cases known

/-- The send alone. -/
def delivered : RecipientSystem :=
  advances (recipientProtocol.start ⟨oneAgent, fun _ => none⟩ 1 (.sendMessage greeting)) 1 4

/-- `RemovesUnawaited` holds of a command that removes nothing. -/
def removesNothing (system : RecipientSystem) (id : Nat) : Bool :=
  match Protocol.asked system id with
  | some command => command.removes system.world == none
  | none => true

theorem delivered_reachable : recipientProtocol.Reachable RemovesUnawaited Initial delivered := by
  have empty : recipientProtocol.Reachable RemovesUnawaited Initial ⟨oneAgent, fun _ => none⟩ :=
    Protocol.Reachable.init ⟨rfl, rfl⟩
  have checked : ∀ earlier < 4, removesNothing (advances (recipientProtocol.start
      ⟨oneAgent, fun _ => none⟩ 1 (.sendMessage greeting)) 1 earlier) 1 = true := by
    decide +kernel
  apply (empty.start 1 (.sendMessage greeting) rfl trivial).advances_of 1 4
  intro earlier less call command running asked name removed
  have found := checked earlier less
  rw [removesNothing, advances, asked] at found
  rw [beq_iff_eq.mp found] at removed
  cases removed

theorem delivered_to_recipient :
    ⟨1, "worker", true⟩ ∈ delivered.world.pushes ∧ NoOrphanMailbox delivered :=
  ⟨by decide +kernel, push_has_recipient delivered_reachable⟩

end Schedule

end GptQueue.Recipients
