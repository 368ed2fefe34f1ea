import GptQueue.Claims.Isolation
import GptQueue.Claims.Lifetime
import GptQueue.Diagnostics.Report
import GptQueue.Foundation.Interleaving

/-! # What is said of a message

`AgentDiagnostics.delivery` looks for a message in the inbox of an agent, then in its claims,
then in its dead letters and last in its traces, with one command after another. The message
may move meanwhile, in the same direction. As long as it is not put back into the inbox, the
report finds it.
-/

namespace GptQueue.Delivery

open Redis
open Claims (Action BatchClaimArgs ReadsMessages RoundTrips Sound Stored TaskClaim)
open Diagnostics (Host json record textField)

/-! ## The report -/

inductive DeliveryStatus
  | queued
  | claimed
  | claimExpired
  | deadLettered
  | acknowledged
  | unknownHistory
deriving DecidableEq

structure DeliveryDiagnostics where
  status : DeliveryStatus
  claimId : Option String
deriving DecidableEq

section Documents

variable (messageId : String)

/-- `record(json(raw)).id === messageId`. -/
def names (raw : Option String) : Bool := textField (record (json raw)) "id" = some messageId

/-- `Array.isArray(c.tasks)`, and a task of it is the message. -/
def holds (raw : Option String) : Bool :=
  match (Json.object (record (json raw))).field "tasks" with
  | some (.array tasks) => tasks.any fun task => names messageId (Json.asString (some task))
  | _ => false

/-- The names and values of a stream entry in pairs. -/
def pairs : List String → List (String × String)
  | name :: value :: rest => (name, value) :: pairs rest
  | _ => []

def traceField (trace : List String) (name : String) : Option String :=
  (pairs trace).reverse.lookup name

def isNotBefore : Option String → Option String → Bool
  | some later, some earlier => CodeUnits.codeUnits earlier ≤ CodeUnits.codeUnits later
  | _, _ => false

/-- The claim id of a claim trace that an acknowledgement follows. -/
def acknowledgement (traces : List (List String)) : Option (Option String) :=
  match traces.find? fun trace => traceField trace "message_id" = some messageId &&
      traceField trace "stage" = some "task_claimed" with
  | none => none
  | some claim =>
      if traces.any fun trace => traceField trace "stage" = some "task_acknowledged" &&
          traceField trace "claim_id" = traceField claim "claim_id" &&
          isNotBefore (traceField trace "timestamp") (traceField claim "timestamp") then
        some (traceField claim "claim_id")
      else none

end Documents

inductive Command
  /-- The first messages of the inbox. -/
  | inbox
  | claimIds
  | claims (claimIds : List String)
  | clock
  /-- The first dead letters. -/
  | deadLetters
  /-- The latest entries of the trace stream. -/
  | traces
deriving DecidableEq

abbrev Reply : Command → Type
  | .inbox => List String
  | .claimIds => List String
  | .claims _ => List (Option String)
  | .clock => Int
  | .deadLetters => List String
  | .traces => List (List String)

abbrev ask (command : Command) : Program Command Reply (Reply command) := Program.ask command

section Report

variable (host : Host) (dateParse : String → Option Int) (messageId : String)

/-- `String(c.expires_at)`. -/
def expiryText (claim : List (String × Json)) : String :=
  match (Json.object claim).field "expires_at" with
  | none => "undefined"
  | some value => host.toText value

/-- A date that cannot be read is not over. -/
def claimStatus (claim : List (String × Json)) (now : Int) : DeliveryStatus :=
  match dateParse (expiryText host claim) with
  | none => .claimed
  | some expiresMs => if expiresMs < now then .claimExpired else .claimed

/-- `HMGET` is not sent without fields. -/
def readClaims (claimIds : List String) : Program Command Reply (List (Option String)) :=
  if claimIds = [] then pure [] else ask (.claims claimIds)

/-- The last claim that has the message counts. -/
def scanClaims : List (String × Option String) → DeliveryDiagnostics →
    Program Command Reply DeliveryDiagnostics
  | [], found => pure found
  | (claimId, raw) :: rest, found =>
      if holds messageId raw then do
        let now ← ask .clock
        scanClaims rest ⟨claimStatus host dateParse (record (json raw)) now, some claimId⟩
      else scanClaims rest found

def conclude (found : DeliveryDiagnostics) (traces : List (List String)) : DeliveryDiagnostics :=
  if found.status = .unknownHistory then
    match acknowledgement messageId traces with
    | none => found
    | some claimId => ⟨.acknowledged, claimId⟩
  else found

def delivery : Program Command Reply DeliveryDiagnostics := do
  let queued ← ask .inbox
  let status : DeliveryStatus :=
    if queued.any fun raw => names messageId (some raw) then .queued else .unknownHistory
  let claimIds ← ask .claimIds
  let raws ← readClaims claimIds
  let found ← scanClaims host dateParse messageId (claimIds.zip raws) ⟨status, none⟩
  let dead ← ask .deadLetters
  let found :=
    if dead.any fun raw => names messageId (some raw) then { found with status := .deadLettered }
    else found
  let traces ← ask .traces
  pure (conclude messageId found traces)

end Report

/-! ## The server -/

structure World where
  keyspace : Keyspace Key
  now : Int
  /-- Latest first. -/
  traces : List (List String)

/-- The length of what is read of a list or of the stream. -/
def window : Nat := 1024

def serve (agent : String) (_ : Nat) : (command : Command) → World → Reply command × World
  | .inbox, world => ((world.keyspace.items (.queue agent)).take window, world)
  | .claimIds, world => (sortedMembers (world.keyspace.scores (.claimsIndex agent)), world)
  | .claims claimIds, world =>
      (claimIds.map fun claimId => (world.keyspace.fields .claims).lookup claimId, world)
  | .clock, world => (world.now, world)
  | .deadLetters, world => ((world.keyspace.items (.dlq agent)).take window, world)
  | .traces, world => (world.traces.take window, world)

/-- A report changes nothing. -/
theorem serve_world (agent : String) (id : Nat) (command : Command) (world : World) :
    (serve agent id command world).2 = world := by
  cases command <;> rfl

section Places

variable (cjson : Cjson) (agent messageId : String)

def InInbox (keyspace : Keyspace Key) : Prop :=
  ∃ payload ∈ keyspace.items (.queue agent), names messageId (some payload) = true

def InClaim (keyspace : Keyspace Key) (claimId : String) : Prop :=
  ∃ claim : TaskClaim, Stored cjson keyspace claim ∧ claim.claimId = claimId ∧
    claim.actorId = agent ∧ ∃ task ∈ claim.tasks, names messageId (some task) = true

def InDeadLetters (keyspace : Keyspace Key) : Prop :=
  ∃ payload ∈ keyspace.items (.dlq agent), names messageId (some payload) = true

/-- The agent has the message, delivered or not. -/
def Held (keyspace : Keyspace Key) : Prop :=
  InInbox agent messageId keyspace ∨ (∃ claimId, InClaim cjson agent messageId keyspace claimId) ∨
    InDeadLetters agent messageId keyspace

/-- Anyone acts on the queues, as long as the agent has the message and it is not put back
into the inbox. -/
inductive Moves : World → World → Prop
  | acts {world : World} (action : Action) (admissible : action.Admissible world.keyspace)
      (held : Held cjson agent messageId (action.after cjson world.keyspace))
      (forward : InInbox agent messageId (action.after cjson world.keyspace) →
        InInbox agent messageId world.keyspace) :
      Moves world { world with keyspace := action.after cjson world.keyspace }
  | passes {world : World} (now : Int) (traces : List (List String)) :
      Moves world { world with now, traces }

end Places

section Protocol

variable (host : Host) (dateParse : String → Option Int) (cjson : Cjson) (agent messageId : String)

def deliveryProtocol : Protocol World Unit Command Reply DeliveryDiagnostics where
  program _ := delivery host dateParse messageId
  serve := serve agent
  opens _ _ := True
  moves := Moves cjson agent messageId

abbrev DeliverySystem := System World Unit Command Reply DeliveryDiagnostics

abbrev DeliveryCall := Call Unit Command Reply DeliveryDiagnostics

abbrev Past := List (Exchange Command Reply)

/-- A list that is read is no longer than the window. -/
def InWindow : Condition World Unit Command Reply DeliveryDiagnostics :=
  fun world _ _ command =>
    (command = .inbox → (world.keyspace.items (.queue agent)).length ≤ window) ∧
      (command = .deadLetters → (world.keyspace.items (.dlq agent)).length ≤ window)

/-- `JSON.parse` reads a claim that the scripts have written. -/
def ParsesClaims : Prop :=
  ∀ claim : TaskClaim, claim.tasks ≠ [] →
    Json.parse (cjson.encode claim.toJson) = some claim.toJson

structure Initial (world : World) : Prop where
  sound : Sound cjson world.keyspace
  held : Held cjson agent messageId world.keyspace

end Protocol

/-! ## What a call has seen -/

section Seen

variable {host : Host} {dateParse : String → Option Int} {messageId : String} {past later : Past}

/-- The claims that were read of the ids. -/
def ReadClaims (past : Past) (claimIds : List String) (raws : List (Option String)) : Prop :=
  claimIds = [] ∧ raws = [] ∨ ⟨.claims claimIds, raws⟩ ∈ past

def SawInbox (messageId : String) (seen : Bool) (past : Past) : Prop :=
  ∃ payloads, ⟨.inbox, payloads⟩ ∈ past ∧
    (payloads.any fun raw => names messageId (some raw)) = seen

def SawDeadLetters (messageId : String) (seen : Bool) (past : Past) : Prop :=
  ∃ payloads, ⟨.deadLetters, payloads⟩ ∈ past ∧
    (payloads.any fun raw => names messageId (some raw)) = seen

/-- No claim that was read has the message. -/
def Unclaimed (messageId : String) (past : Past) : Prop :=
  ∃ claimIds raws, ⟨.claimIds, claimIds⟩ ∈ past ∧ ReadClaims past claimIds raws ∧
    ∀ item ∈ claimIds.zip raws, holds messageId item.2 = false

def SawClaim (messageId claimId : String) (past : Past) : Prop :=
  ∃ claimIds raws, ⟨.claimIds, claimIds⟩ ∈ past ∧ ⟨.claims claimIds, raws⟩ ∈ past ∧
    ∃ raw, (claimId, raw) ∈ claimIds.zip raws ∧ holds messageId raw = true

theorem SawInbox.mono {seen : Bool} (saw : SawInbox messageId seen past) (more : past ⊆ later) :
    SawInbox messageId seen later := by
  rcases saw with ⟨payloads, read, isSeen⟩
  exact ⟨payloads, more read, isSeen⟩

theorem SawDeadLetters.mono {seen : Bool} (saw : SawDeadLetters messageId seen past)
    (more : past ⊆ later) : SawDeadLetters messageId seen later := by
  rcases saw with ⟨payloads, read, isSeen⟩
  exact ⟨payloads, more read, isSeen⟩

theorem Unclaimed.mono (unclaimed : Unclaimed messageId past) (more : past ⊆ later) :
    Unclaimed messageId later := by
  rcases unclaimed with ⟨claimIds, raws, listed, read, without⟩
  exact ⟨claimIds, raws, more listed, read.imp_right fun read => more read, without⟩

theorem SawClaim.mono {claimId : String} (saw : SawClaim messageId claimId past)
    (more : past ⊆ later) : SawClaim messageId claimId later := by
  rcases saw with ⟨claimIds, raws, listed, read, found⟩
  exact ⟨claimIds, raws, more listed, more read, found⟩

theorem mem_of_cons {exchange other : Exchange Command Reply} (different : other.1 ≠ exchange.1)
    (member : other ∈ exchange :: past) : other ∈ past := by
  rcases List.mem_cons.mp member with rfl | earlier
  · exact absurd rfl different
  · exact earlier

section Cons

variable {exchange : Exchange Command Reply}

theorem SawInbox.of_cons {seen : Bool} (saw : SawInbox messageId seen (exchange :: past))
    (different : .inbox ≠ exchange.1) : SawInbox messageId seen past := by
  rcases saw with ⟨payloads, read, isSeen⟩
  exact ⟨payloads, mem_of_cons different read, isSeen⟩

theorem SawDeadLetters.of_cons {seen : Bool}
    (saw : SawDeadLetters messageId seen (exchange :: past))
    (different : .deadLetters ≠ exchange.1) : SawDeadLetters messageId seen past := by
  rcases saw with ⟨payloads, read, isSeen⟩
  exact ⟨payloads, mem_of_cons different read, isSeen⟩

theorem Unclaimed.of_cons (unclaimed : Unclaimed messageId (exchange :: past))
    (notListed : .claimIds ≠ exchange.1) (notRead : ∀ claimIds, .claims claimIds ≠ exchange.1) :
    Unclaimed messageId past := by
  rcases unclaimed with ⟨claimIds, raws, listed, read, without⟩
  exact ⟨claimIds, raws, mem_of_cons notListed listed,
    read.imp_right (mem_of_cons (notRead claimIds)), without⟩

end Cons

/-- What a report says of what was read. -/
def Tells (messageId : String) (past : Past) (report : DeliveryDiagnostics) : Prop :=
  match report.status with
  | .queued => SawInbox messageId true past ∧ Unclaimed messageId past ∧
      SawDeadLetters messageId false past
  | .claimed => (∃ claimId, report.claimId = some claimId ∧ SawClaim messageId claimId past) ∧
      SawDeadLetters messageId false past
  | .claimExpired => (∃ claimId, report.claimId = some claimId ∧ SawClaim messageId claimId past) ∧
      SawDeadLetters messageId false past
  | .deadLettered => SawDeadLetters messageId true past
  | .acknowledged => SawInbox messageId false past ∧ Unclaimed messageId past ∧
      SawDeadLetters messageId false past
  | .unknownHistory => SawInbox messageId false past ∧ Unclaimed messageId past ∧
      SawDeadLetters messageId false past

/-- The order of the commands. -/
def Asks (past : Past) : Command → Prop
  | .inbox => past = []
  | .claimIds => ∀ exchange ∈ past, exchange.1 = .inbox
  | .claims claimIds => ⟨.claimIds, claimIds⟩ ∈ past ∧
      ∀ exchange ∈ past, exchange.1 = .inbox ∨ exchange.1 = .claimIds
  | .deadLetters => ∀ exchange ∈ past, exchange.1 ≠ .deadLetters
  | _ => True

/-- The status and the claim id after a scan of claims. -/
def Scanned (messageId : String) (items : List (String × Option String))
    (found result : DeliveryDiagnostics) : Prop :=
  (∀ item ∈ items, holds messageId item.2 = false) ∧ result = found ∨
    ∃ item ∈ items, holds messageId item.2 = true ∧ result.claimId = some item.1 ∧
      (result.status = .claimed ∨ result.status = .claimExpired)

/-- Only the clock has been read since. -/
structure Ticked (past later : Past) : Prop where
  more : past ⊆ later
  clocks : ∀ exchange ∈ later, exchange ∈ past ∨ exchange.1 = .clock

theorem Ticked.refl (past : Past) : Ticked past past := ⟨fun _ => id, fun _ => .inl⟩

theorem Ticked.cons (ticked : Ticked past later) (now : Int) :
    Ticked past (⟨.clock, now⟩ :: later) := by
  constructor
  · exact fun _ member => List.mem_cons_of_mem _ (ticked.more member)
  · intro exchange member
    rcases List.mem_cons.mp member with rfl | earlier
    · exact .inr rfl
    · exact ticked.clocks exchange earlier

theorem claimStatus_cases (claim : List (String × Json)) (now : Int) :
    claimStatus host dateParse claim now = .claimed ∨
      claimStatus host dateParse claim now = .claimExpired := by
  unfold claimStatus
  split
  · exact .inl rfl
  · split
    · exact .inr rfl
    · exact .inl rfl

theorem follows_scanClaims (items : List (String × Option String)) (found : DeliveryDiagnostics)
    (ticked : Ticked past later) :
    (scanClaims host dateParse messageId items found).Follows Asks
      (fun later result => Ticked past later ∧ Scanned messageId items found result) later := by
  induction items generalizing found later with
  | nil => exact ⟨ticked, .inl ⟨fun _ member => absurd member List.not_mem_nil, rfl⟩⟩
  | cons item rest induction =>
      rcases item with ⟨claimId, raw⟩
      rw [scanClaims]
      split
      · next held =>
          apply Program.follows_ask_bind.mpr ⟨trivial, fun now => ?_⟩
          apply (induction _ (ticked.cons now)).mono
          rintro later result ⟨ticked, scanned⟩
          refine ⟨ticked, .inr ?_⟩
          rcases scanned with ⟨-, rfl⟩ | ⟨item, member, isHeld, isId, isStatus⟩
          · exact ⟨_, List.mem_cons_self, held, rfl, claimStatus_cases _ now⟩
          · exact ⟨item, List.mem_cons_of_mem _ member, isHeld, isId, isStatus⟩
      · next held =>
          apply (induction found ticked).mono
          rintro later result ⟨ticked, scanned⟩
          refine ⟨ticked, ?_⟩
          rcases scanned with ⟨without, same⟩ | ⟨item, member, isHeld, isId, isStatus⟩
          · refine .inl ⟨fun item member => ?_, same⟩
            rcases List.mem_cons.mp member with rfl | member
            · simpa using held
            · exact without item member
          · exact .inr ⟨item, List.mem_cons_of_mem _ member, isHeld, isId, isStatus⟩

theorem follows_readClaims {claimIds : List String} (listed : ⟨.claimIds, claimIds⟩ ∈ past)
    (early : ∀ exchange ∈ past, exchange.1 = .inbox ∨ exchange.1 = .claimIds) :
    (readClaims claimIds).Follows Asks
      (fun later raws => past ⊆ later ∧ ReadClaims later claimIds raws ∧
        ∀ exchange ∈ later, exchange.1 ≠ .deadLetters) past := by
  have notDead : ∀ exchange ∈ past, exchange.1 ≠ .deadLetters := by
    intro exchange member isDead
    rcases early exchange member with same | same
    · cases same.symm.trans isDead
    · cases same.symm.trans isDead
  unfold readClaims
  split
  · next empty => exact ⟨fun _ => id, .inl ⟨empty, rfl⟩, notDead⟩
  · refine ⟨⟨listed, early⟩, fun raws => ⟨fun _ => List.mem_cons_of_mem _, ?_, ?_⟩⟩
    · exact .inr List.mem_cons_self
    · intro exchange member
      rcases List.mem_cons.mp member with rfl | member
      · exact Command.noConfusion
      · exact notDead exchange member

/-- The inbox and the claims were read, and what was found in them. -/
structure Searched (messageId : String) (past : Past) (found : DeliveryDiagnostics) : Prop where
  inbox : ∃ seen, SawInbox messageId seen past ∧
    (Unclaimed messageId past ∧
        found = ⟨if seen then .queued else .unknownHistory, none⟩ ∨
      (∃ claimId, found.claimId = some claimId ∧ SawClaim messageId claimId past) ∧
        (found.status = .claimed ∨ found.status = .claimExpired))
  early : ∀ exchange ∈ past, exchange.1 ≠ .deadLetters

theorem tells_dead {found : DeliveryDiagnostics} (searched : Searched messageId past found)
    (dead : List String) :
    Tells messageId (⟨.deadLetters, dead⟩ :: past)
      (if dead.any fun raw => names messageId (some raw) then { found with status := .deadLettered }
        else found) := by
  have more : past ⊆ ⟨.deadLetters, dead⟩ :: past := fun _ => List.mem_cons_of_mem _
  cases isDead : dead.any fun raw => names messageId (some raw) with
  | true => exact ⟨dead, List.mem_cons_self, isDead⟩
  | false =>
      have notDead : SawDeadLetters messageId false (⟨.deadLetters, dead⟩ :: past) :=
        ⟨dead, List.mem_cons_self, isDead⟩
      rw [if_neg Bool.false_ne_true]
      rcases searched.inbox with ⟨seen, saw, ⟨unclaimed, rfl⟩ | ⟨⟨claimId, isId, sawClaim⟩, status⟩⟩
      · cases seen with
        | true => exact ⟨saw.mono more, unclaimed.mono more, notDead⟩
        | false => exact ⟨saw.mono more, unclaimed.mono more, notDead⟩
      · unfold Tells
        rcases status with isStatus | isStatus
        · rw [isStatus]
          exact ⟨⟨claimId, isId, sawClaim.mono more⟩, notDead⟩
        · rw [isStatus]
          exact ⟨⟨claimId, isId, sawClaim.mono more⟩, notDead⟩

theorem Tells.mono {report : DeliveryDiagnostics} (tells : Tells messageId past report)
    (more : past ⊆ later) : Tells messageId later report := by
  unfold Tells at tells ⊢
  cases isStatus : report.status with
  | claimed =>
      rw [isStatus] at tells
      rcases tells with ⟨⟨claimId, isId, saw⟩, notDead⟩
      exact ⟨⟨claimId, isId, saw.mono more⟩, notDead.mono more⟩
  | claimExpired =>
      rw [isStatus] at tells
      rcases tells with ⟨⟨claimId, isId, saw⟩, notDead⟩
      exact ⟨⟨claimId, isId, saw.mono more⟩, notDead.mono more⟩
  | deadLettered =>
      rw [isStatus] at tells
      exact SawDeadLetters.mono tells more
  | queued =>
      rw [isStatus] at tells
      exact ⟨tells.1.mono more, tells.2.1.mono more, tells.2.2.mono more⟩
  | acknowledged =>
      rw [isStatus] at tells
      exact ⟨tells.1.mono more, tells.2.1.mono more, tells.2.2.mono more⟩
  | unknownHistory =>
      rw [isStatus] at tells
      exact ⟨tells.1.mono more, tells.2.1.mono more, tells.2.2.mono more⟩

theorem tells_conclude {found : DeliveryDiagnostics} (tells : Tells messageId past found)
    (traces : List (List String)) : Tells messageId past (conclude messageId found traces) := by
  unfold conclude
  split
  · next unknown =>
      split
      · exact tells
      · unfold Tells at tells ⊢
        rw [unknown] at tells
        exact tells
  · exact tells

theorem follows_delivery :
    (delivery host dateParse messageId).Follows Asks (Tells messageId) [] := by
  apply Program.follows_ask_bind.mpr ⟨rfl, fun payloads => ?_⟩
  apply Program.follows_ask_bind.mpr ⟨by simp [Asks], fun claimIds => ?_⟩
  apply (follows_readClaims List.mem_cons_self (by simp)).bind
  rintro past raws ⟨more, read, notDead⟩
  have listed : ⟨.claimIds, claimIds⟩ ∈ past := more List.mem_cons_self
  have saw : SawInbox messageId (payloads.any fun raw => names messageId (some raw)) past :=
    ⟨payloads, more (List.mem_cons_of_mem _ List.mem_cons_self), rfl⟩
  apply (follows_scanClaims (claimIds.zip raws) _ (Ticked.refl past)).bind
  rintro later found ⟨ticked, scanned⟩
  have searched : Searched messageId later found := by
    refine ⟨⟨_, saw.mono ticked.more, ?_⟩, ?_⟩
    · rcases scanned with ⟨without, rfl⟩ | ⟨item, member, isHeld, isId, status⟩
      · exact .inl ⟨Unclaimed.mono ⟨claimIds, raws, listed, read, without⟩ ticked.more, rfl⟩
      · refine .inr ⟨⟨item.1, isId, ?_⟩, status⟩
        rcases read with ⟨rfl, -⟩ | read
        · cases member
        · exact SawClaim.mono ⟨claimIds, raws, listed, read, item.2, member, isHeld⟩ ticked.more
    · intro exchange member isDead
      rcases ticked.clocks exchange member with earlier | isClock
      · exact notDead exchange earlier isDead
      · cases isClock.symm.trans isDead
  apply Program.follows_ask_bind.mpr ⟨searched.early, fun dead => ?_⟩
  apply Program.follows_ask_bind.mpr ⟨trivial, fun traces => ?_⟩
  have tells := tells_dead searched dead
  exact tells_conclude (tells.mono fun _ => List.mem_cons_of_mem _) traces

end Seen

/-! ## Where a message can be -/

section Where

variable {cjson : Cjson} {agent messageId : String} {keyspace : Keyspace Key}

/-- The tasks of a new claim are from the inbox. -/
theorem mem_inbox_of_created (roundTrips : RoundTrips cjson) (sound : Sound cjson keyspace)
    {args : BatchClaimArgs} (positive : 0 < args.maxBatch) {tasks : List String}
    (nonempty : tasks ≠ [])
    (created : (Action.batchClaim args).created cjson keyspace =
      [(args.claimId, cjson.encode (args.claim tasks).toJson)]) :
    ∀ task ∈ tasks, task ∈ keyspace.items (.queue args.actorId) := by
  have index := sound.typed.index args.actorId
  have inbox := sound.typed.inbox args.actorId
  rw [Action.created] at created
  cases reached : Claims.ceilingReached args keyspace with
  | true =>
      rw [Claims.run_batchClaim_ceiling index reached] at created
      cases created
  | false =>
      by_cases empty : keyspace.items (.queue args.actorId) = []
      · rw [Claims.run_batchClaim_empty index reached positive inbox empty] at created
        cases created
      · rw [Claims.run_batchClaim_claimed index reached positive inbox empty sound.typed.claims]
          at created
        have texts := (Prod.mk.inj (List.cons.inj created).1).2
        have decoded := congrArg cjson.decode texts
        rw [roundTrips _ (Claims.take_ne_nil positive empty),
          roundTrips (args.claim tasks) nonempty, Option.some_inj] at decoded
        have same : (keyspace.items (.queue args.actorId)).take args.maxBatch = tasks :=
          congrArg TaskClaim.tasks (Claims.toJson_injective decoded)
        intro task member
        rw [← same] at member
        exact List.mem_of_mem_take member

/-- Only a batch from the inbox brings the message into a claim. -/
theorem inClaim_of_after (roundTrips : RoundTrips cjson) (reads : ReadsMessages cjson)
    (sound : Sound cjson keyspace) {action : Action} (admissible : action.Admissible keyspace)
    (notInInbox : ¬InInbox agent messageId keyspace) {claimId : String}
    (inClaim : InClaim cjson agent messageId (action.after cjson keyspace) claimId) :
    InClaim cjson agent messageId keyspace claimId := by
  rcases inClaim with ⟨claim, stored, isId, isActor, task, member, isMessage⟩
  cases Claims.origin_after roundTrips reads sound admissible stored with
  | kept action before => exact ⟨claim, before, isId, isActor, task, member, isMessage⟩
  | renewed args old claimedMs expiresMs before sameId renewable isClaim =>
      subst isClaim
      exact ⟨old, before, isId, isActor, task, member, isMessage⟩
  | made args tasks isClaim created =>
      subst isClaim
      have fromInbox := mem_inbox_of_created roundTrips sound admissible.1 stored.tasks created
      exact absurd ⟨task, isActor ▸ fromInbox task member, isMessage⟩ notInInbox

/-- The index leads to every claim that has the message. -/
theorem listed_of_inClaim (sound : Sound cjson keyspace) {claimId : String}
    (inClaim : InClaim cjson agent messageId keyspace claimId) :
    claimId ∈ sortedMembers (keyspace.scores (.claimsIndex agent)) := by
  rcases inClaim with ⟨claim, stored, isId, isActor, -⟩
  exact mem_sortedMembers.mpr ((sound.indexed claimId agent).mpr ⟨claim, stored, isId, isActor⟩)

theorem record_of_stored (parses : ParsesClaims cjson) {claim : TaskClaim}
    (stored : Stored cjson keyspace claim) :
    Json.object (record (json ((keyspace.fields .claims).lookup claim.claimId))) =
      claim.toJson := by
  rw [stored.found, json, Option.bind_some, parses claim stored.tasks]
  rfl

/-- A claim that has the message shows it. -/
theorem holds_of_inClaim (parses : ParsesClaims cjson) {claimId : String}
    (inClaim : InClaim cjson agent messageId keyspace claimId) :
    holds messageId ((keyspace.fields .claims).lookup claimId) = true := by
  rcases inClaim with ⟨claim, stored, rfl, -, task, member, isMessage⟩
  rw [holds, record_of_stored parses stored, Claims.TaskClaim.field_tasks]
  apply List.any_eq_true.mpr
  exact ⟨.string task, List.mem_map_of_mem member, isMessage⟩

/-- A window that is long enough shows whether a list has the message. -/
theorem any_names_take {items : List String} (short : items.length ≤ window) :
    ((items.take window).any fun raw => names messageId (some raw)) = true ↔
      ∃ payload ∈ items, names messageId (some payload) = true := by
  rw [List.take_of_length_le short]
  exact List.any_eq_true

end Where

/-! ## Runs -/

section Runs

variable {host : Host} {dateParse : String → Option Int} {cjson : Cjson} {agent messageId : String}
  {world : World} {id : Nat}

/-- What is known of one call: the message is not where the call has looked for it. -/
structure Knows (cjson : Cjson) (agent messageId : String) (world : World) (call : DeliveryCall) :
    Prop where
  inbox : SawInbox messageId false call.past → ¬InInbox agent messageId world.keyspace
  listed : SawInbox messageId false call.past → ∀ claimIds, ⟨.claimIds, claimIds⟩ ∈ call.past →
    ∀ claimId, InClaim cjson agent messageId world.keyspace claimId → claimId ∈ claimIds
  claims : SawInbox messageId false call.past → Unclaimed messageId call.past →
    ∀ claimId, ¬InClaim cjson agent messageId world.keyspace claimId
  deadLetters : SawInbox messageId false call.past → Unclaimed messageId call.past →
    ¬SawDeadLetters messageId false call.past

theorem Knows.moved {after : World} {call : DeliveryCall}
    (knows : Knows cjson agent messageId world call)
    (forward : InInbox agent messageId after.keyspace → InInbox agent messageId world.keyspace)
    (claimed : ¬InInbox agent messageId world.keyspace → ∀ claimId,
      InClaim cjson agent messageId after.keyspace claimId →
        InClaim cjson agent messageId world.keyspace claimId) :
    Knows cjson agent messageId after call where
  inbox saw inInbox := knows.inbox saw (forward inInbox)
  listed saw claimIds listed claimId inClaim :=
    knows.listed saw claimIds listed claimId (claimed (knows.inbox saw) claimId inClaim)
  claims saw unclaimed claimId inClaim :=
    knows.claims saw unclaimed claimId (claimed (knows.inbox saw) claimId inClaim)
  deadLetters := knows.deadLetters

theorem Knows.fresh (world : World) (rest : Program Command Reply DeliveryDiagnostics) :
    Knows cjson agent messageId world ⟨(), [], rest⟩ where
  inbox := by
    rintro ⟨payloads, read, -⟩
    cases read
  listed := by
    rintro ⟨payloads, read, -⟩
    cases read
  claims := by
    rintro ⟨payloads, read, -⟩
    cases read
  deadLetters := by
    rintro ⟨payloads, read, -⟩
    cases read

section Commands

variable {past : Past}

theorem Knows.reads_inbox {next : List String → Program Command Reply DeliveryDiagnostics}
    (short : (world.keyspace.items (.queue agent)).length ≤ window) (asks : Asks past .inbox) :
    Knows cjson agent messageId world
      ⟨(), ⟨.inbox, (world.keyspace.items (.queue agent)).take window⟩ :: past,
        next ((world.keyspace.items (.queue agent)).take window)⟩ := by
  cases asks
  have unlisted : ∀ claimIds, (⟨.claimIds, claimIds⟩ : Exchange Command Reply) ∉
      ([⟨.inbox, (world.keyspace.items (.queue agent)).take window⟩] : Past) := by simp
  refine ⟨?_, ?_, ?_, ?_⟩
  · rintro ⟨payloads, read, unseen⟩ inInbox
    cases List.mem_singleton.mp read
    rw [(any_names_take short).mpr inInbox] at unseen
    cases unseen
  · intro _ claimIds listed
    exact absurd listed (unlisted claimIds)
  · rintro _ ⟨claimIds, raws, listed, -⟩
    exact absurd listed (unlisted claimIds)
  · rintro _ ⟨claimIds, raws, listed, -⟩
    exact absurd listed (unlisted claimIds)

theorem Knows.reads_claimIds {rest : Program Command Reply DeliveryDiagnostics}
    {next : Program Command Reply DeliveryDiagnostics}
    (knows : Knows cjson agent messageId world ⟨(), past, rest⟩)
    (sound : Sound cjson world.keyspace) (asks : Asks past .claimIds) :
    Knows cjson agent messageId world
      ⟨(), ⟨.claimIds, sortedMembers (world.keyspace.scores (.claimsIndex agent))⟩ :: past,
        next⟩ := by
  refine ⟨?_, ?_, ?_, ?_⟩
  · exact fun saw => knows.inbox (saw.of_cons Command.noConfusion)
  · intro _ claimIds listed claimId inClaim
    rcases List.mem_cons.mp listed with same | earlier
    · cases same
      exact listed_of_inClaim sound inClaim
    · cases asks _ earlier
  · rintro _ ⟨claimIds, raws, listed, read, -⟩ claimId inClaim
    rcases read with ⟨empty, -⟩ | read
    · rcases List.mem_cons.mp listed with same | earlier
      · cases same
        have member := listed_of_inClaim sound inClaim
        rw [empty] at member
        cases member
      · cases asks _ earlier
    · cases asks _ (mem_of_cons Command.noConfusion read)
  · rintro _ _ ⟨payloads, read, -⟩
    cases asks _ (mem_of_cons Command.noConfusion read)

theorem Knows.reads_claims {claimIds : List String}
    {rest next : Program Command Reply DeliveryDiagnostics}
    (knows : Knows cjson agent messageId world ⟨(), past, rest⟩) (parses : ParsesClaims cjson)
    (asks : Asks past (.claims claimIds)) :
    Knows cjson agent messageId world
      ⟨(), ⟨.claims claimIds,
        claimIds.map fun claimId => (world.keyspace.fields .claims).lookup claimId⟩ :: past,
        next⟩ := by
  rcases asks with ⟨-, early⟩
  refine ⟨?_, ?_, ?_, ?_⟩
  · exact fun saw => knows.inbox (saw.of_cons Command.noConfusion)
  · intro saw others listed
    exact knows.listed (saw.of_cons Command.noConfusion) others
      (mem_of_cons Command.noConfusion listed)
  · rintro saw ⟨others, raws, listed, read, without⟩ claimId inClaim
    have member := knows.listed (saw.of_cons Command.noConfusion) others
      (mem_of_cons Command.noConfusion listed) claimId inClaim
    rcases read with ⟨rfl, -⟩ | read
    · cases member
    · rcases List.mem_cons.mp read with same | earlier
      · cases same
        have shown := without (claimId, (world.keyspace.fields .claims).lookup claimId) (by
          rw [← List.map_prod_left_eq_zip]
          exact List.mem_map_of_mem member)
        rw [holds_of_inClaim parses inClaim] at shown
        cases shown
      · rcases early _ earlier with same | same
        · cases same
        · cases same
  · rintro _ _ ⟨payloads, read, -⟩
    rcases early _ (mem_of_cons Command.noConfusion read) with same | same
    · cases same
    · cases same

theorem Knows.reads_deadLetters {rest next : Program Command Reply DeliveryDiagnostics}
    (knows : Knows cjson agent messageId world ⟨(), past, rest⟩)
    (held : Held cjson agent messageId world.keyspace)
    (short : (world.keyspace.items (.dlq agent)).length ≤ window)
    (asks : Asks past .deadLetters) :
    Knows cjson agent messageId world
      ⟨(), ⟨.deadLetters, (world.keyspace.items (.dlq agent)).take window⟩ :: past, next⟩ := by
  have before {claimIds : List String} : Command.claims claimIds ≠ .deadLetters :=
    Command.noConfusion
  refine ⟨?_, ?_, ?_, ?_⟩
  · exact fun saw => knows.inbox (saw.of_cons Command.noConfusion)
  · intro saw claimIds listed
    exact knows.listed (saw.of_cons Command.noConfusion) claimIds
      (mem_of_cons Command.noConfusion listed)
  · intro saw unclaimed
    exact knows.claims (saw.of_cons Command.noConfusion)
      (unclaimed.of_cons Command.noConfusion fun _ => before)
  · rintro saw unclaimed ⟨payloads, read, unseen⟩
    have sawBefore := saw.of_cons Command.noConfusion
    rcases held with inInbox | ⟨claimId, inClaim⟩ | inDead
    · exact knows.inbox sawBefore inInbox
    · exact knows.claims sawBefore (unclaimed.of_cons Command.noConfusion fun _ => before)
        claimId inClaim
    · rcases List.mem_cons.mp read with same | earlier
      · cases same
        rw [(any_names_take short).mpr inDead] at unseen
        cases unseen
      · exact asks _ earlier rfl

/-- A command that reads no place. -/
theorem Knows.quiet {exchange : Exchange Command Reply}
    {rest next : Program Command Reply DeliveryDiagnostics}
    (knows : Knows cjson agent messageId world ⟨(), past, rest⟩)
    (quiet : exchange.1 = .clock ∨ exchange.1 = .traces) :
    Knows cjson agent messageId world ⟨(), exchange :: past, next⟩ := by
  have notInbox : .inbox ≠ exchange.1 := by rcases quiet with same | same <;> simp [same]
  have notListed : .claimIds ≠ exchange.1 := by rcases quiet with same | same <;> simp [same]
  have notRead : ∀ claimIds, .claims claimIds ≠ exchange.1 := by
    rcases quiet with same | same <;> simp [same]
  have notDead : .deadLetters ≠ exchange.1 := by rcases quiet with same | same <;> simp [same]
  refine ⟨?_, ?_, ?_, ?_⟩
  · exact fun saw => knows.inbox (saw.of_cons notInbox)
  · intro saw claimIds listed
    exact knows.listed (saw.of_cons notInbox) claimIds (mem_of_cons notListed listed)
  · intro saw unclaimed
    exact knows.claims (saw.of_cons notInbox) (unclaimed.of_cons notListed notRead)
  · intro saw unclaimed dead
    exact knows.deadLetters (saw.of_cons notInbox) (unclaimed.of_cons notListed notRead)
      (dead.of_cons notDead)

end Commands

theorem preserves_knows (roundTrips : RoundTrips cjson) (reads : ReadsMessages cjson)
    (parses : ParsesClaims cjson) :
    Protocol.Preserves (deliveryProtocol host dateParse cjson agent messageId)
      (fun world id call command => InWindow agent world id call command ∧ Asks call.past command)
      (Initial cjson agent messageId) (fun world _ call => Knows cjson agent messageId world call)
      (fun _ _ => True) where
  opened _ _ _ := Knows.fresh _ _
  served {world id input past command next} initial knows meets := by
    rcases meets with ⟨⟨inboxShort, deadShort⟩, asks⟩
    have same : ((deliveryProtocol host dateParse cjson agent messageId).serve id command
        world).2 = world := serve_world agent id command world
    rw [same]
    refine ⟨initial, ?_, fun _ _ => ⟨fun _ known => known, fun _ => trivial⟩⟩
    cases command with
    | inbox => exact Knows.reads_inbox (inboxShort rfl) asks
    | claimIds => exact knows.reads_claimIds initial.sound asks
    | claims claimIds => exact knows.reads_claims parses asks
    | clock => exact knows.quiet (.inl rfl)
    | deadLetters => exact knows.reads_deadLetters initial.held (deadShort rfl) asks
    | traces => exact knows.quiet (.inr rfl)
  moved {world after} initial moves := by
    cases moves with
    | passes now traces =>
        exact ⟨⟨initial.sound, initial.held⟩, fun _ => ⟨fun _ knows =>
          ⟨knows.inbox, knows.listed, knows.claims, knows.deadLetters⟩, fun _ => trivial⟩⟩
    | acts action admissible held forward =>
        refine ⟨⟨initial.sound.after roundTrips reads admissible, held⟩,
          fun _ => ⟨?_, fun _ => trivial⟩⟩
        intro call knows
        apply knows.moved forward
        intro notInInbox claimId inClaim
        exact inClaim_of_after roundTrips reads initial.sound admissible notInInbox inClaim

/-- A message that stays with the agent and is not put back into its inbox is found, whatever
else happens while the report is made. -/
theorem delivery_sees_held (roundTrips : RoundTrips cjson) (reads : ReadsMessages cjson)
    (parses : ParsesClaims cjson) {system : DeliverySystem}
    (reached : (deliveryProtocol host dateParse cjson agent messageId).Reachable (InWindow agent)
      (Initial cjson agent messageId) system) {call : DeliveryCall} {report : DeliveryDiagnostics}
    (running : system.calls id = some call) (ended : call.rest = .done report) :
    report.status ≠ .unknownHistory ∧ report.status ≠ .acknowledged ∧
      Tells messageId call.past report := by
  have programs : ∀ input : Unit,
      ((deliveryProtocol host dateParse cjson agent messageId).program input).Follows Asks
        (Tells messageId) [] := fun _ => follows_delivery
  have tells := reached.follows programs id call running
  rw [ended] at tells
  have knows := ((reached.asking programs).invariant
    (fun world initial => ⟨initial, fun _ => trivial⟩)
    (preserves_knows roundTrips reads parses)).own id call running
  refine ⟨?_, ?_, tells⟩
  · intro unknown
    rw [Program.follows_done, Tells, unknown] at tells
    exact knows.deadLetters tells.1 tells.2.1 tells.2.2
  · intro acknowledged
    rw [Program.follows_done, Tells, acknowledged] at tells
    exact knows.deadLetters tells.1 tells.2.1 tells.2.2

end Runs

/-! ## Reports of one state -/

section Still

variable {host : Host} {dateParse : String → Option Int} {cjson : Cjson} {agent messageId : String}
  {world : World} {past : Past}

/-- What a call was told is so. -/
def Told (agent : String) (world : World) (past : Past) : Prop :=
  ∀ exchange ∈ past, exchange.2 = (serve agent 0 exchange.1 world).1

theorem SawInbox.iff {seen : Bool} (told : Told agent world past)
    (short : (world.keyspace.items (.queue agent)).length ≤ window)
    (saw : SawInbox messageId seen past) :
    seen = true ↔ InInbox agent messageId world.keyspace := by
  rcases saw with ⟨payloads, read, isSeen⟩
  have same : payloads = (world.keyspace.items (.queue agent)).take window := told _ read
  rw [← isSeen, same]
  exact any_names_take short

theorem SawDeadLetters.iff {seen : Bool} (told : Told agent world past)
    (short : (world.keyspace.items (.dlq agent)).length ≤ window)
    (saw : SawDeadLetters messageId seen past) :
    seen = true ↔ InDeadLetters agent messageId world.keyspace := by
  rcases saw with ⟨payloads, read, isSeen⟩
  have same : payloads = (world.keyspace.items (.dlq agent)).take window := told _ read
  rw [← isSeen, same]
  exact any_names_take short

theorem Unclaimed.not_inClaim (told : Told agent world past)
    (sound : Sound cjson world.keyspace) (parses : ParsesClaims cjson)
    (unclaimed : Unclaimed messageId past) (claimId : String) :
    ¬InClaim cjson agent messageId world.keyspace claimId := by
  intro inClaim
  rcases unclaimed with ⟨claimIds, raws, listed, read, without⟩
  have same : claimIds = sortedMembers (world.keyspace.scores (.claimsIndex agent)) :=
    told _ listed
  have member : claimId ∈ claimIds := same ▸ listed_of_inClaim sound inClaim
  rcases read with ⟨rfl, -⟩ | read
  · cases member
  · have values : raws = claimIds.map fun claimId =>
        (world.keyspace.fields .claims).lookup claimId := told _ read
    have shown := without (claimId, (world.keyspace.fields .claims).lookup claimId) (by
      rw [values, ← List.map_prod_left_eq_zip]
      exact List.mem_map_of_mem member)
    rw [holds_of_inClaim parses inClaim] at shown
    cases shown

theorem SawClaim.inClaim (told : Told agent world past) (sound : Sound cjson world.keyspace)
    (parses : ParsesClaims cjson) {claimId : String} (saw : SawClaim messageId claimId past) :
    InClaim cjson agent messageId world.keyspace claimId := by
  rcases saw with ⟨claimIds, raws, listed, read, raw, member, isHeld⟩
  have same : claimIds = sortedMembers (world.keyspace.scores (.claimsIndex agent)) :=
    told _ listed
  have values : raws = claimIds.map fun claimId =>
      (world.keyspace.fields .claims).lookup claimId := told _ read
  rw [values, ← List.map_prod_left_eq_zip] at member
  rcases List.mem_map.mp member with ⟨id, isListed, isPair⟩
  cases isPair
  rw [same, mem_sortedMembers] at isListed
  rcases (sound.indexed claimId agent).mp isListed with ⟨claim, stored, rfl, isActor⟩
  rw [holds, record_of_stored parses stored, Claims.TaskClaim.field_tasks] at isHeld
  rcases List.any_eq_true.mp isHeld with ⟨task, member, isMessage⟩
  rcases List.mem_map.mp member with ⟨text, isTask, rfl⟩
  exact ⟨claim, stored, rfl, isActor, text, isTask, isMessage⟩

/-- A report places the message where it is. The dead letters count before a claim, and a claim
before the inbox. -/
structure Exact (cjson : Cjson) (agent messageId : String) (keyspace : Keyspace Key)
    (report : DeliveryDiagnostics) : Prop where
  deadLettered : report.status = .deadLettered ↔ InDeadLetters agent messageId keyspace
  claimed : report.status = .claimed ∨ report.status = .claimExpired ↔
    ¬InDeadLetters agent messageId keyspace ∧
      ∃ claimId, InClaim cjson agent messageId keyspace claimId
  queued : report.status = .queued ↔ ¬InDeadLetters agent messageId keyspace ∧
    (∀ claimId, ¬InClaim cjson agent messageId keyspace claimId) ∧
    InInbox agent messageId keyspace
  absent : report.status = .acknowledged ∨ report.status = .unknownHistory ↔
    ¬Held cjson agent messageId keyspace
  claimId : report.status = .claimed ∨ report.status = .claimExpired →
    ∃ claimId, report.claimId = some claimId ∧ InClaim cjson agent messageId keyspace claimId

theorem Tells.exact {report : DeliveryDiagnostics} (tells : Tells messageId past report)
    (told : Told agent world past) (sound : Sound cjson world.keyspace)
    (parses : ParsesClaims cjson)
    (inboxShort : (world.keyspace.items (.queue agent)).length ≤ window)
    (deadShort : (world.keyspace.items (.dlq agent)).length ≤ window) :
    Exact cjson agent messageId world.keyspace report := by
  have notDead : SawDeadLetters messageId false past →
      ¬InDeadLetters agent messageId world.keyspace :=
    fun saw inDead => Bool.false_ne_true ((saw.iff told deadShort).mpr inDead)
  have absent : SawInbox messageId false past → Unclaimed messageId past →
      SawDeadLetters messageId false past → ¬Held cjson agent messageId world.keyspace := by
    rintro saw unclaimed sawDead (inInbox | ⟨claimId, inClaim⟩ | inDead)
    · exact Bool.false_ne_true ((saw.iff told inboxShort).mpr inInbox)
    · exact unclaimed.not_inClaim told sound parses claimId inClaim
    · exact notDead sawDead inDead
  unfold Tells at tells
  cases isStatus : report.status with
  | deadLettered =>
      rw [isStatus] at tells
      have inDead := (SawDeadLetters.iff told deadShort tells).mp rfl
      constructor <;> simp [isStatus, inDead, Held]
  | queued =>
      rw [isStatus] at tells
      have inInbox := (tells.1.iff told inboxShort).mp rfl
      have without := tells.2.1.not_inClaim told sound parses
      constructor <;> simp [isStatus, inInbox, without, notDead tells.2.2, Held]
  | claimed =>
      rw [isStatus] at tells
      rcases tells with ⟨⟨claimId, isId, saw⟩, sawDead⟩
      have inClaim := saw.inClaim told sound parses
      have someClaim : ∃ claimId, InClaim cjson agent messageId world.keyspace claimId :=
        ⟨claimId, inClaim⟩
      constructor <;> simp [isStatus, isId, inClaim, someClaim, notDead sawDead, Held]
  | claimExpired =>
      rw [isStatus] at tells
      rcases tells with ⟨⟨claimId, isId, saw⟩, sawDead⟩
      have inClaim := saw.inClaim told sound parses
      have someClaim : ∃ claimId, InClaim cjson agent messageId world.keyspace claimId :=
        ⟨claimId, inClaim⟩
      constructor <;> simp [isStatus, isId, inClaim, someClaim, notDead sawDead, Held]
  | acknowledged =>
      rw [isStatus] at tells
      have notHeld := absent tells.1 tells.2.1 tells.2.2
      have nowhere := notHeld
      simp only [Held, not_or, not_exists] at nowhere
      constructor <;> simp [isStatus, notHeld, nowhere]
  | unknownHistory =>
      rw [isStatus] at tells
      have notHeld := absent tells.1 tells.2.1 tells.2.2
      have nowhere := notHeld
      simp only [Held, not_or, not_exists] at nowhere
      constructor <;> simp [isStatus, notHeld, nowhere]

/-- While nothing changes, a report places a message exactly, in every state that the queues
can reach and for every window that covers the lists. -/
theorem delivery_exact (host : Host) (dateParse : String → Option Int) (messageId : String)
    (roundTrips : RoundTrips cjson) (reads : ReadsMessages cjson) (parses : ParsesClaims cjson)
    (reached : Claims.RunsTo cjson (fun _ => True) Keyspace.empty world.keyspace)
    (inboxShort : (world.keyspace.items (.queue agent)).length ≤ window)
    (deadShort : (world.keyspace.items (.dlq agent)).length ≤ window) :
    Exact cjson agent messageId world.keyspace
      ((delivery host dateParse messageId).run (serve agent 0) world).1 := by
  have sound := reached.sound roundTrips reads Sound.empty
  have follows : (delivery host dateParse messageId).Follows Asks (Tells messageId) [] :=
    follows_delivery
  rcases follows.run_still (serve agent 0) (serve_world agent 0 · world)
      (fun _ member => absurd member List.not_mem_nil) with ⟨past, tells, told⟩
  exact tells.exact told sound parses inboxShort deadShort

end Still

theorem plain_parsesClaims : ParsesClaims Cjson.plain := by
  intro claim _
  rw [Cjson.plain_encode, Json.parse_render]

def greetedWorld : World := ⟨Claims.greetedInbox, 0, []⟩

theorem greeting_reported : InInbox "b" "m" greetedWorld.keyspace ∧
    Exact Cjson.plain "b" "m" greetedWorld.keyspace
      ((delivery Diagnostics.plainHost (fun _ => none) "m").run (serve "b" 0) greetedWorld).1 := by
  have same : greetedWorld.keyspace = Claims.greetedInbox := by dsimp only [greetedWorld]
  have reached : Claims.RunsTo Cjson.plain (fun _ => True) Keyspace.empty
      greetedWorld.keyspace := by
    rw [same]
    exact .step .refl (.push none Claims.greeting) trivial trivial
  have inbox : greetedWorld.keyspace.items (.queue "b") = [Claims.greeting.serialized] := by
    rw [same, Claims.items_greetedInbox]
  have dead : greetedWorld.keyspace.items (.dlq "b") = [] := by
    rw [same, Claims.greetedInbox_same.items_eq rfl]
    rfl
  have inboxShort : (greetedWorld.keyspace.items (.queue "b")).length ≤ window := by
    rw [inbox]
    decide
  have deadShort : (greetedWorld.keyspace.items (.dlq "b")).length ≤ window := by
    rw [dead]
    decide
  refine ⟨⟨Claims.greeting.serialized, inbox ▸ List.mem_cons_self, by decide +kernel⟩, ?_⟩
  exact delivery_exact Diagnostics.plainHost (fun _ => none) "m" Claims.plain_roundTrips
    Claims.plain_readsMessages plain_parsesClaims reached inboxShort deadShort

/-! ## A message that is claimed meanwhile -/

abbrev noteProtocol := deliveryProtocol Diagnostics.plainHost (fun _ => none) Cjson.plain "b" "m"

def note : String := "\x7b\"id\":\"m\"\x7d"

def noteClaim : BatchClaimArgs where
  claimId := "c"
  actorId := "b"
  sessionId := "s"
  claimedAt := ""
  expiresAt := ""
  expiresAtMs := 1
  maxBatch := 10
  maxConcurrent := 1

def noted : Keyspace Key := Claims.pushInbox Keyspace.empty "b" note

def claimed : Keyspace Key := Action.after Cjson.plain noted (.batchClaim noteClaim)

/-- The inbox was read. -/
def lookedSystem : DeliverySystem :=
  noteProtocol.advance (noteProtocol.start ⟨⟨noted, 0, []⟩, fun _ => none⟩ 0 ()) 0

/-- The message was claimed since. -/
def claimedSystem : DeliverySystem := { lookedSystem with world := ⟨claimed, 0, []⟩ }

def reportedSystem : DeliverySystem :=
  (fun before => noteProtocol.advance before 0)^[5] claimedSystem

/-- What the report of a call is, when it has ended. -/
def outcome (system : DeliverySystem) (id : Nat) : Option DeliveryDiagnostics :=
  match system.calls id with
  | some ⟨_, _, .done report⟩ => some report
  | _ => none

theorem ended_of_outcome {system : DeliverySystem} {id : Nat} {report : DeliveryDiagnostics}
    (isOutcome : outcome system id = some report) :
    ∃ call, system.calls id = some call ∧ call.rest = .done report := by
  unfold outcome at isOutcome
  split at isOutcome
  · next input past ended running =>
      cases isOutcome
      exact ⟨_, running, rfl⟩
  · cases isOutcome

theorem inInbox_noted : InInbox "b" "m" noted := ⟨note, by decide +kernel, by decide +kernel⟩

theorem inClaim_claimed : InClaim Cjson.plain "b" "m" claimed "c" := by
  have stored : Stored Cjson.plain claimed (noteClaim.claim [note]) :=
    ⟨List.cons_ne_nil _ _, by decide +kernel⟩
  exact ⟨_, stored, rfl, rfl, _, List.mem_cons_self, by decide +kernel⟩

theorem moves_claimed : Moves Cjson.plain "b" "m" ⟨noted, 0, []⟩ ⟨claimed, 0, []⟩ := by
  have held : Held Cjson.plain "b" "m" claimed := .inr (.inl ⟨"c", inClaim_claimed⟩)
  unfold claimed at held ⊢
  apply Moves.acts (.batchClaim noteClaim) ?_ held fun _ => inInbox_noted
  exact ⟨by decide, by decide +kernel⟩

theorem reportedSystem_reachable :
    noteProtocol.Reachable (InWindow "b") (Initial Cjson.plain "b" "m") reportedSystem := by
  have sound : Sound Cjson.plain noted := Sound.empty.pushInbox _ _
  have begun : noteProtocol.Reachable (InWindow "b") (Initial Cjson.plain "b" "m")
      ⟨⟨noted, 0, []⟩, fun _ => none⟩ := Protocol.Reachable.init ⟨sound, .inl inInbox_noted⟩
  have inWindow : ∀ call command, InWindow "b" ⟨noted, 0, []⟩ 0 call command :=
    fun _ _ => ⟨fun _ => by decide +kernel, fun _ => by decide +kernel⟩
  have looked : noteProtocol.Reachable (InWindow "b") (Initial Cjson.plain "b" "m") lookedSystem :=
    (begun.start 0 () rfl trivial).advance 0 fun call command _ _ _ => inWindow call command
  have moved : noteProtocol.Reachable (InWindow "b") (Initial Cjson.plain "b" "m") claimedSystem :=
    looked.moved moves_claimed
  apply moved.advances_of 0 5
  intro earlier less call command _ _
  have short : ∀ earlier < 5, (((fun before => noteProtocol.advance before 0)^[earlier]
      claimedSystem).world.keyspace.items (.queue "b")).length ≤ window ∧
      (((fun before => noteProtocol.advance before 0)^[earlier]
        claimedSystem).world.keyspace.items (.dlq "b")).length ≤ window := by decide +kernel
  exact ⟨fun _ => (short earlier less).1, fun _ => (short earlier less).2⟩

/-- The claim that took the message meanwhile is reported. -/
theorem claimed_meanwhile : ∃ past, Tells "m" past ⟨.claimed, some "c"⟩ := by
  have isOutcome : outcome reportedSystem 0 = some ⟨.claimed, some "c"⟩ := by decide +kernel
  rcases ended_of_outcome isOutcome with ⟨call, running, ended⟩
  have seen := delivery_sees_held Claims.plain_roundTrips Claims.plain_readsMessages
    plain_parsesClaims reportedSystem_reachable running ended
  exact ⟨call.past, seen.2.2⟩

end GptQueue.Delivery
