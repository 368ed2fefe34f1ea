import GptQueue.Claims.BatchClaim

/-! # The task-claim store

`TaskClaimStore.claim` runs the recovery script and then the batch-claim script.
Each script is atomic, but neither rolls back what it wrote before a raise. -/

namespace GptQueue.Claims

open Redis

/-! ## Results -/

inductive StoreErrorCode
  | invalidClaimRequest
  | concurrencyLimitReached
  | storeCorrupt
deriving DecidableEq, Repr

structure StoreError where
  code : StoreErrorCode
  message : String
deriving DecidableEq, Repr

/-- `ok: true` with the claim (or `null`), or `ok: false`. A rejected promise is a
raise of the script. -/
inductive ClaimResult
  | ok (claim : Option TaskClaim)
  | failed (error : StoreError)
deriving DecidableEq, Repr

inductive RecoverResult
  | ok (recovered deadlettered : Nat)
  | failed (error : StoreError)
deriving DecidableEq, Repr

/-- What the store uses of the JavaScript host: `Date.parse`, with `none` for
`NaN`, and the hex digest of SHA-256. -/
structure Host where
  dateParse : String → Option Int
  sha256 : String → String

/-- Numbers are rationals: the store accepts integers only, and the values it
would refuse as `NaN` or infinite are refused like fractions. -/
structure ClaimInput where
  actorId : String
  sessionId : String
  maxBatch : ℚ
  ttlSeconds : ℚ
  maxConcurrentClaims : Option ℚ
  now : String

/-- The white space and line terminators that `trim` removes. -/
def isSpace (char : Char) : Bool :=
  let code := char.toNat
  (9 ≤ code && code ≤ 13) || code == 0x20 || code == 0xA0 || code == 0x1680 ||
    (0x2000 ≤ code && code ≤ 0x200A) || code == 0x2028 || code == 0x2029 ||
    code == 0x202F || code == 0x205F || code == 0x3000 || code == 0xFEFF

/-- `text.trim().length === 0`. -/
def blank (text : String) : Bool := text.toList.all isSpace

def isIntegerIn (low high number : ℚ) : Bool :=
  number.isInt && low ≤ number && number ≤ high

def ClaimInput.valid (input : ClaimInput) : Bool :=
  !blank input.actorId && !blank input.sessionId &&
    isIntegerIn 1 16 input.maxBatch && isIntegerIn 1 3600 input.ttlSeconds &&
    input.maxConcurrentClaims.all fun limit => limit.isInt && 1 ≤ limit

/-- `max_batch` of a valid input. -/
def ClaimInput.batch (input : ClaimInput) : Nat := input.maxBatch.num.toNat

/-- `max_concurrent_claims ?? 0`. -/
def ClaimInput.ceiling (input : ClaimInput) : Nat :=
  input.maxConcurrentClaims.elim 0 fun limit => limit.num.toNat

/-! ## Reading a stored claim -/

def stringFields : List String := ["claim_id", "actor_id", "session_id", "claimed_at", "expires_at"]

/-- `parseTaskClaim`. -/
def parseTaskClaim (raw : String) : Option TaskClaim := do
  let record ← Json.parse raw
  let claimId ← Json.asString (record.field "claim_id")
  let actorId ← Json.asString (record.field "actor_id")
  let sessionId ← Json.asString (record.field "session_id")
  let claimedAt ← Json.asString (record.field "claimed_at")
  let expiresAt ← Json.asString (record.field "expires_at")
  match record.field "tasks" with
  | some (.array items) =>
      let tasks ← items.mapM fun item => Json.asString (some item)
      some { claimId, actorId, sessionId, claimedAt, expiresAt, tasks }
  | _ => none

/-- `firstNonStringField`. -/
def firstNonStringField (raw : String) (fields : List String) : Option String :=
  match Json.parse raw with
  | none => some "JSON"
  | some (.object members) =>
      fields.find? fun field => (Json.asString ((Json.object members).field field)).isNone
  | some _ => some "(root)"

/-- Which part of a stored claim `parseTaskClaim` rejected. -/
def claimFailure (raw : String) : String :=
  (firstNonStringField raw stringFields).getD "tasks"

/-- `describeStored`: the length and a short hash of a stored value, never its
bytes. -/
def describeStored (host : Host) (raw failing : String) : String :=
  String.ofList (Decimal.numeral raw.utf8ByteSize) ++ " bytes, sha256:" ++
    String.ofList ((host.sha256 raw).toList.take 12) ++ ", failing: " ++ failing

/-! ## Operations -/

def Role.name : Role → String
  | .inbox => "inbox"
  | .dlq => "dlq"
  | .counter => "counter"

def recoverExpired (cjson : Cjson) (host : Host) (actorId now : String) :
    Script Key RecoverResult := do
  match ← recover cjson (recoverExpiredArgs actorId (host.dateParse now)) with
  | .refused role =>
      pure (.failed
        { code := .storeCorrupt
          message := "cannot recover expired claims for actor '" ++ actorId ++ "': its " ++
            role.name ++ " key holds the wrong type; the claims are kept" })
  | .moved recovered deadlettered => pure (.ok recovered deadlettered)

/-- The range of a `Date`; `toISOString` throws outside it. -/
def maxDate : Int := 8640000000000000

def batchClaimArgs (input : ClaimInput) (claimId : String) (expiresAtMs : Int) :
    BatchClaimArgs where
  claimId := claimId
  actorId := input.actorId
  sessionId := input.sessionId
  claimedAt := input.now
  expiresAt := IsoDate.toISOString expiresAtMs
  expiresAtMs := expiresAtMs
  maxBatch := input.batch
  maxConcurrent := input.ceiling

/-- How the store answers for a reply of the batch-claim script. -/
def claimAnswer (host : Host) (input : ClaimInput) (claimId : String) :
    BatchClaimReply → ClaimResult
  | .empty => .ok none
  | .ceilingReached =>
      let limit := String.ofList (Decimal.numeral input.ceiling)
      .failed
        { code := .concurrencyLimitReached
          message := "actor '" ++ input.actorId ++ "' already has " ++ limit ++
            " outstanding claim(s); refusing to exceed max_concurrent_claims of " ++ limit }
  | .claimed stored =>
      match parseTaskClaim stored with
      | some claim => .ok (some claim)
      | none =>
          .failed
            { code := .storeCorrupt
              message := "fresh claim " ++ claimId ++ " failed to round-trip (" ++
                describeStored host stored (claimFailure stored) ++
                "); refusing to operate on it" }

/-- `TaskClaimStore.claim`, where `claimId` is the random id it draws. -/
def claim (cjson : Cjson) (host : Host) (claimId : String) (input : ClaimInput) :
    Script Key ClaimResult :=
  if input.valid = false then
    pure (.failed
      { code := .invalidClaimRequest
        message := "claim requires a non-empty actor_id and session_id, max_batch an integer in 1..16, ttl_seconds an integer in 1..3600, and max_concurrent_claims (when provided) an integer of at least 1" })
  else do
    match ← recoverExpired cjson host input.actorId input.now with
    | .failed error => pure (.failed error)
    | .ok _ _ =>
        match host.dateParse input.now with
        | none => Script.raise (.reply "Invalid time value")
        | some now =>
            let expiresAtMs := now + input.ttlSeconds.num * 1000
            if expiresAtMs.natAbs ≤ maxDate.natAbs then do
              let reply ← batchClaim cjson (batchClaimArgs input claimId expiresAtMs)
              pure (claimAnswer host input claimId reply)
            else
              Script.raise (.reply "Invalid time value")

/-! ## Recovery keeps the inbox

Whatever recovery does, and also when it raises half-way, it only appends to the
inbox. -/

/-- The inbox of `actorId` has at most been appended to. -/
def InboxGrows (actorId : String) (before after : Keyspace Key) : Prop :=
  before.items (.queue actorId) <+: after.items (.queue actorId)

theorem InboxGrows.refl (actorId : String) (keyspace : Keyspace Key) :
    InboxGrows actorId keyspace keyspace :=
  List.prefix_rfl

theorem InboxGrows.trans {actorId : String} {first second third : Keyspace Key}
    (left : InboxGrows actorId first second) (right : InboxGrows actorId second third) :
    InboxGrows actorId first third :=
  List.IsPrefix.trans left right

section InboxGrows

variable {actorId : String}

theorem inboxGrows_of_touches {α : Type} {script : Script Key α} {region : Key → Prop}
    (touches : Script.Touches region script) (outside : ¬region (.queue actorId)) :
    Script.Within (InboxGrows actorId) script := by
  refine Script.Within.mono touches fun before after same => ?_
  rw [InboxGrows, Keyspace.items, Keyspace.items, same _ outside]

theorem inboxGrows_rpush (added : List String) :
    Script.Within (InboxGrows actorId) (rpush (.queue actorId) added) := by
  intro keyspace
  simp only [rpush, typed]
  split
  · simp [InboxGrows, Keyspace.items]
  · exact InboxGrows.refl _ _

theorem inboxGrows_argument (cjson : Cjson) (value : Json) :
    Script.Within (InboxGrows actorId) (cjson.argument value : Script Key String) := by
  unfold Cjson.argument
  split
  · exact Script.Within.pure (InboxGrows.refl actorId) _
  · exact Script.Within.raise (InboxGrows.refl actorId) _

theorem inboxGrows_moveItem (cjson : Cjson) (args : RecoverArgs) {item : Item}
    (counter : item.counterKey.all Key.isCounter = true) :
    Script.Within (InboxGrows args.actorId) (moveItem cjson args item) := by
  have refl := InboxGrows.refl args.actorId
  have requeue : Script.Within (InboxGrows args.actorId) (do
      let task ← cjson.argument item.task
      rpush (.queue args.actorId) [task]
      pure true : Script Key Bool) :=
    (inboxGrows_argument cjson item.task).bind InboxGrows.trans fun task =>
      (inboxGrows_rpush _).bind InboxGrows.trans fun _ => Script.Within.pure refl true
  unfold moveItem
  cases counterEq : item.counterKey with
  | none => exact requeue
  | some counterKey =>
      rw [counterEq, Option.all_some] at counter
      -- everything but the push to the inbox stays on the counter and the queue of dead letters
      let region : Key → Prop := fun key => key = .dlq args.actorId ∨ key.isCounter = true
      have dlq : region (.dlq args.actorId) := Or.inl rfl
      have member : region counterKey := Or.inr counter
      have outside : ¬region (.queue args.actorId) := by simp [region, Key.isCounter]
      refine (inboxGrows_of_touches (touches_incr member) outside).bind InboxGrows.trans
        fun count => (Script.Within.when refl (inboxGrows_of_touches
          (touches_expire _ : Script.Touches region _) outside)).bind InboxGrows.trans fun _ => ?_
      split
      · exact (inboxGrows_argument cjson item.task).bind InboxGrows.trans fun task =>
          inboxGrows_of_touches ((touches_lpush dlq _).bind fun _ =>
            (touches_ltrim dlq _).bind fun _ => (touches_del member).bind fun _ =>
              Script.Touches.pure _) outside
      · exact requeue

theorem inboxGrows_moveItems (cjson : Cjson) (args : RecoverArgs) {items : List Item}
    (counters : ∀ item ∈ items, item.counterKey.all Key.isCounter = true) :
    Script.Within (InboxGrows args.actorId) (moveItems cjson args items) := by
  induction items with
  | nil => exact Script.Within.pure (InboxGrows.refl _) _
  | cons item items induction =>
      exact (inboxGrows_moveItem cjson args (counters item List.mem_cons_self)).bind
        InboxGrows.trans fun _ =>
          (induction fun other member => counters other (List.mem_cons_of_mem _ member)).bind
            InboxGrows.trans fun _ => Script.Within.pure (InboxGrows.refl _) _

theorem inboxGrows_moveEntries (cjson : Cjson) (args : RecoverArgs) {entries : List Entry}
    (counters : ∀ entry ∈ entries, ∀ item ∈ entry.tasks,
      item.counterKey.all Key.isCounter = true) :
    Script.Within (InboxGrows args.actorId) (moveEntries cjson args entries) := by
  induction entries with
  | nil => exact Script.Within.pure (InboxGrows.refl _) _
  | cons entry entries induction =>
      let region : Key → Prop := fun key => key = .claims ∨ key = .claimsIndex args.actorId
      have claims : region .claims := Or.inl rfl
      have index : region (.claimsIndex args.actorId) := Or.inr rfl
      have outside : ¬region (.queue args.actorId) := by simp [region]
      exact (inboxGrows_of_touches (touches_hdel claims _) outside).bind InboxGrows.trans
        fun _ => (inboxGrows_of_touches (touches_zrem index _) outside).bind InboxGrows.trans
        fun _ => (inboxGrows_moveItems cjson args (counters entry List.mem_cons_self)).bind
          InboxGrows.trans fun _ =>
            (induction fun other member => counters other (List.mem_cons_of_mem _ member)).bind
              InboxGrows.trans fun _ => Script.Within.pure (InboxGrows.refl _) _

theorem inboxGrows_recover (cjson : Cjson) (args : RecoverArgs) :
    Script.Within (InboxGrows args.actorId) (recover cjson args) := by
  intro keyspace
  by_cases passes : PassesChecks cjson args keyspace
  · have moved : Script.Within (InboxGrows args.actorId)
        (moveEntries cjson args (entriesOf cjson args keyspace)) := by
      refine inboxGrows_moveEntries cjson args fun entry member => ?_
      rcases List.mem_map.mp member with ⟨id, -, rfl⟩
      exact isCounter_of_storedItems cjson keyspace id
    have whole : Script.Within (InboxGrows args.actorId) (do
        let counts ← moveEntries cjson args (entriesOf cjson args keyspace)
        pure (.moved counts.1 counts.2) : Script Key RecoverReply) :=
      moved.bind InboxGrows.trans fun _ => Script.Within.pure (InboxGrows.refl _) _
    rw [run_recover_of_passes passes]
    exact whole keyspace
  · rw [run_recover_unchanged passes]
    exact InboxGrows.refl _ _

end InboxGrows

/-! ## Failing claims -/

/-- A payload is in the actor's inbox or dead-letter queue, or among the tasks of
a claim that is stored and indexed for the actor. -/
def Kept (cjson : Cjson) (actorId : String) (keyspace : Keyspace Key) (payload : String) :
    Prop :=
  payload ∈ keyspace.items (.queue actorId) ∨ payload ∈ keyspace.items (.dlq actorId) ∨
    ∃ id raw, (keyspace.fields .claims).lookup id = some raw ∧
      id ∈ keyspace.scores (.claimsIndex actorId) ∧ payload ∈ claimTasks cjson raw

/-- A claim call rejects or returns `ok: false`. -/
def Failed (result : Except Fault ClaimResult) : Prop := ∀ claim, result ≠ .ok (.ok claim)

/-- The keyspaces on which a valid claim call reaches the pop with a
`gptq:claims` that no claim can be stored in: recovery looks at that key only
when a claim has expired. -/
structure PopsUnstorable (host : Host) (input : ClaimInput) (keyspace : Keyspace Key) :
    Prop where
  now : ∃ now, host.dateParse input.now = some now ∧
    (now + input.ttlSeconds.num * 1000).natAbs ≤ maxDate.natAbs
  claims : keyspace.admits .claims .hash = false
  index : keyspace.admits (.claimsIndex input.actorId) .zset = true
  expired : expiredIds (recoverExpiredArgs input.actorId (host.dateParse input.now)) keyspace = []
  ceiling : input.ceiling = 0 ∨
    (keyspace.scores (.claimsIndex input.actorId)).entries.length < input.ceiling
  inbox : keyspace.admits (.queue input.actorId) .list = true

theorem fields_of_refused {keyspace : Keyspace Key} {key : Key}
    (refused : keyspace.admits key .hash = false) : keyspace.fields key = ∅ := by
  unfold Keyspace.admits at refused
  unfold Keyspace.fields
  cases held : keyspace.value key with
  | none => rfl
  | some value =>
      cases value with
      | hash fields => simp [held, Value.kind] at refused
      | _ => rfl

theorem batch_pos {input : ClaimInput} (valid : input.valid = true) : 0 < input.batch := by
  simp only [ClaimInput.valid, isIntegerIn, Bool.and_eq_true, decide_eq_true_eq] at valid
  rcases valid with ⟨⟨⟨-, ⟨⟨-, low⟩, -⟩⟩, -⟩, -⟩
  have positive : 0 < input.maxBatch.num := Rat.num_pos.mpr (by linarith)
  unfold ClaimInput.batch
  omega

/-- A recovery that returned `ok` leaves a keyspace whose index is a sorted set,
and changed something only if `gptq:claims` was usable. -/
theorem recover_moved {cjson : Cjson} {args : RecoverArgs} {before after : Keyspace Key}
    {recovered deadlettered : Nat} (capped : args.recoverCap < 10 ^ 18)
    (moved : (recover cjson args).run before = (.ok (.moved recovered deadlettered), after)) :
    after.admits (.claimsIndex args.actorId) .zset = true ∧
      (after.admits .claims .hash = true ∨ after = before ∧ Idle args before) := by
  by_cases passes : PassesChecks cjson args before
  · rw [run_recover_of_passes passes] at moved
    rcases Script.of_run_bind_ok moved with ⟨counts, middle, ran, returned⟩
    obtain rfl : middle = after := congrArg Prod.snd returned
    obtain ⟨counts', after', ran', recovered⟩ := run_moveEntries cjson capped
      (passes.accepted fun id member => sendable_of_moveEntries cjson ran
        ⟨id, storedItems cjson before id⟩ (List.mem_map_of_mem member)) passes.ready
    obtain rfl : middle = after' := congrArg Prod.snd (ran.symm.trans ran')
    have ready := recovered.ready passes.ready
    exact ⟨ready.index, Or.inl ready.claims⟩
  · have unchanged := run_recover_unchanged passes
    rw [moved] at unchanged
    by_cases idle : Idle args before
    · obtain rfl : after = before := unchanged
      exact ⟨idle.index, Or.inr ⟨rfl, idle⟩⟩
    · exact absurd (by rw [moved]) ((run_recover_of_refused passes idle).2 recovered deadlettered)

/-- With a usable `gptq:claims`, whatever batch-claim does keeps the inbox. -/
theorem batchClaim_keeps {cjson : Cjson} (roundTrips : RoundTrips cjson)
    {args : BatchClaimArgs} {keyspace : Keyspace Key} (positive : 0 < args.maxBatch)
    (index : keyspace.admits (.claimsIndex args.actorId) .zset = true)
    (claims : keyspace.admits .claims .hash = true) {payload : String}
    (queued : payload ∈ keyspace.items (.queue args.actorId)) :
    Kept cjson args.actorId ((batchClaim cjson args).run keyspace).2 payload := by
  by_cases reached : ceilingReached args keyspace = true
  · rw [run_batchClaim_ceiling index reached]
    exact Or.inl queued
  · have below : ceilingReached args keyspace = false := by simpa using reached
    by_cases isList : keyspace.admits (.queue args.actorId) .list = true
    · have nonempty := List.ne_nil_of_mem queued
      rw [run_batchClaim_claimed index below positive isList nonempty claims]
      rw [← List.take_append_drop args.maxBatch (keyspace.items (.queue args.actorId)),
        List.mem_append] at queued
      rcases queued with taken | left
      · refine Or.inr (Or.inr ⟨args.claimId, cjson.encode (args.claim
          ((keyspace.items (.queue args.actorId)).take args.maxBatch)).toJson, ?_, ?_, ?_⟩)
        · rw [fields_putClaim]
          exact AList.lookup_insert _
        · simp [scores_putClaim, BatchClaimArgs.claim, AList.mem_insert]
        · rw [claimTasks_encode roundTrips (List.ne_nil_of_mem taken)]
          exact taken
      · refine Or.inl ?_
        rw [Keyspace.items, putClaim_value_of_ne _ _ _ _ (by simp) (by simp), ← Keyspace.items,
          items_popped]
        exact left
    · rw [run_batchClaim_refused index below positive (by simpa using isList)]
      exact Or.inl queued

theorem Kept.of_inboxGrows {cjson : Cjson} {actorId : String} {before after : Keyspace Key}
    (grows : InboxGrows actorId before after) {payload : String}
    (queued : payload ∈ before.items (.queue actorId)) : Kept cjson actorId after payload :=
  Or.inl (grows.subset queued)

section Claim

variable {cjson : Cjson} {host : Host} {claimId : String} {input : ClaimInput}
  {keyspace : Keyspace Key}

/-- A claim call ends with its recovery, or goes on to the batch claim. -/
theorem run_claim_cases (valid : input.valid = true) :
    (InboxGrows input.actorId keyspace ((claim cjson host claimId input).run keyspace).2) ∨
    ∃ now middle recovered deadlettered, host.dateParse input.now = some now ∧
      (now + input.ttlSeconds.num * 1000).natAbs ≤ maxDate.natAbs ∧
      (recover cjson (recoverExpiredArgs input.actorId (some now))).run keyspace =
        (.ok (.moved recovered deadlettered), middle) ∧
      (claim cjson host claimId input).run keyspace =
        (do
          let reply ← batchClaim cjson (batchClaimArgs input claimId
            (now + input.ttlSeconds.num * 1000))
          pure (claimAnswer host input claimId reply) : Script Key ClaimResult).run middle := by
  have grows := inboxGrows_recover cjson (recoverExpiredArgs input.actorId
    (host.dateParse input.now)) keyspace
  have isValid : ¬input.valid = false := by simp [valid]
  rw [claim, if_neg isValid]
  rcases recovery : (recover cjson (recoverExpiredArgs input.actorId
      (host.dateParse input.now))).run keyspace with ⟨fault | reply, middle⟩
  · left
    rw [recovery] at grows
    simp only [recoverExpired, Script.run_bind, recovery]
    exact grows
  · rw [recovery] at grows
    cases reply with
    | refused role =>
        left
        simp only [recoverExpired, Script.run_bind, recovery, Script.run_pure]
        exact grows
    | moved recovered deadlettered =>
        simp only [recoverExpired, Script.run_bind, recovery, Script.run_pure]
        cases now : host.dateParse input.now with
        | none => exact Or.inl grows
        | some instant =>
            by_cases inRange : (instant + input.ttlSeconds.num * 1000).natAbs ≤ maxDate.natAbs
            · right
              rw [now] at recovery
              refine ⟨instant, middle, recovered, deadlettered, rfl, inRange, recovery, ?_⟩
              simp only [inRange, if_true, Script.run_bind, Script.run_pure]
            · left
              simp only [inRange, if_false, Script.run_raise]
              exact grows

theorem ceilingReached_iff {expiresAtMs : Int} :
    ceilingReached (batchClaimArgs input claimId expiresAtMs) keyspace = true ↔
      input.ceiling ≠ 0 ∧
        input.ceiling ≤ (keyspace.scores (.claimsIndex input.actorId)).entries.length := by
  simp only [ceilingReached, Bool.and_eq_true, decide_eq_true_eq]
  rfl

/-- On a keyspace of `PopsUnstorable` with a message in the inbox, the popped
messages are gone when the call rejects. -/
theorem run_claim_of_unstorable (valid : input.valid = true)
    (unstorable : PopsUnstorable host input keyspace)
    (nonempty : keyspace.items (.queue input.actorId) ≠ []) :
    (claim cjson host claimId input).run keyspace =
      (.error .wrongType, popped keyspace (.queue input.actorId) input.batch) := by
  rcases unstorable.now with ⟨now, parsed, inRange⟩
  have idle : Idle (recoverExpiredArgs input.actorId (host.dateParse input.now)) keyspace :=
    ⟨by rw [parsed]; rfl, unstorable.index, unstorable.expired⟩
  have isValid : ¬input.valid = false := by simp [valid]
  have below : ceilingReached (batchClaimArgs input claimId
      (now + input.ttlSeconds.num * 1000)) keyspace = false := by
    rw [Bool.eq_false_iff, ne_eq, ceilingReached_iff]
    rcases unstorable.ceiling with zero | above
    · exact fun full => full.1 zero
    · exact fun full => absurd full.2 (Nat.not_le.mpr above)
  have lost := @run_batchClaim_lost cjson (batchClaimArgs input claimId
    (now + input.ttlSeconds.num * 1000)) keyspace unstorable.index below (batch_pos valid)
    unstorable.inbox nonempty unstorable.claims
  rw [parsed] at idle
  rw [claim, if_neg isValid]
  simp only [recoverExpired, Script.run_bind, run_recover_of_idle idle, Script.run_pure, parsed,
    inRange, if_true, lost]
  rfl

/-- A failing claim call keeps every payload of the inbox exactly when it does
not pop messages that it cannot store, unless each of these is still queued
behind them or in the dead-letter queue. -/
theorem claim_keeps_inbox_iff (roundTrips : RoundTrips cjson) (valid : input.valid = true) :
    (Failed ((claim cjson host claimId input).run keyspace).1 →
      ∀ payload ∈ keyspace.items (.queue input.actorId),
        Kept cjson input.actorId ((claim cjson host claimId input).run keyspace).2 payload) ↔
    (PopsUnstorable host input keyspace →
      ∀ payload ∈ (keyspace.items (.queue input.actorId)).take input.batch,
        payload ∈ (keyspace.items (.queue input.actorId)).drop input.batch ∨
        payload ∈ keyspace.items (.dlq input.actorId)) := by
  constructor
  · intro keeps unstorable payload taken
    have queued := List.mem_of_mem_take taken
    have lost := @run_claim_of_unstorable cjson host claimId input keyspace valid unstorable
      (List.ne_nil_of_mem queued)
    rw [lost] at keeps
    rcases keeps (by simp [Failed]) payload queued with left | dead | ⟨id, raw, found, -⟩
    · rw [items_popped] at left
      exact Or.inl left
    · rw [Keyspace.items, popped_value_of_ne (by simp)] at dead
      exact Or.inr dead
    · -- a key of another type has no fields
      rw [Keyspace.fields, popped_value_of_ne (by simp), ← Keyspace.fields,
        fields_of_refused unstorable.claims] at found
      simp at found
  · intro condition failed payload queued
    rcases @run_claim_cases cjson host claimId input keyspace valid with
      grows | ⟨now, middle, recovered, deadlettered, parsed, inRange, recovery, continues⟩
    · exact Kept.of_inboxGrows grows queued
    · have grows := inboxGrows_recover cjson (recoverExpiredArgs input.actorId (some now)) keyspace
      rcases recover_moved (recoverExpiredArgs_capped _ _) recovery with ⟨index, usable⟩
      rw [recovery] at grows
      have sameState : ((claim cjson host claimId input).run keyspace).2 =
          ((batchClaim cjson (batchClaimArgs input claimId
            (now + input.ttlSeconds.num * 1000))).run middle).2 := by
        rw [continues, Script.run_bind]
        rcases (batchClaim cjson (batchClaimArgs input claimId
          (now + input.ttlSeconds.num * 1000))).run middle with ⟨fault | reply, after⟩ <;> rfl
      rw [sameState]
      by_cases claims : middle.admits .claims .hash = true
      · exact batchClaim_keeps roundTrips (batch_pos valid) index claims (grows.subset queued)
      · rcases usable.resolve_left claims with ⟨rfl, idle⟩
        by_cases reached : ceilingReached (batchClaimArgs input claimId
            (now + input.ttlSeconds.num * 1000)) middle = true
        · rw [run_batchClaim_ceiling index reached]
          exact Or.inl queued
        have below := Bool.eq_false_iff.mpr reached
        by_cases inbox : middle.admits (.queue input.actorId) .list = true
        · rw [run_batchClaim_lost index below (batch_pos valid) inbox
            (List.ne_nil_of_mem queued) (by simpa using claims)]
          have unstorable : PopsUnstorable host input middle :=
            { now := ⟨now, parsed, inRange⟩
              claims := by simpa using claims
              index := index
              expired := by rw [parsed]; exact idle.expired
              ceiling := by
                rw [ceilingReached_iff] at reached
                omega
              inbox := inbox }
          rw [← List.take_append_drop input.batch (middle.items (.queue input.actorId)),
            List.mem_append] at queued
          show Kept cjson input.actorId (popped middle (.queue input.actorId) input.batch) payload
          rcases queued.elim (condition unstorable payload) Or.inl with left | dead
          · refine Or.inl ?_
            rw [items_popped]
            exact left
          · refine Or.inr (Or.inl ?_)
            rw [Keyspace.items, popped_value_of_ne (by simp)]
            exact dead
        · rw [run_batchClaim_refused index below (batch_pos valid) (Bool.eq_false_iff.mpr inbox)]
          exact Or.inl queued

end Claim

/-! An inbox of one message beside a `gptq:claims` that holds a string. -/

def plainHost : Host where
  dateParse := IsoDate.dateParse
  sha256 _ := ""

def oneTask : ClaimInput where
  actorId := "a"
  sessionId := "s"
  maxBatch := 1
  ttlSeconds := 60
  maxConcurrentClaims := none
  now := IsoDate.toISOString 0

def brokenClaims : Keyspace Key :=
  (Keyspace.empty.store (.queue "a") (some (.list ["m"]))).store .claims (some (.string "x"))

theorem brokenClaims_unstorable : PopsUnstorable plainHost oneTask brokenClaims where
  now := ⟨0, IsoDate.dateParse_toISOString (by decide), by decide⟩
  claims := by simp [brokenClaims, Keyspace.admits, Value.kind]
  index := by simp [brokenClaims, Keyspace.admits]
  expired := by
    have parsed : plainHost.dateParse oneTask.now = some 0 :=
      IsoDate.dateParse_toISOString (by decide)
    rw [parsed]
    decide
  ceiling := Or.inl rfl
  inbox := by simp [brokenClaims, Keyspace.admits, oneTask, Value.kind]

/-- The inbox with one message. -/
def greeted : Keyspace Key := Keyspace.empty.store (.queue "a") (some (.list ["m"]))

theorem claim_keeps_queued_message :
    ¬PopsUnstorable plainHost oneTask greeted ∧
      ((Failed ((claim Cjson.plain plainHost "c" oneTask).run greeted).1 →
        ∀ payload ∈ greeted.items (.queue oneTask.actorId),
          Kept Cjson.plain oneTask.actorId
            ((claim Cjson.plain plainHost "c" oneTask).run greeted).2 payload) ↔
      (PopsUnstorable plainHost oneTask greeted →
        ∀ payload ∈ (greeted.items (.queue oneTask.actorId)).take oneTask.batch,
          payload ∈ (greeted.items (.queue oneTask.actorId)).drop oneTask.batch ∨
            payload ∈ greeted.items (.dlq oneTask.actorId))) := by
  refine ⟨fun unstorable => ?_, claim_keeps_inbox_iff plain_roundTrips (by decide)⟩
  exact absurd unstorable.claims (by simp [greeted, Keyspace.admits])

theorem claim_loses_message :
    Failed ((claim Cjson.plain plainHost "c" oneTask).run brokenClaims).1 ∧
      "m" ∈ brokenClaims.items (.queue oneTask.actorId) ∧
      ¬Kept Cjson.plain oneTask.actorId
        ((claim Cjson.plain plainHost "c" oneTask).run brokenClaims).2 "m" := by
  have queued : brokenClaims.items (.queue oneTask.actorId) = ["m"] := by
    simp [brokenClaims, Keyspace.items, oneTask, Value.items]
  have lost : (claim Cjson.plain plainHost "c" oneTask).run brokenClaims = _ :=
    run_claim_of_unstorable (by decide) brokenClaims_unstorable (by simp [queued])
  rw [lost, queued]
  refine ⟨by simp [Failed], by simp, ?_⟩
  rintro (left | dead | ⟨id, raw, found, -⟩)
  · rw [items_popped, queued] at left
    simp [oneTask, ClaimInput.batch] at left
  · rw [Keyspace.items, popped_value_of_ne (by simp)] at dead
    simp [brokenClaims, Value.items] at dead
  · rw [Keyspace.fields, popped_value_of_ne (by simp), ← Keyspace.fields,
      fields_of_refused brokenClaims_unstorable.claims] at found
    simp at found

end GptQueue.Claims
