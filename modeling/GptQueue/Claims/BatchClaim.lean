import GptQueue.Claims.Recovery

/-! # Claiming a batch

The batch-claim script pops first and persists afterwards. What it does is given
for every keyspace whose index can be read, including those on which it raises
between the two.
-/

namespace GptQueue.Claims

open Redis

/-! ## Stored claims -/

/-- `cjson.decode (cjson.encode claim)` gives the claim back. A claim without
tasks is left out: an empty Lua table is written as an object. -/
def RoundTrips (cjson : Cjson) : Prop :=
  ∀ claim : TaskClaim, claim.tasks ≠ [] →
    cjson.decode (cjson.encode claim.toJson) = some claim.toJson

theorem plain_roundTrips : RoundTrips Cjson.plain := by
  intro claim _
  rw [Cjson.plain_decode, Cjson.plain_encode, Json.parse_render]

/-- The tasks of a stored claim, as the scripts read them. -/
def claimTasks (cjson : Cjson) (raw : String) : List String :=
  texts cjson (claimItems cjson raw)

theorem claimItems_encode {cjson : Cjson} (roundTrips : RoundTrips cjson) {claim : TaskClaim}
    (nonempty : claim.tasks ≠ []) :
    claimItems cjson (cjson.encode claim.toJson) = claim.tasks.map fun task =>
      { task := .string task,
        counterKey := counterKey cjson (some claim.actorId) (.string task) } := by
  simp [claimItems, roundTrips claim nonempty, tableItems, Json.asString, Function.comp_def]

theorem claimTasks_encode {cjson : Cjson} (roundTrips : RoundTrips cjson) {claim : TaskClaim}
    (nonempty : claim.tasks ≠ []) :
    claimTasks cjson (cjson.encode claim.toJson) = claim.tasks := by
  simp [claimTasks, texts, claimItems_encode roundTrips nonempty, List.filterMap_map,
    Function.comp_def]

/-! ## Popping -/

/-- Take `count` messages off an inbox. An empty inbox is left alone. -/
def popped (keyspace : Keyspace Key) (inbox : Key) (count : Nat) : Keyspace Key :=
  if keyspace.items inbox = [] then keyspace
  else keyspace.store inbox (Value.ofItems ((keyspace.items inbox).drop count))

theorem popped_value_of_ne {keyspace : Keyspace Key} {inbox other : Key}
    (different : other ≠ inbox) (count : Nat) :
    (popped keyspace inbox count).value other = keyspace.value other := by
  unfold popped
  split
  · rfl
  · simp [different]

theorem items_popped (keyspace : Keyspace Key) (inbox : Key) (count : Nat) :
    (popped keyspace inbox count).items inbox = (keyspace.items inbox).drop count := by
  unfold popped
  split
  · next empty => simp [empty]
  · simp [Keyspace.items]

theorem popped_trimmed (keyspace : Keyspace Key) (inbox : Key) (count : Nat) :
    (popped keyspace inbox count).trimmed = keyspace.trimmed := by
  unfold popped
  split <;> rfl

theorem run_popBatch {keyspace : Keyspace Key} {inbox : Key}
    (isList : keyspace.admits inbox .list = true) {count : Nat} (positive : 0 < count) :
    (popBatch inbox count).run keyspace =
      (.ok ((keyspace.items inbox).take count), popped keyspace inbox count) := by
  induction count generalizing keyspace with
  | zero => omega
  | succ count induction =>
      rw [popBatch, Script.run_bind]
      simp only [lpop, run_typed isList]
      cases queued : keyspace.items inbox with
      | nil => simp [popped, queued]
      | cons head rest =>
          obtain ⟨after, afterEq⟩ : ∃ after, after =
              keyspace.store inbox (Value.ofItems rest) := ⟨_, rfl⟩
          have afterItems : after.items inbox = rest := by simp [afterEq, Keyspace.items]
          have final : popped keyspace inbox (count + 1) =
              keyspace.store inbox (Value.ofItems (rest.drop count)) := by
            simp [popped, queued]
          simp only [← afterEq]
          cases count with
          | zero => simp [popBatch, Script.run_bind, final, afterEq]
          | succ count =>
              have afterList : after.admits inbox .list = true := by
                simp [afterEq, Keyspace.admits]
              rw [Script.run_bind_ok (induction afterList (by omega)), afterItems, final]
              simp only [List.take_succ_cons, Script.run_pure, Prod.mk.injEq, true_and]
              unfold popped
              rw [afterItems]
              apply Keyspace.ext
              · intro key
                split
                · next empty => simp [afterEq, empty]
                · by_cases same : key = inbox <;> simp [afterEq, same]
              · split <;> simp [afterEq]

theorem run_popBatch_of_refused {keyspace : Keyspace Key} {inbox : Key}
    (refused : keyspace.admits inbox .list = false) {count : Nat} (positive : 0 < count) :
    (popBatch inbox count).run keyspace = (.error .wrongType, keyspace) := by
  obtain ⟨less, rfl⟩ : ∃ less, count = less + 1 := ⟨count - 1, by omega⟩
  rw [popBatch]
  exact Script.run_bind_error (run_typed_of_refused refused)

/-! ## The script -/

/-- Whether the actor has as many outstanding claims as it may. -/
def ceilingReached (args : BatchClaimArgs) (keyspace : Keyspace Key) : Bool :=
  args.maxConcurrent ≠ 0 &&
    args.maxConcurrent ≤ (keyspace.scores (.claimsIndex args.actorId)).entries.length

/-- Put a claim that expires at `ms` into the hash and into its actor's index. -/
def putClaim (cjson : Cjson) (keyspace : Keyspace Key) (claim : TaskClaim) (ms : Int) :
    Keyspace Key :=
  (keyspace.store .claims (Value.ofFields ((keyspace.fields .claims).insert claim.claimId
    (cjson.encode claim.toJson)))).store (.claimsIndex claim.actorId)
      (Value.ofScores ((keyspace.scores (.claimsIndex claim.actorId)).insert claim.claimId
        (score ms)))

section PutClaim

variable (cjson : Cjson) (keyspace : Keyspace Key) (claim : TaskClaim) (ms : Int)

@[simp] theorem fields_putClaim :
    (putClaim cjson keyspace claim ms).fields .claims =
      (keyspace.fields .claims).insert claim.claimId (cjson.encode claim.toJson) := by
  simp [putClaim, Keyspace.fields]

theorem scores_putClaim (actor : String) :
    (putClaim cjson keyspace claim ms).scores (.claimsIndex actor) =
      if actor = claim.actorId then
        (keyspace.scores (.claimsIndex actor)).insert claim.claimId (score ms)
      else keyspace.scores (.claimsIndex actor) := by
  by_cases same : actor = claim.actorId <;> simp [putClaim, Keyspace.scores, same]

theorem putClaim_value_of_ne {key : Key} (notClaims : key ≠ .claims)
    (notIndex : key ≠ .claimsIndex claim.actorId) :
    (putClaim cjson keyspace claim ms).value key = keyspace.value key := by
  simp [putClaim, notClaims, notIndex]

end PutClaim

section Run

variable {cjson : Cjson} {args : BatchClaimArgs} {keyspace : Keyspace Key}

theorem run_atCeiling (index : keyspace.admits (.claimsIndex args.actorId) .zset = true) :
    (atCeiling args).run keyspace = (.ok (ceilingReached args keyspace), keyspace) := by
  unfold atCeiling ceilingReached
  split
  · next unlimited => simp [unlimited]
  · next limited => simp [Script.run_bind, zcard, run_typed index, limited]

theorem run_batchClaim_ceiling (index : keyspace.admits (.claimsIndex args.actorId) .zset = true)
    (reached : ceilingReached args keyspace = true) :
    (batchClaim cjson args).run keyspace = (.ok .ceilingReached, keyspace) := by
  rw [batchClaim, Script.run_bind_ok (run_atCeiling index), if_pos reached]
  rfl

theorem run_batchClaim_refused (index : keyspace.admits (.claimsIndex args.actorId) .zset = true)
    (below : ceilingReached args keyspace = false) (positive : 0 < args.maxBatch)
    (refused : keyspace.admits (.queue args.actorId) .list = false) :
    (batchClaim cjson args).run keyspace = (.error .wrongType, keyspace) := by
  rw [batchClaim, Script.run_bind_ok (run_atCeiling index), below]
  exact Script.run_bind_error (run_popBatch_of_refused refused positive)

theorem run_batchClaim_empty (index : keyspace.admits (.claimsIndex args.actorId) .zset = true)
    (below : ceilingReached args keyspace = false) (positive : 0 < args.maxBatch)
    (isList : keyspace.admits (.queue args.actorId) .list = true)
    (empty : keyspace.items (.queue args.actorId) = []) :
    (batchClaim cjson args).run keyspace = (.ok .empty, keyspace) := by
  rw [batchClaim, Script.run_bind_ok (run_atCeiling index), below]
  simp only [Bool.false_eq_true, if_false]
  rw [Script.run_bind_ok (run_popBatch isList positive)]
  simp [popped, empty]

theorem take_ne_nil (positive : 0 < args.maxBatch)
    (nonempty : keyspace.items (.queue args.actorId) ≠ []) :
    (keyspace.items (.queue args.actorId)).take args.maxBatch ≠ [] := by
  simp only [ne_eq, List.take_eq_nil_iff, nonempty, or_false]
  omega

variable (index : keyspace.admits (.claimsIndex args.actorId) .zset = true)
  (below : ceilingReached args keyspace = false) (positive : 0 < args.maxBatch)
  (isList : keyspace.admits (.queue args.actorId) .list = true)
  (nonempty : keyspace.items (.queue args.actorId) ≠ [])

include index below positive isList nonempty

theorem run_batchClaim_popped :
    (batchClaim cjson args).run keyspace =
      (do
        let stored := cjson.encode
          (args.claim ((keyspace.items (.queue args.actorId)).take args.maxBatch)).toJson
        hset .claims args.claimId stored
        zadd (.claimsIndex args.actorId) (score args.expiresAtMs) args.claimId
        pure (.claimed stored) : Script Key BatchClaimReply).run
          (popped keyspace (.queue args.actorId) args.maxBatch) := by
  rw [batchClaim, Script.run_bind_ok (run_atCeiling index), below]
  simp only [Bool.false_eq_true, if_false]
  rw [Script.run_bind_ok (run_popBatch isList positive),
    if_neg (take_ne_nil positive nonempty)]

/-- On a `gptq:claims` of another type, the popped messages are nowhere. -/
theorem run_batchClaim_lost (claims : keyspace.admits .claims .hash = false) :
    (batchClaim cjson args).run keyspace =
      (.error .wrongType, popped keyspace (.queue args.actorId) args.maxBatch) := by
  rw [run_batchClaim_popped index below positive isList nonempty]
  refine Script.run_bind_error (run_typed_of_refused ?_)
  rw [Keyspace.admits, popped_value_of_ne (by simp)]
  exact claims

theorem run_batchClaim_claimed (claims : keyspace.admits .claims .hash = true) :
    (batchClaim cjson args).run keyspace =
      (.ok (.claimed (cjson.encode
        (args.claim ((keyspace.items (.queue args.actorId)).take args.maxBatch)).toJson)),
        putClaim cjson (popped keyspace (.queue args.actorId) args.maxBatch)
          (args.claim ((keyspace.items (.queue args.actorId)).take args.maxBatch))
          args.expiresAtMs) := by
  rw [run_batchClaim_popped index below positive isList nonempty]
  obtain ⟨middle, middleEq⟩ : ∃ middle, middle =
      popped keyspace (.queue args.actorId) args.maxBatch := ⟨_, rfl⟩
  rw [← middleEq]
  have middleClaims : middle.admits .claims .hash = true := by
    rw [Keyspace.admits, middleEq, popped_value_of_ne (by simp)]
    exact claims
  have middleIndex : middle.admits (.claimsIndex args.actorId) .zset = true := by
    rw [Keyspace.admits, middleEq, popped_value_of_ne (by simp)]
    exact index
  rw [Script.run_bind]
  simp only [hset, run_typed middleClaims]
  rw [Script.run_bind]
  have stillIndex : (middle.store .claims (Value.ofFields ((middle.fields .claims).insert
      args.claimId (cjson.encode (args.claim
        ((keyspace.items (.queue args.actorId)).take args.maxBatch)).toJson)))).admits
      (.claimsIndex args.actorId) .zset = true := by
    simpa [Keyspace.admits] using middleIndex
  simp only [zadd, run_typed stillIndex]
  rfl

end Run

end GptQueue.Claims
