import GptQueue.Claims.IndexAgreement
import GptQueue.Claims.Store

/-! # Renewals

`TaskClaimStore.renew` runs the renewal script. The text that the script writes and the
score that it gives to the index stand for one instant.
-/

namespace GptQueue.Claims

open Redis
open IsoDate (InRange isoFromMs msFromIso toISOString)

/-! ## The store -/

inductive RenewErrorCode
  | invalidRenewRequest
  | unknownClaim
  | claimExpired
  | budgetExceeded
  | notClaimOwner
deriving DecidableEq, Repr

structure RenewError where
  code : RenewErrorCode
  message : String
deriving DecidableEq, Repr

inductive RenewResult
  | ok (claimId expiresAt : String)
  | failed (error : RenewError)
deriving DecidableEq, Repr

structure RenewInput where
  claimId : String
  actorId : String
  sessionId : String
  ttlSeconds : ℚ
  budgetSeconds : Int
  /-- What `Date.parse` gives for `now`. -/
  now : Int

/-- `CLAIM_LIFETIME_BUDGET_SECONDS`. -/
def claimLifetimeBudgetSeconds : Int := 86400

def RenewInput.valid (input : RenewInput) : Bool :=
  !blank input.claimId && !blank input.actorId && !blank input.sessionId &&
    isIntegerIn 1 3600 input.ttlSeconds

def RenewInput.args (input : RenewInput) : RenewArgs where
  claimId := input.claimId
  actorId := input.actorId
  sessionId := input.sessionId
  now := input.now
  ttlSeconds := input.ttlSeconds.num
  budgetSeconds := input.budgetSeconds

/-- How the store answers for a reply of the renewal script. -/
def renewAnswer (input : RenewInput) : RenewReply → RenewResult
  | .renewed expiresAt => .ok input.claimId expiresAt
  | .unknownClaim =>
      .failed
        { code := .unknownClaim
          message := "no outstanding claim '" ++ input.claimId ++ "' for actor '" ++
            input.actorId ++ "'" }
  | .expired =>
      .failed
        { code := .claimExpired
          message := "claim '" ++ input.claimId ++ "' for actor '" ++ input.actorId ++
            "' has expired and cannot be renewed" }
  | .budgetExhausted =>
      .failed
        { code := .budgetExceeded
          message := "claim '" ++ input.claimId ++ "' for actor '" ++ input.actorId ++
            "' has exhausted its lifetime budget and cannot be renewed" }
  | .notOwner _ =>
      .failed
        { code := .notClaimOwner
          message := "claim '" ++ input.claimId ++ "' is owned by another session" }

/-- `TaskClaimStore.renew`. -/
def TaskClaimStore.renew (cjson : Cjson) (input : RenewInput) : Script Key RenewResult :=
  if input.valid = false then
    pure (.failed
      { code := .invalidRenewRequest
        message := "renew requires a non-empty claim_id, actor_id and session_id, and ttl_seconds an integer in 1..3600" })
  else do
    let reply ← Claims.renew cjson input.args
    pure (renewAnswer input reply)

section Store

variable {cjson : Cjson} {keyspace : Keyspace Key} {input : RenewInput}

/-- A renewal fails and changes nothing, or rewrites the claim of its owner. -/
theorem run_renewal (roundTrips : RoundTrips cjson) (sound : Sound cjson keyspace) :
    (∃ error, (TaskClaimStore.renew cjson input).run keyspace = (.ok (.failed error), keyspace)) ∨
    ∃ (claim : TaskClaim) (claimedMs expiresMs : Int), Stored cjson keyspace claim ∧
      claim.claimId = input.claimId ∧ Renewable input.args claim claimedMs expiresMs ∧
      (TaskClaimStore.renew cjson input).run keyspace =
        (.ok (.ok input.claimId (isoFromMs (input.args.newExpires claimedMs))),
          putClaim cjson keyspace (claim.renewedTo (input.args.newExpires claimedMs))
            (input.args.newExpires claimedMs)) := by
  rw [TaskClaimStore.renew]
  split
  · exact Or.inl ⟨_, rfl⟩
  · have indexed : ∀ claim : TaskClaim, (keyspace.fields .claims).lookup claim.claimId =
        some (cjson.encode claim.toJson) → claim.tasks ≠ [] →
        claim.claimId ∈ keyspace.scores (.claimsIndex claim.actorId) :=
      fun claim found tasks => (sound.indexed _ _).mpr ⟨claim, ⟨tasks, found⟩, rfl, rfl⟩
    rcases @run_renew cjson keyspace input.args roundTrips sound.typed sound.claimsValid
      indexed with ⟨reply, unchanged, refused⟩ |
        ⟨claim, claimedMs, expiresMs, found, tasks, sameId, renewable, ran⟩
    · rw [Script.run_bind_ok unchanged]
      cases reply with
      | renewed text => exact absurd rfl (refused text)
      | _ => exact Or.inl ⟨_, rfl⟩
    · rw [Script.run_bind_ok ran]
      exact Or.inr ⟨claim, claimedMs, expiresMs, ⟨tasks, found⟩, sameId, renewable, rfl⟩

/-- A claim that its owner may renew is renewed. -/
theorem renewal_of_renewable (roundTrips : RoundTrips cjson) (sound : Sound cjson keyspace)
    (valid : input.valid = true) {claim : TaskClaim} {claimedMs expiresMs : Int}
    (stored : Stored cjson keyspace claim) (sameId : claim.claimId = input.claimId)
    (renewable : Renewable input.args claim claimedMs expiresMs) :
    ∃ after, (TaskClaimStore.renew cjson input).run keyspace =
      (.ok (.ok input.claimId (isoFromMs (input.args.newExpires claimedMs))), after) := by
  have read : (hget .claims input.args.claimId).run keyspace =
      (.ok (some (cjson.encode claim.toJson)), keyspace) := by
    rw [run_hget_claims sound.typed.claims, ← stored.found, sameId]
    rfl
  have fields : renewFields claim.toJson =
      some (claim.actorId, claim.sessionId, claim.claimedAt, claim.expiresAt) := by
    simp [renewFields, Json.asString]
  have instants : claimInstants claim.claimedAt claim.expiresAt = some (claimedMs, expiresMs) := by
    simp [claimInstants, renewable.claimed, renewable.expires]
  have owner : ¬(claim.actorId ≠ input.args.actorId ∨ claim.sessionId ≠ input.args.sessionId) := by
    rw [renewable.actor, renewable.session]
    simp
  have indexed := (sound.indexed _ _).mpr ⟨claim, stored, rfl, rfl⟩
  have ran : ∃ after, (Claims.renew cjson input.args).run keyspace =
      (.ok (.renewed (isoFromMs (input.args.newExpires claimedMs))), after) := by
    refine ⟨putClaim cjson keyspace (claim.renewedTo (input.args.newExpires claimedMs))
      (input.args.newExpires claimedMs), (Script.run_bind_ok read).trans ?_⟩
    simp only [roundTrips claim stored.tasks, fields, if_neg owner, instants,
      if_neg (not_le.mpr renewable.live), if_neg (not_le.mpr renewable.forward)]
    rw [TaskClaim.setField_expiresAt, ← renewable.actor,
      show input.args.claimId = claim.claimId from sameId.symm]
    exact @run_rewrite RenewReply cjson keyspace sound.typed
      (claim.renewedTo (input.args.newExpires claimedMs)) indexed _ _
  rcases ran with ⟨after, ran⟩
  refine ⟨after, ?_⟩
  rw [TaskClaimStore.renew, if_neg (by rw [valid]; exact Bool.noConfusion), Script.run_bind_ok ran]
  rfl

end Store

/-! ## What a renewal writes -/

/-- A millisecond and its text, in the calendar, for the script and for the tools. -/
structure ExactDates (ms : Int) : Prop where
  calendar : (Calendar.dateOf (ms / 86400000)).valid ∧
    Calendar.dayOf (Calendar.dateOf (ms / 86400000)) = ms / 86400000
  iso : isoFromMs ms = toISOString ms
  back : msFromIso (isoFromMs ms) = some ms
  written : msFromIso (toISOString ms) = some ms

theorem exactDates {ms : Int} (inRange : InRange ms) : ExactDates ms where
  calendar := ⟨Calendar.dateOf_valid _, Calendar.dayOf_dateOf _⟩
  iso := IsoDate.isoFromMs_eq_toISOString inRange
  back := by
    rw [IsoDate.isoFromMs_eq_toISOString inRange]
    exact IsoDate.msFromIso_toISOString inRange
  written := IsoDate.msFromIso_toISOString inRange

/-- The stored claim has the text as its expiry, and the member of the index, if there is
one, has the instant of the text as its score. -/
structure SameInstant (cjson : Cjson) (args : RenewArgs) (before after : Keyspace Key)
    (text : String) (ms : Int) : Prop where
  denotes : msFromIso text = some ms
  stored : ∃ raw claim, (before.fields .claims).lookup args.claimId = some raw ∧
    cjson.decode raw = some claim ∧ (after.fields .claims).lookup args.claimId =
      some (cjson.encode (claim.setField "expires_at" (.string text)))
  scored : args.claimId ∈ before.scores (.claimsIndex args.actorId) →
    (after.scores (.claimsIndex args.actorId)).lookup args.claimId = some (score ms)

section Writes

variable {cjson : Cjson} {args : RenewArgs} {keyspace after : Keyspace Key} {text : String}

/-- What the two writes of a renewal do, when none of them raises. -/
theorem rewrites {raw : String} {ms : Int} {claim : Json}
    (found : (keyspace.fields .claims).lookup args.claimId = some raw)
    (decoded : cjson.decode raw = some claim) (denotes : msFromIso text = some ms)
    (ran : (do
      hset .claims args.claimId (cjson.encode (claim.setField "expires_at" (.string text)))
      zaddXX (.claimsIndex args.actorId) (score ms) args.claimId
      pure (.renewed text) : Script Key RenewReply).run keyspace = (.ok (.renewed text), after)) :
    SameInstant cjson args keyspace after text ms := by
  rcases Script.of_run_bind_ok ran with ⟨_, middle, set, rest⟩
  rcases Script.of_run_bind_ok rest with ⟨_, final, added, done⟩
  cases done
  have isMiddle : middle = keyspace.store .claims (Value.ofFields
      ((keyspace.fields .claims).insert args.claimId
        (cjson.encode (claim.setField "expires_at" (.string text))))) := by
    simp only [hset, typed] at set
    split at set
    · cases set
      rfl
    · cases set
  have isAfter : after = if args.claimId ∈ middle.scores (.claimsIndex args.actorId) then
      middle.store (.claimsIndex args.actorId) (Value.ofScores
        ((middle.scores (.claimsIndex args.actorId)).insert args.claimId (score ms)))
      else middle := by
    simp only [zaddXX, typed] at added
    split at added
    · split at added
      · next member =>
          cases added
          rw [if_pos member]
      · next absent =>
          cases added
          rw [if_neg absent]
    · cases added
  have fields : after.fields .claims = middle.fields .claims := by
    rw [isAfter]
    split
    · simp [Keyspace.fields]
    · rfl
  have scores : middle.scores (.claimsIndex args.actorId) =
      keyspace.scores (.claimsIndex args.actorId) := by
    simp [isMiddle, Keyspace.scores]
  refine ⟨denotes, ⟨raw, claim, found, decoded, ?_⟩, ?_⟩
  · rw [fields, isMiddle]
    simp [Keyspace.fields]
  · intro member
    rw [isAfter, scores, if_pos member]
    simp [Keyspace.scores]

/-- A renewal that returns the new expiry has written it, whatever the keys hold. -/
theorem writes_renewed (clock : (Action.renew args).InClock)
    (ran : (renew cjson args).run keyspace = (.ok (.renewed text), after)) :
    ∃ ms, InRange ms ∧ args.now < ms ∧ ms ≤ args.now + args.ttlSeconds * 1000 ∧
      SameInstant cjson args keyspace after text ms := by
  rcases Script.of_run_bind_ok ran with ⟨raw, same, read, rest⟩
  have unchanged : same = keyspace ∧ raw = (keyspace.fields .claims).lookup args.claimId := by
    simp only [hget, typed] at read
    split at read
    · cases read
      exact ⟨rfl, rfl⟩
    · cases read
  rw [unchanged.1] at rest
  cases raw with
  | none => cases rest
  | some raw =>
      dsimp only at rest
      split at rest
      · cases rest
      next claim decoded =>
      split at rest
      · cases rest
      next actorId sessionId claimedAt expiresAt fields =>
      split at rest
      · cases rest
      split at rest
      · cases rest
      next claimedMs expiresMs instants =>
      split at rest
      · cases rest
      split at rest
      · cases rest
      next forward =>
      have later : args.now < args.newExpires claimedMs := not_le.mp forward
      have bounded : args.newExpires claimedMs ≤ args.now + args.ttlSeconds * 1000 :=
        min_le_left _ _
      have inRange : InRange (args.newExpires claimedMs) :=
        ⟨clock.1.1.trans later.le, bounded.trans clock.2.2⟩
      have isText : text = isoFromMs (args.newExpires claimedMs) := by
        rcases Script.of_run_bind_ok rest with ⟨_, middle, -, last⟩
        rcases Script.of_run_bind_ok last with ⟨_, final, -, done⟩
        cases done
        rfl
      subst isText
      exact ⟨_, inRange, later, bounded,
        rewrites unchanged.2.symm decoded (exactDates inRange).back rest⟩

end Writes

/-- The dates of the renewal script are exact in the years 1970 to 9999, and the expiry and
the score that a renewal writes are one instant. -/
theorem renewal_dates_exact :
    (∀ ms, InRange ms → ExactDates ms) ∧
      ∀ (cjson : Cjson) (args : RenewArgs) (keyspace after : Keyspace Key) (text : String),
        (Action.renew args).InClock →
        (renew cjson args).run keyspace = (.ok (.renewed text), after) →
          ∃ ms, SameInstant cjson args keyspace after text ms := by
  constructor
  · exact fun ms inRange => exactDates inRange
  · intro cjson args keyspace after text clock ran
    rcases writes_renewed clock ran with ⟨ms, -, -, -, same⟩
    exact ⟨ms, same⟩

/-- The leap day of a year that ends a century. -/
theorem leap_day_exact : ExactDates 951782400000 := renewal_dates_exact.1 951782400000 (by decide)

end GptQueue.Claims
