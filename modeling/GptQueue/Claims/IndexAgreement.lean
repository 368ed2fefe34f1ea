import GptQueue.Claims.System

/-! # The claims hash and the indexes agree

A claim is in the hash exactly when it is in the index of one actor, and there
its score is the instant its text of `expires_at` stands for.
-/

namespace GptQueue.Claims

open Redis

/-- The instants that an action writes have years from 1970 to 9999, and a batch
claim passes its expiry once as text and once as a number. -/
def Action.InClock : Action → Prop
  | .batchClaim args =>
      args.expiresAt = IsoDate.toISOString args.expiresAtMs ∧ IsoDate.InRange args.expiresAtMs
  | .renew args =>
      IsoDate.InRange args.now ∧ IsoDate.InRange (args.now + args.ttlSeconds * 1000)
  | _ => True

/-- The score of a claim is the instant of its expiry. -/
def Scored (claim : TaskClaim) (value : Score) : Prop :=
  ∃ ms, IsoDate.InRange ms ∧ claim.expiresAt = IsoDate.toISOString ms ∧ value = score ms

/-- Every member of an index has the score of the claim with its id. -/
def Timed (cjson : Cjson) (keyspace : Keyspace Key) : Prop :=
  ∀ actor id value, (keyspace.scores (.claimsIndex actor)).lookup id = some value →
    ∃ claim, Stored cjson keyspace claim ∧ claim.claimId = id ∧ Scored claim value

namespace Timed

variable {cjson : Cjson} {keyspace : Keyspace Key}

theorem congr (timed : Timed cjson keyspace) {after : Keyspace Key}
    (same : SameClaims after keyspace) : Timed cjson after := by
  intro actor id value found
  rw [same.index] at found
  rcases timed actor id value found with ⟨claim, stored, sameId, scored⟩
  exact ⟨claim, ⟨stored.tasks, same.claims.symm ▸ stored.found⟩, sameId, scored⟩

theorem dropClaim (timed : Timed cjson keyspace) {actorId id : String}
    (own : ∀ other, id ∈ keyspace.scores (.claimsIndex other) → other = actorId) :
    Timed cjson (dropClaim keyspace actorId id) := by
  intro actor other value found
  obtain ⟨before, different⟩ :
      (keyspace.scores (.claimsIndex actor)).lookup other = some value ∧ other ≠ id := by
    by_cases same : actor = actorId
    · have scores : (Claims.dropClaim keyspace actorId id).scores (.claimsIndex actor) =
          (keyspace.scores (.claimsIndex actor)).erase id := by
        simp [Claims.dropClaim, Keyspace.scores, same]
      rw [scores] at found
      have different : other ≠ id := by
        rintro rfl
        rw [AList.lookup_erase] at found
        cases found
      exact ⟨by rwa [AList.lookup_erase_ne different] at found, different⟩
    · have scores : (Claims.dropClaim keyspace actorId id).scores (.claimsIndex actor) =
          keyspace.scores (.claimsIndex actor) := by
        simp [Claims.dropClaim, Keyspace.scores, same]
      rw [scores] at found
      refine ⟨found, ?_⟩
      rintro rfl
      exact same (own actor (AList.lookup_isSome.mp (Option.isSome_of_eq_some found)))
  rcases timed actor other value before with ⟨claim, stored, rfl, scored⟩
  exact ⟨claim, Sound.stored_dropClaim.mpr ⟨stored, different⟩, rfl, scored⟩

theorem recovered {actorId : String} {bound : Nat} {claims : List (String × List String)}
    {before after : Keyspace Key} (recovered : Recovered actorId bound claims before after)
    (timed : Timed cjson before)
    (own : ∀ claim ∈ claims, ∀ other,
      claim.1 ∈ before.scores (.claimsIndex other) → other = actorId) :
    Timed cjson after :=
  recovered.preserves (fun timed own => timed.dropClaim own)
    (fun placed timed => timed.congr placed.sameClaims) timed own

theorem putClaim (roundTrips : RoundTrips cjson) (timed : Timed cjson keyspace)
    {claim : TaskClaim} (nonempty : claim.tasks ≠ [])
    (own : ∀ other, claim.claimId ∈ keyspace.scores (.claimsIndex other) →
      other = claim.actorId) {ms : Int} (scored : Scored claim (score ms)) :
    Timed cjson (putClaim cjson keyspace claim ms) := by
  intro actor id value found
  rw [scores_putClaim] at found
  by_cases sameId : id = claim.claimId
  · refine ⟨claim, (Sound.stored_putClaim roundTrips nonempty).mpr (Or.inl rfl), sameId.symm, ?_⟩
    subst sameId
    split at found
    · rw [AList.lookup_insert] at found
      rwa [← Option.some.inj found]
    · next other =>
        exact absurd (own actor (AList.lookup_isSome.mp (Option.isSome_of_eq_some found))) other
  · have before : (keyspace.scores (.claimsIndex actor)).lookup id = some value := by
      split at found
      · rwa [AList.lookup_insert_ne sameId] at found
      · exact found
    rcases timed actor id value before with ⟨other, stored, rfl, otherScored⟩
    exact ⟨other, (Sound.stored_putClaim roundTrips nonempty).mpr (Or.inr ⟨stored, sameId⟩), rfl,
      otherScored⟩

theorem purged (roundTrips : RoundTrips cjson) (sound : Sound cjson keyspace)
    (timed : Timed cjson keyspace) {actor : String} {after : Keyspace Key}
    (purged : Purged actor keyspace after) : Timed cjson after := by
  intro other id value found
  have different : other ≠ actor := by
    rintro rfl
    rw [purged.own] at found
    cases found
  rw [purged.others other different] at found
  rcases timed other id value found with ⟨claim, stored, rfl, scored⟩
  refine ⟨claim, (stored_purged sound roundTrips purged).mpr ⟨stored, ?_⟩, rfl, scored⟩
  rintro rfl
  exact different (sound.index_unique roundTrips
    (AList.lookup_isSome.mp (Option.isSome_of_eq_some found))
    ((sound.indexed _ _).mpr ⟨claim, stored, rfl, rfl⟩))

end Timed

/-! ## Renewals stay in the clock's range -/

theorem newExpires_inRange {args : RenewArgs} {claim : TaskClaim} {claimedMs expiresMs : Int}
    (clock : (Action.renew args).InClock) (renewable : Renewable args claim claimedMs expiresMs) :
    IsoDate.InRange (args.newExpires claimedMs) := by
  rcases clock with ⟨now, latest⟩
  refine ⟨now.1.trans renewable.forward.le, ?_⟩
  exact (min_le_left _ _).trans latest.2

/-! ## Every action -/

section Actions

variable {cjson : Cjson} {keyspace : Keyspace Key}

theorem Timed.change (roundTrips : RoundTrips cjson) (sound : Sound cjson keyspace)
    (timed : Timed cjson keyspace) {action : Action} (clock : action.InClock)
    {after : Keyspace Key} {accepted acknowledged : List String}
    (change : Change cjson keyspace action after accepted acknowledged) : Timed cjson after := by
  have own : ∀ {claim : TaskClaim}, Stored cjson keyspace claim → ∀ other,
      claim.claimId ∈ keyspace.scores (.claimsIndex other) → other = claim.actorId :=
    fun stored other inside => sound.index_unique roundTrips inside
      ((sound.indexed _ _).mpr ⟨_, stored, rfl, rfl⟩)
  cases change with
  | none => exact timed
  | pushed bound message =>
      exact timed.congr (SameClaims.pushInbox _ _ _)
  | recovered nodup indexed moved =>
      refine timed.recovered moved ?_
      intro claim member other inside
      rcases List.mem_map.mp member with ⟨id, listed, rfl⟩
      exact sound.index_unique roundTrips inside (indexed id listed)
  | claimed args positive fresh nonempty =>
      have same := SameClaims.popped keyspace args.actorId args.maxBatch
      refine (timed.congr same).putClaim roundTrips (take_ne_nil positive nonempty) ?_
        ⟨_, clock.2, clock.1, rfl⟩
      intro other inside
      rw [same.index] at inside
      rcases (sound.indexed _ _).mp inside with ⟨claim, stored, sameId, -⟩
      have found := stored.found
      rw [sameId] at found
      exact absurd (AList.lookup_isSome.mp (Option.isSome_of_eq_some found)) fresh
  | @renewed args claim claimedMs expiresMs stored renewable =>
      have tasks : (claim.renewedTo (args.newExpires claimedMs)).tasks ≠ [] := stored.tasks
      have inRange := newExpires_inRange clock renewable
      exact timed.putClaim roundTrips tasks (@own claim stored)
        ⟨_, inRange, IsoDate.isoFromMs_eq_toISOString inRange, rfl⟩
  | acknowledged stored => exact timed.dropClaim (own stored)
  | requeued messageId dead =>
      exact timed.congr (SameClaims.requeued _ _ _)
  | migrated different guarded => exact timed.congr (SameClaims.transferred _ _ _)
  | migratedDead different guarded bound =>
      exact timed.congr ((SameClaims.transferredDead _ _ _ _).trans (SameClaims.transferred _ _ _))

theorem Timed.after (roundTrips : RoundTrips cjson) (reads : ReadsMessages cjson)
    (sound : Sound cjson keyspace) (timed : Timed cjson keyspace) {action : Action}
    (admissible : action.Admissible keyspace) (clock : action.InClock) :
    Timed cjson (action.after cjson keyspace) := by
  cases deletes : action.deletes with
  | false =>
      rcases Action.change roundTrips reads sound admissible deletes with ⟨exact, same, change⟩
      exact (timed.change roundTrips sound clock change).congr (SameClaims.of_sameTasks same)
  | true =>
      cases action with
      | purge actor =>
          rcases run_purgeActorClaims cjson actor sound.typed with ⟨count, after, ran, purged⟩
          rw [Action.after, ran]
          exact timed.purged roundTrips sound purged
      | unregister name sessionId =>
          obtain ⟨before, purged, sameBefore, purge, sameAfter⟩ :=
            run_unregister cjson sound.typed name sessionId
          have clean := (timed.congr (SameClaims.of_sameTasks sameBefore)).purged roundTrips
            (sound.of_sameTasks sameBefore) purge
          exact clean.congr ((SameClaims.of_sameTasks sameAfter).trans
            (SameClaims.store _ _ (by simp) (by simp)))
      | _ => cases deletes

end Actions

/-! ## Runs -/

/-- A keyspace after any finite run of admissible actions within the clock's
range. -/
inductive ClockedReachable (cjson : Cjson) : Keyspace Key → Prop
  | start : ClockedReachable cjson Keyspace.empty
  | step {keyspace : Keyspace Key} (reached : ClockedReachable cjson keyspace) (action : Action)
      (admissible : action.Admissible keyspace) (clock : action.InClock) :
      ClockedReachable cjson (action.after cjson keyspace)

theorem ClockedReachable.sound_timed {cjson : Cjson} (roundTrips : RoundTrips cjson)
    (reads : ReadsMessages cjson) {keyspace : Keyspace Key}
    (reached : ClockedReachable cjson keyspace) : Sound cjson keyspace ∧ Timed cjson keyspace := by
  induction reached with
  | start =>
      refine ⟨Sound.empty, fun actor id value found => ?_⟩
      simp [Keyspace.scores] at found
  | step reached action admissible clock induction =>
      rcases induction with ⟨sound, timed⟩
      exact ⟨sound.after roundTrips reads admissible,
        timed.after roundTrips reads sound admissible clock⟩

/-- In every reachable keyspace, a claim is in the hash exactly when it is in the
index of one actor, that actor is the stored one, and the score is the instant of
the stored expiry. -/
theorem claims_hash_agrees_with_index {cjson : Cjson} (roundTrips : RoundTrips cjson)
    (reads : ReadsMessages cjson) {keyspace : Keyspace Key}
    (reached : ClockedReachable cjson keyspace) :
    (∀ id, id ∈ keyspace.fields .claims ↔
      ∃! actor, id ∈ keyspace.scores (.claimsIndex actor)) ∧
    ∀ id actor value, (keyspace.scores (.claimsIndex actor)).lookup id = some value →
      ∃ raw claim ms, (keyspace.fields .claims).lookup id = some raw ∧
        cjson.decode raw = some claim ∧ claim.field "actor_id" = some (.string actor) ∧
        ∃ expiresAt, claim.field "expires_at" = some (.string expiresAt) ∧
          IsoDate.dateParse expiresAt = some ms ∧ value = score ms := by
  rcases reached.sound_timed roundTrips reads with ⟨sound, timed⟩
  constructor
  · intro id
    constructor
    · intro member
      rcases Option.isSome_iff_exists.mp (AList.lookup_isSome.mpr member) with ⟨raw, found⟩
      rcases sound.readable id raw found with ⟨claim, stored, rfl⟩
      have inside := (sound.indexed _ _).mpr ⟨claim, stored, rfl, rfl⟩
      exact ⟨claim.actorId, inside, fun other also => sound.index_unique roundTrips also inside⟩
    · rintro ⟨actor, inside, -⟩
      rcases (sound.indexed _ _).mp inside with ⟨claim, stored, rfl, -⟩
      exact AList.lookup_isSome.mp (Option.isSome_of_eq_some stored.found)
  · intro id actor value found
    rcases timed actor id value found with ⟨claim, stored, rfl, ms, inRange, expires, rfl⟩
    have sameActor : actor = claim.actorId := sound.index_unique roundTrips
      (AList.lookup_isSome.mp (Option.isSome_of_eq_some found))
      ((sound.indexed _ _).mpr ⟨claim, stored, rfl, rfl⟩)
    subst sameActor
    refine ⟨_, claim.toJson, ms, stored.found, roundTrips claim stored.tasks, by simp,
      claim.expiresAt, by simp, ?_, rfl⟩
    rw [expires, IsoDate.dateParse_toISOString inRange]

def firstClaim : BatchClaimArgs where
  claimId := "c"
  actorId := "b"
  sessionId := "s"
  claimedAt := IsoDate.toISOString 0
  expiresAt := IsoDate.toISOString 60000
  expiresAtMs := 60000
  maxBatch := 1
  maxConcurrent := 0

theorem firstClaim_indexed :
    ∃! actor, "c" ∈ (Action.after Cjson.plain
      (Action.after Cjson.plain Keyspace.empty (.push none greeting))
      (.batchClaim firstClaim)).scores (.claimsIndex actor) := by
  rcases run_push_greeting with ⟨after, ran, same⟩
  have pushed : Action.after Cjson.plain Keyspace.empty (.push none greeting) = after := by
    rw [Action.after, ran]
  have fresh : firstClaim.claimId ∉ after.fields .claims := by
    rw [same.fields_eq]
    simp [pushInbox, Keyspace.fields]
  have reached : ClockedReachable Cjson.plain after :=
    pushed ▸ ClockedReachable.start.step (.push none greeting) trivial trivial
  have claimed := reached.step (.batchClaim firstClaim) ⟨by decide, fresh⟩ ⟨rfl, by decide⟩
  rw [pushed]
  refine ((claims_hash_agrees_with_index plain_roundTrips plain_readsMessages claimed).1 "c").mp ?_
  have typed := (reached.sound_timed plain_roundTrips plain_readsMessages).1.typed
  have queued : after.items (.queue firstClaim.actorId) ≠ [] := by
    rw [same.items_eq rfl]
    simp [pushInbox, Keyspace.items, firstClaim]
  rw [Action.after, run_batchClaim_claimed (typed.index _) rfl (by decide) (typed.inbox _) queued
    typed.claims, fields_putClaim, AList.mem_insert]
  exact Or.inl rfl

end GptQueue.Claims
