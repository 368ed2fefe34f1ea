import GptQueue.Claims.Runs

/-! # Runs of the claim scripts

A run is any finite sequence of scripts, with any arguments their callers admit,
on one keyspace. `Sound` holds in every state of every run: keys have their
types, stored claims are readable, and a claim is in the index of its actor and
in no other.
-/

namespace GptQueue.Claims

open Redis
open GptQueue.Mailbox

/-! ## Actions -/

inductive Action
  | push (bound : Option Int) (message : QueueMessage)
  | recover (actorId : String) (now : Option Int)
  | batchClaim (args : BatchClaimArgs)
  | renew (args : RenewArgs)
  | ack (claimId actorId sessionId : String)
  | requeue (actorId messageId : String)
  | migrate (source destination : String) (guarded : Bool) (deadLetterBound : Option Nat)
  | purge (actor : String)
  | unregister (name sessionId : String)
  /-- A key with a time to live is removed by the server. -/
  | expire (key : Key)

/-- The keyspace after an action. -/
def Action.after (cjson : Cjson) (keyspace : Keyspace Key) : Action → Keyspace Key
  | .push bound message => ((boundedPush cjson (pushArgs bound message)).run keyspace).2
  | .recover actorId now =>
      ((Claims.recover cjson (recoverExpiredArgs actorId now)).run keyspace).2
  | .batchClaim args => ((Claims.batchClaim cjson args).run keyspace).2
  | .renew args => ((Claims.renew cjson args).run keyspace).2
  | .ack claimId actorId sessionId =>
      ((Claims.ack cjson claimId actorId sessionId).run keyspace).2
  | .requeue actorId messageId => ((Claims.requeue cjson actorId messageId).run keyspace).2
  | .migrate source destination guarded deadLetterBound =>
      ((Claims.migrate source destination guarded deadLetterBound).run keyspace).2
  | .purge actor => ((purgeActorClaims cjson actor).run keyspace).2
  | .unregister name sessionId => ((Claims.unregister cjson name sessionId).run keyspace).2
  | .expire key => keyspace.store key none

/-- What the callers promise: a batch size of at least one and a fresh claim id.
Only keys that hold no tasks have a time to live. -/
def Action.Admissible (keyspace : Keyspace Key) : Action → Prop
  | .batchClaim args => 0 < args.maxBatch ∧ args.claimId ∉ keyspace.fields .claims
  | .expire key => key.holdsTasks = false
  | _ => True

/-! ## Stored claims -/

/-- A claim is in the hash under its id. -/
structure Stored (cjson : Cjson) (keyspace : Keyspace Key) (claim : TaskClaim) : Prop where
  tasks : claim.tasks ≠ []
  found : (keyspace.fields .claims).lookup claim.claimId = some (cjson.encode claim.toJson)

theorem toJson_injective : Function.Injective TaskClaim.toJson := by
  intro left right equal
  have tasks : left.tasks.map Json.string = right.tasks.map Json.string := by
    have same := congrArg (fun json => Json.field json "tasks") equal
    simpa using same
  have sameTasks := List.map_injective_iff.mpr (fun _ _ => Json.string.inj) tasks
  cases left
  cases right
  simp only [TaskClaim.toJson, Json.object.injEq, List.cons.injEq, Prod.mk.injEq,
    Json.string.injEq, true_and] at equal
  simp_all

theorem eq_of_encode {cjson : Cjson} (roundTrips : RoundTrips cjson) {first second : TaskClaim}
    (left : first.tasks ≠ []) (right : second.tasks ≠ [])
    (encoded : cjson.encode first.toJson = cjson.encode second.toJson) : first = second := by
  have decoded := congrArg cjson.decode encoded
  rw [roundTrips first left, roundTrips second right] at decoded
  exact toJson_injective (Option.some.inj decoded)

theorem Stored.unique {cjson : Cjson} (roundTrips : RoundTrips cjson) {keyspace : Keyspace Key}
    {first second : TaskClaim} (left : Stored cjson keyspace first)
    (right : Stored cjson keyspace second) (sameId : first.claimId = second.claimId) :
    first = second := by
  have found := left.found
  rw [sameId, right.found] at found
  exact eq_of_encode roundTrips left.tasks right.tasks (Option.some.inj found).symm

/-- Two keyspaces with the same claims. -/
structure SameClaims (left right : Keyspace Key) : Prop where
  claims : left.fields .claims = right.fields .claims
  index : ∀ actor, left.scores (.claimsIndex actor) = right.scores (.claimsIndex actor)

namespace SameClaims

theorem refl (keyspace : Keyspace Key) : SameClaims keyspace keyspace := ⟨rfl, fun _ => rfl⟩

theorem trans {first second third : Keyspace Key} (left : SameClaims first second)
    (right : SameClaims second third) : SameClaims first third :=
  ⟨left.claims.trans right.claims, fun actor => (left.index actor).trans (right.index actor)⟩

theorem of_sameTasks {left right : Keyspace Key} (same : SameTasks left right) :
    SameClaims left right :=
  ⟨same.fields_eq, same.scores_eq⟩

theorem store (keyspace : Keyspace Key) {key : Key} (value : Option Value)
    (notClaims : key ≠ .claims) (notIndex : ∀ actor, key ≠ .claimsIndex actor) :
    SameClaims (keyspace.store key value) keyspace :=
  ⟨by simp [Keyspace.fields, notClaims.symm], fun actor => by
    simp [Keyspace.scores, (notIndex actor).symm]⟩

variable (keyspace : Keyspace Key)

theorem pushInbox (actorId task : String) :
    SameClaims (pushInbox keyspace actorId task) keyspace :=
  store keyspace _ (by simp) (by simp)

theorem pushDead (actorId task : String) (bound : Nat) :
    SameClaims (pushDead keyspace actorId task bound) keyspace :=
  ⟨by simp [Claims.pushDead, Keyspace.fields], fun actor => by
    simp [Claims.pushDead, Keyspace.scores]⟩

theorem requeued (actorId payload : String) :
    SameClaims (requeued keyspace actorId payload) keyspace :=
  (store _ _ (by simp) (by simp)).trans (pushInbox keyspace actorId payload)

theorem popped (actorId : String) (count : Nat) :
    SameClaims (popped keyspace (.queue actorId) count) keyspace := by
  unfold Claims.popped
  split
  · exact refl keyspace
  · exact store keyspace _ (by simp) (by simp)

theorem transferred (source destination : String) :
    SameClaims (transferred keyspace (.queue source) (.queue destination)) keyspace := by
  unfold Claims.transferred
  split
  · exact refl keyspace
  · exact (store _ _ (by simp) (by simp)).trans (store keyspace _ (by simp) (by simp))

theorem transferredDead (source destination : String) (bound : Nat) :
    SameClaims (transferredDead keyspace (.dlq source) (.dlq destination) bound) keyspace := by
  unfold Claims.transferredDead
  split
  · exact refl keyspace
  · exact ⟨by simp [Keyspace.fields], fun actor => by simp [Keyspace.scores]⟩

end SameClaims

theorem Placed.sameClaims {actorId : String} {bound : Nat} {tasks : List String}
    {before after : Keyspace Key} (placed : Placed actorId bound tasks before after) :
    SameClaims after before := by
  induction placed with
  | done keyspace => exact SameClaims.refl keyspace
  | inbox pushed rest induction =>
      exact induction.trans ((SameClaims.of_sameTasks pushed).trans (SameClaims.pushInbox _ _ _))
  | dead pushed rest induction =>
      exact induction.trans ((SameClaims.of_sameTasks pushed).trans (SameClaims.pushDead _ _ _ _))

/-- The invariant of the claim store. -/
structure Sound (cjson : Cjson) (keyspace : Keyspace Key) : Prop where
  typed : WellTyped keyspace
  readable : ∀ id raw, (keyspace.fields .claims).lookup id = some raw →
    ∃ claim, Stored cjson keyspace claim ∧ claim.claimId = id
  indexed : ∀ id actor, id ∈ keyspace.scores (.claimsIndex actor) ↔
    ∃ claim, Stored cjson keyspace claim ∧ claim.claimId = id ∧ claim.actorId = actor

namespace Sound

variable {cjson : Cjson} {keyspace : Keyspace Key}

theorem empty : Sound cjson Keyspace.empty where
  typed _ := rfl
  readable id raw found := by simp [Keyspace.fields] at found
  indexed id actor := by
    constructor
    · simp [Keyspace.scores]
    · rintro ⟨claim, stored, -⟩
      have found := stored.found
      simp [Keyspace.fields] at found

theorem claimsValid (sound : Sound cjson keyspace) : ClaimsValid cjson keyspace := by
  intro id raw found
  rcases sound.readable id raw found with ⟨claim, stored, rfl⟩
  have same := stored.found
  rw [found] at same
  exact ⟨claim, stored.tasks, rfl, Option.some.inj same⟩

/-- `Sound` depends on types and claims only. -/
theorem congr (sound : Sound cjson keyspace) {after : Keyspace Key} (typed : WellTyped after)
    (same : SameClaims after keyspace) : Sound cjson after := by
  have sameStored : ∀ claim, Stored cjson after claim ↔ Stored cjson keyspace claim :=
    fun claim => ⟨fun stored => ⟨stored.tasks, same.claims ▸ stored.found⟩,
      fun stored => ⟨stored.tasks, same.claims.symm ▸ stored.found⟩⟩
  refine ⟨typed, ?_, ?_⟩
  · intro id raw found
    rw [same.claims] at found
    rcases sound.readable id raw found with ⟨claim, stored, sameId⟩
    exact ⟨claim, (sameStored claim).mpr stored, sameId⟩
  · intro id actor
    rw [same.index, sound.indexed]
    simp only [sameStored]

theorem of_sameTasks (sound : Sound cjson keyspace) {after : Keyspace Key}
    (same : SameTasks after keyspace) : Sound cjson after :=
  sound.congr (same.wellTyped sound.typed) (SameClaims.of_sameTasks same)

/-! ### Changes that keep the claims -/

theorem pushInbox (sound : Sound cjson keyspace) (actorId task : String) :
    Sound cjson (pushInbox keyspace actorId task) :=
  sound.congr (WellTyped.pushInbox sound.typed _ _) (SameClaims.pushInbox _ _ _)

theorem pushDead (sound : Sound cjson keyspace) (actorId task : String) (bound : Nat) :
    Sound cjson (pushDead keyspace actorId task bound) :=
  sound.congr (WellTyped.pushDead sound.typed _ _ _) (SameClaims.pushDead _ _ _ _)

theorem requeued (sound : Sound cjson keyspace) (actorId payload : String) :
    Sound cjson (requeued keyspace actorId payload) :=
  sound.congr ((WellTyped.pushInbox sound.typed _ _).store (by simp [Key.kind]))
    (SameClaims.requeued _ _ _)

theorem transferred (sound : Sound cjson keyspace) (source destination : String) :
    Sound cjson (transferred keyspace (.queue source) (.queue destination)) :=
  sound.congr (WellTyped.transferred sound.typed _ _) (SameClaims.transferred _ _ _)

theorem transferredDead (sound : Sound cjson keyspace) (source destination : String)
    (bound : Nat) :
    Sound cjson (transferredDead keyspace (.dlq source) (.dlq destination) bound) :=
  sound.congr (WellTyped.transferredDead sound.typed _ _ _) (SameClaims.transferredDead _ _ _ _)

theorem popped (sound : Sound cjson keyspace) (actorId : String) (count : Nat) :
    Sound cjson (popped keyspace (.queue actorId) count) := by
  refine sound.congr ?_ (SameClaims.popped keyspace actorId count)
  unfold Claims.popped
  split
  · exact sound.typed
  · exact sound.typed.store (by simp [Key.kind])

theorem placed (sound : Sound cjson keyspace) {actorId : String} {bound : Nat}
    {tasks : List String} {after : Keyspace Key}
    (placed : Placed actorId bound tasks keyspace after) : Sound cjson after := by
  induction placed with
  | done => exact sound
  | inbox pushed rest induction => exact induction ((sound.pushInbox _ _).of_sameTasks pushed)
  | dead pushed rest induction => exact induction ((sound.pushDead _ _ _).of_sameTasks pushed)

/-! ### Removing a claim -/

theorem stored_dropClaim {actorId id : String} {claim : TaskClaim} :
    Stored cjson (Claims.dropClaim keyspace actorId id) claim ↔
      Stored cjson keyspace claim ∧ claim.claimId ≠ id := by
  have fields : (Claims.dropClaim keyspace actorId id).fields .claims =
      (keyspace.fields .claims).erase id := by
    simp [Claims.dropClaim, Keyspace.fields]
  constructor
  · intro stored
    have found := stored.found
    rw [fields] at found
    have different : claim.claimId ≠ id := by
      rintro rfl
      simp at found
    rw [AList.lookup_erase_ne different] at found
    exact ⟨⟨stored.tasks, found⟩, different⟩
  · rintro ⟨stored, different⟩
    refine ⟨stored.tasks, ?_⟩
    rw [fields, AList.lookup_erase_ne different]
    exact stored.found

theorem dropClaim (sound : Sound cjson keyspace) {actorId id : String}
    (own : ∀ other, id ∈ keyspace.scores (.claimsIndex other) → other = actorId) :
    Sound cjson (dropClaim keyspace actorId id) := by
  refine ⟨?_, ?_, ?_⟩
  · exact (sound.typed.store (by simp [Key.kind])).store (by simp [Key.kind])
  · intro other raw found
    have fields : (Claims.dropClaim keyspace actorId id).fields .claims =
        (keyspace.fields .claims).erase id := by
      simp [Claims.dropClaim, Keyspace.fields]
    rw [fields] at found
    have different : other ≠ id := by
      rintro rfl
      simp at found
    rw [AList.lookup_erase_ne different] at found
    rcases sound.readable other raw found with ⟨claim, stored, rfl⟩
    exact ⟨claim, stored_dropClaim.mpr ⟨stored, different⟩, rfl⟩
  · intro other actor
    simp only [stored_dropClaim]
    by_cases same : actor = actorId
    · subst same
      have scores : (Claims.dropClaim keyspace actor id).scores (.claimsIndex actor) =
          (keyspace.scores (.claimsIndex actor)).erase id := by
        simp [Claims.dropClaim, Keyspace.scores]
      rw [scores, AList.mem_erase, sound.indexed]
      constructor
      · rintro ⟨different, claim, stored, rfl, sameActor⟩
        exact ⟨claim, ⟨stored, different⟩, rfl, sameActor⟩
      · rintro ⟨claim, ⟨stored, different⟩, rfl, sameActor⟩
        exact ⟨different, claim, stored, rfl, sameActor⟩
    · have scores : (Claims.dropClaim keyspace actorId id).scores (.claimsIndex actor) =
          keyspace.scores (.claimsIndex actor) := by
        simp [Claims.dropClaim, Keyspace.scores, same]
      rw [scores, sound.indexed]
      constructor
      · rintro ⟨claim, stored, rfl, sameActor⟩
        refine ⟨claim, ⟨stored, ?_⟩, rfl, sameActor⟩
        rintro rfl
        exact same (own actor ((sound.indexed _ _).mpr ⟨claim, stored, rfl, sameActor⟩))
      · rintro ⟨claim, ⟨stored, -⟩, rfl, sameActor⟩
        exact ⟨claim, stored, rfl, sameActor⟩

/-! ### Adding or rewriting a claim -/

theorem stored_putClaim (roundTrips : RoundTrips cjson) {claim other : TaskClaim}
    (nonempty : claim.tasks ≠ []) {ms : Int} :
    Stored cjson (Claims.putClaim cjson keyspace claim ms) other ↔
      other = claim ∨ Stored cjson keyspace other ∧ other.claimId ≠ claim.claimId := by
  constructor
  · intro stored
    have found := stored.found
    rw [fields_putClaim] at found
    by_cases same : other.claimId = claim.claimId
    · rw [same, AList.lookup_insert] at found
      exact Or.inl (eq_of_encode roundTrips stored.tasks nonempty (Option.some.inj found).symm)
    · rw [AList.lookup_insert_ne same] at found
      exact Or.inr ⟨⟨stored.tasks, found⟩, same⟩
  · rintro (rfl | ⟨stored, different⟩)
    · refine ⟨nonempty, ?_⟩
      rw [fields_putClaim, AList.lookup_insert]
    · refine ⟨stored.tasks, ?_⟩
      rw [fields_putClaim, AList.lookup_insert_ne different]
      exact stored.found

theorem putClaim (roundTrips : RoundTrips cjson) (sound : Sound cjson keyspace)
    {claim : TaskClaim} (nonempty : claim.tasks ≠ [])
    (own : ∀ other, claim.claimId ∈ keyspace.scores (.claimsIndex other) →
      other = claim.actorId) (ms : Int) :
    Sound cjson (putClaim cjson keyspace claim ms) := by
  refine ⟨?_, ?_, ?_⟩
  · exact (sound.typed.store (by simp [Key.kind])).store (by simp [Key.kind])
  · intro id raw found
    rw [fields_putClaim] at found
    by_cases same : id = claim.claimId
    · exact ⟨claim, (stored_putClaim roundTrips nonempty).mpr (Or.inl rfl), same.symm⟩
    · rw [AList.lookup_insert_ne same] at found
      rcases sound.readable id raw found with ⟨other, stored, rfl⟩
      exact ⟨other, (stored_putClaim roundTrips nonempty).mpr (Or.inr ⟨stored, same⟩), rfl⟩
  · intro id actor
    simp only [stored_putClaim roundTrips nonempty]
    constructor
    · intro member
      by_cases same : id = claim.claimId
      · have sameActor : claim.actorId = actor := by
          rw [scores_putClaim] at member
          split at member
          · next equal => exact equal.symm
          · exact (own actor (same ▸ member)).symm
        exact ⟨claim, Or.inl rfl, same.symm, sameActor⟩
      · have before : id ∈ keyspace.scores (.claimsIndex actor) := by
          rw [scores_putClaim] at member
          split at member
          · exact (AList.mem_insert _).mp member |>.resolve_left same
          · exact member
        rcases (sound.indexed id actor).mp before with ⟨other, stored, rfl, sameActor⟩
        exact ⟨other, Or.inr ⟨stored, same⟩, rfl, sameActor⟩
    · rintro ⟨other, rfl | ⟨stored, different⟩, rfl, rfl⟩
      · rw [scores_putClaim, if_pos rfl, AList.mem_insert]
        exact Or.inl rfl
      · have before := (sound.indexed _ _).mpr ⟨other, stored, rfl, rfl⟩
        rw [scores_putClaim]
        split
        · exact (AList.mem_insert _).mpr (Or.inr before)
        · exact before

/-- A claim is in the index of one actor only. -/
theorem index_unique (roundTrips : RoundTrips cjson) (sound : Sound cjson keyspace)
    {id first second : String} (left : id ∈ keyspace.scores (.claimsIndex first))
    (right : id ∈ keyspace.scores (.claimsIndex second)) : first = second := by
  rcases (sound.indexed _ _).mp left with ⟨claim, stored, sameId, rfl⟩
  rcases (sound.indexed _ _).mp right with ⟨other, otherStored, otherId, rfl⟩
  rw [stored.unique roundTrips otherStored (sameId.trans otherId.symm)]

/-! ### Recovery -/

end Sound

theorem mem_scores_dropClaim {keyspace : Keyspace Key} {actorId id other actor : String}
    (member : other ∈ (dropClaim keyspace actorId id).scores (.claimsIndex actor)) :
    other ∈ keyspace.scores (.claimsIndex actor) := by
  by_cases same : actor = actorId
  · subst same
    have scores : (dropClaim keyspace actor id).scores (.claimsIndex actor) =
        (keyspace.scores (.claimsIndex actor)).erase id := by
      simp [dropClaim, Keyspace.scores]
    rw [scores, AList.mem_erase] at member
    exact member.2
  · simpa [dropClaim, Keyspace.scores, same] using member

/-- A recovery of an actor's own claims preserves what dropping one of them and placing
its tasks preserve. -/
theorem Recovered.preserves {kept : Keyspace Key → Prop} {actorId : String} {bound : Nat}
    (drops : ∀ {keyspace id}, kept keyspace →
      (∀ other, id ∈ keyspace.scores (.claimsIndex other) → other = actorId) →
      kept (dropClaim keyspace actorId id))
    (places : ∀ {tasks before after}, Placed actorId bound tasks before after → kept before →
      kept after)
    {claims : List (String × List String)} {before after : Keyspace Key}
    (recovered : Recovered actorId bound claims before after) (holds : kept before)
    (own : ∀ claim ∈ claims, ∀ other,
      claim.1 ∈ before.scores (.claimsIndex other) → other = actorId) :
    kept after := by
  induction recovered with
  | done => exact holds
  | claim placed rest induction =>
      apply induction (places placed (drops holds (own _ List.mem_cons_self)))
      intro claim member other inside
      rw [placed.sameClaims.index] at inside
      exact own claim (List.mem_cons_of_mem _ member) other (mem_scores_dropClaim inside)

theorem Sound.recovered {cjson : Cjson} {actorId : String} {bound : Nat}
    {claims : List (String × List String)} {before after : Keyspace Key}
    (recovered : Recovered actorId bound claims before after) (sound : Sound cjson before)
    (own : ∀ claim ∈ claims, ∀ other,
      claim.1 ∈ before.scores (.claimsIndex other) → other = actorId) :
    Sound cjson after :=
  recovered.preserves (fun sound own => sound.dropClaim own)
    (fun placed sound => sound.placed placed) sound own

theorem SameClaims.stored {cjson : Cjson} {left right : Keyspace Key}
    (same : SameClaims left right) {claim : TaskClaim} (stored : Stored cjson left claim) :
    Stored cjson right claim :=
  ⟨stored.tasks, same.claims ▸ stored.found⟩

theorem stored_recovered {cjson : Cjson} {actorId : String} {bound : Nat}
    {claims : List (String × List String)} {before after : Keyspace Key}
    (recovered : Recovered actorId bound claims before after) {claim : TaskClaim}
    (stored : Stored cjson after claim) : Stored cjson before claim := by
  induction recovered with
  | done => exact stored
  | claim placed rest induction =>
      exact (Sound.stored_dropClaim.mp (placed.sameClaims.stored (induction stored))).1

/-! ### Purge -/

theorem stored_purged {cjson : Cjson} {actor : String} {before after : Keyspace Key}
    (sound : Sound cjson before) (roundTrips : RoundTrips cjson)
    (purged : Purged actor before after) {claim : TaskClaim} :
    Stored cjson after claim ↔ Stored cjson before claim ∧ claim.actorId ≠ actor := by
  constructor
  · intro stored
    have found := stored.found
    rw [purged.lookup] at found
    split at found
    · simp at found
    · next outside =>
        refine ⟨⟨stored.tasks, found⟩, fun owned => outside ?_⟩
        exact (sound.indexed _ _).mpr ⟨claim, ⟨stored.tasks, found⟩, rfl, owned⟩
  · rintro ⟨stored, other⟩
    refine ⟨stored.tasks, ?_⟩
    have outside : claim.claimId ∉ before.scores (.claimsIndex actor) := by
      intro inside
      exact other (sound.index_unique roundTrips
        ((sound.indexed _ _).mpr ⟨claim, stored, rfl, rfl⟩) inside)
    rw [purged.lookup, if_neg outside, stored.found]

theorem Sound.purged {cjson : Cjson} (roundTrips : RoundTrips cjson) {actor : String}
    {before after : Keyspace Key} (sound : Sound cjson before)
    (purged : Purged actor before after) : Sound cjson after := by
  refine ⟨purged.typed, ?_, ?_⟩
  · intro id raw found
    have stillFound := found
    rw [purged.lookup] at stillFound
    split at stillFound
    · simp at stillFound
    · rcases sound.readable id raw stillFound with ⟨claim, stored, rfl⟩
      refine ⟨claim, ⟨stored.tasks, ?_⟩, rfl⟩
      rw [found, ← stillFound, stored.found]
  · intro id other
    simp only [stored_purged sound roundTrips purged]
    by_cases same : other = actor
    · rw [same, purged.own]
      constructor
      · intro member
        exact absurd member (AList.notMem_empty id)
      · rintro ⟨claim, ⟨-, different⟩, -, sameActor⟩
        exact absurd sameActor different
    · rw [purged.others other same, sound.indexed]
      constructor
      · rintro ⟨claim, stored, sameId, rfl⟩
        exact ⟨claim, ⟨stored, same⟩, sameId, rfl⟩
      · rintro ⟨claim, ⟨stored, -⟩, sameId, sameActor⟩
        exact ⟨claim, stored, sameId, sameActor⟩

/-- An unregistration purges the name and deletes its mailbox. -/
theorem run_unregister (cjson : Cjson) {keyspace : Keyspace Key} (typed : WellTyped keyspace)
    (name sessionId : String) :
    ∃ before purged, SameTasks before keyspace ∧ Purged name before purged ∧
      SameTasks ((unregister cjson name sessionId).run keyspace).2
        (purged.store (.queue name) none) := by
  have closed : ∃ first, (Script.when (sessionId ≠ "") (do
      del (.session sessionId)
      del (.lease sessionId)
      srem (.agentSessions name) sessionId) : Script Key Unit).run keyspace = (.ok (), first) ∧
      SameTasks first keyspace := by
    by_cases absent : sessionId = ""
    · exact ⟨keyspace, by rw [Script.when, if_neg (by simpa using absent)]; rfl,
        SameTasks.refl keyspace⟩
    · obtain ⟨bare, bareEq⟩ : ∃ bare, bare =
        (keyspace.store (.session sessionId) none).store (.lease sessionId) none := ⟨_, rfl⟩
      have bareSame : SameTasks bare keyspace := by
        rw [bareEq]
        exact ((SameTasks.refl keyspace).store rfl rfl).store rfl rfl
      have isSet : bare.admits (.agentSessions name) .set = true :=
        bareSame.wellTyped typed (.agentSessions name)
      refine ⟨bare.store (.agentSessions name)
        (Value.ofMembers ((bare.members (.agentSessions name)).filter (· ≠ sessionId))), ?_,
        bareSame.store rfl (by simp [Key.kind])⟩
      have removed : (srem (.agentSessions name) sessionId).run bare = (.ok (), bare.store
          (.agentSessions name)
          (Value.ofMembers ((bare.members (.agentSessions name)).filter (· ≠ sessionId)))) := by
        simp only [srem, run_typed isSet]
      rw [Script.when, if_pos absent, ← removed, bareEq]
      rfl
  rcases closed with ⟨first, closed, firstSame⟩
  have firstTyped := firstSame.wellTyped typed
  have retired : ∃ second, (hdel .registry name).run first = (.ok (), second) ∧
      SameTasks second first := by
    have isHash : first.admits .registry .hash = true := firstTyped .registry
    refine ⟨first.store .registry (Value.ofFields ((first.fields .registry).erase name)), ?_,
      (SameTasks.refl first).store rfl (by simp [Key.kind])⟩
    simp only [hdel, run_typed isHash]
  rcases retired with ⟨second, retired, secondSame⟩
  have secondTyped := secondSame.wellTyped firstTyped
  rcases run_purgeActorClaims cjson name secondTyped with ⟨count, purged, ran, purge⟩
  refine ⟨second, purged, secondSame.trans firstSame, purge, ?_⟩
  rw [unregister, Script.run_bind_ok closed, Script.run_bind_ok retired, Script.run_bind_ok ran]
  exact ((SameTasks.refl _).store rfl rfl).store rfl rfl

/-! ## What an action can do -/

/-- Actions that delete tasks. -/
def Action.deletes : Action → Bool
  | .purge _ => true
  | .unregister _ _ => true
  | _ => false

/-- The message that a push accepted. -/
def Action.accepted (cjson : Cjson) (keyspace : Keyspace Key) : Action → List QueueMessage
  | .push bound message =>
      match ((boundedPush cjson (pushArgs bound message)).run keyspace).1 with
      | .ok true => [message]
      | _ => []
  | _ => []

/-- The tasks of the claim that was acknowledged. -/
def Action.acknowledged (cjson : Cjson) (keyspace : Keyspace Key) : Action → List String
  | .ack claimId actorId sessionId =>
      match ((Claims.ack cjson claimId actorId sessionId).run keyspace).1 with
      | .ok (.acknowledged _) => tasksOf cjson keyspace claimId
      | _ => []
  | _ => []

/-- What an action that deletes nothing can do to the tasks: the keyspace after
it, the payloads it accepted and the tasks it acknowledged. -/
inductive Change (cjson : Cjson) (before : Keyspace Key) :
    Action → Keyspace Key → List String → List String → Prop
  | none (action : Action) : Change cjson before action before [] []
  | pushed (bound : Option Int) (message : QueueMessage) :
      Change cjson before (.push bound message)
        (pushInbox before message.recipient message.serialized) [message.serialized] []
  | recovered {actorId : String} {now : Option Int} {ids : List String} {after : Keyspace Key}
      (nodup : ids.Nodup) (indexed : ∀ id ∈ ids, id ∈ before.scores (.claimsIndex actorId))
      (moved : Recovered actorId dlqMaxLength
        (ids.map fun id => (id, tasksOf cjson before id)) before after) :
      Change cjson before (.recover actorId now) after [] []
  | claimed (args : BatchClaimArgs) (positive : 0 < args.maxBatch)
      (fresh : args.claimId ∉ before.fields .claims)
      (nonempty : before.items (.queue args.actorId) ≠ []) :
      Change cjson before (.batchClaim args)
        (putClaim cjson (popped before (.queue args.actorId) args.maxBatch)
          (args.claim ((before.items (.queue args.actorId)).take args.maxBatch))
          args.expiresAtMs) [] []
  | renewed {args : RenewArgs} {claim : TaskClaim} {claimedMs expiresMs : Int}
      (stored : Stored cjson before claim)
      (renewable : Renewable args claim claimedMs expiresMs) :
      Change cjson before (.renew args)
        (putClaim cjson before (claim.renewedTo (args.newExpires claimedMs))
          (args.newExpires claimedMs)) [] []
  | acknowledged {claim : TaskClaim} (stored : Stored cjson before claim) :
      Change cjson before (.ack claim.claimId claim.actorId claim.sessionId)
        (dropClaim before claim.actorId claim.claimId) [] (tasksOf cjson before claim.claimId)
  | requeued {actorId payload : String} (messageId : String)
      (dead : payload ∈ before.items (.dlq actorId)) :
      Change cjson before (.requeue actorId messageId) (requeued before actorId payload) [] []
  | migrated {source destination : String} (different : source ≠ destination) (guarded : Bool) :
      Change cjson before (.migrate source destination guarded none)
        (transferred before (.queue source) (.queue destination)) [] []
  | migratedDead {source destination : String} (different : source ≠ destination)
      (guarded : Bool) (bound : Nat) :
      Change cjson before (.migrate source destination guarded (some bound))
        (transferredDead (transferred before (.queue source) (.queue destination))
          (.dlq source) (.dlq destination) bound) [] []

section Change

variable {cjson : Cjson} {keyspace : Keyspace Key}

theorem change_push (reads : ReadsMessages cjson) (sound : Sound cjson keyspace)
    (bound : Option Int) (message : QueueMessage) :
    ∃ exact, SameTasks (Action.after cjson keyspace (.push bound message)) exact ∧
      Change cjson keyspace (.push bound message) exact
        ((Action.accepted cjson keyspace (.push bound message)).map QueueMessage.serialized)
        [] := by
  rcases @run_boundedPush cjson message bound keyspace reads sound.typed with
    ⟨-, outcome, ran, refused⟩ | ⟨after, ran, same⟩
  · refine ⟨keyspace, ?_, ?_⟩
    · rw [Action.after, ran]
      exact SameTasks.refl keyspace
    · have nothing : Action.accepted cjson keyspace (.push bound message) = [] := by
        unfold Action.accepted
        -- the refusal rules out the first branch
        simp only [ran]
      rw [nothing]
      exact .none _
  · refine ⟨pushInbox keyspace message.recipient message.serialized, ?_, ?_⟩
    · rw [Action.after, ran]
      exact same
    · have accepted : Action.accepted cjson keyspace (.push bound message) = [message] := by
        unfold Action.accepted
        simp only [ran]
      rw [accepted]
      exact .pushed bound message

theorem change_recover (roundTrips : RoundTrips cjson) (sound : Sound cjson keyspace)
    (actorId : String) (now : Option Int) :
    Change cjson keyspace (.recover actorId now)
      (Action.after cjson keyspace (.recover actorId now)) [] [] := by
  rcases run_recover roundTrips sound.claimsValid actorId now with unchanged | moved
  · rw [Action.after, unchanged]
    exact .none _
  · refine .recovered ?_ ?_ moved
    · cases now with
      | none => exact List.nodup_nil
      | some now => exact nodup_membersUpTo _ _
    · intro id member
      cases now with
      | none => exact absurd member List.not_mem_nil
      | some now =>
          rcases mem_membersUpTo.mp member with ⟨score, found, -⟩
          exact AList.lookup_isSome.mp (Option.isSome_of_eq_some found)

theorem change_batchClaim (sound : Sound cjson keyspace) {args : BatchClaimArgs}
    (positive : 0 < args.maxBatch) (fresh : args.claimId ∉ keyspace.fields .claims) :
    Change cjson keyspace (.batchClaim args)
      (Action.after cjson keyspace (.batchClaim args)) [] [] := by
  have index := sound.typed.index args.actorId
  have inbox := sound.typed.inbox args.actorId
  cases reached : ceilingReached args keyspace with
  | true =>
      rw [Action.after, run_batchClaim_ceiling index reached]
      exact .none _
  | false =>
      by_cases empty : keyspace.items (.queue args.actorId) = []
      · rw [Action.after, run_batchClaim_empty index reached positive inbox empty]
        exact .none _
      · rw [Action.after, run_batchClaim_claimed index reached positive inbox empty
          sound.typed.claims]
        exact .claimed args positive fresh empty

theorem change_renew (roundTrips : RoundTrips cjson) (sound : Sound cjson keyspace)
    (args : RenewArgs) :
    Change cjson keyspace (.renew args) (Action.after cjson keyspace (.renew args)) [] [] := by
  have indexed : ∀ claim : TaskClaim, (keyspace.fields .claims).lookup claim.claimId =
      some (cjson.encode claim.toJson) → claim.tasks ≠ [] →
      claim.claimId ∈ keyspace.scores (.claimsIndex claim.actorId) :=
    fun claim found tasks => (sound.indexed _ _).mpr ⟨claim, ⟨tasks, found⟩, rfl, rfl⟩
  rcases @run_renew cjson keyspace args roundTrips sound.typed sound.claimsValid indexed with
    ⟨reply, unchanged, -⟩ | ⟨claim, claimedMs, expiresMs, found, tasks, -, renewable, ran⟩
  · rw [Action.after, unchanged]
    exact .none _
  · rw [Action.after, ran]
    exact .renewed ⟨tasks, found⟩ renewable

theorem change_ack (roundTrips : RoundTrips cjson) (sound : Sound cjson keyspace)
    (claimId actorId sessionId : String) :
    ∃ exact, SameTasks (Action.after cjson keyspace (.ack claimId actorId sessionId)) exact ∧
      Change cjson keyspace (.ack claimId actorId sessionId) exact []
        (Action.acknowledged cjson keyspace (.ack claimId actorId sessionId)) := by
  rcases @run_ack cjson keyspace claimId actorId sessionId roundTrips sound.typed
    sound.claimsValid with
    ⟨reply, ran, refused⟩ | ⟨claim, after, found, tasks, rfl, rfl, ran, same⟩
  · refine ⟨keyspace, ?_, ?_⟩
    · rw [Action.after, ran]
      exact SameTasks.refl keyspace
    · have nothing :
          Action.acknowledged cjson keyspace (.ack claimId actorId sessionId) = [] := by
        unfold Action.acknowledged
        simp only [ran]
        split
        · next tasks accepted => exact absurd (Except.ok.inj accepted) (refused tasks)
        · rfl
      rw [nothing]
      exact .none _
  · rcases sound.readable claimId _ found with ⟨stored, storedAt, rfl⟩
    have sameClaim : claim = stored := by
      have again := storedAt.found
      rw [found] at again
      exact eq_of_encode roundTrips tasks storedAt.tasks (Option.some.inj again)
    subst sameClaim
    refine ⟨_, by rw [Action.after, ran]; exact same, ?_⟩
    have acknowledged : Action.acknowledged cjson keyspace
        (.ack claim.claimId claim.actorId claim.sessionId) =
          tasksOf cjson keyspace claim.claimId := by
      unfold Action.acknowledged
      simp only [ran]
    rw [acknowledged]
    exact .acknowledged storedAt

theorem change_migrate (sound : Sound cjson keyspace) (source destination : String)
    (guarded : Bool) (deadLetterBound : Option Nat) :
    Change cjson keyspace (.migrate source destination guarded deadLetterBound)
      (Action.after cjson keyspace (.migrate source destination guarded deadLetterBound))
      [] [] := by
  rcases run_migrate sound.typed source destination guarded deadLetterBound with
    unchanged | ⟨different, moved⟩
  · rw [Action.after, unchanged]
    exact .none _
  · rw [Action.after, moved]
    cases deadLetterBound with
    | none => exact .migrated different guarded
    | some bound => exact .migratedDead different guarded bound

/-- An action that deletes nothing makes one of the changes, up to keys that hold
no tasks. -/
theorem Action.change (roundTrips : RoundTrips cjson) (reads : ReadsMessages cjson)
    (sound : Sound cjson keyspace) {action : Action} (admissible : action.Admissible keyspace)
    (keeps : action.deletes = false) :
    ∃ exact, SameTasks (action.after cjson keyspace) exact ∧
      Change cjson keyspace action exact
        ((action.accepted cjson keyspace).map QueueMessage.serialized)
        (action.acknowledged cjson keyspace) := by
  cases action with
  | push bound message => exact change_push reads sound bound message
  | recover actorId now =>
      exact ⟨_, SameTasks.refl _, change_recover roundTrips sound actorId now⟩
  | batchClaim args =>
      exact ⟨_, SameTasks.refl _, change_batchClaim sound admissible.1 admissible.2⟩
  | renew args => exact ⟨_, SameTasks.refl _, change_renew roundTrips sound args⟩
  | ack claimId actorId sessionId =>
      exact change_ack roundTrips sound claimId actorId sessionId
  | requeue actorId messageId =>
      rcases @run_requeue cjson keyspace actorId messageId sound.typed with
        unchanged | ⟨payload, dead, same⟩
      · exact ⟨keyspace, by rw [Action.after, unchanged]; exact SameTasks.refl _, .none _⟩
      · exact ⟨_, same, .requeued messageId dead⟩
  | migrate source destination guarded deadLetterBound =>
      exact ⟨_, SameTasks.refl _,
        change_migrate sound source destination guarded deadLetterBound⟩
  | purge actor => cases keeps
  | unregister name sessionId => cases keeps
  | expire key => exact ⟨keyspace, (SameTasks.refl keyspace).store admissible rfl, .none _⟩

end Change

/-! ## Every action keeps the invariant -/

theorem Sound.change {cjson : Cjson} (roundTrips : RoundTrips cjson)
    {before after : Keyspace Key} {action : Action} {accepted acknowledged : List String}
    (sound : Sound cjson before)
    (change : Change cjson before action after accepted acknowledged) :
    Sound cjson after := by
  have own : ∀ {claim : TaskClaim}, Stored cjson before claim → ∀ other,
      claim.claimId ∈ before.scores (.claimsIndex other) → other = claim.actorId :=
    fun stored other inside => sound.index_unique roundTrips inside
      ((sound.indexed _ _).mpr ⟨_, stored, rfl, rfl⟩)
  cases change with
  | none => exact sound
  | pushed bound message => exact sound.pushInbox _ _
  | recovered nodup indexed moved =>
      refine sound.recovered moved ?_
      intro claim member other inside
      rcases List.mem_map.mp member with ⟨id, listed, rfl⟩
      exact sound.index_unique roundTrips inside (indexed id listed)
  | claimed args positive fresh nonempty =>
      refine (sound.popped args.actorId args.maxBatch).putClaim roundTrips ?_ ?_ _
      · exact take_ne_nil positive nonempty
      · intro other inside
        rw [(SameClaims.popped _ _ _).index] at inside
        rcases (sound.indexed _ _).mp inside with ⟨claim, stored, sameId, -⟩
        refine absurd ?_ fresh
        have found := stored.found
        rw [sameId] at found
        exact AList.lookup_isSome.mp (Option.isSome_of_eq_some found)
  | @renewed args claim claimedMs expiresMs stored renewable =>
      have tasks : (claim.renewedTo (args.newExpires claimedMs)).tasks ≠ [] := stored.tasks
      exact sound.putClaim roundTrips tasks (@own claim stored) _
  | acknowledged stored => exact sound.dropClaim (own stored)
  | requeued messageId dead => exact sound.requeued _ _
  | migrated different guarded => exact sound.transferred _ _
  | migratedDead different guarded bound => exact (sound.transferred _ _).transferredDead _ _ _

/-- Every action keeps the invariant. -/
theorem Sound.after {cjson : Cjson} (roundTrips : RoundTrips cjson)
    (reads : ReadsMessages cjson) {keyspace : Keyspace Key} (sound : Sound cjson keyspace)
    {action : Action} (admissible : action.Admissible keyspace) :
    Sound cjson (action.after cjson keyspace) := by
  cases deletes : action.deletes with
  | false =>
      rcases Action.change roundTrips reads sound admissible deletes with ⟨exact, same, change⟩
      exact (sound.change roundTrips change).of_sameTasks same
  | true =>
      cases action with
      | purge actor =>
          rcases run_purgeActorClaims cjson actor sound.typed with ⟨count, after, ran, purged⟩
          rw [Action.after, ran]
          exact sound.purged roundTrips purged
      | unregister name sessionId =>
          obtain ⟨before, purged, sameBefore, purge, sameAfter⟩ :=
            run_unregister cjson sound.typed name sessionId
          have clean := (sound.of_sameTasks sameBefore).purged roundTrips purge
          exact (clean.congr (clean.typed.store rfl)
            (SameClaims.store _ _ (by simp) (by simp))).of_sameTasks sameAfter
      | _ => cases deletes

/-! Messages pushed without a bound, and a claim of them. -/

def greeting : QueueMessage where
  id := "m"
  sender := "a"
  recipient := "b"
  timestamp := "2026-01-01T00:00:00.000Z"
  type := .task
  content := "hello"
  metadata := none
  inReplyTo := none

def parting : QueueMessage := { greeting with id := "n" }

def greetedClaim : BatchClaimArgs where
  claimId := "c"
  actorId := "b"
  sessionId := "s"
  claimedAt := "2026-01-01T00:00:00.000Z"
  expiresAt := "2026-01-01T00:05:00.000Z"
  expiresAtMs := 1
  maxBatch := 10
  maxConcurrent := 1

theorem run_push_plain {keyspace : Keyspace Key} (typed : WellTyped keyspace)
    (message : QueueMessage) :
    ∃ after, (boundedPush Cjson.plain (pushArgs none message)).run keyspace =
        (.ok true, after) ∧
      SameTasks after (pushInbox keyspace message.recipient message.serialized) := by
  rcases @run_boundedPush Cjson.plain message none keyspace plain_readsMessages typed with
    ⟨full | unreadable, -⟩ | accepted
  · cases full
  · rw [Cjson.plain_decode, QueueMessage.serialized, Json.parse_render] at unreadable
    cases unreadable
  · exact accepted

theorem accepted_push_plain {keyspace : Keyspace Key} (typed : WellTyped keyspace)
    (message : QueueMessage) :
    Action.accepted Cjson.plain keyspace (.push none message) = [message] := by
  rcases run_push_plain typed message with ⟨after, ran, -⟩
  simp only [Action.accepted, ran]

theorem sameTasks_push_plain {keyspace : Keyspace Key} (typed : WellTyped keyspace)
    (message : QueueMessage) :
    SameTasks (Action.after Cjson.plain keyspace (.push none message))
      (pushInbox keyspace message.recipient message.serialized) := by
  rcases run_push_plain typed message with ⟨after, ran, same⟩
  rw [Action.after, ran]
  exact same

theorem run_push_greeting :
    ∃ after, (boundedPush Cjson.plain (pushArgs none greeting)).run Keyspace.empty =
        (.ok true, after) ∧
      SameTasks after (pushInbox Keyspace.empty "b" greeting.serialized) :=
  run_push_plain (@Sound.empty Cjson.plain).typed greeting

/-- Both messages are in the inbox. -/
def greetings : Keyspace Key :=
  Action.after Cjson.plain (Action.after Cjson.plain Keyspace.empty (.push none greeting))
    (.push none parting)

theorem sound_push_plain {keyspace : Keyspace Key} (sound : Sound Cjson.plain keyspace)
    (message : QueueMessage) :
    Sound Cjson.plain (Action.after Cjson.plain keyspace (.push none message)) :=
  (sound.pushInbox message.recipient message.serialized).of_sameTasks
    (sameTasks_push_plain sound.typed message)

theorem greetings_sound : Sound Cjson.plain greetings :=
  sound_push_plain (sound_push_plain Sound.empty greeting) parting

theorem greetings_same : SameTasks greetings
    (pushInbox (pushInbox Keyspace.empty "b" greeting.serialized) "b" parting.serialized) := by
  have empty : Sound Cjson.plain Keyspace.empty := Sound.empty
  have once := sameTasks_push_plain empty.typed greeting
  have twice := sameTasks_push_plain (sound_push_plain empty greeting).typed parting
  exact twice.trans (SameTasks.pushInbox once "b" parting.serialized)

theorem greetedClaim_fresh : greetedClaim.claimId ∉ greetings.fields .claims := by
  rw [greetings_same.fields_eq]
  simp [pushInbox, Keyspace.fields]

end GptQueue.Claims
