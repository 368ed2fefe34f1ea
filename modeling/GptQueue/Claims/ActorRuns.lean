import GptQueue.Claims.RecoveryRuns

/-! # What happens to the messages of one actor

Claims, recoveries, acknowledgements and requeues do to the keys of an actor what they do
to its state. Two states that differ only in the counters of messages that neither holds
stay so.
-/

namespace GptQueue.Claims

open Redis

/-! ## What happens later -/

/-- What can happen to the messages of one actor when none is sent. -/
inductive Later
  | claim (args : BatchClaimArgs)
  | recover (now : Option Int)
  | ack (claimId sessionId : String)
  | requeue (messageId : String)
  /-- A counter reaches its time to live. -/
  | lapse (messageId : String)

/-- The action under a name. -/
def Later.action (actor : String) : Later → Action
  | .claim args => .batchClaim { args with actorId := actor }
  | .recover now => .recover actor now
  | .ack claimId sessionId => .ack claimId actor sessionId
  | .requeue messageId => .requeue actor messageId
  | .lapse messageId => .expire (Key.recoverCount actor messageId)

def ActorState.after (cjson : Cjson) (state : ActorState) : Later → ActorState
  | .claim args => state.claim args
  | .recover now => state.recover cjson now
  | .ack claimId sessionId => state.ack cjson claimId sessionId
  | .requeue messageId => state.requeue cjson messageId
  | .lapse messageId => state.lapse messageId

/-- Under any name, an action does to the keys what it does to the actor's state. -/
theorem actorState_after {cjson : Cjson} (roundTrips : RoundTrips cjson)
    {keyspace : Keyspace Key} (sound : Sound cjson keyspace) {actor : String} {later : Later}
    (admissible : (later.action actor).Admissible keyspace) :
    actorState cjson ((later.action actor).after cjson keyspace) actor =
      (actorState cjson keyspace actor).after cjson later := by
  cases later with
  | claim args => exact actorState_claim roundTrips sound admissible.1
  | recover now => exact actorState_recover roundTrips sound actor now
  | ack claimId sessionId => exact actorState_ack roundTrips sound actor claimId sessionId
  | requeue messageId => exact actorState_requeue sound actor messageId
  | lapse messageId => exact actorState_lapse actor messageId

/-! ## States that differ in counters -/

section Alike

variable {cjson : Cjson} {known : List String} {left right : ActorState}

theorem tracked_append (first second : List String) :
    tracked cjson (first ++ second) = tracked cjson first ++ tracked cjson second :=
  List.filterMap_append

theorem tracked_subset {first second : List String} (subset : first ⊆ second)
    (isKnown : tracked cjson second ⊆ known) : tracked cjson first ⊆ known :=
  List.Subset.trans (List.filterMap_subset _ subset) isKnown

/-- Two states that differ at most in the counters of messages that are not known, while
every message in them is. -/
structure Alike (cjson : Cjson) (known : List String) (left right : ActorState) : Prop where
  inbox : left.inbox = right.inbox
  dead : left.dead = right.dead
  outstanding : left.outstanding = right.outstanding
  held : left.held = right.held
  counter : ∀ message ∈ known, left.counter message = right.counter message
  inboxKnown : tracked cjson left.inbox ⊆ known
  deadKnown : tracked cjson left.dead ⊆ known
  heldKnown : ∀ id, tracked cjson (left.tasks id) ⊆ known

namespace Alike

theorem tasks_eq (alike : Alike cjson known left right) (id : String) :
    left.tasks id = right.tasks id := by
  rw [ActorState.tasks, ActorState.tasks, alike.held]

/-- A message joins both inboxes. -/
theorem pushed (alike : Alike cjson known left right) {payload : String}
    (isKnown : tracked cjson [payload] ⊆ known) :
    Alike cjson known { left with inbox := left.inbox ++ [payload] }
      { right with inbox := right.inbox ++ [payload] } :=
  { alike with
    inbox := congrArg (· ++ [payload]) alike.inbox
    inboxKnown := by
      rw [tracked_append]
      exact List.append_subset.mpr ⟨alike.inboxKnown, isKnown⟩ }

/-- Both dead-letter queues become the same one. -/
theorem withDead (alike : Alike cjson known left right) {dead other : List String}
    (same : dead = other) (isKnown : tracked cjson dead ⊆ known) :
    Alike cjson known { left with dead := dead } { right with dead := other } :=
  { alike with
    dead := same
    deadKnown := isKnown }

/-- A counter takes the same value in both. -/
theorem counts (alike : Alike cjson known left right) (changed : String)
    (value : Option Value) :
    Alike cjson known { left with counter := Function.update left.counter changed value }
      { right with counter := Function.update right.counter changed value } :=
  { alike with
    counter := by
      intro message member
      by_cases same : message = changed
      · simp [same]
      · simpa [same] using alike.counter message member }

theorem drop (alike : Alike cjson known left right) (id : String) :
    Alike cjson known (left.drop id) (right.drop id) :=
  { alike with
    outstanding := congrArg (AList.erase id) alike.outstanding
    held := congrArg (fun held : String → Option (String × List String) =>
      Function.update held id none) alike.held
    heldKnown := by
      intro other
      by_cases same : other = id
      · have nothing : (left.drop id).tasks other = [] := by
          simp [ActorState.tasks, ActorState.drop, same]
        rw [nothing]
        exact List.nil_subset known
      · have kept : (left.drop id).tasks other = left.tasks other := by
          simp [ActorState.tasks, ActorState.drop, same]
        rw [kept]
        exact alike.heldKnown other }

theorem place (alike : Alike cjson known left right) {payload : String}
    (isKnown : tracked cjson [payload] ⊆ known) :
    Alike cjson known (left.place cjson payload) (right.place cjson payload) := by
  rw [ActorState.place, ActorState.place]
  cases found : trackedId cjson payload with
  | none => exact alike.pushed isKnown
  | some message =>
      have member : message ∈ known := isKnown (by simp [tracked, found])
      dsimp only
      rw [← alike.counter message member]
      split
      · have isCut : tracked cjson ((payload :: left.dead).take dlqMaxLength) ⊆ known := by
          apply tracked_subset (List.take_subset _ _)
          rw [← List.singleton_append, tracked_append]
          exact List.append_subset.mpr ⟨isKnown, alike.deadKnown⟩
        exact (alike.withDead (by rw [alike.dead]) isCut).counts message none
      · exact (alike.pushed isKnown).counts message _

theorem placeAll (alike : Alike cjson known left right) {payloads : List String}
    (isKnown : tracked cjson payloads ⊆ known) :
    Alike cjson known (payloads.foldl (ActorState.place cjson) left)
      (payloads.foldl (ActorState.place cjson) right) := by
  induction payloads generalizing left right with
  | nil => exact alike
  | cons payload payloads induction =>
      rw [← List.singleton_append, tracked_append, List.append_subset] at isKnown
      exact induction (alike.place isKnown.1) isKnown.2

theorem releaseAll (alike : Alike cjson known left right)
    {claims : List (String × List String)}
    (isKnown : ∀ claim ∈ claims, tracked cjson claim.2 ⊆ known) :
    Alike cjson known (claims.foldl (ActorState.release cjson) left)
      (claims.foldl (ActorState.release cjson) right) := by
  induction claims generalizing left right with
  | nil => exact alike
  | cons claim claims induction =>
      apply induction
      · exact (alike.drop claim.1).placeAll (isKnown claim List.mem_cons_self)
      · intro other member
        exact isKnown other (List.mem_cons_of_mem _ member)

theorem expired_eq (alike : Alike cjson known left right) (now : Option Int) :
    left.expired now = right.expired now := by
  rw [ActorState.expired, ActorState.expired, alike.outstanding]
  simp only [alike.tasks_eq]

theorem expiredKnown (alike : Alike cjson known left right) (now : Option Int) :
    ∀ claim ∈ left.expired now, tracked cjson claim.2 ⊆ known := by
  intro claim member
  rcases List.mem_map.mp member with ⟨id, -, rfl⟩
  exact alike.heldKnown id

theorem recover (alike : Alike cjson known left right) (now : Option Int) :
    Alike cjson known (left.recover cjson now) (right.recover cjson now) := by
  have isKnown := alike.expiredKnown now
  have sameCheck : ((left.expired now).all fun claim =>
        (tracked cjson claim.2).all fun message => usable (left.counter message)) =
      (left.expired now).all fun claim =>
        (tracked cjson claim.2).all fun message => usable (right.counter message) := by
    rw [Bool.eq_iff_iff, List.all_eq_true, List.all_eq_true]
    apply forall₂_congr
    intro claim member
    rw [List.all_eq_true, List.all_eq_true]
    apply forall₂_congr
    intro message inside
    rw [alike.counter message (isKnown claim member inside)]
  rw [ActorState.recover, ActorState.recover, ← alike.expired_eq now, sameCheck]
  split
  · exact alike.releaseAll isKnown
  · exact alike

theorem claim (alike : Alike cjson known left right) (args : BatchClaimArgs) :
    Alike cjson known (left.claim args) (right.claim args) := by
  rw [ActorState.claim, ActorState.claim, ← alike.outstanding, ← alike.inbox]
  split
  · exact alike
  · split
    · exact alike
    · exact
        { alike with
          inbox := rfl
          outstanding := rfl
          held := congrArg (fun held => Function.update held args.claimId
            (some (args.sessionId, left.inbox.take args.maxBatch))) alike.held
          inboxKnown := tracked_subset (List.drop_subset _ _) alike.inboxKnown
          heldKnown := by
            intro id
            by_cases same : id = args.claimId
            · have batch := tracked_subset (List.take_subset args.maxBatch left.inbox)
                alike.inboxKnown
              simpa [ActorState.tasks, same] using batch
            · have kept := alike.heldKnown id
              simpa [ActorState.tasks, same] using kept }

theorem ack (alike : Alike cjson known left right) (id session : String) :
    Alike cjson known (left.ack cjson id session) (right.ack cjson id session) := by
  rw [ActorState.ack, ActorState.ack, ← alike.held]
  cases left.held id with
  | none => exact alike
  | some claim =>
      dsimp only
      split
      · exact
          { alike.drop id with
            counter := by
              intro message member
              simp only [alike.counter message member] }
      · exact alike

theorem requeue (alike : Alike cjson known left right) (wanted : String) :
    Alike cjson known (left.requeue cjson wanted) (right.requeue cjson wanted) := by
  rw [ActorState.requeue, ActorState.requeue, ← alike.dead]
  cases found : left.dead.find? fun payload => messageId cjson payload == some wanted with
  | none => exact alike
  | some payload =>
      have inside : [payload] ⊆ left.dead := by
        intro other member
        rw [List.mem_singleton.mp member]
        exact List.mem_of_find?_eq_some found
      have isKnown := tracked_subset inside alike.deadKnown
      have isCut : tracked cjson (left.dead.erase payload) ⊆ known :=
        tracked_subset List.erase_subset alike.deadKnown
      exact ((alike.pushed isKnown).withDead rfl isCut).counts wanted none

/-- Nothing that happens later tells two alike states apart. -/
theorem after (alike : Alike cjson known left right) (later : Later) :
    Alike cjson known (left.after cjson later) (right.after cjson later) := by
  cases later with
  | claim args => exact alike.claim args
  | recover now => exact alike.recover now
  | ack claimId sessionId => exact alike.ack claimId sessionId
  | requeue messageId => exact alike.requeue messageId
  | lapse messageId => exact alike.counts messageId none

end Alike

end Alike

end GptQueue.Claims
