import GptQueue.Claims.ActorRuns
import GptQueue.Claims.DeadLetters
import GptQueue.Claims.IndexAgreement
import GptQueue.Claims.Migration
import GptQueue.Claims.Store

/-! # The recovery budget of a renamed agent

A rename recovers the expired claims of the old name and moves its mailbox and its dead
letters, but no recovery counter. Two runs, one of which keeps the old name, do the same
with the moved messages exactly when their counters under the two names are the same.
-/

namespace GptQueue.Claims

open Redis
open GptQueue.Mailbox

/-! ## The rename -/

/-- What a rename does to the mailbox: recover the expired claims of the old name, then
move its messages and its dead letters. A thrown error is its message. -/
def renameMailbox (cjson : Cjson) (host : Host) (oldName name now : String) :
    Script Key (Except String Nat) := do
  match ← recoverExpired cjson host oldName now with
  | .failed error => pure (.error error.message)
  | .ok _ _ => migrateMessages oldName name true (some dlqMaxLength)

/-- A keyspace after any finite run whose migrations trim to the bound. -/
inductive TrimmedReachable (cjson : Cjson) : Keyspace Key → Prop
  | start : TrimmedReachable cjson Keyspace.empty
  | step {keyspace : Keyspace Key} (reached : TrimmedReachable cjson keyspace) (action : Action)
      (admissible : action.Admissible keyspace) (trims : action.TrimsToBound) :
      TrimmedReachable cjson (action.after cjson keyspace)

theorem TrimmedReachable.sound_bounded {cjson : Cjson} (roundTrips : RoundTrips cjson)
    (reads : ReadsMessages cjson) {keyspace : Keyspace Key}
    (reached : TrimmedReachable cjson keyspace) :
    Sound cjson keyspace ∧ DeadBounded keyspace := by
  induction reached with
  | start => exact ⟨Sound.empty, DeadBounded.empty⟩
  | step reached action admissible trims induction =>
      rcases induction with ⟨sound, bounded⟩
      exact ⟨sound.after roundTrips reads admissible,
        bounded.after roundTrips reads sound admissible trims⟩

/-- Nobody has used the name: it has no messages, no dead letters and no claims. -/
structure Unused (keyspace : Keyspace Key) (name : String) : Prop where
  inbox : keyspace.items (.queue name) = []
  dead : keyspace.items (.dlq name) = []
  claims : ∀ id, id ∉ keyspace.scores (.claimsIndex name)

namespace Unused

variable {keyspace after : Keyspace Key} {name : String}

theorem of_values (unused : Unused keyspace name)
    (inbox : after.value (.queue name) = keyspace.value (.queue name))
    (dead : after.value (.dlq name) = keyspace.value (.dlq name))
    (claims : after.value (.claimsIndex name) = keyspace.value (.claimsIndex name)) :
    Unused after name where
  inbox := (congrArg Value.items inbox).trans unused.inbox
  dead := (congrArg Value.items dead).trans unused.dead
  claims id := by
    rw [Keyspace.scores, claims]
    exact unused.claims id

theorem of_sameTasks (unused : Unused keyspace name) (same : SameTasks after keyspace) :
    Unused after name :=
  unused.of_values (same.value _ rfl) (same.value _ rfl) (same.value _ rfl)

theorem pushInbox (unused : Unused keyspace name) {actor : String} (other : name ≠ actor)
    (task : String) : Unused (pushInbox keyspace actor task) name :=
  unused.of_values (by simp [Claims.pushInbox, other]) (by simp [Claims.pushInbox])
    (by simp [Claims.pushInbox])

theorem pushDead (unused : Unused keyspace name) {actor : String} (other : name ≠ actor)
    (task : String) (bound : Nat) : Unused (pushDead keyspace actor task bound) name :=
  unused.of_values (by simp [Claims.pushDead]) (by simp [Claims.pushDead, other])
    (by simp [Claims.pushDead])

theorem dropClaim (unused : Unused keyspace name) {actor : String} (other : name ≠ actor)
    (id : String) : Unused (dropClaim keyspace actor id) name :=
  unused.of_values (by simp [Claims.dropClaim]) (by simp [Claims.dropClaim])
    (by simp [Claims.dropClaim, other])

theorem placed {actor : String} {bound : Nat} {tasks : List String}
    (placed : Placed actor bound tasks keyspace after) (unused : Unused keyspace name)
    (other : name ≠ actor) : Unused after name := by
  induction placed with
  | done => exact unused
  | inbox pushed rest induction =>
      exact induction ((unused.pushInbox other _).of_sameTasks pushed)
  | dead pushed rest induction =>
      exact induction ((unused.pushDead other _ _).of_sameTasks pushed)

theorem recovered {actor : String} {bound : Nat} {claims : List (String × List String)}
    (recovered : Recovered actor bound claims keyspace after) (unused : Unused keyspace name)
    (other : name ≠ actor) : Unused after name := by
  induction recovered with
  | done => exact unused
  | claim placed rest induction => exact induction ((unused.dropClaim other _).placed placed other)

/-- A recovery for one name does not use another. -/
theorem recover {cjson : Cjson} (roundTrips : RoundTrips cjson) (sound : Sound cjson keyspace)
    (unused : Unused keyspace name) {actor : String} (other : name ≠ actor)
    (now : Option Int) : Unused (Action.after cjson keyspace (.recover actor now)) name := by
  rcases run_recover roundTrips sound.claimsValid actor now with unchanged | moved
  · rw [Action.after, unchanged]
    exact unused
  · exact unused.recovered moved other

end Unused

section Rename

variable {cjson : Cjson} {host : Host} {keyspace : Keyspace Key} {oldName name now : String}

/-- The keyspace after the rename's recovery, in which the mailbox is moved: the run that
keeps the old name goes on from there. -/
def keptName (cjson : Cjson) (host : Host) (keyspace : Keyspace Key) (oldName now : String) :
    Keyspace Key :=
  Action.after cjson keyspace (.recover oldName (host.dateParse now))

/-- A rename that succeeds has found no claims after its recovery and moved everything. -/
theorem renameMailbox_ok {count : Nat} (different : oldName ≠ name)
    (renamed : ((renameMailbox cjson host oldName name now).run keyspace).1 = .ok (.ok count)) :
    ((renameMailbox cjson host oldName name now).run keyspace).2 =
        migrated (keptName cjson host keyspace oldName now) oldName name (some dlqMaxLength) ∧
      ∀ id, id ∉ (keptName cjson host keyspace oldName now).scores (.claimsIndex oldName) := by
  rcases recovery : (Claims.recover cjson (recoverExpiredArgs oldName (host.dateParse now))).run
    keyspace with ⟨outcome, kept⟩
  have isKept : keptName cjson host keyspace oldName now = kept := by
    rw [keptName, Action.after, recovery]
  rw [isKept]
  cases outcome with
  | error fault =>
      have raised : (recoverExpired cjson host oldName now).run keyspace = (.error fault, kept) :=
        Script.run_bind_error recovery
      rw [renameMailbox, Script.run_bind_error raised] at renamed
      cases renamed
  | ok reply =>
      cases reply with
      | refused role =>
          have failed : ((recoverExpired cjson host oldName now).run keyspace) = (.ok _, kept) :=
            Script.run_bind_ok recovery
          rw [renameMailbox, Script.run_bind_ok failed] at renamed
          cases renamed
      | moved recovered deadlettered =>
          have succeeded : (recoverExpired cjson host oldName now).run keyspace =
              (.ok (.ok recovered deadlettered), kept) := Script.run_bind_ok recovery
          rw [renameMailbox, Script.run_bind_ok succeeded] at renamed ⊢
          rcases @run_migrateMessages kept oldName name true (some dlqMaxLength) different with
            ⟨ran, free⟩ | ⟨⟨result, ran, refused⟩, -⟩
          · simp only [ran]
            exact ⟨trivial, fun id inside => free (.claims rfl id inside)⟩
          · simp only [ran] at renamed
            exact absurd renamed (refused count)

/-- A rename whose recovery ran and left no claim succeeds. -/
theorem renameMailbox_of_moved {kept : Keyspace Key} {recovered deadlettered : Nat}
    (different : oldName ≠ name)
    (recovery : (Claims.recover cjson (recoverExpiredArgs oldName (host.dateParse now))).run
      keyspace = (.ok (.moved recovered deadlettered), kept))
    (typed : WellTyped kept) (unclaimed : ∀ id, id ∉ kept.scores (.claimsIndex oldName)) :
    (renameMailbox cjson host oldName name now).run keyspace =
      (.ok (.ok (kept.items (.queue oldName)).length),
        migrated kept oldName name (some dlqMaxLength)) := by
  have succeeded : (recoverExpired cjson host oldName now).run keyspace =
      (.ok (.ok recovered deadlettered), kept) := Script.run_bind_ok recovery
  rw [renameMailbox, Script.run_bind_ok succeeded]
  rcases @run_migrateMessages kept oldName name true (some dlqMaxLength) different with
    ⟨ran, -⟩ | ⟨-, refusal⟩
  · exact ran
  · cases refusal with
    | claims isGuarded id claimed => exact absurd claimed (unclaimed id)
    | index isGuarded wrong =>
        rw [typed.index oldName] at wrong
        cases wrong
    | deadLetters bound isBound wrong =>
        rw [typed.dlq oldName, typed.dlq name] at wrong
        cases wrong
    | source wrong =>
        rw [typed.inbox oldName] at wrong
        cases wrong
    | destination nonempty wrong =>
        rw [typed.inbox name] at wrong
        cases wrong

theorem scores_eq_empty {scores : Scores} (none : ∀ id, id ∉ scores) : scores = ∅ := by
  apply AList.ext
  cases members : scores.entries with
  | nil => rfl
  | cons first rest =>
      have inside : first.1 ∈ scores := by
        rw [AList.mem_keys, AList.keys, members]
        exact List.mem_cons_self
      exact absurd inside (none first.1)

/-- An actor whose index is empty holds no claim. -/
theorem heldBy_eq_none (roundTrips : RoundTrips cjson) (sound : Sound cjson keyspace)
    {actor : String} (none : ∀ id, id ∉ keyspace.scores (.claimsIndex actor)) (id : String) :
    heldBy cjson keyspace actor id = Option.none := by
  cases found : (keyspace.fields .claims).lookup id with
  | none =>
      rw [heldBy, found]
      rfl
  | some raw =>
      rcases sound.readable id raw found with ⟨claim, stored, rfl⟩
      rw [heldBy_of_stored roundTrips stored, if_neg]
      intro own
      exact none claim.claimId ((sound.indexed _ _).mpr ⟨claim, stored, rfl, own⟩)

/-- The counters of the messages in the mailbox and in the dead letters of the old name are
the same under both names. -/
def CountersMatch (cjson : Cjson) (keyspace : Keyspace Key) (oldName name : String) : Prop :=
  ∀ message ∈ tracked cjson (keyspace.items (.queue oldName) ++ keyspace.items (.dlq oldName)),
    keyspace.value (Key.recoverCount oldName message) =
      keyspace.value (Key.recoverCount name message)

/-- The transfer leaves every counter where it is. -/
theorem migrated_counter (different : oldName ≠ name) (actor message : String) :
    (migrated keyspace oldName name (some dlqMaxLength)).value (Key.recoverCount actor message) =
      keyspace.value (Key.recoverCount actor message) :=
  (@migrated_lists keyspace oldName name different (some dlqMaxLength)).others _
    (by simp [Key.recoverCount]) (by simp [Key.recoverCount])

/-- What the two names stand for after the mailbox was moved. -/
theorem alike_migrated (roundTrips : RoundTrips cjson) (sound : Sound cjson keyspace)
    (bounded : DeadBounded keyspace) (different : oldName ≠ name)
    (unused : Unused keyspace name)
    (unclaimed : ∀ id, id ∉ keyspace.scores (.claimsIndex oldName))
    (same : CountersMatch cjson keyspace oldName name) :
    Alike cjson
      (tracked cjson (keyspace.items (.queue oldName) ++ keyspace.items (.dlq oldName)))
      (actorState cjson keyspace oldName)
      (actorState cjson (migrated keyspace oldName name (some dlqMaxLength)) name) := by
  have lists := @migrated_lists keyspace oldName name different (some dlqMaxLength)
  have soundMoved : Sound cjson (migrated keyspace oldName name (some dlqMaxLength)) :=
    (sound.transferred oldName name).transferredDead oldName name dlqMaxLength
  have index : (migrated keyspace oldName name (some dlqMaxLength)).scores (.claimsIndex name) =
      keyspace.scores (.claimsIndex name) :=
    congrArg Value.scores (lists.others _ (by simp) (by simp))
  have unclaimedNew : ∀ id, id ∉
      (migrated keyspace oldName name (some dlqMaxLength)).scores (.claimsIndex name) := by
    rw [index]
    exact unused.claims
  have inbox : (migrated keyspace oldName name (some dlqMaxLength)).items (.queue name) =
      keyspace.items (.queue oldName) := by
    rw [lists.inbox, unused.inbox, List.nil_append]
  have dead : (migrated keyspace oldName name (some dlqMaxLength)).items (.dlq name) =
      keyspace.items (.dlq oldName) := by
    by_cases empty : keyspace.items (.dlq oldName) = []
    · rw [empty, Keyspace.items, lists.kept (Or.inr empty) name]
      exact unused.dead
    · rw [(lists.dead dlqMaxLength rfl (by decide) empty).1, unused.dead, List.append_nil,
        List.take_of_length_le (bounded oldName)]
  constructor
  · exact inbox.symm
  · exact dead.symm
  · exact (scores_eq_empty unclaimed).trans (scores_eq_empty unclaimedNew).symm
  · funext id
    exact (heldBy_eq_none roundTrips sound unclaimed id).trans
      (heldBy_eq_none roundTrips soundMoved unclaimedNew id).symm
  · intro message member
    exact (same message member).trans (migrated_counter different name message).symm
  · exact tracked_subset (List.subset_append_left _ _) (List.Subset.refl _)
  · exact tracked_subset (List.subset_append_right _ _) (List.Subset.refl _)
  · intro id
    have nothing : (actorState cjson keyspace oldName).tasks id = [] :=
      congrArg (fun held => Option.elim held [] Prod.snd)
        (heldBy_eq_none roundTrips sound unclaimed id)
    rw [nothing]
    exact List.nil_subset _

/-- Two runs from the same instant: one keeps the old name, the other has the new one, and
the same things happen to both. The id of a claim is fresh in both. -/
inductive Together (cjson : Cjson) (oldName name : String) (kept renamed : Keyspace Key) :
    Keyspace Key → Keyspace Key → Prop
  | start : Together cjson oldName name kept renamed kept renamed
  | step {left right : Keyspace Key}
      (together : Together cjson oldName name kept renamed left right) (later : Later)
      (admissible : (later.action oldName).Admissible left)
      (admissibleRenamed : (later.action name).Admissible right) :
      Together cjson oldName name kept renamed ((later.action oldName).after cjson left)
        ((later.action name).after cjson right)

/-- The rename cannot be told from keeping the name: every moved message keeps its place
and its recovery count, and whatever happens later, the inboxes and the dead letters of the
two runs are the same at every step. -/
structure Invisible (cjson : Cjson) (oldName name : String) (kept renamed : Keyspace Key) :
    Prop where
  inbox : renamed.items (.queue name) = kept.items (.queue oldName)
  dead : renamed.items (.dlq name) = kept.items (.dlq oldName)
  counts : ∀ payload ∈ kept.items (.queue oldName) ++ kept.items (.dlq oldName),
    ∀ message, trackedId cjson payload = some message →
      renamed.value (Key.recoverCount name message) =
        kept.value (Key.recoverCount oldName message)
  later : ∀ left right, Together cjson oldName name kept renamed left right →
    right.items (.queue name) = left.items (.queue oldName) ∧
      right.items (.dlq name) = left.items (.dlq oldName)

/-- The counters of the moved messages can only carry over by being the same already. -/
theorem Invisible.countersMatch (different : oldName ≠ name)
    (invisible : Invisible cjson oldName name keyspace
      (migrated keyspace oldName name (some dlqMaxLength))) :
    CountersMatch cjson keyspace oldName name := by
  intro message member
  rcases List.mem_filterMap.mp member with ⟨payload, inside, isTracked⟩
  rw [← invisible.counts payload inside message isTracked]
  exact migrated_counter different name message

theorem Together.alike (roundTrips : RoundTrips cjson) (reads : ReadsMessages cjson)
    {known : List String} {kept renamed left right : Keyspace Key}
    (together : Together cjson oldName name kept renamed left right)
    (sound : Sound cjson kept) (soundRenamed : Sound cjson renamed)
    (alike : Alike cjson known (actorState cjson kept oldName) (actorState cjson renamed name)) :
    Sound cjson left ∧ Sound cjson right ∧
      Alike cjson known (actorState cjson left oldName) (actorState cjson right name) := by
  induction together with
  | start => exact ⟨sound, soundRenamed, alike⟩
  | step together later admissible admissibleRenamed induction =>
      rcases induction with ⟨leftSound, rightSound, still⟩
      refine ⟨leftSound.after roundTrips reads admissible,
        rightSound.after roundTrips reads admissibleRenamed, ?_⟩
      rw [actorState_after roundTrips leftSound admissible,
        actorState_after roundTrips rightSound admissibleRenamed]
      exact still.after later

/-- A rename to an unused name is invisible to the recovery budget exactly when the
counters of the moved messages, which it leaves behind, are those under the new name. -/
theorem rename_invisible_iff (roundTrips : RoundTrips cjson) (reads : ReadsMessages cjson)
    (reached : TrimmedReachable cjson keyspace) (different : oldName ≠ name)
    (unused : Unused keyspace name) {count : Nat}
    (renamed : ((renameMailbox cjson host oldName name now).run keyspace).1 = .ok (.ok count)) :
    Invisible cjson oldName name (keptName cjson host keyspace oldName now)
        ((renameMailbox cjson host oldName name now).run keyspace).2 ↔
      CountersMatch cjson (keptName cjson host keyspace oldName now) oldName name := by
  rcases reached.sound_bounded roundTrips reads with ⟨startSound, startBounded⟩
  have sound : Sound cjson (keptName cjson host keyspace oldName now) :=
    startSound.after roundTrips reads trivial
  have bounded : DeadBounded (keptName cjson host keyspace oldName now) :=
    startBounded.after roundTrips reads startSound trivial trivial
  have stillUnused : Unused (keptName cjson host keyspace oldName now) name :=
    unused.recover roundTrips startSound different.symm _
  rcases renameMailbox_ok different renamed with ⟨moved, unclaimed⟩
  rw [moved]
  constructor
  · exact fun invisible => invisible.countersMatch different
  · intro same
    have alike := alike_migrated roundTrips sound bounded different stillUnused unclaimed same
    have soundMoved : Sound cjson (migrated (keptName cjson host keyspace oldName now) oldName
        name (some dlqMaxLength)) :=
      (sound.transferred oldName name).transferredDead oldName name dlqMaxLength
    constructor
    · exact alike.inbox.symm
    · exact alike.dead.symm
    · intro payload inside message isTracked
      rw [migrated_counter different]
      exact (same message (List.mem_filterMap.mpr ⟨payload, inside, isTracked⟩)).symm
    · intro left right together
      have later := (together.alike roundTrips reads sound soundMoved alike).2.2
      exact ⟨later.inbox.symm, later.dead.symm⟩

end Rename

/-! One message is pushed, and the agent is renamed before or after it claimed the message
and let the claim expire. -/

def renameInstant : String := IsoDate.toISOString 60001

def pushedGreeting : Keyspace Key := Action.after Cjson.plain Keyspace.empty (.push none greeting)

def claimedGreeting : Keyspace Key :=
  Action.after Cjson.plain pushedGreeting (.batchClaim firstClaim)

/-- The state of an actor with one message. -/
def greetedState : ActorState := ⟨[greeting.serialized], [], ∅, fun _ => none, fun _ => none⟩

theorem pushedGreeting_same :
    SameTasks pushedGreeting (pushInbox Keyspace.empty "b" greeting.serialized) :=
  sameTasks_push_plain (@Sound.empty Cjson.plain).typed greeting

theorem pushedGreeting_counter {key : Key} (counter : key.isCounter = true) :
    pushedGreeting.value key = none := by
  rw [pushedGreeting, Action.after]
  exact value_of_touches (touches_boundedPush Cjson.plain none greeting) Keyspace.empty counter

theorem actorState_greeted {keyspace : Keyspace Key}
    (same : SameTasks keyspace (pushInbox Keyspace.empty "b" greeting.serialized))
    (counters : ∀ key : Key, key.isCounter = true → keyspace.value key = none) :
    actorState Cjson.plain keyspace "b" = greetedState := by
  rw [actorState_of_sameTasks same, actorState_pushInbox]
  apply ActorState.ext
  · rfl
  · rfl
  · rfl
  · rfl
  · funext message
    exact counters _ rfl

theorem pushedGreeting_state : actorState Cjson.plain pushedGreeting "b" = greetedState :=
  actorState_greeted pushedGreeting_same fun _ => pushedGreeting_counter

theorem firstClaim_fresh : firstClaim.claimId ∉ pushedGreeting.fields .claims := by
  rw [pushedGreeting_same.fields_eq]
  simp [pushInbox, Keyspace.fields]

theorem pushedGreeting_reachable : TrimmedReachable Cjson.plain pushedGreeting :=
  TrimmedReachable.start.step (.push none greeting) trivial trivial

theorem claimedGreeting_reachable : TrimmedReachable Cjson.plain claimedGreeting :=
  pushedGreeting_reachable.step (.batchClaim firstClaim)
    ⟨by decide, firstClaim_fresh⟩ trivial

theorem pushedGreeting_unused : Unused pushedGreeting "d" := by
  have empty : Unused Keyspace.empty "d" := ⟨rfl, rfl, fun _ => by simp [Keyspace.scores]⟩
  exact (empty.pushInbox (by decide) _).of_sameTasks pushedGreeting_same

theorem renameInstant_read : plainHost.dateParse renameInstant = some 60001 :=
  IsoDate.dateParse_toISOString (by decide)

theorem pushedGreeting_kept :
    keptName Cjson.plain plainHost pushedGreeting "b" renameInstant = pushedGreeting ∧
      (renameMailbox Cjson.plain plainHost "b" "d" renameInstant).run pushedGreeting =
        (.ok (.ok 1), migrated pushedGreeting "b" "d" (some dlqMaxLength)) := by
  have sound := (pushedGreeting_reachable.sound_bounded plain_roundTrips plain_readsMessages).1
  have index : pushedGreeting.scores (.claimsIndex "b") = ∅ := by
    rw [← actorState_outstanding Cjson.plain, pushedGreeting_state]
    rfl
  have idle : Idle (recoverExpiredArgs "b" (plainHost.dateParse renameInstant)) pushedGreeting := by
    rw [renameInstant_read]
    refine ⟨rfl, sound.typed.index "b", ?_⟩
    simp only [expiredIds, recoverExpiredArgs, Option.elim_some, index]
    decide
  have recovery := @run_recover_of_idle Cjson.plain _ _ idle
  constructor
  · rw [keptName, Action.after, recovery]
  · have inbox : pushedGreeting.items (.queue "b") = [greeting.serialized] := by
      rw [← actorState_inbox Cjson.plain, pushedGreeting_state]
      rfl
    have different : "b" ≠ "d" := by decide
    rw [renameMailbox_of_moved different recovery sound.typed (by rw [index]; simp), inbox]
    rfl

/-- A message that was never recovered can be moved. -/
theorem greeting_moves_unseen :
    Invisible Cjson.plain "b" "d"
      (keptName Cjson.plain plainHost pushedGreeting "b" renameInstant)
      ((renameMailbox Cjson.plain plainHost "b" "d" renameInstant).run pushedGreeting).2 := by
  have renamed : ((renameMailbox Cjson.plain plainHost "b" "d" renameInstant).run
      pushedGreeting).1 = .ok (.ok 1) := congrArg Prod.fst pushedGreeting_kept.2
  apply (rename_invisible_iff plain_roundTrips plain_readsMessages pushedGreeting_reachable
    (by decide) pushedGreeting_unused renamed).mpr
  rw [pushedGreeting_kept.1]
  intro message member
  exact (@pushedGreeting_counter (Key.recoverCount "b" message) rfl).trans
    (@pushedGreeting_counter (Key.recoverCount "d" message) rfl).symm

theorem greeting_tracked : trackedId Cjson.plain greeting.serialized = some "m" :=
  trackedId_plain greeting (by decide)

/-- The message comes back with a count of one. -/
theorem greetedState_recovered :
    (greetedState.claim firstClaim).recover Cjson.plain (some 60001) =
      { (greetedState.claim firstClaim).drop "c" with
        inbox := [greeting.serialized]
        counter := Function.update (fun _ => none) "m" (some (.string "1")) } := by
  have claimed : greetedState.claim firstClaim =
      { inbox := []
        dead := []
        outstanding := (∅ : Scores).insert "c" (score 60000)
        held := Function.update (fun _ => none) "c" (some ("s", [greeting.serialized]))
        counter := fun _ => none } := by
    rfl
  have expired : (greetedState.claim firstClaim).expired (some 60001) =
      [("c", [greeting.serialized])] := by
    rw [claimed]
    have ids : membersUpTo ((∅ : Scores).insert "c" (score 60000)) (score (60001 - 1)) = ["c"] := by
      decide
    simp only [ActorState.expired, Option.elim_some, ids]
    simp [ActorState.tasks]
  have tracks : tracked Cjson.plain [greeting.serialized] = ["m"] := by
    simp [tracked, greeting_tracked]
  rw [ActorState.recover, expired, if_pos (by simp [tracks, claimed, usable])]
  simp only [List.foldl_cons, List.foldl_nil, ActorState.release, ActorState.place,
    greeting_tracked]
  rw [claimed]
  simp [ActorState.drop, counted, recoverCap]
  rfl

theorem claimedGreeting_state :
    actorState Cjson.plain claimedGreeting "b" = greetedState.claim firstClaim := by
  have sound := (pushedGreeting_reachable.sound_bounded plain_roundTrips plain_readsMessages).1
  have claimed := actorState_claim plain_roundTrips sound
    (by decide : 0 < firstClaim.maxBatch)
  rw [claimedGreeting, ← pushedGreeting_state]
  exact claimed

/-- A claim of one name does not use another. -/
theorem unused_firstClaim {keyspace : Keyspace Key} (sound : Sound Cjson.plain keyspace)
    (state : actorState Cjson.plain keyspace "b" = greetedState) (unused : Unused keyspace "d") :
    Unused (Action.after Cjson.plain keyspace (.batchClaim firstClaim)) "d" := by
  have nonempty : keyspace.items (.queue "b") ≠ [] := by
    rw [← actorState_inbox Cjson.plain, state]
    exact List.cons_ne_nil _ _
  have ran := @run_batchClaim_claimed Cjson.plain firstClaim keyspace
    (sound.typed.index "b") rfl (by decide) (sound.typed.inbox "b") nonempty sound.typed.claims
  have other : ∀ key : Key, key ≠ .claims → key ≠ .claimsIndex "b" → key ≠ .queue "b" →
      (Action.after Cjson.plain keyspace (.batchClaim firstClaim)).value key =
        keyspace.value key := by
    intro key notClaims notIndex notQueue
    rw [Action.after, ran]
    exact (putClaim_value_of_ne _ _ _ _ notClaims notIndex).trans
      (popped_value_of_ne notQueue _)
  exact unused.of_values (other _ (by decide) (by decide) (by decide))
    (other _ (by decide) (by decide) (by decide)) (other _ (by decide) (by decide) (by decide))

theorem claimedGreeting_unused : Unused claimedGreeting "d" :=
  unused_firstClaim
    (pushedGreeting_reachable.sound_bounded plain_roundTrips plain_readsMessages).1
    pushedGreeting_state pushedGreeting_unused

theorem claimedGreeting_kept :
    actorState Cjson.plain (keptName Cjson.plain plainHost claimedGreeting "b" renameInstant) "b" =
      (greetedState.claim firstClaim).recover Cjson.plain (some 60001) := by
  have sound := (claimedGreeting_reachable.sound_bounded plain_roundTrips plain_readsMessages).1
  rw [keptName, renameInstant_read, actorState_recover plain_roundTrips sound,
    claimedGreeting_state]

/-- A history without a name stays so while the actions are about other actors. -/
theorem history_step {cjson : Cjson} {recorded : Recorded} {action : Action}
    {actor name : String} (different : actor ≠ name) (own : action.actor = some actor)
    (others : ∀ happening ∈ recorded.history, happening.actor ≠ name) :
    ∀ happening ∈ (recorded.step cjson action).history, happening.actor ≠ name := by
  intro happening member
  rcases List.mem_append.mp member with last | earlier
  · have isActor := actor_of_happenings last
    rw [own] at isActor
    rw [← Option.some.inj isActor]
    exact different
  · exact others happening earlier

/-- No action so far was about an actor with the new name. -/
theorem claimedGreeting_uncounted :
    (keptName Cjson.plain plainHost claimedGreeting "b" renameInstant).value
      (Key.recoverCount "d" "m") = none := by
  have fresh : (Action.push none greeting).Counting State.start.accepted :=
    ⟨by decide, by decide, fun other member => absurd member List.not_mem_nil⟩
  have pushed := (@CountingReachable.start Cjson.plain).step (.push none greeting) trivial fresh
  have isPushed : ((Recorded.mk State.start []).step Cjson.plain
      (.push none greeting)).state.keyspace = pushedGreeting := keyspace_step _ _ _
  have freshClaim : firstClaim.claimId ∉ ((Recorded.mk State.start []).step Cjson.plain
      (.push none greeting)).state.keyspace.fields .claims := by
    rw [isPushed]
    exact firstClaim_fresh
  have claimed := pushed.step (.batchClaim firstClaim) ⟨by decide, freshClaim⟩ trivial
  have kept := claimed.step (.recover "b" (some 60001)) trivial trivial
  have counted := (kept.accounted plain_roundTrips plain_readsMessages plain_readsIds).counted.value
    "d" "m" (by decide)
  have different : "b" ≠ "d" := by decide
  have others := @history_step Cjson.plain _ (.recover "b" (some 60001)) "b" "d" different rfl
    (@history_step Cjson.plain _ (.batchClaim firstClaim) "b" "d" different rfl
      (@history_step Cjson.plain ⟨State.start, []⟩ (.push none greeting) "b" "d" different rfl
        (fun _ nothing => absurd nothing List.not_mem_nil)))
  rw [recoveries_eq_zero fun member => others _ member rfl, keyspace_step, keyspace_step,
    isPushed] at counted
  rw [keptName, renameInstant_read, claimedGreeting]
  exact counted

theorem claimed_renamed :
    (renameMailbox Cjson.plain plainHost "b" "d" renameInstant).run claimedGreeting =
      (.ok (.ok 1), migrated (keptName Cjson.plain plainHost claimedGreeting "b" renameInstant)
        "b" "d" (some dlqMaxLength)) := by
  have sound := (claimedGreeting_reachable.sound_bounded plain_roundTrips plain_readsMessages).1
  have keptSound : Sound Cjson.plain
      (keptName Cjson.plain plainHost claimedGreeting "b" renameInstant) :=
    sound.after plain_roundTrips plain_readsMessages trivial
  have state := claimedGreeting_kept
  rw [greetedState_recovered] at state
  have passes : PassesChecks Cjson.plain
      (recoverExpiredArgs "b" (plainHost.dateParse renameInstant)) claimedGreeting := by
    by_contra refused
    have unchanged : keptName Cjson.plain plainHost claimedGreeting "b" renameInstant =
        claimedGreeting := by
      rw [keptName, Action.after, run_recover_unchanged refused]
    rw [unchanged, claimedGreeting_state] at state
    have inboxes := congrArg ActorState.inbox state
    cases inboxes
  rcases run_recover_of_sendable (recoverExpiredArgs_capped "b" _) passes
    (fun id _ => sendable_of_claimsValid plain_roundTrips sound.claimsValid id) with
    ⟨recovered, deadlettered, kept, ran, -⟩
  have isKept : keptName Cjson.plain plainHost claimedGreeting "b" renameInstant = kept := by
    rw [keptName, Action.after, ran]
  rw [isKept] at keptSound state ⊢
  have index : kept.scores (.claimsIndex "b") = ∅ := by
    rw [← actorState_outstanding Cjson.plain, state]
    rfl
  have inbox : kept.items (.queue "b") = [greeting.serialized] := by
    rw [← actorState_inbox Cjson.plain, state]
  have different : "b" ≠ "d" := by decide
  rw [renameMailbox_of_moved different ran keptSound.typed (by rw [index]; simp), inbox]
  rfl

theorem greeting_countersDiffer {kept : Keyspace Key}
    (state : actorState Cjson.plain kept "b" = (greetedState.claim firstClaim).recover
      Cjson.plain (some 60001))
    (uncounted : kept.value (Key.recoverCount "d" "m") = none) :
    ¬CountersMatch Cjson.plain kept "b" "d" := by
  intro same
  rw [greetedState_recovered] at state
  have inbox : kept.items (.queue "b") = [greeting.serialized] := by
    rw [← actorState_inbox Cjson.plain, state]
  have counted : kept.value (Key.recoverCount "b" "m") = some (.string "1") := by
    rw [← actorState_counter Cjson.plain, state]
    simp
  have equal := same "m" (by simp [inbox, tracked, greeting_tracked])
  rw [counted, uncounted] at equal
  cases equal

/-- A message that was recovered once starts again under the new name. -/
theorem greeting_forgets_recovery :
    TrimmedReachable Cjson.plain claimedGreeting ∧ Unused claimedGreeting "d" ∧
      ((renameMailbox Cjson.plain plainHost "b" "d" renameInstant).run claimedGreeting).1 =
        .ok (.ok 1) ∧
      ¬Invisible Cjson.plain "b" "d"
        (keptName Cjson.plain plainHost claimedGreeting "b" renameInstant)
        ((renameMailbox Cjson.plain plainHost "b" "d" renameInstant).run claimedGreeting).2 := by
  refine ⟨claimedGreeting_reachable, claimedGreeting_unused, ?_, ?_⟩
  · rw [claimed_renamed]
  · have moved : ((renameMailbox Cjson.plain plainHost "b" "d" renameInstant).run
        claimedGreeting).2 = migrated (keptName Cjson.plain plainHost claimedGreeting "b"
          renameInstant) "b" "d" (some dlqMaxLength) := by
      rw [claimed_renamed]
    rw [moved]
    intro invisible
    exact greeting_countersDiffer claimedGreeting_kept claimedGreeting_uncounted
      (invisible.countersMatch (by decide))

end GptQueue.Claims
