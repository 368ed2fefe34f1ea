import GptQueue.Claims.Purge

/-! # What the actions of others leave alone

All actors share one hash of claims. An action that does not name an actor leaves its
inbox, its dead letters, its index and its claims as they are, whatever claim ids the
action carries. Recovery counters are left out: their keys join the name of the actor and
the message id.
-/

namespace GptQueue.Claims

open Redis
open GptQueue.Mailbox

/-- The actors whose messages an action is about. -/
def Action.Names : Action → String → Prop
  | .push _ message, actor => message.recipient = actor
  | .recover actorId _, actor => actorId = actor
  | .batchClaim args, actor => args.actorId = actor
  | .renew args, actor => args.actorId = actor
  | .ack _ actorId _, actor => actorId = actor
  | .requeue actorId _, actor => actorId = actor
  | .migrate source destination _ _, actor => source = actor ∨ destination = actor
  | .purge actorId, actor => actorId = actor
  | .unregister name _, actor => name = actor
  | .expire _, _ => False

/-- An actor has the same messages and claims in both keyspaces. -/
structure SameFor (cjson : Cjson) (actor : String) (before after : Keyspace Key) : Prop where
  inbox : after.items (.queue actor) = before.items (.queue actor)
  dead : after.items (.dlq actor) = before.items (.dlq actor)
  outstanding : after.scores (.claimsIndex actor) = before.scores (.claimsIndex actor)
  held : ∀ claim : TaskClaim, claim.actorId = actor →
    (Stored cjson after claim ↔ Stored cjson before claim)

namespace SameFor

variable {cjson : Cjson} {actor : String} {before between after keyspace : Keyspace Key}

theorem refl (keyspace : Keyspace Key) : SameFor cjson actor keyspace keyspace :=
  ⟨rfl, rfl, rfl, fun _ _ => Iff.rfl⟩

theorem trans (first : SameFor cjson actor before between)
    (second : SameFor cjson actor between after) : SameFor cjson actor before after where
  inbox := second.inbox.trans first.inbox
  dead := second.dead.trans first.dead
  outstanding := second.outstanding.trans first.outstanding
  held claim own := (second.held claim own).trans (first.held claim own)

/-- With the same claims, an actor can tell two keyspaces apart by its lists only. -/
theorem of_sameClaims (same : SameClaims after before)
    (inbox : after.items (.queue actor) = before.items (.queue actor))
    (dead : after.items (.dlq actor) = before.items (.dlq actor)) :
    SameFor cjson actor before after where
  inbox := inbox
  dead := dead
  outstanding := same.index actor
  held _ _ :=
    ⟨fun stored => ⟨stored.tasks, same.claims ▸ stored.found⟩,
      fun stored => ⟨stored.tasks, same.claims.symm ▸ stored.found⟩⟩

theorem of_sameTasks (same : SameTasks after before) : SameFor cjson actor before after :=
  of_sameClaims (SameClaims.of_sameTasks same) (same.items_eq rfl) (same.items_eq rfl)

/-! ## The changes of others -/

variable {other : String}

theorem pushInbox (different : other ≠ actor) (task : String) :
    SameFor cjson actor keyspace (pushInbox keyspace other task) := by
  apply of_sameClaims (SameClaims.pushInbox keyspace other task)
  · simp [Claims.pushInbox, Keyspace.items, Ne.symm different]
  · simp [Claims.pushInbox, Keyspace.items]

theorem pushDead (different : other ≠ actor) (task : String) (bound : Nat) :
    SameFor cjson actor keyspace (pushDead keyspace other task bound) := by
  apply of_sameClaims (SameClaims.pushDead keyspace other task bound)
  · simp [Claims.pushDead, Keyspace.items]
  · simp [Claims.pushDead, Keyspace.items, Ne.symm different]

theorem placed (different : other ≠ actor) {bound : Nat} {tasks : List String}
    (placed : Placed other bound tasks before after) : SameFor cjson actor before after := by
  induction placed with
  | done keyspace => exact refl keyspace
  | inbox pushed rest induction =>
      exact ((pushInbox different _).trans (of_sameTasks pushed)).trans induction
  | dead pushed rest induction =>
      exact ((pushDead different _ _).trans (of_sameTasks pushed)).trans induction

/-- The claim of another is removed. -/
theorem dropClaim (different : other ≠ actor) {id : String}
    (foreign : ∀ claim, Stored cjson keyspace claim → claim.actorId = actor →
      claim.claimId ≠ id) :
    SameFor cjson actor keyspace (dropClaim keyspace other id) where
  inbox := by simp [Claims.dropClaim, Keyspace.items]
  dead := by simp [Claims.dropClaim, Keyspace.items]
  outstanding := by simp [Claims.dropClaim, Keyspace.scores, Ne.symm different]
  held claim own := by
    rw [Sound.stored_dropClaim]
    exact ⟨And.left, fun stored => ⟨stored, foreign claim stored own⟩⟩

/-- The claim of another is written. -/
theorem putClaim (roundTrips : RoundTrips cjson) {claim : TaskClaim} (tasks : claim.tasks ≠ [])
    (different : claim.actorId ≠ actor)
    (foreign : ∀ other, Stored cjson keyspace other → other.actorId = actor →
      other.claimId ≠ claim.claimId) (ms : Int) :
    SameFor cjson actor keyspace (putClaim cjson keyspace claim ms) where
  inbox := congrArg Value.items (putClaim_value_of_ne _ _ _ _ (by simp) (by simp))
  dead := congrArg Value.items (putClaim_value_of_ne _ _ _ _ (by simp) (by simp))
  outstanding := by rw [scores_putClaim, if_neg (Ne.symm different)]
  held stored own := by
    rw [Sound.stored_putClaim roundTrips tasks]
    constructor
    · rintro (rfl | ⟨isStored, -⟩)
      · exact absurd own different
      · exact isStored
    · intro isStored
      exact .inr ⟨isStored, foreign stored isStored own⟩

theorem popped (different : other ≠ actor) (count : Nat) :
    SameFor cjson actor keyspace (popped keyspace (.queue other) count) := by
  apply of_sameClaims (SameClaims.popped keyspace other count)
  · exact congrArg Value.items (popped_value_of_ne (by simpa using Ne.symm different) count)
  · exact congrArg Value.items (popped_value_of_ne (by simp) count)

/-- Expired claims of another are recovered. -/
theorem recovered (different : other ≠ actor) (sound : Sound cjson before) {bound : Nat}
    {claims : List (String × List String)}
    (own : ∀ claim ∈ claims, ∀ name, claim.1 ∈ before.scores (.claimsIndex name) → name = other)
    (recovered : Recovered other bound claims before after) : SameFor cjson actor before after := by
  have kept := @Recovered.preserves
    (fun keyspace => Sound cjson keyspace ∧ SameFor cjson actor before keyspace) other bound
    (by
      rintro keyspace id ⟨sound, same⟩ isOwn
      refine ⟨sound.dropClaim isOwn, same.trans (dropClaim different ?_)⟩
      rintro claim stored isActor rfl
      exact different (isOwn actor ((sound.indexed _ _).mpr ⟨claim, stored, rfl, isActor⟩)).symm)
    (by
      rintro tasks first second isPlaced ⟨sound, same⟩
      exact ⟨sound.placed isPlaced, same.trans (placed different isPlaced)⟩)
    claims before after recovered ⟨sound, refl before⟩ own
  exact kept.2

variable {source destination : String}

theorem transferred (notSource : source ≠ actor) (notDestination : destination ≠ actor) :
    SameFor cjson actor keyspace
      (transferred keyspace (.queue source) (.queue destination)) := by
  apply of_sameClaims (SameClaims.transferred keyspace source destination)
  · rw [Claims.transferred]
    split
    · rfl
    · simp [Keyspace.items, Ne.symm notSource, Ne.symm notDestination]
  · rw [Claims.transferred]
    split
    · rfl
    · simp [Keyspace.items]

theorem transferredDead (notSource : source ≠ actor) (notDestination : destination ≠ actor)
    (bound : Nat) : SameFor cjson actor keyspace
      (transferredDead keyspace (.dlq source) (.dlq destination) bound) := by
  apply of_sameClaims (SameClaims.transferredDead keyspace source destination bound)
  · rw [Claims.transferredDead]
    split
    · rfl
    · simp [Keyspace.items]
  · rw [Claims.transferredDead]
    split
    · rfl
    · simp [Keyspace.items, Ne.symm notSource, Ne.symm notDestination]

/-- An action that deletes nothing and is about others. -/
theorem of_change (roundTrips : RoundTrips cjson) (sound : Sound cjson before) {action : Action}
    {accepted acknowledged : List String} (foreign : ¬action.Names actor)
    (change : Change cjson before action after accepted acknowledged) :
    SameFor cjson actor before after := by
  cases change with
  | none => exact refl before
  | pushed bound message => exact pushInbox foreign _
  | recovered nodup indexed moved =>
      apply recovered foreign sound _ moved
      intro claim member name inside
      rcases List.mem_map.mp member with ⟨id, listed, rfl⟩
      exact sound.index_unique roundTrips inside (indexed id listed)
  | claimed args positive fresh nonempty =>
      have different : (args.claim ((before.items (.queue args.actorId)).take
          args.maxBatch)).actorId ≠ actor := foreign
      apply (popped foreign args.maxBatch).trans
      apply putClaim roundTrips (take_ne_nil positive nonempty) different
      intro claim stored _ same
      have found := stored.found
      rw [(SameClaims.popped _ _ _).claims, same] at found
      exact fresh (AList.lookup_isSome.mp (Option.isSome_of_eq_some found))
  | @renewed args claim claimedMs expiresMs stored renewable =>
      have different : claim.actorId ≠ actor := fun same =>
        foreign (renewable.actor.symm.trans same)
      have tasks : (claim.renewedTo (args.newExpires claimedMs)).tasks ≠ [] := stored.tasks
      apply putClaim roundTrips tasks different
      intro other isStored isActor same
      exact different (Stored.unique roundTrips isStored stored same ▸ isActor)
  | @acknowledged claim stored =>
      apply dropClaim foreign
      intro other isStored isActor same
      exact foreign (Stored.unique roundTrips isStored stored same ▸ isActor)
  | requeued messageId dead =>
      apply (pushInbox foreign _).trans
      apply of_sameClaims (SameClaims.store _ _ (by simp) (by simp))
      · simp [Keyspace.items]
      · simp [Keyspace.items, Ne.symm foreign]
  | migrated different guarded =>
      rcases not_or.mp foreign with ⟨notSource, notDestination⟩
      exact transferred notSource notDestination
  | migratedDead different guarded bound =>
      rcases not_or.mp foreign with ⟨notSource, notDestination⟩
      exact (transferred notSource notDestination).trans
        (transferredDead notSource notDestination bound)

/-- The claim state of another is deleted, and its mailbox if it is unregistered. -/
theorem of_purged (roundTrips : RoundTrips cjson) (sound : Sound cjson before)
    (different : other ≠ actor) (purged : Purged other before between)
    (same : SameClaims after between)
    (inbox : after.items (.queue actor) = before.items (.queue actor))
    (dead : after.items (.dlq actor) = before.items (.dlq actor)) :
    SameFor cjson actor before after where
  inbox := inbox
  dead := dead
  outstanding := (same.index actor).trans (purged.others actor (Ne.symm different))
  held claim own := by
    have isStored : Stored cjson after claim ↔ Stored cjson between claim :=
      ⟨fun stored => ⟨stored.tasks, same.claims ▸ stored.found⟩,
        fun stored => ⟨stored.tasks, same.claims.symm ▸ stored.found⟩⟩
    rw [isStored, stored_purged sound roundTrips purged]
    exact ⟨And.left, fun stored => ⟨stored, fun isOther => different (isOther.symm.trans own)⟩⟩

end SameFor

/-! ## Removals -/

section Removals

variable {cjson : Cjson} {actor other : String} {keyspace : Keyspace Key}

/-- Every key but the lists of the actor. -/
def NotListOf (actor : String) (key : Key) : Prop := key ≠ .queue actor ∧ key ≠ .dlq actor

theorem notListOf_not {key : Key} (isList : ¬NotListOf actor key) :
    key = .queue actor ∨ key = .dlq actor := by
  rw [NotListOf, not_and_or, not_not, not_not] at isList
  exact isList

/-- The purge of another writes to neither list of the actor. -/
theorem touches_purge (different : other ≠ actor) :
    Script.Touches (NotListOf actor) (purgeActorClaims cjson other) := by
  intro keyspace key isList
  rcases run_purge_any cjson other keyspace with ⟨count, after, ran, purges⟩
  rw [ran]
  rcases notListOf_not isList with rfl | rfl
  · apply purges.others _ Key.noConfusion
    · simp [IsClaimState]
    · intro payload id _ _ same
      cases same
  · apply purges.others _ Key.noConfusion
    · simp [IsClaimState, Ne.symm different]
    · intro payload id _ _ same
      cases same

theorem touches_unregister (different : other ≠ actor) (sessionId : String) :
    Script.Touches (NotListOf actor) (unregister cjson other sessionId) := by
  have free : ∀ key : Key, key ≠ .queue actor → key ≠ .dlq actor → NotListOf actor key :=
    fun _ notQueue notDead => ⟨notQueue, notDead⟩
  have removes : ∀ key : Key, key ≠ .queue actor → key ≠ .dlq actor →
      Script.Touches (NotListOf actor) (del key) :=
    fun key notQueue notDead => touches_del (free key notQueue notDead)
  have notInbox : Key.queue other ≠ .queue actor := by simpa using different
  rw [unregister]
  apply Script.Touches.bind
  · apply Script.Touches.when
    apply (removes _ (by simp) (by simp)).bind
    intro _
    apply (removes _ (by simp) (by simp)).bind
    intro _
    exact touches_typed fun _ _ outside =>
      store_value_of_outside (free _ (by simp) (by simp)) outside
  · intro _
    apply (touches_hdel (free _ (by simp) (by simp)) other).bind
    intro _
    apply (touches_purge different).bind
    intro removed
    apply (removes _ notInbox (by simp)).bind
    intro _
    apply (removes _ (by simp) (by simp)).bind
    intro _
    apply (removes _ (by simp) (by simp)).bind
    intro _
    exact Script.Touches.pure _

theorem sameFor_purge (roundTrips : RoundTrips cjson) (sound : Sound cjson keyspace)
    (different : other ≠ actor) :
    SameFor cjson actor keyspace (Action.after cjson keyspace (.purge other)) := by
  rcases run_purgeActorClaims cjson other sound.typed with ⟨count, after, ran, purged⟩
  have kept : ∀ key, ¬NotListOf actor key → after.value key = keyspace.value key := by
    intro key isList
    have same := @touches_purge cjson actor other different keyspace key isList
    rwa [ran] at same
  rw [Action.after, ran]
  apply SameFor.of_purged roundTrips sound different purged (SameClaims.refl after)
  · exact congrArg Value.items (kept _ fun free => free.1 rfl)
  · exact congrArg Value.items (kept _ fun free => free.2 rfl)

theorem sameFor_unregister (roundTrips : RoundTrips cjson) (sound : Sound cjson keyspace)
    (different : other ≠ actor) (sessionId : String) :
    SameFor cjson actor keyspace (Action.after cjson keyspace (.unregister other sessionId)) := by
  rcases run_unregister cjson sound.typed other sessionId with
    ⟨first, purged, firstSame, isPurged, lastSame⟩
  have kept : ∀ key, ¬NotListOf actor key →
      (Action.after cjson keyspace (.unregister other sessionId)).value key = keyspace.value key :=
    fun key isList => touches_unregister different sessionId keyspace key isList
  have sameFirst := @SameFor.of_sameTasks cjson actor _ _ firstSame
  apply sameFirst.trans
  apply SameFor.of_purged roundTrips (sound.of_sameTasks firstSame) different isPurged
  · exact (SameClaims.of_sameTasks lastSame).trans
      (SameClaims.store purged none (by simp) (by simp))
  · rw [sameFirst.inbox]
    exact congrArg Value.items (kept _ fun free => free.1 rfl)
  · rw [sameFirst.dead]
    exact congrArg Value.items (kept _ fun free => free.2 rfl)

/-- No admissible action changes what an actor has that it does not name. -/
theorem Action.sameFor (roundTrips : RoundTrips cjson) (reads : ReadsMessages cjson)
    (sound : Sound cjson keyspace) {action : Action} (admissible : action.Admissible keyspace)
    (foreign : ¬action.Names actor) :
    SameFor cjson actor keyspace (action.after cjson keyspace) := by
  cases deletes : action.deletes with
  | false =>
      rcases action.change roundTrips reads sound admissible deletes with ⟨exact, same, change⟩
      exact (SameFor.of_change roundTrips sound foreign change).trans (SameFor.of_sameTasks same)
  | true =>
      cases action with
      | purge other => exact sameFor_purge roundTrips sound foreign
      | unregister name sessionId =>
          exact sameFor_unregister roundTrips sound foreign sessionId
      | _ => cases deletes

end Removals

/-! ## Runs -/

/-- Any finite run of admissible actions of a kind, removals among them. -/
inductive RunsTo (cjson : Cjson) (allowed : Action → Prop) (before : Keyspace Key) :
    Keyspace Key → Prop
  | refl : RunsTo cjson allowed before before
  | step {keyspace : Keyspace Key} (run : RunsTo cjson allowed before keyspace) (action : Action)
      (admissible : action.Admissible keyspace) (isAllowed : allowed action) :
      RunsTo cjson allowed before (action.after cjson keyspace)

section Runs

variable {cjson : Cjson} {allowed : Action → Prop} {actor : String} {before after : Keyspace Key}

theorem RunsTo.sound (run : RunsTo cjson allowed before after) (roundTrips : RoundTrips cjson)
    (reads : ReadsMessages cjson) (sound : Sound cjson before) : Sound cjson after := by
  induction run with
  | refl => exact sound
  | step run action admissible isAllowed induction =>
      exact induction.after roundTrips reads admissible

theorem RunsTo.sameFor (run : RunsTo cjson (fun action => ¬action.Names actor) before after)
    (roundTrips : RoundTrips cjson) (reads : ReadsMessages cjson) (sound : Sound cjson before) :
    SameFor cjson actor before after := by
  induction run with
  | refl => exact SameFor.refl before
  | step run action admissible foreign induction =>
      exact induction.trans
        (action.sameFor roundTrips reads (run.sound roundTrips reads sound) admissible foreign)

/-- Whatever others do from any state of any run, an actor that they do not name keeps its
inbox, its dead letters, its index and its claims. -/
theorem others_leave_alone (roundTrips : RoundTrips cjson) (reads : ReadsMessages cjson)
    (reached : RunsTo cjson (fun _ => True) Keyspace.empty before)
    (others : RunsTo cjson (fun action => ¬action.Names actor) before after) :
    SameFor cjson actor before after :=
  others.sameFor roundTrips reads (reached.sound roundTrips reads Sound.empty)

end Runs

/-- The greeting is in the inbox of its recipient. -/
def greetedInbox : Keyspace Key := Action.after Cjson.plain Keyspace.empty (.push none greeting)

theorem greetedInbox_same :
    SameTasks greetedInbox (pushInbox Keyspace.empty "b" greeting.serialized) :=
  sameTasks_push_plain (@Sound.empty Cjson.plain).typed greeting

theorem items_greetedInbox : greetedInbox.items (.queue "b") = [greeting.serialized] := by
  rw [greetedInbox_same.items_eq rfl]
  simp [pushInbox, Keyspace.items]

/-- Its sender is unregistered, and the greeting stays. -/
theorem greeting_left_alone : greetedInbox.items (.queue "b") = [greeting.serialized] ∧
    SameFor Cjson.plain "b" greetedInbox
      (Action.after Cjson.plain greetedInbox (.unregister "a" "s")) := by
  constructor
  · exact items_greetedInbox
  · apply others_leave_alone plain_roundTrips plain_readsMessages
    · exact .step .refl (.push none greeting) trivial trivial
    · exact .step .refl (.unregister "a" "s") trivial (by simp [Action.Names])

end GptQueue.Claims
