import GptQueue.Claims.Migration
import GptQueue.Claims.RecoveryRuns
import GptQueue.Foundation.Fifo

/-! # The order of delivery

An inbox is read in the order in which it is filled. What reaches it are accepted
messages, tasks of expired claims, requeued dead letters and migrated inboxes, each at its
end; what leaves it are the batches of the claims and migrations, from its front.
-/

namespace GptQueue.Claims

open Redis
open GptQueue.Mailbox

/-! ## What reaches and what leaves an inbox -/

section Traffic

variable (cjson : Cjson) (keyspace : Keyspace Key) (actor : String)

/-- The inbox that a migration has moved away. -/
def movedInbox (action : Action) (source : String) : List String :=
  if (action.after cjson keyspace).items (.queue source) = [] then
    keyspace.items (.queue source)
  else []

/-- What an action puts into the inbox of the actor. -/
def Action.arrivals (action : Action) : List String :=
  match action with
  | .push _ message =>
      if message.recipient = actor then
        (action.accepted cjson keyspace).map QueueMessage.serialized
      else []
  | .recover _ _ =>
      ((action.after cjson keyspace).items (.queue actor)).drop
        (keyspace.items (.queue actor)).length
  | .requeue other wanted =>
      if other = actor then
        ((keyspace.items (.dlq actor)).find? fun payload =>
          messageId cjson payload == some wanted).toList
      else []
  | .migrate source destination _ _ =>
      if destination = actor then movedInbox cjson keyspace action source else []
  | _ => []

/-- What an action takes out of the inbox of the actor. -/
def Action.takes (action : Action) : List String :=
  match action with
  | .batchClaim args =>
      if args.actorId = actor then tasksOf cjson (action.after cjson keyspace) args.claimId else []
  | .migrate source _ _ _ => if source = actor then movedInbox cjson keyspace action source else []
  | _ => []

/-- An action does to the inbox of the actor what it is said to do. -/
def MovesInbox (action : Action) : Prop :=
  Fifo.Moves (keyspace.items (.queue actor)) (action.arrivals cjson keyspace actor)
    (action.takes cjson keyspace actor) ((action.after cjson keyspace).items (.queue actor))

end Traffic

section Steps

variable {cjson : Cjson} {keyspace : Keyspace Key} {actor : String}

theorem movesInbox_of_same {action : Action}
    (arrivals : action.arrivals cjson keyspace actor = [])
    (takes : action.takes cjson keyspace actor = [])
    (same : (action.after cjson keyspace).items (.queue actor) = keyspace.items (.queue actor)) :
    MovesInbox cjson keyspace actor action := by
  rw [MovesInbox, arrivals, takes, same]
  exact Fifo.Moves.refl _

theorem items_pushInbox (recipient task : String) :
    (pushInbox keyspace recipient task).items (.queue actor) =
      keyspace.items (.queue actor) ++ if recipient = actor then [task] else [] := by
  by_cases same : recipient = actor
  · simp [pushInbox, Keyspace.items, same]
  · have different : actor ≠ recipient := fun equal => same equal.symm
    simp [pushInbox, Keyspace.items, same, different]

theorem movesInbox_push (reads : ReadsMessages cjson) (sound : Sound cjson keyspace)
    (bound : Option Int) (message : QueueMessage) :
    MovesInbox cjson keyspace actor (.push bound message) := by
  rcases @run_boundedPush cjson message bound keyspace reads sound.typed with
    ⟨-, outcome, ran, refused⟩ | ⟨after, ran, same⟩
  · have nothing : Action.accepted cjson keyspace (.push bound message) = [] := by
      unfold Action.accepted
      simp only [ran]
    apply movesInbox_of_same
    · rw [Action.arrivals, nothing, List.map_nil, ite_self]
    · rfl
    · rw [Action.after, ran]
  · have accepted : Action.accepted cjson keyspace (.push bound message) = [message] := by
      unfold Action.accepted
      simp only [ran]
    rw [MovesInbox, Action.arrivals, accepted, Action.after, ran, same.items_eq rfl,
      items_pushInbox]
    exact Fifo.moves_append _ _

/-! ### Recovery -/

theorem inbox_placed {actorId : String} {bound : Nat} {tasks : List String}
    {before after : Keyspace Key} (placed : Placed actorId bound tasks before after) :
    (∃ added, after.items (.queue actorId) = before.items (.queue actorId) ++ added ∧
      added.Sublist tasks) ∧
      ∀ other, other ≠ actorId → after.items (.queue other) = before.items (.queue other) := by
  induction placed with
  | done keyspace => exact ⟨⟨[], (List.append_nil _).symm, List.Sublist.refl []⟩, fun _ _ => rfl⟩
  | @inbox task tasks before middle after pushed rest induction =>
      rcases induction with ⟨⟨added, grown, fewer⟩, others⟩
      constructor
      · refine ⟨task :: added, ?_, fewer.cons_cons task⟩
        rw [grown, pushed.items_eq rfl, items_pushInbox, if_pos rfl, List.append_assoc]
        rfl
      · intro other different
        rw [others other different, pushed.items_eq rfl, items_pushInbox,
          if_neg different.symm, List.append_nil]
  | @dead task tasks before middle after pushed rest induction =>
      rcases induction with ⟨⟨added, grown, fewer⟩, others⟩
      have sameInbox : ∀ name, middle.items (.queue name) = before.items (.queue name) := by
        intro name
        rw [pushed.items_eq rfl]
        simp [pushDead, Keyspace.items]
      constructor
      · exact ⟨added, by rw [grown, sameInbox], fewer.cons task⟩
      · intro other different
        rw [others other different, sameInbox]

/-- Tasks of the claims come back in their order, at the end of the inbox. -/
theorem inbox_recovered {actorId : String} {bound : Nat} {claims : List (String × List String)}
    {before after : Keyspace Key} (recovered : Recovered actorId bound claims before after) :
    (∃ added, after.items (.queue actorId) = before.items (.queue actorId) ++ added ∧
      added.Sublist (claims.flatMap Prod.snd)) ∧
      ∀ other, other ≠ actorId → after.items (.queue other) = before.items (.queue other) := by
  induction recovered with
  | done keyspace => exact ⟨⟨[], (List.append_nil _).symm, List.Sublist.refl []⟩, fun _ _ => rfl⟩
  | @claim id tasks claims before middle after placed rest induction =>
      rcases inbox_placed placed with ⟨⟨first, grownFirst, fewerFirst⟩, othersFirst⟩
      rcases induction with ⟨⟨added, grown, fewer⟩, others⟩
      have dropped : ∀ name, (dropClaim before actorId id).items (.queue name) =
          before.items (.queue name) := by
        intro name
        simp [dropClaim, Keyspace.items]
      constructor
      · refine ⟨first ++ added, ?_, fewerFirst.append fewer⟩
        rw [grown, grownFirst, dropped, List.append_assoc]
      · intro other different
        rw [others other different, othersFirst other different, dropped]

/-- What a recovery does to an inbox. -/
theorem recover_inbox (roundTrips : RoundTrips cjson) (sound : Sound cjson keyspace)
    (other : String) (now : Option Int) :
    ∃ added, (Action.after cjson keyspace (.recover other now)).items (.queue actor) =
        keyspace.items (.queue actor) ++ added ∧
      added.Sublist (if other = actor then expiredTasks cjson actor now keyspace else []) := by
  rcases run_recover roundTrips sound.claimsValid other now with unchanged | moved
  · refine ⟨[], ?_, List.nil_sublist _⟩
    rw [Action.after, unchanged, List.append_nil]
  · rcases inbox_recovered moved with ⟨⟨added, grown, fewer⟩, others⟩
    by_cases same : other = actor
    · subst same
      rw [List.flatMap_map] at fewer
      refine ⟨added, grown, ?_⟩
      rw [if_pos rfl]
      exact fewer
    · refine ⟨[], ?_, List.nil_sublist _⟩
      rw [Action.after, others actor fun equal => same equal.symm, List.append_nil]

theorem movesInbox_recover (roundTrips : RoundTrips cjson) (sound : Sound cjson keyspace)
    (other : String) (now : Option Int) :
    MovesInbox cjson keyspace actor (.recover other now) := by
  rcases @recover_inbox cjson keyspace actor roundTrips sound other now with ⟨added, grown, -⟩
  rw [MovesInbox, Action.arrivals, grown, List.drop_left]
  exact Fifo.moves_append _ _

/-- A recovery puts back tasks of expired claims, in their order. -/
theorem arrivals_recover (roundTrips : RoundTrips cjson) (sound : Sound cjson keyspace)
    (other : String) (now : Option Int) :
    (Action.arrivals cjson keyspace actor (.recover other now)).Sublist
      (if other = actor then expiredTasks cjson actor now keyspace else []) := by
  rcases @recover_inbox cjson keyspace actor roundTrips sound other now with ⟨added, grown, fewer⟩
  rw [Action.arrivals, grown, List.drop_left]
  exact fewer

/-! ### The other actions -/

theorem tasksOf_of_notMem {id : String} (absent : id ∉ keyspace.fields .claims) :
    tasksOf cjson keyspace id = [] := by
  rw [tasksOf, AList.lookup_eq_none.mpr absent, Option.elim_none]

theorem movesInbox_batchClaim (roundTrips : RoundTrips cjson) (sound : Sound cjson keyspace)
    {args : BatchClaimArgs} (positive : 0 < args.maxBatch)
    (fresh : args.claimId ∉ keyspace.fields .claims) :
    MovesInbox cjson keyspace actor (.batchClaim args) := by
  have unchanged : Action.after cjson keyspace (.batchClaim args) = keyspace →
      MovesInbox cjson keyspace actor (.batchClaim args) := by
    intro same
    apply movesInbox_of_same
    · rfl
    · rw [Action.takes, same, tasksOf_of_notMem fresh, ite_self]
    · rw [same]
  have index := sound.typed.index args.actorId
  have inbox := sound.typed.inbox args.actorId
  cases reached : ceilingReached args keyspace with
  | true => exact unchanged (by rw [Action.after, run_batchClaim_ceiling index reached])
  | false =>
      by_cases empty : keyspace.items (.queue args.actorId) = []
      · exact unchanged (by
          rw [Action.after, run_batchClaim_empty index reached positive inbox empty])
      · have nothing : Action.arrivals cjson keyspace actor (.batchClaim args) = [] := rfl
        rw [MovesInbox, nothing, Action.takes, Action.after,
          run_batchClaim_claimed index reached positive inbox empty sound.typed.claims]
        dsimp only
        have tasks : tasksOf cjson
            (putClaim cjson (popped keyspace (.queue args.actorId) args.maxBatch)
              (args.claim ((keyspace.items (.queue args.actorId)).take args.maxBatch))
              args.expiresAtMs) args.claimId =
            (keyspace.items (.queue args.actorId)).take args.maxBatch := by
          have stored : (args.claim ((keyspace.items (.queue args.actorId)).take
              args.maxBatch)).tasks ≠ [] := take_ne_nil positive empty
          exact (tasksOf_putClaim roundTrips stored _ _).trans (if_pos rfl)
        have kept : ∀ name, (putClaim cjson (popped keyspace (.queue args.actorId) args.maxBatch)
            (args.claim ((keyspace.items (.queue args.actorId)).take args.maxBatch))
            args.expiresAtMs).items (.queue name) =
            (popped keyspace (.queue args.actorId) args.maxBatch).items (.queue name) :=
          fun name => congrArg Value.items (putClaim_value_of_ne _ _ _ _ (by simp) (by simp))
        rw [tasks, kept]
        by_cases same : args.actorId = actor
        · subst same
          rw [if_pos rfl, items_popped]
          exact Fifo.moves_take _ _
        · have other : (popped keyspace (.queue args.actorId) args.maxBatch).items (.queue actor) =
              keyspace.items (.queue actor) :=
            congrArg Value.items (popped_value_of_ne (by simpa using Ne.symm same) _)
          rw [if_neg same, other]
          exact Fifo.Moves.refl _

theorem movesInbox_requeue (sound : Sound cjson keyspace) (other wanted : String) :
    MovesInbox cjson keyspace actor (.requeue other wanted) := by
  have nothing : Action.takes cjson keyspace actor (.requeue other wanted) = [] := rfl
  rw [MovesInbox, nothing, Action.arrivals, Action.after, run_requeue_eq sound.typed]
  cases found : (keyspace.items (.dlq other)).find? fun payload =>
      messageId cjson payload == some wanted with
  | none =>
      by_cases same : other = actor
      · subst same
        rw [if_pos rfl, found]
        exact Fifo.Moves.refl _
      · rw [if_neg same]
        exact Fifo.Moves.refl _
  | some payload =>
      have items : ((requeued keyspace other payload).store (Key.recoverCount other wanted)
          none).items (.queue actor) =
          keyspace.items (.queue actor) ++ if other = actor then [payload] else [] := by
        rw [← items_pushInbox]
        simp [requeued, Keyspace.items, Key.recoverCount]
      dsimp only
      rw [items]
      by_cases same : other = actor
      · subst same
        rw [if_pos rfl, if_pos rfl, found]
        exact Fifo.moves_append _ _
      · rw [if_neg same, if_neg same]
        exact Fifo.moves_append _ _

theorem inbox_migrated {source destination : String} (different : source ≠ destination)
    (bound : Option Nat) (name : String) :
    (match bound with
      | none => transferred keyspace (.queue source) (.queue destination)
      | some bound => transferredDead (transferred keyspace (.queue source) (.queue destination))
          (.dlq source) (.dlq destination) bound).items (.queue name) =
      if name = source then []
      else if name = destination then
        keyspace.items (.queue destination) ++ keyspace.items (.queue source)
      else keyspace.items (.queue name) := by
  have kept : (match bound with
      | none => transferred keyspace (.queue source) (.queue destination)
      | some bound => transferredDead (transferred keyspace (.queue source) (.queue destination))
          (.dlq source) (.dlq destination) bound).items (.queue name) =
      (transferred keyspace (.queue source) (.queue destination)).items (.queue name) := by
    cases bound with
    | none => rfl
    | some bound => exact congrArg Value.items (transferredDead_value fun _ => Key.noConfusion)
  rw [kept]
  have inboxes := @items_transferred keyspace source destination different
  by_cases isSource : name = source
  · subst isSource
    rw [if_pos rfl, inboxes.2]
  · by_cases isDestination : name = destination
    · subst isDestination
      rw [if_neg isSource, if_pos rfl, inboxes.1]
    · rw [if_neg isSource, if_neg isDestination, transferred]
      split
      · rfl
      · simp [Keyspace.items, isSource, isDestination]

theorem movesInbox_migrate (sound : Sound cjson keyspace) (source destination : String)
    (guarded : Bool) (bound : Option Nat) :
    MovesInbox cjson keyspace actor (.migrate source destination guarded bound) := by
  rcases run_migrate sound.typed source destination guarded bound with
    unchanged | ⟨different, moved⟩
  · have same : Action.after cjson keyspace (.migrate source destination guarded bound) =
        keyspace := unchanged
    have nothing : movedInbox cjson keyspace (.migrate source destination guarded bound) source =
        [] := by
      rw [movedInbox, same]
      split
      · next empty => exact empty
      · rfl
    apply movesInbox_of_same
    · rw [Action.arrivals, nothing, ite_self]
    · rw [Action.takes, nothing, ite_self]
    · rw [same]
  · have inbox : ∀ name, (Action.after cjson keyspace
        (.migrate source destination guarded bound)).items (.queue name) =
        if name = source then []
        else if name = destination then
          keyspace.items (.queue destination) ++ keyspace.items (.queue source)
        else keyspace.items (.queue name) := by
      intro name
      rw [Action.after, moved]
      exact inbox_migrated different bound name
    have all : movedInbox cjson keyspace (.migrate source destination guarded bound) source =
        keyspace.items (.queue source) := by
      rw [movedInbox, inbox, if_pos rfl, if_pos rfl]
    rw [MovesInbox, Action.arrivals, Action.takes, all, inbox]
    by_cases isSource : source = actor
    · subst isSource
      rw [if_neg different.symm, if_pos rfl, if_pos rfl]
      exact Fifo.moves_all _
    · rw [if_neg isSource, if_neg (Ne.symm isSource)]
      by_cases isDestination : destination = actor
      · subst isDestination
        rw [if_pos rfl, if_pos rfl]
        exact Fifo.moves_append _ _
      · rw [if_neg isDestination, if_neg (Ne.symm isDestination)]
        exact Fifo.Moves.refl _

theorem movesInbox_ack (roundTrips : RoundTrips cjson) (sound : Sound cjson keyspace)
    (claimId actorId sessionId : String) :
    MovesInbox cjson keyspace actor (.ack claimId actorId sessionId) := by
  apply movesInbox_of_same
  · rfl
  · rfl
  · rcases @run_ack cjson keyspace claimId actorId sessionId roundTrips sound.typed
      sound.claimsValid with ⟨reply, ran, -⟩ | ⟨claim, after, -, -, rfl, rfl, ran, same⟩
    · rw [Action.after, ran]
    · rw [Action.after, ran, same.items_eq rfl]
      simp [dropClaim, Keyspace.items]

theorem movesInbox_renew (roundTrips : RoundTrips cjson) (sound : Sound cjson keyspace)
    (args : RenewArgs) : MovesInbox cjson keyspace actor (.renew args) := by
  have indexed : ∀ claim : TaskClaim, (keyspace.fields .claims).lookup claim.claimId =
      some (cjson.encode claim.toJson) → claim.tasks ≠ [] →
      claim.claimId ∈ keyspace.scores (.claimsIndex claim.actorId) :=
    fun claim found tasks => (sound.indexed _ _).mpr ⟨claim, ⟨tasks, found⟩, rfl, rfl⟩
  apply movesInbox_of_same
  · rfl
  · rfl
  · rcases @run_renew cjson keyspace args roundTrips sound.typed sound.claimsValid indexed with
      ⟨reply, unchanged, -⟩ | ⟨claim, claimedMs, expiresMs, found, tasks, -, renewable, ran⟩
    · rw [Action.after, unchanged]
    · rw [Action.after, ran]
      exact congrArg Value.items (putClaim_value_of_ne _ _ _ _ (by simp) (by simp))

/-- Every action that deletes nothing moves every inbox as said. -/
theorem Action.movesInbox (roundTrips : RoundTrips cjson) (reads : ReadsMessages cjson)
    (sound : Sound cjson keyspace) {action : Action} (admissible : action.Admissible keyspace)
    (keeps : action.deletes = false) : MovesInbox cjson keyspace actor action := by
  cases action with
  | push bound message => exact movesInbox_push reads sound bound message
  | recover other now => exact movesInbox_recover roundTrips sound other now
  | batchClaim args => exact movesInbox_batchClaim roundTrips sound admissible.1 admissible.2
  | renew args => exact movesInbox_renew roundTrips sound args
  | ack claimId actorId sessionId =>
      exact movesInbox_ack roundTrips sound claimId actorId sessionId
  | requeue other wanted => exact movesInbox_requeue sound other wanted
  | migrate source destination guarded bound =>
      exact movesInbox_migrate sound source destination guarded bound
  | purge actor => cases keeps
  | unregister name sessionId => cases keeps
  | expire key =>
      have same := (SameTasks.refl keyspace).store admissible
        (by rfl : Value.admits none key.kind = true)
      exact movesInbox_of_same rfl rfl (same.items_eq rfl)

end Steps

/-! ## Runs -/

/-- A run with what has reached each inbox and what has left it so far. -/
structure Traffic where
  state : State
  arrived : String → List String
  taken : String → List String

namespace Traffic

def start : Traffic := ⟨State.start, fun _ => [], fun _ => []⟩

def step (cjson : Cjson) (traffic : Traffic) (action : Action) : Traffic where
  state := traffic.state.step cjson action
  arrived actor := traffic.arrived actor ++ action.arrivals cjson traffic.state.keyspace actor
  taken actor := traffic.taken actor ++ action.takes cjson traffic.state.keyspace actor

theorem step_state (cjson : Cjson) (traffic : Traffic) (action : Action) :
    (traffic.step cjson action).state = traffic.state.step cjson action := rfl

/-- The payloads accepted for an actor. -/
def sent (traffic : Traffic) (actor : String) : List String :=
  (traffic.state.accepted.filter fun message => message.recipient = actor).map
    QueueMessage.serialized

end Traffic

/-- After any finite run of admissible actions that delete nothing. -/
inductive TrafficReachable (cjson : Cjson) : Traffic → Prop
  | start : TrafficReachable cjson Traffic.start
  | step {traffic : Traffic} (reached : TrafficReachable cjson traffic) (action : Action)
      (admissible : action.Admissible traffic.state.keyspace) (keeps : action.deletes = false) :
      TrafficReachable cjson (traffic.step cjson action)

structure InOrder (cjson : Cjson) (traffic : Traffic) : Prop where
  order : ∀ actor, traffic.arrived actor =
    traffic.taken actor ++ traffic.state.keyspace.items (.queue actor)
  sent : ∀ actor, (traffic.sent actor).Sublist (traffic.arrived actor)
  putBack : ∀ actor now,
    (Action.arrivals cjson traffic.state.keyspace actor (.recover actor now)).Sublist
      (expiredTasks cjson actor now traffic.state.keyspace)

section Runs

variable {cjson : Cjson} {traffic : Traffic}

theorem TrafficReachable.reachable (reached : TrafficReachable cjson traffic) :
    Reachable cjson traffic.state := by
  induction reached with
  | start => exact .start
  | step reached action admissible keeps induction => exact induction.step action admissible keeps

theorem TrafficReachable.moves (roundTrips : RoundTrips cjson) (reads : ReadsMessages cjson)
    (reached : TrafficReachable cjson traffic) (actor : String) :
    Fifo.Moves [] (traffic.arrived actor) (traffic.taken actor)
      (traffic.state.keyspace.items (.queue actor)) := by
  induction reached with
  | start => exact Fifo.Moves.refl []
  | step reached action admissible keeps induction =>
      have sound := (reached.reachable.conserved roundTrips reads).sound
      exact induction.trans (Action.movesInbox roundTrips reads sound admissible keeps)

/-- A message accepted for the actor arrives. -/
theorem sent_arrives (keyspace : Keyspace Key) (actor : String) (action : Action) :
    (((action.accepted cjson keyspace).filter fun message => message.recipient = actor).map
      QueueMessage.serialized).Sublist (action.arrivals cjson keyspace actor) := by
  cases action with
  | push bound message =>
      have only :
          ∀ sent ∈ Action.accepted cjson keyspace (.push bound message), sent = message := by
        intro sent member
        unfold Action.accepted at member
        dsimp only at member
        split at member
        · exact List.mem_singleton.mp member
        · cases member
      rw [Action.arrivals]
      by_cases same : message.recipient = actor
      · rw [if_pos same]
        exact (List.filter_sublist).map _
      · rw [if_neg same, List.filter_eq_nil_iff.mpr]
        · exact List.Sublist.refl []
        · intro sent member
          rw [only sent member]
          simpa using same
  | _ => exact List.nil_sublist _

theorem TrafficReachable.sent (reached : TrafficReachable cjson traffic) (actor : String) :
    (traffic.sent actor).Sublist (traffic.arrived actor) := by
  induction reached with
  | start => exact List.Sublist.refl []
  | step reached action admissible keeps induction =>
      rw [Traffic.sent, Traffic.step, State.step, List.filter_append, List.map_append]
      exact induction.append (sent_arrives _ actor action)

/-- In every state of every run, what has reached an inbox is what has been taken from it
followed by what is in it: claims hand out messages in the order of their arrival. -/
theorem inbox_in_order (roundTrips : RoundTrips cjson) (reads : ReadsMessages cjson)
    (reached : TrafficReachable cjson traffic) : InOrder cjson traffic where
  order := reached.moves roundTrips reads
  sent := reached.sent
  putBack actor now := by
    have sound := (reached.reachable.conserved roundTrips reads).sound
    have fewer := @arrivals_recover cjson _ actor roundTrips sound actor now
    rwa [if_pos rfl] at fewer

end Runs

/-- Two messages are sent, claimed and, the lease being over, back in the inbox. -/
theorem putBack_in_order :
    (putBack.foldl (Traffic.step Cjson.plain) Traffic.start).state.keyspace.items (.queue "b") =
        [greeting.serialized, parting.serialized] ∧
      InOrder Cjson.plain (putBack.foldl (Traffic.step Cjson.plain) Traffic.start) := by
  have once := (@TrafficReachable.start Cjson.plain).step (.push none greeting) trivial rfl
  have twice := once.step (.push none parting) trivial rfl
  have fresh := greetedClaim_fresh
  have isGreeted : ((Traffic.start.step Cjson.plain (.push none greeting)).step Cjson.plain
      (.push none parting)).state.keyspace = greetings := by
    rw [Traffic.step_state, Traffic.step_state, State.step_keyspace, State.step_keyspace,
      greetings]
    rfl
  rw [← isGreeted] at fresh
  have claimed := twice.step (.batchClaim greetedClaim) ⟨by decide, fresh⟩ rfl
  have reached := claimed.step (.recover "b" (some 2)) trivial rfl
  constructor
  · have state := (@waits_rounds 1 (by decide)).state
    rw [← actorState_inbox Cjson.plain]
    exact congrArg ActorState.inbox state
  · exact inbox_in_order plain_roundTrips plain_readsMessages reached

end GptQueue.Claims
