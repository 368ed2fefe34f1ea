import GptQueue.Claims.System
import GptQueue.Foundation.Ledger

/-! # No message is lost or duplicated

An accepted payload is in an inbox, in a claim, in a dead-letter queue, among the
acknowledged tasks or among the entries cut off a dead-letter queue, and in as
many copies as were accepted.
-/

namespace GptQueue.Claims

open Redis
open GptQueue.Mailbox

/-! ## Places -/

inductive Place
  | inbox (actor : String)
  | dead (actor : String)
  | claim (id : String)
  | trimmed
  | acknowledged
deriving DecidableEq

/-- Where the tasks are. -/
def contents (cjson : Cjson) (keyspace : Keyspace Key) (acknowledged : List String) :
    Ledger Place String
  | .inbox actor => keyspace.items (.queue actor)
  | .dead actor => keyspace.items (.dlq actor)
  | .claim id => tasksOf cjson keyspace id
  | .trimmed => keyspace.trimmed
  | .acknowledged => acknowledged

section Contents

variable {cjson : Cjson} {keyspace after : Keyspace Key} {done : List String}

theorem contents_sameTasks (same : SameTasks after keyspace) :
    contents cjson after done = contents cjson keyspace done := by
  funext place
  cases place with
  | inbox actor => exact congrArg _ (same.items_eq rfl)
  | dead actor => exact congrArg _ (same.items_eq rfl)
  | claim id => simp only [contents, tasksOf, same.fields_eq]
  | trimmed => exact congrArg _ same.trimmed
  | acknowledged => rfl

/-! ## What each change trades -/

/-- Trimming a list moves its tail to what was cut off before. -/
theorem coe_take_add_cut (entries cut : List String) (bound : Nat) :
    (entries.take bound : Multiset String) + (cut ++ entries.drop bound : List String) =
      (entries : Multiset String) + cut := by
  conv_rhs => rw [← List.take_append_drop bound entries]
  simp only [← Multiset.coe_add]
  abel

theorem trades_pushInbox (actor payload : String) :
    Ledger.Trades {payload} 0 (contents cjson keyspace done)
      (contents cjson (pushInbox keyspace actor payload) done) := by
  refine Ledger.Trades.one (.inbox actor) ?_ ?_
  · intro place other
    cases place <;> simp_all [contents, pushInbox, Keyspace.items, tasksOf, Keyspace.fields]
  · simp [contents, pushInbox, Keyspace.items, ← Multiset.coe_add]

theorem trades_pushDead (actor payload : String) (bound : Nat) :
    Ledger.Trades {payload} 0 (contents cjson keyspace done)
      (contents cjson (pushDead keyspace actor payload bound) done) := by
  refine Ledger.Trades.two (.dead actor) .trimmed (by simp) ?_ ?_
  · intro place other kept
    cases place <;> simp_all [contents, pushDead, Keyspace.items, tasksOf, Keyspace.fields]
  · simp only [contents, pushDead, Keyspace.items, Keyspace.store_value, if_true,
      Value.items_ofItems, add_zero]
    rw [coe_take_add_cut, ← Multiset.cons_coe, ← Multiset.singleton_add]
    abel

theorem trades_placed {actor : String} {bound : Nat} {tasks : List String}
    (placed : Placed actor bound tasks keyspace after) :
    Ledger.Trades tasks 0 (contents cjson keyspace done) (contents cjson after done) := by
  induction placed with
  | done => exact Ledger.Trades.refl _
  | @inbox task tasks before middle after pushed rest induction =>
      rw [contents_sameTasks pushed] at induction
      simpa using (trades_pushInbox actor task).trans induction
  | @dead task tasks before middle after pushed rest induction =>
      rw [contents_sameTasks pushed] at induction
      simpa using (trades_pushDead actor task bound).trans induction

theorem tasksOf_dropClaim (actor id other : String) :
    tasksOf cjson (dropClaim keyspace actor id) other =
      if other = id then [] else tasksOf cjson keyspace other := by
  have fields : (dropClaim keyspace actor id).fields .claims =
      (keyspace.fields .claims).erase id := by
    simp [dropClaim, Keyspace.fields]
  rw [tasksOf, fields]
  by_cases same : other = id
  · rw [same, AList.lookup_erase, if_pos rfl, Option.elim_none]
  · rw [AList.lookup_erase_ne same, if_neg same, tasksOf]

/-- Removing a claim takes its tasks out. -/
theorem trades_dropClaim (actor id : String) :
    Ledger.Trades 0 (tasksOf cjson keyspace id) (contents cjson keyspace done)
      (contents cjson (dropClaim keyspace actor id) done) := by
  refine Ledger.Trades.one (.claim id) ?_ ?_
  · intro place other
    cases place with
    | claim claimId =>
        have different : claimId ≠ id := by simpa using other
        simp [contents, tasksOf_dropClaim, different]
    | _ => simp [contents, dropClaim, Keyspace.items]
  · simp [contents, tasksOf_dropClaim]

/-- An acknowledgement moves the tasks of its claim. -/
theorem trades_acknowledged (actor id : String) :
    Ledger.Trades 0 0 (contents cjson keyspace done)
      (contents cjson (dropClaim keyspace actor id) (done ++ tasksOf cjson keyspace id)) := by
  refine Ledger.Trades.two (.claim id) .acknowledged (by simp) ?_ ?_
  · intro place other kept
    cases place with
    | claim claimId =>
        have different : claimId ≠ id := by simpa using other
        simp [contents, tasksOf_dropClaim, different]
    | acknowledged => exact absurd rfl kept
    | _ => simp [contents, dropClaim, Keyspace.items]
  · simp only [contents, tasksOf_dropClaim, if_true, ← Multiset.coe_add]
    simp [add_comm]

theorem tasksOf_placed {actor : String} {bound : Nat} {tasks : List String}
    (placed : Placed actor bound tasks keyspace after) (id : String) :
    tasksOf cjson after id = tasksOf cjson keyspace id := by
  rw [tasksOf, tasksOf, placed.sameClaims.claims]

/-- Recovery moves the tasks of the claims it removes. -/
theorem trades_recovered {actor : String} {bound : Nat} {ids : List String}
    (nodup : ids.Nodup) {listed : List (String × List String)}
    (tasks : listed = ids.map fun id => (id, tasksOf cjson keyspace id))
    (recovered : Recovered actor bound listed keyspace after) :
    Ledger.Trades 0 0 (contents cjson keyspace done) (contents cjson after done) := by
  induction recovered generalizing ids with
  | done => exact Ledger.Trades.refl _
  | @claim id claimed claims before middle after placed rest induction =>
      rcases ids with _ | ⟨first, ids⟩
      · cases tasks
      obtain ⟨⟨rfl, rfl⟩, tail⟩ : (first = id ∧ tasksOf cjson before first = claimed) ∧
          claims = ids.map fun other => (other, tasksOf cjson before other) := by
        simpa [eq_comm] using tasks
      rcases List.nodup_cons.mp nodup with ⟨unlisted, nodup⟩
      have later : claims = ids.map fun other => (other, tasksOf cjson middle other) := by
        rw [tail]
        refine List.map_congr_left fun other member => ?_
        have different : other ≠ first := fun same => unlisted (same ▸ member)
        rw [tasksOf_placed placed, tasksOf_dropClaim, if_neg different]
      have moved : Ledger.Trades 0 0 (contents cjson before done) (contents cjson middle done) := by
        refine Ledger.Trades.cancel (tasksOf cjson before first : Multiset String) ?_
        simpa using (trades_dropClaim actor first).trans (trades_placed placed)
      simpa using moved.trans (induction nodup later)

theorem tasksOf_putClaim (roundTrips : RoundTrips cjson) {claim : TaskClaim}
    (nonempty : claim.tasks ≠ []) (ms : Int) (id : String) :
    tasksOf cjson (putClaim cjson keyspace claim ms) id =
      if id = claim.claimId then claim.tasks else tasksOf cjson keyspace id := by
  rw [tasksOf, fields_putClaim]
  by_cases same : id = claim.claimId
  · rw [same, AList.lookup_insert, Option.elim_some, claimTasks_encode roundTrips nonempty,
      if_pos rfl]
  · rw [AList.lookup_insert_ne same, if_neg same, tasksOf]

/-- A batch claim moves the head of the inbox into a new claim. -/
theorem trades_claimed (roundTrips : RoundTrips cjson) (args : BatchClaimArgs)
    (positive : 0 < args.maxBatch) (fresh : args.claimId ∉ keyspace.fields .claims)
    (nonempty : keyspace.items (.queue args.actorId) ≠ []) :
    Ledger.Trades 0 0 (contents cjson keyspace done)
      (contents cjson (putClaim cjson (popped keyspace (.queue args.actorId) args.maxBatch)
        (args.claim ((keyspace.items (.queue args.actorId)).take args.maxBatch))
        args.expiresAtMs) done) := by
  have tasks := take_ne_nil positive nonempty
  have notThere : tasksOf cjson keyspace args.claimId = [] := by
    rw [tasksOf, AList.lookup_eq_none.mpr fresh, Option.elim_none]
  have otherTasks : ∀ id, tasksOf cjson (popped keyspace (.queue args.actorId) args.maxBatch) id =
      tasksOf cjson keyspace id := by
    intro id
    rw [tasksOf, tasksOf, (SameClaims.popped _ _ _).claims]
  refine Ledger.Trades.two (.inbox args.actorId) (.claim args.claimId) (by simp) ?_ ?_
  · intro place otherInbox otherClaim
    cases place with
    | inbox actor =>
        have different : actor ≠ args.actorId := by simpa using otherInbox
        simp only [contents, Keyspace.items]
        rw [putClaim_value_of_ne _ _ _ _ (by simp) (by simp), popped_value_of_ne (by simpa)]
    | dead actor =>
        simp only [contents, Keyspace.items]
        rw [putClaim_value_of_ne _ _ _ _ (by simp) (by simp), popped_value_of_ne (by simp)]
    | claim id =>
        have different : id ≠ args.claimId := by simpa using otherClaim
        simp only [contents]
        rw [tasksOf_putClaim roundTrips tasks, otherTasks]
        simp only [BatchClaimArgs.claim, different, if_false]
    | trimmed => exact congrArg _ (popped_trimmed _ _ _)
    | acknowledged => rfl
  · have left : (putClaim cjson (popped keyspace (.queue args.actorId) args.maxBatch)
        (args.claim ((keyspace.items (.queue args.actorId)).take args.maxBatch))
        args.expiresAtMs).items (.queue args.actorId) =
          (keyspace.items (.queue args.actorId)).drop args.maxBatch := by
      rw [Keyspace.items, putClaim_value_of_ne _ _ _ _ (by simp) (by simp)]
      exact items_popped _ _ _
    simp only [contents, left, notThere]
    rw [tasksOf_putClaim roundTrips tasks]
    simp only [BatchClaimArgs.claim, if_true, add_zero, Multiset.coe_nil, Multiset.coe_add]
    rw [Multiset.coe_eq_coe]
    exact List.perm_append_comm.trans (by rw [List.take_append_drop])

/-- A renewal moves nothing. -/
theorem contents_renewed (roundTrips : RoundTrips cjson) {claim : TaskClaim}
    (stored : Stored cjson keyspace claim) (ms : Int) :
    contents cjson (putClaim cjson keyspace (claim.renewedTo ms) ms) done =
      contents cjson keyspace done := by
  have tasks : (claim.renewedTo ms).tasks ≠ [] := stored.tasks
  funext place
  cases place with
  | inbox actor =>
      simp only [contents, Keyspace.items]
      rw [putClaim_value_of_ne _ _ _ _ (by simp) (by simp)]
  | dead actor =>
      simp only [contents, Keyspace.items]
      rw [putClaim_value_of_ne _ _ _ _ (by simp) (by simp)]
  | claim id =>
      simp only [contents]
      rw [tasksOf_putClaim roundTrips tasks]
      split
      · next same =>
          rw [same, tasksOf]
          simp only [TaskClaim.renewedTo, stored.found, Option.elim_some,
            claimTasks_encode roundTrips stored.tasks]
      · rfl
  | trimmed => rfl
  | acknowledged => rfl

theorem trades_requeued {actor payload : String}
    (dead : payload ∈ keyspace.items (.dlq actor)) :
    Ledger.Trades 0 0 (contents cjson keyspace done)
      (contents cjson (requeued keyspace actor payload) done) := by
  refine Ledger.Trades.two (.inbox actor) (.dead actor) (by simp) ?_ ?_
  · intro place otherInbox otherDead
    cases place <;>
      simp_all [contents, requeued, pushInbox, Keyspace.items, tasksOf, Keyspace.fields]
  · have taken : payload ::ₘ ((keyspace.items (.dlq actor)).erase payload : Multiset String) =
        keyspace.items (.dlq actor) :=
      Multiset.coe_eq_coe.mpr (List.perm_cons_erase dead).symm
    simp only [contents, requeued, pushInbox, Keyspace.items, Keyspace.store_value] at taken ⊢
    rw [← taken]
    simp [← Multiset.coe_add, ← Multiset.singleton_add]
    abel

/-- Moving all of one inbox behind another. -/
theorem trades_transferred {source destination : String} (different : source ≠ destination) :
    Ledger.Trades 0 0 (contents cjson keyspace done)
      (contents cjson (transferred keyspace (.queue source) (.queue destination)) done) := by
  by_cases empty : keyspace.items (.queue source) = []
  · rw [transferred, if_pos empty]
    exact Ledger.Trades.refl _
  · rw [transferred, if_neg empty]
    refine Ledger.Trades.two (.inbox source) (.inbox destination) (by simpa) ?_ ?_
    · intro place otherSource otherDestination
      cases place <;> simp_all [contents, Keyspace.items, tasksOf, Keyspace.fields]
    · simp [contents, Keyspace.items, different.symm, ← Multiset.coe_add, add_comm]

/-- Moving all of one dead-letter queue in front of another and trimming it. -/
theorem trades_transferredDead {source destination : String} (different : source ≠ destination)
    (bound : Nat) :
    Ledger.Trades 0 0 (contents cjson keyspace done)
      (contents cjson (transferredDead keyspace (.dlq source) (.dlq destination) bound) done) := by
  by_cases empty : keyspace.items (.dlq source) = []
  · rw [transferredDead, if_pos empty]
    exact Ledger.Trades.refl _
  -- first all entries move, then the tail is cut off
  · obtain ⟨joined, joinedEq⟩ : ∃ joined, joined = (keyspace.store (.dlq destination)
        (Value.ofItems (keyspace.items (.dlq source) ++ keyspace.items (.dlq destination)))).store
        (.dlq source) none := ⟨_, rfl⟩
    have moved : Ledger.Trades 0 0 (contents cjson keyspace done) (contents cjson joined done) := by
      refine Ledger.Trades.two (.dead source) (.dead destination) (by simpa) ?_ ?_
      · intro place otherSource otherDestination
        cases place <;> simp_all [contents, Keyspace.items, tasksOf, Keyspace.fields]
      · simp [joinedEq, contents, Keyspace.items, different.symm, ← Multiset.coe_add]
    have cut : Ledger.Trades 0 0 (contents cjson joined done)
        (contents cjson (transferredDead keyspace (.dlq source) (.dlq destination)
          bound) done) := by
      rw [transferredDead, if_neg empty]
      refine Ledger.Trades.two (.dead destination) .trimmed (by simp) ?_ ?_
      · intro place otherDead otherTrimmed
        cases place <;>
          simp_all [contents, Keyspace.items, tasksOf, Keyspace.fields, Keyspace.store]
      · simp only [contents, joinedEq, Keyspace.items, Keyspace.store_value, Keyspace.store_trimmed]
        simp only [Key.dlq.injEq, different.symm, if_true, if_false, Value.items_ofItems, add_zero]
        exact coe_take_add_cut _ _ bound
    simpa using moved.trans cut

theorem trades_change (roundTrips : RoundTrips cjson) {action : Action}
    {accepted acknowledged : List String}
    (change : Change cjson keyspace action after accepted acknowledged) :
    Ledger.Trades accepted 0 (contents cjson keyspace done)
      (contents cjson after (done ++ acknowledged)) := by
  cases change with
  | none => simpa using Ledger.Trades.refl (contents cjson keyspace done)
  | pushed bound message => simpa using trades_pushInbox message.recipient message.serialized
  | recovered nodup indexed moved => simpa using trades_recovered nodup rfl moved
  | claimed args positive fresh nonempty =>
      simpa using trades_claimed roundTrips args positive fresh nonempty
  | renewed stored renewable =>
      rw [List.append_nil, contents_renewed roundTrips stored]
      exact Ledger.Trades.refl _
  | acknowledged stored => exact trades_acknowledged _ _
  | requeued messageId dead => simpa using trades_requeued dead
  | migrated different guarded => simpa using trades_transferred different
  | migratedDead different guarded bound =>
      simpa using (trades_transferred different).trans (trades_transferredDead different bound)

end Contents

/-! ## Runs -/

/-- The keyspace with the messages accepted and the tasks acknowledged so far. -/
structure State where
  keyspace : Keyspace Key
  accepted : List QueueMessage
  acknowledged : List String

namespace State

def start : State := ⟨Keyspace.empty, [], []⟩

def step (cjson : Cjson) (state : State) (action : Action) : State where
  keyspace := action.after cjson state.keyspace
  accepted := state.accepted ++ action.accepted cjson state.keyspace
  acknowledged := state.acknowledged ++ action.acknowledged cjson state.keyspace

@[simp] theorem step_keyspace (cjson : Cjson) (state : State) (action : Action) :
    (state.step cjson action).keyspace = action.after cjson state.keyspace := rfl

@[simp] theorem start_keyspace : start.keyspace = Keyspace.empty := rfl

/-- Where the accepted payloads are. -/
def places (cjson : Cjson) (state : State) : Ledger Place String :=
  contents cjson state.keyspace state.acknowledged

/-- The payloads of the accepted messages. -/
def payloads (state : State) : Multiset String := state.accepted.map QueueMessage.serialized

end State

/-- A state after any finite run of admissible actions that delete nothing. -/
inductive Reachable (cjson : Cjson) : State → Prop
  | start : Reachable cjson State.start
  | step {state : State} (reached : Reachable cjson state) (action : Action)
      (admissible : action.Admissible state.keyspace) (keeps : action.deletes = false) :
      Reachable cjson (state.step cjson action)

/-- What a run keeps. -/
structure Conserved (cjson : Cjson) (state : State) : Prop where
  sound : Sound cjson state.keyspace
  bounded : (state.places cjson).Bounded
  total : (state.places cjson).total = state.payloads

theorem Conserved.start (cjson : Cjson) : Conserved cjson State.start := by
  have nothing : ∀ place, State.start.places cjson place = 0 := by
    intro place
    cases place with
    | trimmed => rfl
    | _ => simp [State.places, State.start, contents, Keyspace.items, tasksOf, Keyspace.fields]
  refine ⟨Sound.empty, ⟨∅, fun place _ => nothing place⟩, ?_⟩
  rw [Ledger.total, finsum_congr nothing, finsum_zero]
  rfl

theorem Conserved.step {cjson : Cjson} (roundTrips : RoundTrips cjson)
    (reads : ReadsMessages cjson) {state : State} (conserved : Conserved cjson state)
    {action : Action} (admissible : action.Admissible state.keyspace)
    (keeps : action.deletes = false) : Conserved cjson (state.step cjson action) := by
  obtain ⟨exact, same, change⟩ :=
    Action.change roundTrips reads conserved.sound admissible keeps
  have trades := @trades_change cjson _ _ state.acknowledged roundTrips _ _ _ change
  rw [← contents_sameTasks same] at trades
  refine ⟨conserved.sound.after roundTrips reads admissible, trades.bounded conserved.bounded, ?_⟩
  have total := trades.total conserved.bounded
  rw [add_zero] at total
  rw [State.payloads, State.step, List.map_append, ← Multiset.coe_add]
  exact total.trans (congrArg (· + _) conserved.total)

theorem Reachable.conserved {cjson : Cjson} (roundTrips : RoundTrips cjson)
    (reads : ReadsMessages cjson) {state : State} (reached : Reachable cjson state) :
    Conserved cjson state := by
  induction reached with
  | start => exact Conserved.start cjson
  | step reached action admissible keeps induction =>
      exact induction.step roundTrips reads admissible keeps

/-- The text of a message names its id. -/
theorem id_eq_of_serialized {first second : QueueMessage}
    (same : first.serialized = second.serialized) : first.id = second.id := by
  have parsed := congrArg Json.parse same
  rw [QueueMessage.serialized, QueueMessage.serialized, Json.parse_render, Json.parse_render]
    at parsed
  have documents := Option.some.inj parsed
  simp only [QueueMessage.toJson, Json.object.injEq, List.cons.injEq, Prod.mk.injEq,
    Json.string.injEq] at documents
  exact documents.1.2

/-- After every step of every run, the accepted payloads are those in the
inboxes, the stored claims, the dead-letter queues, the acknowledged claims and
the trimmed entries together; and a message whose id no other accepted message
has is in exactly one of these places. -/
theorem accepted_payloads_conserved {cjson : Cjson} (roundTrips : RoundTrips cjson)
    (reads : ReadsMessages cjson) {state : State} (reached : Reachable cjson state) :
    (state.places cjson).Bounded ∧ (state.places cjson).total = state.payloads ∧
      ∀ message ∈ state.accepted,
        (state.accepted.countP fun other => other.id = message.id) = 1 →
          ∃! place, message.serialized ∈ state.places cjson place := by
  have conserved := reached.conserved roundTrips reads
  refine ⟨conserved.bounded, conserved.total, fun message member unique => ?_⟩
  refine Ledger.existsUnique_of_count_one conserved.bounded ?_
  have atMost : state.accepted.countP (fun other => other.serialized == message.serialized) ≤
      state.accepted.countP fun other => other.id = message.id := by
    refine List.countP_mono_left fun other _ same => ?_
    simpa using id_eq_of_serialized (beq_iff_eq.mp same)
  have atLeast : 0 < state.accepted.countP
      fun other => other.serialized == message.serialized :=
    List.countP_pos_iff.mpr ⟨message, member, beq_self_eq_true _⟩
  rw [conserved.total, State.payloads, Multiset.coe_count, List.count, List.countP_map]
  simp only [Function.comp_def]
  omega

/-- Two messages are sent, and a claim of both expires. -/
def putBack : List Action :=
  [.push none greeting, .push none parting, .batchClaim greetedClaim, .recover "b" (some 2)]

theorem putBack_reachable :
    Reachable Cjson.plain (putBack.foldl (State.step Cjson.plain) State.start) := by
  have once := (@Reachable.start Cjson.plain).step (.push none greeting) trivial rfl
  have twice := once.step (.push none parting) trivial rfl
  have isGreeted : ((State.start.step Cjson.plain (.push none greeting)).step Cjson.plain
      (.push none parting)).keyspace = greetings := by
    rw [State.step_keyspace, State.step_keyspace, State.start_keyspace, greetings]
  have fresh := greetedClaim_fresh
  rw [← isGreeted] at fresh
  have claimed := twice.step (.batchClaim greetedClaim) ⟨by decide, fresh⟩ rfl
  exact claimed.step (.recover "b" (some 2)) trivial rfl

/-- Each of the messages is in one place then. -/
theorem putBack_conserved :
    (∃! place, greeting.serialized ∈
      (putBack.foldl (State.step Cjson.plain) State.start).places Cjson.plain place) ∧
    ∃! place, parting.serialized ∈
      (putBack.foldl (State.step Cjson.plain) State.start).places Cjson.plain place := by
  have reached := putBack_reachable
  have once := (@Reachable.start Cjson.plain).step (.push none greeting) trivial rfl
  have typed := (once.conserved plain_roundTrips plain_readsMessages).sound.typed
  have accepted : (putBack.foldl (State.step Cjson.plain) State.start).accepted =
      [greeting, parting] := by
    have first := accepted_push_plain (@Sound.empty Cjson.plain).typed greeting
    have second := accepted_push_plain typed parting
    simp only [State.step, State.start, List.nil_append] at second
    simp only [putBack, List.foldl_cons, List.foldl_nil, State.step, State.start, first, second]
    rfl
  have conserved := accepted_payloads_conserved plain_roundTrips plain_readsMessages reached
  rw [accepted] at conserved
  exact ⟨conserved.2.2 greeting List.mem_cons_self rfl,
    conserved.2.2 parting (List.mem_cons_of_mem _ List.mem_cons_self) rfl⟩

end GptQueue.Claims
