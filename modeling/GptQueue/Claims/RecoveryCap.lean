import GptQueue.Claims.RecoveryTrace

/-! # The recovery cap

The recovery counter of a message is a key of its own. A history of what happened to
each message says what the counter should be, and in every run it is that.
-/

namespace GptQueue.Claims

open Redis
open GptQueue.Mailbox

/-! ## Histories -/

inductive Fate
  | sent
  | recovered
  | deadLettered
  | acknowledged
  | requeued
deriving DecidableEq

/-- Something that happened to a message of an actor. -/
structure Happening where
  fate : Fate
  actor : String
  message : String
deriving DecidableEq

/-- The recoveries of a message since it was last sent, acknowledged, requeued or
dead-lettered; the history has the latest first. -/
def recoveries (actor message : String) : List Happening → Nat
  | [] => 0
  | happening :: older =>
      if happening.actor = actor ∧ happening.message = message then
        if happening.fate = .recovered then recoveries actor message older + 1 else 0
      else recoveries actor message older

/-- A recovery re-queues a message below the cap, and at the cap dead-letters it. -/
def Capped : List Happening → Prop
  | [] => True
  | happening :: older =>
      (happening.fate = .recovered →
        recoveries happening.actor happening.message older < recoverCap) ∧
      (happening.fate = .deadLettered →
        recoveries happening.actor happening.message older = recoverCap) ∧
      Capped older

section Histories

variable {actor message : String} {history : List Happening}

theorem recoveries_cons_self (fate : Fate) :
    recoveries actor message (⟨fate, actor, message⟩ :: history) =
      if fate = .recovered then recoveries actor message history + 1 else 0 :=
  if_pos ⟨rfl, rfl⟩

theorem recoveries_cons_of_ne {happening : Happening}
    (other : ¬(happening.actor = actor ∧ happening.message = message)) :
    recoveries actor message (happening :: history) = recoveries actor message history :=
  if_neg other

theorem recoveries_append_of_ne {newer : List Happening}
    (others : ∀ happening ∈ newer, happening.actor ≠ actor) :
    recoveries actor message (newer ++ history) = recoveries actor message history := by
  induction newer with
  | nil => rfl
  | cons happening newer induction =>
      rw [List.cons_append, recoveries_cons_of_ne
        fun same => others happening List.mem_cons_self same.1]
      exact induction fun other member => others other (List.mem_cons_of_mem _ member)

theorem Capped.of_append {newer older : List Happening} (capped : Capped (newer ++ older)) :
    Capped older := by
  induction newer with
  | nil => exact capped
  | cons happening newer induction => exact induction capped.2.2

/-- A message that has no recovery in the history. -/
theorem recoveries_eq_zero (never : ⟨.recovered, actor, message⟩ ∉ history) :
    recoveries actor message history = 0 := by
  induction history with
  | nil => rfl
  | cons happening older induction =>
      have earlier := induction fun member => never (List.mem_cons_of_mem _ member)
      by_cases same : happening.actor = actor ∧ happening.message = message
      · rcases happening with ⟨fate, _, _⟩
        rcases same with ⟨rfl, rfl⟩
        rw [recoveries_cons_self, if_neg]
        rintro rfl
        exact never List.mem_cons_self
      · rw [recoveries_cons_of_ne same]
        exact earlier

end Histories

/-! ## The counter key -/

/-- The value of a counter: absent for zero. -/
def counterValue : Nat → Option Value
  | 0 => none
  | count + 1 => some (.string (String.ofList (Decimal.signed (count + 1 : Nat))))

/-- Every counter of a colon-free message id is what the history says, and not above the
cap. -/
structure Counted (history : List Happening) (keyspace : Keyspace Key) : Prop where
  value : ∀ actor message, ':' ∉ message.toList →
    keyspace.value (Key.recoverCount actor message) =
      counterValue (recoveries actor message history)
  bounded : ∀ actor message, recoveries actor message history ≤ recoverCap

section Counters

variable {keyspace : Keyspace Key} {key : Key}

theorem run_incr {count : Nat} (small : count < 10 ^ 18)
    (held : keyspace.value key = counterValue count) :
    (incr key).run keyspace =
      (.ok (count + 1 : Nat), keyspace.store key (counterValue (count + 1))) := by
  cases count with
  | zero =>
      simp only [incr, typed, Keyspace.admits, Keyspace.text, held, counterValue]
      rfl
  | succ count =>
      have inRange :
          ¬(((count + 1 : Nat) : Int) < minInt64 ∨ maxInt64 < ((count + 1 : Nat) : Int)) := by
        simp only [minInt64, maxInt64]
        omega
      have notMax : ((count + 1 : Nat) : Int) ≠ maxInt64 := by
        simp only [maxInt64]
        omega
      rw [incr, run_typed (by rw [Keyspace.admits, held]; rfl)]
      simp only [Keyspace.text, held, counterValue, Value.text_string, String.toList_ofList,
        Decimal.readInt_signed]
      rw [if_neg inRange, if_neg notMax]
      rfl

theorem counterUsable_of_value {count : Nat} (small : count < 10 ^ 18)
    (held : keyspace.value key = counterValue count) : counterUsable keyspace key = true := by
  cases count with
  | zero => simp [counterUsable, held, counterValue]
  | succ count =>
      simp only [counterUsable, held, counterValue]
      apply incrementable_signed
      rw [Nat.abs_cast]
      exact_mod_cast small

theorem recoverCount_inj {actor other message otherMessage : String}
    (plain : ':' ∉ message.toList) (otherPlain : ':' ∉ otherMessage.toList)
    (same : Key.recoverCount actor message = Key.recoverCount other otherMessage) :
    actor = other ∧ message = otherMessage :=
  join_inj plain otherPlain (Key.recoverCountFor.inj same)

end Counters

/-! ## One task -/

/-- The plan for a task of an actor's claim. -/
def taskItem (cjson : Cjson) (actor payload : String) : Item where
  task := .string payload
  counterKey := counterKey cjson (some actor) (.string payload)

/-- What happened to a payload that a recovery moved. -/
def happened (cjson : Cjson) (actor payload : String) (recovered : Bool) : List Happening :=
  (trackedId cjson payload).toList.map fun message =>
    ⟨if recovered then .recovered else .deadLettered, actor, message⟩

/-- What pass 2 needs and keeps. -/
structure Tally (args : RecoverArgs) (history : List Happening) (keyspace : Keyspace Key) :
    Prop where
  ready : Ready args keyspace
  counted : Counted history keyspace
  capped : Capped history

/-- What a list of moves does. -/
structure Moved (cjson : Cjson) (args : RecoverArgs) (history : List Happening)
    (before : Keyspace Key) (moves : List (String × Bool)) (after : Keyspace Key) : Prop where
  tally : Tally args ((moves.flatMap fun move =>
    happened cjson args.actorId move.1 move.2).reverse ++ history) after
  untracked : ∀ move ∈ moves, trackedId cjson move.1 = none → move.2 = true
  inbox : after.items (.queue args.actorId) =
    before.items (.queue args.actorId) ++ (moves.filter (·.2)).map Prod.fst
  dead : after.items (.dlq args.actorId) =
    ((moves.filter (!·.2)).map Prod.fst).foldl
      (fun letters payload => (payload :: letters).take args.dlqMaxLength)
      (before.items (.dlq args.actorId))

section Moves

variable {cjson : Cjson} {args : RecoverArgs} {history : List Happening}
  {keyspace : Keyspace Key}

theorem Counted.frame (counted : Counted history keyspace) {after : Keyspace Key}
    (same : ∀ key, key.isCounter = true → after.value key = keyspace.value key) :
    Counted history after :=
  ⟨fun actor message plain => (same _ rfl).trans (counted.value actor message plain),
    counted.bounded⟩

/-- One counter follows what happened to its message. -/
theorem Counted.happen (counted : Counted history keyspace) {after : Keyspace Key}
    {happening : Happening} (plain : ':' ∉ happening.message.toList)
    (value : after.value (Key.recoverCount happening.actor happening.message) =
      counterValue (recoveries happening.actor happening.message (happening :: history)))
    (bounded : recoveries happening.actor happening.message (happening :: history) ≤ recoverCap)
    (same : ∀ key, key.isCounter = true →
      key ≠ Key.recoverCount happening.actor happening.message →
      after.value key = keyspace.value key) :
    Counted (happening :: history) after := by
  constructor
  · intro actor message otherPlain
    by_cases own : happening.actor = actor ∧ happening.message = message
    · rcases own with ⟨rfl, rfl⟩
      exact value
    · rw [recoveries_cons_of_ne own, ← counted.value actor message otherPlain]
      apply same _ rfl
      intro equal
      rcases recoverCount_inj otherPlain plain equal with ⟨rfl, rfl⟩
      exact own ⟨rfl, rfl⟩
  · intro actor message
    by_cases own : happening.actor = actor ∧ happening.message = message
    · rcases own with ⟨rfl, rfl⟩
      exact bounded
    · rw [recoveries_cons_of_ne own]
      exact counted.bounded actor message

theorem pushInbox_value_of_counter {key : Key} (counter : key.isCounter = true)
    (actor task : String) : (pushInbox keyspace actor task).value key = keyspace.value key := by
  have different : key ≠ .queue actor := by
    rintro rfl
    cases counter
  simp [pushInbox, different]

theorem pushDead_value_of_counter {key : Key} (counter : key.isCounter = true)
    (actor task : String) (bound : Nat) :
    (pushDead keyspace actor task bound).value key = keyspace.value key := by
  have different : key ≠ .dlq actor := by
    rintro rfl
    cases counter
  simp [pushDead, different]

/-- A payload without an id goes back to the inbox. -/
theorem run_moveItem_untracked {payload : String} (ready : Ready args keyspace)
    (untracked : trackedId cjson payload = none) :
    (moveItem cjson args (taskItem cjson args.actorId payload)).run keyspace =
      (.ok true, pushInbox keyspace args.actorId payload) := by
  have noCounter : (taskItem cjson args.actorId payload).counterKey = none := by
    simp [taskItem, counterKey, untracked]
  unfold moveItem
  rw [noCounter]
  exact Script.run_bind_ok (run_rpush_inbox ready.inbox payload)

/-- The keyspace after a task with a counter was moved. -/
def recounted (keyspace : Keyspace Key) (args : RecoverArgs) (key : Key) (payload : String)
    (count : Nat) : Keyspace Key :=
  if args.recoverCap < count then
    (pushDead (keyspace.store key (counterValue count)) args.actorId payload
      args.dlqMaxLength).store key none
  else pushInbox (keyspace.store key (counterValue count)) args.actorId payload

/-- A payload with an id is counted, and goes back to the inbox up to the cap. -/
theorem run_moveItem_tracked {payload message : String} {count : Nat}
    (ready : Ready args keyspace) (small : count < 10 ^ 18)
    (tracked : trackedId cjson payload = some message)
    (held : keyspace.value (Key.recoverCount args.actorId message) = counterValue count) :
    (moveItem cjson args (taskItem cjson args.actorId payload)).run keyspace =
      (.ok (!decide (args.recoverCap < count + 1)), recounted keyspace args
        (Key.recoverCount args.actorId message) payload (count + 1)) := by
  have counter : (taskItem cjson args.actorId payload).counterKey =
      some (Key.recoverCount args.actorId message) := by
    simp [taskItem, counterKey, tracked]
  have argument : (cjson.argument (taskItem cjson args.actorId payload).task :
      Script Key String) = pure payload := rfl
  have same : SameTasks (keyspace.store (Key.recoverCount args.actorId message)
      (counterValue (count + 1))) keyspace :=
    SameTasks.storeCounter (SameTasks.refl keyspace) rfl rfl
  have stillReady := ready.of_sameTasks same
  unfold moveItem
  rw [counter]
  dsimp only
  rw [Script.run_bind_ok (run_incr small held), Script.run_bind_ok (run_when_expire _ _ _ _),
    argument]
  by_cases exceeds : args.recoverCap < count + 1
  · have exceedsInt : ((count + 1 : Nat) : Int) > args.recoverCap := by exact_mod_cast exceeds
    rw [if_pos exceedsInt, recounted, if_pos exceeds, decide_eq_true exceeds]
    exact run_pushDead stillReady.dlq payload args.dlqMaxLength _
  · have withinInt : ¬((count + 1 : Nat) : Int) > args.recoverCap := by exact_mod_cast exceeds
    rw [if_neg withinInt, recounted, if_neg exceeds, decide_eq_false exceeds]
    exact Script.run_bind_ok (run_rpush_inbox stillReady.inbox payload)

theorem recounted_value_of_ne {key other : Key} {payload : String} {count : Nat}
    (counter : other.isCounter = true) (different : other ≠ key) :
    (recounted keyspace args key payload count).value other = keyspace.value other := by
  unfold recounted
  split
  · rw [Keyspace.store_value, if_neg different, pushDead_value_of_counter counter,
      Keyspace.store_value, if_neg different]
  · rw [pushInbox_value_of_counter counter, Keyspace.store_value, if_neg different]

theorem recounted_value_self {key : Key} {payload : String} {count : Nat}
    (counter : key.isCounter = true) :
    (recounted keyspace args key payload count).value key =
      counterValue (if args.recoverCap < count then 0 else count) := by
  unfold recounted
  split
  · exact if_pos rfl
  · rw [pushInbox_value_of_counter counter]
    exact if_pos rfl

theorem sameTasks_recounted {key : Key} {payload : String} {count : Nat}
    (counter : key.isCounter = true) :
    SameTasks (recounted keyspace args key payload count)
      (if args.recoverCap < count then pushDead keyspace args.actorId payload args.dlqMaxLength
        else pushInbox keyspace args.actorId payload) := by
  have text : Value.admits (counterValue count) .string = true := by
    cases count <;> rfl
  have same := SameTasks.storeCounter (SameTasks.refl keyspace) counter text
  unfold recounted
  split
  · exact SameTasks.storeCounter (SameTasks.pushDead same _ _ _) counter rfl
  · exact SameTasks.pushInbox same _ _

/-- The lists after one task was placed. -/
theorem items_placed {after : Keyspace Key} {payload : String} {recovered : Bool}
    (same : SameTasks after (if recovered then pushInbox keyspace args.actorId payload
      else pushDead keyspace args.actorId payload args.dlqMaxLength)) :
    after.items (.queue args.actorId) = keyspace.items (.queue args.actorId) ++
        ([(payload, recovered)].filter (·.2)).map Prod.fst ∧
      after.items (.dlq args.actorId) = (([(payload, recovered)].filter (!·.2)).map Prod.fst).foldl
        (fun letters payload => (payload :: letters).take args.dlqMaxLength)
        (keyspace.items (.dlq args.actorId)) := by
  rw [same.items_eq rfl, same.items_eq rfl]
  cases recovered <;> simp [pushInbox, pushDead, Keyspace.items]

theorem Moved.one {payload : String} (capIs : args.recoverCap = recoverCap)
    (tally : Tally args history keyspace)
    (plain : ∀ message, trackedId cjson payload = some message → ':' ∉ message.toList) :
    ∃ recovered after,
      (moveItem cjson args (taskItem cjson args.actorId payload)).run keyspace =
        (.ok recovered, after) ∧
      Moved cjson args history keyspace [(payload, recovered)] after := by
  cases tracked : trackedId cjson payload with
  | none =>
      have ran := run_moveItem_untracked tally.ready tracked
      have lists := @items_placed args keyspace _ payload true (SameTasks.refl _)
      refine ⟨true, _, ran, ⟨⟨tally.ready.pushInbox _ _, ?_, ?_⟩, ?_, lists.1, lists.2⟩⟩
      · simp only [List.flatMap_cons, List.flatMap_nil, happened, tracked, Option.toList_none,
          List.map_nil, List.append_nil, List.reverse_nil, List.nil_append]
        exact tally.counted.frame fun key counter => pushInbox_value_of_counter counter _ _
      · simpa [happened, tracked] using tally.capped
      · intro move member _
        rw [List.mem_singleton.mp member]
  | some message =>
      have held := tally.counted.value args.actorId message (plain message tracked)
      have bounded := tally.counted.bounded args.actorId message
      generalize countIs : recoveries args.actorId message history = count at held bounded
      have small : count < 10 ^ 18 := by
        simp only [recoverCap] at bounded
        omega
      have ran := run_moveItem_tracked tally.ready small tracked held
      have placed := @sameTasks_recounted args keyspace (Key.recoverCount args.actorId message)
        payload (count + 1) rfl
      have history_eq : ∀ recovered, ([(payload, recovered)].flatMap fun move =>
          happened cjson args.actorId move.1 move.2).reverse ++ history =
            ⟨if recovered then .recovered else .deadLettered, args.actorId, message⟩ ::
              history := by
        intro recovered
        simp [happened, tracked]
      have others : ∀ key, key.isCounter = true → key ≠ Key.recoverCount args.actorId message →
          (recounted keyspace args (Key.recoverCount args.actorId message) payload
            (count + 1)).value key = keyspace.value key :=
        fun key counter different => recounted_value_of_ne counter different
      have own := @recounted_value_self args keyspace (Key.recoverCount args.actorId message)
        payload (count + 1) rfl
      have isTracked : ∀ recovered, ∀ move ∈ [(payload, recovered)],
          trackedId cjson move.1 = none → move.2 = true := by
        intro recovered move member untracked
        rw [List.mem_singleton.mp member, tracked] at untracked
        cases untracked
      by_cases exceeds : args.recoverCap < count + 1
      · rw [decide_eq_true exceeds] at ran
        rw [if_pos exceeds] at placed own
        have lists := @items_placed args keyspace _ payload false placed
        refine ⟨false, _, ran, ⟨⟨(tally.ready.pushDead _ _ _).of_sameTasks placed, ?_, ?_⟩,
          isTracked false, lists.1, lists.2⟩⟩
        · rw [history_eq]
          refine tally.counted.happen (plain message tracked) ?_ ?_ others
          · rw [own, recoveries_cons_self]
            rfl
          · rw [recoveries_cons_self]
            exact Nat.zero_le _
        · rw [history_eq]
          refine ⟨fun same => (by cases same), fun _ => ?_, tally.capped⟩
          dsimp only
          omega
      · rw [decide_eq_false exceeds] at ran
        rw [if_neg exceeds] at placed own
        have lists := @items_placed args keyspace _ payload true placed
        refine ⟨true, _, ran, ⟨⟨(tally.ready.pushInbox _ _).of_sameTasks placed, ?_, ?_⟩,
          isTracked true, lists.1, lists.2⟩⟩
        · rw [history_eq]
          refine tally.counted.happen (plain message tracked) ?_ ?_ others
          · rw [own, recoveries_cons_self, countIs]
            rfl
          · rw [recoveries_cons_self, countIs]
            change count + 1 ≤ recoverCap
            omega
        · rw [history_eq]
          refine ⟨fun _ => ?_, fun same => (by cases same), tally.capped⟩
          dsimp only
          omega

/-! ## Whole batches -/

theorem Moved.none (tally : Tally args history keyspace) :
    Moved cjson args history keyspace [] keyspace :=
  ⟨tally, fun _ member => absurd member List.not_mem_nil, (List.append_nil _).symm, rfl⟩

theorem Moved.trans {middle after : Keyspace Key} {first second : List (String × Bool)}
    (left : Moved cjson args history keyspace first middle)
    (right : Moved cjson args ((first.flatMap fun move =>
      happened cjson args.actorId move.1 move.2).reverse ++ history) middle second after) :
    Moved cjson args history keyspace (first ++ second) after where
  tally := by
    rw [List.flatMap_append, List.reverse_append, List.append_assoc]
    exact right.tally
  untracked move member := by
    rcases List.mem_append.mp member with inFirst | inSecond
    · exact left.untracked move inFirst
    · exact right.untracked move inSecond
  inbox := by
    rw [right.inbox, left.inbox, List.filter_append, List.map_append, List.append_assoc]
  dead := by
    rw [right.dead, left.dead, List.filter_append, List.map_append, List.foldl_append]

theorem Tally.dropClaim (tally : Tally args history keyspace) (id : String) :
    Tally args history (dropClaim keyspace args.actorId id) where
  ready := tally.ready.dropClaim id
  counted := tally.counted.frame fun key counter => by
    have notClaims : key ≠ .claims := by
      rintro rfl
      cases counter
    have notIndex : key ≠ .claimsIndex args.actorId := by
      rintro rfl
      cases counter
    simp [Claims.dropClaim, notClaims, notIndex]
  capped := tally.capped

theorem Moved.of_dropClaim {id : String} {moves : List (String × Bool)} {after : Keyspace Key}
    (moved : Moved cjson args history (dropClaim keyspace args.actorId id) moves after) :
    Moved cjson args history keyspace moves after where
  tally := moved.tally
  untracked := moved.untracked
  inbox := by
    have same : (dropClaim keyspace args.actorId id).items (.queue args.actorId) =
        keyspace.items (.queue args.actorId) := by
      simp [dropClaim, Keyspace.items]
    rw [moved.inbox, same]
  dead := by
    have same : (dropClaim keyspace args.actorId id).items (.dlq args.actorId) =
        keyspace.items (.dlq args.actorId) := by
      simp [dropClaim, Keyspace.items]
    rw [moved.dead, same]

/-- The moves of a batch as the traced script replies with them. -/
def traceOf (cjson : Cjson) (actor : String) (moves : List (String × Bool)) : Moves :=
  moves.map fun move => (taskItem cjson actor move.1, move.2)

theorem traceOf_append (actor : String) (first second : List (String × Bool)) :
    traceOf cjson actor (first ++ second) =
      traceOf cjson actor first ++ traceOf cjson actor second :=
  List.map_append

/-- Message ids without colons. -/
def PlainIds (cjson : Cjson) (payloads : List String) : Prop :=
  ∀ payload ∈ payloads, ∀ message, trackedId cjson payload = some message → ':' ∉ message.toList

theorem run_moveItemsTraced (capIs : args.recoverCap = recoverCap) {tasks : List String}
    (tally : Tally args history keyspace) (plain : PlainIds cjson tasks) :
    ∃ counts moves after,
      (moveItemsTraced cjson args (tasks.map (taskItem cjson args.actorId))).run keyspace =
        (.ok (counts, traceOf cjson args.actorId moves), after) ∧
      moves.map Prod.fst = tasks ∧ Moved cjson args history keyspace moves after := by
  induction tasks generalizing history keyspace with
  | nil => exact ⟨(0, 0), [], keyspace, rfl, rfl, Moved.none tally⟩
  | cons task tasks induction =>
      rcases Moved.one capIs tally (plain task List.mem_cons_self) with
        ⟨recovered, middle, ran, moved⟩
      rcases induction moved.tally fun payload member =>
        plain payload (List.mem_cons_of_mem _ member) with
        ⟨counts, moves, after, rest, listed, later⟩
      refine ⟨if recovered then (counts.1 + 1, counts.2) else (counts.1, counts.2 + 1),
        (task, recovered) :: moves, after, ?_, ?_, moved.trans later⟩
      · rw [List.map_cons, moveItemsTraced, Script.run_bind_ok ran, Script.run_bind_ok rest]
        rfl
      · rw [List.map_cons, listed]

/-- The planned entries of an actor's claims. -/
def claimEntry (cjson : Cjson) (actor : String) (claim : String × List String) : Entry where
  id := claim.1
  tasks := claim.2.map (taskItem cjson actor)

theorem run_moveEntriesTraced (capIs : args.recoverCap = recoverCap)
    {claims : List (String × List String)} (tally : Tally args history keyspace)
    (plain : ∀ claim ∈ claims, PlainIds cjson claim.2) :
    ∃ counts moves after,
      (moveEntriesTraced cjson args (claims.map (claimEntry cjson args.actorId))).run keyspace =
        (.ok (counts, traceOf cjson args.actorId moves), after) ∧
      moves.map Prod.fst = claims.flatMap Prod.snd ∧
      Moved cjson args history keyspace moves after := by
  induction claims generalizing history keyspace with
  | nil => exact ⟨(0, 0), [], keyspace, rfl, rfl, Moved.none tally⟩
  | cons claim claims induction =>
      rcases run_moveItemsTraced capIs (tally.dropClaim claim.1)
        (plain claim List.mem_cons_self) with ⟨first, moves, middle, ran, listed, moved⟩
      rcases induction moved.tally fun other member =>
        plain other (List.mem_cons_of_mem _ member) with
        ⟨counts, rest, after, restRan, restListed, later⟩
      refine ⟨(first.1 + counts.1, first.2 + counts.2), moves ++ rest, after, ?_, ?_,
        moved.of_dropClaim.trans later⟩
      · rw [List.map_cons, moveEntriesTraced]
        dsimp only [claimEntry]
        rw [run_dropClaim tally.ready.claims tally.ready.index, Script.run_bind_ok ran,
          Script.run_bind_ok restRan, traceOf_append]
        rfl
      · rw [List.map_append, listed, restListed, List.flatMap_cons]

/-! ## A whole recovery -/

/-- The payloads that a recovery moves, and whether each goes to the inbox. -/
def recoverMoves (cjson : Cjson) (actorId : String) (now : Option Int) (keyspace : Keyspace Key) :
    List (String × Bool) :=
  match ((recoverTraced cjson (recoverExpiredArgs actorId now)).run keyspace).1 with
  | .ok (_, moves) => moves.filterMap fun move => (cjson.text move.1.task).map (·, move.2)
  | .error _ => []

theorem payloads_traceOf (actor : String) (moves : List (String × Bool)) :
    (traceOf cjson actor moves).filterMap
      (fun move => (cjson.text move.1.task).map (·, move.2)) = moves := by
  rw [traceOf, List.filterMap_map]
  exact List.filterMap_some

/-- The plan for a claim in the actor's index. -/
theorem storedItems_of_indexed (roundTrips : RoundTrips cjson) (sound : Sound cjson keyspace)
    {actorId id : String} (indexed : id ∈ keyspace.scores (.claimsIndex actorId)) :
    storedItems cjson keyspace id =
      (tasksOf cjson keyspace id).map (taskItem cjson actorId) := by
  rcases (sound.indexed _ _).mp indexed with ⟨claim, stored, rfl, rfl⟩
  rw [storedItems, tasksOf, stored.found, Option.elim_some, Option.elim_some,
    claimItems_encode roundTrips stored.tasks, claimTasks_encode roundTrips stored.tasks]
  rfl

theorem indexed_of_expired {actorId id : String} {now : Option Int}
    (expired : id ∈ expiredIds (recoverExpiredArgs actorId now) keyspace) :
    id ∈ keyspace.scores (.claimsIndex actorId) := by
  cases now with
  | none => exact absurd expired List.not_mem_nil
  | some now =>
      rcases mem_membersUpTo.mp expired with ⟨score, found, -⟩
      exact AList.lookup_isSome.mp (Option.isSome_of_eq_some found)

/-- The tasks of an actor's expired claims. -/
def expiredTasks (cjson : Cjson) (actorId : String) (now : Option Int) (keyspace : Keyspace Key) :
    List String :=
  (expiredIds (recoverExpiredArgs actorId now) keyspace).flatMap (tasksOf cjson keyspace)

theorem passesChecks_of_counted (roundTrips : RoundTrips cjson) (sound : Sound cjson keyspace)
    (counted : Counted history keyspace) {actorId : String} {now : Int}
    (plain : PlainIds cjson (expiredTasks cjson actorId (some now) keyspace))
    (expired : expiredIds (recoverExpiredArgs actorId (some now)) keyspace ≠ []) :
    PassesChecks cjson (recoverExpiredArgs actorId (some now)) keyspace where
  now := rfl
  index := sound.typed.index actorId
  expired := expired
  claims := sound.typed.claims
  inbox := sound.typed.inbox actorId
  dlq := sound.typed.dlq actorId
  counters id member := by
    rw [storedItems_of_indexed roundTrips sound (indexed_of_expired member), countersUsable,
      List.all_map, List.all_eq_true]
    intro payload inside
    cases tracked : trackedId cjson payload with
    | none => simp [taskItem, counterKey, tracked]
    | some message =>
        have isPlain := plain payload (List.mem_flatMap.mpr ⟨id, member, inside⟩) message tracked
        have bounded := counted.bounded actorId message
        have small : recoveries actorId message history < 10 ^ 18 := by
          simp only [recoverCap] at bounded
          omega
        have usable := counterUsable_of_value small (counted.value actorId message isPlain)
        simpa [taskItem, counterKey, tracked] using usable

/-- A recovery moves the tasks of the expired claims. -/
theorem moved_of_recover (roundTrips : RoundTrips cjson) (sound : Sound cjson keyspace)
    (counted : Counted history keyspace) (capped : Capped history) (actorId : String)
    (now : Option Int) (plain : PlainIds cjson (expiredTasks cjson actorId now keyspace)) :
    (recoverMoves cjson actorId now keyspace).map Prod.fst =
        expiredTasks cjson actorId now keyspace ∧
      Moved cjson (recoverExpiredArgs actorId now) history keyspace
        (recoverMoves cjson actorId now keyspace)
        ((recover cjson (recoverExpiredArgs actorId now)).run keyspace).2 := by
  have tally : Tally (recoverExpiredArgs actorId now) history keyspace :=
    ⟨⟨sound.typed.inbox actorId, sound.typed.dlq actorId, sound.typed.claims,
      sound.typed.index actorId⟩, counted, capped⟩
  cases now with
  | none =>
      have raised : (recoverTraced cjson (recoverExpiredArgs actorId none)).run keyspace =
          (.error .notAFloat, keyspace) := rfl
      rw [← run_recoverTraced, recoverMoves, raised]
      exact ⟨rfl, Moved.none tally⟩
  | some now =>
      by_cases expired : expiredIds (recoverExpiredArgs actorId (some now)) keyspace = []
      · have idle : (recoverTraced cjson (recoverExpiredArgs actorId (some now))).run keyspace =
            (.ok (.moved 0 0, []), keyspace) := by
          rw [recoverTraced, Script.run_bind_ok (run_zrangebyscore rfl
            (sound.typed.index actorId)), if_pos expired]
          rfl
        rw [← run_recoverTraced, recoverMoves, idle, expiredTasks, expired]
        exact ⟨rfl, Moved.none tally⟩
      · have passes := passesChecks_of_counted roundTrips sound counted plain expired
        have entries : entriesOf cjson (recoverExpiredArgs actorId (some now)) keyspace =
            ((expiredIds (recoverExpiredArgs actorId (some now)) keyspace).map fun id =>
              (id, tasksOf cjson keyspace id)).map
                (claimEntry cjson (recoverExpiredArgs actorId (some now)).actorId) := by
          rw [List.map_map]
          apply List.map_congr_left
          intro id member
          rw [storedItems_of_indexed roundTrips sound (indexed_of_expired member)]
          rfl
        have plainClaims : ∀ claim ∈ (expiredIds (recoverExpiredArgs actorId (some now))
            keyspace).map fun id => (id, tasksOf cjson keyspace id), PlainIds cjson claim.2 := by
          intro claim member payload inside
          rcases List.mem_map.mp member with ⟨id, isExpired, rfl⟩
          exact plain payload (List.mem_flatMap.mpr ⟨id, isExpired, inside⟩)
        rcases run_moveEntriesTraced rfl tally plainClaims with
          ⟨counts, moves, after, ran, listed, moved⟩
        have traced : (recoverTraced cjson (recoverExpiredArgs actorId (some now))).run keyspace =
            (.ok (.moved counts.1 counts.2, traceOf cjson actorId moves), after) := by
          rw [run_recoverTraced_of_passes passes, entries, Script.run_bind_ok ran]
          rfl
        have isMoves : recoverMoves cjson actorId (some now) keyspace = moves := by
          rw [recoverMoves, traced]
          exact payloads_traceOf actorId moves
        rw [← run_recoverTraced, isMoves, traced]
        refine ⟨?_, moved⟩
        rw [listed, List.flatMap_map]
        rfl

/-! ## Cleared counters -/

theorem recoveries_map (fate : Fate) (notRecovered : fate ≠ .recovered) (actor other : String)
    (message : String) (messages : List String) :
    recoveries actor message (messages.map (⟨fate, other, ·⟩) ++ history) =
      if other = actor ∧ message ∈ messages then 0 else recoveries actor message history := by
  induction messages with
  | nil => simp
  | cons first rest induction =>
      rw [List.map_cons, List.cons_append]
      by_cases same : other = actor ∧ first = message
      · rcases same with ⟨rfl, rfl⟩
        rw [recoveries_cons_self, if_neg notRecovered, if_pos ⟨rfl, List.mem_cons_self⟩]
      · rw [recoveries_cons_of_ne same, induction]
        by_cases inside : other = actor ∧ message ∈ rest
        · rw [if_pos inside, if_pos ⟨inside.1, List.mem_cons_of_mem _ inside.2⟩]
        · rw [if_neg inside, if_neg]
          intro member
          rcases List.mem_cons.mp member.2 with rfl | later
          · exact same ⟨member.1, rfl⟩
          · exact inside ⟨member.1, later⟩

/-- The counters of some messages are cleared. -/
theorem Counted.clear (counted : Counted history keyspace) {after : Keyspace Key} {fate : Fate}
    (notRecovered : fate ≠ .recovered) {actor : String} {messages : List String}
    (plain : ∀ message ∈ messages, ':' ∉ message.toList)
    (value : ∀ key, key.isCounter = true → after.value key =
      if key ∈ messages.map (Key.recoverCount actor) then none else keyspace.value key) :
    Counted (messages.map (⟨fate, actor, ·⟩) ++ history) after := by
  constructor
  · intro other message otherPlain
    rw [value _ rfl, recoveries_map fate notRecovered]
    by_cases inside : actor = other ∧ message ∈ messages
    · rcases inside with ⟨rfl, member⟩
      rw [if_pos (List.mem_map_of_mem member), if_pos ⟨rfl, member⟩]
      rfl
    · rw [if_neg inside, if_neg]
      · exact counted.value other message otherPlain
      · intro member
        rcases List.mem_map.mp member with ⟨found, isFound, same⟩
        rcases recoverCount_inj (plain found isFound) otherPlain same with ⟨rfl, rfl⟩
        exact inside ⟨rfl, isFound⟩
  · intro other message
    rw [recoveries_map fate notRecovered]
    split
    · exact Nat.zero_le _
    · exact counted.bounded other message

theorem Capped.clear (capped : Capped history) {fate : Fate} (notRecovered : fate ≠ .recovered)
    (notDead : fate ≠ .deadLettered) (actor : String) (messages : List String) :
    Capped (messages.map (⟨fate, actor, ·⟩) ++ history) := by
  induction messages with
  | nil => exact capped
  | cons message messages induction =>
      exact ⟨fun same => absurd same notRecovered, fun same => absurd same notDead, induction⟩

end Moves

end GptQueue.Claims
