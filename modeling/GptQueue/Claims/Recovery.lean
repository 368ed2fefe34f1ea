import GptQueue.Claims.Scripts

/-! # Recovery of expired claims

Pass 1 of the recovery script only reads: its result is computed here as a
function of the keyspace. Pass 2 writes, and every command in it succeeds on a
keyspace that pass 1 accepted, except a push whose task cannot be a command
argument.
-/

namespace GptQueue.Claims

open Redis

/-! ## Recovery counters -/

/-- Whether a recovery counter is absent or holds an integer that `INCR` is sure
to accept. -/
def counterUsable (keyspace : Keyspace Key) (counterKey : Key) : Bool :=
  match keyspace.value counterKey with
  | none => true
  | some (.string current) => incrementable current
  | some _ => false

theorem isCanonical_of_incrementableDigits {digits : List Char}
    (accepted : incrementableDigits digits = true) :
    Decimal.isCanonical digits = true ∧ digits ≠ ['0'] ∧ Decimal.value digits < 10 ^ 18 := by
  simp only [incrementableDigits, Bool.and_eq_true, decide_eq_true_eq] at accepted
  rcases accepted with ⟨⟨leading, allDigits⟩, short⟩
  cases digits with
  | nil => simp at leading
  | cons head tail =>
      have nonzero : head ≠ '0' := by simpa using leading
      refine ⟨?_, ?_, ?_⟩
      · simp [Decimal.isCanonical, allDigits, nonzero]
      · simp [nonzero]
      · exact (Decimal.value_lt_pow allDigits).trans_le (Nat.pow_le_pow_right (by omega) short)

theorem readInt_of_incrementable {current : String} (accepted : incrementable current = true) :
    ∃ value, Decimal.readInt current.toList = some value ∧ |value| < 10 ^ 18 := by
  unfold incrementable at accepted
  split at accepted
  · next chars => exact ⟨0, by rw [chars]; rfl, by decide⟩
  · next digits chars =>
      rcases isCanonical_of_incrementableDigits accepted with ⟨canonical, nonzero, small⟩
      refine ⟨-(Decimal.value digits : Int), ?_, ?_⟩
      · rw [chars]
        simp [Decimal.readInt, canonical, nonzero]
      · rw [abs_neg, Nat.abs_cast]
        exact_mod_cast small
  · rcases isCanonical_of_incrementableDigits accepted with ⟨canonical, -, small⟩
    refine ⟨_, Decimal.readInt_of_digits canonical, ?_⟩
    rw [Nat.abs_cast]
    exact_mod_cast small

theorem incrementableDigits_numeral {number : Nat} (positive : number ≠ 0)
    (small : number < 10 ^ 18) : incrementableDigits (Decimal.numeral number) = true := by
  have canonical := Decimal.isCanonical_numeral number
  have nonzero : Decimal.numeral number ≠ ['0'] :=
    fun equal => positive ((Decimal.numeral_eq_zero_iff number).mp equal)
  have short := @Decimal.length_numeral_le number 18 (by omega) small
  simp only [Decimal.isCanonical, Bool.and_eq_true, Bool.or_eq_true, beq_iff_eq, bne_iff_ne]
    at canonical
  rcases canonical with ⟨allDigits, zero | ⟨nonempty, leading⟩⟩
  · exact absurd zero nonzero
  · simp only [incrementableDigits, Bool.and_eq_true, decide_eq_true_eq]
    refine ⟨⟨?_, allDigits⟩, short⟩
    cases digits : Decimal.numeral number with
    | nil => exact absurd digits nonempty
    | cons head tail =>
        rw [digits] at leading
        simpa using leading

theorem incrementable_of_digits {digits : List Char}
    (accepted : incrementableDigits digits = true) :
    incrementable (String.ofList digits) = true := by
  unfold incrementable
  rw [String.toList_ofList]
  split
  · rfl
  · next rest =>
      -- a sign is not a digit
      simp [incrementableDigits] at accepted
  · exact accepted

theorem incrementable_signed {value : Int} (small : |value| < 10 ^ 18) :
    incrementable (String.ofList (Decimal.signed value)) = true := by
  rcases value with (_ | number) | number
  · decide
  · have bound : number + 1 < 10 ^ 18 := by
      have cast : |((number + 1 : Nat) : Int)| < 10 ^ 18 := small
      rw [Nat.abs_cast] at cast
      exact_mod_cast cast
    exact incrementable_of_digits (incrementableDigits_numeral (by omega) bound)
  · have bound : number + 1 < 10 ^ 18 := by
      rw [Int.negSucc_eq, abs_neg] at small
      have cast : |((number + 1 : Nat) : Int)| < 10 ^ 18 := by exact_mod_cast small
      rw [Nat.abs_cast] at cast
      exact_mod_cast cast
    simp only [incrementable, Decimal.signed, String.toList_ofList]
    exact incrementableDigits_numeral (by omega) bound

/-- `INCR` on a usable counter succeeds. -/
theorem incr_of_usable {keyspace : Keyspace Key} {counterKey : Key}
    (usable : counterUsable keyspace counterKey = true) :
    ∃ count, |count - 1| < 10 ^ 18 ∧
      (incr counterKey).run keyspace = (.ok count, keyspace.store counterKey
        (some (.string (String.ofList (Decimal.signed count))))) := by
  unfold counterUsable at usable
  split at usable
  · next absent =>
      refine ⟨1, by decide, ?_⟩
      simp only [incr, typed, Keyspace.admits, Keyspace.text, absent]
      rfl
  · next current present =>
      rcases readInt_of_incrementable usable with ⟨value, read, small⟩
      have bounds := abs_lt.mp small
      refine ⟨value + 1, by simpa using small, ?_⟩
      have inRange : ¬(value < minInt64 ∨ maxInt64 < value) := by
        simp only [minInt64, maxInt64]
        omega
      have notMax : value ≠ maxInt64 := by
        simp only [maxInt64]
        omega
      simp [incr, typed, Keyspace.admits, Keyspace.text, present, Value.kind, read, inRange,
        notMax]
  · simp at usable

/-! ## Pass 1 -/

theorem run_checkCounter (counterKey : Option Key) (keyspace : Keyspace Key) :
    (checkCounter counterKey).run keyspace =
      (.ok (counterKey.all (counterUsable keyspace)), keyspace) := by
  cases counterKey with
  | none => rfl
  | some counterKey =>
      simp only [checkCounter, Script.run_bind, run_holds, Keyspace.admits,
        Option.all_some, counterUsable]
      cases held : keyspace.value counterKey with
      | none => simp [Redis.get, typed, Keyspace.admits, Keyspace.text, held, Script.run_bind]
      | some value =>
          cases value <;>
            simp [Redis.get, typed, Keyspace.admits, Keyspace.text, held, Script.run_bind,
              Value.kind]

/-- Whether every counter of a list of tasks can be incremented. -/
def countersUsable (keyspace : Keyspace Key) (items : List Item) : Bool :=
  items.all fun item => item.counterKey.all (counterUsable keyspace)

theorem run_checkItems (items : List Item) (keyspace : Keyspace Key) :
    (checkItems items).run keyspace = (.ok (countersUsable keyspace items), keyspace) := by
  induction items with
  | nil => rfl
  | cons item items induction =>
      simp only [checkItems, Script.run_bind, run_checkCounter, countersUsable, List.all_cons]
      cases item.counterKey.all (counterUsable keyspace) with
      | false => rfl
      | true => exact induction

/-- The tasks that recovery reads for one expired claim. -/
def storedItems (cjson : Cjson) (keyspace : Keyspace Key) (id : String) : List Item :=
  ((keyspace.fields .claims).lookup id).elim [] (claimItems cjson)

theorem run_planEntry (cjson : Cjson) {keyspace : Keyspace Key}
    (isHash : keyspace.admits .claims .hash = true) (id : String) :
    (planEntry cjson id).run keyspace =
      (.ok (if countersUsable keyspace (storedItems cjson keyspace id) then
        some { id, tasks := storedItems cjson keyspace id } else none), keyspace) := by
  rcases found : (keyspace.fields .claims).lookup id with _ | raw
  · simp [planEntry, Script.run_bind, hget, run_typed isHash, storedItems, found, countersUsable]
  · simp only [planEntry, Script.run_bind, hget, run_typed isHash, storedItems, found,
      run_checkItems, Option.elim_some]
    by_cases usable : countersUsable keyspace (claimItems cjson raw) = true <;> simp [usable]

theorem run_plan (cjson : Cjson) {keyspace : Keyspace Key}
    (isHash : keyspace.admits .claims .hash = true) (ids : List String) :
    (plan cjson ids).run keyspace =
      (.ok (if ids.all (fun id => countersUsable keyspace (storedItems cjson keyspace id)) then
        some (ids.map fun id => { id, tasks := storedItems cjson keyspace id }) else none),
        keyspace) := by
  induction ids with
  | nil => rfl
  | cons id ids induction =>
      simp only [plan, Script.run_bind, run_planEntry cjson isHash, List.all_cons]
      by_cases usable : countersUsable keyspace (storedItems cjson keyspace id) = true
      · simp only [usable, if_true, Script.run_bind, induction, Script.run_pure, Bool.true_and,
          List.map_cons]
        split <;> simp_all
      · simp [usable]

/-! ## Pass 2 -/

def pushInbox (keyspace : Keyspace Key) (actorId task : String) : Keyspace Key :=
  keyspace.store (.queue actorId) (Value.ofItems (keyspace.items (.queue actorId) ++ [task]))

/-- Put a task at the head of a dead-letter queue and trim it. -/
def pushDead (keyspace : Keyspace Key) (actorId task : String) (bound : Nat) :
    Keyspace Key :=
  { keyspace.store (.dlq actorId)
      (Value.ofItems ((task :: keyspace.items (.dlq actorId)).take bound)) with
    trimmed := keyspace.trimmed ++ (task :: keyspace.items (.dlq actorId)).drop bound }

theorem holdsTasks_of_isCounter {key : Key} (counter : key.isCounter = true) :
    key.holdsTasks = false ∧ key.kind = .string := by
  cases key <;> simp_all [Key.isCounter, Key.holdsTasks, Key.kind]

theorem SameTasks.storeCounter {left right : Keyspace Key} (same : SameTasks left right)
    {key : Key} (counter : key.isCounter = true) {value : Option Value}
    (text : Value.admits value .string = true) : SameTasks (left.store key value) right := by
  rcases holdsTasks_of_isCounter counter with ⟨other, isString⟩
  exact same.store other (by rwa [isString])

theorem WellTyped.pushInbox {keyspace : Keyspace Key} (typed : WellTyped keyspace)
    (actorId task : String) : WellTyped (pushInbox keyspace actorId task) :=
  typed.store (by simp [Key.kind])

theorem WellTyped.pushDead {keyspace : Keyspace Key} (typed : WellTyped keyspace)
    (actorId task : String) (bound : Nat) : WellTyped (pushDead keyspace actorId task bound) :=
  typed.store (by simp [Key.kind])

theorem SameTasks.pushInbox {left right : Keyspace Key} (same : SameTasks left right)
    (actorId task : String) :
    SameTasks (pushInbox left actorId task) (pushInbox right actorId task) := by
  have items := same.items_eq (rfl : (Key.queue actorId).holdsTasks = true)
  refine ⟨fun key holds => ?_, same.trimmed, fun key other admitted => ?_⟩
  · simp only [Claims.pushInbox, Keyspace.store_value, items, same.value key holds]
  · have different : key ≠ .queue actorId := by
      rintro rfl
      simp [Key.holdsTasks] at other
    simp only [Keyspace.admits, Claims.pushInbox, Keyspace.store_value, different, if_false]
      at admitted ⊢
    exact same.typed key other admitted

theorem SameTasks.pushDead {left right : Keyspace Key} (same : SameTasks left right)
    (actorId task : String) (bound : Nat) :
    SameTasks (pushDead left actorId task bound) (pushDead right actorId task bound) := by
  have items := same.items_eq (rfl : (Key.dlq actorId).holdsTasks = true)
  refine ⟨fun key holds => ?_, ?_, fun key other admitted => ?_⟩
  · simp only [Claims.pushDead, Keyspace.store_value, items, same.value key holds]
  · simp only [Claims.pushDead, items, same.trimmed]
  · have different : key ≠ .dlq actorId := by
      rintro rfl
      simp [Key.holdsTasks] at other
    simp only [Keyspace.admits, Claims.pushDead, Keyspace.store_value, different, if_false]
      at admitted ⊢
    exact same.typed key other admitted

theorem run_when_expire (condition : Prop) [Decidable condition] (key : Key) (seconds : Nat)
    (keyspace : Keyspace Key) :
    (Script.when condition (expire key seconds)).run keyspace = (.ok (), keyspace) := by
  unfold Script.when
  split <;> rfl

theorem run_rpush_inbox {keyspace : Keyspace Key} {actorId : String}
    (inbox : keyspace.admits (.queue actorId) .list = true) (task : String) :
    (rpush (.queue actorId) [task]).run keyspace =
      (.ok (), pushInbox keyspace actorId task) := by
  simp only [rpush, run_typed inbox, pushInbox]

theorem run_pushDead {α : Type} {keyspace : Keyspace Key} {actorId : String}
    (dlq : keyspace.admits (.dlq actorId) .list = true) (task : String) (bound : Nat)
    (next : Script Key α) :
    (do lpush (.dlq actorId) [task]; ltrim (.dlq actorId) bound; next : Script Key α).run
      keyspace = next.run (pushDead keyspace actorId task bound) := by
  obtain ⟨pushed, pushedEq⟩ : ∃ pushed, pushed = keyspace.store (.dlq actorId)
      (Value.ofItems (task :: keyspace.items (.dlq actorId))) := ⟨_, rfl⟩
  have lpushed : (lpush (.dlq actorId) [task]).run keyspace = (.ok (), pushed) := by
    simp [lpush, run_typed dlq, pushedEq]
  have stillList : pushed.admits (.dlq actorId) .list = true := by
    simp [Keyspace.admits, pushedEq]
  rw [Script.run_bind_ok lpushed, Script.run_bind]
  simp only [ltrim, run_typed stillList]
  congr 1
  apply Keyspace.ext
  · intro key
    by_cases same : key = .dlq actorId <;>
      simp [pushDead, pushedEq, same, Keyspace.items]
  · simp [pushDead, pushedEq, Keyspace.items]

theorem counterUsable_store_other {keyspace : Keyspace Key} {key other : Key}
    (counter : key.isCounter = true) (notCounter : other.isCounter = false)
    (value : Option Value) :
    counterUsable (keyspace.store other value) key = counterUsable keyspace key := by
  have different : key ≠ other := by
    rintro rfl
    simp [counter] at notCounter
  simp [counterUsable, different]

theorem counterUsable_store {keyspace : Keyspace Key} {stored : Key} {value : Option Value}
    (usable : counterUsable (keyspace.store stored value) stored = true) {key : Key}
    (keyUsable : counterUsable keyspace key = true) :
    counterUsable (keyspace.store stored value) key = true := by
  by_cases same : key = stored
  · rw [same]
    exact usable
  · simpa [counterUsable, same] using keyUsable

/-- What one task of pass 2 does on a keyspace that pass 1 accepted. -/
theorem run_moveItem (cjson : Cjson) {args : RecoverArgs} {item : Item} {task : String}
    {keyspace : Keyspace Key} (capped : args.recoverCap < 10 ^ 18)
    (sendable : cjson.text item.task = some task)
    (counter : item.counterKey.all Key.isCounter = true)
    (usable : item.counterKey.all (counterUsable keyspace) = true)
    (inbox : keyspace.admits (.queue args.actorId) .list = true)
    (dlq : keyspace.admits (.dlq args.actorId) .list = true) :
    ∃ recovered after, (moveItem cjson args item).run keyspace = (.ok recovered, after) ∧
      SameTasks after
        (if recovered then pushInbox keyspace args.actorId task
          else pushDead keyspace args.actorId task args.dlqMaxLength) ∧
      ∀ key, key.isCounter = true → counterUsable keyspace key = true →
        counterUsable after key = true := by
  have argument : (cjson.argument item.task : Script Key String) = pure task := by
    rw [Cjson.argument, sendable]
  unfold moveItem
  cases counterEq : item.counterKey with
  | none =>
      refine ⟨true, pushInbox keyspace args.actorId task, ?_, SameTasks.refl _, ?_⟩
      · simp [argument, Script.run_bind, rpush, run_typed inbox, pushInbox]
      · intro key isCounter keyUsable
        have different : key ≠ .queue args.actorId := by
          rintro rfl
          simp [Key.isCounter] at isCounter
        simpa [counterUsable, pushInbox, different] using keyUsable
  | some counterKey =>
      rw [counterEq, Option.all_some] at counter usable
      rcases incr_of_usable usable with ⟨count, small, incremented⟩
      obtain ⟨counted, countedEq⟩ : ∃ counted, counted = keyspace.store counterKey
          (some (.string (String.ofList (Decimal.signed count)))) := ⟨_, rfl⟩
      have same : SameTasks counted keyspace :=
        countedEq ▸ SameTasks.storeCounter (SameTasks.refl keyspace) counter rfl
      have countedInbox := (same.admits_eq (rfl : (Key.queue args.actorId).holdsTasks = true)
        .list).trans inbox
      have countedDlq := (same.admits_eq (rfl : (Key.dlq args.actorId).holdsTasks = true)
        .list).trans dlq
      rw [← countedEq] at incremented
      by_cases exceeds : count > args.recoverCap
      · refine ⟨false, (pushDead counted args.actorId task args.dlqMaxLength).store counterKey
          none, ?_, SameTasks.storeCounter (SameTasks.pushDead same _ _ _) counter rfl, ?_⟩
        · rw [Script.run_bind_ok incremented, Script.run_bind_ok (run_when_expire _ _ _ _),
            if_pos exceeds, argument]
          exact run_pushDead countedDlq task args.dlqMaxLength _
        · intro key isCounter keyUsable
          by_cases sameKey : key = counterKey
          · simp [counterUsable, sameKey]
          · have different : key ≠ .dlq args.actorId := by
              rintro rfl
              simp [Key.isCounter] at isCounter
            simpa [counterUsable, sameKey, pushDead, different, countedEq] using keyUsable
      · refine ⟨true, pushInbox counted args.actorId task, ?_, SameTasks.pushInbox same _ _, ?_⟩
        · rw [Script.run_bind_ok incremented, Script.run_bind_ok (run_when_expire _ _ _ _),
            if_neg exceeds, argument]
          exact Script.run_bind_ok (run_rpush_inbox countedInbox task)
        · intro key isCounter keyUsable
          rw [pushInbox, counterUsable_store_other isCounter rfl, countedEq]
          refine counterUsable_store ?_ keyUsable
          simp only [counterUsable, Keyspace.store_value, if_true]
          apply incrementable_signed
          have bounds := abs_lt.mp small
          exact abs_lt.mpr ⟨by omega, by omega⟩

/-- The parts of a keyspace that pass 2 writes to, besides the counters. -/
structure Ready (args : RecoverArgs) (keyspace : Keyspace Key) : Prop where
  inbox : keyspace.admits (.queue args.actorId) .list = true
  dlq : keyspace.admits (.dlq args.actorId) .list = true
  claims : keyspace.admits .claims .hash = true
  index : keyspace.admits (.claimsIndex args.actorId) .zset = true

theorem admits_pushInbox {keyspace : Keyspace Key} {key : Key} {kind : Kind}
    (admitted : keyspace.admits key kind = true) (actorId task : String)
    (list : key = .queue actorId → kind = .list) :
    (pushInbox keyspace actorId task).admits key kind = true := by
  by_cases same : key = .queue actorId
  · simp [Keyspace.admits, pushInbox, same, list same]
  · simpa [Keyspace.admits, pushInbox, same] using admitted

theorem admits_pushDead {keyspace : Keyspace Key} {key : Key} {kind : Kind}
    (admitted : keyspace.admits key kind = true) (actorId task : String) (bound : Nat)
    (list : key = .dlq actorId → kind = .list) :
    (pushDead keyspace actorId task bound).admits key kind = true := by
  by_cases same : key = .dlq actorId
  · simp [Keyspace.admits, pushDead, same, list same]
  · simpa [Keyspace.admits, pushDead, same] using admitted

theorem Ready.of_sameTasks {args : RecoverArgs} {left right : Keyspace Key}
    (ready : Ready args right) (same : SameTasks left right) : Ready args left where
  inbox := (same.admits_eq rfl _).trans ready.inbox
  dlq := (same.admits_eq rfl _).trans ready.dlq
  claims := (same.admits_eq rfl _).trans ready.claims
  index := (same.admits_eq rfl _).trans ready.index

theorem Ready.pushInbox {args : RecoverArgs} {keyspace : Keyspace Key}
    (ready : Ready args keyspace) (actorId task : String) :
    Ready args (pushInbox keyspace actorId task) where
  inbox := admits_pushInbox ready.inbox _ _ fun _ => rfl
  dlq := admits_pushInbox ready.dlq _ _ fun _ => rfl
  claims := admits_pushInbox ready.claims _ _ nofun
  index := admits_pushInbox ready.index _ _ nofun

theorem Ready.pushDead {args : RecoverArgs} {keyspace : Keyspace Key}
    (ready : Ready args keyspace) (actorId task : String) (bound : Nat) :
    Ready args (pushDead keyspace actorId task bound) where
  inbox := admits_pushDead ready.inbox _ _ _ fun _ => rfl
  dlq := admits_pushDead ready.dlq _ _ _ fun _ => rfl
  claims := admits_pushDead ready.claims _ _ _ nofun
  index := admits_pushDead ready.index _ _ _ nofun

/-- Whether a task can be pushed: it is a string or a number. -/
def sendable (cjson : Cjson) (item : Item) : Bool := (cjson.text item.task).isSome

/-- A batch of tasks that pass 1 accepted, on the keyspace of the moment. -/
structure Accepted (cjson : Cjson) (keyspace : Keyspace Key) (items : List Item) : Prop where
  counters : ∀ item ∈ items, item.counterKey.all Key.isCounter = true
  usable : ∀ item ∈ items, item.counterKey.all (counterUsable keyspace) = true
  sendable : ∀ item ∈ items, sendable cjson item = true

/-- Every usable counter of `before` is usable in `after`. -/
def StaysUsable (before after : Keyspace Key) : Prop :=
  ∀ key, key.isCounter = true → counterUsable before key = true → counterUsable after key = true

theorem Accepted.later {cjson : Cjson} {before after : Keyspace Key} {items later : List Item}
    (accepted : Accepted cjson before items) (stays : StaysUsable before after)
    (subset : ∀ item ∈ later, item ∈ items) : Accepted cjson after later where
  counters item member := accepted.counters item (subset item member)
  usable item member := by
    have counter := accepted.counters item (subset item member)
    have usable := accepted.usable item (subset item member)
    cases key : item.counterKey with
    | none => rfl
    | some key' =>
        rw [key, Option.all_some] at counter usable
        exact stays key' counter usable
  sendable item member := accepted.sendable item (subset item member)

/-- Each of the tasks, in order, has been put on the inbox or the dead-letter
queue, and apart from that only counters changed. -/
inductive Placed (actorId : String) (bound : Nat) :
    List String → Keyspace Key → Keyspace Key → Prop
  | done (keyspace : Keyspace Key) : Placed actorId bound [] keyspace keyspace
  | inbox {task : String} {tasks : List String} {before middle after : Keyspace Key}
      (pushed : SameTasks middle (pushInbox before actorId task))
      (rest : Placed actorId bound tasks middle after) :
      Placed actorId bound (task :: tasks) before after
  | dead {task : String} {tasks : List String} {before middle after : Keyspace Key}
      (pushed : SameTasks middle (pushDead before actorId task bound))
      (rest : Placed actorId bound tasks middle after) :
      Placed actorId bound (task :: tasks) before after

theorem Placed.ready {args : RecoverArgs} {tasks : List String} {before after : Keyspace Key}
    {bound : Nat} (placed : Placed args.actorId bound tasks before after)
    (ready : Ready args before) : Ready args after := by
  induction placed with
  | done => exact ready
  | inbox pushed rest induction => exact induction ((ready.pushInbox _ _).of_sameTasks pushed)
  | dead pushed rest induction => exact induction ((ready.pushDead _ _ _).of_sameTasks pushed)

/-- The command arguments of a batch of tasks. -/
def texts (cjson : Cjson) (items : List Item) : List String :=
  items.filterMap fun item => cjson.text item.task

theorem run_moveItems (cjson : Cjson) {args : RecoverArgs} {items : List Item}
    {keyspace : Keyspace Key} (capped : args.recoverCap < 10 ^ 18)
    (accepted : Accepted cjson keyspace items) (ready : Ready args keyspace) :
    ∃ counts after, (moveItems cjson args items).run keyspace = (.ok counts, after) ∧
      Placed args.actorId args.dlqMaxLength (texts cjson items) keyspace after ∧
      StaysUsable keyspace after := by
  induction items generalizing keyspace with
  | nil => exact ⟨(0, 0), keyspace, rfl, .done keyspace, fun _ _ usable => usable⟩
  | cons item items induction =>
      have isFirst : item ∈ item :: items := List.mem_cons_self
      rcases Option.isSome_iff_exists.mp (accepted.sendable item isFirst) with ⟨task, text⟩
      obtain ⟨recovered, middle, moved, pushed, stays⟩ := run_moveItem cjson capped text
        (accepted.counters item isFirst) (accepted.usable item isFirst) ready.inbox ready.dlq
      have middleReady : Ready args middle := by
        cases recovered with
        | true => exact (ready.pushInbox _ _).of_sameTasks pushed
        | false => exact (ready.pushDead _ _ _).of_sameTasks pushed
      obtain ⟨counts, after, rest, placed, restStays⟩ := induction
        (accepted.later stays fun _ => List.mem_cons_of_mem _) middleReady
      refine ⟨if recovered then (counts.1 + 1, counts.2) else (counts.1, counts.2 + 1), after,
        ?_, ?_, fun key counter usable => restStays key counter (stays key counter usable)⟩
      · rw [moveItems, Script.run_bind_ok moved, Script.run_bind_ok rest]
        rfl
      · have textsEq : texts cjson (item :: items) = task :: texts cjson items := by
          simp [texts, text]
        rw [textsEq]
        cases recovered with
        | true => exact .inbox pushed placed
        | false => exact .dead pushed placed

/-- Remove a claim from the hash and from an actor's index. -/
def dropClaim (keyspace : Keyspace Key) (actorId id : String) : Keyspace Key :=
  (keyspace.store .claims (Value.ofFields ((keyspace.fields .claims).erase id))).store
    (.claimsIndex actorId)
    (Value.ofScores ((keyspace.scores (.claimsIndex actorId)).erase id))

/-- The listed claims, in order, have been removed and their tasks placed. -/
inductive Recovered (actorId : String) (bound : Nat) :
    List (String × List String) → Keyspace Key → Keyspace Key → Prop
  | done (keyspace : Keyspace Key) : Recovered actorId bound [] keyspace keyspace
  | claim {id : String} {tasks : List String} {claims : List (String × List String)}
      {before middle after : Keyspace Key}
      (placed : Placed actorId bound tasks (dropClaim before actorId id) middle)
      (rest : Recovered actorId bound claims middle after) :
      Recovered actorId bound ((id, tasks) :: claims) before after

theorem run_dropClaim {α : Type} {keyspace : Keyspace Key} {actorId : String}
    (claims : keyspace.admits .claims .hash = true)
    (index : keyspace.admits (.claimsIndex actorId) .zset = true) (id : String)
    (next : Script Key α) :
    (do hdel .claims id; zrem (.claimsIndex actorId) id; next : Script Key α).run keyspace =
      next.run (dropClaim keyspace actorId id) := by
  rw [Script.run_bind]
  simp only [hdel, run_typed claims]
  rw [Script.run_bind]
  have stillIndex : (keyspace.store .claims
      (Value.ofFields ((keyspace.fields .claims).erase id))).admits (.claimsIndex actorId)
      .zset = true := by
    simpa [Keyspace.admits] using index
  simp only [zrem, run_typed stillIndex]
  rfl

theorem Ready.dropClaim {args : RecoverArgs} {keyspace : Keyspace Key}
    (ready : Ready args keyspace) (id : String) :
    Ready args (dropClaim keyspace args.actorId id) where
  inbox := by simpa [Keyspace.admits, Claims.dropClaim] using ready.inbox
  dlq := by simpa [Keyspace.admits, Claims.dropClaim] using ready.dlq
  claims := by simp [Keyspace.admits, Claims.dropClaim]
  index := by simp [Keyspace.admits, Claims.dropClaim]

theorem staysUsable_dropClaim (keyspace : Keyspace Key) (actorId id : String) :
    StaysUsable keyspace (dropClaim keyspace actorId id) := by
  intro key counter usable
  rw [dropClaim, counterUsable_store_other counter rfl, counterUsable_store_other counter rfl]
  exact usable

theorem Recovered.ready {args : RecoverArgs} {claims : List (String × List String)}
    {before after : Keyspace Key} {bound : Nat}
    (recovered : Recovered args.actorId bound claims before after)
    (ready : Ready args before) : Ready args after := by
  induction recovered with
  | done => exact ready
  | claim placed rest induction => exact induction (placed.ready (ready.dropClaim _))

theorem run_moveEntries (cjson : Cjson) {args : RecoverArgs} {entries : List Entry}
    {keyspace : Keyspace Key} (capped : args.recoverCap < 10 ^ 18)
    (accepted : ∀ entry ∈ entries, Accepted cjson keyspace entry.tasks)
    (ready : Ready args keyspace) :
    ∃ counts after, (moveEntries cjson args entries).run keyspace = (.ok counts, after) ∧
      Recovered args.actorId args.dlqMaxLength
        (entries.map fun entry => (entry.id, texts cjson entry.tasks)) keyspace after := by
  induction entries generalizing keyspace with
  | nil => exact ⟨(0, 0), keyspace, rfl, .done keyspace⟩
  | cons entry entries induction =>
      have dropped := staysUsable_dropClaim keyspace args.actorId entry.id
      obtain ⟨first, middle, moved, placed, stays⟩ := run_moveItems cjson capped
        ((accepted entry List.mem_cons_self).later dropped fun _ member => member)
        (ready.dropClaim entry.id)
      obtain ⟨counts, after, rest, recovered⟩ := induction
        (fun other member => (accepted other (List.mem_cons_of_mem _ member)).later
          (fun key counter usable => stays key counter (dropped key counter usable))
          fun _ inside => inside)
        (placed.ready (ready.dropClaim entry.id))
      refine ⟨(first.1 + counts.1, first.2 + counts.2), after, ?_, .claim placed recovered⟩
      rw [moveEntries, run_dropClaim ready.claims ready.index, Script.run_bind_ok moved,
        Script.run_bind_ok rest]
      rfl

/-! ### Failing runs -/

/-- A task that was moved could be a command argument. -/
theorem sendable_of_moveItem (cjson : Cjson) {args : RecoverArgs} {item : Item}
    {before after : Keyspace Key} {recovered : Bool}
    (moved : (moveItem cjson args item).run before = (.ok recovered, after)) :
    sendable cjson item = true := by
  by_contra refused
  have absent : cjson.text item.task = none := by simpa [sendable] using refused
  have raises : (cjson.argument item.task : Script Key String) =
      Script.raise .badArgument := by
    rw [Cjson.argument, absent]
  have fails {α : Type} (next : String → Script Key α) {from' to' : Keyspace Key} {result : α} :
      ¬(cjson.argument item.task >>= next).run from' = (.ok result, to') := by
    rw [raises, Script.run_bind]
    simp
  unfold moveItem at moved
  cases counterEq : item.counterKey with
  | none =>
      rw [counterEq] at moved
      exact fails _ moved
  | some counterKey =>
      rw [counterEq] at moved
      rcases Script.of_run_bind_ok moved with ⟨count, counted, -, moved⟩
      rcases Script.of_run_bind_ok moved with ⟨-, counted, -, moved⟩
      split at moved <;> exact fails _ moved

theorem sendable_of_moveItems (cjson : Cjson) {args : RecoverArgs} {items : List Item}
    {before after : Keyspace Key} {counts : Nat × Nat}
    (moved : (moveItems cjson args items).run before = (.ok counts, after)) :
    ∀ item ∈ items, sendable cjson item = true := by
  induction items generalizing before after counts with
  | nil => simp
  | cons item items induction =>
      rcases Script.of_run_bind_ok moved with ⟨recovered, middle, first, moved⟩
      rcases Script.of_run_bind_ok moved with ⟨restCounts, last, rest, -⟩
      intro other member
      rcases List.mem_cons.mp member with rfl | later
      · exact sendable_of_moveItem cjson first
      · exact induction rest other later

theorem sendable_of_moveEntries (cjson : Cjson) {args : RecoverArgs} {entries : List Entry}
    {before after : Keyspace Key} {counts : Nat × Nat}
    (moved : (moveEntries cjson args entries).run before = (.ok counts, after)) :
    ∀ entry ∈ entries, ∀ item ∈ entry.tasks, sendable cjson item = true := by
  induction entries generalizing before after counts with
  | nil => simp
  | cons entry entries induction =>
      rcases Script.of_run_bind_ok moved with ⟨-, middle, -, moved⟩
      rcases Script.of_run_bind_ok moved with ⟨-, middle, -, moved⟩
      rcases Script.of_run_bind_ok moved with ⟨firstCounts, middle, first, moved⟩
      rcases Script.of_run_bind_ok moved with ⟨restCounts, last, rest, -⟩
      intro other member
      rcases List.mem_cons.mp member with rfl | later
      · exact sendable_of_moveItems cjson first
      · exact induction rest other later

/-- The keys that moving tasks can change. -/
def placedRegion (args : RecoverArgs) (key : Key) : Prop :=
  key = .queue args.actorId ∨ key = .dlq args.actorId ∨ key.isCounter = true

theorem touches_moveItem (cjson : Cjson) (args : RecoverArgs) {item : Item}
    (counter : item.counterKey.all Key.isCounter = true) :
    Script.Touches (placedRegion args) (moveItem cjson args item) := by
  have argument : Script.Touches (placedRegion args)
      (cjson.argument item.task : Script Key String) := by
    unfold Cjson.argument
    split
    · exact Script.Touches.pure _
    · exact Script.Touches.raise _
  have inbox : placedRegion args (.queue args.actorId) := Or.inl rfl
  have dlq : placedRegion args (.dlq args.actorId) := Or.inr (Or.inl rfl)
  have requeue : Script.Touches (placedRegion args) (do
      let task ← cjson.argument item.task
      rpush (.queue args.actorId) [task]
      pure true : Script Key Bool) :=
    argument.bind fun task => (touches_rpush inbox _).bind fun _ => Script.Touches.pure _
  unfold moveItem
  cases counterEq : item.counterKey with
  | none => exact requeue
  | some counterKey =>
      rw [counterEq, Option.all_some] at counter
      have member : placedRegion args counterKey := Or.inr (Or.inr counter)
      refine (touches_incr member).bind fun count => (touches_expire _).when.bind fun _ => ?_
      split
      · exact argument.bind fun task => (touches_lpush dlq _).bind fun _ =>
          (touches_ltrim dlq _).bind fun _ =>
            (touches_del member).bind fun _ => Script.Touches.pure _
      · exact requeue

theorem touches_moveItems (cjson : Cjson) (args : RecoverArgs) {items : List Item}
    (counters : ∀ item ∈ items, item.counterKey.all Key.isCounter = true) :
    Script.Touches (placedRegion args) (moveItems cjson args items) := by
  induction items with
  | nil => exact Script.Touches.pure _
  | cons item items induction =>
      exact (touches_moveItem cjson args (counters item List.mem_cons_self)).bind fun _ =>
        (induction fun other member => counters other (List.mem_cons_of_mem _ member)).bind
          fun _ => Script.Touches.pure _

/-- Pass 2 takes the first claim out of the index, whether it ends or raises, and
adds no member. -/
theorem index_moveEntries (cjson : Cjson) {args : RecoverArgs} {entries : List Entry}
    {keyspace : Keyspace Key}
    (counters : ∀ entry ∈ entries, ∀ item ∈ entry.tasks,
      item.counterKey.all Key.isCounter = true)
    (claims : keyspace.admits .claims .hash = true)
    (index : keyspace.admits (.claimsIndex args.actorId) .zset = true) {id : String}
    (absent : (entries.head?.map Entry.id) = some id ∨
      id ∉ keyspace.scores (.claimsIndex args.actorId)) :
    id ∉ ((moveEntries cjson args entries).run keyspace).2.scores
      (.claimsIndex args.actorId) := by
  induction entries generalizing keyspace with
  | nil => simpa [moveEntries] using absent
  | cons entry entries induction =>
      rw [moveEntries, run_dropClaim claims index]
      obtain ⟨dropped, droppedEq⟩ : ∃ dropped, dropped =
          dropClaim keyspace args.actorId entry.id := ⟨_, rfl⟩
      rw [← droppedEq]
      have frame := touches_moveItems cjson args (counters entry List.mem_cons_self) dropped
      obtain ⟨outcome, middle, moved⟩ : ∃ outcome middle,
          (moveItems cjson args entry.tasks).run dropped = (outcome, middle) := ⟨_, _, rfl⟩
      rw [moved] at frame
      have sameIndex : middle.value (.claimsIndex args.actorId) =
          dropped.value (.claimsIndex args.actorId) :=
        frame _ (by simp [placedRegion, Key.isCounter])
      have sameClaims : middle.value .claims = dropped.value .claims :=
        frame _ (by simp [placedRegion, Key.isCounter])
      have gone : id ∉ middle.scores (.claimsIndex args.actorId) := by
        simp only [Keyspace.scores, sameIndex, droppedEq, dropClaim]
        rcases absent with first | outside
        · obtain rfl : entry.id = id := by simpa using first
          simp
        · simp only [Keyspace.store_value, if_true, Value.scores_ofScores, AList.mem_erase]
          exact fun inside => outside inside.2
      rw [Script.run_bind, moved]
      cases outcome with
      | error fault => exact gone
      | ok first =>
          have later := @induction middle
            (fun other member => counters other (List.mem_cons_of_mem _ member))
            (by simp [Keyspace.admits, sameClaims, droppedEq, dropClaim])
            (by simp [Keyspace.admits, sameIndex, droppedEq, dropClaim]) (Or.inr gone)
          simp only [Script.run_bind]
          rcases rest : (moveEntries cjson args entries).run middle with ⟨fault | counts, last⟩ <;>
            simpa [rest] using later

/-! ## The whole script -/

/-- The claims whose score is before `now`, oldest first. -/
def expiredIds (args : RecoverArgs) (keyspace : Keyspace Key) : List String :=
  args.now.elim [] fun now =>
    membersUpTo (keyspace.scores (.claimsIndex args.actorId)) (score (now - 1))

/-- Recovery finds expired claims and none of its checks refuses them. -/
structure PassesChecks (cjson : Cjson) (args : RecoverArgs) (keyspace : Keyspace Key) :
    Prop where
  now : args.now.isSome = true
  index : keyspace.admits (.claimsIndex args.actorId) .zset = true
  expired : expiredIds args keyspace ≠ []
  claims : keyspace.admits .claims .hash = true
  counters : ∀ id ∈ expiredIds args keyspace,
    countersUsable keyspace (storedItems cjson keyspace id) = true
  inbox : keyspace.admits (.queue args.actorId) .list = true
  dlq : keyspace.admits (.dlq args.actorId) .list = true

theorem PassesChecks.ready {cjson : Cjson} {args : RecoverArgs} {keyspace : Keyspace Key}
    (passes : PassesChecks cjson args keyspace) : Ready args keyspace :=
  ⟨passes.inbox, passes.dlq, passes.claims, passes.index⟩

/-- The plan of pass 1. -/
def entriesOf (cjson : Cjson) (args : RecoverArgs) (keyspace : Keyspace Key) : List Entry :=
  (expiredIds args keyspace).map fun id => { id, tasks := storedItems cjson keyspace id }

theorem run_zrangebyscore {args : RecoverArgs} {keyspace : Keyspace Key}
    (now : args.now.isSome = true)
    (index : keyspace.admits (.claimsIndex args.actorId) .zset = true) :
    (zrangebyscore (.claimsIndex args.actorId)
      (args.now.map fun now => score (now - 1))).run keyspace =
        (.ok (expiredIds args keyspace), keyspace) := by
  rcases Option.isSome_iff_exists.mp now with ⟨instant, nowEq⟩
  simp only [nowEq, Option.map_some, zrangebyscore, run_typed index, expiredIds, Option.elim_some]

theorem run_recover_of_passes {cjson : Cjson} {args : RecoverArgs} {keyspace : Keyspace Key}
    (passes : PassesChecks cjson args keyspace) :
    (recover cjson args).run keyspace =
      (do
        let counts ← moveEntries cjson args (entriesOf cjson args keyspace)
        pure (.moved counts.1 counts.2) : Script Key RecoverReply).run keyspace := by
  have planned : (plan cjson (expiredIds args keyspace)).run keyspace =
      (.ok (some (entriesOf cjson args keyspace)), keyspace) := by
    rw [run_plan cjson passes.claims, if_pos (List.all_eq_true.mpr passes.counters)]
    rfl
  rw [recover, Script.run_bind_ok (run_zrangebyscore passes.now passes.index),
    if_neg passes.expired, Script.run_bind_ok planned]
  simp only [Script.run_bind_ok (run_holds _ _ _), passes.inbox, passes.dlq, if_true]

theorem run_plan_of_refused (cjson : Cjson) {keyspace : Keyspace Key}
    (refused : keyspace.admits .claims .hash = false) {ids : List String} (nonempty : ids ≠ []) :
    (plan cjson ids).run keyspace = (.error .wrongType, keyspace) := by
  rcases List.exists_cons_of_ne_nil nonempty with ⟨id, rest, rfl⟩
  have entry : (planEntry cjson id).run keyspace = (.error .wrongType, keyspace) :=
    Script.run_bind_error (run_typed_of_refused refused)
  rw [plan, Script.run_bind_error entry]

/-- Recovery has nothing to do. -/
structure Idle (args : RecoverArgs) (keyspace : Keyspace Key) : Prop where
  now : args.now.isSome = true
  index : keyspace.admits (.claimsIndex args.actorId) .zset = true
  expired : expiredIds args keyspace = []

theorem run_recover_of_idle {cjson : Cjson} {args : RecoverArgs} {keyspace : Keyspace Key}
    (idle : Idle args keyspace) :
    (recover cjson args).run keyspace = (.ok (.moved 0 0), keyspace) := by
  rw [recover, Script.run_bind_ok (run_zrangebyscore idle.now idle.index), if_pos idle.expired]
  rfl

/-- When a check refuses, recovery says so or raises, and changes nothing. -/
theorem run_recover_of_refused {cjson : Cjson} {args : RecoverArgs} {keyspace : Keyspace Key}
    (refused : ¬PassesChecks cjson args keyspace) (busy : ¬Idle args keyspace) :
    ((recover cjson args).run keyspace).2 = keyspace ∧
      ∀ recovered deadlettered,
        ((recover cjson args).run keyspace).1 ≠ .ok (.moved recovered deadlettered) := by
  cases now : args.now with
  | none => simp [recover, now, zrangebyscore, Script.run_bind]
  | some instant =>
      have isSome : args.now.isSome = true := by rw [now]; rfl
      by_cases index : keyspace.admits (.claimsIndex args.actorId) .zset = true
      · have expired : expiredIds args keyspace ≠ [] := fun none => busy ⟨isSome, index, none⟩
        rw [recover, Script.run_bind_ok (run_zrangebyscore isSome index), if_neg expired]
        by_cases claims : keyspace.admits .claims .hash = true
        · rw [Script.run_bind_ok (run_plan cjson claims _)]
          split_ifs with counters
          · simp only [Script.run_bind_ok (run_holds _ _ _)]
            by_cases inbox : keyspace.admits (.queue args.actorId) .list = true
            · by_cases dlq : keyspace.admits (.dlq args.actorId) .list = true
              · exact absurd ⟨isSome, index, expired, claims, List.all_eq_true.mp counters,
                  inbox, dlq⟩ refused
              · simp [inbox, dlq, Script.run_bind]
            · simp [inbox]
          · simp
        · rw [Script.run_bind_error (run_plan_of_refused cjson (by simpa using claims) expired)]
          simp
      · have raised : (zrangebyscore (.claimsIndex args.actorId)
            (args.now.map fun now => score (now - 1))).run keyspace =
              (.error .wrongType, keyspace) := by
          rw [now]
          exact run_typed_of_refused (by simpa using index)
        rw [recover, Script.run_bind_error raised]
        simp

/-- A recovery that does not pass its checks changes nothing. -/
theorem run_recover_unchanged {cjson : Cjson} {args : RecoverArgs} {keyspace : Keyspace Key}
    (refused : ¬PassesChecks cjson args keyspace) :
    ((recover cjson args).run keyspace).2 = keyspace := by
  by_cases idle : Idle args keyspace
  · rw [run_recover_of_idle idle]
  · exact (run_recover_of_refused refused idle).1

theorem isCounter_counterKey (cjson : Cjson) (actorId : Option String) (task : Json) :
    (counterKey cjson actorId task).all Key.isCounter = true := by
  cases task with
  | string payload =>
      simp only [counterKey]
      cases actorId with
      | none => rfl
      | some actor => cases trackedId cjson payload <;> rfl
  | _ => rfl

theorem isCounter_of_storedItems (cjson : Cjson) (keyspace : Keyspace Key) (id : String) :
    ∀ item ∈ storedItems cjson keyspace id, item.counterKey.all Key.isCounter = true := by
  intro item member
  unfold storedItems at member
  cases found : (keyspace.fields .claims).lookup id with
  | none => simp [found] at member
  | some raw =>
      simp only [found, Option.elim_some, claimItems] at member
      split at member
      · simp at member
      · split at member
        · simp at member
        · rcases List.mem_map.mp member with ⟨task, -, rfl⟩
          exact isCounter_counterKey cjson _ task

theorem PassesChecks.accepted {cjson : Cjson} {args : RecoverArgs} {keyspace : Keyspace Key}
    (passes : PassesChecks cjson args keyspace)
    (sendable : ∀ id ∈ expiredIds args keyspace, ∀ item ∈ storedItems cjson keyspace id,
      sendable cjson item = true) :
    ∀ entry ∈ entriesOf cjson args keyspace, Accepted cjson keyspace entry.tasks := by
  intro entry member
  rcases List.mem_map.mp member with ⟨id, expired, rfl⟩
  exact
    { counters := isCounter_of_storedItems cjson keyspace id
      usable := List.all_eq_true.mp (passes.counters id expired)
      sendable := sendable id expired }

/-- Recovery of claims whose tasks can all be pushed runs to the end. -/
theorem run_recover_of_sendable {cjson : Cjson} {args : RecoverArgs} {keyspace : Keyspace Key}
    (capped : args.recoverCap < 10 ^ 18) (passes : PassesChecks cjson args keyspace)
    (sendable : ∀ id ∈ expiredIds args keyspace, ∀ item ∈ storedItems cjson keyspace id,
      sendable cjson item = true) :
    ∃ recovered deadlettered after,
      (recover cjson args).run keyspace = (.ok (.moved recovered deadlettered), after) ∧
      Recovered args.actorId args.dlqMaxLength
        ((expiredIds args keyspace).map fun id =>
          (id, texts cjson (storedItems cjson keyspace id))) keyspace after := by
  obtain ⟨counts, after, moved, recovered⟩ :=
    run_moveEntries cjson capped (passes.accepted sendable) passes.ready
  refine ⟨counts.1, counts.2, after, ?_, ?_⟩
  · rw [run_recover_of_passes passes, Script.run_bind_ok moved]
    rfl
  · simpa [entriesOf, Function.comp_def] using recovered

/-- A recovery has run to the end, or it was refused or raised and has left the
keyspace as it was. -/
def AllOrNothing (before : Keyspace Key)
    (result : Except Fault RecoverReply × Keyspace Key) : Prop :=
  (∃ recovered deadlettered, result.1 = .ok (.moved recovered deadlettered)) ∨
    result.2 = before

/-- A recovery that passed its checks has removed the oldest expired claim from
the index when it stops. -/
theorem run_recover_ne_of_passes {cjson : Cjson} {args : RecoverArgs}
    {keyspace : Keyspace Key} (passes : PassesChecks cjson args keyspace) :
    ((recover cjson args).run keyspace).2 ≠ keyspace := by
  rcases List.exists_cons_of_ne_nil passes.expired with ⟨id, rest, first⟩
  have member : id ∈ expiredIds args keyspace := by rw [first]; exact List.mem_cons_self
  have before : id ∈ keyspace.scores (.claimsIndex args.actorId) := by
    rcases Option.isSome_iff_exists.mp passes.now with ⟨instant, now⟩
    simp only [expiredIds, now, Option.elim_some] at member
    rcases mem_membersUpTo.mp member with ⟨score, found, -⟩
    exact AList.lookup_isSome.mp (by rw [found]; rfl)
  have after := @index_moveEntries cjson args (entriesOf cjson args keyspace) keyspace
    (fun entry inside => by
      rcases List.mem_map.mp inside with ⟨other, -, rfl⟩
      exact isCounter_of_storedItems cjson keyspace other)
    passes.claims passes.index id (Or.inl (by simp [entriesOf, first]))
  intro unchanged
  rw [run_recover_of_passes passes, Script.run_bind] at unchanged
  rcases moved : (moveEntries cjson args (entriesOf cjson args keyspace)).run keyspace with
    ⟨fault | counts, last⟩ <;>
  · rw [moved] at after unchanged
    have same : last = keyspace := unchanged
    exact after (by rw [same]; exact before)

theorem sendable_of_allOrNothing {cjson : Cjson} {args : RecoverArgs}
    {keyspace : Keyspace Key} (whole : AllOrNothing keyspace ((recover cjson args).run keyspace))
    (passes : PassesChecks cjson args keyspace) :
    ∀ id ∈ expiredIds args keyspace, ∀ item ∈ storedItems cjson keyspace id,
      sendable cjson item = true := by
  rcases whole with ⟨recovered, deadlettered, ended⟩ | unchanged
  · have result : (recover cjson args).run keyspace =
        (.ok (.moved recovered deadlettered), ((recover cjson args).run keyspace).2) :=
      Prod.ext ended rfl
    rw [run_recover_of_passes passes] at result
    rcases Script.of_run_bind_ok result with ⟨counts, middle, moved, -⟩
    intro id member item inside
    exact sendable_of_moveEntries cjson moved ⟨id, storedItems cjson keyspace id⟩
      (List.mem_map_of_mem member) item inside
  · exact absurd unchanged (run_recover_ne_of_passes passes)

/-- The arguments of `TaskClaimStore.recoverExpired`. -/
def recoverExpiredArgs (actorId : String) (now : Option Int) : RecoverArgs where
  actorId := actorId
  now := now
  recoverCap := recoverCap
  dlqMaxLength := dlqMaxLength
  counterTtl := recoverCounterTtlSeconds

theorem recoverExpiredArgs_capped (actorId : String) (now : Option Int) :
    (recoverExpiredArgs actorId now).recoverCap < 10 ^ 18 := by
  norm_num [recoverExpiredArgs, recoverCap]

/-- Recovery is all-or-nothing exactly when, on every keyspace that passes its
checks, all the tasks it has to move are strings or numbers: any other element
of a stored `tasks` array makes a push raise after the claim was deleted. -/
theorem recover_allOrNothing_iff (cjson : Cjson) (actorId : String) (now : Option Int)
    (keyspace : Keyspace Key) :
    AllOrNothing keyspace ((recover cjson (recoverExpiredArgs actorId now)).run keyspace) ↔
      (PassesChecks cjson (recoverExpiredArgs actorId now) keyspace →
        ∀ id ∈ expiredIds (recoverExpiredArgs actorId now) keyspace,
          ∀ item ∈ storedItems cjson keyspace id, sendable cjson item = true) := by
  constructor
  · exact sendable_of_allOrNothing
  · intro allSendable
    by_cases passes : PassesChecks cjson (recoverExpiredArgs actorId now) keyspace
    · obtain ⟨recovered, deadlettered, after, ran, -⟩ :=
        run_recover_of_sendable (recoverExpiredArgs_capped actorId now) passes (allSendable passes)
      exact Or.inl ⟨recovered, deadlettered, by rw [ran]⟩
    · exact Or.inr (run_recover_unchanged passes)

/-! A stored claim of actor `a` that expired at instant 0, with `true` among its
tasks. -/

def oddClaim : Json :=
  .object [("claim_id", .string "c"), ("actor_id", .string "a"), ("session_id", .string "s"),
    ("claimed_at", .string "1970-01-01T00:00:00.000Z"),
    ("expires_at", .string "1970-01-01T00:00:00.000Z"), ("tasks", .array [.bool true])]

def oddKeyspace : Keyspace Key :=
  (Keyspace.empty.store .claims
    (some (.hash ((∅ : Fields).insert "c" oddClaim.render)))).store (.claimsIndex "a")
    (some (.zset ((∅ : Scores).insert "c" (score 0))))

theorem storedItems_oddKeyspace :
    storedItems Cjson.plain oddKeyspace "c" = [{ task := .bool true, counterKey := none }] := by
  have found : (oddKeyspace.fields .claims).lookup "c" = some oddClaim.render := by
    simp only [oddKeyspace, Keyspace.fields, Keyspace.store_value, Value.fields, reduceCtorEq,
      if_true, if_false]
    exact AList.lookup_insert _
  simp [storedItems, found, claimItems, Cjson.plain, oddClaim, Json.field, tableItems,
    counterKey]

theorem expiredIds_oddKeyspace :
    expiredIds (recoverExpiredArgs "a" (some 1)) oddKeyspace = ["c"] := by
  decide

theorem recover_oddKeyspace_partial :
    ¬AllOrNothing oddKeyspace
      ((recover Cjson.plain (recoverExpiredArgs "a" (some 1))).run oddKeyspace) := by
  intro whole
  have passes : PassesChecks Cjson.plain (recoverExpiredArgs "a" (some 1)) oddKeyspace := by
    refine
      { now := rfl
        index := by simp [oddKeyspace, Keyspace.admits, recoverExpiredArgs, Value.kind]
        expired := ?_
        claims := by simp [oddKeyspace, Keyspace.admits, Value.kind]
        counters := ?_
        inbox := by simp [oddKeyspace, Keyspace.admits]
        dlq := by simp [oddKeyspace, Keyspace.admits] }
    · rw [expiredIds_oddKeyspace]
      simp
    · rw [expiredIds_oddKeyspace]
      simp [storedItems_oddKeyspace, countersUsable]
  have expired : "c" ∈ expiredIds (recoverExpiredArgs "a" (some 1)) oddKeyspace := by
    rw [expiredIds_oddKeyspace]
    exact List.mem_cons_self
  have pushed := @sendable_of_allOrNothing Cjson.plain (recoverExpiredArgs "a" (some 1))
    oddKeyspace whole passes "c" expired
    { task := .bool true, counterKey := none }
    (by rw [storedItems_oddKeyspace]; exact List.mem_cons_self)
  simp [sendable, Cjson.text] at pushed

end GptQueue.Claims
