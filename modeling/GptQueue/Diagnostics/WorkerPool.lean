import Mathlib.Tactic

/-! # Bounded concurrency

`withBoundedConcurrency` calls a few workers that take the indices of the items from one
cursor. A worker runs without interruption up to its next `await`; which task completes
next is open.
-/

namespace GptQueue.WorkerPool

variable {Item Result : Type}

/-- Where a worker is in its loop. -/
inductive Worker (Result : Type)
  /-- Before its call. -/
  | ready
  /-- The task of the index was started. -/
  | awaiting (index : Nat)
  /-- The task has completed, and the worker has not gone on yet. -/
  | settled (index : Nat) (result : Result)
  | finished
deriving DecidableEq

inductive Event (Item Result : Type)
  | started (item : Item) (index : Nat)
  | completed (index : Nat) (result : Result)
deriving DecidableEq

def Event.start : Event Item Result → Option (Item × Nat)
  | .started item index => some (item, index)
  | .completed _ _ => none

def Event.completion : Event Item Result → Option (Nat × Result)
  | .started _ _ => none
  | .completed index result => some (index, result)

structure Pool (Item Result : Type) where
  next : Nat
  workers : List (Worker Result)
  results : List (Option Result)
  /-- Latest first. -/
  log : List (Event Item Result)
deriving DecidableEq

namespace Pool

variable (pool : Pool Item Result)

/-- The tasks started so far, earliest first. -/
def starts : List (Item × Nat) := (pool.log.filterMap Event.start).reverse

def completions : List (Nat × Result) := pool.log.filterMap Event.completion

/-- The indices of the tasks that were started and have not completed. -/
def inFlight : List Nat :=
  (pool.starts.map Prod.snd).filter fun index =>
    decide (index ∉ pool.completions.map Prod.fst)

/-- `Promise.all` of the workers is fulfilled. -/
def Returned : Prop := ∀ worker ∈ pool.workers, worker = .finished

/-- No worker is about to run. -/
def Waits : Prop :=
  ∀ worker ∈ pool.workers, worker ≠ .ready ∧ ∀ index result, worker ≠ .settled index result

end Pool

/-! ## The workers -/

/-- The length of the array of workers; a fraction of a worker is cut off. -/
def workerCount (concurrency : ℚ) (length : Nat) : Nat := ⌊max 1 (min concurrency length)⌋.toNat

section Workers

variable (items : List Item)

/-- Before the first worker is called. -/
def withBoundedConcurrency (concurrency : ℚ) : Pool Item Result where
  next := 0
  workers := List.replicate (workerCount concurrency items.length) .ready
  results := List.replicate items.length none
  log := []

/-- `i = next++`, the test of the loop, and the call of the task. -/
def advance (pool : Pool Item Result) (worker : Nat) : Pool Item Result :=
  match items[pool.next]? with
  | some item =>
      { pool with
        next := pool.next + 1
        workers := pool.workers.set worker (.awaiting pool.next)
        log := .started item pool.next :: pool.log }
  | none =>
      { pool with
        next := pool.next + 1
        workers := pool.workers.set worker .finished }

inductive Step : Pool Item Result → Pool Item Result → Prop
  | called {pool : Pool Item Result} {worker : Nat}
      (ready : pool.workers[worker]? = some .ready) : Step pool (advance items pool worker)
  | completed {pool : Pool Item Result} {worker index : Nat} (result : Result)
      (awaiting : pool.workers[worker]? = some (.awaiting index)) :
      Step pool
        { pool with
          workers := pool.workers.set worker (.settled index result)
          log := .completed index result :: pool.log }
  | resumed {pool : Pool Item Result} {worker index : Nat} {result : Result}
      (settled : pool.workers[worker]? = some (.settled index result)) :
      Step pool
        (advance items { pool with results := pool.results.set index (some result) } worker)

/-- A number of steps in any order. -/
inductive Run (start : Pool Item Result) : Nat → Pool Item Result → Prop
  | start : Run start 0 start
  | step {count : Nat} {pool after : Pool Item Result} (run : Run start count pool)
      (step : Step items pool after) : Run start (count + 1) after

end Workers

/-! ## Every task once -/

section Sound

variable {items : List Item} {pool after : Pool Item Result} {worker : Nat}

/-- The worker that `advance` leaves. -/
def advanced (items : List Item) (next : Nat) : Worker Result :=
  if next < items.length then .awaiting next else .finished

@[simp] theorem advance_next : (advance items pool worker).next = pool.next + 1 := by
  unfold advance
  split <;> rfl

@[simp] theorem advance_results : (advance items pool worker).results = pool.results := by
  unfold advance
  split <;> rfl

@[simp] theorem advance_completions :
    (advance items pool worker).completions = pool.completions := by
  unfold advance
  split <;> rfl

theorem advance_workers :
    (advance items pool worker).workers =
      pool.workers.set worker (advanced items pool.next) := by
  unfold advance advanced
  split
  · next item found => rw [if_pos (List.getElem?_eq_some_iff.mp found).1]
  · next none => rw [if_neg (Nat.not_lt.mpr (List.getElem?_eq_none_iff.mp none))]

theorem advance_starts (starts : pool.starts = items.zipIdx.take pool.next) :
    (advance items pool worker).starts = items.zipIdx.take (pool.next + 1) := by
  rw [List.take_add_one, ← starts, List.getElem?_zipIdx, Nat.zero_add]
  unfold advance
  split
  · next item found =>
      rw [found]
      exact List.reverse_cons
  · next none =>
      rw [none]
      exact (List.append_nil _).symm

theorem getElem?_set_of_some {Value : Type} {values : List Value} {index : Nat} {old : Value}
    (found : values[index]? = some old) (new : Value) (other : Nat) :
    (values.set index new)[other]? = if index = other then some new else values[other]? := by
  rw [List.getElem?_set, if_pos (List.getElem?_eq_some_iff.mp found).1]

/-- Each index below the cursor was started once and is with one worker or done. -/
structure Sound (items : List Item) (pool : Pool Item Result) : Prop where
  starts : pool.starts = items.zipIdx.take pool.next
  width : pool.results.length = items.length
  single : (pool.completions.map Prod.fst).Nodup
  past : ∀ {index result}, (index, result) ∈ pool.completions →
    index < pool.next ∧ index < items.length
  awaited : ∀ {worker index : Nat}, pool.workers[worker]? = some (.awaiting index) →
    index < pool.next ∧ index < items.length ∧ index ∉ pool.completions.map Prod.fst
  distinct : ∀ {left right index : Nat}, pool.workers[left]? = some (.awaiting index) →
    pool.workers[right]? = some (.awaiting index) → left = right
  settled : ∀ {worker index : Nat} {result}, pool.workers[worker]? = some (.settled index result) →
    (index, result) ∈ pool.completions
  covered : ∀ {index : Nat}, index < pool.next → index < items.length →
    (∃ worker : Nat, pool.workers[worker]? = some (.awaiting index)) ∨
      ∃ result, (index, result) ∈ pool.completions ∧
        ((∃ worker : Nat, pool.workers[worker]? = some (.settled index result)) ∨
          pool.results[index]? = some (some result))
  finished : ∀ {worker : Nat}, pool.workers[worker]? = some .finished → items.length ≤ pool.next

theorem Sound.start (concurrency : ℚ) :
    Sound items (withBoundedConcurrency items concurrency : Pool Item Result) := by
  have ready : ∀ {worker : Nat} {state : Worker Result},
      (List.replicate (workerCount concurrency items.length) Worker.ready)[worker]? = some state →
        state = .ready := by
    intro worker state found
    exact (List.mem_replicate.mp (List.mem_of_getElem? found)).2
  exact {
    starts := rfl
    width := List.length_replicate
    single := List.nodup_nil
    past := fun member => absurd member List.not_mem_nil
    awaited := fun found => absurd (ready found) (by simp)
    distinct := fun found => absurd (ready found) (by simp)
    settled := fun found => absurd (ready found) (by simp)
    covered := fun below => absurd below (Nat.not_lt_zero _)
    finished := fun found => absurd (ready found) (by simp) }

/-- A worker goes on that awaits nothing and has stored its last result. -/
theorem Sound.advance (sound : Sound items pool) {old : Worker Result}
    (found : pool.workers[worker]? = some old) (free : ∀ index, old ≠ .awaiting index)
    (stored : ∀ index result, old = .settled index result →
      pool.results[index]? = some (some result)) :
    Sound items (advance items pool worker) := by
  have workers : ∀ other, (WorkerPool.advance items pool worker).workers[other]? =
      if worker = other then some (advanced items pool.next) else pool.workers[other]? := by
    intro other
    rw [advance_workers]
    exact getElem?_set_of_some found _ other
  have awaiting : ∀ {other index : Nat},
      (WorkerPool.advance items pool worker).workers[other]? = some (.awaiting index) →
        (worker = other ∧ index = pool.next ∧ index < items.length) ∨
          (worker ≠ other ∧ pool.workers[other]? = some (.awaiting index)) := by
    intro other index held
    rw [workers] at held
    split at held
    · next same =>
        unfold advanced at held
        split at held
        · next inside =>
            cases held
            exact Or.inl ⟨same, rfl, inside⟩
        · cases held
    · next different => exact Or.inr ⟨different, held⟩
  have kept : ∀ {other : Nat} {state}, pool.workers[other]? = some state → worker ≠ other →
      (WorkerPool.advance items pool worker).workers[other]? = some state := by
    intro other state held different
    rw [workers, if_neg different]
    exact held
  constructor
  · rw [advance_next]
    exact advance_starts sound.starts
  · rw [advance_results]
    exact sound.width
  · rw [advance_completions]
    exact sound.single
  · intro index result member
    rw [advance_completions] at member
    rw [advance_next]
    exact ⟨Nat.lt_succ_of_lt (sound.past member).1, (sound.past member).2⟩
  · intro other index held
    rw [advance_next, advance_completions]
    rcases awaiting held with ⟨_, same, inside⟩ | ⟨_, before⟩
    · refine ⟨same ▸ Nat.lt_succ_self _, inside, ?_⟩
      intro member
      rcases List.mem_map.mp member with ⟨completion, past, taken⟩
      have below : completion.1 < pool.next := (sound.past past).1
      omega
    · rcases sound.awaited before with ⟨below, rest⟩
      exact ⟨Nat.lt_succ_of_lt below, rest⟩
  · intro left right index first second
    rcases awaiting first with ⟨sameLeft, atNext, _⟩ | ⟨_, leftBefore⟩
    · rcases awaiting second with ⟨sameRight, _⟩ | ⟨_, rightBefore⟩
      · exact sameLeft.symm.trans sameRight
      · exact absurd (sound.awaited rightBefore).1 (atNext ▸ Nat.lt_irrefl _)
    · rcases awaiting second with ⟨_, atNext, _⟩ | ⟨_, rightBefore⟩
      · exact absurd (sound.awaited leftBefore).1 (atNext ▸ Nat.lt_irrefl _)
      · exact sound.distinct leftBefore rightBefore
  · intro other index result held
    rw [advance_completions]
    rw [workers] at held
    split at held
    · unfold advanced at held
      split at held <;> cases held
    · exact sound.settled held
  · intro index below inside
    rw [advance_next] at below
    rw [advance_completions, advance_results]
    rcases Nat.lt_succ_iff_lt_or_eq.mp below with earlier | same
    · rcases sound.covered earlier inside with ⟨other, held⟩ | ⟨result, member, place⟩
      · have different : worker ≠ other := by
          intro same
          rw [← same, found] at held
          exact free index (Option.some.inj held)
        exact Or.inl ⟨other, kept held different⟩
      · refine Or.inr ⟨result, member, ?_⟩
        rcases place with ⟨other, held⟩ | written
        · by_cases same : worker = other
          · rw [← same, found] at held
            exact Or.inr (stored index result (Option.some.inj held))
          · exact Or.inl ⟨other, kept held same⟩
        · exact Or.inr written
    · left
      refine ⟨worker, ?_⟩
      rw [workers, if_pos rfl, advanced, if_pos (same ▸ inside), same]
  · intro other held
    rw [advance_next]
    rw [workers] at held
    split at held
    · unfold advanced at held
      split at held
      · cases held
      · next outside => omega
    · have := sound.finished held
      omega

/-- The result of a completed task is stored. -/
theorem Sound.store (sound : Sound items pool) {index : Nat} {result : Result}
    (member : (index, result) ∈ pool.completions) :
    Sound items { pool with results := pool.results.set index (some result) } where
  starts := sound.starts
  width := List.length_set.trans sound.width
  single := sound.single
  past := sound.past
  awaited := sound.awaited
  distinct := sound.distinct
  settled := sound.settled
  covered := by
    intro other below inside
    rcases sound.covered below inside with awaiting | ⟨value, completed, place⟩
    · exact Or.inl awaiting
    · refine Or.inr ⟨value, completed, ?_⟩
      rcases place with held | written
      · exact Or.inl held
      · right
        by_cases same : index = other
        · have equal : result = value := by
            subst same
            exact congrArg Prod.snd
              (List.inj_on_of_nodup_map sound.single member completed rfl)
          have within : index < pool.results.length := by
            rw [sound.width, same]
            exact inside
          rw [List.getElem?_set, if_pos same, if_pos within, equal]
        · rw [List.getElem?_set, if_neg same]
          exact written
  finished := sound.finished

theorem Sound.complete (sound : Sound items pool) {index : Nat} (result : Result)
    (found : pool.workers[worker]? = some (.awaiting index)) :
    Sound items
      { pool with
        workers := pool.workers.set worker (.settled index result)
        log := .completed index result :: pool.log } := by
  rcases sound.awaited found with ⟨below, inside, pending⟩
  have workers := getElem?_set_of_some found (Worker.settled index result)
  have others : ∀ {other : Nat} {state}, state ≠ Worker.settled index result →
      (pool.workers.set worker (.settled index result))[other]? = some state →
        worker ≠ other ∧ pool.workers[other]? = some state := by
    intro other state different held
    rw [workers] at held
    split at held
    · exact absurd (Option.some.inj held).symm different
    · next apart => exact ⟨apart, held⟩
  have kept : ∀ {other : Nat} {state}, pool.workers[other]? = some state → worker ≠ other →
      (pool.workers.set worker (.settled index result))[other]? = some state := by
    intro other state held different
    rw [workers, if_neg different]
    exact held
  constructor
  · exact sound.starts
  · exact sound.width
  · exact List.nodup_cons.mpr ⟨pending, sound.single⟩
  · intro other value member
    rcases List.mem_cons.mp member with same | past
    · cases same
      exact ⟨below, inside⟩
    · exact sound.past past
  · intro other awaited held
    rcases others (by simp) held with ⟨apart, before⟩
    rcases sound.awaited before with ⟨earlier, within, still⟩
    refine ⟨earlier, within, ?_⟩
    intro member
    rcases List.mem_cons.mp member with same | past
    · have both : pool.workers[other]? = some (.awaiting index) := by
        rw [before, show awaited = index from same]
      exact apart (sound.distinct found both)
    · exact still past
  · intro left right awaited first second
    exact sound.distinct (others (by simp) first).2 (others (by simp) second).2
  · intro other taken value held
    rw [workers] at held
    split at held
    · cases held
      exact List.mem_cons_self
    · exact List.mem_cons_of_mem _ (sound.settled held)
  · intro other earlier within
    rcases sound.covered earlier within with ⟨holder, held⟩ | ⟨value, member, place⟩
    · by_cases same : worker = holder
      · rw [← same, found] at held
        cases held
        have here := (workers worker).trans (if_pos rfl)
        exact Or.inr ⟨result, List.mem_cons_self, Or.inl ⟨worker, here⟩⟩
      · exact Or.inl ⟨holder, kept held same⟩
    · refine Or.inr ⟨value, List.mem_cons_of_mem _ member, ?_⟩
      rcases place with ⟨holder, held⟩ | written
      · by_cases same : worker = holder
        · rw [← same, found] at held
          cases held
        · exact Or.inl ⟨holder, kept held same⟩
      · exact Or.inr written
  · intro other held
    exact sound.finished (others (by simp) held).2

theorem Sound.step (sound : Sound items pool) (step : Step items pool after) :
    Sound items after := by
  cases step with
  | called ready => exact sound.advance ready (by simp) (by simp)
  | completed result awaiting => exact sound.complete result awaiting
  | @resumed worker index result settled =>
      have member := sound.settled settled
      have inside : index < pool.results.length := by
        rw [sound.width]
        exact (sound.past member).2
      apply (sound.store member).advance settled (by simp)
      intro other value same
      cases same
      exact List.getElem?_set_self inside

theorem Sound.run {start : Pool Item Result} {count : Nat} (sound : Sound items start)
    (run : Run items start count pool) : Sound items pool := by
  induction run with
  | start => exact sound
  | step _ step induction => exact induction.step step

end Sound

/-! ## The end of a run -/

/-- The steps that a worker makes before it needs another index. -/
def Worker.potential : Worker Result → Nat
  | .ready => 1
  | .awaiting _ => 2
  | .settled _ _ => 1
  | .finished => 0

/-- The steps that are left. -/
def potential (items : List Item) (pool : Pool Item Result) : Nat :=
  2 * (items.length - pool.next) + (pool.workers.map Worker.potential).sum

section Ends

variable {items : List Item} {start pool after : Pool Item Result} {worker count : Nat}

theorem sum_set {values : List (Worker Result)} {index : Nat} {old : Worker Result}
    (found : values[index]? = some old) (new : Worker Result) :
    ((values.set index new).map Worker.potential).sum + old.potential =
      (values.map Worker.potential).sum + new.potential := by
  induction values generalizing index with
  | nil => cases found
  | cons value rest induction =>
      cases index with
      | zero =>
          cases found
          simp only [List.set_cons_zero, List.map_cons, List.sum_cons]
          omega
      | succ index =>
          have tail := induction found
          simp only [List.set_cons_succ, List.map_cons, List.sum_cons]
          omega

theorem potential_advance {old : Worker Result} (found : pool.workers[worker]? = some old)
    (one : old.potential = 1) :
    potential items (advance items pool worker) + 1 = potential items pool := by
  have sums := sum_set found (advanced items pool.next)
  unfold potential
  rw [advance_next, advance_workers]
  rw [one] at sums
  by_cases inside : pool.next < items.length
  · have two : (advanced items pool.next : Worker Result).potential = 2 := by
      unfold advanced
      rw [if_pos inside]
      rfl
    omega
  · have none : (advanced items pool.next : Worker Result).potential = 0 := by
      unfold advanced
      rw [if_neg inside]
      rfl
    omega

/-- Every step uses up one of the steps that are left. -/
theorem potential_step (step : Step items pool after) :
    potential items after + 1 = potential items pool := by
  cases step with
  | called ready => exact potential_advance ready rfl
  | @completed worker index result awaiting =>
      have sums := sum_set awaiting (Worker.settled index result)
      simp only [potential, Worker.potential] at sums ⊢
      omega
  | @resumed worker index result settled =>
      exact @potential_advance _ _ items
        { pool with results := pool.results.set index (some result) } worker _ settled rfl

theorem potential_run (run : Run items start count pool) :
    potential items pool + count = potential items start := by
  induction run with
  | start => rfl
  | step _ step induction =>
      have used := potential_step step
      omega

theorem length_workers_run (run : Run items start count pool) :
    pool.workers.length = start.workers.length := by
  induction run with
  | start => rfl
  | step _ step induction =>
      rw [← induction]
      cases step with
      | called ready =>
          rw [advance_workers]
          exact List.length_set
      | completed result awaiting => exact List.length_set
      | resumed settled =>
          rw [advance_workers]
          exact List.length_set

theorem mem_starts {index : Nat} (sound : Sound items pool) :
    index ∈ pool.starts.map Prod.snd ↔ index < pool.next ∧ index < items.length := by
  rw [sound.starts, List.map_take, List.zipIdx_map_snd, List.mem_take_iff_getElem]
  constructor
  · intro member
    rcases member with ⟨place, bound, same⟩
    rw [List.getElem_range'] at same
    rw [List.length_range'] at bound
    omega
  · intro bounds
    refine ⟨index, ?_, ?_⟩
    · rw [List.length_range']
      exact Nat.lt_min.mpr bounds
    · rw [List.getElem_range']
      omega

theorem nodup_starts (sound : Sound items pool) : (pool.starts.map Prod.snd).Nodup := by
  rw [sound.starts, List.map_take, List.zipIdx_map_snd]
  exact (List.take_sublist _ _).nodup List.nodup_range'

def Worker.awaits : Worker Result → Option Nat
  | .awaiting index => some index
  | _ => none

/-- A task in flight has a worker of its own. -/
theorem inFlight_awaited (sound : Sound items pool) {index : Nat} (member : index ∈ pool.inFlight) :
    ∃ worker ∈ pool.workers, worker = .awaiting index := by
  rcases List.mem_filter.mp member with ⟨started, incomplete⟩
  rcases (mem_starts sound).mp started with ⟨below, inside⟩
  rcases sound.covered below inside with ⟨worker, held⟩ | ⟨result, completed, _⟩
  · exact ⟨_, List.mem_of_getElem? held, rfl⟩
  · have done : index ∈ pool.completions.map Prod.fst :=
      List.mem_map.mpr ⟨(index, result), completed, rfl⟩
    exact absurd done (of_decide_eq_true incomplete)

theorem inFlight_of_awaiting (sound : Sound items pool) {index : Nat}
    (held : Worker.awaiting index ∈ pool.workers) : index ∈ pool.inFlight := by
  rcases List.getElem?_of_mem held with ⟨worker, found⟩
  rcases sound.awaited found with ⟨below, inside, incomplete⟩
  exact List.mem_filter.mpr ⟨(mem_starts sound).mpr ⟨below, inside⟩, decide_eq_true incomplete⟩

theorem length_inFlight_le (sound : Sound items pool) :
    pool.inFlight.length ≤ pool.workers.length ∧ pool.inFlight.length ≤ items.length := by
  have unique : pool.inFlight.Nodup := (nodup_starts sound).filter _
  constructor
  · have within : pool.inFlight ⊆ pool.workers.filterMap Worker.awaits := by
      intro index member
      rcases inFlight_awaited sound member with ⟨worker, found, awaiting⟩
      exact List.mem_filterMap.mpr ⟨worker, found, awaiting ▸ rfl⟩
    exact (unique.subperm within).length_le.trans (List.length_filterMap_le _ _)
  · have within : pool.inFlight ⊆ List.range items.length := by
      intro index member
      exact List.mem_range.mpr ((mem_starts sound).mp (List.mem_filter.mp member).1).2
    exact (unique.subperm within).length_le.trans (List.length_range).le

/-- Without a task in flight and without a worker about to run, all have finished. -/
theorem returned_of_waits (sound : Sound items pool) (idle : pool.inFlight = [])
    (waits : pool.Waits) : pool.Returned := by
  intro worker member
  cases worker with
  | ready => exact absurd rfl (waits _ member).1
  | awaiting index => exact absurd (idle ▸ inFlight_of_awaiting sound member) List.not_mem_nil
  | settled index result => exact absurd rfl ((waits _ member).2 index result)
  | finished => rfl

/-- What is returned: at each place the result of the one task of its index. -/
theorem results_of_returned (sound : Sound items pool) (some : 0 < pool.workers.length)
    (returned : pool.Returned) :
    pool.starts = items.zipIdx ∧ ∀ index, index < items.length →
      ∃ result, pool.results[index]? = Option.some (Option.some result) ∧
        ∀ other, (index, other) ∈ pool.completions ↔ other = result := by
  have past : items.length ≤ pool.next := by
    have first := returned _ (List.getElem_mem some)
    exact sound.finished ((List.getElem?_eq_getElem some).trans (congrArg Option.some first))
  constructor
  · rw [sound.starts]
    exact List.take_of_length_le (List.length_zipIdx.trans_le past)
  · intro index inside
    rcases sound.covered (inside.trans_le past) inside with ⟨worker, held⟩ | ⟨result, member, place⟩
    · cases returned _ (List.mem_of_getElem? held)
    · rcases place with ⟨worker, held⟩ | written
      · cases returned _ (List.mem_of_getElem? held)
      · refine ⟨result, written, fun other => ?_⟩
        constructor
        · intro completed
          exact congrArg Prod.snd (List.inj_on_of_nodup_map sound.single completed member rfl)
        · intro same
          rw [same]
          exact member

theorem workerCount_pos (concurrency : ℚ) (length : Nat) : 0 < workerCount concurrency length := by
  have one : (1 : ℤ) ≤ ⌊max 1 (min concurrency (length : ℚ))⌋ :=
    Int.le_floor.mpr (by exact_mod_cast le_max_left _ _)
  unfold workerCount
  omega

theorem workerCount_le {concurrency : ℚ} {length : Nat} (limit : 1 ≤ concurrency)
    (some : 0 < length) : (workerCount concurrency length : ℚ) ≤ min concurrency length := by
  have inside : (1 : ℚ) ≤ min concurrency length := le_min limit (by exact_mod_cast some)
  have floor : (0 : ℤ) ≤ ⌊min concurrency (length : ℚ)⌋ :=
    Int.floor_nonneg.mpr (zero_le_one.trans inside)
  have cast : ((⌊min concurrency (length : ℚ)⌋.toNat : ℤ) : ℚ) =
      ⌊min concurrency (length : ℚ)⌋ := by
    rw [Int.toNat_of_nonneg floor]
  unfold workerCount
  rw [max_eq_right inside, ← Int.cast_natCast, cast]
  exact Int.floor_le _

theorem inFlight_le {concurrency : ℚ} (limit : 1 ≤ concurrency)
    (run : Run items (withBoundedConcurrency items concurrency) count pool) :
    (pool.inFlight.length : ℚ) ≤ min concurrency items.length := by
  have bounds := length_inFlight_le ((Sound.start concurrency).run run)
  rw [length_workers_run run] at bounds
  rcases Nat.eq_zero_or_pos items.length with none | some
  · have zero : pool.inFlight.length = 0 := by omega
    rw [zero, none]
    exact le_min (zero_le_one.trans limit) le_rfl
  · have workers : (pool.inFlight.length : ℚ) ≤ workerCount concurrency items.length := by
      have own := bounds.1
      simp only [withBoundedConcurrency, List.length_replicate] at own
      exact_mod_cast own
    exact workers.trans (workerCount_le limit some)

/-- Every completion order: the tasks in flight stay within the limit, the tasks of the
first indices were started once each, the run ends, and it ends with all the results. -/
theorem withBoundedConcurrency_run {concurrency : ℚ} (limit : 1 ≤ concurrency)
    (run : Run items (withBoundedConcurrency items concurrency) count pool) :
    ((pool.inFlight.length : ℚ) ≤ min concurrency items.length ∧
      pool.starts = items.zipIdx.take pool.next) ∧
    (count ≤ 2 * items.length + workerCount concurrency items.length ∧
      (pool.inFlight = [] → pool.Waits → pool.Returned)) ∧
    (pool.Returned → pool.starts = items.zipIdx ∧ pool.results.length = items.length ∧
      ∀ index, index < items.length →
        ∃ result, pool.results[index]? = some (some result) ∧
          ∀ other, (index, other) ∈ pool.completions ↔ other = result) := by
  have sound := (Sound.start concurrency).run run
  have workers : 0 < pool.workers.length := by
    rw [length_workers_run run]
    exact (workerCount_pos concurrency items.length).trans_eq List.length_replicate.symm
  have total : potential items (withBoundedConcurrency items concurrency : Pool Item Result) =
      2 * items.length + workerCount concurrency items.length := by
    simp [potential, withBoundedConcurrency, Worker.potential]
  have spent := potential_run run
  refine ⟨⟨inFlight_le limit run, sound.starts⟩, ⟨by omega, returned_of_waits sound⟩, ?_⟩
  intro returned
  rcases results_of_returned sound workers returned with ⟨starts, results⟩
  exact ⟨starts, sound.width, results⟩

/-- Tasks that complete with the values of a function give its values at the items. -/
theorem results_eq_map {concurrency : ℚ} (task : Item → Result)
    (run : Run items (withBoundedConcurrency items concurrency) count pool)
    (computes : ∀ completion ∈ pool.completions, ∀ item, items[completion.1]? = some item →
      completion.2 = task item) (returned : pool.Returned) :
    pool.results = items.map fun item => some (task item) := by
  have sound := (Sound.start concurrency).run run
  have workers : 0 < pool.workers.length := by
    rw [length_workers_run run]
    exact (workerCount_pos concurrency items.length).trans_eq List.length_replicate.symm
  apply List.ext_getElem?
  intro index
  rw [List.getElem?_map]
  by_cases inside : index < items.length
  · rcases (results_of_returned sound workers returned).2 index inside with ⟨result, held, only⟩
    have found := List.getElem?_eq_getElem inside
    have computed : result = task items[index] := computes _ ((only result).mpr rfl) _ found
    rw [held, found, computed]
    rfl
  · have outside : pool.results.length ≤ index := by
      rw [sound.width]
      exact Nat.not_lt.mp inside
    rw [List.getElem?_eq_none outside, List.getElem?_eq_none (Nat.not_lt.mp inside)]
    rfl

end Ends

/-! ## Three tasks for two workers -/

def letters : List String := ["a", "b", "c"]

/-- The first task completes last. -/
def lettersDone : Pool String Nat where
  next := 5
  workers := [.finished, .finished]
  results := [some 97, some 98, some 99]
  log := [.completed 0 97, .completed 2 99, .started "c" 2, .completed 1 98, .started "b" 1,
    .started "a" 0]

theorem lettersDone_run : Run letters (withBoundedConcurrency letters 2) 8 lettersDone := by
  have two : workerCount 2 letters.length = 2 := by
    rw [workerCount, max_eq_right (by norm_num [letters]), min_eq_left (by norm_num [letters])]
    rfl
  have start : (withBoundedConcurrency letters 2 : Pool String Nat) =
      ⟨0, [.ready, .ready], [none, none, none], []⟩ := by
    unfold withBoundedConcurrency
    rw [two]
    rfl
  rw [start]
  have begun : Run letters (⟨0, [.ready, .ready], [none, none, none], []⟩ : Pool String Nat) 0
      ⟨0, [.ready, .ready], [none, none, none], []⟩ := .start
  have called := (begun.step (@Step.called _ _ letters _ 0 rfl)).step
    (@Step.called _ _ letters _ 1 rfl)
  have second := (called.step (@Step.completed _ _ letters _ 1 1 98 rfl)).step
    (@Step.resumed _ _ letters _ 1 1 98 rfl)
  have third := (second.step (@Step.completed _ _ letters _ 1 2 99 rfl)).step
    (@Step.resumed _ _ letters _ 1 2 99 rfl)
  exact (third.step (@Step.completed _ _ letters _ 0 0 97 rfl)).step
    (@Step.resumed _ _ letters _ 0 0 97 rfl)

theorem lettersDone_returned : lettersDone.Returned := by
  intro worker member
  simpa [lettersDone] using member

theorem withBoundedConcurrency_run_letters :
    lettersDone.starts = letters.zipIdx ∧ lettersDone.results.length = letters.length :=
  have done := (withBoundedConcurrency_run one_le_two lettersDone_run).2.2 lettersDone_returned
  ⟨done.1, done.2.1⟩

end GptQueue.WorkerPool
