import GptQueue.Activation.SubmitOnce

/-! # Attempts are bounded

While the set of pending messages stays the same, the dispatchers of an agent submit at
most one operation more than they have attempts, if each one still owns the binding
when it submits.
-/

namespace GptQueue.Activation

/-! ## What a tick has read -/

/-- The pending messages that the call has read since it last waited. -/
def seenPending : Past → Option (List String)
  | [] => none
  | ⟨command, reply⟩ :: past =>
      match command, reply with
      | .wait, _ => none
      | .pending, ids => ids
      | _, _ => seenPending past

/-- The record as the call has read or saved it since it last waited. -/
def seenRecord : Past → Option (Option ActivationRecord)
  | [] => none
  | ⟨command, reply⟩ :: past =>
      match command, reply with
      | .wait, _ => none
      | .current, record => record
      | .save _ record, some true => some record
      | .save _ _, _ => none
      | _, _ => seenRecord past

/-- The same attempt, maybe in another state. -/
structure SameAttempt (last record : ActivationRecord) : Prop where
  operationId : record.operationId = last.operationId
  messageIds : record.messageIds = last.messageIds
  attempt : record.attempt = last.attempt

/-- What a record may be replaced by while the given messages are pending. -/
inductive Succeeds (maxAttempts : Nat) (ids : List String) :
    Option ActivationRecord → Option ActivationRecord → Prop
  | cleared {last : Option ActivationRecord}
      (outdated : ids = [] ∨ stale last ids = true ∨ superseded last ids = true) :
      Succeeds maxAttempts ids last none
  | first {record : ActivationRecord} (nonempty : ids ≠ []) (covers : record.messageIds = ids)
      (attempt : record.attempt = 1) : Succeeds maxAttempts ids none (some record)
  | kept {last record : ActivationRecord} (same : SameAttempt last record) :
      Succeeds maxAttempts ids (some last) (some record)
  | next {last record : ActivationRecord} (nonempty : ids ≠ []) (covers : record.messageIds = ids)
      (attempt : record.attempt = last.attempt + 1) (below : last.attempt < maxAttempts) :
      Succeeds maxAttempts ids (some last) (some record)

/-- What the call has read in this tick. -/
structure Reads (past : Past) (ids : List String) (last : Option ActivationRecord) : Prop where
  pending : seenPending past = some ids
  record : seenRecord past = some last

/-- A dispatcher with the given number of attempts. -/
def Limits (maxAttempts : Nat) (past : Past) : Command → Prop
  | .attach owner => past = [⟨.randomUUID, some owner.token⟩]
  | .save owner record => Drawn past owner ∧
      ∃ ids last, Reads past ids last ∧ Succeeds maxAttempts ids last record
  | .activate operation false =>
      ∃ last, seenRecord past = some (some last) ∧ last.operationId = operation
  | _ => True

section Follows

variable {past : Past} {dispatcher : Dispatcher} {ids : List String}

theorem limits_saveResult (drawn : Drawn past dispatcher.owner) {last record : ActivationRecord}
    (reads : Reads past ids (some last)) (same : SameAttempt last record)
    (state : ActivationState) (traces : Bool) :
    (saveResult dispatcher record state traces).Follows (Limits dispatcher.maxAttempts)
      (fun after _ => Drawn after dispatcher.owner) past := by
  have asks : Limits dispatcher.maxAttempts past
      (.save dispatcher.owner (some { record with state })) :=
    ⟨drawn, ids, _, reads, .kept ⟨same.operationId, same.messageIds, same.attempt⟩⟩
  apply follows_await drawn asks
  intro saved drawn
  split
  · exact follows_await drawn trivial fun _ drawn => drawn
  · exact drawn

theorem limits_settle (drawn : Drawn past dispatcher.owner) {last record : ActivationRecord}
    (reads : Reads past ids (some last)) (nonempty : ids ≠ []) (same : SameAttempt last record)
    (recovery : Bool) (outcome : ActivationOutcome) :
    (settle dispatcher ids record recovery outcome).Follows (Limits dispatcher.maxAttempts)
      (fun after _ => Drawn after dispatcher.owner) past := by
  have deferral : (await .trace fun _ =>
      await (.save dispatcher.owner
        (some { record with state := if recovery then record.state else .pending })) fun _ =>
          pure (some .goOn)).Follows (Limits dispatcher.maxAttempts)
      (fun after _ => Drawn after dispatcher.owner) past := by
    apply follows_await drawn trivial
    intro _ drawn
    have kept : SameAttempt last
        { record with state := if recovery then record.state else .pending } :=
      ⟨same.operationId, same.messageIds, same.attempt⟩
    exact follows_await drawn ⟨drawn, ids, _, ⟨reads.pending, reads.record⟩, .kept kept⟩
      fun _ drawn => drawn
  cases outcome with
  | started turnId => exact limits_saveResult drawn reads same _ _
  | queued => exact limits_saveResult drawn reads same _ _
  | ambiguous => exact limits_saveResult drawn reads same _ _
  | busy => exact deferral
  | unavailable => exact deferral
  | completed turnId =>
      dsimp only [settle]
      split
      · next below =>
          apply follows_await drawn trivial
          intro now drawn
          rw [same.attempt] at below
          have next : Succeeds dispatcher.maxAttempts ids (some last)
              (some (createRecord dispatcher ids (record.attempt + 1) now)) :=
            .next nonempty rfl (congrArg (· + 1) same.attempt) below
          exact follows_await drawn ⟨drawn, ids, _, ⟨reads.pending, reads.record⟩, next⟩
            fun _ drawn => drawn
      · exact limits_saveResult drawn reads same _ _

theorem limits_submit (drawn : Drawn past dispatcher.owner) {last record : ActivationRecord}
    (reads : Reads past ids (some last)) (nonempty : ids ≠ []) (same : SameAttempt last record)
    (recovery : Bool) :
    (submit dispatcher ids record recovery).Follows (Limits dispatcher.maxAttempts)
      (fun after _ => Drawn after dispatcher.owner) past := by
  have asks : Limits dispatcher.maxAttempts past (.activate record.operationId recovery) := by
    cases recovery with
    | true => trivial
    | false => exact ⟨last, reads.record, same.operationId.symm⟩
  apply follows_await drawn asks
  intro _ drawn
  apply follows_await drawn trivial
  intro outcome drawn
  apply follows_await drawn trivial
  intro aborted drawn
  split
  · exact drawn
  · apply follows_await drawn trivial
    intro renewed drawn
    split
    · exact limits_settle drawn ⟨reads.pending, reads.record⟩ nonempty same recovery outcome
    · exact drawn

theorem limits_activateRecord (drawn : Drawn past dispatcher.owner) {record : ActivationRecord}
    (reads : Reads past ids (some record)) (nonempty : ids ≠ []) :
    (activateRecord dispatcher ids record).Follows (Limits dispatcher.maxAttempts)
      (fun after _ => Drawn after dispatcher.owner) past := by
  unfold activateRecord
  split
  · exact drawn
  · apply follows_await drawn trivial
    intro backingOff drawn
    split
    · exact drawn
    · split
      · have kept : SameAttempt record { record with state := .submitting } := ⟨rfl, rfl, rfl⟩
        apply follows_await drawn
          ⟨drawn, ids, _, ⟨reads.pending, reads.record⟩, .kept kept⟩
        intro saved drawn
        cases saved with
        | false => exact drawn
        | true =>
            apply follows_await drawn trivial
            intro _ drawn
            have saved : SameAttempt { record with state := .submitting } record := ⟨rfl, rfl, rfl⟩
            exact limits_submit drawn ⟨reads.pending, rfl⟩ nonempty saved false
      · exact limits_submit drawn ⟨reads.pending, reads.record⟩ nonempty ⟨rfl, rfl, rfl⟩ true

theorem limits_dispatch (drawn : Drawn past dispatcher.owner) {record : Option ActivationRecord}
    (reads : Reads past ids record) :
    (dispatch dispatcher ids record).Follows (Limits dispatcher.maxAttempts)
      (fun after _ => Drawn after dispatcher.owner) past := by
  unfold dispatch
  split
  · exact drawn
  · next nonempty =>
      apply follows_await drawn trivial
      intro claimed drawn
      split
      · exact drawn
      · cases record with
        | some record =>
            exact limits_activateRecord drawn ⟨reads.pending, reads.record⟩ nonempty
        | none =>
            apply follows_await drawn trivial
            intro now drawn
            have first : Succeeds dispatcher.maxAttempts ids none
                (some (createRecord dispatcher ids 1 now)) := .first nonempty rfl rfl
            apply follows_await drawn
              ⟨drawn, ids, _, ⟨reads.pending, reads.record⟩, first⟩
            intro saved drawn
            cases saved with
            | false => exact drawn
            | true => exact limits_activateRecord drawn ⟨reads.pending, rfl⟩ nonempty

theorem limits_reconcile (drawn : Drawn past dispatcher.owner) :
    (reconcile dispatcher).Follows (Limits dispatcher.maxAttempts)
      (fun after _ => Drawn after dispatcher.owner) past := by
  apply follows_await drawn trivial
  intro renewed drawn
  split
  · apply follows_await drawn trivial
    intro recovered drawn
    split
    · apply follows_await drawn trivial
      intro pending drawn
      apply follows_await drawn trivial
      intro record drawn
      split
      · next outdated =>
          simp only [Bool.or_eq_true, decide_eq_true_eq, or_assoc] at outdated
          apply follows_await drawn ⟨drawn, pending, record, ⟨rfl, rfl⟩, .cleared outdated⟩
          intro saved drawn
          cases saved with
          | true => exact limits_dispatch drawn ⟨rfl, rfl⟩
          | false => exact drawn
      · exact limits_dispatch drawn ⟨rfl, rfl⟩
    · exact drawn
  · exact drawn

theorem limits_finish (dispatcher : Dispatcher) (past : Past) :
    (finish dispatcher).Follows (Limits dispatcher.maxAttempts) (fun _ _ => True) past :=
  ⟨trivial, fun _ => ⟨trivial, fun _ => trivial⟩⟩

theorem limits_rounds (count : Nat) (drawn : Drawn past dispatcher.owner) :
    (rounds dispatcher count).Follows (Limits dispatcher.maxAttempts) (fun _ _ => True) past := by
  induction count generalizing past with
  | zero => exact limits_finish dispatcher past
  | succ count induction =>
      apply Program.follows_ask_bind.mpr
      refine ⟨trivial, fun aborted => ?_⟩
      split
      · exact limits_finish dispatcher _
      · apply (limits_reconcile (drawn.cons _)).bind
        intro after next drawn
        split
        · exact limits_finish dispatcher _
        · exact Program.follows_ask_bind.mpr ⟨trivial, fun _ => induction (drawn.cons _)⟩

theorem limits_program (operationId : String → List String → Nat → String) (input : Input) :
    (startInboxDispatcher operationId input).Follows (Limits input.maxAttempts)
      (fun _ _ => True) [] := by
  refine Program.follows_ask_bind.mpr ⟨trivial, fun token => ?_⟩
  cases token with
  | none => trivial
  | some token =>
      refine Program.follows_ask_bind.mpr ⟨rfl, fun attached => ?_⟩
      split
      · refine Program.follows_ask_bind.mpr ⟨trivial, fun traced => ?_⟩
        split
        · apply @limits_rounds _ ⟨⟨input.runtimeId, token⟩, input.maxAttempts, operationId⟩
          simp [Drawn]
        · trivial
      · trivial

end Follows

/-! ## The count of an interval -/

def Event.submission : Event → Option String
  | .submitted _ operation => some operation
  | _ => none

/-- The operations that were submitted. -/
def submissions (events : List Event) : Finset String :=
  (events.filterMap Event.submission).toFinset

/-- What was submitted since an earlier state of the server. -/
def submittedSince (start world : World) : Finset String :=
  submissions (world.log.take (world.log.length - start.log.length))

@[simp] theorem submissions_submitted (call : Nat) (operation : String) (events : List Event) :
    submissions (.submitted call operation :: events) = insert operation (submissions events) := by
  simp [submissions, Event.submission]

@[simp] theorem submissions_saved (call : Nat) (record : Option ActivationRecord)
    (events : List Event) : submissions (.saved call record :: events) = submissions events := rfl

@[simp] theorem submissions_returned (call : Nat) (outcome : ActivationOutcome)
    (events : List Event) : submissions (.returned call outcome :: events) = submissions events :=
  rfl

theorem submittedSince_append {start world : World} {newer : List Event}
    (log : world.log = newer ++ start.log) : submittedSince start world = submissions newer := by
  simp [submittedSince, log]

/-- The operations of an interval in which the set of pending messages stays. The record
is missing, or the one of the interval's start, or one for all the pending messages; the
attempt of the latter counts the other operations. -/
inductive Counted (maxAttempts : Nat) (pending started : Finset String) :
    Option ActivationRecord → Finset String → Prop
  | missing {used : Finset String} (early : used ⊆ started) :
      Counted maxAttempts pending started none used
  | initial {record : ActivationRecord} {used : Finset String}
      (isStarted : record.operationId ∈ started) (early : used ⊆ started) :
      Counted maxAttempts pending started (some record) used
  | covering {record : ActivationRecord} {used : Finset String} (nonempty : pending.Nonempty)
      (covers : record.messageIds.toFinset = pending) (bounded : record.attempt ≤ maxAttempts)
      (counts : (used.erase record.operationId).card ≤ record.attempt) :
      Counted maxAttempts pending started (some record) used

section Counted

variable {maxAttempts : Nat} {pending started used : Finset String}
  {record : Option ActivationRecord}

theorem Counted.card_le (counted : Counted maxAttempts pending started record used)
    (single : started.card ≤ 1) : used.card ≤ maxAttempts + 1 := by
  cases counted with
  | missing early => exact (Finset.card_le_card early).trans (single.trans (Nat.le_add_left 1 _))
  | initial isStarted early =>
      exact (Finset.card_le_card early).trans (single.trans (Nat.le_add_left 1 _))
  | @covering record used nonempty covers bounded counts =>
      calc used.card ≤ (used.erase record.operationId).card + 1 :=
            Nat.sub_le_iff_le_add.mp Finset.pred_card_le_card_erase
        _ ≤ maxAttempts + 1 := Nat.add_le_add_right (counts.trans bounded) 1

/-- A record for all pending messages is not outdated. -/
theorem not_outdated {covering : ActivationRecord} {ids : List String}
    (covers : covering.messageIds.toFinset = ids.toFinset) (nonempty : ids ≠ []) :
    ¬(ids = [] ∨ stale (some covering) ids = true ∨ superseded (some covering) ids = true) := by
  have same : ∀ id, id ∈ covering.messageIds ↔ id ∈ ids := by
    intro id
    rw [← List.mem_toFinset, covers, List.mem_toFinset]
  intro outdated
  rcases outdated with empty | isStale | isSuperseded
  · exact nonempty empty
  · rcases List.exists_mem_of_ne_nil ids nonempty with ⟨id, member⟩
    simp only [stale, Bool.not_eq_true', List.any_eq_false] at isStale
    exact isStale id ((same id).mpr member) (List.contains_iff_mem.mpr member)
  · simp only [superseded, Bool.and_eq_true, List.any_eq_true] at isSuperseded
    rcases isSuperseded.2 with ⟨id, member, uncovered⟩
    simp [(same id).mpr member] at uncovered

theorem Counted.erase_le (early : used ⊆ started) (single : started.card ≤ 1) (attempt : Nat)
    (operation : String) : (used.erase operation).card ≤ attempt + 1 :=
  calc (used.erase operation).card ≤ used.card := Finset.card_erase_le
    _ ≤ started.card := Finset.card_le_card early
    _ ≤ attempt + 1 := single.trans (Nat.le_add_left 1 attempt)

theorem Counted.succeeds {ids : List String} {last : Option ActivationRecord}
    (counted : Counted maxAttempts ids.toFinset started last used) (single : started.card ≤ 1)
    (positive : 1 ≤ maxAttempts) (succeeds : Succeeds maxAttempts ids last record) :
    Counted maxAttempts ids.toFinset started record used := by
  cases succeeds with
  | cleared outdated =>
      cases counted with
      | missing early => exact .missing early
      | initial isStarted early => exact .missing early
      | covering nonempty covers bounded counts =>
          have listed : ids ≠ [] := List.toFinset_nonempty_iff ids |>.mp nonempty
          exact absurd outdated (not_outdated covers listed)
  | first nonempty covers attempt =>
      cases counted with
      | missing early =>
          apply Counted.covering (List.toFinset_nonempty_iff ids |>.mpr nonempty)
            (congrArg List.toFinset covers)
          · rw [attempt]
            exact positive
          · rw [attempt]
            exact Counted.erase_le early single 0 _
  | kept same =>
      cases counted with
      | initial isStarted early =>
          apply Counted.initial _ early
          rw [same.operationId]
          exact isStarted
      | covering nonempty covers bounded counts =>
          apply Counted.covering nonempty
          · rw [same.messageIds]
            exact covers
          · rw [same.attempt]
            exact bounded
          · rw [same.operationId, same.attempt]
            exact counts
  | @next last record nonempty covers attempt below =>
      apply Counted.covering (List.toFinset_nonempty_iff ids |>.mpr nonempty)
        (congrArg List.toFinset covers)
      · rw [attempt]
        exact below
      · rw [attempt]
        cases counted with
        | initial isStarted early => exact Counted.erase_le early single last.attempt _
        | covering nonempty covers bounded counts =>
            calc (used.erase record.operationId).card ≤ used.card := Finset.card_erase_le
              _ ≤ (used.erase last.operationId).card + 1 :=
                Nat.sub_le_iff_le_add.mp Finset.pred_card_le_card_erase
              _ ≤ last.attempt + 1 := Nat.add_le_add_right counts 1

theorem Counted.submit {last : ActivationRecord}
    (counted : Counted maxAttempts pending started (some last) used) :
    Counted maxAttempts pending started (some last) (insert last.operationId used) := by
  cases counted with
  | initial isStarted early => exact .initial isStarted (Finset.insert_subset isStarted early)
  | covering nonempty covers bounded counts =>
      apply Counted.covering nonempty covers bounded
      rw [Finset.erase_insert_eq_erase]
      exact counts

end Counted

/-! ## Intervals -/

/-- The set of pending messages stays the same, and no record expires, which would be
logged. -/
def Steady (world after : World) : Prop :=
  Moves world after ∧
    after.environment.pending.toFinset = world.environment.pending.toFinset ∧
    after.log = world.log

/-- The dispatchers during such an interval. -/
abbrev steadyProtocol (uuid : Nat → String) (operationId : String → List String → Nat → String) :
    Protocol World Input Command Reply Unit :=
  { dispatcherProtocol uuid operationId with moves := Steady }

/-- The dispatchers have the same number of attempts. -/
def sameMaximum (maxAttempts : Nat) : Condition World Input Command Reply Unit :=
  fun _ _ call _ => call.input.maxAttempts = maxAttempts

/-- A dispatcher that submits still owns the binding. -/
def SubmitsOwned (uuid : Nat → String) : Condition World Input Command Reply Unit :=
  fun world id _ command => ∀ operation, command = .activate operation false → Owns uuid world id

/-- A tick begins after each wait, and when the dispatcher has attached. -/
def ticks : Past → Bool
  | ⟨.wait, _⟩ :: _ => true
  | [⟨.trace, _⟩, ⟨.attach _, _⟩, ⟨.randomUUID, _⟩] => true
  | _ => false

/-- The dispatcher that owns the binding is at the beginning of a tick. -/
def TickBegins (system : DispatcherSystem) : Prop :=
  ∃ id call owner, system.calls id = some call ∧ system.world.keys.binding = some owner ∧
    Drawn call.past owner ∧ ticks call.past = true

theorem unread_of_ticks {past : Past} (begins : ticks past = true) :
    seenPending past = none ∧ seenRecord past = none := by
  unfold ticks at begins
  split at begins
  · exact ⟨rfl, rfl⟩
  · exact ⟨rfl, rfl⟩
  · cases begins

/-- What the call has read in this tick is right while it owns the binding. -/
def Sees (uuid : Nat → String) (world : World) (id : Nat) (past : Past) : Prop :=
  Owns uuid world id →
    (∀ ids, seenPending past = some ids → ids.toFinset = world.environment.pending.toFinset) ∧
    ∀ last, seenRecord past = some last → Stored.parse world.keys.stored = last

section Sees

variable {uuid : Nat → String} {world after : World} {id other : Nat} {past : Past}

theorem Sees.unread (pending : seenPending past = none) (record : seenRecord past = none) :
    Sees uuid world id past := by
  intro _
  constructor
  · intro ids seen
    rw [pending] at seen
    cases seen
  · intro last seen
    rw [record] at seen
    cases seen

/-- The call may lose the binding, but what it has read stays. -/
theorem Sees.quiet {later : Past} (sees : Sees uuid world id past)
    (owns : Owns uuid after id → Owns uuid world id)
    (stored : after.keys.stored = world.keys.stored)
    (steady : after.environment.pending.toFinset = world.environment.pending.toFinset)
    (pending : seenPending later = seenPending past) (record : seenRecord later = seenRecord past) :
    Sees uuid after id later := by
  intro held
  rw [pending, record, stored, steady]
  exact sees (owns held)

theorem over_environment {α : Type} {ran : α × World}
    (same : ran.2.environment = world.environment) :
    (world.over ran).2.environment = world.environment := by
  unfold World.over
  split
  · exact same
  · rfl
  · exact same

theorem serve_environment (command : Command) :
    (serve uuid id command world).2.environment = world.environment := by
  cases command with
  | randomUUID => rfl
  | clock => rfl
  | backingOff => rfl
  | activate operation recoverOnly => rfl
  | outcome => rfl
  | aborted => rfl
  | _ => exact over_environment rfl

/-- An answer is what the server computed, and the server ran the command. -/
theorem over_some {α : Type} {ran : α × World} {answer : α}
    (replied : (world.over ran).1 = some answer) : ran.1 = answer ∧ (world.over ran).2 = ran.2 := by
  unfold World.over at replied ⊢
  split at replied
  · exact ⟨Option.some.inj replied, rfl⟩
  · cases replied
  · cases replied

theorem owns_of_keys (keys : after.keys = world.keys) (held : Owns uuid after id) :
    Owns uuid world id := by
  rw [Owns, ← keys]
  exact held

theorem owns_of_binding (binding : after.keys.binding = world.keys.binding)
    (held : Owns uuid after id) : Owns uuid world id := by
  rw [Owns, ← binding]
  exact held

theorem not_owns_unbound (binding : after.keys.binding = none) : ¬Owns uuid after id := by
  intro held
  rcases held with ⟨owner, bound, -⟩
  rw [binding] at bound
  cases bound

/-- A command that leaves the server as it is, and what the call has read. -/
theorem Sees.reading {later : Past} (sees : Sees uuid world id past) (same : after = world)
    (pending : seenPending later = seenPending past) (record : seenRecord later = seenRecord past) :
    Sees uuid after id later := by
  rw [same]
  exact sees.quiet (fun held => held) rfl rfl pending record

theorem Sees.save (sees : Sees uuid world id past) (owner : Owner)
    (record : Option ActivationRecord) :
    Sees uuid (serve uuid id (.save owner record) world).2 id
      (⟨.save owner record, (serve uuid id (.save owner record) world).1⟩ :: past) := by
  intro held
  have binding : (serve uuid id (.save owner record) world).2.keys.binding =
      world.keys.binding := by
    cases @serve_effect uuid id world (.save owner record) with
    | same keys log => rw [keys]
    | saved other saved isSave owned keys log => rw [keys]
    | bound other isAttach keys log => cases isAttach
    | unbound keys log =>
        exact absurd held (not_owns_unbound (by rw [keys]))
    | submitted operation isActivate keys log => cases isActivate
    | returned outcome isOutcome keys log => cases isOutcome
  have before := sees (owns_of_binding binding held)
  constructor
  · rw [serve_environment]
    exact before.1
  · intro last seen
    cases replied : (serve uuid id (.save owner record) world).1 with
    | none =>
        rw [replied] at seen
        cases seen
    | some saved =>
        rw [replied] at seen
        cases saved with
        | false => cases seen
        | true =>
            rcases over_some replied with ⟨applied, ran⟩
            have isLast : record = last := Option.some.inj seen
            by_cases owned : world.keys.binding = some owner
            · have stored : (serve uuid id (.save owner record) world).2.keys.stored =
                  record.map Stored.readable := by
                refine (congrArg (fun world : World => world.keys.stored) ran).trans ?_
                simp [Keys.save, owned]
              rw [stored, ← isLast]
              cases record <;> rfl
            · simp [Keys.save, owned] at applied

theorem Sees.served {maxAttempts : Nat} {command : Command} (sees : Sees uuid world id past)
    (limits : Limits maxAttempts past command) :
    Sees uuid (serve uuid id command world).2 id
      (⟨command, (serve uuid id command world).1⟩ :: past) := by
  cases command with
  | randomUUID => exact sees.reading rfl rfl rfl
  | attach owner =>
      have drawn : past = [⟨.randomUUID, some owner.token⟩] := limits
      rw [drawn]
      exact Sees.unread rfl rfl
  | refresh owner => exact sees.reading (over_unchanged _) rfl rfl
  | recoverExpired => exact sees.reading (over_unchanged _) rfl rfl
  | pending =>
      intro held
      have same : (serve uuid id .pending world).2 = world := over_unchanged _
      have before := sees (owns_of_keys (congrArg World.keys same) held)
      rw [same]
      refine ⟨fun ids seen => ?_, before.2⟩
      rw [← (over_some seen).1]
  | current =>
      intro held
      have same : (serve uuid id .current world).2 = world := over_unchanged _
      have before := sees (owns_of_keys (congrArg World.keys same) held)
      rw [same]
      exact ⟨before.1, fun last seen => (over_some seen).1⟩
  | save owner record => exact sees.save owner record
  | zcard => exact sees.reading (over_unchanged _) rfl rfl
  | clock => exact sees.reading rfl rfl rfl
  | backingOff => exact sees.reading rfl rfl rfl
  | trace => exact sees.reading (over_unchanged _) rfl rfl
  | activate operation recoverOnly =>
      exact sees.quiet (fun held => held) rfl rfl rfl rfl
  | outcome => exact sees.quiet (fun held => held) rfl rfl rfl rfl
  | aborted => exact sees.reading rfl rfl rfl
  | wait => exact Sees.unread rfl rfl
  | detach owner =>
      have environment := congrArg (fun environment : Environment => environment.pending.toFinset)
        (@serve_environment uuid world id (.detach owner))
      cases @serve_effect uuid id world (.detach owner) with
      | same keys log =>
          exact sees.quiet (owns_of_keys keys) (congrArg Keys.stored keys) environment rfl rfl
      | unbound keys log =>
          intro held
          exact absurd held (not_owns_unbound (by rw [keys]))
      | bound other isAttach keys log => cases isAttach
      | saved other record isSave owned keys log => cases isSave
      | submitted operation isActivate keys log => cases isActivate
      | returned outcome isOutcome keys log => cases isOutcome

/-- A command of another call. -/
theorem Sees.foreign (injective : Function.Injective uuid) (different : other ≠ id)
    {command : Command} (sees : Sees uuid world other past)
    (token : ∀ owner, (command = .attach owner ∨ ∃ record, command = .save owner record) →
      owner.token = uuid id) : Sees uuid (serve uuid id command world).2 other past := by
  have environment := congrArg (fun environment : Environment => environment.pending.toFinset)
    (@serve_environment uuid world id command)
  have notOwner : ∀ {system : World} {owner : Owner}, system.keys.binding = some owner →
      owner.token = uuid id → ¬Owns uuid system other := by
    intro system owner binding isToken held
    rcases held with ⟨found, bound, ofOther⟩
    rw [binding] at bound
    cases bound
    exact different (injective (ofOther.symm.trans isToken))
  cases @serve_effect uuid id world command with
  | same keys log =>
      exact sees.quiet (owns_of_keys keys) (congrArg Keys.stored keys) environment rfl rfl
  | submitted operation isActivate keys log =>
      exact sees.quiet (owns_of_keys keys) (congrArg Keys.stored keys) environment rfl rfl
  | returned outcome isOutcome keys log =>
      exact sees.quiet (owns_of_keys keys) (congrArg Keys.stored keys) environment rfl rfl
  | bound owner isAttach keys log =>
      intro held
      exact absurd held (notOwner (by rw [keys]) (token owner (Or.inl isAttach)))
  | unbound keys log =>
      intro held
      exact absurd held (not_owns_unbound (by rw [keys]))
  | saved owner record isSave owned keys log =>
      intro held
      have isToken := token owner (Or.inr ⟨record, isSave⟩)
      exact absurd held (notOwner (by rw [keys]; exact owned) isToken)

theorem Sees.moved (sees : Sees uuid world id past) (moves : Steady world after) :
    Sees uuid after id past := by
  rcases moves with ⟨moves, pending, log⟩
  cases moves with
  | unbound =>
      intro held
      exact absurd held (not_owns_unbound rfl)
  | lapsed => exact absurd log (List.cons_ne_self _ _)
  | changed environment => exact sees.quiet (fun held => held) rfl pending rfl rfl

end Sees

/-! ## The invariant -/

/-- The operation of the record at the start. -/
def started (start : World) : Finset String :=
  match Stored.parse start.keys.stored with
  | some record => {record.operationId}
  | none => ∅

theorem started_card (start : World) : (started start).card ≤ 1 := by
  unfold started
  split
  · exact (Finset.card_singleton _).le
  · exact Nat.zero_le 1

theorem counted_start (maxAttempts : Nat) (pending : Finset String) (start : World) :
    Counted maxAttempts pending (started start) (Stored.parse start.keys.stored) ∅ := by
  cases isRecord : Stored.parse start.keys.stored with
  | none => exact .missing (Finset.empty_subset _)
  | some record =>
      apply Counted.initial _ (Finset.empty_subset _)
      rw [started, isRecord]
      exact Finset.mem_singleton_self _

/-- The server, from the start of an interval on. -/
structure Tallied (maxAttempts : Nat) (start world : World) : Prop where
  steady : world.environment.pending.toFinset = start.environment.pending.toFinset
  counted : ∃ newer, world.log = newer ++ start.log ∧
    Counted maxAttempts start.environment.pending.toFinset (started start)
      (Stored.parse world.keys.stored) (submissions newer)

/-- A call, from the start of an interval on. -/
structure Attempting (uuid : Nat → String) (world : World) (id : Nat)
    (call : Call Input Command Reply Unit) : Prop where
  drew : ∀ {drawn : String}, ⟨.randomUUID, some drawn⟩ ∈ call.past → drawn = uuid id
  follows : call.rest.Follows (Limits call.input.maxAttempts) (fun _ _ => True) call.past
  sees : Sees uuid world id call.past

section Interval

variable {uuid : Nat → String} {operationId : String → List String → Nat → String}
  {maxAttempts : Nat} {start world after : World} {id : Nat} {past : Past} {command : Command}

theorem Tallied.kept (tallied : Tallied maxAttempts start world)
    (environment : after.environment = world.environment)
    (stored : after.keys.stored = world.keys.stored) (log : after.log = world.log) :
    Tallied maxAttempts start after := by
  refine ⟨?_, ?_⟩
  · rw [environment]
    exact tallied.steady
  · rw [stored, log]
    exact tallied.counted

theorem Tallied.served (positive : 1 ≤ maxAttempts) (tallied : Tallied maxAttempts start world)
    (sees : Sees uuid world id past) (limits : Limits maxAttempts past command)
    (token : ∀ owner record, command = .save owner record → owner.token = uuid id)
    (owned : ∀ operation, command = .activate operation false → Owns uuid world id) :
    Tallied maxAttempts start (serve uuid id command world).2 := by
  have environment := @serve_environment uuid world id command
  have steady : (serve uuid id command world).2.environment.pending.toFinset =
      start.environment.pending.toFinset := by
    rw [environment]
    exact tallied.steady
  rcases tallied.counted with ⟨newer, isLog, counted⟩
  cases @serve_effect uuid id world command with
  | same keys log => exact tallied.kept environment (congrArg Keys.stored keys) log
  | bound owner isAttach keys log => exact tallied.kept environment (by rw [keys]) log
  | unbound keys log => exact tallied.kept environment (by rw [keys]) log
  | saved owner record isSave binding keys log =>
      have owns : Owns uuid world id := ⟨owner, binding, token owner record isSave⟩
      subst isSave
      rcases limits.2 with ⟨ids, last, reads, succeeds⟩
      have isPending := (sees owns).1 ids reads.pending
      have isLast := (sees owns).2 last reads.record
      rw [tallied.steady] at isPending
      rw [isLast, ← isPending] at counted
      refine ⟨steady, .saved id record :: newer, ?_, ?_⟩
      · rw [log, isLog]
        rfl
      · have parsed : Stored.parse (record.map Stored.readable) = record := by
          cases record <;> rfl
        rw [keys, parsed, ← isPending, submissions_saved]
        exact counted.succeeds (started_card start) positive succeeds
  | submitted operation isActivate keys log =>
      have owns := owned operation isActivate
      subst isActivate
      rcases limits with ⟨last, seen, isOperation⟩
      rw [(sees owns).2 _ seen] at counted
      refine ⟨steady, .submitted id operation :: newer, ?_, ?_⟩
      · rw [log, isLog]
        rfl
      · rw [keys, (sees owns).2 _ seen, submissions_submitted, ← isOperation]
        exact counted.submit
  | returned outcome isOutcome keys log =>
      refine ⟨steady, .returned id outcome :: newer, ?_, ?_⟩
      · rw [log, isLog]
        rfl
      · rw [keys, submissions_returned]
        exact counted

theorem Tallied.moved (tallied : Tallied maxAttempts start world) (moves : Steady world after) :
    Tallied maxAttempts start after := by
  rcases moves with ⟨moves, pending, log⟩
  refine ⟨pending.trans tallied.steady, ?_⟩
  rw [log]
  cases moves with
  | unbound => exact tallied.counted
  | lapsed => exact absurd log (List.cons_ne_self _ _)
  | changed environment => exact tallied.counted

theorem preserves_attempts (injective : Function.Injective uuid) (positive : 1 ≤ maxAttempts) :
    Protocol.Preserves (steadyProtocol uuid operationId)
      (fun world id call command =>
        sameMaximum maxAttempts world id call command ∧ SubmitsOwned uuid world id call command)
      (Tallied maxAttempts start) (Attempting uuid) (fun _ _ => True) where
  opened {world id input} _ _ _ := by
    refine ⟨fun member => absurd member List.not_mem_nil, limits_program operationId input, ?_⟩
    exact Sees.unread rfl rfl
  served {world id input past command next} tallied attempting meets := by
    have same : input.maxAttempts = maxAttempts := meets.1
    have asks := attempting.follows.1
    rw [same] at asks
    have token : ∀ owner, (command = .attach owner ∨ ∃ record, command = .save owner record) →
        owner.token = uuid id := by
      intro owner uses
      rcases uses with isAttach | ⟨record, isSave⟩
      · subst isAttach
        have drawn : past = [⟨.randomUUID, some owner.token⟩] := asks
        apply attempting.drew
        rw [drawn]
        exact List.mem_singleton_self _
      · subst isSave
        exact attempting.drew asks.1
    refine ⟨?_, ⟨?_, attempting.follows.2 _, attempting.sees.served asks⟩, ?_⟩
    · exact tallied.served positive attempting.sees asks
        (fun owner record isSave => token owner (Or.inr ⟨record, isSave⟩)) meets.2
    · exact fun member => drew_cons attempting.drew member
    · intro other different
      refine ⟨fun call kept => ?_, fun _ => trivial⟩
      exact ⟨kept.drew, kept.follows, kept.sees.foreign injective different token⟩
  moved {world after} tallied moves := by
    refine ⟨tallied.moved moves, fun other => ⟨fun call kept => ?_, fun _ => trivial⟩⟩
    exact ⟨kept.drew, kept.follows, kept.sees.moved moves⟩

/-- Only the dispatcher at the beginning of its tick owns the binding, and it has read
nothing in this tick. -/
theorem attempting_at_tick (injective : Function.Injective uuid) {begins : World → Prop}
    {condition : Condition World Input Command Reply Unit} {system : DispatcherSystem}
    (reached : (dispatcherProtocol uuid operationId).Reachable condition begins system)
    (tick : TickBegins system) {call : Call Input Command Reply Unit}
    (running : system.calls id = some call) : Attempting uuid system.world id call := by
  have drew := fun {drawn} => @drew_of_reachable operationId uuid system condition begins reached
    id call running drawn
  refine ⟨drew, reached.follows (limits_program operationId) id call running, ?_⟩
  rcases tick with ⟨first, owning, owner, isRunning, binding, drawn, begin⟩
  have isToken : owner.token = uuid first := drew_of_reachable reached isRunning drawn
  intro held
  have same : first = id := by
    rcases held with ⟨found, bound, ofCall⟩
    rw [binding] at bound
    cases bound
    exact injective (isToken.symm.trans ofCall)
  subst same
  rw [isRunning, Option.some.injEq] at running
  subst running
  rcases unread_of_ticks begin with ⟨pending, record⟩
  exact Sees.unread pending record held

end Interval

/-- During an interval that begins with a tick of the dispatcher that owns the binding,
and in which the set of pending messages stays the same and no record expires, at most
one operation more than there are attempts is submitted, if every dispatcher still owns
the binding when it submits. -/
theorem attempts_bounded (operationId : String → List String → Nat → String)
    (uuid : Nat → String) (injective : Function.Injective uuid) (maxAttempts : Nat)
    (positive : 1 ≤ maxAttempts) (start after : DispatcherSystem)
    (reached : (dispatcherProtocol uuid operationId).Reachable (sameMaximum maxAttempts)
      (fun _ => True) start)
    (tick : TickBegins start)
    (steps : Relation.ReflTransGen ((steadyProtocol uuid operationId).Step
      fun world id call command => sameMaximum maxAttempts world id call command ∧
        SubmitsOwned uuid world id call command) start after) :
    (submittedSince start.world after.world).card ≤ maxAttempts + 1 := by
  have holds : Protocol.Holds (Tallied maxAttempts start.world) (Attempting uuid)
      (fun _ _ => True) after := by
    induction steps with
    | refl =>
        refine ⟨⟨rfl, [], rfl, counted_start _ _ _⟩, fun id call running => ?_, fun _ _ => trivial⟩
        exact attempting_at_tick injective reached tick running
    | tail earlier step induction =>
        exact (preserves_attempts injective positive).step step induction
  rcases holds.shared.counted with ⟨newer, log, counted⟩
  rw [submittedSince_append log]
  exact counted.card_le (started_card start.world)

section Schedules

/-- The call has one attempt. -/
def hasOneAttempt (system : DispatcherSystem) (id : Nat) : Bool :=
  (system.calls id).all fun call => call.input.maxAttempts = 1

/-- The call does not submit without the binding. -/
def ownsToSubmit (system : DispatcherSystem) (id : Nat) : Bool :=
  match Protocol.asked system id with
  | some (.activate _ false) => system.world.keys.binding.any fun owner => owner.token = unary id
  | _ => true

theorem sameMaximum_of_check {system : DispatcherSystem} {id : Nat}
    {call : Call Input Command Reply Unit} {command : Command}
    (checked : hasOneAttempt system id = true) (running : system.calls id = some call) :
    sameMaximum 1 system.world id call command := by
  rw [hasOneAttempt, running] at checked
  have isOne : call.input.maxAttempts = 1 := of_decide_eq_true checked
  exact isOne

theorem owned_of_check {system : DispatcherSystem} {id : Nat}
    {call : Call Input Command Reply Unit} {command : Command}
    (checked : ownsToSubmit system id = true) (next : Protocol.asked system id = some command) :
    SubmitsOwned unary system.world id call command := by
  intro operation isActivate
  rw [ownsToSubmit, next, isActivate] at checked
  rcases Option.any_eq_true_iff_get .. |>.mp checked with ⟨bound, isToken⟩
  exact ⟨_, Option.eq_some_of_isSome bound, of_decide_eq_true isToken⟩

/-- A dispatcher attaches, saves its record for the pending message as submitting, and
loses the binding. -/
def stall (system : DispatcherSystem) (id : Nat) (message : String) (count : Nat) :
    DispatcherSystem :=
  unbind (advances (sampleProtocol.start (withPending system [message]) id ⟨"r", 1, 1⟩) id count)

theorem reachable_one_attempt {system : DispatcherSystem} {id count : Nat}
    (reached : sampleProtocol.Reachable (sameMaximum 1) (fun _ => True) system)
    (checked : ∀ earlier < count, hasOneAttempt (advances system id earlier) id = true) :
    sampleProtocol.Reachable (sameMaximum 1) (fun _ => True) (advances system id count) := by
  apply reached.advances_of id count
  intro earlier less call command running _
  exact sameMaximum_of_check (checked earlier less) running

theorem reachable_stall {system : DispatcherSystem} {id count : Nat} {message : String}
    (reached : sampleProtocol.Reachable (sameMaximum 1) (fun _ => True) system)
    (unused : system.calls id = none)
    (checked : ∀ earlier < count, hasOneAttempt (advances
      (sampleProtocol.start (withPending system [message]) id ⟨"r", 1, 1⟩) id earlier) id = true) :
    sampleProtocol.Reachable (sameMaximum 1) (fun _ => True) (stall system id message count) := by
  have pending := reached.moved
    (Moves.changed { system.world.environment with pending := [message] })
  have begun := pending.start id ⟨"r", 1, 1⟩ unused trivial
  exact (reachable_one_attempt begun checked).moved Moves.unbound

theorem tickBegins_of_attached {system : DispatcherSystem} (id : Nat)
    (binding : system.world.keys.binding = some ⟨"r", unary id⟩)
    (asked : (system.calls id).map (fun call => call.past) =
      some [⟨.trace, some ()⟩, ⟨.attach ⟨"r", unary id⟩, some true⟩,
        ⟨.randomUUID, some (unary id)⟩]) : TickBegins system := by
  rcases Option.map_eq_some_iff.mp asked with ⟨call, running, isPast⟩
  refine ⟨id, call, ⟨"r", unary id⟩, running, binding, ?_, ?_⟩
  · rw [isPast]
    simp [Drawn]
  · rw [isPast]
    rfl

/-- Three dispatchers in turn are about to submit when they lose the binding. -/
def threeStalled : DispatcherSystem :=
  stall (stall (stall ⟨sampleWorld, fun _ => none⟩ 1 "a" 14) 2 "b" 15) 3 "c" 15

/-- A fourth one begins its first tick. -/
def fourthTicks : DispatcherSystem :=
  advances (sampleProtocol.start threeStalled 4 ⟨"r", 1, 1⟩) 4 3

/-- In the interval that begins, the three submit what they had saved. -/
def threeSubmitted : DispatcherSystem := advances (advances (advances fourthTicks 1 1) 2 1) 3 1

theorem fourthTicks_reachable :
    sampleProtocol.Reachable (sameMaximum 1) (fun _ => True) fourthTicks := by
  have empty : sampleProtocol.Reachable (sameMaximum 1) (fun _ => True)
      ⟨sampleWorld, fun _ => none⟩ := Protocol.Reachable.init trivial
  have first := @reachable_stall _ 1 14 "a" empty rfl (by decide +kernel)
  have second := @reachable_stall _ 2 15 "b" first rfl (by decide +kernel)
  have third := @reachable_stall _ 3 15 "c" second rfl (by decide +kernel)
  have fourth := third.start 4 ⟨"r", 1, 1⟩ rfl trivial
  exact reachable_one_attempt fourth (by decide +kernel)

theorem threeSubmitted_steps :
    Relation.ReflTransGen ((steadyProtocol unary sampleOperationId).Step (sameMaximum 1))
      fourthTicks threeSubmitted := by
  have submits : ∀ system id,
      (∀ earlier < 1, hasOneAttempt (advances system id earlier) id = true) →
      Relation.ReflTransGen ((steadyProtocol unary sampleOperationId).Step (sameMaximum 1))
        system (advances system id 1) := by
    intro system id checked
    apply @Protocol.steps_advances_of _ _ _ _ _ (steadyProtocol unary sampleOperationId)
    intro earlier less call command running _
    exact sameMaximum_of_check (checked earlier less) running
  have first := submits fourthTicks 1 (by decide +kernel)
  have second := submits (advances fourthTicks 1 1) 2 (by decide +kernel)
  have third := submits (advances (advances fourthTicks 1 1) 2 1) 3 (by decide +kernel)
  exact (first.trans second).trans third

theorem fourthTicks_begins : TickBegins fourthTicks :=
  tickBegins_of_attached 4 (by decide +kernel) rfl

/-- Three operations with one attempt. -/
theorem attempts_unbounded :
    ¬∀ (operationId : String → List String → Nat → String) (uuid : Nat → String),
      Function.Injective uuid → ∀ maxAttempts, 1 ≤ maxAttempts →
      ∀ start after : DispatcherSystem,
      (dispatcherProtocol uuid operationId).Reachable (sameMaximum maxAttempts)
        (fun _ => True) start → TickBegins start →
      Relation.ReflTransGen ((steadyProtocol uuid operationId).Step (sameMaximum maxAttempts))
        start after →
      (submittedSince start.world after.world).card ≤ maxAttempts + 1 := by
  intro bounded
  have few := bounded sampleOperationId unary unary_injective 1 (le_refl 1) fourthTicks
    threeSubmitted fourthTicks_reachable fourthTicks_begins threeSubmitted_steps
  have three : (submittedSince fourthTicks.world threeSubmitted.world).card = 3 := by
    decide +kernel
  rw [three] at few
  exact absurd few (by decide)

/-- A dispatcher begins its first tick. -/
def firstTicks : DispatcherSystem :=
  advances (sampleProtocol.start ⟨sampleWorld, fun _ => none⟩ 1 ⟨"r", 1, 1⟩) 1 3

def firstSubmitted : DispatcherSystem := advances firstTicks 1 12

theorem firstSubmitted_bounded :
    submittedSince firstTicks.world firstSubmitted.world = {"rm:u"} ∧
      (submittedSince firstTicks.world firstSubmitted.world).card ≤ 1 + 1 := by
  refine ⟨by decide +kernel, ?_⟩
  have empty : sampleProtocol.Reachable (sameMaximum 1) (fun _ => True)
      ⟨sampleWorld, fun _ => none⟩ := Protocol.Reachable.init trivial
  have reached : sampleProtocol.Reachable (sameMaximum 1) (fun _ => True) firstTicks :=
    reachable_one_attempt (empty.start 1 ⟨"r", 1, 1⟩ rfl trivial) (by decide +kernel)
  have attempts : ∀ earlier < 12, hasOneAttempt (advances firstTicks 1 earlier) 1 = true := by
    decide +kernel
  have owned : ∀ earlier < 12, ownsToSubmit (advances firstTicks 1 earlier) 1 = true := by
    decide +kernel
  have begins : TickBegins firstTicks := tickBegins_of_attached 1 (by decide +kernel) rfl
  apply attempts_bounded sampleOperationId unary unary_injective 1 (le_refl 1) firstTicks
    firstSubmitted reached begins
  apply @Protocol.steps_advances_of _ _ _ _ _ (steadyProtocol unary sampleOperationId)
  intro earlier less call command running next
  exact ⟨sameMaximum_of_check (attempts earlier less) running,
    owned_of_check (owned earlier less) next⟩

end Schedules

end GptQueue.Activation
