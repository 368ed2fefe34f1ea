import GptQueue.Activation.Dispatcher
import GptQueue.Keys

/-! # At most one submission

While the activation record of an operation stays, its native submission is made
once, unless an earlier one was deferred and the record was saved as pending again.
-/

namespace GptQueue.Activation

/-! ## What a call knows -/

abbrev Past := List (Exchange Command Reply)

/-- The record as the call last read or saved it, if it is sure of it. -/
def known : Past → Option (Option ActivationRecord)
  | [] => none
  | ⟨command, reply⟩ :: past =>
      match command, reply with
      | .save _ record, some true => some record
      | .save _ _, _ => none
      | .current, some record => some record
      | .current, none => none
      | _, _ => known past

/-- How far a submission of the call has come since its save. -/
inductive Progress
  | idle
  | armed (operationId : String)
  | submitted (operationId : String)
  | deferred (operationId : String)
deriving DecidableEq

/-- Whether the record is the given one before its submission. -/
def isPending (operationId : String) : Option (Option ActivationRecord) → Bool
  | some (some record) => record.state = .pending && record.operationId = operationId
  | _ => false

def progress : Past → Progress
  | [] => .idle
  | ⟨command, reply⟩ :: past =>
      match command, reply with
      | .save _ (some record), some true =>
          if record.state = .submitting && isPending record.operationId (known past) then
            .armed record.operationId
          else .idle
      | .save _ _, _ => .idle
      | .current, _ => .idle
      | .activate _ false, _ =>
          match progress past with
          | .armed operationId => .submitted operationId
          | _ => .idle
      | .outcome, some outcome =>
          match progress past with
          | .submitted operationId =>
              if outcome.deferred then .deferred operationId else .submitted operationId
          | other => other
      | _, _ => progress past

section Asks

variable (operationId : String → List String → Nat → String)

/-- A token that the call has drawn. -/
def Drawn (past : Past) (owner : Owner) : Prop := ⟨.randomUUID, some owner.token⟩ ∈ past

/-- A new record: the first one, or one for the next attempt. -/
def Created (past : Past) (record : ActivationRecord) : Prop :=
  record.state = .pending ∧
    (∃ runtimeId ids, record.operationId = operationId runtimeId ids record.attempt) ∧
    (known past = some none ∨
      ∃ last, known past = some (some last) ∧ record.attempt = last.attempt + 1)

/-- The known record in another state; it is pending only after a deferral. -/
def Kept (past : Past) (record : ActivationRecord) : Prop :=
  ∃ last, known past = some (some last) ∧ record.operationId = last.operationId ∧
    record.attempt = last.attempt ∧
    (record.state = .pending → progress past = .deferred record.operationId)

def Asks (past : Past) : Command → Prop
  | .attach owner => past = [⟨.randomUUID, some owner.token⟩]
  | .refresh owner => Drawn past owner
  | .detach owner => Drawn past owner
  | .save owner record => Drawn past owner ∧
      ∀ saved ∈ record, Created operationId past saved ∨ Kept past saved
  | .activate operation false => progress past = .armed operation
  | _ => True

end Asks

section Follows

variable {operationId : String → List String → Nat → String} {past : Past} {dispatcher : Dispatcher}

theorem Drawn.cons {owner : Owner} (drawn : Drawn past owner)
    (exchange : Exchange Command Reply) : Drawn (exchange :: past) owner :=
  List.mem_cons_of_mem _ drawn

theorem follows_await {rule : Past → Command → Prop} {owner : Owner} {command : Command}
    {next : Answer command → Program Command Reply (Option Next)} (drawn : Drawn past owner)
    (asks : rule past command)
    (rest : ∀ answer, Drawn (⟨command, some answer⟩ :: past) owner →
      (next answer).Follows rule (fun after _ => Drawn after owner)
        (⟨command, some answer⟩ :: past)) :
    (await command next).Follows rule (fun after _ => Drawn after owner) past := by
  refine Program.follows_ask_bind.mpr ⟨asks, fun reply => ?_⟩
  cases reply with
  | none => exact drawn.cons _
  | some answer => exact rest answer (drawn.cons _)

theorem follows_saveResult (drawn : Drawn past dispatcher.owner) {record last : ActivationRecord}
    {state : ActivationState} (notPending : state ≠ .pending) (traces : Bool)
    (knows : known past = some (some last)) (sameOperation : record.operationId = last.operationId)
    (sameAttempt : record.attempt = last.attempt) :
    (saveResult dispatcher record state traces).Follows (Asks operationId)
      (fun after _ => Drawn after dispatcher.owner) past := by
  refine follows_await drawn ⟨drawn, fun saved isSaved => Or.inr ?_⟩ fun saved drawn => ?_
  · cases isSaved
    exact ⟨last, knows, sameOperation, sameAttempt, fun isPending => absurd isPending notPending⟩
  · split
    · exact follows_await drawn trivial fun _ drawn => drawn
    · exact drawn

theorem follows_settle (same : dispatcher.operationId = operationId)
    (drawn : Drawn past dispatcher.owner) (pending : List String)
    {record last : ActivationRecord} {recovery : Bool} {outcome : ActivationOutcome}
    (knows : known past = some (some last)) (sameOperation : record.operationId = last.operationId)
    (sameAttempt : record.attempt = last.attempt)
    (recovers : recovery = true → record.state ≠ .pending)
    (defers : recovery = false → outcome.deferred = true →
      progress past = .deferred record.operationId) :
    (settle dispatcher pending record recovery outcome).Follows (Asks operationId)
      (fun after _ => Drawn after dispatcher.owner) past := by
  have deferral : outcome.deferred = true →
      (await .trace fun _ =>
        await (.save dispatcher.owner
          (some { record with state := if recovery then record.state else .pending })) fun _ =>
            pure (some .goOn)).Follows (Asks operationId)
        (fun after _ => Drawn after dispatcher.owner) past := by
    intro deferred
    refine follows_await drawn trivial fun _ drawn => ?_
    refine follows_await drawn ⟨drawn, fun saved isSaved => Or.inr ?_⟩ fun _ drawn => drawn
    cases isSaved
    refine ⟨last, knows, sameOperation, sameAttempt, fun isPending => ?_⟩
    cases recovery with
    | true => exact absurd isPending (recovers rfl)
    | false => exact defers rfl deferred
  cases outcome with
  | started turnId => exact follows_saveResult drawn (by decide) _ knows sameOperation sameAttempt
  | queued => exact follows_saveResult drawn (by decide) _ knows sameOperation sameAttempt
  | ambiguous => exact follows_saveResult drawn (by decide) _ knows sameOperation sameAttempt
  | busy => exact deferral rfl
  | unavailable => exact deferral rfl
  | completed turnId =>
      dsimp only [settle]
      split
      · refine follows_await drawn trivial fun now drawn => ?_
        refine follows_await drawn ⟨drawn, fun saved isSaved => Or.inl ?_⟩ fun _ drawn => drawn
        cases isSaved
        refine ⟨rfl, ⟨_, pending, by rw [← same]; rfl⟩, Or.inr ⟨last, knows, ?_⟩⟩
        exact congrArg (· + 1) sameAttempt
      · exact follows_saveResult drawn (by decide) _ knows sameOperation sameAttempt

theorem follows_submit (same : dispatcher.operationId = operationId)
    (drawn : Drawn past dispatcher.owner) (pending : List String)
    {record last : ActivationRecord} {recovery : Bool}
    (knows : known past = some (some last)) (sameOperation : record.operationId = last.operationId)
    (sameAttempt : record.attempt = last.attempt)
    (recovers : recovery = true → record.state ≠ .pending)
    (arms : recovery = false → progress past = .armed record.operationId) :
    (submit dispatcher pending record recovery).Follows (Asks operationId)
      (fun after _ => Drawn after dispatcher.owner) past := by
  have asks : Asks operationId past (.activate record.operationId recovery) := by
    cases recovery with
    | true => trivial
    | false => exact arms rfl
  refine follows_await drawn asks fun _ drawn => ?_
  refine follows_await drawn trivial fun outcome drawn => ?_
  refine follows_await drawn trivial fun aborted drawn => ?_
  split
  · exact drawn
  · refine follows_await drawn drawn fun renewed drawn => ?_
    split
    · apply follows_settle same drawn pending (by simpa [known] using knows) sameOperation
        sameAttempt recovers
      intro isSubmission deferred
      subst isSubmission
      simp [progress, arms rfl, deferred]
    · exact drawn

theorem follows_activateRecord (same : dispatcher.operationId = operationId)
    (drawn : Drawn past dispatcher.owner) (pending : List String) {record : ActivationRecord}
    (knows : known past = some (some record)) :
    (activateRecord dispatcher pending record).Follows (Asks operationId)
      (fun after _ => Drawn after dispatcher.owner) past := by
  unfold activateRecord
  split
  · exact drawn
  · refine follows_await drawn trivial fun backingOff drawn => ?_
    split
    · exact drawn
    · split
      · next isNew =>
          refine follows_await drawn ⟨drawn, fun saved isSaved => Or.inr ?_⟩ fun saved drawn => ?_
          · cases isSaved
            exact ⟨record, knows, rfl, rfl, fun isPending => by cases isPending⟩
          · cases saved with
            | false => exact drawn
            | true =>
                refine follows_await drawn trivial fun _ drawn => ?_
                refine @follows_submit operationId _ dispatcher same drawn pending record
                  { record with state := .submitting } false ?_ rfl rfl ?_ ?_
                · simp [known]
                · intro isRecovery
                  cases isRecovery
                · intro _
                  simp [progress, isPending, known, knows, isNew]
      · next notNew =>
          exact follows_submit same drawn pending (by simpa [known] using knows) rfl rfl
            (fun _ => notNew) fun isRecovery => by cases isRecovery

theorem follows_dispatch (same : dispatcher.operationId = operationId)
    (drawn : Drawn past dispatcher.owner) (pending : List String)
    {record : Option ActivationRecord} (knows : known past = some record) :
    (dispatch dispatcher pending record).Follows (Asks operationId)
      (fun after _ => Drawn after dispatcher.owner) past := by
  unfold dispatch
  split
  · exact drawn
  · refine follows_await drawn trivial fun claimed drawn => ?_
    split
    · exact drawn
    · cases record with
      | some record => exact follows_activateRecord same drawn pending knows
      | none =>
          refine follows_await drawn trivial fun now drawn => ?_
          refine follows_await drawn ⟨drawn, fun saved isSaved => Or.inl ?_⟩ fun saved drawn => ?_
          · cases isSaved
            exact ⟨rfl, ⟨_, pending, by rw [← same]; rfl⟩, Or.inl knows⟩
          · cases saved with
            | false => exact drawn
            | true => exact follows_activateRecord same drawn pending rfl

theorem follows_reconcile (same : dispatcher.operationId = operationId)
    (drawn : Drawn past dispatcher.owner) :
    (reconcile dispatcher).Follows (Asks operationId)
      (fun after _ => Drawn after dispatcher.owner) past := by
  refine follows_await drawn drawn fun renewed drawn => ?_
  split
  · refine follows_await drawn trivial fun recovered drawn => ?_
    split
    · refine follows_await drawn trivial fun pending drawn => ?_
      refine follows_await drawn trivial fun record drawn => ?_
      split
      · refine follows_await drawn ⟨drawn, fun _ none => by cases none⟩ fun saved drawn => ?_
        cases saved with
        | true => exact follows_dispatch same drawn pending rfl
        | false => exact drawn
      · exact follows_dispatch same drawn pending rfl
    · exact drawn
  · exact drawn

theorem follows_finish (drawn : Drawn past dispatcher.owner) :
    (finish dispatcher).Follows (Asks operationId) (fun _ _ => True) past :=
  ⟨drawn, fun _ => ⟨trivial, fun _ => trivial⟩⟩

theorem follows_rounds (same : dispatcher.operationId = operationId) (count : Nat)
    (drawn : Drawn past dispatcher.owner) :
    (rounds dispatcher count).Follows (Asks operationId) (fun _ _ => True) past := by
  induction count generalizing past with
  | zero => exact follows_finish drawn
  | succ count induction =>
      refine Program.follows_ask_bind.mpr ⟨trivial, fun aborted => ?_⟩
      split
      · exact follows_finish (drawn.cons _)
      · refine (follows_reconcile same (drawn.cons _)).bind ?_
        intro after next drawn
        split
        · exact follows_finish drawn
        · exact Program.follows_ask_bind.mpr ⟨trivial, fun _ => induction (drawn.cons _)⟩

theorem follows_program (operationId : String → List String → Nat → String) (input : Input) :
    (startInboxDispatcher operationId input).Follows (Asks operationId) (fun _ _ => True) [] := by
  refine Program.follows_ask_bind.mpr ⟨trivial, fun token => ?_⟩
  cases token with
  | none => trivial
  | some token =>
      have drawn : ∀ attached traced, Drawn
          [⟨.trace, traced⟩, ⟨.attach ⟨input.runtimeId, token⟩, attached⟩,
            ⟨.randomUUID, some token⟩] ⟨input.runtimeId, token⟩ := by
        intro attached traced
        simp [Drawn]
      refine Program.follows_ask_bind.mpr ⟨rfl, fun attached => ?_⟩
      split
      · refine Program.follows_ask_bind.mpr ⟨trivial, fun traced => ?_⟩
        split
        · exact @follows_rounds operationId _ ⟨⟨input.runtimeId, token⟩, input.maxAttempts,
            operationId⟩ rfl input.rounds (drawn _ _)
        · trivial
      · trivial

end Follows

/-! ## Phases of an operation -/

inductive Stage
  | armed
  | submitted
  | deferred
deriving DecidableEq

/-- Where an operation stands since its record was last replaced: its newest save was
that of a pending record, of a record before a submission of the given call, or
another one. In the last case a call may still be about to submit. -/
inductive Phase
  | clear
  | pending
  | armed (call : Nat) (stage : Stage)
  | settled (late : Option Nat)
deriving DecidableEq

/-- The record of the operation is deleted or replaced. -/
def Event.ends (operation : String) : Event → Bool
  | .saved _ none => true
  | .saved _ (some record) => record.operationId ≠ operation
  | .lapsed => true
  | _ => false

/-- A save of a record that is not pending. -/
def Phase.settle : Phase → Phase
  | .armed call .armed => .settled (some call)
  | .settled late => .settled late
  | _ => .settled none

def Phase.arm (call : Nat) : Phase → Phase
  | .clear => .armed call .armed
  | .pending => .armed call .armed
  | phase => phase.settle

def Phase.submit (call : Nat) : Phase → Phase
  | .armed other .armed => if other = call then .armed call .submitted else .armed other .armed
  | .settled (some other) => if other = call then .settled none else .settled (some other)
  | phase => phase

def Phase.defer (call : Nat) : Phase → Phase
  | .armed other .submitted =>
      if other = call then .armed call .deferred else .armed other .submitted
  | phase => phase

def Phase.step (operation : String) (phase : Phase) : Event → Phase
  | .saved _ none => .clear
  | .saved call (some record) =>
      if record.operationId = operation then
        match record.state with
        | .pending => .pending
        | .submitting => phase.arm call
        | _ => phase.settle
      else .clear
  | .lapsed => .clear
  | .submitted call submitted => if submitted = operation then phase.submit call else phase
  | .returned call outcome => if outcome.deferred then phase.defer call else phase

def phase (operation : String) (log : List Event) : Phase :=
  log.foldr (fun event before => before.step operation event) .clear

@[simp] theorem phase_nil (operation : String) : phase operation [] = .clear := rfl

@[simp] theorem phase_cons (operation : String) (event : Event) (log : List Event) :
    phase operation (event :: log) = (phase operation log).step operation event := rfl

/-- When an event may follow the log. -/
def Rule (log : List Event) : Event → Prop
  | .saved call (some record) => record.state = .pending →
      phase record.operationId log = .clear ∨ phase record.operationId log = .pending ∨
        phase record.operationId log = .armed call .deferred
  | .submitted call operation =>
      phase operation log = .armed call .armed ∨ phase operation log = .settled (some call)
  | _ => True

def Valid : List Event → Prop
  | [] => True
  | event :: log => Rule log event ∧ Valid log

/-- A submission of the call returned deferred, and then it saved the record as pending
again. -/
def Deferred (events : List Event) (call : Nat) (operation : String) : Prop :=
  ∃ newer record older outcome, events = newer ++ .saved call (some record) :: older ∧
    record.operationId = operation ∧ record.state = .pending ∧
    .returned call outcome ∈ older ∧ outcome.deferred = true

section Valid

variable {first : Nat} {operation : String} {earlier : List Event}

theorem Deferred.cons {events : List Event} (deferred : Deferred events first operation)
    (event : Event) : Deferred (event :: events) first operation := by
  rcases deferred with ⟨newer, record, older, outcome, rfl, rest⟩
  exact ⟨event :: newer, record, older, outcome, rfl, rest⟩

section Step

variable {log : List Event} {event : Event} (notEnd : event.ends operation = false)
  (rule : Rule log event)

include notEnd rule

theorem step_submitted (before : phase operation log = .armed first .submitted) :
    (Phase.armed first .submitted).step operation event = .armed first .submitted ∨
    (Phase.armed first .submitted).step operation event = .settled none ∨
    ((Phase.armed first .submitted).step operation event = .armed first .deferred ∧
      ∃ outcome, event = .returned first outcome ∧ outcome.deferred = true) := by
  cases event with
  | lapsed => cases notEnd
  | saved call record =>
      cases record with
      | none => cases notEnd
      | some record =>
          have same : record.operationId = operation := by simpa [Event.ends] using notEnd
          cases state : record.state with
          | pending =>
              have earlier := rule state
              simp [same, before] at earlier
          | _ => simp [Phase.step, same, state, Phase.arm, Phase.settle]
  | submitted call submitted =>
      left
      simp only [Phase.step]
      split <;> rfl
  | returned call outcome =>
      cases isDeferred : outcome.deferred with
      | false => simp [Phase.step, isDeferred]
      | true =>
          by_cases same : first = call
          · subst same
            simp [Phase.step, isDeferred, Phase.defer]
          · simp [Phase.step, isDeferred, Phase.defer, same]

theorem step_settled (before : phase operation log = .settled none) :
    (Phase.settled none).step operation event = .settled none := by
  cases event with
  | lapsed => cases notEnd
  | saved call record =>
      cases record with
      | none => cases notEnd
      | some record =>
          have same : record.operationId = operation := by simpa [Event.ends] using notEnd
          cases state : record.state with
          | pending =>
              have earlier := rule state
              simp [same, before] at earlier
          | _ => simp [Phase.step, same, state, Phase.arm, Phase.settle]
  | submitted call submitted =>
      simp only [Phase.step]
      split <;> rfl
  | returned call outcome =>
      simp only [Phase.step]
      split <;> rfl

theorem step_deferred (before : phase operation log = .armed first .deferred) :
    (Phase.armed first .deferred).step operation event = .armed first .deferred ∨
    (Phase.armed first .deferred).step operation event = .settled none ∨
    ∃ record, event = .saved first (some record) ∧ record.operationId = operation ∧
      record.state = .pending := by
  cases event with
  | lapsed => cases notEnd
  | saved call record =>
      cases record with
      | none => cases notEnd
      | some record =>
          have same : record.operationId = operation := by simpa [Event.ends] using notEnd
          cases state : record.state with
          | pending =>
              have own := rule state
              simp only [same, before, reduceCtorEq, Phase.armed.injEq, and_true, false_or] at own
              exact Or.inr (Or.inr ⟨record, by rw [own], same, state⟩)
          | _ => simp [Phase.step, same, state, Phase.arm, Phase.settle]
  | submitted call submitted =>
      left
      simp only [Phase.step]
      split <;> rfl
  | returned call outcome =>
      left
      simp only [Phase.step]
      split <;> rfl

end Step

/-- After a submission the operation stays submitted or settled, unless the submission
is deferred. -/
theorem phase_after_submission (middle : List Event)
    (valid : Valid (middle ++ .submitted first operation :: earlier))
    (stays : ∀ event ∈ middle, event.ends operation = false) :
    phase operation (middle ++ .submitted first operation :: earlier) = .armed first .submitted ∨
    phase operation (middle ++ .submitted first operation :: earlier) = .settled none ∨
    (phase operation (middle ++ .submitted first operation :: earlier) = .armed first .deferred ∧
      ∃ outcome, .returned first outcome ∈ middle ∧ outcome.deferred = true) ∨
    Deferred middle first operation := by
  induction middle with
  | nil =>
      rcases valid.1 with armed | late
      · left
        simp [Phase.step, armed, Phase.submit]
      · right; left
        simp [Phase.step, late, Phase.submit]
  | cons event middle induction =>
      have before := induction valid.2
        fun other member => stays other (List.mem_cons_of_mem _ member)
      have notEnd := stays event List.mem_cons_self
      have rule := valid.1
      rw [List.cons_append, phase_cons]
      rcases before with submitted | settled | ⟨deferred, outcome, returned, isDeferred⟩ | done
      · rw [submitted]
        rcases step_submitted notEnd rule submitted with same | settled | ⟨deferred, returned⟩
        · exact Or.inl same
        · exact Or.inr (Or.inl settled)
        · rcases returned with ⟨outcome, isReturn, isDeferred⟩
          refine Or.inr (Or.inr (Or.inl ⟨deferred, outcome, ?_, isDeferred⟩))
          rw [isReturn]
          exact List.mem_cons_self
      · rw [settled]
        exact Or.inr (Or.inl (step_settled notEnd rule settled))
      · rw [deferred]
        rcases step_deferred notEnd rule deferred with same | settled | ⟨record, saved, of, isNew⟩
        · exact Or.inr (Or.inr (Or.inl
            ⟨same, outcome, List.mem_cons_of_mem _ returned, isDeferred⟩))
        · exact Or.inr (Or.inl settled)
        · refine Or.inr (Or.inr (Or.inr ⟨[], record, middle, outcome, ?_, of, isNew, returned,
            isDeferred⟩))
          rw [saved]
          rfl
      · exact Or.inr (Or.inr (Or.inr (done.cons event)))

end Valid

/-! ## What a command does -/

/-- The call holds the binding. -/
def Owns (uuid : Nat → String) (world : World) (id : Nat) : Prop :=
  ∃ owner, world.keys.binding = some owner ∧ owner.token = uuid id

inductive Effect (id : Nat) (command : Command) (world after : World) : Prop
  | same (keys : after.keys = world.keys) (log : after.log = world.log)
  | bound (owner : Owner) (isAttach : command = .attach owner)
      (keys : after.keys = { world.keys with binding := some owner }) (log : after.log = world.log)
  | unbound (keys : after.keys = { world.keys with binding := none }) (log : after.log = world.log)
  | saved (owner : Owner) (record : Option ActivationRecord) (isSave : command = .save owner record)
      (owned : world.keys.binding = some owner)
      (keys : after.keys = { world.keys with stored := record.map Stored.readable })
      (log : after.log = .saved id record :: world.log)
  | submitted (operation : String) (isActivate : command = .activate operation false)
      (keys : after.keys = world.keys) (log : after.log = .submitted id operation :: world.log)
  | returned (outcome : ActivationOutcome) (isOutcome : command = .outcome)
      (keys : after.keys = world.keys) (log : after.log = .returned id outcome :: world.log)

section Effect

variable {uuid : Nat → String} {id : Nat} {world : World}

theorem over_effect {command : Command} {α : Type} {ran : α × World}
    (effect : Effect id command world ran.2) : Effect id command world (world.over ran).2 := by
  unfold World.over
  split
  · exact effect
  · exact .same rfl rfl
  · exact effect

theorem over_unchanged {α : Type} (answer : α) : (world.over (answer, world)).2 = world := by
  unfold World.over
  split <;> rfl

theorem serve_effect (command : Command) :
    Effect id command world (serve uuid id command world).2 := by
  cases command with
  | attach owner =>
      apply over_effect
      cases held : world.keys.binding with
      | none => exact .bound owner rfl (by simp [Keys.attach, held]) rfl
      | some other => exact .same (by simp [Keys.attach, held]) rfl
  | save owner record =>
      apply over_effect
      by_cases owned : world.keys.binding = some owner
      · exact .saved owner record rfl owned
          (by simp [Keys.save, owned]) (by simp [Keys.save, owned])
      · exact .same (by simp [Keys.save, owned]) (by simp [Keys.save, owned])
  | activate operation recoverOnly =>
      cases recoverOnly with
      | true => exact .same rfl rfl
      | false => exact .submitted operation rfl rfl rfl
  | outcome =>
      cases returned : world.environment.outcome with
      | none => exact .same rfl (by simp [serve, returned])
      | some outcome => exact .returned outcome rfl rfl (by simp [serve, returned])
  | detach owner =>
      apply over_effect
      by_cases owned : world.keys.binding = some owner
      · exact .unbound (by simp [Keys.detach, owned]) rfl
      · exact .same (by simp [Keys.detach, owned]) rfl
  | randomUUID => exact .same rfl rfl
  | clock => exact .same rfl rfl
  | backingOff => exact .same rfl rfl
  | aborted => exact .same rfl rfl
  | _ => exact over_effect (.same rfl rfl)

end Effect

/-! ## The invariant -/

section Invariant

variable (operationId : String → List String → Nat → String) (uuid : Nat → String)

/-- The operation id belongs to the attempt. -/
def Formed (record : ActivationRecord) : Prop :=
  ∃ runtimeId ids, record.operationId = operationId runtimeId ids record.attempt

/-- How the stored record and the log agree. -/
structure Recorded (world : World) : Prop where
  valid : Valid world.log
  formed : ∀ record, Stored.parse world.keys.stored = some record → Formed operationId record
  clear : ∀ operation, (∀ record, Stored.parse world.keys.stored = some record →
    record.operationId ≠ operation) → phase operation world.log = .clear
  pending : ∀ record, Stored.parse world.keys.stored = some record → record.state = .pending →
    phase record.operationId world.log = .clear ∨ phase record.operationId world.log = .pending

def Event.savedBy (id : Nat) : Event → Bool
  | .saved call _ => call = id
  | _ => false

/-- What was logged since the call's last save. -/
def sinceSaved (id : Nat) (log : List Event) : List Event :=
  log.takeWhile fun event => !event.savedBy id

/-- The phase of the operation while the call keeps the binding. -/
def Stands (id : Nat) (log : List Event) : Progress → Prop
  | .idle => True
  | .armed operation => phase operation log = .armed id .armed ∨ phase operation log = .clear
  | .submitted operation => phase operation log = .armed id .submitted ∨
      phase operation log = .clear
  | .deferred operation => phase operation log = .armed id .deferred ∨ phase operation log = .clear

/-- What a call knows is right while it keeps the binding, and a submission it is about
to make is the first one since its save. -/
structure Standing (world : World) (id : Nat) (call : Call Input Command Reply Unit) : Prop where
  drew : ∀ {drawn : String}, ⟨.randomUUID, some drawn⟩ ∈ call.past → drawn = uuid id
  formed : ∀ {record}, known call.past = some (some record) → Formed operationId record
  knows : Owns uuid world id → ∀ {record}, known call.past = some record →
    Stored.parse world.keys.stored = record ∨ world.keys.stored = none
  stands : Owns uuid world id → Stands id world.log (progress call.past)
  late : ∀ {operation}, progress call.past = .armed operation →
    phase operation world.log = .armed id .armed ∨
      phase operation world.log = .settled (some id) ∨
      ∃ event ∈ sinceSaved id world.log, event.ends operation = true

end Invariant

section Others

variable {operationId : String → List String → Nat → String} {uuid : Nat → String}
  {id other : Nat} {world after : World}

theorem sinceSaved_cons {event : Event} (foreign : event.savedBy id = false) (log : List Event) :
    sinceSaved id (event :: log) = event :: sinceSaved id log := by
  rw [sinceSaved, List.takeWhile_cons_of_pos (by simp [foreign])]
  rfl

theorem Phase.submit_foreign (different : other ≠ id) (stage : Stage) :
    (Phase.armed other stage).submit id = .armed other stage ∧
      (Phase.settled (some other)).submit id = .settled (some other) := by
  cases stage <;> simp [Phase.submit, different]

theorem Phase.defer_foreign (different : other ≠ id) (stage : Stage) :
    (Phase.armed other stage).defer id = .armed other stage ∧
      (Phase.settled (some other)).defer id = .settled (some other) := by
  cases stage <;> simp [Phase.defer, different]

/-- A submission or return of another call leaves the phases of a call. -/
theorem Phase.step_foreign (different : other ≠ id) (operation : String) {event : Event}
    (foreign : (∃ submitted, event = .submitted id submitted) ∨
      ∃ outcome, event = .returned id outcome) :
    (∀ stage, (Phase.armed other stage).step operation event = .armed other stage) ∧
      (Phase.settled (some other)).step operation event = .settled (some other) ∧
      Phase.clear.step operation event = .clear ∧
      Phase.pending.step operation event = .pending := by
  rcases foreign with ⟨submitted, rfl⟩ | ⟨outcome, rfl⟩
  · by_cases same : submitted = operation
    · refine ⟨fun stage => ?_, ?_, ?_, ?_⟩
      · simp [Phase.step, same, (Phase.submit_foreign different stage).1]
      · simp [Phase.step, same, (Phase.submit_foreign different .armed).2]
      · simp [Phase.step, same, Phase.submit]
      · simp [Phase.step, same, Phase.submit]
    · simp [Phase.step, same]
  · cases deferred : outcome.deferred with
    | true =>
        refine ⟨fun stage => ?_, ?_, ?_, ?_⟩
        · simp [Phase.step, deferred, (Phase.defer_foreign different stage).1]
        · simp [Phase.step, deferred, (Phase.defer_foreign different .armed).2]
        · simp [Phase.step, deferred, Phase.defer]
        · simp [Phase.step, deferred, Phase.defer]
    | false => simp [Phase.step, deferred]

theorem Stands.foreign {log : List Event} {state : Progress} (stands : Stands other log state)
    (different : other ≠ id) {event : Event}
    (foreign : (∃ submitted, event = .submitted id submitted) ∨
      ∃ outcome, event = .returned id outcome) : Stands other (event :: log) state := by
  have kept := fun operation => Phase.step_foreign different operation foreign
  cases state with
  | idle => trivial
  | armed operation =>
      rcases stands with armed | clear
      · exact Or.inl (by rw [phase_cons, armed, (kept operation).1])
      · exact Or.inr (by rw [phase_cons, clear, (kept operation).2.2.1])
  | submitted operation =>
      rcases stands with armed | clear
      · exact Or.inl (by rw [phase_cons, armed, (kept operation).1])
      · exact Or.inr (by rw [phase_cons, clear, (kept operation).2.2.1])
  | deferred operation =>
      rcases stands with armed | clear
      · exact Or.inl (by rw [phase_cons, armed, (kept operation).1])
      · exact Or.inr (by rw [phase_cons, clear, (kept operation).2.2.1])

/-- A save by another call leaves a call that is about to submit late, or ends its
operation. -/
theorem late_of_saved {record : Option ActivationRecord} {operation : String} {log : List Event}
    (rule : Rule log (.saved id record)) (different : other ≠ id)
    (late : phase operation log = .armed other .armed ∨
      phase operation log = .settled (some other) ∨
      ∃ event ∈ sinceSaved other log, event.ends operation = true) :
    phase operation (.saved id record :: log) = .armed other .armed ∨
      phase operation (.saved id record :: log) = .settled (some other) ∨
      ∃ event ∈ sinceSaved other (.saved id record :: log), event.ends operation = true := by
  have foreign : (Event.saved id record).savedBy other = false := by
    simpa [Event.savedBy] using different.symm
  rw [sinceSaved_cons foreign]
  by_cases isEnd : (Event.saved id record).ends operation = true
  · exact Or.inr (Or.inr ⟨_, List.mem_cons_self, isEnd⟩)
  · cases record with
    | none => exact absurd rfl isEnd
    | some record =>
        have same : record.operationId = operation := by simpa [Event.ends] using isEnd
        rw [phase_cons]
        rcases late with armed | settled | ⟨event, member, ended⟩
        · right; left
          cases state : record.state with
          | pending =>
              have earlier := rule state
              simp [same, armed, different] at earlier
          | _ => simp [Phase.step, same, state, armed, Phase.arm, Phase.settle]
        · right; left
          cases state : record.state with
          | pending =>
              have earlier := rule state
              simp [same, settled] at earlier
          | _ => simp [Phase.step, same, state, settled, Phase.arm, Phase.settle]
        · exact Or.inr (Or.inr ⟨event, List.mem_cons_of_mem _ member, ended⟩)

/-- The owner's token in a command is the call's own. -/
theorem Standing.token {call : Call Input Command Reply Unit}
    (standing : Standing operationId uuid world id call) {owner : Owner}
    (drawn : Drawn call.past owner) : owner.token = uuid id :=
  standing.drew drawn

/-- A submission or return of another call. -/
theorem Standing.quiet {call : Call Input Command Reply Unit}
    (standing : Standing operationId uuid world other call) (different : other ≠ id)
    {event : Event} (foreign : (∃ submitted, event = .submitted id submitted) ∨
      ∃ outcome, event = .returned id outcome)
    (keys : after.keys = world.keys) (log : after.log = event :: world.log) :
    Standing operationId uuid after other call := by
  have owns : Owns uuid after other → Owns uuid world other := by
    rw [Owns, Owns, keys]
    exact fun held => held
  refine ⟨standing.drew, standing.formed, fun held => ?_, fun held => ?_,
    fun {operation} armed => ?_⟩
  · rw [keys]
    exact standing.knows (owns held)
  · rw [log]
    exact (standing.stands (owns held)).foreign different foreign
  · have notSaved : event.savedBy other = false := by
      rcases foreign with ⟨submitted, rfl⟩ | ⟨outcome, rfl⟩ <;> rfl
    rw [log, sinceSaved_cons notSaved, phase_cons]
    have kept := Phase.step_foreign different operation foreign
    rcases standing.late armed with isArmed | settled | ⟨ended, member, ends⟩
    · exact Or.inl (by rw [isArmed, kept.1])
    · exact Or.inr (Or.inl (by rw [settled, kept.2.1]))
    · exact Or.inr (Or.inr ⟨ended, List.mem_cons_of_mem _ member, ends⟩)

/-- A step of another call. -/
theorem Standing.foreign (injective : Function.Injective uuid) {command : Command}
    {call : Call Input Command Reply Unit}
    (standing : Standing operationId uuid world other call) (different : other ≠ id)
    (effect : Effect id command world after)
    (token : ∀ owner record, command = .attach owner ∨ command = .save owner record →
      owner.token = uuid id) (valid : Valid after.log) :
    Standing operationId uuid after other call := by
  have notOwner : ∀ {owner : Owner}, after.keys.binding = some owner → owner.token = uuid id →
      ¬Owns uuid after other := by
    intro owner bound own owns
    rcases owns with ⟨holder, held, isOther⟩
    have same : holder = owner := Option.some.inj (held.symm.trans bound)
    exact different (injective (isOther.symm.trans (same ▸ own)))
  cases effect with
  | same keys log =>
      refine ⟨standing.drew, standing.formed, ?_, ?_, ?_⟩
      · rw [Owns, keys]
        exact standing.knows
      · rw [Owns, keys, log]
        exact standing.stands
      · rw [log]
        exact standing.late
  | bound owner isAttach keys log =>
      have lost := notOwner (by rw [keys]) (token owner none (Or.inl isAttach))
      refine ⟨standing.drew, standing.formed, fun held => absurd held lost,
        fun held => absurd held lost, ?_⟩
      rw [log]
      exact standing.late
  | unbound keys log =>
      have lost : ¬Owns uuid after other := by
        rw [Owns, keys]
        simp
      refine ⟨standing.drew, standing.formed, fun held => absurd held lost,
        fun held => absurd held lost, ?_⟩
      rw [log]
      exact standing.late
  | saved owner record isSave owned keys log =>
      have lost := notOwner (by rw [keys]; exact owned) (token owner record (Or.inr isSave))
      refine ⟨standing.drew, standing.formed, fun held => absurd held lost,
        fun held => absurd held lost, fun armed => ?_⟩
      rw [log] at valid ⊢
      exact late_of_saved valid.1 different (standing.late armed)
  | submitted operation isActivate keys log =>
      exact standing.quiet different (Or.inl ⟨operation, rfl⟩) keys log
  | returned outcome isOutcome keys log =>
      exact standing.quiet different (Or.inr ⟨outcome, rfl⟩) keys log

end Others

/-! ## A call's own command -/

/-- A submission is made while the record it was saved for has not been deleted or
replaced since. -/
def SubmitsFresh : Condition World Input Command Reply Unit := fun world id _ command =>
  ∀ operation, command = .activate operation false →
    ∀ event ∈ sinceSaved id world.log, event.ends operation = false

/-- Operation ids of different attempts differ. -/
def Apart (operationId : String → List String → Nat → String) : Prop :=
  ∀ runtimeId ids attempt otherRuntime otherIds otherAttempt,
    operationId runtimeId ids attempt = operationId otherRuntime otherIds otherAttempt →
      attempt = otherAttempt

section Own

variable {operationId : String → List String → Nat → String} {uuid : Nat → String}
  {id : Nat} {world : World} {input : Input} {past : Past} {rest : Program Command Reply Unit}

theorem Formed.operationId_ne (apart : Apart operationId) {record last : ActivationRecord}
    (formed : Formed operationId record) (lastFormed : Formed operationId last)
    (next : record.attempt = last.attempt + 1) : last.operationId ≠ record.operationId := by
  rcases formed with ⟨runtimeId, ids, isRecord⟩
  rcases lastFormed with ⟨lastRuntime, lastIds, isLast⟩
  intro same
  have attempts := apart _ _ _ _ _ _ (isLast.symm.trans (same.trans isRecord))
  omega

/-- The saves that the code makes keep the rules of the log. -/
theorem rule_of_save (apart : Apart operationId) (recorded : Recorded operationId world)
    (standing : Standing operationId uuid world id ⟨input, past, rest⟩) (owns : Owns uuid world id)
    {record : ActivationRecord}
    (asks : Created operationId past record ∨ Kept past record) :
    Rule world.log (.saved id (some record)) ∧ Formed operationId record := by
  have absent : world.keys.stored = none → ∀ operation, phase operation world.log = .clear := by
    intro none operation
    apply recorded.clear
    intro other parsed
    rw [none] at parsed
    cases parsed
  rcases asks with
    ⟨isNew, formed, first | ⟨last, knows, next⟩⟩ | ⟨last, knows, sameId, sameAttempt, defers⟩
  · refine ⟨fun _ => Or.inl ?_, formed⟩
    rcases standing.knows owns first with parsed | none
    · apply recorded.clear
      intro other found
      cases parsed.symm.trans found
    · exact absent none _
  · refine ⟨fun _ => Or.inl ?_, formed⟩
    rcases standing.knows owns knows with parsed | none
    · apply recorded.clear
      intro other found
      have same : last = other := Option.some.inj (parsed.symm.trans found)
      subst same
      exact Formed.operationId_ne apart formed (recorded.formed last parsed) next
    · exact absent none _
  · refine ⟨fun isPending => ?_, ?_⟩
    · have stands := standing.stands owns
      dsimp only at stands
      rw [defers isPending] at stands
      rcases stands with deferred | clear
      · exact Or.inr (Or.inr deferred)
      · exact Or.inl clear
    · rcases standing.formed knows with ⟨runtimeId, ids, isLast⟩
      exact ⟨runtimeId, ids, by rw [sameId, sameAttempt, isLast]⟩

/-- A submission or return changes no phase that matters for the stored record. -/
theorem phase_clear_step {operation : String} {event : Event} {log : List Event}
    (quiet : (∃ call submitted, event = .submitted call submitted) ∨
      ∃ call outcome, event = .returned call outcome) :
    (phase operation log = .clear → phase operation (event :: log) = .clear) ∧
      (phase operation log = .pending → phase operation (event :: log) = .pending) := by
  rw [phase_cons]
  rcases quiet with ⟨call, submitted, rfl⟩ | ⟨call, outcome, rfl⟩
  · by_cases same : submitted = operation <;>
      constructor <;> intro before <;> simp [before, Phase.step, same, Phase.submit]
  · cases deferred : outcome.deferred <;>
      constructor <;> intro before <;> simp [before, Phase.step, deferred, Phase.defer]

theorem Recorded.quiet (recorded : Recorded operationId world) {after : World} {event : Event}
    (keys : after.keys = world.keys) (log : after.log = event :: world.log)
    (rule : Rule world.log event)
    (quiet : (∃ call submitted, event = .submitted call submitted) ∨
      ∃ call outcome, event = .returned call outcome) : Recorded operationId after := by
  refine ⟨?_, ?_, ?_, ?_⟩
  · rw [log]
    exact ⟨rule, recorded.valid⟩
  · rw [keys]
    exact recorded.formed
  · rw [keys, log]
    exact fun operation other => (phase_clear_step quiet).1 (recorded.clear operation other)
  · rw [keys, log]
    exact fun record parsed isPending =>
      (recorded.pending record parsed isPending).imp (phase_clear_step quiet).1
        (phase_clear_step quiet).2

theorem Recorded.saved (recorded : Recorded operationId world) {after : World}
    {record : Option ActivationRecord}
    (keys : after.keys = { world.keys with stored := record.map Stored.readable })
    (log : after.log = .saved id record :: world.log)
    (rule : Rule world.log (.saved id record))
    (formed : ∀ saved ∈ record, Formed operationId saved) :
    Recorded operationId after := by
  have parsed : Stored.parse after.keys.stored = record := by
    rw [keys]
    cases record <;> rfl
  refine ⟨?_, ?_, ?_, ?_⟩
  · rw [log]
    exact ⟨rule, recorded.valid⟩
  · rw [parsed]
    exact formed
  · rw [parsed, log]
    intro operation other
    cases record with
    | none => rfl
    | some record => simp [Phase.step, other record rfl]
  · rw [parsed, log]
    intro saved isSaved isPending
    subst isSaved
    exact Or.inr (by simp [Phase.step, isPending])

theorem Recorded.served (apart : Apart operationId) (recorded : Recorded operationId world)
    {command : Command} (standing : Standing operationId uuid world id ⟨input, past, rest⟩)
    (asks : Asks operationId past command)
    (fresh : ∀ operation, command = .activate operation false →
      ∀ event ∈ sinceSaved id world.log, event.ends operation = false) :
    Recorded operationId (serve uuid id command world).2 := by
  cases @serve_effect uuid id world command with
  | same keys log =>
      exact ⟨by rw [log]; exact recorded.valid, by rw [keys]; exact recorded.formed,
        by rw [keys, log]; exact recorded.clear, by rw [keys, log]; exact recorded.pending⟩
  | bound owner isAttach keys log =>
      exact ⟨by rw [log]; exact recorded.valid, by rw [keys]; exact recorded.formed,
        by rw [keys, log]; exact recorded.clear, by rw [keys, log]; exact recorded.pending⟩
  | unbound keys log =>
      exact ⟨by rw [log]; exact recorded.valid, by rw [keys]; exact recorded.formed,
        by rw [keys, log]; exact recorded.clear, by rw [keys, log]; exact recorded.pending⟩
  | saved owner record isSave owned keys log =>
      subst isSave
      have owns : Owns uuid world id := ⟨owner, owned, standing.token asks.1⟩
      have rules : ∀ saved ∈ record, Rule world.log (.saved id (some saved)) ∧
          Formed operationId saved :=
        fun saved isSaved => rule_of_save apart recorded standing owns (asks.2 saved isSaved)
      apply recorded.saved keys log
      · cases record with
        | none => trivial
        | some record => exact (rules record rfl).1
      · exact fun saved isSaved => (rules saved isSaved).2
  | submitted operation isActivate keys log =>
      subst isActivate
      apply recorded.quiet keys log ?_ (Or.inl ⟨id, operation, rfl⟩)
      rcases standing.late asks with armed | settled | ⟨event, member, ended⟩
      · exact Or.inl armed
      · exact Or.inr settled
      · rw [fresh operation rfl event member] at ended
        cases ended
  | returned outcome isOutcome keys log =>
      exact recorded.quiet keys log trivial (Or.inr ⟨id, outcome, rfl⟩)

/-- A command that leaves the keys, the log and what the call knows. -/
theorem Standing.silent {after : World} {call : Call Input Command Reply Unit}
    (standing : Standing operationId uuid world id ⟨input, past, rest⟩)
    (keys : after.keys = world.keys) (log : after.log = world.log)
    (drew : ∀ {drawn : String}, ⟨.randomUUID, some drawn⟩ ∈ call.past → drawn = uuid id)
    (sameKnown : known call.past = known past) (sameProgress : progress call.past = progress past) :
    Standing operationId uuid after id call where
  drew := drew
  formed := by
    rw [sameKnown]
    exact standing.formed
  knows := by
    rw [sameKnown, Owns, keys]
    exact standing.knows
  stands := by
    rw [sameProgress, Owns, keys, log]
    exact standing.stands
  late := by
    rw [sameProgress, log]
    exact standing.late

/-- A call that knows nothing of the record. -/
theorem Standing.ignorant {after : World} {call : Call Input Command Reply Unit}
    (drew : ∀ {drawn : String}, ⟨.randomUUID, some drawn⟩ ∈ call.past → drawn = uuid id)
    (unknown : known call.past = none) (idle : progress call.past = .idle) :
    Standing operationId uuid after id call where
  drew := drew
  formed found := by
    rw [unknown] at found
    cases found
  knows _ _ found := by
    rw [unknown] at found
    cases found
  stands _ := by
    rw [idle]
    trivial
  late armed := by
    rw [idle] at armed
    cases armed

/-- The only token that a call draws is its own. -/
theorem drew_cons (drew : ∀ {drawn : String}, ⟨.randomUUID, some drawn⟩ ∈ past → drawn = uuid id)
    {command : Command} {drawn : String}
    (member : (⟨.randomUUID, some drawn⟩ : Exchange Command Reply) ∈
      ⟨command, (serve uuid id command world).1⟩ :: past) : drawn = uuid id := by
  rcases List.mem_cons.mp member with head | earlier
  · have same : Command.randomUUID = command := congrArg Sigma.fst head
    subst same
    exact Option.some.inj (eq_of_heq (Sigma.mk.inj head).2)
  · exact drew earlier

/-- The phase after a save that arms a submission. -/
theorem phase_of_arming (recorded : Recorded operationId world)
    (standing : Standing operationId uuid world id ⟨input, past, rest⟩) (owns : Owns uuid world id)
    {record : ActivationRecord} (submitting : record.state = .submitting)
    (wasPending : isPending record.operationId (known past) = true) :
    phase record.operationId (.saved id (some record) :: world.log) = .armed id .armed := by
  rw [phase_cons]
  have before : phase record.operationId world.log = .clear ∨
      phase record.operationId world.log = .pending := by
    rcases knows : known past with _ | _ | last
    · rw [knows] at wasPending
      cases wasPending
    · rw [knows] at wasPending
      cases wasPending
    · rw [knows] at wasPending
      simp only [isPending, Bool.and_eq_true, decide_eq_true_eq] at wasPending
      rcases standing.knows owns knows with parsed | absent
      · rw [← wasPending.2]
        exact recorded.pending last parsed wasPending.1
      · left
        apply recorded.clear
        intro other found
        rw [absent] at found
        cases found
  rcases before with clear | pending
  · simp [Phase.step, submitting, clear, Phase.arm]
  · simp [Phase.step, submitting, pending, Phase.arm]

theorem Standing.save (recorded : Recorded operationId world) {owner : Owner}
    {record : Option ActivationRecord} {next : Program Command Reply Unit}
    (standing : Standing operationId uuid world id ⟨input, past, rest⟩)
    (asks : Asks operationId past (.save owner record))
    (formed : ∀ saved ∈ record, Formed operationId saved) :
    Standing operationId uuid (serve uuid id (.save owner record) world).2 id
      ⟨input, ⟨.save owner record, (serve uuid id (.save owner record) world).1⟩ :: past,
        next⟩ := by
  have drew := fun {drawn} => @drew_cons uuid id world past standing.drew
    (.save owner record) drawn
  by_cases applied : world.keys.binding = some owner ∧ world.environment.link = .up
  · rcases applied with ⟨owned, up⟩
    have owns : Owns uuid world id := ⟨owner, owned, standing.token asks.1⟩
    have ran : serve uuid id (.save owner record) world = (some true,
        { world with
          keys := { world.keys with stored := record.map Stored.readable }
          log := .saved id record :: world.log }) := by
      simp [serve, Keys.save, owned, World.over, up]
    rw [ran] at drew ⊢
    have armed : ∀ operation, progress (⟨.save owner record, some true⟩ :: past) =
        .armed operation → phase operation (.saved id record :: world.log) = .armed id .armed := by
      intro operation isArmed
      cases record with
      | none => cases isArmed
      | some record =>
          simp only [progress] at isArmed
          split at isArmed
          · next arms =>
              rw [Bool.and_eq_true, decide_eq_true_eq] at arms
              rw [← Progress.armed.inj isArmed]
              exact phase_of_arming recorded standing owns arms.1 arms.2
          · cases isArmed
    have notElse : ∀ operation, progress (⟨.save owner record, some true⟩ :: past) ≠
        .submitted operation ∧ progress (⟨.save owner record, some true⟩ :: past) ≠
        .deferred operation := by
      intro operation
      cases record with
      | none => simp [progress]
      | some record =>
          simp only [progress]
          split <;> simp
    refine ⟨drew, fun found => ?_, fun _ _ found => ?_, fun _ => ?_,
      fun isArmed => Or.inl (armed _ isArmed)⟩
    · exact formed _ (Option.some.inj found)
    · left
      rw [← Option.some.inj found]
      cases record <;> rfl
    · dsimp only
      cases isProgress : progress (⟨.save owner record, some true⟩ :: past) with
      | idle => trivial
      | armed operation => exact Or.inl (armed operation isProgress)
      | submitted operation => exact absurd isProgress (notElse operation).1
      | deferred operation => exact absurd isProgress (notElse operation).2
  · -- the reply is no success, so nothing is known
    have refused : (serve uuid id (.save owner record) world).1 ≠ some true := by
      intro succeeded
      apply applied
      by_cases owned : world.keys.binding = some owner
      · refine ⟨owned, ?_⟩
        cases up : world.environment.link with
        | up => rfl
        | down => simp [serve, World.over, up] at succeeded
        | lost => simp [serve, World.over, up] at succeeded
      · cases up : world.environment.link <;>
          simp [serve, Keys.save, owned, World.over, up] at succeeded
    have forgets : ∀ reply : Reply (.save owner record), reply ≠ some true →
        known (⟨.save owner record, reply⟩ :: past) = none ∧
          progress (⟨.save owner record, reply⟩ :: past) = .idle := by
      intro reply other
      cases reply with
      | none => exact ⟨rfl, by cases record <;> rfl⟩
      | some saved =>
          cases saved with
          | true => exact absurd rfl other
          | false => exact ⟨rfl, by cases record <;> rfl⟩
    rcases forgets _ refused with ⟨unknown, idle⟩
    exact Standing.ignorant drew unknown idle

theorem Standing.activate {operation : String} {next : Program Command Reply Unit}
    (standing : Standing operationId uuid world id ⟨input, past, rest⟩)
    (asks : Asks operationId past (.activate operation false)) :
    Standing operationId uuid (serve uuid id (.activate operation false) world).2 id
      ⟨input, ⟨.activate operation false, some ()⟩ :: past, next⟩ := by
  have armed : progress past = .armed operation := asks
  have submitted : progress (⟨.activate operation false, some ()⟩ :: past) =
      .submitted operation := by
    simp [progress, armed]
  refine ⟨?_, standing.formed, standing.knows, fun owns => ?_, fun isArmed => ?_⟩
  · exact fun member => @drew_cons uuid id world past standing.drew _ _ member
  · dsimp only
    rw [submitted]
    have stands := standing.stands owns
    dsimp only at stands
    rw [armed] at stands
    rcases stands with isArmed | clear
    · left
      simp [serve, isArmed, Phase.step, Phase.submit]
    · right
      simp [serve, clear, Phase.step, Phase.submit]
  · dsimp only at isArmed
    rw [submitted] at isArmed
    cases isArmed

theorem progress_outcome (past : Past) (outcome : ActivationOutcome) :
    progress (⟨.outcome, some outcome⟩ :: past) =
      match progress past with
      | .submitted operation =>
          if outcome.deferred then .deferred operation else .submitted operation
      | other => other := rfl

theorem Standing.outcome {outcome : ActivationOutcome} {next : Program Command Reply Unit}
    (standing : Standing operationId uuid world id ⟨input, past, rest⟩) {after : World}
    (keys : after.keys = world.keys) (log : after.log = .returned id outcome :: world.log) :
    Standing operationId uuid after id ⟨input, ⟨.outcome, some outcome⟩ :: past, next⟩ := by
  have owns : Owns uuid after id → Owns uuid world id := by
    rw [Owns, Owns, keys]
    exact fun held => held
  have notSaved : (Event.returned id outcome).savedBy id = false := rfl
  refine ⟨?_, standing.formed, fun held => ?_, fun held => ?_, fun {operation} isArmed => ?_⟩
  · intro drawn member
    rcases List.mem_cons.mp member with head | earlier
    · cases congrArg Sigma.fst head
    · exact standing.drew earlier
  · rw [keys]
    exact standing.knows (owns held)
  · have stands := standing.stands (owns held)
    dsimp only at stands ⊢
    rw [progress_outcome, log]
    cases isProgress : progress past with
    | idle => trivial
    | armed operation =>
        rw [isProgress] at stands
        rcases stands with isArmed | clear
        · left
          cases deferred : outcome.deferred <;> simp [isArmed, Phase.step, deferred, Phase.defer]
        · right
          cases deferred : outcome.deferred <;> simp [clear, Phase.step, deferred, Phase.defer]
    | submitted operation =>
        rw [isProgress] at stands
        dsimp only
        split
        · next deferred =>
            rcases stands with submitted | clear
            · left
              simp [submitted, Phase.step, deferred, Phase.defer]
            · right
              simp [clear, Phase.step, deferred, Phase.defer]
        · next other =>
            rcases stands with submitted | clear
            · left
              simp [submitted, Phase.step, other]
            · right
              simp [clear, Phase.step, other]
    | deferred operation =>
        rw [isProgress] at stands
        rcases stands with isDeferred | clear
        · left
          cases deferred : outcome.deferred <;> simp [isDeferred, Phase.step, deferred, Phase.defer]
        · right
          cases deferred : outcome.deferred <;> simp [clear, Phase.step, deferred, Phase.defer]
  · have before : progress past = .armed operation := by
      dsimp only at isArmed
      rw [progress_outcome] at isArmed
      cases isProgress : progress past with
      | submitted operation =>
          rw [isProgress] at isArmed
          dsimp only at isArmed
          split at isArmed <;> cases isArmed
      | _ =>
          rw [isProgress] at isArmed
          exact isArmed
    rw [log, sinceSaved_cons notSaved, phase_cons]
    rcases standing.late before with armed | settled | ⟨event, member, ended⟩
    · left
      cases deferred : outcome.deferred <;> simp [armed, Phase.step, deferred, Phase.defer]
    · right; left
      cases deferred : outcome.deferred <;> simp [settled, Phase.step, deferred, Phase.defer]
    · exact Or.inr (Or.inr ⟨event, List.mem_cons_of_mem _ member, ended⟩)

/-- The commands that only read over the link. -/
theorem over_same {α : Type} (value : α) :
    (world.over (value, world)).2.keys = world.keys ∧
      (world.over (value, world)).2.log = world.log := by
  rw [over_unchanged]
  exact ⟨rfl, rfl⟩

theorem Standing.served {command : Command}
    {next : Reply command → Program Command Reply Unit} (recorded : Recorded operationId world)
    (standing : Standing operationId uuid world id ⟨input, past, .call command next⟩)
    (asks : Asks operationId past command) :
    Standing operationId uuid (serve uuid id command world).2 id
      ⟨input, ⟨command, (serve uuid id command world).1⟩ :: past,
        next (serve uuid id command world).1⟩ := by
  have drew := fun {drawn} => @drew_cons uuid id world past standing.drew command drawn
  cases command with
  | randomUUID => exact standing.silent rfl rfl drew rfl rfl
  | attach owner =>
      apply Standing.ignorant drew
      · dsimp only
        rw [show past = [⟨.randomUUID, some owner.token⟩] from asks]
        rfl
      · dsimp only
        rw [show past = [⟨.randomUUID, some owner.token⟩] from asks]
        rfl
  | refresh owner => exact standing.silent (over_same _).1 (over_same _).2 drew rfl rfl
  | recoverExpired => exact standing.silent (over_same _).1 (over_same _).2 drew rfl rfl
  | pending => exact standing.silent (over_same _).1 (over_same _).2 drew rfl rfl
  | current =>
      cases link : world.environment.link with
      | up =>
          have ran : serve uuid id .current world =
            (some (Stored.parse world.keys.stored), world) := by
            simp [serve, World.over, link]
          rw [ran] at drew ⊢
          refine ⟨drew, fun found => ?_, fun _ _ found => ?_, fun _ => trivial, fun isArmed => ?_⟩
          · exact recorded.formed _ (Option.some.inj found)
          · exact Or.inl (Option.some.inj found)
          · cases isArmed
      | down =>
          have ran : (serve uuid id .current world).1 = none := by
            simp [serve, World.over, link]
          rw [ran] at drew ⊢
          exact Standing.ignorant drew rfl rfl
      | lost =>
          have ran : (serve uuid id .current world).1 = none := by
            simp [serve, World.over, link]
          rw [ran] at drew ⊢
          exact Standing.ignorant drew rfl rfl
  | save owner record =>
      apply standing.save recorded asks
      intro saved isSaved
      rcases asks.2 saved isSaved with ⟨-, formed, -⟩ | ⟨last, knows, sameId, sameAttempt, -⟩
      · exact formed
      · rcases standing.formed knows with ⟨runtimeId, ids, isLast⟩
        exact ⟨runtimeId, ids, by rw [sameId, sameAttempt, isLast]⟩
  | zcard => exact standing.silent (over_same _).1 (over_same _).2 drew rfl rfl
  | clock => exact standing.silent rfl rfl drew rfl rfl
  | backingOff => exact standing.silent rfl rfl drew rfl rfl
  | trace => exact standing.silent (over_same _).1 (over_same _).2 drew rfl rfl
  | activate operation recoverOnly =>
      cases recoverOnly with
      | true => exact standing.silent rfl rfl drew rfl rfl
      | false => exact standing.activate asks
  | outcome =>
      cases returned : world.environment.outcome with
      | none =>
          have ran : serve uuid id .outcome world = (none, world) := by
            simp [serve, returned]
          rw [ran] at drew ⊢
          exact standing.silent rfl rfl drew rfl rfl
      | some outcome =>
          have ran : serve uuid id .outcome world = (some outcome,
              { world with log := .returned id outcome :: world.log }) := by
            simp [serve, returned]
          rw [ran]
          exact standing.outcome rfl rfl
  | aborted => exact standing.silent rfl rfl drew rfl rfl
  | wait => exact standing.silent (over_same _).1 (over_same _).2 drew rfl rfl
  | detach owner =>
      cases @serve_effect uuid id world (.detach owner) with
      | same keys log => exact standing.silent keys log drew rfl rfl
      | unbound keys log =>
          have lost : ¬Owns uuid (serve uuid id (.detach owner) world).2 id := by
            rw [Owns, keys]
            simp
          refine ⟨drew, standing.formed, fun held => absurd held lost, fun held => absurd held lost,
            ?_⟩
          rw [log]
          exact standing.late
      | bound _ isAttach => cases isAttach
      | saved _ _ isSave => cases isSave
      | submitted _ isActivate => cases isActivate
      | returned _ isOutcome => cases isOutcome

end Own

/-! ## Runs -/

/-- The operation is submitted at most once from a save of its record as submitting to
the end of the record, except after a deferral that saved it as pending again. -/
def SubmitsOnce (log : List Event) : Prop :=
  ∀ latest second operation middle first inner saver record earliest,
    log = latest ++ .submitted second operation ::
      (middle ++ .submitted first operation :: (inner ++ .saved saver (some record) :: earliest)) →
    record.operationId = operation → record.state = .submitting →
    (∀ event ∈ middle ++ inner, event.ends operation = false) →
    Deferred middle first operation

/-- Nothing was done yet. -/
structure Initial (operationId : String → List String → Nat → String) (world : World) : Prop where
  log : world.log = []
  formed : ∀ record, Stored.parse world.keys.stored = some record → Formed operationId record

section Runs

variable {operationId : String → List String → Nat → String} {uuid : Nat → String}
  {system : DispatcherSystem}

theorem Valid.of_append (newer : List Event) {log : List Event} (valid : Valid (newer ++ log)) :
    Valid log := by
  induction newer with
  | nil => exact valid
  | cons event newer induction => exact induction valid.2

theorem submitsOnce_of_valid {log : List Event} (valid : Valid log) : SubmitsOnce log := by
  intro latest second operation middle first inner saver record earliest split sameId submitting
    stays
  rw [split] at valid
  rcases valid.of_append latest with ⟨rule, before⟩
  have after := phase_after_submission middle before fun event member =>
    stays event (List.mem_append_left _ member)
  rcases after with submitted | settled | ⟨deferred, -⟩ | done
  · rcases rule with armed | late
    · cases submitted.symm.trans armed
    · cases submitted.symm.trans late
  · rcases rule with armed | late
    · cases settled.symm.trans armed
    · cases settled.symm.trans late
  · rcases rule with armed | late
    · cases deferred.symm.trans armed
    · cases deferred.symm.trans late
  · exact done

theorem Recorded.moved {world after : World} (recorded : Recorded operationId world)
    (moves : Moves world after) : Recorded operationId after := by
  cases moves with
  | unbound => exact ⟨recorded.valid, recorded.formed, recorded.clear, recorded.pending⟩
  | changed environment => exact ⟨recorded.valid, recorded.formed, recorded.clear, recorded.pending⟩
  | lapsed =>
      refine ⟨⟨trivial, recorded.valid⟩, fun record parsed => ?_, fun operation _ => rfl,
        fun record parsed => ?_⟩
      · cases parsed
      · cases parsed

theorem Standing.moved {world after : World} {id : Nat} {call : Call Input Command Reply Unit}
    (standing : Standing operationId uuid world id call) (moves : Moves world after) :
    Standing operationId uuid after id call := by
  cases moves with
  | unbound =>
      have lost : ∀ keys : Keys,
          ¬Owns uuid { world with keys := { keys with binding := none } } id := by
        intro keys held
        rcases held with ⟨owner, bound, -⟩
        cases bound
      exact ⟨standing.drew, standing.formed, fun held => absurd held (lost _),
        fun held => absurd held (lost _), standing.late⟩
  | changed environment =>
      exact ⟨standing.drew, standing.formed, standing.knows, standing.stands, standing.late⟩
  | lapsed =>
      refine ⟨standing.drew, standing.formed, fun _ _ _ => Or.inr rfl, fun _ => ?_, fun _ => ?_⟩
      · cases isProgress : progress call.past with
        | idle => trivial
        | armed operation => exact Or.inr rfl
        | submitted operation => exact Or.inr rfl
        | deferred operation => exact Or.inr rfl
      · right; right
        rw [sinceSaved_cons rfl]
        exact ⟨.lapsed, List.mem_cons_self, rfl⟩

theorem preserves_standing (apart : Apart operationId) (injective : Function.Injective uuid) :
    Protocol.Preserves (dispatcherProtocol uuid operationId)
      (fun world id call command => SubmitsFresh world id call command ∧
        Asks operationId call.past command)
      (Recorded operationId) (Standing operationId uuid) (fun _ _ => True) where
  opened {world id input} _ _ _ :=
    Standing.ignorant (fun member => absurd member List.not_mem_nil) rfl rfl
  served {world id input past command next} recorded standing meets := by
    have recordedAfter := recorded.served apart standing meets.2 meets.1
    refine ⟨recordedAfter, standing.served recorded meets.2, fun other different =>
      ⟨fun call kept => ?_, fun _ => trivial⟩⟩
    apply kept.foreign injective different (serve_effect command) ?_ recordedAfter.valid
    intro owner record uses
    rcases uses with isAttach | isSave
    · subst isAttach
      have drawn : past = [⟨.randomUUID, some owner.token⟩] := meets.2
      apply standing.drew
      rw [drawn]
      exact List.mem_singleton_self _
    · subst isSave
      exact standing.drew meets.2.1
  moved {world after} recorded moves :=
    ⟨recorded.moved moves, fun _ => ⟨fun _ kept => kept.moved moves, fun _ => trivial⟩⟩

theorem submitsOnce_of_reachable (apart : Apart operationId) (injective : Function.Injective uuid)
    (reached : (dispatcherProtocol uuid operationId).Reachable SubmitsFresh
      (Initial operationId) system) : SubmitsOnce system.world.log := by
  have holds := (reached.asking (follows_program operationId)).invariant
    (fun world initial => ⟨⟨by rw [initial.log]; trivial, initial.formed,
      fun _ _ => by rw [initial.log]; rfl, fun _ _ _ => Or.inl (by rw [initial.log]; rfl)⟩,
      fun _ => trivial⟩) (preserves_standing apart injective)
  exact submitsOnce_of_valid holds.shared.valid

/-- Every run. -/
def anyStep : Condition World Input Command Reply Unit := fun _ _ _ _ => True

/-- The tokens of a call are its own, in every run. -/
theorem drew_of_reachable
    {condition : Condition World Input Command Reply Unit} {begins : World → Prop}
    (reached : (dispatcherProtocol uuid operationId).Reachable condition begins system) {id : Nat}
    {call : Call Input Command Reply Unit}
    (running : system.calls id = some call) {drawn : String}
    (member : ⟨.randomUUID, some drawn⟩ ∈ call.past) : drawn = uuid id := by
  have preserves : Protocol.Preserves (dispatcherProtocol uuid operationId) condition
      (fun _ => True) (fun _ id call => ∀ drawn : String,
        ⟨.randomUUID, some drawn⟩ ∈ call.past → drawn = uuid id) (fun _ _ => True) :=
    { opened := fun _ _ _ _ member => absurd member List.not_mem_nil
      served := by
        intro world id input past command next _ drew _
        refine ⟨trivial, fun drawn member => ?_, fun _ _ => ⟨fun _ kept => kept, fun _ => trivial⟩⟩
        exact drew_cons (fun {earlier} => drew earlier) member
      moved := fun _ _ => ⟨trivial, fun _ => ⟨fun _ kept => kept, fun _ => trivial⟩⟩ }
  exact (reached.invariant (fun _ _ => ⟨trivial, fun _ => trivial⟩) preserves).own id call running
    drawn member

end Runs

/-- An operation is submitted at most once while its record stays, except after a
deferral, if every submission is made before the record it was saved for is deleted or
replaced. A dispatcher without the binding never changes the record. -/
theorem dispatcher_submits_once (operationId : String → List String → Nat → String)
    (uuid : Nat → String) (apart : Apart operationId) (injective : Function.Injective uuid) :
    (∀ system, (dispatcherProtocol uuid operationId).Reachable SubmitsFresh
      (Initial operationId) system → SubmitsOnce system.world.log) ∧
    ∀ system, (dispatcherProtocol uuid operationId).Reachable anyStep
      (Initial operationId) system → ∀ id input past command next,
      system.calls id = some ⟨input, past, .call command next⟩ → ¬Owns uuid system.world id →
      (serve uuid id command system.world).2.keys.stored = system.world.keys.stored := by
  refine ⟨fun system reached => submitsOnce_of_reachable apart injective reached, ?_⟩
  intro system reached id input past command next running unowned
  have asks := (reached.follows (follows_program operationId) id _ running).1
  cases @serve_effect uuid id system.world command with
  | saved owner record isSave owned keys log =>
      subst isSave
      exact absurd ⟨owner, owned, drew_of_reachable reached running asks.1⟩ unowned
  | same keys log => rw [keys]
  | bound owner isAttach keys log => rw [keys]
  | unbound keys log => rw [keys]
  | submitted operation isActivate keys log => rw [keys]
  | returned outcome isOutcome keys log => rw [keys]

/-! ## A late submission -/

section Schedules

/-- An operation id that ends with its attempt. -/
def sampleOperationId (runtimeId : String) (ids : List String) (attempt : Nat) : String :=
  (runtimeId ++ String.join ids) ++ ":" ++ unary attempt

theorem sampleOperationId_apart : Apart sampleOperationId := by
  intro runtimeId ids attempt otherRuntime otherIds otherAttempt same
  have plain : ∀ count, ':' ∉ (unary count).toList := by
    intro count
    simp [unary]
  exact unary_injective (join_inj (plain attempt) (plain otherAttempt) same).2

abbrev sampleProtocol := dispatcherProtocol unary sampleOperationId

/-- One message is pending and the runtime is busy. -/
def sampleEnvironment : Environment where
  link := .up
  recovered := true
  pending := ["m"]
  claimed := 0
  clock := "t"
  backingOff := false
  outcome := some .busy
  aborted := false

def sampleWorld : World := ⟨⟨none, none⟩, sampleEnvironment, []⟩

theorem sampleWorld_initial : Initial sampleOperationId sampleWorld where
  log := rfl
  formed _ parsed := by cases parsed

def advances (system : DispatcherSystem) (id count : Nat) : DispatcherSystem :=
  (fun before => sampleProtocol.advance before id)^[count] system

/-- The pending messages change. -/
def withPending (system : DispatcherSystem) (pending : List String) : DispatcherSystem :=
  { system with world := { system.world with
      environment := { system.world.environment with pending } } }

/-- The binding key expires. -/
def unbind (system : DispatcherSystem) : DispatcherSystem :=
  { system with world := { system.world with keys := { system.world.keys with binding := none } } }

/-- A dispatcher has saved the record as submitting and is about to submit. -/
def aboutToSubmit : DispatcherSystem :=
  advances (sampleProtocol.start ⟨sampleWorld, fun _ => none⟩ 1 ⟨"r", 3, 2⟩) 1 14

/-- Its binding expires. A second dispatcher of the same runtime deletes the record while
the message is claimed. -/
def deletedRecord : DispatcherSystem :=
  advances (sampleProtocol.start (withPending (unbind aboutToSubmit) []) 2 ⟨"r", 3, 2⟩) 2 10

/-- The message is pending again, the second dispatcher submits its operation, and then
the first one does. -/
def submittedTwice : DispatcherSystem :=
  advances (advances (withPending deletedRecord ["m"]) 2 12) 1 1

theorem submittedTwice_reachable :
    sampleProtocol.Reachable anyStep (Initial sampleOperationId) submittedTwice := by
  have always : ∀ world id call command, anyStep world id call command := fun _ _ _ _ => trivial
  have begun : sampleProtocol.Reachable anyStep (Initial sampleOperationId)
      (sampleProtocol.start ⟨sampleWorld, fun _ => none⟩ 1 ⟨"r", 3, 2⟩) :=
    (Protocol.Reachable.init sampleWorld_initial).start 1 _ rfl trivial
  have saved := begun.advances 1 14 always
  have unbound := (saved.moved Moves.unbound).moved
    (.changed { sampleEnvironment with pending := [] })
  have deleted := (unbound.start 2 ⟨"r", 3, 2⟩ rfl trivial).advances 2 10 always
  exact ((deleted.moved (.changed sampleEnvironment)).advances 2 12 always).advances 1 1 always

def sampleRecord (state : ActivationState) : ActivationRecord :=
  ⟨"rm:u", ["m"], 1, state, "t"⟩

theorem submittedTwice_log : submittedTwice.world.log =
    [.submitted 1 "rm:u", .submitted 2 "rm:u", .saved 2 (some (sampleRecord .submitting)),
      .saved 2 (some (sampleRecord .pending)), .saved 2 none,
      .saved 1 (some (sampleRecord .submitting)), .saved 1 (some (sampleRecord .pending))] := by
  decide +kernel

/-- Two submissions within one life of the record, with nothing between them. -/
theorem operation_submitted_twice :
    ¬∀ (operationId : String → List String → Nat → String) (uuid : Nat → String),
      Apart operationId → Function.Injective uuid → ∀ system,
      (dispatcherProtocol uuid operationId).Reachable anyStep (Initial operationId) system →
      SubmitsOnce system.world.log := by
  intro once
  have deferred := once sampleOperationId unary sampleOperationId_apart unary_injective
    submittedTwice submittedTwice_reachable [] 1 "rm:u" [] 2 [] 2 (sampleRecord .submitting) _
    submittedTwice_log rfl rfl (fun _ member => absurd member List.not_mem_nil)
  rcases deferred with ⟨newer, record, older, outcome, split, -⟩
  cases newer <;> cases split

/-- Nothing ended the operation since the record of the caller. -/
def fresh (system : DispatcherSystem) (id : Nat) : Bool :=
  match Protocol.asked system id with
  | some (.activate operation false) =>
      (sinceSaved id system.world.log).all fun event => !event.ends operation
  | _ => true

theorem reachable_advances {system : DispatcherSystem} {id count : Nat}
    (reached : sampleProtocol.Reachable SubmitsFresh (Initial sampleOperationId) system)
    (checked : ∀ earlier < count, fresh (advances system id earlier) id = true) :
    sampleProtocol.Reachable SubmitsFresh (Initial sampleOperationId)
      (advances system id count) := by
  apply reached.advances_of id count
  intro earlier less call command _ next operation submits event member
  have found := checked earlier less
  rw [fresh, advances, next, submits] at found
  have kept := List.all_eq_true.mp found event member
  simpa using kept

/-- A busy runtime defers the first submission, and the operation is submitted again. -/
def submittedAgain : DispatcherSystem := advances aboutToSubmit 1 17

theorem submittedAgain_reachable :
    sampleProtocol.Reachable SubmitsFresh (Initial sampleOperationId) submittedAgain := by
  have begun : sampleProtocol.Reachable SubmitsFresh (Initial sampleOperationId)
      (sampleProtocol.start ⟨sampleWorld, fun _ => none⟩ 1 ⟨"r", 3, 2⟩) :=
    (Protocol.Reachable.init sampleWorld_initial).start 1 _ rfl trivial
  have saved : sampleProtocol.Reachable SubmitsFresh (Initial sampleOperationId) aboutToSubmit :=
    reachable_advances begun (by decide +kernel)
  exact reachable_advances saved (by decide +kernel)

theorem submittedAgain_log : submittedAgain.world.log =
    [.submitted 1 "rm:u", .saved 1 (some (sampleRecord .submitting)),
      .saved 1 (some (sampleRecord .pending)), .returned 1 .busy, .submitted 1 "rm:u",
      .saved 1 (some (sampleRecord .submitting)), .saved 1 (some (sampleRecord .pending))] := by
  decide +kernel

theorem submittedAgain_deferred :
    Deferred [.saved 1 (some (sampleRecord .submitting)), .saved 1 (some (sampleRecord .pending)),
      .returned 1 .busy] 1 "rm:u" := by
  apply (dispatcher_submits_once sampleOperationId unary sampleOperationId_apart
    unary_injective).1 submittedAgain submittedAgain_reachable [] 1 "rm:u"
    [.saved 1 (some (sampleRecord .submitting)), .saved 1 (some (sampleRecord .pending)),
      .returned 1 .busy] 1 [] 1 (sampleRecord .submitting) _ submittedAgain_log rfl rfl
  decide +kernel

end Schedules

end GptQueue.Activation
