import GptQueue.Diagnostics.Report

/-! # The runtime controller

Calls of `bind` take turns, and the turn of one runs through awaits: for a new adapter,
for the end of the dispatcher that it replaces, for the mailbox and for a new dispatcher.
`close` waits for the binds before it. A dispatcher may end by itself at any time.
-/

namespace GptQueue.RuntimeController

open GptQueue.Registration
open GptQueue.Diagnostics (Binding isIdentifier)
open Texts (isAbsolute)

/-! ## Validation -/

structure Expected where
  client : HostClient
  workingDirectory : String

/-- `runtimeBindingSchema.safeParse`: the four fields and no other. -/
def parseBinding : Json → Option Binding
  | .object fields =>
      if fields.all fun entry =>
          decide (entry.1 ∈ ["client", "runtime_id", "epoch", "working_directory"]) then do
        let value := Json.object fields
        let client ← ((Json.asString (value.field "client")).bind HostClient.ofName).filter
          fun client => client ≠ .opencode
        let runtimeId ← (Json.asString (value.field "runtime_id")).filter isIdentifier
        let epoch ← (Json.asString (value.field "epoch")).filter isIdentifier
        let workingDirectory ←
          (Json.asString (value.field "working_directory")).filter isAbsolute
        some { client, runtimeId, epoch, workingDirectory }
      else none
  | _ => none

def validateRuntimeBinding (resolve : String → String) (value : Json) (expected : Expected) :
    Except String Binding :=
  match parseBinding value with
  | none => .error "invalid_runtime_binding"
  | some binding =>
      if binding.client ≠ expected.client ∨
          resolve binding.workingDirectory ≠ resolve expected.workingDirectory then
        .error "runtime_binding_mismatch"
      else .ok binding

/-! ## The controller -/

/-- What the turn of a bind waits for. Adapters are numbered as they are created, and a
dispatcher goes by the number of its adapter. -/
inductive Phase where
  | creating (binding : Binding)
  | discarding (adapter : Nat)
  | replacing (adapter : Nat) (binding : Binding) (old : Nat)
  | restoring (adapter : Nat) (binding : Binding)
  | starting (adapter : Nat) (binding : Binding)
  | started (adapter : Nat) (binding : Binding)
  | failing (adapter : Nat)
deriving DecidableEq

/-- What a call of `close` waits for: binds, or the end of a dispatcher. -/
inductive Closing where
  | operations (remaining : Nat)
  | stopping (dispatcher : Nat)
  | done
deriving DecidableEq

structure Status where
  activationReady : Bool
  runtime : Option Binding
deriving DecidableEq

inductive BindResult where
  | error (code : String)
  | ok (status : Status)
  | rejected

/-- `waiting` are the binds whose turn has not come. `adapters` are all that were created,
with the binding of each, `running` their dispatchers that have not ended and `retired`
those whose `close` has been called and awaited. -/
structure Controller where
  binding : Option Binding
  dispatcher : Option Nat
  closed : Bool
  turn : Option Phase
  waiting : List Json
  closings : List Closing
  results : List BindResult
  adapters : List Binding
  running : Finset Nat
  retired : Finset Nat

namespace Controller

def start : Controller := ⟨none, none, false, none, [], [], [], [], ∅, ∅⟩

def status (controller : Controller) : Status :=
  ⟨controller.dispatcher.isSome && !controller.closed, controller.binding⟩

def bind (controller : Controller) (value : Json) : Controller :=
  { controller with waiting := controller.waiting ++ [value] }

/-- One more of the binds that a close waits for has ended. -/
def Closing.settled : Closing → Closing
  | .operations remaining => .operations (remaining - 1)
  | closing => closing

/-- The turn ends with a result. -/
def settle (controller : Controller) (result : BindResult) : Controller :=
  { controller with
    turn := none
    closings := controller.closings.map Closing.settled
    results := controller.results ++ [result] }

variable (resolve : String → String) (expected : Expected)

/-- The turn of the next bind, up to its first await. -/
def enter (controller : Controller) : Controller :=
  match controller.waiting with
  | [] => controller
  | value :: waiting =>
      let controller := { controller with waiting }
      if controller.closed then controller.settle (.error "runtime_controller_closed")
      else
        match validateRuntimeBinding resolve value expected with
        | .error code => controller.settle (.error code)
        | .ok binding =>
            -- A sidecar belongs to one conversation.
            if controller.binding.any fun own => own.runtimeId ≠ binding.runtimeId then
              controller.settle (.error "runtime_rebind_requires_new_connection")
            else if controller.dispatcher.isSome ∧
                controller.binding.any fun own => own.epoch = binding.epoch then
              controller.settle (.ok controller.status)
            else { controller with turn := some (.creating binding) }

/-- The old dispatcher has ended, or there was none. -/
def replaced (controller : Controller) (adapter : Nat) (binding : Binding) : Controller :=
  { controller with binding := some binding, turn := some (.restoring adapter binding) }

/-- `createAdapter` has resolved, or rejected. -/
def created (controller : Controller) (binding : Binding) (succeeds : Bool) : Controller :=
  if succeeds then
    let adapter := controller.adapters.length
    let controller := { controller with adapters := controller.adapters ++ [binding] }
    if controller.closed then { controller with turn := some (.discarding adapter) }
    else
      match controller.dispatcher with
      | some old => { controller with turn := some (.replacing adapter binding old) }
      | none => controller.replaced adapter binding
  else controller.settle .rejected

/-- `restoreRuntimeMailbox` has resolved, or rejected. -/
def restored (controller : Controller) (adapter : Nat) (binding : Binding) (succeeds : Bool) :
    Controller :=
  { controller with
    turn := some (if succeeds then .starting adapter binding else .failing adapter) }

/-- `startInboxDispatcher` has started its loop, or rejected. -/
def dispatched (controller : Controller) (adapter : Nat) (binding : Binding) (succeeds : Bool) :
    Controller :=
  if succeeds then
    { controller with
      turn := some (.started adapter binding)
      running := insert adapter controller.running }
  else { controller with turn := some (.failing adapter) }

def assigned (controller : Controller) (adapter : Nat) : Controller :=
  let controller := { controller with dispatcher := some adapter }
  controller.settle (.ok controller.status)

/-- The adapter that a bind gives up is closed. -/
def discarded (controller : Controller) (adapter : Nat) (result : BindResult) : Controller :=
  { controller with retired := insert adapter controller.retired }.settle result

/-- A dispatcher closes its adapter when it ends. -/
def ended (controller : Controller) (dispatcher : Nat) : Controller :=
  { controller with
    running := controller.running.erase dispatcher
    retired := insert dispatcher controller.retired }

/-- The callback for the end of the dispatcher in use. -/
def forgets (controller : Controller) : Controller := { controller with dispatcher := none }

/-- How many binds have not ended. -/
def pending (controller : Controller) : Nat :=
  controller.waiting.length + if controller.turn.isSome then 1 else 0

def close (controller : Controller) : Controller :=
  { controller with
    closed := true
    closings := controller.closings ++ [.operations controller.pending] }

/-- The binds before a close have ended. -/
def stops (controller : Controller) (index : Nat) : Controller :=
  { controller with
    closings := controller.closings.set index
      (match controller.dispatcher with
      | some dispatcher => .stopping dispatcher
      | none => .done) }

/-- And the dispatcher has. -/
def finished (controller : Controller) (index : Nat) : Controller :=
  { controller with dispatcher := none, closings := controller.closings.set index .done }

end Controller

/-- The end of a dispatcher is seen by the callback before anyone who awaits it. -/
def Gone (controller : Controller) (dispatcher : Nat) : Prop :=
  dispatcher ∉ controller.running ∧ controller.dispatcher ≠ some dispatcher

inductive Step (resolve : String → String) (expected : Expected) :
    Controller → Controller → Prop
  | bind {controller : Controller} (value : Json) :
      Step resolve expected controller (controller.bind value)
  | enter {controller : Controller} (free : controller.turn = none) :
      Step resolve expected controller (controller.enter resolve expected)
  | created {controller : Controller} {binding : Binding} (succeeds : Bool)
      (turn : controller.turn = some (.creating binding)) :
      Step resolve expected controller (controller.created binding succeeds)
  | replaced {controller : Controller} {adapter old : Nat} {binding : Binding}
      (turn : controller.turn = some (.replacing adapter binding old))
      (gone : Gone controller old) :
      Step resolve expected controller (controller.replaced adapter binding)
  | restored {controller : Controller} {adapter : Nat} {binding : Binding} (succeeds : Bool)
      (turn : controller.turn = some (.restoring adapter binding)) :
      Step resolve expected controller (controller.restored adapter binding succeeds)
  | dispatched {controller : Controller} {adapter : Nat} {binding : Binding} (succeeds : Bool)
      (turn : controller.turn = some (.starting adapter binding)) :
      Step resolve expected controller (controller.dispatched adapter binding succeeds)
  | assigned {controller : Controller} {adapter : Nat} {binding : Binding}
      (turn : controller.turn = some (.started adapter binding)) :
      Step resolve expected controller (controller.assigned adapter)
  | discarded {controller : Controller} {adapter : Nat} (rejects : Bool)
      (turn : controller.turn = some (.discarding adapter)) :
      Step resolve expected controller (controller.discarded adapter
        (if rejects then .rejected else .error "runtime_controller_closed"))
  | failed {controller : Controller} {adapter : Nat}
      (turn : controller.turn = some (.failing adapter)) :
      Step resolve expected controller (controller.discarded adapter .rejected)
  | ended {controller : Controller} {dispatcher : Nat}
      (runs : dispatcher ∈ controller.running) :
      Step resolve expected controller (controller.ended dispatcher)
  | forgets {controller : Controller} {dispatcher : Nat}
      (isOver : dispatcher ∉ controller.running)
      (inUse : controller.dispatcher = some dispatcher) :
      Step resolve expected controller controller.forgets
  | close {controller : Controller} : Step resolve expected controller controller.close
  | stops {controller : Controller} {index : Nat}
      (waits : controller.closings[index]? = some (.operations 0)) :
      Step resolve expected controller (controller.stops index)
  | finished {controller : Controller} {index dispatcher : Nat}
      (waits : controller.closings[index]? = some (.stopping dispatcher))
      (gone : Gone controller dispatcher) :
      Step resolve expected controller (controller.finished index)

def Reachable (resolve : String → String) (expected : Expected) (controller : Controller) : Prop :=
  Relation.ReflTransGen (Step resolve expected) .start controller

/-! ## What every step keeps -/

/-- The adapter that a turn has in hand. -/
def Phase.adapter : Phase → Option Nat
  | .creating _ => none
  | .discarding adapter => some adapter
  | .replacing adapter _ _ => some adapter
  | .restoring adapter _ => some adapter
  | .starting adapter _ => some adapter
  | .started adapter _ => some adapter
  | .failing adapter => some adapter

section Invariants

variable (controller : Controller)

/-- The controller is for no other conversation. -/
def Agrees (binding : Binding) : Prop :=
  ∀ own, controller.binding = some own → own.runtimeId = binding.runtimeId

/-- The binding is that of the adapter, and no dispatcher is in use. -/
structure Bound (adapter : Nat) (binding : Binding) : Prop where
  own : controller.binding = some binding
  adapter : controller.adapters[adapter]? = some binding
  free : controller.dispatcher = none

def PhaseSound : Phase → Prop
  | .creating binding => Agrees controller binding
  | .replacing adapter binding old => Agrees controller binding ∧
      controller.adapters[adapter]? = some binding ∧
        (controller.dispatcher = some old ∨ controller.dispatcher = none)
  | .restoring adapter binding => Bound controller adapter binding
  | .starting adapter binding => Bound controller adapter binding
  | .started adapter binding => Bound controller adapter binding ∧
      (adapter ∈ controller.running ∨ adapter ∈ controller.retired)
  | .discarding _ => True
  | .failing _ => True

def ClosingSound : Closing → Prop
  | .operations remaining => controller.turn.isSome = true → 0 < remaining
  | .stopping dispatcher => controller.turn = none ∧
      (controller.dispatcher = some dispatcher ∨ controller.dispatcher = none)
  | .done => controller.turn = none ∧ controller.dispatcher = none

structure Sound : Prop where
  turn : ∀ phase, controller.turn = some phase → PhaseSound controller phase
  serves : ∀ dispatcher, controller.dispatcher = some dispatcher →
    ∃ binding, controller.adapters[dispatcher]? = some binding ∧
      controller.binding = some binding
  runs : ∀ adapter ∈ controller.running, controller.dispatcher = some adapter ∨
    ∃ binding, controller.turn = some (.started adapter binding)
  kept : ∀ adapter < controller.adapters.length, adapter ∈ controller.running ∨
    adapter ∈ controller.retired ∨
      ∃ phase, controller.turn = some phase ∧ phase.adapter = some adapter
  closes : ∀ closing ∈ controller.closings,
    controller.closed = true ∧ ClosingSound controller closing

end Invariants

section Later

variable {before after : Controller}

theorem PhaseSound.later {phase : Phase} (sound : PhaseSound before phase)
    (sameBinding : after.binding = before.binding) (sameAdapters : after.adapters = before.adapters)
    (dispatcher : after.dispatcher = before.dispatcher ∨ after.dispatcher = none)
    (kept : ∀ adapter, adapter ∈ before.running ∨ adapter ∈ before.retired →
      adapter ∈ after.running ∨ adapter ∈ after.retired) : PhaseSound after phase := by
  have bound : ∀ adapter binding, Bound before adapter binding → Bound after adapter binding := by
    intro adapter binding holds
    refine ⟨sameBinding.trans holds.own, sameAdapters ▸ holds.adapter, ?_⟩
    rcases dispatcher with same | none
    · exact same.trans holds.free
    · exact none
  cases phase with
  | creating binding =>
      intro own isOwn
      exact sound own (sameBinding ▸ isOwn)
  | replacing adapter binding old =>
      refine ⟨fun own isOwn => sound.1 own (sameBinding ▸ isOwn), sameAdapters ▸ sound.2.1, ?_⟩
      rcases dispatcher with same | none
      · rw [same]
        exact sound.2.2
      · exact .inr none
  | restoring adapter binding => exact bound _ _ sound
  | starting adapter binding => exact bound _ _ sound
  | started adapter binding => exact ⟨bound _ _ sound.1, kept _ sound.2⟩
  | discarding adapter => trivial
  | failing adapter => trivial

theorem ClosingSound.later {closing : Closing} (sound : ClosingSound before closing)
    (sameTurn : after.turn = before.turn)
    (dispatcher : after.dispatcher = before.dispatcher ∨ after.dispatcher = none) :
    ClosingSound after closing := by
  cases closing with
  | operations remaining =>
      intro busy
      exact sound (sameTurn ▸ busy)
  | stopping old =>
      refine ⟨sameTurn.trans sound.1, ?_⟩
      rcases dispatcher with same | none
      · rw [same]
        exact sound.2
      · exact .inr none
  | done =>
      refine ⟨sameTurn.trans sound.1, ?_⟩
      rcases dispatcher with same | none
      · exact same.trans sound.2
      · exact none

end Later

namespace Sound

theorem start : Sound .start where
  turn phase isTurn := by cases isTurn
  serves dispatcher inUse := by cases inUse
  runs adapter member := by cases member
  kept adapter isOld := by cases isOld
  closes closing member := by cases member

variable {controller : Controller} {resolve : String → String} {expected : Expected}

/-- While a bind has its turn every close waits for it. -/
theorem operations_of_turn (sound : Sound controller) {phase : Phase}
    (turn : controller.turn = some phase) {closing : Closing}
    (member : closing ∈ controller.closings) : ∃ remaining, closing = .operations remaining ∧
      0 < remaining := by
  have holds := (sound.closes closing member).2
  cases closing with
  | operations remaining => exact ⟨remaining, rfl, holds (turn ▸ rfl)⟩
  | stopping dispatcher =>
      rw [ClosingSound, turn] at holds
      cases holds.1
  | done =>
      rw [ClosingSound, turn] at holds
      cases holds.1

theorem closings_settled (sound : Sound controller) {phase : Phase}
    (turn : controller.turn = some phase) {after : Controller} (isOver : after.turn = none)
    {closing : Closing} (member : closing ∈ controller.closings.map Controller.Closing.settled) :
    controller.closed = true ∧ ClosingSound after closing := by
  rcases List.mem_map.mp member with ⟨before, isBefore, rfl⟩
  rcases sound.operations_of_turn turn isBefore with ⟨remaining, rfl, -⟩
  refine ⟨(sound.closes _ isBefore).1, ?_⟩
  intro busy
  rw [isOver] at busy
  cases busy

/-- Closes that wait for binds wait while there is a turn. -/
theorem closings_turn (sound : Sound controller) {phase : Phase}
    (turn : controller.turn = some phase) {after : Controller} {closing : Closing}
    (member : closing ∈ controller.closings) :
    controller.closed = true ∧ ClosingSound after closing := by
  rcases sound.operations_of_turn turn member with ⟨remaining, rfl, positive⟩
  exact ⟨(sound.closes _ member).1, fun _ => positive⟩

theorem bind (sound : Sound controller) (value : Json) : Sound (controller.bind value) where
  turn phase isTurn := (sound.turn phase isTurn).later rfl rfl (.inl rfl) fun _ => id
  serves := sound.serves
  runs := sound.runs
  kept := sound.kept
  closes closing member :=
    ⟨(sound.closes closing member).1, (sound.closes closing member).2.later rfl (.inl rfl)⟩

theorem getElem?_concat {α : Type} {items : List α} {index : Nat} {item new : α}
    (found : items[index]? = some item) : (items ++ [new])[index]? = some item := by
  have isOld : index < items.length := (List.getElem?_eq_some_iff.mp found).1
  rw [List.getElem?_append_left isOld]
  exact found

/-- A turn that ends before it has an adapter. -/
theorem refused (sound : Sound controller) (noAdapter : ∀ phase, controller.turn = some phase →
    phase.adapter = none) (result : BindResult) (settled : ∀ closing ∈ controller.closings,
      ClosingSound { controller with turn := none } (Controller.Closing.settled closing)) :
    Sound (controller.settle result) where
  turn phase isTurn := by cases isTurn
  serves := sound.serves
  runs adapter member := by
    rcases sound.runs adapter member with inUse | ⟨binding, isTurn⟩
    · exact .inl inUse
    · cases noAdapter _ isTurn
  kept adapter isOld := by
    rcases sound.kept adapter isOld with runs | retired | ⟨phase, isTurn, holds⟩
    · exact .inl runs
    · exact .inr (.inl retired)
    · rw [noAdapter phase isTurn] at holds
      cases holds
  closes closing member := by
    rcases List.mem_map.mp member with ⟨before, isBefore, rfl⟩
    exact ⟨(sound.closes before isBefore).1, settled before isBefore⟩

theorem enter (sound : Sound controller) (free : controller.turn = none) :
    Sound (controller.enter resolve expected) := by
  rw [Controller.enter]
  cases isWaiting : controller.waiting with
  | nil => exact sound
  | cons value waiting =>
      have shorter : Sound { controller with waiting } :=
        { turn := fun phase isTurn => by
            rw [free] at isTurn
            cases isTurn
          serves := sound.serves
          runs := sound.runs
          kept := sound.kept
          closes := fun closing member =>
            ⟨(sound.closes closing member).1,
              (sound.closes closing member).2.later rfl (.inl rfl)⟩ }
      have refuse : ∀ result, Sound (Controller.settle { controller with waiting } result) := by
        intro result
        apply shorter.refused
        · intro phase isTurn
          dsimp only at isTurn
          rw [free] at isTurn
          cases isTurn
        · intro closing member
          have holds := (sound.closes closing member).2
          cases closing with
          | operations remaining =>
              intro busy
              cases busy
          | stopping dispatcher => exact ⟨rfl, holds.2⟩
          | done => exact ⟨rfl, holds.2⟩
      dsimp only
      split
      · exact refuse _
      · next isOpen =>
          cases validateRuntimeBinding resolve value expected with
          | error code => exact refuse _
          | ok binding =>
              dsimp only
              split
              · exact refuse _
              · next agrees =>
                  split
                  · exact refuse _
                  · constructor
                    · intro phase isTurn
                      cases isTurn
                      intro own isOwn
                      by_contra different
                      apply agrees
                      dsimp only at isOwn ⊢
                      rw [isOwn]
                      exact decide_eq_true different
                    · exact sound.serves
                    · intro adapter member
                      rcases sound.runs adapter member with inUse | ⟨other, isTurn⟩
                      · exact .inl inUse
                      · rw [free] at isTurn
                        cases isTurn
                    · intro adapter isOld
                      rcases sound.kept adapter isOld with runs | retired | ⟨phase, isTurn, -⟩
                      · exact .inl runs
                      · exact .inr (.inl retired)
                      · rw [free] at isTurn
                        cases isTurn
                    · intro closing member
                      exact absurd (sound.closes closing member).1 isOpen

/-- The turn goes on, with the binding of the turn for the controller and no dispatcher. -/
theorem advance (sound : Sound controller) {phase next : Phase}
    (turn : controller.turn = some phase) (notStarted : ∀ adapter binding,
      phase ≠ .started adapter binding)
    (same : ∀ adapter, phase.adapter = some adapter → next.adapter = some adapter)
    (isNext : PhaseSound controller next) : Sound { controller with turn := some next } where
  turn later isTurn := by
    cases isTurn
    exact isNext.later rfl rfl (.inl rfl) fun _ => id
  serves := sound.serves
  runs adapter member := by
    rcases sound.runs adapter member with inUse | ⟨binding, isTurn⟩
    · exact .inl inUse
    · cases turn.symm.trans isTurn
      exact absurd rfl (notStarted _ _)
  kept adapter isOld := by
    rcases sound.kept adapter isOld with runs | retired | ⟨held, isTurn, holds⟩
    · exact .inl runs
    · exact .inr (.inl retired)
    · cases turn.symm.trans isTurn
      exact .inr (.inr ⟨next, rfl, same adapter holds⟩)
  closes closing member := sound.closings_turn turn member

theorem replaced (sound : Sound controller) {adapter old : Nat} {binding : Binding}
    (turn : controller.turn = some (.replacing adapter binding old)) (gone : Gone controller old) :
    Sound (controller.replaced adapter binding) := by
  have holds := sound.turn _ turn
  have free : controller.dispatcher = none := holds.2.2.resolve_left gone.2
  constructor
  · intro phase isTurn
    cases isTurn
    exact ⟨rfl, holds.2.1, free⟩
  · intro dispatcher inUse
    cases free.symm.trans inUse
  · intro other member
    rcases sound.runs other member with inUse | ⟨_, isTurn⟩
    · exact .inl inUse
    · cases turn.symm.trans isTurn
  · intro other isOld
    rcases sound.kept other isOld with runs | retired | ⟨held, isTurn, holds⟩
    · exact .inl runs
    · exact .inr (.inl retired)
    · cases turn.symm.trans isTurn
      exact .inr (.inr ⟨_, rfl, holds⟩)
  · intro closing member
    exact sound.closings_turn turn member

theorem created (sound : Sound controller) {binding : Binding} (succeeds : Bool)
    (turn : controller.turn = some (.creating binding)) :
    Sound (controller.created binding succeeds) := by
  have agrees := sound.turn _ turn
  rw [Controller.created]
  split
  · have isNew : (controller.adapters ++ [binding])[controller.adapters.length]? =
        some binding := by
      rw [List.getElem?_append_right (Nat.le_refl _), Nat.sub_self]
      rfl
    -- whatever the turn goes on with has the new adapter in hand
    have proceeds : ∀ (phase : Phase) (own : Option Binding),
        phase.adapter = some controller.adapters.length →
        (own = controller.binding ∨ controller.dispatcher = none) →
        PhaseSound { controller with
          adapters := controller.adapters ++ [binding], turn := some phase, binding := own } phase →
        Sound { controller with
          adapters := controller.adapters ++ [binding], turn := some phase, binding := own } := by
      intro phase own holds sameOr isSound
      constructor
      · intro later isTurn
        cases isTurn
        exact isSound
      · intro dispatcher inUse
        rcases sound.serves dispatcher inUse with ⟨served, isAdapter, isBinding⟩
        refine ⟨served, getElem?_concat isAdapter, ?_⟩
        rcases sameOr with rfl | free
        · exact isBinding
        · cases free.symm.trans inUse
      · intro adapter member
        rcases sound.runs adapter member with inUse | ⟨_, isTurn⟩
        · exact .inl inUse
        · cases turn.symm.trans isTurn
      · intro adapter isOld
        rw [List.length_append, List.length_singleton] at isOld
        rcases Nat.lt_succ_iff_lt_or_eq.mp isOld with isOld | rfl
        · rcases sound.kept adapter isOld with runs | retired | ⟨held, isTurn, holds⟩
          · exact .inl runs
          · exact .inr (.inl retired)
          · cases turn.symm.trans isTurn
            cases holds
        · exact .inr (.inr ⟨phase, rfl, holds⟩)
      · intro closing member
        exact sound.closings_turn turn member
    dsimp only
    split
    · exact proceeds (.discarding _) controller.binding rfl (.inl rfl) trivial
    · split
      · next old inUse =>
          exact proceeds (.replacing _ binding old) controller.binding rfl (.inl rfl)
            ⟨agrees, isNew, .inl inUse⟩
      · next free =>
          exact proceeds (.restoring _ binding) (some binding) rfl (.inr free)
            ⟨rfl, isNew, free⟩
  · apply sound.refused
    · intro phase isTurn
      cases turn.symm.trans isTurn
      rfl
    · intro closing member
      exact (sound.closings_settled turn rfl (List.mem_map_of_mem member)).2

theorem restored (sound : Sound controller) {adapter : Nat} {binding : Binding} (succeeds : Bool)
    (turn : controller.turn = some (.restoring adapter binding)) :
    Sound (controller.restored adapter binding succeeds) := by
  have bound := sound.turn _ turn
  rw [Controller.restored]
  cases succeeds with
  | true =>
      exact sound.advance turn (by intro _ _ same; cases same) (fun _ same => same) bound
  | false =>
      exact sound.advance turn (by intro _ _ same; cases same) (fun _ same => same) trivial

theorem dispatched (sound : Sound controller) {adapter : Nat} {binding : Binding}
    (succeeds : Bool) (turn : controller.turn = some (.starting adapter binding)) :
    Sound (controller.dispatched adapter binding succeeds) := by
  have bound := sound.turn _ turn
  rw [Controller.dispatched]
  cases succeeds with
  | true =>
      rw [if_pos rfl]
      constructor
      · intro phase isTurn
        cases isTurn
        exact ⟨⟨bound.own, bound.adapter, bound.free⟩, .inl (Finset.mem_insert_self _ _)⟩
      · exact sound.serves
      · intro other member
        rcases Finset.mem_insert.mp member with rfl | member
        · exact .inr ⟨binding, rfl⟩
        · rcases sound.runs other member with inUse | ⟨_, isTurn⟩
          · exact .inl inUse
          · cases turn.symm.trans isTurn
      · intro other isOld
        rcases sound.kept other isOld with runs | retired | ⟨held, isTurn, holds⟩
        · exact .inl (Finset.mem_insert_of_mem runs)
        · exact .inr (.inl retired)
        · cases turn.symm.trans isTurn
          exact .inr (.inr ⟨_, rfl, holds⟩)
      · intro closing member
        exact sound.closings_turn turn member
  | false =>
      rw [if_neg Bool.false_ne_true]
      exact sound.advance turn (by intro _ _ same; cases same) (fun _ same => same) trivial

theorem assigned (sound : Sound controller) {adapter : Nat} {binding : Binding}
    (turn : controller.turn = some (.started adapter binding)) :
    Sound (controller.assigned adapter) := by
  rcases sound.turn _ turn with ⟨bound, alive⟩
  constructor
  · intro phase isTurn
    cases isTurn
  · intro dispatcher inUse
    cases inUse
    exact ⟨binding, bound.adapter, bound.own⟩
  · intro other member
    rcases sound.runs other member with inUse | ⟨_, isTurn⟩
    · cases bound.free.symm.trans inUse
    · cases turn.symm.trans isTurn
      exact .inl rfl
  · intro other isOld
    rcases sound.kept other isOld with runs | retired | ⟨held, isTurn, holds⟩
    · exact .inl runs
    · exact .inr (.inl retired)
    · cases turn.symm.trans isTurn
      cases holds
      rcases alive with runs | retired
      · exact .inl runs
      · exact .inr (.inl retired)
  · intro closing member
    exact sound.closings_settled turn rfl member

theorem discarded (sound : Sound controller) {phase : Phase} {adapter : Nat}
    (turn : controller.turn = some phase) (holds : phase.adapter = some adapter)
    (notStarted : ∀ adapter binding, phase ≠ .started adapter binding) (result : BindResult) :
    Sound (controller.discarded adapter result) where
  turn later isTurn := by cases isTurn
  serves := sound.serves
  runs other member := by
    rcases sound.runs other member with inUse | ⟨_, isTurn⟩
    · exact .inl inUse
    · cases turn.symm.trans isTurn
      exact absurd rfl (notStarted _ _)
  kept other isOld := by
    rcases sound.kept other isOld with runs | retired | ⟨held, isTurn, isHeld⟩
    · exact .inl runs
    · exact .inr (.inl (Finset.mem_insert_of_mem retired))
    · cases turn.symm.trans isTurn
      cases holds.symm.trans isHeld
      exact .inr (.inl (Finset.mem_insert_self _ _))
  closes closing member := sound.closings_settled turn rfl member

theorem ended (sound : Sound controller) (dispatcher : Nat) :
    Sound (controller.ended dispatcher) := by
  have alive : ∀ adapter, adapter ∈ controller.running ∨ adapter ∈ controller.retired →
      adapter ∈ (controller.ended dispatcher).running ∨
        adapter ∈ (controller.ended dispatcher).retired := by
    intro adapter either
    by_cases same : adapter = dispatcher
    · exact .inr (same ▸ Finset.mem_insert_self _ _)
    · rcases either with runs | retired
      · exact .inl (Finset.mem_erase.mpr ⟨same, runs⟩)
      · exact .inr (Finset.mem_insert_of_mem retired)
  constructor
  · intro phase isTurn
    exact (sound.turn phase isTurn).later rfl rfl (.inl rfl) alive
  · exact sound.serves
  · intro adapter member
    exact sound.runs adapter (Finset.mem_of_mem_erase member)
  · intro adapter isOld
    rcases sound.kept adapter isOld with runs | retired | held
    · rcases alive adapter (.inl runs) with runs | retired
      · exact .inl runs
      · exact .inr (.inl retired)
    · exact .inr (.inl (Finset.mem_insert_of_mem retired))
    · exact .inr (.inr held)
  · intro closing member
    exact ⟨(sound.closes closing member).1, (sound.closes closing member).2.later rfl (.inl rfl)⟩

/-- The dispatcher that has ended is out of use. -/
theorem forgets (sound : Sound controller) (isOver : ∀ dispatcher,
    controller.dispatcher = some dispatcher → dispatcher ∉ controller.running) :
    Sound controller.forgets where
  turn phase isTurn := (sound.turn phase isTurn).later rfl rfl (.inr rfl) fun _ => id
  serves dispatcher inUse := by cases inUse
  runs adapter member := by
    rcases sound.runs adapter member with inUse | started
    · exact absurd member (isOver adapter inUse)
    · exact .inr started
  kept := sound.kept
  closes closing member :=
    ⟨(sound.closes closing member).1, (sound.closes closing member).2.later rfl (.inr rfl)⟩

theorem close (sound : Sound controller) : Sound controller.close where
  turn phase isTurn := (sound.turn phase isTurn).later rfl rfl (.inl rfl) fun _ => id
  serves := sound.serves
  runs := sound.runs
  kept := sound.kept
  closes closing member := by
    refine ⟨rfl, ?_⟩
    rcases List.mem_append.mp member with before | isNew
    · exact (sound.closes closing before).2.later rfl (.inl rfl)
    · cases List.mem_singleton.mp isNew
      intro busy
      have isTurn : controller.turn.isSome = true := busy
      rw [Controller.pending, if_pos isTurn]
      exact Nat.succ_pos _

/-- A close goes on. -/
theorem setClosing (sound : Sound controller) {index : Nat} {before after : Closing}
    (waits : controller.closings[index]? = some before)
    (isAfter : ClosingSound controller after) :
    Sound { controller with closings := controller.closings.set index after } where
  turn phase isTurn := (sound.turn phase isTurn).later rfl rfl (.inl rfl) fun _ => id
  serves := sound.serves
  runs := sound.runs
  kept := sound.kept
  closes closing member := by
    have closed := (sound.closes before (List.mem_of_getElem? waits)).1
    rcases List.mem_or_eq_of_mem_set member with isOld | rfl
    · exact ⟨closed, (sound.closes closing isOld).2.later rfl (.inl rfl)⟩
    · exact ⟨closed, isAfter.later rfl (.inl rfl)⟩

theorem stops (sound : Sound controller) {index : Nat}
    (waits : controller.closings[index]? = some (.operations 0)) :
    Sound (controller.stops index) := by
  have free : controller.turn = none := by
    cases isTurn : controller.turn with
    | none => rfl
    | some phase =>
        have busy := (sound.closes _ (List.mem_of_getElem? waits)).2 (isTurn ▸ rfl)
        exact absurd busy (Nat.lt_irrefl 0)
  apply sound.setClosing waits
  cases inUse : controller.dispatcher with
  | some dispatcher => exact ⟨free, .inl inUse⟩
  | none => exact ⟨free, inUse⟩

theorem finished (sound : Sound controller) {index dispatcher : Nat}
    (waits : controller.closings[index]? = some (.stopping dispatcher))
    (gone : Gone controller dispatcher) : Sound (controller.finished index) := by
  have holds := (sound.closes _ (List.mem_of_getElem? waits)).2
  have unused : controller.dispatcher = none := holds.2.resolve_left gone.2
  have sound := @setClosing controller sound index _ .done waits ⟨holds.1, unused⟩
  have same : controller.finished index =
      { controller with closings := controller.closings.set index .done } := by
    rw [Controller.finished, ← unused]
  exact same ▸ sound

end Sound

section Runs

variable {resolve : String → String} {expected : Expected} {controller before after : Controller}

theorem Step.sound (step : Step resolve expected before after) (sound : Sound before) :
    Sound after := by
  cases step with
  | bind value => exact sound.bind value
  | enter free => exact sound.enter free
  | created succeeds turn => exact sound.created succeeds turn
  | replaced turn gone => exact sound.replaced turn gone
  | restored succeeds turn => exact sound.restored succeeds turn
  | dispatched succeeds turn => exact sound.dispatched succeeds turn
  | assigned turn => exact sound.assigned turn
  | discarded rejects turn =>
      exact sound.discarded turn rfl (by intro _ _ same; cases same) _
  | failed turn => exact sound.discarded turn rfl (by intro _ _ same; cases same) _
  | ended runs => exact sound.ended _
  | forgets isOver inUse =>
      apply sound.forgets
      intro other isOther
      cases inUse.symm.trans isOther
      exact isOver
  | close => exact sound.close
  | stops waits => exact sound.stops waits
  | finished waits gone => exact sound.finished waits gone

theorem Reachable.sound (reached : Reachable resolve expected controller) : Sound controller := by
  induction reached with
  | refl => exact .start
  | tail _ step induction => exact step.sound induction

/-- A controller that has a binding keeps its conversation. -/
theorem Step.keeps_runtime (step : Step resolve expected before after) (sound : Sound before)
    {binding : Binding} (bound : before.binding = some binding) :
    ∃ later, after.binding = some later ∧ later.runtimeId = binding.runtimeId := by
  cases step with
  | enter free =>
      refine ⟨binding, ?_, rfl⟩
      rw [Controller.enter]
      cases before.waiting with
      | nil => exact bound
      | cons value waiting =>
          dsimp only
          split
          · exact bound
          · cases validateRuntimeBinding resolve value expected with
            | error code => exact bound
            | ok other =>
                dsimp only
                split
                · exact bound
                · split
                  · exact bound
                  · exact bound
  | @created own succeeds turn =>
      have agrees := sound.turn _ turn binding bound
      rw [Controller.created]
      split
      · dsimp only
        split
        · exact ⟨binding, bound, rfl⟩
        · split
          · exact ⟨binding, bound, rfl⟩
          · exact ⟨own, rfl, agrees.symm⟩
      · exact ⟨binding, bound, rfl⟩
  | @replaced adapter old own turn gone =>
      exact ⟨own, rfl, ((sound.turn _ turn).1 binding bound).symm⟩
  | dispatched succeeds turn =>
      refine ⟨binding, ?_, rfl⟩
      cases succeeds <;> exact bound
  | _ => exact ⟨binding, bound, rfl⟩

/-- What holds of the controller at any time. -/
structure Serves (resolve : String → String) (expected : Expected) (controller : Controller) :
    Prop where
  /-- There is one dispatcher at most. -/
  one : ∀ adapter ∈ controller.running, ∀ other ∈ controller.running, adapter = other
  /-- A binding that is reported as ready is that of the dispatcher in use. -/
  honest : controller.status.activationReady = true → ∃ dispatcher binding,
    controller.dispatcher = some dispatcher ∧ controller.adapters[dispatcher]? = some binding ∧
      controller.status.runtime = some binding
  /-- An adapter that does not run and is not closed is in the hands of a bind. -/
  kept : ∀ adapter < controller.adapters.length, adapter ∈ controller.running ∨
    adapter ∈ controller.retired ∨
      ∃ phase, controller.turn = some phase ∧ phase.adapter = some adapter
  /-- It is for one conversation for ever. -/
  conversation : ∀ binding, controller.binding = some binding → ∀ later,
    Relation.ReflTransGen (Step resolve expected) controller later →
      ∃ other, later.binding = some other ∧ other.runtimeId = binding.runtimeId

theorem controller_serves (reached : Reachable resolve expected controller) :
    Serves resolve expected controller where
  one adapter runs other alsoRuns := by
    rcases reached.sound.runs adapter runs with inUse | ⟨binding, isTurn⟩
    · rcases reached.sound.runs other alsoRuns with alsoInUse | ⟨binding, isTurn⟩
      · exact Option.some.inj (inUse.symm.trans alsoInUse)
      · cases (reached.sound.turn _ isTurn).1.free.symm.trans inUse
    · rcases reached.sound.runs other alsoRuns with inUse | ⟨_, isOther⟩
      · cases (reached.sound.turn _ isTurn).1.free.symm.trans inUse
      · cases isTurn.symm.trans isOther
        rfl
  honest ready := by
    rcases Option.isSome_iff_exists.mp (Bool.and_eq_true_iff.mp ready).1 with ⟨dispatcher, inUse⟩
    rcases reached.sound.serves dispatcher inUse with ⟨binding, isAdapter, isBinding⟩
    exact ⟨dispatcher, binding, inUse, isAdapter, isBinding⟩
  kept := reached.sound.kept
  conversation binding bound later steps := by
    induction steps with
    | refl => exact ⟨binding, bound, rfl⟩
    | tail between step induction =>
        rcases induction with ⟨other, isOther, same⟩
        rcases step.keeps_runtime (Reachable.sound (reached.trans between)) isOther with
          ⟨last, isLast, alsoSame⟩
        exact ⟨last, isLast, alsoSame.trans same⟩

theorem done_settled (isDone : .done ∈ controller.closings) :
    .done ∈ controller.closings.map Controller.Closing.settled :=
  List.mem_map.mpr ⟨.done, isDone, rfl⟩

theorem done_set {index : Nat} {waiting next : Closing}
    (waits : controller.closings[index]? = some waiting) (notDone : waiting ≠ .done)
    (isDone : .done ∈ controller.closings) : .done ∈ controller.closings.set index next := by
  rcases List.mem_iff_getElem?.mp isDone with ⟨other, found⟩
  have different : index ≠ other := by
    intro same
    rw [same, found] at waits
    exact notDone (Option.some.inj waits).symm
  apply List.mem_of_getElem?
  rw [List.getElem?_set_ne different]
  exact found

theorem done_enter (isDone : .done ∈ controller.closings) :
    .done ∈ (controller.enter resolve expected).closings := by
  rw [Controller.enter]
  cases controller.waiting with
  | nil => exact isDone
  | cons value waiting =>
      dsimp only
      split
      · exact done_settled isDone
      · cases validateRuntimeBinding resolve value expected with
        | error code => exact done_settled isDone
        | ok other =>
            dsimp only
            split
            · exact done_settled isDone
            · split
              · exact done_settled isDone
              · exact isDone

theorem Step.keeps_done (step : Step resolve expected before after)
    (isDone : .done ∈ before.closings) : .done ∈ after.closings := by
  cases step with
  | enter free => exact done_enter isDone
  | created succeeds turn =>
      rw [Controller.created]
      split
      · dsimp only
        split
        · exact isDone
        · split <;> exact isDone
      · exact done_settled isDone
  | dispatched succeeds turn => cases succeeds <;> exact isDone
  | assigned turn => exact done_settled isDone
  | discarded rejects turn => exact done_settled isDone
  | failed turn => exact done_settled isDone
  | close => exact List.mem_append_left _ isDone
  | stops waits => exact done_set waits (by intro same; cases same) isDone
  | finished waits gone => exact done_set waits (by intro same; cases same) isDone
  | _ => exact isDone

/-- Nothing is left of the controller. -/
structure Released (controller : Controller) : Prop where
  idle : controller.running = ∅
  free : controller.turn = none
  unused : controller.dispatcher = none
  closed : ∀ adapter < controller.adapters.length, adapter ∈ controller.retired
  unready : controller.status.activationReady = false

theorem Sound.released (sound : Sound controller) (isDone : .done ∈ controller.closings) :
    Released controller := by
  rcases (sound.closes _ isDone).2 with ⟨free, unused⟩
  have idle : ∀ adapter, adapter ∉ controller.running := by
    intro adapter runs
    rcases sound.runs adapter runs with inUse | ⟨binding, isTurn⟩
    · cases unused.symm.trans inUse
    · cases free.symm.trans isTurn
  constructor
  · exact Finset.eq_empty_of_forall_notMem idle
  · exact free
  · exact unused
  · intro adapter isOld
    rcases sound.kept adapter isOld with runs | retired | ⟨phase, isTurn, -⟩
    · exact absurd runs (idle adapter)
    · exact retired
    · cases free.symm.trans isTurn
  · rw [Controller.status, unused]
    rfl

/-- Once a call of `close` has returned, no dispatcher runs and every adapter that was
ever created is closed, whatever is called afterwards. -/
theorem controller_close_releases (reached : Reachable resolve expected before)
    (isDone : .done ∈ before.closings)
    (steps : Relation.ReflTransGen (Step resolve expected) before after) : Released after := by
  have still : .done ∈ after.closings := by
    induction steps with
    | refl => exact isDone
    | tail _ step induction => exact step.keeps_done induction
  exact (Reachable.sound (reached.trans steps)).released still

end Runs

/-! ## A run -/

def exampleExpected : Expected := ⟨.codex, "/w"⟩

def exampleBinding : Binding := ⟨.codex, "t", "t", "/w"⟩

/-- A bind has its turn and its adapter has a dispatcher. -/
def bound : Controller :=
  (((((Controller.start.bind (.object [("client", .string "codex"), ("runtime_id", .string "t"),
    ("epoch", .string "t"), ("working_directory", .string "/w")])).enter id
      exampleExpected).created exampleBinding true).restored 0 exampleBinding true).dispatched 0
        exampleBinding true).assigned 0

/-- It is closed, and the dispatcher ends. -/
def unbound : Controller := (((bound.close.stops 0).ended 0).forgets).finished 0

theorem bound_reachable : Reachable id exampleExpected bound :=
  (((((Relation.ReflTransGen.single (.bind _)).tail (.enter rfl)).tail
    (.created true (by decide +kernel))).tail (.restored true (by decide +kernel))).tail
      (.dispatched true (by decide +kernel))).tail
        (@Step.assigned id exampleExpected _ 0 exampleBinding (by decide +kernel))

/-- The binding that is reported is the one that is served. -/
theorem bound_serves : bound.status = ⟨true, some exampleBinding⟩ ∧
    Serves id exampleExpected bound :=
  ⟨by decide +kernel, controller_serves bound_reachable⟩

theorem unbound_released : bound.running = {0} ∧ Released unbound := by
  have reached : Reachable id exampleExpected unbound :=
    ((((bound_reachable.tail .close).tail (.stops (by decide +kernel))).tail
      (.ended (by decide +kernel))).tail
        (@Step.forgets id exampleExpected _ 0 (by decide +kernel) (by decide +kernel))).tail
          (@Step.finished id exampleExpected _ 0 0 (by decide +kernel)
            ⟨by decide +kernel, by decide +kernel⟩)
  exact ⟨by decide +kernel, controller_close_releases reached (by decide +kernel) .refl⟩

end GptQueue.RuntimeController
