import GptQueue.Runtime.Adapters

/-! # At most one submission by an adapter

An adapter submits an operation at most once, unless the submission was refused as busy,
and never when it only recovers or when it sees the operation in the native history.
-/

namespace GptQueue.RuntimeAdapter

/-! ## What has been submitted -/

section Remember

variable {State : Type} {ids : Finset String} {seen : List (String × State)}

/-- The keys of a `Map` that never has to evict. -/
structure Kept (ids : Finset String) (seen : List (String × State)) : Prop where
  nodup : (seen.map Prod.fst).Nodup
  known : ∀ key ∈ seen.map Prod.fst, key ∈ ids

theorem Kept.length_le (kept : Kept ids seen) : seen.length ≤ ids.card := by
  have size := List.toFinset_card_of_nodup kept.nodup
  rw [List.length_map] at size
  rw [← size]
  apply Finset.card_le_card
  intro key member
  exact kept.known key (List.mem_toFinset.mp member)

theorem any_key_iff {key : String} :
    (seen.any fun entry => entry.1 = key) = true ↔ key ∈ seen.map Prod.fst := by
  simp only [List.any_eq_true, decide_eq_true_eq, List.mem_map]

/-- Without eviction a `set` adds its key and keeps the others. -/
theorem Kept.remember (kept : Kept ids seen) {key : String} (isId : key ∈ ids)
    (few : ids.card ≤ 1024) (value : State) :
    Kept ids (remember seen key value) ∧
      ∀ other, other ∈ (remember seen key value).map Prod.fst ↔
        other = key ∨ other ∈ seen.map Prod.fst := by
  have set : Kept ids (if seen.any (·.1 = key) then
        seen.map fun entry => if entry.1 = key then (key, value) else entry
      else seen ++ [(key, value)]) ∧
      ∀ other, other ∈ (if seen.any (·.1 = key) then
        seen.map fun entry => if entry.1 = key then (key, value) else entry
      else seen ++ [(key, value)]).map Prod.fst ↔ other = key ∨ other ∈ seen.map Prod.fst := by
    by_cases found : (seen.any fun entry => entry.1 = key) = true
    · rw [if_pos found]
      have sameKeys : (seen.map fun entry => if entry.1 = key then (key, value) else entry).map
          Prod.fst = seen.map Prod.fst := by
        rw [List.map_map]
        apply List.map_congr_left
        intro entry _
        by_cases same : entry.1 = key
        · simp [same]
        · simp [same]
      refine ⟨⟨sameKeys ▸ kept.nodup, sameKeys ▸ kept.known⟩, fun other => ?_⟩
      rw [sameKeys]
      constructor
      · exact Or.inr
      · rintro (rfl | member)
        · exact any_key_iff.mp found
        · exact member
    · rw [if_neg found]
      have fresh := mt any_key_iff.mpr found
      refine ⟨⟨?_, fun other member => ?_⟩, fun other => ?_⟩
      · rw [List.map_append]
        simpa [List.nodup_append] using ⟨kept.nodup, fun other state member same =>
          fresh (List.mem_map.mpr ⟨(other, state), member, same⟩)⟩
      · rw [List.map_append, List.mem_append] at member
        rcases member with earlier | new
        · exact kept.known other earlier
        · rw [List.map_singleton, List.mem_singleton] at new
          exact new ▸ isId
      · rw [List.map_append, List.mem_append]
        simp [or_comm]
  unfold RuntimeAdapter.remember
  dsimp only
  rw [if_neg (by have size := set.1.length_le; omega)]
  exact set

end Remember

/-! ## The Codex adapter -/

abbrev Past := List (Exchange Command Reply)

abbrev CodexCall := Call ActivationRequest Command Reply (Option ActivationOutcome)

def isRequested (operationId : String) : Event → Bool
  | .requested _ operation => operation = operationId
  | _ => false

def isRejected (operationId : String) : Event → Bool
  | .rejectedBusy _ operation => operation = operationId
  | _ => false

/-- What holds of the submissions of a run. -/
structure SubmitsOnce (system : AdapterSystem) : Prop where
  /-- Every request beyond the first follows a busy rejection of its own. -/
  once : ∀ operationId, system.world.log.countP (isRequested operationId) ≤
    system.world.log.countP (isRejected operationId) + 1
  own : ∀ id operationId, .requested id operationId ∈ system.world.log →
    ∃ call, system.calls id = some call ∧ call.input.operationId = operationId
  recovering : ∀ id call, system.calls id = some call → call.input.recoverOnly = true →
    ∀ operationId, .requested id operationId ∉ system.world.log
  visible : ∀ id call, system.calls id = some call →
    ∀ thread, ⟨.read, some thread⟩ ∈ call.past → Visible call.input thread →
    ∀ operationId, .requested id operationId ∉ system.world.log

def anyStep : Condition World ActivationRequest Command Reply (Option ActivationOutcome) :=
  fun _ _ _ _ => True

/-- Where a thread that is read shows the operation of the call, a turn that does has an id. -/
def ReadsNamed (host : Host) :
    Condition World ActivationRequest Command Reply (Option ActivationOutcome) :=
  fun world _ call command =>
    command = .read → ∀ thread, world.thread = some thread → Named host call.input thread

section Asks

variable (host : Host) (binding : Binding)

/-- What `activate` may ask next. -/
def Asks (request : ActivationRequest) (past : Past) : Command → Prop
  | .read => past = []
  | .submit operationId => operationId = request.operationId ∧ request.recoverOnly = false ∧
      ∃ thread, past = [⟨.read, some thread⟩] ∧
        examine host binding request thread = some .proceeds
  | .settle operationId => operationId = request.operationId ∧
      ∃ older, past = ⟨.submit operationId, true⟩ :: older

theorem follows_activate (request : ActivationRequest) :
    (activate host binding request).Follows (Asks host binding request) (fun _ _ => True) [] := by
  apply Program.follows_ask_bind.mpr ⟨rfl, fun reply => ?_⟩
  cases reply with
  | none => trivial
  | some thread =>
      dsimp only
      split
      · trivial
      · trivial
      · next proceeds =>
          split
          · trivial
          · next mayRequest =>
              have notRecovering : request.recoverOnly = false := by simpa using mayRequest
              apply Program.follows_ask_bind.mpr
                ⟨⟨rfl, notRecovering, thread, rfl, proceeds⟩, fun submitted => ?_⟩
              split
              · next isSubmitted =>
                  subst isSubmitted
                  exact Program.follows_ask_bind.mpr ⟨⟨rfl, _, rfl⟩, fun _ => trivial⟩
              · trivial

end Asks

/-- Keys and requests belong together. -/
structure Coherent (ids : Finset String) (world : World) : Prop extends Kept ids world.seen where
  flying : ∀ operationId id, world.inFlight operationId = some id →
    operationId ∈ world.seen.map Prod.fst
  counted : ∀ operationId, world.log.countP (isRequested operationId) =
    world.log.countP (isRejected operationId) +
      if operationId ∈ world.seen.map Prod.fst then 1 else 0

/-- What is known of one call. -/
structure Knows (host : Host) (binding : Binding) (ids : Finset String) (world : World) (id : Nat)
    (call : CodexCall) : Prop where
  member : call.input.operationId ∈ ids
  named : ∀ thread, ⟨.read, some thread⟩ ∈ call.past → Named host call.input thread
  requested : ∀ operationId, .requested id operationId ∈ world.log →
    operationId = call.input.operationId ∧ call.input.recoverOnly = false ∧ call.past ≠ [] ∧
      ∀ thread, ⟨.read, some thread⟩ ∈ call.past →
        examine host binding call.input thread = some .proceeds
  flying : ∀ operationId older, call.past = ⟨.submit operationId, true⟩ :: older →
    world.inFlight operationId = some id

section Runs

variable {host : Host} {binding : Binding} {ids : Finset String} {world after : World} {id : Nat}

/-- What one command of call `id` does. -/
structure Effect (ids : Finset String) (id : Nat) (world : World) (command : Command)
    (after : World) : Prop where
  /-- Only its own submission is new in the log. -/
  requested : ∀ call operationId, .requested call operationId ∈ after.log →
    .requested call operationId ∈ world.log ∨ call = id ∧ command = .submit operationId
  /-- Another call's request stays in flight. -/
  flying : ∀ operationId other, other ≠ id → world.inFlight operationId = some other →
    after.inFlight operationId = some other

/-- The answer of a request comes in. -/
theorem Coherent.landed (coherent : Coherent ids world) (operationId : String) :
    Coherent ids { world with inFlight := Function.update world.inFlight operationId none } where
  toKept := coherent.toKept
  flying other call flight := by
    dsimp only at flight
    by_cases same : other = operationId
    · rw [same, Function.update_self] at flight
      cases flight
    · rw [Function.update_of_ne same] at flight
      exact coherent.flying other call flight
  counted := coherent.counted

theorem Coherent.submit (coherent : Coherent ids world) (few : ids.card ≤ 1024)
    {operationId : String} (isId : operationId ∈ ids)
    (fresh : operationId ∉ world.seen.map Prod.fst) :
    Coherent ids { world with
      seen := remember world.seen operationId "pending"
      log := .requested id operationId :: world.log
      inFlight := Function.update world.inFlight operationId (some id) } := by
  rcases coherent.toKept.remember isId few "pending" with ⟨kept, keys⟩
  refine ⟨kept, fun other call flight => ?_, fun other => ?_⟩
  · rw [keys]
    dsimp only at flight
    by_cases same : other = operationId
    · exact Or.inl same
    · rw [Function.update_of_ne same] at flight
      exact Or.inr (coherent.flying other call flight)
  · have earlier := coherent.counted other
    dsimp only
    rw [List.countP_cons, List.countP_cons]
    by_cases same : other = operationId
    · subst same
      rw [if_neg fresh] at earlier
      rw [if_pos ((keys other).mpr (Or.inl rfl))]
      simp [isRequested, isRejected, earlier]
    · have sameKey : other ∈ (remember world.seen operationId "pending").map Prod.fst ↔
          other ∈ world.seen.map Prod.fst := by
        rw [keys]
        exact or_iff_right same
      have differs : ¬operationId = other := fun isOther => same isOther.symm
      simp only [isRequested, isRejected, sameKey, differs, decide_false, Bool.false_eq_true,
        if_false, Nat.add_zero]
      exact earlier

theorem Coherent.forget (coherent : Coherent ids world) {operationId : String}
    (present : operationId ∈ world.seen.map Prod.fst)
    (landed : world.inFlight operationId = none) :
    Coherent ids { world with
      seen := world.seen.filter (·.1 ≠ operationId)
      log := .rejectedBusy id operationId :: world.log } := by
  have keys : ∀ other, other ∈ (world.seen.filter fun entry => entry.1 ≠ operationId).map Prod.fst ↔
      other ≠ operationId ∧ other ∈ world.seen.map Prod.fst := by
    intro other
    simp only [List.mem_map, List.mem_filter, ne_eq, decide_eq_true_eq]
    constructor
    · rintro ⟨entry, ⟨member, different⟩, rfl⟩
      exact ⟨different, entry, member, rfl⟩
    · rintro ⟨different, entry, member, rfl⟩
      exact ⟨entry, ⟨member, different⟩, rfl⟩
  refine ⟨⟨?_, fun other member => coherent.known other ((keys other).mp member).2⟩,
    fun other call flight => ?_, fun other => ?_⟩
  · exact coherent.nodup.sublist (List.filter_sublist.map Prod.fst)
  · rw [keys]
    refine ⟨?_, coherent.flying other call flight⟩
    rintro rfl
    rw [show world.inFlight other = none from landed] at flight
    cases flight
  · have earlier := coherent.counted other
    dsimp only
    rw [List.countP_cons, List.countP_cons]
    by_cases same : other = operationId
    · subst same
      rw [if_pos present] at earlier
      rw [if_neg fun member => ((keys other).mp member).1 rfl]
      simp [isRequested, isRejected, earlier]
    · have sameKey : other ∈ (world.seen.filter fun entry => entry.1 ≠ operationId).map Prod.fst ↔
          other ∈ world.seen.map Prod.fst := by
        rw [keys]
        exact and_iff_right same
      have differs : ¬operationId = other := fun isOther => same isOther.symm
      simp only [isRequested, isRejected, sameKey, differs, decide_false, Bool.false_eq_true,
        if_false, Nat.add_zero]
      exact earlier

theorem Coherent.recall (coherent : Coherent ids world) (few : ids.card ≤ 1024)
    {operationId : String} (present : operationId ∈ world.seen.map Prod.fst) (turn : String) :
    Coherent ids { world with seen := remember world.seen operationId turn } := by
  rcases coherent.toKept.remember (coherent.known operationId present) few turn with ⟨kept, keys⟩
  have sameKeys : ∀ other, other ∈ (remember world.seen operationId turn).map Prod.fst ↔
      other ∈ world.seen.map Prod.fst := by
    intro other
    rw [keys]
    constructor
    · rintro (rfl | member)
      · exact present
      · exact member
    · exact Or.inr
  refine ⟨kept, fun other call flight => (sameKeys other).mpr (coherent.flying other call flight),
    fun other => ?_⟩
  have earlier := coherent.counted other
  simp only [sameKeys]
  exact earlier

theorem Coherent.served {request : ActivationRequest} {past : Past} {command : Command}
    {rest : Program Command Reply (Option ActivationOutcome)} (few : ids.card ≤ 1024)
    (coherent : Coherent ids world)
    (knows : Knows host binding ids world id ⟨request, past, rest⟩)
    (asks : Asks host binding request past command) :
    Coherent ids (serve host id command world).2 ∧
      Effect ids id world command (serve host id command world).2 := by
  cases command with
  | read => exact ⟨coherent, fun _ _ member => Or.inl member, fun _ _ _ flight => flight⟩
  | submit operationId =>
      dsimp only [serve]
      by_cases found : (world.seen.any fun entry => entry.1 = operationId) = true
      · rw [if_pos found]
        exact ⟨coherent, fun _ _ member => Or.inl member, fun _ _ _ flight => flight⟩
      · rw [if_neg found]
        have fresh := mt any_key_iff.mpr found
        refine ⟨coherent.submit few (asks.1 ▸ knows.member) fresh, fun call other member => ?_,
          fun other call _ flight => ?_⟩
        · rcases List.mem_cons.mp member with same | earlier
          · cases same
            exact Or.inr ⟨rfl, rfl⟩
          · exact Or.inl earlier
        · dsimp only
          rw [Function.update_of_ne]
          · exact flight
          · rintro rfl
            exact fresh (coherent.flying other call flight)
  | settle operationId =>
      rcases asks.2 with ⟨older, isPast⟩
      have flight := knows.flying operationId older isPast
      have present := coherent.flying operationId id flight
      have landed := coherent.landed operationId
      have others : ∀ other call, call ≠ id → world.inFlight other = some call →
          Function.update world.inFlight operationId none other = some call := by
        intro other call different flying
        rw [Function.update_of_ne]
        · exact flying
        · rintro rfl
          rw [flight] at flying
          exact different (Option.some.inj flying).symm
      dsimp only [serve, World.settle]
      split
      · split
        · exact ⟨landed, fun _ _ member => Or.inl member, others⟩
        · split
          · exact ⟨landed, fun _ _ member => Or.inl member, others⟩
          · exact ⟨landed.recall few present _, fun _ _ member => Or.inl member, others⟩
      · split
        · exact ⟨landed, fun _ _ member => Or.inl member, others⟩
        · split
          · exact ⟨landed, fun _ _ member => Or.inl member, others⟩
          · split
            · refine ⟨landed.forget present (Function.update_self ..), fun call other member => ?_,
                others⟩
              rcases List.mem_cons.mp member with same | earlier
              · cases same
              · exact Or.inl earlier
            · exact ⟨landed, fun _ _ member => Or.inl member, others⟩

/-- What another call's command leaves known. -/
theorem Knows.mono {command : Command} {call : CodexCall} {other : Nat} (different : other ≠ id)
    (effect : Effect ids id world command after) (knows : Knows host binding ids world other call) :
    Knows host binding ids after other call where
  member := knows.member
  named := knows.named
  requested operationId member := by
    rcases effect.requested other operationId member with earlier | ⟨isOwn, -⟩
    · exact knows.requested operationId earlier
    · exact absurd isOwn different
  flying operationId older isPast :=
    effect.flying operationId other different (knows.flying operationId older isPast)

theorem Knows.served {request : ActivationRequest} {past : Past} {command : Command}
    {rest : Program Command Reply (Option ActivationOutcome)}
    {next : Program Command Reply (Option ActivationOutcome)}
    (knows : Knows host binding ids world id ⟨request, past, rest⟩)
    (asks : Asks host binding request past command)
    (names : command = .read → ∀ thread, world.thread = some thread → Named host request thread)
    (effect : Effect ids id world command (serve host id command world).2) :
    Knows host binding ids (serve host id command world).2 id
      ⟨request, ⟨command, (serve host id command world).1⟩ :: past, next⟩ where
  member := knows.member
  named thread member := by
    rcases List.mem_cons.mp member with head | earlier
    · rcases reply_of_head (fun asked => (serve host id asked world).1) head with ⟨isReply, isRead⟩
      exact names isRead.symm thread isReply.symm
    · exact knows.named thread earlier
  requested operationId member := by
    rcases effect.requested id operationId member with earlier | ⟨-, isSubmit⟩
    · rcases knows.requested operationId earlier with ⟨isOwn, notRecovering, asked, proceeds⟩
      refine ⟨isOwn, notRecovering, List.cons_ne_nil _ _, fun thread read => ?_⟩
      rcases List.mem_cons.mp read with head | before
      · rcases reply_of_head (fun asked => (serve host id asked world).1) head with ⟨-, isRead⟩
        subst isRead
        exact absurd asks asked
      · exact proceeds thread before
    · subst isSubmit
      rcases asks with ⟨isOwn, notRecovering, thread, isPast, proceeds⟩
      refine ⟨isOwn, notRecovering, List.cons_ne_nil _ _, fun found read => ?_⟩
      rcases List.mem_cons.mp read with head | before
      · rcases reply_of_head (fun asked => (serve host id asked world).1) head with ⟨-, isRead⟩
        cases isRead
      · rw [isPast, List.mem_singleton] at before
        cases before
        exact proceeds
  flying operationId older isPast := by
    rcases List.cons.inj isPast with ⟨head, -⟩
    rcases reply_of_head (fun asked => (serve host id asked world).1) head.symm with
      ⟨isReply, isSubmit⟩
    subst isSubmit
    dsimp only [serve] at isReply ⊢
    split
    · next found =>
        rw [if_pos found] at isReply
        cases isReply
    · exact Function.update_self ..

theorem preserves_coherent (few : ids.card ≤ 1024) :
    Protocol.Preserves (adapterProtocol host binding ids)
      (fun world id call command => ReadsNamed host world id call command ∧
        Asks host binding call.input call.past command)
      (Coherent ids) (Knows host binding ids)
      fun world id => ∀ operationId, .requested id operationId ∉ world.log where
  opened _ silent opens :=
    { member := opens
      named := fun _ read => absurd read List.not_mem_nil
      requested := fun operationId member => absurd member (silent operationId)
      flying := fun _ _ isPast => nomatch isPast }
  served coherent knows meets := by
    rcases Coherent.served few coherent knows meets.2 with ⟨kept, effect⟩
    refine ⟨kept, knows.served meets.2 meets.1 effect, fun other different =>
      ⟨fun _ known => known.mono different effect, fun silent operationId member => ?_⟩⟩
    rcases effect.requested other operationId member with earlier | ⟨isOwn, -⟩
    · exact silent operationId earlier
    · exact different isOwn
  moved coherent moves := by
    cases moves
    exact ⟨⟨coherent.toKept, coherent.flying, coherent.counted⟩, fun _ =>
      ⟨fun _ known => ⟨known.member, known.named, known.requested, known.flying⟩,
        fun silent => silent⟩⟩

theorem Initial.coherent (initial : Initial world) : Coherent ids world where
  nodup := by
    rw [initial.seen]
    exact List.nodup_nil
  known key member := by
    rw [initial.seen] at member
    cases member
  flying operationId call flight := by
    rw [initial.inFlight] at flight
    cases flight
  counted operationId := by
    rw [initial.seen, initial.log]
    rfl

theorem submitsOnce_of_reachable (few : ids.card ≤ 1024) {system : AdapterSystem}
    (reached : (adapterProtocol host binding ids).Reachable (ReadsNamed host) Initial system) :
    SubmitsOnce system := by
  have holds := (reached.asking (follows_activate host binding)).invariant
    (fun world initial => ⟨initial.coherent, fun id operationId member => by
      rw [initial.log] at member
      cases member⟩) (preserves_coherent few)
  refine ⟨fun operationId => ?_, fun id operationId member => ?_,
    fun id call running recovering operationId member => ?_,
    fun id call running thread read visible operationId member => ?_⟩
  · have counted := holds.shared.counted operationId
    split at counted <;> omega
  · cases running : system.calls id with
    | none => exact absurd member (holds.idle id running operationId)
    | some call =>
        exact ⟨call, rfl, ((holds.own id call running).requested operationId member).1.symm⟩
  · rw [((holds.own id call running).requested operationId member).2.1] at recovering
    cases recovering
  · have knows := holds.own id call running
    exact examine_ne_proceeds host visible (knows.named thread read)
      ((knows.requested operationId member).2.2.2 thread read)

end Runs

/-! ## The Pi adapter -/

namespace Pi

section Runs

variable {host : Host} {binding : Binding} {ids : Finset String}

/-- `sendMessage` was called for the operation. -/
def isSend (operationId : String) (done : Call × Bool) : Bool :=
  done.2 && done.1.request.operationId = operationId

def anyCall : Call → Prop := fun _ => True

/-- What holds of the messages of a run, where the calls meet the condition. -/
structure SendsOnce (condition : Call → Prop) (dones : List (Call × Bool)) : Prop where
  once : ∀ operationId, dones.countP (isSend operationId) ≤ 1
  recovering : ∀ call, (call, true) ∈ dones → call.request.recoverOnly = false
  visible : ∀ call, (call, true) ∈ dones → condition call →
    ¬Visible call.request.operationId call.context.entries

theorem completion_of_marks {operationId turn : String} {entry data : Json}
    (marks : Marks operationId entry data)
    (runtime : isText (data.field "runtime_id") binding.runtimeId = true)
    (isTurn : data.field "turn_id" = some (.string turn)) :
    completion binding operationId entry = some turn := by
  rw [completion, if_pos ⟨marks.custom, marks.marker⟩, marks.found]
  dsimp only
  rw [if_pos ⟨marks.operation, runtime⟩, isTurn]
  rfl

theorem submission_of_carries {operationId : String} {entry message details : Json}
    (carries : Carries operationId entry message details) :
    submission operationId entry = some details := by
  rw [submission, carries.found]
  dsimp only
  rw [if_pos ⟨carries.kind, carries.role, carries.custom⟩, carries.held, Option.filter_some,
    if_pos carries.operation]

/-- What is visible and legible is recorded. -/
theorem recorded_of_visible {operationId : String} {entries : List Json}
    (visible : Visible operationId entries) (legible : LegibleIn binding operationId entries) :
    recorded binding operationId entries ≠ none := by
  have known : (∃ entry ∈ entries, ∃ turn, completion binding operationId entry = some turn) ∨
      Shown operationId entries := by
    rcases visible with marked | shown
    · rcases legible marked with ⟨entry, member, data, turn, marks, runtime, isTurn⟩ | shown
      · exact Or.inl ⟨entry, member, turn, completion_of_marks marks runtime isTurn⟩
      · exact Or.inr shown
    · exact Or.inr shown
  unfold recorded
  cases completed : entries.findSome? (completion binding operationId) with
  | some turn => simp
  | none =>
      rcases known with ⟨entry, member, turn, isTurn⟩ | ⟨entry, member, message, details, carries⟩
      · rw [List.findSome?_eq_none_iff.mp completed entry member] at isTurn
        cases isTurn
      · cases found : entries.findSome? (submission operationId) with
        | none =>
            have absent := List.findSome?_eq_none_iff.mp found entry member
            rw [submission_of_carries carries] at absent
            cases absent
        | some details =>
            dsimp only
            split <;> simp

/-- What one call does: nothing to the adapter, or a message and its key. -/
theorem activate_cases (call : Call) (adapter : Adapter) (few : ids.card ≤ 1024)
    (kept : Kept ids adapter.submitted) (isId : call.request.operationId ∈ ids) :
    ((activate host binding call adapter).2.1 = false ∧
        (activate host binding call adapter).2.2 = adapter) ∨
      ((activate host binding call adapter).2.1 = true ∧
        call.request.recoverOnly = false ∧
        (Legible binding call → ¬Visible call.request.operationId call.context.entries) ∧
        call.request.operationId ∉ adapter.submitted.map Prod.fst ∧
        Kept ids (activate host binding call adapter).2.2.submitted ∧
        ∀ other, other ∈ (activate host binding call adapter).2.2.submitted.map Prod.fst ↔
          other = call.request.operationId ∨ other ∈ adapter.submitted.map Prod.fst) := by
  rw [activate]
  split
  · exact Or.inl ⟨rfl, rfl⟩
  · split
    · exact Or.inl ⟨rfl, rfl⟩
    · next unseen =>
        split
        · exact Or.inl ⟨rfl, rfl⟩
        · exact Or.inl ⟨rfl, rfl⟩
        · next fresh =>
            split
            · exact Or.inl ⟨rfl, rfl⟩
            · next notRecovering =>
                have first := kept.remember isId few Submitted.ambiguous
                have second := first.1.remember isId few Submitted.queued
                have absent : call.request.operationId ∉ adapter.submitted.map Prod.fst := by
                  intro member
                  rcases List.mem_map.mp member with ⟨entry, inside, same⟩
                  simpa [same] using List.lookup_eq_none_iff.mp fresh entry inside
                have hidden : Legible binding call →
                    ¬Visible call.request.operationId call.context.entries :=
                  fun legible visible => recorded_of_visible visible legible unseen
                right
                dsimp only
                split
                · exact ⟨rfl, by simpa using notRecovering, hidden, absent, first.1, first.2⟩
                · refine ⟨rfl, by simpa using notRecovering, hidden, absent, second.1,
                    fun other => ?_⟩
                  rw [second.2, first.2]
                  tauto

theorem SendsOnce.silent {condition : Call → Prop} {dones : List (Call × Bool)}
    (later : SendsOnce condition dones) (call : Call) :
    SendsOnce condition ((call, false) :: dones) where
  once operationId := by
    rw [List.countP_cons]
    exact later.once operationId
  recovering other done := by
    rcases List.mem_cons.mp done with head | done
    · cases head
    · exact later.recovering other done
  visible other done := by
    rcases List.mem_cons.mp done with head | done
    · cases head
    · exact later.visible other done

/-- A call may send what no later one sends. -/
theorem SendsOnce.sent {condition : Call → Prop} {dones : List (Call × Bool)}
    (later : SendsOnce condition dones) {call : Call}
    (notRecovering : call.request.recoverOnly = false)
    (hidden : condition call → ¬Visible call.request.operationId call.context.entries)
    (never : dones.countP (isSend call.request.operationId) = 0) :
    SendsOnce condition ((call, true) :: dones) where
  once operationId := by
    rw [List.countP_cons]
    by_cases isOwn : call.request.operationId = operationId
    · rw [← isOwn, never]
      split <;> omega
    · have once := later.once operationId
      simp only [isSend, isOwn, decide_false, Bool.and_false, Bool.false_eq_true,
        if_false, Nat.add_zero]
      exact once
  recovering other done := by
    rcases List.mem_cons.mp done with head | done
    · cases head
      exact notRecovering
    · exact later.recovering other done
  visible other done := by
    rcases List.mem_cons.mp done with head | done
    · cases head
      exact hidden
    · exact later.visible other done

/-- A run of the adapter sends each operation once, and none that it remembers. -/
theorem sendsOnce_of_kept (few : ids.card ≤ 1024) (steps : List Step) (adapter : Adapter)
    (kept : Kept ids adapter.submitted)
    (fromIds : ∀ call, .activate call ∈ steps → call.request.operationId ∈ ids) :
    SendsOnce (Legible binding) (run host binding steps adapter) ∧
      ∀ operationId ∈ adapter.submitted.map Prod.fst,
        (run host binding steps adapter).countP (isSend operationId) = 0 := by
  induction steps generalizing adapter with
  | nil =>
      refine ⟨⟨fun _ => Nat.zero_le 1, fun _ done => ?_, fun _ done => ?_⟩, fun _ _ => rfl⟩
      · cases done
      · cases done
  | cons step steps induction =>
      have rest : ∀ call, .activate call ∈ steps → call.request.operationId ∈ ids :=
        fun call member => fromIds call (List.mem_cons_of_mem _ member)
      cases step with
      | invalidate => exact induction _ kept rest
      | activate call =>
          have isId := fromIds call List.mem_cons_self
          rw [run]
          rcases activate_cases call adapter few kept isId with
            ⟨silent, same⟩ | ⟨sent, notRecovering, hidden, absent, keptAfter, keys⟩
          · rw [silent, same]
            rcases induction adapter kept rest with ⟨later, remembered⟩
            refine ⟨later.silent call, fun operationId member => ?_⟩
            rw [List.countP_cons]
            exact remembered operationId member
          · rw [sent]
            rcases induction _ keptAfter rest with ⟨later, remembered⟩
            have never := remembered _ ((keys _).mpr (Or.inl rfl))
            refine ⟨later.sent notRecovering hidden never, fun operationId member => ?_⟩
            have differs : ¬call.request.operationId = operationId := by
              intro isOwn
              exact absent (isOwn ▸ member)
            rw [List.countP_cons, remembered operationId ((keys operationId).mpr (Or.inr member))]
            simp [isSend, differs]

end Runs

end Pi

/-! ## Both adapters -/

theorem native_submission_at_most_once (host : Host) (binding : Binding) (ids : Finset String)
    (few : ids.card ≤ 1024) :
    (∀ system, (adapterProtocol host binding ids).Reachable (ReadsNamed host) Initial system →
      SubmitsOnce system) ∧
      ∀ steps : List Pi.Step,
        (∀ call, .activate call ∈ steps → call.request.operationId ∈ ids) →
        Pi.SendsOnce (Pi.Legible binding) (Pi.run host binding steps ⟨[], false⟩) := by
  constructor
  · intro system reached
    exact submitsOnce_of_reachable few reached
  · intro steps fromIds
    have fresh : Kept ids ([] : List (String × Pi.Submitted)) :=
      ⟨List.nodup_nil, fun _ member => absurd member List.not_mem_nil⟩
    exact (Pi.sendsOnce_of_kept few steps ⟨[], false⟩ fresh fromIds).1

/-! ## A turn without an id, and a marker without a turn -/

section Unnamed

def exampleHost : Host where
  numbers := ⟨fun token => Decimal.value token.text = 0, fun left right => left = right,
    fun token => String.ofList token.text⟩
  lower := String.toLower
  resolve path := path
  isAbsolute path := path.startsWith "/"

def exampleBinding : Binding := ⟨"t", "1", "/w"⟩

def exampleRequest : ActivationRequest := ⟨"op", "Check the inbox", false⟩

/-- The thread of the binding with some turns. -/
def threadOf (turns : List Json) : Json :=
  .object [("id", .string "t"), ("cwd", .string "/w"), ("turns", .array turns)]

/-- A completed turn with the message of the operation. -/
def turnWithId (id : String) : Json :=
  .object [("id", .string id), ("status", .string "completed"),
    ("items", .array [.object [("type", .string "userMessage"), ("clientId", .string "op")]])]

/-- A new adapter before a thread, for which every request is refused as busy. -/
def busyWorld (turns : List Json) : World where
  seen := []
  thread := some (threadOf turns)
  response := .raised "Error: Codex RPC rejected: thread is busy"
  aborted := false
  log := []
  inFlight := fun _ => none

theorem busyWorld_initial (turns : List Json) : Initial (busyWorld turns) := ⟨rfl, rfl, rfl⟩

abbrev exampleProtocol := adapterProtocol exampleHost exampleBinding {"op"}

/-- The first `count` commands of call 0. -/
def oneCall (turns : List Json) (count : Nat) : AdapterSystem :=
  (fun before => exampleProtocol.advance before 0)^[count]
    (exampleProtocol.start ⟨busyWorld turns, fun _ => none⟩ 0 exampleRequest)

theorem oneCall_reachable (turns : List Json) (count : Nat) :
    exampleProtocol.Reachable anyStep Initial (oneCall turns count) := by
  have empty : exampleProtocol.Reachable anyStep Initial ⟨busyWorld turns, fun _ => none⟩ :=
    Protocol.Reachable.init (busyWorld_initial turns)
  have started := empty.start 0 exampleRequest rfl (Finset.mem_singleton_self _)
  exact started.advances 0 count fun _ _ _ _ => trivial

theorem unnamed_requested : (oneCall [turnWithId ""] 2).world.log = [.requested 0 "op"] := by
  decide +kernel

theorem unnamed_read : ∃ call, (oneCall [turnWithId ""] 2).calls 0 = some call ∧
    call.input = exampleRequest ∧ ⟨.read, some (threadOf [turnWithId ""])⟩ ∈ call.past := by
  have first : ∃ rest, (oneCall [turnWithId ""] 1).calls 0 =
      some ⟨exampleRequest, [⟨.read, some (threadOf [turnWithId ""])⟩], rest⟩ := ⟨_, rfl⟩
  rcases first with ⟨rest, running⟩
  have second : oneCall [turnWithId ""] 2 =
      exampleProtocol.advance (oneCall [turnWithId ""] 1) 0 := rfl
  rw [second, Protocol.advance, running]
  cases rest with
  | done result => exact ⟨_, running, rfl, List.mem_singleton_self _⟩
  | call command next =>
      dsimp only
      rw [Function.update_self]
      exact ⟨_, rfl, rfl, List.mem_cons_of_mem _ (List.mem_singleton_self _)⟩

/-- A marker that names no turn. -/
def markerWithoutTurn : Json :=
  .object [("type", .string "custom"),
    ("customType", .string "gptqueue-inbox-activation-completed"),
    ("data", .object [("operation_id", .string "op"), ("runtime_id", .string "t")])]

def markedCall : Pi.Call :=
  ⟨exampleRequest, ⟨"t", some "/w", [markerWithoutTurn], none⟩, false, false⟩

/-- The history shows the operation in a turn without an id, or the session in a marker
without a turn, and it is submitted again. -/
theorem visible_operation_submitted :
    (¬∀ system, exampleProtocol.Reachable anyStep Initial system → SubmitsOnce system) ∧
      ¬Pi.SendsOnce Pi.anyCall
        (Pi.run exampleHost exampleBinding [.activate markedCall] ⟨[], false⟩) := by
  constructor
  · intro always
    have once := always _ (oneCall_reachable [turnWithId ""] 2)
    rcases unnamed_read with ⟨call, running, isRequest, read⟩
    apply once.visible 0 call running (threadOf [turnWithId ""]) read
    · rw [isRequest]
      exact ⟨[turnWithId ""], rfl, turnWithId "", List.mem_cons_self, by decide +kernel⟩
    · rw [unnamed_requested]
      exact List.mem_cons_self
  · intro once
    have sent : (Pi.activate exampleHost exampleBinding markedCall ⟨[], false⟩).2.1 = true := by
      decide +kernel
    apply once.visible markedCall
    · rw [Pi.run, sent]
      exact List.mem_cons_self
    · trivial
    · exact Or.inl ⟨markerWithoutTurn, List.mem_cons_self, _, ⟨rfl, rfl, rfl, rfl⟩⟩

/-- Without turns the operation is submitted once, and refused. -/
theorem idle_operation_submitted : ∃ system,
    exampleProtocol.Reachable (ReadsNamed exampleHost) Initial system ∧
      system.world.log = [.rejectedBusy 0 "op", .requested 0 "op"] ∧ SubmitsOnce system := by
  have empty : exampleProtocol.Reachable (ReadsNamed exampleHost) Initial
      ⟨busyWorld [], fun _ => none⟩ := Protocol.Reachable.init (busyWorld_initial [])
  have started := empty.start 0 exampleRequest rfl (Finset.mem_singleton_self _)
  have named : ∀ request, Named exampleHost request (threadOf []) := by
    rintro request ⟨turns, isTurns, turn, member, -⟩
    cases isTurns
    cases member
  have read := started.advance_asked 0 .read rfl fun call _ thread isThread =>
    Option.some.inj isThread ▸ named call.input
  have submitted := read.advance_asked 0 (.submit "op") rfl fun _ isRead => nomatch isRead
  have settled := submitted.advance_asked 0 (.settle "op") rfl fun _ isRead => nomatch isRead
  exact ⟨_, settled, by decide +kernel,
    (native_submission_at_most_once exampleHost exampleBinding {"op"} (by decide)).1 _ settled⟩

end Unnamed

end GptQueue.RuntimeAdapter
