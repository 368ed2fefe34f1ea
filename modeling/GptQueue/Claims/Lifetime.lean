import GptQueue.Claims.Renewal

/-! # The lifetime of a claim

Runs of claims and renewals, with a log of the claims that were made. A stored claim keeps
what it was made with, apart from its expiry, which stays within a day of its making.
-/

namespace GptQueue.Claims

open Redis
open IsoDate (InRange isoFromMs msFromIso toISOString)

/-! ## Runs -/

/-- The arguments that the tools give to the scripts, at an instant of the clock. -/
def Action.Issued : Action → Prop
  | .batchClaim args => ∃ (input : ClaimInput) (claimId : String) (now : Int),
      input.valid = true ∧ input.now = toISOString now ∧ InRange now ∧
        InRange (now + input.ttlSeconds.num * 1000) ∧
          args = batchClaimArgs input claimId (now + input.ttlSeconds.num * 1000)
  | .renew args => ∃ input : RenewInput, input.valid = true ∧
      input.budgetSeconds = claimLifetimeBudgetSeconds ∧ InRange input.now ∧
        InRange (input.now + input.ttlSeconds.num * 1000) ∧ args = input.args
  | _ => True

/-- The claim that a batch claim returns, with its id. -/
def Action.created (cjson : Cjson) (keyspace : Keyspace Key) : Action → List (String × String)
  | .batchClaim args =>
      match ((Claims.batchClaim cjson args).run keyspace).1 with
      | .ok (.claimed stored) => [(args.claimId, stored)]
      | _ => []
  | _ => []

/-- A keyspace and the claims made so far, latest first. -/
structure History where
  keyspace : Keyspace Key
  created : List (String × String)

def History.empty : History := ⟨Keyspace.empty, []⟩

def History.after (cjson : Cjson) (history : History) (action : Action) : History :=
  ⟨action.after cjson history.keyspace, action.created cjson history.keyspace ++ history.created⟩

/-- A batch claim draws an id that no claim had. -/
def History.Unused (history : History) : Action → Prop
  | .batchClaim args => ∀ entry ∈ history.created, entry.1 ≠ args.claimId
  | _ => True

/-- Runs from a history, in which every action meets a condition. -/
inductive LeaseRun (cjson : Cjson) (condition : History → Action → Prop) (start : History) :
    History → Prop
  | start : LeaseRun cjson condition start start
  | step {history : History} (earlier : LeaseRun cjson condition start history) (action : Action)
      (admissible : action.Admissible history.keyspace) (unused : history.Unused action)
      (issued : action.Issued) (meets : condition history action) :
      LeaseRun cjson condition start (history.after cjson action)

def anyAction (_ : History) (_ : Action) : Prop := True

/-! ## Issued arguments -/

theorem num_bounds {number low high : ℚ} (within : isIntegerIn low high number = true) :
    low ≤ number.num ∧ (number.num : ℚ) ≤ high := by
  rw [isIntegerIn, Bool.and_eq_true, Bool.and_eq_true, decide_eq_true_eq, decide_eq_true_eq]
    at within
  have whole : (number.num : ℚ) = number := Rat.den_eq_one_iff number |>.mp (by
    simpa [Rat.isInt] using within.1.1)
  rw [whole]
  exact ⟨within.1.2, within.2⟩

theorem ttl_bounds {number : ℚ} (within : isIntegerIn 1 3600 number = true) :
    1 ≤ number.num ∧ number.num ≤ 3600 := by
  have bounds := num_bounds within
  exact ⟨by exact_mod_cast bounds.1, by exact_mod_cast bounds.2⟩

theorem ClaimInput.ttl {input : ClaimInput} (valid : input.valid = true) :
    1 ≤ input.ttlSeconds.num ∧ input.ttlSeconds.num ≤ 3600 := by
  rw [ClaimInput.valid, Bool.and_eq_true, Bool.and_eq_true] at valid
  exact ttl_bounds valid.1.2

theorem Action.Issued.inClock {action : Action} (issued : action.Issued) : action.InClock := by
  cases action with
  | batchClaim args =>
      rcases issued with ⟨input, claimId, now, -, -, -, latest, rfl⟩
      exact ⟨rfl, latest⟩
  | renew args =>
      rcases issued with ⟨input, -, -, now, latest, rfl⟩
      exact ⟨now, latest⟩
  | _ => trivial

/-! ## What an action leaves stored -/

section Stored

variable {cjson : Cjson} {keyspace : Keyspace Key}

/-- Where a stored claim comes from. -/
inductive Origin (cjson : Cjson) (keyspace : Keyspace Key) (claim : TaskClaim) : Action → Prop
  | kept (action : Action) (stored : Stored cjson keyspace claim) :
      Origin cjson keyspace claim action
  | made (args : BatchClaimArgs) (tasks : List String) (isClaim : claim = args.claim tasks)
      (created : (Action.batchClaim args).created cjson keyspace =
        [(claim.claimId, cjson.encode claim.toJson)]) :
      Origin cjson keyspace claim (.batchClaim args)
  | renewed (args : RenewArgs) (old : TaskClaim) (claimedMs expiresMs : Int)
      (stored : Stored cjson keyspace old) (sameId : old.claimId = args.claimId)
      (renewable : Renewable args old claimedMs expiresMs)
      (isClaim : claim = old.renewedTo (args.newExpires claimedMs)) :
      Origin cjson keyspace claim (.renew args)

theorem origin_batchClaim (roundTrips : RoundTrips cjson) (sound : Sound cjson keyspace)
    {args : BatchClaimArgs} (positive : 0 < args.maxBatch) {claim : TaskClaim}
    (stored : Stored cjson (Action.after cjson keyspace (.batchClaim args)) claim) :
    Origin cjson keyspace claim (.batchClaim args) := by
  have index := sound.typed.index args.actorId
  have inbox := sound.typed.inbox args.actorId
  rw [Action.after] at stored
  cases reached : ceilingReached args keyspace with
  | true =>
      rw [run_batchClaim_ceiling index reached] at stored
      exact .kept _ stored
  | false =>
      by_cases empty : keyspace.items (.queue args.actorId) = []
      · rw [run_batchClaim_empty index reached positive inbox empty] at stored
        exact .kept _ stored
      · have ran := @run_batchClaim_claimed cjson args keyspace index reached positive inbox empty
          sound.typed.claims
        rw [ran, Sound.stored_putClaim roundTrips (take_ne_nil positive empty)] at stored
        rcases stored with rfl | ⟨stored, -⟩
        · apply Origin.made args _ rfl
          rw [Action.created, ran]
          rfl
        · exact .kept _ ((SameClaims.popped _ _ _).stored stored)

theorem origin_renew (roundTrips : RoundTrips cjson) (sound : Sound cjson keyspace)
    {args : RenewArgs} {claim : TaskClaim}
    (stored : Stored cjson (Action.after cjson keyspace (.renew args)) claim) :
    Origin cjson keyspace claim (.renew args) := by
  have indexed : ∀ other : TaskClaim, (keyspace.fields .claims).lookup other.claimId =
      some (cjson.encode other.toJson) → other.tasks ≠ [] →
      other.claimId ∈ keyspace.scores (.claimsIndex other.actorId) :=
    fun other found tasks => (sound.indexed _ _).mpr ⟨other, ⟨tasks, found⟩, rfl, rfl⟩
  rw [Action.after] at stored
  rcases @run_renew cjson keyspace args roundTrips sound.typed sound.claimsValid indexed with
    ⟨reply, unchanged, -⟩ | ⟨old, claimedMs, expiresMs, found, tasks, sameId, renewable, ran⟩
  · rw [unchanged] at stored
    exact .kept _ stored
  · have still : (old.renewedTo (args.newExpires claimedMs)).tasks ≠ [] := tasks
    rw [ran, Sound.stored_putClaim roundTrips still] at stored
    rcases stored with same | ⟨stored, -⟩
    · exact .renewed args old claimedMs expiresMs ⟨tasks, found⟩ sameId renewable same
    · exact .kept _ stored

theorem origin_change {action : Action} {after : Keyspace Key}
    {accepted acknowledged : List String}
    (change : Change cjson keyspace action after accepted acknowledged)
    (notClaim : ∀ args, action ≠ .batchClaim args) (notRenew : ∀ args, action ≠ .renew args)
    {claim : TaskClaim}
    (stored : Stored cjson after claim) : Origin cjson keyspace claim action := by
  cases change with
  | none => exact .kept _ stored
  | pushed => exact .kept _ ((SameClaims.pushInbox _ _ _).stored stored)
  | recovered nodup indexed moved => exact .kept _ (stored_recovered moved stored)
  | claimed args => exact absurd rfl (notClaim args)
  | @renewed args => exact absurd rfl (notRenew args)
  | acknowledged => exact .kept _ (Sound.stored_dropClaim.mp stored).1
  | requeued => exact .kept _ ((SameClaims.requeued _ _ _).stored stored)
  | migrated => exact .kept _ ((SameClaims.transferred _ _ _).stored stored)
  | migratedDead =>
      exact .kept _ ((SameClaims.transferred _ _ _).stored
        ((SameClaims.transferredDead _ _ _ _).stored stored))

/-- A claim that is stored after an action was stored before it, or the action has made or
renewed it. -/
theorem origin_after (roundTrips : RoundTrips cjson) (reads : ReadsMessages cjson)
    (sound : Sound cjson keyspace) {action : Action} (admissible : action.Admissible keyspace)
    {claim : TaskClaim} (stored : Stored cjson (action.after cjson keyspace) claim) :
    Origin cjson keyspace claim action := by
  by_cases isClaim : ∃ args, action = .batchClaim args
  · rcases isClaim with ⟨args, rfl⟩
    exact origin_batchClaim roundTrips sound admissible.1 stored
  by_cases isRenew : ∃ args, action = .renew args
  · rcases isRenew with ⟨args, rfl⟩
    exact origin_renew roundTrips sound stored
  · have notClaim : ∀ args, action ≠ .batchClaim args := fun args same => isClaim ⟨args, same⟩
    have notRenew : ∀ args, action ≠ .renew args := fun args same => isRenew ⟨args, same⟩
    cases deletes : action.deletes with
    | false =>
        rcases Action.change roundTrips reads sound admissible deletes with ⟨exact, same, change⟩
        exact origin_change change notClaim notRenew ((SameClaims.of_sameTasks same).stored stored)
    | true =>
        cases action with
        | purge actor =>
            rcases run_purgeActorClaims cjson actor sound.typed with ⟨count, after, ran, purged⟩
            rw [Action.after, ran] at stored
            exact .kept _ ((stored_purged sound roundTrips purged).mp stored).1
        | unregister name sessionId =>
            obtain ⟨before, purged, sameBefore, purge, sameAfter⟩ :=
              run_unregister cjson sound.typed name sessionId
            have isStored := ((SameClaims.of_sameTasks sameAfter).trans
              (SameClaims.store _ _ (by simp) (by simp))).stored stored
            have clean :=
              (stored_purged (sound.of_sameTasks sameBefore) roundTrips purge).mp isStored
            exact .kept _ ((SameClaims.of_sameTasks sameBefore).stored clean.1)
        | _ => cases deletes

end Stored

/-! ## The invariant -/

/-- A claim was made with everything but its expiry, at most a day before it. -/
structure Lasts (cjson : Cjson) (created : List (String × String)) (claim : TaskClaim) : Prop where
  made : ∃ original : TaskClaim,
    created.lookup claim.claimId = some (cjson.encode original.toJson) ∧
    claim = { original with expiresAt := claim.expiresAt }
  dates : ∃ claimedMs expiresMs, InRange claimedMs ∧ InRange expiresMs ∧
    claim.claimedAt = toISOString claimedMs ∧ claim.expiresAt = toISOString expiresMs ∧
      expiresMs ≤ claimedMs + claimLifetimeBudgetSeconds * 1000

section Invariant

variable {cjson : Cjson} {history : History} {claim : TaskClaim}

/-- Claims with other ids do not matter. -/
theorem Lasts.after (lasts : Lasts cjson history.created claim) (action : Action)
    (unused : history.Unused action) :
    Lasts cjson (history.after cjson action).created claim := by
  refine ⟨?_, lasts.dates⟩
  rcases lasts.made with ⟨original, found, same⟩
  refine ⟨original, ?_, same⟩
  rw [History.after]
  unfold Action.created
  split
  next args =>
    split
    next stored _ =>
      have entry : (claim.claimId, cjson.encode original.toJson) ∈ history.created := by
        rcases List.lookup_eq_some_iff.mp found with ⟨before, later, isCreated, -⟩
        rw [isCreated]
        exact List.mem_append_cons_self
      have other : claim.claimId ≠ args.claimId := unused _ entry
      rw [List.singleton_append, List.lookup_cons, beq_eq_false_iff_ne.mpr other]
      exact found
    · exact found
  · exact found

theorem lasts_made {args : BatchClaimArgs} {tasks : List String}
    (issued : (Action.batchClaim args).Issued) (isClaim : claim = args.claim tasks)
    (created : (Action.batchClaim args).created cjson history.keyspace =
      [(claim.claimId, cjson.encode claim.toJson)]) :
    Lasts cjson (history.after cjson (.batchClaim args)).created claim := by
  rcases issued with ⟨input, claimId, now, valid, isNow, inRange, latest, rfl⟩
  refine ⟨⟨claim, ?_, rfl⟩, now, _, inRange, latest, ?_, ?_, ?_⟩
  · rw [History.after, created, List.singleton_append, List.lookup_cons, beq_self_eq_true]
  · rw [isClaim, ← isNow]
    rfl
  · rw [isClaim]
    rfl
  · have ttl := ClaimInput.ttl valid
    rw [claimLifetimeBudgetSeconds]
    omega

theorem lasts_renewed {args : RenewArgs} {old : TaskClaim} {claimedMs expiresMs : Int}
    {created : List (String × String)} (issued : (Action.renew args).Issued)
    (lasts : Lasts cjson created old) (renewable : Renewable args old claimedMs expiresMs) :
    Lasts cjson created (old.renewedTo (args.newExpires claimedMs)) := by
  have inRange := newExpires_inRange issued.inClock renewable
  rcases issued with ⟨input, valid, budget, now, latest, rfl⟩
  rcases lasts.made with ⟨original, found, same⟩
  rcases lasts.dates with ⟨madeMs, oldMs, madeRange, -, claimedAt, -, -⟩
  have sameMs : claimedMs = madeMs := by
    have read := renewable.claimed
    rw [claimedAt, IsoDate.msFromIso_toISOString madeRange] at read
    exact (Option.some.inj read).symm
  refine ⟨⟨original, found, ?_⟩, madeMs, _, madeRange, inRange, claimedAt,
    IsoDate.isoFromMs_eq_toISOString inRange, ?_⟩
  · rw [TaskClaim.renewedTo, same]
  · rw [sameMs, ← budget]
    exact min_le_right _ _

/-- What holds in every state of every run. -/
structure Leased (cjson : Cjson) (history : History) : Prop where
  sound : Sound cjson history.keyspace
  timed : Timed cjson history.keyspace
  lasts : ∀ claim, Stored cjson history.keyspace claim → Lasts cjson history.created claim

theorem Leased.after (roundTrips : RoundTrips cjson) (reads : ReadsMessages cjson)
    (leased : Leased cjson history) {action : Action}
    (admissible : action.Admissible history.keyspace) (unused : history.Unused action)
    (issued : action.Issued) : Leased cjson (history.after cjson action) := by
  refine ⟨leased.sound.after roundTrips reads admissible,
    leased.timed.after roundTrips reads leased.sound admissible issued.inClock, ?_⟩
  intro claim stored
  cases origin_after roundTrips reads leased.sound admissible stored with
  | kept _ earlier => exact (leased.lasts claim earlier).after action unused
  | made args tasks isClaim created => exact lasts_made issued isClaim created
  | renewed args old claimedMs expiresMs isStored sameId renewable isClaim =>
      have still := (leased.lasts old isStored).after (.renew args) unused
      rw [isClaim]
      exact lasts_renewed issued still renewable

theorem LeaseRun.leased (roundTrips : RoundTrips cjson) (reads : ReadsMessages cjson)
    {condition : History → Action → Prop} (run : LeaseRun cjson condition .empty history) :
    Leased cjson history := by
  induction run with
  | start =>
      refine ⟨Sound.empty, fun actor id value found => ?_, fun claim stored => ?_⟩
      · simp [History.empty, Keyspace.scores] at found
      · have found := stored.found
        simp [History.empty, Keyspace.fields] at found
  | step earlier action admissible unused issued meets induction =>
      exact induction.after roundTrips reads admissible unused issued

end Invariant

/-! ## What a renewal does in a run -/

/-- The claim with this id expires at this instant, by the hash and by the index. -/
def Expires (cjson : Cjson) (keyspace : Keyspace Key) (id : String) (ms : Int) : Prop :=
  ∃ claim, Stored cjson keyspace claim ∧ claim.claimId = id ∧ InRange ms ∧
    claim.expiresAt = toISOString ms ∧
      (keyspace.scores (.claimsIndex claim.actorId)).lookup id = some (score ms)

/-- The owner has renewed a live claim. -/
structure Renewed (cjson : Cjson) (input : RenewInput) (before after : Keyspace Key)
    (text : String) (oldMs newMs : Int) : Prop where
  owner : ∃ claim, Stored cjson before claim ∧ claim.claimId = input.claimId ∧
    claim.actorId = input.actorId ∧ claim.sessionId = input.sessionId ∧
      Stored cjson after { claim with expiresAt := text }
  live : input.now < oldMs
  forward : input.now < newMs
  within : newMs ≤ input.now + input.ttlSeconds.num * 1000
  text : text = toISOString newMs
  old : Expires cjson before input.claimId oldMs
  new : Expires cjson after input.claimId newMs

section Renewals

variable {cjson : Cjson} {history : History}

theorem Leased.expires (leased : Leased cjson history) {claim : TaskClaim}
    (stored : Stored cjson history.keyspace claim) (roundTrips : RoundTrips cjson) :
    ∃ ms, Expires cjson history.keyspace claim.claimId ms := by
  have inside := (leased.sound.indexed _ _).mpr ⟨claim, stored, rfl, rfl⟩
  rcases Option.isSome_iff_exists.mp (AList.lookup_isSome.mpr inside) with ⟨value, found⟩
  rcases leased.timed _ _ value found with ⟨other, isStored, sameId, ms, inRange, expires, rfl⟩
  have same := isStored.unique roundTrips stored sameId
  subst same
  exact ⟨ms, other, stored, rfl, inRange, expires, found⟩

theorem Expires.eq {id : String} {keyspace : Keyspace Key} {first second : Int}
    (roundTrips : RoundTrips cjson) (left : Expires cjson keyspace id first)
    (right : Expires cjson keyspace id second) : first = second := by
  rcases left with ⟨claim, stored, sameId, range, expires, -⟩
  rcases right with ⟨other, isStored, otherId, otherRange, otherExpires, -⟩
  have same := stored.unique roundTrips isStored (sameId.trans otherId.symm)
  subst same
  have reads := IsoDate.msFromIso_toISOString range
  rw [← expires, otherExpires, IsoDate.msFromIso_toISOString otherRange] at reads
  exact (Option.some.inj reads).symm

theorem toISOString_of_reads {text : String} {ms readMs : Int} (range : InRange ms)
    (written : text = toISOString ms) (reads : msFromIso text = some readMs) : readMs = ms := by
  rw [written, IsoDate.msFromIso_toISOString range] at reads
  exact (Option.some.inj reads).symm

/-- The instant at which a stored claim expires is that of its text. -/
theorem expires_of_text (roundTrips : RoundTrips cjson) {claim : TaskClaim}
    {keyspace : Keyspace Key}
    (stored : Stored cjson keyspace claim) {ms textMs : Int}
    (expires : Expires cjson keyspace claim.claimId ms) (range : InRange textMs)
    (written : claim.expiresAt = toISOString textMs) : ms = textMs := by
  rcases expires with ⟨other, otherStored, otherId, otherRange, otherWritten, -⟩
  have same := otherStored.unique roundTrips stored otherId
  subst same
  have reads := IsoDate.msFromIso_toISOString range
  rw [← written] at reads
  exact (toISOString_of_reads otherRange otherWritten reads).symm

/-- A renewal that returns a new expiry is one of the owner, of a live claim; the new
expiry is the one asked for, or the end of the lifetime. -/
theorem Leased.renewal (roundTrips : RoundTrips cjson) (leased : Leased cjson history)
    {input : RenewInput} (now : InRange input.now)
    (latest : InRange (input.now + input.ttlSeconds.num * 1000)) {claimId text : String}
    {after : Keyspace Key}
    (ran : (TaskClaimStore.renew cjson input).run history.keyspace =
      (.ok (.ok claimId text), after)) :
    ∃ claimedMs oldMs newMs, Renewed cjson input history.keyspace after text oldMs newMs ∧
      newMs = min (input.now + input.ttlSeconds.num * 1000)
        (claimedMs + input.budgetSeconds * 1000) ∧
      oldMs ≤ claimedMs + claimLifetimeBudgetSeconds * 1000 := by
  rcases @run_renewal cjson history.keyspace input roundTrips leased.sound with
    ⟨error, failed⟩ | ⟨claim, claimedMs, expiresMs, stored, sameId, renewable, renewed⟩
  · rw [failed] at ran
    cases ran
  rw [renewed] at ran
  cases ran
  have inRange : InRange (input.args.newExpires claimedMs) :=
    newExpires_inRange (show (Action.renew input.args).InClock from ⟨now, latest⟩) renewable
  have isText := IsoDate.isoFromMs_eq_toISOString inRange
  have tasks : (claim.renewedTo (input.args.newExpires claimedMs)).tasks ≠ [] := stored.tasks
  have isStored : Stored cjson (putClaim cjson history.keyspace
      (claim.renewedTo (input.args.newExpires claimedMs)) (input.args.newExpires claimedMs))
        (claim.renewedTo (input.args.newExpires claimedMs)) :=
    (Sound.stored_putClaim roundTrips tasks).mpr (Or.inl rfl)
  rcases (leased.lasts claim stored).dates with
    ⟨madeMs, oldMs, madeRange, oldRange, claimedAt, expiresAt, bounded⟩
  have sameMade := toISOString_of_reads madeRange claimedAt renewable.claimed
  have sameOld := toISOString_of_reads oldRange expiresAt renewable.expires
  subst sameMade sameOld
  rcases leased.expires stored roundTrips with ⟨ms, expires⟩
  have sameMs := expires_of_text roundTrips stored expires oldRange expiresAt
  subst sameMs
  refine ⟨claimedMs, ms, input.args.newExpires claimedMs, ?_, rfl, bounded⟩
  exact
    { owner := ⟨claim, stored, sameId, renewable.actor, renewable.session, isStored⟩
      live := renewable.live
      forward := renewable.forward
      within := min_le_left _ _
      text := isText
      old := sameId ▸ expires
      new := by
        refine ⟨_, isStored, sameId, inRange, isText, ?_⟩
        rw [scores_putClaim, if_pos rfl, ← sameId]
        exact AList.lookup_insert _ }

end Renewals

/-! ## The lifetime bound -/

/-- Stored claims keep what they were made with and expire within a day of their making; a
renewal succeeds only for the owner of a live claim, and otherwise changes nothing. -/
structure LifetimeBounded (cjson : Cjson) (history : History) : Prop where
  lasts : ∀ id raw, (history.keyspace.fields .claims).lookup id = some raw →
    ∃ (original claim : TaskClaim) (claimedMs expiresMs : Int),
      history.created.lookup id = some (cjson.encode original.toJson) ∧
      raw = cjson.encode claim.toJson ∧ claim.claimId = id ∧
      claim = { original with expiresAt := claim.expiresAt } ∧
      IsoDate.dateParse claim.claimedAt = some claimedMs ∧
      IsoDate.dateParse claim.expiresAt = some expiresMs ∧ expiresMs ≤ claimedMs + 86400 * 1000
  renewed : ∀ (input : RenewInput) (claimId text : String) (after : Keyspace Key),
    InRange input.now → InRange (input.now + input.ttlSeconds.num * 1000) →
    (TaskClaimStore.renew cjson input).run history.keyspace = (.ok (.ok claimId text), after) →
      ∃ oldMs newMs, Renewed cjson input history.keyspace after text oldMs newMs
  refused : ∀ input : RenewInput,
    (∀ claimId text, ((TaskClaimStore.renew cjson input).run history.keyspace).1 ≠
      .ok (.ok claimId text)) →
    ((TaskClaimStore.renew cjson input).run history.keyspace).2 = history.keyspace

/-- In every run, claims are bounded in their lifetime, and none is resurrected. -/
theorem claim_lifetime_bounded {cjson : Cjson} (roundTrips : RoundTrips cjson)
    (reads : ReadsMessages cjson) {history : History}
    (run : LeaseRun cjson anyAction .empty history) : LifetimeBounded cjson history := by
  have leased := run.leased roundTrips reads
  constructor
  · intro id raw found
    rcases leased.sound.readable id raw found with ⟨claim, stored, rfl⟩
    rcases leased.lasts claim stored with
      ⟨⟨original, made, same⟩, claimedMs, expiresMs, claimedRange,
      expiresRange, claimedAt, expiresAt, bounded⟩
    have isRaw := stored.found
    rw [found] at isRaw
    refine ⟨original, claim, claimedMs, expiresMs, made, Option.some.inj isRaw, rfl, same, ?_, ?_,
      bounded⟩
    · rw [claimedAt, IsoDate.dateParse_toISOString claimedRange]
    · rw [expiresAt, IsoDate.dateParse_toISOString expiresRange]
  · intro input claimId text after now latest ran
    rcases leased.renewal roundTrips now latest ran with ⟨-, oldMs, newMs, renewed, -, -⟩
    exact ⟨oldMs, newMs, renewed⟩
  · intro input refused
    rcases @run_renewal cjson history.keyspace input roundTrips leased.sound with
      ⟨error, failed⟩ | ⟨claim, claimedMs, expiresMs, -, -, -, renewed⟩
    · rw [failed]
    · exact absurd (by rw [renewed]) (refused input.claimId _)

/-! ## When renewals extend -/

/-- A renewal asks for no earlier expiry than the claim has. -/
def Extends (cjson : Cjson) (history : History) : Action → Prop
  | .renew args => ∀ oldMs, Expires cjson history.keyspace args.claimId oldMs →
      oldMs ≤ args.now + args.ttlSeconds * 1000
  | _ => True

section Extending

variable {cjson : Cjson} {history : History}

/-- An action of which renewals extend moves no expiry to an earlier instant. -/
theorem expires_after (roundTrips : RoundTrips cjson) (reads : ReadsMessages cjson)
    (leased : Leased cjson history) {action : Action}
    (admissible : action.Admissible history.keyspace) (issued : action.Issued)
    (extending : Extends cjson history action) {id : String} {newMs : Int}
    (made : ∀ args, action = .batchClaim args → args.claimId ≠ id)
    (expires : Expires cjson (history.after cjson action).keyspace id newMs) :
    ∃ oldMs, Expires cjson history.keyspace id oldMs ∧ oldMs ≤ newMs := by
  rcases expires with ⟨claim, stored, sameId, range, written, -⟩
  cases origin_after roundTrips reads leased.sound admissible stored with
  | kept _ earlier =>
      rcases leased.expires earlier roundTrips with ⟨ms, expires⟩
      have sameMs := expires_of_text roundTrips earlier expires range written
      exact ⟨ms, sameId ▸ expires, sameMs.le⟩
  | made args tasks isClaim created =>
      rw [isClaim] at sameId
      exact absurd sameId (made args rfl)
  | renewed args old claimedMs expiresMs isStored ownId renewable isClaim =>
      rcases leased.expires isStored roundTrips with ⟨oldMs, expires⟩
      have inRange := newExpires_inRange issued.inClock renewable
      have isNew : newMs = args.newExpires claimedMs := by
        have reads := IsoDate.msFromIso_toISOString range
        rw [← written, isClaim] at reads
        exact toISOString_of_reads inRange (IsoDate.isoFromMs_eq_toISOString inRange) reads
      have isId : args.claimId = id := by
        rw [← ownId, ← sameId, isClaim]
        rfl
      rcases (leased.lasts old isStored).dates with
        ⟨madeMs, lastMs, madeRange, lastRange, claimedAt, expiresAt, bounded⟩
      have sameMade := toISOString_of_reads madeRange claimedAt renewable.claimed
      have sameLast := expires_of_text roundTrips isStored expires lastRange expiresAt
      rw [ownId] at expires
      have asked := extending oldMs expires
      rcases issued with ⟨input, -, budget, -, -, rfl⟩
      refine ⟨oldMs, isId ▸ expires, ?_⟩
      rw [isNew, RenewArgs.newExpires, le_min_iff, sameMade, sameLast]
      refine ⟨sameLast ▸ asked, ?_⟩
      change lastMs ≤ madeMs + input.budgetSeconds * 1000
      rw [budget]
      exact bounded

theorem expires_later (roundTrips : RoundTrips cjson) (reads : ReadsMessages cjson)
    (leased : Leased cjson history) {later : History}
    (run : LeaseRun cjson (Extends cjson) history later) {id : String} {oldMs : Int}
    (old : Expires cjson history.keyspace id oldMs) :
    Leased cjson later ∧ (∃ entry ∈ later.created, entry.1 = id) ∧
      ∀ newMs, Expires cjson later.keyspace id newMs → oldMs ≤ newMs := by
  induction run with
  | start =>
      refine ⟨leased, ?_, fun newMs new => (old.eq roundTrips new).le⟩
      rcases old with ⟨claim, stored, rfl, -⟩
      rcases (leased.lasts claim stored).made with ⟨original, found, -⟩
      rcases List.lookup_eq_some_iff.mp found with ⟨before, after, isCreated, -⟩
      refine ⟨(claim.claimId, cjson.encode original.toJson), ?_, rfl⟩
      rw [isCreated]
      exact List.mem_append_cons_self
  | step earlier action admissible unused issued meets induction =>
      rcases induction with ⟨middle, ⟨entry, created, isId⟩, bounded⟩
      refine ⟨middle.after roundTrips reads admissible unused issued,
        ⟨entry, List.mem_append_right _ created, isId⟩, ?_⟩
      intro newMs new
      have made : ∀ args, action = .batchClaim args → args.claimId ≠ id := by
        rintro args rfl same
        exact unused entry created (isId.trans same.symm)
      rcases expires_after roundTrips reads middle admissible issued meets made new with
        ⟨betweenMs, between, notLess⟩
      exact (bounded betweenMs between).trans notLess

end Extending

/-- A renewal moves the expiry to no earlier instant, exactly when the claim did not expire
later than it asks for; and where all renewals are such, no expiry moves to an earlier
instant. -/
structure RenewalsExtend (cjson : Cjson) (history : History) : Prop where
  renewal : ∀ (input : RenewInput) (claimId text : String) (after : Keyspace Key),
    input.budgetSeconds = claimLifetimeBudgetSeconds →
    InRange input.now → InRange (input.now + input.ttlSeconds.num * 1000) →
    (TaskClaimStore.renew cjson input).run history.keyspace = (.ok (.ok claimId text), after) →
      ∃ oldMs newMs, Renewed cjson input history.keyspace after text oldMs newMs ∧
        (oldMs ≤ newMs ↔ oldMs ≤ input.now + input.ttlSeconds.num * 1000)
  sequence : ∀ later, LeaseRun cjson (Extends cjson) history later → ∀ id oldMs newMs,
    Expires cjson history.keyspace id oldMs → Expires cjson later.keyspace id newMs →
      oldMs ≤ newMs

theorem renewals_extend {cjson : Cjson} (roundTrips : RoundTrips cjson)
    (reads : ReadsMessages cjson) {history : History}
    (run : LeaseRun cjson anyAction .empty history) : RenewalsExtend cjson history := by
  have leased := run.leased roundTrips reads
  constructor
  · intro input claimId text after budget now latest ran
    rcases leased.renewal roundTrips now latest ran with
      ⟨claimedMs, oldMs, newMs, renewed, isNew, bounded⟩
    refine ⟨oldMs, newMs, renewed, ?_⟩
    rw [isNew, budget, le_min_iff]
    exact ⟨fun both => both.1, fun asked => ⟨asked, bounded⟩⟩
  · intro later extending id oldMs newMs old new
    exact (expires_later roundTrips reads leased extending old).2.2 newMs new

/-! ## A claim of an hour -/

def hourClaim : ClaimInput := ⟨"b", "s", 1, 3600, none, toISOString 0⟩

/-- A message is pushed, and claimed for an hour. -/
def hourHistory : History :=
  (History.empty.after Cjson.plain (.push none greeting)).after Cjson.plain
    (.batchClaim (batchClaimArgs hourClaim "c" 3600000))

theorem pushed_keyspace :
    SameTasks (History.empty.after Cjson.plain (.push none greeting)).keyspace
      (pushInbox Keyspace.empty "b" greeting.serialized) := by
  rcases run_push_greeting with ⟨after, ran, same⟩
  rw [History.after, Action.after, History.empty, ran]
  exact same

theorem hourHistory_run : LeaseRun Cjson.plain anyAction .empty hourHistory := by
  have pushed := (@LeaseRun.start Cjson.plain anyAction .empty).step (.push none greeting) trivial
    trivial trivial trivial
  have fresh : "c" ∉ (History.empty.after Cjson.plain (.push none greeting)).keyspace.fields
      .claims := by
    rw [pushed_keyspace.fields_eq]
    simp [pushInbox, Keyspace.fields]
  have positive : 0 < (batchClaimArgs hourClaim "c" 3600000).maxBatch := by decide
  have unused : (History.empty.after Cjson.plain (.push none greeting)).Unused
      (.batchClaim (batchClaimArgs hourClaim "c" 3600000)) := by
    intro entry member
    cases member
  have issued : (Action.batchClaim (batchClaimArgs hourClaim "c" 3600000)).Issued :=
    ⟨hourClaim, "c", 0, by decide, rfl, by decide, by decide, rfl⟩
  exact pushed.step (.batchClaim _) ⟨positive, fresh⟩ unused issued trivial

/-- The claim of the message. -/
def hourTaskClaim : TaskClaim :=
  (batchClaimArgs hourClaim "c" 3600000).claim [greeting.serialized]

theorem hour_stored : Stored Cjson.plain hourHistory.keyspace hourTaskClaim := by
  obtain ⟨pushed, isPushed⟩ : ∃ pushed, pushed =
    (History.empty.after Cjson.plain (.push none greeting)).keyspace := ⟨_, rfl⟩
  have same := pushed_keyspace
  rw [← isPushed] at same
  have sound : Sound Cjson.plain pushed :=
    (Sound.empty.pushInbox "b" greeting.serialized).of_sameTasks same
  have items : pushed.items (.queue "b") = [greeting.serialized] := by
    rw [same.items_eq rfl]
    simp [pushInbox, Keyspace.items]
  have queued : pushed.items (.queue (batchClaimArgs hourClaim "c" 3600000).actorId) ≠ [] := by
    change pushed.items (.queue "b") ≠ []
    rw [items]
    exact List.cons_ne_nil _ _
  have positive : 0 < (batchClaimArgs hourClaim "c" 3600000).maxBatch := by decide
  have ran := @run_batchClaim_claimed Cjson.plain (batchClaimArgs hourClaim "c" 3600000) pushed
    (sound.typed.index _) rfl positive (sound.typed.inbox _) queued sound.typed.claims
  have taken : (batchClaimArgs hourClaim "c" 3600000).claim
      ((pushed.items (.queue (batchClaimArgs hourClaim "c" 3600000).actorId)).take
        (batchClaimArgs hourClaim "c" 3600000).maxBatch) = hourTaskClaim := by
    change (batchClaimArgs hourClaim "c" 3600000).claim ((pushed.items (.queue "b")).take _) = _
    rw [items, List.take_of_length_le positive]
    rfl
  refine ⟨List.cons_ne_nil _ _, ?_⟩
  rw [hourHistory, History.after, ← isPushed, Action.after, ran, fields_putClaim, taken,
    AList.lookup_insert]

theorem hour_expires : Expires Cjson.plain hourHistory.keyspace "c" 3600000 := by
  have leased := hourHistory_run.leased plain_roundTrips plain_readsMessages
  rcases leased.expires hour_stored plain_roundTrips with ⟨ms, expires⟩
  have isMs := expires_of_text plain_roundTrips hour_stored expires
    (show InRange 3600000 by decide) rfl
  exact isMs ▸ expires

theorem hour_claim_bounded : LifetimeBounded Cjson.plain hourHistory :=
  claim_lifetime_bounded plain_roundTrips plain_readsMessages hourHistory_run

theorem hour_claim_extends : RenewalsExtend Cjson.plain hourHistory :=
  renewals_extend plain_roundTrips plain_readsMessages hourHistory_run

/-- A renewal by one second, at once. -/
def secondRenewal : RenewInput := ⟨"c", "b", "s", 1, claimLifetimeBudgetSeconds, 0⟩

theorem second_renewal_shortens :
    ¬∀ history, LeaseRun Cjson.plain anyAction .empty history →
      ∀ (input : RenewInput) (claimId text : String) (after : Keyspace Key),
        input.budgetSeconds = claimLifetimeBudgetSeconds →
        InRange input.now → InRange (input.now + input.ttlSeconds.num * 1000) →
        (TaskClaimStore.renew Cjson.plain input).run history.keyspace =
          (.ok (.ok claimId text), after) →
        ∀ oldMs newMs, Renewed Cjson.plain input history.keyspace after text oldMs newMs →
          oldMs ≤ newMs := by
  intro monotone
  have leased := hourHistory_run.leased plain_roundTrips plain_readsMessages
  have renewable : Renewable secondRenewal.args hourTaskClaim 0 3600000 :=
    { actor := rfl
      session := rfl
      claimed := IsoDate.msFromIso_toISOString (by decide)
      expires := IsoDate.msFromIso_toISOString (by decide)
      live := by decide
      forward := by decide }
  rcases renewal_of_renewable plain_roundTrips leased.sound (by decide) hour_stored rfl
    renewable with
    ⟨after, ran⟩
  have now : InRange secondRenewal.now := by decide
  have latest : InRange (secondRenewal.now + secondRenewal.ttlSeconds.num * 1000) := by decide
  rcases leased.renewal plain_roundTrips now latest ran with
    ⟨claimedMs, oldMs, newMs, renewed, -, -⟩
  have isOld := renewed.old.eq plain_roundTrips hour_expires
  have notLess := monotone hourHistory hourHistory_run secondRenewal _ _ after rfl now latest ran
    oldMs newMs renewed
  have within : newMs ≤ 1000 := renewed.within
  omega

end GptQueue.Claims
