import GptQueue.Custody.Handoffs
import GptQueue.Custody.Texts

/-! # The shape of stored records

Whatever claims, releases and status calls write, it is read back, under the path of its
own worktree, and no write changes the identity of a worktree.
-/

namespace GptQueue.Custody

/-! ## What the calls derive from what they read -/

section Derived

/-- A record that a call has read at a path. -/
def ReadAt (past : Past) (path : String) (stored : CustodyRecord) : Prop :=
  ⟨.hget path, some (.serialized stored)⟩ ∈ past ∨
    ∃ fields, ⟨.hgetall, fields⟩ ∈ past ∧ (path, .serialized stored) ∈ fields

/-- What is made of a record that was read. -/
inductive Expired (stored : CustodyRecord) : CustodyRecord → Prop
  | same : Expired stored stored
  | forfeited (held : stored.state = .held) : Expired stored (stored.vacate .forfeited)

/-- The writes, with the records they are derived from. -/
inductive Derives (input : Input) (past : Past) : String → CustodyRecord → Precondition → Prop
  | forfeits {path : String} {stored : CustodyRecord} (read : ReadAt past path stored)
      (held : stored.state = .held) :
      Derives input past stored.worktree.worktreePath (stored.vacate .forfeited) (.state .held "")
  | claims {claim : ClaimInput} {lease : Timestamp} (isClaim : input = .claim claim)
      (leased : claim.lease = some lease) :
      Derives input past claim.worktree.worktreePath
        ((createCustody claim.worktree).hold claim.custodian .initial lease claim.now) .absent
  | reclaims {claim : ClaimInput} {lease : Timestamp} {stored record : CustodyRecord}
      {mode : CustodyAcquisitionMode} {expected : Precondition} (isClaim : input = .claim claim)
      (leased : claim.lease = some lease) (read : ReadAt past claim.worktree.worktreePath stored)
      (expired : Expired stored record) :
      Derives input past claim.worktree.worktreePath
        (record.hold claim.custodian mode lease claim.now) expected
  | releases {released : ReleaseInput} {handoff : HandoffRecord} {stored record : CustodyRecord}
      {expected : Precondition} (isRelease : input = .release released)
      (admitted : admitHandoffRecord released.handoff = .ok handoff)
      (read : ReadAt past released.worktreePath stored) (expired : Expired stored record) :
      Derives input past released.worktreePath
        { record.vacate .released with handoff := some handoff } expected

def DerivedCommand (input : Input) (past : Past) : Command → Prop
  | .conditionalSet path record expected => Derives input past path record expected
  | _ => True

def AnyEnd (_ : Past) (_ : Result) : Prop := True

variable {input : Input} {past later : Past} {path : String} {stored : CustodyRecord}

/-- A record whose lease has ended is vacated. -/
theorem expire_transition {state : CustodyRecord} {now : Timestamp}
    (moves : stays stored now = false)
    (made : transitionCustody stored (.expire now) = .ok state) : Expired stored state := by
  have held : stored.state = .held := by
    by_contra other
    simp [stays, other] at moves
  unfold transitionCustody at made
  dsimp only at made
  rw [if_neg (not_not_intro held)] at made
  split at made
  · cases made
  · split at made
    · split at made
      · cases made
        exact .same
      · cases made
        exact .forfeited held
    · cases made

theorem follows_expiry (read : ReadAt past path stored) (now : Timestamp) :
    (lazyExpire stored now).Follows (DerivedCommand input)
      (fun later record => past ⊆ later ∧ Expired stored record) past := by
  unfold lazyExpire
  split
  · exact ⟨List.Subset.refl past, .same⟩
  next moves =>
    split
    next state made =>
      have expired := expire_transition (Bool.not_eq_true _ ▸ moves) made
      split
      next isForfeited =>
        cases expired with
        | same =>
            have held : stored.state = .held := by
              by_contra other
              exact moves (by simp [stays, other])
            rw [held] at isForfeited
            cases isForfeited
        | forfeited held =>
            exact ⟨.forfeits read held, fun _ => ⟨List.subset_cons_self _ _, .forfeited held⟩⟩
      · exact ⟨List.Subset.refl past, .same⟩
    · exact ⟨List.Subset.refl past, .same⟩

theorem follows_write {transition : Transition} {expected : Precondition}
    {next : Program Command Reply Result}
    (derives : ∀ record, transition = .ok record → Derives input past path record expected)
    (goesOn : ∀ record, next.Follows (DerivedCommand input) AnyEnd
      (⟨.conditionalSet path record expected, false⟩ :: past)) :
    (persist path transition expected next).Follows (DerivedCommand input) AnyEnd past := by
  unfold persist
  split
  · trivial
  next record =>
    refine ⟨derives record rfl, fun reply => ?_⟩
    cases reply with
    | true => trivial
    | false => exact goesOn record

theorem derives_claim {claim : ClaimInput} {lease : Timestamp} {record state : CustodyRecord}
    (isClaim : input = .claim claim) (leased : claim.lease = some lease)
    (read : ReadAt past claim.worktree.worktreePath stored) (expired : Expired stored record)
    (made : transitionCustody record (claimEvent claim lease record) = .ok state)
    (expected : Precondition) :
    Derives input past claim.worktree.worktreePath state expected := by
  unfold claimEvent at made
  split at made
  · rw [assume_transition made]
    exact .reclaims isClaim leased read expired
  · rw [(claim_transition made).2]
    exact .reclaims isClaim leased read expired

theorem follows_claiming {claim : ClaimInput} {lease : Timestamp}
    (leased : claim.lease = some lease) (attempts : Nat) (past : Past) :
    (claimAttempts claim lease attempts).Follows (DerivedCommand (.claim claim)) AnyEnd past := by
  induction attempts generalizing past with
  | zero =>
      apply Program.follows_ask_bind.mpr
      refine ⟨trivial, fun reply => ?_⟩
      split <;> trivial
  | succ attempts induction =>
      apply Program.follows_ask_bind.mpr
      refine ⟨trivial, fun reply => ?_⟩
      split
      · trivial
      · apply follows_write
        · intro record made
          rw [(claim_transition made).2]
          exact .claims rfl leased
        · exact fun record => induction _
      next stored found =>
        rcases found_of_readRecord found with ⟨rfl, -⟩
        apply (follows_expiry (Or.inl List.mem_cons_self) claim.now).bind
        rintro later record ⟨more, expired⟩
        split
        · trivial
        · split
          · trivial
          · apply follows_write
            · intro state made
              exact derives_claim rfl leased (Or.inl (more List.mem_cons_self)) expired made _
            · exact fun record => induction _

theorem follows_releasing {released : ReleaseInput} {handoff : HandoffRecord}
    (admitted : admitHandoffRecord released.handoff = .ok handoff) (attempts : Nat) (past : Past) :
    (releaseAttempts released handoff attempts).Follows (DerivedCommand (.release released)) AnyEnd
      past := by
  induction attempts generalizing past with
  | zero =>
      apply Program.follows_ask_bind.mpr
      refine ⟨trivial, fun reply => ?_⟩
      split <;> trivial
  | succ attempts induction =>
      apply Program.follows_ask_bind.mpr
      refine ⟨trivial, fun reply => ?_⟩
      split
      · trivial
      · trivial
      next stored found =>
        rcases found_of_readRecord found with ⟨rfl, -⟩
        apply (follows_expiry (Or.inl List.mem_cons_self) released.now).bind
        rintro later record ⟨more, expired⟩
        split
        · trivial
        · split
          · trivial
          · apply follows_write
            · intro state made
              unfold transitionCustody at made
              dsimp only at made
              split at made
              · cases made
              · cases made
                exact .releases rfl admitted (Or.inl (more List.mem_cons_self)) expired
            · exact fun record => induction _

theorem follows_listing {path : Option String} {now : Timestamp} {fields : List (String × Stored)}
    (rest : List (String × Stored)) (inside : rest ⊆ fields) (done : List CustodyRecord)
    (past : Past) (listed : ⟨.hgetall, fields⟩ ∈ past) :
    (expireAll now done rest).Follows (DerivedCommand (.status path now)) AnyEnd past := by
  induction rest generalizing done past with
  | nil => trivial
  | cons first rest induction =>
      rcases first with ⟨name, raw⟩
      have others : rest ⊆ fields := fun entry member => inside (List.mem_cons_of_mem _ member)
      unfold expireAll
      split
      · trivial
      · exact induction others done past listed
      next stored found =>
        have isStored := (@found_of_readRecord (some raw) stored found).1
        rw [Option.some.injEq] at isStored
        subst isStored
        have read : ReadAt past name stored := Or.inr ⟨fields, listed, inside List.mem_cons_self⟩
        apply (follows_expiry read now).bind
        rintro later record ⟨more, -⟩
        exact induction others (record :: done) later (more listed)

theorem follows_derived (input : Input) :
    (program input).Follows (DerivedCommand input) AnyEnd [] := by
  cases input with
  | claim claim =>
      change (Custody.claim claim).Follows _ _ _
      unfold Custody.claim
      split
      · trivial
      next lease leased => exact follows_claiming leased 2 []
  | release released =>
      change (Custody.release released).Follows _ _ _
      unfold Custody.release
      split
      · trivial
      · trivial
      next handoff admitted => exact follows_releasing admitted 2 []
  | status path now =>
      cases path with
      | none =>
          refine ⟨trivial, fun fields => ?_⟩
          exact follows_listing fields (List.Subset.refl fields) [] _ List.mem_cons_self
      | some path =>
          apply Program.follows_ask_bind.mpr
          refine ⟨trivial, fun reply => ?_⟩
          split
          · trivial
          · trivial
          next stored found =>
            rcases found_of_readRecord found with ⟨rfl, -⟩
            apply (follows_expiry (Or.inl List.mem_cons_self) now).bind
            intro later record expired
            trivial

end Derived

/-! ## Shapes -/

section Shapes

/-- What holds of every record that is written at a path. -/
structure Shaped (path : String) (record : CustodyRecord) : Prop where
  under : record.worktree.worktreePath = path
  named : path ≠ ""
  owned : record.state ≠ .unowned
  custodian : record.custodian.isSome = true ↔ record.state = .held
  mode : record.mode.isSome = true ↔ record.state = .held
  lease : record.leaseExpiresAt.isSome = true ↔ record.state = .held
  released : record.state = .released → record.handoff.isSome
  handoff : ∀ handoff ∈ record.handoff, handoff.isStored = true
  times : (∀ time ∈ record.acquiredAt, time.Writable) ∧
    ∀ time ∈ record.leaseExpiresAt, time.Writable

variable {path : String} {record stored : CustodyRecord} {custodian : CustodianIdentity}
  {mode : CustodyAcquisitionMode} {lease now : Timestamp} {handoff : HandoffRecord}

theorem Shaped.readable (shaped : Shaped path record) : record.Readable where
  named := shaped.under ▸ shaped.named
  custodian := shaped.custodian.mpr
  lease := shaped.lease.mpr
  released := shaped.released
  handoff := shaped.handoff
  times := shaped.times

/-- A record that is left by its custodian. -/
theorem Shaped.vacate {state : CustodyState} {handoff : Option HandoffRecord}
    (shaped : Shaped path record) (owned : state ≠ .unowned) (free : state ≠ .held)
    (released : state = .released → handoff.isSome)
    (isStored : ∀ given ∈ handoff, given.isStored = true) :
    Shaped path { record.vacate state with handoff } where
  under := shaped.under
  named := shaped.named
  owned := owned
  custodian := iff_of_false Bool.false_ne_true free
  mode := iff_of_false Bool.false_ne_true free
  lease := iff_of_false Bool.false_ne_true free
  released := released
  handoff := isStored
  times := ⟨fun time absent => absurd absent (Option.not_mem_none time),
    fun time absent => absurd absent (Option.not_mem_none time)⟩

theorem Shaped.expired (shaped : Shaped path stored) (expired : Expired stored record) :
    Shaped path record := by
  cases expired with
  | same => exact shaped
  | forfeited held =>
      exact shaped.vacate CustodyState.noConfusion CustodyState.noConfusion
        CustodyState.noConfusion shaped.handoff

theorem Shaped.release (shaped : Shaped path record) (isStored : handoff.isStored = true) :
    Shaped path { record.vacate .released with handoff := some handoff } := by
  apply shaped.vacate CustodyState.noConfusion CustodyState.noConfusion
  · intro _
    rfl
  · intro given isGiven
    exact Option.some.inj isGiven ▸ isStored

theorem shaped_hold (isPath : record.worktree.worktreePath = path) (named : path ≠ "")
    (handoffs : ∀ handoff ∈ record.handoff, handoff.isStored = true) (leased : lease.Writable)
    (acquired : now.Writable) : Shaped path (record.hold custodian mode lease now) where
  under := isPath
  named := named
  owned := CustodyState.noConfusion
  custodian := ⟨fun _ => rfl, fun _ => rfl⟩
  mode := ⟨fun _ => rfl, fun _ => rfl⟩
  lease := ⟨fun _ => rfl, fun _ => rfl⟩
  released := CustodyState.noConfusion
  handoff := handoffs
  times := by
    constructor
    · intro time isNow
      exact Option.some.inj isNow ▸ acquired
    · intro time isLease
      exact Option.some.inj isLease ▸ leased

/-! ### Admitted handoffs -/

theorem nonEmpty_of_field {input : Json} {name text : String}
    (found : nonEmptyField input name = some text) : text ≠ "" := by
  unfold nonEmptyField at found
  split at found
  · split at found
    · cases found
    next nonEmpty =>
      rw [← Option.some.inj found]
      exact nonEmpty
  · cases found

theorem notMem_inventory {inventory : Option Json} {entries : List String}
    (found : inventoryEntries inventory = some entries) : "" ∉ entries := by
  unfold inventoryEntries at found
  split at found
  · split at found
    · cases found
    next nonEmpty =>
      rw [← Option.some.inj found]
      exact nonEmpty
  · cases found

/-- Entries of an inventory that is not empty. -/
theorem inventory_ne_nil {inventory : Option Json} {entries : List String}
    (found : inventoryEntries inventory = some entries)
    (nonEmpty : isEmptyInventory inventory = false) : entries ≠ [] := by
  rintro rfl
  rcases inventory with _ | value
  · cases nonEmpty
  · cases value with
    | array items =>
        cases items with
        | nil => cases nonEmpty
        | cons item rest =>
            unfold inventoryEntries at found
            split at found
            next entries isArray =>
              split at found
              · cases found
              rw [Option.some.injEq] at found
              subst found
              rw [Option.bind_some, stringArray, List.mapM_cons] at isArray
              simp only [Option.bind_eq_bind, Option.bind_eq_some_iff] at isArray
              rcases isArray with ⟨text, -, others, -, same⟩
              cases same
            · cases found
    | _ => cases found

theorem isStored_of_admitted {input : Json}
    (admitted : admitHandoffRecord input = .ok handoff) : handoff.isStored = true := by
  unfold admitHandoffRecord handoffInvalid at admitted
  split at admitted
  · cases admitted
  split at admitted
  · cases admitted
  next repoHead isHead =>
  split at admitted
  · cases admitted
  next treeState isTree =>
  split at admitted
  · cases admitted
  next full =>
  split at admitted
  next inventory listed isInventory isListed =>
    split at admitted
    · cases admitted
    next work isWork =>
    split at admitted
    · cases admitted
    next author isAuthor =>
    split at admitted
    · cases admitted
    next next isNext =>
    split at admitted
    · cases admitted
    cases admitted
    simp only [HandoffRecord.isStored, Bool.and_eq_true, Bool.or_eq_true, bne_iff_ne, beq_iff_eq,
      Bool.not_eq_true', List.contains_eq_mem, decide_eq_false_iff_not]
    refine ⟨⟨⟨⟨nonEmpty_of_field isHead, ?_⟩, notMem_inventory isInventory⟩,
      nonEmpty_of_field isWork⟩, nonEmpty_of_field isNext⟩
    cases treeState with
    | clean => exact Or.inl rfl
    | dirty =>
        right
        apply inventory_ne_nil isInventory
        simpa using full
  · cases admitted

end Shapes

/-! ## The store -/

section Store

/-- Arguments as the schemas of the tools let them pass, at a time that a `Date` can
have. -/
def Input.Valid : Input → Prop
  | .claim input => input.worktree.worktreePath ≠ "" ∧ input.now.Writable
  | _ => True

/-- The calls have valid arguments. -/
def validCalls : Condition World Input Command Reply Result := fun _ _ call _ => call.input.Valid

/-- The record is well formed, and its worktree is the one under its path. -/
def ShapedAt (world : World) (path : String) (record : CustodyRecord) : Prop :=
  Shaped path record ∧ ∃ current, world.field path = some (.serialized current) ∧
    current.worktree = record.worktree

structure WellShaped (world : World) : Prop where
  stored : ∀ path stored, world.field path = some stored →
    ∃ record id before, stored = .serialized record ∧ .wrote id path before record ∈ world.log
  written : ∀ id path before record, .wrote id path before record ∈ world.log →
    ShapedAt world path record
  listed : ∀ entry ∈ world.records, world.field entry.1 = some entry.2

def KnowsReads (world : World) (_ : Nat) (call : Call Input Command Reply Result) : Prop :=
  ∀ path stored, ReadAt call.past path stored → ShapedAt world path stored

variable {world : World} {id : Nat} {path : String} {record stored : CustodyRecord}
  {input : Input} {past : Past} {expected : Precondition}

/-- The current record of a field stands. -/
theorem WellShaped.stands (shaped : WellShaped world)
    (isField : world.field path = some (.serialized record)) : ShapedAt world path record := by
  rcases shaped.stored path _ isField with ⟨found, id, before, isFound, logged⟩
  cases isFound
  exact shaped.written id path before record logged

theorem not_met_absent (shaped : WellShaped world)
    (met : Precondition.absent.met (world.field path) = true) : world.field path = none := by
  cases isField : world.field path with
  | none => rfl
  | some stored =>
      rcases shaped.stored path stored isField with ⟨record, -, -, rfl, -⟩
      rw [isField] at met
      cases isState : record.state <;>
        simp [Precondition.met, Stored.state, isState, CustodyState.text] at met

theorem writable_of_leased {claim : ClaimInput} {lease : Timestamp}
    (leased : claim.lease = some lease) : lease.Writable := by
  rcases Option.bind_eq_some_iff.mp leased with ⟨now, -, made⟩
  exact Timestamp.writable_of_toISOString made

/-- What a call writes is well formed, and of the worktree that is there. -/
theorem Derives.stands (derives : Derives input past path record expected)
    (shaped : WellShaped world) (reads : ∀ path stored, ReadAt past path stored →
      ShapedAt world path stored) (valid : input.Valid)
    (met : expected.met (world.field path) = true) :
    Shaped path record ∧ ∀ current, world.field path = some (.serialized current) →
      current.worktree = record.worktree := by
  have sameTree : ∀ {stored current : CustodyRecord}, ShapedAt world path stored →
      world.field path = some (.serialized current) → current.worktree = stored.worktree := by
    intro stored current stands isField
    rcases stands with ⟨-, again, isAgain, same⟩
    rw [isField, Option.some.injEq, Stored.serialized.injEq] at isAgain
    exact isAgain ▸ same
  have keepsTree : ∀ {stored record : CustodyRecord}, Expired stored record →
      record.worktree = stored.worktree := by
    intro stored record expired
    cases expired <;> rfl
  cases derives with
  | @forfeits readPath stored read held =>
      have stands := reads _ _ read
      have isPath := stands.1.under
      subst isPath
      exact ⟨stands.1.expired (.forfeited held), fun current isField =>
        (sameTree stands isField).trans (keepsTree (.forfeited held)).symm⟩
  | claims isClaim leased =>
      subst isClaim
      constructor
      · exact shaped_hold rfl valid.1 (fun _ none => nomatch none) (writable_of_leased leased)
          valid.2
      · intro current isField
        rw [not_met_absent shaped met] at isField
        cases isField
  | reclaims isClaim leased read expired =>
      subst isClaim
      have stands := reads _ _ read
      have before := stands.1.expired expired
      constructor
      · exact shaped_hold before.under before.named before.handoff (writable_of_leased leased)
          valid.2
      · intro current isField
        exact (sameTree stands isField).trans (keepsTree expired).symm
  | releases isRelease admitted read expired =>
      have stands := reads _ _ read
      refine ⟨(stands.1.expired expired).release (isStored_of_admitted admitted), ?_⟩
      intro current isField
      exact (sameTree stands isField).trans (keepsTree expired).symm

/-! ### Runs -/

theorem ShapedAt.write {written : CustodyRecord} {other : String}
    (stands : ShapedAt world other stored)
    (same : ∀ current, world.field path = some (.serialized current) →
      current.worktree = written.worktree) :
    ShapedAt (world.write id path written) other stored := by
  refine ⟨stands.1, ?_⟩
  rcases stands.2 with ⟨current, isField, isTree⟩
  by_cases here : other = path
  · subst here
    exact ⟨written, field_write_self, (same current isField).symm.trans isTree⟩
  · exact ⟨current, (field_write_of_ne here).trans isField, isTree⟩

theorem WellShaped.write (shaped : WellShaped world) (isShaped : Shaped path record)
    (same : ∀ current, world.field path = some (.serialized current) →
      current.worktree = record.worktree) : WellShaped (world.write id path record) where
  stored other stored isField := by
    by_cases here : other = path
    · subst here
      rw [field_write_self, Option.some.injEq] at isField
      exact ⟨record, id, world.field other, isField.symm, List.mem_cons_self⟩
    · rw [field_write_of_ne here] at isField
      rcases shaped.stored other stored isField with ⟨found, call, before, isFound, logged⟩
      exact ⟨found, call, before, isFound, List.mem_cons_of_mem _ logged⟩
  written call other before found logged := by
    rcases List.mem_cons.mp logged with latest | earlier
    · cases latest
      exact ⟨isShaped, record, field_write_self, rfl⟩
    · exact (shaped.written call other before found earlier).write same
  listed entry member := by
    rcases List.mem_cons.mp member with rfl | earlier
    · exact field_write_self
    · rcases List.mem_filter.mp earlier with ⟨inside, other⟩
      rw [field_write_of_ne (bne_iff_ne.mp other)]
      exact shaped.listed entry inside

theorem KnowsReads.cons {command : Command} {next rest : Program Command Reply Result}
    {after : World} (knows : KnowsReads world id ⟨input, past, next⟩)
    (shaped : WellShaped world)
    (kept : ∀ path stored, ShapedAt world path stored → ShapedAt after path stored) :
    KnowsReads after id ⟨input, ⟨command, (serve id command world).1⟩ :: past, rest⟩ := by
  intro path stored read
  apply kept
  rcases read with got | ⟨fields, listed, member⟩
  · rcases List.mem_cons.mp got with latest | earlier
    · rcases Sigma.mk.inj latest with ⟨rfl, replied⟩
      exact shaped.stands (eq_of_heq replied).symm
    · exact knows path stored (Or.inl earlier)
  · rcases List.mem_cons.mp listed with latest | earlier
    · rcases Sigma.mk.inj latest with ⟨rfl, replied⟩
      have isListed : fields = world.records := eq_of_heq replied
      exact shaped.stands (shaped.listed _ (isListed ▸ member))
    · exact knows path stored (Or.inr ⟨fields, earlier, member⟩)

theorem preserves_shape : Protocol.Preserves custodyProtocol
    (fun world id call command => validCalls world id call command ∧
      DerivedCommand call.input call.past command)
    WellShaped KnowsReads fun _ _ => True where
  opened _ _ _ path stored read := by
    rcases read with got | ⟨fields, listed, -⟩
    · cases got
    · cases listed
  served {world id input past command next} shaped knows meets := by
    have step : WellShaped (serve id command world).2 ∧
        ∀ path stored, ShapedAt world path stored →
          ShapedAt (serve id command world).2 path stored := by
      have effect := serve_effect id world command
      generalize (serve id command world).2 = after at effect ⊢
      cases effect with
      | read =>
          refine ⟨⟨fun path stored isField => ?_, fun call path before record logged => ?_,
            shaped.listed⟩, fun _ _ stands => stands⟩
          · rcases shaped.stored path stored isField with ⟨found, call, before, isFound, logged⟩
            exact ⟨found, call, before, isFound, List.mem_cons_of_mem _ logged⟩
          · rcases List.mem_cons.mp logged with latest | earlier
            · cases latest
            · exact shaped.written call path before record earlier
      | wrote isSet met =>
          subst isSet
          rcases Derives.stands meets.2 shaped knows meets.1 met with ⟨isShaped, same⟩
          exact ⟨shaped.write isShaped same, fun _ _ stands => stands.write same⟩
      | refused => exact ⟨shaped, fun _ _ stands => stands⟩
    refine ⟨step.1, knows.cons shaped step.2,
      fun other _ => ⟨fun call known => ?_, fun unused => unused⟩⟩
    intro path stored read
    exact step.2 path stored (known path stored read)
  moved shaped moves := by
    cases moves
    exact ⟨⟨shaped.stored, shaped.written, shaped.listed⟩,
      fun _ => ⟨fun _ known => known, fun unused => unused⟩⟩

/-! ## The shape of the store -/

/-- An empty hash. -/
structure Empty (world : World) : Prop where
  records : world.records = []
  log : world.log = []

/-- The records that were ever written, and those that are stored. -/
structure StoreShape (world : World) : Prop where
  written : ∀ id path before record, .wrote id path before record ∈ world.log →
    Shaped path record ∧ ∀ text, record.IsText text →
      ∃ document, parseText text = some document ∧ readRecordFields document = some record
  identity : ∀ id path before record other earlier found,
    .wrote id path before record ∈ world.log → .wrote other path earlier found ∈ world.log →
      record.worktree = found.worktree
  kept : ∀ id path before record, .wrote id path before record ∈ world.log →
    ∃ current, world.field path = some (.serialized current)
  stored : ∀ path stored, world.field path = some stored →
    ∃ record id before, stored = .serialized record ∧ .wrote id path before record ∈ world.log

theorem stored_records_shaped (system : CustodySystem)
    (reached : custodyProtocol.Reachable validCalls Empty system) : StoreShape system.world := by
  have holds := (reached.asking follows_derived).invariant (fun world empty => ?_) preserves_shape
  have shaped := holds.shared
  constructor
  · intro id path before record logged
    have stands := shaped.written id path before record logged
    exact ⟨stands.1, fun text isText => parseText_of_isText stands.1.readable isText⟩
  · intro id path before record other earlier found logged isLogged
    rcases (shaped.written id path before record logged).2 with ⟨current, isField, same⟩
    rcases (shaped.written other path earlier found isLogged).2 with ⟨again, isAgain, isSame⟩
    rw [isField, Option.some.injEq, Stored.serialized.injEq] at isAgain
    subst isAgain
    exact same.symm.trans isSame
  · intro id path before record logged
    rcases (shaped.written id path before record logged).2 with ⟨current, isField, -⟩
    exact ⟨current, isField⟩
  · exact shaped.stored
  · refine ⟨⟨fun path stored isField => ?_, fun id path before record logged => ?_,
      fun entry member => ?_⟩, fun _ => trivial⟩
    · rw [World.field, empty.records] at isField
      cases isField
    · rw [empty.log] at logged
      cases logged
    · rw [empty.records] at member
      cases member

/-! A worktree is claimed and released. -/

def emptyWorld : World := ⟨[], 0, []⟩

theorem reachable_advance {system : CustodySystem}
    (reached : custodyProtocol.Reachable validCalls Empty system) (id : Nat) {input : Input}
    (isInput : (system.calls id).map (·.input) = some input) (valid : input.Valid) :
    custodyProtocol.Reachable validCalls Empty (custodyProtocol.advance system id) := by
  apply reached.advance id
  intro call command next running _
  rw [running, Option.map_some, Option.some.injEq] at isInput
  rw [validCalls, isInput]
  exact valid

theorem released_record_shaped : ∃ system,
    custodyProtocol.Reachable validCalls Empty system ∧
      (∃ id before record, .wrote id "/w" before record ∈ system.world.log ∧
        record.state = .released) ∧ StoreShape system.world := by
  have empty : custodyProtocol.Reachable validCalls Empty ⟨emptyWorld, fun _ => none⟩ :=
    Protocol.Reachable.init ⟨rfl, rfl⟩
  have valid : (Input.claim (sampleClaim "s" 0)).Valid := ⟨by decide, by decide, by decide⟩
  have begun := empty.start 0 (.claim (sampleClaim "s" 0)) rfl (opens_claim rfl)
  have read := reachable_advance begun 0 rfl valid
  have claimed := reachable_advance read 0 rfl valid
  have releasing := claimed.start 1 (.release (sampleRelease "s" "next" 0)) rfl
    (opens_release rfl (by decide))
  have held := reachable_advance releasing 1 rfl trivial
  have released := reachable_advance held 1 rfl trivial
  exact ⟨_, released, ⟨_, _, _, List.mem_cons_self, rfl⟩, stored_records_shaped _ released⟩

end Store

end GptQueue.Custody
