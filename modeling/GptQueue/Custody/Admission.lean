import GptQueue.Custody.Shape

/-! # What is admitted as a handoff

The admission of an untrusted document is compared with a description of the documents
that are handoffs. It agrees with it, except that a handoff without hazards makes it throw.
-/

namespace GptQueue.Custody

/-- The document is a handoff, with these values; an absent list of hazards is empty. -/
structure Admissible (input : Json) (handoff : HandoffRecord) : Prop where
  version : isVersionOne input = true
  repoHead : input.field "repo_head" = some (.string handoff.repoHead) ∧ handoff.repoHead ≠ ""
  treeState : input.field "tracked_tree_state" = some (.string handoff.trackedTreeState.text)
  inventory : input.field "untracked_inventory" =
    some (.array (handoff.untrackedInventory.map .string)) ∧ "" ∉ handoff.untrackedInventory
  listed : handoff.trackedTreeState = .dirty → handoff.untrackedInventory ≠ []
  hazards : input.field "hazards" = none ∧ handoff.hazards = [] ∨
    input.field "hazards" = some (.array (handoff.hazards.map .string))
  unfinishedWork : input.field "unfinished_work" = some (.string handoff.unfinishedWork) ∧
    handoff.unfinishedWork ≠ ""
  authoredBy : input.field "authored_by" = some (.string handoff.authoredBy.text)
  nextStep : input.field "next_step" = some (.string handoff.nextStep) ∧ handoff.nextStep ≠ ""

/-! ## The checks -/

section Checks

variable {input : Json} {value : Option Json} {entries : List String}

theorem stringArray_iff {document : Json} :
    stringArray document = some entries ↔ document = .array (entries.map .string) := by
  constructor
  · intro strings
    cases document with
    | array items =>
        rw [stringArray] at strings
        induction items generalizing entries with
        | nil =>
            cases strings
            rfl
        | cons item items induction =>
            rw [List.mapM_cons] at strings
            rcases Option.bind_eq_some_iff.mp strings with ⟨text, isText, rest⟩
            rcases Option.bind_eq_some_iff.mp rest with ⟨others, isOthers, same⟩
            cases same
            cases item with
            | string other =>
                cases isText
                have later := induction isOthers
                rw [Json.array.injEq] at later
                rw [later]
                rfl
            | _ => cases isText
    | _ => cases strings
  · intro same
    rw [same]
    exact stringArray_strings entries

theorem nonEmptyField_iff {name text : String} :
    nonEmptyField input name = some text ↔ input.field name = some (.string text) ∧ text ≠ "" := by
  constructor
  · intro found
    refine ⟨?_, nonEmpty_of_field found⟩
    unfold nonEmptyField at found
    split at found
    · next other isField =>
        split at found
        · cases found
        · rw [isField, Option.some.inj found]
    · cases found
  · intro field
    exact nonEmptyField_of_field field.1 field.2

theorem inventoryEntries_iff :
    inventoryEntries value = some entries ↔
      value = some (.array (entries.map .string)) ∧ "" ∉ entries := by
  constructor
  · intro found
    refine ⟨?_, notMem_inventory found⟩
    unfold inventoryEntries at found
    split at found
    · next others isArray =>
        split at found
        · cases found
        · rcases Option.bind_eq_some_iff.mp isArray with ⟨document, isValue, strings⟩
          rw [isValue, stringArray_iff.mp strings, Option.some.inj found]
    · cases found
  · intro isInventory
    rw [isInventory.1, inventoryEntries, Option.bind_some, stringArray_strings]
    exact if_neg isInventory.2

theorem hazardEntries_iff {listed : Option (List String)} :
    hazardEntries value = some listed ↔
      value = listed.map fun hazards => .array (hazards.map .string) := by
  cases value with
  | none =>
      cases listed with
      | none => exact ⟨fun _ => rfl, fun _ => rfl⟩
      | some hazards =>
          constructor
          · intro found
            cases found
          · intro same
            cases same
  | some document =>
      rw [hazardEntries, Option.map_eq_some_iff]
      constructor
      · intro found
        rcases found with ⟨hazards, strings, rfl⟩
        rw [stringArray_iff.mp strings]
        rfl
      · intro isList
        cases listed with
        | none => cases isList
        | some hazards =>
            exact ⟨hazards, stringArray_iff.mpr (Option.some.inj isList), rfl⟩

theorem readTreeState_iff {state : TreeState} :
    readTreeState input = some state ↔
      input.field "tracked_tree_state" = some (.string state.text) := by
  constructor
  · intro found
    unfold readTreeState at found
    split at found
    · next isField =>
        cases found
        exact isField
    · next isField =>
        cases found
        exact isField
    · cases found
  · intro isField
    rw [readTreeState, isField]
    cases state <;> rfl

theorem readAuthor_iff {author : Author} :
    readAuthor input = some author ↔ input.field "authored_by" = some (.string author.text) := by
  constructor
  · intro found
    unfold readAuthor at found
    split at found
    · next isField =>
        cases found
        exact isField
    · next isField =>
        cases found
        exact isField
    · cases found
  · intro isField
    rw [readAuthor, isField]
    cases author <;> rfl

end Checks

/-! ## The outcome -/

section Outcome

variable {input : Json} {handoff : HandoffRecord}

theorem Admissible.inventory_listed (admissible : Admissible input handoff) :
    ¬(handoff.trackedTreeState = .dirty ∧
      isEmptyInventory (input.field "untracked_inventory") = true) := by
  intro both
  rw [admissible.inventory.1, isEmptyInventory_strings, beq_iff_eq] at both
  exact admissible.listed both.1 both.2

/-- A handoff passes all checks; then its hazards are spread. -/
theorem Admissible.admitted (admissible : Admissible input handoff) :
    admitHandoffRecord input = .throws ∧ input.field "hazards" = none ∨
      admitHandoffRecord input = .ok handoff ∧ input.field "hazards" ≠ none := by
  have full := admissible.inventory_listed
  rw [admitHandoffRecord, admissible.version, if_neg (by decide),
    nonEmptyField_iff.mpr admissible.repoHead]
  dsimp only
  rw [readTreeState_iff.mpr admissible.treeState]
  dsimp only
  rw [if_neg full, inventoryEntries_iff.mpr admissible.inventory,
    nonEmptyField_iff.mpr admissible.unfinishedWork, readAuthor_iff.mpr admissible.authoredBy,
    nonEmptyField_iff.mpr admissible.nextStep]
  rcases admissible.hazards with ⟨absent, -⟩ | isList
  · rw [absent]
    exact Or.inl ⟨rfl, rfl⟩
  · have isListed : hazardEntries (input.field "hazards") = some (some handoff.hazards) :=
      hazardEntries_iff.mpr isList
    rw [isListed]
    refine Or.inr ⟨rfl, ?_⟩
    rw [isList]
    exact Option.some_ne_none _

theorem Admissible.throws (admissible : Admissible input handoff)
    (absent : input.field "hazards" = none) : admitHandoffRecord input = .throws := by
  rcases admissible.admitted with throws | ok
  · exact throws.1
  · exact absurd absent ok.2

theorem Admissible.ok (admissible : Admissible input handoff)
    (present : input.field "hazards" ≠ none) : admitHandoffRecord input = .ok handoff := by
  rcases admissible.admitted with throws | ok
  · exact absurd throws.2 present
  · exact ok.1

/-- Whatever is not refused has passed all checks. -/
theorem admissible_of_checks {repoHead : String} {state : TreeState} {inventory : List String}
    {listed : Option (List String)} {work : String} {author : Author} {next : String}
    (version : isVersionOne input = true) (head : nonEmptyField input "repo_head" = some repoHead)
    (isState : readTreeState input = some state)
    (full : ¬(state = .dirty ∧ isEmptyInventory (input.field "untracked_inventory") = true))
    (isInventory : inventoryEntries (input.field "untracked_inventory") = some inventory)
    (isListed : hazardEntries (input.field "hazards") = some listed)
    (isWork : nonEmptyField input "unfinished_work" = some work)
    (isAuthor : readAuthor input = some author)
    (isNext : nonEmptyField input "next_step" = some next) :
    Admissible input ⟨author, repoHead, state, inventory, work, listed.getD [], next⟩ where
  version := version
  repoHead := nonEmptyField_iff.mp head
  treeState := readTreeState_iff.mp isState
  inventory := inventoryEntries_iff.mp isInventory
  listed dirty empty := by
    apply full
    refine ⟨dirty, ?_⟩
    rw [(inventoryEntries_iff.mp isInventory).1, isEmptyInventory_strings, beq_iff_eq]
    exact empty
  hazards := by
    have isField := hazardEntries_iff.mp isListed
    cases listed with
    | none => exact Or.inl ⟨isField, rfl⟩
    | some hazards => exact Or.inr isField
  unfinishedWork := nonEmptyField_iff.mp isWork
  authoredBy := readAuthor_iff.mp isAuthor
  nextStep := nonEmptyField_iff.mp isNext

/-- A document is refused, or it is a handoff. -/
theorem admitHandoffRecord_cases (input : Json) :
    (∃ error, admitHandoffRecord input = .refused error) ∨ ∃ handoff, Admissible input handoff := by
  unfold admitHandoffRecord handoffInvalid
  split
  · exact Or.inl ⟨_, rfl⟩
  next version =>
  split
  · exact Or.inl ⟨_, rfl⟩
  next repoHead isHead =>
  split
  · exact Or.inl ⟨_, rfl⟩
  next state isState =>
  split
  · exact Or.inl ⟨_, rfl⟩
  next full =>
  split
  next inventory listed isInventory isListed =>
    split
    · exact Or.inl ⟨_, rfl⟩
    next work isWork =>
    split
    · exact Or.inl ⟨_, rfl⟩
    next author isAuthor =>
    split
    · exact Or.inl ⟨_, rfl⟩
    next next isNext =>
    have isOne : isVersionOne input = true := by simpa using version
    exact Or.inr ⟨_, admissible_of_checks isOne isHead isState full isInventory isListed isWork
      isAuthor isNext⟩
  · exact Or.inl ⟨_, rfl⟩

theorem Admissible.unique {other : HandoffRecord} (admissible : Admissible input handoff)
    (again : Admissible input other) : handoff = other := by
  rcases handoff with ⟨author, head, state, inventory, work, hazards, next⟩
  have heads := admissible.repoHead.1.symm.trans again.repoHead.1
  have states := (readTreeState_iff.mpr admissible.treeState).symm.trans
    (readTreeState_iff.mpr again.treeState)
  have authors := (readAuthor_iff.mpr admissible.authoredBy).symm.trans
    (readAuthor_iff.mpr again.authoredBy)
  have inventories := (inventoryEntries_iff.mpr admissible.inventory).symm.trans
    (inventoryEntries_iff.mpr again.inventory)
  have works := admissible.unfinishedWork.1.symm.trans again.unfinishedWork.1
  have nexts := admissible.nextStep.1.symm.trans again.nextStep.1
  have listed : hazards = other.hazards := by
    rcases admissible.hazards with ⟨absent, empty⟩ | isList
    · rcases again.hazards with ⟨-, otherEmpty⟩ | isOther
      · exact empty.trans otherEmpty.symm
      · rw [absent] at isOther
        cases isOther
    · rcases again.hazards with ⟨absent, -⟩ | isOther
      · rw [absent] at isList
        cases isList
      · rw [isList, Option.some.injEq] at isOther
        exact Option.some.inj
          ((stringArray_iff.mpr isOther).symm.trans (stringArray_iff.mpr rfl)).symm
  rcases other with ⟨author', head', state', inventory', work', hazards', next'⟩
  cases heads
  cases states
  cases authors
  cases inventories
  cases works
  cases nexts
  cases listed
  rfl

end Outcome

/-! ## Releases -/

/-- A program whose result is never that it throws, whatever the server replies. -/
def Returns (past : Past) (program : Program Command Reply Result) : Prop :=
  program.Follows (fun _ _ => True) (fun _ result => result ≠ .throws) past

theorem returns_persist {past : Past} {path : String} {transition : Transition}
    {expected : Precondition} {next : Program Command Reply Result}
    (goesOn : ∀ past, Returns past next) :
    Returns past (persist path transition expected next) := by
  unfold persist
  split
  · exact Result.noConfusion
  · refine ⟨trivial, fun reply => ?_⟩
    cases reply with
    | true => exact Result.noConfusion
    | false => exact goesOn _

theorem releaseDefeat_ne_throws (released : ReleaseInput) (current : CustodyRecord) :
    releaseDefeat released current ≠ .throws := by
  unfold releaseDefeat
  split
  · exact Result.noConfusion
  · split <;> exact Result.noConfusion

theorem returns_releaseAttempts (released : ReleaseInput) (handoff : HandoffRecord)
    (attempts : Nat) (past : Past) : Returns past (releaseAttempts released handoff attempts) := by
  induction attempts generalizing past with
  | zero =>
      apply Program.follows_ask_bind.mpr
      refine ⟨trivial, fun reply => ?_⟩
      split
      · exact Result.noConfusion
      · exact Result.noConfusion
      · exact releaseDefeat_ne_throws released _
  | succ attempts induction =>
      apply Program.follows_ask_bind.mpr
      refine ⟨trivial, fun reply => ?_⟩
      split
      · exact Result.noConfusion
      · exact Result.noConfusion
      next stored _ =>
        apply (Program.follows_any _ (lazyExpire stored released.now)).bind
        intro later record _
        split
        · exact Result.noConfusion
        · split
          · exact Result.noConfusion
          · exact returns_persist induction

/-- A release throws only with its admission. -/
theorem returns_release {released : ReleaseInput}
    (returns : admitHandoffRecord released.handoff ≠ .throws) : Returns [] (release released) := by
  rw [release]
  split
  · exact Result.noConfusion
  · next throws => exact absurd throws returns
  · next handoff _ => exact returns_releaseAttempts released handoff 2 []

/-! ## When the admission is exact -/

/-- A document is admitted without a throw, exactly when it is a handoff, with the same
outcome again for what was admitted, and no release of it throws. -/
structure ExactAdmission (input : Json) : Prop where
  returns : admitHandoffRecord input ≠ .throws
  exact : ∀ handoff, admitHandoffRecord input = .ok handoff ↔ Admissible input handoff
  again : ∀ handoff, admitHandoffRecord input = .ok handoff →
    admitHandoffRecord handoff.toJson = .ok handoff
  releases : ∀ released : ReleaseInput, released.handoff = input → Returns [] (release released)

theorem ok_iff_of_returns {input : Json} (returns : admitHandoffRecord input ≠ .throws)
    (handoff : HandoffRecord) :
    admitHandoffRecord input = .ok handoff ↔ Admissible input handoff := by
  have present : ∀ other, Admissible input other → input.field "hazards" ≠ none :=
    fun other admissible absent => returns (admissible.throws absent)
  constructor
  · intro admitted
    rcases admitHandoffRecord_cases input with ⟨error, refused⟩ | ⟨other, admissible⟩
    · rw [refused] at admitted
      cases admitted
    · have ok := admissible.ok (present other admissible)
      rw [ok] at admitted
      cases admitted
      exact admissible
  · intro admissible
    exact admissible.ok (present handoff admissible)

/-- The admission is exact for all documents but the handoffs without hazards. -/
theorem admission_exact_iff (input : Json) :
    ExactAdmission input ↔
      (input.field "hazards" = none → ∀ handoff, ¬Admissible input handoff) := by
  constructor
  · intro exactly absent handoff admissible
    exact exactly.returns (admissible.throws absent)
  · intro condition
    have returns : admitHandoffRecord input ≠ .throws := by
      intro throws
      rcases admitHandoffRecord_cases input with ⟨error, refused⟩ | ⟨handoff, admissible⟩
      · rw [refused] at throws
        cases throws
      · have present : input.field "hazards" ≠ none :=
          fun absent => condition absent handoff admissible
        rw [admissible.ok present] at throws
        cases throws
    exact
      { returns := returns
        exact := ok_iff_of_returns returns
        again := fun handoff admitted => admitHandoffRecord_toJson (isStored_of_admitted admitted)
        releases := fun released same => returns_release (same ▸ returns) }

/-- A clean handoff, without the optional hazards. -/
def withoutHazards : Json :=
  .object [("schema_version", .number Numeral.one), ("repo_head", .string "0a1b"),
    ("tracked_tree_state", .string "clean"), ("untracked_inventory", .array []),
    ("unfinished_work", .string "none"), ("authored_by", .string "origin"),
    ("next_step", .string "review")]

theorem admission_throws :
    (∃ handoff, Admissible withoutHazards handoff) ∧
      admitHandoffRecord withoutHazards = .throws ∧
      ∃ released : ReleaseInput, released.handoff = withoutHazards ∧
        release released = .done .throws := by
  have throws : admitHandoffRecord withoutHazards = .throws := rfl
  refine ⟨⟨⟨.origin, "0a1b", .clean, [], "none", [], "review"⟩, ?_⟩, throws,
    ⟨⟨"/w", "s", withoutHazards, .instant 0⟩, rfl, ?_⟩⟩
  · exact
      { version := rfl
        repoHead := ⟨rfl, by decide⟩
        treeState := rfl
        inventory := ⟨rfl, List.not_mem_nil⟩
        listed := fun dirty => by cases dirty
        hazards := Or.inl ⟨rfl, rfl⟩
        unfinishedWork := ⟨rfl, by decide⟩
        authoredBy := rfl
        nextStep := ⟨rfl, by decide⟩ }
  · rw [release, throws]
    rfl

end GptQueue.Custody
