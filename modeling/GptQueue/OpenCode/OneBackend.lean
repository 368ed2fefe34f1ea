import GptQueue.OpenCode.SessionOwner

/-! # One backend for a session

At most one backend of a session is open at a time, none is closed twice, and the end of
the disposal leaves none open.
-/

namespace GptQueue.OpenCode

/-! ## What the calls ask -/

section Asks

/-- The call closes the entry under this session id. -/
def Closes (input : Input) (past : Past) (sessionID : String) (entry : Nat) : Prop :=
  (∃ directory, ⟨.closeSession sessionID directory, some entry⟩ ∈ past) ∨
    input = .disposeTask sessionID entry

/-- It has gone past its await of the handle. -/
def Handled (past : Past) (entry : Nat) : Prop :=
  ⟨.closeHandle entry, ()⟩ ∈ past ∨
    ∃ cancellation, ⟨.awaitResult entry, .rejected cancellation⟩ ∈ past

/-- What has happened before a command is given. -/
def Precedes (input : Input) (past : Past) : Command → Prop
  | .getOrCreate identity => input = .getOrCreate identity ∧ past = []
  | .create => ∃ identity, input = .getOrCreate identity ∧
      past = [⟨.getOrCreate identity, .created⟩]
  | .receive => (∃ identity, input = .getOrCreate identity) ∧
      ∃ older, past = ⟨.create, true⟩ :: older
  | .awaitCleanup => (∃ identity, input = .getOrCreate identity) ∧
      ∃ older, past = ⟨.receive, true⟩ :: older
  | .publish => (∃ identity, input = .getOrCreate identity) ∧
      ∃ older, past = ⟨.receive, false⟩ :: older
  | .fail _ => (∃ identity, input = .getOrCreate identity) ∧
      ∃ older, past = ⟨.create, false⟩ :: older ∨
        ∃ cleaned, past = ⟨.awaitCleanup, cleaned⟩ :: older
  | .closeSession sessionID directory => input = .close sessionID directory ∧ past = []
  | .awaitResult entry => (∀ identity, input ≠ .getOrCreate identity) ∧
      ∃ sessionID, Closes input past sessionID entry
  | .closeHandle entry => (∀ identity, input ≠ .getOrCreate identity) ∧
      (⟨.awaitResult entry, .fulfilled⟩ ∈ past ∨ input = .closeHandle entry)
  | .awaitClosed entry => (∀ identity, input ≠ .getOrCreate identity) ∧
      ⟨.closeHandle entry, ()⟩ ∈ past
  | .finish sessionID entry => (∀ identity, input ≠ .getOrCreate identity) ∧
      Closes input past sessionID entry ∧
        ((∃ cancellation, ⟨.awaitResult entry, .rejected cancellation⟩ ∈ past) ∨
          ∃ succeeded, ⟨.awaitClosed entry, succeeded⟩ ∈ past)
  | .dispose => input = .dispose
  | .taskDone entry => ∃ sessionID ready, input = .disposeTask sessionID entry ∧
      ⟨.finish sessionID entry, ready⟩ ∈ past
  | .awaitDisposal => input = .dispose

def Asks (input : Input) (past : Past) (command : Command) : Prop :=
  Precedes input past command ∧ ∀ sessionID entry, Closes input past sessionID entry →
    Handled past entry ∨ command = .awaitResult entry ∨ command = .closeHandle entry

/-- How a creation ends. -/
def Created : Past → Prop
  | ⟨.getOrCreate _, admission⟩ :: _ => admission ≠ .created
  | ⟨.publish, _⟩ :: _ => True
  | ⟨.fail _, _⟩ :: _ => True
  | _ => False

structure Ends (input : Input) (past : Past) (_ : Result) : Prop where
  handled : ∀ sessionID entry, Closes input past sessionID entry → Handled past entry
  created : ∀ identity, input = .getOrCreate identity → Created past
  disposed : input = .dispose → ⟨.awaitDisposal, ()⟩ ∈ past

theorem not_closes_getOrCreate {identity : OpenCodeSessionIdentity} {past : Past}
    (others : ∀ sessionID directory entry, ⟨.closeSession sessionID directory, some entry⟩ ∉ past)
    (sessionID : String) (entry : Nat) : ¬Closes (.getOrCreate identity) past sessionID entry := by
  rintro (⟨directory, member⟩ | same)
  · exact others sessionID directory entry member
  · cases same

theorem follows_getOrCreate (identity : OpenCodeSessionIdentity) :
    (getOrCreate identity).Follows (Asks (.getOrCreate identity)) (Ends (.getOrCreate identity))
      [] := by
  have asks : ∀ past command, Precedes (.getOrCreate identity) past command →
      (∀ sessionID directory entry, ⟨.closeSession sessionID directory, some entry⟩ ∉ past) →
        Asks (.getOrCreate identity) past command := by
    intro past command precedes others
    exact ⟨precedes, fun sessionID entry closes =>
      absurd closes (not_closes_getOrCreate others sessionID entry)⟩
  have ends : ∀ past result, Created past →
      (∀ sessionID directory entry, ⟨.closeSession sessionID directory, some entry⟩ ∉ past) →
        Ends (.getOrCreate identity) past result := by
    intro past result created others
    exact ⟨fun sessionID entry closes =>
        absurd closes (not_closes_getOrCreate others sessionID entry),
      fun _ _ => created, fun same => nomatch same⟩
  apply Program.follows_ask_bind.mpr ⟨asks _ _ ?_ (by simp), fun admission => ?_⟩
  · exact ⟨rfl, rfl⟩
  cases admission with
  | raised => exact ends _ _ (fun same => nomatch same) (by simp)
  | existing entry => exact ends _ _ (fun same => nomatch same) (by simp)
  | created =>
      apply Program.follows_ask_bind.mpr ⟨asks _ _ ?_ (by simp), fun made => ?_⟩
      · exact ⟨identity, rfl, rfl⟩
      cases made with
      | false =>
          rw [if_neg Bool.false_ne_true]
          apply Program.follows_ask_bind.mpr ⟨asks _ _ ?_ (by simp), fun _ => ?_⟩
          · exact ⟨⟨identity, rfl⟩, _, Or.inl rfl⟩
          exact ends _ _ trivial (by simp)
      | true =>
          rw [if_pos rfl]
          apply Program.follows_ask_bind.mpr ⟨asks _ _ ?_ (by simp), fun cancelled => ?_⟩
          · exact ⟨⟨identity, rfl⟩, _, rfl⟩
          cases cancelled with
          | false =>
              rw [if_neg Bool.false_ne_true]
              apply Program.follows_ask_bind.mpr ⟨asks _ _ ?_ (by simp), fun _ => ?_⟩
              · exact ⟨⟨identity, rfl⟩, _, rfl⟩
              exact ends _ _ trivial (by simp)
          | true =>
              rw [if_pos rfl]
              apply Program.follows_ask_bind.mpr ⟨asks _ _ ?_ (by simp), fun cleaned => ?_⟩
              · exact ⟨⟨identity, rfl⟩, _, rfl⟩
              apply Program.follows_ask_bind.mpr ⟨asks _ _ ?_ (by simp), fun _ => ?_⟩
              · exact ⟨⟨identity, rfl⟩, _, Or.inr ⟨cleaned, rfl⟩⟩
              exact ends _ _ trivial (by simp)

section Closing

variable {input : Input} {past : Past} {sessionID : String} {entry : Nat}

theorem Closes.mono {later : Past} (closes : Closes input past sessionID entry)
    (more : past ⊆ later) : Closes input later sessionID entry := by
  rcases closes with ⟨directory, member⟩ | isTask
  · exact Or.inl ⟨directory, more member⟩
  · exact Or.inr isTask

/-- Another command adds nothing that is to be closed. -/
theorem Closes.of_cons {exchange : Exchange Command Reply}
    (closes : Closes input (exchange :: past) sessionID entry)
    (other : ∀ sessionID directory, exchange.1 ≠ .closeSession sessionID directory) :
    Closes input past sessionID entry := by
  rcases closes with ⟨directory, member⟩ | isTask
  · rcases List.mem_cons.mp member with same | earlier
    · exact absurd (congrArg Sigma.fst same).symm (other sessionID directory)
    · exact Or.inl ⟨directory, earlier⟩
  · exact Or.inr isTask

theorem Handled.mono {later : Past} (handled : Handled past entry) (more : past ⊆ later) :
    Handled later entry := by
  rcases handled with closed | ⟨cancellation, awaited⟩
  · exact Or.inl (more closed)
  · exact Or.inr ⟨cancellation, more awaited⟩

/-- The part of `close` from the await on, for the one entry that the call closes. -/
theorem follows_closeEntry (notCreation : ∀ identity, input ≠ .getOrCreate identity)
    (closes : Closes input past sessionID entry)
    (only : ∀ otherID other, Closes input past otherID other → other = entry) :
    (closeEntry sessionID entry).Follows (Asks input)
      (fun later _ => (∀ otherID other, Closes input later otherID other → Handled later other) ∧
        ∃ ready, ⟨.finish sessionID entry, ready⟩ ∈ later) past := by
  refine Program.follows_ask_bind.mpr ⟨⟨⟨notCreation, sessionID, closes⟩, ?_⟩, fun outcome => ?_⟩
  · intro otherID other isClosed
    rw [only otherID other isClosed]
    exact Or.inr (Or.inl rfl)
  have awaited :=
    List.subset_cons_self (⟨.awaitResult entry, outcome⟩ : Exchange Command Reply) past
  have onlyThis : ∀ otherID other,
      Closes input (⟨.awaitResult entry, outcome⟩ :: past) otherID other → other = entry := by
    intro otherID other isClosed
    exact only otherID other (isClosed.of_cons fun _ _ same => nomatch same)
  cases outcome with
  | rejected cancellation =>
      have handled : Handled (⟨.awaitResult entry, .rejected cancellation⟩ :: past) entry :=
        Or.inr ⟨cancellation, List.mem_cons_self⟩
      refine Program.follows_ask_bind.mpr ⟨⟨⟨notCreation, closes.mono awaited,
        Or.inl ⟨cancellation, List.mem_cons_self⟩⟩, ?_⟩, fun ready => ⟨?_, ?_⟩⟩
      · intro otherID other isClosed
        rw [onlyThis otherID other isClosed]
        exact Or.inl handled
      · intro otherID other isClosed
        rw [onlyThis otherID other (isClosed.of_cons fun _ _ same => nomatch same)]
        exact handled.mono (List.subset_cons_self _ _)
      · exact ⟨ready, List.mem_cons_self⟩
  | fulfilled =>
      refine Program.follows_ask_bind.mpr
        ⟨⟨⟨notCreation, Or.inl List.mem_cons_self⟩, ?_⟩, fun _ => ?_⟩
      · intro otherID other isClosed
        rw [onlyThis otherID other isClosed]
        exact Or.inr (Or.inr rfl)
      have handled : Handled (⟨.closeHandle entry, ()⟩ :: ⟨.awaitResult entry, .fulfilled⟩ :: past)
          entry := Or.inl List.mem_cons_self
      refine Program.follows_ask_bind.mpr
        ⟨⟨⟨notCreation, List.mem_cons_self⟩, ?_⟩, fun succeeded => ?_⟩
      · intro otherID other isClosed
        rw [onlyThis otherID other (isClosed.of_cons fun _ _ same => nomatch same)]
        exact Or.inl handled
      refine Program.follows_ask_bind.mpr
        ⟨⟨⟨notCreation, ?_, Or.inr ⟨succeeded, List.mem_cons_self⟩⟩, ?_⟩, fun ready => ⟨?_, ?_⟩⟩
      · exact closes.mono fun exchange member =>
          List.mem_cons_of_mem _ (List.mem_cons_of_mem _ (awaited member))
      · intro otherID other isClosed
        rw [onlyThis otherID other ((isClosed.of_cons fun _ _ same => nomatch same).of_cons
          fun _ _ same => nomatch same)]
        exact Or.inl (handled.mono (List.subset_cons_self _ _))
      · intro otherID other isClosed
        rw [onlyThis otherID other (((isClosed.of_cons fun _ _ same => nomatch same).of_cons
          fun _ _ same => nomatch same).of_cons fun _ _ same => nomatch same)]
        exact handled.mono fun exchange member =>
          List.mem_cons_of_mem _ (List.mem_cons_of_mem _ member)
      · exact ⟨ready, List.mem_cons_self⟩

theorem follows_close (sessionID : String) (directory : Option String) :
    (close sessionID directory).Follows (Asks (.close sessionID directory))
      (Ends (.close sessionID directory)) [] := by
  refine Program.follows_ask_bind.mpr ⟨⟨⟨rfl, rfl⟩, ?_⟩, fun found => ?_⟩
  · rintro otherID other (⟨directory, member⟩ | isTask)
    · cases member
    · cases isTask
  cases found with
  | none =>
      refine ⟨?_, fun identity same => (nomatch same), fun same => (nomatch same)⟩
      rintro otherID other (⟨directory, member⟩ | isTask)
      · cases List.mem_singleton.mp member
      · cases isTask
  | some entry =>
      have notCreation : ∀ identity, Input.close sessionID directory ≠ .getOrCreate identity :=
        fun _ same => nomatch same
      apply (follows_closeEntry notCreation (Or.inl ⟨directory, List.mem_singleton_self _⟩) ?_).mono
      · intro later result ends
        exact ⟨ends.1, fun identity same => (nomatch same), fun same => (nomatch same)⟩
      · rintro otherID other (⟨directory, member⟩ | isTask)
        · cases List.mem_singleton.mp member
          rfl
        · cases isTask

theorem follows_closeHandle (entry : Nat) :
    (closeHandle entry).Follows (Asks (.closeHandle entry)) (Ends (.closeHandle entry)) [] := by
  have nothing : ∀ past : Past,
      (∀ sessionID directory other, ⟨.closeSession sessionID directory, some other⟩ ∉ past) →
        ∀ sessionID other, ¬Closes (.closeHandle entry) past sessionID other := by
    rintro past others sessionID other (⟨directory, member⟩ | isTask)
    · exact others sessionID directory other member
    · cases isTask
  refine Program.follows_ask_bind.mpr
    ⟨⟨⟨fun _ same => (nomatch same), Or.inr rfl⟩, ?_⟩, fun _ => ?_⟩
  · intro sessionID other closes
    exact absurd closes (nothing _ (by simp) sessionID other)
  refine Program.follows_ask_bind.mpr
    ⟨⟨⟨fun _ same => (nomatch same), List.mem_cons_self⟩, ?_⟩, fun _ => ⟨?_, ?_, ?_⟩⟩
  · intro sessionID other closes
    exact absurd closes (nothing _ (by simp) sessionID other)
  · intro sessionID other closes
    exact absurd closes (nothing _ (by simp) sessionID other)
  · intro identity same
    cases same
  · intro same
    cases same

theorem follows_disposeTask (sessionID : String) (entry : Nat) :
    (disposeTask sessionID entry).Follows (Asks (.disposeTask sessionID entry))
      (Ends (.disposeTask sessionID entry)) [] := by
  have notCreation : ∀ identity, Input.disposeTask sessionID entry ≠ .getOrCreate identity :=
    fun _ same => nomatch same
  apply (follows_closeEntry notCreation (Or.inr rfl) ?_).bind
  · rintro later result ⟨handled, ready, finished⟩
    refine Program.follows_ask_bind.mpr
      ⟨⟨⟨sessionID, ready, rfl, finished⟩, ?_⟩, fun _ => ⟨?_, ?_, ?_⟩⟩
    · intro otherID other closes
      exact Or.inl (handled otherID other closes)
    · intro otherID other closes
      have earlier := handled otherID other (closes.of_cons fun _ _ same => nomatch same)
      exact earlier.mono (List.subset_cons_self _ _)
    · intro identity same
      cases same
    · intro same
      cases same
  · rintro otherID other (⟨directory, member⟩ | isTask)
    · cases member
    · cases isTask
      rfl

theorem follows_dispose :
    dispose.Follows (Asks .dispose) (Ends .dispose) [] := by
  have nothing : ∀ past : Past,
      (∀ sessionID directory other, ⟨.closeSession sessionID directory, some other⟩ ∉ past) →
        ∀ sessionID other, ¬Closes .dispose past sessionID other := by
    rintro past others sessionID other (⟨directory, member⟩ | isTask)
    · exact others sessionID directory other member
    · cases isTask
  refine Program.follows_ask_bind.mpr ⟨⟨rfl, ?_⟩, fun _ => ?_⟩
  · intro sessionID other closes
    exact absurd closes (nothing _ (by simp) sessionID other)
  refine Program.follows_ask_bind.mpr ⟨⟨rfl, ?_⟩, fun _ => ⟨?_, ?_, ?_⟩⟩
  · intro sessionID other closes
    exact absurd closes (nothing _ (by simp) sessionID other)
  · intro sessionID other closes
    exact absurd closes (nothing _ (by simp) sessionID other)
  · intro identity same
    cases same
  · intro _
    exact List.mem_cons_self

end Closing

end Asks

/-! ## Entries and their backends -/

/-- What holds of an entry and its backend. -/
structure EntrySound (entry : SessionEntry) (backend : Backend) : Prop where
  closing : entry.closing = true → entry.ready = true ∧ backend.closes = 1 ∧
    entry.result = some .fulfilled
  unclosed : entry.ready = true → entry.closing = false → backend.closes = 0
  ready : entry.ready = true → backend.created = true
  uncreated : backend.created = false → backend.closes = 0
  settled : backend.settled ≠ none → backend.closes = 1
  closes : backend.closes ≤ 1
  closed : entry.closed = true → entry.closing = true ∧ backend.settled ≠ none
  fulfilled : entry.result = some .fulfilled → entry.ready = true
  rejected : ∀ cancellation, entry.result = some (.rejected cancellation) →
    backend.created = true → backend.settled ≠ none

/-- What the commands of calls do to an entry; only its own creation decides it. -/
structure EntryGrows (own : Prop) (old new : SessionEntry) (before after : Backend) : Prop where
  identity : new.identity = old.identity
  cancelled : old.cancelled = true → new.cancelled = true
  closing : old.closing = true → new.closing = true
  closed : old.closed = true → new.closed = true
  result : old.result ≠ none → new.result = old.result
  settled : before.settled ≠ none → after.settled = before.settled
  steady : own ∨ new.ready = old.ready ∧ new.result = old.result ∧
    after.created = before.created ∧ (old.ready = false → after.closes = before.closes)

theorem EntryGrows.refl (own : Prop) (entry : SessionEntry) (backend : Backend) :
    EntryGrows own entry entry backend backend :=
  ⟨rfl, id, id, id, fun _ => rfl, fun _ => rfl, Or.inr ⟨rfl, rfl, rfl, fun _ => rfl⟩⟩

/-- Entries that are not done with stay in the map. -/
structure Coherent (world : World) : Prop where
  unique : ∀ sessionID entry other, (sessionID, entry) ∈ world.entries →
    (sessionID, other) ∈ world.entries → entry = other
  known : ∀ sessionID entry, (sessionID, entry) ∈ world.entries →
    ∃ found, world.info entry = some found ∧ found.identity.sessionID = sessionID
  listed : ∀ entry found, world.info entry = some found →
    found.result = none ∨
      (world.backends entry).created = true ∧ (world.backends entry).settled = none →
    (found.identity.sessionID, entry) ∈ world.entries
  sound : ∀ entry found, world.info entry = some found → EntrySound found (world.backends entry)
  unborn : ∀ entry, world.info entry = none → world.backends entry = ⟨false, 0, none⟩
  disposal : world.disposed = world.tasks.isSome
  covered : ∀ tasks, world.tasks = some tasks → (∀ listed ∈ world.entries, listed ∈ tasks) ∧
    ∀ sessionID entry, (sessionID, entry) ∈ tasks → ∃ found, world.info entry = some found ∧
      found.identity.sessionID = sessionID ∧ found.cancelled = true
  finished : ∀ entry ∈ world.done, world.info entry ≠ none ∧
    ∀ sessionID, (sessionID, entry) ∉ world.entries
  cancelled : ∀ entry found, world.info entry = some found → found.cancelled = true →
    (∃ id, (id, entry) ∈ world.cancellations) ∨
      ∃ tasks sessionID, world.tasks = some tasks ∧ (sessionID, entry) ∈ tasks

/-- What the commands of calls do to the owner. -/
structure Grows (own : Nat → Prop) (world after : World) : Prop where
  entry : ∀ entry old, world.info entry = some old → ∃ new, after.info entry = some new ∧
    EntryGrows (own entry) old new (world.backends entry) (after.backends entry)
  unborn : ∀ entry, ¬own entry → world.info entry = none → after.info entry = none
  entries : ∀ sessionID entry, world.info entry ≠ none → (sessionID, entry) ∈ after.entries →
    (sessionID, entry) ∈ world.entries
  tasks : ∀ tasks, world.tasks = some tasks → after.tasks = some tasks
  done : ∀ entry ∈ world.done, entry ∈ after.done

theorem Grows.refl (own : Nat → Prop) (world : World) : Grows own world world where
  entry _ old isEntry := ⟨old, isEntry, EntryGrows.refl _ _ _⟩
  unborn _ _ none := none
  entries _ _ _ member := member
  tasks _ isTasks := isTasks
  done _ member := member

/-- One entry and its backend are changed, and the entry may leave the map. -/
structure Puts (world after : World) (entry : Nat) (new : SessionEntry) (backend : Backend) :
    Prop where
  info : after.info = Function.update world.info entry (some new)
  backends : after.backends = Function.update world.backends entry backend
  entries : ∀ listed ∈ after.entries, listed ∈ world.entries
  kept : ∀ listed ∈ world.entries, listed.2 ≠ entry → listed ∈ after.entries
  disposed : after.disposed = world.disposed
  tasks : after.tasks = world.tasks
  done : after.done = world.done
  cancellations : ∀ cancellation ∈ world.cancellations, cancellation ∈ after.cancellations

section Puts

variable {own : Nat → Prop} {world after : World} {entry : Nat} {old new : SessionEntry}
  {backend : Backend}

theorem Puts.info_self (puts : Puts world after entry new backend) :
    after.info entry = some new := by
  rw [puts.info, Function.update_self]

theorem Puts.info_of_ne (puts : Puts world after entry new backend) {other : Nat}
    (different : other ≠ entry) : after.info other = world.info other := by
  rw [puts.info, Function.update_of_ne different]

theorem Puts.backend_self (puts : Puts world after entry new backend) :
    after.backends entry = backend := by
  rw [puts.backends, Function.update_self]

theorem Puts.backend_of_ne (puts : Puts world after entry new backend) {other : Nat}
    (different : other ≠ entry) : after.backends other = world.backends other := by
  rw [puts.backends, Function.update_of_ne different]

theorem Puts.grows (puts : Puts world after entry new backend)
    (isEntry : world.info entry = some old)
    (grows : EntryGrows (own entry) old new (world.backends entry) backend) :
    Grows own world after where
  entry other found isOther := by
    by_cases same : other = entry
    · subst same
      rw [isEntry, Option.some.injEq] at isOther
      subst isOther
      exact ⟨new, puts.info_self, puts.backend_self ▸ grows⟩
    · refine ⟨found, (puts.info_of_ne same).trans isOther, ?_⟩
      rw [puts.backend_of_ne same]
      exact EntryGrows.refl _ _ _
  unborn other _ none := by
    by_cases same : other = entry
    · subst same
      rw [isEntry] at none
      cases none
    · exact (puts.info_of_ne same).trans none
  entries sessionID other _ member := puts.entries _ member
  tasks tasks isTasks := puts.tasks.trans isTasks
  done other member := puts.done ▸ member

theorem Coherent.puts (coherent : Coherent world) (puts : Puts world after entry new backend)
    (isEntry : world.info entry = some old) (identity : new.identity = old.identity)
    (cancels : old.cancelled = true → new.cancelled = true)
    (sound : EntrySound new backend)
    (listed : new.result = none ∨ backend.created = true ∧ backend.settled = none →
      (new.identity.sessionID, entry) ∈ after.entries)
    (cancelled : new.cancelled = true → old.cancelled = true ∨
      ∃ id, (id, entry) ∈ after.cancellations) : Coherent after where
  unique sessionID other another member isMember :=
    coherent.unique sessionID other another (puts.entries _ member) (puts.entries _ isMember)
  known sessionID other member := by
    rcases coherent.known sessionID other (puts.entries _ member) with ⟨found, isFound, isID⟩
    by_cases same : other = entry
    · subst same
      rw [isEntry, Option.some.injEq] at isFound
      subst isFound
      exact ⟨new, puts.info_self, identity ▸ isID⟩
    · exact ⟨found, (puts.info_of_ne same).trans isFound, isID⟩
  listed other found isFound held := by
    by_cases same : other = entry
    · subst same
      rw [puts.info_self, Option.some.injEq] at isFound
      subst isFound
      rw [puts.backend_self] at held
      exact listed held
    · rw [puts.info_of_ne same] at isFound
      rw [puts.backend_of_ne same] at held
      exact puts.kept _ (coherent.listed other found isFound held) same
  sound other found isFound := by
    by_cases same : other = entry
    · subst same
      rw [puts.info_self, Option.some.injEq] at isFound
      subst isFound
      rw [puts.backend_self]
      exact sound
    · rw [puts.info_of_ne same] at isFound
      rw [puts.backend_of_ne same]
      exact coherent.sound other found isFound
  unborn other none := by
    by_cases same : other = entry
    · subst same
      rw [puts.info_self] at none
      cases none
    · rw [puts.info_of_ne same] at none
      rw [puts.backend_of_ne same]
      exact coherent.unborn other none
  disposal := by rw [puts.disposed, puts.tasks, coherent.disposal]
  covered tasks isTasks := by
    rw [puts.tasks] at isTasks
    rcases coherent.covered tasks isTasks with ⟨covers, known⟩
    refine ⟨fun member inside => covers member (puts.entries _ inside),
      fun sessionID other task => ?_⟩
    rcases known sessionID other task with ⟨found, isFound, isID, isCancelled⟩
    by_cases same : other = entry
    · subst same
      rw [isEntry, Option.some.injEq] at isFound
      subst isFound
      exact ⟨new, puts.info_self, identity ▸ isID, cancels isCancelled⟩
    · exact ⟨found, (puts.info_of_ne same).trans isFound, isID, isCancelled⟩
  finished other member := by
    rw [puts.done] at member
    rcases coherent.finished other member with ⟨born, gone⟩
    refine ⟨?_, fun sessionID inside => gone sessionID (puts.entries _ inside)⟩
    by_cases same : other = entry
    · subst same
      rw [puts.info_self]
      exact Option.some_ne_none new
    · rw [puts.info_of_ne same]
      exact born
  cancelled other found isFound isCancelled := by
    have before : ∀ entry found, world.info entry = some found → found.cancelled = true →
        (∃ id, (id, entry) ∈ after.cancellations) ∨
          ∃ tasks sessionID, after.tasks = some tasks ∧ (sessionID, entry) ∈ tasks := by
      intro entry found isFound isCancelled
      rw [puts.tasks]
      rcases coherent.cancelled entry found isFound isCancelled with ⟨id, member⟩ | task
      · exact Or.inl ⟨id, puts.cancellations _ member⟩
      · exact Or.inr task
    by_cases same : other = entry
    · subst same
      rw [puts.info_self, Option.some.injEq] at isFound
      subst isFound
      rcases cancelled isCancelled with earlier | now
      · exact before other old isEntry earlier
      · exact Or.inl now
    · rw [puts.info_of_ne same] at isFound
      exact before other found isFound isCancelled

/-! ### The changes of the commands -/

theorem puts_update (isEntry : world.info entry = some old)
    (change : SessionEntry → SessionEntry) :
    Puts world (world.update entry change) entry (change old) (world.backends entry) where
  info := by rw [World.update, isEntry, Option.map_some]
  backends := (Function.update_eq_self entry world.backends).symm
  entries _ member := member
  kept _ member _ := member
  disposed := rfl
  tasks := rfl
  done := rfl
  cancellations _ member := member

theorem puts_backend (isEntry : world.info entry = some old) (backend : Backend) :
    Puts world { world with backends := Function.update world.backends entry backend } entry old
      backend where
  info := by rw [← isEntry, Function.update_eq_self]
  backends := rfl
  entries _ member := member
  kept _ member _ := member
  disposed := rfl
  tasks := rfl
  done := rfl
  cancellations _ member := member

theorem Puts.closeBackend (puts : Puts world after entry new backend) :
    Puts world (after.closeBackend entry) entry new
      { backend with closes := backend.closes + 1 } where
  info := puts.info
  backends := by
    rw [World.closeBackend]
    dsimp only
    rw [puts.backend_self, puts.backends, Function.update_idem]
  entries := puts.entries
  kept := puts.kept
  disposed := puts.disposed
  tasks := puts.tasks
  done := puts.done
  cancellations := puts.cancellations

theorem Puts.remove (puts : Puts world after entry new backend) (sessionID : String) :
    Puts world (after.remove sessionID entry) entry new backend where
  info := puts.info
  backends := puts.backends
  entries listed member := puts.entries listed (List.mem_filter.mp member).1
  kept listed member different := by
    refine List.mem_filter.mpr ⟨puts.kept listed member different, ?_⟩
    rw [decide_eq_true_eq]
    rintro rfl
    exact different rfl
  disposed := puts.disposed
  tasks := puts.tasks
  done := puts.done
  cancellations := puts.cancellations

theorem puts_self (isEntry : world.info entry = some old) :
    Puts world world entry old (world.backends entry) where
  info := by rw [← isEntry, Function.update_eq_self]
  backends := (Function.update_eq_self entry world.backends).symm
  entries _ member := member
  kept _ member _ := member
  disposed := rfl
  tasks := rfl
  done := rfl
  cancellations _ member := member

theorem notMem_remove (world : World) (sessionID : String) (entry : Nat) :
    (sessionID, entry) ∉ (world.remove sessionID entry).entries := by
  intro member
  exact of_decide_eq_true (List.mem_filter.mp member).2 rfl

end Puts

/-! ## What a call knows -/

section Knowledge

/-- What stays true after a reply. -/
def Fact (world : World) : Exchange Command Reply → Prop
  | ⟨.closeSession sessionID _, some entry⟩ => ∃ found, world.info entry = some found ∧
      found.identity.sessionID = sessionID
  | ⟨.awaitResult entry, outcome⟩ => ∃ found, world.info entry = some found ∧
      found.result = some outcome
  | ⟨.closeHandle entry, _⟩ => ∃ found, world.info entry = some found ∧ found.closing = true
  | ⟨.awaitClosed entry, _⟩ => ∃ found, world.info entry = some found ∧ found.closed = true
  | ⟨.finish sessionID entry, _⟩ => world.info entry ≠ none ∧ (sessionID, entry) ∉ world.entries
  | ⟨.awaitDisposal, _⟩ => ∃ tasks, world.tasks = some tasks ∧ ∀ task ∈ tasks, task.2 ∈ world.done
  | _ => True

variable {own : Nat → Prop} {world after : World}

theorem Fact.mono {exchange : Exchange Command Reply} (fact : Fact world exchange)
    (grows : Grows own world after) : Fact after exchange := by
  rcases exchange with ⟨command, reply⟩
  cases command with
  | closeSession sessionID directory =>
      cases reply with
      | none => trivial
      | some entry =>
          rcases fact with ⟨found, isFound, isID⟩
          rcases grows.entry entry found isFound with ⟨new, isNew, step⟩
          exact ⟨new, isNew, step.identity ▸ isID⟩
  | awaitResult entry =>
      rcases fact with ⟨found, isFound, isResult⟩
      rcases grows.entry entry found isFound with ⟨new, isNew, step⟩
      refine ⟨new, isNew, (step.result ?_).trans isResult⟩
      rw [isResult]
      exact Option.some_ne_none _
  | closeHandle entry =>
      rcases fact with ⟨found, isFound, closing⟩
      rcases grows.entry entry found isFound with ⟨new, isNew, step⟩
      exact ⟨new, isNew, step.closing closing⟩
  | awaitClosed entry =>
      rcases fact with ⟨found, isFound, closed⟩
      rcases grows.entry entry found isFound with ⟨new, isNew, step⟩
      exact ⟨new, isNew, step.closed closed⟩
  | finish sessionID entry =>
      refine ⟨?_, fun member => fact.2 (grows.entries sessionID entry fact.1 member)⟩
      rcases Option.ne_none_iff_exists'.mp fact.1 with ⟨found, isFound⟩
      rcases grows.entry entry found isFound with ⟨new, isNew, -⟩
      rw [isNew]
      exact Option.some_ne_none new
  | awaitDisposal =>
      rcases fact with ⟨tasks, isTasks, done⟩
      exact ⟨tasks, grows.tasks tasks isTasks, fun task member => grows.done _ (done task member)⟩
  | _ => trivial

theorem Opens.mono {input : Input} (opens : Opens world input) (grows : Grows own world after) :
    Opens after input := by
  cases input with
  | closeHandle entry =>
      rcases opens with ⟨found, isFound, fulfilled⟩
      rcases grows.entry entry found isFound with ⟨new, isNew, step⟩
      refine ⟨new, isNew, (step.result ?_).trans fulfilled⟩
      rw [fulfilled]
      exact Option.some_ne_none _
  | disposeTask sessionID entry =>
      rcases opens with ⟨tasks, isTasks, member⟩
      exact ⟨tasks, grows.tasks tasks isTasks, member⟩
  | _ => trivial

/-- How far the creation of an entry has come, by its latest reply. -/
def Stage (world : World) (id : Nat) : Past → Prop
  | [] => world.info id = none
  | ⟨.getOrCreate _, .created⟩ :: _ => ∃ entry, world.info id = some entry ∧
      entry.result = none ∧ entry.ready = false ∧ (world.backends id).created = false
  | ⟨.getOrCreate _, _⟩ :: _ => world.info id = none
  | ⟨.create, made⟩ :: _ => ∃ entry, world.info id = some entry ∧
      entry.result = none ∧ entry.ready = false ∧ (world.backends id).created = made ∧
        (world.backends id).closes = 0
  | ⟨.receive, cancelled⟩ :: _ => ∃ entry, world.info id = some entry ∧
      entry.result = none ∧ entry.ready = !cancelled ∧ (world.backends id).created = true ∧
        (cancelled = true → (world.backends id).closes = 1)
  | ⟨.awaitCleanup, _⟩ :: _ => ∃ entry, world.info id = some entry ∧
      entry.result = none ∧ entry.ready = false ∧ (world.backends id).settled ≠ none
  | ⟨.publish, _⟩ :: _ => ∃ entry, world.info id = some entry ∧ entry.result ≠ none
  | ⟨.fail _, _⟩ :: _ => ∃ entry, world.info id = some entry ∧ entry.result ≠ none
  | _ => True

/-- Steps of others leave a creation where it is. -/
theorem Stage.mono {id : Nat} {past : Past} (stage : Stage world id past) (other : ¬own id)
    (grows : Grows own world after) : Stage after id past := by
  have steady : ∀ entry, world.info id = some entry → ∃ new, after.info id = some new ∧
      new.ready = entry.ready ∧ new.result = entry.result ∧
        (after.backends id).created = (world.backends id).created ∧
          (entry.ready = false → (after.backends id).closes = (world.backends id).closes) ∧
            ((world.backends id).settled ≠ none →
              (after.backends id).settled = (world.backends id).settled) := by
    intro entry isEntry
    rcases grows.entry id entry isEntry with ⟨new, isNew, step⟩
    rcases step.steady with isOwn | ⟨ready, result, created, closes⟩
    · exact absurd isOwn other
    · exact ⟨new, isNew, ready, result, created, closes, step.settled⟩
  rcases past with _ | ⟨⟨command, reply⟩, older⟩
  · exact grows.unborn id other stage
  · cases command with
    | getOrCreate identity =>
        cases reply with
        | raised => exact grows.unborn id other stage
        | existing entry => exact grows.unborn id other stage
        | created =>
            rcases stage with ⟨entry, isEntry, pending, unready, uncreated⟩
            rcases steady entry isEntry with ⟨new, isNew, ready, result, created, -, -⟩
            exact ⟨new, isNew, result.trans pending, ready.trans unready, created.trans uncreated⟩
    | create =>
        rcases stage with ⟨entry, isEntry, pending, unready, isMade, unclosed⟩
        rcases steady entry isEntry with ⟨new, isNew, ready, result, created, closes, -⟩
        exact ⟨new, isNew, result.trans pending, ready.trans unready, created.trans isMade,
          (closes unready).trans unclosed⟩
    | receive =>
        rcases stage with ⟨entry, isEntry, pending, isReady, isMade, isClosed⟩
        rcases steady entry isEntry with ⟨new, isNew, ready, result, created, closes, -⟩
        refine ⟨new, isNew, result.trans pending, ready.trans isReady, created.trans isMade,
          fun cancelled => ?_⟩
        rw [closes (by rw [isReady, cancelled]; rfl), isClosed cancelled]
    | awaitCleanup =>
        rcases stage with ⟨entry, isEntry, pending, unready, isSettled⟩
        rcases steady entry isEntry with ⟨new, isNew, ready, result, -, -, settled⟩
        refine ⟨new, isNew, result.trans pending, ready.trans unready, ?_⟩
        rw [settled isSettled]
        exact isSettled
    | publish =>
        rcases stage with ⟨entry, isEntry, decided⟩
        rcases steady entry isEntry with ⟨new, isNew, -, result, -, -, -⟩
        exact ⟨new, isNew, result ▸ decided⟩
    | fail cancellation =>
        rcases stage with ⟨entry, isEntry, decided⟩
        rcases steady entry isEntry with ⟨new, isNew, -, result, -, -, -⟩
        exact ⟨new, isNew, result ▸ decided⟩
    | _ => trivial

def Input.isCreation : Input → Prop
  | .getOrCreate _ => True
  | _ => False

/-- What is known of one call. -/
structure Knows (world : World) (id : Nat) (call : OwnerCall) : Prop where
  facts : ∀ exchange ∈ call.past, Fact world exchange
  opened : Opens world call.input
  stage : call.input.isCreation → Stage world id call.past
  unborn : ¬call.input.isCreation → world.info id = none
  cancels : ∀ entry, (id, entry) ∈ world.cancellations →
    ∃ sessionID directory, ⟨.closeSession sessionID directory, some entry⟩ ∈ call.past

/-- What a step does to the cancellations of one call. -/
def Cancels (id : Nat) (world after : World) : Prop :=
  ∀ entry, (id, entry) ∈ after.cancellations → (id, entry) ∈ world.cancellations

theorem Knows.mono {id : Nat} {call : OwnerCall} (knows : Knows world id call) (other : ¬own id)
    (grows : Grows own world after) (cancels : Cancels id world after) : Knows after id call where
  facts exchange member := (knows.facts exchange member).mono grows
  opened := knows.opened.mono grows
  stage creation := (knows.stage creation).mono other grows
  unborn notCreation := grows.unborn id other (knows.unborn notCreation)
  cancels entry member := knows.cancels entry (cancels entry member)

end Knowledge

/-! ## Steps -/

section Steps

variable {world : World} {id : Nat}

/-- The entries that a call with this input decides. -/
def Owns (id : Nat) (input : Input) (entry : Nat) : Prop := entry = id ∧ input.isCreation

/-- What a command of call `id` does. -/
structure Served (id : Nat) (input : Input) (past : Past) (world : World) (command : Command) :
    Prop where
  coherent : Coherent (serve id command world).2
  grows : Grows (Owns id input) world (serve id command world).2
  fact : Fact (serve id command world).2 ⟨command, (serve id command world).1⟩
  stage : input.isCreation →
    Stage (serve id command world).2 id (⟨command, (serve id command world).1⟩ :: past)
  cancels : ∀ caller entry, (caller, entry) ∈ (serve id command world).2.cancellations →
    (caller, entry) ∈ world.cancellations ∨ caller = id ∧ ∃ sessionID directory,
      (⟨command, (serve id command world).1⟩ : Exchange Command Reply) =
        ⟨.closeSession sessionID directory, some entry⟩

theorem served_getOrCreate (coherent : Coherent world) (unborn : world.info id = none)
    (identity : OpenCodeSessionIdentity) (past : Past) :
    Served id (.getOrCreate identity) past world (.getOrCreate identity) := by
  have refused : (serve id (.getOrCreate identity) world).2 = world →
      (serve id (.getOrCreate identity) world).1 ≠ .created →
        Served id (.getOrCreate identity) past world (.getOrCreate identity) := by
    intro same notCreated
    refine ⟨same.symm ▸ coherent, same.symm ▸ Grows.refl _ _, trivial, fun _ => ?_,
      fun _ _ member => Or.inl (same ▸ member)⟩
    have isUnborn : (serve id (.getOrCreate identity) world).2.info id = none :=
      same.symm ▸ unborn
    revert notCreated
    generalize (serve id (.getOrCreate identity) world).1 = admission
    intro notCreated
    cases admission with
    | raised => exact isUnborn
    | existing entry => exact isUnborn
    | created => exact absurd rfl notCreated
  by_cases invalid : validateIdentity identity = false ∨ world.disposed = true
  · have isServed : serve id (.getOrCreate identity) world = (.raised, world) := if_pos invalid
    exact refused (by rw [isServed]) (by rw [isServed]; exact fun same => nomatch same)
  · cases found : world.entries.lookup identity.sessionID with
    | some entry =>
        have unchanged : (serve id (.getOrCreate identity) world).2 = world ∧
            (serve id (.getOrCreate identity) world).1 ≠ .created := by
          rw [serve, if_neg invalid, found]
          dsimp only
          split
          · split
            · exact ⟨rfl, Admission.noConfusion⟩
            · exact ⟨rfl, Admission.noConfusion⟩
          · exact ⟨rfl, Admission.noConfusion⟩
        exact refused unchanged.1 unchanged.2
    | none =>
        have isServed : serve id (.getOrCreate identity) world =
            (.created,
              { world with
                entries := world.entries ++ [(identity.sessionID, id)]
                info := Function.update world.info id (some (freshEntry identity)) }) := by
          rw [serve, if_neg invalid, found]
        have fresh : ∀ entry, (identity.sessionID, entry) ∉ world.entries := by
          intro entry member
          have differs := List.lookup_eq_none_iff.mp found _ member
          simp at differs
        have isUndisposed : world.tasks = none := by
          have undisposed := (not_or.mp invalid).2
          rw [coherent.disposal] at undisposed
          simpa using undisposed
        have absent : ∀ sessionID, (sessionID, id) ∉ world.entries := by
          intro sessionID member
          rcases coherent.known sessionID id member with ⟨known, isKnown, -⟩
          rw [unborn] at isKnown
          cases isKnown
        have inside : ∀ {sessionID : String} {entry : Nat},
            (sessionID, entry) ∈ world.entries ++ [(identity.sessionID, id)] ↔
              (sessionID, entry) ∈ world.entries ∨ sessionID = identity.sessionID ∧ entry = id := by
          intro sessionID entry
          rw [List.mem_append, List.mem_singleton, Prod.mk.injEq]
        have isBackend := coherent.unborn id unborn
        have born : ∀ {entry : Nat} {old : SessionEntry}, world.info entry = some old →
            entry ≠ id := by
          rintro entry old isEntry rfl
          rw [unborn] at isEntry
          cases isEntry
        refine ⟨?_, ?_, ?_, fun _ => ?_, ?_⟩
        · rw [isServed]
          refine ⟨?_, ?_, ?_, ?_, ?_, coherent.disposal, ?_, ?_, ?_⟩
          · intro sessionID entry other member isMember
            rcases inside.mp member with earlier | ⟨isID, isOwn⟩
            · rcases inside.mp isMember with alsoEarlier | ⟨isID, -⟩
              · exact coherent.unique sessionID entry other earlier alsoEarlier
              · exact absurd (isID ▸ earlier) (fresh entry)
            · rcases inside.mp isMember with earlier | ⟨-, alsoOwn⟩
              · exact absurd (isID ▸ earlier) (fresh other)
              · rw [isOwn, alsoOwn]
          · intro sessionID entry member
            dsimp only
            rcases inside.mp member with member | ⟨rfl, rfl⟩
            · rcases coherent.known sessionID entry member with ⟨known, isKnown, isID⟩
              rw [Function.update_of_ne (born isKnown)]
              exact ⟨known, isKnown, isID⟩
            · rw [Function.update_self]
              exact ⟨_, rfl, rfl⟩
          · intro entry known isKnown held
            dsimp only at isKnown held
            apply inside.mpr
            by_cases same : entry = id
            · subst same
              rw [Function.update_self, Option.some.injEq] at isKnown
              subst isKnown
              exact Or.inr ⟨rfl, rfl⟩
            · rw [Function.update_of_ne same] at isKnown
              exact Or.inl (coherent.listed entry known isKnown held)
          · intro entry known isKnown
            dsimp only at isKnown ⊢
            by_cases same : entry = id
            · subst same
              rw [Function.update_self, Option.some.injEq] at isKnown
              subst isKnown
              rw [isBackend]
              exact
                { closing := fun isTrue => nomatch isTrue
                  unclosed := fun isTrue => nomatch isTrue
                  ready := fun isTrue => nomatch isTrue
                  uncreated := fun _ => rfl
                  settled := fun isSome => absurd rfl isSome
                  closes := Nat.zero_le 1
                  closed := fun isTrue => nomatch isTrue
                  fulfilled := fun isSome => nomatch isSome
                  rejected := fun _ isSome => nomatch isSome }
            · rw [Function.update_of_ne same] at isKnown
              exact coherent.sound entry known isKnown
          · intro entry none
            dsimp only at none ⊢
            by_cases same : entry = id
            · subst same
              exact isBackend
            · rw [Function.update_of_ne same] at none
              exact coherent.unborn entry none
          · intro tasks isTasks
            rw [isUndisposed] at isTasks
            cases isTasks
          · intro entry member
            rcases coherent.finished entry member with ⟨isBorn, gone⟩
            have other : entry ≠ id := by
              rintro rfl
              exact isBorn unborn
            dsimp only
            rw [Function.update_of_ne other]
            refine ⟨isBorn, fun sessionID listed => ?_⟩
            rcases inside.mp listed with listed | ⟨-, same⟩
            · exact gone sessionID listed
            · exact other same
          · intro entry known isKnown isCancelled
            dsimp only at isKnown
            by_cases same : entry = id
            · subst same
              rw [Function.update_self, Option.some.injEq] at isKnown
              subst isKnown
              cases isCancelled
            · rw [Function.update_of_ne same] at isKnown
              exact coherent.cancelled entry known isKnown isCancelled
        · rw [isServed]
          refine ⟨fun entry old isEntry => ⟨old, ?_, EntryGrows.refl _ _ _⟩,
            fun entry other none => ?_, fun sessionID entry isBorn listed => ?_,
            fun _ isTasks => isTasks, fun _ member => member⟩
          · dsimp only
            rw [Function.update_of_ne (born isEntry)]
            exact isEntry
          · dsimp only
            rw [Function.update_of_ne]
            · exact none
            · rintro rfl
              exact other ⟨rfl, trivial⟩
          · rcases inside.mp listed with listed | ⟨-, rfl⟩
            · exact listed
            · exact absurd unborn isBorn
        · trivial
        · rw [isServed]
          exact ⟨_, Function.update_self .., rfl, rfl, by rw [isBackend]⟩
        · rw [isServed]
          exact fun _ _ member => Or.inl member

/-- A command that changes one entry. -/
theorem served_puts {input : Input} {past : Past} {command : Command} {entry : Nat}
    {old new : SessionEntry} {backend : Backend} (coherent : Coherent world)
    (isEntry : world.info entry = some old)
    (puts : Puts world (serve id command world).2 entry new backend)
    (grows : EntryGrows (Owns id input entry) old new (world.backends entry) backend)
    (sound : EntrySound new backend)
    (listed : new.result = none ∨ backend.created = true ∧ backend.settled = none →
      (new.identity.sessionID, entry) ∈ (serve id command world).2.entries)
    (cancelled : new.cancelled = true → old.cancelled = true ∨
      ∃ id', (id', entry) ∈ (serve id command world).2.cancellations)
    (fact : Fact (serve id command world).2 ⟨command, (serve id command world).1⟩)
    (stage : input.isCreation →
      Stage (serve id command world).2 id (⟨command, (serve id command world).1⟩ :: past))
    (cancels : ∀ caller entry, (caller, entry) ∈ (serve id command world).2.cancellations →
      (caller, entry) ∈ world.cancellations ∨ caller = id ∧ ∃ sessionID directory,
        (⟨command, (serve id command world).1⟩ : Exchange Command Reply) =
          ⟨.closeSession sessionID directory, some entry⟩) :
    Served id input past world command :=
  ⟨coherent.puts puts isEntry grows.identity grows.cancelled sound listed cancelled,
    puts.grows isEntry grows, fact, stage, cancels⟩

/-- A command that only looks. -/
theorem served_unchanged {input : Input} {past : Past} {command : Command}
    (coherent : Coherent world) (same : (serve id command world).2 = world)
    (fact : Fact world ⟨command, (serve id command world).1⟩)
    (stage : input.isCreation →
      Stage world id (⟨command, (serve id command world).1⟩ :: past)) :
    Served id input past world command :=
  ⟨same.symm ▸ coherent, same.symm ▸ Grows.refl _ _, same.symm ▸ fact, fun creation =>
    same.symm ▸ stage creation, fun _ _ member => Or.inl (same ▸ member)⟩

/-- The factory settles. -/
theorem served_create {identity : OpenCodeSessionIdentity} {past : Past}
    (coherent : Coherent world) {entry : SessionEntry} (isEntry : world.info id = some entry)
    (pending : entry.result = none) (unready : entry.ready = false)
    (uncreated : (world.backends id).created = false) :
    Served id (.getOrCreate identity) past world .create := by
  have sound := coherent.sound id entry isEntry
  have unclosed := sound.uncreated uncreated
  refine served_puts coherent isEntry (puts_backend isEntry _) ?_ ?_ ?_ (fun same => Or.inl same)
    trivial ?_ fun _ _ member => Or.inl member
  · exact
      { identity := rfl
        cancelled := fun same => same
        closing := fun same => same
        closed := fun same => same
        result := fun _ => rfl
        settled := fun _ => rfl
        steady := Or.inl ⟨rfl, trivial⟩ }
  · exact
      { closing := sound.closing
        unclosed := sound.unclosed
        ready := fun isReady => absurd isReady (by rw [unready]; exact Bool.false_ne_true)
        uncreated := fun _ => unclosed
        settled := sound.settled
        closes := sound.closes
        closed := sound.closed
        fulfilled := sound.fulfilled
        rejected := fun cancellation isResult => by
          rw [pending] at isResult
          cases isResult }
  · intro _
    exact coherent.listed id entry isEntry (Or.inl pending)
  · intro _
    refine ⟨entry, isEntry, pending, unready, ?_, ?_⟩
    · dsimp only [serve]
      rw [Function.update_self]
    · dsimp only [serve]
      rw [Function.update_self]
      exact unclosed

/-- The callback with the backend. -/
theorem served_receive {identity : OpenCodeSessionIdentity} {past : Past}
    (coherent : Coherent world) {entry : SessionEntry} (isEntry : world.info id = some entry)
    (pending : entry.result = none) (unready : entry.ready = false)
    (created : (world.backends id).created = true) (unclosed : (world.backends id).closes = 0) :
    Served id (.getOrCreate identity) past world .receive := by
  have sound := coherent.sound id entry isEntry
  have listed := coherent.listed id entry isEntry (Or.inl pending)
  have unsettled : (world.backends id).settled = none := by
    by_contra isSettled
    have closed := sound.settled isSettled
    omega
  have notClosing : entry.closing = true → False := by
    intro closing
    have isReady := (sound.closing closing).1
    rw [unready] at isReady
    cases isReady
  by_cases cancelled : (world.info id).any (·.cancelled) = true
  · have isServed : serve id .receive world = (true, world.closeBackend id) := if_pos cancelled
    have isPut : Puts world (serve id .receive world).2 id entry
        { world.backends id with closes := (world.backends id).closes + 1 } := by
      rw [isServed]
      exact (puts_self isEntry).closeBackend
    refine served_puts coherent isEntry isPut ?_ ?_ ?_ (fun same => Or.inl same) trivial ?_ ?_
    · exact
        { identity := rfl
          cancelled := fun same => same
          closing := fun same => same
          closed := fun same => same
          result := fun _ => rfl
          settled := fun _ => rfl
          steady := Or.inl ⟨rfl, trivial⟩ }
    · exact
        { closing := fun closing => absurd closing notClosing
          unclosed := fun isReady => absurd isReady (by rw [unready]; exact Bool.false_ne_true)
          ready := sound.ready
          uncreated := fun uncreated => absurd (uncreated.symm.trans created) Bool.false_ne_true
          settled := fun isSettled => absurd unsettled isSettled
          closes := by
            dsimp only
            omega
          closed := sound.closed
          fulfilled := sound.fulfilled
          rejected := sound.rejected }
    · intro _
      rw [isServed]
      exact listed
    · intro _
      rw [isServed]
      refine ⟨entry, isEntry, pending, unready, ?_, fun _ => ?_⟩
      · rw [World.closeBackend]
        dsimp only
        rw [Function.update_self]
        exact created
      · rw [World.closeBackend]
        dsimp only
        rw [Function.update_self]
        dsimp only
        omega
    · rw [isServed]
      exact fun _ _ member => Or.inl member
  · have isServed : serve id .receive world =
        (false, world.update id fun entry => { entry with ready := true }) := if_neg cancelled
    have isPut : Puts world (serve id .receive world).2 id { entry with ready := true }
        (world.backends id) := by
      rw [isServed]
      exact puts_update isEntry _
    refine served_puts coherent isEntry isPut ?_ ?_ ?_ (fun same => Or.inl same) trivial ?_ ?_
    · exact
        { identity := rfl
          cancelled := fun same => same
          closing := fun same => same
          closed := fun same => same
          result := fun _ => rfl
          settled := fun _ => rfl
          steady := Or.inl ⟨rfl, trivial⟩ }
    · exact
        { closing := fun closing => absurd closing notClosing
          unclosed := fun _ _ => unclosed
          ready := fun _ => created
          uncreated := fun _ => unclosed
          settled := sound.settled
          closes := sound.closes
          closed := sound.closed
          fulfilled := fun _ => rfl
          rejected := sound.rejected }
    · intro _
      rw [isServed]
      exact listed
    · intro _
      rw [isServed]
      refine ⟨_, (puts_update isEntry _).info_self, pending, rfl, created, fun same => ?_⟩
      cases same
    · rw [isServed]
      exact fun _ _ member => Or.inl member

theorem served_publish {identity : OpenCodeSessionIdentity} {past : Past}
    (coherent : Coherent world) {entry : SessionEntry} (isEntry : world.info id = some entry)
    (pending : entry.result = none) (isReady : entry.ready = true) :
    Served id (.getOrCreate identity) past world .publish := by
  have sound := coherent.sound id entry isEntry
  refine served_puts coherent isEntry (puts_update isEntry _) ?_ ?_ ?_
    (fun same => Or.inl same) trivial ?_ fun _ _ member => Or.inl member
  · exact
      { identity := rfl
        cancelled := fun same => same
        closing := fun same => same
        closed := fun same => same
        result := fun decided => absurd pending decided
        settled := fun _ => rfl
        steady := Or.inl ⟨rfl, trivial⟩ }
  · exact
      { closing := fun closing => ⟨(sound.closing closing).1, (sound.closing closing).2.1, rfl⟩
        unclosed := sound.unclosed
        ready := sound.ready
        uncreated := sound.uncreated
        settled := sound.settled
        closes := sound.closes
        closed := sound.closed
        fulfilled := fun _ => isReady
        rejected := fun _ isResult => nomatch isResult }
  · intro _
    exact coherent.listed id entry isEntry (Or.inl pending)
  · intro _
    exact ⟨_, (puts_update isEntry _).info_self, Option.some_ne_none _⟩

/-- A creation fails without a backend that is still open. -/
theorem served_fail {identity : OpenCodeSessionIdentity} {past : Past} {cancellation : Bool}
    (coherent : Coherent world) {entry : SessionEntry} (isEntry : world.info id = some entry)
    (pending : entry.result = none) (unready : entry.ready = false)
    (gone : (world.backends id).created = true → (world.backends id).settled ≠ none) :
    Served id (.getOrCreate identity) past world (.fail cancellation) := by
  have sound := coherent.sound id entry isEntry
  have isServed : (serve id (.fail cancellation) world).2 =
      (world.remove entry.identity.sessionID id).update id fun entry =>
        { entry with result := some (.rejected cancellation) } := by
    dsimp only [serve]
    rw [isEntry]
  have isPut : Puts world (serve id (.fail cancellation) world).2 id
      { entry with result := some (.rejected cancellation) } (world.backends id) := by
    rw [isServed]
    exact (puts_update isEntry _).remove entry.identity.sessionID
  refine served_puts coherent isEntry isPut ?_ ?_ ?_ (fun same => Or.inl same) trivial ?_ ?_
  · exact
      { identity := rfl
        cancelled := fun same => same
        closing := fun same => same
        closed := fun same => same
        result := fun decided => absurd pending decided
        settled := fun _ => rfl
        steady := Or.inl ⟨rfl, trivial⟩ }
  · exact
      { closing := fun closing => by
          have isReady := (sound.closing closing).1
          rw [unready] at isReady
          cases isReady
        unclosed := sound.unclosed
        ready := sound.ready
        uncreated := sound.uncreated
        settled := sound.settled
        closes := sound.closes
        closed := sound.closed
        fulfilled := fun isResult => nomatch isResult
        rejected := fun _ _ created => gone created }
  · rintro (undecided | ⟨created, unsettled⟩)
    · cases undecided
    · exact absurd unsettled (gone created)
  · intro _
    exact ⟨_, isPut.info_self, Option.some_ne_none _⟩
  · rw [isServed]
    exact fun _ _ member => Or.inl member

/-- `close` finds the entry of the session, if it has one. -/
theorem served_closeSession {input : Input} {past : Past} (notCreation : ¬input.isCreation)
    (coherent : Coherent world) (sessionID : String) (directory : Option String) :
    Served id input past world (.closeSession sessionID directory) := by
  have noStage : ∀ later, input.isCreation → Stage later id
      (⟨.closeSession sessionID directory,
        (serve id (.closeSession sessionID directory) world).1⟩ :: past) :=
    fun _ creation => absurd creation notCreation
  cases found : world.entries.lookup sessionID with
  | none =>
      have isServed : serve id (.closeSession sessionID directory) world = (none, world) := by
        rw [serve, found]
      apply served_unchanged coherent
      · rw [isServed]
      · rw [isServed]
        trivial
      · exact noStage _
  | some entry =>
      have isListed : (sessionID, entry) ∈ world.entries := by
        rcases List.lookup_eq_some_iff.mp found with ⟨before, after, isSplit, -⟩
        rw [isSplit]
        exact List.mem_append_right _ List.mem_cons_self
      rcases coherent.known sessionID entry isListed with ⟨old, isEntry, isID⟩
      by_cases other : (directory.any fun directory =>
          (world.info entry).any fun found => found.identity.directory ≠ directory) = true
      · have isServed : serve id (.closeSession sessionID directory) world = (none, world) := by
          rw [serve, found]
          exact if_pos other
        apply served_unchanged coherent
        · rw [isServed]
        · rw [isServed]
          trivial
        · exact noStage _
      · have isServed : serve id (.closeSession sessionID directory) world =
            (some entry,
              { world.update entry fun found => { found with cancelled := true } with
                cancellations := (id, entry) :: world.cancellations }) := by
          rw [serve, found]
          exact if_neg other
        have isPut : Puts world (serve id (.closeSession sessionID directory) world).2 entry
            { old with cancelled := true } (world.backends entry) := by
          rw [isServed]
          have updated := puts_update isEntry fun found => { found with cancelled := true }
          exact ⟨updated.info, updated.backends, updated.entries, updated.kept, rfl, rfl, rfl,
            fun _ member => List.mem_cons_of_mem _ member⟩
        have sound := coherent.sound entry old isEntry
        refine served_puts coherent isEntry isPut ?_ ?_ ?_ (fun _ => Or.inr ⟨id, ?_⟩) ?_
          (noStage _) ?_
        · exact
            { identity := rfl
              cancelled := fun _ => rfl
              closing := fun same => same
              closed := fun same => same
              result := fun _ => rfl
              settled := fun _ => rfl
              steady := Or.inr ⟨rfl, rfl, rfl, fun _ => rfl⟩ }
        · exact ⟨sound.closing, sound.unclosed, sound.ready, sound.uncreated, sound.settled,
            sound.closes, sound.closed, sound.fulfilled, sound.rejected⟩
        · intro held
          rw [isServed]
          exact coherent.listed entry old isEntry held
        · rw [isServed]
          exact List.mem_cons_self
        · have isInfo := isPut.info_self
          rw [isServed] at isInfo ⊢
          exact ⟨_, isInfo, isID⟩
        · rw [isServed]
          intro caller other member
          rcases List.mem_cons.mp member with same | earlier
          · cases same
            exact Or.inr ⟨rfl, sessionID, directory, rfl⟩
          · exact Or.inl earlier

/-- `close` of a handle. -/
theorem served_closeHandle {input : Input} {past : Past} (notCreation : ¬input.isCreation)
    (coherent : Coherent world) {entry : Nat} {old : SessionEntry}
    (isEntry : world.info entry = some old) (fulfilled : old.result = some .fulfilled) :
    Served id input past world (.closeHandle entry) := by
  have sound := coherent.sound entry old isEntry
  have isReady := sound.fulfilled fulfilled
  by_cases closing : old.closing = true
  · have isServed : serve id (.closeHandle entry) world = ((), world) := by
      dsimp only [serve]
      rw [isEntry]
      exact if_pos closing
    apply served_unchanged coherent
    · rw [isServed]
    · exact ⟨old, isEntry, closing⟩
    · exact fun creation => absurd creation notCreation
  · have isServed : serve id (.closeHandle entry) world = ((),
        (world.update entry fun found => { found with closing := true }).closeBackend entry) := by
      dsimp only [serve]
      rw [isEntry]
      exact if_neg closing
    have isPut : Puts world (serve id (.closeHandle entry) world).2 entry
        { old with closing := true }
        { world.backends entry with closes := (world.backends entry).closes + 1 } := by
      rw [isServed]
      exact (puts_update isEntry _).closeBackend
    have unclosed := sound.unclosed isReady (Bool.eq_false_iff.mpr closing)
    refine served_puts coherent isEntry isPut ?_ ?_ ?_ (fun same => Or.inl same)
      ⟨_, isPut.info_self, rfl⟩ (fun creation => absurd creation notCreation) ?_
    · exact
        { identity := rfl
          cancelled := fun same => same
          closing := fun _ => rfl
          closed := fun same => same
          result := fun _ => rfl
          settled := fun _ => rfl
          steady := Or.inr ⟨rfl, rfl, rfl, fun unready =>
            absurd (unready.symm.trans isReady) Bool.false_ne_true⟩ }
    · exact
        { closing := fun _ => ⟨isReady, by dsimp only; omega, fulfilled⟩
          unclosed := fun _ same => absurd same.symm Bool.false_ne_true
          ready := sound.ready
          uncreated := fun uncreated =>
            absurd (uncreated.symm.trans (sound.ready isReady)) Bool.false_ne_true
          settled := fun isSettled => by
            have closed := sound.settled isSettled
            omega
          closes := by
            dsimp only
            omega
          closed := fun closed => absurd (sound.closed closed).1 closing
          fulfilled := sound.fulfilled
          rejected := sound.rejected }
    · rintro (undecided | ⟨created, unsettled⟩)
      · exact absurd (undecided.symm.trans fulfilled) (Option.some_ne_none _).symm
      · rw [isServed]
        exact coherent.listed entry old isEntry (Or.inr ⟨created, unsettled⟩)
    · rw [isServed]
      exact fun _ _ member => Or.inl member

/-- The end of `close`, when the entry is done with. -/
theorem served_finish {input : Input} {past : Past} (notCreation : ¬input.isCreation)
    (coherent : Coherent world) {sessionID : String} {entry : Nat} {old : SessionEntry}
    (isEntry : world.info entry = some old) (decided : old.result ≠ none)
    (gone : (world.backends entry).created = true → (world.backends entry).settled ≠ none) :
    Served id input past world (.finish sessionID entry) := by
  have isPut := (puts_self isEntry).remove sessionID
  refine served_puts coherent isEntry isPut (EntryGrows.refl _ _ _)
    (coherent.sound entry old isEntry) ?_ (fun same => Or.inl same) ⟨?_, notMem_remove _ _ _⟩
    (fun creation => absurd creation notCreation) fun _ _ member => Or.inl member
  · rintro (undecided | ⟨created, unsettled⟩)
    · exact absurd undecided decided
    · exact absurd unsettled (gone created)
  · rw [show (serve id (.finish sessionID entry) world).2.info entry = some old from isEntry]
    exact Option.some_ne_none old

/-- The beginning of the disposal cancels every entry of the map. -/
theorem served_dispose {input : Input} {past : Past} (notCreation : ¬input.isCreation)
    (coherent : Coherent world) : Served id input past world .dispose := by
  cases isTasks : world.tasks with
  | some tasks =>
      have isServed : serve id .dispose world = ((), world) := by
        rw [serve, isTasks]
      apply served_unchanged coherent
      · rw [isServed]
      · trivial
      · exact fun creation => absurd creation notCreation
  | none =>
      have isServed : serve id .dispose world = ((), { world with
          disposed := true
          tasks := some world.entries
          info := fun entry => (world.info entry).map fun found =>
            if (found.identity.sessionID, entry) ∈ world.entries then
              { found with cancelled := true }
            else found }) := by
        rw [serve, isTasks]
      have keeps : ∀ {entry : Nat} {found : SessionEntry},
          (if (found.identity.sessionID, entry) ∈ world.entries then
            { found with cancelled := true } else found).identity = found.identity ∧
          (if (found.identity.sessionID, entry) ∈ world.entries then
            { found with cancelled := true } else found).result = found.result := by
        intro entry found
        split
        · exact ⟨rfl, rfl⟩
        · exact ⟨rfl, rfl⟩
      have before : ∀ {entry : Nat} {new : SessionEntry},
          (world.info entry).map (fun found =>
            if (found.identity.sessionID, entry) ∈ world.entries then
              { found with cancelled := true } else found) = some new →
          ∃ found, world.info entry = some found ∧ new =
            if (found.identity.sessionID, entry) ∈ world.entries then
              { found with cancelled := true } else found := by
        intro entry new isNew
        rcases Option.map_eq_some_iff.mp isNew with ⟨found, isFound, same⟩
        exact ⟨found, isFound, same.symm⟩
      refine ⟨?_, ?_, trivial, fun creation => absurd creation notCreation, ?_⟩
      · rw [isServed]
        refine ⟨coherent.unique, ?_, ?_, ?_, ?_, rfl, ?_, ?_, ?_⟩
        · intro sessionID entry member
          rcases coherent.known sessionID entry member with ⟨found, isFound, isID⟩
          dsimp only
          rw [isFound, Option.map_some]
          refine ⟨_, rfl, ?_⟩
          rw [keeps.1]
          exact isID
        · intro entry new isNew held
          rcases before isNew with ⟨found, isFound, rfl⟩
          rw [keeps.2] at held
          rw [keeps.1]
          exact coherent.listed entry found isFound held
        · intro entry new isNew
          rcases before isNew with ⟨found, isFound, rfl⟩
          have sound := coherent.sound entry found isFound
          split
          · exact ⟨sound.closing, sound.unclosed, sound.ready, sound.uncreated, sound.settled,
              sound.closes, sound.closed, sound.fulfilled, sound.rejected⟩
          · exact sound
        · intro entry none
          exact coherent.unborn entry (Option.map_eq_none_iff.mp none)
        · intro tasks isSome
          cases isSome
          refine ⟨fun _ member => member, fun sessionID entry task => ?_⟩
          rcases coherent.known sessionID entry task with ⟨found, isFound, rfl⟩
          dsimp only
          rw [isFound, Option.map_some, if_pos task]
          exact ⟨_, rfl, rfl, rfl⟩
        · intro entry member
          rcases coherent.finished entry member with ⟨born, gone⟩
          exact ⟨fun none => born (Option.map_eq_none_iff.mp none), gone⟩
        · intro entry new isNew isCancelled
          rcases before isNew with ⟨found, isFound, rfl⟩
          by_cases listed : (found.identity.sessionID, entry) ∈ world.entries
          · exact Or.inr ⟨_, _, rfl, listed⟩
          · rw [if_neg listed] at isCancelled
            rcases coherent.cancelled entry found isFound isCancelled with
              earlier | ⟨_, _, isSome, -⟩
            · exact Or.inl earlier
            · rw [isTasks] at isSome
              cases isSome
      · rw [isServed]
        refine ⟨fun entry old isEntry => ?_, fun entry _ none => ?_, fun _ _ _ member => member,
          fun tasks isSome => ?_, fun _ member => member⟩
        · dsimp only
          rw [isEntry, Option.map_some]
          refine ⟨_, rfl, ?_⟩
          split
          · exact
              { identity := rfl
                cancelled := fun _ => rfl
                closing := fun same => same
                closed := fun same => same
                result := fun _ => rfl
                settled := fun _ => rfl
                steady := Or.inr ⟨rfl, rfl, rfl, fun _ => rfl⟩ }
          · exact EntryGrows.refl _ _ _
        · dsimp only
          rw [none]
          rfl
        · rw [isTasks] at isSome
          cases isSome
      · rw [isServed]
        exact fun _ _ member => Or.inl member

/-- A close of the disposal has ended. -/
theorem served_taskDone {input : Input} {past : Past} (notCreation : ¬input.isCreation)
    (coherent : Coherent world) {entry : Nat} (born : world.info entry ≠ none)
    (gone : ∀ sessionID, (sessionID, entry) ∉ world.entries) :
    Served id input past world (.taskDone entry) where
  coherent :=
    { unique := coherent.unique
      known := coherent.known
      listed := coherent.listed
      sound := coherent.sound
      unborn := coherent.unborn
      disposal := coherent.disposal
      covered := coherent.covered
      finished := fun other member => by
        rcases List.mem_cons.mp member with rfl | earlier
        · exact ⟨born, gone⟩
        · exact coherent.finished other earlier
      cancelled := coherent.cancelled }
  grows := ⟨fun _ old isEntry => ⟨old, isEntry, EntryGrows.refl _ _ _⟩, fun _ _ none => none,
    fun _ _ _ member => member, fun _ isTasks => isTasks,
    fun _ member => List.mem_cons_of_mem _ member⟩
  fact := trivial
  stage creation := absurd creation notCreation
  cancels _ _ member := Or.inl member

theorem not_isCreation {input : Input} (others : ∀ identity, input ≠ .getOrCreate identity) :
    ¬input.isCreation := by
  cases input with
  | getOrCreate identity => exact absurd rfl (others identity)
  | _ => exact fun creation => creation

/-- Every command that the programs ask for keeps the account. -/
theorem served {input : Input} {past : Past} {command : Command}
    {rest : Program Command Reply Result} (coherent : Coherent world)
    (knows : Knows world id ⟨input, past, rest⟩) (asks : Asks input past command)
    (settled : Settled world id command) : Served id input past world command := by
  have precedes := asks.1
  cases command with
  | getOrCreate identity =>
      rcases precedes with ⟨rfl, rfl⟩
      exact served_getOrCreate coherent (knows.stage trivial) identity []
  | create =>
      rcases precedes with ⟨identity, rfl, rfl⟩
      rcases knows.stage trivial with ⟨entry, isEntry, pending, unready, uncreated⟩
      exact served_create coherent isEntry pending unready uncreated
  | receive =>
      rcases precedes with ⟨⟨identity, rfl⟩, older, rfl⟩
      rcases knows.stage trivial with ⟨entry, isEntry, pending, unready, created, unclosed⟩
      exact served_receive coherent isEntry pending unready created unclosed
  | awaitCleanup =>
      rcases precedes with ⟨⟨identity, rfl⟩, older, rfl⟩
      rcases knows.stage trivial with ⟨entry, isEntry, pending, isReady, -, -⟩
      apply served_unchanged coherent
      · rfl
      · trivial
      · exact fun _ => ⟨entry, isEntry, pending, isReady, settled⟩
  | publish =>
      rcases precedes with ⟨⟨identity, rfl⟩, older, rfl⟩
      rcases knows.stage trivial with ⟨entry, isEntry, pending, isReady, -, -⟩
      exact served_publish coherent isEntry pending isReady
  | fail cancellation =>
      rcases precedes with ⟨⟨identity, rfl⟩, older, rfl | ⟨cleaned, rfl⟩⟩
      · rcases knows.stage trivial with ⟨entry, isEntry, pending, unready, uncreated, -⟩
        exact served_fail coherent isEntry pending unready fun created =>
          absurd (uncreated.symm.trans created) Bool.false_ne_true
      · rcases knows.stage trivial with ⟨entry, isEntry, pending, unready, isSettled⟩
        exact served_fail coherent isEntry pending unready fun _ => isSettled
  | closeSession sessionID directory =>
      rcases precedes with ⟨rfl, rfl⟩
      have notCreation : ¬(Input.close sessionID directory).isCreation := fun creation => creation
      exact served_closeSession notCreation coherent sessionID directory
  | awaitResult entry =>
      rcases settled with ⟨found, isFound, decided⟩
      apply served_unchanged coherent
      · rfl
      · rcases Option.ne_none_iff_exists'.mp decided with ⟨outcome, isOutcome⟩
        refine ⟨found, isFound, ?_⟩
        dsimp only [serve]
        rw [isFound, Option.bind_some, isOutcome]
        rfl
      · exact fun creation => absurd creation (not_isCreation precedes.1)
  | closeHandle entry =>
      have notCreation := not_isCreation precedes.1
      have fulfilled : ∃ found, world.info entry = some found ∧ found.result = some .fulfilled := by
        rcases precedes.2 with awaited | isInput
        · exact knows.facts _ awaited
        · have opened := knows.opened
          rw [show (Call.mk input past rest).input = .closeHandle entry from isInput] at opened
          exact opened
      rcases fulfilled with ⟨found, isFound, isFulfilled⟩
      exact served_closeHandle notCreation coherent isFound isFulfilled
  | awaitClosed entry =>
      apply served_unchanged coherent
      · rfl
      · exact settled
      · exact fun creation => absurd creation (not_isCreation precedes.1)
  | finish sessionID entry =>
      have notCreation := not_isCreation precedes.1
      rcases precedes.2.2 with ⟨cancellation, awaited⟩ | ⟨succeeded, closed⟩
      · rcases knows.facts _ awaited with ⟨found, isFound, isResult⟩
        apply served_finish notCreation coherent isFound
        · rw [isResult]
          exact Option.some_ne_none _
        · exact (coherent.sound entry found isFound).rejected cancellation isResult
      · rcases knows.facts _ closed with ⟨found, isFound, isClosed⟩
        have sound := coherent.sound entry found isFound
        rcases sound.closed isClosed with ⟨closing, isSettled⟩
        apply served_finish notCreation coherent isFound
        · rw [(sound.closing closing).2.2]
          exact Option.some_ne_none _
        · exact fun _ => isSettled
  | dispose =>
      have isInput : input = .dispose := precedes
      subst isInput
      have notCreation : ¬Input.dispose.isCreation := fun creation => creation
      exact served_dispose notCreation coherent
  | taskDone entry =>
      rcases precedes with ⟨sessionID, ready, rfl, finished⟩
      rcases knows.facts _ finished with ⟨born, gone⟩
      rcases knows.opened with ⟨tasks, isTasks, task⟩
      rcases (coherent.covered tasks isTasks).2 sessionID entry task with ⟨found, isFound, isID, -⟩
      have notCreation : ¬(Input.disposeTask sessionID entry).isCreation := fun creation => creation
      apply served_taskDone notCreation coherent born
      intro other listed
      rcases coherent.known other entry listed with ⟨again, isAgain, isOther⟩
      rw [isFound, Option.some.injEq] at isAgain
      subst isAgain
      exact gone (isID ▸ isOther ▸ listed)
  | awaitDisposal =>
      have isInput : input = .dispose := precedes
      subst isInput
      apply served_unchanged coherent
      · rfl
      · exact settled
      · exact fun creation => absurd creation fun isTrue => isTrue

/-! ### Moves -/

theorem Moves.step {after : World} (moves : Moves world after) (coherent : Coherent world) :
    Coherent after ∧ Grows (fun _ => False) world after ∧
      after.cancellations = world.cancellations := by
  cases moves with
  | factory factory =>
      exact ⟨⟨coherent.unique, coherent.known, coherent.listed, coherent.sound, coherent.unborn,
        coherent.disposal, coherent.covered, coherent.finished, coherent.cancelled⟩,
        ⟨fun _ old isEntry => ⟨old, isEntry, EntryGrows.refl _ _ _⟩, fun _ _ none => none,
          fun _ _ _ member => member, fun _ isTasks => isTasks, fun _ member => member⟩, rfl⟩
  | settles entry succeeds invoked unsettled =>
      cases isEntry : world.info entry with
      | none =>
          rw [coherent.unborn entry isEntry] at invoked
          exact absurd invoked (Nat.lt_irrefl 0)
      | some found =>
          have sound := coherent.sound entry found isEntry
          have puts := puts_backend isEntry
            { world.backends entry with settled := some succeeds }
          have closes := sound.closes
          refine ⟨coherent.puts puts isEntry rfl (fun same => same) ?_ ?_ fun same => Or.inl same,
            puts.grows isEntry ?_, rfl⟩
          · exact
              { closing := sound.closing
                unclosed := sound.unclosed
                ready := sound.ready
                uncreated := sound.uncreated
                settled := fun _ => by
                  dsimp only
                  omega
                closes := sound.closes
                closed := fun closed => ⟨(sound.closed closed).1, Option.some_ne_none _⟩
                fulfilled := sound.fulfilled
                rejected := fun _ _ _ => Option.some_ne_none _ }
          · rintro (undecided | ⟨-, unsettled⟩)
            · exact coherent.listed entry found isEntry (Or.inl undecided)
            · cases unsettled
          · exact
              { identity := rfl
                cancelled := fun same => same
                closing := fun same => same
                closed := fun same => same
                result := fun _ => rfl
                settled := fun isSettled => absurd unsettled isSettled
                steady := Or.inr ⟨rfl, rfl, rfl, fun _ => rfl⟩ }
  | finalises entry found isEntry closing settled =>
      have sound := coherent.sound entry found isEntry
      have puts := (puts_update isEntry fun found => { found with closed := true }).remove
        found.identity.sessionID
      refine ⟨coherent.puts puts isEntry rfl (fun same => same) ?_ ?_ fun same => Or.inl same,
        puts.grows isEntry ?_, rfl⟩
      · exact ⟨sound.closing, sound.unclosed, sound.ready, sound.uncreated, sound.settled,
          sound.closes, fun _ => ⟨closing, settled⟩, sound.fulfilled, sound.rejected⟩
      · rintro (undecided | ⟨-, unsettled⟩)
        · have fulfilled := (sound.closing closing).2.2
          rw [show found.result = none from undecided] at fulfilled
          cases fulfilled
        · exact absurd unsettled settled
      · exact
          { identity := rfl
            cancelled := fun same => same
            closing := fun same => same
            closed := fun _ => rfl
            result := fun _ => rfl
            settled := fun _ => rfl
            steady := Or.inr ⟨rfl, rfl, rfl, fun _ => rfl⟩ }

end Steps

/-! ## Runs -/

section Runs

/-- Of a number that no call has. -/
def Unused (world : World) (id : Nat) : Prop :=
  world.info id = none ∧ ∀ entry, (id, entry) ∉ world.cancellations

theorem preserves_coherent : Protocol.Preserves ownerProtocol
    (fun world id call command => inTurn world id call command ∧ Asks call.input call.past command)
    Coherent Knows Unused where
  opened _ unused opens :=
    { facts := fun _ member => absurd member List.not_mem_nil
      opened := opens
      stage := fun _ => unused.1
      unborn := fun _ => unused.1
      cancels := fun entry member => absurd member (unused.2 entry) }
  served {world id input past command next} coherent knows meets := by
    have step := served coherent knows meets.2 meets.1
    refine ⟨step.coherent, ⟨?_, knows.opened.mono step.grows, step.stage, ?_, ?_⟩, ?_⟩
    · intro exchange member
      rcases List.mem_cons.mp member with rfl | earlier
      · exact step.fact
      · exact (knows.facts exchange earlier).mono step.grows
    · intro notCreation
      exact step.grows.unborn id (fun own => notCreation own.2) (knows.unborn notCreation)
    · intro entry member
      rcases step.cancels id entry member with earlier | ⟨-, sessionID, directory, same⟩
      · rcases knows.cancels entry earlier with ⟨sessionID, directory, inPast⟩
        exact ⟨sessionID, directory, List.mem_cons_of_mem _ inPast⟩
      · exact ⟨sessionID, directory, same ▸ List.mem_cons_self⟩
    · intro other different
      have notOwn : ¬Owns id input other := fun own => different own.1
      have cancels : Cancels other world (serve id command world).2 := by
        intro entry member
        rcases step.cancels other entry member with earlier | ⟨same, -⟩
        · exact earlier
        · exact absurd same different
      refine ⟨fun call known => known.mono notOwn step.grows cancels, fun unused => ⟨?_, ?_⟩⟩
      · exact step.grows.unborn other notOwn unused.1
      · exact fun entry member => unused.2 entry (cancels entry member)
  moved coherent moves := by
    rcases Moves.step moves coherent with ⟨kept, grows, sameCancellations⟩
    refine ⟨kept, fun id =>
      ⟨fun call known => known.mono (fun own => own) grows ?_, fun unused => ⟨?_, ?_⟩⟩⟩
    · exact fun entry member => sameCancellations ▸ member
    · exact grows.unborn id (fun own => own) unused.1
    · exact fun entry member => unused.2 entry (sameCancellations ▸ member)

theorem Initial.coherent {world : World} (initial : Initial world) :
    Coherent world ∧ ∀ id, Unused world id := by
  refine ⟨⟨?_, ?_, ?_, ?_, ?_, ?_, ?_, ?_, ?_⟩, fun id => ⟨?_, ?_⟩⟩
  · intro sessionID entry other member
    rw [initial.entries] at member
    cases member
  · intro sessionID entry member
    rw [initial.entries] at member
    cases member
  · intro entry found isFound
    rw [initial.info] at isFound
    cases isFound
  · intro entry found isFound
    rw [initial.info] at isFound
    cases isFound
  · intro entry _
    rw [initial.backends]
  · rw [initial.disposed, initial.tasks]
    rfl
  · intro tasks isTasks
    rw [initial.tasks] at isTasks
    cases isTasks
  · intro entry member
    rw [initial.done] at member
    cases member
  · intro entry found isFound
    rw [initial.info] at isFound
    cases isFound
  · rw [initial.info]
  · intro entry member
    rw [initial.cancellations] at member
    cases member

theorem follows_program (input : Input) : (program input).Follows (Asks input) (Ends input) [] := by
  cases input with
  | getOrCreate identity => exact follows_getOrCreate identity
  | close sessionID directory => exact follows_close sessionID directory
  | closeHandle entry => exact follows_closeHandle entry
  | dispose => exact follows_dispose
  | disposeTask sessionID entry => exact follows_disposeTask sessionID entry

theorem holds_of_reachable {system : OwnerSystem}
    (reached : ownerProtocol.Reachable inTurn Initial system) :
    Protocol.Holds Coherent Knows Unused system :=
  (reached.asking follows_program).invariant (fun _ => Initial.coherent) preserves_coherent

end Runs

/-! ## The owner -/

section Owner

/-- The backend is created and its close has not settled. -/
def Live (world : World) (entry : Nat) : Prop :=
  (world.backends entry).created = true ∧ (world.backends entry).settled = none

/-- The session of the entry is closed, or the owner is disposed. -/
def Retired (world : World) (entry : Nat) : Prop :=
  world.disposed = true ∨ ∃ found, world.info entry = some found ∧
    (found.cancelled = true ∨ found.closing = true)

/-- Every call waits for a promise that is not settled, and every close of the disposal
has begun. -/
structure Quiet (system : OwnerSystem) : Prop where
  waits : ∀ id call command next, system.calls id = some call → call.rest = .call command next →
    command = .create ∨ ¬Settled system.world id command
  begun : ∀ tasks sessionID entry, system.world.tasks = some tasks → (sessionID, entry) ∈ tasks →
    ∃ id call, system.calls id = some call ∧ call.input = .disposeTask sessionID entry

variable {world : World} {system : OwnerSystem} {entry : Nat}

theorem Coherent.identified (coherent : Coherent world)
    (created : (world.backends entry).created = true) : ∃ found, world.info entry = some found := by
  cases isEntry : world.info entry with
  | none =>
      rw [coherent.unborn entry isEntry] at created
      cases created
  | some found => exact ⟨found, rfl⟩

theorem Coherent.once (coherent : Coherent world) : (world.backends entry).closes ≤ 1 := by
  cases isEntry : world.info entry with
  | none =>
      rw [coherent.unborn entry isEntry]
      exact Nat.zero_le 1
  | some found => exact (coherent.sound entry found isEntry).closes

theorem Coherent.one (coherent : Coherent world) {other : Nat} {found another : SessionEntry}
    (isEntry : world.info entry = some found) (isOther : world.info other = some another)
    (sameID : found.identity.sessionID = another.identity.sessionID) (live : Live world entry)
    (otherLive : Live world other) : entry = other := by
  have listed := coherent.listed entry found isEntry (Or.inr live)
  have otherListed := coherent.listed other another isOther (Or.inr otherLive)
  exact coherent.unique _ entry other listed (sameID ▸ otherListed)

/-- A new owner with a factory that makes backends. -/
def exampleWorld : World where
  entries := []
  info := fun _ => none
  backends := fun _ => ⟨false, 0, none⟩
  disposed := false
  tasks := none
  done := []
  factory := true
  cancellations := []

end Owner

end GptQueue.OpenCode
