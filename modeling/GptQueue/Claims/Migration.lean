import GptQueue.Claims.Runs

/-! # Migration of a mailbox

A migration moves the whole mailbox, and with a bound the dead letters, or it changes
nothing, whatever the keys hold.
-/

namespace GptQueue.Claims

open Redis

/-- `MailboxStore.migrateMessages`: the number of messages, or the error it throws while
claims are outstanding. -/
def migrateMessages (fromAgent toAgent : String) (guarded : Bool) (deadLetterBound : Option Nat) :
    Script Key (Except String Nat) := do
  match ← migrate fromAgent toAgent guarded deadLetterBound with
  | .transferred count => pure (.ok count)
  | .claimsOutstanding =>
      pure (.error ("cannot move '" ++ fromAgent ++ "' to '" ++ toAgent ++
        "' while it has unexpired claimed tasks; acknowledge them, or wait for their claims to expire, first"))

/-! ## Refusals -/

/-- What a migration between two agents refuses, or raises on. -/
inductive Refusal (keyspace : Keyspace Key) (source destination : String) (guarded : Bool)
    (deadLetterBound : Option Nat) : Prop
  | claims (isGuarded : guarded = true) (id : String)
      (claimed : id ∈ keyspace.scores (.claimsIndex source))
  | index (isGuarded : guarded = true)
      (wrong : keyspace.admits (.claimsIndex source) .zset = false)
  | deadLetters (bound : Nat) (isBound : deadLetterBound = some bound)
      (wrong : (keyspace.admits (.dlq source) .list && keyspace.admits (.dlq destination) .list) =
        false)
  | source (wrong : keyspace.admits (.queue source) .list = false)
  | destination (nonempty : keyspace.items (.queue source) ≠ [])
      (wrong : keyspace.admits (.queue destination) .list = false)

section Steps

variable {keyspace : Keyspace Key} {source destination : String} {guarded : Bool}

/-- The check of the claims passes, stops the migration, or raises. -/
theorem run_outstandingClaims :
    (outstandingClaims source guarded).run keyspace = (.ok 0, keyspace) ∧
        (guarded = true → keyspace.admits (.claimsIndex source) .zset = true ∧
          ∀ id, id ∉ keyspace.scores (.claimsIndex source)) ∨
      (∃ outstanding, (outstandingClaims source guarded).run keyspace =
          (.ok (outstanding + 1), keyspace)) ∧
        (guarded = true ∧ ∃ id, id ∈ keyspace.scores (.claimsIndex source)) ∨
      (outstandingClaims source guarded).run keyspace = (.error .wrongType, keyspace) ∧
        guarded = true ∧ keyspace.admits (.claimsIndex source) .zset = false := by
  cases guarded with
  | false => exact Or.inl ⟨rfl, fun isGuarded => Bool.noConfusion isGuarded⟩
  | true =>
      cases index : keyspace.admits (.claimsIndex source) .zset with
      | false => exact Or.inr (Or.inr ⟨run_typed_of_refused index, rfl, rfl⟩)
      | true =>
          have counted : (outstandingClaims source true).run keyspace =
              (.ok (keyspace.scores (.claimsIndex source)).entries.length, keyspace) :=
            run_typed index
          rw [counted]
          cases members : (keyspace.scores (.claimsIndex source)).entries with
          | nil =>
              refine Or.inl ⟨rfl, fun _ => ⟨rfl, fun id inside => ?_⟩⟩
              rw [AList.mem_keys, AList.keys, members] at inside
              cases inside
          | cons first rest =>
              refine Or.inr (Or.inl ⟨⟨rest.length, rfl⟩, rfl, first.1, ?_⟩)
              rw [AList.mem_keys, AList.keys, members]
              exact List.mem_cons_self

/-- The inbox moves, or the first command that fails has changed nothing. -/
theorem run_migrateInbox_cases :
    (migrateInbox (.queue source) (.queue destination)).run keyspace =
        (.ok (keyspace.items (.queue source)).length,
          transferred keyspace (.queue source) (.queue destination)) ∧
        keyspace.admits (.queue source) .list = true ∧
        (keyspace.items (.queue source) ≠ [] →
          keyspace.admits (.queue destination) .list = true) ∨
      (migrateInbox (.queue source) (.queue destination)).run keyspace =
          (.error .wrongType, keyspace) ∧
        (keyspace.admits (.queue source) .list = false ∨ keyspace.items (.queue source) ≠ [] ∧
          keyspace.admits (.queue destination) .list = false) := by
  cases sourceList : keyspace.admits (.queue source) .list with
  | false =>
      exact Or.inr ⟨Script.run_bind_error (run_typed_of_refused sourceList), Or.inl rfl⟩
  | true =>
      have read : (lrange (.queue source)).run keyspace =
          (.ok (keyspace.items (.queue source)), keyspace) := run_typed sourceList
      by_cases empty : keyspace.items (.queue source) = []
      · left
        refine ⟨?_, rfl, fun nonempty => absurd empty nonempty⟩
        rw [migrateInbox, Script.run_bind_ok read, transferred, if_pos empty, empty]
        rfl
      · cases destinationList : keyspace.admits (.queue destination) .list with
        | true =>
            exact Or.inl ⟨run_migrateInbox sourceList destinationList, rfl, fun _ => rfl⟩
        | false =>
            refine Or.inr ⟨?_, Or.inr ⟨empty, rfl⟩⟩
            have parts := chunks_ne_nil empty
            have pushed : (rpushChunks (.queue destination)
                (chunks (keyspace.items (.queue source)))).run keyspace =
                  (.error .wrongType, keyspace) := by
              cases isParts : chunks (keyspace.items (.queue source)) with
              | nil => exact absurd isParts parts
              | cons part rest =>
                  exact Script.run_bind_error (run_typed_of_refused destinationList)
            rw [migrateInbox, Script.run_bind_ok read, Script.when, if_pos empty]
            exact Script.run_bind_error (Script.run_bind_error pushed)

theorem run_checkDeadLetters :
    (checkDeadLetters (.dlq source) (.dlq destination)).run keyspace =
      (if (keyspace.admits (.dlq source) .list && keyspace.admits (.dlq destination) .list) = true
        then (.ok (), keyspace)
        else (.error (.reply "dead-letter queue key has wrong type"), keyspace)) := by
  rw [checkDeadLetters, Script.run_bind_ok (run_holds _ _ _), Script.run_bind_ok (run_holds _ _ _)]
  split <;> rfl

/-- The dead letters after the inbox has moved. -/
theorem run_deadLetters (different : source ≠ destination) (bound : Nat)
    (lists : (keyspace.admits (.dlq source) .list && keyspace.admits (.dlq destination) .list) =
      true) :
    (migrateDeadLetters (.dlq source) (.dlq destination) bound).run
        (transferred keyspace (.queue source) (.queue destination)) =
      (.ok (), transferredDead (transferred keyspace (.queue source) (.queue destination))
        (.dlq source) (.dlq destination) bound) := by
  rw [Bool.and_eq_true] at lists
  have same : ∀ name, (transferred keyspace (.queue source) (.queue destination)).admits
      (.dlq name) .list = keyspace.admits (.dlq name) .list := by
    intro name
    rw [transferred]
    split
    · rfl
    · simp [Keyspace.admits]
  apply run_migrateDeadLetters (by simpa using different)
  · rw [same]
    exact lists.1
  · rw [same]
    exact lists.2

end Steps

/-! ## The outcome -/

section Outcome

variable {keyspace : Keyspace Key} {source destination : String} {guarded : Bool}
  {deadLetterBound : Option Nat}

/-- The keyspace after a migration that is not refused. -/
def migrated (keyspace : Keyspace Key) (source destination : String)
    (deadLetterBound : Option Nat) : Keyspace Key :=
  match deadLetterBound with
  | none => transferred keyspace (.queue source) (.queue destination)
  | some bound =>
      transferredDead (transferred keyspace (.queue source) (.queue destination)) (.dlq source)
        (.dlq destination) bound

/-- A migration that goes on from the check of the claims. -/
theorem run_migrate_free (different : source ≠ destination)
    (free : (outstandingClaims source guarded).run keyspace = (.ok 0, keyspace)) :
    (migrate source destination guarded deadLetterBound).run keyspace =
        (.ok (.transferred (keyspace.items (.queue source)).length),
          migrated keyspace source destination deadLetterBound) ∧
        (∀ bound, deadLetterBound = some bound →
          (keyspace.admits (.dlq source) .list &&
            keyspace.admits (.dlq destination) .list) = true) ∧
        keyspace.admits (.queue source) .list = true ∧
        (keyspace.items (.queue source) ≠ [] →
          keyspace.admits (.queue destination) .list = true) ∨
      (∃ fault, (migrate source destination guarded deadLetterBound).run keyspace =
          (.error fault, keyspace)) ∧
        Refusal keyspace source destination guarded deadLetterBound := by
  unfold migrate
  rw [if_neg different, Script.run_bind_ok free, if_neg (Nat.lt_irrefl 0)]
  have inbox := @run_migrateInbox_cases keyspace source destination
  have refuses : (keyspace.admits (.queue source) .list = false ∨
      keyspace.items (.queue source) ≠ [] ∧ keyspace.admits (.queue destination) .list = false) →
        Refusal keyspace source destination guarded deadLetterBound := by
    intro wrong
    rcases wrong with wrong | ⟨nonempty, wrong⟩
    · exact .source wrong
    · exact .destination nonempty wrong
  cases deadLetterBound with
  | none =>
      rcases inbox with ⟨ran, lists⟩ | ⟨raised, wrong⟩
      · have unbounded : ∀ bound, (none : Option Nat) = some bound →
            (keyspace.admits (.dlq source) .list && keyspace.admits (.dlq destination) .list) =
              true := by
          intro bound isBound
          cases isBound
        refine Or.inl ⟨?_, unbounded, lists⟩
        simp only [Script.run_bind_ok ran]
        rfl
      · exact Or.inr ⟨⟨_, Script.run_bind_error raised⟩, refuses wrong⟩
  | some bound =>
      have checked := @run_checkDeadLetters keyspace source destination
      cases lists : keyspace.admits (.dlq source) .list &&
        keyspace.admits (.dlq destination) .list with
      | false =>
          rw [lists, if_neg Bool.false_ne_true] at checked
          exact Or.inr ⟨⟨_, Script.run_bind_error checked⟩, .deadLetters bound rfl lists⟩
      | true =>
          rw [lists, if_pos rfl] at checked
          simp only [Script.run_bind_ok checked]
          rcases inbox with ⟨ran, inboxes⟩ | ⟨raised, wrong⟩
          · left
            refine ⟨?_, fun _ _ => trivial, inboxes⟩
            simp only [Script.run_bind_ok ran,
              Script.run_bind_ok (run_deadLetters different bound lists)]
            rfl
          · exact Or.inr ⟨⟨_, Script.run_bind_error raised⟩, refuses wrong⟩

/-- What a migration does, and when. -/
theorem run_migrate_outcome (different : source ≠ destination) :
    (migrate source destination guarded deadLetterBound).run keyspace =
        (.ok (.transferred (keyspace.items (.queue source)).length),
          migrated keyspace source destination deadLetterBound) ∧
        ¬Refusal keyspace source destination guarded deadLetterBound ∨
      (∃ result, (migrate source destination guarded deadLetterBound).run keyspace =
          (result, keyspace) ∧ ∀ count, result ≠ .ok (.transferred count)) ∧
        Refusal keyspace source destination guarded deadLetterBound := by
  rcases @run_outstandingClaims keyspace source guarded with
    ⟨free, unclaimed⟩ | ⟨⟨outstanding, claimed⟩, isGuarded, id, inside⟩ | ⟨raised, isGuarded, wrong⟩
  · rcases @run_migrate_free keyspace source destination guarded deadLetterBound different free with
      ⟨ran, dead, sourceList, destinationList⟩ | ⟨⟨fault, ran⟩, refusal⟩
    · refine Or.inl ⟨ran, ?_⟩
      intro refusal
      cases refusal with
      | claims isGuarded id inside => exact (unclaimed isGuarded).2 id inside
      | index isGuarded wrong =>
          rw [(unclaimed isGuarded).1] at wrong
          cases wrong
      | deadLetters bound isBound wrong =>
          rw [dead bound isBound] at wrong
          cases wrong
      | source wrong =>
          rw [sourceList] at wrong
          cases wrong
      | destination nonempty wrong =>
          rw [destinationList nonempty] at wrong
          cases wrong
    · exact Or.inr ⟨⟨_, ran, fun count same => by cases same⟩, refusal⟩
  · refine Or.inr ⟨⟨.ok .claimsOutstanding, ?_, fun count same => by cases same⟩,
      .claims isGuarded id inside⟩
    unfold migrate
    rw [if_neg different, Script.run_bind_ok claimed, if_pos outstanding.succ_pos]
    rfl
  · refine Or.inr ⟨⟨.error .wrongType, ?_, fun count same => by cases same⟩,
      .index isGuarded wrong⟩
    unfold migrate
    rw [if_neg different, Script.run_bind_error raised]

/-- The same for the store, which throws on claims. -/
theorem run_migrateMessages (different : source ≠ destination) :
    (migrateMessages source destination guarded deadLetterBound).run keyspace =
        (.ok (.ok (keyspace.items (.queue source)).length),
          migrated keyspace source destination deadLetterBound) ∧
        ¬Refusal keyspace source destination guarded deadLetterBound ∨
      (∃ result, (migrateMessages source destination guarded deadLetterBound).run keyspace =
          (result, keyspace) ∧ ∀ count, result ≠ .ok (.ok count)) ∧
        Refusal keyspace source destination guarded deadLetterBound := by
  rcases @run_migrate_outcome keyspace source destination guarded deadLetterBound different with
    ⟨ran, free⟩ | ⟨⟨result, ran, refused⟩, refusal⟩
  · refine Or.inl ⟨?_, free⟩
    rw [migrateMessages, Script.run_bind_ok ran]
    rfl
  · refine Or.inr ⟨?_, refusal⟩
    cases result with
    | error fault =>
        exact ⟨_, Script.run_bind_error ran, fun count same => by cases same⟩
    | ok reply =>
        cases reply with
        | transferred count => exact absurd rfl (refused count)
        | claimsOutstanding =>
            exact ⟨_, Script.run_bind_ok ran, fun count same => by cases same⟩

end Outcome

/-! ## Exactness -/

/-- The whole mailbox of the source is at the tail of the destination's, and its dead
letters at the head of the destination's, up to the bound. -/
structure Migrated (before after : Keyspace Key) (source destination : String)
    (deadLetterBound : Option Nat) (count : Nat) : Prop where
  counted : count = (before.items (.queue source)).length
  inbox : after.items (.queue destination) =
    before.items (.queue destination) ++ before.items (.queue source)
  emptied : after.items (.queue source) = []
  dead : ∀ bound, deadLetterBound = some bound → 1 ≤ bound → before.items (.dlq source) ≠ [] →
    after.items (.dlq destination) =
      (before.items (.dlq source) ++ before.items (.dlq destination)).take bound ∧
    after.items (.dlq source) = []
  kept : deadLetterBound = none ∨ before.items (.dlq source) = [] →
    ∀ name, after.value (.dlq name) = before.value (.dlq name)
  others : ∀ key, (∀ name, key ≠ .queue name) → (∀ name, key ≠ .dlq name) →
    after.value key = before.value key

section Lists

variable {keyspace : Keyspace Key} {source destination : String}

theorem transferred_value {key : Key} (notQueue : ∀ name, key ≠ .queue name) :
    (transferred keyspace (.queue source) (.queue destination)).value key = keyspace.value key := by
  rw [transferred]
  split
  · rfl
  · simp [notQueue]

theorem transferredDead_value {key : Key} {bound : Nat} (notDead : ∀ name, key ≠ .dlq name) :
    (transferredDead keyspace (.dlq source) (.dlq destination) bound).value key =
      keyspace.value key := by
  rw [transferredDead]
  split
  · rfl
  · simp [notDead]

theorem items_transferred (different : source ≠ destination) :
    (transferred keyspace (.queue source) (.queue destination)).items (.queue destination) =
        keyspace.items (.queue destination) ++ keyspace.items (.queue source) ∧
      (transferred keyspace (.queue source) (.queue destination)).items (.queue source) = [] := by
  rw [transferred]
  split
  · next empty => exact ⟨by rw [empty, List.append_nil], empty⟩
  · have other : destination ≠ source := different.symm
    exact ⟨by simp [Keyspace.items, other], by simp [Keyspace.items]⟩

theorem items_transferredDead (different : source ≠ destination) (bound : Nat)
    (nonempty : keyspace.items (.dlq source) ≠ []) :
    (transferredDead keyspace (.dlq source) (.dlq destination) bound).items (.dlq destination) =
        (keyspace.items (.dlq source) ++ keyspace.items (.dlq destination)).take bound ∧
      (transferredDead keyspace (.dlq source) (.dlq destination) bound).items (.dlq source) =
        [] := by
  rw [transferredDead, if_neg nonempty]
  have other : destination ≠ source := different.symm
  exact ⟨by simp [Keyspace.items, other], by simp [Keyspace.items]⟩

theorem migrated_lists (different : source ≠ destination) (deadLetterBound : Option Nat) :
    Migrated keyspace (migrated keyspace source destination deadLetterBound) source destination
      deadLetterBound (keyspace.items (.queue source)).length := by
  have inboxes := @items_transferred keyspace source destination different
  cases deadLetterBound with
  | none =>
      exact
        { counted := rfl
          inbox := inboxes.1
          emptied := inboxes.2
          dead := fun bound isBound => by cases isBound
          kept := fun _ name => transferred_value fun _ => Key.noConfusion
          others := fun key notQueue _ => transferred_value notQueue }
  | some bound =>
      obtain ⟨middle, isMiddle⟩ : ∃ middle, middle =
        transferred keyspace (.queue source) (.queue destination) := ⟨_, rfl⟩
      have sameDead : ∀ name, middle.value (.dlq name) = keyspace.value (.dlq name) := by
        intro name
        rw [isMiddle]
        exact transferred_value fun _ => Key.noConfusion
      have deadItems : ∀ name, middle.items (.dlq name) = keyspace.items (.dlq name) := by
        intro name
        rw [Keyspace.items, Keyspace.items, sameDead]
      have inbox : ∀ name, (transferredDead middle (.dlq source) (.dlq destination) bound).items
          (.queue name) = middle.items (.queue name) := by
        intro name
        rw [Keyspace.items, Keyspace.items, transferredDead_value fun _ => Key.noConfusion]
      rw [migrated, ← isMiddle]
      rw [← isMiddle] at inboxes
      exact
        { counted := rfl
          inbox := (inbox destination).trans inboxes.1
          emptied := (inbox source).trans inboxes.2
          dead := by
            intro other isBound _ nonempty
            cases isBound
            rw [← deadItems] at nonempty ⊢
            rw [← deadItems destination]
            exact items_transferredDead different bound nonempty
          kept := by
            intro nothing name
            rcases nothing with absent | empty
            · cases absent
            · rw [transferredDead, if_pos (by rw [deadItems, empty])]
              exact sameDead name
          others := by
            intro key notQueue notDead
            rw [transferredDead_value notDead, isMiddle]
            exact transferred_value notQueue }

end Lists

/-- A migration that succeeds moves exactly the two lists, any other changes nothing, and
between two mailboxes it succeeds exactly when there is nothing to refuse. -/
structure ExactMigration (before : Keyspace Key) (source destination : String) (guarded : Bool)
    (deadLetterBound : Option Nat) (result : Except Fault (Except String Nat))
    (after : Keyspace Key) : Prop where
  moves : source ≠ destination → ∀ count, result = .ok (.ok count) →
    Migrated before after source destination deadLetterBound count
  keeps : source = destination ∨ (∀ count, result ≠ .ok (.ok count)) → after = before
  refuses : source ≠ destination →
    ((∀ count, result ≠ .ok (.ok count)) ↔
      Refusal before source destination guarded deadLetterBound)

theorem migration_exact (keyspace : Keyspace Key) (source destination : String) (guarded : Bool)
    (deadLetterBound : Option Nat) :
    ExactMigration keyspace source destination guarded deadLetterBound
      ((migrateMessages source destination guarded deadLetterBound).run keyspace).1
      ((migrateMessages source destination guarded deadLetterBound).run keyspace).2 := by
  by_cases same : source = destination
  · have ran : (migrateMessages source destination guarded deadLetterBound).run keyspace =
        (.ok (.ok 0), keyspace) := by
      have nothing : (migrate source destination guarded deadLetterBound).run keyspace =
          (.ok (.transferred 0), keyspace) := by
        unfold migrate
        rw [if_pos same]
        rfl
      rw [migrateMessages, Script.run_bind_ok nothing]
      rfl
    rw [ran]
    exact
      { moves := fun different => absurd same different
        keeps := fun _ => rfl
        refuses := fun different => absurd same different }
  · rcases @run_migrateMessages keyspace source destination guarded deadLetterBound same with
      ⟨ran, free⟩ | ⟨⟨result, ran, refused⟩, refusal⟩
    · rw [ran]
      exact
        { moves := by
            intro different count isOk
            cases isOk
            exact migrated_lists different deadLetterBound
          keeps := by
            intro nothing
            rcases nothing with equal | failed
            · exact absurd equal same
            · exact absurd rfl (failed _)
          refuses := fun _ =>
            ⟨fun failed => absurd rfl (failed _), fun refusal => absurd refusal free⟩ }
    · rw [ran]
      exact
        { moves := fun _ count isOk => absurd isOk (refused count)
          keeps := fun _ => rfl
          refuses := fun _ => ⟨fun _ => refusal, fun _ => refused⟩ }

end GptQueue.Claims
