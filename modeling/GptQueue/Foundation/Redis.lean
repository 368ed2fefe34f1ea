import GptQueue.Foundation.Decimal

/-! # Redis keyspaces and scripts

A keyspace maps keys to typed values. A script is a sequence of commands run
without interruption: it either returns a reply or raises, and the server keeps
the writes made before a raise. The key type is a parameter, so a development
can use its own key schema.

Texts are `String`s in which every character stands for one byte.
-/

namespace GptQueue.Redis

/-! ## Values -/

/-- What `TYPE` answers for a key that exists. -/
inductive Kind
  | string
  | list
  | hash
  | zset
  | set
  | stream
deriving DecidableEq, Repr

/-- A sorted-set score: a finite number or one of the two infinities. -/
abbrev Score := WithBot (WithTop ℚ)

abbrev Fields := AList (fun _ : String => String)

abbrev Scores := AList (fun _ : String => Score)

inductive Value
  | string (text : String)
  | list (items : List String)
  | hash (fields : Fields)
  | zset (members : Scores)
  | set (members : List String)
  | stream (entries : List (List (String × String)))

namespace Value

def kind : Value → Kind
  | .string _ => .string
  | .list _ => .list
  | .hash _ => .hash
  | .zset _ => .zset
  | .set _ => .set
  | .stream _ => .stream

/-! The server removes a list, hash, set or sorted set with its last element,
so an empty one is written as an absent key. -/

def ofItems (items : List String) : Option Value :=
  if items = [] then none else some (.list items)

def ofFields (fields : Fields) : Option Value :=
  if fields.entries = [] then none else some (.hash fields)

def ofScores (members : Scores) : Option Value :=
  if members.entries = [] then none else some (.zset members)

def ofMembers (members : List String) : Option Value :=
  if members = [] then none else some (.set members)

/-- Whether a key holding this value (or absent) can be used as `kind`. -/
def admits (value : Option Value) (kind : Kind) : Bool :=
  value.all fun held => held.kind == kind

def text : Option Value → Option String
  | some (.string text) => some text
  | _ => none

def items : Option Value → List String
  | some (.list items) => items
  | _ => []

def fields : Option Value → Fields
  | some (.hash fields) => fields
  | _ => ∅

def scores : Option Value → Scores
  | some (.zset members) => members
  | _ => ∅

def members : Option Value → List String
  | some (.set members) => members
  | _ => []

def entries : Option Value → List (List (String × String))
  | some (.stream entries) => entries
  | _ => []

@[simp] theorem admits_none (kind : Kind) : admits none kind = true := rfl

@[simp] theorem admits_some (value : Value) (kind : Kind) :
    admits (some value) kind = (value.kind == kind) := rfl

@[simp] theorem admits_ofItems (items : List String) (kind : Kind) :
    admits (ofItems items) kind = (items.isEmpty || kind == .list) := by
  cases items <;> cases kind <;> rfl

@[simp] theorem admits_ofFields (fields : Fields) :
    admits (ofFields fields) .hash = true := by
  unfold ofFields
  split <;> rfl

@[simp] theorem admits_ofScores (members : Scores) :
    admits (ofScores members) .zset = true := by
  unfold ofScores
  split <;> rfl

@[simp] theorem admits_ofMembers (members : List String) :
    admits (ofMembers members) .set = true := by
  unfold ofMembers
  split <;> rfl

@[simp] theorem items_ofItems (xs : List String) : items (ofItems xs) = xs := by
  cases xs <;> rfl

@[simp] theorem fields_ofFields (fs : Fields) : fields (ofFields fs) = fs := by
  unfold ofFields
  split
  · next empty => exact AList.ext (by rw [empty]; rfl)
  · rfl

@[simp] theorem scores_ofScores (ms : Scores) : scores (ofScores ms) = ms := by
  unfold ofScores
  split
  · next empty => exact AList.ext (by rw [empty]; rfl)
  · rfl

@[simp] theorem members_ofMembers (ms : List String) :
    members (ofMembers ms) = ms := by
  cases ms <;> rfl

@[simp] theorem text_none : text none = none := rfl

@[simp] theorem text_string (value : String) :
    text (some (.string value)) = some value := rfl

@[simp] theorem items_none : items none = [] := rfl

@[simp] theorem fields_none : fields none = ∅ := rfl

@[simp] theorem scores_none : scores none = ∅ := rfl

end Value

/-! ## Keyspaces -/

/-- The data of a server, together with every element an `LTRIM` has cut off so
far. The second component is kept for accounting only: no command reads it. -/
structure Keyspace (Key : Type) where
  value : Key → Option Value
  trimmed : List String

namespace Keyspace

variable {Key : Type}

def empty : Keyspace Key where
  value _ := none
  trimmed := []

@[simp] theorem empty_value (key : Key) :
    (empty : Keyspace Key).value key = none := rfl

@[ext] theorem ext {left right : Keyspace Key}
    (value : ∀ key, left.value key = right.value key)
    (trimmed : left.trimmed = right.trimmed) : left = right := by
  cases left
  cases right
  simp only [mk.injEq]
  exact ⟨funext value, trimmed⟩

/-- Whether `key` is absent or holds a value of the given kind. -/
def admits (keyspace : Keyspace Key) (key : Key) (kind : Kind) : Bool :=
  Value.admits (keyspace.value key) kind

def text (keyspace : Keyspace Key) (key : Key) : Option String :=
  Value.text (keyspace.value key)

def items (keyspace : Keyspace Key) (key : Key) : List String :=
  Value.items (keyspace.value key)

def fields (keyspace : Keyspace Key) (key : Key) : Fields :=
  Value.fields (keyspace.value key)

def scores (keyspace : Keyspace Key) (key : Key) : Scores :=
  Value.scores (keyspace.value key)

def members (keyspace : Keyspace Key) (key : Key) : List String :=
  Value.members (keyspace.value key)

variable [DecidableEq Key]

def store (keyspace : Keyspace Key) (key : Key) (value : Option Value) :
    Keyspace Key :=
  { keyspace with
    value := fun other => if other = key then value else keyspace.value other }

@[simp] theorem store_value (keyspace : Keyspace Key) (key other : Key)
    (value : Option Value) :
    (keyspace.store key value).value other =
      if other = key then value else keyspace.value other := rfl

@[simp] theorem store_trimmed (keyspace : Keyspace Key) (key : Key)
    (value : Option Value) :
    (keyspace.store key value).trimmed = keyspace.trimmed := rfl

theorem store_store (keyspace : Keyspace Key) (key : Key) (first second : Option Value) :
    (keyspace.store key first).store key second = keyspace.store key second := by
  apply Keyspace.ext
  · intro other
    by_cases same : other = key <;> simp [same]
  · rfl

theorem store_comm (keyspace : Keyspace Key) {first second : Key} (different : first ≠ second)
    (left right : Option Value) :
    (keyspace.store first left).store second right =
      (keyspace.store second right).store first left := by
  apply Keyspace.ext
  · intro other
    simp only [store_value]
    split_ifs with isSecond isFirst
    · exact absurd (isFirst.symm.trans isSecond) different
    · rfl
    · rfl
    · rfl
  · rfl

end Keyspace

/-! ## Scripts -/

/-- Why a command inside a script failed. -/
inductive Fault
  | wrongType
  | notAnInteger
  | overflow
  | notAFloat
  | badArgument
  | reply (message : String)
deriving DecidableEq, Repr

/-- A script: the reply or the fault, and the keyspace it leaves behind. The
keyspace of a raising script is the one at the raise, not the original. -/
structure Script (Key α : Type) where
  run : Keyspace Key → Except Fault α × Keyspace Key

namespace Script

variable {Key α β γ : Type}

protected def pure (value : α) : Script Key α where
  run keyspace := (.ok value, keyspace)

protected def bind (script : Script Key α) (next : α → Script Key β) :
    Script Key β where
  run keyspace :=
    match script.run keyspace with
    | (.ok value, after) => (next value).run after
    | (.error fault, after) => (.error fault, after)

instance : Monad (Script Key) where
  pure := Script.pure
  bind := Script.bind

def raise (fault : Fault) : Script Key α where
  run keyspace := (.error fault, keyspace)

/-- `if condition then script end`. -/
def when (condition : Prop) [Decidable condition] (script : Script Key Unit) :
    Script Key Unit :=
  if condition then script else pure ()

@[simp] theorem run_pure (value : α) (keyspace : Keyspace Key) :
    (pure value : Script Key α).run keyspace = (.ok value, keyspace) := rfl

@[simp] theorem run_raise (fault : Fault) (keyspace : Keyspace Key) :
    (raise fault : Script Key α).run keyspace = (.error fault, keyspace) := rfl

theorem run_bind (script : Script Key α) (next : α → Script Key β)
    (keyspace : Keyspace Key) :
    (script >>= next).run keyspace =
      match script.run keyspace with
      | (.ok value, after) => (next value).run after
      | (.error fault, after) => (.error fault, after) := rfl

theorem run_bind_ok {script : Script Key α} {next : α → Script Key β}
    {before after : Keyspace Key} {value : α}
    (returned : script.run before = (.ok value, after)) :
    (script >>= next).run before = (next value).run after := by
  rw [run_bind, returned]

theorem run_bind_error {script : Script Key α} {next : α → Script Key β}
    {before after : Keyspace Key} {fault : Fault}
    (raised : script.run before = (.error fault, after)) :
    (script >>= next).run before = (.error fault, after) := by
  rw [run_bind, raised]

/-- A composite returns only if both parts do. -/
theorem of_run_bind_ok {script : Script Key α} {next : α → Script Key β}
    {before after : Keyspace Key} {result : β}
    (returned : (script >>= next).run before = (.ok result, after)) :
    ∃ value middle, script.run before = (.ok value, middle) ∧
      (next value).run middle = (.ok result, after) := by
  rw [run_bind] at returned
  rcases first : script.run before with ⟨fault | value, middle⟩
  · simp [first] at returned
  · rw [first] at returned
    exact ⟨value, middle, rfl, returned⟩

/-- Whatever `script` does, returning or raising, stays within `relation`. -/
def Within (relation : Keyspace Key → Keyspace Key → Prop) (script : Script Key α) : Prop :=
  ∀ keyspace, relation keyspace (script.run keyspace).2

section Within

variable {relation : Keyspace Key → Keyspace Key → Prop}

theorem Within.pure (refl : ∀ keyspace, relation keyspace keyspace) (value : α) :
    Within relation (pure value : Script Key α) :=
  fun keyspace => refl keyspace

theorem Within.raise (refl : ∀ keyspace, relation keyspace keyspace) (fault : Fault) :
    Within relation (raise fault : Script Key α) :=
  fun keyspace => refl keyspace

theorem Within.bind {script : Script Key α} {next : α → Script Key β}
    (trans : ∀ {first second third}, relation first second → relation second third →
      relation first third)
    (first : Within relation script) (rest : ∀ value, Within relation (next value)) :
    Within relation (script >>= next) := by
  intro keyspace
  have start := first keyspace
  rw [run_bind]
  rcases outcome : script.run keyspace with ⟨fault | value, after⟩
  · rw [outcome] at start
    exact start
  · rw [outcome] at start
    exact trans start (rest value after)

theorem Within.when {condition : Prop} [Decidable condition] {script : Script Key Unit}
    (refl : ∀ keyspace, relation keyspace keyspace) (within : Within relation script) :
    Within relation (Script.when condition script) := by
  unfold Script.when
  split
  · exact within
  · exact Within.pure refl ()

theorem Within.mono {wider : Keyspace Key → Keyspace Key → Prop} {script : Script Key α}
    (within : Within relation script)
    (implies : ∀ before after, relation before after → wider before after) :
    Within wider script :=
  fun keyspace => implies _ _ (within keyspace)

end Within

/-- Only the keys in `region` differ. -/
def SameOutside (region : Key → Prop) (before after : Keyspace Key) : Prop :=
  ∀ key, ¬region key → after.value key = before.value key

theorem SameOutside.refl (region : Key → Prop) (keyspace : Keyspace Key) :
    SameOutside region keyspace keyspace :=
  fun _ _ => rfl

theorem SameOutside.trans {region : Key → Prop} {first second third : Keyspace Key}
    (left : SameOutside region first second) (right : SameOutside region second third) :
    SameOutside region first third :=
  fun key outside => (right key outside).trans (left key outside)

/-- `script` can change only the keys in `region`. -/
def Touches (region : Key → Prop) (script : Script Key α) : Prop :=
  Within (SameOutside region) script

section Touches

variable {region : Key → Prop}

theorem Touches.pure (value : α) : Touches region (pure value : Script Key α) :=
  Within.pure (SameOutside.refl region) value

theorem Touches.raise (fault : Fault) : Touches region (raise fault : Script Key α) :=
  Within.raise (SameOutside.refl region) fault

theorem Touches.bind {script : Script Key α} {next : α → Script Key β}
    (first : Touches region script) (rest : ∀ value, Touches region (next value)) :
    Touches region (script >>= next) :=
  Within.bind SameOutside.trans first rest

theorem Touches.when {condition : Prop} [Decidable condition] {script : Script Key Unit}
    (touches : Touches region script) : Touches region (Script.when condition script) :=
  Within.when (SameOutside.refl region) touches

end Touches

end Script

/-! ## Commands -/

section Commands

variable {Key : Type}

/-- Run `action` on a key of the right kind; any other kind raises. -/
def typed {α : Type} (key : Key) (kind : Kind)
    (action : Keyspace Key → Except Fault α × Keyspace Key) : Script Key α where
  run keyspace :=
    if keyspace.admits key kind then action keyspace
    else (.error .wrongType, keyspace)

theorem run_typed {α : Type} {key : Key} {kind : Kind}
    {action : Keyspace Key → Except Fault α × Keyspace Key}
    {keyspace : Keyspace Key} (admitted : keyspace.admits key kind = true) :
    (typed key kind action).run keyspace = action keyspace := by
  simp [typed, admitted]

theorem run_typed_of_refused {α : Type} {key : Key} {kind : Kind}
    {action : Keyspace Key → Except Fault α × Keyspace Key}
    {keyspace : Keyspace Key} (refused : keyspace.admits key kind = false) :
    (typed key kind action).run keyspace = (.error .wrongType, keyspace) := by
  simp [typed, refused]

theorem touches_typed {α : Type} {region : Key → Prop} {key : Key} {kind : Kind}
    {action : Keyspace Key → Except Fault α × Keyspace Key}
    (frame : ∀ keyspace other, ¬region other →
      (action keyspace).2.value other = keyspace.value other) :
    Script.Touches region (typed key kind action) := by
  intro keyspace other outside
  simp only [typed]
  split
  · exact frame keyspace other outside
  · rfl

/-- `TYPE`, with `none` for an absent key. -/
def type (key : Key) : Script Key (Option Kind) where
  run keyspace := (.ok ((keyspace.value key).map Value.kind), keyspace)

variable [DecidableEq Key]

def del (key : Key) : Script Key Unit where
  run keyspace := (.ok (), keyspace.store key none)

def exists? (key : Key) : Script Key Bool where
  run keyspace := (.ok (keyspace.value key).isSome, keyspace)

def get (key : Key) : Script Key (Option String) :=
  typed key .string fun keyspace => (.ok (keyspace.text key), keyspace)

/-- `SET` replaces a value of any type. -/
def set (key : Key) (text : String) : Script Key Unit where
  run keyspace := (.ok (), keyspace.store key (some (.string text)))

def minInt64 : Int := -9223372036854775808

def maxInt64 : Int := 9223372036854775807

/-- `INCR` reads an absent key as zero. It accepts only a canonical 64-bit
integer and fails when the sum leaves that range. -/
def incr (key : Key) : Script Key Int :=
  typed key .string fun keyspace =>
    match keyspace.text key with
    | none => (.ok 1, keyspace.store key (some (.string "1")))
    | some text =>
        match Decimal.readInt text.toList with
        | none => (.error .notAnInteger, keyspace)
        | some current =>
            if current < minInt64 ∨ maxInt64 < current then
              (.error .notAnInteger, keyspace)
            else if current = maxInt64 then (.error .overflow, keyspace)
            else
              (.ok (current + 1), keyspace.store key
                (some (.string (String.ofList (Decimal.signed (current + 1))))))

/-- `EXPIRE` schedules a later removal; it changes no value now. -/
def expire (_key : Key) (_seconds : Nat) : Script Key Unit where
  run keyspace := (.ok (), keyspace)

def llen (key : Key) : Script Key Nat :=
  typed key .list fun keyspace => (.ok (keyspace.items key).length, keyspace)

/-- `LRANGE key 0 -1`. -/
def lrange (key : Key) : Script Key (List String) :=
  typed key .list fun keyspace => (.ok (keyspace.items key), keyspace)

def lpop (key : Key) : Script Key (Option String) :=
  typed key .list fun keyspace =>
    match keyspace.items key with
    | [] => (.ok none, keyspace)
    | head :: rest => (.ok (some head), keyspace.store key (Value.ofItems rest))

def rpush (key : Key) (added : List String) : Script Key Unit :=
  typed key .list fun keyspace =>
    (.ok (), keyspace.store key (Value.ofItems (keyspace.items key ++ added)))

/-- `LPUSH key a b …` leaves the last argument at the head. -/
def lpush (key : Key) (added : List String) : Script Key Unit :=
  typed key .list fun keyspace =>
    (.ok (),
      keyspace.store key (Value.ofItems (added.reverse ++ keyspace.items key)))

/-- `LTRIM key 0 (bound - 1)` for a positive bound. -/
def ltrim (key : Key) (bound : Nat) : Script Key Unit :=
  typed key .list fun keyspace =>
    (.ok (),
      { keyspace.store key (Value.ofItems ((keyspace.items key).take bound)) with
        trimmed := keyspace.trimmed ++ (keyspace.items key).drop bound })

/-- `LREM key 1 element` removes the first equal element from the head. -/
def lrem (key : Key) (element : String) : Script Key Unit :=
  typed key .list fun keyspace =>
    (.ok (),
      keyspace.store key (Value.ofItems ((keyspace.items key).erase element)))

def hget (key : Key) (field : String) : Script Key (Option String) :=
  typed key .hash fun keyspace => (.ok ((keyspace.fields key).lookup field), keyspace)

def hexists (key : Key) (field : String) : Script Key Bool :=
  typed key .hash fun keyspace =>
    (.ok ((keyspace.fields key).lookup field).isSome, keyspace)

def hset (key : Key) (field text : String) : Script Key Unit :=
  typed key .hash fun keyspace =>
    (.ok (),
      keyspace.store key (Value.ofFields ((keyspace.fields key).insert field text)))

def hdel (key : Key) (field : String) : Script Key Unit :=
  typed key .hash fun keyspace =>
    (.ok (), keyspace.store key (Value.ofFields ((keyspace.fields key).erase field)))

def zcard (key : Key) : Script Key Nat :=
  typed key .zset fun keyspace => (.ok (keyspace.scores key).entries.length, keyspace)

def zadd (key : Key) (score : Score) (member : String) : Script Key Unit :=
  typed key .zset fun keyspace =>
    (.ok (),
      keyspace.store key (Value.ofScores ((keyspace.scores key).insert member score)))

/-- `ZADD XX` updates a member that exists and adds none. -/
def zaddXX (key : Key) (score : Score) (member : String) : Script Key Unit :=
  typed key .zset fun keyspace =>
    if member ∈ keyspace.scores key then
      (.ok (),
        keyspace.store key (Value.ofScores ((keyspace.scores key).insert member score)))
    else (.ok (), keyspace)

def zrem (key : Key) (member : String) : Script Key Unit :=
  typed key .zset fun keyspace =>
    (.ok (), keyspace.store key (Value.ofScores ((keyspace.scores key).erase member)))

/-- Sorted sets are read by score, then by member. -/
def scoreOrder (left right : Sigma fun _ : String => Score) : Prop :=
  left.2 < right.2 ∨ left.2 = right.2 ∧ left.1 ≤ right.1

instance : DecidableRel scoreOrder :=
  fun _ _ => inferInstanceAs (Decidable (_ ∨ _))

/-- The members of a sorted set in its own order. -/
def sortedMembers (members : Scores) : List String :=
  (members.entries.insertionSort scoreOrder).map Sigma.fst

/-- The members scored at most `bound`, in order. -/
def membersUpTo (members : Scores) (bound : Score) : List String :=
  ((members.entries.filter fun entry => entry.2 ≤ bound).insertionSort
    scoreOrder).map Sigma.fst

/-- `ZRANGE key 0 -1`. -/
def zrange (key : Key) : Script Key (List String) :=
  typed key .zset fun keyspace => (.ok (sortedMembers (keyspace.scores key)), keyspace)

/-- `ZRANGEBYSCORE key -inf bound`; the command rejects a bound that is not a
number before it looks at the key. -/
def zrangebyscore (key : Key) (bound : Option Score) : Script Key (List String) :=
  match bound with
  | none => Script.raise .notAFloat
  | some bound =>
      typed key .zset fun keyspace =>
        (.ok (membersUpTo (keyspace.scores key) bound), keyspace)

def smembers (key : Key) : Script Key (List String) :=
  typed key .set fun keyspace => (.ok (keyspace.members key), keyspace)

def sadd (key : Key) (member : String) : Script Key Unit :=
  typed key .set fun keyspace =>
    (.ok (), keyspace.store key (Value.ofMembers ((keyspace.members key).insert member)))

def srem (key : Key) (member : String) : Script Key Unit :=
  typed key .set fun keyspace =>
    (.ok (), keyspace.store key
      (Value.ofMembers ((keyspace.members key).filter (· ≠ member))))

/-- `XADD`: append one entry. Length trimming is approximate in the server and
is left out. -/
def xadd (key : Key) (entry : List (String × String)) : Script Key Unit :=
  typed key .stream fun keyspace =>
    (.ok (), keyspace.store key
      (some (.stream (Value.entries (keyspace.value key) ++ [entry]))))

/-! ### Frame

Which keys a command can change. -/

section Frame

open Script

variable {region : Key → Prop} {key : Key}

theorem store_value_of_outside {keyspace : Keyspace Key} {value : Option Value}
    (member : region key) {other : Key} (outside : ¬region other) :
    (keyspace.store key value).value other = keyspace.value other := by
  have different : other ≠ key := fun equal => outside (equal ▸ member)
  simp [different]

theorem touches_del (member : region key) : Touches region (del key) :=
  fun _ _ outside => store_value_of_outside member outside

theorem touches_set (member : region key) (text : String) :
    Touches region (set key text) :=
  fun _ _ outside => store_value_of_outside member outside

omit [DecidableEq Key] in
theorem touches_expire (seconds : Nat) : Touches region (expire key seconds) :=
  fun _ _ _ => rfl

theorem touches_incr (member : region key) : Touches region (incr key) := by
  refine touches_typed fun keyspace other outside => ?_
  split
  · exact store_value_of_outside member outside
  · split
    · rfl
    · split_ifs
      · rfl
      · rfl
      · exact store_value_of_outside member outside

theorem touches_lpop (member : region key) : Touches region (lpop key) := by
  refine touches_typed fun keyspace other outside => ?_
  split
  · rfl
  · exact store_value_of_outside member outside

theorem touches_rpush (member : region key) (added : List String) :
    Touches region (rpush key added) :=
  touches_typed fun _ _ outside => store_value_of_outside member outside

theorem touches_lpush (member : region key) (added : List String) :
    Touches region (lpush key added) :=
  touches_typed fun _ _ outside => store_value_of_outside member outside

theorem touches_ltrim (member : region key) (bound : Nat) :
    Touches region (ltrim key bound) :=
  touches_typed fun _ _ outside => store_value_of_outside member outside

theorem touches_hset (member : region key) (field text : String) :
    Touches region (hset key field text) :=
  touches_typed fun _ _ outside => store_value_of_outside member outside

theorem touches_hdel (member : region key) (field : String) :
    Touches region (hdel key field) :=
  touches_typed fun _ _ outside => store_value_of_outside member outside

theorem touches_zadd (member : region key) (score : Score) (element : String) :
    Touches region (zadd key score element) :=
  touches_typed fun _ _ outside => store_value_of_outside member outside

theorem touches_zrem (member : region key) (element : String) :
    Touches region (zrem key element) :=
  touches_typed fun _ _ outside => store_value_of_outside member outside

end Frame

/-! ### Members of sorted sets -/

theorem mem_membersUpTo {members : Scores} {bound : Score} {member : String} :
    member ∈ membersUpTo members bound ↔
      ∃ score, members.lookup member = some score ∧ score ≤ bound := by
  simp only [membersUpTo, List.mem_map, List.mem_insertionSort, List.mem_filter,
    decide_eq_true_eq, Sigma.exists, exists_and_right, exists_eq_right]
  constructor
  · rintro ⟨score, inEntries, le⟩
    exact ⟨score, AList.mem_lookup_iff.mpr inEntries, le⟩
  · rintro ⟨score, found, le⟩
    exact ⟨score, AList.mem_lookup_iff.mp found, le⟩

theorem mem_sortedMembers {members : Scores} {member : String} :
    member ∈ sortedMembers members ↔ member ∈ members := by
  simp only [sortedMembers, List.mem_map, List.mem_insertionSort]
  exact ⟨fun ⟨entry, inEntries, equal⟩ =>
      equal ▸ List.mem_map_of_mem (f := Sigma.fst) inEntries,
    fun inKeys => List.mem_map.mp inKeys⟩

theorem nodup_membersUpTo (members : Scores) (bound : Score) :
    (membersUpTo members bound).Nodup := by
  have filtered : ((members.entries.filter fun entry => entry.2 ≤ bound).map
      Sigma.fst).Nodup :=
    (List.Sublist.map Sigma.fst List.filter_sublist).nodup members.nodupKeys
  exact (((members.entries.filter _).perm_insertionSort scoreOrder).map
    Sigma.fst).nodup_iff.mpr filtered

end Commands

end GptQueue.Redis
