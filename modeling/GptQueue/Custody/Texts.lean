import GptQueue.Claims.IsoDate
import GptQueue.Custody.Model

/-! # The texts of custody records

A record is stored as the JSON text of an object, without the fields that are
undefined, and is read back through the admission of stored records.
-/

namespace GptQueue.Custody

/-! ## Instants -/

namespace Timestamp

open IsoDate

/-- The sign of a year, the number of its digits, and the rest of the text. -/
def splitSign : List Char → Int × Nat × List Char
  | '-' :: rest => (-1, 6, rest)
  | '+' :: rest => (1, 6, rest)
  | rest => (1, 4, rest)

def instantOf (sign : Int) (digits : Nat) (parts : Parts) : Option Int :=
  let date : Calendar.Date :=
    { year := sign * Decimal.value parts.year
      month := Decimal.value parts.month
      day := Decimal.value parts.day }
  let hour := Decimal.value parts.hour
  let minute := Decimal.value parts.minute
  let second := Decimal.value parts.second
  if parts.year.length = digits ∧ parts.month.length = 2 ∧ parts.day.length = 2 ∧
      parts.hour.length = 2 ∧ parts.minute.length = 2 ∧ parts.second.length = 2 ∧
      parts.millisecond.length = 3 ∧ date.valid ∧ hour < 24 ∧ minute < 60 ∧ second < 60 then
    some (Calendar.dayOf date * 86400000 + hour * 3600000 + minute * 60000 +
      second * 1000 + Decimal.value parts.millisecond)
  else none

/-- The instant of a text in the form that `toISOString` writes. -/
def readInstant (text : String) : Option Int :=
  match splitSign text.toList with
  | (sign, digits, rest) => (readParts (String.ofList rest)).bind (instantOf sign digits)

def text : Timestamp → String
  | .instant ms => IsoDate.toISOString ms
  | .unreadable text => text

def ofText (text : String) : Timestamp :=
  match readInstant text with
  | some ms => .instant ms
  | none => .unreadable text

/-- An instant in the range of a `Date`, or a text of no instant. -/
def Writable : Timestamp → Prop
  | .instant ms => -maxTime ≤ ms ∧ ms ≤ maxTime
  | .unreadable text => readInstant text = none

theorem writable_of_toISOString {ms : Int} {made : Timestamp}
    (isMade : Timestamp.toISOString ms = some made) : made.Writable := by
  unfold Timestamp.toISOString at isMade
  split at isMade
  next inRange =>
    rw [← Option.some.inj isMade]
    exact inRange
  · cases isMade

theorem splitSign_of_isDigit {char : Char} (isDigit : char.isDigit = true) (rest : List Char) :
    splitSign (char :: rest) = (1, 4, char :: rest) := by
  unfold splitSign
  split
  next same =>
    cases same
    cases isDigit
  next same =>
    cases same
    cases isDigit
  · rfl

/-- The parts of an instant give it back, for whatever text its year has. -/
theorem instantOf_toISOParts {ms sign : Int} {digits : Nat} {year : List Char}
    (isYear : sign * Decimal.value year = (Calendar.dateOf (ms / 86400000)).year)
    (length : year.length = digits) :
    instantOf sign digits { toISOParts ms with year } = some ms := by
  have valid := Calendar.dateOf_valid (ms / 86400000)
  have day := valid.day_le
  rcases valid with ⟨month, lastMonth, firstDay, -⟩
  have sameDay := Calendar.dayOf_dateOf (ms / 86400000)
  simp only [instantOf, toISOParts, Decimal.value_padded, isYear]
  rw [Int.toNat_of_nonneg (by omega), Int.toNat_of_nonneg (by omega), if_pos, Option.some.injEq]
  · rw [sameDay]
    omega
  · exact ⟨length, Decimal.length_padded (by omega) (by omega),
      Decimal.length_padded (by omega) (by omega), Decimal.length_padded (by omega) (by omega),
      Decimal.length_padded (by omega) (by omega), Decimal.length_padded (by omega) (by omega),
      Decimal.length_padded (by omega) (by omega), Calendar.dateOf_valid _, by omega, by omega,
      by omega⟩

theorem year_bounds {ms : Int} (first : -maxTime ≤ ms) (last : ms ≤ maxTime) :
    -300000 ≤ (Calendar.dateOf (ms / 86400000)).year ∧
      (Calendar.dateOf (ms / 86400000)).year < 300000 := by
  unfold maxTime at first last
  exact @Calendar.yearFromDay_bounds (ms / 86400000) (-300000) 300000
    (by simp only [Calendar.dayFromYear]; omega) (by simp only [Calendar.dayFromYear]; omega)

theorem readParts_year (ms : Int) (width number : Nat) :
    readParts { toISOParts ms with year := Decimal.padded width number }.text =
      some { toISOParts ms with year := Decimal.padded width number } := by
  apply readParts_text <;> exact isRun_padded _ _

theorem readInstant_plain (ms : Int) (number : Nat) :
    readInstant { toISOParts ms with year := Decimal.padded 4 number }.text =
      (readParts { toISOParts ms with year := Decimal.padded 4 number }.text).bind
        (instantOf 1 4) := by
  rcases isYear : Decimal.padded 4 number with _ | ⟨char, more⟩
  · exact absurd isYear (Decimal.padded_ne_nil 4 number)
  · have digits := Decimal.all_isDigit_padded 4 number
    rw [isYear, List.all_cons, Bool.and_eq_true] at digits
    rw [readInstant, Parts.text, String.toList_ofList]
    dsimp only [List.cons_append]
    rw [splitSign_of_isDigit digits.1]

theorem readInstant_signed (ms : Int) (number : Nat) {mark : Char} {sign : Int}
    (isSign : ∀ rest, splitSign (mark :: rest) = (sign, 6, rest)) :
    readInstant (String.ofList
        (mark :: { toISOParts ms with year := Decimal.padded 6 number }.text.toList)) =
      (readParts { toISOParts ms with year := Decimal.padded 6 number }.text).bind
        (instantOf sign 6) := by
  rw [readInstant, String.toList_ofList, isSign]
  dsimp only
  rw [String.ofList_toList]

/-- The text of an instant whose year has a sign. -/
theorem toISOString_signed {ms : Int}
    (outside : ¬(0 ≤ (Calendar.dateOf (ms / 86400000)).year ∧
      (Calendar.dateOf (ms / 86400000)).year ≤ 9999)) :
    IsoDate.toISOString ms = String.ofList
      ((if (Calendar.dateOf (ms / 86400000)).year < 0 then '-' else '+') ::
        { toISOParts ms with
          year := Decimal.padded 6 (Calendar.dateOf (ms / 86400000)).year.natAbs }.text.toList) := by
  have isYear : (toISOParts ms).year =
      (if (Calendar.dateOf (ms / 86400000)).year < 0 then '-' else '+') ::
        Decimal.padded 6 (Calendar.dateOf (ms / 86400000)).year.natAbs := if_neg outside
  rw [IsoDate.toISOString, Parts.text, isYear, Parts.text, String.toList_ofList]
  dsimp only [List.cons_append]

/-- Every instant of a `Date` is read from its text. -/
theorem readInstant_toISOString {ms : Int} (first : -maxTime ≤ ms) (last : ms ≤ maxTime) :
    readInstant (IsoDate.toISOString ms) = some ms := by
  have bounds := year_bounds first last
  have ofWidth : ∀ (sign : Int) (width number : Nat), 0 < width → number < 10 ^ width →
      sign * (number : Int) = (Calendar.dateOf (ms / 86400000)).year →
        (readParts { toISOParts ms with year := Decimal.padded width number }.text).bind
          (instantOf sign width) = some ms := by
    intro sign width number positive small isYear
    rw [readParts_year, Option.bind_some]
    apply instantOf_toISOParts
    · rw [Decimal.value_padded, isYear]
    · exact Decimal.length_padded positive small
  by_cases plain : 0 ≤ (Calendar.dateOf (ms / 86400000)).year ∧
      (Calendar.dateOf (ms / 86400000)).year ≤ 9999
  · have isText : IsoDate.toISOString ms = { toISOParts ms with
        year := Decimal.padded 4 (Calendar.dateOf (ms / 86400000)).year.toNat }.text := by
      rw [IsoDate.toISOString, toISOParts, yearText_of_range plain.1 plain.2]
    rw [isText, readInstant_plain]
    exact ofWidth 1 4 _ (by decide) (by omega) (by omega)
  · rw [toISOString_signed plain]
    split
    · rw [readInstant_signed ms _ fun rest => rfl]
      exact ofWidth (-1) 6 _ (by decide) (by omega) (by omega)
    · rw [readInstant_signed ms _ fun rest => rfl]
      exact ofWidth 1 6 _ (by decide) (by omega) (by omega)

theorem ofText_text {timestamp : Timestamp} (writable : timestamp.Writable) :
    ofText timestamp.text = timestamp := by
  unfold ofText
  cases timestamp with
  | instant ms => rw [text, readInstant_toISOString writable.1 writable.2]
  | unreadable text =>
      rw [Timestamp.text, show readInstant text = none from writable]

end Timestamp

/-! ## Documents -/

section Documents

def CustodyAcquisitionMode.text : CustodyAcquisitionMode → String
  | .initial => "initial"
  | .gracefulHandoff => "graceful_handoff"
  | .successorTakeover => "successor_takeover"

def Author.text : Author → String
  | .origin => "origin"
  | .successorReconstructed => "successor_reconstructed"

def TreeState.text : TreeState → String
  | .clean => "clean"
  | .dirty => "dirty"

def WorktreeIdentity.toJson (worktree : WorktreeIdentity) : Json :=
  .object [
    ("worktree_path", .string worktree.worktreePath),
    ("repo_head", .string worktree.repoHead),
    ("tree_fingerprint", .string worktree.treeFingerprint)]

def CustodianIdentity.toJson (custodian : CustodianIdentity) : Json :=
  .object [("actor_name", .string custodian.actorName), ("session_id", .string custodian.sessionId)]

def HandoffRecord.toJson (handoff : HandoffRecord) : Json :=
  .object [
    ("schema_version", .number .one),
    ("authored_by", .string handoff.authoredBy.text),
    ("repo_head", .string handoff.repoHead),
    ("tracked_tree_state", .string handoff.trackedTreeState.text),
    ("untracked_inventory", .array (handoff.untrackedInventory.map .string)),
    ("unfinished_work", .string handoff.unfinishedWork),
    ("hazards", .array (handoff.hazards.map .string)),
    ("next_step", .string handoff.nextStep)]

/-- A field, unless it is undefined. -/
def optionField (name : String) (value : Option Json) : List (String × Json) :=
  (value.map fun value => (name, value)).toList

/-- The fields that `JSON.stringify` writes. -/
def CustodyRecord.fields (record : CustodyRecord) : List (String × Json) :=
  optionField "state" (some (.string record.state.text)) ++
    (optionField "worktree" (some record.worktree.toJson) ++
      (optionField "custodian" (record.custodian.map (·.toJson)) ++
        (optionField "mode" (record.mode.map fun mode => .string mode.text) ++
          (optionField "acquired_at" (record.acquiredAt.map fun time => .string time.text) ++
            (optionField "lease_expires_at"
                (record.leaseExpiresAt.map fun time => .string time.text) ++
              optionField "handoff" (record.handoff.map (·.toJson)))))))

/-- The texts of a record. The order of its fields comes from the record it was made
of. -/
def CustodyRecord.IsText (record : CustodyRecord) (text : String) : Prop :=
  ∃ fields, fields.Perm record.fields ∧ text = (Json.object fields).render

/-! ### The read admission -/

def Json.isObject : Json → Bool
  | .object _ => true
  | _ => false

def isString (value : Json) : Bool := (Json.asString (some value)).isSome

def isNonEmpty (value : Json) : Bool := (Json.asString (some value)).any (· ≠ "")

def readState (document : Json) : Option CustodyState :=
  match document.field "state" with
  | some (.string "unowned") => some .unowned
  | some (.string "held") => some .held
  | some (.string "released") => some .released
  | some (.string "forfeited") => some .forfeited
  | _ => none

def worktreeSchema (value : Json) : Bool :=
  Json.isObject value && (value.field "worktree_path").any isNonEmpty &&
    (value.field "repo_head").any isString && (value.field "tree_fingerprint").any isString

def custodianSchema (value : Json) : Bool :=
  Json.isObject value && (value.field "actor_name").any isString &&
    (value.field "session_id").any isString

/-- A handoff with a list of hazards that is admitted again. -/
def isStoredHandoff (handoff : Json) : Bool :=
  (match handoff.field "hazards" with
    | some (.array _) => true
    | _ => false) &&
    match admitHandoffRecord handoff with
    | .ok _ => true
    | _ => false

def storedSchema (document : Json) : Bool :=
  Json.isObject document && (readState document).isSome &&
    (document.field "worktree").any worktreeSchema &&
    (document.field "custodian").all custodianSchema &&
    (document.field "lease_expires_at").all isString &&
    (readState document != some .held || (document.field "custodian").isSome) &&
    (readState document != some .held || (document.field "lease_expires_at").isSome) &&
    (readState document != some .released || (document.field "handoff").isSome) &&
    (document.field "handoff").all isStoredHandoff

/-- `parseStored`; `none` is a corrupt text. -/
def parseText (text : String) : Option Json := (Json.parse text).filter storedSchema

/-! ### The record of a document -/

/-- A field that may be undefined. -/
def optional {α : Type} (read : Json → Option α) : Option Json → Option (Option α)
  | none => some none
  | some value => (read value).map some

def readText (document : Json) (name : String) : Option String :=
  Json.asString (document.field name)

def readWorktree (value : Json) : Option WorktreeIdentity := do
  let worktreePath ← readText value "worktree_path"
  let repoHead ← readText value "repo_head"
  let treeFingerprint ← readText value "tree_fingerprint"
  pure { worktreePath, repoHead, treeFingerprint }

def readCustodian (value : Json) : Option CustodianIdentity := do
  let actorName ← readText value "actor_name"
  let sessionId ← readText value "session_id"
  pure { actorName, sessionId }

def readMode : Json → Option CustodyAcquisitionMode
  | .string "initial" => some .initial
  | .string "graceful_handoff" => some .gracefulHandoff
  | .string "successor_takeover" => some .successorTakeover
  | _ => none

def readTime (value : Json) : Option Timestamp :=
  (Json.asString (some value)).map Timestamp.ofText

def readHandoff (value : Json) : Option HandoffRecord :=
  match admitHandoffRecord value with
  | .ok handoff => some handoff
  | _ => none

/-- A document as a record, by the names of its fields. -/
def readRecordFields (document : Json) : Option CustodyRecord := do
  let state ← readState document
  let worktree ← (document.field "worktree").bind readWorktree
  let custodian ← optional readCustodian (document.field "custodian")
  let mode ← optional readMode (document.field "mode")
  let acquiredAt ← optional readTime (document.field "acquired_at")
  let leaseExpiresAt ← optional readTime (document.field "lease_expires_at")
  let handoff ← optional readHandoff (document.field "handoff")
  pure { state, worktree, custodian, mode, acquiredAt, leaseExpiresAt, handoff }

end Documents

/-! ## Round trips -/

section RoundTrips

variable {record : CustodyRecord} {fields : List (String × Json)} {name : String}

theorem lookup_eq_some_iff (nodup : (fields.map Prod.fst).Nodup) {value : Json} :
    fields.lookup name = some value ↔ (name, value) ∈ fields := by
  induction fields with
  | nil => simp
  | cons first rest induction =>
      rcases first with ⟨other, found⟩
      rw [List.map_cons, List.nodup_cons] at nodup
      rw [List.lookup_cons]
      by_cases same : name = other
      · subst same
        have absent : (name, value) ∉ rest := fun member =>
          nodup.1 (List.mem_map.mpr ⟨_, member, rfl⟩)
        simp [absent, eq_comm]
      · have skipped : (name == other) = false := beq_eq_false_iff_ne.mpr same
        simp [skipped, same, induction nodup.2]

theorem names_optionField (name : String) (value : Option Json) :
    ((optionField name value).map Prod.fst).Sublist [name] := by
  cases value with
  | none => exact List.nil_sublist _
  | some value => exact List.Sublist.refl _

theorem names_nodup (record : CustodyRecord) : (record.fields.map Prod.fst).Nodup := by
  have names : ["state", "worktree", "custodian", "mode", "acquired_at", "lease_expires_at",
      "handoff"].Nodup := by decide
  apply List.Sublist.nodup _ names
  simp only [CustodyRecord.fields, List.map_append]
  exact (names_optionField _ _).append ((names_optionField _ _).append
    ((names_optionField _ _).append ((names_optionField _ _).append
      ((names_optionField _ _).append ((names_optionField _ _).append (names_optionField _ _))))))

/-- The order of the fields does not matter to a reader. -/
theorem field_of_perm (perm : fields.Perm record.fields) (name : String) :
    (Json.object fields).field name = record.fields.lookup name := by
  have nodup : (fields.reverse.map Prod.fst).Nodup := by
    rw [List.map_reverse, List.nodup_reverse]
    exact (perm.map Prod.fst).nodup_iff.mpr (names_nodup record)
  apply Option.ext
  intro value
  rw [Json.field, lookup_eq_some_iff nodup, lookup_eq_some_iff (names_nodup record),
    List.mem_reverse, perm.mem_iff]

theorem lookup_optionField (name other : String) (value : Option Json) :
    (optionField name value).lookup other = if other = name then value else none := by
  cases value with
  | none => simp [optionField]
  | some value =>
      by_cases same : other = name
      · simp [optionField, same]
      · have skipped : (other == name) = false := beq_eq_false_iff_ne.mpr same
        simp [optionField, List.lookup_cons, skipped, same]

/-- What a reader finds under the names of the fields. -/
structure HasFields (record : CustodyRecord) (document : Json) : Prop where
  state : document.field "state" = some (.string record.state.text)
  worktree : document.field "worktree" = some record.worktree.toJson
  custodian : document.field "custodian" = record.custodian.map (·.toJson)
  mode : document.field "mode" = record.mode.map fun mode => .string mode.text
  acquiredAt : document.field "acquired_at" = record.acquiredAt.map fun time => .string time.text
  leaseExpiresAt : document.field "lease_expires_at" =
    record.leaseExpiresAt.map fun time => .string time.text
  handoff : document.field "handoff" = record.handoff.map (·.toJson)

theorem hasFields_of_perm (perm : fields.Perm record.fields) :
    HasFields record (.object fields) := by
  constructor <;> rw [field_of_perm perm] <;>
    simp [CustodyRecord.fields, List.lookup_append, lookup_optionField]

/-! ### Handoffs -/

theorem stringArray_strings (entries : List String) :
    stringArray (.array (entries.map .string)) = some entries := by
  induction entries with
  | nil => rfl
  | cons entry rest induction =>
      rw [stringArray] at induction ⊢
      rw [List.map_cons, List.mapM_cons, induction]
      rfl

section Handoff

variable (handoff : HandoffRecord)

theorem handoff_repoHead :
    handoff.toJson.field "repo_head" = some (.string handoff.repoHead) := rfl

theorem handoff_inventory : handoff.toJson.field "untracked_inventory" =
    some (.array (handoff.untrackedInventory.map .string)) := rfl

theorem handoff_hazards :
    handoff.toJson.field "hazards" = some (.array (handoff.hazards.map .string)) := rfl

theorem handoff_unfinishedWork :
    handoff.toJson.field "unfinished_work" = some (.string handoff.unfinishedWork) := rfl

theorem handoff_nextStep :
    handoff.toJson.field "next_step" = some (.string handoff.nextStep) := rfl

theorem isVersionOne_toJson : isVersionOne handoff.toJson = true := rfl

theorem readTreeState_toJson : readTreeState handoff.toJson = some handoff.trackedTreeState := by
  rcases handoff with ⟨authoredBy, repoHead, _ | _, inventory, work, hazards, nextStep⟩ <;> rfl

theorem readAuthor_toJson : readAuthor handoff.toJson = some handoff.authoredBy := by
  rcases handoff with ⟨_ | _, repoHead, treeState, inventory, work, hazards, nextStep⟩ <;> rfl

end Handoff

theorem nonEmptyField_of_field {document : Json} {text : String}
    (isField : document.field name = some (.string text)) (nonEmpty : text ≠ "") :
    nonEmptyField document name = some text := by
  rw [nonEmptyField, isField]
  exact if_neg nonEmpty

theorem isEmptyInventory_strings (entries : List String) :
    isEmptyInventory (some (.array (entries.map .string))) = (entries == []) := by
  cases entries <;> rfl

/-- A stored handoff is admitted again as it is. -/
theorem admitHandoffRecord_toJson {handoff : HandoffRecord} (stored : handoff.isStored = true) :
    admitHandoffRecord handoff.toJson = .ok handoff := by
  simp only [HandoffRecord.isStored, Bool.and_eq_true, Bool.or_eq_true, bne_iff_ne, beq_iff_eq,
    Bool.not_eq_true', List.contains_eq_mem, decide_eq_false_iff_not] at stored
  rcases stored with ⟨⟨⟨⟨head, tree⟩, inventory⟩, work⟩, next⟩
  have entries : inventoryEntries (handoff.toJson.field "untracked_inventory") =
      some handoff.untrackedInventory := by
    rw [handoff_inventory, inventoryEntries, Option.bind_some, stringArray_strings]
    exact if_neg inventory
  have listed : hazardEntries (handoff.toJson.field "hazards") = some (some handoff.hazards) := by
    rw [handoff_hazards, hazardEntries, stringArray_strings]
    rfl
  have full : ¬(handoff.trackedTreeState = .dirty ∧
      isEmptyInventory (handoff.toJson.field "untracked_inventory") = true) := by
    rintro ⟨dirty, empty⟩
    rw [handoff_inventory, isEmptyInventory_strings, beq_iff_eq] at empty
    rcases tree with clean | nonEmpty
    · rw [clean] at dirty
      cases dirty
    · exact nonEmpty empty
  rw [admitHandoffRecord, isVersionOne_toJson, if_neg (by decide),
    nonEmptyField_of_field (handoff_repoHead handoff) head]
  dsimp only
  rw [readTreeState_toJson]
  dsimp only
  rw [if_neg full, entries, listed]
  dsimp only
  rw [nonEmptyField_of_field (handoff_unfinishedWork handoff) work]
  dsimp only
  rw [readAuthor_toJson]
  dsimp only
  rw [nonEmptyField_of_field (handoff_nextStep handoff) next]

theorem isStoredHandoff_toJson {handoff : HandoffRecord} (stored : handoff.isStored = true) :
    isStoredHandoff handoff.toJson = true := by
  rw [isStoredHandoff, admitHandoffRecord_toJson stored, handoff_hazards]
  rfl

/-! ### Records -/

theorem readState_of_hasFields {document : Json} (has : HasFields record document) :
    readState document = some record.state := by
  rw [readState, has.state]
  cases record.state <;> rfl

theorem worktreeSchema_toJson {worktree : WorktreeIdentity} (named : worktree.worktreePath ≠ "") :
    worktreeSchema worktree.toJson = true := by
  have path : isNonEmpty (.string worktree.worktreePath) = true := by
    simp [isNonEmpty, Json.asString, named]
  rw [worktreeSchema, show worktree.toJson.field "worktree_path" =
    some (.string worktree.worktreePath) from rfl, Option.any_some, path]
  rfl

/-- A record that the read admission lets pass, with the times it can have. -/
structure CustodyRecord.Readable (record : CustodyRecord) : Prop where
  named : record.worktree.worktreePath ≠ ""
  custodian : record.state = .held → record.custodian.isSome
  lease : record.state = .held → record.leaseExpiresAt.isSome
  released : record.state = .released → record.handoff.isSome
  handoff : ∀ handoff ∈ record.handoff, handoff.isStored = true
  times : (∀ time ∈ record.acquiredAt, time.Writable) ∧
    ∀ time ∈ record.leaseExpiresAt, time.Writable

theorem storedSchema_of_hasFields (readable : record.Readable)
    (has : HasFields record (.object fields)) : storedSchema (.object fields) = true := by
  rw [storedSchema, readState_of_hasFields has, has.worktree, has.custodian, has.leaseExpiresAt,
    has.handoff]
  simp only [Bool.and_eq_true, Bool.or_eq_true]
  refine ⟨⟨⟨⟨⟨⟨⟨⟨rfl, rfl⟩, ?_⟩, ?_⟩, ?_⟩, ?_⟩, ?_⟩, ?_⟩, ?_⟩
  · exact worktreeSchema_toJson readable.named
  · cases record.custodian <;> rfl
  · cases record.leaseExpiresAt <;> rfl
  · by_cases held : record.state = .held
    · right
      simpa using readable.custodian held
    · left
      simpa using held
  · by_cases held : record.state = .held
    · right
      simpa using readable.lease held
    · left
      simpa using held
  · by_cases released : record.state = .released
    · right
      simpa using readable.released released
    · left
      simpa using released
  · have handoffs := readable.handoff
    cases isHandoff : record.handoff with
    | none => rfl
    | some handoff => exact isStoredHandoff_toJson (handoffs handoff isHandoff)

theorem optional_map {α : Type} {read : Json → Option α} {write : α → Json} {value : Option α}
    (reads : ∀ found ∈ value, read (write found) = some found) :
    optional read (value.map write) = some value := by
  cases value with
  | none => rfl
  | some found => rw [Option.map_some, optional, reads found rfl, Option.map_some]

theorem readTime_text {time : Timestamp} (writable : time.Writable) :
    readTime (.string time.text) = some time := by
  rw [readTime, Json.asString, Option.map_some, Timestamp.ofText_text writable]

theorem readRecordFields_of_hasFields (readable : record.Readable)
    (has : HasFields record (.object fields)) :
    readRecordFields (.object fields) = some record := by
  have custodians : ∀ custodian ∈ record.custodian,
      readCustodian custodian.toJson = some custodian := fun _ _ => rfl
  have modes : ∀ mode ∈ record.mode, readMode (.string mode.text) = some mode := by
    intro mode _
    cases mode <;> rfl
  have handoffs : ∀ handoff ∈ record.handoff, readHandoff handoff.toJson = some handoff := by
    intro handoff member
    rw [readHandoff, admitHandoffRecord_toJson (readable.handoff handoff member)]
  rw [readRecordFields, readState_of_hasFields has, has.worktree, has.custodian, has.mode,
    has.acquiredAt, has.leaseExpiresAt, has.handoff, optional_map custodians,
    optional_map modes,
    optional_map fun time member => readTime_text (readable.times.1 time member),
    optional_map fun time member => readTime_text (readable.times.2 time member),
    optional_map handoffs]
  rfl

/-- Every text of a readable record is read back as the record. -/
theorem parseText_of_isText {text : String} (readable : record.Readable)
    (isText : record.IsText text) :
    ∃ document, parseText text = some document ∧ readRecordFields document = some record := by
  rcases isText with ⟨fields, perm, rfl⟩
  have has := hasFields_of_perm perm
  refine ⟨.object fields, ?_, readRecordFields_of_hasFields readable has⟩
  rw [parseText, Json.parse_render, Option.filter_some, storedSchema_of_hasFields readable has]
  rfl

end RoundTrips

end GptQueue.Custody
