import GptQueue.Foundation.JsValue

/-! # Worktree custody

How a session acquires a worktree, records a handoff, loses it when its lease ends,
and how a successor takes over. Nothing here reads a clock or a store.
-/

namespace GptQueue.Custody

/-! ## Timestamps -/

/-- A timestamp text: the ISO text of an instant in milliseconds, or a text that
`Date.parse` does not read. -/
inductive Timestamp
  | instant (ms : Int)
  | unreadable (text : String)
deriving DecidableEq

namespace Timestamp

/-- `Date.parse`; `none` is `NaN`. -/
def parse : Timestamp → Option Int
  | .instant ms => some ms
  | .unreadable _ => none

def isEmpty : Timestamp → Bool
  | .instant _ => false
  | .unreadable text => text == ""

/-- The largest time value of a `Date`. -/
def maxTime : Int := 8640000000000000

/-- `new Date(ms).toISOString()`, which throws outside the range of a `Date`. -/
def toISOString (ms : Int) : Option Timestamp :=
  if -maxTime ≤ ms ∧ ms ≤ maxTime then some (.instant ms) else none

theorem parse_of_toISOString {ms : Int} {text : Timestamp} (made : toISOString ms = some text) :
    text = .instant ms := by
  unfold toISOString at made
  split at made
  · exact (Option.some.inj made).symm
  · cases made

end Timestamp

/-! ## Records -/

inductive CustodyState
  | unowned
  | held
  | released
  | forfeited
deriving DecidableEq

def CustodyState.text : CustodyState → String
  | .unowned => "unowned"
  | .held => "held"
  | .released => "released"
  | .forfeited => "forfeited"

theorem CustodyState.text_injective : Function.Injective CustodyState.text := by
  intro left right same
  cases left <;> cases right <;> first | rfl | exact absurd same (by decide)

/-- How a worktree was acquired: unowned, released or forfeited before. -/
inductive CustodyAcquisitionMode
  | initial
  | gracefulHandoff
  | successorTakeover
deriving DecidableEq

structure CustodianIdentity where
  actorName : String
  sessionId : String
deriving DecidableEq

structure WorktreeIdentity where
  worktreePath : String
  repoHead : String
  treeFingerprint : String
deriving DecidableEq

inductive Author
  | origin
  | successorReconstructed
deriving DecidableEq

inductive TreeState
  | clean
  | dirty
deriving DecidableEq

structure HandoffRecord where
  authoredBy : Author
  repoHead : String
  trackedTreeState : TreeState
  untrackedInventory : List String
  unfinishedWork : String
  hazards : List String
  nextStep : String
deriving DecidableEq

structure CustodyRecord where
  state : CustodyState
  worktree : WorktreeIdentity
  custodian : Option CustodianIdentity
  mode : Option CustodyAcquisitionMode
  acquiredAt : Option Timestamp
  leaseExpiresAt : Option Timestamp
  handoff : Option HandoffRecord
deriving DecidableEq

/-- The session that a record names. -/
def CustodyRecord.session (record : CustodyRecord) : Option String :=
  record.custodian.map (·.sessionId)

/-- The instant at which a record's lease ends. -/
def CustodyRecord.leaseEnd (record : CustodyRecord) : Option Int :=
  record.leaseExpiresAt.bind Timestamp.parse

/-! ## Admission of a handoff -/

inductive CustodyErrorCode
  | invalidVersion
  | missingHead
  | invalidTreeState
  | dirtyTreeWithoutInventory
  | invalidInventory
  | missingUnfinishedWork
  | invalidAuthoredBy
  | missingNextStep
  | alreadyHeld
  | forfeitedRequiresTakeover
  | invalidCustodian
  | takeoverRequiresInventory
  | takeoverRequiresForfeited
  | notHeld
  | invalidTimestamp
  | notCustodian
deriving DecidableEq

structure CustodyError where
  code : CustodyErrorCode
  message : String
deriving DecidableEq

/-- A handoff is admitted, refused, or makes the admission throw. -/
inductive HandoffAdmission
  | ok (handoff : HandoffRecord)
  | refused (error : CustodyError)
  | throws

/-- The strings of an array of strings. -/
def stringArray : Json → Option (List String)
  | .array items => items.mapM fun
      | .string text => some text
      | _ => none
  | _ => none

/-- A non-empty string field. -/
def nonEmptyField (input : Json) (name : String) : Option String :=
  match input.field name with
  | some (.string text) => if text = "" then none else some text
  | _ => none

def isEmptyInventory : Option Json → Bool
  | none => true
  | some .null => true
  | some (.array []) => true
  | _ => false

/-- The entries of an inventory, unless it is malformed. -/
def inventoryEntries (inventory : Option Json) : Option (List String) :=
  match inventory.bind stringArray with
  | some entries => if "" ∈ entries then none else some entries
  | none => none

/-- The hazards as the admission sees them: malformed, absent, or a list. -/
def hazardEntries : Option Json → Option (Option (List String))
  | none => some none
  | some value => (stringArray value).map some

def readTreeState (input : Json) : Option TreeState :=
  match input.field "tracked_tree_state" with
  | some (.string "clean") => some .clean
  | some (.string "dirty") => some .dirty
  | _ => none

def readAuthor (input : Json) : Option Author :=
  match input.field "authored_by" with
  | some (.string "origin") => some .origin
  | some (.string "successor_reconstructed") => some .successorReconstructed
  | _ => none

/-- Whether `schema_version` is the number one. -/
def isVersionOne (input : Json) : Bool :=
  match input.field "schema_version" with
  | some (.number token) => JsValue.isOne token
  | _ => false

def handoffInvalid (code : CustodyErrorCode) (message : String) : HandoffAdmission :=
  .refused ⟨code, message⟩

def admitHandoffRecord (input : Json) : HandoffAdmission :=
  if !isVersionOne input then
    handoffInvalid .invalidVersion "schema_version must be exactly 1"
  else match nonEmptyField input "repo_head" with
  | none => handoffInvalid .missingHead "repo_head must be a non-empty commit sha"
  | some repoHead =>
  match readTreeState input with
  | none => handoffInvalid .invalidTreeState "tracked_tree_state must be clean or dirty"
  | some trackedTreeState =>
  if trackedTreeState = .dirty ∧ isEmptyInventory (input.field "untracked_inventory") then
    handoffInvalid .dirtyTreeWithoutInventory "a dirty tree must include an untracked inventory"
  else match inventoryEntries (input.field "untracked_inventory"),
      hazardEntries (input.field "hazards") with
  | some untrackedInventory, some listed =>
      match nonEmptyField input "unfinished_work" with
      | none => handoffInvalid .missingUnfinishedWork "unfinished_work must be a non-empty note"
      | some unfinishedWork =>
      match readAuthor input with
      | none => handoffInvalid .invalidAuthoredBy
          "authored_by must be origin or successor_reconstructed"
      | some authoredBy =>
      match nonEmptyField input "next_step" with
      | none => handoffInvalid .missingNextStep "next_step must be a non-empty instruction"
      | some nextStep =>
      match listed with
      -- freezing spreads the absent list
      | none => .throws
      | some hazards => .ok
          { authoredBy, repoHead, trackedTreeState, untrackedInventory, unfinishedWork, hazards,
            nextStep }
  | _, _ => handoffInvalid .invalidInventory
      "untracked_inventory and hazards must be arrays of non-empty strings"

/-- What the read admission asks of a stored handoff. -/
def HandoffRecord.isStored (handoff : HandoffRecord) : Bool :=
  handoff.repoHead != "" && (handoff.trackedTreeState == .clean || handoff.untrackedInventory != [])
    && !handoff.untrackedInventory.contains "" && handoff.unfinishedWork != ""
    && handoff.nextStep != ""

/-! ## Transitions -/

def createCustody (worktree : WorktreeIdentity) : CustodyRecord :=
  ⟨.unowned, worktree, none, none, none, none, none⟩

/-- The handoff of a release has been admitted already. -/
inductive CustodyEvent
  | claim (custodian : CustodianIdentity) (leaseExpiresAt : Timestamp) (acquiredAt : Timestamp)
  | assume (custodian : CustodianIdentity) (leaseExpiresAt : Timestamp) (inventory : List String)
      (acquiredAt : Timestamp)
  | release (handoff : HandoffRecord)
  | expire (now : Timestamp)

def isValidCustodian (custodian : CustodianIdentity) : Bool :=
  custodian.actorName != "" && custodian.sessionId != ""

def isValidInventory (inventory : List String) : Bool :=
  inventory != [] && inventory.all (· != "")

abbrev Transition := Except CustodyError CustodyRecord

def invalid (code : CustodyErrorCode) (message : String) : Transition := .error ⟨code, message⟩

/-- The text for the holder of a record. -/
def heldBy (record : CustodyRecord) : String :=
  "worktree is already held by " ++
    match record.custodian with
    | some custodian => custodian.actorName
    | none => "an unknown custodian"

/-- The record held by a custodian. -/
def CustodyRecord.hold (record : CustodyRecord) (custodian : CustodianIdentity)
    (mode : CustodyAcquisitionMode) (leaseExpiresAt acquiredAt : Timestamp) : CustodyRecord :=
  { record with
    state := .held
    custodian := some custodian
    mode := some mode
    leaseExpiresAt := some leaseExpiresAt
    acquiredAt := some acquiredAt }

/-- The record without its custodian. -/
def CustodyRecord.vacate (record : CustodyRecord) (state : CustodyState) : CustodyRecord :=
  { record with state, custodian := none, mode := none, acquiredAt := none, leaseExpiresAt := none }

def transitionCustody (record : CustodyRecord) : CustodyEvent → Transition
  | .claim custodian leaseExpiresAt acquiredAt =>
      match record.state with
      | .held => invalid .alreadyHeld (heldBy record)
      | .forfeited => invalid .forfeitedRequiresTakeover
          "a forfeited worktree may only be reclaimed via successor takeover"
      | state =>
          if !isValidCustodian custodian || leaseExpiresAt.isEmpty || acquiredAt.isEmpty then
            invalid .invalidCustodian
              "claim requires a non-empty custodian identity and lease timestamp"
          else
            .ok (record.hold custodian (if state = .released then .gracefulHandoff else .initial)
              leaseExpiresAt acquiredAt)
  | .assume custodian leaseExpiresAt inventory acquiredAt =>
      if record.state ≠ .forfeited then
        invalid .takeoverRequiresForfeited "successor takeover requires a forfeited worktree"
      else if !isValidCustodian custodian || leaseExpiresAt.isEmpty || acquiredAt.isEmpty then
        invalid .invalidCustodian
          "takeover requires a non-empty custodian identity and lease timestamp"
      else if !isValidInventory inventory then
        invalid .takeoverRequiresInventory
          "successor takeover requires a non-empty inventory of non-empty strings"
      else .ok (record.hold custodian .successorTakeover leaseExpiresAt acquiredAt)
  | .release handoff =>
      if record.state ≠ .held then
        invalid .notHeld "cannot release a worktree that is not held"
      else .ok { record.vacate .released with handoff := some handoff }
  | .expire now =>
      if record.state ≠ .held then .ok record
      else match record.leaseExpiresAt with
      | none => invalid .invalidTimestamp "a held worktree must carry a lease expiry timestamp"
      | some lease =>
          match now.parse, lease.parse with
          | some nowMs, some leaseMs =>
              if nowMs ≤ leaseMs then .ok record else .ok (record.vacate .forfeited)
          | _, _ => invalid .invalidTimestamp "lease comparison requires parseable ISO timestamps"

end GptQueue.Custody
