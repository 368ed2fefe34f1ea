import GptQueue.Diagnostics.Report
import GptQueue.Diagnostics.WorkerPool
import GptQueue.Sessions.PresenceBatch

/-! # Searching the registry

`find` applies its filters to a few stored values of each name and reports in full only on
the page it returns. It agrees with the filters on the full reports where every key can be
read, and where a name without a readable registration has nothing else stored under it that
matters to the filters.
-/

namespace GptQueue.Diagnostics

open Redis
open GptQueue.Registration

/-! ## The page -/

/-- A number; the schema of `find_agents` refuses `NaN`. -/
inductive Number
  | finite (value : ℚ)
  | infinity
  | minusInfinity

/-- `Math.min(100, Math.max(1, Math.floor(limit ?? 50)))`. -/
def pageLimit : Option Number → Nat
  | none => 50
  | some (.finite value) => (min 100 (max 1 ⌊value⌋)).toNat
  | some .infinity => 100
  | some .minusInfinity => 1

theorem pageLimit_range (limit : Option Number) : 1 ≤ pageLimit limit ∧ pageLimit limit ≤ 100 := by
  cases limit with
  | none => decide
  | some number =>
      cases number with
      | finite value =>
          simp only [pageLimit]
          omega
      | infinity => decide
      | minusInfinity => decide

theorem pageLimit_finite {value : ℚ} (low : 1 ≤ value) (high : value < 101) :
    (pageLimit (some (.finite value)) : ℤ) = ⌊value⌋ := by
  have above : 1 ≤ ⌊value⌋ := Int.le_floor.mpr (by exact_mod_cast low)
  have below : ⌊value⌋ < 101 := Int.floor_lt.mpr (by exact_mod_cast high)
  simp only [pageLimit]
  omega

/-! ## The names -/

/-- A key that `Object.keys` orders as a number. -/
def isArrayIndex (name : String) : Bool :=
  Decimal.isCanonical name.toList && decide (Decimal.value name.toList < 2 ^ 32 - 1)

/-- `Object.keys`: the array indices in ascending order, then the others as they come. -/
def objectKeys (names : List String) : List String :=
  (names.filter isArrayIndex).insertionSort
      (fun left right => Decimal.value left.toList ≤ Decimal.value right.toList) ++
    names.filter fun name => !isArrayIndex name

theorem mem_objectKeys {names : List String} {name : String} :
    name ∈ objectKeys names ↔ name ∈ names := by
  unfold objectKeys
  rw [List.mem_append, List.mem_insertionSort, List.mem_filter, List.mem_filter]
  cases isArrayIndex name <;> simp

section Find

variable (host : Host) (live : String → Bool) (keyspace : Keyspace Key)

def registryNames : List String := objectKeys ((keyspace.fields .registry).entries.map Sigma.fst)

inductive Resolution
  | unique
  | ambiguous
  | none
deriving DecidableEq, Repr

structure Found where
  page : List Details
  totalMatches : Nat
  truncated : Bool
  resolution : Resolution
deriving DecidableEq, Repr

def resolutionOf (total : Nat) : Resolution :=
  if total = 1 then .unique else if 1 < total then .ambiguous else .none

/-- The names that `totalMatches` counts; `none` when a read is refused. -/
def matchedNames (filters : Filters) : Option (List String) := do
  let names ← replied keyspace .registry (registryNames keyspace)
  let matched ← names.mapM (finds host live keyspace filters)
  some (((names.zip matched).filter Prod.snd).map Prod.fst)

def find (filters : Filters) (limit : Option Number) : Option Found := do
  let names ← matchedNames host live keyspace filters
  let page ← (names.take (pageLimit limit)).mapM (details host live keyspace)
  some
    { page
      totalMatches := names.length
      truncated := decide (pageLimit limit < names.length)
      resolution := resolutionOf names.length }

/-! ## The filters on a report -/

structure Fields where
  texts : List String
  client : Option HostClient
  workingDirectory : Option String
  kind : AgentKind
  activationReady : Option Bool
  online : Bool

def Filters.directory (filters : Filters) : Option String :=
  filters.workingDirectory.or filters.cwd

def Filters.occurs (filters : Filters) (texts : List String) : Bool :=
  (filters.query.map host.toLowerCase).all fun query =>
    decide (CodeUnits.codeUnits query <:+:
      CodeUnits.codeUnits (host.toLowerCase (" ".intercalate texts)))

def Filters.accept (filters : Filters) (fields : Fields) : Bool :=
  filters.occurs host fields.texts &&
  (filters.client.all fun wanted => fields.client == some wanted) &&
  (filters.directory.all fun wanted => sameDirectory host fields.workingDirectory wanted) &&
  (filters.kind.all fun wanted => fields.kind == wanted) &&
  (filters.activationReady.all fun wanted => fields.activationReady == some wanted) &&
  (filters.online.all fun wanted => fields.online == wanted)

/-- The fields of a report: the binding goes before the discovery record. -/
def Details.fields (report : Details) : Fields where
  texts := [report.name] ++ (report.discovery.map Discovery.label).toList ++
    (report.profile.bind Profile.label).toList ++ (report.profile.bind Profile.purpose).toList
  client := (report.runtimeBinding.map Binding.client).or
    (report.discovery.bind Discovery.client)
  workingDirectory := (report.runtimeBinding.map Binding.workingDirectory).or
    (report.discovery.bind Discovery.workingDirectory)
  kind := (report.profile.map Profile.kind).getD .unknown
  activationReady := report.activationReady
  online := report.online

def acceptedNames (filters : Filters) : List String :=
  (registryNames keyspace).filter fun name =>
    (details host live keyspace name).any fun report => filters.accept host report.fields

/-- A search agrees with the filters on the reports. -/
structure Agrees (filters : Filters) (limit : Option Number) : Prop where
  names : matchedNames host live keyspace filters =
    some (acceptedNames host live keyspace filters)
  result : ∃ page,
    ((acceptedNames host live keyspace filters).take (pageLimit limit)).map
        (details host live keyspace) = page.map some ∧
      find host live keyspace filters limit = some
        { page
          totalMatches := (acceptedNames host live keyspace filters).length
          truncated :=
            decide (pageLimit limit < (acceptedNames host live keyspace filters).length)
          resolution := resolutionOf (acceptedNames host live keyspace filters).length }

/-! ## When they agree -/

def Filters.searchedKeys (filters : Filters) (name : String) : List Key :=
  (if filters.query.isSome || filters.kind.isSome then [.agentProfile name] else []) ++
    (if filters.client.isSome || filters.directory.isSome || filters.activationReady.isSome then
      [.runtimeBinding name] else []) ++
    if filters.online.isSome || filters.activationReady.isSome then [.agentSessions name] else []

def searchFields (name : String) (reg profileRaw : List (String × Json))
    (binding : Option Binding) (online : Bool) : Fields :=
  let discovery := discoveryRecord host name reg false
  { texts := [name, discovery.label] ++ (textField profileRaw "label").toList ++
      (textField profileRaw "purpose").toList
    client := (binding.map Binding.client).or discovery.client
    workingDirectory := (binding.map Binding.workingDirectory).or discovery.workingDirectory
    kind := kind profileRaw
    activationReady :=
      (deriveReadiness online binding (published host (metadataOf reg))).activationReady
    online }

def storedFields (name : String) : Fields :=
  searchFields host name (registryRecord keyspace name)
    (record (json (keyspace.text (.agentProfile name))))
    (safeBinding (keyspace.text (.runtimeBinding name))) (present live keyspace name)

/-! The report on a name without a readable registration is that of an unknown agent,
whatever else is stored under the name. -/

/-- The texts of a name that is its own label. -/
def strayTexts (name : String) : List String :=
  let profile := record (json (keyspace.text (.agentProfile name)))
  [name, name] ++ (textField profile "label").toList ++ (textField profile "purpose").toList

def strayBinding (name : String) : Option Binding :=
  safeBinding (keyspace.text (.runtimeBinding name))

def strayKind (name : String) : AgentKind :=
  kind (record (json (keyspace.text (.agentProfile name))))

/-- The filters ask for something that an unknown agent does not have. -/
def Filters.AskMore (filters : Filters) (name : String) : Prop :=
  filters.occurs host [name] = false ∨ filters.client ≠ none ∨ filters.directory ≠ none ∨
    (∃ wanted ∈ filters.kind, wanted ≠ .unknown) ∨ filters.activationReady = some true ∨
    filters.online = some true

/-- What else is stored under the name has all that the filters ask for. -/
structure Filters.Meet (filters : Filters) (name : String) : Prop where
  query : filters.occurs host (strayTexts keyspace name) = true
  client : ∀ wanted ∈ filters.client, (strayBinding keyspace name).map Binding.client = some wanted
  directory : ∀ wanted ∈ filters.directory,
    sameDirectory host ((strayBinding keyspace name).map Binding.workingDirectory) wanted = true
  kind : ∀ wanted ∈ filters.kind, strayKind keyspace name = wanted
  unready : ∀ wanted ∈ filters.activationReady,
    wanted = false ∧ ¬(present live keyspace name = true ∧ strayBinding keyspace name ≠ none)
  online : ∀ wanted ∈ filters.online, present live keyspace name = wanted

/-- What else is stored under the name is what filters for an unknown agent ask for. -/
structure Filters.Spare (filters : Filters) (name : String) : Prop where
  query : filters.occurs host (strayTexts keyspace name) = true
  kind : filters.kind ≠ none → strayKind keyspace name = .unknown
  unready : filters.activationReady ≠ none →
    ¬(present live keyspace name = true ∧ strayBinding keyspace name ≠ none)
  offline : filters.online ≠ none → present live keyspace name = false

/-- The keys that are read can be read, and what is left under a name without a readable
registration does not matter to the filters. -/
structure Consistent (filters : Filters) : Prop where
  registry : keyspace.admits .registry .hash = true
  searched : ∀ name ∈ registryNames keyspace, Admitted keyspace (filters.searchedKeys name)
  reported : ∀ name ∈ registryNames keyspace, registryRecord keyspace name ≠ [] →
    filters.accept host (storedFields host live keyspace name) = true →
      Admitted keyspace (reportedKeys name)
  unmet : ∀ name ∈ registryNames keyspace, registryRecord keyspace name = [] →
    filters.AskMore host name → ¬filters.Meet host live keyspace name
  spared : ∀ name ∈ registryNames keyspace, registryRecord keyspace name = [] →
    ¬filters.AskMore host name → filters.Spare host live keyspace name

end Find

section Replies

theorem mapM_eq_map {Item Reply : Type} {read : Item → Option Reply} {reply : Item → Reply}
    {items : List Item} (answered : ∀ item ∈ items, read item = some (reply item)) :
    items.mapM read = some (items.map reply) := by
  induction items with
  | nil => rfl
  | cons item rest induction =>
      rw [List.mapM_cons, answered item List.mem_cons_self,
        induction fun other member => answered other (List.mem_cons_of_mem _ member)]
      rfl

theorem answered_of_mapM {Item Reply : Type} {read : Item → Option Reply} {items : List Item}
    {replies : List Reply} (answered : items.mapM read = some replies) :
    ∀ item ∈ items, ∃ reply, read item = some reply := by
  induction items generalizing replies with
  | nil => exact fun _ member => absurd member List.not_mem_nil
  | cons item rest induction =>
      rw [List.mapM_cons] at answered
      simp only [Option.bind_eq_bind, Option.bind_eq_some_iff] at answered
      rcases answered with ⟨first, head, later, tail, -⟩
      intro other member
      rcases List.mem_cons.mp member with rfl | inside
      · exact ⟨first, head⟩
      · exact induction tail other inside

theorem zip_filter_map {Item : Type} (items : List Item) (keep : Item → Bool) :
    ((items.zip (items.map keep)).filter Prod.snd).map Prod.fst = items.filter keep := by
  induction items with
  | nil => rfl
  | cons item rest induction =>
      rw [List.map_cons, List.zip_cons_cons, List.filter_cons, List.filter_cons]
      cases keep item with
      | true => exact congrArg (item :: ·) induction
      | false => exact induction

end Replies

section Fields

variable {host : Host} {live : String → Bool} {keyspace : Keyspace Key} {filters : Filters}
  {name : String}

/-! ## Reading a name -/

theorem infix_or_empty (query text : String) :
    (query == "" || decide (CodeUnits.codeUnits query <:+: CodeUnits.codeUnits text)) =
      decide (CodeUnits.codeUnits query <:+: CodeUnits.codeUnits text) := by
  by_cases empty : query = ""
  · subst empty
    exact (decide_eq_true List.nil_infix).symm
  · have other : (query == "") = false := beq_false_of_ne empty
    rw [other, Bool.false_or]

theorem passes_eq_accept (reg profileRaw : List (String × Json)) (binding : Option Binding)
    (online : Bool) :
    passes host filters name reg profileRaw binding online =
      filters.accept host (searchFields host name reg profileRaw binding online) := by
  unfold passes Filters.accept Filters.occurs Filters.directory searchFields
  simp only [infix_or_empty]

theorem accept_congr {left right : Fields}
    (texts : filters.query.isSome = true → left.texts = right.texts)
    (client : filters.client.isSome = true → left.client = right.client)
    (directory : filters.directory.isSome = true → left.workingDirectory = right.workingDirectory)
    (kind : filters.kind.isSome = true → left.kind = right.kind)
    (ready : filters.activationReady.isSome = true →
      left.activationReady = right.activationReady)
    (online : filters.online.isSome = true → left.online = right.online) :
    filters.accept host left = filters.accept host right := by
  have all_congr : ∀ {Value : Type} (asked : Option Value) (first second : Value → Bool),
      (asked.isSome = true → first = second) → asked.all first = asked.all second := by
    intro Value asked first second same
    cases asked with
    | none => rfl
    | some value => rw [same rfl]
  unfold Filters.accept
  congr 1
  · congr 1
    · congr 1
      · congr 1
        · congr 1
          · unfold Filters.occurs
            apply all_congr
            intro asked
            rw [texts (Option.isSome_map .. ▸ asked)]
          · exact all_congr _ _ _ fun asked => by rw [client asked]
        · exact all_congr _ _ _ fun asked => by rw [directory asked]
      · exact all_congr _ _ _ fun asked => by rw [kind asked]
    · exact all_congr _ _ _ fun asked => by rw [ready asked]
  · exact all_congr _ _ _ fun asked => by rw [online asked]

theorem searched_of_finds {found : Bool}
    (answered : finds host live keyspace filters name = some found) :
    Admitted keyspace (filters.searchedKeys name) := by
  simp only [finds, readIf, Option.bind_eq_bind, Option.bind_eq_some_iff] at answered
  rcases answered with ⟨reg, -, profile, profileRead, binding, bindingRead, online, onlineRead, -⟩
  intro key member
  rw [Filters.searchedKeys, List.mem_append, List.mem_append] at member
  rcases member with (inside | inside) | inside
  · split at inside
    · next needed =>
        rw [if_pos needed, Option.map_eq_some_iff] at profileRead
        rcases profileRead with ⟨raw, read, -⟩
        cases List.mem_singleton.mp inside
        exact (typed_of_replied read).1
    · cases inside
  · split at inside
    · next needed =>
        rw [Filters.directory] at needed
        rw [if_pos needed, Option.map_eq_some_iff] at bindingRead
        rcases bindingRead with ⟨raw, read, -⟩
        cases List.mem_singleton.mp inside
        exact (typed_of_replied read).1
    · cases inside
  · split at inside
    · next needed =>
        rw [if_pos needed] at onlineRead
        cases List.mem_singleton.mp inside
        exact (typed_of_replied onlineRead).1
    · cases inside

theorem readIf_eq_some {Reply : Type} {needed : Bool} {read : Option Reply} {reply : Reply}
    (otherwise : Reply) (answered : needed = true → read = some reply) :
    readIf needed read otherwise = some (if needed then reply else otherwise) := by
  cases needed with
  | false => rfl
  | true => exact answered rfl

theorem finds_eq_accept (registry : keyspace.admits .registry .hash = true)
    (searched : Admitted keyspace (filters.searchedKeys name)) :
    finds host live keyspace filters name =
      some (filters.accept host (storedFields host live keyspace name)) := by
  have reg : replied keyspace .registry (registryRecord keyspace name) =
      some (registryRecord keyspace name) := replied_typed _ registry
  have profile := @readIf_eq_some _ (filters.query.isSome || filters.kind.isSome)
    ((get keyspace (.agentProfile name)).map fun raw => record (json raw)) _ [] (by
      intro needed
      rw [get_typed (searched _ (by simp [Filters.searchedKeys, needed])), Option.map_some])
  have binding := @readIf_eq_some _ (filters.client.isSome || filters.directory.isSome ||
      filters.activationReady.isSome) ((get keyspace (.runtimeBinding name)).map safeBinding) _
    none (by
      intro needed
      rw [get_typed (searched _ (by simp [Filters.searchedKeys, needed])), Option.map_some])
  have online := @readIf_eq_some _ (filters.online.isSome || filters.activationReady.isSome)
    (isOnline live keyspace name) _ false (by
      intro needed
      exact replied_typed _ (searched _ (by simp [Filters.searchedKeys, needed])))
  rw [Filters.directory] at binding
  simp only [finds, reg, profile, binding, online, Option.bind_eq_bind, Option.bind_some,
    passes_eq_accept]
  apply congrArg some
  apply accept_congr
  · intro asked
    simp only [storedFields, searchFields, asked, Bool.true_or, if_true]
  · intro asked
    simp only [storedFields, searchFields, asked, Bool.true_or, if_true]
  · intro asked
    rw [Filters.directory] at asked
    simp only [storedFields, searchFields, asked, Bool.true_or, Bool.or_true, if_true]
  · intro asked
    simp only [storedFields, searchFields, asked, Bool.or_true, if_true]
  · intro asked
    simp only [storedFields, searchFields, asked, Bool.or_true, if_true]
  · intro asked
    simp only [storedFields, searchFields, asked, Bool.true_or, if_true]

/-! ## Reports -/

theorem fields_describe {reg : List (String × Json)} {online : Bool} {binding : Option Binding}
    {activation : Activation} {raw : Option String} {queued claimed deadLettered : Nat} :
    (describe host name reg online binding activation (safeProfile raw) queued claimed
        deadLettered).fields =
      searchFields host name reg (record (json raw)) binding online := by
  simp only [describe, Details.fields, searchFields, Option.map_some, Option.bind_some,
    Option.toList_some]
  unfold safeProfile
  cases stored : record (json raw) with
  | nil => rfl
  | cons field rest => rfl

def accepted (host : Host) (live : String → Bool) (keyspace : Keyspace Key) (filters : Filters)
    (name : String) : Bool :=
  (details host live keyspace name).any fun report => filters.accept host report.fields

theorem accepted_of_admitted (registry : keyspace.admits .registry .hash = true)
    (readable : registryRecord keyspace name ≠ [])
    (admitted : Admitted keyspace (reportedKeys name)) :
    accepted host live keyspace filters name =
      filters.accept host (storedFields host live keyspace name) := by
  rw [accepted, details_admitted registry admitted readable, Option.any_some, fields_describe]
  rfl

/-- For a registered name the filters decide alike unless they accept a name that cannot be
reported on. -/
theorem accepted_eq_iff (registry : keyspace.admits .registry .hash = true)
    (readable : registryRecord keyspace name ≠ []) :
    filters.accept host (storedFields host live keyspace name) =
        accepted host live keyspace filters name ↔
      (filters.accept host (storedFields host live keyspace name) = true →
        Admitted keyspace (reportedKeys name)) := by
  constructor
  · intro same accept
    rw [same, accepted] at accept
    rcases Option.any_eq_true _ _ |>.mp accept with ⟨report, reported, -⟩
    exact admitted_of_details readable reported
  · intro reported
    cases accept : filters.accept host (storedFields host live keyspace name) with
    | true => rw [accepted_of_admitted registry readable (reported accept), accept]
    | false =>
        cases found : details host live keyspace name with
        | none => rw [accepted, found, Option.any_none]
        | some report =>
            have admitted := admitted_of_details readable found
            rw [accepted_of_admitted registry readable admitted, accept]

/-! ## Names without a readable registration -/

theorem storedFields_stray (stray : registryRecord keyspace name = []) :
    storedFields host live keyspace name =
      { texts := strayTexts keyspace name
        client := (strayBinding keyspace name).map Binding.client
        workingDirectory := (strayBinding keyspace name).map Binding.workingDirectory
        kind := strayKind keyspace name
        activationReady :=
          if present live keyspace name && (strayBinding keyspace name).isSome then none
          else some false
        online := present live keyspace name } := by
  have label : (discoveryRecord host name [] false).label = name := rfl
  have client : (discoveryRecord host name [] false).client = none := rfl
  have directory : (discoveryRecord host name [] false).workingDirectory = none := rfl
  have unpublished : published host (metadataOf []) = false := rfl
  have ready : ∀ (online : Bool) (binding : Option Binding),
      (deriveReadiness online binding false).activationReady =
        if online && binding.isSome then none else some false := by
    intro online binding
    cases online <;> cases binding <;> rfl
  rw [storedFields, stray]
  simp only [searchFields, label, client, directory, unpublished, ready, Option.or_none,
    strayTexts, strayBinding, strayKind]
  rfl

theorem accept_stray_iff (stray : registryRecord keyspace name = []) :
    filters.accept host (storedFields host live keyspace name) = true ↔
      filters.Meet host live keyspace name := by
  have ready : ∀ wanted : Bool,
      (if present live keyspace name = true ∧ (strayBinding keyspace name).isSome = true then none
        else some false) = some wanted ↔
        wanted = false ∧
          ¬(present live keyspace name = true ∧ strayBinding keyspace name ≠ none) := by
    intro wanted
    cases present live keyspace name <;> cases strayBinding keyspace name <;> simp [eq_comm]
  rw [storedFields_stray stray]
  simp only [Filters.accept, Bool.and_eq_true, Option.all_eq_true, beq_iff_eq, ready]
  constructor
  · rintro ⟨⟨⟨⟨⟨query, client⟩, directory⟩, kind⟩, unready⟩, online⟩
    exact ⟨query, client, directory, kind, unready, online⟩
  · rintro ⟨query, client, directory, kind, unready, online⟩
    exact ⟨⟨⟨⟨⟨query, client⟩, directory⟩, kind⟩, unready⟩, online⟩

theorem accepted_stray_iff (registry : keyspace.admits .registry .hash = true)
    (stray : registryRecord keyspace name = []) :
    accepted host live keyspace filters name = true ↔ ¬filters.AskMore host name := by
  have read : replied keyspace .registry (registryRecord keyspace name) =
      some (registryRecord keyspace name) := replied_typed _ registry
  have reported : details host live keyspace name = some (Details.unknown name) := by
    simp only [details, read, Option.bind_eq_bind, Option.bind_some, if_pos stray]
  have texts : (Details.unknown name).fields.texts = [name] := rfl
  have client : (Details.unknown name).fields.client = none := rfl
  have directory : (Details.unknown name).fields.workingDirectory = none := rfl
  have kind : (Details.unknown name).fields.kind = .unknown := rfl
  have ready : (Details.unknown name).fields.activationReady = some false := rfl
  have online : (Details.unknown name).fields.online = false := rfl
  rw [accepted, reported, Option.any_some]
  simp only [Filters.accept, texts, client, directory, kind, ready, online, Filters.AskMore,
    sameDirectory, Option.any_none, Bool.and_eq_true, not_or, Bool.not_eq_false, and_assoc]
  refine and_congr_right fun _ => ?_
  cases filters.client <;> cases filters.directory <;> cases filters.kind <;>
    cases filters.activationReady <;> cases filters.online <;>
    simp [@eq_comm _ AgentKind.unknown]

theorem meet_iff_spare (plain : ¬filters.AskMore host name) :
    filters.Meet host live keyspace name ↔ filters.Spare host live keyspace name := by
  simp only [Filters.AskMore, not_or, not_not, Bool.not_eq_false] at plain
  rcases plain with ⟨-, client, directory, kinds, unready, offline⟩
  have unknown : ∀ wanted, filters.kind = some wanted → wanted = .unknown := by
    intro wanted isWanted
    by_contra other
    exact kinds ⟨wanted, isWanted, other⟩
  constructor
  · intro meet
    constructor
    · exact meet.query
    · intro asked
      rcases Option.ne_none_iff_exists'.mp asked with ⟨wanted, isWanted⟩
      exact (meet.kind wanted isWanted).trans (unknown wanted isWanted)
    · intro asked
      rcases Option.ne_none_iff_exists'.mp asked with ⟨wanted, isWanted⟩
      exact (meet.unready wanted isWanted).2
    · intro asked
      rcases Option.ne_none_iff_exists'.mp asked with ⟨wanted, isWanted⟩
      cases wanted with
      | true => exact absurd isWanted offline
      | false => exact meet.online false isWanted
  · intro spare
    constructor
    · exact spare.query
    · rw [client]
      exact fun _ absent => absurd absent (by simp)
    · rw [directory]
      exact fun _ absent => absurd absent (by simp)
    · intro wanted isWanted
      rw [spare.kind (Option.ne_none_iff_exists'.mpr ⟨wanted, isWanted⟩), unknown wanted isWanted]
    · intro wanted isWanted
      cases wanted with
      | true => exact absurd isWanted unready
      | false => exact ⟨rfl, spare.unready (Option.ne_none_iff_exists'.mpr ⟨false, isWanted⟩)⟩
    · intro wanted isWanted
      cases wanted with
      | true => exact absurd isWanted offline
      | false => exact spare.offline (Option.ne_none_iff_exists'.mpr ⟨false, isWanted⟩)

theorem accept_stray_eq_iff (registry : keyspace.admits .registry .hash = true)
    (stray : registryRecord keyspace name = []) :
    filters.accept host (storedFields host live keyspace name) =
        accepted host live keyspace filters name ↔
      (filters.AskMore host name → ¬filters.Meet host live keyspace name) ∧
        (¬filters.AskMore host name → filters.Spare host live keyspace name) := by
  rw [Bool.eq_iff_iff, accept_stray_iff stray, accepted_stray_iff registry stray]
  by_cases more : filters.AskMore host name
  · simp [more]
  · simp [more, meet_iff_spare more]

/-! ## Agreement -/

theorem matchedNames_eq (registry : keyspace.admits .registry .hash = true)
    (searched : ∀ name ∈ registryNames keyspace, Admitted keyspace (filters.searchedKeys name)) :
    matchedNames host live keyspace filters = some ((registryNames keyspace).filter fun name =>
      filters.accept host (storedFields host live keyspace name)) := by
  have names : replied keyspace .registry (registryNames keyspace) =
      some (registryNames keyspace) := replied_typed _ registry
  have matched := mapM_eq_map fun name member =>
    @finds_eq_accept host live keyspace filters name registry (searched name member)
  simp only [matchedNames, names, Option.bind_eq_bind, Option.bind_some, matched, zip_filter_map]

/-- Where the names can be searched, the names agree if the filters decide alike on each. -/
theorem matchedNames_eq_accepted_iff (registry : keyspace.admits .registry .hash = true)
    (searched : ∀ name ∈ registryNames keyspace, Admitted keyspace (filters.searchedKeys name)) :
    matchedNames host live keyspace filters =
        some (acceptedNames host live keyspace filters) ↔
      ∀ name ∈ registryNames keyspace,
        filters.accept host (storedFields host live keyspace name) =
          accepted host live keyspace filters name := by
  rw [matchedNames_eq registry searched, Option.some.injEq]
  constructor
  · intro same name registered
    have member := congrArg (name ∈ ·) same
    simp only [acceptedNames, List.mem_filter, registered, true_and] at member
    exact Bool.eq_iff_iff.mpr (Iff.of_eq member)
  · exact List.filter_congr

/-- The keys of a search that is not refused. -/
theorem admitted_of_matchedNames {names : List String}
    (answered : matchedNames host live keyspace filters = some names) :
    keyspace.admits .registry .hash = true ∧
      ∀ name ∈ registryNames keyspace, Admitted keyspace (filters.searchedKeys name) := by
  simp only [matchedNames, Option.bind_eq_bind, Option.bind_eq_some_iff] at answered
  rcases answered with ⟨listed, read, found, each, -⟩
  refine ⟨(typed_of_replied read).1, ?_⟩
  intro name member
  rw [(typed_of_replied read).2] at each
  rcases answered_of_mapM each name member with ⟨reply, replied⟩
  exact searched_of_finds replied

theorem matchedNames_eq_iff :
    matchedNames host live keyspace filters =
        some (acceptedNames host live keyspace filters) ↔
      Consistent host live keyspace filters := by
  constructor
  · intro same
    rcases admitted_of_matchedNames same with ⟨registry, searched⟩
    have agree := (matchedNames_eq_accepted_iff registry searched).mp same
    refine ⟨registry, searched, ?_, ?_, ?_⟩
    · intro name member readable
      exact (accepted_eq_iff registry readable).mp (agree name member)
    · intro name member stray
      exact ((accept_stray_eq_iff registry stray).mp (agree name member)).1
    · intro name member stray
      exact ((accept_stray_eq_iff registry stray).mp (agree name member)).2
  · intro consistent
    rw [matchedNames_eq_accepted_iff consistent.registry consistent.searched]
    intro name member
    by_cases stray : registryRecord keyspace name = []
    · exact (accept_stray_eq_iff consistent.registry stray).mpr
        ⟨consistent.unmet name member stray, consistent.spared name member stray⟩
    · exact (accepted_eq_iff consistent.registry stray).mpr (consistent.reported name member stray)

theorem mapM_details {names : List String}
    (inside : ∀ name ∈ names, name ∈ acceptedNames host live keyspace filters) :
    ∃ page, names.map (details host live keyspace) = page.map some ∧
      names.mapM (details host live keyspace) = some page := by
  induction names with
  | nil => exact ⟨[], rfl, rfl⟩
  | cons name rest induction =>
      rcases induction fun other member => inside other (List.mem_cons_of_mem _ member) with
        ⟨page, shown, read⟩
      have accept := (List.mem_filter.mp (inside name List.mem_cons_self)).2
      rcases (Option.any_eq_true _ _).mp accept with ⟨report, reported, -⟩
      refine ⟨report :: page, ?_, ?_⟩
      · rw [List.map_cons, List.map_cons, reported, shown]
      · rw [List.mapM_cons, reported, read]
        rfl

/-- A search agrees with the reports where every key that matters can be read, and where
what is left under names without a readable registration does not matter to the filters. -/
theorem agrees_iff (limit : Option Number) :
    Agrees host live keyspace filters limit ↔ Consistent host live keyspace filters := by
  rw [← matchedNames_eq_iff]
  constructor
  · intro agrees
    exact agrees.names
  · intro same
    refine ⟨same, ?_⟩
    rcases @mapM_details host live keyspace filters
      ((acceptedNames host live keyspace filters).take (pageLimit limit))
      fun name member => List.mem_of_mem_take member with ⟨page, shown, read⟩
    refine ⟨page, shown, ?_⟩
    simp only [find, same, read, Option.bind_eq_bind, Option.bind_some]

/-- It does when every key has its kind and every registered value can be read. -/
theorem consistent_of_readable (typed : WellTyped keyspace)
    (readable : ∀ name ∈ registryNames keyspace, registryRecord keyspace name ≠ []) :
    Consistent host live keyspace filters where
  registry := typed .registry
  searched _ _ := admitted_of_wellTyped typed _
  reported _ _ _ _ := admitted_of_wellTyped typed _
  unmet name member stray := absurd stray (readable name member)
  spared name member stray := absurd stray (readable name member)

/-! ## The parts that other modules describe -/

/-- The names of `find` are those of the pool, whatever order its tasks complete in. -/
theorem matchedNames_of_run {count : Nat} {pool : WorkerPool.Pool String Bool}
    {found : String → Bool} (registry : keyspace.admits .registry .hash = true)
    (answered : ∀ name ∈ registryNames keyspace,
      finds host live keyspace filters name = some (found name))
    (run : WorkerPool.Run (registryNames keyspace)
      (WorkerPool.withBoundedConcurrency (registryNames keyspace) 8) count pool)
    (computes : ∀ completion ∈ pool.completions, ∀ name,
      (registryNames keyspace)[completion.1]? = some name → completion.2 = found name)
    (returned : pool.Returned) :
    matchedNames host live keyspace filters =
      some ((((registryNames keyspace).zip pool.results).filter
        fun entry => entry.2 == some true).map Prod.fst) := by
  have names : replied keyspace .registry (registryNames keyspace) =
      some (registryNames keyspace) := replied_typed _ registry
  rw [WorkerPool.results_eq_map found run computes returned]
  simp only [matchedNames, names, mapM_eq_map answered, Option.bind_eq_bind, Option.bind_some,
    zip_filter_map]
  congr 1
  induction registryNames keyspace with
  | nil => rfl
  | cons name rest induction =>
      rw [List.map_cons, List.zip_cons_cons, List.filter_cons, List.filter_cons]
      cases found name with
      | true => exact congrArg (name :: ·) induction
      | false => exact induction

/-- `isOnline` is the presence of the agent or its heartbeat. -/
theorem present_eq_presence (ttl : String → Int) :
    present (fun sessionId => decide (0 < ttl sessionId)) keyspace name =
      ((PresenceBatch.presenceOf (fun agent => keyspace.members (.agentSessions agent)) ttl
        name).online || (keyspace.value (.heartbeat name)).isSome) := by
  have live : ∀ sessions : List String,
      (sessions.any fun sessionId => decide (0 < ttl sessionId)) =
        !(sessions.filter fun sessionId => decide (0 < ttl sessionId)).isEmpty := by
    intro sessions
    induction sessions with
    | nil => rfl
    | cons sessionId rest induction =>
        rw [List.any_cons, List.filter_cons, induction]
        cases decide (0 < ttl sessionId) <;> simp
  unfold present
  rw [live]
  rfl

end Fields

/-! ## A heartbeat without a registration -/

/-- The registered value of a name was lost, and its heartbeat was not. -/
def ghosts : Keyspace Key :=
  (Keyspace.empty.store .registry (some (.hash (AList.singleton "ghost" "\x7b\x7d")))).store
    (.heartbeat "ghost") (some (.string "1"))

def onlineOnly : Filters where
  query := none
  client := none
  cwd := none
  workingDirectory := none
  kind := none
  activationReady := none
  online := some true

/-- The search for names online returns a report that says offline. -/
theorem ghosts_not_agrees :
    find plainHost (leased ghosts) ghosts onlineOnly none =
        some ⟨[Details.unknown "ghost"], 1, false, .unique⟩ ∧
      (Details.unknown "ghost").online = false ∧
        ¬Agrees plainHost (leased ghosts) ghosts onlineOnly none := by
  have found : matchedNames plainHost (leased ghosts) ghosts onlineOnly = some ["ghost"] := by
    decide +kernel
  have accepted : acceptedNames plainHost (leased ghosts) ghosts onlineOnly = [] := by
    decide +kernel
  refine ⟨by decide +kernel, rfl, ?_⟩
  intro agrees
  have same := agrees.names
  rw [found, accepted] at same
  cases same

end GptQueue.Diagnostics
