import GptQueue.Foundation.Texts

/-! # The bearer token

Two servers ask for a token in the `Authorization` header: the HTTP server, which must have one
unless it is bound to the loopback interface, and the bridge of the wrapper, which makes its own.
-/

namespace GptQueue.Transport

open Texts (isWhite trim)

/-! ## The header -/

def isLineEnd (char : Char) : Bool := char.toNat ∈ [10, 13, 0x2028, 0x2029]

/-- The group of `/^Bearer\s+(.+)$/i`. The white space takes all that it can, and gives back what
the group needs. -/
def bearerGroup (header : List Char) : Option (List Char) :=
  if (header.take 6).map Char.toLower = "bearer".toList then
    let rest := header.drop 6
    ((List.range (rest.takeWhile isWhite).length).reverse.map fun count =>
      rest.drop (count + 1)).find? fun group =>
        decide (group ≠ []) && group.all fun char => !isLineEnd char
  else none

def trimmedGroup (header : String) : Option String :=
  (bearerGroup header.toList).map fun group => trim (String.ofList group)

/-- The token of a header, which may be empty. -/
def extractBearerToken (authorization : Option String) : Option String :=
  match authorization with
  | none => none
  | some auth => if auth = "" then none else trimmedGroup auth

/-- The bridge takes no empty token. -/
def bearerFrom (authorization : Option String) : Option String :=
  (trimmedGroup (authorization.getD "")).filter (· ≠ "")

/-- A header that has a token, with white space around it. -/
def Spells (header token : String) : Prop :=
  ∃ scheme spaces trail : List Char,
    header.toList = scheme ++ spaces ++ token.toList ++ trail ∧
      scheme.map Char.toLower = "bearer".toList ∧ spaces ≠ [] ∧
        (∀ char ∈ spaces ++ trail, isWhite char = true) ∧
          token.toList ++ trail ≠ [] ∧
            (∀ char ∈ token.toList ++ trail, isLineEnd char = false) ∧ trim token = token

section Header

variable {header token : String} {white chars group : List Char}

theorem trim_white_append (isWhites : ∀ char ∈ white, isWhite char = true) :
    trim (String.ofList (white ++ chars)) = trim (String.ofList chars) := by
  rw [trim, trim, String.toList_ofList, String.toList_ofList,
    List.dropWhile_append_of_pos isWhites]

theorem trim_append_white (isWhites : ∀ char ∈ white, isWhite char = true) :
    trim (String.ofList (chars ++ white)) = trim (String.ofList chars) := by
  have backwards : ∀ char ∈ white.reverse, isWhite char = true :=
    fun char member => isWhites char (List.mem_reverse.mp member)
  rw [trim, trim, String.toList_ofList, String.toList_ofList, List.dropWhile_append]
  split
  · next isEmpty =>
      have nothing := List.dropWhile_eq_nil_iff.mpr isWhites
      rw [nothing, List.isEmpty_iff.mp isEmpty]
  · rw [List.reverse_append, List.dropWhile_append_of_pos backwards]

/-- A text is what is left of it between white space. -/
theorem split_trim (chars : List Char) : ∃ lead trail : List Char,
    chars = lead ++ (trim (String.ofList chars)).toList ++ trail ∧
      ∀ char ∈ lead ++ trail, isWhite char = true := by
  refine ⟨chars.takeWhile isWhite, ((chars.dropWhile isWhite).reverse.takeWhile isWhite).reverse,
    ?_, ?_⟩
  · rw [trim, String.toList_ofList, String.toList_ofList, List.append_assoc, ← List.reverse_append,
      List.takeWhile_append_dropWhile, List.reverse_reverse, List.takeWhile_append_dropWhile]
  · intro char member
    rcases List.mem_append.mp member with lead | trail
    · exact List.mem_takeWhile_imp lead
    · exact List.mem_takeWhile_imp (List.mem_reverse.mp trail)

/-- The group comes after some of the white space, and none of it ends the line. -/
theorem of_bearerGroup (isGroup : bearerGroup header.toList = some group) :
    ∃ scheme spaces, header.toList = scheme ++ spaces ++ group ∧
      scheme.map Char.toLower = "bearer".toList ∧ spaces ≠ [] ∧
        (∀ char ∈ spaces, isWhite char = true) ∧ group ≠ [] ∧
          ∀ char ∈ group, isLineEnd char = false := by
  unfold bearerGroup at isGroup
  split at isGroup
  · next isScheme =>
      have passes := List.find?_some isGroup
      rcases List.mem_map.mp (List.mem_of_find?_eq_some isGroup) with ⟨count, inRange, rfl⟩
      have less := List.mem_range.mp (List.mem_reverse.mp inRange)
      simp only [Bool.and_eq_true, decide_eq_true_eq, List.all_eq_true, Bool.not_eq_true'] at passes
      refine ⟨header.toList.take 6, (header.toList.drop 6).take (count + 1), ?_, isScheme, ?_, ?_,
        passes.1, passes.2⟩
      · rw [List.append_assoc, List.take_append_drop, List.take_append_drop]
      · intro none
        have length := congrArg List.length none
        have shorter : ((header.toList.drop 6).takeWhile isWhite).length ≤
            (header.toList.drop 6).length := (List.takeWhile_prefix isWhite).length_le
        rw [List.length_take, List.length_nil] at length
        omega
      · intro char member
        have whole : (header.toList.drop 6).takeWhile isWhite ++
            (header.toList.drop 6).dropWhile isWhite = header.toList.drop 6 :=
          List.takeWhile_append_dropWhile
        rw [← whole, List.take_append_of_le_length less] at member
        exact List.mem_takeWhile_imp (List.mem_of_mem_take member)
  · cases isGroup

/-- The first six characters of a header are its scheme. -/
theorem length_scheme {scheme : List Char}
    (isScheme : scheme.map Char.toLower = "bearer".toList) : scheme.length = 6 := by
  rw [← List.length_map Char.toLower, isScheme]
  rfl

theorem bearerGroup_isSome (spells : Spells header token) :
    (bearerGroup header.toList).isSome = true := by
  rcases spells with ⟨scheme, spaces, trail, isHeader, isScheme, nonempty, isWhites, something,
    onLine, -⟩
  have rest : header.toList.drop 6 = spaces ++ (token.toList ++ trail) := by
    rw [isHeader, List.append_assoc, List.append_assoc, ← length_scheme isScheme,
      List.drop_left]
  have start : header.toList.take 6 = scheme := by
    rw [isHeader, List.append_assoc, List.append_assoc, ← length_scheme isScheme,
      List.take_left]
  have allSpaces : ∀ char ∈ spaces, isWhite char = true :=
    fun char member => isWhites char (List.mem_append_left _ member)
  have less : spaces.length - 1 <
      ((spaces ++ (token.toList ++ trail)).takeWhile isWhite).length := by
    rw [List.takeWhile_append_of_pos allSpaces, List.length_append]
    have positive := List.length_pos_iff.mpr nonempty
    omega
  unfold bearerGroup
  rw [start, if_pos isScheme, rest]
  dsimp only
  rw [List.find?_isSome]
  refine ⟨token.toList ++ trail, List.mem_map.mpr ⟨spaces.length - 1, ?_, ?_⟩, ?_⟩
  · exact List.mem_reverse.mpr (List.mem_range.mpr less)
  · rw [Nat.sub_add_cancel (List.length_pos_iff.mpr nonempty), List.drop_left]
  · simp only [Bool.and_eq_true, decide_eq_true_eq, List.all_eq_true, Bool.not_eq_true']
    exact ⟨something, onLine⟩

theorem trimmedGroup_iff : trimmedGroup header = some token ↔ Spells header token := by
  constructor
  · intro isToken
    rcases Option.map_eq_some_iff.mp isToken with ⟨group, isGroup, isTrimmed⟩
    rcases of_bearerGroup isGroup with
      ⟨scheme, spaces, isHeader, isScheme, nonempty, isWhites, something, onLine⟩
    rcases split_trim group with ⟨lead, trail, isSplit, around⟩
    rw [isTrimmed] at isSplit
    have fixed : trim token = token := by rw [← isTrimmed, Texts.trim_trim]
    by_cases empty : token.toList = []
    · -- All of the group is white space, and stands after the token.
      rw [empty, List.append_nil] at isSplit
      refine ⟨scheme, spaces, group, ?_, isScheme, nonempty, ?_, ?_, ?_, fixed⟩
      · rw [isHeader, empty, List.append_nil]
      · intro char member
        rcases List.mem_append.mp member with before | after
        · exact isWhites char before
        · exact around char (isSplit ▸ after)
      · rw [empty]
        exact something
      · rw [empty]
        exact onLine
    · refine ⟨scheme, spaces ++ lead, trail, ?_, isScheme, ?_, ?_, ?_, ?_, fixed⟩
      · rw [isHeader, isSplit]
        simp only [List.append_assoc]
      · exact fun none => nonempty (List.append_eq_nil_iff.mp none).1
      · intro char member
        rw [List.append_assoc] at member
        rcases List.mem_append.mp member with before | after
        · exact isWhites char before
        · exact around char after
      · exact fun none => empty (List.append_eq_nil_iff.mp none).1
      · intro char member
        apply onLine
        rw [isSplit, List.append_assoc]
        exact List.mem_append_right _ member
  · intro spells
    rcases Option.isSome_iff_exists.mp (bearerGroup_isSome spells) with ⟨group, isGroup⟩
    rcases of_bearerGroup isGroup with ⟨start, before, split, isStart, -, isBefore, -, -⟩
    rcases spells with ⟨scheme, spaces, trail, isHeader, isScheme, -, isWhites, -, -, fixed⟩
    have rest : before ++ group = spaces ++ (token.toList ++ trail) := by
      have same := split.symm.trans isHeader
      rw [List.append_assoc, List.append_assoc, List.append_assoc] at same
      exact (List.append_inj same
        ((length_scheme isStart).trans (length_scheme isScheme).symm)).2
    have trims : trim (String.ofList group) = token := by
      rw [← trim_white_append isBefore, rest,
        trim_white_append fun char member => isWhites char (List.mem_append_left _ member),
        trim_append_white fun char member => isWhites char (List.mem_append_right _ member),
        String.ofList_toList, fixed]
    rw [trimmedGroup, isGroup, Option.map_some, trims]

/-- What a server reads from a header is exactly what the header spells. -/
theorem extractBearerToken_iff {authorization : Option String} :
    extractBearerToken authorization = some token ↔
      ∃ header, authorization = some header ∧ Spells header token := by
  cases authorization with
  | none => simp [extractBearerToken]
  | some header =>
      rw [extractBearerToken]
      split
      · next empty =>
          subst empty
          constructor
          · intro isToken
            cases isToken
          · rintro ⟨header, isHeader, spells⟩
            cases isHeader
            rw [← trimmedGroup_iff] at spells
            cases spells
      · rw [trimmedGroup_iff]
        constructor
        · intro spells
          exact ⟨header, rfl, spells⟩
        · rintro ⟨other, isHeader, spells⟩
          cases isHeader
          exact spells

theorem bearerFrom_iff {authorization : Option String} :
    bearerFrom authorization = some token ↔
      token ≠ "" ∧ ∃ header, authorization = some header ∧ Spells header token := by
  rw [bearerFrom, Option.filter_eq_some_iff, trimmedGroup_iff, decide_eq_true_eq, and_comm]
  apply and_congr_right
  intro _
  cases authorization with
  | none =>
      constructor
      · intro spells
        rw [Option.getD_none, ← trimmedGroup_iff] at spells
        cases spells
      · rintro ⟨header, isHeader, -⟩
        cases isHeader
  | some header => simp

end Header

/-! ## The servers -/

section Servers

variable {Digest : Type} [DecidableEq Digest] (digest : String → Digest)

structure HttpSettings where
  /-- `GPTQUEUE_HOST`. -/
  host : Option String
  /-- `GPTQUEUE_HTTP_TOKEN`. -/
  token : Option String

def resolveHost (settings : HttpSettings) : String :=
  (settings.host.filter (· ≠ "")).getD "127.0.0.1"

def isLoopbackHost (host : String) : Bool :=
  host = "127.0.0.1" || host = "localhost" || host = "::1"

def httpToken (settings : HttpSettings) : String := settings.token.getD ""

def tokenActive (settings : HttpSettings) : Bool := httpToken settings ≠ ""

/-- The server does not refuse to start. -/
def starts (settings : HttpSettings) : Bool :=
  isLoopbackHost (resolveHost settings) || tokenActive settings

def tokenMatches (expected provided : String) : Bool := digest expected = digest provided

/-- A request for `/mcp` gets past the token. -/
def passes (settings : HttpSettings) (authorization : Option String) : Bool :=
  if tokenActive settings then
    (extractBearerToken authorization).any (tokenMatches digest (httpToken settings))
  else true

def bridgePasses (bearerToken : String) (authorization : Option String) : Bool :=
  (bearerFrom authorization).any (tokenMatches digest bearerToken)

/-- The HTTP server serves a request exactly if it has no token and is bound to the loopback
interface, or the request spells a bearer token with the digest of its own. -/
theorem http_serves_iff (settings : HttpSettings) (authorization : Option String) :
    starts settings = true ∧ passes digest settings authorization = true ↔
      (httpToken settings = "" ∧ isLoopbackHost (resolveHost settings) = true) ∨
        (httpToken settings ≠ "" ∧ ∃ header provided, authorization = some header ∧
          Spells header provided ∧ digest (httpToken settings) = digest provided) := by
  have reads : ∀ expected, (extractBearerToken authorization).any (tokenMatches digest expected) =
      true ↔ ∃ header provided, authorization = some header ∧ Spells header provided ∧
        digest expected = digest provided := by
    intro expected
    rw [Option.any_eq_true]
    constructor
    · rintro ⟨provided, isProvided, same⟩
      rcases extractBearerToken_iff.mp isProvided with ⟨header, isHeader, spells⟩
      exact ⟨header, provided, isHeader, spells, of_decide_eq_true same⟩
    · rintro ⟨header, provided, isHeader, spells, same⟩
      exact ⟨provided, extractBearerToken_iff.mpr ⟨header, isHeader, spells⟩,
        decide_eq_true same⟩
  by_cases active : httpToken settings = ""
  · simp [starts, passes, tokenActive, active]
  · simp only [starts, passes, tokenActive, active, reads, ne_eq, not_false_eq_true, decide_true,
      Bool.or_true, if_true, true_and, false_and, false_or]

/-- The bridge asks every request for its token. -/
theorem bridge_passes_iff (bearerToken : String) (authorization : Option String) :
    bridgePasses digest bearerToken authorization = true ↔
      ∃ header provided, authorization = some header ∧ Spells header provided ∧
        provided ≠ "" ∧ digest bearerToken = digest provided := by
  rw [bridgePasses, Option.any_eq_true]
  constructor
  · rintro ⟨provided, isProvided, same⟩
    rcases bearerFrom_iff.mp isProvided with ⟨nonempty, header, isHeader, spells⟩
    exact ⟨header, provided, isHeader, spells, nonempty, of_decide_eq_true same⟩
  · rintro ⟨header, provided, isHeader, spells, nonempty, same⟩
    exact ⟨provided, bearerFrom_iff.mpr ⟨nonempty, header, isHeader, spells⟩, decide_eq_true same⟩

end Servers

end GptQueue.Transport
