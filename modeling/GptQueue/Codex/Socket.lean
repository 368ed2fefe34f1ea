import GptQueue.Foundation.Incremental
import GptQueue.Foundation.JsValue
import GptQueue.Foundation.Utf8

/-! # The Codex socket client

The client's reader of WebSocket frames: three length forms, fragmented messages and
control frames between the fragments.
-/

namespace GptQueue.CodexSocket

/-- `MAX_MESSAGE`. -/
def maxMessage : Nat := 16 * 1024 * 1024

def bigEndianBytes : Nat → Nat → List UInt8
  | 0, _ => []
  | count + 1, value => bigEndianBytes count (value / 256) ++ [UInt8.ofNat (value % 256)]

def bigEndian (bytes : List UInt8) : Nat :=
  bytes.foldl (fun value byte => value * 256 + byte.toNat) 0

/-! ## Frames the client writes -/

/-- `randomBytes(4)`. -/
structure Mask where
  bytes : List UInt8
  four : bytes.length = 4

def masked (mask : Mask) (payload : List UInt8) : List UInt8 :=
  payload.mapIdx fun index byte =>
    byte ^^^ mask.bytes.get ⟨index % 4, by rw [mask.four]; exact Nat.mod_lt _ (by decide)⟩

def frame (mask : Mask) (payload : List UInt8) (opcode : UInt8) : List UInt8 :=
  let header :=
    if payload.length < 126 then [0x80 ||| opcode, 0x80 ||| UInt8.ofNat payload.length]
    else if payload.length ≤ 65535 then
      [0x80 ||| opcode, 0x80 ||| 126] ++ bigEndianBytes 2 payload.length
    else [0x80 ||| opcode, 0x80 ||| 127] ++ bigEndianBytes 8 payload.length
  header ++ mask.bytes ++ masked mask payload

/-! ## Responses -/

/-- What the client uses of the host: how it reads a number token, which numbers are
zero, and the masks it draws. -/
structure Host (Number : Type) where
  number : Numeral → Number
  isZero : Number → Bool
  mask : Nat → Mask

inductive Effect (Number : Type) where
  | resolved (id : Number) (result : Json)
  /-- The error text shows this value. -/
  | rejected (id : Number) (error : Json)
  /-- A request rejected by `fail`. -/
  | failed (id : Number) (message : String)
  | sent (bytes : List UInt8)

structure Client (Number : Type) where
  fragments : List (List UInt8)
  fragmentBytes : Nat
  /-- The keys of `pending` in order. -/
  pending : List Number
  /-- How many masks have been drawn. -/
  drawn : Nat

section Client

variable {Number : Type} [DecidableEq Number] (host : Host Number)

def truthy (value : Json) : Bool :=
  JsValue.truthy (fun token => host.isZero (host.number token)) value

def resultOf (message : Json) : Json :=
  match message.field "result" with
  | none => .object []
  | some .null => .object []
  | some result => result

/-- What a parsed message does to the pending requests; `none` when it raises. -/
def handle (pending : List Number) (message : Json) : Option (List (Effect Number) × List Number) :=
  match message with
  | .null => none
  | _ =>
      match message.field "id" with
      | some (.number token) =>
          if (Json.asString (message.field "method")).isSome then some ([], pending)
          else if (message.field "result").isNone ∧ (message.field "error").isNone then
            some ([], pending)
          else if host.number token ∈ pending then
            match (message.field "error").filter (truthy host) with
            | some error =>
                some ([.rejected (host.number token) error], pending.erase (host.number token))
            | none =>
                some ([.resolved (host.number token) (resultOf message)],
                  pending.erase (host.number token))
          else some ([], pending)
      | _ => some ([], pending)

/-! ## Reading -/

inductive Header where
  | incomplete
  | oversized
  | sized (size : Nat) (body : List UInt8)

/-- The second test of the length. A length of 127 is taken for the mark of the wide form,
also when it has been read from the two bytes of the middle form. -/
def wideHeader (size : Nat) (rest body : List UInt8) : Header :=
  if size = 127 then
    if rest.length < 8 then .incomplete
    else if maxMessage < bigEndian (rest.take 8) then .oversized
    else .sized (bigEndian (rest.take 8)) (rest.drop 8)
  else .sized size body

def header (second : UInt8) (rest : List UInt8) : Header :=
  let size := second.toNat &&& 127
  if size = 126 then
    if rest.length < 2 then .incomplete
    else wideHeader (bigEndian (rest.take 2)) rest (rest.drop 2)
  else wideHeader size rest rest

/-- `fail`: every pending request is rejected and the socket is destroyed. -/
def fail {Item : Type} (client : Client Number) (message : String) :
    Parse (Client Number) Item (Effect Number) :=
  .halt (client.pending.map fun id => .failed id message)

/-- What `data` reports for any exception. -/
def invalid : String := "Invalid Codex WebSocket message"

def deliver (client : Client Number) (opcode : Nat) (final : Bool) (payload rest : List UInt8) :
    Parse (Client Number) UInt8 (Effect Number) :=
  if opcode = 8 then fail client "Codex app-server closed"
  else if opcode = 9 then
    .next [.sent (frame (host.mask client.drawn) payload 10)]
      { client with drawn := client.drawn + 1 } rest
  else if opcode = 10 then .next [] client rest
  else if opcode ≠ 0 ∧ opcode ≠ 1 then fail client invalid
  else if opcode = 0 ∧ client.fragments = [] ∨ opcode = 1 ∧ client.fragments ≠ [] then
    fail client invalid
  else if final = false then
    .next []
      { client with
        fragments := client.fragments ++ [payload]
        fragmentBytes := client.fragmentBytes + payload.length } rest
  else
    match (Json.parse (Utf8.decode (client.fragments ++ [payload]).flatten)).bind
        (handle host client.pending) with
    | none => fail client invalid
    | some (effects, pending) =>
        .next effects { client with fragments := [], fragmentBytes := 0, pending } rest

/-- One turn of the loop of `read`. -/
def turn (client : Client Number) : List UInt8 → Parse (Client Number) UInt8 (Effect Number)
  | first :: second :: rest =>
      if first.toNat &&& 0x70 ≠ 0 ∨ second.toNat &&& 0x80 ≠ 0 then fail client invalid
      else
        match header second rest with
        | .incomplete => .more
        | .oversized => fail client invalid
        | .sized size body =>
            let opcode := first.toNat &&& 15
            let final := decide (first.toNat &&& 0x80 ≠ 0)
            if maxMessage < size ∨ maxMessage < client.fragmentBytes + size then fail client invalid
            else if 8 ≤ opcode ∧ (final = false ∨ 125 < size) then fail client invalid
            else if body.length < size then .more
            else deliver host client opcode final (body.take size) (body.drop size)
  | _ => .more

end Client

/-! ## Splitting -/

section Splitting

variable {Number : Type} [DecidableEq Number] {host : Host Number}

theorem wideHeader_append {size : Nat} {rest body : List UInt8} (later : List UInt8)
    (decided : wideHeader size rest body ≠ .incomplete) :
    wideHeader size (rest ++ later) (body ++ later) =
      match wideHeader size rest body with
      | .sized size body => .sized size (body ++ later)
      | other => other := by
  unfold wideHeader at decided ⊢
  split
  · next wide =>
      rw [if_pos wide] at decided
      by_cases enough : rest.length < 8
      · exact absurd (if_pos enough) decided
      · rw [if_neg enough, if_neg (by rw [List.length_append]; omega),
          List.take_append_of_le_length (by omega), List.drop_append_of_le_length (by omega)]
        split <;> rfl
  · rfl

theorem header_append {second : UInt8} {rest : List UInt8} (later : List UInt8)
    (decided : header second rest ≠ .incomplete) :
    header second (rest ++ later) =
      match header second rest with
      | .sized size body => .sized size (body ++ later)
      | other => other := by
  unfold header at decided ⊢
  dsimp only at decided ⊢
  split
  · next short =>
      rw [if_pos short] at decided
      by_cases enough : rest.length < 2
      · exact absurd (if_pos enough) decided
      · rw [if_neg enough] at decided ⊢
        rw [if_neg (by rw [List.length_append]; omega), List.take_append_of_le_length (by omega),
          List.drop_append_of_le_length (by omega)]
        exact wideHeader_append later decided
  · next notShort =>
      rw [if_neg notShort] at decided
      exact wideHeader_append later decided

theorem wideHeader_length {size wide : Nat} {rest body after : List UInt8}
    (inside : body.length ≤ rest.length) (sized : wideHeader size rest body = .sized wide after) :
    after.length ≤ rest.length := by
  unfold wideHeader at sized
  split at sized
  · split at sized
    · cases sized
    · split at sized
      · cases sized
      · cases sized
        simp
  · cases sized
    exact inside

theorem header_length {second : UInt8} {rest body : List UInt8} {size : Nat}
    (sized : header second rest = .sized size body) : body.length ≤ rest.length := by
  unfold header at sized
  dsimp only at sized
  split at sized
  · split at sized
    · cases sized
    · exact wideHeader_length (by simp) sized
  · exact wideHeader_length le_rfl sized

theorem deliver_append {client : Client Number} {opcode : Nat} {final : Bool}
    {payload rest : List UInt8} (later : List UInt8) :
    deliver host client opcode final payload (rest ++ later) =
      match deliver host client opcode final payload rest with
      | .more => .more
      | .halt effects => .halt effects
      | .next effects after rest => .next effects after (rest ++ later) := by
  unfold deliver fail
  split
  · rfl
  · split
    · rfl
    · split
      · rfl
      · split
        · rfl
        · split
          · rfl
          · split
            · rfl
            · split <;> rfl

theorem deliver_rest {client after : Client Number} {opcode : Nat} {final : Bool}
    {payload rest left : List UInt8} {effects : List (Effect Number)}
    (delivered : deliver host client opcode final payload rest = .next effects after left) :
    left = rest := by
  unfold deliver fail at delivered
  split at delivered
  · cases delivered
  · split at delivered
    · cases delivered
      rfl
    · split at delivered
      · cases delivered
        rfl
      · split at delivered
        · cases delivered
        · split at delivered
          · cases delivered
          · split at delivered
            · cases delivered
              rfl
            · split at delivered
              · cases delivered
              · cases delivered
                rfl

/-- The turn for a buffer that begins with the given bytes is that for the buffer
without what comes later, once it is decided. -/
theorem turn_append {client : Client Number} {buffer : List UInt8} (later : List UInt8)
    (decided : turn host client buffer ≠ .more) :
    turn host client (buffer ++ later) =
      match turn host client buffer with
      | .more => .more
      | .halt effects => .halt effects
      | .next effects after rest => .next effects after (rest ++ later) := by
  match buffer, decided with
  | [], decided => exact absurd rfl decided
  | [_], decided => exact absurd rfl decided
  | first :: second :: rest, decided =>
      rw [List.cons_append, List.cons_append]
      unfold turn fail at decided ⊢
      dsimp only at decided ⊢
      split
      · rfl
      · next flags =>
          rw [if_neg flags] at decided
          have complete : header second rest ≠ .incomplete := by
            intro incomplete
            rw [incomplete] at decided
            exact decided rfl
          rw [header_append later complete]
          cases sized : header second rest with
          | incomplete => exact absurd sized complete
          | oversized => rfl
          | sized size body =>
              rw [sized] at decided
              dsimp only at decided ⊢
              split
              · rfl
              · next fits =>
                  rw [if_neg fits] at decided
                  split
                  · rfl
                  · next allowed =>
                      rw [if_neg allowed] at decided
                      have whole : ¬body.length < size := by
                        intro short
                        rw [if_pos short] at decided
                        exact decided rfl
                      rw [if_neg whole, if_neg (by rw [List.length_append]; omega),
                        List.take_append_of_le_length (by omega),
                        List.drop_append_of_le_length (by omega), deliver_append]

theorem turn_shorter {client after : Client Number} {buffer rest : List UInt8}
    {effects : List (Effect Number)} (turned : turn host client buffer = .next effects after rest) :
    rest.length < buffer.length := by
  match buffer, turned with
  | [], turned => cases turned
  | [_], turned => cases turned
  | first :: second :: bytes, turned =>
      unfold turn fail at turned
      dsimp only at turned
      split at turned
      · cases turned
      · cases sized : header second bytes with
        | incomplete =>
            rw [sized] at turned
            cases turned
        | oversized =>
            rw [sized] at turned
            cases turned
        | sized size body =>
            rw [sized] at turned
            dsimp only at turned
            have bounded := header_length sized
            split at turned
            · cases turned
            · split at turned
              · cases turned
              · split at turned
                · cases turned
                · rw [deliver_rest turned, List.length_drop, List.length_cons, List.length_cons]
                  omega

end Splitting

/-- `read`, over the buffer of the client. -/
def reader {Number : Type} [DecidableEq Number] (host : Host Number) :
    Incremental (Client Number) UInt8 (Effect Number) where
  step := turn host
  shorter := turn_shorter
  halt_append later halted := by
    rw [turn_append later (by simp [halted]), halted]
  next_append later stepped := by
    rw [turn_append later (by simp [stepped]), stepped]

/-- Two splits of one byte sequence have the same effects up to the same end, and leave
the same buffer and fragments. -/
theorem read_independent_of_chunks {Number : Type} [DecidableEq Number] (host : Host Number)
    (client : Client Number) (left right : List (List UInt8))
    (same : left.flatten = right.flatten) :
    (reader host).feedAll left (.live client []) = (reader host).feedAll right (.live client []) :=
  Incremental.feedAll_eq_of_flatten rfl same

/-- Whole numbers, and masks of zeros. -/
def plainHost : Host Nat where
  number token := Decimal.value token.text
  isZero number := number = 0
  mask _ := ⟨[0, 0, 0, 0], rfl⟩

theorem split_ping_answered :
    (reader plainHost).feedAll [[0x89], [0x01, 0x61]] (.live ⟨[], 0, [], 0⟩ []) =
        (reader plainHost).feedAll [[0x89, 0x01], [0x61]] (.live ⟨[], 0, [], 0⟩ []) ∧
      ((reader plainHost).feedAll [[0x89], [0x01, 0x61]] (.live ⟨[], 0, [], 0⟩ [])).1.length = 1 :=
  ⟨read_independent_of_chunks plainHost ⟨[], 0, [], 0⟩ _ _ (by decide), by decide +kernel⟩

end GptQueue.CodexSocket
