import GptQueue.Codex.Socket

/-! # What a conforming server sends

A server sends JSON objects as unmasked text frames with the shortest length form. Each
message may be cut into any fragments, with pings and pongs between them.
-/

namespace GptQueue.CodexSocket

/-! ## Encoding -/

/-- The second byte of a frame and its longer length. -/
def lengthBytes (size : Nat) : UInt8 × List UInt8 :=
  if size < 126 then (UInt8.ofNat size, [])
  else if size ≤ 65535 then (126, bigEndianBytes 2 size)
  else (127, bigEndianBytes 8 size)

/-- A frame that a server may send here. -/
inductive Opcode
  | continuation
  | text
  | ping
  | pong
deriving DecidableEq

def Opcode.code : Opcode → UInt8
  | .continuation => 0
  | .text => 1
  | .ping => 9
  | .pong => 10

structure Frame where
  final : Bool
  opcode : Opcode
  payload : List UInt8

def Frame.encode (sent : Frame) : List UInt8 :=
  ((if sent.final then 0x80 else 0) ||| sent.opcode.code) ::
    (lengthBytes sent.payload.length).1 ::
      ((lengthBytes sent.payload.length).2 ++ sent.payload)

/-- A ping or a pong. -/
structure Control where
  ping : Bool
  payload : List UInt8
  small : payload.length ≤ 125

def Control.frame (control : Control) : Frame :=
  ⟨true, if control.ping then .ping else .pong, control.payload⟩

/-- A part of a message and what is sent before it. -/
structure Fragment where
  before : List Control
  payload : List UInt8

/-- A JSON object as the server sends it. -/
structure Message where
  text : String
  fields : List (String × Json)
  parses : Json.parse text = some (.object fields)
  small : (Utf8.encode text).length ≤ maxMessage
  fragments : List Fragment
  nonempty : fragments ≠ []
  joined : fragments.flatMap (·.payload) = Utf8.encode text

section Expected

variable {Number : Type} [DecidableEq Number] (host : Host Number)

/-- One pong with the same payload for each ping. -/
def answer : List Control → Client Number → List (Effect Number) × Client Number
  | [], client => ([], client)
  | control :: controls, client =>
      if control.ping then
        let later := answer controls { client with drawn := client.drawn + 1 }
        (.sent (frame (host.mask client.drawn) control.payload 10) :: later.1, later.2)
      else answer controls client

/-- The pings of each message are answered, and then the message is handled. -/
def expected : List Message → List Control → Client Number → List (Effect Number) × Client Number
  | [], after, client => answer host after client
  | message :: messages, after, client =>
      let answered := answer host (message.fragments.flatMap (·.before)) client
      match handle host answered.2.pending (.object message.fields) with
      | none => answered
      | some (effects, pending) =>
          let later := expected messages after { answered.2 with pending }
          (answered.1 ++ effects ++ later.1, later.2)

end Expected

section Answers

variable {Number : Type} {host : Host Number}

end Answers

section Reading

variable {Number : Type} [DecidableEq Number] {host : Host Number} {client : Client Number}

/-- How much of a message is still to come. -/
def payloadLength (fragments : List Fragment) : Nat :=
  (fragments.flatMap (·.payload)).length

/-- A client between two messages. -/
def Client.between (pending : List Number) (drawn : Nat) : Client Number := ⟨[], 0, pending, drawn⟩

theorem Message.within (message : Message) :
    0 + payloadLength message.fragments ≤ maxMessage := by
  rw [payloadLength, message.joined, Nat.zero_add]
  exact message.small

end Reading

section Unread

/-- An empty object, padded with blanks. -/
def paddedText (blanks : Nat) : List Char := '\x7b' :: (List.replicate blanks ' ' ++ ['\x7d'])

theorem paddedText_parses (blanks : Nat) :
    Json.parse (String.ofList (paddedText blanks)) = some (.object []) := by
  have skipped : Json.skip (List.replicate blanks ' ' ++ ['\x7d']) = ['\x7d'] := by
    rw [Json.skip, List.dropWhile_append_of_pos]
    · rfl
    · intro char member
      rw [List.eq_of_mem_replicate member]
      rfl
  have read : Json.readValue ((paddedText blanks).length + 1) (paddedText blanks) =
      some (.object [], []) := by
    rw [paddedText, Json.readValue, Json.skip_of_opens (by decide)]
    simp only [skipped]
  rw [Json.parse, String.toList_ofList, read]
  rfl

theorem length_paddedText (blanks : Nat) :
    (Utf8.encode (String.ofList (paddedText blanks))).length = blanks + 2 := by
  have blank : ' '.utf8Size = 1 := rfl
  have braces : '\x7b'.utf8Size = 1 ∧ '\x7d'.utf8Size = 1 := ⟨rfl, rfl⟩
  rw [Utf8.encode, String.toList_ofList, List.length_flatMap, paddedText]
  simp [blank, braces]
  omega

def padded (blanks : Nat) (small : blanks + 2 ≤ maxMessage) : Message where
  text := String.ofList (paddedText blanks)
  fields := []
  parses := paddedText_parses blanks
  small := (length_paddedText blanks).trans_le small
  fragments := [⟨[], Utf8.encode (String.ofList (paddedText blanks))⟩]
  nonempty := List.cons_ne_nil _ _
  joined := List.append_nil _

end Unread

end GptQueue.CodexSocket
