import GptQueue.Foundation.Json
import GptQueue.Foundation.Redis

/-! # Values inside a Lua script

The `cjson` module of the server is a parameter. What a development relies on is
stated as a property of it where it is used.
-/

namespace GptQueue

/-- The `cjson` module, and the text Lua gives a number it decoded. -/
structure Cjson where
  /-- `cjson.decode`; `none` stands for a raised error. -/
  decode : String → Option Json
  encode : Json → String
  numberText : Numeral → String

namespace Cjson

/-- The text of a decoded value as a command argument. Only strings and numbers
can be one. -/
def text (cjson : Cjson) : Json → Option String
  | .string text => some text
  | .number token => some (cjson.numberText token)
  | _ => none

/-- Pass a decoded value to a command. -/
def argument {Key : Type} (cjson : Cjson) (value : Json) : Redis.Script Key String :=
  match cjson.text value with
  | some text => pure text
  | none => Redis.Script.raise .badArgument

@[simp] theorem text_string (cjson : Cjson) (text : String) :
    cjson.text (.string text) = some text := rfl

/-- The module that reads and writes exactly the compact rendering. -/
def plain : Cjson where
  decode := Json.parse
  encode := Json.render
  numberText token := String.ofList token.text

@[simp] theorem plain_decode (text : String) : plain.decode text = Json.parse text := rfl

@[simp] theorem plain_encode (value : Json) : plain.encode value = value.render := rfl

end Cjson

/-- The elements `ipairs` visits in a value that has type `table`: an array has
its elements, an object has no integer keys. -/
def tableItems : Option Json → Option (List Json)
  | some (.array items) => some items
  | some (.object _) => some []
  | _ => none

namespace Redis

variable {Key : Type}

/-- Whether `key` is absent or has the given type. -/
def holds (key : Key) (kind : Kind) : Script Key Bool := do
  match ← type key with
  | none => pure true
  | some held => pure (held == kind)

@[simp] theorem run_holds (key : Key) (kind : Kind) (keyspace : Keyspace Key) :
    (holds key kind).run keyspace = (.ok (keyspace.admits key kind), keyspace) := by
  simp only [holds, Script.run_bind, type, Keyspace.admits]
  cases keyspace.value key <;> rfl

end Redis

end GptQueue
