import GptQueue.Foundation.Incremental
import GptQueue.Foundation.JsValue
import GptQueue.Foundation.Texts
import GptQueue.Foundation.Utf8

/-! # The transcript of a thread

A reader follows the transcript file of a Codex thread as it grows and keeps a
projection of its turns.
-/

namespace GptQueue.CodexHistory

open Texts (isAbsolute)

/-! ## Turns -/

inductive Item where
  | userMessage (id : String) (content : List Json) (clientId : Option Json)
  | agentMessage (id text : String)
  | mcpToolCall (id : String) (server tool : Option Json) (status : String)

def Item.id : Item → String
  | .userMessage id _ _ => id
  | .agentMessage id _ => id
  | .mcpToolCall id _ _ _ => id

structure Turn where
  id : String
  status : String
  items : List Item

/-- What has been learned from the lines so far. -/
structure Projection where
  verified : Bool
  /-- In the order of the `Map`. -/
  turns : List Turn

/-- The fields of the thread that the reader compares. -/
structure Thread where
  id : String
  cwd : Option Json
  path : String

structure Host where
  numbers : JsValue.Numbers
  /-- `toLowerCase`. -/
  lower : String → String

section Consume

variable (host : Host)

def isTrue : Option Json → Bool
  | none => false
  | some value => JsValue.truthy host.numbers.isZero value

/-- A value is the given text. -/
def isText (value : Option Json) (text : String) : Bool := Json.asString value = some text

def projectContent (content : Option Json) : List Json :=
  match content with
  | some (.array values) =>
      values.map fun value =>
        if isText (value.field "type") "Text" then value.setField "type" (.string "text")
        else value
  | _ => []

/-- `value.text ?? ""`, as `join` writes it. -/
def contentText (value : Json) : Option String :=
  match value.field "text" with
  | none => some ""
  | some text => JsValue.element host.numbers text

def joinTexts : List Json → Option String
  | [] => some ""
  | value :: values => do
      let first ← contentText host value
      let later ← joinTexts values
      some (first ++ later)

/-- The text of `String(value)` for a field. -/
def fieldText : Option Json → Option String
  | none => some "undefined"
  | some value => JsValue.toText host.numbers value

/-- The projected item, if it is of a known type; the outer `none` when it raises. -/
def projectItem (id : String) (item : Json) : Option (Option Item) := do
  let content := projectContent (item.field "content")
  let text ← joinTexts host (content.filter fun value => isText (value.field "type") "text")
  if isText (item.field "type") "UserMessage" then
    some (some (.userMessage id content (item.field "client_id")))
  else if isText (item.field "type") "AgentMessage" then some (some (.agentMessage id text))
  else if isText (item.field "type") "McpToolCall" then do
    let status ← fieldText host (item.field "status")
    some (some (.mcpToolCall id (item.field "server") (item.field "tool") (host.lower status)))
  else some none

/-- Replace the item of the same id, at the end, and keep the last 128. -/
def addItem (items : List Item) (item : Item) : List Item :=
  let all := items.filter (fun value => value.id ≠ item.id) ++ [item]
  all.drop (all.length - 128)

/-- The turn after the payload of an event; the inner `none` for other events. -/
def updateTurn (payload : Json) (turn : Turn) : Option (Option Turn) :=
  match Json.asString (payload.field "type") with
  | some "task_started" => some (some { turn with status := "inProgress" })
  | some "task_complete" =>
      some (some { turn with
        status := if isTrue host (payload.field "error") then "failed" else "completed" })
  | some "turn_aborted" => some (some { turn with status := "interrupted" })
  | some "item_completed" =>
      match payload.field "item" with
      | none => some (some turn)
      | some item =>
          if isTrue host (some item) then
            match Json.asString (item.field "id") with
            | none => some (some turn)
            | some id => do
                match ← projectItem host id item with
                | none => some (some turn)
                | some projected =>
                    some (some { turn with items := addItem turn.items projected })
          else some (some turn)
  | _ => some none

/-- `turns.set`, and the eviction of the first turn beyond 256. -/
def setTurn (turns : List Turn) (turn : Turn) : List Turn :=
  let set :=
    if turns.any (·.id = turn.id) then turns.map fun other => if other.id = turn.id then turn else other
    else turns ++ [turn]
  if 256 < set.length then set.drop 1 else set

/-- `consume` on a parsed record; `none` when it raises. -/
def consumeRecord (thread : Thread) (projection : Projection) (record : Json) : Option Projection :=
  match record with
  | .null => none
  | _ =>
      match (record.field "payload").filter (JsValue.truthy host.numbers.isZero) with
      | none => some projection
      | some payload =>
          if projection.verified = false then
            if isText (record.field "type") "session_meta" ∧ isText (payload.field "id") thread.id ∧
                JsValue.strictEq host.numbers (payload.field "cwd") thread.cwd then
              some { projection with verified := true }
            else none
          else if isText (record.field "type") "event_msg" then
            match Json.asString (payload.field "turn_id") with
            | none => some projection
            | some id =>
                if (payload.field "thread_id").isSome ∧
                    ¬isText (payload.field "thread_id") thread.id then none
                else do
                  let turn := (projection.turns.find? (·.id = id)).getD ⟨id, "inProgress", []⟩
                  match ← updateTurn host payload turn with
                  | none => some projection
                  | some turn => some { projection with turns := setTurn projection.turns turn }
          else some projection

/-- `consume`. -/
def consume (thread : Thread) (projection : Projection) (line : List UInt8) : Option Projection :=
  (Json.parse (Utf8.decode line)).bind (consumeRecord host thread projection)

end Consume

/-! ## Lines -/

def newline : UInt8 := 10

/-- The first line of a buffer and what follows its newline. -/
def firstLine (buffer : List UInt8) : Option (List UInt8 × List UInt8) :=
  match buffer.dropWhile (· ≠ newline) with
  | [] => none
  | _ :: rest => some (buffer.takeWhile (· ≠ newline), rest)

section Lines

variable (host : Host) (thread : Thread)

/-- One turn of the inner loop of `read`. -/
def turn (projection : Projection) (buffer : List UInt8) : Parse Projection UInt8 Empty :=
  match firstLine buffer with
  | none => .more
  | some (line, rest) =>
      if line = [] then .next [] projection rest
      else
        match consume host thread projection line with
        | none => .halt []
        | some after => .next [] after rest

end Lines

theorem firstLine_eq_some {buffer line rest : List UInt8}
    (found : firstLine buffer = some (line, rest)) :
    buffer = line ++ newline :: rest ∧ newline ∉ line := by
  unfold firstLine at found
  have whole := @List.takeWhile_append_dropWhile _ (· ≠ newline) buffer
  split at found
  · cases found
  · next head tail dropped =>
      cases found
      have isNewline : head = newline := by
        have stops := List.head?_dropWhile_not (· ≠ newline) buffer
        rw [dropped] at stops
        simpa using stops
      refine ⟨?_, fun member => ?_⟩
      · rw [dropped, isNewline] at whole
        exact whole.symm
      · have differs := List.mem_takeWhile_imp member
        simp at differs

theorem firstLine_append_newline {line rest : List UInt8} (plain : newline ∉ line) :
    firstLine (line ++ newline :: rest) = some (line, rest) := by
  have keeps : ∀ byte ∈ line, decide (byte ≠ newline) = true := by
    intro byte member
    simpa using fun same : byte = newline => plain (same ▸ member)
  unfold firstLine
  rw [List.dropWhile_append_of_pos keeps, List.takeWhile_append_of_pos keeps]
  simp

theorem firstLine_eq_none {buffer : List UInt8} :
    firstLine buffer = none ↔ newline ∉ buffer := by
  constructor
  · intro none member
    unfold firstLine at none
    split at none
    · next dropped =>
        have differs := List.dropWhile_eq_nil_iff.mp dropped newline member
        simp at differs
    · cases none
  · intro plain
    cases found : firstLine buffer with
    | none => rfl
    | some parts =>
        rcases parts with ⟨line, rest⟩
        rw [(firstLine_eq_some found).1] at plain
        exact absurd (List.mem_append_right _ List.mem_cons_self) plain

theorem firstLine_append {buffer line rest : List UInt8} (later : List UInt8)
    (found : firstLine buffer = some (line, rest)) :
    firstLine (buffer ++ later) = some (line, rest ++ later) := by
  rcases firstLine_eq_some found with ⟨split, plain⟩
  rw [split, List.append_assoc, List.cons_append, firstLine_append_newline plain]

/-- The line by line reader. -/
def lines (host : Host) (thread : Thread) : Incremental Projection UInt8 Empty where
  step := turn host thread
  shorter {state after buffer rest effects} stepped := by
    unfold turn at stepped
    split at stepped
    · cases stepped
    · next line left found =>
        have length := congrArg List.length (firstLine_eq_some found).1
        rw [List.length_append, List.length_cons] at length
        split at stepped
        · cases stepped
          omega
        · split at stepped
          · cases stepped
          · cases stepped
            omega
  halt_append {state buffer effects} later stepped := by
    unfold turn at stepped ⊢
    split at stepped
    · cases stepped
    · next line left found =>
        rw [firstLine_append later found]
        dsimp only
        split at stepped
        · cases stepped
        · next nonempty =>
            rw [if_neg nonempty]
            split at stepped
            · cases stepped
              rfl
            · cases stepped
  next_append {state after buffer rest effects} later stepped := by
    unfold turn at stepped ⊢
    split at stepped
    · cases stepped
    · next line left found =>
        rw [firstLine_append later found]
        dsimp only
        split at stepped
        · next empty =>
            cases stepped
            rw [if_pos empty]
        · next nonempty =>
            rw [if_neg nonempty]
            split at stepped
            · cases stepped
            · cases stepped
              rfl

/-! ## Reading the file -/

/-- The largest read from the file, and the longest incomplete line. -/
def chunkSize : Nat := 64 * 1024

def maxLine : Nat := 32 * 1024 * 1024

structure History where
  path : String
  offset : Nat
  pending : List UInt8
  projection : Projection
  invalid : Bool

/-- A new reader. -/
def History.fresh : History := ⟨"", 0, [], ⟨false, []⟩, false⟩

/-- What `open` and `stat` find. -/
inductive Opened where
  | failed
  | notFile
  | file (bytes : List UInt8)

/-- How many bytes each read of the file gives at most, and at least one. -/
abbrev Grants := Nat → ℕ+

section Read

variable (host : Host) (thread : Thread)

/-- The loop over the file, with at most so many reads. `none` when it raises. -/
def readLoop (bytes : List UInt8) (grants : Grants) :
    Nat → Nat → List UInt8 → Projection → Option (Nat × List UInt8 × Projection)
  | 0, offset, pending, projection => some (offset, pending, projection)
  | fuel + 1, offset, pending, projection =>
      if offset < bytes.length then
        let bytesRead := min (grants fuel).val (min chunkSize (bytes.length - offset))
        match ((lines host thread).read projection
            (pending ++ (bytes.drop offset).take bytesRead)).2 with
        | .ended => none
        | .live projection pending =>
            if maxLine < pending.length then none
            else readLoop bytes grants fuel (offset + bytesRead) pending projection
      else some (offset, pending, projection)

/-- An exception poisons the reader. -/
def poisoned (history : History) : Option (List Turn) × History :=
  (none, { history with invalid := true })

/-- `read`: the turns, or `none` when it raises, and the reader afterwards. -/
def read (opened : Opened) (grants : Grants) (history : History) :
    Option (List Turn) × History :=
  if isAbsolute thread.path = false then (none, history)
  else
    let history := if history.path = thread.path then history
      else { History.fresh with path := thread.path }
    if history.invalid then (none, history)
    else
      match opened with
      | .failed => (none, history)
      | .notFile => poisoned history
      | .file bytes =>
          if bytes.length < history.offset then poisoned history
          else
            match readLoop host thread bytes grants (bytes.length - history.offset)
                history.offset history.pending history.projection with
            | none => poisoned history
            | some (offset, pending, projection) =>
                if projection.verified then
                  (some projection.turns, { history with offset, pending, projection })
                else poisoned history

/-- Successive successful reads of a file to which pieces are appended. -/
def readAll : List (List UInt8 × Grants) → List UInt8 → History → Option (List UInt8 × History)
  | [], bytes, history => some (bytes, history)
  | (piece, grants) :: pieces, bytes, history =>
      match read host thread (.file (bytes ++ piece)) grants history with
      | (some _, after) => readAll pieces (bytes ++ piece) after
      | (none, _) => none

end Read

/-! ## Independence -/

/-- The complete lines of a file, and the bytes after the last newline. -/
def completeLines (bytes : List UInt8) : List (List UInt8) := (bytes.splitOn newline).dropLast

def lastPart (bytes : List UInt8) : List UInt8 := (bytes.splitOn newline).getLastD []

/-- Consume lines in order, each once; empty lines are skipped. -/
def consumeAll (host : Host) (thread : Thread) : List (List UInt8) → Projection → Option Projection
  | [], projection => some projection
  | line :: lines, projection =>
      if line = [] then consumeAll host thread lines projection
      else (consume host thread projection line).bind (consumeAll host thread lines)

/-- Complete lines within the limit; the last, incomplete one may be of any length. -/
def LinesFit (bytes : List UInt8) : Prop := ∀ line ∈ completeLines bytes, line.length ≤ maxLine

section Parts

theorem completeLines_of_plain {bytes : List UInt8} (plain : newline ∉ bytes) :
    completeLines bytes = [] ∧ lastPart bytes = bytes := by
  rw [completeLines, lastPart, List.splitOn_eq_singleton plain]
  exact ⟨rfl, rfl⟩

theorem completeLines_cons {line : List UInt8} (plain : newline ∉ line) (rest : List UInt8) :
    completeLines (line ++ newline :: rest) = line :: completeLines rest ∧
      lastPart (line ++ newline :: rest) = lastPart rest := by
  have nonempty := List.splitOn_ne_nil newline rest
  rw [completeLines, lastPart, List.splitOn_append_cons_self_of_not_mem plain,
    completeLines, lastPart]
  cases parts : rest.splitOn newline with
  | nil => exact absurd parts nonempty
  | cons first others => exact ⟨rfl, rfl⟩

/-- A text is a line and more, or has no newline. -/
theorem plain_or_cons (bytes : List UInt8) :
    newline ∉ bytes ∨ ∃ line rest, newline ∉ line ∧ bytes = line ++ newline :: rest ∧
      rest.length < bytes.length := by
  cases found : firstLine bytes with
  | none => exact Or.inl (firstLine_eq_none.mp found)
  | some parts =>
      rcases parts with ⟨line, rest⟩
      rcases firstLine_eq_some found with ⟨split, plain⟩
      refine Or.inr ⟨line, rest, plain, split, ?_⟩
      rw [split, List.length_append, List.length_cons]
      omega

/-- The lines of a longer text go on from the last part of a shorter one. -/
theorem completeLines_append (bytes later : List UInt8) :
    completeLines (bytes ++ later) =
        completeLines bytes ++ completeLines (lastPart bytes ++ later) ∧
      lastPart (bytes ++ later) = lastPart (lastPart bytes ++ later) ∧
      newline ∉ lastPart bytes := by
  generalize size : bytes.length = length
  induction length using Nat.strong_induction_on generalizing bytes with
  | h length induction =>
      subst size
      rcases plain_or_cons bytes with plain | ⟨line, rest, plain, split, shorter⟩
      · rcases completeLines_of_plain plain with ⟨none, all⟩
        rw [none, all]
        exact ⟨rfl, rfl, plain⟩
      · rcases induction rest.length shorter rest rfl with ⟨linesEq, lastEq, plainRest⟩
        rcases completeLines_cons plain rest with ⟨first, last⟩
        rcases completeLines_cons plain (rest ++ later) with ⟨firstLater, lastLater⟩
        rw [split, List.append_assoc, List.cons_append, first, last, firstLater, lastLater]
        exact ⟨congrArg (line :: ·) linesEq, lastEq, plainRest⟩

theorem LinesFit.of_append {bytes later : List UInt8} (fits : LinesFit (bytes ++ later)) :
    LinesFit bytes ∧ LinesFit (lastPart bytes ++ later) := by
  have split := (completeLines_append bytes later).1
  refine ⟨fun line member => fits line ?_, fun line member => fits line ?_⟩
  · rw [split]
    exact List.mem_append_left _ member
  · rw [split]
    exact List.mem_append_right _ member

/-- A part that is too long for a line stays incomplete. -/
theorem LinesFit.plain_of_long {part later : List UInt8} (fits : LinesFit (part ++ later))
    (plain : newline ∉ part) (long : maxLine < part.length) : newline ∉ later := by
  rcases plain_or_cons later with none | ⟨line, rest, plainLine, split, -⟩
  · exact none
  · have whole : newline ∉ part ++ line := by
      rw [List.mem_append]
      exact not_or.mpr ⟨plain, plainLine⟩
    rw [split, ← List.append_assoc] at fits
    have bounded := fits (part ++ line) (by
      rw [(completeLines_cons whole rest).1]
      exact List.mem_cons_self)
    rw [List.length_append] at bounded
    omega

end Parts

section Reads

variable {host : Host} {thread : Thread}

theorem consumeAll_append (left right : List (List UInt8)) (projection : Projection) :
    consumeAll host thread (left ++ right) projection =
      (consumeAll host thread left projection).bind (consumeAll host thread right) := by
  induction left generalizing projection with
  | nil => rfl
  | cons line left induction =>
      rw [List.cons_append, consumeAll, consumeAll]
      split
      · exact induction projection
      · cases consume host thread projection line with
        | none => rfl
        | some after => exact induction after

/-- What the inner loop leaves: the complete lines are consumed, the last part stays. -/
theorem read_lines (projection : Projection) (buffer : List UInt8) :
    ((lines host thread).read projection buffer).2 =
      match consumeAll host thread (completeLines buffer) projection with
      | none => .ended
      | some after => .live after (lastPart buffer) := by
  apply (lines host thread).read_induction (motive := fun projection buffer _ input =>
    input = match consumeAll host thread (completeLines buffer) projection with
      | none => .ended
      | some after => .live after (lastPart buffer))
  · intro projection buffer stepped
    have stepped : turn host thread projection buffer = .more := stepped
    unfold turn at stepped
    split at stepped
    · next none =>
        rcases completeLines_of_plain (firstLine_eq_none.mp none) with ⟨empty, all⟩
        rw [empty, all]
        rfl
    · split at stepped
      · cases stepped
      · split at stepped <;> cases stepped
  · intro projection buffer effects stepped
    have stepped : turn host thread projection buffer = .halt effects := stepped
    unfold turn at stepped
    split at stepped
    · cases stepped
    · next line rest found =>
        rcases firstLine_eq_some found with ⟨split, plain⟩
        split at stepped
        · cases stepped
        · next nonempty =>
            split at stepped
            · next raised =>
                rw [split, (completeLines_cons plain rest).1, consumeAll, if_neg nonempty, raised]
                rfl
            · cases stepped
  · intro projection buffer effects after rest stepped induction
    have stepped : turn host thread projection buffer = .next effects after rest := stepped
    rw [induction]
    unfold turn at stepped
    split at stepped
    · cases stepped
    · next line left found =>
        rcases firstLine_eq_some found with ⟨split, plain⟩
        rcases completeLines_cons plain left with ⟨first, last⟩
        split at stepped
        · next empty =>
            cases stepped
            rw [split, first, last, consumeAll, if_pos empty]
        · next nonempty =>
            split at stepped
            · cases stepped
            · next consumed =>
                cases stepped
                rw [split, first, last, consumeAll, if_neg nonempty, consumed]
                rfl

/-- What the loop over the file comes to with the rest of the file behind the buffer. -/
def loopResult (host : Host) (thread : Thread) (size : Nat) (rest : List UInt8)
    (projection : Projection) : Option (Nat × List UInt8 × Projection) :=
  match consumeAll host thread (completeLines rest) projection with
  | none => none
  | some after =>
      if maxLine < (lastPart rest).length then none else some (size, lastPart rest, after)

theorem loopResult_of_plain {size : Nat} {rest : List UInt8} {projection : Projection}
    (plain : newline ∉ rest) :
    loopResult host thread size rest projection =
      if maxLine < rest.length then none else some (size, rest, projection) := by
  rcases completeLines_of_plain plain with ⟨none, all⟩
  rw [loopResult, none, all, consumeAll]

/-- Whatever each read gives, the loop comes to the same. By induction on the reads: the
buffer holds the last part of what has been read. -/
theorem readLoop_eq {bytes : List UInt8} {grants : Grants} {fuel offset : Nat}
    {pending : List UInt8} {projection : Projection} (inside : offset ≤ bytes.length)
    (enough : bytes.length - offset ≤ fuel) (plain : newline ∉ pending)
    (short : pending.length ≤ maxLine) (fits : LinesFit (pending ++ bytes.drop offset)) :
    readLoop host thread bytes grants fuel offset pending projection =
      loopResult host thread bytes.length (pending ++ bytes.drop offset) projection := by
  have finished : bytes.length ≤ offset → some (offset, pending, projection) =
      loopResult host thread bytes.length (pending ++ bytes.drop offset) projection := by
    intro done
    have same : offset = bytes.length := by omega
    rw [List.drop_eq_nil_of_le done, List.append_nil, loopResult_of_plain plain,
      if_neg (by omega), same]
  induction fuel generalizing offset pending projection with
  | zero => exact finished (by omega)
  | succ fuel induction =>
      rw [readLoop]
      by_cases more : offset < bytes.length
      · rw [if_pos more]
        dsimp only
        have positive := (grants fuel).pos
        have chunked : 0 < chunkSize := by decide
        generalize isRead : min (grants fuel).val (min chunkSize (bytes.length - offset)) = count
        have some : 0 < count := by omega
        have bounded : count ≤ bytes.length - offset := by omega
        clear isRead
        have split : pending ++ bytes.drop offset =
            (pending ++ (bytes.drop offset).take count) ++ bytes.drop (offset + count) := by
          rw [List.append_assoc, ← List.drop_drop, List.take_append_drop]
        rw [split] at fits ⊢
        generalize pending ++ (bytes.drop offset).take count = buffer at *
        rcases completeLines_append buffer (bytes.drop (offset + count)) with
          ⟨linesEq, lastEq, plainLast⟩
        have later := fits.of_append.2
        rw [read_lines, loopResult, linesEq, lastEq, consumeAll_append]
        cases consumed : consumeAll host thread (completeLines buffer) projection with
        | none => rfl
        | some after =>
            dsimp only
            rw [Option.bind_some]
            by_cases long : maxLine < (lastPart buffer).length
            · rw [if_pos long]
              have whole : newline ∉ lastPart buffer ++ bytes.drop (offset + count) := by
                rw [List.mem_append]
                exact not_or.mpr ⟨plainLast, later.plain_of_long plainLast long⟩
              have rest := @loopResult_of_plain host thread bytes.length _ after whole
              rw [if_pos (by rw [List.length_append]; omega)] at rest
              exact rest.symm
            · rw [if_neg long]
              apply induction (by omega) (by omega) plainLast (by omega) later
              intro done
              have same : offset + count = bytes.length := by omega
              rw [List.drop_eq_nil_of_le done, List.append_nil, loopResult_of_plain plainLast,
                if_neg long, same]
      · rw [if_neg more]
        exact finished (by omega)

/-! ## Whole reads -/

/-- The state of a reader that has read the bytes. -/
structure Follows (host : Host) (thread : Thread) (bytes : List UInt8) (history : History) :
    Prop where
  valid : history.invalid = false
  offset : history.offset = bytes.length
  pending : history.pending = lastPart bytes
  consumed : consumeAll host thread (completeLines bytes) ⟨false, []⟩ = some history.projection
  short : (lastPart bytes).length ≤ maxLine

/-- The turns of a transcript. -/
def turnsOf (host : Host) (thread : Thread) (bytes : List UInt8) : Option (List Turn) :=
  (loopResult host thread bytes.length bytes ⟨false, []⟩).bind fun (_, _, projection) =>
    if projection.verified then some projection.turns else none

theorem follows_fresh : Follows host thread [] History.fresh :=
  ⟨rfl, rfl, rfl, rfl, Nat.zero_le _⟩

/-- Reading on from where the reader is comes to what reading all of it does. -/
theorem loopResult_append {bytes : List UInt8} {history : History}
    (follows : Follows host thread bytes history) (piece : List UInt8) (size : Nat) :
    loopResult host thread size (lastPart bytes ++ piece) history.projection =
      loopResult host thread size (bytes ++ piece) ⟨false, []⟩ := by
  rcases completeLines_append bytes piece with ⟨linesEq, lastEq, -⟩
  rw [loopResult, loopResult, linesEq, lastEq, consumeAll_append, follows.consumed,
    Option.bind_some]

/-- The reader that `read` goes on with, for the path of the thread. -/
def History.on (history : History) (path : String) : History :=
  if history.path = path then history else { History.fresh with path }

theorem follows_on {bytes : List UInt8} {history : History} {path : String}
    (follows : Follows host thread bytes history)
    (reader : history.path = path ∨ bytes = []) :
    Follows host thread bytes (history.on path) ∧ (history.on path).path = path := by
  unfold History.on
  split
  · next same => exact ⟨follows, same⟩
  · next other =>
      have empty := reader.resolve_left other
      subst empty
      exact ⟨⟨rfl, rfl, rfl, rfl, Nat.zero_le _⟩, rfl⟩

/-- A read of a file that goes on from what the reader has read. -/
theorem read_file {bytes piece : List UInt8} {grants : Grants} {history : History}
    (absolute : isAbsolute thread.path = true) (follows : Follows host thread bytes history)
    (reader : history.path = thread.path ∨ bytes = []) (fits : LinesFit (bytes ++ piece)) :
    (read host thread (.file (bytes ++ piece)) grants history).1 =
        turnsOf host thread (bytes ++ piece) ∧
      ((read host thread (.file (bytes ++ piece)) grants history).1 ≠ none →
        Follows host thread (bytes ++ piece)
            (read host thread (.file (bytes ++ piece)) grants history).2 ∧
          (read host thread (.file (bytes ++ piece)) grants history).2.path = thread.path) := by
  rcases follows_on follows reader with ⟨followsOn, path⟩
  have unread : lastPart bytes ++ (bytes ++ piece).drop bytes.length = lastPart bytes ++ piece := by
    rw [List.drop_left]
  have loop := @readLoop_eq host thread (bytes ++ piece) grants
    ((bytes ++ piece).length - bytes.length) bytes.length (lastPart bytes)
    (history.on thread.path).projection (by simp) le_rfl
    (completeLines_append bytes []).2.2 follows.short (unread ▸ fits.of_append.2)
  rw [unread, loopResult_append followsOn] at loop
  have size : ¬(bytes ++ piece).length < bytes.length := by
    rw [List.length_append]
    omega
  unfold read
  rw [if_neg (by simp [absolute])]
  dsimp only
  rw [show (if history.path = thread.path then history
      else { History.fresh with path := thread.path }) = history.on thread.path from rfl,
    followsOn.valid, followsOn.offset, followsOn.pending, if_neg Bool.false_ne_true, if_neg size,
    loop, turnsOf]
  cases result : loopResult host thread (bytes ++ piece).length (bytes ++ piece) ⟨false, []⟩ with
  | none => exact ⟨rfl, fun some => absurd rfl some⟩
  | some parts =>
      rcases parts with ⟨offset, pending, projection⟩
      dsimp only
      rw [Option.bind_some]
      dsimp only
      split
      · refine ⟨rfl, fun _ => ⟨?_, path⟩⟩
        unfold loopResult at result
        split at result
        · cases result
        · next consumed =>
            split at result
            · cases result
            · next short =>
                cases result
                exact ⟨rfl, rfl, rfl, consumed, Nat.le_of_not_lt short⟩
      · exact ⟨rfl, fun some => absurd rfl some⟩

theorem readAll_extends {pieces : List (List UInt8 × Grants)} {bytes file : List UInt8}
    {history last : History}
    (earlier : readAll host thread pieces bytes history = some (file, last)) :
    ∃ rest, file = bytes ++ rest := by
  induction pieces generalizing bytes history with
  | nil =>
      cases earlier
      exact ⟨[], (List.append_nil _).symm⟩
  | cons entry pieces induction =>
      rcases entry with ⟨piece, grants⟩
      rw [readAll] at earlier
      split at earlier
      · rcases induction earlier with ⟨rest, whole⟩
        exact ⟨piece ++ rest, by rw [whole, List.append_assoc]⟩
      · cases earlier

/-- Successful reads follow the file. By induction on the pieces. -/
theorem follows_readAll {pieces : List (List UInt8 × Grants)} {bytes file : List UInt8}
    {history last : History} (absolute : isAbsolute thread.path = true)
    (follows : Follows host thread bytes history)
    (reader : history.path = thread.path ∨ bytes = [])
    (earlier : readAll host thread pieces bytes history = some (file, last))
    (fits : LinesFit file) :
    Follows host thread file last ∧ (last.path = thread.path ∨ file = []) := by
  induction pieces generalizing bytes history with
  | nil =>
      cases earlier
      exact ⟨follows, reader⟩
  | cons entry pieces induction =>
      rcases entry with ⟨piece, grants⟩
      rw [readAll] at earlier
      split at earlier
      · next turns after readPiece =>
          rcases readAll_extends earlier with ⟨rest, whole⟩
          have pieceFits : LinesFit (bytes ++ piece) := (whole ▸ fits : LinesFit _).of_append.1
          have next := (@read_file host thread bytes piece grants history absolute follows reader
            pieceFits).2 (by rw [readPiece]; exact Option.some_ne_none turns)
          rw [readPiece] at next
          exact induction next.1 (Or.inl next.2) earlier
      · cases earlier

/-- After successful reads of a growing transcript the next read has the result of a new
reader's, however the file system cuts the reads, and has consumed every complete line
once and in order. -/
theorem incremental_read_eq_fresh (host : Host) (thread : Thread)
    (pieces : List (List UInt8 × Grants)) (file : List UInt8) (history : History)
    (earlier : readAll host thread pieces [] History.fresh = some (file, history))
    (piece : List UInt8) (fits : LinesFit (file ++ piece)) (grants freshGrants : Grants) :
    (read host thread (.file (file ++ piece)) grants history).1 =
        (read host thread (.file (file ++ piece)) freshGrants History.fresh).1 ∧
      ((read host thread (.file (file ++ piece)) grants history).1 ≠ none →
        consumeAll host thread (completeLines (file ++ piece)) ⟨false, []⟩ =
            some (read host thread (.file (file ++ piece)) grants history).2.projection ∧
          (read host thread (.file (file ++ piece)) grants history).2.pending =
            lastPart (file ++ piece)) := by
  by_cases absolute : isAbsolute thread.path = true
  · rcases follows_readAll absolute follows_fresh (Or.inr rfl) earlier fits.of_append.1 with
      ⟨follows, reader⟩
    rcases @read_file host thread file piece grants history absolute follows reader fits with
      ⟨result, next⟩
    have fresh := @read_file host thread [] (file ++ piece) freshGrants History.fresh absolute
      follows_fresh (Or.inr rfl) fits
    refine ⟨result.trans fresh.1.symm, fun some => ?_⟩
    exact ⟨(next some).1.consumed, (next some).1.pending⟩
  · have refused : ∀ (grants : Grants) (history : History),
        read host thread (.file (file ++ piece)) grants history = (none, history) := by
      intro grants history
      unfold read
      rw [if_pos (by simpa using absolute)]
    rw [refused, refused]
    exact ⟨rfl, fun some => absurd rfl some⟩

end Reads

/-! A transcript that grows in the middle of a line. -/

section Growing

def exampleHost : Host where
  numbers := ⟨fun token => Decimal.value token.text = 0, fun left right => left = right,
    fun token => String.ofList token.text⟩
  lower := String.toLower

def exampleThread : Thread := ⟨"t", some (.string "/w"), "/t.jsonl"⟩

/-- The identity of the transcript, and the beginning of an event. -/
def firstPiece : List UInt8 := Utf8.encode
  "\x7b\"type\":\"session_meta\",\"payload\":\x7b\"id\":\"t\",\"cwd\":\"/w\"\x7d\x7d\n\x7b\"type\":"

def secondPiece : List UInt8 := Utf8.encode
  "\"event_msg\",\"payload\":\x7b\"type\":\"task_started\",\"turn_id\":\"1\"\x7d\x7d\n"

instance (bytes : List UInt8) : Decidable (LinesFit bytes) :=
  inferInstanceAs (Decidable (∀ line ∈ completeLines bytes, line.length ≤ maxLine))

theorem growing_read_eq_fresh : ∃ history,
    readAll exampleHost exampleThread [(firstPiece, fun _ => 7)] [] History.fresh =
        some (firstPiece, history) ∧
      (read exampleHost exampleThread (.file (firstPiece ++ secondPiece)) (fun _ => 3) history).1 =
        (read exampleHost exampleThread (.file (firstPiece ++ secondPiece)) (fun _ => 65536)
          History.fresh).1 := by
  have succeeds : ((readAll exampleHost exampleThread [(firstPiece, fun _ => 7)] []
      History.fresh).map Prod.fst) = some firstPiece := by decide +kernel
  rcases Option.map_eq_some_iff.mp succeeds with ⟨⟨file, history⟩, earlier, rfl⟩
  exact ⟨history, earlier, (incremental_read_eq_fresh exampleHost exampleThread _ _ history earlier
    secondPiece (by decide +kernel) _ _).1⟩

/-- The event that was cut has begun a turn. -/
example : ((read exampleHost exampleThread (.file (firstPiece ++ secondPiece)) (fun _ => 65536)
    History.fresh).1.map fun turns => turns.map (·.status)) = some ["inProgress"] := by
  decide +kernel

end Growing

end GptQueue.CodexHistory
