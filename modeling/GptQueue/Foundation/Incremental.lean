import Mathlib.Tactic

/-! # Incremental parsers

A parser takes items from the front of a buffer that grows by chunks. When a longer
buffer never changes a decision it has made, the effects of a run and what is left of
the buffer do not depend on how the input was split into chunks.
-/

namespace GptQueue

inductive Parse (State Item Effect : Type) where
  | more
  /-- It ends, and takes no further input. -/
  | halt (effects : List Effect)
  | next (effects : List Effect) (state : State) (rest : List Item)

inductive Feed (State Item : Type) where
  | live (state : State) (buffer : List Item)
  | ended

/-- A parser that consumes its input and stands by its decisions. -/
structure Incremental (State Item Effect : Type) where
  step : State → List Item → Parse State Item Effect
  shorter : ∀ {state after : State} {buffer rest : List Item} {effects : List Effect},
    step state buffer = .next effects after rest → rest.length < buffer.length
  halt_append : ∀ {state : State} {buffer : List Item} {effects : List Effect}
    (later : List Item), step state buffer = .halt effects →
      step state (buffer ++ later) = .halt effects
  next_append : ∀ {state after : State} {buffer rest : List Item} {effects : List Effect}
    (later : List Item), step state buffer = .next effects after rest →
      step state (buffer ++ later) = .next effects after (rest ++ later)

namespace Incremental

variable {State Item Effect : Type} (parser : Incremental State Item Effect)

/-- The parser's loop over its buffer. -/
def drain : Nat → State → List Item → List Effect × Feed State Item
  | 0, state, buffer => ([], .live state buffer)
  | fuel + 1, state, buffer =>
      match parser.step state buffer with
      | .more => ([], .live state buffer)
      | .halt effects => (effects, .ended)
      | .next effects after rest =>
          let later := drain fuel after rest
          (effects ++ later.1, later.2)

def read (state : State) (buffer : List Item) : List Effect × Feed State Item :=
  parser.drain (buffer.length + 1) state buffer

def feed (chunk : List Item) : Feed State Item → List Effect × Feed State Item
  | .live state buffer => parser.read state (buffer ++ chunk)
  | .ended => ([], .ended)

def feedAll : List (List Item) → Feed State Item → List Effect × Feed State Item
  | [], input => ([], input)
  | chunk :: chunks, input =>
      let first := parser.feed chunk input
      let later := feedAll chunks first.2
      (first.1 ++ later.1, later.2)

variable {parser} {state after : State} {buffer rest : List Item} {effects : List Effect}

theorem drain_of_length_lt {fuel : Nat} (enough : buffer.length < fuel) :
    parser.drain fuel state buffer = parser.read state buffer := by
  rw [read]
  generalize more : buffer.length + 1 = other
  have alsoEnough : buffer.length < other := by omega
  clear more
  induction fuel generalizing state buffer other with
  | zero => omega
  | succ fuel induction =>
      cases other with
      | zero => omega
      | succ other =>
          rw [drain, drain]
          cases stepped : parser.step state buffer with
          | more => rfl
          | halt effects => rfl
          | next effects after rest =>
              have shorter := parser.shorter stepped
              dsimp only
              rw [induction (by omega) other (by omega)]

theorem read_of_more (stepped : parser.step state buffer = .more) :
    parser.read state buffer = ([], .live state buffer) := by
  rw [read, drain, stepped]

theorem read_of_halt (stepped : parser.step state buffer = .halt effects) :
    parser.read state buffer = (effects, .ended) := by
  rw [read, drain, stepped]

theorem read_of_next (stepped : parser.step state buffer = .next effects after rest) :
    parser.read state buffer =
      (effects ++ (parser.read after rest).1, (parser.read after rest).2) := by
  rw [read, drain, stepped]
  dsimp only
  rw [drain_of_length_lt (parser.shorter stepped)]

/-- Induction along the steps of a read, which makes the buffer shorter each time. -/
theorem read_induction {motive : State → List Item → List Effect → Feed State Item → Prop}
    (more : ∀ state buffer, parser.step state buffer = .more →
      motive state buffer [] (.live state buffer))
    (halt : ∀ state buffer effects, parser.step state buffer = .halt effects →
      motive state buffer effects .ended)
    (next : ∀ state buffer effects after rest, parser.step state buffer = .next effects after rest →
      motive after rest (parser.read after rest).1 (parser.read after rest).2 →
      motive state buffer (effects ++ (parser.read after rest).1) (parser.read after rest).2)
    (state : State) (buffer : List Item) :
    motive state buffer (parser.read state buffer).1 (parser.read state buffer).2 := by
  generalize size : buffer.length = length
  induction length using Nat.strong_induction_on generalizing state buffer with
  | h length induction =>
      subst size
      cases stepped : parser.step state buffer with
      | more =>
          rw [read_of_more stepped]
          exact more state buffer stepped
      | halt effects =>
          rw [read_of_halt stepped]
          exact halt state buffer effects stepped
      | next effects after rest =>
          rw [read_of_next stepped]
          apply next state buffer effects after rest stepped
          exact induction rest.length (parser.shorter stepped) after rest rfl

/-- Reading on after more input has come is reading all of it. -/
theorem feed_read (later : List Item) :
    parser.read state (buffer ++ later) =
      ((parser.read state buffer).1 ++ (parser.feed later (parser.read state buffer).2).1,
        (parser.feed later (parser.read state buffer).2).2) := by
  apply parser.read_induction (motive := fun state buffer effects input =>
    parser.read state (buffer ++ later) =
      (effects ++ (parser.feed later input).1, (parser.feed later input).2))
  · intro state buffer stepped
    rfl
  · intro state buffer effects stepped
    rw [read_of_halt (parser.halt_append later stepped)]
    simp [feed]
  · intro state buffer effects after rest stepped induction
    rw [read_of_next (parser.next_append later stepped), induction]
    simp

/-- Chunks fed after a buffer has been read are as one text read. -/
theorem feedAll_read (chunks : List (List Item)) :
    parser.read state (buffer ++ chunks.flatten) =
      ((parser.read state buffer).1 ++ (parser.feedAll chunks (parser.read state buffer).2).1,
        (parser.feedAll chunks (parser.read state buffer).2).2) := by
  induction chunks generalizing buffer with
  | nil => simp [feedAll]
  | cons chunk chunks induction =>
      rw [List.flatten_cons, ← List.append_assoc, induction, feed_read chunk, feedAll]
      simp

theorem feedAll_eq_read (settled : parser.step state buffer = .more)
    (chunks : List (List Item)) :
    parser.feedAll chunks (.live state buffer) = parser.read state (buffer ++ chunks.flatten) := by
  rw [feedAll_read, read_of_more settled, List.nil_append]

/-- The run does not depend on how the input is split. -/
theorem feedAll_eq_of_flatten (settled : parser.step state buffer = .more)
    {left right : List (List Item)} (same : left.flatten = right.flatten) :
    parser.feedAll left (.live state buffer) = parser.feedAll right (.live state buffer) := by
  rw [feedAll_eq_read settled, feedAll_eq_read settled, same]

end Incremental

end GptQueue
