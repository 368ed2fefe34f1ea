import GptQueue.Foundation.Texts

/-! # Resolved paths

A resolved path is determined by its segments, and one resolved path lies below another
when it continues the segments of the other.
-/

namespace GptQueue.Texts

/-- The names between the separators of a path. -/
def segments (path : List Char) : List (List Char) := (path.splitOn '/').filter (· ≠ [])

/-- A name that a resolved path can have. -/
structure IsSegment (segment : List Char) : Prop where
  nonempty : segment ≠ []
  plain : '/' ∉ segment

/-! ## Segments -/

theorem segments_separator (before after : List Char) :
    segments (before ++ '/' :: after) = segments before ++ segments after := by
  rw [segments, List.splitOn_append_cons_self, List.filter_append]
  rfl

theorem segments_root (path : List Char) : segments ('/' :: path) = segments path := by
  have split := segments_separator [] path
  rw [List.nil_append] at split
  rw [split]
  rfl

/-- No part of a split contains the separator. -/
theorem notMem_splitOn {path part : List Char} (isPart : part ∈ path.splitOn '/') :
    '/' ∉ part := by
  induction path generalizing part with
  | nil =>
      have empty : part = [] := by simpa using isPart
      rw [empty]
      exact List.not_mem_nil
  | cons char path induction =>
      rw [List.splitOn_cons_eq_if_modifyHead] at isPart
      split at isPart
      · rcases List.mem_cons.mp isPart with empty | later
        · rw [empty]
          exact List.not_mem_nil
        · exact induction later
      next other =>
        rcases List.exists_cons_of_ne_nil (List.splitOn_ne_nil '/' path) with ⟨first, rest, parts⟩
        rw [parts, List.modifyHead_cons] at isPart
        rw [parts] at induction
        rcases List.mem_cons.mp isPart with extended | later
        · rw [extended, List.mem_cons, not_or]
          refine ⟨?_, induction List.mem_cons_self⟩
          intro same
          exact other (by rw [← same]; exact beq_self_eq_true _)
        · exact induction (List.mem_cons_of_mem _ later)

theorem isSegment_walk {before parts : List (List Char)}
    (named : ∀ segment ∈ before, IsSegment segment) (plain : ∀ part ∈ parts, '/' ∉ part) :
    ∀ segment ∈ walk before parts, IsSegment segment := by
  induction parts generalizing before with
  | nil => exact named
  | cons part parts induction =>
      have rest : ∀ other ∈ parts, '/' ∉ other :=
        fun other member => plain other (List.mem_cons_of_mem _ member)
      rw [walk]
      split
      · exact induction named rest
      next notEmpty =>
        split
        · exact induction (fun segment member => named segment (List.mem_of_mem_tail member)) rest
        · apply induction _ rest
          intro segment member
          rcases List.mem_cons.mp member with rfl | earlier
          · exact ⟨fun empty => notEmpty (Or.inl empty), plain segment List.mem_cons_self⟩
          · exact named segment earlier

/-! ## Joined segments -/

/-- The absolute path with these segments. -/
def join (names : List (List Char)) : List Char := '/' :: List.intercalate ['/'] names

theorem segments_join {names : List (List Char)} (named : ∀ name ∈ names, IsSegment name) :
    segments (join names) = names := by
  rw [join, segments_root]
  cases names with
  | nil => rfl
  | cons first rest =>
      have plain : ∀ name ∈ first :: rest, '/' ∉ name :=
        fun name member => (named name member).plain
      rw [segments, List.splitOn_intercalate '/' plain (List.cons_ne_nil _ _), List.filter_eq_self]
      intro name member
      exact decide_eq_true (named name member).nonempty

theorem intercalate_append (before : List (List Char)) (first : List Char)
    (rest : List (List Char)) (nonempty : before ≠ []) :
    List.intercalate ['/'] (before ++ first :: rest) =
      List.intercalate ['/'] before ++ '/' :: List.intercalate ['/'] (first :: rest) := by
  induction before with
  | nil => exact absurd rfl nonempty
  | cons name before induction =>
      cases before with
      | nil => simp
      | cons next before =>
          have later := induction (List.cons_ne_nil _ _)
          rw [List.cons_append, List.cons_append, List.intercalate_cons_cons,
            List.intercalate_cons_cons, ← List.cons_append, later]
          simp

/-- A path lies below a directory other than the root, by its text and by its segments. -/
theorem isPrefix_join_iff {directory path : List (List Char)}
    (named : ∀ name ∈ path, IsSegment name)
    (names : ∀ name ∈ directory, IsSegment name) (notRoot : directory ≠ []) :
    (join path = join directory ∨ join directory ++ ['/'] <+: join path) ↔ directory <+: path := by
  constructor
  · intro below
    rcases below with same | ⟨rest, continues⟩
    · have equal := congrArg segments same
      rw [segments_join named, segments_join names] at equal
      exact ⟨[], by rw [equal, List.append_nil]⟩
    · refine ⟨segments rest, ?_⟩
      have parts := segments_separator (join directory) rest
      rw [List.append_cons, continues, segments_join named, segments_join names] at parts
      exact parts.symm
  · intro below
    rcases below with ⟨rest, rfl⟩
    cases rest with
    | nil => exact Or.inl (by rw [List.append_nil])
    | cons first rest =>
        refine Or.inr ⟨List.intercalate ['/'] (first :: rest), ?_⟩
        rw [join, join, intercalate_append directory first rest notRoot]
        simp

/-! ## The result of resolving -/

/-- The segments of a resolved path. -/
def resolvedSegments (cwd path : String) : List (List Char) :=
  (walk (if isAbsolute path then [] else walk [] (cwd.toList.splitOn '/'))
    (path.toList.splitOn '/')).reverse

theorem toList_resolve (cwd path : String) :
    (resolve cwd path).toList = join (resolvedSegments cwd path) := by
  rw [resolve, String.toList_ofList]
  rfl

theorem isSegment_resolved (cwd path : String) :
    ∀ segment ∈ resolvedSegments cwd path, IsSegment segment := by
  intro segment member
  apply isSegment_walk _ (fun part => notMem_splitOn) segment (List.mem_reverse.mp member)
  intro base isBase
  split at isBase
  · cases isBase
  · apply isSegment_walk _ (fun part => notMem_splitOn) base isBase
    intro name member
    cases member

/-- What a path resolves to has the segments that the walk leaves. -/
theorem segments_resolve (cwd path : String) :
    segments (resolve cwd path).toList = resolvedSegments cwd path := by
  rw [toList_resolve, segments_join (isSegment_resolved cwd path)]

theorem walk_append (before first second : List (List Char)) :
    walk before (first ++ second) = walk (walk before first) second := by
  induction first generalizing before with
  | nil => rfl
  | cons part first induction =>
      rw [List.cons_append, walk, walk]
      split
      · exact induction before
      · split
        · exact induction before.tail
        · exact induction (part :: before)

/-- The current directory of a path is the path. -/
theorem resolve_dot (cwd path : String) (absolute : isAbsolute path = true) :
    resolve cwd (path ++ "/.") = resolve cwd path := by
  have still : isAbsolute (path ++ "/.") = true := by
    rw [isAbsolute, decide_eq_true_eq] at absolute ⊢
    rw [String.toList_append, List.head?_append, absolute]
    rfl
  have parts : (path ++ "/.").toList.splitOn '/' = path.toList.splitOn '/' ++ [['.']] := by
    rw [String.toList_append]
    exact List.splitOn_append_cons_self path.toList ['.']
  apply String.ext
  rw [toList_resolve, toList_resolve, resolvedSegments, resolvedSegments, if_pos still,
    if_pos absolute, parts, walk_append]
  rfl

theorem resolve_eq_root_iff (cwd path : String) :
    resolve cwd path = "/" ↔ resolvedSegments cwd path = [] := by
  constructor
  · intro isRoot
    rw [← segments_resolve, isRoot]
    rfl
  · intro empty
    apply String.ext
    rw [toList_resolve, empty]
    rfl

end GptQueue.Texts
