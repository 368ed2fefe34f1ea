import GptQueue.Foundation.Paths
import GptQueue.Launch.Soundness

/-! # Confinement of the working directory

The test on the texts of the resolved paths decides ancestry of their segments, unless
the server runs in the root of the file system.
-/

namespace GptQueue.Launch

open Texts (IsSegment segments join resolve resolvedSegments segments_resolve)

section Confinement

variable (host : Host) (cwd : String)

def rootSegments : List (List Char) := segments (resolve host.cwd host.cwd).toList

def cwdSegments : List (List Char) := segments (resolve host.cwd cwd).toList

/-- A directory is confined when its segments continue those of the root; the siblings
of the root whose names continue its name are not confined. -/
structure ExactConfinement (confined : Prop) : Prop where
  ancestry : confined ↔ rootSegments host <+: cwdSegments host cwd
  siblings : ∀ parent name more rest, rootSegments host = parent ++ [name] → more ≠ [] →
    cwdSegments host cwd = parent ++ (name ++ more) :: rest → ¬confined

/-- The texts are those of the segments. -/
theorem inside_iff : (resolve host.cwd cwd = resolve host.cwd host.cwd ∨
      Texts.startsWith (resolve host.cwd cwd) (resolve host.cwd host.cwd ++ "/") = true) ↔
    join (cwdSegments host cwd) = join (rootSegments host) ∨
      join (rootSegments host) ++ ['/'] <+: join (cwdSegments host cwd) := by
  rw [cwdSegments, rootSegments, segments_resolve, segments_resolve, ← Texts.toList_resolve,
    ← Texts.toList_resolve, String.toList_inj, Texts.startsWith, List.isPrefixOf_iff_prefix,
    String.toList_append]
  rfl

theorem rootSegments_eq_nil_iff : rootSegments host = [] ↔ resolve host.cwd host.cwd = "/" := by
  rw [rootSegments, segments_resolve, Texts.resolve_eq_root_iff]

theorem cwdSegments_eq_nil_iff : cwdSegments host cwd = [] ↔ resolve host.cwd cwd = "/" := by
  rw [cwdSegments, segments_resolve, Texts.resolve_eq_root_iff]

theorem isSegment_cwdSegments : ∀ segment ∈ cwdSegments host cwd, IsSegment segment := by
  rw [cwdSegments, segments_resolve]
  exact Texts.isSegment_resolved host.cwd cwd

/-- In the root of the file system, only the root is let pass. -/
theorem inside_root_iff (isRoot : rootSegments host = []) :
    (join (cwdSegments host cwd) = join (rootSegments host) ∨
      join (rootSegments host) ++ ['/'] <+: join (cwdSegments host cwd)) ↔
        cwdSegments host cwd = [] := by
  rw [isRoot]
  constructor
  · intro inside
    rcases inside with same | ⟨rest, continues⟩
    · have equal := congrArg segments same
      rw [Texts.segments_join (isSegment_cwdSegments host cwd)] at equal
      exact equal
    · -- two separators would begin with a name that is empty
      cases names : cwdSegments host cwd with
      | nil => rfl
      | cons first others =>
          have named := isSegment_cwdSegments host cwd first
            (by rw [names]; exact List.mem_cons_self)
          rw [names] at continues
          cases first with
          | nil => exact absurd rfl named.nonempty
          | cons char name =>
              have isSeparator : '/' = char := by
                cases others with
                | nil =>
                    simp only [join, List.intercalate_nil, List.intercalate_singleton,
                      List.cons_append, List.nil_append, List.cons.injEq] at continues
                    exact continues.2.1
                | cons next others =>
                    simp only [join, List.intercalate_nil, List.intercalate_cons_cons,
                      List.cons_append, List.nil_append, List.cons.injEq] at continues
                    exact continues.2.1
              exact absurd (isSeparator ▸ List.mem_cons_self) named.plain
  · intro empty
    exact Or.inl (by rw [empty])

/-- Where the test decides ancestry, no sibling passes it. -/
theorem ExactConfinement.of_ancestry {confined : Prop}
    (ancestry : confined ↔ rootSegments host <+: cwdSegments host cwd) :
    ExactConfinement host cwd confined where
  ancestry := ancestry
  siblings := by
    intro parent name more rest root longer directory passes
    have isPrefix := ancestry.mp passes
    rw [root, directory, List.prefix_append_right_inj, List.cons_prefix_cons] at isPrefix
    exact longer (List.self_eq_append_right.mp isPrefix.1)

end Confinement

/-- The confinement of an existing directory is exact, unless the server runs in the root
of the file system and the directory is another one. -/
theorem confinement_exact_iff {State : Type}
    (serve : (command : Command) → State → Reply command × State) (state : State) (host : Host)
    (cwd : String) (directory : (serve (.stat cwd) state).1 = true) :
    ExactConfinement host cwd (((launchCwdIsConfined host cwd).run serve state).1 = .ok ()) ↔
      (resolve host.cwd host.cwd = "/" → resolve host.cwd cwd = "/") := by
  have verdict : ((launchCwdIsConfined host cwd).run serve state).1 = .ok () ↔
      (join (cwdSegments host cwd) = join (rootSegments host) ∨
        join (rootSegments host) ++ ['/'] <+: join (cwdSegments host cwd)) := by
    rw [← inside_iff, launchCwdIsConfined]
    simp only [ask, Program.ask_bind, Program.run_call, directory, if_true]
    split
    · next inside => exact ⟨fun _ => inside, fun _ => rfl⟩
    · next outside =>
        constructor
        · intro passes
          cases passes
        · intro inside
          exact absurd inside outside
  rw [← rootSegments_eq_nil_iff, ← cwdSegments_eq_nil_iff]
  constructor
  · intro exactly isRoot
    have isPrefix : rootSegments host <+: cwdSegments host cwd := by
      rw [isRoot]
      exact List.nil_prefix
    exact (inside_root_iff host cwd isRoot).mp (verdict.mp (exactly.ancestry.mpr isPrefix))
  · intro condition
    apply ExactConfinement.of_ancestry
    rw [verdict]
    by_cases isRoot : rootSegments host = []
    · rw [inside_root_iff host cwd isRoot, isRoot]
      exact ⟨fun _ => List.nil_prefix, fun _ => condition isRoot⟩
    · exact Texts.isPrefix_join_iff (isSegment_cwdSegments host cwd)
        (isSegment_cwdSegments host host.cwd) isRoot

def directoriesOnly : World := { exampleWorld with isDirectory := fun _ => true }

/-- A way to a directory of the server's root. -/
theorem below_root_confined :
    ExactConfinement exampleHost "/w/./a//b/.."
      (((launchCwdIsConfined exampleHost "/w/./a//b/..").run (serve exampleHost 0)
        directoriesOnly).1 = .ok ()) := by
  apply (confinement_exact_iff (serve exampleHost 0) directoriesOnly exampleHost "/w/./a//b/.."
    rfl).mpr
  intro isRoot
  exact absurd isRoot (by decide +kernel)

def rootHost : Host := { exampleHost with cwd := "/" }

theorem root_descendant_refused :
    rootSegments rootHost <+: cwdSegments rootHost "/srv" ∧
      ¬ExactConfinement rootHost "/srv"
        (((launchCwdIsConfined rootHost "/srv").run (serve rootHost 0) directoriesOnly).1 =
          .ok ()) := by
  have isPrefix : rootSegments rootHost <+: cwdSegments rootHost "/srv" :=
    ⟨["srv".toList], by decide +kernel⟩
  refine ⟨isPrefix, ?_⟩
  intro exactly
  have passes := exactly.ancestry.mpr isPrefix
  exact absurd passes (by decide +kernel)

end GptQueue.Launch
