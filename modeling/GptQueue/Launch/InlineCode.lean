import GptQueue.Foundation.Paths
import GptQueue.Launch.Soundness

/-! # Inline code of interpreters

An interpreter with inline code is refused whatever the allowlist says, unless the code is
glued to a short flag and begins with a line terminator.
-/

namespace GptQueue.Launch

open Wake (RuntimeLaunchContract)

open Texts (basename isAbsolute isWhite resolve startsWith trim trim_trim)

/-! ## Spellings -/

def shortFlags : List Char := ['e', 'c', 'E', 'p', 'r']

/-- Line terminators of the language. -/
def lineTerminators : List Nat := [0x0A, 0x0D, 0x2028, 0x2029]

/-- An argument that carries inline code, in any spelling. -/
inductive CarriesCode (arg : String) : Prop
  | detached (listed : arg ∈ dangerousInterpreterArgs)
  | equals (start : String) (isStart : start ∈ ["--eval=", "--print=", "--command="])
      (starts : startsWith arg start = true)
  | glued (flag next : Char) (rest : List Char) (isFlag : flag ∈ shortFlags)
      (spelled : arg.toList = '-' :: flag :: next :: rest)

/-- A short flag, directly followed by a line terminator. -/
def GluesLine (arg : String) : Prop :=
  ∃ flag ∈ shortFlags, ∃ next rest, next.toNat ∈ lineTerminators ∧
    arg.toList = '-' :: flag :: next :: rest

theorem notGluesLine_of_listed {arg : String} (listed : arg ∈ dangerousInterpreterArgs) :
    ¬GluesLine arg := by
  rintro ⟨flag, isFlag, next, rest, isLine, spelled⟩
  simp only [dangerousInterpreterArgs, List.mem_cons, List.not_mem_nil, or_false] at listed
  rcases listed with rfl | rfl | rfl | rfl | rfl | rfl | rfl | rfl <;> cases spelled <;>
    exact absurd isFlag (by decide)

theorem notGluesLine_of_starts {arg start : String}
    (isStart : start ∈ ["--eval=", "--print=", "--command="])
    (starts : startsWith arg start = true) :
    ¬GluesLine arg := by
  rintro ⟨flag, isFlag, next, rest, isLine, spelled⟩
  rw [startsWith, List.isPrefixOf_iff_prefix, spelled] at starts
  have second : flag = '-' := by
    simp only [List.mem_cons, List.not_mem_nil, or_false] at isStart
    rcases starts with ⟨tail, same⟩
    rcases isStart with rfl | rfl | rfl <;> cases same <;> rfl
  rw [second] at isFlag
  exact absurd isFlag (by decide)

/-- The check finds every spelling but the glued line terminators. -/
theorem isInlineCodeArg_iff (arg : String) :
    isInlineCodeArg arg = true ↔ CarriesCode arg ∧ ¬GluesLine arg := by
  rw [isInlineCodeArg, Bool.or_eq_true, Bool.or_eq_true, decide_eq_true_eq, List.any_eq_true]
  constructor
  · intro found
    rcases found with (listed | ⟨start, isStart, starts⟩) | glued
    · exact ⟨.detached listed, notGluesLine_of_listed listed⟩
    · exact ⟨.equals start isStart starts, notGluesLine_of_starts isStart starts⟩
    · split at glued
      · next flag next rest spelled =>
          rw [Bool.and_eq_true, decide_eq_true_eq, decide_eq_true_eq] at glued
          refine ⟨.glued flag next rest glued.1 spelled, ?_⟩
          rintro ⟨other, -, char, tail, isLine, same⟩
          rw [spelled] at same
          cases same
          exact glued.2 isLine
      · cases glued
  · rintro ⟨carries, plain⟩
    cases carries with
    | detached listed => exact Or.inl (Or.inl listed)
    | equals start isStart starts => exact Or.inl (Or.inr ⟨start, isStart, starts⟩)
    | glued flag next rest isFlag spelled =>
        refine Or.inr ?_
        rw [spelled]
        change (_ && _) = true
        rw [Bool.and_eq_true, decide_eq_true_eq, decide_eq_true_eq]
        exact ⟨isFlag, fun isLine => plain ⟨flag, isFlag, next, rest, isLine, spelled⟩⟩

/-! ## What is never allowed -/

section Never

variable (host : Host) (contract : RuntimeLaunchContract)

/-- The policy never says ok, whatever it reads. -/
def NeverOk : Prop :=
  ∀ (State : Type) (serve : (command : Command) → State → Reply command × State) (state : State),
    ((evaluateLaunchPolicy host contract).run serve state).1 ≠ .ok

/-- The working directory lies in the root of the server. -/
def InsideRoot : Prop :=
  ∀ cwd, contract.cwd = some cwd →
    resolve host.cwd cwd = resolve host.cwd host.cwd ∨
      startsWith (resolve host.cwd cwd) (resolve host.cwd host.cwd ++ "/") = true

/-- A command that an allowlist can name: its entries are trimmed, which matters only for
commands that are not paths. -/
def CanBeListed (command : String) : Prop :=
  isAbsolute command = true ∨ trim command = command ∧ command ≠ ""

variable {host contract}

theorem interpreter_notShell {name : String} (listed : name ∈ dangerousInterpreterBasenames) :
    name ∉ dangerousShellBasenames := by
  have apart : ∀ other ∈ dangerousInterpreterBasenames, other ∉ dangerousShellBasenames := by decide
  exact apart name listed

theorem interpreter_notAwk {name : String} (listed : name ∈ dangerousInterpreterBasenames) :
    name ∉ dangerousAwkBasenames := by
  have apart : ∀ other ∈ dangerousInterpreterBasenames, other ∉ dangerousAwkBasenames := by decide
  exact apart name listed

theorem isDangerousInterpreter_listed
    (listed : host.lower (basename contract.command) ∈ dangerousInterpreterBasenames) :
    isDangerousInterpreter host contract.command contract.args =
      contract.args.any isInlineCodeArg := by
  rw [isDangerousInterpreter, if_neg (interpreter_notAwk listed), if_pos listed]

/-- Whatever is said to be ok is no interpreter with an argument that the check finds. -/
theorem follows_notInline (past : Past) :
    (evaluateLaunchPolicy host contract).Follows (fun _ _ => True)
      (fun _ decision => decision = .ok →
        isDangerousInterpreter host contract.command contract.args = false) past := by
  have command : ∀ past, (evaluateCommand host contract).Follows (fun _ _ => True)
      (fun _ decision => decision = .ok →
        isDangerousInterpreter host contract.command contract.args = false) past := by
    intro past
    rw [evaluateCommand]
    split
    · intro isOk
      cases isOk
    · split
      · intro isOk
        cases isOk
      · next safe =>
          apply (Program.follows_any past (loadLaunchAllowlist host)).bind
          intro later load _
          split
          · intro isOk
            cases isOk
          · intro isOk
            cases isOk
          · split
            · exact fun _ => Bool.not_eq_true _ ▸ safe
            · intro isOk
              cases isOk
  rw [evaluateLaunchPolicy]
  split
  · exact command past
  · next cwd _ =>
      apply (Program.follows_any past (launchCwdIsConfined host cwd)).bind
      intro later result _
      split
      · intro isOk
        cases isOk
      · exact command later

/-- A listed command can be listed. -/
theorem canBeListed_of_entry {past : Past} (entry : Listed host trim past contract) :
    CanBeListed contract.command := by
  rcases entry.entry with ⟨text, document, command, -, -, valid, lists, same⟩
  rcases same with ⟨-, isTrimmed⟩ | ⟨absolute, -, -⟩
  · right
    rw [isTrimmed, trim_trim]
    refine ⟨rfl, ?_⟩
    rcases lists with ⟨items, isItems, item, inside, templates, written, -, -⟩
    rcases valid.commands with ⟨others, isOthers, valids⟩
    rw [isItems] at isOthers
    cases isOthers
    rcases valids item inside with ⟨other, _, isOther, notBlank, -⟩
    rw [written] at isOther
    cases isOther
    exact notBlank
  · exact Or.inl absolute

/-- What a contract that is said to be ok satisfies. -/
theorem ok_run {State : Type} {serve : (command : Command) → State → Reply command × State}
    {state : State} (isOk : ((evaluateLaunchPolicy host contract).run serve state).1 = .ok) :
    isDangerousInterpreter host contract.command contract.args = false ∧
      InsideRoot host contract ∧ CanBeListed contract.command := by
  rcases (follows_notInline []).run serve state with ⟨_, notInline⟩
  rcases (@follows_evaluateLaunchPolicy host (.wake "") [] contract).run serve state with
    ⟨later, -, allows⟩
  have allowed := allows isOk
  exact ⟨notInline isOk, fun cwd isCwd => (allowed.confined cwd isCwd).inside,
    canBeListed_of_entry allowed.listed⟩

end Never

/-! ## An allowlist for a contract -/

section Grants

/-- A name for the command that survives trimming. -/
def listedName (command : String) : String :=
  if isAbsolute command then command ++ "/." else command

def grantEntry (command : String) (args : List String) : Json :=
  .object [("command", .string (listedName command)),
    ("allowed_args", .array [.array (args.map .string)])]

def grantDocument (command : String) (args : List String) : Json :=
  .object [("version", .number two), ("commands", .array [grantEntry command args])]

/-- The allowlist lists the contract, and every path is a directory. -/
def grantingWorld (contract : RuntimeLaunchContract) : World :=
  { exampleWorld with
    text := .ok (grantDocument contract.command contract.args).render
    isDirectory := fun _ => true }

variable {host : Host} {contract : RuntimeLaunchContract}

theorem trim_absolute {command : String} (absolute : isAbsolute command = true) :
    trim (command ++ "/.") = command ++ "/." := by
  rw [isAbsolute, decide_eq_true_eq] at absolute
  have starts : List.dropWhile isWhite (command ++ "/.").toList = (command ++ "/.").toList := by
    rw [String.toList_append]
    cases letters : command.toList with
    | nil =>
        rw [letters] at absolute
        cases absolute
    | cons first rest =>
        rw [letters, List.head?_cons, Option.some.injEq] at absolute
        rw [absolute]
        rfl
  have ends : List.dropWhile isWhite (command ++ "/.").toList.reverse =
      (command ++ "/.").toList.reverse := by
    rw [String.toList_append, List.reverse_append]
    rfl
  rw [trim, starts, ends, List.reverse_reverse, String.ofList_toList]

theorem trim_listedName {command : String} (canBe : CanBeListed command) :
    trim (listedName command) = listedName command ∧ listedName command ≠ "" := by
  rw [listedName]
  split
  · next absolute =>
      refine ⟨trim_absolute absolute, ?_⟩
      intro empty
      have letters := congrArg String.toList empty
      rw [String.toList_append] at letters
      exact absurd (List.append_eq_nil_iff.mp letters).2 (by decide)
  · next relative =>
      rcases canBe with absolute | listed
      · exact absurd absolute relative
      · exact listed

theorem commandMatches_listedName (command : String) :
    commandMatches host command (listedName command) = true := by
  rw [listedName]
  split
  · next absolute =>
      have still : isAbsolute (command ++ "/.") = true := by
        rw [isAbsolute, decide_eq_true_eq] at absolute ⊢
        rw [String.toList_append, List.head?_append, absolute]
        rfl
      rw [commandMatches, if_neg (by rw [absolute, still]; exact fun differ => differ rfl),
        if_pos absolute, Texts.resolve_dot host.cwd command absolute]
      exact decide_eq_true rfl
  · next relative =>
      rw [commandMatches, if_neg (fun differ => differ rfl), if_neg relative]
      exact decide_eq_true rfl

theorem parseEntry_grant (canBe : CanBeListed contract.command) (source : String) :
    parseEntry source (grantEntry contract.command contract.args) =
      .ok ⟨listedName contract.command, [contract.args]⟩ := by
  have names := trim_listedName canBe
  have isObject : isObject (grantEntry contract.command contract.args) = true := rfl
  have isCommand : (grantEntry contract.command contract.args).field "command" =
      some (.string (listedName contract.command)) := rfl
  have isArgs : (grantEntry contract.command contract.args).field "allowed_args" =
      some (.array [.array (contract.args.map .string)]) := rfl
  have templates : parseTemplates source (listedName contract.command)
      [.array (contract.args.map .string)] = .ok [contract.args] := by
    rw [parseTemplates, stringArray_map]
    rfl
  rw [parseEntry, if_pos isObject, isCommand]
  dsimp only
  rw [names.1, if_neg names.2, isArgs]
  dsimp only
  rw [templates]
  rfl

theorem parse_grant (isTwo : host.numbers.same two two = true)
    (canBe : CanBeListed contract.command) (source : String) :
    parseLaunchAllowlist host (grantDocument contract.command contract.args).render source =
      .loaded [⟨listedName contract.command, [contract.args]⟩] := by
  have isObject : isObject (grantDocument contract.command contract.args) = true := rfl
  have isVersion : isNumber host
      ((grantDocument contract.command contract.args).field "version") two = true := isTwo
  have commands : (grantDocument contract.command contract.args).field "commands" =
      some (.array [grantEntry contract.command contract.args]) := rfl
  rw [parseLaunchAllowlist, Json.parse_render]
  dsimp only
  rw [if_pos isObject, if_pos isVersion, commands]
  dsimp only
  rw [parseEntries, parseEntry_grant canBe source]
  rfl

theorem load_run (isTwo : host.numbers.same two two = true)
    (canBe : CanBeListed contract.command) :
    (loadLaunchAllowlist host).run (serve host 0) (grantingWorld contract) =
      (.loaded [⟨listedName contract.command, [contract.args]⟩], grantingWorld contract) := by
  rw [← parse_grant isTwo canBe host.allowlistPath]
  rfl

/-- A contract that nothing else speaks against is allowed by its allowlist. -/
theorem granted_run (isTwo : host.numbers.same two two = true)
    (interpreter : host.lower (basename contract.command) ∈ dangerousInterpreterBasenames)
    (notFound : contract.args.any isInlineCodeArg = false) (inside : InsideRoot host contract)
    (canBe : CanBeListed contract.command) :
    ((evaluateLaunchPolicy host contract).run (serve host 0) (grantingWorld contract)).1 =
      .ok := by
  have notShell : ¬isDangerousDelegator host contract.command = true := by
    intro isShell
    exact interpreter_notShell interpreter (of_decide_eq_true isShell)
  have safe : ¬isDangerousInterpreter host contract.command contract.args = true := by
    rw [isDangerousInterpreter_listed interpreter, notFound]
    exact Bool.false_ne_true
  have found : launchMatchesConfig host contract.command contract.args
      [⟨listedName contract.command, [contract.args]⟩] = true := by
    simp [launchMatchesConfig, commandMatches_listedName]
  have command : ((evaluateCommand host contract).run (serve host 0)
      (grantingWorld contract)).1 = .ok := by
    rw [evaluateCommand, if_neg notShell, if_neg safe, Program.run_bind, load_run isTwo canBe]
    dsimp only
    rw [if_pos found]
    rfl
  rw [evaluateLaunchPolicy]
  cases isCwd : contract.cwd with
  | none => exact command
  | some cwd =>
      have confined : (launchCwdIsConfined host cwd).run (serve host 0) (grantingWorld contract) =
          (.ok (), grantingWorld contract) := by
        rw [launchCwdIsConfined, ask, Program.ask_bind, Program.run_call]
        change Program.run _ (if true = true then _ else _) (grantingWorld contract) = _
        rw [if_pos rfl]
        dsimp only
        rw [if_pos (inside cwd isCwd)]
        rfl
      dsimp only
      rw [Program.run_bind, confined]
      exact command

end Grants

/-! ## When inline code is rejected -/

/-- An interpreter with inline code is never allowed, exactly when some of its inline code
is not a line glued to a short flag, or something else speaks against the contract. -/
theorem inline_code_rejected_iff (host : Host) (contract : RuntimeLaunchContract)
    (isTwo : host.numbers.same two two = true)
    (interpreter : host.lower (basename contract.command) ∈ dangerousInterpreterBasenames) :
    ((∃ arg ∈ contract.args, CarriesCode arg) → NeverOk host contract) ↔
      ((∃ arg ∈ contract.args, CarriesCode arg) →
        (∃ arg ∈ contract.args, CarriesCode arg ∧ ¬GluesLine arg) ∨
          ¬InsideRoot host contract ∨ ¬CanBeListed contract.command) := by
  constructor
  · intro rejected carries
    by_contra remaining
    rw [not_or, not_or, not_not, not_not] at remaining
    have notFound : contract.args.any isInlineCodeArg = false := by
      rw [← Bool.not_eq_true, List.any_eq_true]
      intro found
      rcases found with ⟨arg, member, isInline⟩
      exact remaining.1 ⟨arg, member, (isInlineCodeArg_iff arg).mp isInline⟩
    exact rejected carries World (serve host 0) (grantingWorld contract)
      (granted_run isTwo interpreter notFound remaining.2.1 remaining.2.2)
  · intro condition carries State serve state isOk
    rcases ok_run isOk with ⟨notInline, inside, canBe⟩
    rw [isDangerousInterpreter_listed interpreter] at notInline
    rcases condition carries with ⟨arg, member, isInline⟩ | outside | unlisted
    · have found : contract.args.any isInlineCodeArg = true :=
        List.any_eq_true.mpr ⟨arg, member, (isInlineCodeArg_iff arg).mpr isInline⟩
      rw [notInline] at found
      cases found
    · exact outside inside
    · exact unlisted canBe

/-- `python3 -c`, with the code glued to the flag. -/
def gluedContract : RuntimeLaunchContract := ⟨"python3", ["-cimport os"], none⟩

theorem glued_code_rejected : NeverOk exampleHost gluedContract := by
  have carries : CarriesCode "-cimport os" := .glued 'c' 'i' "mport os".toList (by decide) rfl
  apply (inline_code_rejected_iff exampleHost gluedContract rfl (by decide +kernel)).mpr
  · intro _
    refine Or.inl ⟨"-cimport os", List.mem_cons_self, carries, ?_⟩
    rintro ⟨flag, -, next, rest, isLine, spelled⟩
    cases spelled
    exact absurd isLine (by decide)
  · exact ⟨"-cimport os", List.mem_cons_self, carries⟩

/-- The same with an empty line before the code. -/
def lineContract : RuntimeLaunchContract := ⟨"python3", ["-c\nimport os"], none⟩

theorem line_code_allowed :
    (∃ arg ∈ lineContract.args, CarriesCode arg) ∧ ¬NeverOk exampleHost lineContract := by
  constructor
  · exact ⟨_, List.mem_cons_self, .glued 'c' '\n' "import os".toList (by decide) rfl⟩
  · intro never
    apply never World (serve exampleHost 0) (grantingWorld lineContract)
    apply granted_run rfl (by decide +kernel) (by decide +kernel)
    · intro cwd isCwd
      cases isCwd
    · exact Or.inr ⟨by decide +kernel, by decide⟩

end GptQueue.Launch
