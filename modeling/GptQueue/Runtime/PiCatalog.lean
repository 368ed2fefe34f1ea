import Mathlib.Data.List.Basic
import GptQueue.Runtime.Adapters

/-! # The catalog of the Pi extension

The tools that a sidecar offers are checked before any is given to Pi.
-/

namespace GptQueue.PiExtension

open RuntimeAdapter (isText)

structure CatalogTool where
  name : Option String
  description : Option String
  inputSchema : Option Json

structure BoundTool where
  name : String
  description : Option String
  inputSchema : Json

/-- The tool as the sidecar offers it. -/
def BoundTool.offered (tool : BoundTool) : CatalogTool :=
  ⟨some tool.name, tool.description, some tool.inputSchema⟩

def GPTQUEUE_TOOLS : List String :=
  ["send_message", "receive_message", "list_agents", "get_queue_status"]

def RUNTIME_TOOL_NAMES : List String :=
  ["claim_tasks", "acknowledge_tasks", "renew_claim", "bind_runtime", "get_runtime_status"]

def DIAGNOSTIC_TOOL_NAMES : List String :=
  ["find_agents", "get_agent_details", "get_delivery_status", "set_agent_profile"]

def SHELL_TOOL_NAMES : List String := RUNTIME_TOOL_NAMES ++ DIAGNOSTIC_TOOL_NAMES

def expected (runtimeEnabled : Bool) : List String :=
  if runtimeEnabled then GPTQUEUE_TOOLS ++ RUNTIME_TOOL_NAMES else GPTQUEUE_TOOLS

def allowed (runtimeEnabled : Bool) : List String :=
  if runtimeEnabled then GPTQUEUE_TOOLS ++ SHELL_TOOL_NAMES else GPTQUEUE_TOOLS

def isObjectSchema (schema : Json) : Bool := isText (schema.field "type") "object"

/-- `"session_id" in properties`. -/
def takesSession (schema : Json) : Bool :=
  match schema.field "properties" with
  | some (.object properties) => properties.any fun property => property.1 = "session_id"
  | _ => false

def bindTool (name : String) (tool : CatalogTool) : Except String BoundTool :=
  match tool.inputSchema with
  | none => .error ("Invalid schema for " ++ name)
  | some schema =>
      if isObjectSchema schema then
        if takesSession schema then .error ("session_id is forbidden in " ++ name)
        else .ok ⟨name, tool.description, schema⟩
      else .error ("Invalid schema for " ++ name)

/-- The tools of a catalog in the order of the names. -/
def bindTools (tools : List CatalogTool) : List String → Except String (List BoundTool)
  | [] => .ok []
  | name :: names =>
      match tools.find? fun tool => tool.name = some name with
      | none => bindTools tools names
      | some tool =>
          match bindTool name tool with
          | .error error => .error error
          | .ok bound =>
              match bindTools tools names with
              | .error error => .error error
              | .ok rest => .ok (bound :: rest)

def validateCatalog (runtimeEnabled : Bool) (tools : List CatalogTool) :
    Except String (List BoundTool) :=
  let names := tools.map (·.name)
  if ¬names.Nodup ∨
      (names.any fun name => name.all (· = "") || name.any (· ∉ allowed runtimeEnabled)) ∨
      ((expected runtimeEnabled).any fun name => some name ∉ names) then
    .error "GPTQueue tool catalog mismatch"
  else bindTools tools (allowed runtimeEnabled)

section Catalog

variable {runtimeEnabled : Bool} {tools : List CatalogTool} {bound : List BoundTool}

/-- A schema of an object that asks for no session. -/
def Sessionless (schema : Json) : Prop := isObjectSchema schema = true ∧ takesSession schema = false

structure Acceptable (runtimeEnabled : Bool) (tools : List CatalogTool) : Prop where
  distinct : (tools.map (·.name)).Nodup
  known : ∀ tool ∈ tools, ∃ name ∈ allowed runtimeEnabled, tool.name = some name
  complete : ∀ name ∈ expected runtimeEnabled, ∃ tool ∈ tools, tool.name = some name
  schemas : ∀ tool ∈ tools, ∃ schema, tool.inputSchema = some schema ∧ Sessionless schema

theorem bindTool_ok {name : String} {tool : CatalogTool} {made : BoundTool}
    (named : tool.name = some name) :
    bindTool name tool = .ok made ↔ made.offered = tool ∧ Sessionless made.inputSchema := by
  rcases tool with ⟨own, description, inputSchema⟩
  obtain rfl : own = some name := named
  unfold bindTool
  cases inputSchema with
  | none =>
      constructor
      · intro isOk
        cases isOk
      · rintro ⟨same, -⟩
        cases same
  | some schema =>
      dsimp only
      split
      · next isObject =>
          split
          · next takes =>
              constructor
              · intro isOk
                cases isOk
              · rintro ⟨same, -, without⟩
                cases same
                rw [takes] at without
                cases without
          · next without =>
              constructor
              · intro isOk
                cases isOk
                exact ⟨rfl, isObject, Bool.eq_false_iff.mpr without⟩
              · rintro ⟨same, -⟩
                rcases made with ⟨madeName, madeDescription, madeSchema⟩
                cases same
                rfl
      · next notObject =>
          constructor
          · intro isOk
            cases isOk
          · rintro ⟨same, isObject, -⟩
            cases same
            exact absurd isObject notObject

theorem offered_injective : Function.Injective BoundTool.offered := by
  intro one other same
  cases one
  cases other
  cases same
  rfl

theorem eq_of_name (distinct : (tools.map (·.name)).Nodup) {one other : CatalogTool}
    (member : one ∈ tools) (otherMember : other ∈ tools) (same : one.name = other.name) :
    one = other :=
  List.inj_on_of_nodup_map distinct member otherMember same

/-- What was bound, for the names that were gone through. -/
theorem bindTools_ok (names : List String) (isOk : bindTools tools names = .ok bound) :
    (bound.map (·.name)).Sublist names ∧ (∀ tool ∈ bound, Sessionless tool.inputSchema) ∧
      ∀ tool, tool ∈ bound → tool.offered ∈ tools := by
  induction names generalizing bound with
  | nil =>
      cases isOk
      exact ⟨List.Sublist.refl _, by simp, by simp⟩
  | cons name names induction =>
      rw [bindTools] at isOk
      split at isOk
      · rcases induction isOk with ⟨ordered, sessionless, offered⟩
        exact ⟨ordered.cons _, sessionless, offered⟩
      · next tool found =>
          have named : tool.name = some name := by simpa using List.find?_some found
          split at isOk
          · cases isOk
          · next made isMade =>
              rcases (bindTool_ok named).mp isMade with ⟨isOffered, isSessionless⟩
              split at isOk
              · cases isOk
              · next rest isRest =>
                  cases isOk
                  rcases induction isRest with ⟨ordered, sessionless, offered⟩
                  have sameName : made.name = name :=
                    Option.some.inj (congrArg CatalogTool.name isOffered |>.trans named)
                  refine ⟨?_, ?_, ?_⟩
                  · rw [List.map_cons, sameName]
                    exact ordered.cons_cons _
                  · intro tool member
                    rcases List.mem_cons.mp member with rfl | later
                    · exact isSessionless
                    · exact sessionless tool later
                  · intro tool member
                    rcases List.mem_cons.mp member with rfl | later
                    · exact isOffered ▸ List.mem_of_find?_eq_some found
                    · exact offered tool later

theorem bindTools_complete (distinct : (tools.map (·.name)).Nodup) (names : List String)
    (isOk : bindTools tools names = .ok bound) {tool : CatalogTool} (member : tool ∈ tools)
    {own : String} (named : tool.name = some own) (asked : own ∈ names) :
    ∃ made ∈ bound, made.offered = tool := by
  induction names generalizing bound with
  | nil => cases asked
  | cons name names induction =>
      rw [bindTools] at isOk
      split at isOk
      · next missing =>
          rcases List.mem_cons.mp asked with rfl | later
          · have unnamed := List.find?_eq_none.mp missing tool member
            exact absurd (decide_eq_true named) unnamed
          · exact induction isOk later
      · next found isFound =>
          have foundName : found.name = some name := by simpa using List.find?_some isFound
          split at isOk
          · cases isOk
          · next made isMade =>
              split at isOk
              · cases isOk
              · next rest isRest =>
                  cases isOk
                  rcases List.mem_cons.mp asked with rfl | later
                  · refine ⟨made, List.mem_cons_self, ?_⟩
                    rw [((bindTool_ok foundName).mp isMade).1]
                    exact eq_of_name distinct (List.mem_of_find?_eq_some isFound) member
                      (foundName.trans named.symm)
                  · rcases induction isRest later with ⟨other, isMember, isOffered⟩
                    exact ⟨other, List.mem_cons_of_mem _ isMember, isOffered⟩

theorem bindTools_succeeds (names : List String)
    (schemas : ∀ tool ∈ tools, ∃ schema, tool.inputSchema = some schema ∧ Sessionless schema) :
    ∃ bound, bindTools tools names = .ok bound := by
  induction names with
  | nil => exact ⟨[], rfl⟩
  | cons name names induction =>
      rcases induction with ⟨rest, isRest⟩
      rw [bindTools]
      split
      · exact ⟨rest, isRest⟩
      · next tool found =>
          rcases schemas tool (List.mem_of_find?_eq_some found) with ⟨schema, isSchema, sessionless⟩
          have named : tool.name = some name := by simpa using List.find?_some found
          have isMade : bindTool name tool = .ok ⟨name, tool.description, schema⟩ := by
            rw [bindTool_ok named]
            refine ⟨?_, sessionless⟩
            rw [BoundTool.offered, ← named, ← isSchema]
          rw [isMade, isRest]
          exact ⟨_, rfl⟩

/-- The names of a catalog that the first check lets through. -/
theorem names_pass_iff :
    (¬(¬(tools.map (·.name)).Nodup ∨
      ((tools.map (·.name)).any fun name =>
        name.all (· = "") || name.any (· ∉ allowed runtimeEnabled)) = true ∨
      ((expected runtimeEnabled).any fun name => some name ∉ tools.map (·.name)) = true)) ↔
    (tools.map (·.name)).Nodup ∧
      (∀ tool ∈ tools, ∃ name ∈ allowed runtimeEnabled, tool.name = some name) ∧
        ∀ name ∈ expected runtimeEnabled, ∃ tool ∈ tools, tool.name = some name := by
  have unnamed : "" ∉ allowed runtimeEnabled := by
    cases runtimeEnabled <;> decide
  have known : ∀ name : Option String,
      (name.all (· = "") || name.any (· ∉ allowed runtimeEnabled)) = false ↔
        ∃ own ∈ allowed runtimeEnabled, name = some own := by
    intro name
    cases name with
    | none => simp
    | some own =>
        simp only [Option.all_some, Option.any_some, Bool.or_eq_false_iff, decide_eq_false_iff_not,
          not_not, Option.some.injEq]
        constructor
        · rintro ⟨-, member⟩
          exact ⟨own, member, rfl⟩
        · rintro ⟨other, member, rfl⟩
          exact ⟨fun empty => unnamed (empty ▸ member), member⟩
  rw [not_or, not_or, not_not, Bool.not_eq_true, Bool.not_eq_true, List.any_eq_false,
    List.any_eq_false]
  apply and_congr_right
  intro distinct
  apply and_congr
  · simp only [List.mem_map, forall_exists_index, and_imp, forall_apply_eq_imp_iff₂,
      Bool.not_eq_true, known]
  · simp only [decide_eq_true_eq, not_not, List.mem_map]

theorem acceptable_of_validateCatalog (isOk : validateCatalog runtimeEnabled tools = .ok bound) :
    Acceptable runtimeEnabled tools ∧ (bound.map (·.name)).Sublist (allowed runtimeEnabled) ∧
      ∀ tool, tool ∈ bound ↔ tool.offered ∈ tools := by
  rw [validateCatalog] at isOk
  split at isOk
  · cases isOk
  · next passes =>
      rcases names_pass_iff.mp passes with ⟨distinct, known, complete⟩
      rcases bindTools_ok (allowed runtimeEnabled) isOk with ⟨ordered, sessionless, offered⟩
      have bindsAll : ∀ tool ∈ tools, ∃ made ∈ bound, made.offered = tool := by
        intro tool member
        rcases known tool member with ⟨name, isAllowed, named⟩
        exact bindTools_complete distinct (allowed runtimeEnabled) isOk member named isAllowed
      refine ⟨⟨distinct, known, complete, ?_⟩, ordered, fun tool => ⟨offered tool, ?_⟩⟩
      · intro tool member
        rcases bindsAll tool member with ⟨made, isMember, rfl⟩
        exact ⟨made.inputSchema, rfl, sessionless made isMember⟩
      · intro member
        rcases bindsAll tool.offered member with ⟨made, isMember, same⟩
        exact offered_injective same ▸ isMember

/-- A catalog is accepted exactly if its tools are different ones that are known, with all that
are expected, and no schema asks for a session; then its tools are bound in the order that the
extension knows them. -/
theorem validateCatalog_exact :
    match validateCatalog runtimeEnabled tools with
    | .ok bound => Acceptable runtimeEnabled tools ∧
        (bound.map (·.name)).Sublist (allowed runtimeEnabled) ∧
          ∀ tool, tool ∈ bound ↔ tool.offered ∈ tools
    | .error _ => ¬Acceptable runtimeEnabled tools := by
  split
  · next bound isOk => exact acceptable_of_validateCatalog isOk
  · next error isError =>
      intro acceptable
      rw [validateCatalog, if_neg (names_pass_iff.mpr
        ⟨acceptable.distinct, acceptable.known, acceptable.complete⟩)] at isError
      rcases bindTools_succeeds (allowed runtimeEnabled) acceptable.schemas with ⟨bound, isOk⟩
      rw [isOk] at isError
      cases isError

end Catalog

end GptQueue.PiExtension
