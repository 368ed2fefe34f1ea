import GptQueue.Foundation.Redis

/-! # Presence of several agents

`getPresenceMany` reads the session sets of all the names in one pipeline and the leases of
all their sessions in a second one. The second reply is one list, which is cut back into a
part for each name.
-/

namespace GptQueue.PresenceBatch

open Redis

structure AgentPresence where
  agentName : String
  online : Bool
  activeSessions : List String
deriving DecidableEq, Repr

/-- The replies to `SMEMBERS` of the session set of a name and to `TTL` of the lease of a
session. -/
structure Server where
  smembers : String → Except Fault (List String)
  ttl : String → Except Fault Int

/-- The replies of a pipeline, or the first error among them. -/
def execPipeline {Reply : Type} (results : List (Except Fault Reply)) :
    Except Fault (List Reply) :=
  results.mapM fun result => result

/-- The sessions whose places in the batch, from `offset` on, hold a lease with time left. -/
def activeSessions (ttls : List Int) (offset : Nat) (sessionIds : List String) : List String :=
  (sessionIds.zipIdx.filter fun entry =>
    ttls[offset + entry.2]?.any fun ttl => decide (0 < ttl)).map Prod.fst

/-- The loop over the names with their members. `offset` counts the sessions of the names
before. -/
def presences (ttls : List Int) : Nat → List (String × List String) → List AgentPresence
  | _, [] => []
  | offset, (agentName, sessionIds) :: rest =>
      let active := activeSessions ttls offset sessionIds
      { agentName, online := !active.isEmpty, activeSessions := active } ::
        presences ttls (offset + sessionIds.length) rest

/-- The second pipeline, which is left out when there is no session. -/
def leaseTtls (server : Server) (allSessionIds : List String) : Except Fault (List Int) :=
  if allSessionIds = [] then pure [] else execPipeline (allSessionIds.map server.ttl)

def getPresenceMany (server : Server) (agentNames : List String) :
    Except Fault (List AgentPresence) :=
  if agentNames = [] then pure []
  else do
    let members ← execPipeline (agentNames.map server.smembers)
    let ttls ← leaseTtls server members.flatten
    pure (presences ttls 0 (agentNames.zip members))

def getPresence (server : Server) (agentName : String) : Except Fault (Option AgentPresence) := do
  let presences ← getPresenceMany server [agentName]
  pure presences[0]?

/-! ## The parts of the batch -/

section Assignment

variable (members : String → List String) (ttl : String → Int)

/-- A server with these session sets and leases. -/
def answering : Server where
  smembers agentName := .ok (members agentName)
  ttl sessionId := .ok (ttl sessionId)

/-- The sessions of the name with a live lease, in the order of its set. -/
def liveSessions (agentName : String) : List String :=
  (members agentName).filter fun sessionId => decide (0 < ttl sessionId)

def presenceOf (agentName : String) : AgentPresence where
  agentName
  online := !(liveSessions members ttl agentName).isEmpty
  activeSessions := liveSessions members ttl agentName

theorem execPipeline_ok {Item Reply : Type} (reply : Item → Reply) (items : List Item) :
    execPipeline (items.map fun item => .ok (reply item)) = .ok (items.map reply) := by
  induction items with
  | nil => rfl
  | cons item rest induction =>
      unfold execPipeline at induction ⊢
      rw [List.map_cons, List.mapM_cons, induction]
      rfl

theorem leaseTtls_answering (sessionIds : List String) :
    leaseTtls (answering members ttl) sessionIds = .ok (sessionIds.map ttl) := by
  unfold leaseTtls
  split
  · next none =>
      rw [none]
      rfl
  · exact execPipeline_ok ttl sessionIds

/-- A part of the batch gives each session the time left on its own lease. -/
theorem activeSessions_eq {ttls : List Int} {offset : Nat} {sessionIds : List String}
    {later : List Int} (placed : ttls.drop offset = sessionIds.map ttl ++ later) :
    activeSessions ttls offset sessionIds =
      sessionIds.filter fun sessionId => decide (0 < ttl sessionId) := by
  have own : ∀ entry ∈ sessionIds.zipIdx,
      (ttls[offset + entry.2]?.any fun left => decide (0 < left)) = decide (0 < ttl entry.1) := by
    intro entry member
    rcases List.mem_zipIdx' member with ⟨inside, found⟩
    have within : entry.2 < (sessionIds.map ttl).length := by
      rw [List.length_map]
      exact inside
    rw [← List.getElem?_drop, placed, List.getElem?_append_left within, List.getElem?_map,
      List.getElem?_eq_getElem inside, ← found]
    rfl
  unfold activeSessions
  rw [List.filter_congr own]
  have pulled : ((sessionIds.zipIdx.map Prod.fst).filter fun sessionId =>
      decide (0 < ttl sessionId)) =
        (sessionIds.zipIdx.filter fun entry => decide (0 < ttl entry.1)).map Prod.fst :=
    List.filter_map
  rw [List.zipIdx_map_fst] at pulled
  exact pulled.symm

/-- The running offset is where the sessions of the remaining names begin. -/
theorem presences_eq {ttls : List Int} {offset : Nat} (agentNames : List String)
    (placed : ttls.drop offset = (agentNames.flatMap members).map ttl) :
    presences ttls offset (agentNames.zip (agentNames.map members)) =
      agentNames.map (presenceOf members ttl) := by
  induction agentNames generalizing offset with
  | nil => rfl
  | cons agentName rest induction =>
      rw [List.flatMap_cons, List.map_append] at placed
      have head : activeSessions ttls offset (members agentName) =
          liveSessions members ttl agentName := activeSessions_eq ttl placed
      have tail : ttls.drop (offset + (members agentName).length) =
          (rest.flatMap members).map ttl := by
        rw [← List.drop_drop, placed]
        exact List.drop_left' (List.length_map ..)
      simp only [List.map_cons, List.zip_cons_cons, presences, head]
      rw [induction tail]
      rfl

theorem getPresenceMany_eq (agentNames : List String) :
    getPresenceMany (answering members ttl) agentNames =
      .ok (agentNames.map (presenceOf members ttl)) := by
  unfold getPresenceMany
  split
  · next none =>
      rw [none]
      rfl
  · next some =>
      have sets : execPipeline (agentNames.map (answering members ttl).smembers) =
          .ok (agentNames.map members) := execPipeline_ok members agentNames
      have whole : (((agentNames.map members).flatten).map ttl).drop 0 =
          (agentNames.flatMap members).map ttl := by
        rw [List.drop_zero, List.flatMap_def]
      simp only [sets, leaseTtls_answering, bind, Except.bind, pure, Except.pure]
      exact congrArg Except.ok (presences_eq members ttl agentNames whole)

theorem getPresence_eq (agentName : String) :
    getPresence (answering members ttl) agentName =
      .ok (some (presenceOf members ttl agentName)) := by
  unfold getPresence
  rw [getPresenceMany_eq]
  rfl

/-- Batched presence is the presence of each agent on its own. -/
theorem getPresenceMany_getPresence (agentNames : List String) :
    ∃ result : List AgentPresence, getPresenceMany (answering members ttl) agentNames = .ok result ∧
      result.length = agentNames.length ∧
        ∀ (index : Nat) (agentName : String), agentNames[index]? = some agentName →
          getPresence (answering members ttl) agentName = .ok result[index]? := by
  refine ⟨agentNames.map (presenceOf members ttl), getPresenceMany_eq members ttl agentNames,
    List.length_map .., ?_⟩
  intro index agentName found
  rw [getPresence_eq, List.getElem?_map, found]
  rfl

end Assignment

end GptQueue.PresenceBatch
