import Mathlib.Data.List.AList
import Mathlib.Data.Finset.Card
import Mathlib.Logic.Relation
import GptQueue.Foundation.Admission

/-! # Sessions of the HTTP server

Each session has a transport. The activity of a session is an object that the callbacks
of its open responses share, and the sweep of idle sessions reads it. The transport is
the SDK's: when it generates a session id and when it is closed are events.
-/

namespace GptQueue.Transport

/-! ## The maps of the server -/

structure Activity where
  lastSeen : Int
  opened : Int

/-- `activity` holds references to the objects in `entries`. -/
structure Sessions where
  transports : Finset String
  activity : AList fun _ : String => Nat
  entries : Nat → Activity
  next : Nat

def Sessions.empty : Sessions := ⟨∅, ∅, fun _ => ⟨0, 0⟩, 0⟩

structure Limits where
  idleTimeoutMs : Nat
  maxSessions : Nat

/-- Mark a request on a session open. The reference is what the callback for the close of
the response holds. -/
def trackRequest (sessionId : String) (now : Int) (sessions : Sessions) : Nat × Sessions :=
  match sessions.activity.lookup sessionId with
  | some entry =>
      (entry, { sessions with
        entries := Function.update sessions.entries entry
          ⟨now, (sessions.entries entry).opened + 1⟩ })
  | none =>
      (sessions.next, { sessions with
        activity := sessions.activity.insert sessionId sessions.next
        entries := Function.update sessions.entries sessions.next ⟨now, 1⟩
        next := sessions.next + 1 })

/-- The callback for the close of a response. -/
def responseClosed (entry : Nat) (now : Int) (sessions : Sessions) : Sessions :=
  { sessions with
    entries := Function.update sessions.entries entry
      ⟨now, (sessions.entries entry).opened - 1⟩ }

/-- One turn of the sweep. The list is of the sessions whose transports it closes. -/
def sweepEntry (cutoff : Int) (swept : List String × Sessions)
    (item : Sigma fun _ : String => Nat) : List String × Sessions :=
  if item.1 ∉ swept.2.transports then
    (swept.1, { swept.2 with activity := swept.2.activity.erase item.1 })
  else if (swept.2.entries item.2).opened = 0 ∧ (swept.2.entries item.2).lastSeen < cutoff then
    (item.1 :: swept.1, { swept.2 with activity := swept.2.activity.erase item.1 })
  else swept

/-- With no timeout nothing is ever swept. -/
def sweep (limits : Limits) (now : Int) (sessions : Sessions) : List String × Sessions :=
  if 0 < limits.idleTimeoutMs then
    sessions.activity.entries.foldl (sweepEntry (now - limits.idleTimeoutMs)) ([], sessions)
  else ([], sessions)

def onsessioninitialized (sid : String) (now : Int) (sessions : Sessions) : Sessions :=
  { transports := insert sid sessions.transports
    activity := sessions.activity.insert sid sessions.next
    entries := Function.update sessions.entries sessions.next ⟨now, 0⟩
    next := sessions.next + 1 }

def onclose (sid : String) (sessions : Sessions) : Sessions :=
  { sessions with
    transports := sessions.transports.erase sid
    activity := sessions.activity.erase sid }

/-! ## The routes -/

/-- What becomes of a request: its transport handles it, with the reference its response
holds, a new transport does, or it is refused with a status and an error. -/
inductive Route where
  | handled (sessionId : String) (entry : Option Nat)
  | initializing
  | refused (status : Nat) (error : String)
deriving DecidableEq

/-- The session id of a header when it has a transport; an empty one has none. -/
def existing (sessions : Sessions) (header : Option String) : Option String :=
  header.filter fun sessionId => sessionId ≠ "" ∧ sessionId ∈ sessions.transports

def post (limits : Limits) (header : Option String) (isInitialize : Bool) (now : Int)
    (sessions : Sessions) : Route × Sessions :=
  match existing sessions header with
  | some sessionId =>
      (.handled sessionId (some (trackRequest sessionId now sessions).1),
        (trackRequest sessionId now sessions).2)
  | none =>
      if isInitialize then
        if limits.maxSessions ≤ sessions.transports.card then
          (.refused 503 ("session limit reached (" ++ toString limits.maxSessions ++
            "); close idle sessions or raise GPTQUEUE_HTTP_MAX_SESSIONS"), sessions)
        else (.initializing, sessions)
      else if header.getD "" ≠ "" then
        (.refused 404 "session expired or unknown; re-initialize to obtain a new session",
          sessions)
      else
        (.refused 400 ("Bad request: no mcp-session-id header and the body is not an " ++
          "initialize request. Send an initialize request first."), sessions)

def get (header : Option String) (now : Int) (sessions : Sessions) : Route × Sessions :=
  match existing sessions header with
  | some sessionId =>
      (.handled sessionId (some (trackRequest sessionId now sessions).1),
        (trackRequest sessionId now sessions).2)
  | none => (.refused 404 "Session not found", sessions)

/-- The transport decides whether it closes; its response is not tracked. -/
def delete (header : Option String) (sessions : Sessions) : Route :=
  match existing sessions header with
  | some sessionId => .handled sessionId none
  | none => .refused 404 "Session not found"

/-! ## Runs -/

/-- A response that has not closed, with the session of its request. -/
structure OpenResponse where
  sessionId : String
  entry : Nat
deriving DecidableEq

/-- The server among its clients. `closing` are the sessions that a sweep has closed,
`generated` the session ids there have been, and `lastActivity` when a session was last
begun or a request of it began or ended. -/
structure HttpServer where
  sessions : Sessions
  responses : List OpenResponse
  initializing : Nat
  closing : Finset String
  generated : Finset String
  lastActivity : String → Int

namespace HttpServer

def start : HttpServer := ⟨.empty, [], 0, ∅, ∅, fun _ => 0⟩

/-- What a route leaves behind. -/
def routed (server : HttpServer) (now : Int) (routed : Route × Sessions) : HttpServer :=
  match routed.1 with
  | .handled sessionId (some entry) =>
      { server with
        sessions := routed.2
        responses := ⟨sessionId, entry⟩ :: server.responses
        lastActivity := Function.update server.lastActivity sessionId now }
  | .handled _ none => { server with sessions := routed.2 }
  | .initializing =>
      { server with sessions := routed.2, initializing := server.initializing + 1 }
  | .refused _ _ => { server with sessions := routed.2 }

def initialized (server : HttpServer) (sid : String) (now : Int) : HttpServer :=
  { server with
    sessions := onsessioninitialized sid now server.sessions
    initializing := server.initializing - 1
    generated := insert sid server.generated
    lastActivity := Function.update server.lastActivity sid now }

def closed (server : HttpServer) (sid : String) : HttpServer :=
  { server with sessions := onclose sid server.sessions }

def ended (server : HttpServer) (response : OpenResponse) (now : Int) : HttpServer :=
  { server with
    sessions := responseClosed response.entry now server.sessions
    responses := server.responses.erase response
    lastActivity := Function.update server.lastActivity response.sessionId now }

def swept (limits : Limits) (server : HttpServer) (now : Int) : HttpServer :=
  { server with
    sessions := (sweep limits now server.sessions).2
    closing := server.closing ∪ (sweep limits now server.sessions).1.toFinset }

end HttpServer

/-- The clock may stand anywhere at a step. A session id is generated once. -/
inductive HttpStep (limits : Limits) : HttpServer → HttpServer → Prop
  | posted {server : HttpServer} (header : Option String) (isInitialize : Bool) (now : Int) :
      HttpStep limits server
        (server.routed now (post limits header isInitialize now server.sessions))
  | got {server : HttpServer} (header : Option String) (now : Int) :
      HttpStep limits server (server.routed now (get header now server.sessions))
  | deleted {server : HttpServer} (header : Option String) (now : Int) :
      HttpStep limits server
        (server.routed now (delete header server.sessions, server.sessions))
  | initialized {server : HttpServer} (sid : String) (now : Int)
      (coming : 0 < server.initializing) (fresh : sid ∉ server.generated) :
      HttpStep limits server (server.initialized sid now)
  | abandoned {server : HttpServer} (coming : 0 < server.initializing) :
      HttpStep limits server { server with initializing := server.initializing - 1 }
  | ended {server : HttpServer} (response : OpenResponse) (now : Int)
      (isOpen : response ∈ server.responses) : HttpStep limits server (server.ended response now)
  | swept {server : HttpServer} (now : Int) : HttpStep limits server (server.swept limits now)
  | closed {server : HttpServer} (sid : String) : HttpStep limits server (server.closed sid)

def HttpReachable (limits : Limits) (server : HttpServer) : Prop :=
  Relation.ReflTransGen (HttpStep limits) .start server

/-! ## The sweep -/

section Sweep

variable {cutoff : Int} {sid : String}

/-- No request is open, and the last one ended before the cutoff. -/
def Idle (cutoff : Int) (sessions : Sessions) (item : Sigma fun _ : String => Nat) : Prop :=
  item.1 ∈ sessions.transports ∧ (sessions.entries item.2).opened = 0 ∧
    (sessions.entries item.2).lastSeen < cutoff

/-- A turn drops at most its own key from the activity. -/
theorem sweepEntry_activity (cutoff : Int) (swept : List String × Sessions)
    (item : Sigma fun _ : String => Nat) :
    ∃ activity, (sweepEntry cutoff swept item).2 = { swept.2 with activity } ∧
      (activity = swept.2.activity ∨ activity = swept.2.activity.erase item.1) := by
  rw [sweepEntry]
  split
  · exact ⟨_, rfl, .inr rfl⟩
  · split
    · exact ⟨_, rfl, .inr rfl⟩
    · exact ⟨_, rfl, .inl rfl⟩

theorem foldl_sweepEntry_activity (items : List (Sigma fun _ : String => Nat))
    (swept : List String × Sessions) :
    ∃ activity, (items.foldl (sweepEntry cutoff) swept).2 = { swept.2 with activity } := by
  induction items generalizing swept with
  | nil => exact ⟨_, rfl⟩
  | cons item items induction =>
      rcases sweepEntry_activity cutoff swept item with ⟨_, first, -⟩
      rcases induction (sweepEntry cutoff swept item) with ⟨activity, rest⟩
      exact ⟨activity, rest.trans (by rw [first])⟩

theorem lookup_of_foldl_sweepEntry {items : List (Sigma fun _ : String => Nat)}
    {swept : List String × Sessions} {entry : Nat}
    (found : (items.foldl (sweepEntry cutoff) swept).2.activity.lookup sid = some entry) :
    swept.2.activity.lookup sid = some entry := by
  induction items generalizing swept with
  | nil => exact found
  | cons item items induction =>
      have later := induction found
      rcases sweepEntry_activity cutoff swept item with ⟨activity, first, kept | erased⟩
      · rwa [first, kept] at later
      · rw [first, erased] at later
        dsimp only at later
        have different : sid ≠ item.1 := by
          intro same
          rw [same, AList.lookup_erase] at later
          cases later
        rwa [AList.lookup_erase_ne different] at later

theorem mem_sweepEntry (swept : List String × Sessions) (item : Sigma fun _ : String => Nat) :
    sid ∈ (sweepEntry cutoff swept item).1 ↔
      sid ∈ swept.1 ∨ item.1 = sid ∧ Idle cutoff swept.2 item := by
  rw [sweepEntry]
  split
  · next absent => exact ⟨.inl, fun either => either.resolve_right fun both => absent both.2.1⟩
  · next present =>
      split
      · next idle =>
          rw [List.mem_cons]
          constructor
          · rintro (same | member)
            · exact .inr ⟨same.symm, not_not.mp present, idle⟩
            · exact .inl member
          · rintro (member | both)
            · exact .inr member
            · exact .inl both.1.symm
      · next active =>
          exact ⟨.inl, fun either => either.resolve_right fun both => active both.2.2⟩

theorem mem_foldl_sweepEntry (items : List (Sigma fun _ : String => Nat))
    (swept : List String × Sessions) :
    sid ∈ (items.foldl (sweepEntry cutoff) swept).1 ↔
      sid ∈ swept.1 ∨ ∃ item ∈ items, item.1 = sid ∧ Idle cutoff swept.2 item := by
  induction items generalizing swept with
  | nil =>
      refine ⟨.inl, ?_⟩
      rintro (member | ⟨item, member, -⟩)
      · exact member
      · cases member
  | cons item items induction =>
      rcases sweepEntry_activity cutoff swept item with ⟨activity, first, -⟩
      have same : ∀ other, Idle cutoff (sweepEntry cutoff swept item).2 other ↔
          Idle cutoff swept.2 other := by
        intro other
        rw [first]
        exact Iff.rfl
      rw [List.foldl_cons, induction, mem_sweepEntry, List.exists_mem_cons_iff, or_assoc]
      simp only [same]

/-- A session with a transport that is not swept keeps its entry. -/
theorem lookup_foldl_sweepEntry {items : List (Sigma fun _ : String => Nat)}
    {swept : List String × Sessions} (present : sid ∈ swept.2.transports)
    (kept : sid ∉ (items.foldl (sweepEntry cutoff) swept).1) :
    (items.foldl (sweepEntry cutoff) swept).2.activity.lookup sid =
      swept.2.activity.lookup sid := by
  induction items generalizing swept with
  | nil => rfl
  | cons item items induction =>
      have notNow : sid ∉ (sweepEntry cutoff swept item).1 := by
        intro member
        exact kept ((mem_foldl_sweepEntry items _).mpr (.inl member))
      have first : (sweepEntry cutoff swept item).2.activity.lookup sid =
          swept.2.activity.lookup sid := by
        rw [sweepEntry] at notNow ⊢
        split
        · next absent =>
            have different : sid ≠ item.1 := by
              intro same
              exact absent (same ▸ present)
            exact AList.lookup_erase_ne different
        · next isPresent =>
            rw [if_neg isPresent] at notNow
            split
            · next idle =>
                rw [if_pos idle] at notNow
                exact AList.lookup_erase_ne fun same => notNow (same ▸ List.mem_cons_self)
            · rfl
      rw [List.foldl_cons, ← first]
      apply induction
      · rcases sweepEntry_activity cutoff swept item with ⟨activity, same, -⟩
        rw [same]
        exact present
      · exact kept

variable {limits : Limits} {now : Int} {sessions : Sessions}

theorem sweep_activity :
    ∃ activity, (sweep limits now sessions).2 = { sessions with activity } := by
  rw [sweep]
  split
  · exact foldl_sweepEntry_activity _ _
  · exact ⟨_, rfl⟩

theorem lookup_of_sweep {entry : Nat}
    (found : (sweep limits now sessions).2.activity.lookup sid = some entry) :
    sessions.activity.lookup sid = some entry := by
  rw [sweep] at found
  split at found
  · exact lookup_of_foldl_sweepEntry found
  · exact found

theorem lookup_sweep (present : sid ∈ sessions.transports)
    (kept : sid ∉ (sweep limits now sessions).1) :
    (sweep limits now sessions).2.activity.lookup sid = sessions.activity.lookup sid := by
  rw [sweep] at kept ⊢
  split
  · next enabled =>
      rw [if_pos enabled] at kept
      exact lookup_foldl_sweepEntry present kept
  · rfl

/-- What a sweep closes. -/
theorem mem_sweep : sid ∈ (sweep limits now sessions).1 ↔ 0 < limits.idleTimeoutMs ∧
    ∃ entry, sessions.activity.lookup sid = some entry ∧
      Idle (now - limits.idleTimeoutMs) sessions ⟨sid, entry⟩ := by
  rw [sweep]
  split
  · next enabled =>
      rw [mem_foldl_sweepEntry]
      constructor
      · rintro (member | ⟨⟨key, entry⟩, member, rfl, idle⟩)
        · cases member
        · exact ⟨enabled, entry, AList.mem_lookup_iff.mpr member, idle⟩
      · rintro ⟨-, entry, found, idle⟩
        exact .inr ⟨⟨sid, entry⟩, AList.mem_lookup_iff.mp found, rfl, idle⟩
  · next disabled =>
      constructor
      · intro member
        cases member
      · rintro ⟨enabled, -⟩
        exact absurd enabled disabled

end Sweep

/-! ## The activity of the sessions

The object of a session is the one that all its open responses hold, and counts them.
-/

structure Tracks (server : HttpServer) : Prop where
  known : ∀ sid entry, server.sessions.activity.lookup sid = some entry →
    sid ∈ server.sessions.transports
  old : ∀ sid entry, server.sessions.activity.lookup sid = some entry →
    entry < server.sessions.next
  unshared : ∀ sid other entry, server.sessions.activity.lookup sid = some entry →
    server.sessions.activity.lookup other = some entry → sid = other
  oldResponse : ∀ response ∈ server.responses, response.entry < server.sessions.next
  own : ∀ response ∈ server.responses, ∀ sid,
    server.sessions.activity.lookup sid = some response.entry → response.sessionId = sid
  counted : ∀ entry < server.sessions.next, (server.sessions.entries entry).opened =
    server.responses.countP fun response => response.entry = entry
  generated : ∀ sid ∈ server.sessions.transports, sid ∈ server.generated
  generatedResponse : ∀ response ∈ server.responses, response.sessionId ∈ server.generated
  live : ∀ sid ∈ server.sessions.transports, sid ∉ server.closing →
    ∃ entry, server.sessions.activity.lookup sid = some entry ∧
      (server.sessions.entries entry).lastSeen = server.lastActivity sid ∧
        ∀ response ∈ server.responses, response.sessionId = sid → response.entry = entry

namespace Tracks

theorem start : Tracks .start where
  known sid entry found := by cases found
  old sid entry found := by cases found
  unshared sid other entry found := by cases found
  oldResponse response member := by cases member
  own response member := by cases member
  counted entry isOld := by cases isOld
  generated sid member := by cases member
  generatedResponse response member := by cases member
  live sid member := by cases member

variable {server : HttpServer}

/-- Nothing changes but that keys are dropped, and none of a session that stays. -/
theorem drop (holds : Tracks server) {transports : Finset String}
    {activity : AList fun _ : String => Nat} {closing : Finset String}
    (fewer : transports ⊆ server.sessions.transports)
    (found : ∀ sid entry, activity.lookup sid = some entry →
      server.sessions.activity.lookup sid = some entry ∧ sid ∈ transports)
    (kept : ∀ sid ∈ transports, sid ∉ closing → sid ∉ server.closing ∧
      activity.lookup sid = server.sessions.activity.lookup sid) :
    Tracks { server with
      sessions := { server.sessions with transports, activity }, closing } where
  known sid entry isEntry := (found sid entry isEntry).2
  old sid entry isEntry := holds.old sid entry (found sid entry isEntry).1
  unshared sid other entry first second :=
    holds.unshared sid other entry (found sid entry first).1 (found other entry second).1
  oldResponse := holds.oldResponse
  own response member sid isEntry := holds.own response member sid (found sid _ isEntry).1
  counted := holds.counted
  generated sid member := holds.generated sid (fewer member)
  generatedResponse := holds.generatedResponse
  live sid member stays := by
    rcases kept sid member stays with ⟨stayed, same⟩
    rcases holds.live sid (fewer member) stayed with ⟨entry, isEntry, rest⟩
    exact ⟨entry, same.trans isEntry, rest⟩

theorem closed (holds : Tracks server) (sid : String) : Tracks (server.closed sid) := by
  apply holds.drop (Finset.erase_subset _ _)
  · intro other entry found
    have different : other ≠ sid := by
      intro same
      rw [same, AList.lookup_erase] at found
      cases found
    rw [AList.lookup_erase_ne different] at found
    exact ⟨found, Finset.mem_erase.mpr ⟨different, holds.known other entry found⟩⟩
  · intro other member stays
    exact ⟨stays, AList.lookup_erase_ne (Finset.mem_erase.mp member).1⟩

theorem swept (holds : Tracks server) (limits : Limits) (now : Int) :
    Tracks (server.swept limits now) := by
  rcases @sweep_activity limits now server.sessions with ⟨activity, same⟩
  have isActivity : (sweep limits now server.sessions).2.activity = activity := by rw [same]
  rw [HttpServer.swept, same]
  apply holds.drop (Finset.Subset.refl _)
  · intro sid entry found
    have before := lookup_of_sweep (isActivity ▸ found)
    exact ⟨before, holds.known sid entry before⟩
  · intro sid member stays
    rw [Finset.mem_union, List.mem_toFinset, not_or] at stays
    exact ⟨stays.1, isActivity ▸ lookup_sweep member stays.2⟩

/-- A key of the activity after an entry is added is the new one or an old one. -/
theorem lookup_insert_cases {activity : AList fun _ : String => Nat} {sid : String} {next : Nat}
    (other : String) (entry : Nat) (found : (activity.insert sid next).lookup other = some entry) :
    other = sid ∧ entry = next ∨ other ≠ sid ∧ activity.lookup other = some entry := by
  by_cases same : other = sid
  · rw [same, AList.lookup_insert] at found
    exact .inl ⟨same, (Option.some.inj found).symm⟩
  · rw [AList.lookup_insert_ne same] at found
    exact .inr ⟨same, found⟩

/-- A new entry is shared with no old key. -/
theorem unshared_insert (holds : Tracks server) {sid : String} (one other : String) (entry : Nat)
    (first : (server.sessions.activity.insert sid server.sessions.next).lookup one = some entry)
    (second : (server.sessions.activity.insert sid server.sessions.next).lookup other =
      some entry) : one = other := by
  rcases lookup_insert_cases one entry first with ⟨rfl, rfl⟩ | ⟨-, before⟩
  · rcases lookup_insert_cases other _ second with ⟨rfl, -⟩ | ⟨-, before⟩
    · rfl
    · exact absurd (holds.old other _ before) (Nat.lt_irrefl _)
  · rcases lookup_insert_cases other entry second with ⟨-, rfl⟩ | ⟨-, after⟩
    · exact absurd (holds.old one _ before) (Nat.lt_irrefl _)
    · exact holds.unshared one other entry before after

theorem countP_new (holds : Tracks server) :
    server.responses.countP (fun response => response.entry = server.sessions.next) = 0 := by
  rw [List.countP_eq_zero]
  intro response member isNext
  have isOld := holds.oldResponse response member
  rw [of_decide_eq_true isNext] at isOld
  exact Nat.lt_irrefl _ isOld

theorem initialized (holds : Tracks server) {sid : String} (fresh : sid ∉ server.generated)
    (now : Int) : Tracks (server.initialized sid now) := by
  have isNew := @lookup_insert_cases server.sessions.activity sid server.sessions.next
  constructor
  · intro other entry found
    rcases isNew other entry found with ⟨rfl, -⟩ | ⟨-, before⟩
    · exact Finset.mem_insert_self _ _
    · exact Finset.mem_insert_of_mem (holds.known other entry before)
  · intro other entry found
    rcases isNew other entry found with ⟨-, rfl⟩ | ⟨-, before⟩
    · exact Nat.lt_succ_self _
    · exact Nat.lt_succ_of_lt (holds.old other entry before)
  · exact holds.unshared_insert
  · intro response member
    exact Nat.lt_succ_of_lt (holds.oldResponse response member)
  · intro response member other found
    rcases isNew other _ found with ⟨-, same⟩ | ⟨-, before⟩
    · exact absurd (same ▸ holds.oldResponse response member) (Nat.lt_irrefl _)
    · exact holds.own response member other before
  · intro entry isOld
    dsimp only [HttpServer.initialized, onsessioninitialized]
    by_cases same : entry = server.sessions.next
    · rw [same, Function.update_self, holds.countP_new]
      rfl
    · rw [Function.update_of_ne same]
      exact holds.counted entry (Nat.lt_of_le_of_ne (Nat.le_of_lt_succ isOld) same)
  · intro other member
    rcases Finset.mem_insert.mp member with rfl | member
    · exact Finset.mem_insert_self _ _
    · exact Finset.mem_insert_of_mem (holds.generated other member)
  · intro response member
    exact Finset.mem_insert_of_mem (holds.generatedResponse response member)
  · intro other member stays
    dsimp only [HttpServer.initialized, onsessioninitialized] at member stays ⊢
    by_cases same : other = sid
    · subst same
      refine ⟨_, AList.lookup_insert _, ?_, fun response isOpen isSession => ?_⟩
      · rw [Function.update_self, Function.update_self]
      · exact absurd (isSession ▸ holds.generatedResponse response isOpen) fresh
    · have present := Finset.mem_of_mem_insert_of_ne member same
      rcases holds.live other present stays with ⟨entry, isEntry, seen, rest⟩
      refine ⟨entry, (AList.lookup_insert_ne same).trans isEntry, ?_, rest⟩
      rw [Function.update_of_ne same, Function.update_of_ne (holds.old other entry isEntry).ne]
      exact seen

theorem ended (holds : Tracks server) {response : OpenResponse}
    (isOpen : response ∈ server.responses) (now : Int) : Tracks (server.ended response now) where
  known := holds.known
  old := holds.old
  unshared := holds.unshared
  oldResponse other member := holds.oldResponse other (List.mem_of_mem_erase member)
  own other member := holds.own other (List.mem_of_mem_erase member)
  counted entry isOld := by
    dsimp only [HttpServer.ended, responseClosed]
    rw [List.countP_erase]
    by_cases same : entry = response.entry
    · have positive : 0 < server.responses.countP fun other => other.entry = entry :=
        List.countP_pos_iff.mpr ⟨response, isOpen, decide_eq_true same.symm⟩
      have counted := holds.counted entry isOld
      rw [if_pos ⟨isOpen, decide_eq_true same.symm⟩]
      rw [same] at counted positive ⊢
      rw [Function.update_self, counted]
      dsimp only
      omega
    · rw [Function.update_of_ne same, if_neg fun both => same (of_decide_eq_true both.2).symm]
      exact holds.counted entry isOld
  generated := holds.generated
  generatedResponse other member := holds.generatedResponse other (List.mem_of_mem_erase member)
  live sid member stays := by
    rcases holds.live sid member stays with ⟨entry, isEntry, seen, rest⟩
    refine ⟨entry, isEntry, ?_, fun other isOther => rest other (List.mem_of_mem_erase isOther)⟩
    dsimp only [HttpServer.ended, responseClosed]
    by_cases same : sid = response.sessionId
    · have isEntry : entry = response.entry := (rest response isOpen same.symm).symm
      rw [isEntry, same, Function.update_self, Function.update_self]
    · have different : entry ≠ response.entry := by
        intro isEntry'
        exact same (holds.own response isOpen sid (isEntry' ▸ isEntry)).symm
      rw [Function.update_of_ne same, Function.update_of_ne different]
      exact seen

theorem countP_opened {responses : List OpenResponse} {sid : String} {entry other : Nat} :
    ((⟨sid, entry⟩ : OpenResponse) :: responses).countP (fun response => response.entry = other) =
      responses.countP (fun response => response.entry = other) +
        if entry = other then 1 else 0 := by
  rw [List.countP_cons]
  simp only [decide_eq_true_eq]

/-- A request on a session is opened. -/
theorem opened (holds : Tracks server) {sid : String}
    (present : sid ∈ server.sessions.transports) (now : Int) :
    Tracks (server.routed now (.handled sid (some (trackRequest sid now server.sessions).1),
      (trackRequest sid now server.sessions).2)) := by
  cases found : server.sessions.activity.lookup sid with
  | some entry =>
      have isOld := holds.old sid entry found
      rw [trackRequest, found]
      dsimp only [HttpServer.routed]
      constructor
      · exact holds.known
      · exact holds.old
      · exact holds.unshared
      · intro response member
        rcases List.mem_cons.mp member with rfl | member
        · exact isOld
        · exact holds.oldResponse response member
      · intro response member other isEntry
        rcases List.mem_cons.mp member with rfl | member
        · exact holds.unshared sid other entry found isEntry
        · exact holds.own response member other isEntry
      · intro other otherOld
        dsimp only
        by_cases same : other = entry
        · rw [countP_opened, same, Function.update_self, if_pos rfl, holds.counted entry isOld]
          rfl
        · rw [countP_opened, Function.update_of_ne same, if_neg fun isEntry => same isEntry.symm]
          exact holds.counted other otherOld
      · exact holds.generated
      · intro response member
        rcases List.mem_cons.mp member with rfl | member
        · exact holds.generated sid present
        · exact holds.generatedResponse response member
      · intro other member stays
        rcases holds.live other member stays with ⟨held, isHeld, seen, rest⟩
        dsimp only
        by_cases same : other = sid
        · subst same
          cases found.symm.trans isHeld
          refine ⟨entry, found, ?_, fun response isOpen isSession => ?_⟩
          · rw [Function.update_self, Function.update_self]
          · rcases List.mem_cons.mp isOpen with rfl | isOpen
            · rfl
            · exact rest response isOpen isSession
        · have different : held ≠ entry := by
            intro isEntry
            exact same (holds.unshared other sid entry (isEntry ▸ isHeld) found)
          refine ⟨held, isHeld, ?_, fun response isOpen isSession => ?_⟩
          · rw [Function.update_of_ne same, Function.update_of_ne different]
            exact seen
          · rcases List.mem_cons.mp isOpen with rfl | isOpen
            · exact absurd isSession.symm same
            · exact rest response isOpen isSession
  | none =>
      -- only a swept session has a transport and no entry
      have leaving : sid ∈ server.closing := by
        by_contra stays
        rcases holds.live sid present stays with ⟨entry, isEntry, -⟩
        rw [found] at isEntry
        cases isEntry
      have isNew := @lookup_insert_cases server.sessions.activity sid server.sessions.next
      rw [trackRequest, found]
      dsimp only [HttpServer.routed]
      constructor
      · intro other entry isEntry
        rcases isNew other entry isEntry with ⟨rfl, -⟩ | ⟨-, before⟩
        · exact present
        · exact holds.known other entry before
      · intro other entry isEntry
        rcases isNew other entry isEntry with ⟨-, rfl⟩ | ⟨-, before⟩
        · exact Nat.lt_succ_self _
        · exact Nat.lt_succ_of_lt (holds.old other entry before)
      · exact holds.unshared_insert
      · intro response member
        rcases List.mem_cons.mp member with rfl | member
        · exact Nat.lt_succ_self _
        · exact Nat.lt_succ_of_lt (holds.oldResponse response member)
      · intro response member other isEntry
        rcases List.mem_cons.mp member with rfl | member
        · rcases isNew other _ isEntry with ⟨same, -⟩ | ⟨-, before⟩
          · exact same.symm
          · exact absurd (holds.old other _ before) (Nat.lt_irrefl _)
        · rcases isNew other _ isEntry with ⟨-, same⟩ | ⟨-, before⟩
          · exact absurd (same ▸ holds.oldResponse response member) (Nat.lt_irrefl _)
          · exact holds.own response member other before
      · intro entry isOld
        dsimp only
        by_cases same : entry = server.sessions.next
        · rw [countP_opened, same, Function.update_self, if_pos rfl, holds.countP_new]
          rfl
        · rw [countP_opened, Function.update_of_ne same, if_neg fun isNext => same isNext.symm]
          exact holds.counted entry (Nat.lt_of_le_of_ne (Nat.le_of_lt_succ isOld) same)
      · exact holds.generated
      · intro response member
        rcases List.mem_cons.mp member with rfl | member
        · exact holds.generated sid present
        · exact holds.generatedResponse response member
      · intro other member stays
        have different : other ≠ sid := by
          intro same
          exact stays (same ▸ leaving)
        rcases holds.live other member stays with ⟨entry, isEntry, seen, rest⟩
        refine ⟨entry, (AList.lookup_insert_ne different).trans isEntry, ?_, ?_⟩
        · dsimp only
          rw [Function.update_of_ne different,
            Function.update_of_ne (holds.old other entry isEntry).ne]
          exact seen
        · intro response isOpen isSession
          rcases List.mem_cons.mp isOpen with rfl | isOpen
          · exact absurd isSession.symm different
          · exact rest response isOpen isSession

end Tracks

section Runs

variable {limits : Limits} {before after server : HttpServer}

theorem existing_present {sessions : Sessions} {header : Option String} {sid : String}
    (found : existing sessions header = some sid) : sid ∈ sessions.transports := by
  have both := (Option.filter_eq_some_iff.mp found).2
  exact (of_decide_eq_true both).2

/-- A request changes the maps only when it is tracked. -/
theorem post_cases (header : Option String) (isInitialize : Bool) (now : Int)
    (sessions : Sessions) :
    (∃ sid ∈ sessions.transports, post limits header isInitialize now sessions =
      (.handled sid (some (trackRequest sid now sessions).1), (trackRequest sid now sessions).2)) ∨
    (isInitialize = true ∧ sessions.transports.card < limits.maxSessions ∧
      post limits header isInitialize now sessions = (.initializing, sessions)) ∨
    ∃ status error, post limits header isInitialize now sessions =
      (.refused status error, sessions) := by
  rw [post]
  cases found : existing sessions header with
  | some sid => exact .inl ⟨sid, existing_present found, rfl⟩
  | none =>
      dsimp only
      split
      · next initializes =>
          split
          · exact .inr (.inr ⟨_, _, rfl⟩)
          · next room => exact .inr (.inl ⟨initializes, Nat.lt_of_not_le room, rfl⟩)
      · split
        · exact .inr (.inr ⟨_, _, rfl⟩)
        · exact .inr (.inr ⟨_, _, rfl⟩)

theorem get_cases (header : Option String) (now : Int) (sessions : Sessions) :
    (∃ sid ∈ sessions.transports, get header now sessions =
      (.handled sid (some (trackRequest sid now sessions).1), (trackRequest sid now sessions).2)) ∨
    ∃ status error, get header now sessions = (.refused status error, sessions) := by
  rw [get]
  cases found : existing sessions header with
  | some sid => exact .inl ⟨sid, existing_present found, rfl⟩
  | none => exact .inr ⟨_, _, rfl⟩

theorem delete_cases (header : Option String) (sessions : Sessions) :
    (∃ sid, delete header sessions = .handled sid none) ∨
      ∃ status error, delete header sessions = .refused status error := by
  rw [delete]
  cases existing sessions header with
  | some sid => exact .inl ⟨sid, rfl⟩
  | none => exact .inr ⟨_, _, rfl⟩

theorem HttpStep.tracks (step : HttpStep limits before after) (holds : Tracks before) :
    Tracks after := by
  cases step with
  | posted header isInitialize now =>
      rcases @post_cases limits header isInitialize now before.sessions with
        ⟨sid, present, same⟩ | ⟨-, -, same⟩ | ⟨status, error, same⟩
      · exact same ▸ holds.opened present now
      · exact same ▸ { holds with }
      · exact same ▸ holds
  | got header now =>
      rcases get_cases header now before.sessions with ⟨sid, present, same⟩ | ⟨status, error, same⟩
      · exact same ▸ holds.opened present now
      · exact same ▸ holds
  | deleted header now =>
      rcases delete_cases header before.sessions with ⟨sid, same⟩ | ⟨status, error, same⟩
      · exact same ▸ holds
      · exact same ▸ holds
  | initialized sid now coming fresh => exact holds.initialized fresh now
  | abandoned coming => exact { holds with }
  | ended response now isOpen => exact holds.ended isOpen now
  | swept now => exact holds.swept limits now
  | closed sid => exact holds.closed sid

theorem HttpReachable.tracks (reached : HttpReachable limits server) : Tracks server := by
  induction reached with
  | refl => exact .start
  | tail _ step induction => exact step.tracks induction

/-- The sweep closes a session exactly when it has no open request and has been idle for
longer than the timeout, and it can see every session. -/
structure SweepExact (limits : Limits) (server : HttpServer) : Prop where
  closes : ∀ now, ∀ sid ∈ server.sessions.transports, sid ∉ server.closing →
    (sid ∈ (sweep limits now server.sessions).1 ↔ 0 < limits.idleTimeoutMs ∧
      (∀ response ∈ server.responses, response.sessionId ≠ sid) ∧
        server.lastActivity sid < now - limits.idleTimeoutMs)
  only : ∀ now, ∀ sid ∈ (sweep limits now server.sessions).1, sid ∈ server.sessions.transports
  keys : ∀ sid ∉ server.closing,
    sid ∈ server.sessions.activity ↔ sid ∈ server.sessions.transports

theorem Tracks.opened_eq_zero (holds : Tracks server) {sid : String} {entry : Nat}
    (found : server.sessions.activity.lookup sid = some entry)
    (own : ∀ response ∈ server.responses, response.sessionId = sid → response.entry = entry) :
    (server.sessions.entries entry).opened = 0 ↔
      ∀ response ∈ server.responses, response.sessionId ≠ sid := by
  rw [holds.counted entry (holds.old sid entry found), Int.natCast_eq_zero, List.countP_eq_zero]
  constructor
  · intro none response member isSession
    exact none response member (decide_eq_true (own response member isSession))
  · intro none response member isEntry
    exact none response member
      (holds.own response member sid (of_decide_eq_true isEntry ▸ found))

theorem http_sweep_exact (reached : HttpReachable limits server) : SweepExact limits server where
  closes now sid present stays := by
    rcases reached.tracks.live sid present stays with ⟨entry, found, seen, own⟩
    have none := reached.tracks.opened_eq_zero found own
    rw [mem_sweep]
    constructor
    · rintro ⟨enabled, other, isOther, idle⟩
      cases found.symm.trans isOther
      exact ⟨enabled, none.mp idle.2.1, seen ▸ idle.2.2⟩
    · rintro ⟨enabled, noRequest, idle⟩
      exact ⟨enabled, entry, found, present, none.mpr noRequest, seen.symm ▸ idle⟩
  only now sid swept := by
    rcases mem_sweep.mp swept with ⟨-, entry, -, idle⟩
    exact idle.1
  keys sid stays := by
    constructor
    · intro member
      rcases Option.isSome_iff_exists.mp (AList.lookup_isSome.mpr member) with ⟨entry, found⟩
      exact reached.tracks.known sid entry found
    · intro present
      rcases reached.tracks.live sid present stays with ⟨entry, found, -⟩
      exact AList.lookup_isSome.mp (found ▸ rfl)

end Runs

/-- A session is begun, and a request of it is open. -/
def asked : HttpServer :=
  let limits : Limits := ⟨1000, 256⟩
  let begun := (HttpServer.start.routed 0 (post limits none true 0 .empty)).initialized "s" 10
  begun.routed 20 (post limits (some "s") false 20 begun.sessions)

/-- The request has ended. -/
def answered : HttpServer := asked.ended ⟨"s", 0⟩ 5000

theorem asked_reachable : HttpReachable ⟨1000, 256⟩ asked :=
  ((Relation.ReflTransGen.single (.posted none true 0)).tail
    (.initialized "s" 10 (by decide) (by decide))).tail (.posted (some "s") false 20)

/-- While the request is open the session is not swept, and then a second after it. -/
theorem answered_swept : "s" ∉ (sweep ⟨1000, 256⟩ 4000 asked.sessions).1 ∧
    "s" ∈ (sweep ⟨1000, 256⟩ 6001 answered.sessions).1 := by
  have reached : HttpReachable ⟨1000, 256⟩ answered :=
    asked_reachable.tail (.ended ⟨"s", 0⟩ 5000 (by decide))
  constructor
  · intro swept
    have idle :=
      ((http_sweep_exact asked_reachable).closes 4000 "s" (by decide) (by decide)).mp swept
    exact idle.2.1 ⟨"s", 0⟩ (by decide) rfl
  · exact ((http_sweep_exact reached).closes 6001 "s" (by decide) (by decide)).mpr
      ⟨by decide, by decide, by decide⟩

/-! ## The session limit -/

section Capacity

variable {limits : Limits} {overlap : Nat} {before after server : HttpServer} {target : Room}

/-- Runs in which no more than `overlap` sessions are being initialized at once. -/
def HttpReachableWithin (limits : Limits) (overlap : Nat) (server : HttpServer) : Prop :=
  Relation.ReflTransGen
    (fun before after => HttpStep limits before after ∧ after.initializing ≤ overlap) .start server

theorem HttpReachableWithin.reachable (reached : HttpReachableWithin limits overlap server) :
    HttpReachable limits server :=
  Relation.ReflTransGen.mono (fun _ _ both => And.left both) _ _ reached

/-- The sessions, and those that have passed the check. -/
def HttpServer.room (server : HttpServer) : Room :=
  ⟨server.sessions.transports.card, server.initializing⟩

theorem trackRequest_transports (sid : String) (now : Int) (sessions : Sessions) :
    (trackRequest sid now sessions).2.transports = sessions.transports := by
  rw [trackRequest]
  cases sessions.activity.lookup sid <;> rfl

theorem HttpServer.room_opened (sid : String) (now : Int) :
    (server.routed now (.handled sid (some (trackRequest sid now server.sessions).1),
      (trackRequest sid now server.sessions).2)).room = server.room := by
  dsimp only [HttpServer.routed, HttpServer.room]
  rw [trackRequest_transports]

theorem HttpServer.room_initialized (holds : Tracks server) {sid : String}
    (fresh : sid ∉ server.generated) (now : Int) :
    (server.initialized sid now).room =
      ⟨server.sessions.transports.card + 1, server.initializing - 1⟩ := by
  have absent : sid ∉ server.sessions.transports := fun present =>
    fresh (holds.generated sid present)
  dsimp only [HttpServer.initialized, HttpServer.room, onsessioninitialized]
  rw [Finset.card_insert_of_notMem absent]

/-- A step of the server is none or one of the room. -/
theorem HttpStep.room (step : HttpStep limits before after) (holds : Tracks before)
    (within : after.initializing ≤ overlap) :
    after.room = before.room ∨ Room.Step limits.maxSessions overlap before.room after.room := by
  cases step with
  | posted header isInitialize now =>
      rcases @post_cases limits header isInitialize now before.sessions with
        ⟨sid, present, same⟩ | ⟨-, space, same⟩ | ⟨status, error, same⟩
      · rw [same]
        exact .inl (HttpServer.room_opened sid now)
      · rw [same] at within ⊢
        exact .inr (.admitted space within)
      · rw [same]
        exact .inl rfl
  | got header now =>
      rcases get_cases header now before.sessions with ⟨sid, present, same⟩ | ⟨status, error, same⟩
      · rw [same]
        exact .inl (HttpServer.room_opened sid now)
      · rw [same]
        exact .inl rfl
  | deleted header now =>
      rcases delete_cases header before.sessions with ⟨sid, same⟩ | ⟨status, error, same⟩
      · rw [same]
        exact .inl rfl
      · rw [same]
        exact .inl rfl
  | initialized sid now coming fresh =>
      have isBefore : before.room =
          ⟨before.sessions.transports.card, before.initializing - 1 + 1⟩ := by
        rw [Nat.sub_add_cancel coming]
        rfl
      rw [HttpServer.room_initialized holds fresh now, isBefore]
      exact .inr .entered
  | abandoned coming =>
      have isBefore : before.room =
          ⟨before.sessions.transports.card, before.initializing - 1 + 1⟩ := by
        rw [Nat.sub_add_cancel coming]
        rfl
      rw [isBefore]
      exact .inr .abandoned
  | ended response now isOpen => exact .inl rfl
  | swept now =>
      rcases @sweep_activity limits now before.sessions with ⟨activity, same⟩
      left
      rw [HttpServer.swept, same]
      rfl
  | closed sid =>
      dsimp only [HttpServer.closed, HttpServer.room, onclose]
      by_cases present : sid ∈ before.sessions.transports
      · have one := Finset.card_erase_add_one present
        rw [← one]
        exact .inr .left
      · rw [Finset.erase_eq_of_notMem present]
        exact .inl rfl

theorem HttpReachableWithin.room (reached : HttpReachableWithin limits overlap server) :
    Room.Reached limits.maxSessions overlap server.room := by
  induction reached with
  | refl => exact .refl
  | tail reached step induction =>
      rcases step.1.room (HttpReachableWithin.reachable reached).tracks step.2 with same | step
      · exact same ▸ induction
      · exact induction.tail step

theorem HttpReachableWithin.initializing_le (reached : HttpReachableWithin limits overlap server) :
    server.initializing ≤ overlap := by
  cases reached with
  | refl => exact Nat.zero_le _
  | tail _ step => exact step.2

/-- The server can follow every step of its room. -/
theorem HttpReachableWithin.follow (reached : HttpReachableWithin limits overlap server)
    (step : Room.Step limits.maxSessions overlap server.room target) :
    ∃ later, HttpReachableWithin limits overlap later ∧ later.room = target := by
  have bound := reached.initializing_le
  have holds := reached.reachable.tracks
  generalize isRoom : server.room = start at step
  have isInside : server.sessions.transports.card = start.inside := congrArg Room.inside isRoom
  have isComing : server.initializing = start.coming := congrArg Room.coming isRoom
  cases step with
  | admitted space calm =>
      subst isRoom
      have initializes : post limits none true 0 server.sessions =
          (.initializing, server.sessions) := by
        rw [post]
        exact if_neg (Nat.not_le_of_lt space)
      have step := @HttpStep.posted limits server none true 0
      rw [initializes] at step
      exact ⟨_, reached.tail ⟨step, calm⟩, rfl⟩
  | entered =>
      rcases Infinite.exists_notMem_finset server.generated with ⟨sid, fresh⟩
      have coming : 0 < server.initializing := isComing.symm ▸ Nat.succ_pos _
      refine ⟨server.initialized sid 0, reached.tail ⟨.initialized sid 0 coming fresh, ?_⟩, ?_⟩
      · exact (Nat.sub_le _ _).trans bound
      · rw [HttpServer.room_initialized holds fresh]
        rw [isInside, isComing]
        rfl
  | abandoned =>
      have coming : 0 < server.initializing := isComing.symm ▸ Nat.succ_pos _
      refine ⟨_, reached.tail ⟨.abandoned coming, (Nat.sub_le _ _).trans bound⟩, ?_⟩
      dsimp only [HttpServer.room]
      rw [isInside, isComing]
      rfl
  | left =>
      have inhabited : 0 < server.sessions.transports.card := isInside.symm ▸ Nat.succ_pos _
      rcases Finset.card_pos.mp inhabited with ⟨sid, present⟩
      refine ⟨_, reached.tail ⟨.closed sid, bound⟩, ?_⟩
      dsimp only [HttpServer.closed, HttpServer.room, onclose]
      rw [Finset.card_erase_of_mem present, isInside, isComing]
      rfl

theorem room_reached_iff : Room.Reached limits.maxSessions overlap target ↔
    ∃ server, HttpReachableWithin limits overlap server ∧ server.room = target := by
  constructor
  · intro reached
    induction reached with
    | refl => exact ⟨.start, .refl, rfl⟩
    | tail _ step induction =>
        rcases induction with ⟨server, reached, rfl⟩
        exact reached.follow step
  · rintro ⟨server, reached, rfl⟩
    exact reached.room

/-- The limit on the sessions is exceeded by what overlapping initializations may add, one
fewer than them, and by no more. -/
theorem http_most_sessions (space : 0 < limits.maxSessions) (calm : 0 < overlap) :
    IsGreatest {count | ∃ server, HttpReachableWithin limits overlap server ∧
      server.sessions.transports.card = count} (limits.maxSessions + overlap - 1) := by
  rcases Room.isGreatest_inside space calm with ⟨⟨coming, full⟩, greatest⟩
  constructor
  · rcases room_reached_iff.mp full with ⟨server, reached, isRoom⟩
    exact ⟨server, reached, congrArg Room.inside isRoom⟩
  · rintro count ⟨server, reached, rfl⟩
    exact greatest ⟨server.initializing, reached.room⟩

end Capacity

/-- At the default limit, when no initializations overlap. -/
theorem http_most_sessions_default :
    IsGreatest {count | ∃ server, HttpReachableWithin ⟨3600000, 256⟩ 1 server ∧
      server.sessions.transports.card = count} 256 :=
  @http_most_sessions ⟨3600000, 256⟩ 1 (by decide) (by decide)

end GptQueue.Transport
