import GptQueue.Claims.Isolation
import GptQueue.Claims.Order

/-! # A worker among others

A worker of an actor claims a batch, works and acknowledges it, over and over. Meanwhile
messages arrive for its actor, and others do what they like. Each claim that it tries
brings the worker forward, and what it has acknowledged is what was in the inbox first.
-/

namespace GptQueue.Claims

open Redis
open GptQueue.Mailbox

/-! ## The worker -/

/-- `arrived` is what has reached the inbox, `acknowledged` what the worker has
acknowledged, `claim` the id of the claim it holds with its tasks and `attempts` how often
it has tried to claim. -/
structure Worker where
  keyspace : Keyspace Key
  arrived : List String
  acknowledged : List String
  claim : Option (String × List String)
  attempts : Nat

namespace Worker

def start (keyspace : Keyspace Key) : Worker := ⟨keyspace, [], [], none, 0⟩

def inHand (worker : Worker) : List String := worker.claim.elim [] Prod.snd

variable (cjson : Cjson) (actor session : String) (worker : Worker)

/-- The claim that a reply hands out. -/
def claimed (id : String) : Except Fault BatchClaimReply → Option (String × List String)
  | .ok (.claimed stored) => some (id, claimTasks cjson stored)
  | _ => none

def claims (args : BatchClaimArgs) : Worker :=
  { worker with
    keyspace := (Action.batchClaim args).after cjson worker.keyspace
    claim := claimed cjson args.claimId ((batchClaim cjson args).run worker.keyspace).1
    attempts := worker.attempts + 1 }

def acknowledges (id : String) : Worker :=
  { worker with
    keyspace := (Action.ack id actor session).after cjson worker.keyspace
    acknowledged := worker.acknowledged ++
      (Action.ack id actor session).acknowledged cjson worker.keyspace
    claim := none }

/-- Someone else does something. -/
def meets (action : Action) : Worker :=
  { worker with
    keyspace := action.after cjson worker.keyspace
    arrived := worker.arrived ++ action.arrivals cjson worker.keyspace actor }

theorem meets_start (keyspace : Keyspace Key) (action : Action) :
    ((Worker.start keyspace).meets cjson actor action).keyspace = action.after cjson keyspace := rfl

theorem meets_start_arrived (keyspace : Keyspace Key) (action : Action) :
    ((Worker.start keyspace).meets cjson actor action).arrived =
      action.arrivals cjson keyspace actor := rfl

theorem claims_arrived (args : BatchClaimArgs) :
    (worker.claims cjson args).arrived = worker.arrived := rfl

theorem acknowledges_arrived (id : String) :
    (worker.acknowledges cjson actor session id).arrived = worker.arrived := rfl

/-- Actions that take nothing from the actor: what is about others, what reaches its inbox,
a renewal, and a recovery before the lease of the worker is over. -/
def Harmless : Action → Prop
  | .push _ _ => True
  | .requeue _ _ => True
  | .renew _ => True
  | .migrate source _ _ _ => source ≠ actor
  | .recover actorId now => ∀ id tasks, worker.claim = some (id, tasks) →
      id ∉ expiredIds (recoverExpiredArgs actorId now) worker.keyspace
  | action => ¬action.Names actor

end Worker

inductive WorkerStep (cjson : Cjson) (actor session : String) : Worker → Worker → Prop
  | meets {worker : Worker} (action : Action) (admissible : action.Admissible worker.keyspace)
      (harmless : worker.Harmless actor action) :
      WorkerStep cjson actor session worker (worker.meets cjson actor action)
  | claims {worker : Worker} (args : BatchClaimArgs) (idle : worker.claim = none)
      (own : args.actorId = actor) (bySession : args.sessionId = session)
      (admissible : (Action.batchClaim args).Admissible worker.keyspace)
      (below : ceilingReached args worker.keyspace = false) :
      WorkerStep cjson actor session worker (worker.claims cjson args)
  | acknowledges {worker : Worker} {id : String} {tasks : List String}
      (holds : worker.claim = some (id, tasks)) :
      WorkerStep cjson actor session worker (worker.acknowledges cjson actor session id)

/-! ## What every step keeps -/

/-- The worker holds its claim, and what was in the inbox and what has reached it is what
was acknowledged, then what is in hand, then what is in the inbox. -/
structure Works (cjson : Cjson) (actor session : String) (first : List String) (worker : Worker) :
    Prop where
  sound : Sound cjson worker.keyspace
  holds : ∀ id tasks, worker.claim = some (id, tasks) →
    ∃ claim, Stored cjson worker.keyspace claim ∧ claim.claimId = id ∧ claim.actorId = actor ∧
      claim.sessionId = session ∧ claim.tasks = tasks
  order : first ++ worker.arrived =
    worker.acknowledged ++ worker.inHand ++ worker.keyspace.items (.queue actor)
  progress : min worker.attempts first.length ≤ (worker.acknowledged ++ worker.inHand).length

section Steps

variable {cjson : Cjson} {actor session : String} {first : List String} {worker after : Worker}
  {keyspace : Keyspace Key}

/-- A claim that is not recovered stays. -/
theorem stored_stays_recovered {actorId : String} {bound : Nat}
    {claims : List (String × List String)} {before after : Keyspace Key}
    (recovered : Recovered actorId bound claims before after) {claim : TaskClaim}
    (stored : Stored cjson before claim)
    (kept : ∀ recovered ∈ claims, recovered.1 ≠ claim.claimId) : Stored cjson after claim := by
  induction recovered with
  | done keyspace => exact stored
  | @claim id tasks claims before middle after placed rest induction =>
      apply induction
      · have dropped : Stored cjson (dropClaim before actorId id) claim :=
          Sound.stored_dropClaim.mpr ⟨stored, (kept _ List.mem_cons_self).symm⟩
        exact ⟨stored.tasks, placed.sameClaims.claims.symm ▸ dropped.found⟩
      · intro recovered member
        exact kept recovered (List.mem_cons_of_mem _ member)

theorem Stored.of_sameClaims {before after : Keyspace Key} (same : SameClaims after before)
    {claim : TaskClaim} (stored : Stored cjson before claim) : Stored cjson after claim :=
  ⟨stored.tasks, same.claims.symm ▸ stored.found⟩

/-- A renewal keeps every claim up to its expiry. -/
theorem stored_renew (roundTrips : RoundTrips cjson) (sound : Sound cjson keyspace)
    (args : RenewArgs) {claim : TaskClaim} (stored : Stored cjson keyspace claim) :
    ∃ expiresAt, Stored cjson (Action.after cjson keyspace (.renew args))
      { claim with expiresAt } := by
  have change := change_renew roundTrips sound args
  generalize Action.after cjson keyspace (.renew args) = after at change ⊢
  cases change with
  | none => exact ⟨claim.expiresAt, stored⟩
  | @renewed _ other claimedMs expiresMs isStored renewable =>
      have tasks : (other.renewedTo (args.newExpires claimedMs)).tasks ≠ [] := isStored.tasks
      by_cases same : claim.claimId = other.claimId
      · cases Stored.unique roundTrips stored isStored same
        exact ⟨_, (Sound.stored_putClaim roundTrips tasks).mpr (.inl rfl)⟩
      · exact ⟨claim.expiresAt, (Sound.stored_putClaim roundTrips tasks).mpr (.inr ⟨stored, same⟩)⟩

/-- A recovery keeps a claim whose lease is not over. -/
theorem stored_recover (roundTrips : RoundTrips cjson) (sound : Sound cjson keyspace)
    (actorId : String) (now : Option Int) {claim : TaskClaim} (stored : Stored cjson keyspace claim)
    (live : claim.claimId ∉ expiredIds (recoverExpiredArgs actorId now) keyspace) :
    Stored cjson (Action.after cjson keyspace (.recover actorId now)) claim := by
  rcases run_recover roundTrips sound.claimsValid actorId now with unchanged | moved
  · rw [Action.after, unchanged]
    exact stored
  · apply stored_stays_recovered moved stored
    intro recovered member same
    rcases List.mem_map.mp member with ⟨id, expired, rfl⟩
    exact live (same ▸ expired)

/-- Nothing is taken from the actor by what is harmless, and its claim stays. -/
theorem takes_harmless {action : Action} (harmless : worker.Harmless actor action) :
    action.takes cjson worker.keyspace actor = [] := by
  cases action with
  | batchClaim args => exact if_neg harmless
  | migrate source destination guarded bound => exact if_neg harmless
  | _ => rfl

theorem movesInbox_harmless (roundTrips : RoundTrips cjson) (reads : ReadsMessages cjson)
    (sound : Sound cjson worker.keyspace) {action : Action}
    (admissible : action.Admissible worker.keyspace) (harmless : worker.Harmless actor action) :
    (action.after cjson worker.keyspace).items (.queue actor) =
      worker.keyspace.items (.queue actor) ++ action.arrivals cjson worker.keyspace actor := by
  cases deletes : action.deletes with
  | false =>
      have moves : MovesInbox cjson worker.keyspace actor action :=
        action.movesInbox roundTrips reads sound admissible deletes
      rw [MovesInbox, takes_harmless harmless] at moves
      exact moves.symm
  | true =>
      have foreign : ¬action.Names actor := by
        cases action with
        | purge other => exact harmless
        | unregister name sessionId => exact harmless
        | _ => cases deletes
      have nothing : action.arrivals cjson worker.keyspace actor = [] := by
        cases action with
        | purge other => rfl
        | unregister name sessionId => rfl
        | _ => cases deletes
      rw [nothing, List.append_nil]
      exact (action.sameFor roundTrips reads sound admissible foreign).inbox

theorem stored_harmless (roundTrips : RoundTrips cjson) (reads : ReadsMessages cjson)
    (sound : Sound cjson worker.keyspace) {action : Action}
    (admissible : action.Admissible worker.keyspace) (harmless : worker.Harmless actor action)
    {claim : TaskClaim} {tasks : List String}
    (isHeld : worker.claim = some (claim.claimId, tasks)) (own : claim.actorId = actor)
    (stored : Stored cjson worker.keyspace claim) :
    ∃ expiresAt, Stored cjson (action.after cjson worker.keyspace) { claim with expiresAt } := by
  have foreign : ¬action.Names actor →
      ∃ expiresAt, Stored cjson (action.after cjson worker.keyspace) { claim with expiresAt } :=
    fun foreign => ⟨claim.expiresAt,
      ((action.sameFor roundTrips reads sound admissible foreign).held claim own).mpr stored⟩
  cases action with
  | push bound message =>
      refine ⟨claim.expiresAt, ?_⟩
      rcases @run_boundedPush cjson message bound worker.keyspace reads sound.typed with
        ⟨-, outcome, ran, -⟩ | ⟨after, ran, same⟩
      · rw [Action.after, ran]
        exact stored
      · rw [Action.after, ran]
        exact Stored.of_sameClaims (SameClaims.of_sameTasks same)
          (stored.of_sameClaims (SameClaims.pushInbox _ _ _))
  | requeue actorId messageId =>
      refine ⟨claim.expiresAt, ?_⟩
      rcases @run_requeue cjson worker.keyspace actorId messageId sound.typed with
        unchanged | ⟨payload, dead, same⟩
      · rw [Action.after, unchanged]
        exact stored
      · exact Stored.of_sameClaims (SameClaims.of_sameTasks same)
          (stored.of_sameClaims (SameClaims.requeued _ _ _))
  | renew args => exact stored_renew roundTrips sound args stored
  | migrate source destination guarded bound =>
      refine ⟨claim.expiresAt, ?_⟩
      have change := @change_migrate cjson worker.keyspace sound source destination guarded bound
      generalize Action.after cjson worker.keyspace
        (.migrate source destination guarded bound) = after at change ⊢
      cases change with
      | none => exact stored
      | migrated different => exact stored.of_sameClaims (SameClaims.transferred _ _ _)
      | migratedDead different guarded bound =>
          exact (stored.of_sameClaims (SameClaims.transferred _ _ _)).of_sameClaims
            (SameClaims.transferredDead _ _ _ _)
  | recover actorId now =>
      exact ⟨claim.expiresAt,
        stored_recover roundTrips sound actorId now stored (harmless _ _ isHeld)⟩
  | batchClaim args => exact foreign harmless
  | ack claimId actorId sessionId => exact foreign harmless
  | purge other => exact foreign harmless
  | unregister name sessionId => exact foreign harmless
  | expire key => exact foreign harmless

/-- The worker claims the front of a nonempty inbox. -/
theorem Worker.claims_claim (roundTrips : RoundTrips cjson) (sound : Sound cjson worker.keyspace)
    {args : BatchClaimArgs} (admissible : (Action.batchClaim args).Admissible worker.keyspace)
    (below : ceilingReached args worker.keyspace = false)
    (nonempty : worker.keyspace.items (.queue args.actorId) ≠ []) :
    (worker.claims cjson args).claim =
      some (args.claimId, (worker.keyspace.items (.queue args.actorId)).take args.maxBatch) := by
  have tasks : (args.claim ((worker.keyspace.items (.queue args.actorId)).take
      args.maxBatch)).tasks ≠ [] := take_ne_nil admissible.1 nonempty
  rw [Worker.claims, run_batchClaim_claimed (sound.typed.index args.actorId) below admissible.1
    (sound.typed.inbox args.actorId) nonempty sound.typed.claims]
  dsimp only [Worker.claimed]
  rw [claimTasks_encode roundTrips tasks]
  rfl

namespace Works

theorem meets (works : Works cjson actor session first worker) (roundTrips : RoundTrips cjson)
    (reads : ReadsMessages cjson) {action : Action}
    (admissible : action.Admissible worker.keyspace) (harmless : worker.Harmless actor action) :
    Works cjson actor session first (worker.meets cjson actor action) where
  sound := works.sound.after roundTrips reads admissible
  holds id tasks isHeld := by
    rcases works.holds id tasks isHeld with ⟨claim, stored, rfl, own, bySession, isTasks⟩
    rcases stored_harmless roundTrips reads works.sound admissible harmless isHeld own stored with
      ⟨expiresAt, still⟩
    exact ⟨_, still, rfl, own, bySession, isTasks⟩
  order := by
    have grown := movesInbox_harmless roundTrips reads works.sound admissible harmless
    have order := works.order
    dsimp only [Worker.meets]
    rw [grown, ← List.append_assoc, order, List.append_assoc]
    rfl
  progress := works.progress

theorem claims (works : Works cjson actor session first worker) (roundTrips : RoundTrips cjson)
    (reads : ReadsMessages cjson) {args : BatchClaimArgs} (idle : worker.claim = none)
    (own : args.actorId = actor) (bySession : args.sessionId = session)
    (admissible : (Action.batchClaim args).Admissible worker.keyspace)
    (below : ceilingReached args worker.keyspace = false) :
    Works cjson actor session first (worker.claims cjson args) := by
  subst own bySession
  have nothing : worker.inHand = [] := by rw [Worker.inHand, idle, Option.elim_none]
  have order := works.order
  have progress := works.progress
  have index := works.sound.typed.index args.actorId
  have inbox := works.sound.typed.inbox args.actorId
  rw [nothing, List.append_nil] at order progress
  by_cases empty : worker.keyspace.items (.queue args.actorId) = []
  · have ran : (batchClaim cjson args).run worker.keyspace = (.ok .empty, worker.keyspace) :=
      run_batchClaim_empty index below admissible.1 inbox empty
    have same : worker.claims cjson args = { worker with attempts := worker.attempts + 1 } := by
      rw [Worker.claims, Action.after, ran, idle]
      rfl
    rw [same]
    refine ⟨works.sound, works.holds, works.order, ?_⟩
    -- an empty inbox is behind everything that was in it
    have long := congrArg List.length order
    rw [empty, List.append_nil, List.length_append] at long
    rw [List.length_append]
    dsimp only
    omega
  · have ran := @run_batchClaim_claimed cjson args worker.keyspace index below admissible.1 inbox
      empty works.sound.typed.claims
    obtain ⟨tasks, isTasks⟩ : ∃ tasks, tasks =
        (worker.keyspace.items (.queue args.actorId)).take args.maxBatch := ⟨_, rfl⟩
    have someTasks : (args.claim tasks).tasks ≠ [] := isTasks ▸ take_ne_nil admissible.1 empty
    rw [← isTasks] at ran
    have written : (worker.claims cjson args).keyspace =
        putClaim cjson (popped worker.keyspace (.queue args.actorId) args.maxBatch)
          (args.claim tasks) args.expiresAtMs := by
      rw [Worker.claims, Action.after, ran]
    have handed : (worker.claims cjson args).claim = some (args.claimId, tasks) :=
      isTasks ▸ Worker.claims_claim roundTrips works.sound admissible below empty
    have left : (worker.claims cjson args).keyspace.items (.queue args.actorId) =
        (worker.keyspace.items (.queue args.actorId)).drop args.maxBatch := by
      rw [written, ← items_popped]
      exact congrArg Value.items (putClaim_value_of_ne _ _ _ _ (by simp) (by simp))
    have inHand : (worker.claims cjson args).inHand = tasks := by
      rw [Worker.inHand, handed, Option.elim_some]
    refine ⟨works.sound.after roundTrips reads admissible, ?_, ?_, ?_⟩
    · intro id others isHeld
      rw [handed, Option.some_inj, Prod.mk.injEq] at isHeld
      rcases isHeld with ⟨rfl, rfl⟩
      rw [written]
      exact ⟨args.claim tasks, (Sound.stored_putClaim roundTrips someTasks).mpr (.inl rfl),
        rfl, rfl, rfl, rfl⟩
    · calc first ++ worker.arrived
          = worker.acknowledged ++ worker.keyspace.items (.queue args.actorId) := order
        _ = worker.acknowledged ++ (tasks ++
              (worker.keyspace.items (.queue args.actorId)).drop args.maxBatch) := by
            rw [isTasks, List.take_append_drop]
        _ = _ := by rw [← List.append_assoc, left, inHand]; rfl
    · have more : 0 < tasks.length := List.length_pos_iff.mpr someTasks
      rw [inHand, List.length_append]
      dsimp only [Worker.claims]
      omega

theorem acknowledges (works : Works cjson actor session first worker)
    (roundTrips : RoundTrips cjson) (reads : ReadsMessages cjson) {id : String}
    {tasks : List String} (isHeld : worker.claim = some (id, tasks)) :
    Works cjson actor session first (worker.acknowledges cjson actor session id) := by
  rcases works.holds id tasks isHeld with ⟨claim, stored, rfl, rfl, rfl, rfl⟩
  rcases run_ack_owned roundTrips works.sound.typed stored.tasks stored.found with
    ⟨after, ran, same, -⟩
  have written : (worker.acknowledges cjson claim.actorId claim.sessionId claim.claimId).keyspace =
      after := by
    rw [Worker.acknowledges, Action.after, ran]
  have acknowledged :
      (worker.acknowledges cjson claim.actorId claim.sessionId claim.claimId).acknowledged =
        worker.acknowledged ++ claim.tasks := by
    rw [Worker.acknowledges, Action.acknowledged, ran]
    dsimp only
    rw [tasksOf, stored.found, Option.elim_some, claimTasks_encode roundTrips stored.tasks]
  have left :
      after.items (.queue claim.actorId) = worker.keyspace.items (.queue claim.actorId) := by
    rw [same.items_eq rfl]
    simp [dropClaim, Keyspace.items]
  have before : worker.inHand = claim.tasks := by rw [Worker.inHand, isHeld, Option.elim_some]
  have nothing :
      (worker.acknowledges cjson claim.actorId claim.sessionId claim.claimId).inHand = [] := rfl
  refine ⟨?_, ?_, ?_, ?_⟩
  · exact @Sound.after cjson roundTrips reads worker.keyspace works.sound
      (.ack claim.claimId claim.actorId claim.sessionId) trivial
  · intro other tasks none
    cases none
  · rw [written, acknowledged, nothing, List.append_nil, left, ← before]
    exact works.order
  · rw [acknowledged, nothing, List.append_nil, ← before]
    exact works.progress

theorem step (works : Works cjson actor session first worker) (roundTrips : RoundTrips cjson)
    (reads : ReadsMessages cjson) (stepped : WorkerStep cjson actor session worker after) :
    Works cjson actor session first after := by
  cases stepped with
  | meets action admissible harmless => exact works.meets roundTrips reads admissible harmless
  | claims args idle own bySession admissible below =>
      exact works.claims roundTrips reads idle own bySession admissible below
  | acknowledges isHeld => exact works.acknowledges roundTrips reads isHeld

theorem start (sound : Sound cjson keyspace) :
    Works cjson actor session (keyspace.items (.queue actor)) (Worker.start keyspace) where
  sound := sound
  holds _ _ none := by cases none
  order := by simp [Worker.start, Worker.inHand]
  progress := by simp [Worker.start]

end Works

/-- Any run of the worker and the others from a keyspace. -/
def WorksTo (cjson : Cjson) (actor session : String) (keyspace : Keyspace Key)
    (worker : Worker) : Prop :=
  Relation.ReflTransGen (WorkerStep cjson actor session) (Worker.start keyspace) worker

theorem WorksTo.works (run : WorksTo cjson actor session keyspace worker)
    (roundTrips : RoundTrips cjson) (reads : ReadsMessages cjson) (sound : Sound cjson keyspace) :
    Works cjson actor session (keyspace.items (.queue actor)) worker := by
  induction run with
  | refl => exact Works.start sound
  | tail run stepped induction => exact induction.step roundTrips reads stepped

/-- What the worker has done: everything in order, and all of the first messages once it has
tried often enough and is idle. -/
structure Drains (actor : String) (first : List String) (worker : Worker) : Prop where
  order : first ++ worker.arrived =
    worker.acknowledged ++ worker.inHand ++ worker.keyspace.items (.queue actor)
  done : worker.claim = none → first.length ≤ worker.attempts → first <+: worker.acknowledged

/-- From any state of any run, a worker acknowledges what is in the inbox and then what
arrives, in order and once; as many claims as there are messages are always enough. -/
theorem worker_drains (roundTrips : RoundTrips cjson) (reads : ReadsMessages cjson)
    (reached : RunsTo cjson (fun _ => True) Keyspace.empty keyspace)
    (run : WorksTo cjson actor session keyspace worker) :
    Drains actor (keyspace.items (.queue actor)) worker := by
  have works := run.works roundTrips reads (reached.sound roundTrips reads Sound.empty)
  refine ⟨works.order, ?_⟩
  intro idle often
  have nothing : worker.inHand = [] := by rw [Worker.inHand, idle, Option.elim_none]
  have order := works.order
  have progress := works.progress
  rw [nothing, List.append_nil] at order progress
  rw [min_eq_right often] at progress
  exact List.prefix_of_prefix_length_le ⟨_, order⟩ ⟨_, rfl⟩ progress

end Steps

/-! Another session's claim of two messages expires, and the worker acknowledges these after
the message that was in the inbox. -/

def reminder : QueueMessage := { greeting with id := "o" }

def heldGreetings : Keyspace Key := Action.after Cjson.plain greetings (.batchClaim greetedClaim)

def reminded : Keyspace Key := Action.after Cjson.plain heldGreetings (.push none reminder)

def returned : Keyspace Key := Action.after Cjson.plain reminded (.recover "b" (some 2))

def laterClaim : BatchClaimArgs :=
  { greetedClaim with
    claimId := "d"
    sessionId := "t"
    maxConcurrent := 0 }

theorem heldGreetings_reachable :
    RunsTo Cjson.plain (fun _ => True) Keyspace.empty heldGreetings :=
  ((RunsTo.refl.step (.push none greeting) trivial trivial).step (.push none parting) trivial
    trivial).step (.batchClaim greetedClaim) ⟨by decide, greetedClaim_fresh⟩ trivial

theorem heldGreetings_state : actorState Cjson.plain heldGreetings "b" = waitingClaimed 0 [] := by
  have claimed := actorState_claim plain_roundTrips greetings_sound
    (by decide : 0 < greetedClaim.maxBatch)
  rw [show greetedClaim.actorId = "b" from rfl, greetings_state, claim_waiting] at claimed
  exact claimed

theorem heldGreetings_sound : Sound Cjson.plain heldGreetings :=
  heldGreetings_reachable.sound plain_roundTrips plain_readsMessages Sound.empty

theorem reminded_sound : Sound Cjson.plain reminded :=
  sound_push_plain heldGreetings_sound reminder

theorem reminded_state :
    actorState Cjson.plain reminded "b" = waitingClaimed 0 [reminder.serialized] := by
  have pushed : actorState Cjson.plain reminded "b" = _ :=
    actorState_push_plain heldGreetings_sound.typed reminder
  have nothing : heldGreetings.items (.queue "b") = [] := by
    rw [← actorState_inbox Cjson.plain, heldGreetings_state]
    rfl
  rw [pushed, show reminder.recipient = "b" from rfl, nothing, heldGreetings_state]
  rfl

theorem returned_sound : Sound Cjson.plain returned :=
  reminded_sound.after plain_roundTrips plain_readsMessages
    (by trivial : (Action.recover "b" (some 2)).Admissible reminded)

theorem returned_state : actorState Cjson.plain returned "b" =
    { waiting 1 with
      inbox := [reminder.serialized, greeting.serialized, parting.serialized] } := by
  rw [returned, actorState_recover plain_roundTrips reminded_sound, reminded_state,
    waitingClaimed_recovered (by decide)]
  rfl

theorem laterClaim_admissible : (Action.batchClaim laterClaim).Admissible returned := by
  have held : OnlyClaims Cjson.plain "b" heldGreetings :=
    greetings_onlyClaims.batchClaim plain_roundTrips greetings_sound rfl
      ⟨by decide, greetedClaim_fresh⟩
  have same : SameClaims reminded heldGreetings :=
    (SameClaims.of_sameTasks (sameTasks_push_plain heldGreetings_sound.typed reminder)).trans
      (SameClaims.pushInbox _ _ _)
  have only : OnlyClaims Cjson.plain "b" reminded := fun claim stored =>
    held claim (same.stored stored)
  have after : OnlyClaims Cjson.plain "b" returned :=
    only.recover plain_roundTrips reminded_sound "b" (some 2)
  refine ⟨by decide, after.fresh plain_roundTrips returned_sound ?_⟩
  rw [returned_state]
  rfl

/-- A worker that meets the recovery, claims and acknowledges. -/
def reminderWorker : Worker :=
  (((Worker.start reminded).meets Cjson.plain "b" (.recover "b" (some 2))).claims Cjson.plain
    laterClaim).acknowledges Cjson.plain "b" "t" "d"

theorem reminderWorker_run : WorksTo Cjson.plain "b" "t" reminded reminderWorker := by
  have sound := returned_sound
  have nonempty : returned.items (.queue "b") ≠ [] := by
    rw [← actorState_inbox Cjson.plain, returned_state]
    exact List.cons_ne_nil _ _
  have admissible := laterClaim_admissible
  have below : ceilingReached laterClaim returned = false := rfl
  rw [returned, ← Worker.meets_start Cjson.plain "b"] at sound nonempty admissible below
  have met : WorkerStep Cjson.plain "b" "t" (Worker.start reminded)
      ((Worker.start reminded).meets Cjson.plain "b" (.recover "b" (some 2))) :=
    .meets _ trivial fun id tasks holds => by cases holds
  have claimed := @WorkerStep.claims Cjson.plain "b" "t" _ laterClaim rfl rfl rfl admissible below
  have acknowledged := @WorkerStep.acknowledges Cjson.plain "b" "t" _ _ _
    (Worker.claims_claim plain_roundTrips sound admissible below nonempty)
  exact ((Relation.ReflTransGen.single met).tail claimed).tail acknowledged

theorem reminderWorker_drains :
    reminderWorker.arrived = [greeting.serialized, parting.serialized] ∧
      Drains "b" [reminder.serialized] reminderWorker := by
  have inbox : reminded.items (.queue "b") = [reminder.serialized] := by
    rw [← actorState_inbox Cjson.plain, reminded_state]
    rfl
  have after : returned.items (.queue "b") =
      [reminder.serialized, greeting.serialized, parting.serialized] := by
    rw [← actorState_inbox Cjson.plain, returned_state]
  constructor
  · rw [reminderWorker, Worker.acknowledges_arrived, Worker.claims_arrived,
      Worker.meets_start_arrived, Action.arrivals, ← returned, after, inbox]
    rfl
  · rw [← inbox]
    exact worker_drains plain_roundTrips plain_readsMessages
      (heldGreetings_reachable.step (.push none reminder) trivial trivial) reminderWorker_run

end GptQueue.Claims
