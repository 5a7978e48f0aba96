import AgentFuel.Backend.Ingest
import AgentFuel.Library.Paging
import AgentFuel.Library.Transition

/-!
# Paging through activity

The activity of an agent or a vault is served in pages from the newest event on. A client follows
the slot of the last row of each page until a page is empty; events arrive meanwhile.
-/
namespace AgentFuel.Backend.Pagination

open Checked Paging

variable {S : Type} [DecidableEq S]

def defaultLimit : Int := 50

def maxLimit : Int := 200

/-- `?limit=N&before_slot=S` -/
structure Cursor where
  limit : Option Int
  beforeSlot : Option Int

/-- `Cursor::limit` -/
def Cursor.pageLimit (cursor : Cursor) : Nat :=
  (max 1 (min (cursor.limit.getD defaultLimit) maxLimit)).toNat

/-- Whose activity is asked for. -/
inductive Feed where
  | agent
  | vault

/-- The field of the payload that the statement compares. -/
def Feed.field : Feed → String
  | agent => "agent"
  | vault => "vault"

/-- `owns_agent` and `owns_vault` -/
def Feed.owns (db : Database S) (key caller : S) : Feed → Bool
  | agent => (db.agents key).any fun row => decide (row.owner = caller)
  | vault => (db.vaults key).any fun row => decide (row.owner = caller)

/-- The rows of a page, and nothing for a caller who is not the owner. -/
def activity (feed : Feed) (order : Descending (ParsedEvent.position (S := S))) (db : Database S)
    (key caller : S) (cursor : Cursor) : Option (List (ParsedEvent S)) :=
  if feed.owns db key caller then
    let rows := (mentioning feed.field key db.events).filter fun row =>
      decide (∀ before ∈ cursor.beforeSlot, row.slot < before)
    some ((order.sort rows).take cursor.pageLimit)
  else none

/-- `activity` of `agents.rs` -/
def Agents.activity (order : Descending (ParsedEvent.position (S := S))) (db : Database S)
    (pubkey caller : S) (cursor : Cursor) : Option (List (ParsedEvent S)) :=
  Pagination.activity .agent order db pubkey caller cursor

/-- `activity` of `vaults.rs` -/
def Vaults.activity (order : Descending (ParsedEvent.position (S := S))) (db : Database S)
    (pubkey caller : S) (cursor : Cursor) : Option (List (ParsedEvent S)) :=
  Pagination.activity .vault order db pubkey caller cursor

/-! ### A client that follows the cursor -/

structure Reader (S : Type) where
  db : Database S
  beforeSlot : Option Int
  shown : List (ParsedEvent S)
  finished : Bool

def Reader.start (db : Database S) : Reader S := ⟨db, none, [], false⟩

inductive ReaderAction (S : Type) where
  /-- An event reaches the table between two requests. -/
  | insert (row : ParsedEvent S)
  /-- A request, with the order that the database gives to rows of one position. -/
  | request (order : Descending (ParsedEvent.position (S := S)))

inductive ReaderError where
  | notFound
  | finished

/-- The client after a page. -/
def Reader.follow (s : Reader S) (rows : List (ParsedEvent S)) : Reader S :=
  match rows.getLast? with
  | none => { s with finished := true }
  | some last => { s with beforeSlot := some last.slot, shown := s.shown ++ rows }

def Reader.step (feed : Feed) (key caller : S) (limit : Option Int) (s : Reader S) :
    ReaderAction S → Except ReaderError (Reader S)
  | .insert row => .ok { s with db := { s.db with events := insertEvent s.db.events row } }
  | .request order => do
    require (s.finished = false) .finished
    let rows ← okOr (activity feed order s.db key caller ⟨limit, s.beforeSlot⟩) .notFound
    pure (s.follow rows)

abbrev ReaderRun (feed : Feed) (key caller : S) (limit : Option Int) (s : Reader S)
    (log : List (Transition.Fired (Reader S) (ReaderAction S))) (s' : Reader S) : Prop :=
  Transition.Run (Reader.step feed key caller limit) s log s'

/-- What a client may miss: an event of the entity that arrives between two requests, in a higher
slot than the last one shown. -/
def Arrives (feed : Feed) (key : S) (e : Transition.Fired (Reader S) (ReaderAction S)) : Prop :=
  match e.act with
  | .insert row => row.text feed.field = some key → ∃ before, e.pre.beforeSlot = some before ∧ before < row.slot
  | .request _ => True

def ReaderAction.isRequest : ReaderAction S → Bool
  | .insert _ => false
  | .request _ => true

/-! ### Pages -/

variable {feed : Feed} {key caller : S} {limit : Option Int} {s s' : Reader S}
  {log : List (Transition.Fired (Reader S) (ReaderAction S))}

/-- The page size that a limit asks for, whatever the cursor. -/
def pageSize (limit : Option Int) : Nat := Cursor.pageLimit ⟨limit, none⟩

omit [DecidableEq S] in
theorem pageSize_eq (before : Option Int) : Cursor.pageLimit ⟨limit, before⟩ = pageSize limit := rfl

omit [DecidableEq S] in
theorem pageSize_pos (limit : Option Int) : 0 < pageSize limit := by
  unfold pageSize Cursor.pageLimit
  omega

/-- The order of the statement is an order by slot. -/
def bySlot (order : Descending (ParsedEvent.position (S := S))) :
    Descending (ParsedEvent.slot (S := S)) :=
  order.along Prod.Lex.monotone_fst_ofLex

theorem activity_eq_some {order : Descending (ParsedEvent.position (S := S))} {db : Database S}
    {cursor : Cursor} {rows : List (ParsedEvent S)} :
    activity feed order db key caller cursor = some rows ↔ feed.owns db key caller = true ∧
      rows = (bySlot order).page cursor.pageLimit cursor.beforeSlot (mentioning feed.field key db.events) := by
  unfold activity
  by_cases owns : feed.owns db key caller = true
  · rw [if_pos owns, Option.some.injEq]
    exact ⟨fun same => ⟨owns, same.symm⟩, fun same => same.2.symm⟩
  · rw [if_neg owns]
    exact ⟨nofun, fun owned => absurd owned.1 owns⟩

/-- An event that arrives above the cursor changes nothing of what remains. -/
theorem remaining_insert {events : List (ParsedEvent S)} {row : ParsedEvent S} {before : Option Int}
    (above : row.text feed.field = some key → ∃ slot, before = some slot ∧ slot < row.slot) :
    remaining ParsedEvent.slot before (mentioning feed.field key (insertEvent events row)) =
      remaining ParsedEvent.slot before (mentioning feed.field key events) := by
  unfold insertEvent
  split
  · rfl
  · by_cases named : row.text feed.field = some key
    · obtain ⟨slot, rfl, higher⟩ := above named
      have hidden : ¬Below (some slot) row.slot := fun below => (below slot rfl).not_gt higher
      simp [mentioning, remaining, List.filter_append, named, hidden]
    · simp [mentioning, List.filter_append, named]

/-- What a client knows and will see of the events that were there at the start. -/
structure Follows (feed : Feed) (key caller : S) (size : Nat) (rows : List (ParsedEvent S)) (s : Reader S) :
    Prop where
  owns : feed.owns s.db key caller = true
  same : remaining ParsedEvent.slot s.beforeSlot (mentioning feed.field key s.db.events) =
    remaining ParsedEvent.slot s.beforeSlot rows
  reached : Covered ParsedEvent.slot size rows s.beforeSlot s.shown ∨
    Missed ParsedEvent.slot size rows s.beforeSlot s.shown
  listed : Listed ParsedEvent.slot s.beforeSlot s.shown
  ended : s.finished = true → remaining ParsedEvent.slot s.beforeSlot rows = []

/-- The requests that are still to come. -/
def Reader.left (rows : List (ParsedEvent S)) (s : Reader S) : Nat :=
  (remaining ParsedEvent.slot s.beforeSlot rows).length + if s.finished then 0 else 1

theorem Follows.start {db : Database S} (owns : feed.owns db key caller = true) (size : Nat) :
    Follows feed key caller size (mentioning feed.field key db.events) (.start db) where
  owns := owns
  same := rfl
  reached := .inl (.start _ _)
  listed := ⟨.nil, by simp [Reader.start]⟩
  ended finished := by cases finished

variable {size : Nat} {rows : List (ParsedEvent S)}

theorem Follows.insert {row : ParsedEvent S} (follows : Follows feed key caller size rows s)
    (above : row.text feed.field = some key → ∃ before, s.beforeSlot = some before ∧ before < row.slot) :
    Follows feed key caller size rows
      { s with db := { s.db with events := insertEvent s.db.events row } } where
  owns := by
    have owned := follows.owns
    cases feed <;> exact owned
  same := (remaining_insert above).trans follows.same
  reached := follows.reached
  listed := follows.listed
  ended := follows.ended

/-- A request moves on to the next page or ends. -/
theorem Follows.request {order : Descending (ParsedEvent.position (S := S))}
    (follows : Follows feed key caller (pageSize limit) rows s)
    (fired : Reader.step feed key caller limit s (.request order) = .ok s') :
    Follows feed key caller (pageSize limit) rows s' ∧ s'.left rows < s.left rows := by
  simp only [Reader.step, bind_eq_ok, require_eq_ok, okOr_eq_ok, pure_eq_ok, activity_eq_some,
    exists_const] at fired
  obtain ⟨running, page, ⟨-, shown⟩, rfl⟩ := fired
  -- The page is one of the rows that were there at the start.
  have own : page = (bySlot order).page (pageSize limit) s.beforeSlot rows := by
    rw [shown, Descending.page, follows.same, Descending.page, pageSize_eq]
  unfold Reader.follow
  cases ends : page.getLast? with
  | none =>
    have nothing : remaining ParsedEvent.slot s.beforeSlot rows = [] := by
      apply (bySlot order).page_eq_nil (pageSize_pos limit)
      rw [← own, ← List.getLast?_eq_none_iff]
      exact ends
    refine ⟨{ follows with ended := fun _ => nothing }, ?_⟩
    simp [Reader.left, running]
  | some last =>
    rw [own] at ends
    obtain ⟨rest, turn⟩ := (bySlot order).turn ends
    rw [← own] at turn
    have shrinks := turn.length_remaining
    have size := turn.perm.length_eq
    have nonempty := List.length_pos_of_mem turn.last_mem
    rw [List.length_append] at size
    constructor
    · constructor
      · exact follows.owns
      · have lower := turn.below (List.mem_append_left _ turn.last_mem)
        dsimp only
        rw [remaining_lower _ lower, remaining_lower _ lower, follows.same]
      · rcases follows.reached with covered | missed
        · exact covered.step turn
        · exact .inr (missed.turn turn)
      · exact follows.listed.turn turn
      · intro finished
        rw [running] at finished
        cases finished
    · simp only [Reader.left, running]
      omega

theorem ReaderRun.follows {db : Database S} (owns : feed.owns db key caller = true)
    (run : ReaderRun feed key caller limit (.start db) log s) (arrives : ∀ e ∈ log, Arrives feed key e) :
    Follows feed key caller (pageSize limit) (mentioning feed.field key db.events) s ∧
      log.countP (fun e => e.act.isRequest) + s.left (mentioning feed.field key db.events) ≤
        (mentioning feed.field key db.events).length + 1 := by
  induction run with
  | nil =>
    refine ⟨.start owns _, ?_⟩
    simp [Reader.left, Reader.start, remaining, Below]
  | @snoc log s act s' run fired ih =>
    rw [List.forall_mem_append, List.forall_mem_singleton] at arrives
    obtain ⟨follows, bound⟩ := ih arrives.1
    rw [List.countP_append, List.countP_singleton]
    cases act with
    | insert row =>
      -- Rows that arrive while the reader is under way stand above its cursor.
      have moved := Except.ok.inj fired
      rw [← moved]
      exact ⟨follows.insert arrives.2, bound⟩
    | request order =>
      obtain ⟨next, less⟩ := follows.request fired
      have one : (if (ReaderAction.request order).isRequest = true then 1 else 0) = 1 := rfl
      refine ⟨next, ?_⟩
      dsimp only
      rw [one]
      omega

/-- Following the cursor until a page is empty shows every event that was there at the start exactly
once and from the newest on, whatever arrives above the cursor meanwhile, exactly if no page ends
between two events of one slot. It always comes to an end. -/
theorem activity_complete_iff (feed : Feed) (key caller : S) (limit : Option Int) (db : Database S)
    (owns : feed.owns db key caller = true)
    (run : ReaderRun feed key caller limit (.start db) log s) (arrives : ∀ e ∈ log, Arrives feed key e) :
    (s.finished = true →
      (s.shown.Perm (mentioning feed.field key db.events) ∧
          s.shown.Pairwise (fun newer older => older.slot ≤ newer.slot) ↔
        Uncut ParsedEvent.slot (pageSize limit) (mentioning feed.field key db.events))) ∧
    log.countP (fun e => e.act.isRequest) ≤ (mentioning feed.field key db.events).length + 1 ∧
    (s.finished = false → ∀ order, ∃ s', Reader.step feed key caller limit s (.request order) = .ok s') := by
  obtain ⟨follows, bound⟩ := run.follows owns arrives
  refine ⟨?_, by omega, ?_⟩
  · intro finished
    rw [and_iff_left follows.listed.sorted]
    exact shown_iff follows.reached (follows.ended finished)
  · intro running order
    have page : activity feed order s.db key caller ⟨limit, s.beforeSlot⟩ =
        some ((bySlot order).page (pageSize limit) s.beforeSlot (mentioning feed.field key s.db.events)) :=
      activity_eq_some.mpr ⟨follows.owns, rfl⟩
    refine ⟨s.follow ((bySlot order).page (pageSize limit) s.beforeSlot
      (mentioning feed.field key s.db.events)), ?_⟩
    simp only [Reader.step, bind_eq_ok, require_eq_ok, okOr_eq_ok, pure_eq_ok, exists_const]
    exact ⟨running, _, page, rfl⟩

/-! ### Pages of one row -/

namespace Journal

def agentRow : AgentRow String where
  owner := "owner"
  initSlot := 0
  score := 0
  totalTransactions := 0
  totalVolumeUsdc := 0
  servicesUsed := 0
  consecutiveSuccess := 0
  totalFeedbackCount := 0
  activeNegativeFeedbackCount := 0
  lastActiveSlot := 0

def event (slot : Int) (logIndex : Nat) : ParsedEvent String :=
  ⟨"transaction", slot, logIndex, [], ⟨.paymentRecorded, .obj [("agent", .str "agent")]⟩⟩

def database (events : List (ParsedEvent String)) : Database String :=
  { Database.empty with
    events
    agents := fun key => if key = "agent" then some agentRow else none }

/-- Two events of one transaction. -/
def together : Database String := database [event 7 3, event 7 5]

/-- Two events of different slots. -/
def apart : Database String := database [event 7 3, event 8 5]

def requests (n : Nat) : List (ReaderAction String) := List.replicate n (.request (.stable _))

/-- What a client sees that asks for one row a page. -/
def read (db : Database String) (n : Nat) : Reader String :=
  (requests n).foldl (Transition.settle (Reader.step .agent "agent" "owner" (some 1))) (.start db)

theorem run_read (db : Database String) (n : Nat) :
    ReaderRun .agent "agent" "owner" (some 1) (.start db)
      (Transition.trace (Reader.step .agent "agent" "owner" (some 1)) (.start db) (requests n)) (read db n) :=
  .of_trace _ _ _

theorem arrives_read (db : Database String) (n : Nat) :
    ∀ e ∈ Transition.trace (Reader.step .agent "agent" "owner" (some 1)) (.start db) (requests n),
      Arrives .agent "agent" e := by
  intro e member
  have asked := List.eq_of_mem_replicate (Transition.act_mem_of_trace member)
  rw [Arrives, asked]
  trivial

end Journal

theorem activity_complete_apart :
    (Journal.read Journal.apart 3).shown.Perm (mentioning "agent" "agent" Journal.apart.events) ∧
      (Journal.read Journal.apart 3).shown.Pairwise fun newer older => older.slot ≤ newer.slot := by
  obtain ⟨complete, -⟩ := activity_complete_iff .agent "agent" "owner" (some 1) Journal.apart
    (by decide) (Journal.run_read Journal.apart 3) (Journal.arrives_read Journal.apart 3)
  exact (complete (by decide)).mpr (by decide)

/-- The second event of a slot is on no page. -/
theorem activity_misses :
    ¬∀ (limit : Option Int) (db : Database String) (s : Reader String)
      (log : List (Transition.Fired (Reader String) (ReaderAction String))),
      Feed.agent.owns db "agent" "owner" = true →
      ReaderRun .agent "agent" "owner" limit (.start db) log s → (∀ e ∈ log, Arrives .agent "agent" e) →
      s.finished = true → s.shown.Perm (mentioning "agent" "agent" db.events) := by
  intro claim
  have complete := claim (some 1) Journal.together _ _ (by decide)
    (Journal.run_read Journal.together 2) (Journal.arrives_read Journal.together 2) (by decide)
  have lengths : (Journal.read Journal.together 2).shown.length ≠
      (mentioning "agent" "agent" Journal.together.events).length := by decide
  exact lengths complete.length_eq

end AgentFuel.Backend.Pagination
