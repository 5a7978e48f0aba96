import AgentFuel.Backend.Parser
import AgentFuel.Library.Checked
import AgentFuel.Library.Transition
import Mathlib.Data.List.MinMax
import Mathlib.Logic.Function.Basic

/-!
# The score cache

The latest score of an agent is kept in a cache with entries that expire. Three kinds of callers
write it, each in several statements, and the statements of all callers interleave. A statement
that fails is logged and passed over.
-/
namespace AgentFuel.Backend

open Checked

/-- A row of `score_history`. -/
structure ScoreRow where
  agent : String
  score : Int
  slot : Int
  deriving DecidableEq, Repr

/-- The row that `record_events` makes of an event; the score wraps to 32 bits. -/
def scoreRow (ev : ParsedEvent String) : Option ScoreRow := do
  let payload := ev.decoded.payload
  if ev.decoded.eventName ≠ .scoreComputed then none
  let agent ← (payload.get "agent").bind Json.asStr
  let score ← (payload.get "score").bind Json.asI64
  let slot ← (payload.get "slot").bind Json.asI64
  some ⟨agent, Int.bmod score (2 ^ 32), slot⟩

/-- `INSERT .. ON CONFLICT (agent, slot) DO NOTHING`, and whether a row was affected. -/
def insertScore (history : List ScoreRow) (row : ScoreRow) : List ScoreRow × Bool :=
  if history.any fun old => decide (old.agent = row.agent ∧ old.slot = row.slot) then (history, false)
  else (history ++ [row], true)

/-- `ORDER BY slot DESC LIMIT 1` -/
def latestRow (rows : List ScoreRow) : Option ScoreRow :=
  rows.find? fun row => rows.all fun other => decide (other.slot ≤ row.slot)

def latestScore (history : List ScoreRow) (agent : String) : Option Int :=
  (latestRow (history.filter fun row => decide (row.agent = agent))).map ScoreRow.score

/-- The order in which the database sorts texts. -/
structure Collation where
  sort : List String → List String
  perm : ∀ texts, (sort texts).Perm texts

/-- `SELECT DISTINCT ON (agent) agent, score .. ORDER BY agent, slot DESC` -/
def latestScores (collation : Collation) (history : List ScoreRow) : List (String × Int) :=
  (collation.sort (history.map ScoreRow.agent).dedup).filterMap fun agent =>
    (latestScore history agent).map fun score => (agent, score)

/-- A caller, by the statement that comes next. -/
inductive Caller where
  /-- `record_events` before an `INSERT`. -/
  | inserting (rows : List ScoreRow)
  /-- `record_events` before the `SELECT` that follows a new row. -/
  | rereading (agent : String) (rows : List ScoreRow)
  | warming (agent : String) (score : Int) (rows : List ScoreRow)
  /-- `latest` before its `GET`. -/
  | getting (agent : String)
  | selecting (agent : String)
  | caching (agent : String) (score : Int)
  /-- `sweep` before its `SELECT`. -/
  | sweeping
  | sweptTo (rows : List (String × Int))
  | returned (answer : Option Int)
  /-- Its `SELECT` failed, and the caller got the error. -/
  | refused

structure CacheState where
  history : List ScoreRow
  cache : String → Option Int
  callers : List Caller

/-- How a statement turns out. -/
inductive Execution where
  | done
  /-- It has taken effect, and its caller is told of an error. -/
  | unanswered
  | failed
  deriving DecidableEq

inductive CacheAction where
  | recordEvents (events : List (ParsedEvent String))
  | latest (agent : String)
  | sweep
  /-- The caller at a place of the list executes its next statement. -/
  | advance (place : Nat) (outcome : Execution)
  | expire (agent : String)

inductive CacheError where
  | finished
  deriving DecidableEq, Repr

def CacheState.set (s : CacheState) (agent : String) (score : Int) : CacheState :=
  { s with cache := Function.update s.cache agent (some score) }

/-- A `SET`, after which its caller goes on whether it took effect or not. -/
def CacheState.setUnless (s : CacheState) (outcome : Execution) (agent : String) (score : Int) : CacheState :=
  if outcome = .failed then s else s.set agent score

/-- The next statement of a caller, and what the caller goes on with. -/
def CacheState.advance (collation : Collation) (s : CacheState) (outcome : Execution) :
    Caller → Except CacheError (CacheState × Caller)
  | .inserting [] => .error .finished
  | .inserting (row :: rows) =>
    let (history, affected) := insertScore s.history row
    match outcome with
    | .done => .ok ({ s with history }, if affected then .rereading row.agent rows else .inserting rows)
    | .unanswered => .ok ({ s with history }, .inserting rows)
    | .failed => .ok (s, .inserting rows)
  | .rereading agent rows =>
    match outcome, latestScore s.history agent with
    | .done, some score => .ok (s, .warming agent score rows)
    | _, _ => .ok (s, .inserting rows)
  | .warming agent score rows => .ok (s.setUnless outcome agent score, .inserting rows)
  | .getting agent =>
    match outcome, s.cache agent with
    | .done, some hit => .ok (s, .returned (some hit))
    -- A `GET` that fails is taken for a miss.
    | _, _ => .ok (s, .selecting agent)
  | .selecting agent =>
    match outcome, latestScore s.history agent with
    | .done, some score => .ok (s, .caching agent score)
    | .done, none => .ok (s, .returned none)
    | _, _ => .ok (s, .refused)
  | .caching agent score => .ok (s.setUnless outcome agent score, .returned (some score))
  | .sweeping =>
    .ok (s, if outcome = .done then .sweptTo (latestScores collation s.history) else .refused)
  | .sweptTo [] => .error .finished
  | .sweptTo ((agent, score) :: rows) => .ok (s.setUnless outcome agent score, .sweptTo rows)
  | .returned _ => .error .finished
  | .refused => .error .finished

def CacheState.step (collation : Collation) (s : CacheState) :
    CacheAction → Except CacheError CacheState
  | .recordEvents events =>
    .ok { s with callers := s.callers ++ [.inserting (events.filterMap scoreRow)] }
  | .latest agent => .ok { s with callers := s.callers ++ [.getting agent] }
  | .sweep => .ok { s with callers := s.callers ++ [.sweeping] }
  | .advance place outcome => do
    let caller ← okOr s.callers[place]? .finished
    let (s, caller) ← s.advance collation outcome caller
    pure { s with callers := s.callers.set place caller }
  | .expire agent => .ok { s with cache := Function.update s.cache agent none }

abbrev CacheRun (collation : Collation) (s : CacheState)
    (log : List (Transition.Fired CacheState CacheAction)) (s' : CacheState) : Prop :=
  Transition.Run (CacheState.step collation) s log s'

def Caller.finished : Caller → Bool
  | .inserting rows => rows.isEmpty
  | .sweptTo rows => rows.isEmpty
  | .returned _ => true
  | .refused => true
  | _ => false

/-- Nobody is in the middle of a call. -/
def CacheState.Quiet (s : CacheState) : Prop := ∀ caller ∈ s.callers, caller.finished = true

instance (s : CacheState) : Decidable s.Quiet :=
  inferInstanceAs (Decidable (∀ caller ∈ s.callers, _))

/-- The constraint on `(agent, slot)`. -/
def UniqueSlots (history : List ScoreRow) : Prop :=
  (history.map fun row => (row.agent, row.slot)).Nodup

instance (history : List ScoreRow) : Decidable (UniqueSlots history) :=
  inferInstanceAs (Decidable (List.Nodup _))

/-- No caller yet, and nothing in the cache. -/
def CacheState.start (history : List ScoreRow) : CacheState := ⟨history, fun _ => none, []⟩

/-- The row of the agent with the highest slot has the score. -/
def HasLatest (history : List ScoreRow) (agent : String) (score : Int) : Prop :=
  ∃ row ∈ history, row.agent = agent ∧ row.score = score ∧
    ∀ other ∈ history, other.agent = agent → other.slot ≤ row.slot

instance (history : List ScoreRow) (agent : String) (score : Int) :
    Decidable (HasLatest history agent score) :=
  inferInstanceAs (Decidable (∃ row ∈ history, _ ∧ _ ∧ ∀ other ∈ history, _ → _))

/-- The entry that a caller is about to set. -/
def Caller.sets : Caller → Option (String × Int)
  | .warming agent score _ => some (agent, score)
  | .caching agent score => some (agent, score)
  | .sweptTo rows => rows.head?
  | _ => none

/-- The entry that `record_events` gives up when its `SELECT` or its `SET` fails. -/
def Caller.givesUp (outcome : Execution) : Caller → Option String
  | .rereading agent _ => if outcome = .done then none else some agent
  | .warming agent _ _ => if outcome = .failed then some agent else none
  | _ => none

/-- The row that is inserted while its caller is told of an error. -/
def Caller.insertsUnseen (outcome : Execution) : Caller → Option ScoreRow
  | .inserting rows => if outcome = .unanswered then rows.head? else none
  | _ => none

/-- What is set is the latest score, and what is given up needs no replacement: there is no entry,
or it is the latest and stays so. -/
structure CacheState.Meets (s : CacheState) (outcome : Execution) (caller : Caller) : Prop where
  sets : outcome ≠ .failed → ∀ entry ∈ caller.sets, HasLatest s.history entry.1 entry.2
  failing : ∀ agent ∈ caller.givesUp outcome, ∀ cached ∈ s.cache agent, HasLatest s.history agent cached
  unseen : ∀ row ∈ caller.insertsUnseen outcome, s.cache row.agent ≠ none →
    ∃ old ∈ s.history, old.agent = row.agent ∧ row.slot ≤ old.slot

instance CacheState.decidableMeets (s : CacheState) (outcome : Execution) (caller : Caller) :
    Decidable (s.Meets outcome caller) :=
  decidable_of_iff ((outcome ≠ .failed → ∀ entry ∈ caller.sets, HasLatest s.history entry.1 entry.2) ∧
    (∀ agent ∈ caller.givesUp outcome, ∀ cached ∈ s.cache agent, HasLatest s.history agent cached) ∧
    ∀ row ∈ caller.insertsUnseen outcome, s.cache row.agent ≠ none →
      ∃ old ∈ s.history, old.agent = row.agent ∧ row.slot ≤ old.slot)
    ⟨fun ⟨sets, failing, unseen⟩ => ⟨sets, failing, unseen⟩,
      fun meets => ⟨meets.sets, meets.failing, meets.unseen⟩⟩

def SetsLatest (e : Transition.Fired CacheState CacheAction) : Prop :=
  match e.act with
  | .advance place outcome => ∀ caller ∈ e.pre.callers[place]?, e.pre.Meets outcome caller
  | _ => True

instance (e : Transition.Fired CacheState CacheAction) : Decidable (SetsLatest e) := by
  unfold SetsLatest
  cases e.act <;> infer_instance

/-! ### The history -/

variable {history : List ScoreRow} {row : ScoreRow} {agent : String} {score : Int}

theorem insertScore_cases (history : List ScoreRow) (row : ScoreRow) :
    insertScore history row = (history, false) ∨
    insertScore history row = (history ++ [row], true) ∧
      (UniqueSlots history → UniqueSlots (history ++ [row])) := by
  unfold insertScore
  split
  next => exact .inl rfl
  next free =>
    refine .inr ⟨rfl, fun unique => ?_⟩
    rw [UniqueSlots, List.map_append, List.map_singleton, ← List.concat_eq_append]
    refine List.Nodup.concat ?_ unique
    intro member
    obtain ⟨old, held, same⟩ := List.mem_map.mp member
    apply free
    rw [List.any_eq_true]
    exact ⟨old, held, decide_eq_true (Prod.mk.inj same)⟩

theorem latestScore_append (apart : row.agent ≠ agent) :
    latestScore (history ++ [row]) agent = latestScore history agent := by
  rw [latestScore, List.filter_append, List.filter_singleton, decide_eq_false apart]
  simp only [cond_false, List.append_nil, latestScore]

theorem latestRow_isSome {rows : List ScoreRow} (held : row ∈ rows) : latestRow rows ≠ none := by
  intro none
  rw [latestRow, List.find?_eq_none] at none
  cases top : rows.argmax ScoreRow.slot with
  | none =>
    rw [List.argmax_eq_none.mp top] at held
    cases held
  | some highest =>
    apply none highest (List.argmax_mem top)
    rw [List.all_eq_true]
    exact fun other member => decide_eq_true (List.le_of_mem_argmax member top)

theorem latestScore_isSome (held : row ∈ history) (named : row.agent = agent) :
    latestScore history agent ≠ none := by
  have member : row ∈ history.filter fun row => decide (row.agent = agent) :=
    List.mem_filter.mpr ⟨held, decide_eq_true named⟩
  rw [latestScore, ne_eq, Option.map_eq_none_iff]
  exact latestRow_isSome member

/-- The constraint makes the row with the highest slot the only one. -/
theorem HasLatest.latestScore_eq (unique : UniqueSlots history)
    (latest : HasLatest history agent score) : latestScore history agent = some score := by
  obtain ⟨row, held, named, rfl, top⟩ := latest
  have member : row ∈ history.filter fun row => decide (row.agent = agent) :=
    List.mem_filter.mpr ⟨held, decide_eq_true named⟩
  cases found : latestRow (history.filter fun row => decide (row.agent = agent)) with
  | none => exact absurd found (latestRow_isSome member)
  | some other =>
    obtain ⟨stored, alike⟩ := List.mem_filter.mp (List.mem_of_find?_eq_some found)
    have alike : other.agent = agent := of_decide_eq_true alike
    have highest := found
    unfold latestRow at highest
    have highest := List.find?_some highest
    have above : row.slot ≤ other.slot := of_decide_eq_true (List.all_eq_true.mp highest row member)
    have level : other.slot = row.slot := le_antisymm (top other stored alike) above
    have same : other = row := List.inj_on_of_nodup_map unique stored held
      (Prod.ext (alike.trans named.symm) level)
    rw [latestScore, found, same]
    rfl

theorem hasLatest_of_latestScore (found : latestScore history agent = some score) :
    HasLatest history agent score := by
  obtain ⟨row, latest, rfl⟩ := Option.map_eq_some_iff.mp found
  obtain ⟨held, named⟩ := List.mem_filter.mp (List.mem_of_find?_eq_some latest)
  unfold latestRow at latest
  have top := List.find?_some latest
  refine ⟨row, held, of_decide_eq_true named, rfl, fun other member alike => ?_⟩
  have member : other ∈ history.filter fun row => decide (row.agent = agent) :=
    List.mem_filter.mpr ⟨member, decide_eq_true alike⟩
  exact of_decide_eq_true (List.all_eq_true.mp top other member)

/-- A row that is no newer than an old one leaves the latest score as it is. -/
theorem HasLatest.older (latest : HasLatest history agent score) {old : ScoreRow} (held : old ∈ history)
    (named : old.agent = agent) (newer : row.slot ≤ old.slot) :
    HasLatest (history ++ [row]) agent score := by
  obtain ⟨top, member, alike, scored, highest⟩ := latest
  refine ⟨top, List.mem_append_left _ member, alike, scored, ?_⟩
  rw [List.forall_mem_append, List.forall_mem_singleton]
  exact ⟨highest, fun _ => newer.trans (highest old held named)⟩

/-! ### Callers -/

/-- A caller that has inserted a row and will still set the entry of its agent. -/
def Caller.Owes (agent : String) : Caller → Prop
  | .rereading other _ => other = agent
  | .warming other _ _ => other = agent
  | _ => False

/-- An entry of the cache is the latest score, or somebody is about to replace it. -/
structure CacheInvariant (s : CacheState) : Prop where
  unique : UniqueSlots s.history
  known : ∀ agent rows, Caller.rereading agent rows ∈ s.callers →
    ∃ row ∈ s.history, row.agent = agent
  current : ∀ agent score, s.cache agent = some score → latestScore s.history agent = some score ∨
    ∃ caller ∈ s.callers, caller.Owes agent

theorem CacheInvariant.start (unique : UniqueSlots history) : CacheInvariant (.start history) where
  unique := unique
  known _ _ member := by cases member
  current _ _ cached := by cases cached

/-- The other callers stay where they are. -/
theorem mem_callers_set {callers : List Caller} {place : Nat} {old : Caller}
    (found : callers[place]? = some old) (next : Caller) {caller : Caller} (member : caller ∈ callers) :
    caller = old ∨ caller ∈ callers.set place next := by
  obtain ⟨i, here⟩ := List.mem_iff_getElem?.mp member
  by_cases same : i = place
  · subst same
    exact .inl (Option.some.inj (here.symm.trans found))
  · refine .inr (List.mem_iff_getElem?.mpr ⟨i, ?_⟩)
    rw [List.getElem?_set_ne (Ne.symm same)]
    exact here

theorem CacheInvariant.call {s : CacheState} (inv : CacheInvariant s) {caller : Caller}
    (fresh : ∀ agent rows, caller ≠ .rereading agent rows) :
    CacheInvariant { s with callers := s.callers ++ [caller] } where
  unique := inv.unique
  known agent rows member := by
    rcases List.mem_append.mp member with earlier | here
    · exact inv.known agent rows earlier
    · exact absurd (List.mem_singleton.mp here).symm (fresh agent rows)
  current agent score cached := by
    rcases inv.current agent score cached with latest | ⟨owing, member, owes⟩
    · exact .inl latest
    · exact .inr ⟨owing, List.mem_append_left _ member, owes⟩

variable {collation : Collation} {s s' : CacheState} {place : Nat} {old next : Caller}
  {log : List (Transition.Fired CacheState CacheAction)}

/-- A statement that changes no table, after which the caller still owes what it owed. -/
theorem CacheInvariant.read (inv : CacheInvariant s) (found : s.callers[place]? = some old)
    (fresh : ∀ agent rows, next ≠ .rereading agent rows)
    (owing : ∀ agent, old.Owes agent → next.Owes agent) :
    CacheInvariant { s with callers := s.callers.set place next } where
  unique := inv.unique
  known agent rows member := by
    rcases List.mem_or_eq_of_mem_set member with earlier | here
    · exact inv.known agent rows earlier
    · exact absurd here.symm (fresh agent rows)
  current agent score cached := by
    have inside : place < s.callers.length := (List.getElem?_eq_some_iff.mp found).1
    rcases inv.current agent score cached with latest | ⟨caller, member, owes⟩
    · exact .inl latest
    · rcases mem_callers_set found next member with rfl | kept
      · exact .inr ⟨next, List.mem_set inside next, owing agent owes⟩
      · exact .inr ⟨caller, kept, owes⟩

/-- A `SET` of the latest score pays what its caller owes. -/
theorem CacheInvariant.set (inv : CacheInvariant s) (found : s.callers[place]? = some old)
    (fresh : ∀ agent rows, next ≠ .rereading agent rows)
    (latest : HasLatest s.history agent score) (owing : ∀ other, old.Owes other → other = agent) :
    CacheInvariant { s.set agent score with callers := s.callers.set place next } where
  unique := inv.unique
  known other rows member := by
    rcases List.mem_or_eq_of_mem_set member with earlier | here
    · exact inv.known other rows earlier
    · exact absurd here.symm (fresh other rows)
  current other cachedScore cached := by
    dsimp only [CacheState.set] at cached ⊢
    rw [Function.update_apply] at cached
    split at cached
    next same =>
      obtain rfl := Option.some.inj cached
      exact .inl (same ▸ latest.latestScore_eq inv.unique)
    next apart =>
      rcases inv.current other cachedScore cached with latest | ⟨caller, member, owes⟩
      · exact .inl latest
      · rcases mem_callers_set found next member with rfl | kept
        · exact absurd (owing other owes) apart
        · exact .inr ⟨caller, kept, owes⟩

/-- A new row makes its caller owe the entry of its agent, and touches no other agent. -/
theorem CacheInvariant.insert {rows : List ScoreRow} (inv : CacheInvariant s)
    (found : s.callers[place]? = some old) (owing : ∀ agent, ¬old.Owes agent)
    (unique : UniqueSlots (s.history ++ [row])) :
    CacheInvariant { s with
      history := s.history ++ [row], callers := s.callers.set place (.rereading row.agent rows) } where
  unique := unique
  known agent rows' member := by
    rcases List.mem_or_eq_of_mem_set member with earlier | here
    · obtain ⟨known, held, named⟩ := inv.known agent rows' earlier
      exact ⟨known, List.mem_append_left _ held, named⟩
    · cases here
      exact ⟨row, by simp, rfl⟩
  current agent score cached := by
    have inside : place < s.callers.length := (List.getElem?_eq_some_iff.mp found).1
    by_cases mine : row.agent = agent
    · exact .inr ⟨.rereading row.agent rows, List.mem_set inside _, mine⟩
    · dsimp only
      rw [latestScore_append mine]
      rcases inv.current agent score cached with latest | ⟨caller, member, owes⟩
      · exact .inl latest
      · rcases mem_callers_set found (.rereading row.agent rows) member with rfl | kept
        · exact absurd owes (owing agent)
        · exact .inr ⟨caller, kept, owes⟩

/-- A caller gives up an entry that needs no replacement. -/
theorem CacheInvariant.giveUp (inv : CacheInvariant s) (found : s.callers[place]? = some old)
    (fresh : ∀ agent rows, next ≠ .rereading agent rows)
    (latest : ∀ cached ∈ s.cache agent, HasLatest s.history agent cached)
    (owing : ∀ other, old.Owes other → other = agent) :
    CacheInvariant { s with callers := s.callers.set place next } where
  unique := inv.unique
  known other rows member := by
    rcases List.mem_or_eq_of_mem_set member with earlier | here
    · exact inv.known other rows earlier
    · exact absurd here.symm (fresh other rows)
  current other score cached := by
    rcases inv.current other score cached with current | ⟨caller, member, owes⟩
    · exact .inl current
    · rcases mem_callers_set found next member with rfl | kept
      · obtain rfl := owing other owes
        exact .inl ((latest score cached).latestScore_eq inv.unique)
      · exact .inr ⟨caller, kept, owes⟩

/-- A new row that its caller does not learn of is older than what the entry shows. -/
theorem CacheInvariant.insertUnseen (inv : CacheInvariant s) (found : s.callers[place]? = some old)
    (fresh : ∀ agent rows, next ≠ .rereading agent rows) (owing : ∀ agent, ¬old.Owes agent)
    (unique : UniqueSlots (s.history ++ [row]))
    (unseen : s.cache row.agent ≠ none → ∃ old ∈ s.history, old.agent = row.agent ∧ row.slot ≤ old.slot) :
    CacheInvariant { s with history := s.history ++ [row], callers := s.callers.set place next } where
  unique := unique
  known agent rows member := by
    rcases List.mem_or_eq_of_mem_set member with earlier | here
    · obtain ⟨known, held, named⟩ := inv.known agent rows earlier
      exact ⟨known, List.mem_append_left _ held, named⟩
    · exact absurd here.symm (fresh agent rows)
  current agent score cached := by
    rcases inv.current agent score cached with current | ⟨caller, member, owes⟩
    · refine .inl ?_
      by_cases mine : row.agent = agent
      · -- The entry that is shown is of a row at least as new as the one that nobody saw.
        subst mine
        obtain ⟨older, held, named, newer⟩ := unseen fun none => by
          rw [show s.cache row.agent = some score from cached] at none
          cases none
        exact ((hasLatest_of_latestScore current).older held named newer).latestScore_eq unique
      · exact (latestScore_append mine).trans current
    · rcases mem_callers_set found next member with rfl | kept
      · exact absurd owes (owing agent)
      · exact .inr ⟨caller, kept, owes⟩

/-- A `SET`, whether it takes effect or not. -/
theorem CacheInvariant.setUnless {outcome : Execution} (inv : CacheInvariant s)
    (found : s.callers[place]? = some old) (fresh : ∀ agent rows, next ≠ .rereading agent rows)
    (sets : outcome ≠ .failed → HasLatest s.history agent score)
    (failing : outcome = .failed → ∀ cached ∈ s.cache agent, HasLatest s.history agent cached)
    (owing : ∀ other, old.Owes other → other = agent) :
    CacheInvariant { s.setUnless outcome agent score with
      callers := (s.setUnless outcome agent score).callers.set place next } := by
  unfold CacheState.setUnless
  split
  next failed => exact inv.giveUp found fresh (failing failed) owing
  next executed => exact inv.set found fresh (sets executed) owing

/-- A `SET` of a caller that owes nothing. -/
theorem CacheInvariant.setAside {outcome : Execution} (inv : CacheInvariant s)
    (found : s.callers[place]? = some old) (fresh : ∀ agent rows, next ≠ .rereading agent rows)
    (sets : outcome ≠ .failed → HasLatest s.history agent score) (owing : ∀ other, ¬old.Owes other) :
    CacheInvariant { s.setUnless outcome agent score with
      callers := (s.setUnless outcome agent score).callers.set place next } := by
  unfold CacheState.setUnless
  split
  · exact inv.read found fresh (fun other owes => absurd owes (owing other))
  next executed => exact inv.set found fresh (sets executed) (fun other owes => absurd owes (owing other))

theorem CacheInvariant.advance {outcome : Execution} (inv : CacheInvariant s)
    (found : s.callers[place]? = some old) (meets : s.Meets outcome old)
    (done : s.advance collation outcome old = .ok (s', next)) :
    CacheInvariant { s' with callers := s'.callers.set place next } := by
  cases old with
  | inserting rows =>
    cases rows with
    | nil => cases done
    | cons row rows =>
      cases outcome with
      | failed =>
        obtain ⟨rfl, rfl⟩ := Prod.mk.inj (Except.ok.inj done)
        exact inv.read found (by simp) (fun _ owes => owes.elim)
      | done =>
        rcases insertScore_cases s.history row with kept | ⟨added, unique⟩
        · simp only [CacheState.advance, kept] at done
          obtain ⟨rfl, rfl⟩ := Prod.mk.inj (Except.ok.inj done)
          exact inv.read found (by simp) (fun _ owes => owes.elim)
        · simp only [CacheState.advance, added] at done
          obtain ⟨rfl, rfl⟩ := Prod.mk.inj (Except.ok.inj done)
          exact inv.insert found (fun _ owes => owes) (unique inv.unique)
      | unanswered =>
        rcases insertScore_cases s.history row with kept | ⟨added, unique⟩
        · simp only [CacheState.advance, kept] at done
          obtain ⟨rfl, rfl⟩ := Prod.mk.inj (Except.ok.inj done)
          exact inv.read found (by simp) (fun _ owes => owes.elim)
        · simp only [CacheState.advance, added] at done
          obtain ⟨rfl, rfl⟩ := Prod.mk.inj (Except.ok.inj done)
          exact inv.insertUnseen found (by simp) (fun _ owes => owes) (unique inv.unique)
            (meets.unseen row rfl)
  | rereading agent rows =>
    have givesUp : outcome ≠ .done →
        CacheInvariant { s with callers := s.callers.set place (.inserting rows) } := fun undone =>
      inv.giveUp found (by simp) (meets.failing agent (by simp [Caller.givesUp, undone]))
        (fun _ owes => Eq.symm owes)
    simp only [CacheState.advance] at done
    split at done
    · obtain ⟨rfl, rfl⟩ := Prod.mk.inj (Except.ok.inj done)
      exact inv.read found (by simp) (fun _ owes => owes)
    next missing =>
      obtain ⟨rfl, rfl⟩ := Prod.mk.inj (Except.ok.inj done)
      refine givesUp ?_
      rintro rfl
      -- The caller has inserted a row of the agent.
      obtain ⟨row, held, named⟩ := inv.known agent rows (List.mem_of_getElem? found)
      obtain ⟨score, latest⟩ := Option.ne_none_iff_exists'.mp (latestScore_isSome held named)
      exact missing score rfl latest
  | warming agent score rows =>
    obtain ⟨rfl, rfl⟩ := Prod.mk.inj (Except.ok.inj done)
    refine inv.setUnless found (by simp) (fun executed => meets.sets executed (agent, score) rfl) ?_
      (fun _ owes => Eq.symm owes)
    exact fun failed => meets.failing agent (by simp [Caller.givesUp, failed])
  | getting agent =>
    simp only [CacheState.advance] at done
    split at done <;> obtain ⟨rfl, rfl⟩ := Prod.mk.inj (Except.ok.inj done) <;>
      exact inv.read found (by simp) (fun _ owes => owes.elim)
  | selecting agent =>
    simp only [CacheState.advance] at done
    split at done <;> obtain ⟨rfl, rfl⟩ := Prod.mk.inj (Except.ok.inj done) <;>
      exact inv.read found (by simp) (fun _ owes => owes.elim)
  | caching agent score =>
    obtain ⟨rfl, rfl⟩ := Prod.mk.inj (Except.ok.inj done)
    exact inv.setAside found (by simp) (fun executed => meets.sets executed (agent, score) rfl)
      (fun _ owes => owes.elim)
  | sweeping =>
    obtain ⟨rfl, rfl⟩ := Prod.mk.inj (Except.ok.inj done)
    refine inv.read found (fun agent rows => ?_) (fun _ owes => owes.elim)
    split <;> simp
  | sweptTo rows =>
    cases rows with
    | nil => cases done
    | cons entry rows =>
      obtain ⟨rfl, rfl⟩ := Prod.mk.inj (Except.ok.inj done)
      exact inv.setAside found (by simp) (fun executed => meets.sets executed entry rfl)
        (fun _ owes => owes.elim)
  | returned answer => cases done
  | refused => cases done

theorem CacheInvariant.step {act : CacheAction} (inv : CacheInvariant s)
    (fired : s.step collation act = .ok s') (sets : SetsLatest ⟨s, act, s'⟩) : CacheInvariant s' := by
  cases act with
  | recordEvents events =>
    obtain rfl := Except.ok.inj fired
    exact inv.call (by simp)
  | latest agent =>
    obtain rfl := Except.ok.inj fired
    exact inv.call (by simp)
  | sweep =>
    obtain rfl := Except.ok.inj fired
    exact inv.call (by simp)
  | advance place outcome =>
    simp only [CacheState.step, bind_eq_ok, okOr_eq_ok, pure_eq_ok] at fired
    obtain ⟨caller, found, ⟨t, next⟩, done, rfl⟩ := fired
    exact inv.advance found (sets caller found) done
  | expire agent =>
    obtain rfl := Except.ok.inj fired
    -- An entry that expires leaves the others as they are.
    refine ⟨inv.unique, inv.known, ?_⟩
    intro other score cached
    dsimp only at cached
    rw [Function.update_apply] at cached
    split at cached
    · cases cached
    · exact inv.current other score cached

theorem CacheRun.invariant (unique : UniqueSlots history)
    (run : CacheRun collation (.start history) log s) (sets : ∀ e ∈ log, SetsLatest e) :
    CacheInvariant s :=
  Transition.Run.preserves (fun _ sets fired inv => CacheInvariant.step inv fired sets) run sets
    (.start unique)

/-- Nobody who has finished owes anything. -/
theorem CacheState.Quiet.owes (quiet : s.Quiet) {caller : Caller} (member : caller ∈ s.callers)
    (agent : String) : ¬caller.Owes agent := by
  intro owes
  have finished := quiet caller member
  cases caller with
  | rereading _ _ => cases finished
  | warming _ _ _ => cases finished
  | inserting _ | getting _ | selecting _ | caching _ _ | sweeping | sweptTo _ | returned _ | refused =>
    exact owes

/-- As long as every `SET` writes what the history has when it is executed, and the statements of
`record_events` fail only where the entry needs no replacement, the cache has caught up whenever
nobody is in the middle of a call. -/
theorem cache_catches_up (collation : Collation) (history : List ScoreRow) (s : CacheState)
    (log : List (Transition.Fired CacheState CacheAction)) (unique : UniqueSlots history)
    (run : CacheRun collation (.start history) log s) (sets : ∀ e ∈ log, SetsLatest e)
    (quiet : s.Quiet) (agent : String) (score : Int) (cached : s.cache agent = some score) :
    latestScore s.history agent = some score := by
  rcases (run.invariant unique sets).current agent score cached with latest | ⟨caller, member, owes⟩
  · exact latest
  · exact absurd owes (quiet.owes member agent)

/-- A `ScoreComputed` event of the agent `A`. -/
def scoreComputed (score slot : Int) : ParsedEvent String where
  signature := "s"
  slot := slot
  logIndex := 0
  programId := []
  decoded := ⟨.scoreComputed, .obj [("agent", .str "A"), ("score", .num score), ("slot", .num slot)]⟩

def unsorted : Collation := ⟨id, .refl⟩

/-- Two workers, a reader and a sweep, each of which sets what the history has. The `GET` of the
reader and a `SET` of the sweep fail. -/
theorem cache_catches_up_four :
    let acts : List CacheAction := [.recordEvents [scoreComputed 500 1], .latest "A", .advance 0 .done,
      .recordEvents [scoreComputed 600 2], .advance 1 .failed, .advance 2 .done, .advance 0 .done,
      .advance 0 .done, .advance 2 .done, .advance 2 .unanswered, .sweep, .advance 1 .done,
      .advance 3 .done, .advance 1 .done, .advance 3 .failed]
    let s := acts.foldl (Transition.settle (CacheState.step unsorted)) (.start [])
    s.cache "A" = some 600 ∧ latestScore s.history "A" = some 600 := by
  intro acts s
  have cached : s.cache "A" = some 600 := by decide +kernel
  exact ⟨cached, cache_catches_up unsorted [] s _ (by decide) (.of_trace _ _ acts)
    (by decide +kernel) (by decide +kernel) "A" 600 cached⟩

/-- A worker that has read the older score is overtaken by one that inserts, reads and sets the
newer one. No statement fails. -/
theorem cache_stale :
    ∃ log s, CacheRun unsorted (.start []) log s ∧ s.Quiet ∧ s.cache "A" = some 500 ∧
      latestScore s.history "A" = some 600 := by
  refine ⟨_, _, .of_trace _ _ [.recordEvents [scoreComputed 500 1],
    .recordEvents [scoreComputed 600 2], .advance 0 .done, .advance 0 .done, .advance 1 .done,
    .advance 1 .done, .advance 1 .done, .advance 0 .done], ?_⟩
  decide +kernel

end AgentFuel.Backend
