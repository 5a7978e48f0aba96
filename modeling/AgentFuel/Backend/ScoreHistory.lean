import AgentFuel.Backend.Redelivery
import AgentFuel.Backend.ReputationMirror

/-!
# The history of scores and the score column

The history keeps the first score of a slot and the mirror shows the last one. Every payment
computes a score, so that a slot may have several.
-/
namespace AgentFuel.Backend

open Checked

variable {K : Type}

/-- A `ScoreComputed` event of one agent, where it stands on the chain. -/
structure Announcement where
  signature : String
  slot : Nat
  logIndex : Nat
  score : Nat
  /-- The score is a `u16`. -/
  scoreWord : score < 2 ^ 16
  /-- The column of the slot is a `BIGINT`. -/
  slotWord : slot < 2 ^ 63

namespace Announcement

def emitted (a : K) (x : Announcement) : Emitted K :=
  ⟨x.signature, x.slot, x.logIndex, .reputation (.scoreComputed a x.score x.slot)⟩

/-- What `record_events` inserts for it. -/
def row (r : Rendering K String) (a : K) (x : Announcement) : ScoreRow := ⟨r.key a, x.score, x.slot⟩

/-- The place in the order of slots and log positions. -/
def Before (x y : Announcement) : Prop := x.slot < y.slot ∨ x.slot = y.slot ∧ x.logIndex < y.logIndex

end Announcement

/-- The events as the parser hands them over. -/
def announced (r : Rendering K String) (a : K) (xs : List Announcement) : List (ParsedEvent String) :=
  xs.map fun x => (x.emitted a).row r

theorem asI64_natCast {n : Nat} (word : n < 2 ^ 63) : (Json.num (S := String) n).asI64 = some (n : Int) := by
  have range : -2 ^ 63 ≤ (n : Int) ∧ (n : Int) < 2 ^ 63 := by omega
  rw [Json.asI64, if_pos range]

theorem bmod_score {n : Nat} (word : n < 2 ^ 16) : Int.bmod n (2 ^ 32) = n := by
  rw [Int.bmod_def]
  split_ifs <;> omega

theorem scoreRow_some {ev : ParsedEvent String} {agent : String} {score slot : Int}
    (named : ev.decoded.eventName = .scoreComputed)
    (agentRead : (ev.decoded.payload.get "agent").bind Json.asStr = some agent)
    (scoreRead : (ev.decoded.payload.get "score").bind Json.asI64 = some score)
    (slotRead : (ev.decoded.payload.get "slot").bind Json.asI64 = some slot) :
    scoreRow ev = some ⟨agent, Int.bmod score (2 ^ 32), slot⟩ := by
  unfold scoreRow
  rw [if_neg (not_not_intro named), agentRead, scoreRead, slotRead]
  simp only [Option.bind_eq_bind, Option.bind_some]

theorem scoreRow_announced (r : Rendering K String) (a : K) (x : Announcement) :
    scoreRow ((x.emitted a).row r) = some (x.row r a) := by
  have fits : x.score < 2 ^ 63 := x.scoreWord.trans (by decide)
  have score : ((x.emitted a).row r).decoded.payload.get "score" = some (.num x.score) := by
    rw [row_get]
    rfl
  have slot : ((x.emitted a).row r).decoded.payload.get "slot" = some (.num x.slot) := by
    rw [row_get]
    rfl
  have read : scoreRow ((x.emitted a).row r) =
      some ⟨r.key a, Int.bmod x.score (2 ^ 32), x.slot⟩ := by
    apply scoreRow_some
    · rfl
    · rw [row_get]
      rfl
    · rw [score, Option.bind_some, asI64_natCast fits]
    · rw [slot, Option.bind_some, asI64_natCast x.slotWord]
  rw [read, bmod_score x.scoreWord, Announcement.row]

/-! ### The history -/

/-- The history after `record_events` on an empty table. -/
def historyOf (r : Rendering K String) (a : K) (xs : List Announcement) : List ScoreRow :=
  recordScores [] (announced r a xs)

theorem historyOf_eq (r : Rendering K String) (a : K) (xs : List Announcement) :
    historyOf r a xs =
      xs.foldl (fun history x => (insertScore history (x.row r a)).1) [] := by
  have rows : (announced r a xs).filterMap scoreRow = xs.map (Announcement.row r a) := by
    induction xs with
    | nil => rfl
    | cons x xs ih =>
      rw [announced, List.map_cons, List.filterMap_cons_some (scoreRow_announced r a x), List.map_cons]
      exact congrArg _ ih
  rw [historyOf, recordScores, rows, List.foldl_map]

theorem historyOf_snoc (r : Rendering K String) (a : K) (xs : List Announcement) (x : Announcement) :
    historyOf r a (xs ++ [x]) = (insertScore (historyOf r a xs) (x.row r a)).1 := by
  rw [historyOf_eq, historyOf_eq, List.foldl_append, List.foldl_cons, List.foldl_nil]

/-- The first event of a slot. -/
def firstAt (slot : Nat) (xs : List Announcement) : Option Announcement :=
  xs.find? fun x => decide (x.slot = slot)

theorem firstAt_snoc (slot : Nat) (xs : List Announcement) (x : Announcement) :
    firstAt slot (xs ++ [x]) = (firstAt slot xs).or (if x.slot = slot then some x else none) := by
  rw [firstAt, List.find?_append, firstAt]
  congr 1
  by_cases here : x.slot = slot <;> simp [here]

/-- The table holds the first event of every slot and nothing else. -/
theorem mem_historyOf (r : Rendering K String) (a : K) (xs : List Announcement) (row : ScoreRow) :
    row ∈ historyOf r a xs ↔ ∃ x, firstAt x.slot xs = some x ∧ row = x.row r a := by
  induction xs using List.reverseRecOn generalizing row with
  | nil => simp [historyOf_eq, firstAt]
  | append_singleton xs y ih =>
    rw [historyOf_snoc, insertScore]
    have conflicts : ((historyOf r a xs).any fun old =>
        decide (old.agent = (y.row r a).agent ∧ old.slot = (y.row r a).slot)) = true ↔
        (firstAt y.slot xs).isSome = true := by
      rw [List.any_eq_true, Option.isSome_iff_exists]
      constructor
      · rintro ⟨old, held, same⟩
        obtain ⟨x, first, rfl⟩ := (ih old).mp held
        obtain ⟨-, same⟩ := of_decide_eq_true same
        have level : x.slot = y.slot := by simpa [Announcement.row] using same
        exact ⟨x, level ▸ first⟩
      · rintro ⟨x, first⟩
        have level : x.slot = y.slot := by
          unfold firstAt at first
          simpa using List.find?_some first
        refine ⟨x.row r a, (ih _).mpr ⟨x, level ▸ first, rfl⟩, decide_eq_true ⟨rfl, ?_⟩⟩
        simp [Announcement.row, level]
    split
    next held =>
      -- The slot is taken, so the event is the first of no slot.
      rw [conflicts] at held
      rw [ih]
      apply exists_congr
      intro x
      rw [firstAt_snoc]
      by_cases here : y.slot = x.slot
      · rw [here, Option.isSome_iff_exists] at held
        obtain ⟨z, first⟩ := held
        simp [first]
      · simp [here]
    next free =>
      rw [conflicts, Option.not_isSome_iff_eq_none] at free
      rw [List.mem_append, ih, List.mem_singleton]
      constructor
      · rintro (⟨x, first, rfl⟩ | rfl)
        · exact ⟨x, by rw [firstAt_snoc, first, Option.some_or], rfl⟩
        · exact ⟨y, by rw [firstAt_snoc, free, if_pos rfl, Option.none_or], rfl⟩
      · rintro ⟨x, first, rfl⟩
        rw [firstAt_snoc] at first
        cases earlier : firstAt x.slot xs with
        | some z =>
          rw [earlier, Option.some_or] at first
          exact .inl ⟨x, by rw [earlier, first], rfl⟩
        | none =>
          rw [earlier, Option.none_or] at first
          split at first
          · exact .inr (by rw [Option.some.inj first])
          · cases first

theorem historyOf_unique (r : Rendering K String) (a : K) (xs : List Announcement) :
    UniqueSlots (historyOf r a xs) := by
  induction xs using List.reverseRecOn with
  | nil => exact List.nodup_nil
  | append_singleton xs x ih =>
    rw [historyOf_snoc]
    rcases insertScore_cases (historyOf r a xs) (x.row r a) with kept | ⟨added, unique⟩
    · rw [kept]
      exact ih
    · rw [added]
      exact unique ih

/-- `latest_score` answers with the first event of the slot of the last one. -/
theorem latestScore_historyOf {xs : List Announcement} {last first : Announcement}
    (r : Rendering K String) (a : K) (sorted : ∀ x ∈ xs, x.slot ≤ last.slot)
    (found : firstAt last.slot xs = some first) :
    latestScore (historyOf r a xs) (r.key a) = some (first.score : Int) := by
  have level : first.slot = last.slot := by
    unfold firstAt at found
    simpa using List.find?_some found
  apply HasLatest.latestScore_eq (historyOf_unique r a xs)
  refine ⟨first.row r a, ?_, rfl, rfl, ?_⟩
  · rw [mem_historyOf]
    exact ⟨first, by rw [level, found], rfl⟩
  · intro other member _
    obtain ⟨x, inside, rfl⟩ := (mem_historyOf r a xs other).mp member
    have bound := sorted x (List.mem_of_find?_eq_some inside)
    simp only [Announcement.row, level, Nat.cast_le]
    exact bound

/-! ### The column of the mirror -/

section Mirror

variable {rt : Runtime String} {db db' : Database String} {agent : String} {row : AgentRow String}

theorem agentRow_score {events : List (ParsedEvent String)} {init : ParsedEvent String}
    (computed : agentRow rt events agent init = .ok row) :
    ∃ answer, limitOne rt.latest rt.eager (about [.scoreComputed] "agent" agent events)
        (ParsedEvent.integer 32 "score") = .ok answer ∧ row.score = answer.join.getD 0 := by
  simp only [agentRow, bind_eq_ok, pure_eq_ok] at computed
  obtain ⟨_, _, _, _, _, _, answer, scored, rest⟩ := computed
  refine ⟨answer, scored, ?_⟩
  obtain ⟨_, _, _, _, _, _, _, _, _, _, _, _, _, _, _, _, _, _, _, _, rfl⟩ := rest
  rfl

theorem refreshAgent_score (done : refreshAgent rt agent db = .ok db')
    (created : about [.agentInitialized] "agent" agent db.events ≠ [])
    (held : db'.agents agent = some row) :
    ∃ answer, limitOne rt.latest rt.eager (about [.scoreComputed] "agent" agent db.events)
        (ParsedEvent.integer 32 "score") = .ok answer ∧ row.score = answer.join.getD 0 := by
  simp only [refreshAgent, bind_eq_ok] at done
  obtain ⟨made, computed, written⟩ := done
  rcases limitOne_value computed with ⟨none, -⟩ | ⟨init, -, made, -, selected, rfl⟩
  · exact absurd none created
  · obtain ⟨answer, scored, shown⟩ := agentRow_score selected
    refine ⟨answer, scored, ?_⟩
    obtain rfl := Except.ok.inj written
    simp only [Function.update_self, Option.some.injEq] at held
    rw [← held]
    cases db.agents agent <;> exact shown

end Mirror

variable {xs : List Announcement} {last : Announcement}

theorem Announcement.position_lt {r : Rendering K String} {a : K} {x y : Announcement} (before : x.Before y) :
    ((x.emitted a).row r).position < ((y.emitted a).row r).position := by
  rw [row_position, row_position, Emitted.position, Emitted.position,
    Emitted.rowSlot_eq x.slotWord, Emitted.rowSlot_eq y.slotWord, Prod.Lex.toLex_lt_toLex]
  rcases before with earlier | ⟨level, behind⟩
  · exact .inl (Int.ofNat_lt.mpr earlier)
  · exact .inr ⟨congrArg Int.ofNat level, Int.ofNat_lt.mpr behind⟩

/-- The column shows the score of the event with the greatest position. -/
theorem mirror_shows_last {r : Rendering K String} {a : K} {rt : Runtime String}
    {rows : List (ParsedEvent String)} {answer : Option (Option Int)}
    (perm : rows.Perm (announced r a xs)) (member : last ∈ xs)
    (behind : ∀ x ∈ xs, x ≠ last → x.Before last)
    (scored : limitOne rt.latest rt.eager rows (ParsedEvent.integer 32 "score") = .ok answer) :
    answer.join.getD 0 = last.score := by
  have inside : (last.emitted a).row r ∈ rows := perm.mem_iff.mpr (List.mem_map_of_mem member)
  rcases limitOne_value scored with ⟨rfl, -⟩ | ⟨row, held, score, greatest, selected, rfl⟩
  · cases inside
  · obtain ⟨x, origin, rfl⟩ := List.mem_map.mp (perm.mem_iff.mp held)
    have top := greatest _ inside
    rw [OrderDual.toDual_le_toDual] at top
    -- Any other event stands before the last one.
    have same : x = last := by
      by_contra other
      exact absurd top (not_le_of_gt (Announcement.position_lt (behind x origin other)))
    subst same
    have score := row_number_eq (f := .u16 x.score) rfl rfl selected
    rw [score]
    rfl

/-- The latest score is the score of the last event, and the score of the mirror, exactly if the
first event in the slot of the last one has the same score. -/
theorem latest_score_iff (r : Rendering K String) (a : K) (earlier : List Announcement)
    (last : Announcement) (ordered : (earlier ++ [last]).Pairwise fun x y => x.slot ≤ y.slot) :
    (latestScore (historyOf r a (earlier ++ [last])) (r.key a) = some (last.score : Int) ∧
      ((earlier ++ [last]).Pairwise Announcement.Before →
        ∀ (rt : Runtime String) (db db' : Database String) (row : AgentRow String),
          (about [.scoreComputed] "agent" (r.key a) db.events).Perm (announced r a (earlier ++ [last])) →
          about [.agentInitialized] "agent" (r.key a) db.events ≠ [] →
          refreshAgent rt (r.key a) db = .ok db' → db'.agents (r.key a) = some row →
          row.score = last.score)) ↔
      ∀ first ∈ firstAt last.slot earlier, first.score = last.score := by
  have sorted : ∀ x ∈ earlier ++ [last], x.slot ≤ last.slot := by
    intro x member
    rcases List.mem_append.mp member with before | here
    · exact (List.pairwise_append.mp ordered).2.2 x before last (List.mem_singleton_self last)
    · rw [List.mem_singleton.mp here]
  -- The mirror goes by the order of events and shows the last one in any case.
  have mirror : (earlier ++ [last]).Pairwise Announcement.Before →
      ∀ (rt : Runtime String) (db db' : Database String) (row : AgentRow String),
        (about [.scoreComputed] "agent" (r.key a) db.events).Perm (announced r a (earlier ++ [last])) →
        about [.agentInitialized] "agent" (r.key a) db.events ≠ [] →
        refreshAgent rt (r.key a) db = .ok db' → db'.agents (r.key a) = some row →
        row.score = last.score := by
    intro increasing rt db db' row perm created done held
    obtain ⟨answer, scored, shown⟩ := refreshAgent_score done created held
    rw [shown]
    refine mirror_shows_last perm (by simp) ?_ scored
    intro x member other
    rcases List.mem_append.mp member with before | here
    · exact (List.pairwise_append.mp increasing).2.2 x before last (List.mem_singleton_self last)
    · exact absurd (List.mem_singleton.mp here) other
  rw [and_iff_left mirror]
  have found := firstAt_snoc last.slot earlier last
  rw [if_pos rfl] at found
  -- The table keeps the first row of a slot.
  cases taken : firstAt last.slot earlier with
  | none =>
    rw [taken, Option.none_or] at found
    rw [latestScore_historyOf r a sorted found]
    simp
  | some first =>
    rw [taken, Option.some_or] at found
    rw [latestScore_historyOf r a sorted found]
    simp

/-! ### Two payments of one agent -/

namespace Counter

def rendering : Rendering Unit String := ⟨fun _ => "agent", fun _ => "", fun _ => ""⟩

theorem rendering_key : rendering.key () = "agent" := rfl

def first : Announcement := ⟨"one", 7, 3, 210, by decide, by decide⟩

/-- A second payment in the slot of the first. -/
def second : Announcement := ⟨"two", 7, 9, 220, by decide, by decide⟩

/-- A second payment one slot later. -/
def later : Announcement := ⟨"two", 8, 3, 220, by decide, by decide⟩

end Counter

theorem latest_score_later :
    latestScore (historyOf Counter.rendering () ([Counter.first] ++ [Counter.later])) "agent" = some 220 := by
  have shown := latest_score_iff Counter.rendering () [Counter.first] Counter.later (by decide)
  have alone : firstAt Counter.later.slot [Counter.first] = none := by decide
  exact (shown.mpr (by simp [alone])).1

theorem latest_score_stale :
    ¬∀ (earlier : List Announcement) (last : Announcement),
      (earlier ++ [last]).Pairwise (fun x y => x.slot ≤ y.slot) →
        latestScore (historyOf Counter.rendering () (earlier ++ [last])) "agent" =
          some (last.score : Int) := by
  intro claim
  have latest := claim [Counter.first] Counter.second (by decide)
  have sorted : ∀ x ∈ [Counter.first] ++ [Counter.second], x.slot ≤ Counter.second.slot := by decide
  have found : firstAt Counter.second.slot ([Counter.first] ++ [Counter.second]) =
      some Counter.first := rfl
  rw [← Counter.rendering_key, latestScore_historyOf Counter.rendering () sorted found] at latest
  exact absurd latest (by decide)

end AgentFuel.Backend
