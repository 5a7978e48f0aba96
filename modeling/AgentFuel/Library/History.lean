import AgentFuel.Library.Pool
import AgentFuel.Library.RateWindow
import AgentFuel.Library.Register

/-!
# What the history of a pool tells

A cell of the world holds what an answer wrote to it last, whatever was in it before. An answer may
have looked first: the cells it found empty had not been written until then. And where a program
asks a question only right after another one, the history shows which answer led to it, with nothing
but questions of other threads in between.
-/
namespace Pool

open Dialogue RateWindow

variable {σ M L P E Q A : Type} {R : Q → Type} {world : World σ M L Q R}
  {program : P → Dialogue E Q R A} {s s' : State σ P E Q R A}
  {log : List (Transition.Fired (State σ P E Q R A) (Action M L P E))}

/-! ### Cells -/

section Cells

variable {ι β : Type}

/-- Answers write cells, and may say which they have found empty; nothing else writes them. -/
structure Cells (world : World σ M L Q R) (valid : σ → Prop) (value : σ → ι → Option β)
    (write : ι → Exchange E Q R → Option β) (finds : Exchange E Q R → ι → Prop) : Prop where
  answered : ∀ w chance q, valid w → valid (world.answer w chance q).1
  values : ∀ w chance q, valid w → ∀ i, value (world.answer w chance q).1 i =
    (write i ⟨q, .ok (world.answer w chance q).2⟩).or (value w i)
  empty : ∀ w chance q, valid w →
    ∀ i, finds ⟨q, .ok (world.answer w chance q).2⟩ i → value w i = none
  dropped : ∀ q e i, write i ⟨q, .error e⟩ = none ∧ ¬finds ⟨q, .error e⟩ i
  moved : ∀ w m, valid w → valid (world.move w m) ∧ ∀ i, value (world.move w m) i = value w i

/-- The cell was empty at the start and has not been written. -/
def Blank (value : σ → ι → Option β) (write : ι → Exchange E Q R → Option β) (w : σ) (i : ι)
    (history : List (Exchange E Q R)) : Prop :=
  value w i = none ∧ ∀ x ∈ history, write i x = none

/-- Every cell holds what was written to it last, and those found empty were blank. -/
structure Held (valid : σ → Prop) (value : σ → ι → Option β) (write : ι → Exchange E Q R → Option β)
    (finds : Exchange E Q R → ι → Prop) (w w' : σ) (history : List (Exchange E Q R)) : Prop where
  valid : valid w'
  values : ∀ i, value w' i = (Register.last (write i) history).or (value w i)
  empty : Each (fun before x => ∀ i, finds x i → Blank value write w i before) history

variable {valid : σ → Prop} {value : σ → ι → Option β} {write : ι → Exchange E Q R → Option β}
  {finds : Exchange E Q R → ι → Prop}

/-- An empty cell is blank. -/
theorem Held.blank {w w' : σ} {history : List (Exchange E Q R)}
    (held : Held valid value write finds w w' history) {i : ι} (empty : value w' i = none) :
    Blank value write w i history := by
  rw [held.values, Option.or_eq_none_iff] at empty
  exact ⟨empty.2, Register.last_eq_none.mp empty.1⟩

theorem Cells.keeps (cells : Cells world valid value write finds) (w : σ) :
    Keeps world fun w' history => Held valid value write finds w w' history where
  answer w' history chance q held := by
    constructor
    · exact cells.answered w' chance q held.valid
    · intro i
      rw [cells.values w' chance q held.valid, held.values, Register.last_snoc, Option.or_assoc]
    · rw [each_snoc]
      refine ⟨held.empty, fun i found => ?_⟩
      exact held.blank (cells.empty w' chance q held.valid i found)
  drop w' history q e held := by
    constructor
    · exact held.valid
    · intro i
      rw [held.values, Register.last_snoc, (cells.dropped q e i).1, Option.none_or]
    · rw [each_snoc]
      exact ⟨held.empty, fun i found => absurd found (cells.dropped q e i).2⟩
  move w' history m held := by
    obtain ⟨holds, same⟩ := cells.moved w' m held.valid
    exact ⟨holds, fun i => (same i).trans (held.values i), held.empty⟩

theorem Cells.run (cells : Cells world valid value write finds) {w : σ} (holds : valid w)
    (run : PoolRun world program (.start w) log s') :
    Held valid value write finds w s'.world s'.asked := by
  refine (cells.keeps w).run run ⟨holds, fun i => ?_, each_nil _⟩
  exact (Option.none_or).symm

end Cells

/-! ### Questions that come right after others -/

section Led

variable (tied : Q → Prop) (leads : Exchange E Q R → Q → Prop)

/-- A tied question comes right after an exchange that leads to it. -/
def Led (log : List (Exchange E Q R)) : Prop :=
  Each (fun before x => tied x.question → ∃ init y, before = init ++ [y] ∧ leads y x.question) log

/-- Every log of the dialogue is so. -/
def Leads (x : Dialogue E Q R A) : Prop := ∀ log result, Runs x log result → Led tied leads log

variable {tied : Q → Prop} {leads : Exchange E Q R → Q → Prop}

theorem Led.append {first second : List (Exchange E Q R)} (one : Led tied leads first)
    (two : Led tied leads second) : Led tied leads (first ++ second) := by
  rw [Led, each_append]
  refine ⟨one, fun before x after whole tie => ?_⟩
  obtain ⟨init, y, rfl, lead⟩ := two before x after whole tie
  exact ⟨first ++ init, y, (List.append_assoc _ _ _).symm, lead⟩

theorem led_untied {log : List (Exchange E Q R)} (untied : ∀ x ∈ log, ¬tied x.question) :
    Led tied leads log := by
  rintro before x after rfl tie
  exact absurd tie (untied x (by simp))

theorem leads_done (result : Except E A) :
    Leads tied leads (.done result : Dialogue E Q R A) := by
  intro log result' runs
  obtain ⟨rfl, -⟩ := runs_done.mp runs
  exact each_nil _

theorem leads_question {q : Q} (untied : ¬tied q) :
    Leads tied leads (question q : Dialogue E Q R (R q)) := by
  intro log result runs
  rw [runs_question] at runs
  subst runs
  apply led_untied
  rw [List.forall_mem_singleton]
  exact untied

theorem Leads.bind {B : Type} {x : Dialogue E Q R A} {f : A → Dialogue E Q R B}
    (first : Leads tied leads x) (second : ∀ a, Leads tied leads (f a)) :
    Leads tied leads (x >>= f) := by
  intro log result runs
  rcases runs_bind.mp runs with ⟨e, started, rfl⟩ | ⟨a, before, after, rfl, started, rest⟩
  · exact first log _ started
  · exact (first before _ started).append (second a after result rest)

/-- An answer and the question that it leads to. -/
theorem led_pair {x y : Exchange E Q R} (untied : ¬tied x.question) (lead : leads x y.question) :
    Led tied leads [x, y] := by
  have whole : Each (fun before x => tied x.question →
      ∃ init y, before = init ++ [y] ∧ leads y x.question) ([x] ++ [y]) := by
    rw [each_snoc]
    refine ⟨led_untied ?_, fun _ => ⟨[], x, rfl, lead⟩⟩
    rw [List.forall_mem_singleton]
    exact untied
  exact whole

/-- What a thread has asked so far, and what it is about to ask. -/
theorem Orderly.led (orderly : Orderly program s) (e : E)
    (led : ∀ kind, Leads tied leads (program kind)) {place : ℕ} {t : Thread P E Q R A}
    (found : s.threads[place]? = some t) : Led tied leads t.log ∧
      ∀ q next, t.rest = .ask q next → tied q → ∃ init y, t.log = init ++ [y] ∧ leads y q := by
  obtain ⟨-, follows⟩ := orderly.logs place t found
  obtain ⟨kind, asked, rest⟩ := t
  cases rest with
  | done result =>
    have whole := follows [] result (.done result)
    rw [List.append_nil] at whole
    exact ⟨led kind _ _ whole, fun q next asks => (by cases asks)⟩
  | ask q next =>
    -- The dialogue could be given up here.
    have whole := led kind _ _ (follows _ _ (.failed q next e))
    rw [Led, each_snoc] at whole
    refine ⟨whole.1, ?_⟩
    rintro q' next' ⟨⟩ tie
    exact whole.2 tie

/-- The last entry of a place in a history. -/
theorem logAt_eq_concat {place : ℕ} {history : List (ℕ × Exchange E Q R)}
    {init : List (Exchange E Q R)} {y : Exchange E Q R} (ends : logAt place history = init ++ [y]) :
    ∃ earlier between, history = earlier ++ (place, y) :: between ∧
      ∀ entry ∈ between, entry.1 ≠ place := by
  induction history using List.reverseRecOn with
  | nil => exact absurd ends.symm (by simp [logAt])
  | append_singleton history entry ih =>
    obtain ⟨other, x⟩ := entry
    by_cases here : other = place
    · subst here
      rw [logAt_snoc_self] at ends
      obtain ⟨-, same⟩ := List.append_inj' ends rfl
      obtain rfl := List.singleton_inj.mp same
      exact ⟨history, [], rfl, fun entry member => by cases member⟩
    · rw [logAt_snoc_other here] at ends
      obtain ⟨earlier, between, rfl, apart⟩ := ih ends
      refine ⟨earlier, between ++ [(other, x)], by simp, ?_⟩
      rw [List.forall_mem_append, List.forall_mem_singleton]
      exact ⟨apart, here⟩

/-- In the history of all threads only others have asked between a tied question and the one of its
own thread that led to it. -/
theorem Orderly.led_history (orderly : Orderly program s) (e : E)
    (led : ∀ kind, Leads tied leads (program kind)) :
    Each (fun before entry => tied entry.2.question → ∃ earlier y between,
      before = earlier ++ (entry.1, y) :: between ∧ (∀ other ∈ between, other.1 ≠ entry.1) ∧
        leads y entry.2.question) s.history := by
  rintro before ⟨place, x⟩ after whole tie
  have known := orderly.known (place, x) (by simp [whole])
  have found := List.getElem?_eq_getElem known
  have logged := (orderly.led e led found).1
  have own : logAt place s.history = logAt place before ++ x :: logAt place after := by
    rw [whole]
    simp [logAt, List.filter_append]
  rw [(orderly.logs place _ found).1] at logged
  obtain ⟨init, y, ends, lead⟩ := logged _ _ _ own tie
  obtain ⟨earlier, between, same, apart⟩ := logAt_eq_concat ends
  exact ⟨earlier, y, between, same, apart, lead⟩

end Led
end Pool
