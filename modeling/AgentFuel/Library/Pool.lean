import AgentFuel.Library.Dialogue
import AgentFuel.Library.Transition
import Mathlib.Algebra.BigOperators.Fin
import Mathlib.Algebra.Order.BigOperators.Group.List
import Mathlib.Algebra.Order.Group.Nat

/-!
# Dialogues that take turns

Any number of dialogues run against one world, which answers one question at a time. Between two
questions of a dialogue the others ask theirs and the world moves by itself; a dialogue may also be
given up at any question. What every answer keeps holds of every run, and the log of each dialogue
is a log of its program.
-/
namespace Pool

open Dialogue

/-- A world, with its answers. The chance says how a question turns out when that is open. -/
structure World (σ M L Q : Type) (R : Q → Type) where
  answer : σ → L → (q : Q) → σ × R q
  move : σ → M → σ

/-- A running program, with the part that is still to run. -/
structure Thread (P E Q : Type) (R : Q → Type) (A : Type) where
  kind : P
  log : List (Exchange E Q R)
  rest : Dialogue E Q R A

structure State (σ P E Q : Type) (R : Q → Type) (A : Type) where
  world : σ
  threads : List (Thread P E Q R A)
  /-- What was asked so far, with the place of the thread that asked. -/
  history : List (ℕ × Exchange E Q R)

inductive Action (M L P E : Type) where
  | start (kind : P)
  | turn (place : ℕ) (chance : L)
  | drop (place : ℕ) (e : E)
  | move (m : M)

inductive Idle where
  | noQuestion

variable {σ M L P E Q A : Type} {R : Q → Type}

section Step

variable (world : World σ M L Q R) (program : P → Dialogue E Q R A)

/-- The thread at a place has got its answer. -/
def State.record (s : State σ P E Q R A) (place : ℕ) (kind : P) (log : List (Exchange E Q R))
    (exchange : Exchange E Q R) (rest : Dialogue E Q R A) : State σ P E Q R A :=
  { s with
    threads := s.threads.set place ⟨kind, log ++ [exchange], rest⟩
    history := s.history ++ [(place, exchange)] }

def step (s : State σ P E Q R A) : Action M L P E → Except Idle (State σ P E Q R A)
  | .start kind => .ok { s with threads := s.threads ++ [⟨kind, [], program kind⟩] }
  | .turn place chance =>
    match s.threads[place]? with
    | some ⟨kind, log, .ask q next⟩ =>
      let (w, r) := world.answer s.world chance q
      .ok ({ s with world := w }.record place kind log ⟨q, .ok r⟩ (next r))
    | _ => .error .noQuestion
  | .drop place e =>
    match s.threads[place]? with
    | some ⟨kind, log, .ask q _⟩ => .ok (s.record place kind log ⟨q, .error e⟩ (.done (.error e)))
    | _ => .error .noQuestion
  | .move m => .ok { s with world := world.move s.world m }

/-- A world in which nothing runs yet. -/
def State.start (w : σ) : State σ P E Q R A := ⟨w, [], []⟩

abbrev PoolRun (s : State σ P E Q R A) (log : List (Transition.Fired (State σ P E Q R A) (Action M L P E)))
    (s' : State σ P E Q R A) : Prop :=
  Transition.Run (step world program) s log s'

end Step

/-- What a step can do. -/
inductive StepCase (world : World σ M L Q R) (program : P → Dialogue E Q R A)
    (s : State σ P E Q R A) : Action M L P E → State σ P E Q R A → Prop
  | start (kind : P) : StepCase world program s (.start kind)
      { s with threads := s.threads ++ [⟨kind, [], program kind⟩] }
  | turn {place : ℕ} {chance : L} {kind : P} {log : List (Exchange E Q R)} {q : Q}
      {next : R q → Dialogue E Q R A} : s.threads[place]? = some ⟨kind, log, .ask q next⟩ →
      StepCase world program s (.turn place chance)
        ({ s with world := (world.answer s.world chance q).1 }.record place kind log
          ⟨q, .ok (world.answer s.world chance q).2⟩ (next (world.answer s.world chance q).2))
  | drop {place : ℕ} {e : E} {kind : P} {log : List (Exchange E Q R)} {q : Q}
      {next : R q → Dialogue E Q R A} : s.threads[place]? = some ⟨kind, log, .ask q next⟩ →
      StepCase world program s (.drop place e)
        (s.record place kind log ⟨q, .error e⟩ (.done (.error e)))
  | move (m : M) : StepCase world program s (.move m) { s with world := world.move s.world m }

variable {world : World σ M L Q R} {program : P → Dialogue E Q R A} {s s' : State σ P E Q R A}
  {act : Action M L P E}
  {log : List (Transition.Fired (State σ P E Q R A) (Action M L P E))}

theorem step_cases (fired : step world program s act = .ok s') :
    StepCase world program s act s' := by
  cases act with
  | start kind =>
    obtain rfl := Except.ok.inj fired
    exact .start kind
  | turn place chance =>
    unfold step at fired
    dsimp only at fired
    split at fired
    next kind log q next found =>
      obtain rfl := Except.ok.inj fired
      exact .turn found
    · cases fired
  | drop place e =>
    unfold step at fired
    dsimp only at fired
    split at fired
    next kind log q next found =>
      obtain rfl := Except.ok.inj fired
      exact .drop found
    · cases fired
  | move m =>
    obtain rfl := Except.ok.inj fired
    exact .move m

/-! ### The world and the history -/

/-- What answers and moves keep of the world and the questions so far. -/
structure Keeps (world : World σ M L Q R) (J : σ → List (Exchange E Q R) → Prop) : Prop where
  answer : ∀ w history chance q, J w history →
    J (world.answer w chance q).1 (history ++ [⟨q, .ok (world.answer w chance q).2⟩])
  drop : ∀ w history q e, J w history → J w (history ++ [⟨q, .error e⟩])
  move : ∀ w history m, J w history → J (world.move w m) history

def State.asked (s : State σ P E Q R A) : List (Exchange E Q R) := s.history.map Prod.snd

theorem Keeps.step {J : σ → List (Exchange E Q R) → Prop} (keeps : Keeps world J)
    (fired : step world program s act = .ok s') (holds : J s.world s.asked) :
    J s'.world s'.asked := by
  cases step_cases fired with
  | start => exact holds
  | turn found =>
    simp only [State.asked, State.record, List.map_append, List.map_cons, List.map_nil]
    exact keeps.answer _ _ _ _ holds
  | drop found =>
    simp only [State.asked, State.record, List.map_append, List.map_cons, List.map_nil]
    exact keeps.drop _ _ _ _ holds
  | move m => exact keeps.move _ _ m holds

theorem Keeps.run {J : σ → List (Exchange E Q R) → Prop} (keeps : Keeps world J)
    (run : PoolRun world program s log s') (holds : J s.world s.asked) : J s'.world s'.asked :=
  Transition.Run.invariant (I := fun t => J t.world t.asked)
    (fun _ _ _ fired held => keeps.step fired held) run holds

/-- What holds of every answer holds of the whole history. -/
theorem Keeps.all {p : Exchange E Q R → Prop}
    (answers : ∀ w chance q, p ⟨q, .ok (world.answer w chance q).2⟩)
    (drops : ∀ q e, p ⟨q, .error e⟩) : Keeps world fun _ history => ∀ x ∈ history, p x where
  answer w history chance q holds := by
    rw [List.forall_mem_append, List.forall_mem_singleton]
    exact ⟨holds, answers w chance q⟩
  drop w history q e holds := by
    rw [List.forall_mem_append, List.forall_mem_singleton]
    exact ⟨holds, drops q e⟩
  move w history m holds := holds

/-! ### The log of a thread -/

/-- The part of the history that belongs to the thread at a place. -/
def logAt (place : ℕ) (history : List (ℕ × Exchange E Q R)) : List (Exchange E Q R) :=
  (history.filter fun entry => decide (entry.1 = place)).map Prod.snd

theorem logAt_snoc_self (place : ℕ) (history : List (ℕ × Exchange E Q R)) (x : Exchange E Q R) :
    logAt place (history ++ [(place, x)]) = logAt place history ++ [x] := by
  simp [logAt, List.filter_append]

theorem logAt_snoc_other {place other : ℕ} (apart : other ≠ place)
    (history : List (ℕ × Exchange E Q R)) (x : Exchange E Q R) :
    logAt place (history ++ [(other, x)]) = logAt place history := by
  simp [logAt, List.filter_append, apart]

theorem mem_history_of_logAt {place : ℕ} {history : List (ℕ × Exchange E Q R)}
    {x : Exchange E Q R} (member : x ∈ logAt place history) : (place, x) ∈ history := by
  obtain ⟨⟨other, y⟩, inside, rfl⟩ := List.mem_map.mp member
  obtain ⟨held, here⟩ := List.mem_filter.mp inside
  obtain rfl : other = place := of_decide_eq_true here
  exact held

/-- What is still to run completes the log to a log of the program. -/
def Thread.Follows (program : P → Dialogue E Q R A) (t : Thread P E Q R A) : Prop :=
  ∀ log result, Runs t.rest log result → Runs (program t.kind) (t.log ++ log) result

/-- Every thread has the log that the history has for it, and follows its program. -/
structure Orderly (program : P → Dialogue E Q R A) (s : State σ P E Q R A) : Prop where
  logs : ∀ (place : ℕ) (t : Thread P E Q R A), s.threads[place]? = some t →
    t.log = logAt place s.history ∧ t.Follows program
  known : ∀ entry ∈ s.history, entry.1 < s.threads.length

theorem Orderly.start (w : σ) : Orderly program (.start w) where
  logs place t found := by simp [State.start] at found
  known entry member := by cases member

/-- An exchange of the thread at one place leaves the others alone. -/
theorem Orderly.record {w : σ} {place : ℕ} {kind : P} {done : List (Exchange E Q R)}
    {rest rest' : Dialogue E Q R A} {x : Exchange E Q R} (orderly : Orderly program s)
    (found : s.threads[place]? = some ⟨kind, done, rest⟩)
    (goes : ∀ log result, Runs rest' log result → Runs rest (x :: log) result) :
    Orderly program ({ s with world := w }.record place kind done x rest') := by
  obtain ⟨inside, -⟩ := List.getElem?_eq_some_iff.mp found
  constructor
  · -- The log of this thread has the exchange at its end; those of the others are as before.
    intro other t here
    simp only [State.record, List.getElem?_set] at here ⊢
    split at here
    next same =>
      subst same
      obtain rfl := Option.some.inj here
      obtain ⟨own, follows⟩ := orderly.logs _ _ found
      dsimp only at own
      refine ⟨?_, ?_⟩
      · rw [logAt_snoc_self, own]
      · intro log result runs
        have whole := follows _ _ (goes log result runs)
        rw [List.append_assoc]
        exact whole
    next apart =>
      obtain ⟨own, follows⟩ := orderly.logs _ _ here
      exact ⟨by rw [logAt_snoc_other apart, own], follows⟩
  · intro entry member
    simp only [State.record, List.length_set]
    rcases List.mem_append.mp member with old | new
    · exact orderly.known entry old
    · rw [List.mem_singleton.mp new]
      exact inside

theorem Orderly.step (orderly : Orderly program s) (fired : step world program s act = .ok s') :
    Orderly program s' := by
  cases step_cases fired with
  | start kind =>
    constructor
    · intro place t found
      dsimp only at found
      rcases Nat.lt_trichotomy place s.threads.length with old | here | beyond
      · rw [List.getElem?_append_left old] at found
        exact orderly.logs place t found
      · subst here
        rw [List.getElem?_concat_length] at found
        obtain rfl := Option.some.inj found
        -- Nobody at the new place has asked anything.
        have nothing : logAt s.threads.length s.history = [] := by
          rw [logAt, List.map_eq_nil_iff, List.filter_eq_nil_iff]
          intro entry member same
          have known := orderly.known entry member
          exact absurd (of_decide_eq_true same) (by omega)
        exact ⟨nothing.symm, fun _ _ runs => runs⟩
      · rw [List.getElem?_eq_none (by rw [List.length_append, List.length_singleton]; omega)] at found
        cases found
    · intro entry member
      have known := orderly.known entry member
      rw [List.length_append]
      omega
  | turn found => exact orderly.record found fun _ _ runs => .answered _ runs
  | @drop place e kind done q next found =>
    apply orderly.record (w := s.world) found
    intro log result runs
    obtain ⟨rfl, rfl⟩ := runs_done.mp runs
    exact .failed q next e
  | move m => exact ⟨orderly.logs, orderly.known⟩

theorem PoolRun.orderly {w : σ} (run : PoolRun world program (.start w) log s') :
    Orderly program s' :=
  Transition.Run.invariant (I := Orderly program) (fun _ _ _ fired orderly => orderly.step fired)
    run (.start w)

/-- A thread that has ended ran its program from start to end. -/
theorem Orderly.ended (orderly : Orderly program s) {place : ℕ} {kind : P}
    {done : List (Exchange E Q R)} {result : Except E A}
    (found : s.threads[place]? = some ⟨kind, done, .done result⟩) :
    Runs (program kind) done result ∧ done = logAt place s.history := by
  obtain ⟨own, follows⟩ := orderly.logs _ _ found
  have whole := follows [] result (.done result)
  rw [List.append_nil] at whole
  exact ⟨whole, own⟩

/-- What the exchanges of all threads weigh together is what the history weighs. -/
theorem Orderly.weigh (orderly : Orderly program s) (weight : Exchange E Q R → ℕ) :
    (s.threads.map fun t => (t.log.map weight).sum).sum = (s.asked.map weight).sum := by
  have logs : s.threads.map (fun t => (t.log.map weight).sum) =
      (List.range s.threads.length).map fun place => ((logAt place s.history).map weight).sum := by
    apply List.ext_getElem (by simp)
    intro place inside _
    rw [List.length_map] at inside
    rw [List.getElem_map, List.getElem_map, List.getElem_range,
      (orderly.logs place _ (List.getElem?_eq_getElem inside)).1]
  have total : ((List.range s.threads.length).map fun place =>
      ((logAt place s.history).map weight).sum).sum =
      ∑ place ∈ Finset.range s.threads.length, ((logAt place s.history).map weight).sum := rfl
  have known := orderly.known
  rw [logs, total, State.asked]
  generalize s.history = history at known
  -- Each entry weighs at its own place and nowhere else.
  induction history with
  | nil => simp [logAt]
  | cons entry history ih =>
    rw [List.forall_mem_cons] at known
    have split : ∀ place, ((logAt place (entry :: history)).map weight).sum =
        (if entry.1 = place then weight entry.2 else 0) + ((logAt place history).map weight).sum := by
      intro place
      by_cases here : entry.1 = place
      · simp [logAt, here]
      · simp [logAt, here]
    simp only [split, Finset.sum_add_distrib, ih known.2]
    rw [Finset.sum_ite_eq, if_pos (Finset.mem_range.mpr known.1), List.map_cons, List.map_cons,
      List.sum_cons]

/-! ### What a dialogue can ask -/

/-- Whatever the answers are, all questions meet the condition. -/
def Only (p : Q → Prop) : Dialogue E Q R A → Prop
  | .done _ => True
  | .ask q next => p q ∧ ∀ r, Only p (next r)

variable {p : Q → Prop}

theorem only_pure (a : A) : Only p (pure a : Dialogue E Q R A) := trivial

theorem only_question {q : Q} (holds : p q) : Only p (question q : Dialogue E Q R (R q)) :=
  ⟨holds, fun _ => trivial⟩

theorem Only.bind {B : Type} {x : Dialogue E Q R A} {f : A → Dialogue E Q R B} (first : Only p x)
    (second : ∀ a, Only p (f a)) : Only p (x >>= f) := by
  change Only p (x.bind f)
  induction x with
  | done result =>
    cases result with
    | ok a => exact second a
    | error e => trivial
  | ask q next ih => exact ⟨first.1, fun r => ih r (first.2 r)⟩

theorem Only.runs {x : Dialogue E Q R A} {asked : List (Exchange E Q R)} {result : Except E A}
    (only : Only p x) (runs : Runs x asked result) : ∀ exchange ∈ asked, p exchange.question := by
  induction runs with
  | done =>
    intro exchange member
    cases member
  | failed q next e =>
    rw [List.forall_mem_singleton]
    exact only.1
  | answered r rest ih =>
    rw [List.forall_mem_cons]
    exact ⟨only.1, ih (only.2 r)⟩

/-- What the program of a thread can ask is all that the thread asks. -/
theorem Orderly.asks (orderly : Orderly program s) (e : E) {place : ℕ} {kind : P}
    {done : List (Exchange E Q R)} {q : Q} {next : R q → Dialogue E Q R A}
    (found : s.threads[place]? = some ⟨kind, done, .ask q next⟩) (only : Only p (program kind)) : p q := by
  obtain ⟨-, follows⟩ := orderly.logs _ _ found
  have runs := follows _ _ (.failed q next e)
  exact only.runs runs ⟨q, .error e⟩ (List.mem_append_right _ (List.mem_singleton_self _))

/-! ### What comes in pairs -/

/-- Whatever is first done is then done a second time, in the same order: in each log as far as it
goes, and all of it in the log of a dialogue that came to its end. -/
def Paired {β : Type} (first second : Exchange E Q R → List β) (x : Dialogue E Q R A) : Prop :=
  ∀ log result, Runs x log result → log.flatMap second <+: log.flatMap first ∧
    ∀ a, result = .ok a → log.flatMap second = log.flatMap first

section Paired

variable {β : Type} {first second : Exchange E Q R → List β}

theorem Paired.bind {B : Type} {x : Dialogue E Q R A} {f : A → Dialogue E Q R B}
    (left : Paired first second x) (right : ∀ a, Paired first second (f a)) :
    Paired first second (x >>= f) := by
  intro log result runs
  rcases runs_bind.mp runs with ⟨e, started, rfl⟩ | ⟨a, before, after, rfl, started, rest⟩
  · refine ⟨(left log _ started).1, ?_⟩
    rintro a ⟨⟩
  · obtain ⟨part, all⟩ := right a after result rest
    rw [List.flatMap_append, List.flatMap_append, (left before _ started).2 a rfl]
    refine ⟨(List.prefix_append_right_inj _).mpr part, fun b ended => ?_⟩
    rw [all b ended]

variable (orderly : Orderly program s) (paired : ∀ kind, Paired first second (program kind))
include orderly paired

end Paired

/-! ### Things that are settled once -/

/-- What the exchanges of a history have settled. -/
def settledIn {ι β : Type} (settles : Exchange E Q R → List (ι × β)) (history : List (Exchange E Q R)) :
    List (ι × β) :=
  history.flatMap settles

/-- Things are settled while they are open and keep their value from then on; nothing else settles
them. -/
structure Latches {ι β : Type} (world : World σ M L Q R) (valid : σ → Prop) (value : σ → ι → Option β)
    (settles : Exchange E Q R → List (ι × β)) : Prop where
  answered : ∀ w chance q, valid w → valid (world.answer w chance q).1
  once : ∀ w chance q, valid w →
    ((settles ⟨q, .ok (world.answer w chance q).2⟩).map Prod.fst).Nodup
  fresh : ∀ w chance q, valid w →
    ∀ entry ∈ settles ⟨q, .ok (world.answer w chance q).2⟩, value w entry.1 = none
  values : ∀ w chance q, valid w → ∀ i b, value (world.answer w chance q).1 i = some b ↔
    value w i = some b ∨ (i, b) ∈ settles ⟨q, .ok (world.answer w chance q).2⟩
  dropped : ∀ q e, settles ⟨q, .error e⟩ = []
  moved : ∀ w m, valid w → valid (world.move w m) ∧ ∀ i, value (world.move w m) i = value w i

/-- Nothing has been settled twice, and what has a value had it before or was settled so. -/
structure Latched {ι β : Type} (valid : σ → Prop) (value : σ → ι → Option β)
    (settles : Exchange E Q R → List (ι × β)) (w w' : σ) (history : List (Exchange E Q R)) : Prop where
  valid : valid w'
  once : ((settledIn settles history).map Prod.fst).Nodup
  fresh : ∀ entry ∈ settledIn settles history, value w entry.1 = none
  values : ∀ i b, value w' i = some b ↔ value w i = some b ∨ (i, b) ∈ settledIn settles history

section Latches

variable {ι β : Type} {valid : σ → Prop} {value : σ → ι → Option β}
  {settles : Exchange E Q R → List (ι × β)} {w : σ}

theorem settledIn_snoc (settles : Exchange E Q R → List (ι × β)) (history : List (Exchange E Q R))
    (x : Exchange E Q R) : settledIn settles (history ++ [x]) = settledIn settles history ++ settles x := by
  simp [settledIn, List.flatMap_append]

theorem Latches.keeps (latches : Latches world valid value settles) (w : σ) :
    Keeps world fun w' history => Latched valid value settles w w' history where
  answer w' history chance q latched := by
    have fresh := latches.fresh w' chance q latched.valid
    constructor
    · exact latches.answered w' chance q latched.valid
    · rw [settledIn_snoc, List.map_append, List.nodup_append]
      refine ⟨latched.once, latches.once w' chance q latched.valid, ?_⟩
      -- What was settled has a value, and only what has none is settled.
      rintro i earlier j now rfl
      obtain ⟨⟨_, b⟩, member, rfl⟩ := List.mem_map.mp earlier
      obtain ⟨entry, inside, same⟩ := List.mem_map.mp now
      have held := (latched.values _ b).mpr (.inr member)
      have opened := fresh entry inside
      rw [same] at opened
      cases opened.symm.trans held
    · intro entry member
      rw [settledIn_snoc] at member
      rcases List.mem_append.mp member with earlier | now
      · exact latched.fresh entry earlier
      · cases held : value w entry.1 with
        | none => rfl
        | some b =>
          have kept := (latched.values entry.1 b).mpr (.inl held)
          rw [fresh entry now] at kept
          cases kept
    · intro i b
      rw [latches.values _ _ _ latched.valid, latched.values, settledIn_snoc, List.mem_append,
        or_assoc]
  drop w' history q e latched := by
    have same : settledIn settles (history ++ [⟨q, .error e⟩]) = settledIn settles history := by
      rw [settledIn_snoc, latches.dropped, List.append_nil]
    exact ⟨latched.valid, same ▸ latched.once, same ▸ latched.fresh, same ▸ latched.values⟩
  move w' history m latched := by
    obtain ⟨holds, kept⟩ := latches.moved w' m latched.valid
    exact ⟨holds, latched.once, latched.fresh, fun i b => (kept i).symm ▸ latched.values i b⟩

theorem Latches.run (latches : Latches world valid value settles) (holds : valid w)
    (run : PoolRun world program (.start w) log s') :
    Latched valid value settles w s'.world s'.asked := by
  refine (latches.keeps w).run run ⟨holds, List.nodup_nil, ?_, ?_⟩
  · intro entry member
    cases member
  · exact fun i b => (or_iff_left (by rintro ⟨⟩)).symm

end Latches

/-! ### One dialogue alone -/

/-- A dialogue that runs to its end while nothing else happens. -/
def solo (world : World σ M L Q R) (chance : Q → L) : σ → Dialogue E Q R A → σ × Except E A
  | w, .done result => (w, result)
  | w, .ask q next =>
    solo world chance (world.answer w (chance q) q).1 (next (world.answer w (chance q) q).2)

@[simp] theorem solo_done (chance : Q → L) (w : σ) (result : Except E A) :
    solo world chance w (.done result) = (w, result) := rfl

@[simp] theorem solo_pure (chance : Q → L) (w : σ) (a : A) :
    solo world chance w (pure a : Dialogue E Q R A) = (w, .ok a) := rfl

@[simp] theorem solo_ask (chance : Q → L) (w : σ) (q : Q) (next : R q → Dialogue E Q R A) :
    solo world chance w (.ask q next) =
      solo world chance (world.answer w (chance q) q).1 (next (world.answer w (chance q) q).2) := rfl

/-- Go on from where a dialogue ended. -/
def proceed {B : Type} (first : σ × Except E A) (next : σ → A → σ × Except E B) : σ × Except E B :=
  match first.2 with
  | .ok a => next first.1 a
  | .error e => (first.1, .error e)

/-- The second part starts where the first one ended. -/
theorem solo_bind {B : Type} (chance : Q → L) (w : σ) (x : Dialogue E Q R A)
    (f : A → Dialogue E Q R B) : solo world chance w (x >>= f) =
      proceed (solo world chance w x) fun w' a => solo world chance w' (f a) := by
  change solo world chance w (x.bind f) = _
  induction x generalizing w with
  | done result =>
    cases result with
    | ok a => rfl
    | error e => rfl
  | ask q next ih => exact ih _ _

end Pool
