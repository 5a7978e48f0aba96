import Mathlib.Tactic.Common

/-!
# Dialogues

Programs that ask the world, which answers as it likes, and that stop with the first failure. What
holds of every log of a dialogue holds whatever the world does.
-/
inductive Dialogue (E Q : Type) (R : Q → Type) (A : Type) where
  | done (result : Except E A)
  | ask (q : Q) (next : R q → Dialogue E Q R A)

namespace Dialogue

variable {E Q A B : Type} {R : Q → Type}

/-- A question and what came back. -/
structure Exchange (E Q : Type) (R : Q → Type) where
  question : Q
  answer : Except E (R question)

def bind : Dialogue E Q R A → (A → Dialogue E Q R B) → Dialogue E Q R B
  | done (.ok a), f => f a
  | done (.error e), _ => done (.error e)
  | ask q next, f => ask q fun r => (next r).bind f

instance : Monad (Dialogue E Q R) where
  pure a := done (.ok a)
  bind := bind

/-- Ask, and continue with the answer. -/
def question (q : Q) : Dialogue E Q R (R q) := ask q fun r => done (.ok r)

/-- Ask only if somebody listens. -/
def questionWhen (listens : Bool) (q : Q) : Dialogue E Q R Unit :=
  if listens = true then ask q fun _ => done (.ok ()) else done (.ok ())

/-- What a dialogue asked until it ended, and how it ended. -/
inductive Runs : Dialogue E Q R A → List (Exchange E Q R) → Except E A → Prop
  | done (result : Except E A) : Runs (done result) [] result
  | failed (q : Q) (next : R q → Dialogue E Q R A) (e : E) :
      Runs (ask q next) [⟨q, .error e⟩] (.error e)
  | answered {q : Q} {next : R q → Dialogue E Q R A} {log : List (Exchange E Q R)}
      {result : Except E A} (r : R q) (rest : Runs (next r) log result) :
      Runs (ask q next) (⟨q, .ok r⟩ :: log) result

variable {log : List (Exchange E Q R)} {q : Q}

theorem runs_done {result result' : Except E A} :
    Runs (done result : Dialogue E Q R A) log result' ↔ log = [] ∧ result' = result := by
  constructor
  · rintro ⟨⟩
    exact ⟨rfl, rfl⟩
  · rintro ⟨rfl, rfl⟩
    exact .done result'

theorem runs_pure {a : A} {result : Except E A} :
    Runs (pure a : Dialogue E Q R A) log result ↔ log = [] ∧ result = .ok a := runs_done

theorem runs_ask {next : R q → Dialogue E Q R A} {result : Except E A} :
    Runs (ask q next) log result ↔ (∃ e, log = [⟨q, .error e⟩] ∧ result = .error e) ∨
      ∃ r rest, log = ⟨q, .ok r⟩ :: rest ∧ Runs (next r) rest result := by
  constructor
  · intro run
    cases run with
    | failed e => exact Or.inl ⟨_, rfl, rfl⟩
    | answered r rest => exact Or.inr ⟨r, _, rfl, rest⟩
  · rintro (⟨e, rfl, rfl⟩ | ⟨r, rest, rfl, run⟩)
    · exact .failed q next e
    · exact .answered r run

/-- A dialogue in two parts fails in the first, or its log falls into the logs of both. -/
theorem runs_bind {x : Dialogue E Q R A} {f : A → Dialogue E Q R B} {result : Except E B} :
    Runs (x >>= f) log result ↔ (∃ e, Runs x log (.error e) ∧ result = .error e) ∨
      ∃ a before after, log = before ++ after ∧ Runs x before (.ok a) ∧ Runs (f a) after result := by
  change Runs (x.bind f) log result ↔ _
  -- By induction on the first part: whether it has ended decides which part fails.
  induction x generalizing log with
  | done first =>
    cases first with
    | ok a =>
      constructor
      · intro run
        exact Or.inr ⟨a, [], log, rfl, .done _, run⟩
      · rintro (⟨e, run, -⟩ | ⟨b, before, after, rfl, first, rest⟩)
        · cases run
        · cases first
          exact rest
    | error e =>
      constructor
      · intro run
        obtain ⟨rfl, rfl⟩ := runs_done.mp run
        exact Or.inl ⟨e, .done _, rfl⟩
      · rintro (⟨e, run, rfl⟩ | ⟨b, before, after, rfl, first, rest⟩)
        · cases run
          exact .done _
        · cases first
  | ask q next ih =>
    rw [bind, runs_ask]
    constructor
    · rintro (⟨e, rfl, rfl⟩ | ⟨r, rest, rfl, run⟩)
      · exact Or.inl ⟨e, .failed q next e, rfl⟩
      · rcases (ih r).mp run with ⟨e, stops, rfl⟩ | ⟨a, before, after, rfl, first, second⟩
        · exact Or.inl ⟨e, .answered r stops, rfl⟩
        · exact Or.inr ⟨a, _, after, rfl, .answered r first, second⟩
    · rintro (⟨e, run, rfl⟩ | ⟨a, before, after, rfl, first, second⟩)
      · rcases runs_ask.mp run with ⟨e, rfl, same⟩ | ⟨r, rest, rfl, stops⟩
        · cases same
          exact Or.inl ⟨e, rfl, rfl⟩
        · exact Or.inr ⟨r, rest, rfl, (ih r).mpr (Or.inl ⟨e, stops, rfl⟩)⟩
      · rcases runs_ask.mp first with ⟨e, rfl, same⟩ | ⟨r, rest, rfl, goes⟩
        · cases same
        · exact Or.inr ⟨r, rest ++ after, rfl, (ih r).mpr (Or.inr ⟨a, rest, after, rfl, goes, second⟩)⟩

theorem runs_question {result : Except E (R q)} :
    Runs (question q : Dialogue E Q R (R q)) log result ↔ log = [⟨q, result⟩] := by
  rw [question, runs_ask]
  constructor
  · rintro (⟨e, rfl, rfl⟩ | ⟨r, rest, rfl, run⟩)
    · rfl
    · obtain ⟨rfl, rfl⟩ := runs_done.mp run
      rfl
  · rintro rfl
    cases result with
    | ok r => exact Or.inr ⟨r, [], rfl, .done _⟩
    | error e => exact Or.inl ⟨e, rfl, rfl⟩

/-- A question that need not be asked leaves nothing else in the log. -/
theorem Runs.of_questionWhen {listens : Bool} {result : Except E Unit}
    (run : Runs (questionWhen listens q : Dialogue E Q R Unit) log result) :
    ∀ exchange ∈ log, exchange.question = q := by
  intro exchange member
  unfold questionWhen at run
  split at run
  · rcases runs_ask.mp run with ⟨e, rfl, -⟩ | ⟨r, rest, rfl, stops⟩
    · rw [List.mem_singleton.mp member]
    · obtain ⟨rfl, -⟩ := runs_done.mp stops
      rw [List.mem_singleton.mp member]
  · obtain ⟨rfl, -⟩ := runs_done.mp run
    cases member

end Dialogue
