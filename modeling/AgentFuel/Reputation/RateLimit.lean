import AgentFuel.Reputation.Provenance

/-!
# The rate limit on feedback

A link remembers the slot of the last feedback between its two parties and that there has been
one. Payments rewrite the link and leave both alone, so the check of `give_feedback` speaks about
the whole run before it.
-/
namespace AgentFuel.Reputation

open Checked Solana PartialMap

variable {K : Type} [DecidableEq K] [AddressSpace K] {w w' w₀ : World K} {log : List (Step K)}
  {act : Action K}

section Pair

variable {agent service : K}

def AgentServiceLink.lastFeedback (link : AgentServiceLink K) : Nat × Bool :=
  (link.lastFeedbackSlot, link.hasReceivedFeedback)

def Action.Rates (act : Action K) (agent service : K) : Prop :=
  ∃ r, act.rating = some r ∧ r.agent = agent ∧ r.service = service

def linkAddress (agent service : K) : K := findProgramAddress (.link agent service)

/-- What a step does to the last feedback of one link. -/
inductive LinkCase (w : World K) (act : Action K) (agent service : K) (w' : World K) : Prop
  | kept (silent : ¬act.Rates agent service)
    (keeps : ∀ link, w.links (linkAddress agent service) = some link →
      ∃ later, w'.links (linkAddress agent service) = some later ∧
        later.lastFeedback = link.lastFeedback)
  | rated (link later : AgentServiceLink K)
    (held : w.links (linkAddress agent service) = some link)
    (spaced : link.hasReceivedFeedback = true →
      feedbackRateLimitSlots ≤ w.slot - link.lastFeedbackSlot)
    (written : w'.links (linkAddress agent service) = some later)
    (noted : later.lastFeedback = (w.slot, true))

/-- The link `record_payment` writes has the last feedback of the one it found. -/
theorem record_keeps {ctx : RecordPayment K} {amount : Nat} {hash : Hash} {profile : AgentProfile K}
    {registry : ServiceRegistry K} :
    Keeps AgentServiceLink.lastFeedback w.links (ctx.record w amount hash profile registry).links := by
  have written : (ctx.record w amount hash profile registry).links =
      Function.update w.links ctx.agentServiceLink (some ((ctx.link w).paid amount w.slot)) := rfl
  rw [written]
  cases held : w.links ctx.agentServiceLink with
  | none => exact .add held
  | some link =>
    apply Keeps.replace held
    simp [RecordPayment.link, held, AgentServiceLink.paid, AgentServiceLink.lastFeedback]

theorem step_link (wf : WellFormed w) (fired : step w act = .ok w') (agent service : K) :
    LinkCase w act agent service w' := by
  have silent : act.rating = none → ¬act.Rates agent service := by
    rintro none ⟨r, some, -⟩
    rw [none] at some
    cases some
  cases step_cases wf fired with
  | recordPayment accepts => exact .kept (silent rfl) (record_keeps _)
  | @giveFeedback ctx hash value tags evidenceUri evidenceHash profile registry link receipt accepts =>
    -- The link of a call is at the address its two parties derive.
    have address : ctx.agentServiceLink = linkAddress ctx.agentProfile ctx.serviceRegistry := by
      rw [(wf.links _ _ accepts.linkHeld).1, AgentServiceLink.seeds, accepts.pair.1, accepts.pair.2,
        linkAddress]
    by_cases pair : ctx.agentProfile = agent ∧ ctx.serviceRegistry = service
    · obtain ⟨rfl, rfl⟩ := pair
      refine .rated link { link with lastFeedbackSlot := w.slot, hasReceivedFeedback := true } ?_
        accepts.spaced ?_ rfl
      · rw [← address]
        exact accepts.linkHeld
      · rw [← address]
        exact Function.update_self ..
    · refine .kept ?_ ?_
      · rintro ⟨r, called, ofAgent, ofService⟩
        obtain rfl := Option.some.inj called
        exact pair ⟨ofAgent, ofService⟩
      · intro other held
        have apart : linkAddress agent service ≠ ctx.agentServiceLink := by
          rw [address, linkAddress, linkAddress, Ne, findProgramAddress_inj]
          simpa [eq_comm] using pair
        exact ⟨other, (Function.update_of_ne apart ..).trans held, rfl⟩
  | _ => exact .kept (silent rfl) fun link held => ⟨link, held, rfl⟩

/-- Every feedback of the pair so far is noted in its link, and none is later than the clock. -/
def Noted (log : List (Step K)) (w : World K) (agent service : K) : Prop :=
  ∀ e ∈ log, e.act.Rates agent service →
    ∃ link, w.links (linkAddress agent service) = some link ∧ link.hasReceivedFeedback = true ∧
      e.pre.slot ≤ link.lastFeedbackSlot ∧ link.lastFeedbackSlot ≤ w.slot

/-- Two calls of one pair are `FEEDBACK_RATE_LIMIT_SLOTS` apart. -/
def Spaced (agent service : K) (first second : Step K) : Prop :=
  first.act.Rates agent service → second.act.Rates agent service →
    first.pre.slot + feedbackRateLimitSlots ≤ second.pre.slot

theorem step_slot (fired : step w act = .ok w') (wf : WellFormed w) : w.slot ≤ w'.slot := by
  cases step_cases wf fired with
  | advance slots => exact Nat.le_add_right ..
  | _ => exact le_rfl

theorem Noted.extend {e : Step K} (wf : WellFormed e.pre) (fired : step e.pre e.act = .ok e.post)
    (noted : Noted log e.pre agent service) : Noted (log ++ [e]) e.post agent service := by
  have later := step_slot fired wf
  intro earlier member rates
  cases step_link wf fired agent service with
  | kept silent keeps =>
    rcases List.mem_append.mp member with before | here
    · obtain ⟨link, held, received, after, past⟩ := noted earlier before rates
      obtain ⟨link', held', same⟩ := keeps link held
      obtain ⟨slot, flag⟩ := Prod.mk.inj same
      exact ⟨link', held', by rw [flag, received], by rw [slot]; exact after,
        by rw [slot]; exact past.trans later⟩
    · obtain rfl := List.mem_singleton.mp here
      exact absurd rates silent
  | rated link link' held spaced written now =>
    obtain ⟨slot, flag⟩ := Prod.mk.inj now
    refine ⟨link', written, flag, ?_, by rw [slot]; exact later⟩
    rw [slot]
    rcases List.mem_append.mp member with before | here
    · obtain ⟨_, _, _, after, past⟩ := noted earlier before rates
      exact after.trans past
    · obtain rfl := List.mem_singleton.mp here
      exact le_rfl

/-- A call that succeeds is far enough from everything the link has noted. -/
theorem Noted.spaced {e : Step K} (wf : WellFormed e.pre) (fired : step e.pre e.act = .ok e.post)
    (noted : Noted log e.pre agent service) : ∀ earlier ∈ log, Spaced agent service earlier e := by
  intro earlier before rates again
  cases step_link wf fired agent service with
  | kept silent _ => exact absurd again silent
  | rated link _ held spaced _ _ =>
    obtain ⟨link', held', received, after, past⟩ := noted earlier before rates
    rw [held] at held'
    obtain rfl := Option.some.inj held'
    have gap := spaced received
    unfold feedbackRateLimitSlots at gap ⊢
    omega

theorem Run.spaced (genesis : Genesis w₀) (run : Run w₀ log w) (agent service : K) :
    log.Pairwise (Spaced agent service) := by
  have both : log.Pairwise (Spaced agent service) ∧ Noted log w agent service := by
    induction run with
    | nil => exact ⟨.nil, by simp [Noted]⟩
    | @snoc log w act w' run fired ih =>
      obtain ⟨spaced, noted⟩ := ih
      have wf : WellFormed w := Run.wellFormed run genesis.wellFormed
      refine ⟨?_, noted.extend (e := ⟨w, act, w'⟩) wf fired⟩
      rw [List.pairwise_append]
      refine ⟨spaced, List.pairwise_singleton .., ?_⟩
      intro earlier before last here
      obtain rfl := List.mem_singleton.mp here
      exact noted.spaced wf fired earlier before
  exact both.1

end Pair

/-- In every run two feedbacks of one service on one agent are a rate limit apart, and a call that
fails leaves every link as it was. -/
theorem feedback_rate_limited (genesis : Genesis w₀) (run : Run w₀ log w) :
    (∀ agent service, log.Pairwise (Spaced agent service)) ∧
    ∀ (ctx : GiveFeedback K) (hash : Hash) (value : Int) (tags : Nat) (evidenceUri : Bytes 128)
      (evidenceHash : Hash) (e : ProgramError),
      step w (.program (.giveFeedback ctx hash value tags evidenceUri evidenceHash)) = .error e →
        (Transition.settle step w
          (.program (.giveFeedback ctx hash value tags evidenceUri evidenceHash))).links = w.links := by
  refine ⟨fun agent service => run.spaced genesis agent service, ?_⟩
  intro ctx hash value tags evidenceUri evidenceHash e fails
  rw [Transition.settle, fails]

namespace Bazaar

/-- Two payments, each rated, with a feedback too many in between. -/
def twoRatings : List (Action SymbolicKey) :=
  [pay service 5 0, pay service 7 1, rate service (-40) 0, rate service 30 1,
    .advance feedbackRateLimitSlots, rate service 30 1]

end Bazaar

theorem feedback_rate_limited_bazaar :
    ((Bazaar.logged Bazaar.twoRatings).filterMap fun e => e.act.rating).length = 2 ∧
    (Bazaar.logged Bazaar.twoRatings).Pairwise (Spaced Bazaar.account (Bazaar.address Bazaar.service)) := by
  obtain ⟨spaced, -⟩ := feedback_rate_limited Bazaar.genesis (Bazaar.run_logged Bazaar.twoRatings)
  exact ⟨by decide, spaced _ _⟩

end AgentFuel.Reputation
