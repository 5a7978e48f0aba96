import AgentFuel.Reputation.Provenance

/-!
# The feedback counters of a profile

The two counters of a profile count the feedback records that name it: all of them, and the
negative ones not revoked. So a revocation always finds its complaint counted.
-/
namespace AgentFuel.Reputation

open Checked Solana Tally

variable {K : Type} [DecidableEq K] [AddressSpace K] {w w' w₀ : World K} {log : List (Step K)}
  {act : Action K}

/-- One for a negative value that has not been revoked. -/
def FeedbackRecord.complaint (feedback : FeedbackRecord K) : ℕ :=
  if feedback.value < 0 ∧ feedback.revoked = false then 1 else 0

structure FeedbackBooks (w : World K) : Prop where
  sparse : Sparse w.feedbacks
  total : ∀ key, weight w.agents AgentProfile.totalFeedbackCount key =
    tally w.feedbacks (onSide FeedbackRecord.agentProfile key fun _ => 1)
  negative : ∀ key, weight w.agents AgentProfile.activeNegativeFeedbackCount key =
    tally w.feedbacks (onSide FeedbackRecord.agentProfile key FeedbackRecord.complaint)

omit [AddressSpace K] in
theorem Genesis.feedbackBooks (genesis : Genesis w) : FeedbackBooks w := by
  have agents : ∀ key, w.agents key = none := fun key => (genesis.vacant key).1
  have feedbacks : ∀ key, w.feedbacks key = none := fun key => (genesis.vacant key).2.2.2.2
  have nothing : ∀ f : FeedbackRecord K → ℕ, tally w.feedbacks f = 0 := by
    intro f
    apply tally_eq_zero
    intro key feedback held
    rw [feedbacks] at held
    cases held
  constructor
  · simp [Sparse, feedbacks]
  · intro key
    rw [weight_of_none (agents key), nothing]
  · intro key
    rw [weight_of_none (agents key), nothing]

omit [AddressSpace K] in
/-- A step that leaves the records and both counters alone. -/
theorem FeedbackBooks.keep (books : FeedbackBooks w) (records : w'.feedbacks = w.feedbacks)
    (total : weight w'.agents AgentProfile.totalFeedbackCount =
      weight w.agents AgentProfile.totalFeedbackCount)
    (negative : weight w'.agents AgentProfile.activeNegativeFeedbackCount =
      weight w.agents AgentProfile.activeNegativeFeedbackCount) : FeedbackBooks w' := by
  constructor
  · rw [records]
    exact books.sparse
  · intro key
    rw [total, records, books.total]
  · intro key
    rw [negative, records, books.negative]

section Steps

variable {hash : Hash} {profile : AgentProfile K} {registry : ServiceRegistry K}
  {feedback : FeedbackRecord K}

theorem FeedbackBooks.file {ctx : GiveFeedback K} {value : Int} {tags : Nat}
    {evidenceUri : Bytes 128} {evidenceHash : Hash} {link : AgentServiceLink K}
    {receipt : ReceiptUsed K} (books : FeedbackBooks w)
    (accepts : ctx.Accepts w hash value profile registry link receipt) :
    FeedbackBooks (ctx.file w hash value tags evidenceUri evidenceHash profile registry link) := by
  have absent : ∀ {f : FeedbackRecord K → ℕ}, weight w.feedbacks f ctx.feedbackRecord = 0 :=
    weight_of_none accepts.unrated
  have fresh : ∀ old, w.feedbacks ctx.feedbackRecord = some old →
      old.agentProfile = ctx.agentProfile := by
    intro old held
    rw [accepts.unrated] at held
    cases held
  -- The new record complains when its value is negative.
  have complaint : (ctx.record w.slot hash value tags evidenceUri evidenceHash).complaint =
      if value < 0 then 1 else 0 := by
    simp [FeedbackRecord.complaint, GiveFeedback.record]
  constructor
  · exact books.sparse.update _ _
  · intro key
    have profiles := weight_grow (a := profile.rated value w.slot) (n := 1)
      (g := AgentProfile.totalFeedbackCount) accepts.agentHeld rfl key
    have records := tally_onSide_grow (a := ctx.record w.slot hash value tags evidenceUri evidenceHash)
      (f := fun _ => 1) (n := 1) books.sparse fresh (by rw [absent]) key
    exact profiles.trans ((congrArg (· + _) (books.total key)).trans records.symm)
  · intro key
    have profiles := weight_grow (a := profile.rated value w.slot) (n := if value < 0 then 1 else 0)
      (g := AgentProfile.activeNegativeFeedbackCount) accepts.agentHeld rfl key
    have records := tally_onSide_grow (a := ctx.record w.slot hash value tags evidenceUri evidenceHash)
      (f := FeedbackRecord.complaint) (n := if value < 0 then 1 else 0) books.sparse fresh
      (by rw [absent, complaint, Nat.zero_add]) key
    exact profiles.trans ((congrArg (· + _) (books.negative key)).trans records.symm)

theorem FeedbackBooks.attach {ctx : AppendResponse K} {responseUri : Bytes 128}
    {responseHash : Hash} (books : FeedbackBooks w) (accepts : ctx.Accepts w hash profile feedback) :
    FeedbackBooks (ctx.attach w responseUri responseHash profile feedback) := by
  have answered : ∀ f : FeedbackRecord K → ℕ,
      f feedback = f { feedback with
        responseUri, responseHash, hasResponse := true, lastModifiedSlot := w.slot } →
      tally (ctx.attach w responseUri responseHash profile feedback).feedbacks f =
        tally w.feedbacks f := by
    intro f same
    apply tally_update_same
    rw [← same]
    exact weight_of_some accepts.feedbackHeld
  have profiles : ∀ g : AgentProfile K → ℕ, g profile = g { profile with lastActiveSlot := w.slot } →
      weight (ctx.attach w responseUri responseHash profile feedback).agents g =
        weight w.agents g :=
    fun g same => weight_replace accepts.agentHeld same
  constructor
  · exact books.sparse.update _ _
  · intro key
    rw [answered _ rfl, ← books.total, profiles _ rfl]
  · intro key
    rw [answered _ rfl, ← books.negative, profiles _ rfl]

omit [DecidableEq K] in
theorem RevokeFeedback.Accepts.complaint {ctx : RevokeFeedback K}
    (accepts : ctx.Accepts w hash profile registry feedback) :
    feedback.complaint = if feedback.value < 0 then 1 else 0 := by
  simp [FeedbackRecord.complaint, accepts.unrevoked]

omit [DecidableEq K] in
/-- The counter stands high enough to be lowered. -/
theorem RevokeFeedback.Accepts.counts {ctx : RevokeFeedback K}
    (accepts : ctx.Accepts w hash profile registry feedback) :
    profile.activeNegativeFeedbackCount - (if feedback.value < 0 then 1 else 0) +
      (if feedback.value < 0 then 1 else 0) = profile.activeNegativeFeedbackCount := by
  split
  next negative => exact Nat.sub_add_cancel (accepts.counted negative)
  · rfl

theorem FeedbackBooks.revoke {ctx : RevokeFeedback K} (books : FeedbackBooks w)
    (accepts : ctx.Accepts w hash profile registry feedback) :
    FeedbackBooks (ctx.revoke w profile registry feedback) := by
  have named : ∀ old, w.feedbacks ctx.feedbackRecord = some old →
      old.agentProfile = feedback.agentProfile := by
    intro old held
    rw [accepts.feedbackHeld] at held
    rw [Option.some.inj held]
  have stored : ∀ f : FeedbackRecord K → ℕ, weight w.feedbacks f ctx.feedbackRecord = f feedback :=
    fun f => weight_of_some accepts.feedbackHeld
  -- Once it is revoked, a record no longer counts as a complaint.
  have silent : ({ feedback with
      revoked := true, lastModifiedSlot := w.slot } : FeedbackRecord K).complaint = 0 := by
    simp [FeedbackRecord.complaint]
  constructor
  · exact books.sparse.update _ _
  · intro key
    have records := tally_onSide_grow (f := fun _ => 1) (n := 0)
      (a := { feedback with revoked := true, lastModifiedSlot := w.slot })
      books.sparse named (by rw [stored]) key
    rw [ite_self, Nat.add_zero] at records
    have profiles : weight (ctx.revoke w profile registry feedback).agents
        AgentProfile.totalFeedbackCount = weight w.agents AgentProfile.totalFeedbackCount :=
      weight_replace accepts.agentHeld rfl
    rw [profiles, books.total, ← records]
    rfl
  · -- The counter of the profile falls by what the record has counted.
    intro key
    have profiles : weight (ctx.revoke w profile registry feedback).agents
          AgentProfile.activeNegativeFeedbackCount key +
        (if feedback.agentProfile = key then if feedback.value < 0 then 1 else 0 else 0) =
        weight w.agents AgentProfile.activeNegativeFeedbackCount key := by
      rw [accepts.pair.1]
      exact weight_shrink accepts.agentHeld accepts.counts.symm key
    have records := tally_onSide_shrink (n := if feedback.value < 0 then 1 else 0)
      (a := { feedback with revoked := true, lastModifiedSlot := w.slot })
      (f := FeedbackRecord.complaint) books.sparse named
      (by rw [stored, accepts.complaint, silent, Nat.zero_add]) key
    have before := books.negative key
    rw [← profiles, ← records] at before
    exact Nat.add_right_cancel before

end Steps

theorem step_feedbackBooks (wf : WellFormed w) (fired : step w act = .ok w')
    (books : FeedbackBooks w) : FeedbackBooks w' := by
  cases step_cases wf fired with
  | advance slots => exact books.keep rfl rfl rfl
  | initializeAgent _ absent =>
    refine books.keep rfl ?_ ?_
    · exact weight_update_same (weight_of_none absent)
    · exact weight_update_same (weight_of_none absent)
  | registerService => exact books.keep rfl rfl rfl
  | setServiceActive => exact books.keep rfl rfl rfl
  | recordPayment accepts =>
    refine books.keep rfl ?_ ?_
    · exact weight_replace accepts.agentHeld rfl
    · exact weight_replace accepts.agentHeld rfl
  | giveFeedback accepts => exact books.file accepts
  | appendResponse accepts => exact books.attach accepts
  | revokeFeedback accepts => exact books.revoke accepts
  | computeScore held =>
    refine books.keep rfl ?_ ?_
    · exact weight_replace held rfl
    · exact weight_replace held rfl

theorem Run.feedbackBooks (genesis : Genesis w₀) (run : Run w₀ log w) : FeedbackBooks w := by
  induction run with
  | nil => exact genesis.feedbackBooks
  | snoc run fired ih =>
    exact step_feedbackBooks (Run.wellFormed run genesis.wellFormed) fired ih

/-! ### Revocation -/

/-- Anchor's validation fails with an error of its own, never with an overflow. -/
theorem RevokeFeedback.tryAccounts_ne_overflow (ctx : RevokeFeedback K) (w : World K)
    (hash : Hash) : ctx.tryAccounts w hash ≠ .error overflow := by
  simp [tryAccounts, bind_eq_error, map_eq_error, World.loadAgent, World.loadService,
    World.loadFeedback, requireAgentSeeds, requireServiceSeeds, requireFeedbackSeeds,
    okOr_eq_error, require_eq_error, overflow]

theorem RevokeFeedback.loaded {ctx : RevokeFeedback K} {hash : Hash} {profile : AgentProfile K}
    {registry : ServiceRegistry K} {feedback : FeedbackRecord K}
    (loads : ctx.tryAccounts w hash = .ok (profile, registry, feedback)) :
    w.agents ctx.agentProfile = some profile ∧ w.feedbacks ctx.feedbackRecord = some feedback ∧
      feedback.agentProfile = ctx.agentProfile := by
  simp only [tryAccounts, bind_eq_ok, World.loadAgent_eq_ok, World.loadFeedback_eq_ok,
    require_eq_ok, pure_eq_ok, Prod.mk.injEq] at loads
  obtain ⟨_, agentHeld, _, _, _, feedbackHeld, _, _, _, _, _, _, _, agent, _, _, rfl, _, rfl⟩ := loads
  exact ⟨agentHeld, feedbackHeld, agent⟩

omit [AddressSpace K] in
/-- A complaint of a profile is among those its counter counts. -/
theorem FeedbackBooks.counted {key : K} {feedback : FeedbackRecord K} {profile : AgentProfile K}
    (books : FeedbackBooks w) (held : w.feedbacks key = some feedback)
    (agentHeld : w.agents feedback.agentProfile = some profile)
    (complains : feedback.value < 0 ∧ feedback.revoked = false) :
    1 ≤ profile.activeNegativeFeedbackCount := by
  have one : onSide FeedbackRecord.agentProfile feedback.agentProfile FeedbackRecord.complaint
      feedback = 1 := by
    rw [onSide, if_pos rfl, FeedbackRecord.complaint, if_pos complains]
  have total := books.negative feedback.agentProfile
  rw [weight_of_some agentHeld] at total
  rw [total, ← one]
  exact le_tally books.sparse held

omit [DecidableEq K] [AddressSpace K] in
theorem revokeNegative_ne_error {profile : AgentProfile K} {wasNegative : Bool} {e : ProgramError}
    (counted : wasNegative = true → 1 ≤ profile.activeNegativeFeedbackCount) :
    revokeNegative profile wasNegative ≠ .error e := by
  cases wasNegative with
  | false => simp [revokeNegative, pure_ne_error]
  | true => simp [revokeNegative, checkedSub, okOr, counted rfl]

theorem RevokeFeedback.handler_ne_overflow {hash : Hash} (ctx : RevokeFeedback K)
    (books : FeedbackBooks w) : ctx.handler w hash ≠ .error overflow := by
  intro fails
  simp only [handler, bind_eq_error, Prod.exists, require_eq_error, require_eq_ok,
    pure_ne_error] at fails
  rcases fails with invalid | ⟨profile, registry, feedback, loaded, ⟨-, other⟩ | later⟩
  · exact ctx.tryAccounts_ne_overflow w hash invalid
  · cases other
  · obtain ⟨-, unrevoked, fails | ⟨_, _, false⟩⟩ := later
    · -- Only the subtraction is left, and the complaint is counted.
      obtain ⟨agentHeld, feedbackHeld, agent⟩ := RevokeFeedback.loaded loaded
      rw [← agent] at agentHeld
      refine revokeNegative_ne_error ?_ fails
      intro negative
      exact books.counted feedbackHeld agentHeld ⟨of_decide_eq_true negative, unrevoked⟩
    · exact false

/-- What a revocation leaves: the record is marked and a complaint is no longer counted. -/
structure FeedbackRecord.Withdrawn (feedback : FeedbackRecord K) (key : K) (w w' : World K) : Prop where
  marked : w'.feedbacks =
    Function.update w.feedbacks key (some { feedback with revoked := true, lastModifiedSlot := w.slot })
  counters : ∃ profile profile', w.agents feedback.agentProfile = some profile ∧
    w'.agents feedback.agentProfile = some profile' ∧
    profile'.totalFeedbackCount = profile.totalFeedbackCount ∧
    profile'.activeNegativeFeedbackCount + feedback.complaint = profile.activeNegativeFeedbackCount

theorem RevokeFeedback.Accepts.withdraws {ctx : RevokeFeedback K} {hash : Hash} {profile : AgentProfile K}
    {registry : ServiceRegistry K} {feedback : FeedbackRecord K}
    (accepts : ctx.Accepts w hash profile registry feedback) :
    feedback.Withdrawn ctx.feedbackRecord w (ctx.revoke w profile registry feedback) := by
  constructor
  · rfl
  · rw [accepts.pair.1]
    refine ⟨profile, _, accepts.agentHeld, Function.update_self .., rfl, ?_⟩
    rw [accepts.complaint]
    exact accepts.counts

/-- A revocation by the service a record names is never refused while the record is unrevoked. -/
theorem RevokeFeedback.handler_succeeds {key : K} {feedback : FeedbackRecord K} {registry : ServiceRegistry K}
    {signer : Signer K} (wf : WellFormed w) (books : FeedbackBooks w) (filed : feedback.Filed w)
    (held : w.feedbacks key = some feedback) (unrevoked : feedback.revoked = false)
    (serviceHeld : w.services feedback.serviceRegistry = some registry)
    (original : signer.key = registry.authority) :
    ∃ w' event, RevokeFeedback.handler ⟨signer, feedback.agentProfile, feedback.serviceRegistry, key⟩
      w feedback.paymentReceiptHash = .ok (w', event) ∧ feedback.Withdrawn key w w' := by
  obtain ⟨profile, _, agentHeld, -⟩ := filed.parties
  have accepts : RevokeFeedback.Accepts
      ⟨signer, feedback.agentProfile, feedback.serviceRegistry, key⟩ w
      feedback.paymentReceiptHash profile registry feedback :=
    { agentHeld
      serviceHeld
      feedbackHeld := held
      service := original
      ofHash := rfl
      pair := ⟨rfl, rfl⟩
      unrevoked
      counted := fun negative => books.counted held agentHeld ⟨negative, unrevoked⟩ }
  exact ⟨_, _, (RevokeFeedback.handler_ok wf _).mpr ⟨profile, registry, feedback, accepts, rfl, rfl⟩,
    accepts.withdraws⟩

theorem Reachable.books (reachable : Reachable w) :
    FeedbackBooks w ∧ ∀ key feedback, w.feedbacks key = some feedback → feedback.Filed w := by
  obtain ⟨w₀, log, genesis, run⟩ := reachable
  exact ⟨run.feedbackBooks genesis, fun _ _ held => run.filed genesis held⟩

/-- What the two counters of a profile count. -/
structure AgentProfile.CountsFeedback (profile : AgentProfile K) (key : K) (w : World K) : Prop where
  total : profile.totalFeedbackCount =
    count w.feedbacks fun feedback => feedback.agentProfile = key
  negative : profile.activeNegativeFeedbackCount =
    count w.feedbacks fun feedback =>
      feedback.agentProfile = key ∧ feedback.value < 0 ∧ feedback.revoked = false
  bounded : profile.activeNegativeFeedbackCount ≤ profile.totalFeedbackCount

omit [AddressSpace K] in
theorem FeedbackBooks.countsFeedback {key : K} {profile : AgentProfile K} (books : FeedbackBooks w)
    (held : w.agents key = some profile) : profile.CountsFeedback key w := by
  have total := books.total key
  have negative := books.negative key
  rw [weight_of_some held] at total negative
  refine ⟨?_, ?_, ?_⟩
  · rw [total]
    exact tally_indicator books.sparse _
  · -- Summed over the records of this profile, complaints that stand count one each.
    have both : onSide FeedbackRecord.agentProfile key FeedbackRecord.complaint =
        fun feedback : FeedbackRecord K =>
          if feedback.agentProfile = key ∧ feedback.value < 0 ∧ feedback.revoked = false
            then 1 else 0 := by
      funext feedback
      by_cases mine : feedback.agentProfile = key <;>
        simp [onSide, FeedbackRecord.complaint, mine]
    rw [negative, both]
    exact tally_indicator books.sparse _
  · rw [total, negative]
    apply tally_mono books.sparse
    intro feedback
    unfold onSide FeedbackRecord.complaint
    by_cases mine : feedback.agentProfile = key
    · rw [if_pos mine, if_pos mine]
      split
      · rfl
      · exact Nat.zero_le 1
    · rw [if_neg mine, if_neg mine]

/-- The feedback counters are exact, and a revocation never underflows. -/
theorem feedback_counters_exact (reachable : Reachable w) :
    Sparse w.feedbacks ∧
    (∀ key profile, w.agents key = some profile → profile.CountsFeedback key w) ∧
    (∀ (ctx : RevokeFeedback K) (hash : Hash), ctx.handler w hash ≠ .error overflow) ∧
    ∀ key feedback, w.feedbacks key = some feedback → feedback.revoked = false →
      ∃ registry, w.services feedback.serviceRegistry = some registry ∧
        ∀ signer : Signer K, signer.key = registry.authority →
          ∃ w' event, RevokeFeedback.handler
            ⟨signer, feedback.agentProfile, feedback.serviceRegistry, key⟩ w
            feedback.paymentReceiptHash = .ok (w', event) ∧ feedback.Withdrawn key w w' := by
  have wf := reachable.wellFormed
  obtain ⟨books, filed⟩ := reachable.books
  refine ⟨books.sparse, fun _ _ => books.countsFeedback, fun ctx hash => ctx.handler_ne_overflow books,
    ?_⟩
  intro key feedback held unrevoked
  obtain ⟨_, registry, _, serviceHeld, -⟩ := (filed key feedback held).parties
  refine ⟨registry, serviceHeld, ?_⟩
  intro signer original
  exact RevokeFeedback.handler_succeeds wf books (filed key feedback held) held unrevoked serviceHeld
    original

namespace Bazaar

/-- The complaint is withdrawn. -/
def retraction : List (Action SymbolicKey) :=
  complaint ++ [.program (.revokeFeedback (revocation service 0) (receiptHash 0))]

end Bazaar

/-- The service revokes its complaint, and the counter that counted it is at zero again. -/
theorem feedback_counters_bazaar :
    (∃ (feedback : FeedbackRecord SymbolicKey) (w' : World SymbolicKey) (event : ReputationEvent SymbolicKey),
      feedback.value < 0 ∧
      RevokeFeedback.handler (Bazaar.revocation Bazaar.service 0) (Bazaar.after Bazaar.complaint)
        (Bazaar.receiptHash 0) = .ok (w', event) ∧
      feedback.Withdrawn (findProgramAddress (.feedback (Bazaar.receiptHash 0)))
        (Bazaar.after Bazaar.complaint) w') ∧
    ∃ profile, (Bazaar.after Bazaar.retraction).agents Bazaar.account = some profile ∧
      profile.CountsFeedback Bazaar.account (Bazaar.after Bazaar.retraction) ∧
      profile.totalFeedbackCount = 1 ∧ profile.activeNegativeFeedbackCount = 0 := by
  have reachable : ∀ acts, Reachable (Bazaar.after acts) :=
    fun acts => ⟨Bazaar.empty, _, Bazaar.genesis, Bazaar.run_logged acts⟩
  obtain ⟨-, -, -, revocable⟩ := feedback_counters_exact (reachable Bazaar.complaint)
  obtain ⟨-, counts, -⟩ := feedback_counters_exact (reachable Bazaar.retraction)
  constructor
  · have filed : ((Bazaar.after Bazaar.complaint).feedbacks
        (findProgramAddress (.feedback (Bazaar.receiptHash 0)))).map (fun feedback =>
          (feedback.value, feedback.revoked, feedback.agentProfile, feedback.serviceRegistry,
            feedback.paymentReceiptHash)) =
        some (-40, false, Bazaar.account, Bazaar.address Bazaar.service, Bazaar.receiptHash 0) := by decide
    obtain ⟨feedback, held, fields⟩ := Option.map_eq_some_iff.mp filed
    simp only [Prod.mk.injEq] at fields
    obtain ⟨value, unrevoked, agent, service, hash⟩ := fields
    obtain ⟨registry, serviceHeld, succeeds⟩ := revocable _ feedback held unrevoked
    rw [service] at serviceHeld
    have authority : ((Bazaar.after Bazaar.complaint).services (Bazaar.address Bazaar.service)).map
        ServiceRegistry.authority = some Bazaar.service.key := by decide
    rw [serviceHeld] at authority
    obtain ⟨w', event, revoked, leaves⟩ := succeeds Bazaar.service (Option.some.inj authority).symm
    rw [agent, service, hash] at revoked
    exact ⟨feedback, w', event, by omega, revoked, leaves⟩
  · have counters : ((Bazaar.after Bazaar.retraction).agents Bazaar.account).map (fun profile =>
        (profile.totalFeedbackCount, profile.activeNegativeFeedbackCount)) = some (1, 0) := by decide
    obtain ⟨profile, held, both⟩ := Option.map_eq_some_iff.mp counters
    exact ⟨profile, held, counts _ _ held, congrArg Prod.fst both, congrArg Prod.snd both⟩

end AgentFuel.Reputation
