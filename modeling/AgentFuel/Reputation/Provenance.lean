import AgentFuel.Library.PartialMap
import AgentFuel.Reputation.Ledger

/-!
# Where feedback comes from

A feedback record rests on a receipt, the receipt on a payment of the same service to the same
agent. What a step can do to one record is said once; records are never lost, so what holds
at each step holds over a run.
-/
namespace AgentFuel.Reputation

open Checked Solana PartialMap

variable {K : Type} [DecidableEq K] [AddressSpace K] {w w' w₀ : World K} {log : List (Step K)}
  {act : Action K} {feedback later : FeedbackRecord K}

/-! ### What stays -/

def AgentProfile.parties (profile : AgentProfile K) : K × K := (profile.owner, profile.authority)

/-- What a feedback record says, and about whom. -/
def FeedbackRecord.core (feedback : FeedbackRecord K) : Int × Hash × K × K :=
  (feedback.value, feedback.paymentReceiptHash, feedback.agentProfile, feedback.serviceRegistry)

/-- Accounts are not lost and stay with the same keys. -/
structure Persists (w w' : World K) : Prop where
  agents : Keeps AgentProfile.parties w.agents w'.agents
  services : Keeps ServiceRegistry.authority w.services w'.services
  receipts : Keeps id w.receipts w'.receipts
  feedbacks : Keeps FeedbackRecord.core w.feedbacks w'.feedbacks

omit [DecidableEq K] [AddressSpace K] in
theorem Persists.refl (w : World K) : Persists w w := ⟨.refl _, .refl _, .refl _, .refl _⟩

omit [DecidableEq K] [AddressSpace K] in
theorem Persists.trans {u : World K} (first : Persists w u) (second : Persists u w') :
    Persists w w' where
  agents := first.agents.trans second.agents
  services := first.services.trans second.services
  receipts := first.receipts.trans second.receipts
  feedbacks := first.feedbacks.trans second.feedbacks

theorem step_persists (wf : WellFormed w) (fired : step w act = .ok w') : Persists w w' := by
  cases step_cases wf fired with
  | advance slots => exact ⟨.refl _, .refl _, .refl _, .refl _⟩
  | initializeAgent _ absent => exact ⟨.add absent, .refl _, .refl _, .refl _⟩
  | registerService _ absent => exact ⟨.refl _, .add absent, .refl _, .refl _⟩
  | setServiceActive accepts =>
    exact ⟨.refl _, .replace accepts.serviceHeld rfl, .refl _, .refl _⟩
  | recordPayment accepts =>
    exact ⟨.replace accepts.agentHeld rfl, .replace accepts.serviceHeld rfl, .add accepts.unused,
      .refl _⟩
  | giveFeedback accepts =>
    exact ⟨.replace accepts.agentHeld rfl, .replace accepts.serviceHeld rfl, .refl _,
      .add accepts.unrated⟩
  | appendResponse accepts =>
    exact ⟨.replace accepts.agentHeld rfl, .refl _, .refl _, .replace accepts.feedbackHeld rfl⟩
  | revokeFeedback accepts =>
    exact ⟨.replace accepts.agentHeld rfl, .replace accepts.serviceHeld rfl, .refl _,
      .replace accepts.feedbackHeld rfl⟩
  | computeScore held => exact ⟨.replace held rfl, .refl _, .refl _, .refl _⟩

theorem Run.persists (wf : WellFormed w) (run : Run w log w') : Persists w w' := by
  have kept : WellFormed w' ∧ Persists w w' := by
    apply Transition.Run.invariant (I := fun u => WellFormed u ∧ Persists w u) ?_ run
    · exact ⟨wf, .refl w⟩
    · rintro u act u' fired ⟨wf, before⟩
      exact ⟨step_wellFormed wf fired, before.trans (step_persists wf fired)⟩
  exact kept.2

/-! ### What a record rests on -/

structure FeedbackRecord.Filed (feedback : FeedbackRecord K) (w : World K) : Prop where
  receipted : ∃ receipt,
    w.receipts (findProgramAddress (.receipt feedback.paymentReceiptHash)) = some receipt ∧
    receipt.agentServiceLink =
      findProgramAddress (.link feedback.agentProfile feedback.serviceRegistry)
  parties : ∃ profile registry, w.agents feedback.agentProfile = some profile ∧
    w.services feedback.serviceRegistry = some registry ∧ registry.authority ≠ profile.owner ∧
    registry.authority ≠ profile.authority
  inRange : valueMin ≤ feedback.value ∧ feedback.value ≤ valueMax

omit [DecidableEq K] in
theorem FeedbackRecord.Filed.persists (filed : feedback.Filed w) (kept : Persists w w')
    (same : later.core = feedback.core) : later.Filed w' := by
  obtain ⟨value, hash, agent, service⟩ : later.value = feedback.value ∧
      later.paymentReceiptHash = feedback.paymentReceiptHash ∧
      later.agentProfile = feedback.agentProfile ∧
      later.serviceRegistry = feedback.serviceRegistry := by simpa [core] using same
  obtain ⟨receipt, receiptHeld, link⟩ := filed.receipted
  obtain ⟨profile, registry, agentHeld, serviceHeld, owner, authority⟩ := filed.parties
  obtain ⟨receipt', receiptHeld', rfl⟩ := kept.receipts _ _ receiptHeld
  obtain ⟨profile', agentHeld', parties⟩ := kept.agents _ _ agentHeld
  obtain ⟨registry', serviceHeld', signer⟩ := kept.services _ _ serviceHeld
  obtain ⟨owner', authority'⟩ : profile'.owner = profile.owner ∧
      profile'.authority = profile.authority := by simpa [AgentProfile.parties] using parties
  constructor
  · exact ⟨receipt', by rw [hash, receiptHeld'], by rw [agent, service]; exact link⟩
  · exact ⟨profile', registry', by rw [agent, agentHeld'], by rw [service, serviceHeld'],
      by rw [signer, owner']; exact owner, by rw [signer, authority']; exact authority⟩
  · rw [value]
    exact filed.inRange

/-- The record `give_feedback` files. -/
def GiveFeedback.record (ctx : GiveFeedback K) (slot : Nat) (paymentReceiptHash : Hash)
    (value : Int) (tags : Nat) (evidenceUri : Bytes 128) (evidenceHash : Hash) :
    FeedbackRecord K :=
  { agentProfile := ctx.agentProfile
    serviceRegistry := ctx.serviceRegistry
    paymentReceiptHash, value, tags, evidenceUri, evidenceHash
    createdSlot := slot
    lastModifiedSlot := slot
    bump := canonicalBump (K := K) (.feedback paymentReceiptHash) }

omit [DecidableEq K] in
theorem GiveFeedback.Accepts.filed {ctx : GiveFeedback K} {hash : Hash} {value : Int} {tags slot : Nat}
    {evidenceUri : Bytes 128} {evidenceHash : Hash} {profile : AgentProfile K}
    {registry : ServiceRegistry K} {link : AgentServiceLink K} {receipt : ReceiptUsed K}
    (accepts : ctx.Accepts w hash value profile registry link receipt) (wf : WellFormed w) :
    (ctx.record slot hash value tags evidenceUri evidenceHash).Filed w := by
  obtain ⟨receiptAddress, -⟩ := wf.receipts _ _ accepts.receiptHeld
  obtain ⟨linkAddress, -⟩ := wf.links _ _ accepts.linkHeld
  have ofHash : receipt.receiptHash = hash := accepts.ofHash
  obtain ⟨ofAgent, ofService⟩ := accepts.pair
  constructor
  · refine ⟨receipt, ?_, ?_⟩
    · rw [ReceiptUsed.seeds, ofHash] at receiptAddress
      rw [record, ← receiptAddress, accepts.receiptHeld]
    · rw [accepts.paid, linkAddress, AgentServiceLink.seeds, ofAgent, ofService, record]
  · refine ⟨profile, registry, accepts.agentHeld, accepts.serviceHeld, ?_, ?_⟩
    · rw [← accepts.service]
      exact accepts.owner
    · rw [← accepts.service]
      exact accepts.authority
  · exact accepts.inRange

/-! ### What a step does to one record -/

/-- The account at an address is left alone, or a record is filed there, answered or revoked. -/
inductive FeedbackCase (w : World K) (act : Action K) (key : K)
    (after : Option (FeedbackRecord K)) : Prop
  | kept (same : after = w.feedbacks key)
  | filed {ctx : GiveFeedback K} {hash : Hash} {value : Int} {tags : Nat}
    {evidenceUri : Bytes 128} {evidenceHash : Hash} {profile : AgentProfile K}
    {registry : ServiceRegistry K} {link : AgentServiceLink K} {receipt : ReceiptUsed K}
    (called : act = .program (.giveFeedback ctx hash value tags evidenceUri evidenceHash))
    (accepts : ctx.Accepts w hash value profile registry link receipt)
    (here : key = ctx.feedbackRecord)
    (written : after = some (ctx.record w.slot hash value tags evidenceUri evidenceHash))
  | answered {ctx : AppendResponse K} {hash : Hash} {responseUri : Bytes 128}
    {responseHash : Hash} {profile : AgentProfile K} {feedback : FeedbackRecord K}
    (called : act = .program (.appendResponse ctx hash responseUri responseHash))
    (accepts : ctx.Accepts w hash profile feedback)
    (here : key = ctx.feedbackRecord)
    (written : after = some { feedback with
      responseUri, responseHash, hasResponse := true, lastModifiedSlot := w.slot })
  | revoked {ctx : RevokeFeedback K} {hash : Hash} {profile : AgentProfile K}
    {registry : ServiceRegistry K} {feedback : FeedbackRecord K}
    (called : act = .program (.revokeFeedback ctx hash))
    (accepts : ctx.Accepts w hash profile registry feedback)
    (here : key = ctx.feedbackRecord)
    (written : after = some { feedback with revoked := true, lastModifiedSlot := w.slot })

theorem step_feedback (wf : WellFormed w) (fired : step w act = .ok w') (key : K) :
    FeedbackCase w act key (w'.feedbacks key) := by
  cases step_cases wf fired with
  | @giveFeedback ctx _ _ _ _ _ _ _ _ _ accepts =>
    by_cases here : key = ctx.feedbackRecord
    · exact .filed rfl accepts here (by rw [here]; exact Function.update_self ..)
    · exact .kept (Function.update_of_ne here ..)
  | @appendResponse ctx _ _ _ _ _ accepts =>
    by_cases here : key = ctx.feedbackRecord
    · exact .answered rfl accepts here (by rw [here]; exact Function.update_self ..)
    · exact .kept (Function.update_of_ne here ..)
  | @revokeFeedback ctx _ _ _ _ accepts =>
    by_cases here : key = ctx.feedbackRecord
    · exact .revoked rfl accepts here (by rw [here]; exact Function.update_self ..)
    · exact .kept (Function.update_of_ne here ..)
  | _ => exact .kept rfl

/-- A revocation of the record, signed by the service it names. -/
def Action.Revokes (act : Action K) (w : World K) (feedback : FeedbackRecord K) : Prop :=
  ∃ ctx registry, act = .program (.revokeFeedback ctx feedback.paymentReceiptHash) ∧
    w.services feedback.serviceRegistry = some registry ∧ ctx.service.key = registry.authority

/-- A response to the record, signed by the owner or the authority of its agent. -/
def Action.Answers (act : Action K) (w : World K) (feedback : FeedbackRecord K) : Prop :=
  ∃ ctx uri responseHash profile,
    act = .program (.appendResponse ctx feedback.paymentReceiptHash uri responseHash) ∧
    w.agents feedback.agentProfile = some profile ∧
    (ctx.responder.key = profile.owner ∨ ctx.responder.key = profile.authority)

/-- What may become of a record in one step. -/
structure Evolves (e : Step K) (feedback later : FeedbackRecord K) : Prop where
  core : later.core = feedback.core
  revocation : later.revoked = feedback.revoked ∨
    feedback.revoked = false ∧ later.revoked = true ∧ e.act.Revokes e.pre feedback
  response :
    later.hasResponse = feedback.hasResponse ∧ later.responseUri = feedback.responseUri ∧
      later.responseHash = feedback.responseHash ∨
    feedback.hasResponse = false ∧ later.hasResponse = true ∧ e.act.Answers e.pre feedback

theorem step_evolves {e : Step K} {key : K} (wf : WellFormed e.pre)
    (fired : step e.pre e.act = .ok e.post) (held : e.pre.feedbacks key = some feedback) :
    ∃ later, e.post.feedbacks key = some later ∧ Evolves e feedback later := by
  cases step_feedback wf fired key with
  | kept same =>
    refine ⟨feedback, same.trans held, rfl, .inl rfl, .inl ⟨rfl, rfl, rfl⟩⟩
  | filed _ accepts here =>
    -- A record is filed where there was none.
    rw [here, accepts.unrated] at held
    cases held
  | @answered ctx _ uri responseHash profile _ called accepts here written =>
    rw [here, accepts.feedbackHeld] at held
    obtain rfl := Option.some.inj held
    refine ⟨_, written, rfl, .inl rfl, .inr ⟨accepts.unanswered, rfl, ctx, uri, responseHash,
      profile, ?_, ?_, accepts.responder⟩⟩
    · rw [called, accepts.ofHash]
    · rw [accepts.agent, accepts.agentHeld]
  | @revoked ctx _ _ registry _ called accepts here written =>
    rw [here, accepts.feedbackHeld] at held
    obtain rfl := Option.some.inj held
    refine ⟨_, written, rfl, .inr ⟨accepts.unrevoked, rfl, ctx, registry, ?_, ?_,
      accepts.service⟩, .inl ⟨rfl, rfl, rfl⟩⟩
    · rw [called, accepts.ofHash]
    · rw [accepts.pair.2, accepts.serviceHeld]

/-! ### Flags that are set once -/

/-- The step sets a flag of the record at an address. -/
def Flips (flag : FeedbackRecord K → Bool) (key : K) (e : Step K) : Prop :=
  ∃ feedback later, e.pre.feedbacks key = some feedback ∧ e.post.feedbacks key = some later ∧
    flag feedback = false ∧ flag later = true

theorem Run.flips_once {flag : FeedbackRecord K → Bool} (genesis : Genesis w₀)
    (sticky : ∀ e feedback later, Evolves e feedback later → flag feedback = true →
      flag later = true)
    (run : Run w₀ log w) (key : K) :
    log.Pairwise fun e e' => ¬(Flips flag key e ∧ Flips flag key e') := by
  have invariant : (log.Pairwise fun e e' => ¬(Flips flag key e ∧ Flips flag key e')) ∧
      ∀ e ∈ log, Flips flag key e → ∃ feedback, w.feedbacks key = some feedback ∧
        flag feedback = true := by
    induction run with
    | nil => exact ⟨.nil, by simp⟩
    | @snoc log w act w' run fired ih =>
      have wf : WellFormed w := Run.wellFormed run genesis.wellFormed
      obtain ⟨once, set⟩ := ih
      refine ⟨?_, ?_⟩
      · rw [List.pairwise_append]
        refine ⟨once, List.pairwise_singleton .., ?_⟩
        rintro e earlier _ last ⟨first, second⟩
        obtain rfl := List.mem_singleton.mp last
        -- The flag is already set when the second step starts.
        obtain ⟨feedback, held, on⟩ := set e earlier first
        obtain ⟨_, _, also, -, off, -⟩ := second
        rw [held] at also
        obtain rfl := Option.some.inj also
        rw [on] at off
        cases off
      · intro e member flips
        rcases List.mem_append.mp member with earlier | last
        · obtain ⟨feedback, held, on⟩ := set e earlier flips
          obtain ⟨later, present, evolves⟩ := step_evolves (e := ⟨w, act, w'⟩) wf fired held
          exact ⟨later, present, sticky _ _ _ evolves on⟩
        · obtain rfl := List.mem_singleton.mp last
          obtain ⟨_, later, -, present, -, on⟩ := flips
          exact ⟨later, present, on⟩
  exact invariant.1

/-! ### Records, ratings and payments of a run -/

theorem Run.filed (genesis : Genesis w₀) (run : Run w₀ log w) {key : K}
    (held : w.feedbacks key = some feedback) : feedback.Filed w := by
  induction run generalizing key feedback with
  | nil =>
    rw [(genesis.vacant key).2.2.2.2] at held
    cases held
  | @snoc log w act w' run fired ih =>
    have wf : WellFormed w := Run.wellFormed run genesis.wellFormed
    have kept := step_persists wf fired
    cases step_feedback wf fired key with
    | kept same => exact (ih (same.symm.trans held)).persists kept rfl
    | filed _ accepts _ written =>
      obtain rfl := Option.some.inj (written.symm.trans held)
      exact (accepts.filed wf).persists kept rfl
    | answered _ accepts _ written =>
      obtain rfl := Option.some.inj (written.symm.trans held)
      exact (ih accepts.feedbackHeld).persists kept rfl
    | revoked _ accepts _ written =>
      obtain rfl := Option.some.inj (written.symm.trans held)
      exact (ih accepts.feedbackHeld).persists kept rfl

/-- A call of `give_feedback`: who was rated by whom, under which receipt. -/
structure Rating (K : Type) where
  agent : K
  service : K
  hash : Hash
  deriving DecidableEq

omit [DecidableEq K] in
def Action.rating : Action K → Option (Rating K)
  | .program (.giveFeedback ctx hash _ _ _ _) =>
    some ⟨ctx.agentProfile, ctx.serviceRegistry, hash⟩
  | _ => none

def ratings (log : List (Step K)) : List (Rating K) := log.filterMap fun e => e.act.rating

def ratingsOf (agent service : K) (log : List (Step K)) : List (Rating K) :=
  (ratings log).filter fun r => decide (r.agent = agent ∧ r.service = service)

def paymentsOf (agent service : K) (log : List (Step K)) : List (Payment K) :=
  (payments log).filter fun p => decide (p.agent = agent ∧ p.service = service)

/-- The record of a rating is there. -/
def Rating.Recorded (r : Rating K) (w : World K) : Prop :=
  ∃ feedback, w.feedbacks (findProgramAddress (.feedback r.hash)) = some feedback ∧
    feedback.paymentReceiptHash = r.hash ∧ feedback.agentProfile = r.agent ∧
    feedback.serviceRegistry = r.service

omit [DecidableEq K] in
theorem Rating.Recorded.persists {r : Rating K} (recorded : r.Recorded w) (kept : Persists w w') :
    r.Recorded w' := by
  obtain ⟨feedback, held, hash, agent, service⟩ := recorded
  obtain ⟨later, present, same⟩ := kept.feedbacks _ _ held
  obtain ⟨-, hash', agent', service'⟩ : later.value = feedback.value ∧
      later.paymentReceiptHash = feedback.paymentReceiptHash ∧
      later.agentProfile = feedback.agentProfile ∧
      later.serviceRegistry = feedback.serviceRegistry := by
    simpa [FeedbackRecord.core] using same
  exact ⟨later, present, hash'.trans hash, agent'.trans agent, service'.trans service⟩

theorem Run.ratings (genesis : Genesis w₀) (run : Run w₀ log w) :
    (∀ r ∈ ratings log, r.Recorded w) ∧ ((Reputation.ratings log).map Rating.hash).Nodup := by
  induction run with
  | nil => simp [Reputation.ratings]
  | @snoc log w act w' run fired ih =>
    have wf : WellFormed w := Run.wellFormed run genesis.wellFormed
    have kept := step_persists wf fired
    obtain ⟨recorded, distinct⟩ := ih
    cases rated : act.rating with
    | none =>
      have same : Reputation.ratings (log ++ [⟨w, act, w'⟩]) = Reputation.ratings log := by
        simp [Reputation.ratings, rated]
      rw [same]
      exact ⟨fun r member => (recorded r member).persists kept, distinct⟩
    | some r =>
      have more : Reputation.ratings (log ++ [⟨w, act, w'⟩]) = Reputation.ratings log ++ [r] := by
        simp [Reputation.ratings, rated]
      have filed : r.Recorded w' ∧ w.feedbacks (findProgramAddress (.feedback r.hash)) = none := by
        cases step_cases wf fired with
        | @giveFeedback ctx hash value tags uri evidenceHash _ _ _ _ accepts =>
          obtain rfl := Option.some.inj rated
          have here := accepts.feedback
          have absent := accepts.unrated
          rw [here] at absent
          refine ⟨⟨ctx.record w.slot hash value tags uri evidenceHash, ?_, rfl, rfl, rfl⟩, absent⟩
          rw [← here]
          exact Function.update_self ..
        | _ => cases rated
      rw [more]
      refine ⟨?_, ?_⟩
      · rw [List.forall_mem_append, List.forall_mem_singleton]
        exact ⟨fun q earlier => (recorded q earlier).persists kept, filed.1⟩
      · rw [List.map_append, List.map_singleton]
        apply List.Nodup.append distinct (List.nodup_singleton _)
        -- An earlier rating under this receipt would hold the address.
        intro hash earlier last
        obtain rfl := List.mem_singleton.mp last
        obtain ⟨q, member, same⟩ := List.mem_map.mp earlier
        obtain ⟨feedback, held, -⟩ := recorded q member
        rw [same, filed.2] at held
        cases held

omit [DecidableEq K] in
/-- The payment a filed record rests on. -/
theorem FeedbackRecord.Filed.payment (filed : feedback.Filed w) (receipts : Receipts log w)
    (wf : WellFormed w) :
    ∃ p ∈ payments log, p.hash = feedback.paymentReceiptHash ∧ p.agent = feedback.agentProfile ∧
      p.service = feedback.serviceRegistry := by
  obtain ⟨receipt, held, link⟩ := filed.receipted
  obtain ⟨p, member, ofHash⟩ := receipts.paid _ receipt held
  have hash : feedback.paymentReceiptHash = receipt.receiptHash := by
    simpa using (wf.receipts _ _ held).1
  obtain ⟨other, present, -, paid⟩ := receipts.receipted p member
  rw [ofHash, ← hash, held] at present
  obtain rfl := Option.some.inj present
  obtain ⟨agent, service⟩ : feedback.agentProfile = p.agent ∧ feedback.serviceRegistry = p.service := by
    simpa using link.symm.trans paid
  exact ⟨p, member, ofHash.trans hash.symm, agent.symm, service.symm⟩

theorem Run.ratings_le_payments (genesis : Genesis w₀) (run : Run w₀ log w) (agent service : K) :
    (ratingsOf agent service log).length ≤ (paymentsOf agent service log).length := by
  obtain ⟨recorded, distinct⟩ := run.ratings genesis
  have wf : WellFormed w := Run.wellFormed run genesis.wellFormed
  have apart : ((ratingsOf agent service log).map Rating.hash).Nodup :=
    distinct.sublist (List.Sublist.map _ (List.filter_sublist ..))
  have paid : (ratingsOf agent service log).map Rating.hash ⊆
      (paymentsOf agent service log).map Payment.hash := by
    intro hash member
    obtain ⟨r, rated, rfl⟩ := List.mem_map.mp member
    obtain ⟨inLog, pair⟩ := List.mem_filter.mp rated
    obtain ⟨ofAgent, ofService⟩ : r.agent = agent ∧ r.service = service := by simpa using pair
    obtain ⟨feedback, held, ofHash, sameAgent, sameService⟩ := recorded r inLog
    obtain ⟨p, paid, hash, payee, payer⟩ :=
      (run.filed genesis held).payment (run.receipts genesis) wf
    refine List.mem_map.mpr ⟨p, List.mem_filter.mpr ⟨paid, ?_⟩, hash.trans ofHash⟩
    simp [payee, payer, sameAgent, sameService, ofAgent, ofService]
  have bounded := (apart.subperm paid).length_le
  rwa [List.length_map, List.length_map] at bounded

/-! ### Provenance -/

/-- A step of the run that recorded the payment a record rests on. -/
structure PaidBy (e : Step K) (feedback : FeedbackRecord K) (w : World K) : Prop where
  called : ∃ ctx amount receipt registry,
    e.act = .program (.recordPayment ctx amount feedback.paymentReceiptHash) ∧
    ctx.agentProfile = feedback.agentProfile ∧ ctx.serviceRegistry = feedback.serviceRegistry ∧
    w.services feedback.serviceRegistry = some registry ∧ ctx.service.key = registry.authority ∧
    e.pre.receipts ctx.receiptUsed = none ∧ e.post.receipts ctx.receiptUsed = some receipt ∧
    w.receipts ctx.receiptUsed = some receipt ∧ receipt.receiptHash = feedback.paymentReceiptHash

theorem Run.paidBy (genesis : Genesis w₀) (run : Run w₀ log w) {key : K}
    (held : w.feedbacks key = some feedback) : ∃ e ∈ log, PaidBy e feedback w := by
  have wf : WellFormed w := Run.wellFormed run genesis.wellFormed
  obtain ⟨p, member, hash, agent, service⟩ :=
    (run.filed genesis held).payment (run.receipts genesis) wf
  obtain ⟨e, inLog, paid⟩ := List.mem_filterMap.mp member
  obtain ⟨before, after, rfl⟩ := List.append_of_mem inLog
  obtain ⟨first, fired, rest⟩ := run.around
  have wfPre : WellFormed e.pre := Run.wellFormed first genesis.wellFormed
  have kept : Persists e.post w := Run.persists (step_wellFormed wfPre fired) rest
  obtain ⟨ctx, profile, registry, called, accepts, post, ofAgent, ofService⟩ :=
    recorded_of_payment wfPre fired paid
  have opened : ∃ receipt, e.post.receipts ctx.receiptUsed = some receipt ∧
      receipt.receiptHash = p.hash := by
    rw [post]
    exact ⟨_, Function.update_self .., rfl⟩
  obtain ⟨receipt, present, ofHash⟩ := opened
  have stays : w.receipts ctx.receiptUsed = some receipt := by
    obtain ⟨_, later, rfl⟩ := kept.receipts _ _ present
    exact later
  obtain ⟨registry', registered, signer⟩ :=
    ((step_persists wfPre fired).trans kept).services _ _ accepts.serviceHeld
  refine ⟨e, inLog, ctx, p.amountUsdc, receipt, registry', ?_, ?_, ?_, ?_, ?_, accepts.unused,
    present, stays, ofHash.trans hash⟩
  · rw [called, hash]
  · rw [← ofAgent, agent]
  · rw [← ofService, service]
  · rw [← service, ofService, registered]
  · rw [signer, accepts.service]

/-- The chain of evidence behind every feedback record of every run. -/
theorem feedback_provenance (genesis : Genesis w₀) (run : Run w₀ log w) :
    (∀ key feedback, w.feedbacks key = some feedback →
      feedback.Filed w ∧ (∃ e ∈ log, PaidBy e feedback w) ∧
      ∀ key' other, w.feedbacks key' = some other →
        other.paymentReceiptHash = feedback.paymentReceiptHash → key' = key) ∧
    (∀ agent service,
      (ratingsOf agent service log).length ≤ (paymentsOf agent service log).length) ∧
    (∀ e ∈ log, ∀ key feedback, e.pre.feedbacks key = some feedback →
      ∃ later, e.post.feedbacks key = some later ∧ Evolves e feedback later) ∧
    ∀ key,
      (log.Pairwise fun e e' =>
        ¬(Flips FeedbackRecord.revoked key e ∧ Flips FeedbackRecord.revoked key e')) ∧
      log.Pairwise fun e e' =>
        ¬(Flips FeedbackRecord.hasResponse key e ∧ Flips FeedbackRecord.hasResponse key e') := by
  have wf : WellFormed w := Run.wellFormed run genesis.wellFormed
  refine ⟨?_, run.ratings_le_payments genesis, ?_, fun key => ⟨?_, ?_⟩⟩
  · intro key feedback held
    refine ⟨run.filed genesis held, run.paidBy genesis held, ?_⟩
    -- The address of a record is derived from the receipt hash alone.
    intro key' other present same
    rw [(wf.feedbacks _ _ held).1, (wf.feedbacks _ _ present).1, FeedbackRecord.seeds,
      FeedbackRecord.seeds, same]
  · intro e member key feedback held
    obtain ⟨before, after, rfl⟩ := List.append_of_mem member
    obtain ⟨first, fired, -⟩ := run.around
    exact step_evolves (Run.wellFormed first genesis.wellFormed) fired held
  · -- A flag that is set is never taken back, so it cannot be set twice.
    apply run.flips_once genesis
    intro e feedback later evolves on
    rcases evolves.revocation with same | ⟨off, -⟩
    · rw [same, on]
    · rw [on] at off
      cases off
  · apply run.flips_once genesis
    intro e feedback later evolves on
    rcases evolves.response with ⟨same, -⟩ | ⟨off, -⟩
    · rw [same, on]
    · rw [on] at off
      cases off

namespace Bazaar

def address (service : Signer SymbolicKey) : SymbolicKey := findProgramAddress (.service service.key)

def rate (service : Signer SymbolicKey) (value : Int) (n : UInt8) : Action SymbolicKey :=
  .program (.giveFeedback
    { service
      agentProfile := account
      serviceRegistry := address service
      agentServiceLink := findProgramAddress (.link account (address service))
      receiptUsed := findProgramAddress (.receipt (receiptHash n))
      feedbackRecord := findProgramAddress (.feedback (receiptHash n)) }
    (receiptHash n) value 0 (Vector.replicate 128 0) (receiptHash 0))

def revocation (service : Signer SymbolicKey) (n : UInt8) : RevokeFeedback SymbolicKey :=
  { service
    agentProfile := account
    serviceRegistry := address service
    feedbackRecord := findProgramAddress (.feedback (receiptHash n)) }

/-- A payment and a complaint about it. -/
def complaint : List (Action SymbolicKey) := [pay service 5 0, rate service (-40) 0]

end Bazaar

theorem feedback_provenance_bazaar :
    ∃ feedback, (Bazaar.after Bazaar.complaint).feedbacks
        (findProgramAddress (.feedback (Bazaar.receiptHash 0))) = some feedback ∧
      feedback.Filed (Bazaar.after Bazaar.complaint) ∧
      ∃ e ∈ Bazaar.logged Bazaar.complaint, PaidBy e feedback (Bazaar.after Bazaar.complaint) := by
  have present : (Bazaar.after Bazaar.complaint).feedbacks
      (findProgramAddress (.feedback (Bazaar.receiptHash 0))) ≠ none := by decide
  obtain ⟨feedback, held⟩ := Option.ne_none_iff_exists'.mp present
  obtain ⟨records, -⟩ :=
    feedback_provenance Bazaar.genesis (Bazaar.run_logged Bazaar.complaint)
  obtain ⟨filed, paid, -⟩ := records _ feedback held
  exact ⟨feedback, held, filed, paid⟩

end AgentFuel.Reputation
