import AgentFuel.Vault.Runs

/-!
# Who can take money out of a vault

The seeds, `has_one` and raw constraints of the account lists leave three ways to lower the
balance of a vault: its owner's signature, its agent's under the policy, and a service's
claim where the policy allows one.
-/
namespace AgentFuel.Vault

open Checked Solana

variable {K : Type} [DecidableEq K] [AddressSpace K] {w w' : World K} {v : K}
  {s s' : VaultView K} {log : List (Step K)}

/-! ### Grounds for a payment -/

/-- The owner withdraws, or approves a request into an account of the requested service. -/
def TakenByOwner (w : World K) (v : K) (vault : CreditVault K) (ix : Instruction K) (a : Nat) :
    Prop :=
  ix.signer = vault.owner ∧ ((∃ ctx, ix = .withdraw ctx a) ∨
    ∃ ctx p destination, ix = .approveSpend ctx ∧ vault.frozen = false ∧
      w.pendings ctx.pendingSpend = some p ∧ p.vault = v ∧ p.amountUsdc = a ∧
      w.tokens.accounts ctx.serviceTokenAccount = some destination ∧
      destination.owner = p.service)

/-- The agent spends what the policy allows. -/
def TakenByAgent (w : World K) (vault : CreditVault K) (policy : SpendPolicy K)
    (ix : Instruction K) (a : Nat) : Prop :=
  ix.signer = vault.agent ∧ ∃ ctx destination, ix = .spend ctx a ∧
    w.tokens.accounts ctx.serviceTokenAccount = some destination ∧
    Allows vault policy destination.owner a w.slot

/-- A service claims what the policy allows into an account of its own. -/
def TakenByService (w : World K) (vault : CreditVault K) (policy : SpendPolicy K)
    (ix : Instruction K) (a : Nat) : Prop :=
  policy.allowPostPay = true ∧ ∃ ctx destination, ix = .claim ctx a ∧
    w.tokens.accounts ctx.serviceTokenAccount = some destination ∧
    destination.owner = ix.signer ∧ Allows vault policy ix.signer a w.slot

/-- Exactly one of three. -/
def ExactlyOne (p q r : Prop) : Prop :=
  (p ∧ ¬q ∧ ¬r) ∨ (¬p ∧ q ∧ ¬r) ∨ (¬p ∧ ¬q ∧ r)

omit [AddressSpace K] in
theorem VaultView.paid_add {destination : K} {x a : Nat} (funds : x ≤ s.balance) (positive : 0 < a)
    (lowered : s.paid destination x + a = s.balance) : x = a := by
  unfold VaultView.paid at lowered
  split at lowered <;> omega

/-- A step of a view that lowers its balance has exactly one of the three grounds. -/
theorem VaultStep.grounds {ix : Instruction K} {a : Nat} (shows : Shows w v s)
    (move : VaultStep w v s (.program ix) s') (lowered : s'.balance + a = s.balance)
    (positive : 0 < a) :
    ix.vault = v ∧ ExactlyOne (TakenByOwner w v s.vault ix a) (TakenByAgent w s.vault s.policy ix a)
      (TakenByService w s.vault s.policy ix a) := by
  -- The three grounds name three different instructions, so at most one can hold.
  cases move with
  | spent ctx x dst named agent present allows funds =>
    obtain rfl := VaultView.paid_add funds positive lowered
    refine ⟨named, .inr (.inl ⟨?_, ⟨agent, ctx, dst, rfl, present, shows.slot ▸ allows⟩, ?_⟩)⟩
    · rintro ⟨-, ⟨_, other⟩ | ⟨_, _, _, other, -⟩⟩ <;> cases other
    · rintro ⟨-, _, _, other, -⟩
      cases other
  | claimed ctx x dst named postPay present service allows funds _ =>
    obtain rfl := VaultView.paid_add funds positive lowered
    refine ⟨named, .inr (.inr ⟨?_, ?_, postPay, ctx, dst, rfl, present, service,
      shows.slot ▸ allows⟩)⟩
    · rintro ⟨-, ⟨_, other⟩ | ⟨_, _, _, other, -⟩⟩ <;> cases other
    · rintro ⟨-, _, _, other, -⟩
      cases other
  | withdrawn ctx x named owner _ funds _ =>
    obtain rfl := VaultView.paid_add funds positive lowered
    refine ⟨named, .inl ⟨⟨owner, .inl ⟨ctx, rfl⟩⟩, ?_, ?_⟩⟩ <;>
    · rintro ⟨-, _, _, other, -⟩
      cases other
  | approved ctx p dst named owner address held present service running _ _ funds _ =>
    obtain rfl := VaultView.paid_add funds positive lowered
    have stored : w.pendings ctx.pendingSpend = some p := by
      rw [address, shows.pending, held]
    refine ⟨named, .inl ⟨⟨owner, .inr ⟨ctx, p, dst, rfl, running, stored,
      (shows.pendingOf _ _ held).1, rfl, present, service⟩⟩, ?_, ?_⟩⟩ <;>
    · rintro ⟨-, _, _, other, -⟩
      cases other
  | _ => exact absurd lowered (by dsimp only; omega)

/-- Without post-pay only the signatures of owner and agent lower a balance or allow post-pay. -/
theorem VaultStep.unsigned {act : Action K} (move : VaultStep w v s act s')
    (prepaid : s.policy.allowPostPay = false) (owner : act.signer ≠ some s.vault.owner)
    (agent : act.signer ≠ some s.vault.agent) :
    s'.policy.allowPostPay = false ∧ s.balance ≤ s'.balance := by
  cases move with
  | advanced => exact ⟨prepaid, le_rfl⟩
  | other _ x => exact ⟨prepaid, Nat.le_add_right _ _⟩
  | claimed ctx x dst _ postPay => simp [prepaid] at postPay
  | spent ctx x dst _ signed => exact absurd (congrArg some signed) agent
  | requested ctx x dst _ signed => exact absurd (congrArg some signed) agent
  | deposited ctx x _ signed => exact absurd (congrArg some signed) owner
  | withdrawn ctx x _ signed => exact absurd (congrArg some signed) owner
  | approved ctx p dst _ signed => exact absurd (congrArg some signed) owner
  | cancelled ctx p _ signed => exact absurd (congrArg some signed) owner
  | froze ctx _ signed => exact absurd (congrArg some signed) owner
  | unfroze ctx _ signed => exact absurd (congrArg some signed) owner
  | policyUpdated ctx _ _ _ _ _ _ signed => exact absurd (congrArg some signed) owner

theorem Run.unsigned {w₀ : World K} (wf : WellFormed w₀) (shows : Shows w₀ v s)
    (prepaid : s.policy.allowPostPay = false) (run : Run w₀ log w)
    (strangers : ∀ e ∈ log, e.act.signer ≠ some s.vault.owner ∧
      e.act.signer ≠ some s.vault.agent) : w₀.balance v ≤ w.balance v := by
  obtain ⟨s', shows', -, -, -, kept⟩ := Run.view_induction (P := fun _ t =>
      t.vault.owner = s.vault.owner ∧ t.vault.agent = s.vault.agent ∧
        t.policy.allowPostPay = false ∧ s.balance ≤ t.balance)
    wf shows ⟨rfl, rfl, prepaid, le_rfl⟩
    (by
      rintro _ e t t' _ _ _ move _ _ ⟨owner, agent⟩ ⟨sameOwner, sameAgent, prepaid, kept⟩
      obtain ⟨prepaid', grown⟩ := move.unsigned prepaid (sameOwner ▸ owner) (sameAgent ▸ agent)
      exact ⟨move.fixed.1.trans sameOwner, move.fixed.2.1.trans sameAgent, prepaid',
        kept.trans grown⟩) run strangers
  rwa [shows.balance, shows'.balance]

/-- Whatever lowers the balance of a vault is a withdrawal or an approval of its owner, a
spend of its agent or a post-pay claim, and exactly one of them. On a vault without post-pay
a run that neither owner nor agent signs takes nothing out. -/
theorem only_authorised {vault : CreditVault K} (reachable : Reachable w)
    (present : w.vaults v = some vault) :
    (∀ ix a w', step w (.program ix) = .ok w' → 0 < a → w'.balance v + a = w.balance v →
      ∃ policy, w.policies (policyAddress v) = some policy ∧ ix.vault = v ∧
        ExactlyOne (TakenByOwner w v vault ix a) (TakenByAgent w vault policy ix a)
          (TakenByService w vault policy ix a)) ∧
    ∀ policy log w', w.policies (policyAddress v) = some policy → policy.allowPostPay = false →
      Run w log w' → (∀ e ∈ log, e.act.signer ≠ some vault.owner ∧
        e.act.signer ≠ some vault.agent) → w.balance v ≤ w'.balance v := by
  obtain ⟨s, shows, rfl⟩ := reachable.wellFormed.shows_vault present
  constructor
  · intro ix a w' fired positive lowered
    obtain ⟨s', after, move⟩ := step_shows reachable.wellFormed fired shows
    rw [shows.balance, after.balance] at lowered
    exact ⟨s.policy, shows.policy, move.grounds shows lowered positive⟩
  · intro policy log w' policyPresent prepaid run strangers
    obtain rfl : s.policy = policy := Option.some.inj (shows.policy.symm.trans policyPresent)
    exact run.unsigned reachable.wellFormed shows prepaid strangers

theorem only_authorised_market :
    ∃ vault policy, ExactlyOne
      (TakenByOwner (Market.after [Market.create 20 0 0 false, Market.deposit 50]) Market.vault vault
        (.spend Market.payment 10) 10)
      (TakenByAgent (Market.after [Market.create 20 0 0 false, Market.deposit 50]) vault policy
        (.spend Market.payment 10) 10)
      (TakenByService (Market.after [Market.create 20 0 0 false, Market.deposit 50]) vault policy
        (.spend Market.payment 10) 10) := by
  obtain ⟨vault, present⟩ : ∃ vault, (Market.after [Market.create 20 0 0 false,
      Market.deposit 50]).vaults Market.vault = some vault := ⟨_, rfl⟩
  obtain ⟨policy, -, -, one⟩ := (only_authorised (Market.reachable _) present).1
    (.spend Market.payment 10) 10 _ (Market.step_after (by decide)) (by decide) (by decide)
  exact ⟨vault, policy, one⟩

/-! ### The whitelist -/

/-- The recipient an instruction pays on a vault's behalf: the owner of the destination
account of `spend` and `approve_spend`, the signer of `claim`. -/
def Instruction.recipient (w : World K) : Instruction K → Option K
  | .spend ctx _ => (w.tokens.accounts ctx.serviceTokenAccount).map TokenAccount.owner
  | .claim ctx _ => some ctx.service.key
  | .approveSpend ctx => (w.tokens.accounts ctx.serviceTokenAccount).map TokenAccount.owner
  | _ => none

theorem VaultStep.whitelisted {ix : Instruction K} {recipient : K}
    (move : VaultStep w v s (.program ix) s') (named : ix.vault = v)
    (pays : ix.recipient w = some recipient) :
    Whitelisted s.policy.whitelist.toList recipient := by
  cases move with
  | other _ _ elsewhere => exact absurd (congrArg some named) elsewhere
  | spent ctx x dst _ _ present allows =>
    simp only [Instruction.recipient, present, Option.map_some, Option.some.injEq] at pays
    exact pays ▸ allows.whitelisted
  | claimed ctx x dst _ _ _ _ allows =>
    obtain rfl := Option.some.inj pays
    exact allows.whitelisted
  | approved ctx p dst _ _ _ _ present service _ _ whitelisted =>
    simp only [Instruction.recipient, present, Option.map_some, Option.some.injEq] at pays
    rw [← pays, service]
    exact whitelisted
  | _ => cases pays

/-- Under a non-empty whitelist a payment reaches one of its entries exactly when the
recipient is not the all-zero key that marks the empty slots. -/
theorem whitelist_confines {policy : SpendPolicy K} {ix : Instruction K} {recipient : K}
    (reachable : Reachable w) (present : w.policies (policyAddress v) = some policy)
    (nonempty : ∃ p ∈ policy.whitelist.toList, p ≠ defaultKey) (named : ix.vault = v)
    (pays : ix.recipient w = some recipient) (fired : step w (.program ix) = .ok w') :
    (recipient ∈ policy.whitelist.toList ∧ recipient ≠ defaultKey) ↔ recipient ≠ defaultKey := by
  have wf := reachable.wellFormed
  obtain ⟨address, vaultPresent⟩ := wf.policies _ _ present
  obtain rfl : v = policy.vault := by simpa using address
  obtain ⟨vault, vaultPresent⟩ := Option.ne_none_iff_exists'.mp vaultPresent
  obtain ⟨s, shows, -⟩ := wf.shows_vault vaultPresent
  obtain ⟨s', -, move⟩ := step_shows wf fired shows
  obtain rfl : s.policy = policy := Option.some.inj (shows.policy.symm.trans present)
  obtain ⟨p, entry, set⟩ := nonempty
  -- A list that lets everything through has no entry, and this one has.
  rcases move.whitelisted named pays with unset | member
  · exact absurd (unset p entry) set
  · exact ⟨And.right, fun set => ⟨member, set⟩⟩

theorem whitelist_confines_market :
    ∃ policy, (Market.after Market.listed).policies (policyAddress Market.vault) = some policy ∧
      ((Market.service.key ∈ policy.whitelist.toList ∧ Market.service.key ≠ defaultKey) ↔
        Market.service.key ≠ defaultKey) := by
  obtain ⟨policy, present⟩ : ∃ policy,
      (Market.after Market.listed).policies (policyAddress Market.vault) = some policy := ⟨_, rfl⟩
  have whitelist : ((Market.after Market.listed).policies (policyAddress Market.vault)).map
      (fun policy => policy.whitelist.toList) =
        some (Market.service.key :: List.replicate 7 defaultKey) := by decide
  rw [present] at whitelist
  have entries := Option.some.inj whitelist
  have fired : step (Market.after Market.listed) (.program (.spend Market.payment 10)) =
      .ok (Market.after (Market.listed ++ [Market.spend 10])) := Market.step_after (by decide)
  exact ⟨policy, present, whitelist_confines (Market.reachable _) present
    ⟨Market.service.key, by simp [entries], by decide⟩ rfl (by decide) fired⟩

/-- The all-zero key gets past a whitelist with an empty slot. -/
theorem whitelist_admits_default :
    ¬∀ (w w' : World SymbolicKey) (v : SymbolicKey) (policy : SpendPolicy SymbolicKey)
      (ix : Instruction SymbolicKey) (recipient : SymbolicKey), Reachable w →
      w.policies (policyAddress v) = some policy →
      (∃ p ∈ policy.whitelist.toList, p ≠ defaultKey) → ix.vault = v →
      ix.recipient w = some recipient → step w (.program ix) = .ok w' →
      recipient ∈ policy.whitelist.toList ∧ recipient ≠ defaultKey := by
  intro claim
  obtain ⟨policy, present⟩ : ∃ policy,
      (Market.after Market.listed).policies (policyAddress Market.vault) = some policy := ⟨_, rfl⟩
  have whitelist : ((Market.after Market.listed).policies (policyAddress Market.vault)).map
      (fun policy => policy.whitelist.toList) =
        some (Market.service.key :: List.replicate 7 defaultKey) := by decide
  rw [present] at whitelist
  have entries := Option.some.inj whitelist
  have confined := claim _ _ Market.vault policy
    (.spend { Market.payment with serviceTokenAccount := Market.unownedPurse } 10) defaultKey
    (Market.reachable _) present ⟨Market.service.key, by simp [entries], by decide⟩ rfl (by decide)
    (Market.step_after (by decide))
  exact confined.2 rfl

end AgentFuel.Vault
