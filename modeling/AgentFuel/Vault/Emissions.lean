import AgentFuel.Vault.Recorded

/-!
# The event of each instruction

Every instruction that succeeds emits one event, and no two instructions but `spend` and
`approve_spend` share a kind of event.
-/
namespace AgentFuel.Vault

open Checked Solana

variable {K : Type} [DecidableEq K] [AddressSpace K] {w w' : World K} {ev : VaultEvent K}

/-- The event an instruction emits, as far as its arguments decide it. -/
def Instruction.Emits : Instruction K → VaultEvent K → Prop
  | .createVault ctx .., ev => ∃ slot, ev = .vaultCreated ctx.vault ctx.owner.key ctx.agent ctx.usdcMint
      ctx.vaultTokenAccount slot
  | .deposit ctx amountUsdc, ev => ∃ total slot, ev = .deposited ctx.vault ctx.owner.key amountUsdc total slot
  | .spend ctx amountUsdc, ev => ∃ service total slot,
      ev = .spent ctx.vault ctx.agent.key service amountUsdc total slot
  | .freezeVault ctx, ev => ∃ slot, ev = .vaultFrozen ctx.vault ctx.owner.key slot
  | .unfreezeVault ctx, ev => ∃ slot, ev = .vaultUnfrozen ctx.vault ctx.owner.key slot
  | .updatePolicy ctx perTx hourly lifetime allowPostPay whitelist, ev => ∃ slot,
      ev = .policyUpdated ctx.vault ctx.owner.key perTx hourly lifetime allowPostPay whitelist slot
  | .withdraw ctx amountUsdc, ev => ∃ total slot,
      ev = .withdrawn ctx.vault ctx.owner.key amountUsdc total slot
  | .claim ctx amountUsdc, ev => ∃ spent claimed slot,
      ev = .claimed ctx.vault ctx.service.key amountUsdc spent claimed slot
  | .requestSpend ctx amountUsdc, ev => ∃ service nonce slot,
      ev = .spendRequested ctx.vault ctx.agent.key service ctx.pendingSpend amountUsdc nonce slot
  | .approveSpend ctx, ev => ∃ agent service amountUsdc total slot,
      ev = .spent ctx.vault agent service amountUsdc total slot
  | .cancelSpend ctx, ev => ∃ nonce slot,
      ev = .spendRejected ctx.vault ctx.owner.key ctx.pendingSpend nonce slot

theorem handler_emits {ix : Instruction K} (handled : ix.handler w = .ok (w', ev)) : ix.Emits ev := by
  cases ix <;>
    simp only [Instruction.handler, CreateVault.handler, Deposit.handler, Spend.handler,
      FreezeVault.freezeHandler, FreezeVault.unfreezeHandler, UpdatePolicy.handler, Withdraw.handler,
      Claim.handler, RequestSpend.handler, ApproveSpend.handler, CancelSpend.handler, bind_eq_ok,
      pure_eq_ok, Prod.mk.injEq, Prod.exists] at handled
  case createVault =>
    obtain ⟨_, -, -, rfl⟩ := handled
    exact ⟨_, rfl⟩
  case deposit =>
    obtain ⟨_, -, _, -, _, -, _, -, -, rfl⟩ := handled
    exact ⟨_, _, rfl⟩
  case spend =>
    obtain ⟨_, _, _, -, _, _, -, _, -, -, rfl⟩ := handled
    exact ⟨_, _, _, rfl⟩
  case freezeVault =>
    obtain ⟨_, -, _, -, -, rfl⟩ := handled
    exact ⟨_, rfl⟩
  case unfreezeVault =>
    obtain ⟨_, -, _, -, -, rfl⟩ := handled
    exact ⟨_, rfl⟩
  case updatePolicy =>
    obtain ⟨_, -, -, rfl⟩ := handled
    exact ⟨_, rfl⟩
  case withdraw =>
    obtain ⟨_, -, _, -, _, -, _, -, -, rfl⟩ := handled
    exact ⟨_, _, rfl⟩
  case claim =>
    obtain ⟨_, _, -, _, -, _, _, -, _, -, _, -, -, rfl⟩ := handled
    exact ⟨_, _, _, rfl⟩
  case requestSpend =>
    obtain ⟨_, _, -, _, -, _, -, _, -, -, rfl⟩ := handled
    exact ⟨_, _, _, rfl⟩
  case approveSpend =>
    obtain ⟨_, _, _, -, _, -, _, -, _, -, _, -, _, -, -, rfl⟩ := handled
    exact ⟨_, _, _, _, _, rfl⟩
  case cancelSpend =>
    obtain ⟨_, -, -, rfl⟩ := handled
    exact ⟨_, _, rfl⟩

omit [DecidableEq K] in
/-- Only `update_policy` announces new terms. -/
theorem emits_terms {i : Instruction K} {t : Terms K} (emits : i.Emits ev)
    (wrote : ev.newTerms = some t) : ∃ ctx, i = .updatePolicy ctx t.perTxLimitUsdc t.hourlyLimitUsdc
      t.lifetimeLimitUsdc t.allowPostPay t.whitelist := by
  cases i with
  | updatePolicy ctx perTx hourly lifetime allowPostPay whitelist =>
    obtain ⟨_, rfl⟩ := emits
    obtain rfl := Option.some.inj wrote
    exact ⟨ctx, rfl⟩
  | requestSpend ctx amountUsdc =>
    obtain ⟨_, _, _, rfl⟩ := emits
    cases wrote
  | cancelSpend ctx =>
    obtain ⟨_, _, rfl⟩ := emits
    cases wrote
  | createVault ctx perTx hourly lifetime allowPostPay =>
    obtain ⟨_, rfl⟩ := emits
    cases wrote
  | deposit ctx amountUsdc =>
    obtain ⟨_, _, rfl⟩ := emits
    cases wrote
  | spend ctx amountUsdc =>
    obtain ⟨_, _, _, rfl⟩ := emits
    cases wrote
  | freezeVault ctx =>
    obtain ⟨_, rfl⟩ := emits
    cases wrote
  | unfreezeVault ctx =>
    obtain ⟨_, rfl⟩ := emits
    cases wrote
  | withdraw ctx amountUsdc =>
    obtain ⟨_, _, rfl⟩ := emits
    cases wrote
  | claim ctx amountUsdc =>
    obtain ⟨_, _, _, rfl⟩ := emits
    cases wrote
  | approveSpend ctx =>
    obtain ⟨_, _, _, _, _, rfl⟩ := emits
    cases wrote

end AgentFuel.Vault
