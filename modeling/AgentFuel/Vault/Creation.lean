import AgentFuel.Vault.Pending

/-!
# Blocking the creation of a vault

`create_vault` opens three accounts at addresses anybody can compute. Two of them only this
program can occupy, and only for the signing owner; the third belongs to the associated-token
program, which opens it for any payer.
-/
namespace AgentFuel.Vault

open Checked Solana

variable {K : Type} [DecidableEq K] [AddressSpace K] {w w' : World K} {v : K}
  {log : List (Step K)}

/-! ### Occupied addresses -/

/-- The derived addresses an action opens accounts at. -/
def Action.Opens : Action K → Seeds K → Prop
  | .program (.createVault ctx _ _ _ _), seeds =>
    seeds = .vault ctx.owner.key ctx.agent ∨ seeds = .policy ctx.vault ∨
      seeds = .associatedToken ctx.vault ctx.usdcMint
  | .program (.requestSpend ctx _), seeds => ∃ nonce, seeds = .pending ctx.vault nonce
  | .token (.createAssociatedToken _ wallet mint), seeds => seeds = .associatedToken wallet mint
  | _, _ => False

/-- The wallet and mint whose associated account an action opens directly. -/
def Action.opensAssociated : Action K → Option (K × K)
  | .token (.createAssociatedToken _ wallet mint) => some (wallet, mint)
  | _ => none

theorem write_vacant {s : VaultView K} {n : Nat} {tokens : TokenLedger K} {key : K}
    (vacant : w.Vacant key) (vault : key ≠ v) (policy : key ≠ policyAddress v)
    (pending : s.pending n ≠ none → key ≠ pendingAddress v n) (ledger : tokens.Vacant key) :
    (w.write v s n tokens).Vacant key := by
  refine ⟨by simpa [World.write, vault] using vacant.1,
    by simpa [World.write, policy] using vacant.2.1, ?_, ledger⟩
  -- A request is written at `key` only if there is one.
  simp only [World.write, Function.update_apply]
  split
  next written =>
    by_contra held
    exact pending held written
  · exact vacant.2.2.1

/-- A derived address stays vacant until an action opens it. -/
theorem step_vacant {act : Action K} {seeds : Seeds K} (wf : WellFormed w)
    (fired : step w act = .ok w') (vacant : w.Vacant (findProgramAddress seeds))
    (unopened : ¬act.Opens seeds) : w'.Vacant (findProgramAddress seeds) := by
  cases step_cases wf fired with
  | advance slots => exact vacant
  | @token ix tokens processed =>
    refine ⟨vacant.1, vacant.2.1, vacant.2.2.1, ?_⟩
    refine TokenLedger.process_vacant processed (by simp) vacant.2.2.2 ?_
    rintro payer wallet mint rfl same
    rw [associatedTokenAddress, findProgramAddress_inj] at same
    exact unopened same
  | @create ctx _ _ _ _ tokens _ creates =>
    simp only [Action.Opens, not_or] at unopened
    obtain ⟨notVault, notPolicy, notAccount⟩ := unopened
    rw [creates.world]
    refine write_vacant vacant ?_ ?_ (fun held => absurd rfl held) ?_
    · rw [creates.fresh.vault, Ne, findProgramAddress_inj]
      exact notVault
    · rw [policyAddress, Ne, findProgramAddress_inj]
      exact notPolicy
    · have apart : findProgramAddress seeds ≠ ctx.vaultTokenAccount := by
        rw [creates.fresh.account, associatedTokenAddress, Ne, findProgramAddress_inj]
        exact notAccount
      rw [creates.ledger]
      exact ⟨vacant.2.2.2.1, by simpa [TokenLedger.setAccount_accounts, apart] using
        vacant.2.2.2.2⟩
  | @move ix s s' n tokens moves =>
    refine write_vacant vacant ?_ ?_ ?_ ?_
    · intro same
      simpa [← same, vacant.1] using moves.shows.vault
    · intro same
      simpa [← same, vacant.2.1] using moves.shows.policy
    -- A request held after the step was held before it, or the step stored it and opened `seeds`.
    · intro held same
      obtain ⟨p, held⟩ := Option.ne_none_iff_exists'.mp held
      rcases moves.move.pending_origin (e := ⟨w, .program ix, w⟩) held with old | stored
      · have free := moves.shows.pending n
        rw [← same, vacant.2.2.1, old] at free
        cases free
      · obtain ⟨ctx, _, sent, named, address, -⟩ := stored.act
        obtain ⟨-, nonce, -⟩ := moves.after.pendingOf n p held
        cases sent
        rw [pendingAddress, findProgramAddress_inj] at same
        exact unopened ⟨n, same⟩
    · exact ⟨by rw [moves.ledger.mints]; exact vacant.2.2.2.1, moves.absent _ vacant.2.2.2.2⟩

theorem step_mints {act : Action K} {key : K} (wf : WellFormed w) (fired : step w act = .ok w')
    (present : w.tokens.mints key ≠ none) : w'.tokens.mints key ≠ none := by
  cases step_cases wf fired with
  | advance slots => exact present
  | @token ix tokens processed =>
    obtain ⟨m, present⟩ := Option.ne_none_iff_exists'.mp present
    simp [TokenLedger.process_mints processed present]
  | @create ctx _ _ _ _ tokens _ creates =>
    rw [creates.world]
    simpa [World.write, creates.ledger] using present
  | move moves => simpa [World.write, moves.ledger.mints] using present

/-- An account of a vault yet to be created is nobody's to change. -/
theorem step_squatted {act : Action K} {key : K} {a : TokenAccount K} (wf : WellFormed w)
    (fired : step w act = .ok w') (absent : w'.vaults v = none)
    (present : w.tokens.accounts key = some a) (locked : a.Locked) (owner : a.owner = v) :
    ∃ b, w'.tokens.accounts key = some b ∧ b.Locked ∧ b.owner = v := by
  cases step_cases wf fired with
  | advance slots => exact ⟨a, present, locked, owner⟩
  | token processed =>
    obtain ⟨x, held, -⟩ := TokenLedger.process_locked processed present locked
    exact ⟨_, held, locked, owner⟩
  | @create ctx _ _ _ _ tokens _ creates =>
    have apart : a.owner ≠ ctx.vault := by
      rw [owner]
      rintro rfl
      simpa [absent] using creates.shows.vault
    obtain ⟨x, held, -⟩ := (creates.kept ctx.vault none).locked _ _ present locked apart
    rw [creates.world]
    exact ⟨_, held, locked, owner⟩
  | @move ix s s' n tokens moves =>
    have apart : a.owner ≠ ix.vault := by
      rw [owner]
      rintro rfl
      simpa [absent] using moves.after.vault
    obtain ⟨x, held, -⟩ := moves.ledger.locked _ _ present locked apart
    exact ⟨_, held, locked, owner⟩

/-! ### Runs -/

theorem create_succeeds_iff {ctx : CreateVault K} {perTx hourly lifetime : Nat}
    {allowPostPay : Bool} :
    (∃ w', step w (.program (.createVault ctx perTx hourly lifetime allowPostPay)) = .ok w') ↔
      ctx.Fresh w := by
  simp only [step, Instruction.handler, map_eq_ok, Prod.exists, CreateVault.handler_ok]
  constructor
  · rintro ⟨_, _, _, ⟨fresh, -⟩, -⟩
    exact fresh
  · exact fun fresh => ⟨_, _, _, ⟨fresh, rfl, rfl⟩, rfl⟩

/-- What strangers leave of a creation that would have succeeded: all of it, or all of it but
the token account, which one of them has opened. -/
structure Awaits (ctx : CreateVault K) (log : List (Step K)) (w : World K) : Prop where
  wellFormed : WellFormed w
  mint : w.tokens.mints ctx.usdcMint ≠ none
  vault : w.Vacant ctx.vault
  policy : w.Vacant ctx.policy
  account : (∀ e ∈ log, e.act.opensAssociated ≠ some (ctx.vault, ctx.usdcMint)) ∧
      w.Vacant ctx.vaultTokenAccount ∨
    (∃ e ∈ log, e.act.opensAssociated = some (ctx.vault, ctx.usdcMint)) ∧
      ∃ a, w.tokens.accounts ctx.vaultTokenAccount = some a ∧ a.Locked ∧ a.owner = ctx.vault

/-- Of the addresses `create_vault` needs, a stranger can open only the token account's. -/
theorem stranger_opens {act : Action K} {ctx : CreateVault K} {seeds : Seeds K}
    (fired : step w act = .ok w') (stranger : act.signer ≠ some ctx.owner.key)
    (address : ctx.vault = findProgramAddress (.vault ctx.owner.key ctx.agent))
    (opens : act.Opens seeds) :
    seeds ≠ .vault ctx.owner.key ctx.agent ∧ seeds ≠ .policy ctx.vault ∧
      (seeds = .associatedToken ctx.vault ctx.usdcMint →
        act.opensAssociated = some (ctx.vault, ctx.usdcMint)) := by
  unfold Action.Opens at opens
  split at opens
  next other _ _ _ _ =>
    have fresh := create_succeeds_iff.mp ⟨w', fired⟩
    -- The vault address of another owner differs, and with it the addresses derived from it.
    have owners : other.owner.key ≠ ctx.owner.key := fun same => stranger (congrArg some same)
    have apart : other.vault ≠ ctx.vault := by
      rw [fresh.vault, address, Ne, findProgramAddress_inj]
      simp [owners]
    rcases opens with rfl | rfl | rfl <;> simp [owners, apart]
  · obtain ⟨nonce, rfl⟩ := opens
    simp
  next wallet mint =>
    subst opens
    simp only [ne_eq, reduceCtorEq, not_false_eq_true, Seeds.associatedToken.injEq, true_and]
    rintro ⟨rfl, rfl⟩
    rfl
  · cases opens

theorem opened_squatted {act : Action K} {mint : K} (fired : step w act = .ok w')
    (opens : act.opensAssociated = some (v, mint)) (keyless : ¬CanSign v) :
    ∃ a, w'.tokens.accounts (associatedTokenAddress v mint) = some a ∧ a.Locked ∧ a.owner = v := by
  unfold Action.opensAssociated at opens
  split at opens
  next payer wallet _ =>
    obtain ⟨rfl, rfl⟩ : wallet = v ∧ _ = mint := by simpa using opens
    simp only [step, map_eq_ok, mapError_eq_ok, TokenLedger.process] at fired
    obtain ⟨tokens, opened, rfl⟩ := fired
    obtain ⟨-, -, rfl⟩ := TokenLedger.openAccount_ok opened
    exact ⟨_, by rw [World.setTokens_tokens, TokenLedger.setAccount_accounts, if_pos rfl],
      ⟨keyless, rfl⟩, rfl⟩
  · cases opens

theorem Awaits.step {ctx : CreateVault K} {e : Step K} (awaits : Awaits ctx log e.pre)
    (address : ctx.vault = findProgramAddress (.vault ctx.owner.key ctx.agent))
    (policy : ctx.policy = findProgramAddress (.policy ctx.vault))
    (account : ctx.vaultTokenAccount = findProgramAddress (.associatedToken ctx.vault ctx.usdcMint))
    (fired : step e.pre e.act = .ok e.post) (stranger : e.act.signer ≠ some ctx.owner.key) :
    Awaits ctx (log ++ [e]) e.post := by
  have wf := awaits.wellFormed
  have vaultKept : e.post.Vacant ctx.vault := by
    rw [address]
    exact step_vacant wf fired (address ▸ awaits.vault) fun opens =>
      (stranger_opens fired stranger address opens).1 rfl
  have policyKept : e.post.Vacant ctx.policy := by
    rw [policy]
    exact step_vacant wf fired (policy ▸ awaits.policy) fun opens =>
      (stranger_opens fired stranger address opens).2.1 rfl
  refine ⟨step_wellFormed wf fired, step_mints wf fired awaits.mint, vaultKept, policyKept, ?_⟩
  rw [List.forall_mem_append, List.forall_mem_singleton]
  -- Vacant, the account stays so or is opened now; once opened it stays, for nobody can sign
  -- for a vault that does not exist.
  rcases awaits.account with ⟨unopened, vacant⟩ | ⟨⟨first, member, opened⟩, a, held, locked, own⟩
  · by_cases opens : e.act.opensAssociated = some (ctx.vault, ctx.usdcMint)
    · refine .inr ⟨⟨e, by simp, opens⟩, ?_⟩
      rw [account]
      exact opened_squatted fired opens (address ▸ findProgramAddress_cannot_sign _)
    · refine .inl ⟨⟨unopened, opens⟩, ?_⟩
      rw [account]
      exact step_vacant wf fired (account ▸ vacant) fun opened =>
        opens ((stranger_opens fired stranger address opened).2.2 rfl)
  · exact .inr ⟨⟨first, List.mem_append_left _ member, opened⟩,
      step_squatted wf fired vaultKept.1 held locked own⟩

theorem Run.awaits {ctx : CreateVault K} (fresh : ctx.Fresh w) (wf : WellFormed w)
    (run : Run w log w') (strangers : ∀ e ∈ log, e.act.signer ≠ some ctx.owner.key) :
    Awaits ctx log w' := by
  induction run with
  | nil =>
    exact ⟨wf, fresh.mint, fresh.vaultVacant, fresh.policyVacant, .inl ⟨by simp,
      fresh.accountVacant⟩⟩
  | snoc _ fired ih =>
    rw [List.forall_mem_append, List.forall_mem_singleton] at strangers
    exact (ih strangers.1).step fresh.vault fresh.policy fresh.account fired strangers.2

/-- A creation that would succeed now succeeds after any run of strangers, exactly if none of
them opens the associated token account of the vault to be. -/
theorem creation_unblocked_iff {ctx : CreateVault K} {perTx hourly lifetime : Nat}
    {allowPostPay : Bool} (reachable : Reachable w)
    (succeeds : ∃ w₁, step w (.program (.createVault ctx perTx hourly lifetime allowPostPay)) =
      .ok w₁) (run : Run w log w') (strangers : ∀ e ∈ log, e.act.signer ≠ some ctx.owner.key) :
    (∃ w₂, step w' (.program (.createVault ctx perTx hourly lifetime allowPostPay)) = .ok w₂) ↔
      ∀ e ∈ log, e.act.opensAssociated ≠ some (ctx.vault, ctx.usdcMint) := by
  rw [create_succeeds_iff] at succeeds ⊢
  have awaits := Run.awaits succeeds reachable.wellFormed run strangers
  rcases awaits.account with ⟨unopened, vacant⟩ | ⟨⟨e, member, opened⟩, a, held, -⟩
  · exact ⟨fun _ => unopened, fun _ => ⟨succeeds.vault, succeeds.policy, succeeds.account,
      awaits.mint, awaits.vault, awaits.policy, vacant⟩⟩
  · constructor
    · intro fresh
      simp [fresh.accountVacant.2.2.2.2] at held
    · exact fun unopened => absurd opened (unopened e member)

/-- A stranger who opens another account does no harm; one who opens that of the vault to be does. -/
theorem creation_unblocked_market :
    (∃ w₂, step (Market.after ([] ++ [Market.openPurse Market.agent.key]))
        (.program (.createVault Market.accounts 0 0 0 true)) = .ok w₂) ∧
      ¬∃ w₂, step (Market.after ([] ++ [Market.openPurse Market.vault]))
        (.program (.createVault Market.accounts 0 0 0 true)) = .ok w₂ := by
  have now : ∃ w₁, step (Market.after []) (.program (.createVault Market.accounts 0 0 0 true)) = .ok w₁ :=
    ⟨_, Market.step_after (by decide)⟩
  have harmless := creation_unblocked_iff (Market.reachable []) now
    (Market.run_after [] [Market.openPurse Market.agent.key]) (by decide)
  have squatted := creation_unblocked_iff (Market.reachable []) now
    (Market.run_after [] [Market.openPurse Market.vault]) (by decide)
  exact ⟨harmless.mpr (by decide), fun created => absurd (squatted.mp created) (by decide)⟩

/-- Whoever opens the associated token account of a vault to be blocks its creation. -/
theorem creation_blocked :
    ¬∀ (ctx : CreateVault SymbolicKey) (perTx hourly lifetime : Nat) (allowPostPay : Bool)
      (w w' : World SymbolicKey) (log : List (Step SymbolicKey)), Reachable w →
      (∃ w₁, step w (.program (.createVault ctx perTx hourly lifetime allowPostPay)) = .ok w₁) →
      Run w log w' → (∀ e ∈ log, e.act.signer ≠ some ctx.owner.key) →
      ∃ w₂, step w' (.program (.createVault ctx perTx hourly lifetime allowPostPay)) = .ok w₂ := by
  intro claim
  obtain ⟨w₂, fired⟩ := claim Market.accounts 0 0 0 true _ _ _ (Market.reachable [])
    ⟨_, Market.step_after (by decide)⟩ (Market.run_after [] [Market.openPurse Market.vault])
    (by decide)
  have fails : (step (Market.after ([] ++ [Market.openPurse Market.vault]))
      (.program (.createVault Market.accounts 0 0 0 true))).isOk = false := by decide
  rw [fired] at fails
  cases fails

end AgentFuel.Vault
