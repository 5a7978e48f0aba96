import AgentFuel.Library.Register
import AgentFuel.Vault.Steps

/-!
# What the events of a run record

Every field of a vault that an event carries is the last value an event gave it, and the four
totals have never been greater. The events of other vaults are out of the way.
-/
namespace AgentFuel.Vault

open Checked Solana Register

variable {K : Type} [DecidableEq K] {β : Type}

/-- What an event writes if it is about the vault at `v`. -/
def VaultEvent.about (v : K) (write : VaultEvent K → Option β) (ev : VaultEvent K) : Option β :=
  if ev.vault = v then write ev else none

theorem VaultEvent.about_same {v : K} {ev : VaultEvent K} (same : ev.vault = v)
    (write : VaultEvent K → Option β) : ev.about v write = write ev := if_pos same

theorem VaultEvent.about_other {v : K} {ev : VaultEvent K} (other : ev.vault ≠ v)
    (write : VaultEvent K → Option β) : ev.about v write = none := if_neg other

theorem VaultEvent.about_eq_some {v : K} {ev : VaultEvent K} {write : VaultEvent K → Option β}
    {b : β} : ev.about v write = some b ↔ ev.vault = v ∧ write ev = some b := by
  unfold about
  split <;> simp [*]

/-- The event that created a vault. -/
def CreditVault.creation (v : K) (vault : CreditVault K) : VaultEvent K :=
  .vaultCreated v vault.owner vault.agent vault.usdcMint vault.vaultTokenAccount vault.createdSlot

/-- The events agree with the vault at `v` and the terms of its policy. -/
structure Recorded (v : K) (vault : CreditVault K) (terms : Terms K)
    (events : List (VaultEvent K)) : Prop where
  created : vault.creation v ∈ events
  creation : ∀ ev ∈ events, ev.vault = v → ev.isCreation = true → ev = vault.creation v
  deposited : Counter (VaultEvent.about v VaultEvent.newTotalDeposited) vault.totalDeposited events
  withdrawn : Counter (VaultEvent.about v VaultEvent.newTotalWithdrawn) vault.totalWithdrawn events
  spent : Counter (VaultEvent.about v VaultEvent.newTotalSpent) vault.totalSpent events
  claimed : Counter (VaultEvent.about v VaultEvent.newTotalClaimed) vault.totalClaimed events
  frozen : vault.frozen = (last (VaultEvent.about v VaultEvent.newFrozen) events).getD false
  terms : ∀ t, last (VaultEvent.about v VaultEvent.newTerms) events = some t → terms = t

section Recorded

variable {v : K} {vault vault' : CreditVault K} {terms terms' : Terms K}
  {events : List (VaultEvent K)} {ev : VaultEvent K}

theorem last_other (other : ev.vault ≠ v) (write : VaultEvent K → Option β) :
    last (VaultEvent.about v write) (events ++ [ev]) = last (VaultEvent.about v write) events := by
  rw [last_snoc, VaultEvent.about_other other, Option.none_or]

theorem counter_other (other : ev.vault ≠ v) {write : VaultEvent K → Option Nat} {value : Nat}
    (counter : Counter (VaultEvent.about v write) value events) :
    Counter (VaultEvent.about v write) value (events ++ [ev]) := by
  refine counter.snoc ?_ (Nat.le_refl value)
  rw [VaultEvent.about_other other, Option.getD_none]

theorem Recorded.other (recorded : Recorded v vault terms events) (other : ev.vault ≠ v) :
    Recorded v vault terms (events ++ [ev]) where
  created := List.mem_append_left _ recorded.created
  creation e member same := by
    rcases List.mem_append.mp member with earlier | here
    · exact recorded.creation e earlier same
    · rw [List.mem_singleton.mp here] at same
      exact absurd same other
  deposited := counter_other other recorded.deposited
  withdrawn := counter_other other recorded.withdrawn
  spent := counter_other other recorded.spent
  claimed := counter_other other recorded.claimed
  frozen := by
    rw [last_other other]
    exact recorded.frozen
  terms := by
    rw [last_other other]
    exact recorded.terms

/-- An event about a vault writes the fields that its instruction changed. -/
theorem Recorded.report [AddressSpace K] {s s' : VaultView K}
    (recorded : Recorded v s.vault s.policy.terms events) (reports : Reports v s ev s')
    (same : s'.vault.creation v = s.vault.creation v) :
    Recorded v s'.vault s'.policy.terms (events ++ [ev]) := by
  obtain ⟨deposits, withdrawals, spends, claims⟩ := reports.grows
  have here := reports.vault
  refine ⟨?_, ?_, ?_, ?_, ?_, ?_, ?_, ?_⟩
  · rw [same]
    exact List.mem_append_left _ recorded.created
  · intro e member about creates
    rw [same]
    rcases List.mem_append.mp member with earlier | last
    · exact recorded.creation e earlier about creates
    · rw [List.mem_singleton.mp last, reports.existing] at creates
      cases creates
  · -- Each total is a counter that its own event writes.
    exact recorded.deposited.snoc (by rw [ev.about_same here, reports.deposited]) deposits
  · exact recorded.withdrawn.snoc (by rw [ev.about_same here, reports.withdrawn]) withdrawals
  · exact recorded.spent.snoc (by rw [ev.about_same here, reports.spent]) spends
  · exact recorded.claimed.snoc (by rw [ev.about_same here, reports.claimed]) claims
  · rw [last_snoc, ev.about_same here, reports.frozen]
    cases ev.newFrozen with
    | some frozen => rfl
    | none => exact recorded.frozen
  · rw [last_snoc, ev.about_same here, reports.terms]
    cases ev.newTerms with
    | some updated => exact fun t wrote => Option.some.inj wrote
    | none => exact recorded.terms

/-- The first event about a vault is the one that creates it. -/
theorem Recorded.create (fresh : ∀ e ∈ events, e.vault ≠ v)
    (zero : vault.totalDeposited = 0 ∧ vault.totalWithdrawn = 0 ∧ vault.totalSpent = 0 ∧
      vault.totalClaimed = 0) (running : vault.frozen = false) :
    Recorded v vault terms (events ++ [vault.creation v]) := by
  -- Nothing is written: earlier events are about other vaults, this one carries no post-value.
  have unwritten : ∀ {γ : Type} (write : VaultEvent K → Option γ), write (vault.creation v) = none →
      ∀ e ∈ events ++ [vault.creation v], e.about v write = none := by
    intro γ write silent e member
    rcases List.mem_append.mp member with earlier | here
    · exact e.about_other (fresh e earlier) write
    · have itself : (vault.creation v).vault = v := rfl
      rw [List.mem_singleton.mp here, VaultEvent.about_same itself]
      exact silent
  obtain ⟨deposited, withdrawn, spent, claimed⟩ := zero
  refine ⟨by simp, ?_, ?_, ?_, ?_, ?_, ?_, ?_⟩
  · intro e member about _
    rcases List.mem_append.mp member with earlier | here
    · exact absurd about (fresh e earlier)
    · exact List.mem_singleton.mp here
  · rw [deposited]
    exact .fresh (unwritten _ rfl)
  · rw [withdrawn]
    exact .fresh (unwritten _ rfl)
  · rw [spent]
    exact .fresh (unwritten _ rfl)
  · rw [claimed]
    exact .fresh (unwritten _ rfl)
  · rw [last_eq_none.mpr (unwritten _ rfl), running]
    rfl
  · rw [last_eq_none.mpr (unwritten _ rfl)]
    intro t wrote
    cases wrote

end Recorded

/-! ### All vaults of a world -/

variable [AddressSpace K] {w w' : World K} {events : List (VaultEvent K)} {ev : VaultEvent K}

theorem Handled.slot {ix : Instruction K} (handled : Handled w ix w' ev) :
    ev.slot = w.slot ∧ w'.slot = w.slot := by
  cases handled with
  | create creates =>
    rw [creates.world]
    exact ⟨rfl, rfl⟩
  | move moves reports => exact ⟨reports.slot.trans moves.shows.slot.symm, rfl⟩

structure EventBooks (w : World K) (events : List (VaultEvent K)) : Prop where
  recorded : ∀ v vault policy, w.vaults v = some vault →
    w.policies (policyAddress v) = some policy → Recorded v vault policy.terms events
  absent : ∀ v, w.vaults v = none → ∀ ev ∈ events, ev.vault ≠ v

theorem Genesis.eventBooks (genesis : Genesis w) : EventBooks w [] where
  recorded v vault policy present := by
    rw [genesis.vaults] at present
    cases present
  absent _ _ := by simp

theorem EventBooks.handled {ix : Instruction K} (books : EventBooks w events) (handled : Handled w ix w' ev) :
    EventBooks w' (events ++ [ev]) := by
  cases handled with
  | @create ctx perTx hourly lifetime allowPostPay tokens _ creates =>
    have fresh := books.absent ctx.vault creates.fresh.vaultVacant.1
    rw [creates.world]
    refine ⟨?_, ?_⟩
    · intro v vault policy present held
      -- The vault that is made, and the others, whose records are not about it.
      by_cases here : v = ctx.vault
      · subst here
        simp only [World.write, Function.update_self, Option.some.injEq] at present held
        subst present held
        exact .create fresh ⟨rfl, rfl, rfl, rfl⟩ rfl
      · simp only [World.write, Function.update_apply, policyAddress_inj, if_neg here] at present held
        exact (books.recorded v vault policy present held).other (Ne.symm here)
    · intro v absent e member
      simp only [World.write, Function.update_apply] at absent
      split at absent
      · cases absent
      next apart =>
        rcases List.mem_append.mp member with earlier | here
        · exact books.absent v absent e earlier
        · rw [List.mem_singleton.mp here]
          exact Ne.symm apart
  | @move _ s s' n tokens _ moves reports =>
    refine ⟨?_, ?_⟩
    · intro v vault policy present held
      by_cases here : v = ix.vault
      · subst here
        simp only [World.write, Function.update_self, Option.some.injEq] at present held
        subst present held
        -- A move changes no part of the vault that its creation has told.
        obtain ⟨owner, agent, mint, account, slot, -⟩ := moves.move.fixed
        have same : s'.vault.creation ix.vault = s.vault.creation ix.vault := by
          simp only [CreditVault.creation, owner, agent, mint, account, slot]
        exact (books.recorded _ _ _ moves.shows.vault moves.shows.policy).report reports same
      · simp only [World.write, Function.update_apply, policyAddress_inj, if_neg here] at present held
        have other : ev.vault ≠ v := reports.vault ▸ Ne.symm here
        exact (books.recorded v vault policy present held).other other
    · intro v absent e member
      simp only [World.write, Function.update_apply] at absent
      split at absent
      · cases absent
      next apart =>
        rcases List.mem_append.mp member with earlier | here
        · exact books.absent v absent e earlier
        · rw [List.mem_singleton.mp here, reports.vault]
          exact Ne.symm apart

end AgentFuel.Vault
