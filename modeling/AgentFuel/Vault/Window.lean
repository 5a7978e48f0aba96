import AgentFuel.Vault.Lifetime
import Mathlib.Algebra.Order.Group.Nat

/-!
# The hourly window

Under an hourly limit the two window fields of a policy replay the charges of the vault
through a counting window of `slotsPerHour` slots. Nothing but `spend` and `claim` touches
them. The window is not a rolling one: a reset forgets charges younger than an hour.
-/
namespace AgentFuel.Vault

open Checked Solana RateWindow

variable {K : Type} [DecidableEq K] [AddressSpace K] {w w₀ w₁ : World K} {v : K}
  {s s' : VaultView K} {log : List (Step K)}

/-- The charge of a `spend` or `claim` on the vault at `v`. -/
def charge (v : K) (e : Step K) : Option (Charge Nat) :=
  (e.act.metered v).map fun amountUsdc => ⟨e.pre.slot, amountUsdc⟩

/-- The charges of a run to the vault at `v`, oldest first. -/
def charges (v : K) (log : List (Step K)) : List (Charge Nat) := log.filterMap (charge v)

/-- The step finds the stored window over. -/
def resets (v : K) (e : Step K) : Bool :=
  (e.pre.policies (policyAddress v)).any fun policy =>
    decide (slotsPerHour ≤ e.pre.slot - policy.hourlyWindowStartSlot)

/-- The charges not earlier than the one that last reset the window. -/
def sinceReset (v : K) (log : List (Step K)) : List (Charge Nat) :=
  log.foldl (fun counted e =>
    match charge v e with
    | none => counted
    | some c => if resets v e then [c] else counted ++ [c]) []

/-- The policy of the vault at `v` has an hourly limit. -/
def HourlyLimited (v : K) (w : World K) : Prop :=
  ∀ policy ∈ w.policies (policyAddress v), 0 < policy.hourlyLimitUsdc

instance (v : K) (w : World K) : Decidable (HourlyLimited v w) :=
  inferInstanceAs (Decidable (∀ policy ∈ w.policies (policyAddress v), _))

theorem charges_snoc_none {e : Step K} (uncharged : charge v e = none) :
    charges v (log ++ [e]) = charges v log ∧ sinceReset v (log ++ [e]) = sinceReset v log := by
  simp [charges, sinceReset, uncharged]

theorem charges_snoc_some {e : Step K} {c : Charge Nat} (charged : charge v e = some c) :
    charges v (log ++ [e]) = charges v log ++ [c] ∧
      sinceReset v (log ++ [e]) = if resets v e then [c] else sinceReset v log ++ [c] := by
  simp [charges, sinceReset, charged]

/-! ### Steps -/

/-- Only a charge moves the window. -/
theorem VaultStep.window_kept {e : Step K} (move : VaultStep e.pre v s e.act s')
    (uncharged : charge v e = none) :
    s'.policy.hourlyWindowStartSlot = s.policy.hourlyWindowStartSlot ∧
      s'.policy.hourlyWindowSpentUsdc = s.policy.hourlyWindowSpentUsdc := by
  obtain ⟨pre, act, post⟩ := e
  cases move with
  | spent ctx x dst named => simp [charge, Action.metered, named] at uncharged
  | claimed ctx x dst named => simp [charge, Action.metered, named] at uncharged
  | _ => exact ⟨rfl, rfl⟩

/-- A charge under an hourly limit advances the window and leaves it within the limit. -/
theorem VaultStep.window_charged {e : Step K} {c : Charge Nat} (before : Shows e.pre v s)
    (move : VaultStep e.pre v s e.act s') (charged : charge v e = some c)
    (limited : 0 < s.policy.hourlyLimitUsdc) :
    c.slot = s.slot ∧ s'.slot = s.slot ∧
      s'.policy.window = s.policy.window.advance slotsPerHour c ∧
      s'.policy.hourlyWindowSpentUsdc ≤ s.policy.hourlyLimitUsdc ∧
      s'.policy.hourlyLimitUsdc = s.policy.hourlyLimitUsdc := by
  obtain ⟨pre, act, post⟩ := e
  have slot : pre.slot = s.slot := before.slot
  cases move with
  | other act x elsewhere =>
    obtain ⟨-, -, -, unmetered⟩ := amounts_elsewhere (e := ⟨pre, act, post⟩) elsewhere
    simp [charge, unmetered] at charged
  | spent ctx x dst named _ _ allows =>
    obtain rfl : ⟨pre.slot, x⟩ = c := by simpa [charge, Action.metered, named] using charged
    exact ⟨slot, rfl, slot ▸ charged_window _ _ _ limited, allows.charged_le limited, by simp⟩
  | claimed ctx x dst named _ _ _ allows =>
    obtain rfl : ⟨pre.slot, x⟩ = c := by simpa [charge, Action.metered, named] using charged
    exact ⟨slot, rfl, slot ▸ charged_window _ _ _ limited, allows.charged_le limited, by simp⟩
  | _ => simp [charge, Action.metered] at charged

theorem VaultStep.slot_le {act : Action K} (move : VaultStep w v s act s') : s.slot ≤ s'.slot := by
  cases move with
  | advanced slots => exact Nat.le_add_right _ _
  | _ => exact le_rfl

omit [DecidableEq K] [AddressSpace K] in
/-- The start of a window only moves forward. -/
theorem advance_start_le (W : RateWindow.Window Nat) (c : Charge Nat) :
    W.start ≤ (W.advance slotsPerHour c).start := by
  unfold Window.advance
  split
  next elapsed =>
    simp only [Window.Expired, slotsPerHour] at elapsed
    dsimp only
    omega
  · exact le_rfl

/-! ### Runs -/

/-- The stored window is the one its charges since `init` lead to. -/
structure Replays (v : K) (init : RateWindow.Window Nat) (log : List (Step K)) (s : VaultView K) :
    Prop where
  window : s.policy.window = RateWindow.window slotsPerHour init (charges v log)
  ordered : InOrder (charges v log)
  past : ∀ c ∈ charges v log, c.slot ≤ s.slot

theorem Replays.step {init : RateWindow.Window Nat} {e : Step K} (replays : Replays v init log s)
    (before : Shows e.pre v s) (move : VaultStep e.pre v s e.act s')
    (limited : 0 < s.policy.hourlyLimitUsdc) : Replays v init (log ++ [e]) s' := by
  obtain ⟨window, ordered, past⟩ := replays
  -- Without a charge both the fields and the list of charges stay; a charge moves both by one.
  cases charged : charge v e with
  | none =>
    obtain ⟨start, spent⟩ := move.window_kept charged
    constructor
    · rw [(charges_snoc_none charged).1, ← window, SpendPolicy.window, start, spent]
      rfl
    · rw [(charges_snoc_none charged).1]
      exact ordered
    · rw [(charges_snoc_none charged).1]
      exact fun c member => (past c member).trans move.slot_le
  | some c =>
    obtain ⟨slot, slot', advanced, -, -⟩ := move.window_charged before charged limited
    rw [← slot] at past
    constructor
    · rw [(charges_snoc_some charged).1, window_snoc, ← window, advanced]
    · rw [(charges_snoc_some charged).1, InOrder, each_snoc]
      exact ⟨ordered, past⟩
    · rw [(charges_snoc_some charged).1, List.forall_mem_append, List.forall_mem_singleton, slot',
        ← slot]
      exact ⟨past, le_rfl⟩

/-- A step resets the stored window when the replayed one has expired. -/
theorem Replays.resets_iff {init : RateWindow.Window Nat} {e : Step K} {c : Charge Nat}
    (replays : Replays v init log s) (before : Shows e.pre v s) (charged : charge v e = some c) :
    resets v e = true ↔
      (RateWindow.window slotsPerHour init (charges v log)).Expired slotsPerHour c.slot := by
  obtain ⟨x, -, rfl⟩ := Option.map_eq_some_iff.mp charged
  rw [← replays.window]
  simp [resets, before.policy, Window.Expired, SpendPolicy.window]

/-- The window of a vault against its charges since its creation. -/
structure Counted (v : K) (log : List (Step K)) (s : VaultView K) : Prop where
  limited : 0 < s.policy.hourlyLimitUsdc
  replays : Replays v ⟨0, 0⟩ log s
  live : sinceReset v log = live slotsPerHour ⟨0, 0⟩ (charges v log)

theorem Counted.step {e : Step K} (counted : Counted v log s) (before : Shows e.pre v s)
    (move : VaultStep e.pre v s e.act s') (after : Shows e.post v s')
    (limited : HourlyLimited v e.post) : Counted v (log ++ [e]) s' := by
  refine ⟨limited _ after.policy, counted.replays.step before move counted.limited, ?_⟩
  cases charged : charge v e with
  | none =>
    rw [(charges_snoc_none charged).1, (charges_snoc_none charged).2]
    exact counted.live
  | some c =>
    rw [(charges_snoc_some charged).1, (charges_snoc_some charged).2, counted.live]
    have expired := counted.replays.resets_iff before charged
    -- The model resets exactly when the stored window is over, so both keep the same charges.
    by_cases elapsed : resets v e = true
    · rw [if_pos elapsed, (window_reset (expired.mp elapsed)).2]
    · rw [if_neg elapsed, (window_keep fun late => elapsed (expired.mpr late)).2]

/-- What a charge leaves in the window fields: the charges since the last reset, all of them in
the hour from the start of the window. -/
theorem Counted.fields (counted : Counted v log s) :
    s.policy.hourlyWindowSpentUsdc = total (sinceReset v log) ∧
      ∀ c ∈ sinceReset v log, s.policy.hourlyWindowStartSlot ≤ c.slot ∧
        c.slot < s.policy.hourlyWindowStartSlot + slotsPerHour := by
  have window := counted.replays.window
  have spent := congrArg Window.total window
  have start := congrArg Window.start window
  rw [counted.live]
  constructor
  · exact spent.trans (window_total _ _ rfl _)
  · have inside := (live_within slotsPerHour (by decide) ⟨0, 0⟩ (charges v log)
      (fun _ _ => Nat.zero_le _) counted.replays.ordered).1
    rw [← start] at inside
    exact inside

/-- The hourly window under policy changes. From a creation with an hourly limit on, whatever
limits the owner sets, the stored total is the sum of the charges since the last reset, each
charge is held against the limit in force, the window never moves back, and no other
instruction touches it. -/
theorem hourly_window_history {ctx : CreateVault K} {perTx hourly lifetime : Nat}
    {allowPostPay : Bool} {before after : List (Step K)} {e : Step K} (reachable : Reachable w₀)
    (created : step w₀ (.program (.createVault ctx perTx hourly lifetime allowPostPay)) = .ok w₁)
    (run : Run w₁ (before ++ e :: after) w) (positive : 0 < hourly)
    (limited : ∀ e' ∈ before ++ e :: after, HourlyLimited ctx.vault e'.post) :
    ∃ policy policy', e.pre.policies (policyAddress ctx.vault) = some policy ∧
      e.post.policies (policyAddress ctx.vault) = some policy' ∧
      policy.hourlyWindowStartSlot ≤ policy'.hourlyWindowStartSlot ∧
      (e.act.metered ctx.vault = none →
        policy'.hourlyWindowStartSlot = policy.hourlyWindowStartSlot ∧
        policy'.hourlyWindowSpentUsdc = policy.hourlyWindowSpentUsdc) ∧
      (e.act.metered ctx.vault ≠ none →
        policy'.hourlyWindowSpentUsdc = total (sinceReset ctx.vault (before ++ [e])) ∧
        (∀ c ∈ sinceReset ctx.vault (before ++ [e]), policy'.hourlyWindowStartSlot ≤ c.slot ∧
          c.slot < policy'.hourlyWindowStartSlot + slotsPerHour) ∧
        policy'.hourlyWindowSpentUsdc ≤ policy.hourlyLimitUsdc) := by
  have wf₁ := (reachable.step created).wellFormed
  have start := created_shows reachable.wellFormed created
  -- From the creation on, what is stored is what the charges of the run amount to.
  have init : Counted ctx.vault [] (ctx.view w₀.slot perTx hourly lifetime allowPostPay) :=
    ⟨positive, ⟨rfl, each_nil _, by simp [charges]⟩, rfl⟩
  rw [List.forall_mem_append, List.forall_mem_cons] at limited
  obtain ⟨first, fired, -⟩ := run.around
  obtain ⟨s, shows, counted⟩ := Run.view_induction wf₁ start init
    (fun _ _ _ _ _ _ before move _ after limited counted =>
      counted.step before move after limited) first limited.1
  obtain ⟨s', shows', move⟩ := step_shows (Run.wellFormed first wf₁) fired shows
  have counted' := counted.step shows move shows' limited.2.1
  -- The step itself: the window moves on, stays, or is charged.
  refine ⟨s.policy, s'.policy, shows.policy, shows'.policy, ?_, ?_, ?_⟩
  · cases charged : charge ctx.vault e with
    | none => exact (move.window_kept charged).1.ge
    | some c =>
      have advanced := (move.window_charged shows charged counted.limited).2.2.1
      exact (advance_start_le s.policy.window c).trans_eq (congrArg Window.start advanced).symm
  · intro unmetered
    exact move.window_kept (by simp [charge, unmetered])
  · intro metered
    obtain ⟨x, metered⟩ := Option.ne_none_iff_exists'.mp metered
    have charged : charge ctx.vault e = some ⟨e.pre.slot, x⟩ := by simp [charge, metered]
    exact ⟨counted'.fields.1, counted'.fields.2,
      (move.window_charged shows charged counted.limited).2.2.2.1⟩

/-- A charge, then a higher limit, then a charge that finds the window over. -/
def Market.twoWindows : List (Action SymbolicKey) :=
  [deposit 90, spend 10, setLimits 0 50 0, .advance 9000, spend 25]

theorem hourly_window_history_market :
    ∃ policy policy',
      (Market.after ([Market.create 0 30 0 true] ++ Market.twoWindows)).policies
        (policyAddress Market.vault) = some policy ∧ policy.hourlyLimitUsdc = 50 ∧
      (Market.after ([Market.create 0 30 0 true] ++ Market.twoWindows ++ [Market.claim 20])).policies
        (policyAddress Market.vault) = some policy' ∧
      policy.hourlyWindowStartSlot ≤ policy'.hourlyWindowStartSlot ∧
      policy'.hourlyWindowSpentUsdc = 45 ∧ policy'.hourlyWindowSpentUsdc ≤ policy.hourlyLimitUsdc := by
  have created : step (Market.after []) (Market.create 0 30 0 true) =
      .ok (Market.after [Market.create 0 30 0 true]) := Market.step_after (by decide)
  have run := Market.run_after [Market.create 0 30 0 true] Market.twoWindows
  have claimed : step (Market.after ([Market.create 0 30 0 true] ++ Market.twoWindows))
      (Market.claim 20) = .ok _ := Market.step_after (by decide)
  obtain ⟨policy, policy', before, after, start, -, fields⟩ := hourly_window_history (Market.reachable [])
    created (run.snoc claimed) (by decide) (by decide)
  obtain ⟨counted, -, within⟩ := fields (by decide)
  change (Market.after ([Market.create 0 30 0 true] ++ Market.twoWindows)).policies
    (policyAddress Market.vault) = some policy at before
  have inForce : ((Market.after ([Market.create 0 30 0 true] ++ Market.twoWindows)).policies
      (policyAddress Market.vault)).map SpendPolicy.hourlyLimitUsdc = some 50 := by decide
  rw [before] at inForce
  -- The first charge is in the window that the second one ended.
  exact ⟨policy, policy', before, Option.some.inj inForce, after, start, counted.trans (by decide), within⟩

/-! ### The rolling hour -/

/-- The hourly limit in the policy of the vault at `v` is `limit`. -/
def HourlyLimit (v : K) (limit : Nat) (w : World K) : Prop :=
  ∀ policy ∈ w.policies (policyAddress v), policy.hourlyLimitUsdc = limit

instance (v : K) (limit : Nat) (w : World K) : Decidable (HourlyLimit v limit w) :=
  inferInstanceAs (Decidable (∀ policy ∈ w.policies (policyAddress v), _))

/-- A charge that resets the window comes an hour after every charge before it. -/
def SpacedReset (v : K) (before : List (Step K)) (e : Step K) : Prop :=
  e.act.metered v ≠ none → resets v e = true →
    ∀ c ∈ charges v before, c.slot + slotsPerHour ≤ e.pre.slot

instance (v : K) (before : List (Step K)) (e : Step K) : Decidable (SpacedReset v before e) :=
  inferInstanceAs (Decidable (_ → _ → ∀ c ∈ charges v before, _))

/-- The window of a vault under a constant limit, from any state on. -/
structure Bounded (v : K) (limit : Nat) (init : RateWindow.Window Nat) (log : List (Step K))
    (s : VaultView K) : Prop where
  inForce : s.policy.hourlyLimitUsdc = limit
  replays : Replays v init log s
  bounded : Limited slotsPerHour init limit (charges v log)
  spaced : Each (SpacedReset v) log → Spaced slotsPerHour init (charges v log)

theorem Bounded.step {limit : Nat} {init : RateWindow.Window Nat} {e : Step K}
    (bounded : Bounded v limit init log s) (positive : 0 < limit) (before : Shows e.pre v s)
    (move : VaultStep e.pre v s e.act s') (after : Shows e.post v s')
    (constant : HourlyLimit v limit e.post) : Bounded v limit init (log ++ [e]) s' := by
  obtain ⟨inForce, replays, within, spaced⟩ := bounded
  have limited : 0 < s.policy.hourlyLimitUsdc := inForce ▸ positive
  have replays' := replays.step before move limited
  refine ⟨constant _ after.policy, replays', ?_, ?_⟩
  · cases charged : charge v e with
    | none => rw [(charges_snoc_none charged).1]; exact within
    | some c =>
      have bound := (move.window_charged before charged limited).2.2.2.1
      have window := replays'.window
      rw [(charges_snoc_some charged).1] at window ⊢
      rw [Limited, each_snoc, ← window]
      exact ⟨within, inForce ▸ bound⟩
  · rw [each_snoc]
    rintro ⟨earlier, last⟩
    cases charged : charge v e with
    | none => rw [(charges_snoc_none charged).1]; exact spaced earlier
    | some c =>
      rw [(charges_snoc_some charged).1, Spaced, each_snoc]
      -- A reset is a charge found after the window, which `last` puts an hour after the others.
      refine ⟨spaced earlier, fun expired => ?_⟩
      have slot : c.slot = e.pre.slot := by
        obtain ⟨x, -, rfl⟩ := Option.map_eq_some_iff.mp charged
        rfl
      have metered : e.act.metered v ≠ none := by
        intro unmetered
        simp [charge, unmetered] at charged
      rw [slot]
      exact last metered ((replays.resets_iff before charged).mpr expired)

/-- In a run whose window resets are spaced, what the spends and claims of any hour move stays
within a constant hourly limit. -/
theorem hourly_limit_rolls {policy : SpendPolicy K} {limit : Nat} (reachable : Reachable w₀)
    (present : w₀.policies (policyAddress v) = some policy) (positive : 0 < limit)
    (inForce : policy.hourlyLimitUsdc = limit) (run : Run w₀ log w)
    (constant : ∀ e ∈ log, HourlyLimit v limit e.post) (spaced : Each (SpacedReset v) log)
    (x : Nat) : total (within x slotsPerHour (charges v log)) ≤ limit := by
  have wf := reachable.wellFormed
  obtain ⟨address, vaultPresent⟩ := wf.policies _ _ present
  obtain rfl : v = policy.vault := by simpa using address
  obtain ⟨vault, vaultPresent⟩ := Option.ne_none_iff_exists'.mp vaultPresent
  obtain ⟨s, shows, -⟩ := wf.shows_vault vaultPresent
  obtain rfl : s.policy = policy := Option.some.inj (shows.policy.symm.trans present)
  have init : Bounded s.policy.vault limit s.policy.window [] s :=
    ⟨inForce, ⟨rfl, each_nil _, by simp [charges]⟩, each_nil _, fun _ => each_nil _⟩
  obtain ⟨s', -, bounded⟩ := Run.view_induction wf shows init
    (fun _ _ _ _ _ _ before move _ after constant bounded =>
      bounded.step positive before move after constant) run constant
  exact spaced_bound slotsPerHour _ limit _ bounded.replays.ordered (bounded.spaced spaced)
    bounded.bounded x

theorem hourly_limit_rolls_market :
    total (within 0 slotsPerHour (charges Market.vault
      (Transition.trace step (Market.after [Market.create 0 30 0 true, Market.deposit 90])
        [Market.spend 10, Market.claim 20, .advance 9000, Market.spend 30]))) ≤ 30 := by
  obtain ⟨policy, present⟩ : ∃ policy, (Market.after [Market.create 0 30 0 true,
      Market.deposit 90]).policies (policyAddress Market.vault) = some policy := ⟨_, rfl⟩
  have inForce : ((Market.after [Market.create 0 30 0 true, Market.deposit 90]).policies
      (policyAddress Market.vault)).map SpendPolicy.hourlyLimitUsdc = some 30 := by decide
  rw [present] at inForce
  exact hourly_limit_rolls (Market.reachable _) present (by decide) (Option.some.inj inForce)
    (Market.run_after _ _) (by decide) (by decide) 0

/-- Two payments of the whole limit, just before and just after a reset. -/
theorem hourly_limit_does_not_roll :
    ¬∀ (w₀ w : World SymbolicKey) (v : SymbolicKey) (policy : SpendPolicy SymbolicKey) (limit : Nat)
      (log : List (Step SymbolicKey)), Reachable w₀ →
      w₀.policies (policyAddress v) = some policy → 0 < limit → policy.hourlyLimitUsdc = limit →
      Run w₀ log w → (∀ e ∈ log, HourlyLimit v limit e.post) →
      ∀ x, total (within x slotsPerHour (charges v log)) ≤ limit := by
  intro claim
  obtain ⟨policy, present⟩ : ∃ policy, (Market.after [Market.create 0 30 0 true,
      Market.deposit 90]).policies (policyAddress Market.vault) = some policy := ⟨_, rfl⟩
  have inForce : ((Market.after [Market.create 0 30 0 true, Market.deposit 90]).policies
      (policyAddress Market.vault)).map SpendPolicy.hourlyLimitUsdc = some 30 := by decide
  rw [present] at inForce
  have bound := claim _ _ Market.vault policy 30 _ (Market.reachable _) present (by decide)
    (Option.some.inj inForce) (Market.run_after _ [.advance 8999, Market.spend 30, .advance 1,
      Market.spend 30]) (by decide) 8999
  revert bound
  decide

end AgentFuel.Vault
