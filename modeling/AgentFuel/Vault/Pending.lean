import AgentFuel.Vault.Runs

/-!
# The life of a pending spend

Requests are numbered by a counter of the vault that never goes back, and number `n` lives at
an address only that number derives. Once settled a request stays closed, because its number
is below the counter. A request for the vault's own token account is approved and counted, and
nothing moves.
-/
namespace AgentFuel.Vault

open Checked Solana

variable {K : Type} [DecidableEq K] [AddressSpace K] {w w' w₀ w₁ : World K} {v : K}
  {s s' : VaultView K} {log : List (Step K)}

/-- The request an `approve_spend` or `cancel_spend` closes. -/
def Action.settles : Action K → Option K
  | .program (.approveSpend ctx) => some ctx.pendingSpend
  | .program (.cancelSpend ctx) => some ctx.pendingSpend
  | _ => none

/-- A `request_spend` on the vault at `v`. -/
def Action.requests (v : K) : Action K → Bool
  | .program (.requestSpend ctx _) => decide (ctx.vault = v)
  | _ => false

def requestCount (v : K) (log : List (Step K)) : Nat := log.countP fun e => e.act.requests v

/-- The step that stored the request `p` of the vault at `v`. -/
structure Stored (v : K) (p : PendingSpend K) (e : Step K) : Prop where
  vault : p.vault = v
  act : ∃ ctx destination, e.act = .program (.requestSpend ctx p.amountUsdc) ∧ ctx.vault = v ∧
    ctx.pendingSpend = pendingAddress v p.nonce ∧
    e.pre.tokens.accounts ctx.serviceTokenAccount = some destination ∧
    p.service = destination.owner

/-! ### Steps -/

theorem VaultStep.pendingCount {act : Action K} (move : VaultStep w v s act s') :
    s'.vault.pendingCount = s.vault.pendingCount + if act.requests v then 1 else 0 := by
  cases move with
  | other act x elsewhere =>
    have unrequested : act.requests v = false := by
      unfold Action.requests
      split
      next ctx _ =>
        simpa [Action.vault, Instruction.vault] using elsewhere
      · rfl
    simp [unrequested]
  | requested ctx x dst named => simp [Action.requests, named]
  | _ => rfl

/-- A request is there because it was there before or because the step stored it. -/
theorem VaultStep.pending_origin {e : Step K} {n : Nat} {p : PendingSpend K}
    (move : VaultStep e.pre v s e.act s') (held : s'.pending n = some p) :
    s.pending n = some p ∨ Stored v p e := by
  obtain ⟨pre, act, post⟩ := e
  cases move with
  | requested ctx x dst named _ address present =>
    simp only [Function.update_apply] at held
    split at held
    next new =>
      obtain rfl := Option.some.inj held
      exact .inr ⟨rfl, ctx, dst, rfl, named, address, present, rfl⟩
    · exact .inl held
  | approved | cancelled =>
    simp only [Function.update_apply] at held
    split at held
    · cases held
    · exact .inl held
  | _ => exact .inl held

/-- Only its own settlement takes a request away. -/
theorem VaultStep.pending_kept {act : Action K} {n : Nat} {p : PendingSpend K}
    (move : VaultStep w v s act s') (held : s.pending n = some p)
    (unsettled : act.settles ≠ some (pendingAddress v n)) : s'.pending n = some p := by
  cases move with
  | requested ctx x dst _ _ _ _ _ _ free =>
    have apart : n ≠ s.vault.pendingCount := by
      rintro rfl
      simp [free] at held
    simpa [apart] using held
  | approved ctx q dst _ _ address | cancelled ctx q _ _ address =>
    have apart : n ≠ q.nonce := by
      rintro rfl
      exact unsettled (congrArg some address)
    simpa [apart] using held
  | _ => exact held

/-- A closed request below the counter stays closed. -/
theorem VaultStep.pending_closed {act : Action K} {n : Nat} (move : VaultStep w v s act s')
    (closed : s.pending n = none) (below : n < s.vault.pendingCount) : s'.pending n = none := by
  cases move with
  | requested => simpa [below.ne] using closed
  | approved ctx q | cancelled ctx q =>
    simp only [Function.update_apply]
    split
    · rfl
    · exact closed
  | _ => exact closed

/-- `request_spend` writes the address its counter derives. -/
theorem request_address {ctx : RequestSpend K} {x : Nat} (wf : WellFormed w)
    (fired : step w (.program (.requestSpend ctx x)) = .ok w') :
    ∃ s, Shows w ctx.vault s ∧ ctx.pendingSpend = pendingAddress ctx.vault s.vault.pendingCount := by
  cases step_cases wf fired with
  | @move _ s s' n tokens moves =>
    refine ⟨s, moves.shows, ?_⟩
    cases moves.move with
    | other _ _ elsewhere => exact absurd rfl elsewhere
    | requested _ _ _ _ _ address => exact address

/-- `approve_spend` counts the stored amount as spent, and the account it names is the service's. -/
structure Approves (w : World K) (v : K) (p : PendingSpend K) (ctx : ApproveSpend K) (w' : World K) :
    Prop where
  service : ∃ destination, w.tokens.accounts ctx.serviceTokenAccount = some destination ∧
    destination.owner = p.service
  counted : ∃ vault vault', w.vaults v = some vault ∧ w'.vaults v = some vault' ∧
    vault'.totalSpent = vault.totalSpent + p.amountUsdc

/-- Just the stored amount goes from the vault's token account to the stored service. -/
structure Pays (w : World K) (v : K) (p : PendingSpend K) (ctx : ApproveSpend K) (w' : World K) : Prop
    extends Approves w v p ctx w' where
  moved : ∃ vault, w.vaults v = some vault ∧
    w.tokens.Moved w'.tokens vault.vaultTokenAccount ctx.serviceTokenAccount p.amountUsdc

/-- An approval of the stored amount moves it, unless it names the vault's own token account. -/
theorem approve_pays {ctx : ApproveSpend K} (wf : WellFormed w)
    (fired : step w (.program (.approveSpend ctx)) = .ok w') :
    ∃ s p, Shows w ctx.vault s ∧ ctx.pendingSpend = pendingAddress ctx.vault p.nonce ∧
      s.pending p.nonce = some p ∧ Approves w ctx.vault p ctx w' ∧
      (Pays w ctx.vault p ctx w' ↔ ctx.serviceTokenAccount ≠ s.vault.vaultTokenAccount) := by
  simp only [step, Instruction.handler, ApproveSpend.handler, map_eq_ok, bind_eq_ok, Prod.exists,
    require_eq_ok, mapError_eq_ok, checkWhitelist_ok, transferSigned_eq_ok, okOr_eq_ok,
    checkedAdd_eq_some, pure_eq_ok, exists_and_left, exists_const, Prod.mk.injEq] at fired
  obtain ⟨_, _, ⟨_, _, p, accounts, -, positive, -, tokens, ⟨-, moved⟩, _, ⟨-, rfl⟩, rfl, -⟩, post⟩ := fired
  obtain ⟨s, dst, shows, rfl, rfl, owner, address, held, account, present, service⟩ :=
    ApproveSpend.tryAccounts_ok wf accounts
  rw [account] at moved
  have kept : w'.tokens = tokens := by simp [← post]
  -- The transfer checks the amount in any case; between two accounts it moves it.
  have carried : w.tokens.Moved w'.tokens s.vault.vaultTokenAccount ctx.serviceTokenAccount p.amountUsdc ↔
      s.vault.vaultTokenAccount ≠ ctx.serviceTokenAccount := by
    rw [kept]
    exact TokenLedger.transfer_moved moved positive
  have approves : Approves w ctx.vault p ctx w' := by
    refine ⟨⟨dst, present, service⟩, s.vault,
      { s.vault with totalSpent := s.vault.totalSpent + p.amountUsdc, lastActiveSlot := w.slot },
      shows.vault, ?_, rfl⟩
    rw [← post]
    simp
  refine ⟨s, p, shows, address, held, approves, ?_⟩
  constructor
  · rintro ⟨-, vault, there, paid⟩ same
    obtain rfl := Option.some.inj (shows.vault.symm.trans there)
    exact carried.mp paid same.symm
  · exact fun apart => ⟨approves, s.vault, shows.vault, carried.mpr fun same => apart same.symm⟩

theorem cancel_moves_nothing {ctx : CancelSpend K}
    (fired : step w (.program (.cancelSpend ctx)) = .ok w') :
    w'.tokens = w.tokens ∧ w'.vaults = w.vaults := by
  simp only [step, Instruction.handler, CancelSpend.handler, map_eq_ok, bind_eq_ok, Prod.exists,
    pure_eq_ok, Prod.mk.injEq] at fired
  obtain ⟨_, _, ⟨_, _, rfl, -⟩, rfl⟩ := fired
  exact ⟨rfl, rfl⟩

/-- A settlement finds the request it closes, in the vault it names. -/
theorem settles_held {act : Action K} {key : K} (wf : WellFormed w)
    (fired : step w act = .ok w') (settles : act.settles = some key) :
    ∃ u s s' p, Shows w u s ∧ Shows w' u s' ∧ key = pendingAddress u p.nonce ∧
      s.pending p.nonce = some p ∧ s'.pending p.nonce = none := by
  cases step_cases wf fired with
  | @move ix s s' n tokens moves =>
    refine ⟨ix.vault, s, s', ?_⟩
    have after := moves.after
    cases moves.move with
    | other _ _ elsewhere => exact absurd rfl elsewhere
    | approved ctx p _ _ _ address held | cancelled ctx p _ _ address held =>
      obtain rfl := Option.some.inj settles
      exact ⟨p, moves.shows, after, address, held, by simp⟩
    | _ => cases settles
  | _ => cases settles

/-! ### Runs -/

/-- The counter never goes back, and what is closed below it stays closed. -/
theorem Run.retired (wf : WellFormed w) (shows : Shows w v s) (run : Run w log w') :
    ∃ s', Shows w' v s' ∧ s.vault.pendingCount ≤ s'.vault.pendingCount ∧
      ∀ n < s.vault.pendingCount, s.pending n = none → s'.pending n = none := by
  refine Run.view_induction (P := fun _ t => s.vault.pendingCount ≤ t.vault.pendingCount ∧
      ∀ n < s.vault.pendingCount, s.pending n = none → t.pending n = none)
    wf shows ⟨le_rfl, fun _ _ => id⟩ ?_ run (fun _ _ => trivial)
  -- A number below the counter is below it after every later step.
  rintro _ e t t' _ _ _ move _ _ _ ⟨grown, closed⟩
  refine ⟨grown.trans (by rw [move.pendingCount]; exact Nat.le_add_right _ _), ?_⟩
  exact fun n below gone => move.pending_closed (closed n below gone) (below.trans_le grown)

/-- Two requests of a run never share an address. -/
theorem requests_apart {e e' : Step K} {ctx ctx' : RequestSpend K} {x x' : Nat}
    (wf : WellFormed e.pre) (fired : step e.pre e.act = .ok e.post)
    (act : e.act = .program (.requestSpend ctx x)) (run : Run e.post log w) (later : e' ∈ log)
    (act' : e'.act = .program (.requestSpend ctx' x')) : ctx'.pendingSpend ≠ ctx.pendingSpend := by
  obtain ⟨before, after, rfl⟩ := List.append_of_mem later
  obtain ⟨between, fired', -⟩ := run.around
  have wf₁ := step_wellFormed wf fired
  obtain ⟨s, shows, address⟩ := request_address wf (act ▸ fired)
  obtain ⟨t, next, move⟩ := step_shows wf fired shows
  obtain ⟨t', reached, grown, -⟩ := Run.retired wf₁ next between
  obtain ⟨u, shows', address'⟩ := request_address (Run.wellFormed between wf₁) (act' ▸ fired')
  -- The counter moved past the first number and never goes back.
  have counted : t.vault.pendingCount = s.vault.pendingCount + 1 := by
    simp [move.pendingCount, act, Action.requests]
  intro same
  rw [address, address', pendingAddress_inj] at same
  obtain ⟨vaults, nonces⟩ := same
  obtain rfl := reached.unique (vaults ▸ shows')
  omega

/-- The requests of a vault against the steps since its creation. -/
structure Requests (v : K) (log : List (Step K)) (s : VaultView K) : Prop where
  count : s.vault.pendingCount = requestCount v log
  origin : ∀ n p, s.pending n = some p → ∃ e ∈ log, Stored v p e

theorem Requests.step {e : Step K} (requests : Requests v log s)
    (move : VaultStep e.pre v s e.act s') : Requests v (log ++ [e]) s' := by
  constructor
  · rw [move.pendingCount, requests.count]
    simp [requestCount, List.countP_append, List.countP_cons]
  · intro n p held
    rcases move.pending_origin held with old | stored
    · obtain ⟨first, member, stored⟩ := requests.origin n p old
      exact ⟨first, List.mem_append_left _ member, stored⟩
    · exact ⟨e, by simp, stored⟩

theorem Run.requests {ctx : CreateVault K} {perTx hourly lifetime : Nat} {allowPostPay : Bool}
    (reachable : Reachable w₀)
    (created : step w₀ (.program (.createVault ctx perTx hourly lifetime allowPostPay)) = .ok w₁)
    (run : Run w₁ log w) :
    ∃ s, Shows w ctx.vault s ∧ Requests ctx.vault log s ∧
      s.vault.vaultTokenAccount = ctx.vaultTokenAccount := by
  have start := created_shows reachable.wellFormed created
  have init : Requests ctx.vault [] (ctx.view w₀.slot perTx hourly lifetime allowPostPay) :=
    ⟨rfl, by simp [CreateVault.view]⟩
  refine Run.view_induction (P := fun log s => Requests ctx.vault log s ∧
    s.vault.vaultTokenAccount = ctx.vaultTokenAccount) (reachable.step created).wellFormed start
    ⟨init, rfl⟩ ?_ run (fun _ _ => trivial)
  rintro _ e t t' _ _ _ move _ _ _ ⟨requests, account⟩
  exact ⟨requests.step move, move.fixed.2.2.2.1.trans account⟩

/-- The step `e` makes request number `n` of the vault at `v`. -/
structure Makes (v : K) (n : Nat) (ctx : RequestSpend K) (x : Nat) (e : Step K) : Prop where
  address : ctx.pendingSpend = pendingAddress v n
  vacant : e.pre.pendings ctx.pendingSpend = none
  stored : ∃ p, e.post.pendings ctx.pendingSpend = some p ∧ p.nonce = n ∧ p.amountUsdc = x ∧
    Stored v p e

theorem Requests.makes {e : Step K} {ctx : RequestSpend K} {x : Nat}
    (requests : Requests v log s) (before : Shows e.pre v s) (move : VaultStep e.pre v s e.act s')
    (after : Shows e.post v s') (act : e.act = .program (.requestSpend ctx x))
    (named : ctx.vault = v) : Makes v (requestCount v log) ctx x e := by
  obtain ⟨pre, _, post⟩ := e
  subst act
  rw [← requests.count]
  cases move with
  | other _ _ elsewhere => exact absurd (congrArg some named) elsewhere
  | requested _ _ dst _ _ address present _ _ free =>
    have held := after.pending s.vault.pendingCount
    simp only [Function.update_self, ← address] at held
    exact ⟨address, by rw [address, before.pending, free], _, held, rfl, rfl, rfl, ctx, dst, rfl,
      named, address, present, rfl⟩

/-- A settled request is gone, and no later step settles or recreates it. -/
theorem settled_once {e : Step K} {key : K} (wf : WellFormed e.pre)
    (fired : step e.pre e.act = .ok e.post) (run : Run e.post log w)
    (settles : e.act.settles = some key) :
    e.post.pendings key = none ∧
      ∀ e' ∈ log, e'.act.settles ≠ some key ∧ e'.post.pendings key = none := by
  have wf₁ := step_wellFormed wf fired
  obtain ⟨u, s, s', p, shows, shows', rfl, held, gone⟩ := settles_held wf fired settles
  obtain ⟨_, next, move⟩ := step_shows wf fired shows
  obtain rfl := next.unique shows'
  -- Its number is below the counter from here on, and the counter never falls.
  have below := Nat.lt_add_right (if e.act.requests u then 1 else 0) (shows.pendingOf _ _ held).2.2
  rw [← move.pendingCount] at below
  refine ⟨by rw [shows'.pending, gone], fun e' later => ?_⟩
  obtain ⟨before, after, rfl⟩ := List.append_of_mem later
  obtain ⟨between, fired', -⟩ := run.around
  obtain ⟨t, reached, grown, closed⟩ := Run.retired wf₁ shows' between
  have wf₂ := Run.wellFormed between wf₁
  constructor
  · -- Another settlement would find it at the same address.
    intro again
    obtain ⟨u', t', -, q, reached', -, address, present, -⟩ := settles_held wf₂ fired' again
    rw [pendingAddress_inj] at address
    obtain ⟨rfl, nonces⟩ := address
    obtain rfl := reached.unique reached'
    rw [← nonces, closed _ below gone] at present
    cases present
  · obtain ⟨t', next, move⟩ := step_shows wf₂ fired' reached
    rw [next.pending]
    exact move.pending_closed (closed _ below gone) (below.trans_le grown)

/-- What one step of a run does to the pending spends of a vault. Request number `n` is stored at an
address of its own; only a settlement closes it, for good; an approval pays the stored amount to
the stored service and counts it; a cancellation moves nothing. -/
structure Lifecycle (v : K) (before : List (Step K)) (e : Step K) (after : List (Step K)) : Prop where
  requests : ∀ request x, e.act = .program (.requestSpend request x) → request.vault = v →
    Makes v (requestCount v before) request x e ∧
    ∀ e' ∈ before ++ after, ∀ request' x', e'.act = .program (.requestSpend request' x') →
      request'.pendingSpend ≠ request.pendingSpend
  settlements : ∀ key p, e.pre.pendings key = some p → p.vault = v →
    (e.act.settles ≠ some key → e.post.pendings key = some p) ∧
    (e.act.settles = some key → e.post.pendings key = none ∧
      ∀ e' ∈ after, e'.act.settles ≠ some key ∧ e'.post.pendings key = none)
  approvals : ∀ approval, e.act = .program (.approveSpend approval) → approval.vault = v →
    ∃ p, e.pre.pendings approval.pendingSpend = some p ∧ (∃ e' ∈ before, Stored v p e') ∧
      Pays e.pre v p approval e.post
  cancellations : ∀ cancellation, e.act = .program (.cancelSpend cancellation) →
    e.post.tokens = e.pre.tokens ∧ e.post.vaults = e.pre.vaults

/-- An approval of the vault that pays into this account. -/
def Action.ApprovesInto (v account : K) : Action K → Prop
  | .program (.approveSpend approval) => approval.vault = v ∧ approval.serviceTokenAccount = account
  | _ => False

instance (v account : K) : (act : Action K) → Decidable (act.ApprovesInto v account)
  | .program (.approveSpend approval) =>
    inferInstanceAs (Decidable (approval.vault = v ∧ approval.serviceTokenAccount = account))
  | .program (.createVault ..) | .program (.deposit ..) | .program (.spend ..)
  | .program (.freezeVault _) | .program (.unfreezeVault _) | .program (.updatePolicy ..)
  | .program (.withdraw ..) | .program (.claim ..) | .program (.requestSpend ..)
  | .program (.cancelSpend _) | .token _ | .advance _ => inferInstanceAs (Decidable False)

theorem lifecycle_iff {ctx : CreateVault K} {perTx hourly lifetime : Nat} {allowPostPay : Bool}
    {before after : List (Step K)} {e : Step K} (reachable : Reachable w₀)
    (created : step w₀ (.program (.createVault ctx perTx hourly lifetime allowPostPay)) = .ok w₁)
    (run : Run w₁ (before ++ e :: after) w) :
    Lifecycle ctx.vault before e after ↔ ¬e.act.ApprovesInto ctx.vault ctx.vaultTokenAccount := by
  have wf₁ := (reachable.step created).wellFormed
  obtain ⟨first, fired, rest⟩ := run.around
  have wf := Run.wellFormed first wf₁
  obtain ⟨s, shows, requests, own⟩ := Run.requests reachable created first
  obtain ⟨s', shows', move⟩ := step_shows wf fired shows
  have approved : ∀ approval, e.act = .program (.approveSpend approval) →
      approval.vault = ctx.vault → ∃ p, e.pre.pendings approval.pendingSpend = some p ∧
        (∃ e' ∈ before, Stored ctx.vault p e') ∧
        (Pays e.pre ctx.vault p approval e.post ↔ approval.serviceTokenAccount ≠ ctx.vaultTokenAccount) := by
    intro approval act named
    rw [act] at fired
    obtain ⟨t, p, shown, address, held, -, pays⟩ := approve_pays wf fired
    rw [named] at shown address pays
    obtain rfl := shown.unique shows
    rw [own] at pays
    obtain ⟨made, member, stored⟩ := requests.origin _ _ held
    exact ⟨p, by rw [address, shows.pending, held], ⟨made, member, stored⟩, pays⟩
  constructor
  · intro life into
    -- Only an approval can name the account, and then it moves nothing.
    unfold Action.ApprovesInto at into
    split at into
    next approval act =>
      obtain ⟨p, held, -, pays⟩ := approved approval act into.1
      obtain ⟨q, held', -, paid⟩ := life.approvals approval act into.1
      obtain rfl := Option.some.inj (held.symm.trans held')
      exact pays.mp paid into.2
    · exact into
  · intro apart
    refine ⟨?_, ?_, ?_, ?_⟩
    · intro request x act named
      refine ⟨requests.makes shows move shows' act named, fun e' member request' x' act' => ?_⟩
      -- The other request is earlier or later in the run; the argument is the same from its side.
      rcases List.mem_append.mp member with earlier | later
      · obtain ⟨before₁, before₂, rfl⟩ := List.append_of_mem earlier
        rw [List.append_assoc, List.cons_append] at run
        obtain ⟨start, fired', between⟩ := run.around
        exact (requests_apart (Run.wellFormed start wf₁) fired' act' between (by simp) act).symm
      · exact requests_apart wf fired act rest later act'
    · intro key p held vault
      obtain ⟨rfl, stored⟩ := (wf.pending_iff shows vault).mp held
      refine ⟨fun unsettled => ?_, settled_once wf fired rest⟩
      rw [shows'.pending]
      exact move.pending_kept stored unsettled
    · intro approval act named
      obtain ⟨p, held, stored, pays⟩ := approved approval act named
      refine ⟨p, held, stored, pays.mpr fun into => apart ?_⟩
      rw [act]
      exact ⟨named, into⟩
    · intro cancellation act
      rw [act] at fired
      exact cancel_moves_nothing fired

/-- All pending spends of a run live so exactly if no approval names the vault's own token account,
where the transfer is checked and moves nothing while the amount counts as spent. -/
theorem pending_lifecycle {ctx : CreateVault K} {perTx hourly lifetime : Nat}
    {allowPostPay : Bool} (reachable : Reachable w₀)
    (created : step w₀ (.program (.createVault ctx perTx hourly lifetime allowPostPay)) = .ok w₁)
    (run : Run w₁ log w) :
    (∀ before e after, log = before ++ e :: after → Lifecycle ctx.vault before e after) ↔
      ∀ e ∈ log, ¬e.act.ApprovesInto ctx.vault ctx.vaultTokenAccount := by
  constructor
  · intro lives e member
    obtain ⟨before, after, rfl⟩ := List.append_of_mem member
    exact (lifecycle_iff reachable created run).mp (lives before e after rfl)
  · rintro apart before e after rfl
    exact (lifecycle_iff reachable created run).mpr (apart e (by simp))

/-- Two requests, one approved and one cancelled. -/
theorem pending_lifecycle_market :
    (∀ before e after, Transition.trace step (Market.after [Market.create 0 0 0 true])
        [Market.deposit 50, Market.request 20 0, Market.request 10 1, Market.approve 0,
          Market.cancel 1] = before ++ e :: after → Lifecycle Market.vault before e after) ∧
      ∃ p, Pays (Market.after [Market.create 0 0 0 true, Market.deposit 50, Market.request 20 0,
          Market.request 10 1]) Market.vault p (Market.approval 0)
        (Market.after [Market.create 0 0 0 true, Market.deposit 50, Market.request 20 0,
          Market.request 10 1, Market.approve 0]) := by
  have created : step (Market.after []) (Market.create 0 0 0 true) =
      .ok (Market.after [Market.create 0 0 0 true]) := Market.step_after (by decide)
  have lives := (pending_lifecycle (Market.reachable []) created
    (Market.run_after [Market.create 0 0 0 true] [Market.deposit 50, Market.request 20 0,
      Market.request 10 1, Market.approve 0, Market.cancel 1])).mpr (by decide)
  refine ⟨lives, ?_⟩
  obtain ⟨p, -, -, pays⟩ := (lives _ _ _ rfl : Lifecycle _ [_, _, _] _ _).approvals
    (Market.approval 0) rfl rfl
  exact ⟨p, pays⟩

/-- A request for the vault's own token account, and its approval. -/
def Market.requestOwn (amount : Nat) : Action SymbolicKey :=
  .program (.requestSpend ⟨Market.agent, Market.vault, Market.vaultPurse, pendingAddress Market.vault 0⟩ amount)

def Market.approveOwn : Action SymbolicKey :=
  .program (.approveSpend { Market.approval 0 with serviceTokenAccount := Market.vaultPurse })

/-- The approval of a request for the vault's own token account moves nothing. -/
theorem approval_moves_nothing :
    ¬∀ (ctx : CreateVault SymbolicKey) (perTx hourly lifetime : Nat) (allowPostPay : Bool)
      (w₀ w₁ w : World SymbolicKey) (log : List (Step SymbolicKey)), Reachable w₀ →
      step w₀ (.program (.createVault ctx perTx hourly lifetime allowPostPay)) = .ok w₁ →
      Run w₁ log w →
      ∀ before e after, log = before ++ e :: after → Lifecycle ctx.vault before e after := by
  intro claim
  have created : step (Market.after []) (Market.create 0 0 0 true) =
      .ok (Market.after [Market.create 0 0 0 true]) := Market.step_after (by decide)
  have approved : step (Market.after ([Market.create 0 0 0 true] ++ [Market.deposit 50,
      Market.requestOwn 20])) Market.approveOwn = .ok _ := Market.step_after (by decide)
  have run := (Market.run_after [Market.create 0 0 0 true]
    [Market.deposit 50, Market.requestOwn 20]).snoc approved
  obtain ⟨p, held, -, pays⟩ := (claim Market.accounts 0 0 0 true _ _ _ _ (Market.reachable []) created
    run _ _ [] rfl).approvals _ rfl rfl
  obtain ⟨vault, present, moved⟩ := pays.moved
  obtain ⟨a, a', there, left, amount⟩ := moved.debited
  -- The balance is 50 before and after, and the request is for 20.
  have before : ((Market.after ([Market.create 0 0 0 true] ++ [Market.deposit 50,
      Market.requestOwn 20])).vaults Market.vault).map CreditVault.vaultTokenAccount =
        some Market.vaultPurse ∧
      ((Market.after ([Market.create 0 0 0 true] ++ [Market.deposit 50,
        Market.requestOwn 20])).pendings (pendingAddress Market.vault 0)).map PendingSpend.amountUsdc =
          some 20 ∧
      ((Market.after ([Market.create 0 0 0 true] ++ [Market.deposit 50,
        Market.requestOwn 20])).tokens.accounts Market.vaultPurse).map TokenAccount.amount =
          some 50 := by decide
  have after : ((Market.after ([Market.create 0 0 0 true] ++ [Market.deposit 50,
      Market.requestOwn 20] ++ [Market.approveOwn])).tokens.accounts Market.vaultPurse).map
        TokenAccount.amount = some 50 := by decide
  obtain ⟨purse, asked, balance⟩ := before
  rw [show Market.accounts.vault = Market.vault from rfl] at present
  rw [present] at purse
  have own : vault.vaultTokenAccount = Market.vaultPurse := Option.some.inj purse
  rw [own] at there left
  rw [there] at balance
  rw [left] at after
  rw [show (Market.approval 0).pendingSpend = pendingAddress Market.vault 0 from rfl] at held
  rw [held] at asked
  have full := Option.some.inj balance
  have full' := Option.some.inj after
  have twenty := Option.some.inj asked
  omega

end AgentFuel.Vault
