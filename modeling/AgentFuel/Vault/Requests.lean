import AgentFuel.Library.Backlog
import AgentFuel.Vault.Emissions
import AgentFuel.Vault.Pending

/-!
# Requests, payments and the instructions that settle

A request is known by the address of its account and asks for a payment of some amount to some
service. An approval pays what its request asks for, so that the payments of a run keep up with
the requests that it approves, from any point of the run on.
-/
namespace AgentFuel.Vault

open Checked Solana

variable {K : Type}

/-- What is to be paid. -/
structure Demand (K : Type) where
  vault : K
  service : K
  amountUsdc : Nat
  deriving DecidableEq

def PendingSpend.demand (p : PendingSpend K) : Demand K := ⟨p.vault, p.service, p.amountUsdc⟩

/-- The address of a new request and what it asks for. -/
def VaultEvent.request : VaultEvent K → Option (K × Demand K)
  | spendRequested vault _ service pendingSpend amountUsdc _ _ =>
    some (pendingSpend, ⟨vault, service, amountUsdc⟩)
  | _ => none

/-- What `spend` and `approve_spend` paid. -/
def VaultEvent.payment : VaultEvent K → Option (Demand K)
  | spent vault _ service amountUsdc _ _ => some ⟨vault, service, amountUsdc⟩
  | _ => none

def VaultEvent.rejection : VaultEvent K → Option K
  | spendRejected _ _ pendingSpend _ _ => some pendingSpend
  | _ => none

def Instruction.approves [AddressSpace K] : Instruction K → Option K
  | .approveSpend ctx => some ctx.pendingSpend
  | _ => none

def Instruction.cancels [AddressSpace K] : Instruction K → Option K
  | .cancelSpend ctx => some ctx.pendingSpend
  | _ => none

variable [DecidableEq K]

def VaultEvent.asks (d : Demand K) (ev : VaultEvent K) : Bool :=
  decide (ev.request.map Prod.snd = some d)

def VaultEvent.pays (d : Demand K) (ev : VaultEvent K) : Bool := decide (ev.payment = some d)

/-- The event makes the request at this address. -/
def VaultEvent.makes (key : K) (ev : VaultEvent K) : Bool :=
  decide (ev.request.map Prod.fst = some key)

/-- A request for this payment that is not among the approved ones. -/
def VaultEvent.unpaid (d : Demand K) (approved : List K) (ev : VaultEvent K) : Bool :=
  ev.asks d && decide (∀ key ∈ ev.request.map Prod.fst, key ∉ approved)

/-! ### One instruction -/

variable [AddressSpace K] {w w' : World K} {ix : Instruction K} {ev : VaultEvent K}

/-- What an instruction has to do with requests. -/
inductive RequestStep (w : World K) : Instruction K → World K → VaultEvent K → Prop
  | requested {ctx : RequestSpend K} {x : Nat} {s : VaultView K} {service : K} {p : PendingSpend K}
    {w' : World K} : Shows w ctx.vault s →
    ctx.pendingSpend = pendingAddress ctx.vault s.vault.pendingCount →
    p.demand = ⟨ctx.vault, service, x⟩ → 0 < x →
    w'.pendings = Function.update w.pendings ctx.pendingSpend (some p) →
    (∃ vault, w'.vaults ctx.vault = some vault ∧ s.vault.pendingCount < vault.pendingCount) →
    RequestStep w (.requestSpend ctx x) w' (.spendRequested ctx.vault ctx.agent.key service
      ctx.pendingSpend x s.vault.pendingCount w.slot)
  | approved {ctx : ApproveSpend K} {p : PendingSpend K} {agent : K} {total : Nat} {w' : World K} :
    w.pendings ctx.pendingSpend = some p →
    w'.pendings = Function.update w.pendings ctx.pendingSpend none →
    RequestStep w (.approveSpend ctx) w' (.spent p.vault agent p.service p.amountUsdc total w.slot)
  | cancelled {ctx : CancelSpend K} {p : PendingSpend K} {w' : World K} :
    w.pendings ctx.pendingSpend = some p →
    w'.pendings = Function.update w.pendings ctx.pendingSpend none →
    RequestStep w (.cancelSpend ctx) w'
      (.spendRejected ctx.vault ctx.owner.key ctx.pendingSpend p.nonce w.slot)
  | other {ix : Instruction K} {w' : World K} {ev : VaultEvent K} : ix.approves = none →
    ix.cancels = none → ev.request = none → ev.rejection = none → w'.pendings = w.pendings →
    RequestStep w ix w' ev

theorem RequestSpend.requests {ctx : RequestSpend K} {x : Nat} (wf : WellFormed w)
    (handled : ctx.handler w x = .ok (w', ev)) : RequestStep w (.requestSpend ctx x) w' ev := by
  simp only [handler, bind_eq_ok, Prod.exists, require_eq_ok, okOr_eq_ok, checkedAdd_eq_some,
    pure_eq_ok, exists_and_left, exists_const, Prod.mk.injEq] at handled
  obtain ⟨_, dst, accounts, positive, -, _, ⟨-, rfl⟩, rfl, rfl⟩ := handled
  obtain ⟨s, shows, rfl, -, address, -, -⟩ := tryAccounts_ok wf accounts
  exact .requested shows address rfl positive rfl ⟨_, Function.update_self .., Nat.lt_succ_self _⟩

theorem ApproveSpend.settles {ctx : ApproveSpend K} (wf : WellFormed w)
    (handled : ctx.handler w = .ok (w', ev)) : RequestStep w (.approveSpend ctx) w' ev := by
  simp only [handler, bind_eq_ok, Prod.exists, require_eq_ok, mapError_eq_ok, checkWhitelist_ok,
    transferSigned_eq_ok, okOr_eq_ok, checkedAdd_eq_some, pure_eq_ok, exists_and_left,
    exists_const, Prod.mk.injEq] at handled
  obtain ⟨_, _, p, accounts, -, -, -, tokens, -, _, ⟨-, rfl⟩, rfl, rfl⟩ := handled
  obtain ⟨s, dst, shows, rfl, rfl, -, address, held, -⟩ := tryAccounts_ok wf accounts
  have present : w.pendings ctx.pendingSpend = some p := by rw [address, shows.pending, held]
  have vault : p.vault = ctx.vault := (shows.pendingOf _ _ held).1
  rw [← vault]
  exact .approved present rfl

theorem CancelSpend.settles {ctx : CancelSpend K} (wf : WellFormed w)
    (handled : ctx.handler w = .ok (w', ev)) : RequestStep w (.cancelSpend ctx) w' ev := by
  simp only [handler, bind_eq_ok, pure_eq_ok, Prod.mk.injEq] at handled
  obtain ⟨p, accounts, rfl, rfl⟩ := handled
  obtain ⟨s, shows, -, address, held⟩ := tryAccounts_ok wf accounts
  exact .cancelled (by rw [address, shows.pending, held]) rfl

/-- A step that writes a request back as it was. -/
theorem Moves.same_pendings {v : K} {act : Action K} {s s' : VaultView K} {n : Nat}
    {tokens : TokenLedger K} (moves : Moves w v act s s' n tokens) (kept : s'.pending = s.pending) :
    (w.write v s' n tokens).pendings = w.pendings := by
  simp only [World.write, kept, moves.shows.update_pending]

theorem handler_requests (wf : WellFormed w) (handled : ix.handler w = .ok (w', ev)) :
    RequestStep w ix w' ev := by
  have emits := handler_emits handled
  cases ix with
  | requestSpend ctx x => exact ctx.requests wf handled
  | approveSpend ctx => exact ctx.settles wf handled
  | cancelSpend ctx => exact ctx.settles wf handled
  | createVault ctx perTx hourly lifetime allowPostPay =>
    obtain ⟨_, rfl⟩ := emits
    -- Every other instruction leaves the pending spends and says nothing of them.
    obtain ⟨-, rfl, -⟩ := (CreateVault.handler_ok ..).mp handled
    exact .other rfl rfl rfl rfl rfl
  | deposit ctx x =>
    obtain ⟨_, _, rfl⟩ := emits
    obtain ⟨_, _, _, moves, -, rfl⟩ := ctx.handler_ok wf handled
    refine .other rfl rfl rfl rfl (moves.same_pendings ?_)
    cases moves.move <;> rfl
  | spend ctx x =>
    obtain ⟨_, _, _, rfl⟩ := emits
    obtain ⟨_, _, _, moves, -, rfl⟩ := ctx.handler_ok wf handled
    refine .other rfl rfl rfl rfl (moves.same_pendings ?_)
    cases moves.move <;> rfl
  | freezeVault ctx =>
    obtain ⟨_, rfl⟩ := emits
    obtain ⟨_, _, moves, -, rfl⟩ := ctx.freezeHandler_ok wf handled
    refine .other rfl rfl rfl rfl (moves.same_pendings ?_)
    cases moves.move <;> rfl
  | unfreezeVault ctx =>
    obtain ⟨_, rfl⟩ := emits
    obtain ⟨_, _, moves, -, rfl⟩ := ctx.unfreezeHandler_ok wf handled
    refine .other rfl rfl rfl rfl (moves.same_pendings ?_)
    cases moves.move <;> rfl
  | updatePolicy ctx perTx hourly lifetime allowPostPay whitelist =>
    obtain ⟨_, rfl⟩ := emits
    obtain ⟨_, _, moves, -, rfl⟩ := ctx.handler_ok wf handled
    refine .other rfl rfl rfl rfl (moves.same_pendings ?_)
    cases moves.move <;> rfl
  | withdraw ctx x =>
    obtain ⟨_, _, rfl⟩ := emits
    obtain ⟨_, _, _, moves, -, rfl⟩ := ctx.handler_ok wf handled
    refine .other rfl rfl rfl rfl (moves.same_pendings ?_)
    cases moves.move <;> rfl
  | claim ctx x =>
    obtain ⟨_, _, _, rfl⟩ := emits
    obtain ⟨_, _, _, moves, -, rfl⟩ := ctx.handler_ok wf handled
    refine .other rfl rfl rfl rfl (moves.same_pendings ?_)
    cases moves.move <;> rfl

/-- The counter of a vault does not go back. -/
theorem handler_counts (wf : WellFormed w) (handled : ix.handler w = .ok (w', ev)) {v : K}
    {vault : CreditVault K} (present : w.vaults v = some vault) :
    ∃ later, w'.vaults v = some later ∧ vault.pendingCount ≤ later.pendingCount := by
  have fired : step w (.program ix) = .ok w' := by
    rw [step, handled]
    rfl
  obtain ⟨s, shows, rfl⟩ := wf.shows_vault present
  obtain ⟨s', shows', move⟩ := step_shows wf fired shows
  exact ⟨s'.vault, shows'.vault, by rw [move.pendingCount]; exact Nat.le_add_right _ _⟩

/-! ### The events so far -/

omit [AddressSpace K] in
theorem VaultEvent.request_of_asks {key : K} {d : Demand K} (asks : ev.asks d = true)
    (makes : ev.makes key = true) : ev.request = some (key, d) := by
  unfold VaultEvent.asks at asks
  unfold VaultEvent.makes at makes
  cases made : ev.request with
  | none => simp [made] at asks
  | some request =>
    simp only [made, Option.map_some, Option.some.injEq, decide_eq_true_eq] at asks makes
    rw [← asks, ← makes]

omit [AddressSpace K] in
/-- One more approval pays at most the request at its address. -/
theorem unpaid_le (d : Demand K) (approved : List K) (key : K) (events : List (VaultEvent K)) :
    events.countP (VaultEvent.unpaid d approved) ≤
      events.countP (VaultEvent.unpaid d (approved ++ [key])) +
        events.countP (fun ev => ev.asks d && ev.makes key) := by
  induction events with
  | nil => exact Nat.zero_le _
  | cons ev events ih =>
    -- A request that stops counting as unpaid is the one at this address.
    have here : ev.unpaid d approved = true →
        ev.unpaid d (approved ++ [key]) = true ∨ (ev.asks d && ev.makes key) = true := by
      intro unpaid
      obtain ⟨asks, unapproved⟩ := Bool.and_eq_true_iff.mp unpaid
      by_cases makes : ev.makes key = true
      · right
        rw [asks, makes, Bool.and_self]
      · left
        refine Bool.and_eq_true_iff.mpr ⟨asks, decide_eq_true ?_⟩
        intro other member
        rw [List.mem_append, List.mem_singleton]
        rintro (earlier | rfl)
        · exact of_decide_eq_true unapproved other member earlier
        · exact makes (decide_eq_true member)
    simp only [List.countP_cons]
    cases first : ev.unpaid d approved with
    | false =>
      simp only [Bool.false_eq_true, if_false]
      omega
    | true =>
      rcases here first with second | third
      · simp only [second, if_true]
        omega
      · simp only [third, if_true]
        omega

/-- The requests among the events are numbered by the counters of their vaults. -/
structure Requested (w : World K) (events : List (VaultEvent K)) : Prop where
  numbered : ∀ ev ∈ events, ∀ key d, ev.request = some (key, d) → ∃ vault n,
    w.vaults d.vault = some vault ∧ key = pendingAddress d.vault n ∧ n < vault.pendingCount
  positive : ∀ ev ∈ events, ∀ key d, ev.request = some (key, d) → 0 < d.amountUsdc
  created : ∀ before ev after, events = before ++ ev :: after → ∀ key d,
    ev.request = some (key, d) → ∃ made ∈ before, made.isCreation = true ∧ made.vault = d.vault
  once : ∀ key, events.countP (VaultEvent.makes key) ≤ 1
  one : ∀ ev ∈ events, ∀ other ∈ events, ∀ key d d', ev.request = some (key, d) →
    other.request = some (key, d') → d = d'

/-- A request was made at this address. -/
def Made (events : List (VaultEvent K)) (key : K) (d : Demand K) : Prop :=
  ∃ ev ∈ events, ev.request = some (key, d)

def Paid (events : List (VaultEvent K)) (d : Demand K) : Prop := ∃ ev ∈ events, ev.payment = some d

/-- The requests against the accounts and the instructions that settled them. -/
structure RequestBooks (w : World K) (events : List (VaultEvent K)) (approved cancelled : List K) :
    Prop where
  requested : Requested w events
  opened : ∀ key p, w.pendings key = some p →
    key ∉ approved ∧ key ∉ cancelled ∧ Made events key p.demand
  paid : ∀ key ∈ approved, key ∉ cancelled ∧ ∃ d, Made events key d ∧ Paid events d
  settled : ∀ key ∈ cancelled, ∃ d, Made events key d
  rejected : ∀ ev ∈ events, ∀ key, ev.rejection = some key → key ∈ cancelled
  balance : ∀ d rest, rest <:+ events → rest.countP (VaultEvent.asks d) ≤
    rest.countP (VaultEvent.pays d) + rest.countP (VaultEvent.unpaid d approved)

section Books

variable {events : List (VaultEvent K)} {approved cancelled : List K} {key : K} {d : Demand K}

omit [DecidableEq K] [AddressSpace K] in
theorem Made.snoc (made : Made events key d) (ev : VaultEvent K) : Made (events ++ [ev]) key d := by
  obtain ⟨e, member, made⟩ := made
  exact ⟨e, List.mem_append_left _ member, made⟩

omit [DecidableEq K] [AddressSpace K] in
theorem Paid.snoc (paid : Paid events d) (ev : VaultEvent K) : Paid (events ++ [ev]) d := by
  obtain ⟨e, member, paid⟩ := paid
  exact ⟨e, List.mem_append_left _ member, paid⟩

omit [DecidableEq K] [AddressSpace K] in
theorem Made.here (made : ev.request = some (key, d)) : Made (events ++ [ev]) key d :=
  ⟨ev, List.mem_append_right _ (List.mem_singleton.mpr rfl), made⟩

omit [DecidableEq K] [AddressSpace K] in
theorem Paid.here (paid : ev.payment = some d) : Paid (events ++ [ev]) d :=
  ⟨ev, List.mem_append_right _ (List.mem_singleton.mpr rfl), paid⟩

theorem Genesis.requestBooks (genesis : Genesis w) : RequestBooks w [] [] [] where
  requested :=
    { numbered := by simp
      positive := by simp
      created := by simp
      once := by simp
      one := by simp }
  opened key p held := by
    rw [genesis.pendings key] at held
    cases held
  paid := by simp
  settled := by simp
  rejected := by simp
  balance d rest part := by
    obtain rfl := List.suffix_nil.mp part
    exact Nat.zero_le _

/-- The counters of the vaults have not gone back. -/
def Grown (w w' : World K) : Prop := ∀ v vault, w.vaults v = some vault →
  ∃ later, w'.vaults v = some later ∧ vault.pendingCount ≤ later.pendingCount

theorem Requested.grow (requested : Requested w events) (grown : Grown w w') :
    Requested w' events where
  numbered ev member key d made := by
    obtain ⟨vault, n, present, address, below⟩ := requested.numbered ev member key d made
    obtain ⟨later, held, more⟩ := grown d.vault vault present
    exact ⟨later, n, held, address, below.trans_le more⟩
  positive := requested.positive
  created := requested.created
  once := requested.once
  one := requested.one

/-- The decomposition at an event of a longer list. -/
theorem split_snoc {α : Type} {list before after : List α} {a b : α}
    (split : list ++ [b] = before ++ a :: after) :
    before = list ∧ a = b ∨ ∃ shorter, list = before ++ a :: shorter := by
  rcases List.eq_nil_or_concat after with rfl | ⟨shorter, last, rfl⟩
  · obtain ⟨same, last⟩ := List.append_inj' split rfl
    exact .inl ⟨same.symm, (List.singleton_inj.mp last).symm⟩
  · refine .inr ⟨shorter, ?_⟩
    rw [List.concat_eq_append, ← List.cons_append, ← List.append_assoc] at split
    exact (List.append_inj' split rfl).1

theorem Requested.silent (requested : Requested w events) (silent : ev.request = none) :
    Requested w (events ++ [ev]) where
  numbered e member key d made := by
    rcases List.mem_append.mp member with earlier | here
    · exact requested.numbered e earlier key d made
    · rw [List.mem_singleton.mp here, silent] at made
      cases made
  positive e member key d made := by
    rcases List.mem_append.mp member with earlier | here
    · exact requested.positive e earlier key d made
    · rw [List.mem_singleton.mp here, silent] at made
      cases made
  created before e after split key d made := by
    rcases split_snoc split with ⟨-, rfl⟩ | ⟨shorter, split⟩
    · rw [silent] at made
      cases made
    · exact requested.created before e shorter split key d made
  once key := by
    have none : ev.makes key = false := by simp [VaultEvent.makes, silent]
    rw [List.countP_append, List.countP_singleton, none]
    exact requested.once key
  one e member other member' key d d' made made' := by
    rcases List.mem_append.mp member with earlier | here
    · rcases List.mem_append.mp member' with earlier' | here'
      · exact requested.one e earlier other earlier' key d d' made made'
      · rw [List.mem_singleton.mp here', silent] at made'
        cases made'
    · rw [List.mem_singleton.mp here, silent] at made
      cases made

/-- The address of the next request of a vault is new. -/
theorem Requested.fresh {v : K} {s : VaultView K} (requested : Requested w events)
    (shows : Shows w v s) (member : ev ∈ events) (d : Demand K) :
    ev.request ≠ some (pendingAddress v s.vault.pendingCount, d) := by
  intro made
  obtain ⟨vault, n, present, address, below⟩ := requested.numbered ev member _ d made
  rw [pendingAddress_inj] at address
  obtain ⟨named, number⟩ := address
  rw [← named, shows.vault] at present
  obtain rfl := Option.some.inj present
  omega

theorem Requested.request {v : K} {s : VaultView K} {key : K} {d : Demand K}
    (requested : Requested w events) (vaults : EventBooks w events) (shows : Shows w v s)
    (address : key = pendingAddress v s.vault.pendingCount) (made : ev.request = some (key, d))
    (named : d.vault = v) (positive : 0 < d.amountUsdc) (grown : Grown w w')
    (counted : ∃ vault, w'.vaults v = some vault ∧ s.vault.pendingCount < vault.pendingCount) :
    Requested w' (events ++ [ev]) := by
  have before := requested.grow grown
  -- No event before has made a request at this address: its number is the count of now.
  have fresh : ∀ e ∈ events, ∀ d', e.request ≠ some (key, d') := by
    rw [address]
    exact fun e member d' => requested.fresh shows member d'
  refine ⟨?_, ?_, ?_, ?_, ?_⟩
  · intro e member key' d' made'
    rcases List.mem_append.mp member with earlier | here
    · exact before.numbered e earlier key' d' made'
    · rw [List.mem_singleton.mp here, made] at made'
      obtain ⟨rfl, rfl⟩ := Prod.mk.inj (Option.some.inj made')
      obtain ⟨vault, present, below⟩ := counted
      exact ⟨vault, _, named ▸ present, named ▸ address, below⟩
  · intro e member key' d' made'
    rcases List.mem_append.mp member with earlier | here
    · exact requested.positive e earlier key' d' made'
    · rw [List.mem_singleton.mp here, made] at made'
      obtain ⟨rfl, rfl⟩ := Prod.mk.inj (Option.some.inj made')
      exact positive
  · intro start e after split key' d' made'
    rcases split_snoc split with ⟨rfl, rfl⟩ | ⟨shorter, split⟩
    · rw [made] at made'
      obtain ⟨rfl, rfl⟩ := Prod.mk.inj (Option.some.inj made')
      have recorded := vaults.recorded v s.vault s.policy shows.vault shows.policy
      exact ⟨_, recorded.created, rfl, named.symm⟩
    · exact requested.created start e shorter split key' d' made'
  · intro key'
    rw [List.countP_append, List.countP_singleton]
    -- The new event makes this request and no other.
    by_cases same : key' = key
    · have none : events.countP (VaultEvent.makes key') = 0 := by
        rw [List.countP_eq_zero]
        intro e member makes
        obtain ⟨⟨_, d'⟩, made', rfl⟩ := Option.map_eq_some_iff.mp (of_decide_eq_true makes)
        exact fresh e member d' (made'.trans (by rw [← same]))
      rw [none]
      split <;> omega
    · have other : ev.makes key' = false := by
        simp [VaultEvent.makes, made, Ne.symm same]
      rw [other]
      exact requested.once key'
  · intro e member other member' key' d' d'' made' made''
    rcases List.mem_append.mp member with earlier | here
    · rcases List.mem_append.mp member' with earlier' | here'
      · exact requested.one e earlier other earlier' key' d' d'' made' made''
      · rw [List.mem_singleton.mp here', made] at made''
        obtain ⟨rfl, -⟩ := Prod.mk.inj (Option.some.inj made'')
        exact absurd made' (fresh e earlier d')
    · rw [List.mem_singleton.mp here, made] at made'
      obtain ⟨rfl, rfl⟩ := Prod.mk.inj (Option.some.inj made')
      rcases List.mem_append.mp member' with earlier' | here'
      · exact absurd made'' (fresh other earlier' d'')
      · rw [List.mem_singleton.mp here', made] at made''
        exact (Prod.mk.inj (Option.some.inj made'')).2

omit [AddressSpace K] in
/-- The balance after one more event and the approvals that came with it. -/
theorem balance_snoc {approved' : List K} (d : Demand K)
    (balance : ∀ rest, rest <:+ events → rest.countP (VaultEvent.asks d) ≤
      rest.countP (VaultEvent.pays d) + rest.countP (VaultEvent.unpaid d approved))
    (step : ∀ rest, rest <:+ events → (ev.asks d).toNat + rest.countP (VaultEvent.unpaid d approved) ≤
      (ev.pays d).toNat + (ev.unpaid d approved').toNat + rest.countP (VaultEvent.unpaid d approved'))
    (rest : List (VaultEvent K)) (part : rest <:+ events ++ [ev]) :
    rest.countP (VaultEvent.asks d) ≤
      rest.countP (VaultEvent.pays d) + rest.countP (VaultEvent.unpaid d approved') := by
  rcases List.suffix_concat_iff.mp part with rfl | ⟨shorter, rfl, inner⟩
  · exact Nat.zero_le _
  · have before := balance shorter inner
    have here := step shorter inner
    simp only [List.countP_append, List.countP_singleton]
    cases asks : ev.asks d <;> cases pays : ev.pays d <;> cases unpaid : ev.unpaid d approved' <;>
      simp [asks, pays, unpaid] at here ⊢ <;> omega

omit [AddressSpace K] in
/-- Events that request nothing, and no new approvals. -/
theorem balance_silent {d : Demand K} (silent : ev.request = none) (rest : List (VaultEvent K)) :
    (ev.asks d).toNat + rest.countP (VaultEvent.unpaid d approved) ≤
      (ev.pays d).toNat + (ev.unpaid d approved).toNat +
        rest.countP (VaultEvent.unpaid d approved) := by
  have unasked : ev.asks d = false := by simp [VaultEvent.asks, silent]
  rw [unasked, Bool.toNat_false]
  omega

/-- Only a cancellation is announced as one. -/
theorem RequestBooks.rejected_snoc (books : RequestBooks w events approved cancelled)
    (quiet : ev.rejection = none) :
    ∀ e ∈ events ++ [ev], ∀ key, e.rejection = some key → key ∈ cancelled := by
  intro e member key rejects
  rcases List.mem_append.mp member with earlier | here
  · exact books.rejected e earlier key rejects
  · rw [List.mem_singleton.mp here, quiet] at rejects
    cases rejects

theorem RequestBooks.settled_snoc (books : RequestBooks w events approved cancelled)
    (ev : VaultEvent K) : ∀ key ∈ cancelled, ∃ d, Made (events ++ [ev]) key d := by
  intro key settled
  obtain ⟨d, made⟩ := books.settled key settled
  exact ⟨d, made.snoc ev⟩

theorem RequestBooks.paid_snoc (books : RequestBooks w events approved cancelled)
    (ev : VaultEvent K) : ∀ key ∈ approved, key ∉ cancelled ∧
      ∃ d, Made (events ++ [ev]) key d ∧ Paid (events ++ [ev]) d := by
  intro key settled
  obtain ⟨other, d, made, paid⟩ := books.paid key settled
  exact ⟨other, d, made.snoc ev, paid.snoc ev⟩

theorem RequestBooks.requestStep {ctx : RequestSpend K} {x : Nat} {s : VaultView K} {service : K}
    {p : PendingSpend K} (books : RequestBooks w events approved cancelled)
    (vaults : EventBooks w events) (grown : Grown w w') (shows : Shows w ctx.vault s)
    (address : ctx.pendingSpend = pendingAddress ctx.vault s.vault.pendingCount)
    (demand : p.demand = ⟨ctx.vault, service, x⟩) (positive : 0 < x)
    (pendings : w'.pendings = Function.update w.pendings ctx.pendingSpend (some p))
    (counted : ∃ vault, w'.vaults ctx.vault = some vault ∧
      s.vault.pendingCount < vault.pendingCount)
    (made : ev.request = some (ctx.pendingSpend, p.demand)) (quiet : ev.rejection = none) :
    RequestBooks w' (events ++ [ev]) approved cancelled := by
  have fresh : ∀ d, ¬Made events ctx.pendingSpend d := by
    rintro d ⟨e, member, made⟩
    rw [address] at made
    exact books.requested.fresh shows member d made
  have unapproved : ctx.pendingSpend ∉ approved := by
    intro settled
    obtain ⟨-, d, made, -⟩ := books.paid _ settled
    exact fresh d made
  have uncancelled : ctx.pendingSpend ∉ cancelled := by
    intro settled
    obtain ⟨d, made⟩ := books.settled _ settled
    exact fresh d made
  have vault : p.demand.vault = ctx.vault := congrArg Demand.vault demand
  have amount : 0 < p.demand.amountUsdc := positive.trans_eq (congrArg Demand.amountUsdc demand).symm
  refine ⟨books.requested.request vaults shows address made vault amount grown counted, ?_,
    books.paid_snoc ev, books.settled_snoc ev, books.rejected_snoc quiet, ?_⟩
  · intro key q held
    rw [pendings, Function.update_apply] at held
    split at held
    next here =>
      obtain rfl := Option.some.inj held
      rw [here]
      exact ⟨unapproved, uncancelled, .here made⟩
    · obtain ⟨first, second, made⟩ := books.opened key q held
      exact ⟨first, second, made.snoc ev⟩
  · intro d
    refine balance_snoc d (books.balance d) ?_
    -- The new request is not approved.
    intro rest part
    have unpaid : ev.unpaid d approved = ev.asks d := by
      simp [VaultEvent.unpaid, made, unapproved]
    rw [unpaid]
    omega

theorem RequestBooks.approveStep {key : K} {p : PendingSpend K}
    (books : RequestBooks w events approved cancelled) (grown : Grown w w')
    (held : w.pendings key = some p) (pendings : w'.pendings = Function.update w.pendings key none)
    (paid : ev.payment = some p.demand) (silent : ev.request = none) (quiet : ev.rejection = none) :
    RequestBooks w' (events ++ [ev]) (approved ++ [key]) cancelled := by
  obtain ⟨unapproved, uncancelled, made⟩ := books.opened key p held
  refine ⟨(books.requested.silent silent).grow grown, ?_, ?_, books.settled_snoc ev,
    books.rejected_snoc quiet, ?_⟩
  · intro other q present
    rw [pendings, Function.update_apply] at present
    split at present
    · cases present
    next apart =>
      obtain ⟨first, second, made⟩ := books.opened other q present
      refine ⟨?_, second, made.snoc ev⟩
      rw [List.mem_append, List.mem_singleton]
      exact fun either => either.elim first apart
  · intro other settled
    rcases List.mem_append.mp settled with earlier | here
    · exact books.paid_snoc ev other earlier
    · rw [List.mem_singleton.mp here]
      exact ⟨uncancelled, p.demand, made.snoc ev, .here paid⟩
  · intro d
    refine balance_snoc d (books.balance d) ?_
    -- The payment makes up for the one request that is not open any more.
    intro rest part
    have lost := unpaid_le d approved key rest
    have atMost : rest.countP (fun ev => ev.asks d && ev.makes key) ≤ (ev.pays d).toNat := by
      by_cases same : p.demand = d
      · have pays : ev.pays d = true := decide_eq_true (paid.trans (congrArg some same))
        rw [pays]
        refine le_trans (List.countP_mono_left ?_)
          (le_trans part.sublist.countP_le (books.requested.once key))
        intro _ _ both
        exact (Bool.and_eq_true_iff.mp both).2
      · refine le_of_eq_of_le (List.countP_eq_zero.mpr ?_) (Nat.zero_le _)
        intro other inside both
        obtain ⟨asks, makes⟩ := Bool.and_eq_true_iff.mp both
        obtain ⟨e, member, made⟩ := made
        exact same (books.requested.one e member other (part.subset inside) key p.demand d made
          (VaultEvent.request_of_asks asks makes))
    have unasked : ev.asks d = false := by simp [VaultEvent.asks, silent]
    rw [unasked, Bool.toNat_false]
    omega

theorem RequestBooks.cancelStep {key : K} {p : PendingSpend K}
    (books : RequestBooks w events approved cancelled) (grown : Grown w w')
    (held : w.pendings key = some p) (pendings : w'.pendings = Function.update w.pendings key none)
    (silent : ev.request = none) (rejects : ev.rejection = some key) :
    RequestBooks w' (events ++ [ev]) approved (cancelled ++ [key]) := by
  obtain ⟨unapproved, uncancelled, made⟩ := books.opened key p held
  refine ⟨(books.requested.silent silent).grow grown, ?_, ?_, ?_, ?_, ?_⟩
  · -- The pending spends that are left are not the one that is closed.
    intro other q present
    rw [pendings, Function.update_apply] at present
    split at present
    · cases present
    next apart =>
      obtain ⟨first, second, made⟩ := books.opened other q present
      refine ⟨first, ?_, made.snoc ev⟩
      rw [List.mem_append, List.mem_singleton]
      exact fun either => either.elim second apart
  · intro other settled
    obtain ⟨first, d, made, paid⟩ := books.paid_snoc ev other settled
    refine ⟨?_, d, made, paid⟩
    -- An approved request was no longer there to be cancelled.
    rw [List.mem_append, List.mem_singleton]
    exact fun either => either.elim first fun same => unapproved (same ▸ settled)
  · intro other settled
    rcases List.mem_append.mp settled with earlier | here
    · exact books.settled_snoc ev other earlier
    · rw [List.mem_singleton.mp here]
      exact ⟨p.demand, made.snoc ev⟩
  · intro e member other rejected
    rcases List.mem_append.mp member with earlier | here
    · exact List.mem_append_left _ (books.rejected e earlier other rejected)
    · rw [List.mem_singleton.mp here, rejects] at rejected
      obtain rfl := Option.some.inj rejected
      exact List.mem_append_right _ (List.mem_singleton.mpr rfl)
  · exact fun d => balance_snoc d (books.balance d) fun rest _ => balance_silent silent rest

/-- Every instruction keeps the books. -/
theorem RequestBooks.handled (books : RequestBooks w events approved cancelled)
    (vaults : EventBooks w events) (step : RequestStep w ix w' ev) (grown : Grown w w') :
    RequestBooks w' (events ++ [ev]) (approved ++ ix.approves.toList)
      (cancelled ++ ix.cancels.toList) := by
  cases step with
  | requested shows address demand positive pendings counted =>
    simp only [Instruction.approves, Instruction.cancels, Option.toList_none, List.append_nil]
    refine books.requestStep vaults grown shows address demand positive pendings counted ?_ rfl
    rw [demand]
    rfl
  | approved held pendings =>
    simp only [Instruction.approves, Instruction.cancels, Option.toList_none, List.append_nil,
      Option.toList_some]
    exact books.approveStep grown held pendings rfl rfl rfl
  | cancelled held pendings =>
    simp only [Instruction.approves, Instruction.cancels, Option.toList_none, List.append_nil,
      Option.toList_some]
    exact books.cancelStep grown held pendings rfl rfl
  | other approves cancels silent quiet same =>
    -- Everything else makes no request, pays none and leaves what is stored.
    rw [approves, cancels, Option.toList_none, List.append_nil, List.append_nil]
    refine ⟨(books.requested.silent silent).grow grown, ?_, books.paid_snoc ev, books.settled_snoc ev,
      books.rejected_snoc quiet, ?_⟩
    · intro key q present
      rw [same] at present
      obtain ⟨first, second, made⟩ := books.opened key q present
      exact ⟨first, second, made.snoc ev⟩
    · exact fun d => balance_snoc d (books.balance d) fun rest _ => balance_silent silent rest

/-- The books say nothing of the rest of the world. -/
theorem RequestBooks.same (books : RequestBooks w events approved cancelled)
    (vaults : w'.vaults = w.vaults) (pendings : w'.pendings = w.pendings) :
    RequestBooks w' events approved cancelled where
  requested := by
    refine books.requested.grow fun v vault present => ⟨vault, ?_, le_refl _⟩
    rw [vaults, present]
  opened := by
    rw [pendings]
    exact books.opened
  paid := books.paid
  settled := books.settled
  rejected := books.rejected
  balance := books.balance

end Books

end AgentFuel.Vault
