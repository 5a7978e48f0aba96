import AgentFuel.Clients.Claims
import AgentFuel.Reputation.Provenance
import AgentFuel.Vault.Pending

/-!
# Receipts, numbers and the log

Receipts are recorded once and numbers of requests are given once. What a transaction has emitted is
what the log of the chain holds under its signature, from when it lands.
-/
namespace AgentFuel.Clients.Calls

open Backend Checked Solana Dialogue

variable {K : Type} [DecidableEq K] [AddressSpace K] {net net' : Net K} {p p' : Programs K}
  {new : List (Event K)} {ix : Backend.Instruction K} {ixs : List (Backend.Instruction K)}
  {chain chain' : Chain K} {act : ChainAction K}

/-! ### Receipts and numbers -/

def Receipted (p : Programs K) (hash : Hash) : Prop :=
  p.reputation.receipts (findProgramAddress (.receipt hash)) ≠ none

/-- The receipt that an instruction makes. -/
def makesReceipt : Backend.Instruction K → Option Hash
  | .reputation (.recordPayment _ _ hash) => some hash
  | _ => none

/-- The vault is there and has seen at least this many requests. -/
def Counted (p : Programs K) (v : K) (n : Nat) : Prop :=
  ∃ vault, p.vault.vaults v = some vault ∧ n ≤ vault.pendingCount

theorem receipts_claimed : Claimed (K := K) Receipted makesReceipt where
  execute p ix p' new wf executed := by
    rcases Programs.execute_cases executed with
      ⟨i, w, ev, rfl, handled, rfl, rfl⟩ | ⟨i, w, ev, rfl, handled, rfl, rfl⟩ |
        ⟨i, tokens, rfl, stepped, rfl, rfl⟩
    · exact ⟨by rintro h ⟨⟩, fun _ held => held⟩
    · have fired : Reputation.step p.reputation (.program i) = .ok w := by
        rw [Reputation.step, handled]
        rfl
      constructor
      · intro h claim
        cases i with
        | recordPayment ctx amount hash =>
          obtain rfl := Option.some.inj claim
          obtain ⟨profile, registry, accepts, rfl, -⟩ :=
            (Reputation.RecordPayment.handler_ok wf.reputation ctx).mp handled
          -- The account of the receipt was not there before, and is there now.
          have address := accepts.receipt
          have unused := accepts.unused
          rw [address] at unused
          refine ⟨fun held => held unused, ?_⟩
          rw [Receipted, ← address]
          simp [Reputation.RecordPayment.record]
        | _ => cases claim
      · intro h held
        -- A receipt is never closed.
        have persists := Reputation.step_persists wf.reputation fired
        cases before : p.reputation.receipts (findProgramAddress (.receipt h)) with
        | none => exact absurd before held
        | some receipt =>
          obtain ⟨after, kept, -⟩ := persists.receipts _ _ before
          rw [Receipted, kept]
          simp
    · exact ⟨by rintro h ⟨⟩, fun _ held => held⟩
  advance p slots i held := held
  token ix := rfl

/-- The number of requests a vault has seen does not fall. -/
theorem given_kept {w w' : Vault.World K} {act : Vault.Action K} (wf : Vault.WellFormed w)
    (fired : Vault.step w act = .ok w') {v : K} {vault : Vault.CreditVault K}
    (held : w.vaults v = some vault) :
    ∃ vault', w'.vaults v = some vault' ∧
      vault'.pendingCount = vault.pendingCount + if act.requests v then 1 else 0 := by
  obtain ⟨s, rfl, shows⟩ := wf.shown v vault held
  obtain ⟨s', shows', moved⟩ := Vault.step_shows wf fired shows
  exact ⟨s'.vault, shows'.vault, moved.pendingCount⟩

theorem Counted.execute {v : K} {n : Nat} (counted : Counted p v n) (wf : p.WellFormed)
    (executed : p.execute ix = .ok (p', new)) : Counted p' v n := by
  have keeps : ∀ act {w : Vault.World K}, Vault.step p.vault act = .ok w →
      Counted { p with vault := w } v n := by
    intro act w fired
    obtain ⟨vault, held, below⟩ := counted
    obtain ⟨vault', held', count⟩ := given_kept wf.vault fired held
    exact ⟨vault', held', by omega⟩
  rcases Programs.execute_cases executed with
    ⟨i, w, ev, rfl, handled, rfl, rfl⟩ | ⟨i, w, ev, rfl, handled, rfl, rfl⟩ |
      ⟨i, tokens, rfl, stepped, rfl, rfl⟩
  · refine keeps (.program i) ?_
    rw [Vault.step, handled]
    rfl
  · exact counted
  · exact keeps _ stepped

theorem counted_claimed : Claimed (K := K) (fun p (x : K × Nat) => Counted p x.1 x.2) fun _ => none where
  execute p ix p' new wf executed :=
    ⟨by rintro x ⟨⟩, fun _ counted => counted.execute wf executed⟩
  advance p slots x held := held
  token ix := rfl

/-- The vault that a payment leaves, and its amount. -/
def paidFrom : Event K → Option (K × Nat)
  | .vault (.spent vault _ _ amountUsdc _ _) => some (vault, amountUsdc)
  | _ => none

def paidTo : Event K → Option K
  | .vault (.spent _ _ service _ _ _) => some service
  | _ => none

def receiptOf : Event K → Option Hash
  | .reputation (.paymentRecorded _ _ _ hash _ _) => some hash
  | _ => none

/-- The amount that a receipt stands for. -/
def recordedAmount : Event K → Option (Hash × Nat)
  | .reputation (.paymentRecorded _ _ amountUsdc hash _ _) => some (hash, amountUsdc)
  | _ => none

/-- Only `record_payment` makes receipts, one at a time. -/
theorem execute_receiptOf (wf : p.WellFormed) (executed : p.execute ix = .ok (p', new)) :
    new.filterMap receiptOf = (makesReceipt ix).toList := by
  rcases Programs.execute_cases executed with
    ⟨i, w, ev, rfl, -, -, rfl⟩ | ⟨i, w, ev, rfl, handled, -, rfl⟩ | ⟨i, tokens, rfl, -, -, rfl⟩
  · rfl
  · cases i with
    | initializeAgent ctx uri id =>
      obtain ⟨-, -, -, rfl⟩ := (ctx.handler_ok wf.reputation).mp handled
      rfl
    | registerService ctx name category uri =>
      obtain ⟨-, -, -, rfl⟩ := (ctx.handler_ok wf.reputation).mp handled
      rfl
    | setServiceActive ctx active =>
      obtain ⟨_, -, -, rfl⟩ := (ctx.handler_ok wf.reputation).mp handled
      rfl
    | recordPayment ctx amount hash =>
      obtain ⟨_, _, -, -, rfl⟩ :=
        (Reputation.RecordPayment.handler_ok wf.reputation ctx).mp handled
      rfl
    | giveFeedback ctx hash value tags uri evidence =>
      obtain ⟨_, _, _, _, -, -, rfl⟩ := (ctx.handler_ok wf.reputation).mp handled
      rfl
    | appendResponse ctx hash uri response =>
      obtain ⟨_, _, -, -, rfl⟩ := (ctx.handler_ok wf.reputation).mp handled
      rfl
    | revokeFeedback ctx hash =>
      obtain ⟨_, _, _, -, -, rfl⟩ := (ctx.handler_ok wf.reputation).mp handled
      rfl
    | computeScore ctx =>
      obtain ⟨_, -, -, rfl⟩ := (ctx.handler_ok wf.reputation).mp handled
      rfl
  · rfl

theorem executeAll_receiptOf (wf : p.WellFormed) (executed : p.executeAll ixs = .ok (p', new)) :
    new.filterMap receiptOf = ixs.filterMap makesReceipt := by
  induction ixs generalizing p new with
  | nil =>
    obtain ⟨-, rfl⟩ := Prod.mk.inj (Except.ok.inj executed)
    rfl
  | cons ix rest ih =>
    obtain ⟨⟨next, first⟩, here, executed⟩ := (bind_eq_ok _ _ _).mp executed
    obtain ⟨⟨last, later⟩, others, executed⟩ := (bind_eq_ok _ _ _).mp executed
    obtain ⟨rfl, rfl⟩ := Prod.mk.inj (Except.ok.inj executed)
    rw [List.filterMap_append, execute_receiptOf wf here, ih (wf.execute here).1 others,
      List.filterMap_cons]
    cases makesReceipt ix <;> rfl

/-- What the chain has logged since a start: receipts that are different and were not there. -/
structure Since (start now : Chain K) (events : List (Event K)) : Prop where
  wf : now.programs.WellFormed
  log : now.log.map Emitted.event = start.log.map Emitted.event ++ events
  once : (events.filterMap receiptOf).Nodup
  held : ∀ h ∈ events.filterMap receiptOf, ¬Receipted start.programs h ∧ Receipted now.programs h
  kept : ∀ h, Receipted start.programs h → Receipted now.programs h

theorem Since.step {start : Chain K} {events : List (Event K)} (since : Since start chain events)
    (fired : chain.step act = .ok chain') : ∃ events, Since start chain' events := by
  obtain ⟨wf, kept⟩ := receipts_claimed.step since.wf fired
  rcases Chain.step_cases fired with
    ⟨slots, rfl, rfl⟩ | ⟨signature, instructions, programs, more, rfl, -, executed, rfl⟩
  · exact ⟨events, wf, since.log, since.once, since.held, since.kept⟩
  · obtain ⟨-, once, held, -⟩ := receipts_claimed.executeAll since.wf executed
    rw [← executeAll_receiptOf since.wf executed] at once held
    refine ⟨events ++ more, wf, ?_, ?_, ?_, fun h there => kept h (since.kept h there)⟩
    · rw [List.map_append, emitted_event, since.log, List.append_assoc]
    · rw [List.filterMap_append, List.nodup_append]
      refine ⟨since.once, once, ?_⟩
      rintro h earlier _ now rfl
      exact (held h now).1 (since.held h earlier).2
    · rw [List.filterMap_append, List.forall_mem_append]
      refine ⟨fun h earlier => ⟨(since.held h earlier).1, kept h (since.held h earlier).2⟩, ?_⟩
      exact fun h now => ⟨fun there => (held h now).1 (since.kept h there), (held h now).2⟩

/-- What the log holds under a signature. -/
def loggedUnder (chain : Chain K) (signature : String) : List (Event K) :=
  (chain.log.filter fun e => decide (e.signature = signature)).map Emitted.event

/-- What a transaction has emitted is what the log holds under its signature. -/
def Logged (chain : Chain K) (signature : String) (events : List (Event K)) : Prop :=
  events = [] ∨ loggedUnder chain signature = events

omit [DecidableEq K] [AddressSpace K] in
theorem filter_emitted (signature : String) (slot : Nat) (events : List (Event K)) :
    (emitted signature slot events).filter (fun e => decide (e.signature = signature)) =
      emitted signature slot events := by
  rw [List.filter_eq_self]
  intro e member
  obtain ⟨entry, -, rfl⟩ := List.mem_map.mp member
  exact decide_eq_true rfl

omit [DecidableEq K] [AddressSpace K] in
theorem filter_emitted_other {signature other : String} (apart : other ≠ signature) (slot : Nat)
    (events : List (Event K)) :
    (emitted other slot events).filter (fun e => decide (e.signature = signature)) = [] := by
  rw [List.filter_eq_nil_iff]
  intro e member same
  obtain ⟨entry, -, rfl⟩ := List.mem_map.mp member
  exact apart (of_decide_eq_true same)

theorem Logged.step {signature : String} {events : List (Event K)}
    (logged : Logged chain signature events) (fired : chain.step act = .ok chain') :
    Logged chain' signature events := by
  rcases logged with nothing | logged
  · exact .inl nothing
  · rcases Chain.step_cases fired with
      ⟨slots, rfl, rfl⟩ | ⟨other, instructions, programs, more, rfl, unused, -, rfl⟩
    · exact .inr logged
    · by_cases silent : events = []
      · exact .inl silent
      · -- The signature is in the log, so the new transaction has another one.
        have apart : other ≠ signature := by
          rintro rfl
          apply silent
          rw [← logged, loggedUnder, List.map_eq_nil_iff, List.filter_eq_nil_iff]
          intro e member same
          exact unused (of_decide_eq_true same ▸ List.mem_map_of_mem member)
        refine .inr ?_
        rw [loggedUnder, List.filter_append, filter_emitted_other apart, List.append_nil, ← loggedUnder, logged]

omit [DecidableEq K] in
theorem logged_of_execute {signature : String} {programs : Programs K} {events : List (Event K)}
    (unused : signature ∉ net.chain.log.map Emitted.signature)
    (slot : Nat) : Logged ⟨programs, net.chain.log ++ emitted signature slot events⟩ signature events := by
  have nothing : net.chain.log.filter (fun e => decide (e.signature = signature)) = [] := by
    rw [List.filter_eq_nil_iff]
    intro e member same
    exact unused (of_decide_eq_true same ▸ List.mem_map_of_mem member)
  refine .inr ?_
  rw [loggedUnder, List.filter_append, nothing, filter_emitted, List.nil_append, emitted_event]

/-- The transaction ran, and the log holds what it emitted. -/
def Ran (chain : Chain K) (signature : String) (tx : Tx K) : Prop :=
  ∃ p p' events, Programs.WellFormed p ∧ p.executeAll (tx.resolve p) = .ok (p', events) ∧
    Logged chain signature events

theorem Ran.step {signature : String} {tx : Tx K} (ran : Ran chain signature tx)
    (fired : chain.step act = .ok chain') : Ran chain' signature tx := by
  obtain ⟨p, p', events, wf, executed, logged⟩ := ran
  exact ⟨p, p', events, wf, executed, logged.step fired⟩

theorem Ran.of_execute {signature : String} {tx : Tx K} (wf : net.chain.programs.WellFormed)
    (executed : net.execute signature tx = .ok chain) : Ran chain signature tx := by
  obtain ⟨programs, events, unused, run, rfl⟩ := execute_cases executed
  exact ⟨_, programs, events, wf, run, logged_of_execute unused _⟩

/-! ### What clients hear -/

abbrev Seen (K : Type) [AddressSpace K] : Type := Exchange Stopped (Query K) Query.Answer

/-- The node has what it said it took, what it confirmed has landed, and a vault that a client has
read is there and has seen no fewer requests. -/
def Known (net : Net K) : Seen K → Prop
  | ⟨.send tx, .ok (.ok signature)⟩ => Has net signature tx
  | ⟨.confirm signature, .ok (.ok _)⟩ => ∃ tx, Landed net signature tx
  | ⟨.vault address, .ok (.ok (some vault))⟩ => Counted net.chain.programs address vault.pendingCount
  | _ => True

theorem Known.change {x : Seen K} (known : Known net x) (wf : net.chain.programs.WellFormed)
    (change : Change net net') : Known net' x := by
  unfold Known at known ⊢
  split at known
  · exact change.has known
  · obtain ⟨tx, landed⟩ := known
    exact ⟨tx, change.stays landed⟩
  next address vault =>
    exact change.keeps (I := fun chain => Counted chain.programs address vault.pendingCount) known
      fun act chain' fired => (counted_claimed.step wf fired).2 (address, vault.pendingCount) known
  · trivial

theorem take_has {signature told : String} {tx : Tx K} (taken : (net.take signature tx).2 = .ok told) :
    Has (net.take signature tx).1 told tx := by
  unfold Net.take at taken ⊢
  split at taken
  · cases taken
  · split at taken
    · obtain rfl := Except.ok.inj taken
      exact ⟨.onTheWay, record_sent_self ..⟩
    next other sent =>
      dsimp only at taken
      split at taken
      next same =>
        obtain rfl := Except.ok.inj taken
        exact ⟨.onTheWay, same ▸ sent⟩
      · cases taken
    · cases taken

omit [DecidableEq K] in
theorem status_landed {signature : String} (confirmed : net.status signature = .ok ()) :
    ∃ tx, Landed net signature tx := by
  unfold Net.status at confirmed
  split at confirmed
  next tx sent => exact ⟨tx, sent⟩
  · cases confirmed
  · cases confirmed

theorem heard_ok {A : Type} {outcome : Outcome} {a : Except RpcError A} {told : A}
    (hears : heard outcome a = .ok told) : a = .ok told := by
  unfold heard at hears
  split at hears
  · exact hears
  · cases hears

theorem answer_known (chance : Outcome × String) (q : Query K) :
    Known (answer net chance q).1 ⟨q, .ok (answer net chance q).2⟩ := by
  cases q with
  | send tx =>
    cases told : (answer net chance (.send tx)).2 with
    | error e => trivial
    | ok signature =>
      -- Only a client that was answered holds a signature.
      obtain ⟨outcome, name⟩ := chance
      cases outcome with
      | answered => exact take_has told
      | unseen => cases told
      | lost => cases told
  | confirm signature =>
    cases told : (answer net chance (.confirm signature)).2 with
    | error e => trivial
    | ok _ => exact status_landed (heard_ok told)
  | vault address =>
    cases told : (answer net chance (.vault address)).2 with
    | error e => trivial
    | ok read =>
      cases read with
      | none => trivial
      | some vault => exact ⟨vault, Except.ok.inj (heard_ok told), le_refl _⟩
  | policy address => trivial
  | slot => trivial

/-- The chain since the start, what has landed, and all that clients have heard. -/
structure Follows (start : Chain K) (net : Net K) (history : List (Seen K)) : Prop where
  since : ∃ events, Since start net.chain events
  ran : ∀ signature tx, Landed net signature tx → Ran net.chain signature tx
  known : ∀ x ∈ history, Known net x

theorem Follows.wf {start : Chain K} {history : List (Seen K)} (follows : Follows start net history) :
    net.chain.programs.WellFormed := by
  obtain ⟨events, since⟩ := follows.since
  exact since.wf

theorem Follows.change {start : Chain K} {history : List (Seen K)} (follows : Follows start net history)
    (change : Change net net') : Follows start net' history where
  since := change.keeps (I := fun chain => ∃ events, Since start chain events) follows.since
    fun act chain' fired => by
      obtain ⟨events, since⟩ := follows.since
      exact since.step fired
  ran signature tx landed := by
    rcases change.landed_cases landed with before | ⟨executed, -⟩
    · have ran := follows.ran signature tx before
      exact change.keeps (I := fun chain => Ran chain signature tx) ran fun act chain' fired => ran.step fired
    · exact .of_execute follows.wf executed
  known x member := (follows.known x member).change follows.wf change

theorem follows_kept (start : Chain K) :
    Pool.Keeps (E := Stopped) (network (K := K)) (Follows start) where
  answer net history chance q follows := by
    have next := follows.change (answer_change net chance q)
    refine ⟨next.since, next.ran, ?_⟩
    rw [List.forall_mem_append, List.forall_mem_singleton]
    exact ⟨next.known, answer_known chance q⟩
  drop net history q e follows := by
    refine ⟨follows.since, follows.ran, ?_⟩
    rw [List.forall_mem_append, List.forall_mem_singleton]
    refine ⟨follows.known, ?_⟩
    cases q <;> trivial
  move net history m follows := follows.change (move_change net m)

end AgentFuel.Clients.Calls
