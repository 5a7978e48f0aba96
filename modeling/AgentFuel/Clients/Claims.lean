import AgentFuel.Clients.Calls

/-!
# What transactions take

Some things can be taken once: a receipt, the number of a request. Whatever a client sees of its
transaction, the one that has landed has taken them, and two that have landed under different
signatures have taken different ones.
-/
namespace AgentFuel.Clients.Calls

open Backend Checked Solana

variable {K : Type} [DecidableEq K] [AddressSpace K] {ι : Type} {net net' start : Net K}
  {p p' : Programs K} {new : List (Event K)} {ix : Backend.Instruction K}
  {ixs : List (Backend.Instruction K)} {chain chain' : Chain K} {act : ChainAction K}

/-! ### What a transaction takes -/

/-- Instructions take what is free, and nothing that was taken gets free again. -/
structure Claimed (taken : Programs K → ι → Prop) (claims : Backend.Instruction K → Option ι) :
    Prop where
  execute : ∀ p ix p' new, p.WellFormed → p.execute ix = .ok (p', new) →
    (∀ i, claims ix = some i → ¬taken p i ∧ taken p' i) ∧ ∀ i, taken p i → taken p' i
  advance : ∀ p slots i, taken p i → taken (p.advance slots) i
  token : ∀ ix, claims (.token ix) = none

variable {taken : Programs K → ι → Prop} {claims : Backend.Instruction K → Option ι}

/-- The instructions of a transaction take different things. -/
theorem Claimed.executeAll (claimed : Claimed taken claims) (wf : p.WellFormed)
    (executed : p.executeAll ixs = .ok (p', new)) : p'.WellFormed ∧ (ixs.filterMap claims).Nodup ∧
      (∀ i ∈ ixs.filterMap claims, ¬taken p i ∧ taken p' i) ∧ ∀ i, taken p i → taken p' i := by
  induction ixs generalizing p new with
  | nil =>
    obtain ⟨rfl, -⟩ := Prod.mk.inj (Except.ok.inj executed)
    refine ⟨wf, List.nodup_nil, ?_, fun _ held => held⟩
    intro i member
    cases member
  | cons ix rest ih =>
    obtain ⟨⟨next, first⟩, here, executed⟩ := (bind_eq_ok _ _ _).mp executed
    obtain ⟨⟨last, later⟩, others, executed⟩ := (bind_eq_ok _ _ _).mp executed
    obtain ⟨rfl, -⟩ := Prod.mk.inj (Except.ok.inj executed)
    -- What the first instruction takes is taken from then on, so no later one takes it.
    obtain ⟨free, kept⟩ := claimed.execute p ix next first wf here
    obtain ⟨wf', once, claimed', kept'⟩ := ih (wf.execute here).1 others
    rw [List.filterMap_cons]
    cases claim : claims ix with
    | none =>
      refine ⟨wf', once, fun i member => ⟨fun held => ?_, (claimed' i member).2⟩, fun i held => ?_⟩
      · exact (claimed' i member).1 (kept i held)
      · exact kept' i (kept i held)
    | some i =>
      obtain ⟨open_, now⟩ := free i claim
      refine ⟨wf', List.nodup_cons.mpr ⟨fun again => ?_, once⟩, ?_, fun j held => kept' j (kept j held)⟩
      · exact (claimed' i again).1 now
      · rw [List.forall_mem_cons]
        refine ⟨⟨open_, kept' i now⟩, fun j member => ⟨fun held => ?_, (claimed' j member).2⟩⟩
        exact (claimed' j member).1 (kept j held)

theorem Claimed.resolve (claimed : Claimed taken claims) (tx : Tx K) (p : Programs K) :
    (tx.resolve p).filterMap claims = tx.instructions.filterMap claims := by
  unfold Tx.resolve
  split
  · rfl
  · split
    · rfl
    · rw [List.filterMap_cons, claimed.token]

theorem Claimed.step (claimed : Claimed taken claims) (wf : chain.programs.WellFormed)
    (fired : chain.step act = .ok chain') :
    chain'.programs.WellFormed ∧ ∀ i, taken chain.programs i → taken chain'.programs i := by
  rcases Chain.step_cases fired with
    ⟨slots, rfl, rfl⟩ | ⟨signature, instructions, programs, events, rfl, -, executed, rfl⟩
  · exact ⟨wf.advance slots, fun i held => claimed.advance _ slots i held⟩
  · obtain ⟨wf', -, -, kept⟩ := claimed.executeAll wf executed
    exact ⟨wf', kept⟩

/-! ### What happens to the network -/

theorem execute_cases {signature : String} {tx : Tx K} (executed : net.execute signature tx = .ok chain) :
    ∃ programs events, signature ∉ net.chain.log.map Emitted.signature ∧
      net.chain.programs.executeAll (tx.resolve net.chain.programs) = .ok (programs, events) ∧
      chain = ⟨programs, net.chain.log ++ emitted signature net.chain.programs.vault.slot events⟩ := by
  rcases Chain.step_cases executed with ⟨slots, other, -⟩ | ⟨_, _, programs, events, same, unused, run, post⟩
  · cases other
  · obtain ⟨rfl, rfl⟩ := ChainAction.transaction.inj same
    exact ⟨programs, events, unused, run, post⟩

/-- What a question or a move can do. -/
inductive Change (net : Net K) : Net K → Prop
  | same : Change net net
  | taken {signature : String} {tx : Tx K} : net.sent signature = none →
    Change net (net.record signature tx .onTheWay)
  | arrived {signature : String} {tx : Tx K} {chain : Chain K} :
    net.sent signature = some (tx, .onTheWay) → net.execute signature tx = .ok chain →
    Change net ({ net with chain }.record signature tx .landed)
  | failed {signature : String} {tx : Tx K} {e : ChainError} :
    net.sent signature = some (tx, .onTheWay) → Change net (net.record signature tx (.failed e))
  | chain {act : ChainAction K} {chain : Chain K} : net.chain.step act = .ok chain →
    Change net { net with chain }

theorem take_change (net : Net K) (signature : String) (tx : Tx K) :
    Change net (net.take signature tx).1 := by
  unfold Net.take
  split
  · exact .same
  · split
    next unknown => exact .taken unknown
    · exact .same
    · exact .same

theorem land_change (net : Net K) (signature : String) : Change net (net.land signature) := by
  unfold Net.land
  split
  next tx sent =>
    split
    next chain executed => exact .arrived sent executed
    · exact .failed sent
  · exact .same

theorem answer_change (net : Net K) (chance : Outcome × String) (q : Query K) :
    Change net (answer net chance q).1 := by
  cases q with
  | send tx =>
    obtain ⟨outcome, signature⟩ := chance
    cases outcome with
    | answered => exact take_change net signature tx
    | unseen => exact take_change net signature tx
    | lost => exact .same
  | _ => exact .same

theorem move_change (net : Net K) (m : Move K) : Change net (move net m) := by
  cases m with
  | chain act =>
    change Change net { net with chain := Transition.settle Chain.step net.chain act }
    unfold Transition.settle
    split
    next chain fired => exact .chain fired
    · exact .same
  | land signature => exact land_change net signature

omit [DecidableEq K] in
@[simp] theorem record_sent_self (net : Net K) (signature : String) (tx : Tx K) (status : Status) :
    (net.record signature tx status).sent signature = some (tx, status) := Function.update_self ..

omit [DecidableEq K] in
theorem record_sent_of_ne {signature other : String} (apart : other ≠ signature) (tx : Tx K)
    (status : Status) : (net.record signature tx status).sent other = net.sent other :=
  Function.update_of_ne apart ..

/-- The chain does at most one step. -/
theorem Change.steps (change : Change net net') :
    net'.chain = net.chain ∨ ∃ act, net.chain.step act = .ok net'.chain := by
  cases change with
  | same => exact .inl rfl
  | taken => exact .inl rfl
  | arrived sent executed => exact .inr ⟨_, executed⟩
  | failed => exact .inl rfl
  | chain fired => exact .inr ⟨_, fired⟩

/-- What the steps of the chain keep, every change keeps. -/
theorem Change.keeps {I : Chain K → Prop} (change : Change net net') (holds : I net.chain)
    (keep : ∀ act chain', net.chain.step act = .ok chain' → I chain') : I net'.chain := by
  rcases change.steps with same | ⟨act, fired⟩
  · exact same ▸ holds
  · exact keep act _ fired

/-- A transaction has landed. -/
def Landed (net : Net K) (signature : String) (tx : Tx K) : Prop :=
  net.sent signature = some (tx, .landed)

/-- Of what has not landed one transaction can land that was on its way, by running. -/
theorem Change.landed_cases (change : Change net net') {signature : String} {tx : Tx K}
    (landed : Landed net' signature tx) : Landed net signature tx ∨
      net.execute signature tx = .ok net'.chain ∧
        ∀ other tx', Landed net' other tx' → other ≠ signature → Landed net other tx' := by
  -- A record under another signature leaves what has landed.
  have others : ∀ {base : Net K} {recorded : String} {tx' : Tx K} {status : Status}, base.sent = net.sent →
      ∀ other tx'', Landed (base.record recorded tx' status) other tx'' → other ≠ recorded →
        Landed net other tx'' := by
    intro base recorded tx' status same other tx'' has apart
    rw [Landed, record_sent_of_ne apart, same] at has
    exact has
  cases change with
  | same => exact .inl landed
  | @taken recorded tx' unknown =>
    refine .inl (others rfl signature tx landed ?_)
    rintro rfl
    rw [Landed, record_sent_self] at landed
    cases landed
  | @arrived recorded tx' chain sent executed =>
    by_cases here : signature = recorded
    · subst here
      have same := landed
      rw [Landed, record_sent_self] at same
      obtain ⟨rfl, -⟩ := Prod.mk.inj (Option.some.inj same)
      exact .inr ⟨executed, others rfl⟩
    · exact .inl (others rfl signature tx landed here)
  | @failed recorded tx' e sent =>
    refine .inl (others rfl signature tx landed ?_)
    rintro rfl
    rw [Landed, record_sent_self] at landed
    cases landed
  | chain => exact .inl landed

/-- The node has been sent this transaction under this signature. -/
def Has (net : Net K) (signature : String) (tx : Tx K) : Prop :=
  ∃ status, net.sent signature = some (tx, status)

theorem Change.has (change : Change net net') {signature : String} {tx : Tx K}
    (has : Has net signature tx) : Has net' signature tx := by
  obtain ⟨status, sent⟩ := has
  -- A record that is written again is of the transaction that is there.
  have recorded : ∀ {base : Net K} {other : String} {tx' : Tx K} {status' : Status}, base.sent = net.sent →
      (∀ before, net.sent other = some before → before.1 = tx') →
      Has (base.record other tx' status') signature tx := by
    intro base other tx' status' same keeps
    by_cases here : signature = other
    · subst here
      obtain rfl : tx = tx' := keeps _ sent
      exact ⟨status', record_sent_self ..⟩
    · exact ⟨status, by rw [record_sent_of_ne here, same, sent]⟩
  cases change with
  | same => exact ⟨status, sent⟩
  | taken unknown =>
    refine recorded rfl fun before held => ?_
    rw [unknown] at held
    cases held
  | arrived held executed =>
    refine recorded rfl fun before same => ?_
    rw [← Option.some.inj (held.symm.trans same)]
  | failed held =>
    refine recorded rfl fun before same => ?_
    rw [← Option.some.inj (held.symm.trans same)]
  | chain => exact ⟨status, sent⟩

theorem Change.stays (change : Change net net') {signature : String} {tx : Tx K}
    (landed : Landed net signature tx) : Landed net' signature tx := by
  have recorded : ∀ {base : Net K} {other : String} {tx' : Tx K} {status' : Status}, base.sent = net.sent →
      (∀ before, net.sent other = some (before, .landed) → False) →
      Landed (base.record other tx' status') signature tx := by
    intro base other tx' status' same open_
    by_cases here : signature = other
    · subst here
      exact (open_ tx landed).elim
    · rw [Landed, record_sent_of_ne here, same]
      exact landed
  cases change with
  | same => exact landed
  | taken unknown => exact recorded rfl fun before held => by cases unknown.symm.trans held
  | arrived held executed => exact recorded rfl fun before same => by cases held.symm.trans same
  | failed held => exact recorded rfl fun before same => by cases held.symm.trans same
  | chain => exact landed

/-! ### The ledger of what was taken -/

/-- What has landed since the start has taken what was free, different things under different
signatures, and nothing gets free again. -/
structure Ledger (taken : Programs K → ι → Prop) (claims : Backend.Instruction K → Option ι)
    (start now : Net K) : Prop where
  wf : now.chain.programs.WellFormed
  once : ∀ signature tx, Landed now signature tx → (tx.instructions.filterMap claims).Nodup
  held : ∀ signature tx, Landed now signature tx → ∀ i ∈ tx.instructions.filterMap claims,
    ¬taken start.chain.programs i ∧ taken now.chain.programs i
  alone : ∀ signature signature' tx tx', Landed now signature tx → Landed now signature' tx' →
    ∀ i ∈ tx.instructions.filterMap claims, i ∈ tx'.instructions.filterMap claims → signature = signature'
  kept : ∀ i, taken start.chain.programs i → taken now.chain.programs i

theorem Ledger.change (claimed : Claimed taken claims) (ledger : Ledger taken claims start net)
    (change : Change net net') : Ledger taken claims start net' := by
  have wf : net'.chain.programs.WellFormed := change.keeps (I := fun chain => chain.programs.WellFormed)
    ledger.wf fun act chain' fired => (claimed.step ledger.wf fired).1
  have kept : ∀ i, taken net.chain.programs i → taken net'.chain.programs i := fun i there =>
    change.keeps (I := fun chain => taken chain.programs i) there fun act chain' fired =>
      (claimed.step ledger.wf fired).2 i there
  -- What lands now has taken what nobody had.
  have lands : ∀ {signature tx}, net.execute signature tx = .ok net'.chain →
      (tx.instructions.filterMap claims).Nodup ∧ ∀ i ∈ tx.instructions.filterMap claims,
        ¬taken net.chain.programs i ∧ taken net'.chain.programs i := by
    intro signature tx executed
    obtain ⟨programs, events, -, run, post⟩ := execute_cases executed
    obtain ⟨-, once, held, -⟩ := claimed.executeAll ledger.wf run
    rw [claimed.resolve] at once held
    rw [post]
    exact ⟨once, held⟩
  refine ⟨wf, ?_, ?_, ?_, fun i there => kept i (ledger.kept i there)⟩
  · intro signature tx landed
    rcases change.landed_cases landed with before | ⟨executed, -⟩
    · exact ledger.once signature tx before
    · exact (lands executed).1
  · intro signature tx landed i member
    rcases change.landed_cases landed with before | ⟨executed, -⟩
    · obtain ⟨free, now⟩ := ledger.held signature tx before i member
      exact ⟨free, kept i now⟩
    · obtain ⟨free, now⟩ := (lands executed).2 i member
      exact ⟨fun there => free (ledger.kept i there), now⟩
  · intro signature signature' tx tx' landed landed' i member member'
    rcases change.landed_cases landed with before | ⟨executed, others⟩
    · rcases change.landed_cases landed' with before' | ⟨executed', -⟩
      · exact ledger.alone _ _ _ _ before before' i member member'
      · exact absurd (ledger.held _ _ before i member).2 ((lands executed').2 i member').1
    · by_contra apart
      have before' := others signature' tx' landed' (Ne.symm apart)
      exact absurd (ledger.held _ _ before' i member').2 ((lands executed).2 i member).1

theorem Ledger.keeps (claimed : Claimed taken claims) (start : Net K) :
    Pool.Keeps (E := Stopped) (network (K := K)) fun net _ => Ledger taken claims start net where
  answer net _ chance q ledger := ledger.change claimed (answer_change net chance q)
  drop _ _ _ _ ledger := ledger
  move net _ m ledger := ledger.change claimed (move_change net m)

end AgentFuel.Clients.Calls
