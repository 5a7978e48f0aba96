import AgentFuel.Clients.Composed

/-!
# What is paid once, and what is requested once

A payment that is sent again with the same receipt hash, because the client did not see the first
one land, is refused once the first one has landed. Two requests of one vault never get the same
number. Calls that are told of one receipt or of one number have sent the same bytes: theirs is one
transaction.
-/
namespace AgentFuel.Clients.Calls

open Backend Checked Solana Dialogue

variable {K : Type} [DecidableEq K] [AddressSpace K] {net : Net K} {p p' : Programs K}
  {new : List (Event K)}

/-- The client has this from its call. -/
def Told (t : Traffic K) (place : Nat) (call : Call K) (reply : Reply K) : Prop :=
  ∃ done, t.threads[place]? = some ⟨call, done, .done (.ok reply)⟩

/-- The node took this transaction of the call under this signature. -/
def Sent (t : Traffic K) (place : Nat) (signature : String) (tx : Tx K) : Prop :=
  (place, ⟨.send tx, .ok (.ok signature)⟩) ∈ t.history

/-! ### Refusals -/

section Runs

variable {start : Chain K} {onTheWay : String → Option (Tx K)} {log : List (Acted K)} {t : Traffic K}

omit [DecidableEq K] in
theorem start_landed {signature : String} {tx : Tx K} : ¬Landed (.start start onTheWay) signature tx := by
  intro landed
  obtain ⟨other, -, same⟩ := Option.map_eq_some_iff.mp landed
  cases (Prod.mk.inj same).2

theorem meeting_follows (wf : start.programs.WellFormed) (run : Meeting start onTheWay log t) :
    Follows start t.world t.asked := by
  refine (follows_kept start).run run ⟨⟨[], wf, ?_, List.nodup_nil, ?_, fun _ held => held⟩, ?_, ?_⟩
  · exact (List.append_nil _).symm
  · intro h member
    cases member
  · exact fun signature tx landed => absurd landed start_landed
  · intro x member
    cases member

theorem meeting_ledger {ι : Type} {taken : Programs K → ι → Prop} {claims : Backend.Instruction K → Option ι}
    (claimed : Claimed taken claims) (wf : start.programs.WellFormed) (run : Meeting start onTheWay log t) :
    Ledger taken claims (.start start onTheWay) t.world := by
  refine (Ledger.keeps claimed _).run run ⟨wf, ?_, ?_, ?_, fun _ held => held⟩
  · exact fun signature tx landed => absurd landed start_landed
  · exact fun signature tx landed => absurd landed start_landed
  · exact fun signature _ tx _ landed => absurd landed start_landed

/-- A call that has ended ran from start to end, and what it saw is in the history. -/
theorem told_runs {place : Nat} {call : Call K} {reply : Reply K} (run : Meeting start onTheWay log t)
    (told : Told t place call reply) :
    ∃ asked, Runs call.program asked (.ok reply) ∧ ∀ x ∈ asked, (place, x) ∈ t.history := by
  obtain ⟨done, found⟩ := told
  obtain ⟨runs, rfl⟩ := (Pool.PoolRun.orderly run).ended found
  exact ⟨_, runs, fun x member => Pool.mem_history_of_logAt member⟩

/-- What was confirmed to a call has landed. -/
theorem confirmed_landed {place : Nat} {asked : List (Seen K)} {signature : String} {tx : Tx K}
    (follows : Follows start t.world t.asked) (known : ∀ x ∈ asked, (place, x) ∈ t.history)
    (confirmed : Confirmed asked signature tx) :
    Sent t place signature tx ∧ Landed t.world signature tx := by
  have sent := known _ confirmed.1
  obtain ⟨status, has⟩ := follows.known _ (List.mem_map_of_mem sent)
  obtain ⟨tx', landed⟩ := follows.known _ (List.mem_map_of_mem (known _ confirmed.2))
  rw [Landed, has] at landed
  refine ⟨sent, ?_⟩
  rw [Landed, has, (Prod.mk.inj (Option.some.inj landed)).2]

/-- What was confirmed to the caller of a payment. -/
theorem told_sent {place : Nat} {call : Call K} {signature : String} (wf : start.programs.WellFormed)
    (run : Meeting start onTheWay log t) (told : Told t place call (.paid signature)) :
    ∃ tx, Sent t place signature tx ∧ Landed t.world signature tx ∧ Pays call.vault call.items tx ∧
      ∀ service, call.recipient = some service → PaysTo service tx := by
  obtain ⟨asked, runs, known⟩ := told_runs run told
  obtain ⟨tx, confirmed, composed⟩ := told_paid runs
  obtain ⟨sent, landed⟩ := confirmed_landed (meeting_follows wf run) known confirmed
  exact ⟨tx, sent, landed, composed⟩

omit [DecidableEq K] in
/-- Under a signature there is one transaction. -/
theorem Landed.unique {signature : String} {tx tx' : Tx K} (landed : Landed net signature tx)
    (landed' : Landed net signature tx') : tx = tx' :=
  (Prod.mk.inj (Option.some.inj (landed.symm.trans landed'))).1

omit [DecidableEq K] [AddressSpace K] in
/-- The events say which payments were meant. -/
theorem Receipts.unique {vault vault' : K} {items items' : List (Nat × Hash)} {events : List (Event K)}
    (receipts : Receipts vault items events) (receipts' : Receipts vault' items' events)
    (some : items ≠ []) : vault = vault' ∧ items = items' := by
  have swapped : Function.Injective fun item : Nat × Hash => (item.2, item.1) := by
    rintro ⟨a, h⟩ ⟨a', h'⟩ same
    obtain ⟨rfl, rfl⟩ := Prod.mk.inj same
    rfl
  obtain rfl : items = items' :=
    List.map_injective_iff.mpr swapped (receipts.recorded.symm.trans receipts'.recorded)
  refine ⟨?_, rfl⟩
  have paid := receipts.paid.symm.trans receipts'.paid
  cases items with
  | nil => exact absurd rfl some
  | cons item rest =>
    rw [List.map_cons, List.map_cons] at paid
    exact (Prod.mk.inj (List.cons.inj paid).1).1

/-- A payment is made once: whatever clients see of it, however often they send it again, and
whoever sends it, a receipt is recorded once. Who is told that it paid finds under its signature
just the payments and receipts of its call. Who else is told so for one of these receipts has sent the
same bytes, and is told of the same transaction. -/
theorem payments_once (wf : start.programs.WellFormed) (run : Meeting start onTheWay log t) :
    (∃ events, t.world.chain.log.map Emitted.event = start.log.map Emitted.event ++ events ∧
      (events.filterMap receiptOf).Nodup ∧
      ∀ hash ∈ events.filterMap receiptOf, ¬Receipted start.programs hash) ∧
    (∀ place call signature, Told t place call (.paid signature) →
      Receipts call.vault call.items (loggedUnder t.world.chain signature) ∧
      (∀ service, call.recipient = some service →
        (loggedUnder t.world.chain signature).filterMap paidTo = [service]) ∧
      (call.items.map Prod.snd).Nodup ∧
      ∀ item ∈ call.items, ¬Receipted start.programs item.2) ∧
    ∀ i j call call' signature signature', Told t i call (.paid signature) →
      Told t j call' (.paid signature') → ∀ item ∈ call.items, ∀ item' ∈ call'.items, item.2 = item'.2 →
        signature = signature' ∧ call.vault = call'.vault ∧ call.items = call'.items ∧
          ∃ tx, Sent t i signature tx ∧ Sent t j signature tx := by
  have follows := meeting_follows wf run
  have ledger := meeting_ledger receipts_claimed wf run
  obtain ⟨events, since⟩ := follows.since
  -- What is told under a signature is read off the transaction that landed under it.
  have receipts : ∀ place call signature, Told t place call (.paid signature) →
      Receipts call.vault call.items (loggedUnder t.world.chain signature) ∧
      ∀ service, call.recipient = some service →
        (loggedUnder t.world.chain signature).filterMap paidTo = [service] := by
    intro place call signature told
    obtain ⟨tx, -, landed, pays, paysTo⟩ := told_sent wf run told
    obtain ⟨p, p', new, wf', executed, logged⟩ := follows.ran signature tx landed
    obtain ⟨emits, receipts⟩ := Receipts.of_pays pays wf' executed
    rw [logged.resolve_left emits]
    exact ⟨receipts, fun service known => paysTo_recipient (paysTo service known) wf' executed⟩
  refine ⟨⟨events, since.log, since.once, fun hash member => (since.held hash member).1⟩, ?_, ?_⟩
  · intro place call signature told
    obtain ⟨own, recipient⟩ := receipts place call signature told
    obtain ⟨tx, -, landed, pays, -⟩ := told_sent wf run told
    have once := ledger.once signature tx landed
    have held := ledger.held signature tx landed
    rw [pays.hashes] at once held
    exact ⟨own, recipient, once, fun item member => (held item.2 (List.mem_map_of_mem member)).1⟩
  · intro i j call call' signature signature' told told' item member item' member' same
    obtain ⟨tx, sent, landed, pays, -⟩ := told_sent wf run told
    obtain ⟨tx', sent', landed', pays', -⟩ := told_sent wf run told'
    -- Both transactions make the same receipt, and a receipt is made by one.
    have here : item.2 ∈ tx.instructions.filterMap makesReceipt := by
      rw [pays.hashes]
      exact List.mem_map_of_mem member
    have there : item.2 ∈ tx'.instructions.filterMap makesReceipt := by
      rw [pays'.hashes, same]
      exact List.mem_map_of_mem member'
    obtain rfl := ledger.alone _ _ _ _ landed landed' item.2 here there
    obtain rfl := landed.unique landed'
    obtain ⟨vaults, items⟩ := (receipts i call signature told).1.unique (receipts j call' signature told').1
      (List.ne_nil_of_mem member)
    exact ⟨rfl, vaults, items, tx, sent, sent'⟩

end Runs

/-! ### Two clients of a market -/

section Market

open Vault.Market SymbolicKey

theorem market_wellFormed : market.WellFormed where
  vault := (Vault.Market.reachable _).wellFormed
  reputation := Reputation.Run.wellFormed (.of_trace _ _ _) Reputation.Bazaar.genesis.wellFormed
  clock := rfl

abbrev MarketAction : Type := Pool.Action (Move SymbolicKey) (Outcome × String) (Call SymbolicKey) Stopped

/-- Nothing is on its way. -/
def fair : Net SymbolicKey := .start ⟨market, []⟩ fun _ => none

def fairAfter (acts : List MarketAction) : Traffic SymbolicKey :=
  acts.foldl (Transition.settle (Pool.step network Call.program)) (.start fair)

theorem fair_meeting (acts : List MarketAction) : Meeting ⟨market, []⟩ (fun _ => none)
    (Transition.trace (Pool.step network Call.program) (.start fair) acts) (fairAfter acts) :=
  .of_trace _ _ acts

def pays (amount : Nat) (n : UInt8) : Call SymbolicKey :=
  .pay marketSpender service (amount, Reputation.Bazaar.receiptHash n)

/-- The first payment lands unseen and is tried again with another blockhash. Then two calls compose
the same bytes, before either has landed. -/
def retried : List MarketAction :=
  [.start (pays 5 1), .turn 0 (.unseen, "a"), .move (.land "a"),
    .start (pays 5 1), .turn 1 (.answered, "b"),
    .start (pays 7 2), .start (pays 7 2), .turn 2 (.answered, "c"), .turn 3 (.answered, "c"),
    .move (.land "c"), .turn 2 (.answered, ""), .turn 3 (.answered, "")]

theorem payments_once_retried :
    Told (fairAfter retried) 0 (pays 5 1) (.failed (.rpc .transport)) ∧
      (∃ e, Told (fairAfter retried) 1 (pays 5 1) (.failed (.rpc (.refused e)))) ∧
      Told (fairAfter retried) 2 (pays 7 2) (.paid "c") ∧
      Told (fairAfter retried) 3 (pays 7 2) (.paid "c") ∧
      (∃ tx, Sent (fairAfter retried) 2 "c" tx ∧ Sent (fairAfter retried) 3 "c" tx) ∧
      Receipts marketSpender.vault [(7, Reputation.Bazaar.receiptHash 2)]
        (loggedUnder (fairAfter retried).world.chain "c") ∧
      ((fairAfter retried).world.chain.log.filterMap fun e => receiptOf e.event).Nodup := by
  have first : Told (fairAfter retried) 2 (pays 7 2) (.paid "c") := ⟨_, rfl⟩
  have second : Told (fairAfter retried) 3 (pays 7 2) (.paid "c") := ⟨_, rfl⟩
  obtain ⟨⟨events, logged, once, -⟩, paid, shared⟩ :=
    payments_once market_wellFormed (fair_meeting retried)
  obtain ⟨-, -, -, one⟩ := shared _ _ _ _ _ _ first second _ (List.mem_singleton_self _) _
    (List.mem_singleton_self _) rfl
  refine ⟨⟨_, rfl⟩, ⟨_, _, rfl⟩, first, second, one, (paid _ _ _ first).1, ?_⟩
  have same : (fairAfter retried).world.chain.log.map Emitted.event = events := logged
  rw [← same, List.filterMap_map] at once
  exact once

def asksFor (amount : Nat) : Call SymbolicKey := .request marketSpender service.key amount

/-- Two requests read the same count, and one of them is sent. -/
def crossed : List MarketAction :=
  [.start (asksFor 30), .start (asksFor 40), .turn 0 (.answered, ""), .turn 1 (.answered, ""),
    .turn 0 (.answered, "a"), .move (.land "a"), .turn 0 (.answered, "")]

/-- The transaction of the second, which has read the same count. -/
def behind : Tx SymbolicKey :=
  ⟨none, [requestSpendIx agent marketSpender.vault (associatedTokenAddress service.key usdc)
    (Vault.pendingAddress marketSpender.vault 0) 40]⟩

end Market

end AgentFuel.Clients.Calls
