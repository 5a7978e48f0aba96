import AgentFuel.Clients.ChainLog
import AgentFuel.Reputation.Ledger

/-!
# What the calls compose

A call sends one transaction at most, composed from its arguments and what it has read, and replies
with a success only once that transaction is confirmed. What such a transaction emits says which
payments it made, with which receipts, or which request.
-/
namespace AgentFuel.Clients.Calls

open Backend Checked Solana Dialogue

variable {K : Type} [DecidableEq K] [AddressSpace K] {net : Net K} {p p' : Programs K}
  {new : List (Event K)} {ix : Backend.Instruction K} {ixs : List (Backend.Instruction K)}

/-! ### What a payment emits -/

theorem execute_spend {ctx : Vault.Spend K} {x : Nat} (wf : p.WellFormed)
    (executed : p.execute (.vault (.spend ctx x)) = .ok (p', new)) :
    ∃ account total slot, p.vault.tokens.accounts ctx.serviceTokenAccount = some account ∧
      new = [.vault (.spent ctx.vault ctx.agent.key account.owner x total slot)] := by
  simp only [Programs.execute, Vault.Instruction.handler, Vault.Spend.handler, bind_eq_ok,
    mapError_eq_ok, pure_eq_ok, Prod.exists, Prod.mk.injEq] at executed
  obtain ⟨_, _, ⟨_, _, account, accounts, _, _, -, _, -, rfl, rfl⟩, -, rfl⟩ := executed
  obtain ⟨_, -, -, -, -, -, -, present⟩ := Vault.Spend.tryAccounts_ok wf.vault accounts
  exact ⟨account, _, _, present, rfl⟩

theorem execute_record {ctx : Reputation.RecordPayment K} {x : Nat} {hash : Hash}
    (wf : p.WellFormed)
    (executed : p.execute (.reputation (.recordPayment ctx x hash)) = .ok (p', new)) :
    ∃ agent pair slot,
      new = [.reputation (.paymentRecorded agent ctx.serviceRegistry x hash pair slot)] := by
  simp only [Programs.execute, Reputation.Instruction.handler, bind_eq_ok, mapError_eq_ok, pure_eq_ok,
    Prod.exists, Prod.mk.injEq] at executed
  obtain ⟨w, ev, handled, -, rfl⟩ := executed
  obtain ⟨profile, registry, -, -, rfl⟩ := (Reputation.RecordPayment.handler_ok wf.reputation ctx).mp handled
  exact ⟨_, _, _, rfl⟩

theorem execute_score {ctx : Reputation.ComputeScore K} (wf : p.WellFormed)
    (executed : p.execute (.reputation (.computeScore ctx)) = .ok (p', new)) :
    ∃ agent score slot, new = [.reputation (.scoreComputed agent score slot)] := by
  simp only [Programs.execute, Reputation.Instruction.handler, bind_eq_ok, mapError_eq_ok, pure_eq_ok,
    Prod.exists, Prod.mk.injEq] at executed
  obtain ⟨w, ev, handled, -, rfl⟩ := executed
  obtain ⟨profile, -, -, rfl⟩ := (ctx.handler_ok wf.reputation).mp handled
  exact ⟨_, _, _, rfl⟩

/-- A payment of some items out of a vault. -/
def Pays (vault : K) (items : List (Nat × Hash)) (tx : Tx K) : Prop :=
  ∃ (spend : Vault.Spend K) (record : Hash → Reputation.RecordPayment K)
    (score : Reputation.ComputeScore K), spend.vault = vault ∧
    tx.instructions = items.flatMap (fun item => [.vault (.spend spend item.1),
      .reputation (.recordPayment (record item.2) item.1 item.2)]) ++ [.reputation (.computeScore score)]

/-- What the events of such a payment say. -/
structure Receipts (vault : K) (items : List (Nat × Hash)) (events : List (Event K)) : Prop where
  paid : events.filterMap paidFrom = items.map fun item => (vault, item.1)
  recorded : events.filterMap recordedAmount = items.map fun item => (item.2, item.1)

theorem executeAll_cons : p.executeAll (ix :: ixs) = .ok (p', new) ↔
    ∃ next first later, p.execute ix = .ok (next, first) ∧ next.executeAll ixs = .ok (p', later) ∧
      new = first ++ later := by
  simp only [Programs.executeAll, bind_eq_ok, pure_eq_ok, Prod.exists, Prod.mk.injEq]
  constructor
  · rintro ⟨next, first, here, last, later, others, rfl, rfl⟩
    exact ⟨next, first, later, here, others, rfl⟩
  · rintro ⟨next, first, later, here, others, rfl⟩
    exact ⟨next, first, here, p', later, others, rfl, rfl⟩

theorem executeAll_items {items : List (Nat × Hash)} {spend : Vault.Spend K}
    {record : Hash → Reputation.RecordPayment K} {score : Reputation.ComputeScore K}
    (wf : p.WellFormed) (executed : p.executeAll (items.flatMap (fun item =>
      [.vault (.spend spend item.1), .reputation (.recordPayment (record item.2) item.1 item.2)]) ++
        [.reputation (.computeScore score)]) = .ok (p', new)) :
    new ≠ [] ∧ Receipts spend.vault items new := by
  induction items generalizing p new with
  | nil =>
    obtain ⟨next, first, later, here, others, rfl⟩ := executeAll_cons.mp executed
    obtain ⟨agent, value, slot, rfl⟩ := execute_score wf here
    obtain ⟨-, rfl⟩ := Prod.mk.inj (Except.ok.inj others)
    exact ⟨List.cons_ne_nil _ _, rfl, rfl⟩
  | cons item rest ih =>
    -- The payments first, one after the other; the score comes last and pays nobody.
    rw [List.flatMap_cons, List.append_assoc, List.cons_append, List.singleton_append] at executed
    obtain ⟨middle, first, later, spent, others, rfl⟩ := executeAll_cons.mp executed
    obtain ⟨next, second, last, recorded, final, rfl⟩ := executeAll_cons.mp others
    obtain ⟨account, total, slot, -, rfl⟩ := execute_spend wf spent
    have wf' := (wf.execute spent).1
    obtain ⟨agent, pair, slot', rfl⟩ := execute_record wf' recorded
    obtain ⟨-, paid, receipts⟩ := ih (wf'.execute recorded).1 final
    refine ⟨List.cons_ne_nil _ _, ?_, ?_⟩
    · rw [List.map_cons, ← paid]
      rfl
    · rw [List.map_cons, ← receipts]
      rfl

theorem execute_open {payer : Signer K} {wallet mint : K}
    (executed : p.execute (.token (.createAssociatedToken payer wallet mint)) = .ok (p', new)) :
    new = [] ∧ Opened p' wallet mint := by
  simp only [Programs.execute, Vault.step, bind_eq_ok, mapError_eq_ok, map_eq_ok, pure_eq_ok,
    Prod.mk.injEq] at executed
  obtain ⟨w, ⟨tokens, opened, rfl⟩, rfl, rfl⟩ := executed
  obtain ⟨-, -, rfl⟩ := TokenLedger.openAccount_ok opened
  refine ⟨rfl, { mint, owner := wallet, amount := 0 }, ?_, rfl, rfl⟩
  simp [Vault.World.setTokens, TokenLedger.setAccount]

/-- Opening the token account emits nothing. -/
theorem executeAll_resolve {tx : Tx K} (wf : p.WellFormed)
    (executed : p.executeAll (tx.resolve p) = .ok (p', new)) :
    ∃ q, q.WellFormed ∧ q.executeAll tx.instructions = .ok (p', new) ∧
      ∀ payer wallet mint, tx.opens = some (payer, wallet, mint) → Opened q wallet mint := by
  unfold Tx.resolve at executed
  split at executed
  next none =>
    refine ⟨p, wf, executed, fun payer wallet mint opens => ?_⟩
    rw [none] at opens
    cases opens
  next payer wallet mint opens =>
    split at executed
    next opened =>
      refine ⟨p, wf, executed, fun payer' wallet' mint' opens' => ?_⟩
      obtain ⟨rfl, rfl⟩ := Prod.mk.inj (Prod.mk.inj (Option.some.inj (opens.symm.trans opens'))).2
      exact opened
    · obtain ⟨next, first, later, here, others, rfl⟩ := executeAll_cons.mp executed
      have opened := execute_open here
      refine ⟨next, (wf.execute here).1, ?_, fun payer' wallet' mint' opens' => ?_⟩
      · rw [opened.1]
        exact others
      · obtain ⟨rfl, rfl⟩ := Prod.mk.inj (Prod.mk.inj (Option.some.inj (opens.symm.trans opens'))).2
        exact opened.2

/-! ### What a client has sent when it replies -/

/-- The node took the transaction under this signature and has confirmed it. -/
def Confirmed (asked : List (Seen K)) (signature : String) (tx : Tx K) : Prop :=
  ⟨.send tx, .ok (.ok signature)⟩ ∈ asked ∧ ⟨.confirm signature, .ok (.ok ())⟩ ∈ asked

/-- Every transaction is one that the call composes, and a reply other than a failure says that it
was confirmed. -/
def Tells (composes : Tx K → (String → Reply K) → Prop) (asked : List (Seen K))
    (result : Except Stopped (Reply K)) : Prop :=
  (∀ tx r, ⟨.send tx, r⟩ ∈ asked → ∃ reply, composes tx reply) ∧
    ∀ told, result = .ok told → (∃ e, told = .failed e) ∨ ∃ tx signature reply,
      Confirmed asked signature tx ∧ composes tx reply ∧ told = reply signature

def Sends (composes : Tx K → (String → Reply K) → Prop) (x : Client K (Reply K)) : Prop :=
  ∀ asked result, Runs x asked result → Tells composes asked result

/-- What only reads. -/
def Reads : Query K → Prop
  | .send _ => False
  | .confirm _ => False
  | _ => True

section Sends

omit [DecidableEq K]

variable {composes composes' : Tx K → (String → Reply K) → Prop} {asked : List (Seen K)}
  {result : Except Stopped (Reply K)}

theorem Tells.mono (tells : Tells composes asked result)
    (weaker : ∀ tx reply, composes tx reply → composes' tx reply) : Tells composes' asked result := by
  refine ⟨fun tx r member => ?_, fun told same => ?_⟩
  · obtain ⟨reply, composed⟩ := tells.1 tx r member
    exact ⟨reply, weaker tx reply composed⟩
  · rcases tells.2 told same with failed | ⟨tx, signature, reply, inside, composed, same⟩
    · exact .inl failed
    · exact .inr ⟨tx, signature, reply, inside, weaker tx reply composed, same⟩

theorem Confirmed.after {signature : String} {tx : Tx K} (confirmed : Confirmed asked signature tx)
    (before : List (Seen K)) : Confirmed (before ++ asked) signature tx :=
  ⟨List.mem_append_right _ confirmed.1, List.mem_append_right _ confirmed.2⟩

/-- What is read before adds nothing. -/
theorem Tells.after {before : List (Seen K)} (quiet : ∀ tx r, (⟨.send tx, r⟩ : Seen K) ∉ before)
    (tells : Tells composes asked result) : Tells composes (before ++ asked) result := by
  refine ⟨fun tx r member => ?_, fun told same => ?_⟩
  · rcases List.mem_append.mp member with here | there
    · exact absurd here (quiet tx r)
    · exact tells.1 tx r there
  · rcases tells.2 told same with failed | ⟨tx, signature, reply, inside, composed, same⟩
    · exact .inl failed
    · exact .inr ⟨tx, signature, reply, inside.after before, composed, same⟩

theorem sends_failed (e : CallError K) : Sends composes (pure (.failed e)) := by
  intro asked result runs
  obtain ⟨rfl, rfl⟩ := runs_pure.mp runs
  refine ⟨(fun tx r member => by cases member), fun told same => ?_⟩
  obtain rfl := Except.ok.inj same
  exact .inl ⟨e, rfl⟩

theorem sends_confirm {tx : Tx K} {reply : String → Reply K} (composed : composes tx reply) :
    Sends composes (sendAndConfirm tx reply) := by
  -- Only the transaction itself is sent, whatever comes after it.
  have only : ∀ r (rest : List (Seen K)), (∀ x ∈ rest, ∃ signature, x.question = .confirm signature) →
      ∀ other r', ⟨.send other, r'⟩ ∈ (⟨.send tx, r⟩ : Seen K) :: rest → ∃ reply, composes other reply := by
    intro r rest confirms other r' member
    rcases List.mem_cons.mp member with here | later
    · obtain rfl := Query.send.inj (Exchange.mk.inj here).1
      exact ⟨reply, composed⟩
    · obtain ⟨signature, same⟩ := confirms _ later
      cases same
  intro asked result runs
  rcases runs_bind.mp runs with ⟨e, first, rfl⟩ | ⟨answer, before, after, rfl, first, rest⟩
  · rw [ask, runs_question] at first
    subst first
    exact ⟨only _ [] (fun x none => by cases none), fun told same => by cases same⟩
  · rw [ask, runs_question] at first
    subst first
    cases answer with
    | error e =>
      obtain ⟨rfl, rfl⟩ := runs_pure.mp rest
      exact ⟨only _ [] (fun x none => by cases none), fun told same => .inl ⟨_, (Except.ok.inj same).symm⟩⟩
    | ok signature =>
      rcases runs_bind.mp rest with ⟨e, second, rfl⟩ | ⟨status, before, after, rfl, second, final⟩
      · rw [ask, runs_question] at second
        subst second
        refine ⟨only _ _ fun x member => ⟨signature, ?_⟩, fun told same => by cases same⟩
        exact congrArg Exchange.question (List.mem_singleton.mp member)
      · rw [ask, runs_question] at second
        subst second
        have ended : after = [] := by
          cases status <;> exact (runs_pure.mp final).1
        subst ended
        refine ⟨only _ _ fun x member => ⟨signature, ?_⟩, fun told same => ?_⟩
        · exact congrArg Exchange.question (List.mem_singleton.mp member)
        · subst same
          cases status with
          | error e => exact .inl ⟨_, Except.ok.inj (runs_pure.mp final).2⟩
          | ok _ =>
            refine .inr ⟨tx, signature, reply, ⟨?_, ?_⟩, composed, Except.ok.inj (runs_pure.mp final).2⟩
            · exact List.mem_cons_self
            · exact List.mem_cons_of_mem _ List.mem_cons_self

theorem only_reads_quiet {A : Type} {x : Client K A} {stopped : Except Stopped A}
    (reads : Pool.Only Reads x) (runs : Runs x asked stopped) :
    ∀ tx r, (⟨.send tx, r⟩ : Seen K) ∉ asked := fun _ _ member => reads.runs runs _ member

theorem sends_bind {A : Type} {x : Client K A} {next : A → Client K (Reply K)} (reads : Pool.Only Reads x)
    (rest : ∀ a, Sends composes (next a)) : Sends composes (x >>= next) := by
  intro asked result runs
  rcases runs_bind.mp runs with ⟨e, first, rfl⟩ | ⟨a, before, after, rfl, first, later⟩
  · refine ⟨fun tx r member => absurd member (only_reads_quiet reads first tx r), ?_⟩
    rintro told ⟨⟩
  · exact (rest a after result later).after (only_reads_quiet reads first)

theorem sends_fetched {A : Type} {address : K} {read : Client K (Except RpcError (Option A))}
    {next : A → Client K (Reply K)} (reads : Pool.Only Reads read)
    (rest : ∀ a, Sends composes (next a)) : Sends composes (fetched address read next) := by
  refine sends_bind reads fun outcome => ?_
  match outcome with
  | .error e => exact sends_failed _
  | .ok none => exact sends_failed _
  | .ok (some account) => exact rest account

theorem reads_vault (address : K) : Pool.Only Reads (ask (.vault address)) :=
  Pool.only_question (show Reads (.vault address) from trivial)

theorem reads_policy (address : K) : Pool.Only Reads (ask (.policy address)) :=
  Pool.only_question (show Reads (.policy address) from trivial)

theorem reads_slot : Pool.Only Reads (ask (K := K) .slot) :=
  Pool.only_question (show Reads (.slot : Query K) from trivial)

/-- Whatever the order of the answers is. -/
theorem reads_fetchAll (vaultAddr policyAddr : K) (order : TypeScript.ReadOrder) :
    Pool.Only Reads (TypeScript.fetchAll vaultAddr policyAddr order) := by
  have vault := reads_vault vaultAddr
  have policy := reads_policy policyAddr
  have slot := reads_slot (K := K)
  cases order with
  | vaultPolicySlot =>
    exact vault.bind fun v => policy.bind fun p => slot.bind fun s => Pool.only_pure _
  | vaultSlotPolicy =>
    exact vault.bind fun v => slot.bind fun s => policy.bind fun p => Pool.only_pure _
  | policyVaultSlot =>
    exact policy.bind fun p => vault.bind fun v => slot.bind fun s => Pool.only_pure _
  | policySlotVault =>
    exact policy.bind fun p => slot.bind fun s => vault.bind fun v => Pool.only_pure _
  | slotVaultPolicy =>
    exact slot.bind fun s => vault.bind fun v => policy.bind fun p => Pool.only_pure _
  | slotPolicyVault =>
    exact slot.bind fun s => policy.bind fun p => vault.bind fun v => Pool.only_pure _

/-- The rest knows the vault that was read. -/
theorem fetched_tells (composes : Vault.CreditVault K → Tx K → (String → Reply K) → Prop) {address : K}
    {next : Vault.CreditVault K → Client K (Reply K)} (rest : ∀ vault, Sends (composes vault) (next vault))
    (runs : Runs (fetched address (ask (.vault address)) next) asked result) :
    Tells (fun tx reply => ∃ vault, ⟨.vault address, .ok (.ok (some vault))⟩ ∈ asked ∧
      composes vault tx reply) asked result := by
  have reads := reads_vault address
  rcases runs_bind.mp runs with ⟨e, first, rfl⟩ | ⟨a, before, after, rfl, first, later⟩
  · refine ⟨fun tx r member => absurd member (only_reads_quiet reads first tx r), ?_⟩
    rintro told ⟨⟩
  · have quiet := only_reads_quiet reads first
    obtain rfl : before = [⟨.vault address, .ok a⟩] := runs_question.mp first
    match a with
    | .error e => exact (sends_failed (.rpc e) after result later).after quiet
    | .ok none => exact (sends_failed (.accountNotFound address) after result later).after quiet
    | .ok (some vault) =>
      refine (rest vault after result later).after quiet |>.mono fun tx reply composed => ?_
      exact ⟨vault, List.mem_append_left _ (List.mem_singleton_self _), composed⟩

end Sends

/-! ### The calls -/

def Call.vault : Call K → K
  | pythonPay agent _ owner _ _ => findProgramAddress (.vault owner agent.key)
  | typescriptPay _ agent _ owner _ _ => findProgramAddress (.vault owner agent.key)
  | pay spender _ _ => spender.vault
  | payBatch spender _ _ => spender.vault
  | pythonRequest agent owner _ _ => findProgramAddress (.vault owner agent.key)
  | typescriptRequest agent owner _ _ => findProgramAddress (.vault owner agent.key)
  | request spender _ _ => spender.vault

/-- The amounts a call pays, each with its receipt hash. -/
def Call.items : Call K → List (Nat × Hash)
  | pythonPay _ _ _ amountUsdc receiptHash =>
    (hashOf receiptHash).toList.map fun hash => (amountUsdc.toNat, hash)
  | typescriptPay _ _ _ _ amountUsdc receiptHash =>
    (hashOf receiptHash).toList.map fun hash => (amountUsdc.toNat, hash)
  | pay _ _ item => [item]
  | payBatch _ _ items => items
  | _ => []

/-- Whose account a call makes sure of before it pays into it. -/
def Call.recipient : Call K → Option K
  | pythonPay _ service _ _ _ => some service.key
  | typescriptPay _ _ service _ _ _ => some service.key
  | _ => none

/-- The amount a call asks for. -/
def Call.requested : Call K → Option Nat
  | pythonRequest _ _ _ amountUsdc => some amountUsdc.toNat
  | typescriptRequest _ _ _ amountUsdc => some amountUsdc.toNat
  | request _ _ amountMicro => some amountMicro
  | _ => none

/-- A payment into an account that is the service's when it is paid. -/
def PaysTo (service : K) (tx : Tx K) : Prop :=
  ∃ payer mint spend amount record hash score, tx.opens = some (payer, service, mint) ∧
    spend.serviceTokenAccount = associatedTokenAddress service mint ∧
    tx.instructions = [.vault (.spend spend amount), .reputation (.recordPayment record amount hash),
      .reputation (.computeScore score)]

theorem paysTo_recipient {service : K} {tx : Tx K} (pays : PaysTo service tx) (wf : p.WellFormed)
    (executed : p.executeAll (tx.resolve p) = .ok (p', new)) : new.filterMap paidTo = [service] := by
  obtain ⟨payer, mint, spend, amount, record, hash, score, opens, account, instructions⟩ := pays
  obtain ⟨q, wf, executed, opened⟩ := executeAll_resolve wf executed
  obtain ⟨held, there, own, -⟩ := opened payer service mint opens
  rw [instructions] at executed
  obtain ⟨middle, first, later, spent, others, rfl⟩ := executeAll_cons.mp executed
  obtain ⟨next, second, last, recorded, others', rfl⟩ := executeAll_cons.mp others
  obtain ⟨end_, third, none, scored, final, rfl⟩ := executeAll_cons.mp others'
  obtain ⟨dst, total, slot, present, rfl⟩ := execute_spend wf spent
  have wf' := (wf.execute spent).1
  obtain ⟨agent, pair, slot', rfl⟩ := execute_record wf' recorded
  obtain ⟨agent', value, slot'', rfl⟩ := execute_score (wf'.execute recorded).1 scored
  obtain ⟨-, rfl⟩ := Prod.mk.inj (Except.ok.inj final)
  rw [account, there] at present
  obtain rfl := Option.some.inj present
  subst own
  rfl

/-- What a payment call composes. -/
def Call.pays (call : Call K) (tx : Tx K) (reply : String → Reply K) : Prop :=
  reply = .paid ∧ Pays call.vault call.items tx ∧
    ∀ service, call.recipient = some service → PaysTo service tx

/-- What a request composes from the number it has read. -/
def Call.requests (call : Call K) (nonce : Nat) (tx : Tx K) (reply : String → Reply K) : Prop :=
  ∃ agent purse amount, call.requested = some amount ∧
    tx = ⟨none, [requestSpendIx agent call.vault purse (Vault.pendingAddress call.vault nonce) amount]⟩ ∧
    reply = fun signature => .requested signature (Vault.pendingAddress call.vault nonce) nonce

omit [DecidableEq K] in
theorem payment_pays (agent service : Signer K) (owner mint purse : K) (amount : Nat) (hash : Hash) :
    Pays (findProgramAddress (.vault owner agent.key)) [(amount, hash)]
        (payment agent service owner mint purse amount hash) ∧
      PaysTo service.key (payment agent service owner mint purse amount hash) := by
  let spender : Spender K := ⟨agent, owner, mint⟩
  refine ⟨⟨{ spender.spend service.key with vaultTokenAccount := purse }, spender.record service,
    ⟨agent, spender.agentProfile⟩, rfl, rfl⟩, ?_⟩
  exact ⟨agent, mint, { spender.spend service.key with vaultTokenAccount := purse }, amount,
    spender.record service hash, hash, ⟨agent, spender.agentProfile⟩, rfl, rfl, rfl⟩

omit [DecidableEq K] in
theorem one_item {bytes : List UInt8} {hash : Hash} {amount : Nat} (found : hashOf bytes = some hash) :
    (hashOf bytes).toList.map (fun hash => (amount, hash)) = [(amount, hash)] := by
  rw [found]
  rfl

/-- Whatever is read before, a payment call sends its payment. -/
theorem sends_pays (call : Call K) (pays : call.requested = none) : Sends call.pays call.program := by
  cases call with
  | pythonPay agent service owner amountUsdc receiptHash =>
    change Sends _ (Python.pay agent service owner amountUsdc receiptHash)
    unfold Python.pay
    -- A call that is refused on the way sends nothing; past all checks it sends the payment.
    split
    · exact sends_failed _
    · split
      · exact sends_failed _
      next hash found =>
        refine sends_fetched (reads_vault _) fun rawVault => sends_fetched (reads_policy _) fun rawPolicy => ?_
        refine sends_bind reads_slot fun slot => ?_
        match slot with
        | .error e => exact sends_failed _
        | .ok currentSlot =>
          dsimp only
          split
          · exact sends_failed _
          · split
            · exact sends_failed _
            · obtain ⟨composed, paysTo⟩ := payment_pays agent service owner rawVault.usdcMint
                rawVault.vaultTokenAccount amountUsdc.toNat hash
              refine sends_confirm ⟨rfl, ?_, ?_⟩
              · rw [Call.items, one_item found]
                exact composed
              · rintro _ ⟨⟩
                exact paysTo
  | typescriptPay order agent service owner amountUsdc receiptHash =>
    change Sends _ (TypeScript.pay order agent service owner amountUsdc receiptHash)
    unfold TypeScript.pay
    split
    · exact sends_failed _
    · split
      · exact sends_failed _
      next hash found =>
        refine sends_bind (reads_fetchAll _ _ order) fun fetched => ?_
        split
        · exact sends_failed _
        · exact sends_failed _
        · exact sends_failed _
        next rawVault rawPolicy currentSlot _ =>
          split
          · exact sends_failed _
          · split
            · exact sends_failed _
            · split
              · exact sends_failed _
              · obtain ⟨composed, paysTo⟩ := payment_pays agent service owner rawVault.usdcMint
                  rawVault.vaultTokenAccount amountUsdc.toNat hash
                refine sends_confirm ⟨rfl, ?_, ?_⟩
                · rw [Call.items, one_item found]
                  exact composed
                · rintro _ ⟨⟩
                  exact paysTo
  | pay spender service item =>
    refine sends_confirm ⟨rfl, ?_, ?_⟩
    · exact ⟨spender.spend service.key, spender.record service, ⟨spender.agent, spender.agentProfile⟩, rfl, rfl⟩
    · rintro _ ⟨⟩
  | payBatch spender service items =>
    change Sends _ (Runtime.payBatch spender service items)
    unfold Runtime.payBatch
    split
    · exact sends_failed _
    · refine sends_confirm ⟨rfl, ?_, ?_⟩
      · exact ⟨spender.spend service.key, spender.record service, ⟨spender.agent, spender.agentProfile⟩, rfl, rfl⟩
      · rintro _ ⟨⟩
  | _ => cases pays

/-- A request takes the count of the vault that it has read. -/
theorem tells_requests {call : Call K} {amount : Nat} (asks : call.requested = some amount)
    {asked : List (Seen K)} {result : Except Stopped (Reply K)} (runs : Runs call.program asked result) :
    Tells (fun tx reply => ∃ vault, ⟨.vault call.vault, .ok (.ok (some vault))⟩ ∈ asked ∧
      call.requests vault.pendingCount tx reply) asked result := by
  cases call with
  | pythonRequest agent owner service amountUsdc =>
    change Runs (Python.requestSpend agent owner service amountUsdc) asked result at runs
    unfold Python.requestSpend at runs
    split at runs
    · exact sends_failed _ asked result runs
    · refine fetched_tells (fun vault => (Call.pythonRequest agent owner service amountUsdc).requests
        vault.pendingCount) (fun vault => ?_) runs
      dsimp only
      split
      · exact sends_failed _
      · exact sends_confirm ⟨agent, _, _, rfl, rfl, rfl⟩
  | typescriptRequest agent owner service amountUsdc =>
    change Runs (TypeScript.requestSpend agent owner service amountUsdc) asked result at runs
    unfold TypeScript.requestSpend at runs
    split at runs
    · exact sends_failed _ asked result runs
    · refine fetched_tells (fun vault => (Call.typescriptRequest agent owner service amountUsdc).requests
        vault.pendingCount) (fun vault => ?_) runs
      split
      · exact sends_failed _
      next account decoded =>
        have nonce : account.pendingCount.toNat = vault.pendingCount := by
          rw [decodeCreditVault_eq decoded]
          rfl
        dsimp only
        rw [nonce]
        split
        · exact sends_failed _
        · exact sends_confirm ⟨agent, _, _, rfl, rfl, rfl⟩
  | request spender service amountMicro =>
    refine fetched_tells (fun vault => (Call.request spender service amountMicro).requests
        vault.pendingCount) (fun vault => ?_) runs
    exact sends_confirm ⟨spender.agent, _, _, rfl, rfl, rfl⟩
  | _ => cases asks

/-! ### What callers are told -/

theorem told_paid {call : Call K} {asked : List (Seen K)} {signature : String}
    (runs : Runs call.program asked (.ok (.paid signature))) :
    ∃ tx, Confirmed asked signature tx ∧ Pays call.vault call.items tx ∧
      ∀ service, call.recipient = some service → PaysTo service tx := by
  cases asks : call.requested with
  | none =>
    rcases (sends_pays call asks _ _ runs).2 _ rfl with ⟨e, same⟩ |
      ⟨tx, said, reply, inside, ⟨rfl, pays, paysTo⟩, same⟩
    · cases same
    · obtain rfl := Reply.paid.inj same
      exact ⟨tx, inside, pays, paysTo⟩
  | some amount =>
    rcases (tells_requests asks runs).2 _ rfl with ⟨e, same⟩ |
      ⟨tx, said, reply, -, ⟨vault, -, agent, purse, amount, -, -, rfl⟩, same⟩
    · cases same
    · cases same

omit [DecidableEq K] in
/-- A payment makes the receipts of its items. -/
theorem Pays.hashes {vault : K} {items : List (Nat × Hash)} {tx : Tx K} (pays : Pays vault items tx) :
    tx.instructions.filterMap makesReceipt = items.map Prod.snd := by
  obtain ⟨spend, record, score, -, instructions⟩ := pays
  rw [instructions]
  clear instructions
  induction items with
  | nil => rfl
  | cons item rest ih =>
    rw [List.flatMap_cons, List.append_assoc, List.filterMap_append, ih]
    rfl

theorem Receipts.of_pays {vault : K} {items : List (Nat × Hash)} {tx : Tx K} (pays : Pays vault items tx)
    (wf : p.WellFormed) (executed : p.executeAll (tx.resolve p) = .ok (p', new)) :
    new ≠ [] ∧ Receipts vault items new := by
  obtain ⟨spend, record, score, rfl, instructions⟩ := pays
  obtain ⟨q, wf, executed, -⟩ := executeAll_resolve wf executed
  rw [instructions] at executed
  exact executeAll_items wf executed

/-- Somebody else has taken the number meanwhile: the derivation of the address fails. -/
theorem request_refused {w : Vault.World K} {ctx : Vault.RequestSpend K} {x n : Nat}
    {vault : Vault.CreditVault K} {purse : TokenAccount K} (wf : Vault.WellFormed w)
    (held : w.vaults ctx.vault = some vault)
    (account : w.tokens.accounts ctx.serviceTokenAccount = some purse)
    (address : ctx.pendingSpend = Vault.pendingAddress ctx.vault n) :
    ctx.handler w x = .error (.anchor .constraintSeeds) ↔ n ≠ vault.pendingCount := by
  obtain ⟨s, rfl, shows⟩ := wf.shown _ _ held
  have seeds : Vault.requireVaultSeeds ctx.vault s.vault = .ok () := by
    rw [Vault.requireVaultSeeds_eq_ok, shows.identity.bump]
    exact shows.identity.address
  unfold Vault.RequestSpend.handler Vault.RequestSpend.tryAccounts Vault.requireInit
  rw [(Vault.World.loadVault_eq_ok ..).mpr held, (Vault.World.loadToken_eq_ok ..).mpr account]
  simp only [address, Vault.pendingAddress, findProgramAddress_inj, Seeds.pending.injEq, true_and]
  by_cases same : n = s.vault.pendingCount
  · -- Every later check fails with another error.
    simp [same, seeds, bind_eq_error, require_eq_error, okOr_eq_error, map_eq_error]
  · simp [same, bind_eq_error, require_eq_error]

end AgentFuel.Clients.Calls
