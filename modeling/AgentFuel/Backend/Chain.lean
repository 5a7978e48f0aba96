import AgentFuel.Backend.Decoder
import AgentFuel.Backend.Ingest
import AgentFuel.Backend.LogTree
import AgentFuel.Reputation.Recorded
import AgentFuel.Vault.Recorded

/-!
# The chain that is indexed

Transactions run instructions of the two programs and of the token program, all or none, and
leave their events in the order they were emitted. Slots never go back; a signature is used
once. An event is known by its transaction and its place among the events of that.
-/
namespace AgentFuel.Backend

open Checked Solana

/-- The accounts of both programs. -/
structure Programs (K : Type) where
  vault : Vault.World K
  reputation : Reputation.World K

/-- Instructions of all other programs change nothing here. -/
inductive Instruction (K : Type) [AddressSpace K] where
  | vault (ix : Vault.Instruction K)
  | reputation (ix : Reputation.Instruction K)
  | token (ix : TokenInstruction K)

inductive ChainError where
  | vault (e : Vault.ProgramError)
  | reputation (e : Reputation.ProgramError)
  | duplicate
  deriving DecidableEq, Repr

/-- An event where it stands on the chain. -/
structure Emitted (K : Type) where
  signature : String
  slot : Nat
  logIndex : Nat
  event : Event K

/-- The accounts, and the events so far in chain order. -/
structure Chain (K : Type) where
  programs : Programs K
  log : List (Emitted K)

inductive ChainAction (K : Type) [AddressSpace K] where
  | transaction (signature : String) (instructions : List (Instruction K))
  | advance (slots : Nat)

def Event.slot {K : Type} : Event K → Nat
  | vault event => event.slot
  | reputation event => event.slot

def Event.asVault {K : Type} : Event K → Option (Vault.VaultEvent K)
  | vault event => some event
  | reputation _ => none

def Event.asReputation {K : Type} : Event K → Option (Reputation.ReputationEvent K)
  | vault _ => none
  | reputation event => some event

theorem Event.asVault_eq_some {K : Type} {event : Event K} {ev : Vault.VaultEvent K} :
    event.asVault = some ev ↔ event = .vault ev := by
  cases event <;> simp [asVault]

theorem Event.asReputation_eq_some {K : Type} {event : Event K} {ev : Reputation.ReputationEvent K} :
    event.asReputation = some ev ↔ event = .reputation ev := by
  cases event <;> simp [asReputation]

section Execution

variable {K : Type} [DecidableEq K] [AddressSpace K]

def Programs.execute (p : Programs K) :
    Instruction K → Except ChainError (Programs K × List (Event K))
  | .vault ix => do
    let (vault, event) ← (ix.handler p.vault).mapError .vault
    pure ({ p with vault }, [.vault event])
  | .reputation ix => do
    let (reputation, event) ← (ix.handler p.reputation).mapError .reputation
    pure ({ p with reputation }, [.reputation event])
  | .token ix => do
    let vault ← (Vault.step p.vault (.token ix)).mapError .vault
    pure ({ p with vault }, [])

/-- The first instruction that fails fails the transaction. -/
def Programs.executeAll (p : Programs K) :
    List (Instruction K) → Except ChainError (Programs K × List (Event K))
  | [] => pure (p, [])
  | ix :: rest => do
    let (next, events) ← p.execute ix
    let (last, later) ← next.executeAll rest
    pure (last, events ++ later)

def Programs.advance (p : Programs K) (slots : Nat) : Programs K where
  vault := { p.vault with slot := p.vault.slot + slots }
  reputation := { p.reputation with slot := p.reputation.slot + slots }

/-- The events of one transaction, numbered from zero. -/
def emitted (signature : String) (slot : Nat) (events : List (Event K)) : List (Emitted K) :=
  events.zipIdx.map fun (event, logIndex) => ⟨signature, slot, logIndex, event⟩

def Chain.step (chain : Chain K) : ChainAction K → Except ChainError (Chain K)
  | .transaction signature instructions => do
    require (signature ∉ chain.log.map Emitted.signature) .duplicate
    let (programs, events) ← chain.programs.executeAll instructions
    pure ⟨programs, chain.log ++ emitted signature chain.programs.vault.slot events⟩
  | .advance slots => pure { chain with programs := chain.programs.advance slots }

end Execution

variable {K : Type} [DecidableEq K] [AddressSpace K] {p p' : Programs K}
  {events new : List (Event K)} {ix : Instruction K} {chain chain' : Chain K}

structure Genesis (chain : Chain K) : Prop where
  vault : Vault.Genesis chain.programs.vault
  reputation : Reputation.Genesis chain.programs.reputation
  clock : chain.programs.vault.slot = chain.programs.reputation.slot
  log : chain.log = []

/-- Every instruction that runs meets a condition on the accounts it finds. -/
def Programs.Meets (condition : Programs K → Instruction K → Prop) (p : Programs K) :
    List (Instruction K) → Prop
  | [] => True
  | ix :: rest => condition p ix ∧ ∀ p' new, p.execute ix = .ok (p', new) → p'.Meets condition rest

/-- The condition on every instruction of a step. -/
def Chain.Meets (condition : Programs K → Instruction K → Prop) (chain : Chain K) :
    ChainAction K → Prop
  | .transaction _ instructions => chain.programs.Meets condition instructions
  | .advance _ => True

instance Programs.decidableMeets {condition : Programs K → Instruction K → Prop}
    [∀ p ix, Decidable (condition p ix)] (p : Programs K) (instructions : List (Instruction K)) :
    Decidable (p.Meets condition instructions) :=
  match instructions with
  | [] => isTrue trivial
  | ix :: rest =>
    match outcome : p.execute ix with
    | .error _ => decidable_of_iff (condition p ix)
      ⟨fun holds => ⟨holds, fun _ _ done => by rw [outcome] at done; cases done⟩, And.left⟩
    | .ok (next, new) =>
      have : Decidable (next.Meets condition rest) := Programs.decidableMeets next rest
      decidable_of_iff (condition p ix ∧ next.Meets condition rest)
        ⟨fun holds => ⟨holds.1, fun _ _ done => by
          rw [outcome] at done
          cases done
          exact holds.2⟩, fun meets => ⟨meets.1, meets.2 next new outcome⟩⟩

instance {condition : Programs K → Instruction K → Prop} [∀ p ix, Decidable (condition p ix)]
    (chain : Chain K) (act : ChainAction K) : Decidable (chain.Meets condition act) :=
  match act with
  | .transaction _ instructions => inferInstanceAs (Decidable (chain.programs.Meets condition instructions))
  | .advance _ => isTrue trivial

/-- Some run of steps that meet the condition leads here. -/
def ReachableBy (condition : Programs K → Instruction K → Prop) (chain : Chain K) : Prop :=
  ∃ start log, Genesis start ∧ Transition.Run Chain.step start log chain ∧
    ∀ e ∈ log, e.pre.Meets condition e.act

def Reachable (chain : Chain K) : Prop := ReachableBy (fun _ _ => True) chain

/-! ### Induction over instructions -/

theorem Programs.meets_trivial (p : Programs K) (instructions : List (Instruction K)) :
    p.Meets (fun _ _ => True) instructions := by
  induction instructions generalizing p with
  | nil => trivial
  | cons ix rest ih => exact ⟨trivial, fun p' _ _ => ih p'⟩

theorem Chain.meets_trivial (chain : Chain K) (act : ChainAction K) :
    chain.Meets (fun _ _ => True) act := by
  cases act with
  | transaction _ instructions => exact chain.programs.meets_trivial instructions
  | advance => trivial

theorem Programs.executeAll_induction {condition : Programs K → Instruction K → Prop}
    {P : Programs K → List (Event K) → Prop}
    (keep : ∀ p events ix p' new, condition p ix → P p events → p.execute ix = .ok (p', new) →
      P p' (events ++ new))
    {instructions : List (Instruction K)} (meets : p.Meets condition instructions)
    (executed : p.executeAll instructions = .ok (p', new)) (holds : P p events) :
    P p' (events ++ new) := by
  induction instructions generalizing p events new with
  | nil =>
    obtain ⟨rfl, rfl⟩ := Prod.mk.inj (Except.ok.inj executed)
    rw [List.append_nil]
    exact holds
  | cons ix rest ih =>
    obtain ⟨⟨next, first⟩, here, executed⟩ := (bind_eq_ok _ _ _).mp executed
    obtain ⟨⟨last, later⟩, others, executed⟩ := (bind_eq_ok _ _ _).mp executed
    obtain ⟨rfl, rfl⟩ := Prod.mk.inj (Except.ok.inj executed)
    rw [← List.append_assoc]
    exact ih (meets.2 next first here) others (keep p events ix next first meets.1 holds here)

omit [DecidableEq K] [AddressSpace K] in
theorem emitted_event (signature : String) (slot : Nat) (events : List (Event K)) :
    (emitted signature slot events).map Emitted.event = events := by
  rw [emitted, List.map_map]
  exact List.zipIdx_map_fst 0 events

/-- A step moves the clock, or appends the events of a transaction. -/
theorem Chain.step_cases {act : ChainAction K} (fired : chain.step act = .ok chain') :
    (∃ slots, act = .advance slots ∧
      chain' = { chain with programs := chain.programs.advance slots }) ∨
    ∃ signature instructions programs events, act = .transaction signature instructions ∧
      signature ∉ chain.log.map Emitted.signature ∧
      chain.programs.executeAll instructions = .ok (programs, events) ∧
      chain' = ⟨programs, chain.log ++ emitted signature chain.programs.vault.slot events⟩ := by
  cases act with
  | advance slots => exact .inl ⟨slots, rfl, (Except.ok.inj fired).symm⟩
  | transaction signature instructions =>
    simp only [step, bind_eq_ok, require_eq_ok, exists_and_left, Prod.exists, pure_eq_ok,
      exists_const] at fired
    obtain ⟨unused, programs, events, executed, rfl⟩ := fired
    exact .inr ⟨signature, instructions, programs, events, rfl, unused, executed, rfl⟩

/-- What every instruction and the clock keep holds of the accounts and the events so far. -/
theorem ReachableBy.induction {condition : Programs K → Instruction K → Prop}
    {P : Programs K → List (Event K) → Prop}
    (init : ∀ start : Chain K, Genesis start → P start.programs [])
    (keep : ∀ p events ix p' new, condition p ix → P p events → p.execute ix = .ok (p', new) →
      P p' (events ++ new))
    (tick : ∀ p events slots, P p events → P (p.advance slots) events)
    (reachable : ReachableBy condition chain) : P chain.programs (chain.log.map Emitted.event) := by
  obtain ⟨start, log, genesis, run, meets⟩ := reachable
  refine Transition.Run.preserves (I := fun chain => P chain.programs (chain.log.map Emitted.event))
    ?_ run meets ?_
  · rintro ⟨chain, act, chain'⟩ meets fired holds
    dsimp only at meets fired holds ⊢
    rcases Chain.step_cases fired with
      ⟨slots, rfl, rfl⟩ | ⟨signature, instructions, programs, events, rfl, -, executed, rfl⟩
    · exact tick _ _ slots holds
    · rw [List.map_append, emitted_event]
      exact Programs.executeAll_induction keep meets executed holds
  · rw [genesis.log]
    exact init start genesis

/-! ### What every chain keeps -/

structure Programs.WellFormed (p : Programs K) : Prop where
  vault : Vault.WellFormed p.vault
  reputation : Reputation.WellFormed p.reputation
  clock : p.vault.slot = p.reputation.slot

/-- The events of both programs say what their accounts hold. -/
structure EventBooks (p : Programs K) (events : List (Event K)) : Prop where
  vault : Vault.EventBooks p.vault (events.filterMap Event.asVault)
  reputation : Reputation.EventBooks p.reputation (events.filterMap Event.asReputation)

/-- All that an instruction can do. -/
theorem Programs.execute_cases (executed : p.execute ix = .ok (p', new)) :
    (∃ i w ev, ix = .vault i ∧ i.handler p.vault = .ok (w, ev) ∧ p' = { p with vault := w } ∧
      new = [.vault ev]) ∨
    (∃ i w ev, ix = .reputation i ∧ i.handler p.reputation = .ok (w, ev) ∧
      p' = { p with reputation := w } ∧ new = [.reputation ev]) ∨
    ∃ i tokens, ix = .token i ∧ Vault.step p.vault (.token i) = .ok (p.vault.setTokens tokens) ∧
      p' = { p with vault := p.vault.setTokens tokens } ∧ new = [] := by
  cases ix with
  | vault i =>
    simp only [execute, bind_eq_ok, mapError_eq_ok, pure_eq_ok, Prod.mk.injEq, Prod.exists] at executed
    obtain ⟨w, ev, handled, rfl, rfl⟩ := executed
    exact .inl ⟨i, w, ev, rfl, handled, rfl, rfl⟩
  | reputation i =>
    simp only [execute, bind_eq_ok, mapError_eq_ok, pure_eq_ok, Prod.mk.injEq, Prod.exists] at executed
    obtain ⟨w, ev, handled, rfl, rfl⟩ := executed
    exact .inr (.inl ⟨i, w, ev, rfl, handled, rfl, rfl⟩)
  | token i =>
    simp only [execute, bind_eq_ok, mapError_eq_ok, pure_eq_ok, Prod.mk.injEq] at executed
    obtain ⟨w, stepped, rfl, rfl⟩ := executed
    have whole := stepped
    simp only [Vault.step, map_eq_ok] at stepped
    obtain ⟨tokens, -, rfl⟩ := stepped
    exact .inr (.inr ⟨i, tokens, rfl, whole, rfl, rfl⟩)

theorem Programs.WellFormed.execute (wf : p.WellFormed) (executed : p.execute ix = .ok (p', new)) :
    p'.WellFormed ∧ p'.vault.slot = p.vault.slot ∧ ∀ ev ∈ new, ev.slot = p.vault.slot := by
  rcases Programs.execute_cases executed with
    ⟨i, w, ev, -, handled, rfl, rfl⟩ | ⟨i, w, ev, -, handled, rfl, rfl⟩ |
      ⟨i, tokens, -, stepped, rfl, rfl⟩
  · have fired : Vault.step p.vault (.program i) = .ok w := by
      rw [Vault.step, handled]
      rfl
    obtain ⟨stamp, same⟩ := (Vault.handler_cases wf.vault handled).slot
    refine ⟨⟨Vault.step_wellFormed wf.vault fired, wf.reputation, same.trans wf.clock⟩, same, ?_⟩
    rw [List.forall_mem_singleton]
    exact stamp
  · have fired : Reputation.step p.reputation (.program i) = .ok w := by
      rw [Reputation.step, handled]
      rfl
    obtain ⟨stamp, same⟩ := Reputation.handler_slot wf.reputation handled
    refine ⟨⟨wf.vault, Reputation.step_wellFormed wf.reputation fired, ?_⟩, rfl, ?_⟩
    · exact wf.clock.trans same.symm
    · rw [List.forall_mem_singleton, wf.clock]
      exact stamp
  · exact ⟨⟨Vault.step_wellFormed wf.vault stepped, wf.reputation, wf.clock⟩, rfl, by simp⟩

theorem EventBooks.execute (books : EventBooks p events) (wf : p.WellFormed)
    (executed : p.execute ix = .ok (p', new)) : EventBooks p' (events ++ new) := by
  obtain ⟨vault, reputation⟩ := books
  rcases Programs.execute_cases executed with
    ⟨i, w, ev, -, handled, rfl, rfl⟩ | ⟨i, w, ev, -, handled, rfl, rfl⟩ |
      ⟨i, tokens, -, -, rfl, rfl⟩
  · constructor
    · rw [List.filterMap_append]
      exact vault.handled (Vault.handler_cases wf.vault handled)
    · rw [List.filterMap_append]
      exact (List.append_nil _).symm ▸ reputation
  · constructor
    · rw [List.filterMap_append]
      exact (List.append_nil _).symm ▸ vault
    · rw [List.filterMap_append]
      exact reputation.handled wf.reputation handled
  · rw [List.append_nil]
    exact ⟨⟨vault.recorded, vault.absent⟩, reputation⟩

theorem Programs.WellFormed.advance (wf : p.WellFormed) (slots : Nat) : (p.advance slots).WellFormed := by
  obtain ⟨vault, reputation, clock⟩ := wf
  have first : Vault.step p.vault (.advance slots) = .ok _ := rfl
  have second : Reputation.step p.reputation (.advance slots) = .ok _ := rfl
  exact ⟨Vault.step_wellFormed vault first, Reputation.step_wellFormed reputation second,
    congrArg (· + slots) clock⟩

theorem EventBooks.advance (books : EventBooks p events) (slots : Nat) :
    EventBooks (p.advance slots) events := by
  obtain ⟨vaults, reputations⟩ := books
  exact ⟨⟨vaults.recorded, vaults.absent⟩, reputations.agents, reputations.services, fun ev member =>
    (reputations.names ev member).persists ⟨.refl _, .refl _, .refl _, .refl _⟩⟩

/-- Chain order: slots do not go back, and the events of a transaction are numbered in order. -/
structure Chain.Sound (chain : Chain K) : Prop where
  programs : chain.programs.WellFormed
  books : EventBooks chain.programs (chain.log.map Emitted.event)
  clock : ∀ e ∈ chain.log, e.slot ≤ chain.programs.vault.slot
  stamped : ∀ e ∈ chain.log, e.event.slot = e.slot
  sorted : chain.log.Pairwise fun a b =>
    a.slot ≤ b.slot ∧ (a.signature = b.signature → a.logIndex < b.logIndex)

theorem Genesis.sound (genesis : Genesis chain) : chain.Sound where
  programs := ⟨genesis.vault.wellFormed, genesis.reputation.wellFormed, genesis.clock⟩
  books := by
    rw [genesis.log]
    exact ⟨genesis.vault.eventBooks, genesis.reputation.eventBooks⟩
  clock := by simp [genesis.log]
  stamped := by simp [genesis.log]
  sorted := by simp [genesis.log]

omit [DecidableEq K] [AddressSpace K] in
theorem mem_emitted {signature : String} {slot : Nat} {e : Emitted K}
    (member : e ∈ emitted signature slot events) :
    e.signature = signature ∧ e.slot = slot ∧ e.event ∈ events := by
  obtain ⟨⟨event, logIndex⟩, paired, rfl⟩ := List.mem_map.mp member
  exact ⟨rfl, rfl, List.fst_mem_of_mem_zipIdx paired⟩

omit [DecidableEq K] [AddressSpace K] in
theorem emitted_sorted (signature : String) (slot : Nat) (events : List (Event K)) :
    (emitted signature slot events).Pairwise fun a b => a.logIndex < b.logIndex := by
  rw [emitted, List.pairwise_map]
  -- The numbers that `zipIdx` gives are a range.
  have range : (events.zipIdx.map Prod.snd).Pairwise (· < ·) := by
    rw [List.zipIdx_map_snd]
    exact List.pairwise_lt_range'
  exact List.pairwise_map.mp range

/-- A transaction runs within one slot. -/
theorem Programs.executeAll_sound {instructions : List (Instruction K)} (wf : p.WellFormed)
    (books : EventBooks p events) (executed : p.executeAll instructions = .ok (p', new)) :
    p'.WellFormed ∧ EventBooks p' (events ++ new) ∧ p'.vault.slot = p.vault.slot ∧
      ∀ ev ∈ new, ev.slot = p.vault.slot := by
  have meets : p.Meets (fun _ _ => True) instructions := p.meets_trivial instructions
  obtain ⟨wf', books', same, later, appended, stamped⟩ := Programs.executeAll_induction
    (P := fun q evs => q.WellFormed ∧ EventBooks q evs ∧ q.vault.slot = p.vault.slot ∧
      ∃ later, evs = events ++ later ∧ ∀ ev ∈ later, ev.slot = p.vault.slot)
    (fun q evs ix q' new _ holds fired => by
      obtain ⟨wf, books, same, later, rfl, stamped⟩ := holds
      obtain ⟨wf', slot, stamps⟩ := wf.execute fired
      refine ⟨wf', books.execute wf fired, slot.trans same, later ++ new, ?_, ?_⟩
      · rw [List.append_assoc]
      · rw [List.forall_mem_append]
        exact ⟨stamped, fun ev member => (stamps ev member).trans same⟩)
    meets executed ⟨wf, books, rfl, [], by simp, by simp⟩
  rw [List.append_cancel_left appended]
  exact ⟨wf', List.append_cancel_left appended ▸ books', same, stamped⟩

theorem Chain.Sound.step {act : ChainAction K} (sound : chain.Sound)
    (fired : chain.step act = .ok chain') : chain'.Sound := by
  rcases Chain.step_cases fired with
    ⟨slots, rfl, rfl⟩ | ⟨signature, instructions, programs, events, rfl, unused, executed, rfl⟩
  · exact ⟨sound.programs.advance slots, sound.books.advance slots,
      fun e member => (sound.clock e member).trans (Nat.le_add_right _ _), sound.stamped, sound.sorted⟩
  · obtain ⟨wf, books, slot, stamps⟩ :=
      Programs.executeAll_sound sound.programs sound.books executed
    refine ⟨wf, ?_, ?_, ?_, ?_⟩
    · rw [List.map_append, emitted_event]
      exact books
    · intro e member
      rw [slot]
      rcases List.mem_append.mp member with earlier | here
      · exact sound.clock e earlier
      · exact (mem_emitted here).2.1.le
    · intro e member
      rcases List.mem_append.mp member with earlier | here
      · exact sound.stamped e earlier
      · obtain ⟨-, stamp, inside⟩ := mem_emitted here
        rw [stamp]
        exact stamps e.event inside
    · rw [List.pairwise_append]
      refine ⟨sound.sorted, ?_, ?_⟩
      · -- Within a transaction the numbers of events grow, in one slot.
        refine (emitted_sorted signature _ events).imp_of_mem ?_
        intro a b first second less
        obtain ⟨-, slotA, -⟩ := mem_emitted first
        obtain ⟨-, slotB, -⟩ := mem_emitted second
        exact ⟨by rw [slotA, slotB], fun _ => less⟩
      · -- The signature is new, so no number is compared with an earlier one.
        intro a earlier b here
        obtain ⟨own, slotB, -⟩ := mem_emitted here
        refine ⟨slotB ▸ sound.clock a earlier, ?_⟩
        intro same
        exact absurd (List.mem_map.mpr ⟨a, earlier, same.trans own⟩) unused

theorem Reachable.sound (reachable : Reachable chain) : chain.Sound := by
  obtain ⟨start, log, genesis, run, -⟩ := reachable
  exact Transition.Run.invariant (I := Chain.Sound) (fun _ _ _ fired sound => sound.step fired) run
    genesis.sound

theorem Programs.Meets.mono {condition weaker : Programs K → Instruction K → Prop}
    (imp : ∀ p ix, condition p ix → weaker p ix) {p : Programs K} {instructions : List (Instruction K)}
    (meets : p.Meets condition instructions) : p.Meets weaker instructions := by
  induction instructions generalizing p with
  | nil => trivial
  | cons ix rest ih => exact ⟨imp p ix meets.1, fun p' new executed => ih (meets.2 p' new executed)⟩

theorem ReachableBy.mono {condition weaker : Programs K → Instruction K → Prop}
    (imp : ∀ p ix, condition p ix → weaker p ix) (reachable : ReachableBy condition chain) :
    ReachableBy weaker chain := by
  obtain ⟨start, log, genesis, run, meets⟩ := reachable
  refine ⟨start, log, genesis, run, fun e member => ?_⟩
  have met := meets e member
  cases act : e.act with
  | transaction signature instructions =>
    rw [act] at met
    exact Programs.Meets.mono imp met
  | advance slots => trivial

/-- A condition only narrows the runs. -/
theorem ReachableBy.reachable {condition : Programs K → Instruction K → Prop}
    (reachable : ReachableBy condition chain) : Reachable chain := by
  obtain ⟨start, log, genesis, run, -⟩ := reachable
  exact ⟨start, log, genesis, run, fun e _ => e.pre.meets_trivial e.act⟩

end AgentFuel.Backend
