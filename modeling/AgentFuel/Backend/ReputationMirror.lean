import AgentFuel.Backend.Pipeline
import AgentFuel.Backend.VaultMirror

/-!
# The mirror rows of agents and services

The columns of `refresh_agent` and `refresh_service`, read on the events of a chain. A row is kept
under the key that controls the account. Feedback names the address of a profile instead, payments
and switches that of a registry, so that none of these ever reaches the row.
-/
namespace AgentFuel.Backend

open Checked Solana Register Reputation

variable {K S α β : Type} {r : Rendering K S}

theorem agent_text (r : Rendering K S) {e : Emitted K} {ev : ReputationEvent K}
    (event : e.event = .reputation ev) :
    (e.row r).text "agent" = (ev.agentAuthority.or ev.agentProfile).map r.key := by
  rw [row_text, event]
  cases ev <;> rfl

theorem service_text (r : Rendering K S) {e : Emitted K} {ev : ReputationEvent K}
    (event : e.event = .reputation ev) :
    (e.row r).text "service" = (ev.serviceAuthority.or ev.serviceRegistry).map r.key := by
  rw [row_text, event]
  cases ev <;> rfl

/-- Events that name accounts by their addresses are not about a key that is no address. -/
theorem about_elsewhere [DecidableEq S] (injective : Function.Injective r.key) {a : K}
    {entries : List (Emitted K)} {name : EventName} {field : String}
    {authority address : ReputationEvent K → Option K}
    (text : ∀ {e : Emitted K} {ev}, e.event = .reputation ev →
      (e.row r).text field = ((authority ev).or (address ev)).map r.key)
    (unnamed : ∀ e ∈ entries, ∀ ev, e.event = .reputation ev → address ev ≠ some a)
    (nobody : ∀ event : Event K, event.name = name →
      ∃ ev, event = .reputation ev ∧ authority ev = none) :
    about [name] field (r.key a) (entries.map (Emitted.row r)) = [] := by
  rw [about, List.filter_eq_nil_iff]
  intro row member chosen
  obtain ⟨e, inside, rfl⟩ := List.mem_map.mp member
  obtain ⟨named, held⟩ := of_decide_eq_true chosen
  obtain ⟨ev, event, unsigned⟩ := nobody e.event (List.mem_singleton.mp named)
  rw [text event, unsigned, Option.none_or, Option.map_eq_some_iff] at held
  obtain ⟨key, names, same⟩ := held
  exact unnamed e inside ev event (injective same ▸ names)

/-- What an event of the reputation program writes. -/
def Emitted.reputationWrite (write : ReputationEvent K → Option β) (e : Emitted K) : Option β :=
  e.event.asReputation.bind write

theorem Emitted.reputationWrite_eq_some {write : ReputationEvent K → Option β} {e : Emitted K} {b : β} :
    e.reputationWrite write = some b ↔ ∃ ev, e.event = .reputation ev ∧ write ev = some b := by
  obtain ⟨signature, slot, logIndex, ev | ev⟩ := e
  · simp [reputationWrite, Event.asReputation]
  · simp [reputationWrite, Event.asReputation]

section Payments

variable [DecidableEq K] [DecidableEq S] {a : K} {entries : List (Emitted K)}

theorem about_payments (injective : Function.Injective r.key) (a : K) (entries : List (Emitted K)) :
    about [.paymentRecorded] "agent" (r.key a) (entries.map (Emitted.row r)) =
      (writers (Emitted.reputationWrite (ReputationEvent.payment a)) entries).map (Emitted.row r) := by
  apply about_rows
  rintro ⟨signature, slot, logIndex, ev | ev⟩ -
  · rw [row_text]
    cases ev <;> simp [Event.name, Emitted.reputationWrite, Event.asReputation]
  · rw [agent_text r rfl]
    cases ev <;> simp [Event.name, Emitted.reputationWrite, Event.asReputation,
      ReputationEvent.payment, ReputationEvent.agentAuthority, injective.eq_iff]

theorem about_scores (injective : Function.Injective r.key) (a : K) (entries : List (Emitted K)) :
    about [.scoreComputed] "agent" (r.key a) (entries.map (Emitted.row r)) =
      (writers (Emitted.reputationWrite (ReputationEvent.newScore a)) entries).map (Emitted.row r) := by
  apply about_rows
  rintro ⟨signature, slot, logIndex, ev | ev⟩ -
  · rw [row_text]
    cases ev <;> simp [Event.name, Emitted.reputationWrite, Event.asReputation]
  · rw [agent_text r rfl]
    cases ev <;> simp [Event.name, Emitted.reputationWrite, Event.asReputation,
      ReputationEvent.newScore, ReputationEvent.agentAuthority, injective.eq_iff]

/-- The payments in a table. -/
def paymentsIn (a : K) (entries : List (Emitted K)) : List (Nat × Bool) :=
  entries.filterMap (Emitted.reputationWrite (ReputationEvent.payment a))

theorem payment_fields {e : Emitted K} {paid : Nat × Bool}
    (wrote : e.reputationWrite (ReputationEvent.payment a) = some paid) :
    e.event.fields.lookup "amount_usdc" = some (.u64 paid.1) ∧
      e.event.fields.lookup "was_new_pair" = some (.bool paid.2) := by
  obtain ⟨ev, event, wrote⟩ := Emitted.reputationWrite_eq_some.mp wrote
  rw [event]
  cases ev with
  | paymentRecorded agent service amountUsdc hash wasNewPair slot =>
    simp only [ReputationEvent.payment] at wrote
    split at wrote
    · obtain rfl := Option.some.inj wrote
      exact ⟨rfl, rfl⟩
    · cases wrote
  | _ => cases wrote

theorem newScore_field {e : Emitted K} {score : Nat}
    (wrote : e.reputationWrite (ReputationEvent.newScore a) = some score) :
    e.event.fields.lookup "score" = some (.u16 score) := by
  obtain ⟨ev, event, wrote⟩ := Emitted.reputationWrite_eq_some.mp wrote
  rw [event]
  cases ev with
  | scoreComputed agent given slot =>
    simp only [ReputationEvent.newScore] at wrote
    split at wrote
    · obtain rfl := Option.some.inj wrote
      rfl
    · cases wrote
  | _ => cases wrote

theorem volume_ok (injective : Function.Injective r.key)
    (small : ((paymentsIn a entries).map Prod.fst).sum < 2 ^ 63) :
    sumOf (about [.paymentRecorded] "agent" (r.key a) (entries.map (Emitted.row r)))
      (ParsedEvent.integer 64 "amount_usdc") = .ok (((paymentsIn a entries).map Prod.fst).sum : Nat) := by
  rw [about_payments injective]
  have held : ∀ e ∈ writers (Emitted.reputationWrite (ReputationEvent.payment a)) entries,
      ∃ paid ∈ paymentsIn a entries, e.reputationWrite (ReputationEvent.payment a) = some paid ∧
        e.event.fields.lookup "amount_usdc" = some (.u64 paid.1) := by
    intro e member
    obtain ⟨inside, paid, wrote⟩ := mem_writers.mp member
    exact ⟨paid, List.mem_filterMap.mpr ⟨e, inside, wrote⟩, wrote, (payment_fields wrote).1⟩
  obtain ⟨sum, done⟩ : ∃ sum, sumOf ((writers (Emitted.reputationWrite (ReputationEvent.payment a))
      entries).map (Emitted.row r)) (ParsedEvent.integer 64 "amount_usdc") = .ok sum := by
    apply sumOf_total
    intro row member
    obtain ⟨e, inside, rfl⟩ := List.mem_map.mp member
    obtain ⟨paid, among, -, shown⟩ := held e inside
    -- One payment is no more than all of them.
    have bound : paid.1 < 2 ^ 63 :=
      (List.single_le_sum (fun _ _ => Nat.zero_le _) _ (List.mem_map_of_mem among)).trans_lt small
    have range : -2 ^ (64 - 1) ≤ (paid.1 : Int) ∧ (paid.1 : Int) < 2 ^ (64 - 1) := by omega
    exact ⟨some paid.1, by rw [row_integer shown, fit, if_pos range]; rfl⟩
  have value := sumOf_value (g := fun e =>
    Int.ofNat (((e.reputationWrite (ReputationEvent.payment a)).getD (0, false)).1)) done <| by
      intro e member n read
      obtain ⟨paid, -, wrote, shown⟩ := held e member
      rw [row_integer shown, map_eq_ok] at read
      obtain ⟨m, fits, rfl⟩ := read
      rw [wrote, Option.getD_some, ← (fit_eq_ok.mp fits).2]
      rfl
  rw [done, value, writers_map (g := fun paid : Nat × Bool => Int.ofNat paid.1)
    (fun e paid wrote => by rw [wrote, Option.getD_some]), ← paymentsIn, Nat.cast_list_sum, List.map_map]
  rfl

/-- The payments of new pairs. -/
theorem newPairs_ok (injective : Function.Injective r.key) (a : K) (entries : List (Emitted K)) :
    ∃ rows, (about [.paymentRecorded] "agent" (r.key a) (entries.map (Emitted.row r))).filterM
        (fun payment => do
          let wasNewPair ← payment.boolean "was_new_pair"
          pure (wasNewPair = some true)) = .ok rows ∧
      rows.length = (paymentsIn a entries).countP Prod.snd := by
  let isNew : Emitted K → Bool := fun e =>
    ((e.reputationWrite (ReputationEvent.payment a)).getD (0, false)).2
  rw [about_payments injective]
  have tested : ((writers (Emitted.reputationWrite (ReputationEvent.payment a)) entries).map
      (Emitted.row r)).filterM (fun payment : ParsedEvent S => do
        let wasNewPair ← payment.boolean "was_new_pair"
        pure (decide (wasNewPair = some true))) = .ok _ :=
    filterM_ok (q := isNew) <| by
      intro e member
      obtain ⟨-, paid, wrote⟩ := mem_writers.mp member
      rw [row_boolean (payment_fields wrote).2]
      simp only [isNew, wrote, Option.getD_some]
      cases paid.2 <;> rfl
  refine ⟨_, tested, ?_⟩
  rw [List.length_map, ← List.countP_eq_length_filter]
  have flags : (writers (Emitted.reputationWrite (ReputationEvent.payment a)) entries).map isNew =
      (entries.filterMap (Emitted.reputationWrite (ReputationEvent.payment a))).map Prod.snd :=
    writers_map (fun e paid wrote => by simp only [isNew, wrote, Option.getD_some]) entries
  have counted := congrArg (List.countP id) flags
  rw [List.countP_map, List.countP_map] at counted
  exact counted

omit [DecidableEq K] in
theorem feedbackGiven_names (event : Event K) (name : event.name = .feedbackGiven) :
    ∃ ev, event = .reputation ev ∧ ev.agentAuthority = none := by
  rcases event with ev | ev <;> cases ev <;> cases name
  exact ⟨_, rfl, rfl⟩

omit [DecidableEq K] in
theorem feedbackRevoked_names (event : Event K) (name : event.name = .feedbackRevoked) :
    ∃ ev, event = .reputation ev ∧ ev.agentAuthority = none := by
  rcases event with ev | ev <;> cases ev <;> cases name
  exact ⟨_, rfl, rfl⟩

end Payments

/-! ### The row of an agent -/

section Row

variable [DecidableEq K] [DecidableEq S] {rt : Runtime S} {a : K} {entries : List (Emitted K)}
  {init : Emitted K} {owner : K} {initSlot : Nat}

/-- What the row of an agent shows of the events in the table. -/
structure AgentColumns (r : Rendering K S) (rt : Runtime S) (a : K) (entries : List (Emitted K))
    (row : AgentRow S) : Prop where
  totalTransactions : row.totalTransactions = (paymentsIn a entries).length
  totalVolumeUsdc : row.totalVolumeUsdc = ((paymentsIn a entries).map Prod.fst).sum
  servicesUsed : row.servicesUsed = (paymentsIn a entries).countP Prod.snd
  consecutiveSuccess : row.consecutiveSuccess = (paymentsIn a entries).length
  totalFeedbackCount : row.totalFeedbackCount = 0
  activeNegativeFeedbackCount : row.activeNegativeFeedbackCount = 0
  score : ∃ answer, limitOne rt.latest rt.eager
      (about [.scoreComputed] "agent" (r.key a) (entries.map (Emitted.row r)))
      (ParsedEvent.integer 32 "score") = .ok answer ∧ row.score = answer.join.getD 0
  lastActiveSlot : ∃ created, row.lastActiveSlot =
    lastActive (entries.map (Emitted.row r)) (r.key a) "agent" created

/-- The values that the statement of an agent casts fit their columns. -/
structure AgentFits (a : K) (entries : List (Emitted K)) : Prop where
  volume : ((paymentsIn a entries).map Prod.fst).sum < 2 ^ 63
  payments : (paymentsIn a entries).length < 2 ^ 31
  scores : ∀ e ∈ entries, ∀ score, e.reputationWrite (ReputationEvent.newScore a) = some score →
    score < 2 ^ 31

theorem fit_ok {bits n : Nat} (small : n < 2 ^ (bits - 1)) : fit bits n = .ok (n : Int) := by
  have range : -2 ^ (bits - 1) ≤ (n : Int) ∧ (n : Int) < 2 ^ (bits - 1) := by
    have bound : (n : Int) < 2 ^ (bits - 1) := by exact_mod_cast small
    have sign : (0 : Int) ≤ 2 ^ (bits - 1) := by positivity
    exact ⟨by omega, bound⟩
  rw [fit, if_pos range]

theorem scores_ok (rt : Runtime S) (injective : Function.Injective r.key) (fits : AgentFits a entries) :
    ∃ answer, limitOne rt.latest rt.eager
      (about [.scoreComputed] "agent" (r.key a) (entries.map (Emitted.row r)))
      (ParsedEvent.integer 32 "score") = .ok answer := by
  apply limitOne_total
  rw [about_scores injective]
  intro row member
  obtain ⟨e, held, rfl⟩ := List.mem_map.mp member
  obtain ⟨inside, score, wrote⟩ := mem_writers.mp held
  refine ⟨some score, ?_⟩
  have number : (Field.u16 score : Field K).json r = .num (score : Int) := rfl
  rw [row_number (newScore_field wrote) number, fit_ok (fits.scores e inside score wrote)]
  rfl

/-- Without feedback in reach every payment counts for the streak. -/
theorem streak_ok (rt : Runtime S) {events : List (ParsedEvent S)} (payments : List (ParsedEvent S)) {key : S}
    (quiet : about [.feedbackGiven] "agent" key events = [])
    (nonneg : ∀ payment ∈ payments, 0 ≤ payment.slot) :
    streak rt events key payments = .ok payments.length := by
  have standing : standingNegatives events key = .ok [] := by
    rw [standingNegatives, quiet]
    rfl
  have nothing : rt.latest.pick [] = none := by
    cases found : rt.latest.pick [] with
    | none => rfl
    | some row => exact absurd (rt.latest.pick_mem found) List.not_mem_nil
  have counted : payments.countP (fun payment => decide ((rt.latest.pick []).elim (toLex ((-1 : Int),
      (-1 : Int))) ParsedEvent.position < payment.position)) = payments.length := by
    rw [nothing, List.countP_eq_length]
    intro payment member
    rw [decide_eq_true_eq, Option.elim_none, ParsedEvent.position, Prod.Lex.toLex_lt_toLex]
    have sign := nonneg payment member
    exact .inl (by dsimp only; omega)
  rw [streak, standing]
  exact congrArg (fun n => Except.ok (Int.ofNat n)) counted

theorem agentRow_ok (injective : Function.Injective r.key) (rt : Runtime S) (fits : AgentFits a entries)
    (unnamed : ∀ e ∈ entries, ∀ ev, e.event = .reputation ev → ev.agentProfile ≠ some a)
    (creates : init.event = .reputation (.agentInitialized a owner initSlot)) (small : initSlot < 2 ^ 63) :
    ∃ row, agentRow rt (entries.map (Emitted.row r)) (r.key a) (init.row r) = .ok row ∧
      AgentColumns r rt a entries row := by
  have ownerText : (init.row r).text "owner" = some (r.key owner) := by
    rw [row_text, creates]
    rfl
  have slot : (init.row r).integer 64 "init_slot" = .ok (some (initSlot : Int)) := by
    refine row_integer_fits ?_ small
    rw [creates]
    rfl
  obtain ⟨answer, scored⟩ := scores_ok rt injective fits
  have volume := volume_ok injective fits.volume
  obtain ⟨newPairs, tested, pairs⟩ := newPairs_ok injective a entries
  have given := about_elsewhere injective (agent_text r) unnamed feedbackGiven_names
  have revoked := about_elsewhere injective (agent_text r) unnamed feedbackRevoked_names
  have payments : (about [.paymentRecorded] "agent" (r.key a) (entries.map (Emitted.row r))).length =
      (paymentsIn a entries).length := by
    rw [about_payments injective, List.length_map, writers_length]
    rfl
  have since := streak_ok rt (about [.paymentRecorded] "agent" (r.key a)
    (entries.map (Emitted.row r))) given <| by
      intro payment member
      obtain ⟨e, -, rfl⟩ := List.mem_map.mp (List.mem_filter.mp member).1
      rw [row_slot]
      exact e.rowSlot_nonneg
  rw [payments] at since
  -- The counters fit their columns because the bounds are on the payments themselves.
  have services : fit 32 (newPairs.length : Int) = .ok (newPairs.length : Int) := by
    apply fit_ok
    rw [pairs]
    exact List.countP_le_length.trans_lt fits.payments
  have volumeFits : fit 64 ((((paymentsIn a entries).map Prod.fst).sum : Nat) : Int) = .ok _ :=
    fit_ok fits.volume
  have streakFits : fit 32 (((paymentsIn a entries).length : Nat) : Int) = .ok _ := fit_ok fits.payments
  have none : fit 32 0 = .ok 0 := rfl
  refine ⟨⟨r.key owner, initSlot, answer.join.getD 0, (paymentsIn a entries).length,
    (((paymentsIn a entries).map Prod.fst).sum : Nat), newPairs.length, (paymentsIn a entries).length, 0, 0,
    lastActive (entries.map (Emitted.row r)) (r.key a) "agent" initSlot⟩, ?_, ?_⟩
  · -- No feedback is about the agent, so what depends on it is empty.
    simp only [agentRow, bind_eq_ok, okOr_eq_ok, pure_eq_ok]
    refine ⟨_, ownerText, _, slot, _, rfl, answer, scored, _, volume, _, volumeFits, newPairs, tested, _,
      services, _, since, _, streakFits, 0, ?_, [], ?_, [], ?_, 0, none, ?_⟩
    · rw [given, revoked]
      exact none
    · rw [given]
      rfl
    · rw [revoked]
      rfl
    · rw [payments]
  · exact ⟨rfl, rfl, congrArg Int.ofNat pairs, rfl, rfl, rfl, ⟨answer, scored, rfl⟩, ⟨initSlot, rfl⟩⟩

end Row

/-! ### The row of a service -/

section Services

variable [DecidableEq S] {rt : Runtime S} {a : K} {entries : List (Emitted K)} {init : Emitted K}
  {sponsor : K} {name : Bytes 32} {category : ServiceCategory} {initSlot : Nat}

theorem paymentRecorded_names (event : Event K) (name : event.name = .paymentRecorded) :
    ∃ ev, event = .reputation ev ∧ ev.serviceAuthority = none := by
  rcases event with ev | ev <;> cases ev <;> cases name
  exact ⟨_, rfl, rfl⟩

theorem serviceActiveSet_names (event : Event K) (name : event.name = .serviceActiveSet) :
    ∃ ev, event = .reputation ev ∧ ev.serviceAuthority = none := by
  rcases event with ev | ev <;> cases ev <;> cases name
  exact ⟨_, rfl, rfl⟩

/-- What the row of a service shows, whatever has happened to its registry. -/
structure ServiceColumns (r : Rendering K S) (a : K) (entries : List (Emitted K)) (initSlot : Nat)
    (row : ServiceRow S) : Prop where
  active : row.active = true
  totalAgentsServed : row.totalAgentsServed = 0
  totalVolumeReceivedUsdc : row.totalVolumeReceivedUsdc = 0
  lastActiveSlot : row.lastActiveSlot =
    lastActive (entries.map (Emitted.row r)) (r.key a) "service" initSlot

theorem serviceRow_ok (injective : Function.Injective r.key) (rt : Runtime S)
    (unnamed : ∀ e ∈ entries, ∀ ev, e.event = .reputation ev → ev.serviceRegistry ≠ some a)
    (creates : init.event = .reputation (.serviceRegistered a sponsor name category initSlot))
    (small : initSlot < 2 ^ 63) :
    ∃ row, serviceRow rt (entries.map (Emitted.row r)) (r.key a) (init.row r) = .ok row ∧
      ServiceColumns r a entries initSlot row := by
  have nameText : (init.row r).text "name" = some (r.name name) := by
    rw [row_text, creates]
    rfl
  have tag : (init.row r).integer 16 "category" = .ok (some (categoryTag category : Int)) := by
    rw [ParsedEvent.integer, row_get, creates]
    change some <$> fit 16 (categoryTag category : Int) = _
    rw [fit_ok (by cases category <;> decide)]
    rfl
  have slot : (init.row r).integer 64 "init_slot" = .ok (some (initSlot : Int)) := by
    refine row_integer_fits ?_ small
    rw [creates]
    rfl
  have payments := about_elsewhere injective (service_text r) unnamed paymentRecorded_names
  have flips := about_elsewhere injective (service_text r) unnamed serviceActiveSet_names
  have zero : fit 32 0 = .ok 0 := rfl
  have none : fit 64 0 = .ok 0 := fit_ok (n := 0) (by norm_num)
  refine ⟨⟨r.name name, categoryTag category, true, initSlot, 0, 0,
    lastActive (entries.map (Emitted.row r)) (r.key a) "service" initSlot⟩, ?_, rfl, rfl, rfl, rfl⟩
  simp only [serviceRow, bind_eq_ok, okOr_eq_ok, pure_eq_ok]
  refine ⟨_, nameText, _, tag, _, rfl, .none, ?_, _, slot, _, rfl, [], ?_, 0, zero, 0, ?_, 0, none, rfl⟩
  · rw [flips]
    exact limitOne_nil _ _ _
  · rw [payments]
    rfl
  · rw [payments]
    rfl

end Services

end AgentFuel.Backend
