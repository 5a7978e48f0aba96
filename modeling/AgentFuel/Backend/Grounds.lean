import AgentFuel.Backend.Decided

/-!
# Who decides

No pending spend is decided without a ground: the owner's own call, a payment that the row was
waiting for, or a rejection that names it. An approval has its ground from the sub-select, whose row
still fits the payment when it is written.
-/
namespace AgentFuel.Backend.Handlers

open Spends Dialogue Pool

variable {rt : RequestRuntime} {dr : DispatchRuntime} {s : State} {q : Query}

/-- Every handler sends the deciding statements of its own kind only. -/
theorem only_built (kind : Kind) : Built kind fun _ => Only (Origin kind) where
  done result := trivial
  bind first second := first.bind second
  sql q plain origin := only_question origin
  emit alert := by
    refine (only_question trivial).bind fun id => ?_
    cases id with
    | error e => exact only_pure _
    | ok id =>
      refine (only_question trivial).bind fun shown => ?_
      refine (only_question trivial).bind fun told => ?_
      exact only_pure _
  approveOldest payment origin := by
    refine (only_question origin).bind fun answer => ?_
    cases answer with
    | error e => exact only_pure _
    | ok chosen =>
      cases chosen with
      | none => exact only_pure _
      | some id => exact only_question trivial

/-! ### Rows that were chosen -/

/-- The columns of a row by which payments find it stay. -/
structure Stays (table table' : PendingTable String) : Prop where
  stays : ∀ row ∈ table.rows, ∃ row' ∈ table'.rows,
    row'.id = row.id ∧ row'.vault = row.vault ∧ row'.service = row.service ∧ row'.amountUsdc = row.amountUsdc

theorem Stays.refl (table : PendingTable String) : Stays table table where
  stays row member := ⟨row, member, rfl, rfl, rfl, rfl⟩

theorem Stays.insert {table table' : PendingTable String} {row : PendingRow String}
    (rows : table'.rows = table.rows ++ [row]) : Stays table table' where
  stays other member := ⟨other, rows ▸ List.mem_append_left _ member, rfl, rfl, rfl, rfl⟩

/-- Rows that meet a condition get another status, owner or alert. -/
theorem Stays.updateWhere {table table' : PendingTable String} {hit : PendingRow String → Bool}
    {f : PendingRow String → PendingRow String}
    (columns : ∀ row, (f row).id = row.id ∧ (f row).vault = row.vault ∧ (f row).service = row.service ∧
      (f row).amountUsdc = row.amountUsdc)
    (rows : table'.rows = table.rows.map fun row => if hit row = true then f row else row) :
    Stays table table' where
  stays row member := by
    rw [rows]
    refine ⟨_, List.mem_map_of_mem member, ?_⟩
    split
    · exact columns row
    · exact ⟨rfl, rfl, rfl, rfl⟩

theorem request_stays (table : PendingTable String) (owner : String) (request : SpendRequest String)
    (createdAt : Int) : Stays table (table.request owner request createdAt).1 := by
  unfold PendingTable.request
  split
  · exact ⟨(Stays.refl table).stays⟩
  · split
    · refine .updateWhere ?_ rfl
      exact fun _ => ⟨rfl, rfl, rfl, rfl⟩
    · exact .insert rfl

theorem execute_stays (rt : RequestRuntime) (dr : DispatchRuntime) (s : State) (q : Query) :
    Stays s.pending (execute rt dr s q).1.pending := by
  cases q with
  | insertPending owner req => exact .insert rfl
  | upsertPending owner request => exact request_stays s.pending owner request _
  | linkAlert alertId pendingId =>
    refine .updateWhere ?_ rfl
    exact fun _ => ⟨rfl, rfl, rfl, rfl⟩
  | decide decision id owner =>
    refine .updateWhere ?_ rfl
    exact fun _ => ⟨rfl, rfl, rfl, rfl⟩
  | approve id =>
    refine .updateWhere ?_ rfl
    exact fun _ => ⟨rfl, rfl, rfl, rfl⟩
  | reject key =>
    refine .updateWhere ?_ rfl
    exact fun _ => ⟨rfl, rfl, rfl, rfl⟩
  | _ => exact .refl s.pending

theorem answer_stays (rt : RequestRuntime) (dr : DispatchRuntime) (s : State) (succeeds : Bool) (q : Query) :
    Stays s.pending (answer rt dr s succeeds q).1.pending := by
  cases succeeds with
  | true =>
    rw [answer_true]
    exact execute_stays rt dr s q
  | false => cases q <;> exact .refl s.pending

/-- A row that was chosen for a payment is there and fits the payment. -/
def Fits (table : PendingTable String) : Asked → Prop
  | ⟨.oldestPending payment, .ok (.ok chosen)⟩ => ∀ id : Nat, chosen = some id → ∃ row ∈ table.rows, row.id = id ∧
    row.vault = payment.vault ∧ row.service = payment.service ∧ row.amountUsdc = payment.amountUsdc
  | _ => True

theorem Fits.mono {table table' : PendingTable String} {x : Asked} (fits : Fits table x)
    (stays : Stays table table') : Fits table' x := by
  obtain ⟨q, result⟩ := x
  cases q with
  | oldestPending payment =>
    cases result with
    | error e => trivial
    | ok chosen =>
      cases chosen with
      | error e => trivial
      | ok chosen =>
        intro id named
        obtain ⟨row, member, rfl, vault, service, amount⟩ := fits id named
        obtain ⟨row', member', same, vault', service', amount'⟩ := stays.stays row member
        exact ⟨row', member', same, vault'.trans vault, service'.trans service, amount'.trans amount⟩
  | _ => trivial

theorem answer_fits (rt : RequestRuntime) (dr : DispatchRuntime) (s : State) (succeeds : Bool) (q : Query) :
    Fits s.pending ⟨q, .ok (answer rt dr s succeeds q).2⟩ := by
  cases q with
  | oldestPending payment =>
    cases succeeds with
    | false => trivial
    | true =>
      intro id named
      obtain ⟨row, member, same, awaits⟩ := oldestRow_awaits named
      obtain ⟨vault, service, amount, -⟩ := of_decide_eq_true awaits
      exact ⟨row, member, same, vault, service, amount⟩
  | _ => trivial

theorem fits_kept (rt : RequestRuntime) (dr : DispatchRuntime) : Keeps (E := Stopped) (desk rt dr)
    fun s history => ∀ x ∈ history, Fits s.pending x where
  answer s history succeeds q holds := by
    have stays := answer_stays rt dr s succeeds q
    rw [List.forall_mem_append, List.forall_mem_singleton]
    exact ⟨fun x member => (holds x member).mono stays, (answer_fits rt dr s succeeds q).mono stays⟩
  drop s history q e holds := by
    rw [List.forall_mem_append, List.forall_mem_singleton]
    refine ⟨holds, ?_⟩
    cases q <;> trivial
  move s history m holds := holds

/-! ### Grounds -/

/-- What a decision rests on: the endpoint of the row's owner, a payment to the service for the
amount, or a rejection that names the row. -/
inductive Ground (t : Threads) (id : Nat) : SpendStatus → Prop
  | owner {place : Nat} {caller : String} {decision : Decision} {number : Int} {asked : List Asked}
    {rest : Handler Reply} {row : PendingRow String} :
    t.threads[place]? = some ⟨.decide caller decision number, asked, rest⟩ → number = id →
    row ∈ t.world.pending.rows → row.id = id → row.owner = caller → Ground t id decision.newStatus
  | payment {place : Nat} {events : List (ParsedEvent String)} {ev : ParsedEvent String}
    {payment : SpendPayment String} {asked : List Asked} {rest : Handler Reply}
    {row : PendingRow String} : t.threads[place]? = some ⟨.dispatch events, asked, rest⟩ →
    ev ∈ events → ev.decoded.eventName = .spent → spendPayment ev = some payment →
    row ∈ t.world.pending.rows → row.id = id → row.awaits payment = true → Ground t id .approved
  | rejection {place : Nat} {events : List (ParsedEvent String)} {ev : ParsedEvent String}
    {key : String} {asked : List Asked} {rest : Handler Reply} {row : PendingRow String} :
    t.threads[place]? = some ⟨.dispatch events, asked, rest⟩ → ev ∈ events →
    ev.decoded.eventName = .spendRejected → ev.text "pending_spend" = some key →
    row ∈ t.world.pending.rows → row.id = id → row.pendingSpendPubkey = some key →
    Ground t id .rejected

/-- The thread that is about to approve a row has chosen it for a payment of its delivery. -/
theorem Ground.of_approval {t : Threads}
    {log : List (Transition.Fired Threads (Pool.Action Refresh Bool Kind Stopped))}
    (run : Serving rt dr s log t) {place id : Nat} {kind : Kind} {asked : List Asked}
    {next : (Query.approve id).Answer → Handler Reply}
    (found : t.threads[place]? = some ⟨kind, asked, .ask (.approve id) next⟩)
    (opened : verdict t.world.pending id = none) : Ground t id .approved := by
  have orderly := PoolRun.orderly run
  obtain ⟨init, y, ends, lead⟩ := (orderly.led .gone (fun kind => (leads_built kind).program rt dr) found).2
    _ next rfl trivial
  obtain ⟨payment, rfl⟩ := lead.eq
  dsimp only at ends
  obtain ⟨own, follows⟩ := orderly.logs place _ found
  dsimp only at own
  have member : (⟨.oldestPending payment, .ok (.ok (some id))⟩ : Asked) ∈ asked := ends ▸ (by simp)
  have only := ((only_built kind).program rt dr).runs (follows _ _ (.failed _ next .gone))
  obtain ⟨events, ev, rfl, inside, named, read⟩ := only _ (List.mem_append_left _ member)
  rw [own] at member
  have entry := mem_history_of_logAt member
  have fits := (fits_kept rt dr).run run (by
    intro x none
    cases none)
  obtain ⟨row, held, same, vault, service, amount⟩ := fits _ (List.mem_map_of_mem entry) id rfl
  -- The row is still open, so that it awaits the payment as it did when it was chosen.
  have waits : row.status = .pending := by
    by_contra settled
    have has : verdict t.world.pending id = some row.status :=
      verdict_eq_some.mpr ⟨row, held, same, rfl, settled⟩
    rw [opened] at has
    cases has
  exact .payment found inside named read held same (decide_eq_true ⟨vault, service, amount, waits⟩)

theorem Ground.of_answer {t : Threads} {place : Nat} {kind : Kind} {asked : List Asked}
    {next : q.Answer → Handler Reply} {id : Nat} {status : SpendStatus}
    (found : t.threads[place]? = some ⟨kind, asked, .ask q next⟩) (origin : Origin kind q)
    (tests : ¬q.Update) (taken : decided ⟨q, .ok (execute rt dr t.world q).2⟩ = some (id, status)) :
    Ground t id status := by
  cases q with
  | decide decision number owner =>
    obtain ⟨⟨status', alertId⟩, told, same⟩ := Option.map_eq_some_iff.mp taken
    obtain ⟨rfl, rfl⟩ := Prod.mk.inj same
    simp only [Option.map_eq_some_iff, Prod.mk.injEq] at told
    obtain ⟨row, picked, rfl, -⟩ := told
    have hits := List.find?_some picked
    obtain ⟨named, own, -⟩ := of_decide_eq_true hits
    have kind : kind = .decide owner decision number := origin
    rw [kind] at found
    exact .owner found (by omega) (List.mem_of_find?_eq_some picked) (by omega) own
  -- An approval decides by its update, not by the choice before.
  | approve => exact absurd trivial tests
  | reject key =>
    obtain ⟨events, ev, rfl, member, named, read⟩ := origin
    obtain ⟨row, told, same⟩ := Option.map_eq_some_iff.mp taken
    obtain ⟨rfl, rfl⟩ := Prod.mk.inj same
    have answered : (t.world.pending.reject key).2 = some row := told
    obtain ⟨old, picked, rfl⟩ := Option.map_eq_some_iff.mp answered
    have hits := List.find?_some picked
    exact .rejection found member named read (List.mem_of_find?_eq_some picked) rfl
      (of_decide_eq_true hits).1
  | _ => cases taken

/-- No row is decided without a ground: the owner's own request, a payment that it was waiting for,
or the rejection of the request it stands for. -/
theorem decisions_grounded {t : Threads}
    {log : List (Transition.Fired Threads (Pool.Action Refresh Bool Kind Stopped))}
    (one : OneRow s.pending) (run : Serving rt dr s log t) :
    ∀ e ∈ log, ∀ id status, verdict e.pre.world.pending id = none →
      verdict e.post.world.pending id = some status → Ground e.pre id status := by
  intro e member id status opened settled
  obtain ⟨before, after, rfl⟩ := List.append_of_mem member
  obtain ⟨earlier, fired, -⟩ := run.around
  have valid := ((verdict_cells rt dr).run one earlier).valid
  obtain ⟨pre, act, post⟩ := e
  dsimp only at opened settled fired
  cases Pool.step_cases fired with
  | start => exact absurd (opened.symm.trans settled) (by simp)
  | drop => exact absurd (opened.symm.trans settled) (by simp)
  | move m => exact absurd (opened.symm.trans settled) (by simp)
  | @turn place succeeds kind asked q next found =>
    have step := (answer_decides rt dr valid succeeds q).verdicts id
    have taken : decided ⟨q, .ok (answer rt dr pre.world succeeds q).2⟩ = some (id, status) := by
      rw [opened, Option.or_none] at step
      exact forRow_eq_some.mp (step.symm.trans settled)
    have origin := (PoolRun.orderly earlier).asks .gone found ((only_built kind).program rt dr)
    cases succeeds with
    | true =>
      rw [answer_true] at taken
      by_cases update : q.Update
      · obtain ⟨number, rfl⟩ := update.eq
        obtain ⟨rfl, rfl⟩ := approve_decided rfl taken
        exact .of_approval earlier found opened
      · exact .of_answer found origin update taken
    | false =>
      -- A statement that failed decides nothing.
      cases q <;> cases taken

/-- The rejection and the approval of the same row, one of which lands between the two halves of the
other. -/
theorem decisions_grounded_race :
    ∃ t, verdict t.world.pending 1 = none ∧ Ground t 1 .rejected := by
  obtain ⟨e, member, opened, settled⟩ : ∃ e ∈ Transition.trace
      (Pool.step (desk Desk.runtime Shift.runtime) (program Desk.runtime Shift.runtime))
      (.start Desk.state) torn, verdict e.pre.world.pending 1 = none ∧
        verdict e.post.world.pending 1 = some .rejected := by
    refine ⟨_, List.mem_of_getElem? (i := 10) rfl, rfl, rfl⟩
  exact ⟨e.pre, opened, decisions_grounded oneRow_start (Shift.serving torn) e member 1 .rejected opened settled⟩

end AgentFuel.Backend.Handlers
