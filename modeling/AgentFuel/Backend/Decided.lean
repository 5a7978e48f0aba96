import AgentFuel.Backend.Decisions

/-!
# Requests are decided once

An owner decides a pending spend over HTTP while deliveries mirror what the chain decided. A call and
a mirrored rejection test the status of the row when they write it. A mirrored approval tests it in a
sub-select, and writes the row even if another statement has decided it since. So at most one caller
is told that a decision was theirs, and it stays unless such an approval comes over it.
-/
namespace AgentFuel.Backend.Handlers

open Spends Dialogue RateWindow

variable {rt : RequestRuntime} {dr : DispatchRuntime} {s : State}

/-! ### Approvals -/

def Query.Update : Query → Prop
  | approve _ => True
  | _ => False

/-- The `UPDATE` writes the row that the sub-select has named. -/
def LeadsTo : Asked → Query → Prop
  | ⟨.oldestPending _, .ok (.ok chosen)⟩, .approve id => chosen = some id
  | _, _ => False

theorem approveOldest_leads (payment : SpendPayment String) :
    Pool.Leads Query.Update LeadsTo (approveOldest payment) := by
  have alone : ∀ r, Pool.Led Query.Update LeadsTo [(⟨.oldestPending payment, r⟩ : Asked)] := by
    intro r
    apply Pool.led_untied
    rw [List.forall_mem_singleton]
    exact fun update => update
  intro log result runs
  rcases runs_bind.mp runs with ⟨e, started, rfl⟩ | ⟨answer, before, after, rfl, started, rest⟩
  · rw [sql, runs_question] at started
    subst started
    exact alone _
  · rw [sql, runs_question] at started
    subst started
    cases answer with
    | error e =>
      obtain ⟨rfl, rfl⟩ := runs_pure.mp rest
      exact alone _
    | ok chosen =>
      -- The row that was chosen is what the update names.
      cases chosen with
      | none =>
        obtain ⟨rfl, rfl⟩ := runs_pure.mp rest
        exact alone _
      | some id =>
        have update : after = [⟨.approve id, result⟩] := runs_question.mp rest
        subst update
        exact Pool.led_pair (fun update => update) rfl

theorem Query.Plain.not_update {q : Query} (plain : q.Plain) : ¬q.Update := by
  cases q with
  | approve => exact fun _ => plain
  | _ => exact fun update => update

/-- No handler writes a row as approved without having chosen it. -/
theorem leads_built (kind : Kind) : Built kind fun _ => Pool.Leads Query.Update LeadsTo where
  done result := Pool.leads_done result
  bind first second := first.bind second
  sql q plain _ := Pool.leads_question plain.not_update
  emit alert := by
    refine (Pool.leads_question fun update => update).bind fun stored => ?_
    cases stored with
    | error e => exact Pool.leads_done _
    | ok id =>
      refine (Pool.leads_question fun update => update).bind fun shown => ?_
      refine (Pool.leads_question fun update => update).bind fun told => ?_
      exact Pool.leads_done _
  approveOldest payment _ := approveOldest_leads payment

/-! ### What an endpoint is told -/

section Replies

variable {caller : String} {decision : Decision} {id : Int} {asked : List Asked}

/-- A caller is told of a decision when their statement has decided the row. -/
theorem decide_told {id' : Int} {status : SpendStatus}
    (runs : Runs (decide caller decision id) asked (.ok (.decided id' status))) :
    id' = id ∧ ∃ alertId, ⟨.decide decision id caller, .ok (.ok (some (status, alertId)))⟩ ∈ asked := by
  obtain ⟨_, -, ended⟩ | ⟨answer, before, after, rfl, first, rest⟩ := runs_bind.mp runs
  · cases ended
  · rw [sql, runs_question] at first
    subst first
    -- A caller whose statement failed or found no row is told of no decision.
    cases answer with
    | error e =>
      obtain ⟨-, told⟩ := runs_pure.mp rest
      cases told
    | ok row =>
      cases row with
      | none =>
        obtain ⟨-, told⟩ := runs_pure.mp rest
        cases told
      | some answer =>
        obtain ⟨status', alertId⟩ := answer
        have told : id' = id ∧ status = status' := by
          -- Whether or not an alert is marked afterwards, the reply is the same.
          cases alertId with
          | none =>
            obtain ⟨-, told⟩ := runs_pure.mp rest
            cases told
            exact ⟨rfl, rfl⟩
          | some alertId =>
            obtain ⟨_, -, ended⟩ | ⟨_, _, _, -, -, rest⟩ := runs_bind.mp rest
            · cases ended
            · obtain ⟨-, told⟩ := runs_pure.mp rest
              cases told
              exact ⟨rfl, rfl⟩
        obtain ⟨rfl, rfl⟩ := told
        exact ⟨rfl, alertId, List.mem_append_left _ (List.mem_singleton_self _)⟩

end Replies

/-- What the answer to `decide` says of the row. -/
theorem decideRow_status {table : PendingTable String} {decision : Decision} {id : Int} {owner : String}
    {status : SpendStatus} {alertId : Option Nat}
    (told : (decideRow table decision id owner).2 = some (status, alertId)) :
    status = decision.newStatus ∧ 0 ≤ id := by
  simp only [decideRow, Option.map_eq_some_iff, Prod.mk.injEq] at told
  obtain ⟨row, found, rfl, -⟩ := told
  have hits := List.find?_some found
  have named := (of_decide_eq_true hits).1
  exact ⟨rfl, by omega⟩

/-- A decided row has the status of the endpoint. -/
def Decision.Answered : Asked → Prop
  | ⟨.decide decision id _, .ok (.ok row)⟩ => ∀ (answer : SpendStatus × Option Nat),
    row = some answer → answer.1 = decision.newStatus ∧ 0 ≤ id
  | _ => True

theorem decide_answers : Pool.Keeps (E := Stopped) (desk rt dr) fun _ history =>
    ∀ x ∈ history, Decision.Answered x := by
  apply Pool.Keeps.all
  · intro s succeeds q
    cases q with
    | decide decision id owner =>
      cases succeeds with
      | false => trivial
      | true =>
        rintro ⟨status, alertId⟩ told
        exact decideRow_status told
    | _ => trivial
  · intro q e
    cases q <;> trivial

/-- The endpoint at a place has told its caller that the row is decided. -/
def Told (t : Threads) (place : Nat) (caller : String) (decision : Decision) (id : Int)
    (status : SpendStatus) : Prop :=
  ∃ asked, t.threads[place]? = some ⟨.decide caller decision id, asked, .done (.ok (.decided id status))⟩

/-! ### Decisions in a history -/

/-- The row was undecided at the start and nothing has decided it. -/
def Undecided (s : State) (history : List (Nat × Asked)) (id : Nat) : Prop :=
  verdict s.pending id = none ∧ ∀ entry ∈ history, ∀ status, decided entry.2 ≠ some (id, status)

/-- With its last statement the handler at the place has chosen the row, undecided, for a payment. -/
def Chosen (s : State) (history : List (Nat × Asked)) (place id : Nat) : Prop :=
  ∃ payment earlier between,
    history = earlier ++ (place, ⟨.oldestPending payment, .ok (.ok (some id))⟩) :: between ∧
      Undecided s earlier id ∧ ∀ entry ∈ between, entry.1 ≠ place

/-- A decision of an undecided row, or the approval of one that was undecided when it was chosen. -/
def Sound (s : State) (before : List (Nat × Asked)) (entry : Nat × Asked) : Prop :=
  ∀ id status, decided entry.2 = some (id, status) → Undecided s before id ∨
    entry.2.question = .approve id ∧ status = .approved ∧ Chosen s before entry.1 id

/-- No decision of a row comes between the choice of it and its approval by the same handler. -/
def Whole (history : List (Nat × Asked)) : Prop :=
  ∀ earlier place payment id between answer later,
    history = earlier ++ (place, ⟨.oldestPending payment, .ok (.ok (some id))⟩) :: between ++
      (place, answer) :: later →
    (∀ entry ∈ between, entry.1 ≠ place) → decided answer = some (id, .approved) →
    ∀ entry ∈ between, ∀ status, decided entry.2 ≠ some (id, status)

theorem blank_undecided {history : List (Nat × Asked)} {id : Nat}
    (blank : Pool.Blank (fun s : State => verdict s.pending) (fun id x => forRow id (decided x)) s id
      (history.map Prod.snd)) : Undecided s history id := by
  refine ⟨blank.1, fun entry member status taken => ?_⟩
  have written : forRow id (decided entry.2) = none := blank.2 entry.2 (List.mem_map_of_mem member)
  rw [forRow_eq_some.mpr taken] at written
  cases written

/-- What a statement other than the update of an approval decides, it has found undecided. -/
theorem foundOpen_of_decided {x : Asked} {id : Nat} {status : SpendStatus}
    (taken : decided x = some (id, status)) (tests : ¬x.question.Update) : foundOpen x id := by
  obtain ⟨q, answer⟩ := x
  cases q with
  | approve => exact absurd trivial tests
  | decide decision number owner =>
    cases answer with
    | error => cases taken
    | ok row =>
      cases row with
      | error => cases taken
      | ok row =>
        obtain ⟨answer, told, same⟩ := Option.map_eq_some_iff.mp taken
        obtain ⟨rfl, rfl⟩ := Prod.mk.inj same
        exact ⟨Option.isSome_iff_exists.mpr ⟨answer, told⟩, rfl⟩
  | reject key =>
    cases answer with
    | error => cases taken
    | ok row =>
      cases row with
      | error => cases taken
      | ok row =>
        obtain ⟨row', told, same⟩ := Option.map_eq_some_iff.mp taken
        obtain ⟨rfl, rfl⟩ := Prod.mk.inj same
        exact Option.map_eq_some_iff.mpr ⟨row', told, rfl⟩
  | _ => cases taken

/-- What the update of an approval decides. -/
theorem approve_decided {x : Asked} {number id : Nat} {status : SpendStatus} (update : x.question = .approve number)
    (taken : decided x = some (id, status)) : number = id ∧ status = .approved := by
  obtain ⟨q, answer⟩ := x
  cases q with
  | approve other =>
    obtain rfl := Query.approve.inj update
    cases answer with
    | error => cases taken
    | ok row =>
      cases row with
      | error => cases taken
      | ok row =>
        obtain ⟨row', told, same⟩ := Option.map_eq_some_iff.mp taken
        obtain ⟨rfl, rfl⟩ := Prod.mk.inj same
        exact ⟨rfl, rfl⟩
  | _ => cases update

theorem Query.Update.eq {q : Query} (update : q.Update) : ∃ id, q = .approve id := by
  cases q with
  | approve id => exact ⟨id, rfl⟩
  | _ => cases update

theorem LeadsTo.eq {x : Asked} {id : Nat} (lead : LeadsTo x (.approve id)) :
    ∃ payment, x = ⟨.oldestPending payment, .ok (.ok (some id))⟩ := by
  obtain ⟨q, answer⟩ := x
  cases q with
  | oldestPending payment =>
    cases answer with
    | error => cases lead
    | ok chosen =>
      cases chosen with
      | error => cases lead
      | ok chosen =>
        obtain rfl : chosen = some id := lead
        exact ⟨payment, rfl⟩
  | _ => cases lead

section Runs

variable {t : Threads} {log : List (Transition.Fired Threads (Pool.Action Refresh Bool Kind Stopped))}

theorem found_undecided (one : OneRow s.pending) (run : Serving rt dr s log t) :
    Each (fun before entry => ∀ id, foundOpen entry.2 id → Undecided s before id) t.history := by
  have held := (verdict_cells rt dr).run one run
  intro before entry after whole id found
  apply blank_undecided
  have asked : t.asked = before.map Prod.snd ++ entry.2 :: after.map Prod.snd := by
    rw [Pool.State.asked, whole, List.map_append, List.map_cons]
  exact held.empty _ _ _ asked id found

theorem decisions_sound (one : OneRow s.pending) (run : Serving rt dr s log t) :
    Each (Sound s) t.history := by
  have opens := found_undecided one run
  have led := (Pool.PoolRun.orderly run).led_history .gone fun kind => (leads_built kind).program rt dr
  intro before entry after whole id status taken
  by_cases update : entry.2.question.Update
  · obtain ⟨number, question⟩ := update.eq
    obtain ⟨rfl, rfl⟩ := approve_decided question taken
    obtain ⟨earlier, x, between, rfl, apart, lead⟩ := led before entry after whole update
    rw [question] at lead
    obtain ⟨payment, rfl⟩ := lead.eq
    refine .inr ⟨question, rfl, payment, earlier, between, rfl, ?_, apart⟩
    rw [List.append_assoc, List.cons_append] at whole
    exact opens _ _ _ whole number rfl
  · exact .inl (opens before entry after whole id (foundOpen_of_decided taken update))

end Runs

variable {history : List (Nat × Asked)}

/-- Without a decision in between, what was undecided when it was chosen still is. -/
theorem fresh_of_whole (sound : Each (Sound s) history) (whole : Whole history) :
    Each (fun before entry => ∀ id status, decided entry.2 = some (id, status) →
      Undecided s before id) history := by
  rintro before ⟨place, x⟩ after split id status taken
  rcases sound before (place, x) after split id status taken with fresh | ⟨-, rfl, chosen⟩
  · exact fresh
  · obtain ⟨payment, earlier, between, rfl, undecided, apart⟩ := chosen
    have quiet := whole earlier place payment id between x after split apart taken
    refine ⟨undecided.1, ?_⟩
    rw [List.forall_mem_append, List.forall_mem_cons]
    refine ⟨undecided.2, ?_, quiet⟩
    rintro status ⟨⟩

theorem nodup_of_fresh (fresh : Each (fun before entry => ∀ id status,
      decided entry.2 = some (id, status) → Undecided s before id) history) :
    (((history.map Prod.snd).filterMap decided).map Prod.fst).Nodup := by
  induction history using List.reverseRecOn with
  | nil => exact List.nodup_nil
  | append_singleton history entry ih =>
    rw [each_snoc] at fresh
    obtain ⟨earlier, last⟩ := fresh
    rw [List.map_append, List.filterMap_append, List.map_append, List.nodup_append]
    refine ⟨ih earlier, ?_, ?_⟩
    · rw [List.map_singleton, List.filterMap_cons, List.filterMap_nil]
      cases decided entry.2 <;> simp
    · rintro id before id' now rfl
      obtain ⟨⟨_, status⟩, taken, rfl⟩ := List.mem_map.mp now
      obtain ⟨x, here, told⟩ := List.mem_filterMap.mp taken
      rw [List.map_singleton, List.mem_singleton] at here
      subst here
      obtain ⟨⟨_, status'⟩, taken', same⟩ := List.mem_map.mp before
      obtain ⟨y, there, told'⟩ := List.mem_filterMap.mp taken'
      obtain ⟨other, inside, rfl⟩ := List.mem_map.mp there
      dsimp only at same
      subst same
      exact (last _ status told).2 other inside status' told'

/-- What is decided once has that decision. -/
theorem last_of_once {asked : List Asked} {id : Nat} {status : SpendStatus}
    (once : ((asked.filterMap decided).map Prod.fst).Nodup)
    (taken : (id, status) ∈ asked.filterMap decided) :
    Register.last (fun x => forRow id (decided x)) asked = some status := by
  cases wrote : Register.last (fun x => forRow id (decided x)) asked with
  | none =>
    obtain ⟨x, member, told⟩ := List.mem_filterMap.mp taken
    have unwritten := Register.last_eq_none.mp wrote x member
    rw [forRow_eq_some.mpr told] at unwritten
    cases unwritten
  | some status' =>
    obtain ⟨before, x, after, rfl, written, -⟩ := Register.last_eq_some wrote
    have told := forRow_eq_some.mp written
    have other : (id, status') ∈ (before ++ x :: after).filterMap decided :=
      List.mem_filterMap.mpr ⟨x, by simp, told⟩
    have same := List.inj_on_of_nodup_map once taken other rfl
    rw [(Prod.mk.inj same).2]

/-- After a decision only updates of approvals decide the row again. -/
theorem decided_after (sound : Each (Sound s) history) {before after : List (Nat × Asked)}
    {entry later : Nat × Asked} (split : history = before ++ entry :: after) {id : Nat}
    {status status' : SpendStatus} (taken : decided entry.2 = some (id, status)) (member : later ∈ after)
    (again : decided later.2 = some (id, status')) :
    later.2.question.Update ∧ status' = .approved := by
  obtain ⟨between, rest, rfl⟩ := List.append_of_mem member
  rw [← List.cons_append, ← List.append_assoc] at split
  rcases sound _ later rest split id status' again with fresh | ⟨update, approved, -⟩
  · exact absurd taken (fresh.2 entry (by simp) status)
  · rw [update]
    exact ⟨trivial, approved⟩

section Told

variable {t : Threads} {log : List (Transition.Fired Threads (Pool.Action Refresh Bool Kind Stopped))}
  {place : Nat} {caller : String} {decision : Decision} {id : Int} {status : SpendStatus}

/-- The statement behind what a caller was told. -/
theorem Told.entry (told : Told t place caller decision id status) (run : Serving rt dr s log t) :
    status = decision.newStatus ∧ 0 ≤ id ∧
      ∃ x, (place, x) ∈ t.history ∧ decided x = some (id.toNat, status) ∧ ¬x.question.Update := by
  obtain ⟨asked, found⟩ := told
  obtain ⟨runs, logged⟩ := (Pool.PoolRun.orderly run).ended found
  obtain ⟨-, alertId, member⟩ := decide_told runs
  have entry := Pool.mem_history_of_logAt (logged ▸ member)
  have answers := decide_answers.run run (by
    intro x member
    cases member)
  obtain ⟨said, number⟩ := answers _ (List.mem_map_of_mem entry) _ rfl
  exact ⟨said, number, _, entry, rfl, fun update => update⟩

/-- A row keeps what a caller was told, unless an approval has come over it since. -/
theorem Told.kept (told : Told t place caller decision id status) (one : OneRow s.pending)
    (run : Serving rt dr s log t) : ∃ before x after, t.history = before ++ (place, x) :: after ∧
      decided x = some (id.toNat, status) ∧
      verdict t.world.pending id.toNat =
        (Register.last (fun x => forRow id.toNat (decided x)) (after.map Prod.snd)).or (some status) := by
  obtain ⟨-, -, x, member, taken, -⟩ := told.entry run
  obtain ⟨before, after, split⟩ := List.append_of_mem member
  refine ⟨before, x, after, split, taken, ?_⟩
  have asked : t.asked = (before.map Prod.snd ++ [x]) ++ after.map Prod.snd := by
    rw [Pool.State.asked, split]
    simp
  have written : forRow id.toNat (decided x) = some status := forRow_eq_some.mpr taken
  rw [((verdict_cells rt dr).run one run).values, asked, Register.last_append, Register.last_snoc, written,
    Option.some_or, Option.or_assoc, Option.some_or]

/-- Two callers are not told of the same row. -/
theorem Told.unique {other : Nat} {caller' : String} {decision' : Decision} {status' : SpendStatus}
    (told : Told t place caller decision id status) (told' : Told t other caller' decision' id status')
    (one : OneRow s.pending) (run : Serving rt dr s log t) : other = place := by
  have sound := decisions_sound one run
  obtain ⟨-, -, x, member, taken, tests⟩ := told.entry run
  obtain ⟨-, -, y, member', taken', tests'⟩ := told'.entry run
  obtain ⟨before, after, split⟩ := List.append_of_mem member
  rw [split] at member'
  rcases List.mem_append.mp member' with earlier | later
  · obtain ⟨init, between, rfl⟩ := List.append_of_mem earlier
    rw [List.append_assoc, List.cons_append] at split
    have behind : (place, x) ∈ between ++ (place, x) :: after := by simp
    exact absurd (decided_after sound split taken' behind taken).1 tests
  · rcases List.mem_cons.mp later with here | later
    · exact congrArg Prod.fst here
    · exact absurd (decided_after sound split taken later taken').1 tests'

end Told

/-- Rows are decided once and keep their decision, as the callers were told. -/
structure DecidedOnce (s : State) (t : Threads) : Prop where
  once : ((t.asked.filterMap decided).map Prod.fst).Nodup
  verdicts : ∀ id status, verdict t.world.pending id = some status ↔
    verdict s.pending id = some status ∨ (id, status) ∈ t.asked.filterMap decided
  told : ∀ place caller decision id status, Told t place caller decision id status →
    verdict t.world.pending id.toNat = some status

section Once

variable {t : Threads} {log : List (Transition.Fired Threads (Pool.Action Refresh Bool Kind Stopped))}

theorem decidedOnce_of_whole (one : OneRow s.pending) (run : Serving rt dr s log t)
    (whole : Whole t.history) : DecidedOnce s t := by
  have fresh := fresh_of_whole (decisions_sound one run) whole
  have once : ((t.asked.filterMap decided).map Prod.fst).Nodup := nodup_of_fresh fresh
  have values := ((verdict_cells rt dr).run one run).values
  constructor
  · exact once
  · intro id status
    rw [values]
    constructor
    · intro has
      rcases Option.or_eq_some_iff.mp has with wrote | ⟨-, start⟩
      · obtain ⟨before, x, after, split, written, -⟩ := Register.last_eq_some wrote
        exact .inr (List.mem_filterMap.mpr ⟨x, split ▸ (by simp), forRow_eq_some.mp written⟩)
      · exact .inl start
    · rintro (start | taken)
      · have unwritten : Register.last (fun x => forRow id (decided x)) t.asked = none := by
          rw [Register.last_eq_none]
          intro x member
          obtain ⟨⟨place, x⟩, inside, rfl⟩ := List.mem_map.mp member
          obtain ⟨before, after, split⟩ := List.append_of_mem inside
          cases taken : forRow id (decided x) with
          | none => rfl
          | some status' =>
            -- What has a decision at the start is not decided any more.
            have undecided := (fresh before (place, x) after split id status' (forRow_eq_some.mp taken)).1
            rw [start] at undecided
            cases undecided
        rw [unwritten, Option.none_or, start]
      · rw [last_of_once once taken, Option.some_or]
  · intro place caller decision id status told
    obtain ⟨before, x, after, split, taken, value⟩ := told.kept one run
    have quiet : Register.last (fun x => forRow id.toNat (decided x)) (after.map Prod.snd) = none := by
      rw [Register.last_eq_none]
      intro y member
      obtain ⟨later, inside, rfl⟩ := List.mem_map.mp member
      obtain ⟨between, rest, rfl⟩ := List.append_of_mem inside
      rw [← List.cons_append, ← List.append_assoc] at split
      cases again : forRow id.toNat (decided later.2) with
      | none => rfl
      | some status' =>
        have undecided := fresh _ later rest split id.toNat status' (forRow_eq_some.mp again)
        exact absurd taken (undecided.2 (place, x) (by simp) status)
    rw [value, quiet, Option.none_or]

/-- A decision between a choice and its approval makes two decisions of the row. -/
theorem whole_of_once (once : ((t.asked.filterMap decided).map Prod.fst).Nodup) : Whole t.history := by
  intro earlier place payment id between answer later split apart approved entry member status taken
  obtain ⟨first, rest, rfl⟩ := List.append_of_mem member
  have shape : t.asked.filterMap decided = (earlier.map Prod.snd).filterMap decided ++
      ((first.map Prod.snd).filterMap decided ++ (id, status) ::
        ((rest.map Prod.snd).filterMap decided ++ (id, .approved) :: (later.map Prod.snd).filterMap decided)) := by
    have choice : decided ⟨.oldestPending payment, .ok (.ok (some id))⟩ = none := rfl
    rw [Pool.State.asked, split]
    simp only [List.map_append, List.map_cons, List.filterMap_append, List.filterMap_cons, taken, approved,
      choice, List.append_assoc, List.cons_append]
  rw [shape] at once
  simp only [List.map_append, List.map_cons] at once
  have tail := (List.nodup_append.mp (List.nodup_append.mp once).2.1).2.1
  exact absurd (by simp) (List.nodup_cons.mp tail).1

/-- Whatever runs at once: a row has the last decision that a statement made of it. Each decision
was made of an undecided row, or by an approval that had chosen the row undecided with its statement
before. At most one caller is told that their decision of a row counts, and the row has what they
were told unless such an approval came later. Rows are decided once, and keep it, exactly if no
decision of a row comes between the choice of it and its approval. -/
theorem decided_once (one : OneRow s.pending) (run : Serving rt dr s log t) :
    (∀ id, verdict t.world.pending id =
      (Register.last (fun x => forRow id (decided x)) t.asked).or (verdict s.pending id)) ∧
    Each (Sound s) t.history ∧
    (∀ place caller decision id status, Told t place caller decision id status →
      status = decision.newStatus ∧ 0 ≤ id ∧ verdict s.pending id.toNat = none ∧
      (verdict t.world.pending id.toNat = some status ∨
        verdict t.world.pending id.toNat = some .approved) ∧
      ∀ other caller' decision' status', Told t other caller' decision' id status' → other = place) ∧
    (Whole t.history ↔ DecidedOnce s t) := by
  have sound := decisions_sound one run
  refine ⟨((verdict_cells rt dr).run one run).values, sound, ?_,
    decidedOnce_of_whole one run, fun once => whole_of_once once.once⟩
  intro place caller decision id status told
  obtain ⟨said, number, -⟩ := told.entry run
  obtain ⟨before, x, after, split, taken, value⟩ := told.kept one run
  refine ⟨said, number, ?_, ?_, fun other caller' decision' status' told' => told.unique told' one run⟩
  · rcases sound before (place, x) after split _ status taken with fresh | ⟨-, -, chosen⟩
    · exact fresh.1
    · obtain ⟨_, _, _, -, undecided, -⟩ := chosen
      exact undecided.1
  · -- What was written afterwards can only be an approval of a row chosen before.
    cases wrote : Register.last (fun x => forRow id.toNat (decided x)) (after.map Prod.snd) with
    | none => exact .inl (by rw [value, wrote, Option.none_or])
    | some status' =>
      obtain ⟨earlier, y, rest, same, written, -⟩ := Register.last_eq_some wrote
      have inside : y ∈ after.map Prod.snd := same ▸ (by simp)
      obtain ⟨later, member, rfl⟩ := List.mem_map.mp inside
      obtain ⟨-, rfl⟩ := decided_after sound split taken member (forRow_eq_some.mp written)
      exact .inr (by rw [value, wrote, Option.some_or])

end Once

/-! ### Two races -/

/-- The owner approves and rejects at once, and the rejection comes first. -/
def race : List (Pool.Action Refresh Bool Kind Stopped) :=
  Shift.requested ++ [.start (.decide "owner" .approve 1), .start (.decide "owner" .reject 1),
    .turn 2 true, .turn 1 true, .turn 2 true]

/-- The payment that the agent's request was for. -/
def spent : ParsedEvent String where
  signature := "signature"
  slot := 1
  logIndex := 0
  programId := []
  decoded := ⟨.spent, .obj [("vault", .str "vault"), ("service", .str "service"), ("amount_usdc", .num 5)]⟩

/-- The owner rejects the request while the payment for it is delivered, between the sub-select and
the update. -/
def torn : List (Pool.Action Refresh Bool Kind Stopped) :=
  Shift.requested ++ [.start (.dispatch [spent]), .start (.decide "owner" .reject 1),
    .turn 1 true, .turn 2 true, .turn 2 true, .turn 1 true]

theorem oneRow_start : OneRow Desk.state.pending := by
  intro row member
  cases member

/-- Nobody was asked for a row to approve. -/
theorem race_whole : Whole (Shift.after race).history := by
  intro earlier place payment id between answer later split
  have questions : (Shift.after race).history.any (fun entry => match entry.2.question with
      | .oldestPending _ => true
      | _ => false) = false := rfl
  rw [split] at questions
  simp at questions

theorem decided_once_race :
    (Told (Shift.after race) 2 "owner" .reject 1 .rejected ∧
      verdict (Shift.after race).world.pending 1 = some .rejected ∧
      ∀ other caller decision status,
        Told (Shift.after race) other caller decision 1 status → other = 2) ∧
    (Told (Shift.after torn) 2 "owner" .reject 1 .rejected ∧
      verdict (Shift.after torn).world.pending 1 = some .approved ∧ ¬Whole (Shift.after torn).history) := by
  constructor
  · have told : Told (Shift.after race) 2 "owner" .reject 1 .rejected := ⟨_, rfl⟩
    obtain ⟨-, -, callers, whole⟩ := decided_once oneRow_start (Shift.serving race)
    obtain ⟨-, -, -, -, alone⟩ := callers _ _ _ _ _ told
    exact ⟨told, (whole.mp race_whole).told _ _ _ _ _ told, alone⟩
  · have told : Told (Shift.after torn) 2 "owner" .reject 1 .rejected := ⟨_, rfl⟩
    have approved : verdict (Shift.after torn).world.pending 1 = some .approved := rfl
    obtain ⟨-, -, -, whole⟩ := decided_once oneRow_start (Shift.serving torn)
    refine ⟨told, approved, fun undisturbed => ?_⟩
    have kept := (whole.mp undisturbed).told _ _ _ _ _ told
    cases approved.symm.trans kept

end AgentFuel.Backend.Handlers
