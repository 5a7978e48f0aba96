import AgentFuel.Backend.Ingest
import AgentFuel.Backend.LogTree

/-!
# Which log lines reach the tables

Neither the program behind a data line nor the outcome of its transaction is looked at on the
way to the tables. What other programs log, and what failed transactions leave in their logs,
stays out exactly as far as the parser sees no open bracket around it.
-/
namespace AgentFuel.Backend

open Encodings

/-- A transaction as it is delivered. -/
structure Delivery where
  json : Json String
  calls : List Call
  carries : Carries json calls

def Delivery.signature (delivery : Delivery) : String := signatureOf delivery.json

/-- A delivered list of transactions. -/
def body (deliveries : List Delivery) : Json String := .arr (deliveries.map Delivery.json)

/-- How two answers of the RPC are related: they fail alike, there is nothing in either, or a
transaction is answered with its counterpart. -/
inductive Answers (deliveries : List Delivery) (related : Delivery → Option (Json String) → Prop) :
    Except BackfillError (Option (Json String)) → Except BackfillError (Option (Json String)) → Prop
  | failure (e : BackfillError) : Answers deliveries related (.error e) (.error e)
  | nothing : Answers deliveries related (.ok none) (.ok none)
  | transaction {delivery : Delivery} {answer : Option (Json String)} : delivery ∈ deliveries →
      related delivery answer → Answers deliveries related (.ok (some delivery.json)) (.ok answer)

section Parsing

variable (discriminator : EventName → Vector UInt8 8)

/-- The events parsed from an answer. -/
def parsedFrom (answer : Option (Json String)) : List (ParsedEvent String) :=
  answer.elim [] fun tx => (parse discriminator (some tx)).toOption.getD []

/-- No event on a line that is not kept stands in an apparent bracket. -/
def Delivery.Ignores (delivery : Delivery) (keep : LogLine → Bool) : Prop :=
  ∀ before line after, transactionLog delivery.calls = before ++ line :: after → keep line = false →
    (line.event discriminator).isSome →
      ∀ name, ¬Brackets.Encloses LogLine.opens LogLine.closes before name

end Parsing

variable {discriminator : EventName → Vector UInt8 8} {deliveries : List Delivery}
variable {delivery : Delivery}

theorem signed_obj {tx : Json String} (signed : signatureOf tx ≠ "") : ∃ fields, tx = .obj fields := by
  cases tx with
  | obj fields => exact ⟨fields, rfl⟩
  | null => exact absurd rfl signed
  | bool => exact absurd rfl signed
  | num => exact absurd rfl signed
  | frac => exact absurd rfl signed
  | str => exact absurd rfl signed
  | arr => exact absurd rfl signed

variable (discriminator) in
theorem parse_signed {tx : Json String} (signed : signatureOf tx ≠ "") :
    parse discriminator (some tx) = .ok (parseOne discriminator tx) := by
  obtain ⟨fields, rfl⟩ := signed_obj signed
  rfl

theorem parsedFrom_signed {tx : Json String} (signed : signatureOf tx ≠ "") :
    parsedFrom discriminator (some tx) = parseOne discriminator tx := by
  rw [parsedFrom, Option.elim_some, parse_signed discriminator signed]
  rfl

variable (discriminator) in
theorem parse_body (deliveries : List Delivery) :
    parse discriminator (some (body deliveries)) =
      .ok (deliveries.flatMap fun delivery => parseOne discriminator delivery.json) := by
  rw [body, parse, List.flatMap_map]

theorem replayed_cons (fetch : String → Except BackfillError (Option (Json String)))
    (signature : String) (rest : List String) :
    replayed discriminator fetch (signature :: rest) =
      (fetch signature >>= fun answer => replayed discriminator fetch rest >>= fun later =>
        pure (parsedFrom discriminator answer ++ later)) := by
  rw [replayed]
  congr 1
  funext answer
  congr 1
  funext later
  cases answer with
  | none => rfl
  | some tx =>
    dsimp only
    cases outcome : parse discriminator (some tx) with
    | error => simp [parsedFrom, outcome, Except.toOption]
    | ok events => simp [parsedFrom, outcome, Except.toOption]

/-- Answers from which the same events are parsed replay to the same history. -/
theorem replayed_congr {related : Delivery → Option (Json String) → Prop}
    {fetch clean : String → Except BackfillError (Option (Json String))}
    (answers : ∀ signature, Answers deliveries related (fetch signature) (clean signature))
    (same : ∀ delivery ∈ deliveries, ∀ answer, related delivery answer →
      parsedFrom discriminator (some delivery.json) = parsedFrom discriminator answer)
    (signatures : List String) :
    replayed discriminator fetch signatures = replayed discriminator clean signatures := by
  induction signatures with
  | nil => rfl
  | cons signature rest ih =>
    rw [replayed_cons, replayed_cons, ih]
    have answered := answers signature
    -- The answers have to be variables before their relation can be taken apart.
    generalize fetch signature = given at answered ⊢
    generalize clean signature = other at answered ⊢
    cases answered with
    | failure => rfl
    | nothing => rfl
    | transaction delivered counterpart =>
      change (replayed discriminator clean rest >>= fun later =>
        pure (parsedFrom discriminator (some _) ++ later)) = _
      rw [same _ delivered _ counterpart]
      rfl

theorem replay_congr {related : Delivery → Option (Json String) → Prop}
    {fetch clean : String → Except BackfillError (Option (Json String))}
    (answers : ∀ signature, Answers deliveries related (fetch signature) (clean signature))
    (same : ∀ delivery ∈ deliveries, ∀ answer, related delivery answer →
      parsedFrom discriminator (some delivery.json) = parsedFrom discriminator answer)
    {rt : Runtime String} {db : Database String} {pages : List (List SignatureInfo)} :
    replayAddressHistory discriminator rt db fetch pages =
      replayAddressHistory discriminator rt db clean pages := by
  unfold replayAddressHistory
  rw [replayed_congr answers same]

/-- The webhook looks at a body through the parser only. -/
theorem helius_congr {one other : Option (Json String)}
    (same : parse discriminator one = parse discriminator other) {rt : Runtime String}
    {db : Database String} : helius discriminator rt db one = helius discriminator rt db other := by
  unfold helius
  rw [same]

/-- The parser reads the kept lines only, exactly if the others are out of its sight. -/
theorem ignores_iff (delivery : Delivery) (keep : LogLine → Bool) :
    numbered (signatureOf delivery.json) (slotOf delivery.json) 0
        (Brackets.attributed LogLine.opens LogLine.closes
          (Brackets.kept (LogLine.event discriminator) keep) [] (transactionLog delivery.calls)) =
        parseOne discriminator delivery.json ↔
      delivery.Ignores discriminator keep := by
  rw [parseOne_eq delivery.carries]
  unfold Delivery.Ignores
  simp only [← Brackets.run_eq_nil]
  rw [← Brackets.attributed_kept_iff]
  constructor
  · exact numbered_inj
  · exact congrArg _

/-! ### The data lines of other programs -/

/-- One of the two programs whose events the tables are for. -/
def isOurs (program : ProgramId) : Bool :=
  program.text = creditVaultProgram.text || program.text = reputationProgram.text

/-- A body without the data lines of other programs. -/
def Body.own (program : ProgramId) : Body → Body
  | done => done
  | emit line rest =>
    if line.slices.isNone || isOurs program then emit line (rest.own program) else rest.own program
  | invoke callee body ending rest => invoke callee (body.own callee) ending (rest.own program)

def Call.own (call : Call) : Call := { call with body := call.body.own call.program }

/-- The transaction with the same calls, had other programs logged no data. -/
structure Delivery.Cleaned (delivery : Delivery) (clean : Json String) : Prop where
  carries : Carries clean (delivery.calls.map Call.own)
  signature : signatureOf clean = signatureOf delivery.json
  slot : slotOf clean = slotOf delivery.json

/-- Data lines of other programs are the only ones that do not stay. -/
def LogLine.stays (line : LogLine) : Bool := line.slices.isNone || isOurs line.program

theorem filter_bracketed (program : ProgramId) (depth : Nat) (inner : List LogLine)
    (ending : Ending) :
    (bracketed program depth inner ending).filter LogLine.stays =
      bracketed program depth (inner.filter LogLine.stays) ending := by
  simp [bracketed, LogLine.stays]

theorem lines_own (program : ProgramId) (depth : Nat) (body : Body) :
    (body.own program).lines program depth = (body.lines program depth).filter LogLine.stays := by
  induction body generalizing program depth with
  | done => rfl
  | emit line rest ih =>
    rw [Body.own, Body.lines, List.filter_cons, ← ih program depth, LogLine.stays]
    cases line.slices.isNone || isOurs program with
    | true => rfl
    | false => rfl
  | invoke callee body ending rest ihBody ihRest =>
    rw [Body.own, Body.lines, Body.lines, List.filter_append, filter_bracketed,
      ihBody callee (depth + 1), ihRest program depth]

theorem transactionLog_own (calls : List Call) :
    transactionLog (calls.map Call.own) = (transactionLog calls).filter LogLine.stays := by
  induction calls with
  | nil => rfl
  | cons call calls ih =>
    rw [List.map_cons, transactionLog, List.flatMap_cons, transactionLog, List.flatMap_cons,
      List.filter_append, Call.lines, Call.lines, filter_bracketed, ← lines_own]
    exact congrArg _ ih

/-- A line that carries slices is no bracket. -/
def LogLine.Read (line : LogLine) : Prop :=
  line.slices.isSome → line.opens = none ∧ line.closes = false

theorem read_bracketed (program : ProgramId) (depth : Nat) {inner : List LogLine} (ending : Ending)
    (reads : ∀ line ∈ inner, line.Read) : ∀ line ∈ bracketed program depth inner ending, line.Read := by
  intro line member
  rw [bracketed, List.mem_append, List.mem_cons, List.mem_singleton] at member
  rcases member with (rfl | inside) | rfl
  · rintro ⟨⟩
  · exact reads line inside
  · rintro ⟨⟩

theorem read_lines (program : ProgramId) (depth : Nat) (body : Body) :
    ∀ line ∈ body.lines program depth, line.Read := by
  induction body generalizing program depth with
  | done => simp [Body.lines]
  | emit line rest ih =>
    rw [Body.lines, List.forall_mem_cons]
    refine ⟨?_, ih program depth⟩
    cases line with
    | data slices =>
      have oneWord : ' ' ∉ "data:".toList := by decide
      have harmless := harmless_data slices
      exact fun _ => ⟨parseInvoke_harmless oneWord harmless, parseTerminator_harmless oneWord harmless⟩
    | log => rintro ⟨⟩
    | returned => rintro ⟨⟩
    | consumed => rintro ⟨⟩
  | invoke callee body ending rest ihBody ihRest =>
    rw [Body.lines, List.forall_mem_append]
    exact ⟨read_bracketed callee (depth + 1) ending (ihBody callee (depth + 1)), ihRest program depth⟩

theorem read_transactionLog (calls : List Call) : ∀ line ∈ transactionLog calls, line.Read := by
  intro line member
  obtain ⟨call, -, inside⟩ := List.mem_flatMap.mp member
  exact read_bracketed _ _ _ (read_lines _ _ _) line inside

/-- A line with an event stays exactly if its program is one of ours. -/
theorem kept_stays : Brackets.kept (LogLine.event discriminator) LogLine.stays =
    Brackets.kept (LogLine.event discriminator) fun line => isOurs line.program := by
  funext line
  unfold Brackets.kept LogLine.stays LogLine.event
  cases line.slices with
  | none => simp
  | some slices => simp

/-- The parser on the cleaned transaction. -/
theorem parseOne_cleaned {clean : Json String} (cleaned : delivery.Cleaned clean) :
    parseOne discriminator clean = numbered (signatureOf delivery.json) (slotOf delivery.json) 0
      (Brackets.attributed LogLine.opens LogLine.closes
        (Brackets.kept (LogLine.event discriminator) fun line => isOurs line.program) []
        (transactionLog delivery.calls)) := by
  have plain : ∀ line ∈ transactionLog delivery.calls, line.stays = false →
      line.opens = none ∧ line.closes = false := by
    intro line member foreign
    apply read_transactionLog delivery.calls line member
    rw [LogLine.stays, Bool.or_eq_false_iff] at foreign
    exact Option.isNone_eq_false_iff.mp foreign.1
  rw [parseOne_eq cleaned.carries, cleaned.signature, cleaned.slot, transactionLog_own,
    Brackets.attributed_filter plain, kept_stays]

theorem cleaned_iff {clean : Json String} (cleaned : delivery.Cleaned clean) :
    parseOne discriminator clean = parseOne discriminator delivery.json ↔
      delivery.Ignores discriminator fun line => isOurs line.program := by
  rw [parseOne_cleaned cleaned]
  exact ignores_iff delivery _

/-- A parsed event stands on a data line that one of the two programs logged. -/
def Ours (discriminator : EventName → Vector UInt8 8) (deliveries : List Delivery)
    (event : ParsedEvent String) : Prop :=
  ∃ delivery ∈ deliveries, event.signature = delivery.signature ∧
    event.slot = slotOf delivery.json ∧ ∃ line ∈ transactionLog delivery.calls,
      isOurs line.program ∧ line.event discriminator = some event.decoded

/-- What other programs log makes no difference, in no shape and on neither path. -/
structure Unforged (discriminator : EventName → Vector UInt8 8) (deliveries : List Delivery) :
    Prop where
  source : ∀ events, parse discriminator (some (body deliveries)) = .ok events →
    ∀ event ∈ events, Ours discriminator deliveries event
  parsed : ∀ delivery ∈ deliveries, ∀ clean, delivery.Cleaned clean →
    parse discriminator (some clean) = parse discriminator (some delivery.json)
  webhook : ∀ clean, List.Forall₂ Delivery.Cleaned deliveries clean → ∀ rt db,
    helius discriminator rt db (some (body deliveries)) =
      helius discriminator rt db (some (.arr clean))
  object : ∀ delivery ∈ deliveries, ∀ clean, delivery.Cleaned clean → ∀ rt db,
    helius discriminator rt db (some delivery.json) = helius discriminator rt db (some clean)
  backfill : ∀ fetch clean,
    (∀ signature, Answers deliveries (fun delivery answer => ∃ tx, answer = some tx ∧
      delivery.Cleaned tx) (fetch signature) (clean signature)) → ∀ rt db pages,
    replayAddressHistory discriminator rt db fetch pages =
      replayAddressHistory discriminator rt db clean pages

theorem exists_cleaned (delivery : Delivery) : ∃ clean, delivery.Cleaned clean := by
  have range : slotOf (rawTransaction delivery.signature (slotOf delivery.json)
      (delivery.calls.map Call.own)) = slotOf delivery.json := by
    have small := slotOf_range delivery.json
    change ((.num (slotOf delivery.json) : Json String).asI64).getD 0 = slotOf delivery.json
    rw [Json.asI64, if_pos small, Option.getD_some]
  exact ⟨_, rawTransaction_carries delivery.carries.signed _ _, rfl, range⟩

theorem ours_of_ignores (member : delivery ∈ deliveries)
    (ignores : delivery.Ignores discriminator fun line => isOurs line.program)
    {event : ParsedEvent String} (parsed : event ∈ parseOne discriminator delivery.json) :
    Ours discriminator deliveries event := by
  rw [← (ignores_iff delivery _).mpr ignores] at parsed
  obtain ⟨signature, slot, found⟩ := mem_numbered parsed
  obtain ⟨line, logged, marked⟩ := Brackets.attributed_source found
  refine ⟨delivery, member, signature, slot, line, logged, ?_⟩
  unfold Brackets.kept at marked
  split at marked
  next ours => exact ⟨ours, marked⟩
  next => cases marked

/-- Other programs stay out of the tables exactly if none of their events stands in an apparent
bracket. -/
theorem unforged_iff (discriminator : EventName → Vector UInt8 8) (deliveries : List Delivery) :
    Unforged discriminator deliveries ↔
      ∀ delivery ∈ deliveries, delivery.Ignores discriminator fun line => isOurs line.program := by
  constructor
  · -- Taking the foreign lines out changes nothing, so they were read as nothing.
    intro unforged delivery member
    obtain ⟨clean, cleaned⟩ := exists_cleaned delivery
    have same := unforged.parsed delivery member clean cleaned
    rw [parse_signed discriminator cleaned.carries.signed,
      parse_signed discriminator delivery.carries.signed] at same
    exact (cleaned_iff cleaned).mp (Except.ok.inj same)
  · intro ignores
    have parsed : ∀ delivery ∈ deliveries, ∀ clean, delivery.Cleaned clean →
        parseOne discriminator clean = parseOne discriminator delivery.json :=
      fun delivery member clean cleaned => (cleaned_iff cleaned).mpr (ignores delivery member)
    have one : ∀ delivery ∈ deliveries, ∀ clean, delivery.Cleaned clean →
        parse discriminator (some clean) = parse discriminator (some delivery.json) := by
      intro delivery member clean cleaned
      rw [parse_signed discriminator cleaned.carries.signed,
        parse_signed discriminator delivery.carries.signed, parsed delivery member clean cleaned]
    -- The parts of the claim follow from the parser: nothing else reads the log lines.
    refine ⟨?_, one, ?_, ?_, ?_⟩
    · intro events outcome event member
      rw [parse_body, Except.ok.injEq] at outcome
      rw [← outcome] at member
      obtain ⟨delivery, delivered, found⟩ := List.mem_flatMap.mp member
      exact ours_of_ignores delivered (ignores delivery delivered) found
    · intro clean cleaned rt db
      apply helius_congr
      rw [parse_body, parse]
      congr 1
      clear one ignores
      induction cleaned with
      | nil => rfl
      | cons first _ ih =>
        rw [List.forall_mem_cons] at parsed
        rw [List.flatMap_cons, List.flatMap_cons, parsed.1 _ first, ih parsed.2]
    · intro delivery member clean cleaned rt db
      exact helius_congr (one delivery member clean cleaned).symm
    · intro fetch clean answers rt db pages
      apply replay_congr answers
      rintro delivery member _ ⟨tx, rfl, cleaned⟩
      rw [parsedFrom_signed delivery.carries.signed, parsedFrom_signed cleaned.carries.signed,
        parsed delivery member tx cleaned]

/-- A program that is neither logs the bytes of an event of the reputation program. -/
def forgedCalls : List Call := [⟨otherProgram, .emit (.data [scoreData]) .done, .success⟩]

def forged : Delivery :=
  ⟨rawTransaction "sig" 7 forgedCalls, forgedCalls, rawTransaction_carries (by decide) 7 forgedCalls⟩

theorem forged_counts : ¬∀ deliveries, Unforged anchorDiscriminator deliveries := by
  intro every
  have source := (every [forged]).source
  have parsed : (parseOne anchorDiscriminator forged.json).length = 1 := by
    have one : (Brackets.attributed LogLine.opens LogLine.closes
        (LogLine.event anchorDiscriminator) [] (transactionLog forgedCalls)).length = 1 := by
      decide +kernel
    rw [parseOne_eq forged.carries, numbered, List.length_map, List.length_zipIdx]
    exact one
  obtain ⟨event, found⟩ := List.length_eq_one_iff.mp parsed
  have body : parse anchorDiscriminator (some (body [forged])) = .ok [event] := by
    rw [parse_body, List.flatMap_cons, found, List.flatMap_nil, List.append_nil]
  obtain ⟨delivery, member, -, -, line, logged, ours, -⟩ := source _ body event List.mem_cons_self
  obtain rfl := List.mem_singleton.mp member
  have foreign : (transactionLog forgedCalls).all (fun line => !isOurs line.program) = true := by
    decide +kernel
  have other := List.all_eq_true.mp foreign line logged
  rw [ours] at other
  cases other

/-! ### Failed transactions -/

/-- `err` of the same `meta` as the log lines is there and not null. -/
def reportsError (tx : Json String) : Bool :=
  let raw := pointer tx [("meta", none), ("err", none)]
  let nested := pointer tx [("transaction", none), ("meta", none), ("err", none)]
  match raw.or nested with
  | none | some .null => false
  | some _ => true

def Delivery.failed (delivery : Delivery) : Bool := reportsError delivery.json

/-- The deliveries of transactions that succeeded. -/
def succeeded (deliveries : List Delivery) : List Delivery :=
  deliveries.filter fun delivery => !delivery.failed

/-- Failed transactions make no difference, in no shape and on neither path. -/
structure Traceless (discriminator : EventName → Vector UInt8 8) (deliveries : List Delivery) :
    Prop where
  inserted : ∀ delivery ∈ deliveries, delivery.failed → ∀ rt db,
    ∀ row ∈ (helius discriminator rt db (some (body deliveries))).1.events,
      row.signature = delivery.signature → row ∈ db.events
  webhook : ∀ rt db, helius discriminator rt db (some (body deliveries)) =
    helius discriminator rt db (some (body (succeeded deliveries)))
  object : ∀ delivery ∈ deliveries, delivery.failed → ∀ rt db,
    (helius discriminator rt db (some delivery.json)).1 = db
  replayed : ∀ fetch,
    (∀ signature tx, fetch signature = .ok (some tx) → ∃ delivery ∈ deliveries, tx = delivery.json) →
    ∀ delivery ∈ deliveries, delivery.failed → ∀ rt db pages,
      ∀ row ∈ (replayAddressHistory discriminator rt db fetch pages).1.events,
        row.signature = delivery.signature → row ∈ db.events
  backfill : ∀ fetch clean,
    (∀ signature, Answers deliveries (fun delivery answer =>
      answer = if delivery.failed then none else some delivery.json)
      (fetch signature) (clean signature)) → ∀ rt db pages,
    replayAddressHistory discriminator rt db fetch pages =
      replayAddressHistory discriminator rt db clean pages

/-- A transaction leaves no event exactly if all of its events are out of the parser's sight. -/
theorem silent_iff (delivery : Delivery) :
    parseOne discriminator delivery.json = [] ↔ delivery.Ignores discriminator fun _ => false := by
  have nothing : Brackets.attributed LogLine.opens LogLine.closes
      (Brackets.kept (LogLine.event discriminator) fun _ => false) []
      (transactionLog delivery.calls) = [] := by
    apply List.eq_nil_iff_forall_not_mem.mpr
    rintro ⟨name, event⟩ found
    obtain ⟨line, -, marked⟩ := Brackets.attributed_source found
    cases marked
  rw [← ignores_iff, nothing, eq_comm]
  rfl

theorem parseOne_signature {event : ParsedEvent String}
    (parsed : event ∈ parseOne discriminator delivery.json) : event.signature = delivery.signature := by
  rw [parseOne_eq delivery.carries] at parsed
  exact (mem_numbered parsed).1

theorem mem_replayed {fetch : String → Except BackfillError (Option (Json String))}
    {signatures : List String} {events : List (ParsedEvent String)}
    (found : replayed discriminator fetch signatures = .ok events) {event : ParsedEvent String}
    (member : event ∈ events) :
    ∃ signature tx, fetch signature = .ok (some tx) ∧ event ∈ parsedFrom discriminator (some tx) := by
  induction signatures generalizing events with
  | nil =>
    cases found
    cases member
  | cons signature rest ih =>
    rw [replayed_cons, Checked.bind_eq_ok] at found
    obtain ⟨answer, fetched, found⟩ := found
    obtain ⟨later, others, found⟩ := (Checked.bind_eq_ok _ _ _).mp found
    cases found
    rcases List.mem_append.mp member with here | later
    · cases answer with
      | none => cases here
      | some tx => exact ⟨signature, tx, fetched, here⟩
    · exact ih others later

theorem parseOne_succeeded (silent : ∀ delivery ∈ deliveries, delivery.failed →
      parseOne discriminator delivery.json = []) :
    (deliveries.flatMap fun delivery => parseOne discriminator delivery.json) =
      (succeeded deliveries).flatMap fun delivery => parseOne discriminator delivery.json := by
  induction deliveries with
  | nil => rfl
  | cons delivery deliveries ih =>
    rw [List.forall_mem_cons] at silent
    rw [List.flatMap_cons, ih silent.2, succeeded, succeeded, List.filter_cons]
    cases outcome : delivery.failed with
    | true =>
      rw [silent.1 outcome]
      rfl
    | false => rfl

/-- Where failed transactions leave no row, they have no event. -/
theorem silent_of_inserted (member : delivery ∈ deliveries)
    (inserted : ∀ rt db,
      ∀ row ∈ (helius discriminator rt db (some (body deliveries))).1.events,
        row.signature = delivery.signature → row ∈ db.events) :
    parseOne discriminator delivery.json = [] := by
  cases parsed : parseOne discriminator delivery.json with
  | nil => rfl
  | cons event events =>
    -- The first event goes into an empty table, or another one with its key.
    have found : event ∈ parseOne discriminator delivery.json := by
      rw [parsed]
      exact List.mem_cons_self
    have delivered : event ∈ deliveries.flatMap fun delivery =>
        parseOne discriminator delivery.json := List.mem_flatMap.mpr ⟨delivery, member, found⟩
    obtain ⟨row, held, same⟩ := List.mem_map.mp (insertEvents_keys [] delivered)
    have signature : row.signature = delivery.signature :=
      (Prod.mk.inj same).1.trans (parseOne_signature found)
    have rows := helius_events (parse_body discriminator deliveries) Runtime.standard Database.empty
    change row ∈ insertEvents Database.empty.events _ at held
    rw [← rows] at held
    cases inserted Runtime.standard Database.empty row held signature

/-- Failed transactions stay out of the tables exactly if none of their events stands in an
apparent bracket. -/
theorem traceless_iff (discriminator : EventName → Vector UInt8 8) (deliveries : List Delivery)
    (oneOutcome : ∀ delivery ∈ deliveries, ∀ other ∈ deliveries,
      delivery.signature = other.signature → delivery.failed = other.failed) :
    Traceless discriminator deliveries ↔
      ∀ delivery ∈ deliveries, delivery.failed → delivery.Ignores discriminator fun _ => false := by
  constructor
  · intro traceless delivery member failed
    exact (silent_iff delivery).mp (silent_of_inserted member
      (traceless.inserted delivery member failed))
  · intro ignores
    -- A failed transaction whose events are ignored is read as nothing, under every delivery of it.
    have silent : ∀ delivery ∈ deliveries, delivery.failed →
        parseOne discriminator delivery.json = [] :=
      fun delivery member failed => (silent_iff delivery).mpr (ignores delivery member failed)
    have outside : ∀ delivery ∈ deliveries, delivery.failed → ∀ other ∈ deliveries,
        ∀ event ∈ parseOne discriminator other.json, event.signature ≠ delivery.signature := by
      intro delivery member failed other delivered event parsed same
      have outcome := oneOutcome other delivered delivery member
        ((parseOne_signature parsed).symm.trans same)
      rw [silent other delivered (outcome.trans failed)] at parsed
      cases parsed
    -- All parts rest on what the parser leaves of a delivery.
    refine ⟨?_, ?_, ?_, ?_, ?_⟩
    · intro delivery member failed rt db row held same
      rw [helius_events (parse_body discriminator deliveries)] at held
      rcases List.mem_append.mp (insertEvents_subset _ _ held) with old | new
      · exact old
      · obtain ⟨other, delivered, parsed⟩ := List.mem_flatMap.mp new
        exact absurd same (outside delivery member failed other delivered row parsed)
    · intro rt db
      apply helius_congr
      rw [parse_body, parse_body, parseOne_succeeded silent]
    · intro delivery member failed rt db
      have nothing := parse_signed discriminator delivery.carries.signed
      rw [silent delivery member failed] at nothing
      unfold helius
      rw [nothing]
    · intro fetch answered delivery member failed rt db pages row held same
      cases found : replayed discriminator fetch (fetchSignatures pages) with
      | error =>
        unfold replayAddressHistory at held
        rw [found] at held
        exact held
      | ok events =>
        rw [replay_events found] at held
        rcases List.mem_append.mp (insertEvents_subset _ _ held) with old | new
        · exact old
        · obtain ⟨signature, tx, fetched, parsed⟩ := mem_replayed found new
          obtain ⟨other, delivered, rfl⟩ := answered signature tx fetched
          rw [parsedFrom_signed other.carries.signed] at parsed
          exact absurd same (outside delivery member failed other delivered row parsed)
    · intro fetch clean answers rt db pages
      apply replay_congr answers
      rintro delivery member answer rfl
      rw [parsedFrom_signed delivery.carries.signed]
      cases outcome : delivery.failed with
      | true => exact silent delivery member outcome
      | false => exact (parsedFrom_signed delivery.carries.signed).symm

/-- The shape of `getTransaction` for a transaction that failed. -/
def failedTransaction (signature : String) (slot : Int) (calls : List Call) : Json String :=
  .obj [("slot", .num slot), ("transaction", .obj [("signatures", .arr [.str signature])]),
    ("meta", .obj [("err", .obj [("InstructionError", .arr [.num 1, .obj [("Custom", .num 1)]])]),
      ("logMessages",
        .arr ((transactionLog calls).map fun line => .str (String.ofList line.text)))])]

theorem failedTransaction_carries {signature : String} (signed : signature ≠ "") (slot : Int)
    (calls : List Call) : Carries (failedTransaction signature slot calls) calls where
  signed := signed
  logged := rfl

/-- A transaction that fails in its first instruction. -/
def failedEarly : Delivery :=
  let calls := [⟨reputationProgram, .done, .failed "custom program error: 0x1".toList⟩]
  ⟨failedTransaction "early" 7 calls, calls, failedTransaction_carries (by decide) 7 calls⟩

def nested : Delivery :=
  ⟨rawTransaction "sig" 7 nestedCalls, nestedCalls, rawTransaction_carries (by decide) 7 nestedCalls⟩

theorem traceless_early : Traceless anchorDiscriminator [failedEarly, nested] := by
  have early : parseOne anchorDiscriminator failedEarly.json = [] := by
    have nothing : Brackets.attributed LogLine.opens LogLine.closes
        (LogLine.event anchorDiscriminator) [] (transactionLog failedEarly.calls) = [] :=
      List.length_eq_zero_iff.mp (by decide +kernel)
    rw [parseOne_eq failedEarly.carries, nothing]
    rfl
  have succeeds : nested.failed = false := by decide +kernel
  have apart : failedEarly.signature ≠ nested.signature := by decide +kernel
  have oneOutcome : ∀ delivery ∈ [failedEarly, nested], ∀ other ∈ [failedEarly, nested],
      delivery.signature = other.signature → delivery.failed = other.failed := by
    simp [apart, apart.symm]
  refine (traceless_iff anchorDiscriminator _ oneOutcome).mpr ?_
  intro delivery member failed
  simp only [List.mem_cons, List.not_mem_nil, or_false] at member
  rcases member with rfl | rfl
  · exact (silent_iff failedEarly).mp early
  · rw [succeeds] at failed
    cases failed

/-- A transaction whose second instruction fails, after an event of the first. -/
def failedLate : Delivery :=
  let calls := [⟨reputationProgram, .emit (.data [scoreData]) .done, .success⟩,
    ⟨otherProgram, .done, .failed "custom program error: 0x1".toList⟩]
  ⟨failedTransaction "late" 7 calls, calls, failedTransaction_carries (by decide) 7 calls⟩

theorem failed_counts :
    ¬∀ deliveries, (∀ delivery ∈ deliveries, ∀ other ∈ deliveries,
        delivery.signature = other.signature → delivery.failed = other.failed) →
      Traceless anchorDiscriminator deliveries := by
  intro every
  have traceless := every [failedLate] (by simp)
  have parsed : (parseOne anchorDiscriminator failedLate.json).length = 1 := by
    have one : (Brackets.attributed LogLine.opens LogLine.closes
        (LogLine.event anchorDiscriminator) [] (transactionLog failedLate.calls)).length = 1 := by
      decide +kernel
    rw [parseOne_eq failedLate.carries, numbered, List.length_map, List.length_zipIdx]
    exact one
  obtain ⟨event, found⟩ := List.length_eq_one_iff.mp parsed
  have rows := helius_events
    (parse_signed anchorDiscriminator failedLate.carries.signed)
    Runtime.standard Database.empty
  have failed : failedLate.failed = true := by decide +kernel
  have unchanged := traceless.object failedLate List.mem_cons_self failed Runtime.standard .empty
  rw [unchanged, found] at rows
  cases rows

end AgentFuel.Backend
