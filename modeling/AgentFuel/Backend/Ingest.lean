import AgentFuel.Backend.Mirror

/-!
# Ingestion

Webhook deliveries and replayed histories go the same way: parse, insert, refresh what the
events could touch. Score samples, alerts and broadcasts write no mirror table.
-/
namespace AgentFuel.Backend

variable {S : Type}

/-- The primary key of `events`. -/
def ParsedEvent.key (row : ParsedEvent S) : String × Nat := (row.signature, row.logIndex)

/-- `ON CONFLICT (signature, log_index) DO NOTHING` -/
def insertEvent (rows : List (ParsedEvent S)) (event : ParsedEvent S) : List (ParsedEvent S) :=
  if event.key ∈ rows.map ParsedEvent.key then rows else rows ++ [event]

def insertEvents (rows events : List (ParsedEvent S)) : List (ParsedEvent S) :=
  events.foldl insertEvent rows

section Ingest

variable [DecidableEq S] (rt : Runtime S) (zeroKey : S) (db : Database S)

/-- Insertion and refresh. A failed refresh leaves the events in the table. -/
def ingest (events : List (ParsedEvent S)) : Database S × Except SqlError Unit :=
  let db := { db with events := insertEvents db.events events }
  refresh rt zeroKey db (affected events)

end Ingest

/-! ### The webhook -/

inductive Response where
  | accepted
  | badRequest
  deriving DecidableEq, Repr

/-- `Pubkey::default()` in base 58. -/
def zeroKeyText : String := "11111111111111111111111111111111"

section Paths

variable (discriminator : EventName → Vector UInt8 8) (rt : Runtime String) (db : Database String)

/-- The handler behind the check of the secret. A mirror that fails is logged and accepted. -/
def helius (body : Option (Json String)) : Database String × Response :=
  match parse discriminator body with
  | .error _ => (db, .badRequest)
  | .ok [] => (db, .accepted)
  | .ok events => ((ingest rt zeroKeyText db events).1, .accepted)

/-! ### Backfill -/

/-- An item of `getSignaturesForAddress`. -/
structure SignatureInfo where
  signature : String
  failed : Bool

/-- `SIGNATURE_CAP` -/
def signatureCap : Nat := 2000

/-- `fetch_signatures` over the pages of the RPC, newest first; oldest first in the result. Only
the signature of an item is looked at. -/
def collectSignatures (out : List String) : List (List SignatureInfo) → List String
  | [] => out
  | page :: pages =>
    if page = [] then out
    else
      let out := out ++ page.map SignatureInfo.signature
      if signatureCap ≤ out.length then out.take signatureCap else collectSignatures out pages

def fetchSignatures (pages : List (List SignatureInfo)) : List String :=
  (collectSignatures [] pages).reverse

inductive BackfillError where
  | rpc
  | db (e : SqlError)

/-- The events of the transactions that the RPC returns for the signatures. -/
def replayed (fetch : String → Except BackfillError (Option (Json String))) :
    List String → Except BackfillError (List (ParsedEvent String))
  | [] => .ok []
  | signature :: rest => do
    let tx ← fetch signature
    let later ← replayed fetch rest
    match tx with
    | none => pure later
    | some json =>
      match parse discriminator (some json) with
      | .ok events => pure (events ++ later)
      | .error _ => pure later

/-- `replay_address_history` -/
def replayAddressHistory (fetch : String → Except BackfillError (Option (Json String)))
    (pages : List (List SignatureInfo)) : Database String × Except BackfillError Unit :=
  match replayed discriminator fetch (fetchSignatures pages) with
  | .error e => (db, .error e)
  | .ok [] => (db, .ok ())
  | .ok events =>
    let (db, outcome) := ingest rt zeroKeyText db events
    (db, outcome.mapError .db)

end Paths

/-! ### The events table -/

variable {rows events : List (ParsedEvent S)} {row : ParsedEvent S}

/-- Rows that come from one source, in which a key names one row, are kept apart by their keys. -/
structure Drawn (source rows : List (ParsedEvent S)) : Prop where
  subset : rows ⊆ source
  distinct : (rows.map ParsedEvent.key).Nodup

theorem insertEvents_subset (rows events : List (ParsedEvent S)) :
    insertEvents rows events ⊆ rows ++ events := by
  induction events generalizing rows with
  | nil => simp [insertEvents]
  | cons event events ih =>
    have once : insertEvent rows event ⊆ rows ++ [event] := by
      unfold insertEvent
      split
      · exact List.subset_append_left _ _
      · exact List.Subset.refl _
    have others := ih (insertEvent rows event)
    intro row inserted
    rcases List.mem_append.mp (others inserted) with held | later
    · have held := once held
      rw [List.mem_append, List.mem_singleton] at held
      simp only [List.mem_append, List.mem_cons]
      tauto
    · exact List.mem_append_right _ (List.mem_cons_of_mem _ later)

theorem insertEvent_keys (event : ParsedEvent S) (rows : List (ParsedEvent S)) :
    event.key ∈ (insertEvent rows event).map ParsedEvent.key := by
  unfold insertEvent
  split
  next held => exact held
  · simp

theorem mem_insertEvent (held : row ∈ rows) (event : ParsedEvent S) : row ∈ insertEvent rows event := by
  unfold insertEvent
  split
  · exact held
  · exact List.mem_append_left _ held

theorem mem_insertEvents (held : row ∈ rows) (events : List (ParsedEvent S)) :
    row ∈ insertEvents rows events := by
  induction events generalizing rows with
  | nil => exact held
  | cons event events ih => exact ih (mem_insertEvent held event)

/-- The key of every delivered event is in the table. -/
theorem insertEvents_keys (rows : List (ParsedEvent S)) {events : List (ParsedEvent S)}
    (delivered : row ∈ events) : row.key ∈ (insertEvents rows events).map ParsedEvent.key := by
  induction events generalizing rows with
  | nil => cases delivered
  | cons event events ih =>
    rcases List.mem_cons.mp delivered with rfl | later
    · obtain ⟨other, held, same⟩ := List.mem_map.mp (insertEvent_keys row rows)
      exact List.mem_map.mpr ⟨other, mem_insertEvents held events, same⟩
    · exact ih (insertEvent rows event) later

theorem ingest_events [DecidableEq S] (rt : Runtime S) (zeroKey : S) (db : Database S)
    (events : List (ParsedEvent S)) :
    (ingest rt zeroKey db events).1.events = insertEvents db.events events :=
  refresh_events rt zeroKey _ _

theorem helius_events {discriminator : EventName → Vector UInt8 8} {body : Option (Json String)}
    {events : List (ParsedEvent String)} (parsed : parse discriminator body = .ok events)
    (rt : Runtime String) (db : Database String) :
    (helius discriminator rt db body).1.events = insertEvents db.events events := by
  unfold helius
  rw [parsed]
  cases events with
  | nil => rfl
  | cons => exact ingest_events rt zeroKeyText db _

theorem replay_events {discriminator : EventName → Vector UInt8 8}
    {fetch : String → Except BackfillError (Option (Json String))} {pages : List (List SignatureInfo)}
    {events : List (ParsedEvent String)}
    (found : replayed discriminator fetch (fetchSignatures pages) = .ok events)
    (rt : Runtime String) (db : Database String) :
    (replayAddressHistory discriminator rt db fetch pages).1.events =
      insertEvents db.events events := by
  unfold replayAddressHistory
  rw [found]
  cases events with
  | nil => rfl
  | cons => exact ingest_events rt zeroKeyText db _

variable {source : List (ParsedEvent S)}

theorem Drawn.insertEvent (drawn : Drawn source rows) (given : row ∈ source) :
    Drawn source (insertEvent rows row) := by
  unfold Backend.insertEvent
  split
  · exact drawn
  next new =>
    refine ⟨?_, ?_⟩
    · refine List.append_subset.mpr ⟨drawn.subset, ?_⟩
      intro other member
      rwa [List.mem_singleton.mp member]
    · rw [List.map_append, List.map_singleton, ← List.concat_eq_append]
      exact drawn.distinct.concat new

theorem Drawn.insertEvents (drawn : Drawn source rows) (given : events ⊆ source) :
    Drawn source (insertEvents rows events) := by
  induction events generalizing rows with
  | nil => exact drawn
  | cons event events ih =>
    rw [List.cons_subset] at given
    exact ih (drawn.insertEvent given.1) given.2

/-- Every delivered event is in the table. -/
theorem Drawn.mem_insertEvents (unique : (source.map ParsedEvent.key).Nodup)
    (drawn : Drawn source rows) (given : events ⊆ source) (delivered : row ∈ events) :
    row ∈ Backend.insertEvents rows events := by
  induction events generalizing rows with
  | nil => cases delivered
  | cons event events ih =>
    rw [List.cons_subset] at given
    rcases List.mem_cons.mp delivered with rfl | later
    · -- The key is in the table after the insertion, and in the source it names this row.
      have inserted := drawn.insertEvent given.1
      obtain ⟨other, held, same⟩ := List.mem_map.mp (insertEvent_keys row rows)
      have equal := List.inj_on_of_nodup_map unique (inserted.subset held) given.1 same
      exact Backend.mem_insertEvents (equal ▸ held) events
    · exact ih (drawn.insertEvent given.1) given.2 later

end AgentFuel.Backend
