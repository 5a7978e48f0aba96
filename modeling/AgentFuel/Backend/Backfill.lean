import AgentFuel.Backend.Admission
import AgentFuel.Backend.Rebuild
import AgentFuel.Backend.Redelivery

/-!
# A history by backfill and by webhooks

`backfill_agent` goes through the history of an address in one call: the signatures are paged from
the RPC, the transactions parsed, and all their events stored and mirrored at once. A webhook does
that for each transaction, and samples scores.
-/
namespace AgentFuel.Backend

open Encodings

section Paths

variable (discriminator : EventName → Vector UInt8 8) (rt : Runtime String) (dr : DispatchRuntime)

/-- `helius`, behind the check of the secret, with all tables. -/
def Tables.webhook (t : Tables) (tx : Json String) : Tables :=
  match parse discriminator (some tx) with
  | .error _ | .ok [] => t
  | .ok events => t.deliver rt dr events

/-- What the RPC answers about an address. -/
structure Rpc where
  pages : List (List SignatureInfo)
  fetch : String → Except BackfillError (Option (Json String))

/-- `backfill_agent`, once the owner is verified. No other table than those of the mirror is written. -/
def Tables.backfillAgent (rpc : Rpc) (t : Tables) : Tables :=
  { t with
    db := (replayAddressHistory discriminator rt t.db rpc.fetch rpc.pages).1
    lastBudgetAlertPct := fun key => if (t.db.vaults key).isSome then t.lastBudgetAlertPct key else 0 }

/-- The transactions of a history, oldest first, delivered to the webhook. -/
def Tables.live (history : List Delivery) : Tables :=
  history.foldl (fun t tx => t.webhook discriminator rt dr tx.json) .empty

end Paths

/-- The RPC lists the history of the address newest first, in pages of which none is empty before
the end, and has every transaction. The chain uses a signature once. -/
structure Rpc.Serves (rpc : Rpc) (history : List Delivery) : Prop where
  once : (history.map Delivery.signature).Nodup
  listed : rpc.pages.flatten = history.reverse.map fun tx => ⟨tx.signature, tx.failed⟩
  filled : ∀ page ∈ rpc.pages, page ≠ []
  fetched : ∀ tx ∈ history, rpc.fetch tx.signature = .ok (some tx.json)

/-- The same events, mirror rows, score samples and latest scores. -/
structure SameEnd (live back : Tables) : Prop where
  events : back.db.events = live.db.events
  rows : ∀ entity : Entity String, entity.SameRow live.db back.db
  scores : back.scoreHistory = live.scoreHistory
  latest : ∀ agent, latestScore back.scoreHistory agent = latestScore live.scoreHistory agent

/-! ### Paging -/

variable {discriminator : EventName → Vector UInt8 8} {rt : Runtime String} {dr : DispatchRuntime}
  {history : List Delivery} {rpc : Rpc}

/-- The newest signatures up to the cap. -/
theorem collectSignatures_eq {pages : List (List SignatureInfo)} (filled : ∀ page ∈ pages, page ≠ [])
    (out : List String) (room : out.length ≤ signatureCap) :
    collectSignatures out pages =
      (out ++ pages.flatten.map SignatureInfo.signature).take signatureCap := by
  induction pages generalizing out with
  | nil =>
    rw [collectSignatures, List.flatten_nil, List.map_nil, List.append_nil, List.take_of_length_le room]
  | cons page pages ih =>
    rw [List.forall_mem_cons] at filled
    rw [collectSignatures, if_neg filled.1, List.flatten_cons, List.map_append, ← List.append_assoc]
    dsimp only
    split
    next reached => rw [List.take_append_of_le_length reached]
    next below => exact ih filled.2 _ (Nat.le_of_not_le below)

/-- The last transactions of the history, as many as are replayed. -/
def recent (history : List Delivery) : List Delivery :=
  history.drop (history.length - signatureCap)

theorem Rpc.Serves.signatures (serves : rpc.Serves history) :
    fetchSignatures rpc.pages = (recent history).map Delivery.signature := by
  have newest : rpc.pages.flatten.map SignatureInfo.signature =
      (history.map Delivery.signature).reverse := by
    rw [serves.listed, List.map_map, List.map_reverse]
    rfl
  rw [fetchSignatures, collectSignatures_eq serves.filled [] (Nat.zero_le _), List.nil_append, newest,
    List.reverse_take, List.reverse_reverse, List.length_reverse, List.length_map, recent, List.map_drop]

variable (discriminator) in
/-- The events of a transaction. -/
def Delivery.events (tx : Delivery) : List (ParsedEvent String) := parseOne discriminator tx.json

theorem ingest_nil (db : Database String) : (ingest rt zeroKeyText db []).1 = db := by
  have nobody : rt.iterate [] = [] := List.perm_nil.mp (rt.iterate_perm [])
  have none : affected ([] : List (ParsedEvent String)) = ⟨[], [], []⟩ := rfl
  rw [ingest, refresh_eq, none, nobody]
  rfl

theorem recordScores_append (scores : List ScoreRow) (first second : List (ParsedEvent String)) :
    recordScores (recordScores scores first) second = recordScores scores (first ++ second) := by
  unfold recordScores
  rw [List.filterMap_append, List.foldl_append]

variable (discriminator rt dr) in
theorem webhook_keeps (t : Tables) (tx : Delivery) :
    (t.webhook discriminator rt dr tx.json).db = (ingest rt zeroKeyText t.db (tx.events discriminator)).1 ∧
      (t.webhook discriminator rt dr tx.json).scoreHistory =
        recordScores t.scoreHistory (tx.events discriminator) := by
  unfold Tables.webhook Delivery.events
  rw [parse_signed discriminator tx.carries.signed]
  cases parseOne discriminator tx.json with
  | nil => exact ⟨(ingest_nil t.db).symm, rfl⟩
  | cons ev rest => exact dispatches_keep dr (t.store rt (ev :: rest)) (ev :: rest)

variable (discriminator rt dr) in
theorem live_keeps (history : List Delivery) :
    (Tables.live discriminator rt dr history).db =
        deliver rt zeroKeyText .empty (history.map (Delivery.events discriminator)) ∧
      (Tables.live discriminator rt dr history).scoreHistory =
        recordScores [] (history.map (Delivery.events discriminator)).flatten := by
  induction history using List.reverseRecOn with
  | nil => exact ⟨rfl, rfl⟩
  | append_singleton history tx ih =>
    obtain ⟨db, scores⟩ := webhook_keeps discriminator rt dr (Tables.live discriminator rt dr history) tx
    have last : Tables.live discriminator rt dr (history ++ [tx]) =
        (Tables.live discriminator rt dr history).webhook discriminator rt dr tx.json := by
      rw [Tables.live, List.foldl_append]
      rfl
    rw [last, db, scores, ih.1, ih.2, List.map_append, List.map_singleton, deliver_concat,
      recordScores_append, List.flatten_append, List.flatten_singleton]
    exact ⟨rfl, rfl⟩

/-- Webhooks sample every score. -/
theorem recordScores_eq_nil {events : List (ParsedEvent String)} :
    recordScores [] events = [] ↔ ∀ ev ∈ events, scoreRow ev = none := by
  rw [← List.filterMap_eq_nil_iff]
  constructor
  · intro nothing
    rw [List.eq_nil_iff_forall_not_mem]
    intro row member
    obtain ⟨old, held, -⟩ := insertScores_held [] member
    rw [← recordScores, nothing] at held
    cases held
  · intro none
    rw [recordScores, none]
    rfl

/-- A backfill samples no score. -/
theorem SameEnd.unscored
    (same : SameEnd (Tables.live discriminator rt dr history) (Tables.empty.backfillAgent discriminator rt rpc)) :
    ∀ tx ∈ history, ∀ ev ∈ tx.events discriminator, scoreRow ev = none := by
  have scores := same.scores
  rw [(live_keeps discriminator rt dr history).2] at scores
  intro tx member ev held
  exact recordScores_eq_nil.mp scores.symm ev
    (List.mem_flatten.mpr ⟨_, List.mem_map_of_mem member, held⟩)

/-! ### Both ends -/

/-- The calls of a transaction whose instructions emit one event each. -/
def emitting (events : List (Event Pubkey)) : List Call :=
  events.map fun event =>
    ⟨event.program, .emit (.data [event.data anchorDiscriminator]) .done, .success⟩

/-- A transaction of the programs as it is delivered. -/
def sent (signature : String) (signed : signature ≠ "") (slot : Nat) (events : List (Event Pubkey)) :
    Delivery :=
  ⟨rawTransaction signature slot (emitting events), emitting events, rawTransaction_carries signed slot _⟩

namespace Stall

def agent : Pubkey := .replicate 32 8

def service : Pubkey := .replicate 32 9

def owner : Pubkey := .replicate 32 10

def vault : Pubkey := .replicate 32 11

def joining : List (Event Pubkey) := [.reputation (.agentInitialized agent owner 5)]

/-- A service and a vault, which names the agent without touching its row. -/
def opening : List (Event Pubkey) :=
  [.reputation (.serviceRegistered service owner (.replicate 32 65) .compute 6),
    .vault (.vaultCreated vault owner agent (.replicate 32 12) (.replicate 32 13) 6),
    .vault (.deposited vault owner 1000 1000 6)]

/-- A payment that both programs record. -/
def paying : List (Event Pubkey) :=
  [.vault (.spent vault agent service 40 40 7),
    .reputation (.paymentRecorded agent service 40 (.replicate 32 14) true 7)]

def opened : Delivery := sent "opened" (by decide) 6 opening

def paid : Delivery := sent "paid" (by decide) 7 paying

def scored : Delivery :=
  sent "scored" (by decide) 8 [.reputation (.scoreComputed agent 750 8)]

/-- The rows of the first three transactions. -/
def rows : List (List (ParsedEvent String)) :=
  [(emitted "joined" 5 joining).map (Emitted.row rendering),
    (emitted "opened" 6 opening).map (Emitted.row rendering),
    (emitted "paid" 7 paying).map (Emitted.row rendering)]

/-- The pages of these transactions, and what is known of each. -/
def answers (pages : List (List Delivery)) : Rpc where
  pages := pages.map fun page => page.map fun tx => ⟨tx.signature, tx.failed⟩
  fetch signature := .ok ((pages.flatten.find? fun tx => tx.signature = signature).map Delivery.json)

end Stall

open Stall

end AgentFuel.Backend
