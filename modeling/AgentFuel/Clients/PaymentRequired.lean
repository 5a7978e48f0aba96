import AgentFuel.Clients.PaymentDemand
import AgentFuel.Library.Dialogue

/-!
# Requests that pay on demand

The wrapper sends a request, pays what a 402 demands and sends the request again with a proof of the
payment. Server, vault and hooks are the world that it asks.
-/
namespace AgentFuel.Clients.PaymentRequired

open Checked PaymentDemand Dialogue

/-- Header values by their names, which are in lower case. -/
abbrev Headers := Text → Option Text

def requirementHeader : Text := "x-payment-required".toList

def paymentHeader : Text := "x-payment".toList

def contentTypeHeader : Text := "content-type".toList

/-- `headers.set(name, value)` -/
def Headers.set (headers : Headers) (name value : Text) : Headers :=
  Function.update headers name (some value)

section Requests

variable {U B : Type}

/-- A request as it is sent. -/
structure Request (U B : Type) where
  method : Text
  url : U
  headers : Headers
  body : Option B

inductive Input (U B : Type) where
  | string (s : Text)
  | url (u : U)
  | request (r : Request U B)

/-- What a caller may lay down beside the input. -/
structure RequestInit (B : Type) where
  method : Option Text
  headers : Option Headers
  body : Option B

def RequestInit.empty : RequestInit B := ⟨none, none, none⟩

variable (resolve : Text → U) (contentType : B → Option Text)

/-- The request that an input stands for by itself. -/
def Input.base : Input U B → Request U B
  | .string s => ⟨"GET".toList, resolve s, fun _ => none, none⟩
  | .url u => ⟨"GET".toList, u, fun _ => none, none⟩
  | .request r => r

/-- A body that is laid down brings its type, unless the headers have one. -/
def withContentType (type : Option Text) (headers : Headers) : Headers :=
  match type with
  | some type => if headers contentTypeHeader = none then headers.set contentTypeHeader type else headers
  | none => headers

/-- What `fetch(input, init)` sends: a part of `init` stands in for the part of the input. -/
def sent (input : Input U B) (init : RequestInit B) : Request U B :=
  let request := input.base resolve
  { method := init.method.getD request.method
    url := request.url
    headers := withContentType (init.body.bind contentType) (init.headers.getD request.headers)
    body := init.body.or request.body }

end Requests

/-! ## The wrapper -/

structure Response where
  status : ℕ
  headers : Headers
  /-- The text of the body, if it can be read. -/
  body : Option Text

inductive Call (U B : Type) where
  | fetch (request : Request U B)
  | onPaymentRequired (req : PaymentRequirement ℚ)
  | spend (service : Text) (amountUsdc : ℚ)
  | onPaid (signature : Text) (req : PaymentRequirement ℚ)

@[reducible]
def Call.Answer {U B : Type} : Call U B → Type
  | .fetch _ => Response
  | .spend _ _ => Text
  | _ => Unit

inductive Failure (W : Type) where
  | parse (e : PaymentParseError)
  | thrown (w : W)

structure PaymentRequiredOptions where
  onPaymentRequired : Bool
  onPaid : Bool

variable {U B W : Type}

/-- A computation of the wrapper. -/
abbrev Async (U B W A : Type) := Dialogue (Failure W) (Call U B) Call.Answer A

abbrev Log (U B W : Type) := List (Exchange (Failure W) (Call U B) Call.Answer)

def baseFetch (request : Request U B) : Async U B W Response :=
  question (Call.fetch request)

def spend (service : Text) (amountUsdc : ℚ) : Async U B W Text :=
  question (Call.spend service amountUsdc)

def parseRequirement (grammar : Text → Option JsonText) (res : Response) :
    Except PaymentParseError (PaymentRequirement ℚ) :=
  let header := (res.headers requirementHeader).getD []
  if header ≠ [] then parseJson grammar header
  else do
    let bodyText ← okOr res.body .bodyUnreadable
    require (Numerals.trimBlanks bodyText ≠ []) .emptyBody
    parseJson grammar bodyText

variable (grammar : Text → Option JsonText) (resolve : Text → U) (contentType : B → Option Text)
  (opts : PaymentRequiredOptions)

/-- What the retry lays down: the headers of `init` alone, and the proof of payment. -/
def retryInit (init : RequestInit B) (signature : Text) : RequestInit B :=
  { init with headers := some ((init.headers.getD fun _ => none).set paymentHeader signature) }

def paymentRequired (input : Input U B) (init : RequestInit B) : Async U B W Response := do
  let first ← baseFetch (sent resolve contentType input init)
  if first.status ≠ 402 then pure first
  else do
    let req ← Dialogue.done ((parseRequirement grammar first).mapError .parse)
    questionWhen opts.onPaymentRequired (.onPaymentRequired req)
    let signature ← spend req.recipient req.amountUsdc
    questionWhen opts.onPaid (.onPaid signature req)
    baseFetch (sent resolve contentType input (retryInit init signature))

/-! ## What a log shows -/

def requests (log : Log U B W) : List (Request U B) :=
  log.filterMap fun
    | ⟨.fetch request, _⟩ => some request
    | _ => none

def payments (log : Log U B W) : List (Text × ℚ) :=
  log.filterMap fun
    | ⟨.spend service amountUsdc, _⟩ => some (service, amountUsdc)
    | _ => none

def signatures (log : Log U B W) : List Text :=
  log.filterMap fun
    | ⟨.spend _ _, .ok signature⟩ => some signature
    | _ => none

/-- Questions to hooks only. -/
def Quiet (log : Log U B W) : Prop :=
  ∀ exchange ∈ log, (∃ req, exchange.question = .onPaymentRequired req) ∨
    ∃ signature req, exchange.question = .onPaid signature req

/-- A 402 with a requirement that can be read. -/
def Demands (grammar : Text → Option JsonText) (res : Response) (req : PaymentRequirement ℚ) : Prop :=
  res.status = 402 ∧ parseRequirement grammar res = .ok req

/-- The courses that a call can take: it ends with the first answer, before the payment, with the
payment, or with a second request. -/
inductive Course (grammar : Text → Option JsonText) (first : Request U B) (retry : Text → Request U B) :
    Log U B W → Prop
  | plain (answer : Except (Failure W) Response) : Course grammar first retry [⟨.fetch first, answer⟩]
  | unpaid {res : Response} {req : PaymentRequirement ℚ} {before : Log U B W}
      (demands : Demands grammar res req) (quiet : Quiet before) :
      Course grammar first retry (⟨.fetch first, .ok res⟩ :: before)
  | paid {res : Response} {req : PaymentRequirement ℚ} {before after : Log U B W}
      (demands : Demands grammar res req) (quiet : Quiet before) (answer : Except (Failure W) Text)
      (later : Quiet after) :
      Course grammar first retry (⟨.fetch first, .ok res⟩ :: (before ++
        ⟨.spend req.recipient req.amountUsdc, answer⟩ :: after))
  | retried {res : Response} {req : PaymentRequirement ℚ} {before after : Log U B W} {signature : Text}
      (demands : Demands grammar res req) (quiet : Quiet before) (later : Quiet after)
      (answer : Except (Failure W) Response) :
      Course grammar first retry (⟨.fetch first, .ok res⟩ :: (before ++
        ⟨.spend req.recipient req.amountUsdc, .ok signature⟩ :: (after ++
          [⟨.fetch (retry signature), answer⟩])))

variable {grammar resolve contentType opts} {input : Input U B} {init : RequestInit B}
  {log : Log U B W} {result : Except (Failure W) Response}

theorem runs_baseFetch {request : Request U B} :
    Runs (baseFetch request) log result ↔ log = [⟨.fetch request, result⟩] := runs_question

theorem runs_spend {service : Text} {amountUsdc : ℚ} {answer : Except (Failure W) Text} :
    Runs (spend service amountUsdc : Async U B W Text) log answer ↔
      log = [⟨.spend service amountUsdc, answer⟩] := runs_question

theorem quiet_onPaymentRequired {listens : Bool} {req : PaymentRequirement ℚ}
    {answer : Except (Failure W) Unit}
    (run : Runs (questionWhen listens (Call.onPaymentRequired req) : Async U B W Unit) log answer) :
    Quiet log := fun exchange member => Or.inl ⟨req, run.of_questionWhen exchange member⟩

theorem quiet_onPaid {listens : Bool} {signature : Text} {req : PaymentRequirement ℚ}
    {answer : Except (Failure W) Unit}
    (run : Runs (questionWhen listens (Call.onPaid signature req) : Async U B W Unit) log answer) :
    Quiet log := fun exchange member => Or.inr ⟨signature, req, run.of_questionWhen exchange member⟩

/-- Every call takes one of the courses. -/
theorem course (run : Runs (paymentRequired grammar resolve contentType opts input init) log result) :
    Course grammar (sent resolve contentType input init)
      (fun signature => sent resolve contentType input (retryInit init signature)) log := by
  -- The first request fails, or there is an answer.
  rcases runs_bind.mp run with ⟨e, asked, -⟩ | ⟨res, asked, rest, rfl, answered, fetched⟩
  · obtain rfl := runs_baseFetch.mp asked
    exact .plain _
  obtain rfl := runs_baseFetch.mp answered
  by_cases status : res.status = 402
  case neg =>
    rw [if_pos status] at fetched
    obtain ⟨rfl, -⟩ := runs_pure.mp fetched
    exact .plain _
  rw [if_neg (not_not.mpr status)] at fetched
  -- Reading the requirement asks nothing.
  rcases runs_bind.mp fetched with ⟨e, stops, -⟩ | ⟨req, parsed, rest, rfl, reads, demanded⟩
  · obtain ⟨rfl, -⟩ := runs_done.mp stops
    exact .plain _
  obtain ⟨rfl, accepted⟩ := runs_done.mp reads
  have demands : Demands grammar res req := ⟨status, (mapError_eq_ok _ _ _).mp accepted.symm⟩
  -- From here on the requirement is known: a hook may stop the call, and the vault may refuse.
  rcases runs_bind.mp demanded with ⟨e, stops, -⟩ | ⟨⟨⟩, before, rest, rfl, hooked, confirmed⟩
  · exact .unpaid demands (quiet_onPaymentRequired stops)
  have quiet := quiet_onPaymentRequired hooked
  rcases runs_bind.mp confirmed with ⟨e, stops, -⟩ | ⟨signature, spent, rest, rfl, pays, paid⟩
  · obtain rfl := runs_spend.mp stops
    exact .paid demands quiet _ nofun
  obtain rfl := runs_spend.mp pays
  -- The payment has landed; only the other hook is before the retry.
  rcases runs_bind.mp paid with ⟨e, stops, -⟩ | ⟨⟨⟩, after, rest, rfl, told, again⟩
  · exact .paid demands quiet _ (quiet_onPaid stops)
  obtain rfl := runs_baseFetch.mp again
  exact .retried demands quiet (quiet_onPaid told) result

/-- A reader that passes over hooks finds nothing in a log of hooks. -/
theorem Quiet.filterMap {A : Type} (quiet : Quiet log)
    (f : Exchange (Failure W) (Call U B) Call.Answer → Option A)
    (confirms : ∀ req answer, f ⟨.onPaymentRequired req, answer⟩ = none)
    (tells : ∀ signature req answer, f ⟨.onPaid signature req, answer⟩ = none) :
    log.filterMap f = [] := by
  rw [List.filterMap_eq_nil_iff]
  rintro ⟨call, answer⟩ member
  rcases quiet _ member with ⟨req, rfl⟩ | ⟨signature, req, rfl⟩
  · exact confirms req answer
  · exact tells signature req answer

theorem Quiet.requests (quiet : Quiet log) : requests log = [] :=
  quiet.filterMap _ (fun _ _ => rfl) fun _ _ _ => rfl

theorem Quiet.payments (quiet : Quiet log) : payments log = [] :=
  quiet.filterMap _ (fun _ _ => rfl) fun _ _ _ => rfl

theorem Quiet.signatures (quiet : Quiet log) : signatures log = [] :=
  quiet.filterMap _ (fun _ _ => rfl) fun _ _ _ => rfl

variable {log' : Log U B W}

theorem requests_append : requests (log ++ log') = requests log ++ requests log' :=
  List.filterMap_append

theorem payments_append : payments (log ++ log') = payments log ++ payments log' :=
  List.filterMap_append

theorem signatures_append : signatures (log ++ log') = signatures log ++ signatures log' :=
  List.filterMap_append

theorem Quiet.payments_spend (quiet : Quiet log) {service : Text} {amountUsdc : ℚ}
    {answer : Except (Failure W) Text} :
    PaymentRequired.payments (log ++ ⟨.spend service amountUsdc, answer⟩ :: log') =
      (service, amountUsdc) :: PaymentRequired.payments log' := by
  rw [payments_append, quiet.payments]
  rfl

theorem Quiet.requests_spend (quiet : Quiet log) {service : Text} {amountUsdc : ℚ}
    {answer : Except (Failure W) Text} :
    PaymentRequired.requests (log ++ ⟨.spend service amountUsdc, answer⟩ :: log') =
      PaymentRequired.requests log' := by
  rw [requests_append, quiet.requests]
  rfl

theorem Quiet.signatures_spend (quiet : Quiet log) {service : Text} {amountUsdc : ℚ}
    {signature : Text} :
    PaymentRequired.signatures (log ++ ⟨.spend service amountUsdc, .ok signature⟩ :: log') =
      signature :: PaymentRequired.signatures log' := by
  rw [signatures_append, quiet.signatures]
  rfl

theorem requests_fetch {request : Request U B} {answer : Except (Failure W) Response} :
    requests (⟨.fetch request, answer⟩ :: log) = request :: requests log := rfl

theorem signatures_fetch {request : Request U B} {answer : Except (Failure W) Response} :
    signatures (⟨.fetch request, answer⟩ :: log) = signatures log := rfl

/-- A call pays once at most, only what a 402 demanded before, and sends twice at most. -/
structure Lawful (grammar : Text → Option JsonText) (log : Log U B W) : Prop where
  once : (payments log).length ≤ 1
  twice : (requests log).length ≤ 2
  demanded : ∀ before after service amountUsdc answer,
    log = before ++ ⟨.spend service amountUsdc, answer⟩ :: after →
      ∃ request res req, ⟨.fetch request, .ok res⟩ ∈ before ∧ Demands grammar res req ∧
        service = req.recipient ∧ amountUsdc = req.amountUsdc

section Courses

variable {first : Request U B} {retry : Text → Request U B}

theorem mem_payments {before after : Log U B W} {service : Text} {amountUsdc : ℚ}
    {answer : Except (Failure W) Text} (cut : log = before ++ ⟨.spend service amountUsdc, answer⟩ :: after) :
    (service, amountUsdc) ∈ payments log := by
  rw [cut, payments_append]
  exact List.mem_append_right _ List.mem_cons_self

/-- After a 402 with a requirement, one payment of it and one more request are lawful. -/
theorem Demands.lawful {res : Response} {req : PaymentRequirement ℚ} {rest : Log U B W}
    (demands : Demands grammar res req) (paid : payments rest <+: [(req.recipient, req.amountUsdc)])
    (asked : (requests rest).length ≤ 1) : Lawful grammar (⟨.fetch first, .ok res⟩ :: rest) := by
  refine ⟨paid.length_le, Nat.succ_le_succ asked, ?_⟩
  intro before after service amountUsdc answer cut
  cases before with
  | nil => cases cut
  | cons exchange before =>
    obtain ⟨rfl, later⟩ := List.cons.inj cut
    have payment := List.mem_singleton.mp (paid.subset (mem_payments later))
    exact ⟨first, res, req, List.mem_cons_self, demands, congrArg Prod.fst payment,
      congrArg Prod.snd payment⟩

/-- Whatever its course, a call is lawful. -/
theorem Course.lawful (course : Course grammar first retry log) : Lawful grammar log := by
  cases course with
  | plain answer =>
    refine ⟨Nat.zero_le 1, Nat.le_succ 1, ?_⟩
    intro before after service amountUsdc answer cut
    cases mem_payments cut
  | unpaid demands quiet =>
    apply demands.lawful
    · rw [quiet.payments]
      exact List.nil_prefix
    · rw [quiet.requests]
      exact Nat.zero_le 1
  | paid demands quiet answer later =>
    apply demands.lawful
    · rw [quiet.payments_spend, later.payments]
    · rw [quiet.requests_spend, later.requests, List.length_nil]
      exact Nat.zero_le 1
  | retried demands quiet later answer =>
    apply demands.lawful
    · rw [quiet.payments_spend, payments_append, later.payments]
      exact List.prefix_rfl
    · rw [quiet.requests_spend, requests_append, later.requests]
      exact le_rfl

/-- A second request is the retry with the signature of the payment. -/
theorem Course.second (course : Course grammar first retry log) (twice : (requests log).length = 2) :
    ∃ signature, requests log = [first, retry signature] ∧ signatures log = [signature] := by
  cases course with
  | plain answer => cases twice
  | unpaid demands quiet =>
    rw [requests_fetch, quiet.requests] at twice
    cases twice
  | paid demands quiet answer later =>
    rw [requests_fetch, quiet.requests_spend, later.requests] at twice
    cases twice
  | @retried res req before after signature demands quiet later answer =>
    refine ⟨signature, ?_, ?_⟩
    · rw [requests_fetch, quiet.requests_spend, requests_append, later.requests]
      rfl
    · rw [signatures_fetch, quiet.signatures_spend, signatures_append, later.signatures]
      rfl

end Courses

/-! ## The second request -/

/-- The second request is the first with the proof of payment. -/
def RetriesOriginal (log : Log U B W) : Prop :=
  ∀ first second, requests log = [first, second] → ∃ signature ∈ signatures log,
    second = { first with headers := first.headers.set paymentHeader signature }

/-- Nothing is lost if the headers of `init` are the ones that are sent, or if the headers of a
`Request` are none but a proof of payment and the type that the body of `init` brings again. -/
def KeepsHeaders (contentType : B → Option Text) (input : Input U B) (init : RequestInit B) : Prop :=
  init.headers.isSome = true ∨ match input with
    | .request r => ∀ name value, name ≠ paymentHeader → r.headers name = some value →
        name = contentTypeHeader ∧ init.body.bind contentType = some value
    | _ => True

theorem withContentType_apply (type : Option Text) (headers : Headers) (name : Text) :
    withContentType type headers name =
      if name = contentTypeHeader then (headers name).or type else headers name := by
  cases type with
  | none => rw [withContentType, Option.or_none, ite_self]
  | some type =>
    unfold withContentType
    dsimp only
    by_cases same : name = contentTypeHeader
    · rw [if_pos same, same]
      split
      case isTrue absent => rw [Headers.set, Function.update_self, absent, Option.none_or]
      case isFalse present =>
        obtain ⟨own, held⟩ := Option.ne_none_iff_exists'.mp present
        rw [held, Option.some_or]
    · rw [if_neg same]
      split
      · rw [Headers.set, Function.update_of_ne same]
      · rfl

theorem set_apply (headers : Headers) (signature : Text) {name : Text} (other : name ≠ paymentHeader) :
    headers.set paymentHeader signature name = headers name := Function.update_of_ne other _ _

/-- The type of a body and the proof of payment are set apart. -/
theorem withContentType_set (type : Option Text) (headers : Headers) (signature : Text) :
    withContentType type (headers.set paymentHeader signature) =
      (withContentType type headers).set paymentHeader signature := by
  funext name
  rw [withContentType_apply]
  -- The two names differ, so the order of the two settings does not matter.
  by_cases proof : name = paymentHeader
  · have apart : name ≠ contentTypeHeader := by rw [proof]; decide
    rw [if_neg apart, proof]
    simp only [Headers.set, Function.update_self]
  · rw [set_apply _ _ proof, set_apply _ _ proof, withContentType_apply]

theorem set_eq_set_iff {headers headers' : Headers} {signature : Text} :
    headers.set paymentHeader signature = headers'.set paymentHeader signature ↔
      ∀ name, name ≠ paymentHeader → headers name = headers' name := by
  constructor
  · intro same name other
    rw [← set_apply headers signature other, same, set_apply headers' signature other]
  · intro same
    funext name
    by_cases proof : name = paymentHeader
    · rw [proof]
      simp only [Headers.set, Function.update_self]
    · rw [set_apply _ _ proof, set_apply _ _ proof, same name proof]

/-- Headers that are lost do no harm if the type of the body brings them back. -/
theorem lost_iff (type : Option Text) (headers : Headers) :
    (∀ name, name ≠ paymentHeader →
      withContentType type (fun _ => none) name = withContentType type headers name) ↔
    ∀ name value, name ≠ paymentHeader → headers name = some value →
      name = contentTypeHeader ∧ type = some value := by
  constructor
  · intro same name value other held
    have here := same name other
    rw [withContentType_apply, withContentType_apply, held] at here
    by_cases typed : name = contentTypeHeader
    · rw [if_pos typed, if_pos typed, Option.none_or, Option.some_or] at here
      exact ⟨typed, here⟩
    · rw [if_neg typed, if_neg typed] at here
      cases here
  · intro own name other
    rw [withContentType_apply, withContentType_apply]
    cases held : headers name with
    | none => rfl
    | some value =>
      -- The only header that may be lost is the one that comes back.
      obtain ⟨typed, brought⟩ := own name value other held
      rw [if_pos typed, if_pos typed, brought, Option.none_or, Option.some_or]

/-- Of a retry only the headers may differ from the original. -/
theorem sent_retryInit (input : Input U B) (init : RequestInit B) (signature : Text) :
    sent resolve contentType input (retryInit init signature) =
      { sent resolve contentType input init with
        headers := withContentType (init.body.bind contentType)
          ((init.headers.getD fun _ => none).set paymentHeader signature) } := rfl

/-- The retry is the original request with the proof of payment where no header is lost. -/
theorem sent_retryInit_eq_iff {signature : Text} :
    sent resolve contentType input (retryInit init signature) =
      { sent resolve contentType input init with
        headers := (sent resolve contentType input init).headers.set paymentHeader signature } ↔
    KeepsHeaders contentType input init := by
  rw [sent_retryInit, Request.mk.injEq, withContentType_set]
  simp only [true_and, and_true]
  rw [set_eq_set_iff]
  unfold KeepsHeaders sent
  dsimp only
  -- Headers of `init` are sent both times; without them the first request has those of the input.
  cases given : init.headers with
  | some headers => exact iff_of_true (fun _ _ => rfl) (Or.inl rfl)
  | none =>
    cases input with
    | string s => exact iff_of_true (fun _ _ => rfl) (Or.inr trivial)
    | url u => exact iff_of_true (fun _ _ => rfl) (Or.inr trivial)
    | request r =>
      have lost := lost_iff (init.body.bind contentType) r.headers
      constructor
      · exact fun same => Or.inr (lost.mp same)
      · rintro (headers | own)
        · cases headers
        · exact lost.mpr own

/-- A call pays lawfully, and its second request is the original one exactly where no header of a
`Request` is lost. -/
theorem retry_is_original_iff
    (run : Runs (paymentRequired grammar resolve contentType opts input init) log result) :
    Lawful grammar log ∧ ((requests log).length = 2 →
      (RetriesOriginal log ↔ KeepsHeaders contentType input init)) := by
  have course := course run
  refine ⟨course.lawful, ?_⟩
  intro twice
  obtain ⟨signature, asked, signed⟩ := course.second twice
  rw [← sent_retryInit_eq_iff, RetriesOriginal, asked, signed]
  constructor
  · intro retries
    obtain ⟨same, member, original⟩ := retries _ _ rfl
    rwa [List.mem_singleton.mp member] at original
  · intro original first second both
    obtain ⟨rfl, second⟩ := List.cons.inj both
    exact ⟨signature, List.mem_singleton_self _, (List.cons.inj second).1.symm.trans original⟩

/-- Without hooks a demand that is paid leads to the retry. -/
theorem runs_retried {res : Response} {req : PaymentRequirement ℚ} (demands : Demands grammar res req)
    (signature : Text) (answer : Except (Failure W) Response) :
    Runs (paymentRequired grammar resolve contentType ⟨false, false⟩ input init)
      [⟨.fetch (sent resolve contentType input init), .ok res⟩,
        ⟨.spend req.recipient req.amountUsdc, .ok signature⟩,
        ⟨.fetch (sent resolve contentType input (retryInit init signature)), answer⟩] answer := by
  refine runs_bind.mpr (Or.inr ⟨res, [_], _, rfl, runs_baseFetch.mpr rfl, ?_⟩)
  rw [if_neg (not_not.mpr demands.1), demands.2]
  -- The requirement is read, and nobody listens to the hooks.
  refine runs_bind.mpr (Or.inr ⟨req, [], _, rfl, .done _, ?_⟩)
  refine runs_bind.mpr (Or.inr ⟨(), [], _, rfl, .done _, ?_⟩)
  refine runs_bind.mpr (Or.inr ⟨signature, [_], _, rfl, runs_spend.mpr rfl, ?_⟩)
  refine runs_bind.mpr (Or.inr ⟨(), [], _, rfl, .done _, ?_⟩)
  exact runs_baseFetch.mpr rfl

/-- A 402 that demands ten micro-USDC in its body. -/
def tenDemanded : Response := ⟨402, fun _ => none, some (demandText "10")⟩

theorem tenDemanded_demands :
    Demands (readDemand "10") tenDemanded ⟨"service".toList, ((10 : ℤ) : ℚ), none, none⟩ :=
  ⟨rfl, parseJson_demandOf number_ten (by norm_num)⟩

/-- A request with a key in its headers. -/
def keyed : Request Text Text where
  method := "GET".toList
  url := "https://service.example/data".toList
  headers := Headers.set (fun _ => none) "authorization".toList "key".toList
  body := none

/-- A key in the headers of `init` is sent again. -/
theorem retry_keeps_init_headers :
    RetriesOriginal (W := Unit)
      [⟨.fetch keyed, .ok tenDemanded⟩, ⟨.spend "service".toList ((10 : ℤ) : ℚ), .ok "signature".toList⟩,
        ⟨.fetch { keyed with headers := keyed.headers.set paymentHeader "signature".toList },
          .ok ⟨200, fun _ => none, none⟩⟩] :=
  ((retry_is_original_iff (@runs_retried Text Text Unit _ id (fun _ => none) (.string keyed.url)
    ⟨none, some keyed.headers, none⟩ _ _ tenDemanded_demands "signature".toList
    (.ok ⟨200, fun _ => none, none⟩))).2 rfl).mpr (Or.inl rfl)

/-- A key in the headers of a `Request` is lost. -/
theorem retry_loses_request_headers :
    ¬∀ (input : Input Text Text) (init : RequestInit Text) (log : Log Text Text Unit)
      (result : Except (Failure Unit) Response),
      Runs (paymentRequired (readDemand "10") id (fun _ => none) ⟨false, false⟩ input init)
        log result → Lawful (readDemand "10") log ∧ RetriesOriginal log := by
  intro claimed
  have run := @runs_retried Text Text Unit (readDemand "10") id (fun _ => none)
    (.request keyed) RequestInit.empty _ _ tenDemanded_demands "signature".toList
    (.ok ⟨200, fun _ => none, none⟩)
  obtain ⟨signature, member, original⟩ := (claimed _ _ _ _ run).2 _ _ rfl
  obtain rfl : signature = "signature".toList := List.mem_singleton.mp member
  rcases sent_retryInit_eq_iff.mp original with headers | own
  · cases headers
  · have absurdity := own "authorization".toList "key".toList (by decide) rfl
    exact absurd absurdity.1 (by decide)

end AgentFuel.Clients.PaymentRequired
