import AgentFuel.Library.Checked
import AgentFuel.Library.Numerals

/-!
# Payment demands

A server that asks for a payment describes it in a JSON object. Both SDKs read the description, the
TypeScript one with `Number`, the Python one with `int`.
-/
namespace AgentFuel.Clients.PaymentDemand

open Checked Numerals

/-- A text of JSON by its grammar: numbers as they are written, and the members of an object with
every repetition. -/
inductive JsonText where
  | null
  | bool (b : Bool)
  | number (n : Numeral)
  | string (s : Text)
  | array (items : List JsonText)
  | object (members : List (Text × JsonText))

mutual

/-- The numbers anywhere in a text. -/
def JsonText.numerals : JsonText → List Numeral
  | .number n => [n]
  | .array items => itemNumerals items
  | .object members => memberNumerals members
  | _ => []

def JsonText.itemNumerals : List JsonText → List Numeral
  | [] => []
  | item :: items => item.numerals ++ itemNumerals items

def JsonText.memberNumerals : List (Text × JsonText) → List Numeral
  | [] => []
  | member :: members => valueNumerals member ++ memberNumerals members

def JsonText.valueNumerals : Text × JsonText → List Numeral
  | (_, value) => value.numerals

end

/-- The value of a member: of a repeated one the last. No value but an object has members. -/
def JsonText.member (key : String) : JsonText → Option JsonText
  | .object members => members.reverse.lookup key.toList
  | _ => none

structure PaymentRequirement (A : Type) where
  recipient : Text
  amountUsdc : A
  network : Option Text
  resource : Option Text
  deriving DecidableEq, Repr

inductive PaymentParseError where
  | bodyUnreadable
  | emptyBody
  | notValidJson
  | notAnObject
  | missingRecipient
  | missingPositiveAmount
  /-- Not of the SDK: `json.loads` itself refuses integers of too many digits. -/
  | valueError
  deriving DecidableEq, Repr

/-- A member that is a nonempty string. -/
def stringField (r : JsonText) (key : String) : Option Text :=
  match r.member key with
  | some (.string s) => if s = [] then none else some s
  | _ => none

/-- `stringField(r, "recipient") ?? stringField(r, "payTo")`, the same in both SDKs. -/
def recipientField (r : JsonText) : Option Text :=
  (stringField r "recipient").or (stringField r "payTo")

-- What a text stands for by the grammar of JSON, and the digits of Unicode.
variable (grammar : Text → Option JsonText) (decimal : DecimalDigits)

/-! ## TypeScript -/

def numericField (r : JsonText) (key : String) : Option ℚ :=
  match r.member key with
  | some (.number n) => nearest n.value
  | some (.string s) => number s
  | _ => none

/-- `typeof obj === "object"`, which arrays are as well. -/
def JsonText.isObject : JsonText → Bool
  | .object _ => true
  | .array _ => true
  | _ => false

def parseJson (text : Text) : Except PaymentParseError (PaymentRequirement ℚ) := do
  let r ← okOr (grammar text) .notValidJson
  require (r.isObject = true) .notAnObject
  let recipient ← okOr (recipientField r) .missingRecipient
  let amount ← okOr ((numericField r "amountUsdc").or (numericField r "maxAmountRequired"))
    .missingPositiveAmount
  require (0 < amount) .missingPositiveAmount
  return ⟨recipient, amount, stringField r "network", stringField r "resource"⟩

/-! ## Python -/

/-- `json.loads` takes integers of so many digits only, wherever they stand. -/
def loads (r : JsonText) : Bool :=
  r.numerals.all fun n => !n.isInteger || n.whole < 10 ^ maxStrDigits

def intField (r : JsonText) (key : String) : Option ℤ :=
  match r.member key with
  | some (.number n) =>
    if n.isInteger then some n.integer
    else (nearest n.value).bind fun v => if v.isInt then some v.num else none
  | some (.string s) => int decimal s
  | _ => none

/-- `isinstance(obj, dict)` -/
def JsonText.isDict : JsonText → Bool
  | .object _ => true
  | _ => false

def fromJson (text : Text) : Except PaymentParseError (PaymentRequirement ℤ) := do
  let obj ← okOr (grammar text) .notValidJson
  require (loads obj = true) .valueError
  require (obj.isDict = true) .notAnObject
  let recipient ← okOr (recipientField obj) .missingRecipient
  let amount ← okOr (((intField decimal obj "amount_usdc").or (intField decimal obj "amountUsdc")).or
    (intField decimal obj "maxAmountRequired")) .missingPositiveAmount
  require (0 < amount) .missingPositiveAmount
  return ⟨recipient, amount, stringField obj "network", stringField obj "resource"⟩

/-! ## What both accept -/

variable {grammar decimal} {text : Text} {r : JsonText} {key : String}

theorem isDict_of_recipientField {recipient : Text} (named : recipientField r = some recipient) :
    r.isDict = true := by
  cases r with
  | object => rfl
  | _ => cases named

theorem JsonText.isObject_of_isDict (dict : r.isDict = true) : r.isObject = true := by
  cases r with
  | object => rfl
  | _ => cases dict

theorem parseJson_eq_ok (json : grammar text = some r) {demand : PaymentRequirement ℚ} :
    parseJson grammar text = .ok demand ↔ recipientField r = some demand.recipient ∧
      (numericField r "amountUsdc").or (numericField r "maxAmountRequired") = some demand.amountUsdc ∧
      0 < demand.amountUsdc ∧ stringField r "network" = demand.network ∧
      stringField r "resource" = demand.resource := by
  unfold parseJson
  rw [json]
  simp only [bind_eq_ok, okOr_eq_ok, require_eq_ok, pure_eq_ok, Option.some.injEq, exists_eq_left',
    exists_const]
  constructor
  · rintro ⟨-, recipient, named, amount, read, positive, rfl⟩
    exact ⟨named, read, positive, rfl, rfl⟩
  · rintro ⟨named, read, positive, network, resource⟩
    refine ⟨JsonText.isObject_of_isDict (isDict_of_recipientField named), _, named, _, read, positive, ?_⟩
    rw [network, resource]

theorem fromJson_eq_ok (json : grammar text = some r) (camel : r.member "amount_usdc" = none)
    {demand : PaymentRequirement ℤ} :
    fromJson grammar decimal text = .ok demand ↔ loads r = true ∧
      recipientField r = some demand.recipient ∧
      (intField decimal r "amountUsdc").or (intField decimal r "maxAmountRequired") =
        some demand.amountUsdc ∧
      0 < demand.amountUsdc ∧ stringField r "network" = demand.network ∧
      stringField r "resource" = demand.resource := by
  have absent : intField decimal r "amount_usdc" = none := by rw [intField, camel]
  unfold fromJson
  rw [json]
  simp only [bind_eq_ok, okOr_eq_ok, require_eq_ok, pure_eq_ok, Option.some.injEq, exists_eq_left',
    exists_const, absent, Option.none_or]
  constructor
  · rintro ⟨loaded, -, recipient, named, amount, read, positive, rfl⟩
    exact ⟨loaded, named, read, positive, rfl, rfl⟩
  · rintro ⟨loaded, named, read, positive, network, resource⟩
    refine ⟨loaded, isDict_of_recipientField named, _, named, _, read, positive, ?_⟩
    rw [network, resource]

/-- Both reject, or both accept one demand of a positive integer. -/
def Agree : Except PaymentParseError (PaymentRequirement ℚ) →
    Except PaymentParseError (PaymentRequirement ℤ) → Prop
  | .ok a, .ok b => a.recipient = b.recipient ∧ a.network = b.network ∧ a.resource = b.resource ∧
      a.amountUsdc = b.amountUsdc ∧ 0 < b.amountUsdc
  | .error _, .error _ => True
  | _, _ => False

/-- The same positive number, or none. -/
def SamePositive (x : Option ℚ) (n : Option ℤ) : Prop :=
  ∀ a : ℚ, 0 < a → (x = some a ↔ n.map Int.cast = some a)

/-- A parser accepts the demand of the parts that it reads. -/
def Accepts {A : Type} [Zero A] [LT A] (result : Except PaymentParseError (PaymentRequirement A))
    (recipient : Option Text) (amount : Option A) (network resource : Option Text) : Prop :=
  ∀ demand, result = .ok demand ↔ recipient = some demand.recipient ∧
    amount = some demand.amountUsdc ∧ 0 < demand.amountUsdc ∧ network = demand.network ∧
    resource = demand.resource

theorem parseJson_accepts (json : grammar text = some r) :
    Accepts (parseJson grammar text) (recipientField r)
      ((numericField r "amountUsdc").or (numericField r "maxAmountRequired"))
      (stringField r "network") (stringField r "resource") := fun _ => parseJson_eq_ok json

/-- The amount that Python reads: none in a text that `json.loads` refuses. -/
def intAmount (decimal : DecimalDigits) (r : JsonText) : Option ℤ :=
  if loads r = true then (intField decimal r "amountUsdc").or (intField decimal r "maxAmountRequired")
  else none

theorem fromJson_accepts (json : grammar text = some r) (camel : r.member "amount_usdc" = none) :
    Accepts (fromJson grammar decimal text) (recipientField r) (intAmount decimal r)
      (stringField r "network") (stringField r "resource") := by
  intro demand
  rw [fromJson_eq_ok json camel, intAmount]
  by_cases loaded : loads r = true
  · rw [if_pos loaded, and_iff_right loaded]
  · rw [if_neg loaded]
    exact ⟨fun accepted => absurd accepted.1 loaded, fun accepted => by cases accepted.2.1⟩

/-- With a recipient it is the amounts that decide. -/
theorem Accepts.agree_iff {typescript : Except PaymentParseError (PaymentRequirement ℚ)}
    {python : Except PaymentParseError (PaymentRequirement ℤ)} {recipient network resource : Option Text}
    {x : Option ℚ} {n : Option ℤ} (left : Accepts typescript recipient x network resource)
    (right : Accepts python recipient n network resource) :
    Agree typescript python ↔ (recipient.isSome = true → SamePositive x n) := by
  cases accepted : typescript with
  | ok d =>
    -- The recipient is there, so the other parser decides by the amount as well.
    obtain ⟨named, read, positive, rfl, rfl⟩ := (left d).mp accepted
    rw [named, read]
    cases also : python with
    | ok e =>
      obtain ⟨same, integer, above, network, resource⟩ := (right e).mp also
      rw [integer]
      constructor
      · rintro ⟨-, -, -, amounts, -⟩ - a -
        rw [amounts, Option.map_some]
      · intro alike
        have amounts := (alike rfl d.amountUsdc positive).mp rfl
        rw [Option.map_some, Option.some.injEq] at amounts
        exact ⟨Option.some.inj (named.symm.trans same), network, resource, amounts.symm, above⟩
    | error =>
      constructor
      · exact False.elim
      · intro alike
        have read := (alike rfl d.amountUsdc positive).mp rfl
        obtain ⟨m, integer, same⟩ := Option.map_eq_some_iff.mp read
        have above : 0 < m := by
          rw [← same] at positive
          exact_mod_cast positive
        have := (right ⟨d.recipient, m, d.network, d.resource⟩).mpr ⟨named, integer, above, rfl, rfl⟩
        rw [also] at this
        cases this
  | error =>
    cases also : python with
    | ok e =>
      obtain ⟨named, integer, above, network, resource⟩ := (right e).mp also
      constructor
      · exact False.elim
      · intro alike
        have positive : (0 : ℚ) < e.amountUsdc := by exact_mod_cast above
        have read := (alike (by rw [named]; rfl) _ positive).mpr (by rw [integer, Option.map_some])
        have := (left ⟨e.recipient, e.amountUsdc, e.network, e.resource⟩).mpr
          ⟨named, read, positive, network, resource⟩
        rw [accepted] at this
        cases this
    | error =>
      -- With a recipient, a positive amount on either side would have been accepted.
      refine iff_of_true trivial ?_
      intro named a positive
      obtain ⟨recipient, rfl⟩ := Option.isSome_iff_exists.mp named
      constructor
      · intro read
        have := (left ⟨recipient, a, network, resource⟩).mpr ⟨rfl, read, positive, rfl, rfl⟩
        rw [accepted] at this
        cases this
      · intro read
        obtain ⟨m, integer, rfl⟩ := Option.map_eq_some_iff.mp read
        have := (right ⟨recipient, m, network, resource⟩).mpr
          ⟨rfl, integer, by exact_mod_cast positive, rfl, rfl⟩
        rw [also] at this
        cases this

/-! ## Where both read the same -/

/-- An object of the kind that both SDKs are meant to read. -/
structure Covered (decimal : DecimalDigits) (r : JsonText) : Prop where
  camel : r.member "amount_usdc" = none
  numbers : ∀ key n, r.member key = some (.number n) → n.value < 2 ^ 53
  denoted : ∀ key s q, r.member key = some (.string s) → denoted s = some q → q < 2 ^ 53
  int : ∀ key s n, r.member key = some (.string s) → int decimal s = some n → n < 2 ^ 53

/-- A member that both read as a number is to both the same positive one, or to neither. -/
theorem Covered.alike (covered : Covered decimal r) {x : ℚ} {n : ℤ}
    (typescript : numericField r key = some x) (python : intField decimal r key = some n) :
    SamePositive (some x) (some n) := by
  intro a positive
  rw [← typescript, Option.map_some, Option.some.injEq]
  unfold numericField
  unfold numericField at typescript
  unfold intField at python
  split at python
  case h_1 numeral member =>
    rw [member] at typescript
    dsimp only at typescript
    split at python
    case isTrue plain =>
      -- An integer as written: rounding keeps it below the limit.
      rw [Option.some.injEq] at python
      have small := covered.numbers key numeral member
      rw [Numeral.value_of_isInteger plain, python] at small ⊢
      exact nearest_eq_pos (by exact_mod_cast small) positive
    case isFalse =>
      -- A fraction or an exponent: Python rounds to the same double and asks it to be whole.
      rw [typescript, Option.bind_some] at python
      rw [typescript, Option.some.injEq]
      split at python
      case isTrue whole =>
        rw [Option.some.injEq] at python
        rw [← python, ← Rat.eq_num_of_isInt whole]
      case isFalse => cases python
  case h_2 s member =>
    rw [member] at typescript
    dsimp only at typescript
    exact number_eq_pos python (covered.int key s n member python)
      (by rw [typescript]; rfl) positive
  case h_3 => cases python

/-- There is an amount that a parser accepts. -/
def Acceptable {A : Type} [Zero A] [LT A] (amount : Option A) : Prop := ∃ a, amount = some a ∧ 0 < a

theorem samePositive_none {x : Option ℚ} : SamePositive x none ↔ ¬Acceptable x := by
  constructor
  · rintro same ⟨a, read, positive⟩
    cases (same a positive).mp read
  · intro unacceptable a positive
    exact iff_of_false (fun read => unacceptable ⟨a, read, positive⟩) nofun

theorem SamePositive.acceptable {x : Option ℚ} {n : Option ℤ} (same : SamePositive x n) :
    Acceptable x ↔ Acceptable n := by
  constructor
  · rintro ⟨a, read, positive⟩
    obtain ⟨m, integer, rfl⟩ := Option.map_eq_some_iff.mp ((same a positive).mp read)
    exact ⟨m, integer, by exact_mod_cast positive⟩
  · rintro ⟨m, rfl, positive⟩
    have above : (0 : ℚ) < m := by exact_mod_cast positive
    exact ⟨m, (same m above).mpr rfl, above⟩

/-- Where both read a member as a number it is the same to both, so all that matters is whether it is
accepted. -/
theorem Covered.samePositive_iff (covered : Covered decimal r) :
    SamePositive (numericField r key) (intField decimal r key) ↔
      (Acceptable (numericField r key) ↔ Acceptable (intField decimal r key)) := by
  refine ⟨SamePositive.acceptable, fun alike => ?_⟩
  cases typescript : numericField r key with
  | some x =>
    cases python : intField decimal r key with
    | some n => exact covered.alike typescript python
    | none =>
      rw [typescript, python] at alike
      exact samePositive_none.mpr fun acceptable => nomatch alike.mp acceptable
  | none =>
    rw [typescript] at alike
    intro a positive
    refine iff_of_false nofun fun read => ?_
    obtain ⟨m, integer, rfl⟩ := Option.map_eq_some_iff.mp read
    have above : 0 < m := by exact_mod_cast positive
    exact nomatch alike.mpr ⟨m, integer, above⟩

/-- Where one SDK reads `amountUsdc` and the other does not, the other finds the same positive
amount in `maxAmountRequired`, or neither finds a positive one; where neither reads it, both accept
`maxAmountRequired` or neither does. -/
def AmountsAlike (decimal : DecimalDigits) (r : JsonText) : Prop :=
  match numericField r "amountUsdc", intField decimal r "amountUsdc" with
  | some _, some _ => True
  | some x, none => SamePositive (some x) (intField decimal r "maxAmountRequired")
  | none, some n => SamePositive (numericField r "maxAmountRequired") (some n)
  | none, none =>
    Acceptable (numericField r "maxAmountRequired") ↔
      Acceptable (intField decimal r "maxAmountRequired")

/-- A text without a recipient is read alike. With one, `json.loads` takes the text and the amounts
are alike, or it refuses the text and there is no amount to accept. -/
def ReadAlike (decimal : DecimalDigits) (r : JsonText) : Prop :=
  (recipientField r).isSome = true →
    if loads r = true then AmountsAlike decimal r
    else ¬Acceptable ((numericField r "amountUsdc").or (numericField r "maxAmountRequired"))

theorem Covered.amountsAlike_iff (covered : Covered decimal r) :
    SamePositive ((numericField r "amountUsdc").or (numericField r "maxAmountRequired"))
      ((intField decimal r "amountUsdc").or (intField decimal r "maxAmountRequired")) ↔
      AmountsAlike decimal r := by
  unfold AmountsAlike
  cases typescript : numericField r "amountUsdc" with
  | some x =>
    cases python : intField decimal r "amountUsdc" with
    | some n => exact iff_of_true (covered.alike typescript python) trivial
    | none => rfl
  | none =>
    cases intField decimal r "amountUsdc" with
    | some n => rfl
    | none => exact covered.samePositive_iff

/-- Amounts that are read by both or by neither are read alike. -/
theorem Covered.readAlike (covered : Covered decimal r) (loaded : loads r = true)
    (both : ∀ key, (numericField r key).isSome = (intField decimal r key).isSome) :
    ReadAlike decimal r := by
  intro _
  rw [if_pos loaded, AmountsAlike]
  have first := both "amountUsdc"
  split
  case h_1 => trivial
  case h_2 typescript python =>
    rw [typescript, python] at first
    cases first
  case h_3 typescript python =>
    rw [typescript, python] at first
    cases first
  -- Where the first key has no amount both go on to the second.
  case h_4 =>
    apply covered.samePositive_iff.mp
    have second := both "maxAmountRequired"
    cases typescript : numericField r "maxAmountRequired" with
    | some x =>
      rw [typescript] at second
      obtain ⟨n, python⟩ := Option.isSome_iff_exists.mp second.symm
      rw [python]
      exact covered.alike typescript python
    | none =>
      rw [typescript] at second
      rw [Option.isSome_eq_false_iff.mp second.symm |> Option.isNone_iff_eq_none.mp]
      exact fun _ _ => iff_of_false nofun nofun

theorem mem_of_member {members : List (Text × JsonText)} {value : JsonText}
    (found : (JsonText.object members).member key = some value) :
    ∃ name, (name, value) ∈ members := by
  obtain ⟨before, after, cut, -⟩ := List.lookup_eq_some_iff.mp found
  refine ⟨key.toList, List.mem_reverse.mp ?_⟩
  rw [cut]
  exact List.mem_append_right _ List.mem_cons_self

/-- The two SDKs read a demand alike exactly where their conversions of the amounts agree. -/
theorem same_demand_iff (grammar : Text → Option JsonText) (decimal : DecimalDigits) (text : Text)
    (r : JsonText) (json : grammar text = some r) (covered : Covered decimal r) :
    Agree (parseJson grammar text) (fromJson grammar decimal text) ↔ ReadAlike decimal r := by
  rw [(parseJson_accepts json).agree_iff (fromJson_accepts json covered.camel)]
  apply imp_congr_right
  intro _
  rw [intAmount]
  split
  · exact covered.amountsAlike_iff
  · exact samePositive_none

/-- A demand whose amount is a string. -/
def demandOf (amount : String) : JsonText :=
  .object [("payTo".toList, .string "service".toList),
    ("maxAmountRequired".toList, .string amount.toList)]

/-- The text of that demand. -/
def demandText (amount : String) : Text :=
  ("\x7b\"payTo\":\"service\",\"maxAmountRequired\":\"" ++ amount ++ "\"\x7d").toList

/-- A reader that knows this one text. -/
def readDemand (amount : String) (text : Text) : Option JsonText :=
  if text = demandText amount then some (demandOf amount) else none

theorem readDemand_text (amount : String) :
    readDemand amount (demandText amount) = some (demandOf amount) := if_pos rfl

theorem parseJson_demandOf {amount : String} {a : ℚ} (reads : number amount.toList = some a)
    (positive : 0 < a) :
    parseJson (readDemand amount) (demandText amount) = .ok ⟨"service".toList, a, none, none⟩ := by
  have read : (numericField (demandOf amount) "amountUsdc").or
      (numericField (demandOf amount) "maxAmountRequired") = number amount.toList := rfl
  rw [reads] at read
  exact (parseJson_eq_ok (readDemand_text amount)).mpr ⟨rfl, read, positive, rfl, rfl⟩

theorem denoted_ten : denoted "10".toList = some ((10 : ℤ) : ℚ) := by
  have reads : denoted "10".toList = some (((10 : ℕ) : ℚ) * 10 ^ ((0 : ℤ) - (0 : ℕ))) := rfl
  rw [reads]
  norm_num

theorem number_ten : number "10".toList = some ((10 : ℤ) : ℚ) := by
  rw [number, denoted_ten, Option.bind_some, nearest_intCast (by norm_num)]

theorem covered_demandOf {amount : String} {n : ℤ} (small : n < 2 ^ 53)
    (javascript : denoted amount.toList = some (n : ℚ))
    (python : int asciiDigits amount.toList = none ∨ int asciiDigits amount.toList = some n) :
    Covered asciiDigits (demandOf amount) := by
  have strings : ∀ key value, (demandOf amount).member key = some value →
      value = .string "service".toList ∨ value = .string amount.toList := by
    intro key value found
    obtain ⟨name, member⟩ := mem_of_member found
    rcases List.mem_cons.mp member with same | member
    · exact Or.inl (congrArg Prod.snd same)
    · exact Or.inr (congrArg Prod.snd (List.mem_singleton.mp member))
  -- The document has two members, so a field is one of two texts.
  refine ⟨rfl, ?_, ?_, ?_⟩
  · intro key numeral found
    rcases strings key _ found with same | same <;> cases same
  · intro key s q found reads
    rcases strings key _ found with same | same
    · obtain rfl := JsonText.string.inj same
      cases reads
    · obtain rfl := JsonText.string.inj same
      rw [javascript, Option.some.injEq] at reads
      rw [← reads]
      exact_mod_cast small
  · intro key s m found reads
    rcases strings key _ found with same | same
    · obtain rfl := JsonText.string.inj same
      cases reads
    · obtain rfl := JsonText.string.inj same
      rcases python with none | some
      · rw [none] at reads
        cases reads
      · rw [some, Option.some.injEq] at reads
        rw [← reads]
        exact small

/-- A demand of a whole number of micro-USDC is one that both accept. -/
theorem same_demand_whole :
    Agree (parseJson (readDemand "10") (demandText "10"))
      (fromJson (readDemand "10") asciiDigits (demandText "10")) := by
  have covered : Covered asciiDigits (demandOf "10") :=
    covered_demandOf (by norm_num) denoted_ten (Or.inr (by decide))
  refine (same_demand_iff _ asciiDigits _ (demandOf "10") (readDemand_text "10") covered).mpr
    (covered.readAlike rfl ?_)
  intro key
  rw [numericField, intField]
  cases found : (demandOf "10").member key with
  | none => rfl
  | some value =>
    obtain ⟨name, member⟩ := mem_of_member found
    rcases List.mem_cons.mp member with same | member
    · obtain rfl := congrArg Prod.snd same
      rfl
    · obtain rfl := congrArg Prod.snd (List.mem_singleton.mp member)
      dsimp only
      rw [number_ten]
      rfl

/-- `Number` takes a fraction of zeros, and `int` takes none. -/
theorem fraction_of_zeros_differs :
    ¬∀ (grammar : Text → Option JsonText) (decimal : DecimalDigits) (text : Text) (r : JsonText),
      grammar text = some r → Covered decimal r →
        Agree (parseJson grammar text) (fromJson grammar decimal text) := by
  intro claimed
  have denotes : denoted "10.0".toList = some ((10 : ℤ) : ℚ) := by
    have reads : denoted "10.0".toList = some (((100 : ℕ) : ℚ) * 10 ^ ((0 : ℤ) - (1 : ℕ))) := rfl
    rw [reads]
    norm_num
  have agree := claimed (readDemand "10.0") asciiDigits (demandText "10.0") (demandOf "10.0")
    (readDemand_text "10.0") (covered_demandOf (by norm_num) denotes (Or.inl (by decide)))
  have reads : number "10.0".toList = some ((10 : ℤ) : ℚ) := by
    rw [number, denotes, Option.bind_some, nearest_intCast (by norm_num)]
  have rejected : fromJson (readDemand "10.0") asciiDigits (demandText "10.0") =
      .error .missingPositiveAmount := by
    unfold fromJson
    rw [readDemand_text]
    rfl
  rw [parseJson_demandOf reads (by norm_num), rejected] at agree
  exact agree

end AgentFuel.Clients.PaymentDemand
