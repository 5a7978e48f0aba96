import AgentFuel.Library.Numerals
import AgentFuel.Reputation.State
import AgentFuel.Vault.State

/-!
# Errors of a payment

A payment transaction runs both programs, and their error numbers overlap. The Python SDK looks for
numbers in the text of a failure, the TypeScript SDK takes the number that Anchor gives.
-/
namespace AgentFuel.Clients.PayErrors

open Numerals Solana Vault Reputation

/-- Anchor numbers the errors of a program from 6000 on, in the order of their declaration. -/
def vaultNumber : VaultError → ℕ
  | .overflow => 6000
  | .zeroAmount => 6001
  | .frozen => 6002
  | .notWhitelisted => 6003
  | .perTxLimitExceeded => 6004
  | .hourlyLimitExceeded => 6005
  | .lifetimeLimitExceeded => 6006
  | .alreadyFrozen => 6007
  | .notFrozen => 6008
  | .postPayDisabled => 6009
  | .pendingSpendVaultMismatch => 6010
  | .pendingNonceOverflow => 6011

def reputationNumber : ReputationError → ℕ
  | .overflow => 6000
  | .serviceInactive => 6001
  | .zeroAmount => 6002
  | .selfRating => 6003
  | .receiptMismatch => 6004
  | .invalidFeedbackValue => 6005
  | .unauthorizedResponder => 6006
  | .alreadyHasResponse => 6007
  | .alreadyRevoked => 6008
  | .feedbackRateLimited => 6009
  | .unauthorizedService => 6010

/-- Why a payment transaction failed. -/
inductive Cause where
  | receiptExisted
  | creditVault (e : VaultError)
  | reputation (e : ReputationError)
  /-- Another program, or the runtime, with the number it gives. -/
  | other (number : Option ℕ)
  deriving DecidableEq

def Cause.number : Cause → Option ℕ
  | .receiptExisted => some 0
  | .creditVault e => some (vaultNumber e)
  | .reputation e => some (reputationNumber e)
  | .other number => number

inductive PayError (K : Type) where
  | receiptAlreadyRecorded (receiptHash : Hash)
  | serviceInactive (service : K)
  | recordPayment (message : String)
  | zeroAmount
  | vaultFrozen
  | notWhitelisted (service : K)
  | perTxLimitExceeded (attempted limit : ℕ)
  | hourlyLimitExceeded (attempted windowSpent limit : ℕ)
  | lifetimeLimitExceeded (attempted totalSpent limit : ℕ)
  /-- The failure as it came. -/
  | unmapped
  deriving DecidableEq

/-- The payment that was tried, and the accounts that it was checked against. -/
structure Context (K : Type) where
  service : K
  amountUsdc : ℕ
  receiptHash : Hash
  vault : CreditVault K
  policy : SpendPolicy K

variable {K : Type}

/-- What both SDKs make of a number of the vault program. -/
def spendError (ctx : Context K) (code : ℕ) : Option (PayError K) :=
  if code = 6001 then some .zeroAmount
  else if code = 6002 then some .vaultFrozen
  else if code = 6003 then some (.notWhitelisted ctx.service)
  else if code = 6004 then some (.perTxLimitExceeded ctx.amountUsdc ctx.policy.perTxLimitUsdc)
  else if code = 6005 then
    some (.hourlyLimitExceeded ctx.amountUsdc ctx.policy.hourlyWindowSpentUsdc ctx.policy.hourlyLimitUsdc)
  else if code = 6006 then
    some (.lifetimeLimitExceeded ctx.amountUsdc ctx.vault.totalSpent ctx.policy.lifetimeLimitUsdc)
  else none

/-- `_REP_SERVICE_INACTIVE`: not the number of the program's error. -/
def repServiceInactive : ℕ := 6011

/-- `_REP_COUNTER_OVERFLOW` -/
def repCounterOverflow : ℕ := 6000

/-- What both SDKs make of a number of the reputation program. -/
def recordError (ctx : Context K) (code : ℕ) : Option (PayError K) :=
  if code = repServiceInactive then some (.serviceInactive ctx.service)
  else if code = repCounterOverflow then some (.recordPayment "counter overflow on chain")
  else none

/-! ## Python -/

/-- What Python's texts take from Unicode; of ASCII it is fixed. -/
structure Unicode where
  decimal : DecimalDigits
  word : Char → Bool
  word_ascii : ∀ c, c.toNat < 128 → word c = (c.isAlphanum || c = '_')
  lower : Text → Text
  lower_ascii : ∀ text : Text, (∀ c ∈ text, c.toNat < 128) → lower text = text.map Char.toLower

variable (unicode : Unicode)

/-- `0x([0-9a-fA-F]+)` at the start of a text: the number, and how long the match is. -/
def hexMatch : Text → Option (ℕ × ℕ)
  | '0' :: 'x' :: text =>
    let hexPart := text.takeWhile fun c => (digit 16 c).isSome
    (someDigits 16 hexPart).map fun code => (code, hexPart.length + 2)
  | _ => none

/-- `\b` between two characters, or at an end of the text. -/
def isBoundary (before after : Option Char) : Bool := before.any unicode.word != after.any unicode.word

/-- `\b(\d{length})\b` at the start of a text. -/
def decimalMatch (length : ℕ) (before : Option Char) (text : Text) : Option (ℕ × ℕ) :=
  let decPart := text.take length
  if decPart.length = length ∧ isBoundary unicode before decPart.head? ∧
      isBoundary unicode decPart.getLast? (text.drop length).head? then
    (decPart.foldlM (fun read c => (unicode.decimal.value c).map (10 * read + ·)) 0).map (·, length)
  else none

/-- `_ERROR_CODE_RE` at a place in a text: hexadecimal first, then the longer decimal. -/
def matchAt (before : Option Char) (text : Text) : Option (ℕ × ℕ) :=
  (hexMatch text).or ((decimalMatch unicode 5 before text).or (decimalMatch unicode 4 before text))

/-- The matches from left to right, `skip` characters of the last one being left. -/
def finditer : Option Char → ℕ → Text → List ℕ
  | _, _, [] => []
  | _, skip + 1, c :: text => finditer (some c) skip text
  | before, 0, c :: text =>
    match matchAt unicode before (c :: text) with
    | some (code, length) => code :: finditer (some c) (length - 1) text
    | none => finditer (some c) 0 text

def extractErrorCodes (message : Text) : List ℕ := finditer unicode none 0 message

/-- One of `_RECEIPT_REUSE_MARKERS` is in the message. -/
def hasReuseMarker (message : Text) : Bool :=
  ["already in use".toList, "0x0".toList].any fun marker => marker <:+: unicode.lower message

def mapSpendError (ctx : Context K) (message : Text) : PayError K :=
  ((extractErrorCodes unicode message).findSome? (spendError ctx)).getD .unmapped

def mapPayError (ctx : Context K) (message : Text) : PayError K :=
  if hasReuseMarker unicode message = true then .receiptAlreadyRecorded ctx.receiptHash
  else ((extractErrorCodes unicode message).findSome? (recordError ctx)).getD
    (mapSpendError unicode ctx message)

/-! ## TypeScript -/

/-- What was thrown: its message, and the number if it is an `AnchorError`. -/
structure Thrown where
  message : Text
  errorCode : Option ℕ

/-- `/already in use/i` -/
def isAlreadyInUse (message : Text) : Bool := "already in use".toList <:+: message.map Char.toLower

/-- The `mapPayError` of TypeScript. -/
def mapThrown (ctx : Context K) (err : Thrown) : PayError K :=
  if isAlreadyInUse err.message = true then .receiptAlreadyRecorded ctx.receiptHash
  else match err.errorCode with
    | none => .unmapped
    | some number => ((spendError ctx number).or (recordError ctx number)).getD .unmapped

/-! ## The real cause -/

/-- The error of the vault program that a typed error stands for. -/
def PayError.vaultError : PayError K → Option VaultError
  | .zeroAmount => some .zeroAmount
  | .vaultFrozen => some .frozen
  | .notWhitelisted _ => some .notWhitelisted
  | .perTxLimitExceeded _ _ => some .perTxLimitExceeded
  | .hourlyLimitExceeded _ _ _ => some .hourlyLimitExceeded
  | .lifetimeLimitExceeded _ _ _ => some .lifetimeLimitExceeded
  | _ => none

/-- A typed error names the cause of the failure. -/
structure NamesCause (cause : Cause) (e : PayError K) : Prop where
  receipt : ∀ hash, e = .receiptAlreadyRecorded hash → cause = .receiptExisted
  inactive : (∃ service, e = .serviceInactive service) ↔ cause = .reputation .serviceInactive
  vault : ∀ v, e.vaultError = some v → cause = .creditVault v

variable {unicode} {cause : Cause} {e : PayError K} {v : VaultError} {ctx : Context K} {message : Text}

theorem namesCause_receipt {hash : Hash} :
    NamesCause cause (.receiptAlreadyRecorded hash : PayError K) ↔ cause = .receiptExisted := by
  constructor
  · exact fun names => names.receipt hash rfl
  · rintro rfl
    exact ⟨fun _ _ => rfl, iff_of_false nofun nofun, nofun⟩

theorem namesCause_inactive {service : K} :
    NamesCause cause (.serviceInactive service) ↔ cause = .reputation .serviceInactive := by
  constructor
  · exact fun names => names.inactive.mp ⟨service, rfl⟩
  · rintro rfl
    exact ⟨nofun, iff_of_true ⟨service, rfl⟩ rfl, nofun⟩

/-- An error that names nothing is right unless the service was inactive. -/
theorem namesCause_unnamed (unnamed : e = .unmapped ∨ ∃ text, e = .recordPayment text) :
    NamesCause cause e ↔ cause ≠ .reputation .serviceInactive := by
  rcases unnamed with rfl | ⟨text, rfl⟩
  all_goals
    constructor
    · intro names inactive
      obtain ⟨service, same⟩ := names.inactive.mpr inactive
      cases same
    · exact fun other => ⟨nofun, iff_of_false nofun other, nofun⟩

theorem namesCause_vault (named : e.vaultError = some v) :
    NamesCause cause e ↔ cause = .creditVault v := by
  constructor
  · exact fun names => names.vault v named
  · rintro rfl
    refine ⟨?_, iff_of_false ?_ nofun, ?_⟩
    · rintro hash rfl
      cases named
    · rintro ⟨service, rfl⟩
      cases named
    · intro other also
      rw [Option.some.inj (named.symm.trans also)]

theorem vaultNumber_injective : Function.Injective vaultNumber := by
  intro v v' same
  cases v <;> cases v' <;> first | rfl | cases same

/-- A number that `spendError` knows is that of the vault error that it names. -/
theorem vaultError_of_spendError {code : ℕ} (known : spendError ctx code = some e) :
    ∃ v, e.vaultError = some v ∧ vaultNumber v = code := by
  unfold spendError at known
  split_ifs at known with h1 h2 h3 h4 h5 h6 <;> cases known
  · exact ⟨.zeroAmount, rfl, h1.symm⟩
  · exact ⟨.frozen, rfl, h2.symm⟩
  · exact ⟨.notWhitelisted, rfl, h3.symm⟩
  · exact ⟨.perTxLimitExceeded, rfl, h4.symm⟩
  · exact ⟨.hourlyLimitExceeded, rfl, h5.symm⟩
  · exact ⟨.lifetimeLimitExceeded, rfl, h6.symm⟩

def isSpendNumber (code : ℕ) : Bool := 6001 ≤ code && code ≤ 6006

def isRecordNumber (code : ℕ) : Bool := code = repServiceInactive || code = repCounterOverflow

theorem spendError_isSome (code : ℕ) : (spendError ctx code).isSome = isSpendNumber code := by
  unfold spendError isSpendNumber
  split_ifs with h1 h2 h3 h4 h5 h6
  case neg =>
    rw [Option.isSome_none, Eq.comm, Bool.and_eq_false_iff, decide_eq_false_iff_not,
      decide_eq_false_iff_not]
    omega
  all_goals
    subst_vars
    rfl

theorem recordError_isSome (code : ℕ) : (recordError ctx code).isSome = isRecordNumber code := by
  unfold recordError isRecordNumber
  split_ifs with h1 h2
  · rw [decide_eq_true h1]
    rfl
  · rw [decide_eq_true h2, Bool.or_true]
    rfl
  · rw [decide_eq_false h1, decide_eq_false h2]
    rfl

/-- The first value of a partial function is its value at the first place where it has one. -/
theorem findSome?_eq_bind {A C : Type} {f : A → Option C} {p : A → Bool}
    (domain : ∀ a, (f a).isSome = p a) (l : List A) : l.findSome? f = (l.find? p).bind f := by
  induction l with
  | nil => rfl
  | cons a l ih =>
    rw [List.findSome?_cons, List.find?_cons, ← domain a]
    cases value : f a with
    | some c => exact value.symm
    | none => exact ih

/-! ## Which texts name the cause -/

/-- The first number of a text that `mapPayError` takes for one of the reputation program. -/
def firstRecordNumber (unicode : Unicode) (message : Text) : Option ℕ :=
  (extractErrorCodes unicode message).find? isRecordNumber

/-- The first number of a text that `mapSpendError` takes for one of the vault program. -/
def firstSpendNumber (unicode : Unicode) (message : Text) : Option ℕ :=
  (extractErrorCodes unicode message).find? isSpendNumber

/-- The texts from which the Python SDK does not conclude on another cause. -/
def TextNames (unicode : Unicode) (message : Text) : Cause → Prop
  | .receiptExisted => hasReuseMarker unicode message = true ∨
      firstRecordNumber unicode message = some 6000 ∨
      (firstRecordNumber unicode message = none ∧ firstSpendNumber unicode message = none)
  | .reputation .serviceInactive => hasReuseMarker unicode message = false ∧
      firstRecordNumber unicode message = some 6011
  | .creditVault v => hasReuseMarker unicode message = false ∧
      (firstRecordNumber unicode message = some 6000 ∨
      (firstRecordNumber unicode message = none ∧
        ∀ number, firstSpendNumber unicode message = some number → number = vaultNumber v))
  | _ => hasReuseMarker unicode message = false ∧
      (firstRecordNumber unicode message = some 6000 ∨
      (firstRecordNumber unicode message = none ∧ firstSpendNumber unicode message = none))

/-- What the Python SDK returns names the cause exactly for those texts. -/
theorem mapPayError_names_iff :
    NamesCause cause (mapPayError unicode ctx message) ↔ TextNames unicode message cause := by
  unfold mapPayError
  by_cases marked : hasReuseMarker unicode message = true
  · -- A marker decides before any number.
    rw [if_pos marked, namesCause_receipt]
    cases cause with
    | reputation e => cases e <;> simp [TextNames, marked]
    | _ => simp [TextNames, marked]
  rw [if_neg marked, findSome?_eq_bind recordError_isSome]
  have unmarked := Bool.eq_false_iff.mpr marked
  cases record : firstRecordNumber unicode message with
  | some number =>
    rw [firstRecordNumber] at record
    rw [record, Option.bind_some]
    have known := List.find?_some record
    rw [isRecordNumber, Bool.or_eq_true, decide_eq_true_eq, decide_eq_true_eq] at known
    rcases known with rfl | rfl
    · -- The number that is taken for an inactive service.
      have first : firstRecordNumber unicode message = some 6011 := record
      have read : recordError ctx repServiceInactive = some (.serviceInactive ctx.service) := rfl
      rw [read, Option.getD_some, namesCause_inactive]
      cases cause with
      | reputation e => cases e <;> simp [TextNames, unmarked, first]
      | _ => simp [TextNames, marked, first]
    · -- An overflow, of which the claim of a typed error is silent.
      have first : firstRecordNumber unicode message = some 6000 := record
      have read : recordError ctx repCounterOverflow =
        some (.recordPayment "counter overflow on chain") := rfl
      rw [read, Option.getD_some, namesCause_unnamed (Or.inr ⟨_, rfl⟩)]
      cases cause with
      | reputation e => cases e <;> simp [TextNames, unmarked, first]
      | _ => simp [TextNames, unmarked, first]
  | none =>
    -- Now the numbers of the vault program decide.
    have first := record
    rw [firstRecordNumber] at record
    rw [record, Option.bind_none, Option.getD_none, mapSpendError,
      findSome?_eq_bind spendError_isSome]
    cases spend : firstSpendNumber unicode message with
    | none =>
      have second := spend
      rw [firstSpendNumber] at spend
      rw [spend, Option.bind_none, Option.getD_none, namesCause_unnamed (Or.inl rfl)]
      cases cause with
      | reputation e => cases e <;> simp [TextNames, unmarked, first, second]
      | _ => simp [TextNames, unmarked, first, second]
    | some number =>
      have second := spend
      rw [firstSpendNumber] at spend
      have known : (spendError ctx number).isSome = true := by
        rw [spendError_isSome]
        exact List.find?_some spend
      obtain ⟨e, read⟩ := Option.isSome_iff_exists.mp known
      obtain ⟨v, named, rfl⟩ := vaultError_of_spendError read
      rw [spend, Option.bind_some, read, Option.getD_some, namesCause_vault named]
      cases cause with
      | reputation e => cases e <;> simp [TextNames, unmarked, first, second]
      | creditVault v' =>
        simp [TextNames, unmarked, first, second, vaultNumber_injective.eq_iff, eq_comm]
      | _ => simp [TextNames, unmarked, first, second]

/-- What was thrown carries the number of its cause, if it carries one. -/
def Thrown.Describes (err : Thrown) (cause : Cause) : Prop :=
  ∀ number, err.errorCode = some number → cause.number = some number

/-- The failures from which the TypeScript SDK does not conclude on another cause. -/
def NumberNames (err : Thrown) (cause : Cause) : Prop :=
  if isAlreadyInUse err.message = true then cause = .receiptExisted
  else match err.errorCode with
    | none => cause ≠ .reputation .serviceInactive
    | some number => number ≠ 6011 ∧ (isSpendNumber number = true → ∃ v, cause = .creditVault v)

/-- What the TypeScript SDK throws names the cause exactly for those failures. -/
theorem mapThrown_names_iff {err : Thrown} (describes : err.Describes cause) :
    NamesCause cause (mapThrown ctx err) ↔ NumberNames err cause := by
  unfold mapThrown NumberNames
  by_cases marked : isAlreadyInUse err.message = true
  · rw [if_pos marked, if_pos marked]
    exact namesCause_receipt
  rw [if_neg marked, if_neg marked]
  cases code : err.errorCode with
  | none => exact namesCause_unnamed (Or.inl rfl)
  | some number =>
    have carried := describes number code
    dsimp only
    by_cases spend : isSpendNumber number = true
    · have known : (spendError ctx number).isSome = true := (spendError_isSome number).trans spend
      obtain ⟨e, read⟩ := Option.isSome_iff_exists.mp known
      obtain ⟨v, named, rfl⟩ := vaultError_of_spendError read
      rw [read, Option.some_or, Option.getD_some, namesCause_vault named]
      constructor
      · rintro rfl
        refine ⟨?_, fun _ => ⟨v, rfl⟩⟩
        intro large
        rw [large] at spend
        exact absurd spend (by decide)
      · rintro ⟨-, vault⟩
        obtain ⟨v', rfl⟩ := vault spend
        rw [vaultNumber_injective (Option.some.inj carried)]
    · have unknown : spendError ctx number = none := by
        rw [← Option.not_isSome_iff_eq_none, spendError_isSome]
        exact spend
      -- The number of an inactive service is one of those of the vault program.
      have inactive : cause ≠ .reputation .serviceInactive := by
        rintro rfl
        rw [← Option.some.inj carried] at spend
        exact spend rfl
      rw [unknown, Option.none_or, recordError]
      by_cases wrong : number = repServiceInactive
      · rw [if_pos wrong, Option.getD_some, namesCause_inactive]
        exact iff_of_false inactive fun names => names.1 wrong
      · rw [if_neg wrong]
        refine iff_of_true ?_ ⟨wrong, fun known => absurd known spend⟩
        split
        · exact (namesCause_unnamed (Or.inr ⟨_, rfl⟩)).mpr inactive
        · exact (namesCause_unnamed (Or.inl rfl)).mpr inactive

/-- The typed errors of both SDKs name the cause exactly where text and number lead to it. -/
theorem pay_error_names_cause_iff (unicode : Unicode) (ctx : Context K) (cause : Cause)
    (message : Text) (err : Thrown) (describes : err.Describes cause) :
    (NamesCause cause (mapPayError unicode ctx message) ↔ TextNames unicode message cause) ∧
      (NamesCause cause (mapThrown ctx err) ↔ NumberNames err cause) :=
  ⟨mapPayError_names_iff, mapThrown_names_iff describes⟩

/-- Unicode for texts of ASCII. -/
def asciiUnicode : Unicode where
  decimal := asciiDigits
  word c := c.isAlphanum || c = '_'
  word_ascii _ _ := rfl
  lower text := text.map Char.toLower
  lower_ascii _ _ := rfl

/-- Some payment of ten micro-USDC. -/
def tenPaid : Context Unit where
  service := ()
  amountUsdc := 10
  receiptHash := Vector.replicate 32 0
  vault :=
    { owner := ()
      agent := ()
      usdcMint := ()
      vaultTokenAccount := ()
      createdSlot := 0
      lastActiveSlot := 0
      bump := 255 }
  policy :=
    { vault := ()
      whitelist := Vector.replicate _ ()
      perTxLimitUsdc := 10
      hourlyLimitUsdc := 100
      lifetimeLimitUsdc := 1000
      allowPostPay := false
      bump := 255 }

/-- A frozen vault is named as such by both SDKs. -/
theorem pay_error_names_frozen :
    NamesCause (.creditVault .frozen) (mapPayError asciiUnicode tenPaid "Error Number: 6002".toList) ∧
      NamesCause (.creditVault .frozen) (mapThrown tenPaid ⟨"Error Number: 6002".toList, some 6002⟩) := by
  have names := pay_error_names_cause_iff asciiUnicode tenPaid (.creditVault .frozen)
    "Error Number: 6002".toList ⟨"Error Number: 6002".toList, some 6002⟩ (fun _ same => same)
  have spent : firstSpendNumber asciiUnicode "Error Number: 6002".toList = some 6002 := by decide
  refine ⟨names.1.mpr ⟨by decide, Or.inr ⟨by decide, ?_⟩⟩, names.2.mpr ?_⟩
  · intro number first
    exact Option.some.inj (first.symm.trans spent)
  · rw [NumberNames, if_neg (by decide)]
    exact ⟨by decide, fun _ => ⟨.frozen, rfl⟩⟩

/-- An inactive service is taken for an amount of zero. -/
theorem inactive_named_zero_amount :
    ¬∀ (unicode : Unicode) (ctx : Context Unit) (cause : Cause) (message : Text) (err : Thrown),
      err.Describes cause → NamesCause cause (mapPayError unicode ctx message) ∧
        NamesCause cause (mapThrown ctx err) := by
  intro claimed
  have names := claimed asciiUnicode tenPaid (.reputation .serviceInactive)
    "custom program error: 0x1771".toList ⟨"custom program error: 0x1771".toList, some 6001⟩
    (fun _ same => same)
  have mapped : mapPayError asciiUnicode tenPaid "custom program error: 0x1771".toList = .zeroAmount := by
    decide
  have cause := names.1.vault .zeroAmount (by rw [mapped]; rfl)
  cases cause

end AgentFuel.Clients.PayErrors
