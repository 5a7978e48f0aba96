import Mathlib.Algebra.Order.Floor.Semiring
import Mathlib.Data.Rat.Floor
import AgentFuel.Library.Numbers
import AgentFuel.Library.Register
import AgentFuel.Vault.Reports
import AgentFuel.Vault.Runs

/-!
# Partial updates of a policy

`update_policy` replaces all terms of a policy. The console makes a partial update of it: it reads
the policy, puts what was asked for over what it has read, and sends all of it. What it has read may
be out of date when its transaction lands.
-/
namespace AgentFuel.Clients

open Checked Numbers Register Solana Vault

variable {K : Type} [DecidableEq K] [AddressSpace K]

/-- A number of JavaScript. -/
inductive JsNumber where
  | finite (q : ℚ)
  | infinite (negative : Bool)
  | nan
  deriving DecidableEq

/-- `Number(bn)` -/
def JsNumber.ofBN (n : ℕ) : JsNumber := .finite (double n)

/-! ### The console -/

namespace Web

structure UpdatePolicyArgs (K : Type) [AddressSpace K] where
  owner : Signer K
  agent : K
  perTxUsdcMicro : Option JsNumber
  hourlyUsdcMicro : Option JsNumber
  lifetimeUsdcMicro : Option JsNumber
  allowPostPay : Option Bool
  whitelist : Option (List K)

def padWhitelist (entries : List K) (size : ℕ) : List K :=
  let out := entries.take size
  out ++ List.replicate (size - out.length) defaultKey

omit [DecidableEq K] in
theorem padWhitelist_length (entries : List K) (size : ℕ) :
    (padWhitelist entries size).length = size := by
  simp only [padWhitelist, List.length_append, List.length_take, List.length_replicate]
  omega

omit [DecidableEq K] in
/-- What fits is padded, and only that is kept whole. -/
theorem padWhitelist_eq_iff (entries : List K) (size : ℕ) :
    padWhitelist entries size = entries ++ List.replicate (size - entries.length) defaultKey ↔
      entries.length ≤ size := by
  constructor
  · intro whole
    have length := congrArg List.length whole
    rw [padWhitelist_length, List.length_append] at length
    omega
  · intro fits
    rw [padWhitelist, List.take_of_length_le fits]

omit [DecidableEq K] in
theorem padWhitelist_self {size : ℕ} (entries : Vector K size) :
    padWhitelist entries.toList size = entries.toList := by
  have fits : entries.toList.length ≤ size := by rw [Vector.length_toList]
  rw [(padWhitelist_eq_iff _ _).mpr fits, Vector.length_toList, Nat.sub_self, List.replicate_zero,
    List.append_nil]

def UpdatePolicyArgs.vault (args : UpdatePolicyArgs K) : K :=
  findProgramAddress (.vault args.owner.key args.agent)

section Console

-- What Anchor writes into the eight bytes of an argument for `new BN(x)`, if nothing throws.
variable (toU64 : JsNumber → Option ℕ)

/-- The instruction `updatePolicy` sends, given the policy it has read. -/
def updatePolicy (args : UpdatePolicyArgs K) (current : SpendPolicy K) :
    Option (Instruction K) := do
  -- What was omitted is sent as it was read.
  let newPerTx ← toU64 (args.perTxUsdcMicro.getD (.ofBN current.perTxLimitUsdc))
  let newHourly ← toU64 (args.hourlyUsdcMicro.getD (.ofBN current.hourlyLimitUsdc))
  let newLifetime ← toU64 (args.lifetimeUsdcMicro.getD (.ofBN current.lifetimeLimitUsdc))
  let newAllowPostPay := args.allowPostPay.getD current.allowPostPay
  let newWhitelist := padWhitelist (args.whitelist.getD current.whitelist.toList) whitelistLen
  some (.updatePolicy ⟨args.owner, args.vault, policyAddress args.vault⟩ newPerTx newHourly
    newLifetime newAllowPostPay ⟨newWhitelist.toArray, padWhitelist_length _ _⟩)

end Console

/-! ### What was asked for -/

/-- A limit is kept when it was omitted, and is the number that was supplied. -/
def LimitAsked (asked : Option JsNumber) (before after : ℕ) : Prop :=
  match asked with
  | none => after = before
  | some x => x = .finite after

/-- The transaction has done what was asked for, and nothing else. -/
structure Asked (args : UpdatePolicyArgs K) (before after : SpendPolicy K) : Prop where
  perTx : LimitAsked args.perTxUsdcMicro before.perTxLimitUsdc after.perTxLimitUsdc
  hourly : LimitAsked args.hourlyUsdcMicro before.hourlyLimitUsdc after.hourlyLimitUsdc
  lifetime : LimitAsked args.lifetimeUsdcMicro before.lifetimeLimitUsdc after.lifetimeLimitUsdc
  allowPostPay : after.allowPostPay = args.allowPostPay.getD before.allowPostPay
  omitted : args.whitelist = none → after.whitelist = before.whitelist
  supplied : ∀ entries, args.whitelist = some entries →
    after.whitelist.toList =
      entries ++ List.replicate (whitelistLen - entries.length) defaultKey
  undropped : ∀ entries, args.whitelist = some entries → ∀ entry ∈ entries,
    entry ∈ after.whitelist.toList
  rest : after.vault = before.vault ∧ after.bump = before.bump ∧
    after.hourlyWindowStartSlot = before.hourlyWindowStartSlot ∧
    after.hourlyWindowSpentUsdc = before.hourlyWindowSpentUsdc

/-- The terms an action writes for a vault. -/
def newTerms (v : K) : Action K → Option (Terms K)
  | .program (.updatePolicy ctx perTx hourly lifetime allowPostPay whitelist) =>
    if ctx.vault = v then some ⟨perTx, hourly, lifetime, allowPostPay, whitelist⟩ else none
  | _ => none

/-- The terms the last update of a vault in a run has written. -/
def lastTerms (v : K) (log : List (Step K)) : Option (Terms K) :=
  last (fun e : Step K => newTerms v e.act) log

/-- The last update in between, if any, has left the field at the value that was read. -/
def Unmoved {β : Type} (v : K) (log : List (Step K)) (field : Terms K → β) (read : β) : Prop :=
  ∀ terms, lastTerms v log = some terms → field terms = read

/-- A limit that was omitted has not moved since it was read; one that was supplied is a whole
number and not negative. -/
def LimitSound (v : K) (log : List (Step K)) (asked : Option JsNumber) (field : Terms K → ℕ)
    (read : ℕ) : Prop :=
  match asked with
  | none => Unmoved v log field read
  | some x => ∃ n : ℕ, x = .finite n

structure Sound (args : UpdatePolicyArgs K) (read : SpendPolicy K) (log : List (Step K)) :
    Prop where
  perTx : LimitSound args.vault log args.perTxUsdcMicro Terms.perTxLimitUsdc read.perTxLimitUsdc
  hourly : LimitSound args.vault log args.hourlyUsdcMicro Terms.hourlyLimitUsdc read.hourlyLimitUsdc
  lifetime : LimitSound args.vault log args.lifetimeUsdcMicro Terms.lifetimeLimitUsdc
    read.lifetimeLimitUsdc
  allowPostPay : args.allowPostPay = none →
    Unmoved args.vault log Terms.allowPostPay read.allowPostPay
  omitted : args.whitelist = none → Unmoved args.vault log Terms.whitelist read.whitelist
  supplied : ∀ entries, args.whitelist = some entries → entries.length ≤ whitelistLen

/-! ### The policy between the reading and the writing -/

section Runs

variable {w w₀ w₁ w₂ : World K} {v : K} {s s' : VaultView K} {log : List (Step K)}

theorem newTerms_other {act : Action K} (elsewhere : act.vault ≠ some v) :
    newTerms v act = none := by
  unfold newTerms
  split
  next ctx _ _ _ _ _ =>
    have other : ctx.vault ≠ v := fun same => elsewhere (congrArg some same)
    rw [if_neg other]
  · rfl

/-- An update of the vault sets its terms; spending keeps them. -/
theorem newTerms_step {act : Action K} (move : VaultStep w v s act s') :
    s'.policy.terms = (newTerms v act).getD s.policy.terms := by
  cases move with
  | policyUpdated ctx perTx hourly lifetime allowPostPay whitelist named =>
    rw [newTerms, if_pos named]
    rfl
  | other act x elsewhere =>
    rw [newTerms_other elsewhere]
    rfl
  | spent | claimed => exact SpendPolicy.charged_terms _ _ _
  | _ => rfl

/-- The terms are those of the last update, or else those that were there before. -/
theorem terms_of_run (wf : WellFormed w₀) (shows : Shows w₀ v s) (run : Run w₀ log w₁) :
    ∃ s', Shows w₁ v s' ∧ s'.policy.terms = (lastTerms v log).getD s.policy.terms := by
  refine Run.view_induction
    (P := fun log s' => s'.policy.terms = (lastTerms v log).getD s.policy.terms) wf shows ?_ ?_ run
    (fun _ _ => trivial : ∀ e ∈ log, True)
  · rfl
  -- The step is the last update, or leaves the terms that the run before it has left.
  · intro log e t t' _ _ _ move _ _ _ held
    rw [newTerms_step move, lastTerms, last_snoc, ← lastTerms, held]
    cases newTerms v e.act <;> simp

omit [DecidableEq K] in
/-- A policy that is there is part of a view. -/
theorem shows_of_policy (wf : WellFormed w) {policy : SpendPolicy K}
    (found : w.policies (policyAddress v) = some policy) :
    ∃ s, Shows w v s ∧ s.policy = policy := by
  obtain ⟨address, present⟩ := wf.policies _ _ found
  obtain rfl : v = policy.vault := (policyAddress_inj _ _).mp address
  obtain ⟨vault, loaded⟩ := Option.ne_none_iff_exists'.mp present
  obtain ⟨s, shows, -⟩ := wf.shows_vault loaded
  exact ⟨s, shows, Option.some.inj (shows.policy.symm.trans found)⟩

/-- What the landing transaction leaves of the policy. -/
theorem landed_policy (wf : WellFormed w₁) {owner : Signer K} {perTx hourly lifetime : ℕ}
    {allowPostPay : Bool} {whitelist : Vector K whitelistLen} {before after : SpendPolicy K}
    (landed : step w₁ (.program (.updatePolicy ⟨owner, v, policyAddress v⟩ perTx hourly lifetime
      allowPostPay whitelist)) = .ok w₂)
    (found : w₁.policies (policyAddress v) = some before)
    (left : w₂.policies (policyAddress v) = some after) :
    after = { before with
      perTxLimitUsdc := perTx
      hourlyLimitUsdc := hourly
      lifetimeLimitUsdc := lifetime
      allowPostPay := allowPostPay
      whitelist := whitelist } := by
  obtain ⟨policy, held, stored⟩ := updatePolicy_stores wf landed
  obtain rfl : policy = before := Option.some.inj (held.symm.trans found)
  exact Option.some.inj (left.symm.trans stored)

end Runs

/-! ### When an update does what was asked for -/

/-- Whole numbers below the limit are written as they are, and larger ones throw. -/
structure Encodes (toU64 : JsNumber → Option ℕ) : Prop where
  whole : ∀ n : ℕ, n < 2 ^ 53 → toU64 (.finite n) = some n
  large : ∀ q : ℚ, 2 ^ 53 ≤ q → toU64 (.finite q) = none

section Updates

variable {toU64 : JsNumber → Option ℕ}

theorem Encodes.natCast (encodes : Encodes toU64) {n m : ℕ}
    (sent : toU64 (.finite n) = some m) : m = n := by
  rcases Nat.lt_or_ge n (2 ^ 53) with small | large
  · rw [encodes.whole n small] at sent
    exact (Option.some.inj sent).symm
  · rw [encodes.large n (by exact_mod_cast large)] at sent
    cases sent

theorem Encodes.ofBN_small (encodes : Encodes toU64) {n : ℕ} (small : n < 2 ^ 53) :
    toU64 (.ofBN n) = some n := by
  have exact : double (n : ℤ) = n := double_eq (by omega) (by exact_mod_cast small)
  rw [JsNumber.ofBN, exact, Int.cast_natCast]
  exact encodes.whole n small

/-- A limit that was read is sent as it is, or not at all: what rounding could change throws. -/
theorem Encodes.ofBN (encodes : Encodes toU64) {n m : ℕ} (sent : toU64 (.ofBN n) = some m) :
    m = n := by
  rcases Nat.lt_or_ge n (2 ^ 53) with small | large
  · rw [encodes.ofBN_small small] at sent
    exact (Option.some.inj sent).symm
  · have rounded : (2 : ℚ) ^ 53 ≤ double (n : ℤ) := by
      exact_mod_cast le_double (n := (n : ℤ)) (by exact_mod_cast large)
    rw [JsNumber.ofBN, encodes.large _ rounded] at sent
    cases sent

variable {v : K} {log : List (Step K)} {before read : Terms K}

theorem unmoved_iff {β : Type} (held : before = (lastTerms v log).getD read)
    (field : Terms K → β) : field read = field before ↔ Unmoved v log field (field read) := by
  rw [held, Unmoved]
  cases lastTerms v log <;> simp [eq_comm]

theorem unmoved_of_none {β : Type} {field : Terms K → β} {read : β}
    (unwritten : lastTerms v log = none) : Unmoved v log field read := by
  intro terms wrote
  rw [unwritten] at wrote
  cases wrote

theorem limit_iff (encodes : Encodes toU64) (held : before = (lastTerms v log).getD read)
    (field : Terms K → ℕ) {asked : Option JsNumber} {after : ℕ}
    (sent : toU64 (asked.getD (.ofBN (field read))) = some after) :
    LimitAsked asked (field before) after ↔ LimitSound v log asked field (field read) := by
  cases asked with
  | none =>
    -- What is sent is what was read, and that is what was there before if it has not moved.
    rw [LimitAsked, LimitSound, encodes.ofBN sent]
    exact unmoved_iff held field
  | some x =>
    constructor
    -- The program stores a natural number, so only such a number is stored as it was supplied.
    · intro same
      exact ⟨after, same⟩
    · rintro ⟨n, rfl⟩
      rw [LimitAsked, encodes.natCast sent]

omit [DecidableEq K] in
/-- Every supplied entry is there when there is room for all of them, and only then is the list
exactly the supplied one. -/
theorem whitelist_iff (entries : List K) :
    (padWhitelist entries whitelistLen =
        entries ++ List.replicate (whitelistLen - entries.length) defaultKey ∧
      ∀ entry ∈ entries, entry ∈ padWhitelist entries whitelistLen) ↔
      entries.length ≤ whitelistLen := by
  constructor
  · rintro ⟨whole, -⟩
    exact (padWhitelist_eq_iff _ _).mp whole
  · intro fits
    have whole := (padWhitelist_eq_iff entries whitelistLen).mpr fits
    refine ⟨whole, fun entry member => ?_⟩
    rw [whole]
    exact List.mem_append_left _ member

variable {w₀ w₁ w₂ : World K} {args : UpdatePolicyArgs K} {ix : Instruction K}
  {current found left : SpendPolicy K}

/-- In every run between the reading and the landing, the transaction does what was asked for if and
only if no field that was omitted has moved meanwhile, the numbers that were supplied are whole and
not negative, and the whitelist that was supplied has room. -/
theorem update_policy_iff (encodes : Encodes toU64) (reachable : Reachable w₀)
    (fetched : w₀.policies (policyAddress args.vault) = some current)
    (sent : updatePolicy toU64 args current = some ix) (run : Run w₀ log w₁)
    (landed : step w₁ (.program ix) = .ok w₂)
    (before : w₁.policies (policyAddress args.vault) = some found)
    (after : w₂.policies (policyAddress args.vault) = some left) :
    Asked args found left ↔ Sound args current log := by
  simp only [updatePolicy, Option.bind_eq_bind, Option.bind_eq_some_iff, Option.some.injEq] at sent
  obtain ⟨perTx, sentPerTx, hourly, sentHourly, lifetime, sentLifetime, rfl⟩ := sent
  have wf := reachable.wellFormed
  have left_eq := landed_policy (run.wellFormed wf) landed before after
  -- The policy before the landing has the terms of the last update in between.
  obtain ⟨s, shows, rfl⟩ := shows_of_policy wf fetched
  obtain ⟨s', shows', held⟩ := terms_of_run wf shows run
  obtain rfl : s'.policy = found := Option.some.inj (shows'.policy.symm.trans before)
  have perTx_iff := limit_iff encodes held Terms.perTxLimitUsdc sentPerTx
  have hourly_iff := limit_iff encodes held Terms.hourlyLimitUsdc sentHourly
  have lifetime_iff := limit_iff encodes held Terms.lifetimeLimitUsdc sentLifetime
  have allowed_iff := unmoved_iff held Terms.allowPostPay
  have listed_iff := unmoved_iff held Terms.whitelist
  -- The whitelist, as it was read or supplied.
  have entries_eq : left.whitelist.toList =
      padWhitelist (args.whitelist.getD s.policy.whitelist.toList) whitelistLen := by
    rw [left_eq, Vector.toList_mk, List.toList_toArray]
  have kept : args.whitelist = none → left.whitelist = s.policy.whitelist := by
    intro omitted
    rw [← Vector.toList_inj, entries_eq, omitted, Option.getD_none, padWhitelist_self]
  have replaced : ∀ entries, args.whitelist = some entries →
      left.whitelist.toList = padWhitelist entries whitelistLen := by
    intro entries supplied
    rw [entries_eq, supplied, Option.getD_some]
  have left_perTx : left.perTxLimitUsdc = perTx := congrArg _ left_eq
  have left_hourly : left.hourlyLimitUsdc = hourly := congrArg _ left_eq
  have left_lifetime : left.lifetimeLimitUsdc = lifetime := congrArg _ left_eq
  have left_allowed : left.allowPostPay = args.allowPostPay.getD s.policy.allowPostPay :=
    congrArg _ left_eq
  constructor
  · intro asked
    constructor
    · exact perTx_iff.mp (left_perTx ▸ asked.perTx)
    · exact hourly_iff.mp (left_hourly ▸ asked.hourly)
    · exact lifetime_iff.mp (left_lifetime ▸ asked.lifetime)
    · intro omitted
      have same := left_allowed.symm.trans asked.allowPostPay
      rw [omitted, Option.getD_none, Option.getD_none] at same
      exact allowed_iff.mp same
    · intro omitted
      exact listed_iff.mp ((kept omitted).symm.trans (asked.omitted omitted))
    · intro entries supplied
      have whole := (replaced entries supplied).symm.trans (asked.supplied entries supplied)
      exact (padWhitelist_eq_iff _ _).mp whole
  · intro sound
    constructor
    · exact left_perTx ▸ perTx_iff.mpr sound.perTx
    · exact left_hourly ▸ hourly_iff.mpr sound.hourly
    · exact left_lifetime ▸ lifetime_iff.mpr sound.lifetime
    · rw [left_allowed]
      cases omitted : args.allowPostPay with
      | none => exact allowed_iff.mpr (sound.allowPostPay omitted)
      | some allowed => rfl
    · intro omitted
      exact (kept omitted).trans (listed_iff.mpr (sound.omitted omitted))
    · intro entries supplied
      rw [replaced entries supplied]
      exact ((whitelist_iff entries).mpr (sound.supplied entries supplied)).1
    · intro entries supplied
      rw [replaced entries supplied]
      exact ((whitelist_iff entries).mpr (sound.supplied entries supplied)).2
    · rw [left_eq]
      exact ⟨rfl, rfl, rfl, rfl⟩

/-! ### A stale update -/

/-- `new BN(x)` drops what is after the point and throws from 2^53 on; the eight bytes do not have
the sign. -/
def bnU64 : JsNumber → Option ℕ
  | .finite q => if |q| < 2 ^ 53 then some ⌊|q|⌋₊ else none
  | .infinite _ => none
  -- `NaN` is falsy, and `number || 0` is what is read.
  | .nan => some 0

theorem bnU64_encodes : Encodes bnU64 where
  whole n small := by
    have below : |(n : ℚ)| < 2 ^ 53 := by
      rw [Nat.abs_cast]
      exact_mod_cast small
    rw [bnU64, if_pos below, Nat.abs_cast, Nat.floor_natCast]
  large q large := by
    have above : ¬|q| < 2 ^ 53 := not_lt.mpr (large.trans (le_abs_self q))
    rw [bnU64, if_neg above]

/-- Only the limit of one payment is to change. -/
def raised : UpdatePolicyArgs SymbolicKey :=
  ⟨Market.owner, Market.agent.key, some (.finite 7), none, none, none, none⟩

/-- What is sent for a policy whose other limits are 10 and 100. -/
def raise : Instruction SymbolicKey :=
  .updatePolicy ⟨Market.owner, Market.vault, Market.policy⟩ 7 10 100 true
    (Vector.replicate whitelistLen defaultKey)

theorem raised_sent : ∃ current,
    (Market.after [Market.create 5 10 100 true]).policies Market.policy = some current ∧
      updatePolicy bnU64 raised current = some raise := by
  refine ⟨_, rfl, ?_⟩
  have seven : bnU64 (.finite 7) = some 7 := by
    exact_mod_cast bnU64_encodes.whole 7 (by norm_num)
  have hourly : bnU64 (.ofBN 10) = some 10 := bnU64_encodes.ofBN_small (by norm_num)
  have lifetime : bnU64 (.ofBN 100) = some 100 := bnU64_encodes.ofBN_small (by norm_num)
  simp only [updatePolicy, raised, Option.getD_none, Option.getD_some, seven, hourly, lifetime,
    Option.bind_eq_bind, Option.bind_some, padWhitelist_self]
  rfl

/-- With nothing but a deposit in between, only the limit of one payment changes. -/
theorem update_policy_raised :
    ∃ found left,
      (Market.after ([Market.create 5 10 100 true] ++ [Market.deposit 50])).policies Market.policy =
        some found ∧
      (Market.after ([Market.create 5 10 100 true] ++ [Market.deposit 50] ++
        [.program raise])).policies Market.policy = some left ∧
      Asked raised found left := by
  obtain ⟨current, fetched, sent⟩ := raised_sent
  refine ⟨_, _, rfl, rfl, (update_policy_iff bnU64_encodes (Market.reachable _) fetched sent
    (Market.run_after _ [Market.deposit 50]) (Market.step_after (by decide)) rfl rfl).mpr ?_⟩
  have unwritten : lastTerms Market.vault (Transition.trace step
      (Market.after [Market.create 5 10 100 true]) [Market.deposit 50]) = none := by decide
  constructor
  · exact ⟨7, rfl⟩
  · exact unmoved_of_none unwritten
  · exact unmoved_of_none unwritten
  · exact fun _ => unmoved_of_none unwritten
  · exact fun _ => unmoved_of_none unwritten
  · exact fun _ supplied => nomatch supplied

/-- Two windows of the console: what one of them has set is undone by the other, which was not
asked to change it. -/
theorem update_policy_reverts :
    ¬∀ (toU64 : JsNumber → Option ℕ) (args : UpdatePolicyArgs SymbolicKey)
      (current found left : SpendPolicy SymbolicKey) (ix : Instruction SymbolicKey)
      (w₀ w₁ w₂ : World SymbolicKey) (log : List (Step SymbolicKey)), Encodes toU64 →
      Reachable w₀ → w₀.policies (policyAddress args.vault) = some current →
      updatePolicy toU64 args current = some ix → Run w₀ log w₁ →
      (∀ e ∈ log, (newTerms args.vault e.act).isSome ∧ e.act.signer = some args.owner.key) →
      step w₁ (.program ix) = .ok w₂ → w₁.policies (policyAddress args.vault) = some found →
      w₂.policies (policyAddress args.vault) = some left → Asked args found left := by
  intro claim
  obtain ⟨current, fetched, sent⟩ := raised_sent
  have asked := claim bnU64 raised current _ _ raise _ _ _ _ bnU64_encodes (Market.reachable _)
    fetched sent (Market.run_after _ [Market.allow Market.service.key]) (by decide)
    (Market.step_after (by decide)) rfl rfl
  -- The other window has lifted the hourly limit, and it is 10 again.
  have back : 10 = 0 := asked.hourly
  cases back

end Updates

end Web

end AgentFuel.Clients
