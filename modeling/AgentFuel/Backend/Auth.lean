import AgentFuel.Library.Checked
import AgentFuel.Library.Encodings
import AgentFuel.Library.Sha256
import AgentFuel.Library.Transition
import Mathlib.Data.Vector.Basic
import Mathlib.Logic.Function.Basic

/-!
# Sign-in

A wallet asks for a nonce, signs the message that comes with it and trades the signature for a
token. The claim of the nonce is one statement of the database; what follows it touches no state
that calls share, so that calls interleave around it.
-/
namespace AgentFuel.Backend

open Checked

/-- Nanoseconds since the epoch. -/
structure DateTime where
  nanos : Int
  deriving DecidableEq, Repr

def DateTime.addSeconds (dt : DateTime) (seconds : Int) : DateTime := ⟨dt.nanos + seconds * 10 ^ 9⟩

def DateTime.timestamp (dt : DateTime) : Int := dt.nanos / 10 ^ 9

/-- `NONCE_TTL_SECONDS` -/
def nonceTtlSeconds : Int := 300

/-- `JWT_TTL_SECONDS` -/
def jwtTtlSeconds : Int := 60 * 60 * 24 * 30

inductive AuthError where
  | invalidPubkey
  | pubkeyWrongSize
  | invalidSignature
  | signatureWrongSize
  | signatureVerification
  | nonceInvalid
  | notConfigured
  | db
  | jwt
  deriving DecidableEq, Repr

structure AuthConfig where
  jwtSecret : Option String
  domain : String
  chainId : String

structure Claims where
  sub : String
  exp : Int
  iat : Int
  deriving DecidableEq, Repr

/-- What the libraries for base 58, time stamps, signatures and tokens compute. -/
structure AuthLibraries where
  bs58 : String → Option (List UInt8)
  rfc3339 : DateTime → String
  /-- `VerifyingKey::from_bytes` and `verify`, on the message as text. -/
  verify : Vector UInt8 32 → String → Vector UInt8 64 → Bool
  encode : String → Claims → Option String

/-- What a column of type `TIMESTAMPTZ` keeps of a time. -/
def timestamptz (dt : DateTime) : DateTime := ⟨dt.nanos / 1000 * 1000⟩

def truncateToMicros (dt : DateTime) : DateTime :=
  let micros := dt.nanos % 10 ^ 9 / 1000
  ⟨dt.nanos - dt.nanos % 10 ^ 9 + micros * 1000⟩

section Calls

variable (lib : AuthLibraries) (cfg : AuthConfig)

def buildMessage (pubkey nonce : String) (issuedAt expiresAt : DateTime) : String :=
  cfg.domain ++ " wants you to sign in with your Solana account:\n" ++ pubkey ++ "\n\n" ++
    "Sign in to manage your Agent Fuel agents and vaults.\n\n" ++ "URI: https://" ++ cfg.domain ++
    "\nVersion: 1\nChain ID: " ++ cfg.chainId ++ "\nNonce: " ++ nonce ++ "\nIssued At: " ++
    lib.rfc3339 issuedAt ++ "\nExpiration Time: " ++ lib.rfc3339 expiresAt

/-- Bytes of a fixed number. -/
def sized (n : Nat) (bytes : List UInt8) (e : AuthError) : Except AuthError (Vector UInt8 n) :=
  if size : bytes.toArray.size = n then .ok ⟨bytes.toArray, size⟩ else .error e

def decodePubkey (pubkey : String) : Except AuthError (Vector UInt8 32) := do
  let bytes ← okOr (lib.bs58 pubkey) .invalidPubkey
  sized 32 bytes .pubkeyWrongSize

def decodeSignature (signature : String) : Except AuthError (Vector UInt8 64) := do
  let bytes ← okOr (lib.bs58 signature) .invalidSignature
  sized 64 bytes .signatureWrongSize

/-- A row of `auth_nonces`. -/
structure NonceRow where
  pubkey : String
  issuedAt : DateTime
  expiresAt : DateTime
  consumedAt : Option DateTime
  deriving DecidableEq, Repr

structure NewNonce where
  nonce : String
  message : String
  issuedAt : DateTime
  expiresAt : DateTime

structure VerifyCall where
  pubkey : String
  nonce : String
  signature : String
  deriving DecidableEq, Repr

/-- A call of `verify_and_mint` that has claimed its nonce. -/
structure Claimed where
  call : VerifyCall
  secret : String
  pubkeyBytes : Vector UInt8 32
  signatureBytes : Vector UInt8 64
  issuedAt : DateTime
  expiresAt : DateTime

structure VerifiedToken where
  claims : Claims
  token : String
  expiresAt : DateTime

/-- `issue_nonce`, with the random nonce it draws. The primary key refuses one that is there. -/
def issueNonce (nonces : String → Option NonceRow) (pubkey nonce : String) (now : DateTime) :
    Except AuthError (NonceRow × NewNonce) := do
  let _ ← decodePubkey lib pubkey
  let issuedAt := truncateToMicros now
  let expiresAt := truncateToMicros (issuedAt.addSeconds nonceTtlSeconds)
  require (nonces nonce = none) .db
  let row := ⟨pubkey, timestamptz issuedAt, timestamptz expiresAt, none⟩
  pure (row, ⟨nonce, buildMessage lib cfg pubkey nonce issuedAt expiresAt, issuedAt, expiresAt⟩)

/-- `verify_and_mint` up to its `UPDATE .. RETURNING`, and the row that leaves. -/
def claimNonce (nonces : String → Option NonceRow) (call : VerifyCall) (now : DateTime) :
    Except AuthError (NonceRow × Claimed) := do
  let secret ← okOr cfg.jwtSecret .notConfigured
  let pubkeyBytes ← decodePubkey lib call.pubkey
  let signatureBytes ← decodeSignature lib call.signature
  let row ← okOr (nonces call.nonce) .nonceInvalid
  require (row.pubkey = call.pubkey ∧ row.consumedAt = none ∧ now.nanos < row.expiresAt.nanos)
    .nonceInvalid
  pure ({ row with consumedAt := some now },
    ⟨call, secret, pubkeyBytes, signatureBytes, row.issuedAt, row.expiresAt⟩)

/-- The rest of `verify_and_mint`. -/
def mint (claimed : Claimed) (now : DateTime) : Except AuthError VerifiedToken := do
  let call := claimed.call
  let message := buildMessage lib cfg call.pubkey call.nonce claimed.issuedAt claimed.expiresAt
  require (lib.verify claimed.pubkeyBytes message claimed.signatureBytes = true)
    .signatureVerification
  let exp := now.addSeconds jwtTtlSeconds
  let claims := { sub := call.pubkey, exp := exp.timestamp, iat := now.timestamp }
  let token ← okOr (lib.encode claimed.secret claims) .jwt
  pure ⟨claims, token, exp⟩

/-- A nonce as it was handed out. -/
structure Issued where
  pubkey : String
  answer : NewNonce

/-- A token and the call that got it. -/
structure Minted where
  call : VerifyCall
  token : VerifiedToken

/-- The table, the calls between their claim and their answer, and the answers so far. -/
structure AuthState where
  nonces : String → Option NonceRow
  inFlight : List Claimed
  issued : List Issued
  minted : List Minted

def AuthState.empty : AuthState := ⟨fun _ => none, [], [], []⟩

inductive AuthAction where
  | issue (pubkey nonce : String) (now : DateTime)
  | claim (call : VerifyCall) (now : DateTime)
  /-- The call at a place of the list goes on to its end. -/
  | finish (place : Nat) (now : DateTime)

def AuthState.step (s : AuthState) : AuthAction → Except AuthError AuthState
  | .issue pubkey nonce now => do
    let (row, answer) ← issueNonce lib cfg s.nonces pubkey nonce now
    pure { s with
      nonces := Function.update s.nonces nonce (some row), issued := s.issued ++ [⟨pubkey, answer⟩] }
  | .claim call now => do
    let (row, claimed) ← claimNonce lib cfg s.nonces call now
    pure { s with
      nonces := Function.update s.nonces call.nonce (some row), inFlight := s.inFlight ++ [claimed] }
  | .finish place now => do
    let claimed ← okOr s.inFlight[place]? .nonceInvalid
    let inFlight := s.inFlight.eraseIdx place
    match mint lib cfg claimed now with
    | .ok token => pure { s with inFlight, minted := s.minted ++ [⟨claimed.call, token⟩] }
    | .error _ => pure { s with inFlight }

end Calls

abbrev AuthRun (lib : AuthLibraries) (cfg : AuthConfig) (s : AuthState)
    (log : List (Transition.Fired AuthState AuthAction)) (s' : AuthState) : Prop :=
  Transition.Run (AuthState.step lib cfg) s log s'

/-! ### Times -/

/-- A time that is truncated survives the database. -/
theorem timestamptz_truncate (dt : DateTime) :
    timestamptz (truncateToMicros dt) = truncateToMicros dt := by
  simp only [timestamptz, truncateToMicros, DateTime.mk.injEq]
  omega

/-! ### The calls -/

variable {lib : AuthLibraries} {cfg : AuthConfig} {s s' : AuthState}
  {log : List (Transition.Fired AuthState AuthAction)}

theorem issueNonce_ok {nonces : String → Option NonceRow} {pubkey nonce : String} {now : DateTime}
    {row : NonceRow} {answer : NewNonce}
    (done : issueNonce lib cfg nonces pubkey nonce now = .ok (row, answer)) :
    nonces nonce = none ∧ row.pubkey = pubkey ∧ row.consumedAt = none ∧
      row.expiresAt = answer.expiresAt ∧ answer.nonce = nonce ∧
      answer.message = buildMessage lib cfg row.pubkey nonce row.issuedAt row.expiresAt := by
  simp only [issueNonce, bind_eq_ok, require_eq_ok, pure_eq_ok, Prod.mk.injEq, exists_const] at done
  obtain ⟨_, -, fresh, rfl, rfl⟩ := done
  simp only [timestamptz_truncate, fresh, and_self]

theorem claimNonce_ok {nonces : String → Option NonceRow} {call : VerifyCall} {now : DateTime}
    {row : NonceRow} {claimed : Claimed}
    (done : claimNonce lib cfg nonces call now = .ok (row, claimed)) :
    ∃ old, nonces call.nonce = some old ∧ old.pubkey = call.pubkey ∧ old.consumedAt = none ∧
      now.nanos < old.expiresAt.nanos ∧ row = { old with consumedAt := some now } ∧
      claimed.call = call ∧ claimed.issuedAt = old.issuedAt ∧ claimed.expiresAt = old.expiresAt ∧
      decodePubkey lib call.pubkey = .ok claimed.pubkeyBytes ∧
      decodeSignature lib call.signature = .ok claimed.signatureBytes := by
  simp only [claimNonce, bind_eq_ok, okOr_eq_ok, require_eq_ok, pure_eq_ok, Prod.mk.injEq,
    exists_const] at done
  obtain ⟨_, -, _, pubkey, _, signature, old, found, ⟨named, fresh, early⟩, rfl, rfl⟩ := done
  exact ⟨old, found, named, fresh, early, rfl, rfl, rfl, rfl, pubkey, signature⟩

theorem mint_ok {claimed : Claimed} {now : DateTime} {token : VerifiedToken}
    (done : mint lib cfg claimed now = .ok token) :
    token.claims.sub = claimed.call.pubkey ∧
      lib.verify claimed.pubkeyBytes (buildMessage lib cfg claimed.call.pubkey claimed.call.nonce
        claimed.issuedAt claimed.expiresAt) claimed.signatureBytes = true := by
  simp only [mint, bind_eq_ok, okOr_eq_ok, require_eq_ok, pure_eq_ok, exists_const] at done
  obtain ⟨verified, _, -, rfl⟩ := done
  exact ⟨rfl, verified⟩

/-! ### Runs -/

/-- A step in which some call consumes the nonce. -/
def Consumes (nonce : String) (e : Transition.Fired AuthState AuthAction) : Prop :=
  ∃ call now, e.act = .claim call now ∧ call.nonce = nonce

/-- The claim of a call: the first to consume its nonce, in time, for the key the nonce was issued
to. The message is the one that was handed out. -/
structure ClaimedBy (lib : AuthLibraries) (cfg : AuthConfig)
    (log : List (Transition.Fired AuthState AuthAction)) (claimed : Claimed) (issue : Issued) :
    Prop where
  step : ∃ before e after now, log = before ++ e :: after ∧ e.act = .claim claimed.call now ∧
    (∀ earlier ∈ before, ¬Consumes claimed.call.nonce earlier) ∧ issue ∈ e.pre.issued ∧
    now.nanos < issue.answer.expiresAt.nanos
  pubkey : issue.pubkey = claimed.call.pubkey
  nonce : issue.answer.nonce = claimed.call.nonce
  message : issue.answer.message = buildMessage lib cfg claimed.call.pubkey claimed.call.nonce
    claimed.issuedAt claimed.expiresAt
  pubkeyBytes : decodePubkey lib claimed.call.pubkey = .ok claimed.pubkeyBytes
  signatureBytes : decodeSignature lib claimed.call.signature = .ok claimed.signatureBytes

theorem ClaimedBy.snoc {claimed : Claimed} {issue : Issued} (traced : ClaimedBy lib cfg log claimed issue)
    (e : Transition.Fired AuthState AuthAction) : ClaimedBy lib cfg (log ++ [e]) claimed issue := by
  obtain ⟨before, c, after, now, rfl, act, first, issued, early⟩ := traced.step
  exact { traced with
    step := ⟨before, c, after ++ [e], now, by simp, act, first, issued, early⟩ }

/-- A token, and the claim and the signature it rests on. -/
structure Entitled (lib : AuthLibraries) (cfg : AuthConfig)
    (log : List (Transition.Fired AuthState AuthAction)) (minted : Minted) : Prop where
  sub : minted.token.claims.sub = minted.call.pubkey
  claimed : ∃ claimed issue, claimed.call = minted.call ∧ ClaimedBy lib cfg log claimed issue ∧
    lib.verify claimed.pubkeyBytes issue.answer.message claimed.signatureBytes = true

/-- The nonces of the calls that have consumed one, answered or not. -/
def AuthState.spent (s : AuthState) : List String :=
  s.inFlight.map (·.call.nonce) ++ s.minted.map (·.call.nonce)

structure AuthInvariant (lib : AuthLibraries) (cfg : AuthConfig)
    (log : List (Transition.Fired AuthState AuthAction)) (s : AuthState) : Prop where
  issued : ∀ nonce row, s.nonces nonce = some row → ∃ issue ∈ s.issued, issue.pubkey = row.pubkey ∧
    issue.answer.nonce = nonce ∧ issue.answer.expiresAt = row.expiresAt ∧
    issue.answer.message = buildMessage lib cfg row.pubkey nonce row.issuedAt row.expiresAt
  consumed : ∀ e ∈ log, ∀ nonce, Consumes nonce e →
    ∃ row, s.nonces nonce = some row ∧ row.consumedAt ≠ none
  spent : ∀ nonce ∈ s.spent, ∃ row, s.nonces nonce = some row ∧ row.consumedAt ≠ none
  once : s.spent.Nodup
  inFlight : ∀ claimed ∈ s.inFlight, ∃ issue, ClaimedBy lib cfg log claimed issue
  minted : ∀ minted ∈ s.minted, Entitled lib cfg log minted

theorem AuthInvariant.empty : AuthInvariant lib cfg [] .empty where
  issued _ _ held := by cases held
  consumed _ member := by cases member
  spent _ member := by cases member
  once := List.nodup_nil
  inFlight _ member := by cases member
  minted _ member := by cases member

theorem Entitled.snoc {minted : Minted} (entitled : Entitled lib cfg log minted)
    (e : Transition.Fired AuthState AuthAction) : Entitled lib cfg (log ++ [e]) minted := by
  obtain ⟨claimed, issue, call, traced, verified⟩ := entitled.claimed
  exact ⟨entitled.sub, claimed, issue, call, traced.snoc e, verified⟩

/-- A new nonce is new to everything. -/
theorem AuthInvariant.issue {pubkey nonce : String} {now : DateTime} {row : NonceRow}
    {answer : NewNonce} (inv : AuthInvariant lib cfg log s)
    (done : issueNonce lib cfg s.nonces pubkey nonce now = .ok (row, answer))
    (post : s' = { s with
      nonces := Function.update s.nonces nonce (some row), issued := s.issued ++ [⟨pubkey, answer⟩] }) :
    AuthInvariant lib cfg (log ++ [⟨s, .issue pubkey nonce now, s'⟩]) s' := by
  obtain ⟨fresh, named, -, expires, own, message⟩ := issueNonce_ok done
  -- The nonce had no row, so every row stays.
  have kept : ∀ other row', s.nonces other = some row' →
      Function.update s.nonces nonce (some row) other = some row' := by
    intro other row' held
    refine (Function.update_of_ne ?_ _ _).trans held
    rintro rfl
    rw [fresh] at held
    cases held
  subst post
  refine ⟨?_, ?_, ?_, inv.once, ?_, ?_⟩
  · intro other row' held
    dsimp only at held
    rw [Function.update_apply] at held
    split at held
    next same =>
      obtain rfl := Option.some.inj held
      exact ⟨⟨pubkey, answer⟩, by simp, named.symm, own.trans same.symm, expires.symm,
        same ▸ message⟩
    · obtain ⟨issue, member, facts⟩ := inv.issued other row' held
      exact ⟨issue, List.mem_append_left _ member, facts⟩
  · intro e member other consumes
    rcases List.mem_append.mp member with earlier | here
    · obtain ⟨row', held, used⟩ := inv.consumed e earlier other consumes
      exact ⟨row', kept other row' held, used⟩
    · obtain ⟨_, _, act, -⟩ := consumes
      rw [List.mem_singleton.mp here] at act
      cases act
  · intro other member
    obtain ⟨row', held, used⟩ := inv.spent other member
    exact ⟨row', kept other row' held, used⟩
  · intro claimed member
    obtain ⟨issue, traced⟩ := inv.inFlight claimed member
    exact ⟨issue, traced.snoc _⟩
  · exact fun minted member => (inv.minted minted member).snoc _

/-- A claim finds the row of a nonce that nobody has consumed. -/
theorem AuthInvariant.claim {call : VerifyCall} {now : DateTime} {row : NonceRow} {claimed : Claimed}
    (inv : AuthInvariant lib cfg log s)
    (done : claimNonce lib cfg s.nonces call now = .ok (row, claimed))
    (post : s' = { s with
      nonces := Function.update s.nonces call.nonce (some row), inFlight := s.inFlight ++ [claimed] }) :
    AuthInvariant lib cfg (log ++ [⟨s, .claim call now, s'⟩]) s' := by
  obtain ⟨old, found, named, unused, early, rfl, own, issuedAt, expiresAt, pubkey, signature⟩ :=
    claimNonce_ok done
  -- The row that is found is not consumed, and it is the only one of the nonce.
  have fresh : ∀ row', s.nonces call.nonce = some row' → row'.consumedAt = none := by
    intro row' held
    obtain rfl : old = row' := Option.some.inj (found.symm.trans held)
    exact unused
  -- So no consumed row is written over.
  have kept : ∀ other row', s.nonces other = some row' → row'.consumedAt ≠ none →
      Function.update s.nonces call.nonce (some { old with consumedAt := some now }) other =
        some row' := by
    intro other row' held used
    refine (Function.update_of_ne ?_ _ _).trans held
    rintro rfl
    exact used (fresh row' held)
  have free : call.nonce ∉ s.spent := by
    intro member
    obtain ⟨row', held, used⟩ := inv.spent _ member
    exact used (fresh row' held)
  subst post
  refine ⟨?_, ?_, ?_, ?_, ?_, ?_⟩
  · intro other row' held
    dsimp only at held
    rw [Function.update_apply] at held
    split at held
    next same =>
      obtain rfl := Option.some.inj held
      subst same
      exact inv.issued _ old found
    · exact inv.issued other row' held
  · intro e member other consumes
    rcases List.mem_append.mp member with earlier | here
    · obtain ⟨row', held, used⟩ := inv.consumed e earlier other consumes
      exact ⟨row', kept other row' held used, used⟩
    · obtain ⟨_, _, act, rfl⟩ := consumes
      rw [List.mem_singleton.mp here] at act
      cases act
      exact ⟨_, Function.update_self .., by simp⟩
  · intro other member
    have either : other ∈ s.spent ∨ other = call.nonce := by
      simp only [AuthState.spent, List.map_append, List.map_singleton, own, List.mem_append,
        List.mem_singleton] at member ⊢
      tauto
    rcases either with earlier | rfl
    · obtain ⟨row', held, used⟩ := inv.spent other earlier
      exact ⟨row', kept other row' held used, used⟩
    · exact ⟨_, Function.update_self .., by simp⟩
  · -- The nonce joins those that are spent, and it was not among them.
    have rearranged : (s.inFlight.map (·.call.nonce) ++ [call.nonce] ++
        s.minted.map (·.call.nonce)).Perm (call.nonce :: s.spent) := by
      rw [List.append_assoc, List.singleton_append]
      exact List.perm_middle
    simp only [AuthState.spent, List.map_append, List.map_singleton, own]
    exact rearranged.nodup_iff.mpr (List.nodup_cons.mpr ⟨free, inv.once⟩)
  · intro other member
    rcases List.mem_append.mp member with earlier | here
    · obtain ⟨issue, traced⟩ := inv.inFlight other earlier
      exact ⟨issue, traced.snoc _⟩
    · obtain ⟨issue, held, same, nonce, expires, message⟩ := inv.issued _ old found
      rw [List.mem_singleton.mp here]
      refine ⟨issue, ⟨log, _, [], now, rfl, by rw [own], ?_, held, by rw [expires]; exact early⟩,
        ?_, ?_, ?_, ?_, ?_⟩
      · -- An earlier consumption would have left its mark in the row.
        intro e earlier consumes
        rw [own] at consumes
        obtain ⟨row', stored, used⟩ := inv.consumed e earlier _ consumes
        exact used (fresh row' stored)
      · rw [same, named, own]
      · rw [nonce, own]
      · rw [message, named, own, issuedAt, expiresAt]
      · rw [own]
        exact pubkey
      · rw [own]
        exact signature
  · exact fun minted member => (inv.minted minted member).snoc _

/-- The end of a call takes it off the list, and gives it a token if the signature is right. -/
theorem AuthInvariant.finish {place : Nat} {now : DateTime} {claimed : Claimed}
    (inv : AuthInvariant lib cfg log s) (found : s.inFlight[place]? = some claimed)
    {answers : List Minted} (answered : answers = [] ∨ ∃ token, mint lib cfg claimed now = .ok token ∧
      answers = [⟨claimed.call, token⟩])
    (post : s' = { s with inFlight := s.inFlight.eraseIdx place, minted := s.minted ++ answers }) :
    AuthInvariant lib cfg (log ++ [⟨s, .finish place now, s'⟩]) s' := by
  have inside : place < s.inFlight.length := (List.getElem?_eq_some_iff.mp found).1
  have here : s.inFlight[place] = claimed := (List.getElem?_eq_some_iff.mp found).2
  have member : claimed ∈ s.inFlight := List.mem_of_getElem? found
  -- The call that ends was the only one with its nonce.
  have rearranged : (claimed.call.nonce :: ((s.inFlight.eraseIdx place).map (·.call.nonce) ++
      s.minted.map (·.call.nonce))).Perm s.spent := by
    have taken := (List.getElem_cons_eraseIdx_perm inside).map (·.call.nonce)
    rw [List.map_cons, here] at taken
    exact taken.append_right _
  have fewer : List.Subperm ((s.inFlight.eraseIdx place).map (·.call.nonce) ++
      (s.minted ++ answers).map (·.call.nonce)) s.spent := by
    rcases answered with rfl | ⟨token, -, rfl⟩
    · rw [List.append_nil]
      exact (List.sublist_cons_self _ _).subperm.trans rearranged.subperm
    · rw [List.map_append, ← List.append_assoc]
      exact (List.perm_append_comm.trans rearranged).subperm
  subst post
  refine ⟨inv.issued, ?_, ?_, ?_, ?_, ?_⟩
  · intro e inLog nonce consumes
    rcases List.mem_append.mp inLog with earlier | last
    · exact inv.consumed e earlier nonce consumes
    · obtain ⟨_, _, act, -⟩ := consumes
      rw [List.mem_singleton.mp last] at act
      cases act
  · exact fun nonce held => inv.spent nonce (fewer.subset held)
  · obtain ⟨part, same, within⟩ := fewer
    exact same.nodup_iff.mp (inv.once.sublist within)
  · intro other held
    obtain ⟨issue, traced⟩ := inv.inFlight other (List.eraseIdx_subset held)
    exact ⟨issue, traced.snoc _⟩
  · intro minted held
    rcases List.mem_append.mp held with earlier | new
    · exact (inv.minted minted earlier).snoc _
    · rcases answered with rfl | ⟨token, done, rfl⟩
      · cases new
      · obtain ⟨sub, verified⟩ := mint_ok done
        obtain ⟨issue, traced⟩ := inv.inFlight claimed member
        rw [List.mem_singleton.mp new]
        refine ⟨sub, claimed, issue, rfl, traced.snoc _, ?_⟩
        rw [traced.message]
        exact verified

theorem AuthInvariant.step {a : AuthAction} (inv : AuthInvariant lib cfg log s)
    (fired : s.step lib cfg a = .ok s') : AuthInvariant lib cfg (log ++ [⟨s, a, s'⟩]) s' := by
  cases a with
  | issue pubkey nonce now =>
    simp only [AuthState.step, bind_eq_ok, pure_eq_ok] at fired
    obtain ⟨⟨row, answer⟩, done, post⟩ := fired
    exact inv.issue done post.symm
  | claim call now =>
    simp only [AuthState.step, bind_eq_ok, pure_eq_ok] at fired
    obtain ⟨⟨row, claimed⟩, done, post⟩ := fired
    exact inv.claim done post.symm
  | finish place now =>
    simp only [AuthState.step, bind_eq_ok, okOr_eq_ok] at fired
    obtain ⟨claimed, found, ended⟩ := fired
    split at ended
    next token done =>
      exact inv.finish found (.inr ⟨token, done, rfl⟩) (Except.ok.inj ended).symm
    next =>
      refine inv.finish found (.inl rfl) ?_
      rw [List.append_nil]
      exact (Except.ok.inj ended).symm

theorem AuthRun.invariant (run : AuthRun lib cfg .empty log s) : AuthInvariant lib cfg log s := by
  -- The log of the invariant grows with the run, so that the induction is on the run itself.
  induction run with
  | nil => exact .empty
  | snoc _ fired ih => exact ih.step fired

/-- Only a claim for the key of a nonce touches its row. -/
theorem AuthState.step_row {a : AuthAction} (fired : s.step lib cfg a = .ok s') {nonce : String}
    {row : NonceRow} (held : s.nonces nonce = some row) (touched : s'.nonces nonce ≠ some row) :
    ∃ call now, a = .claim call now ∧ call.nonce = nonce ∧ call.pubkey = row.pubkey := by
  cases a with
  | issue pubkey other now =>
    simp only [AuthState.step, bind_eq_ok, pure_eq_ok] at fired
    obtain ⟨⟨_, _⟩, done, rfl⟩ := fired
    -- A new nonce has no row yet, so it is another one.
    have apart : nonce ≠ other := by
      rintro rfl
      rw [(issueNonce_ok done).1] at held
      cases held
    refine absurd ?_ touched
    dsimp only
    rw [Function.update_of_ne apart]
    exact held
  | claim call now =>
    simp only [AuthState.step, bind_eq_ok, pure_eq_ok] at fired
    obtain ⟨⟨_, _⟩, done, rfl⟩ := fired
    obtain ⟨old, found, named, -⟩ := claimNonce_ok done
    by_cases same : call.nonce = nonce
    · rw [same, held, Option.some.injEq] at found
      exact ⟨call, now, rfl, same, by rw [found, named]⟩
    · refine absurd ?_ touched
      dsimp only
      rw [Function.update_of_ne (Ne.symm same)]
      exact held
  | finish place now =>
    simp only [AuthState.step, bind_eq_ok, okOr_eq_ok] at fired
    obtain ⟨_, _, ended⟩ := fired
    refine absurd ?_ touched
    split at ended
    · rw [← Except.ok.inj ended]
      exact held
    · rw [← Except.ok.inj ended]
      exact held

/-- Whatever the order of the calls, no nonce yields two tokens, every token rests on a nonce and
a signature of its own key, and no call touches the nonce of another key. -/
theorem sign_in_safe (lib : AuthLibraries) (cfg : AuthConfig) (s : AuthState)
    (log : List (Transition.Fired AuthState AuthAction)) (run : AuthRun lib cfg .empty log s) :
    (s.minted.map (·.call.nonce)).Nodup ∧ (∀ minted ∈ s.minted, Entitled lib cfg log minted) ∧
      ∀ e ∈ log, ∀ nonce row, e.pre.nonces nonce = some row → e.post.nonces nonce ≠ some row →
        ∃ call now, e.act = .claim call now ∧ call.nonce = nonce ∧ call.pubkey = row.pubkey := by
  have inv := run.invariant
  refine ⟨(List.nodup_append.mp inv.once).2.1, inv.minted, ?_⟩
  intro e member nonce row held touched
  exact AuthState.step_row (Transition.Run.fired run member) held touched

/-! ### A wallet that signs in -/

namespace SignIn

open Encodings

/-- A number in two or more digits. -/
def padded (width : Nat) (n : Nat) : String :=
  String.ofList (List.replicate (width - (toString n).length) '0') ++ toString n

/-- Year, month and day of a day that is counted from the epoch. -/
def civil (day : Int) : Int × Nat × Nat :=
  -- Years begin with March here, so that a leap day is their last.
  let shifted := day + 719468
  let era := shifted / 146097
  let dayOfEra := (shifted % 146097).toNat
  let year := (dayOfEra - dayOfEra / 1460 + dayOfEra / 36524 - dayOfEra / 146096) / 365
  let dayOfYear := dayOfEra - (365 * year + year / 4 - year / 100)
  let month := (5 * dayOfYear + 2) / 153
  let shown := if month < 10 then month + 3 else month - 9
  (year + era * 400 + (if shown ≤ 2 then 1 else 0), shown, dayOfYear - (153 * month + 2) / 5 + 1)

/-- `DateTime::<Utc>::to_rfc3339`, with as many digits of the second as the time has. -/
def rfc3339 (dt : DateTime) : String :=
  let (year, month, day) := civil (dt.timestamp / 86400)
  let second := (dt.timestamp % 86400).toNat
  let nanos := (dt.nanos % 10 ^ 9).toNat
  let fraction :=
    if nanos = 0 then ""
    else if nanos % 10 ^ 6 = 0 then "." ++ padded 3 (nanos / 10 ^ 6)
    else if nanos % 10 ^ 3 = 0 then "." ++ padded 6 (nanos / 10 ^ 3)
    else "." ++ padded 9 nanos
  padded 4 year.toNat ++ "-" ++ padded 2 month ++ "-" ++ padded 2 day ++ "T" ++
    padded 2 (second / 3600) ++ ":" ++ padded 2 (second / 60 % 60) ++ ":" ++ padded 2 (second % 60) ++
    fraction ++ "+00:00"

/-- Base 64 with the alphabet of URLs and without padding. -/
def base64Url (text : List UInt8) : String :=
  String.ofList (((base64 text).filter (· ≠ '=')).map fun c =>
    if c = '+' then '-' else if c = '/' then '_' else c)

/-- A token that is signed with HMAC. -/
def jwt (secret : String) (claims : Claims) : String :=
  let header := "\x7b\"typ\":\"JWT\",\"alg\":\"HS256\"\x7d"
  let payload := "\x7b\"sub\":\"" ++ claims.sub ++ "\",\"exp\":" ++ toString claims.exp ++ ",\"iat\":" ++
    toString claims.iat ++ "\x7d"
  let signed := base64Url (Sha256.ascii header) ++ "." ++ base64Url (Sha256.ascii payload)
  signed ++ "." ++ base64Url (Sha256.hmac (Sha256.ascii secret) (Sha256.ascii signed))

def config : AuthConfig := ⟨some "development-secret", "agent-fuel.dev", "solana:devnet"⟩

def pubkey : String := "FVen3X669xLzsi6N2V91DoiyzHzg1uAgqiT8jZ9nS96Z"

def nonce : String := "9f86d081884c7d659a2feaa0c55ad015"

/-- What the wallet is asked to sign. -/
def message : String :=
  "agent-fuel.dev wants you to sign in with your Solana account:\n" ++
    "FVen3X669xLzsi6N2V91DoiyzHzg1uAgqiT8jZ9nS96Z\n\n" ++
    "Sign in to manage your Agent Fuel agents and vaults.\n\nURI: https://agent-fuel.dev\n" ++
    "Version: 1\nChain ID: solana:devnet\nNonce: 9f86d081884c7d659a2feaa0c55ad015\n" ++
    "Issued At: 2026-05-26T12:00:00+00:00\nExpiration Time: 2026-05-26T12:05:00+00:00"

/-- The Ed25519 signature of that message. -/
def signature : String :=
  "3e8sxfWkaPUcdECHUDqPdFFeHpH1ArgG9sVhJY9H9Neennm6e4YHF4Wekn1EB7bJrgP371nEmQnMtzqiUL9KSfBb"

def pubkeyBytes : List UInt8 :=
  [0xd7, 0x5a, 0x98, 0x01, 0x82, 0xb1, 0x0a, 0xb7, 0xd5, 0x4b, 0xfe, 0xd3, 0xc9, 0x64, 0x07, 0x3a,
   0x0e, 0xe1, 0x72, 0xf3, 0xda, 0xa6, 0x23, 0x25, 0xaf, 0x02, 0x1a, 0x68, 0xf7, 0x07, 0x51, 0x1a]

def signatureBytes : List UInt8 :=
  [0x84, 0x0e, 0xfc, 0x15, 0x91, 0xa6, 0x3d, 0xca, 0xd4, 0x8a, 0xca, 0x3f, 0xda, 0x16, 0x03, 0xb8,
   0x2b, 0x1c, 0x1d, 0xd0, 0x89, 0xab, 0x30, 0xa5, 0x06, 0x2a, 0x2d, 0xc4, 0x97, 0x72, 0x4d, 0x86,
   0x44, 0x3e, 0xbc, 0xff, 0x80, 0x3b, 0x50, 0xca, 0x79, 0x55, 0x9b, 0x63, 0x02, 0x45, 0x97, 0xff,
   0xce, 0x9a, 0xe6, 0x24, 0xcd, 0xcc, 0xd1, 0xce, 0x75, 0x05, 0x9e, 0xc9, 0x68, 0x63, 0x53, 0x06]

/-- Of all signatures, this one was made. -/
def libraries : AuthLibraries where
  bs58 text := ofBase58 text.toList
  rfc3339 := rfc3339
  verify key text made := key.toList = pubkeyBytes ∧ text = message ∧ made.toList = signatureBytes
  encode secret claims := some (jwt secret claims)

/-- Noon of a day, and seconds after it. -/
def noon (seconds : Int) : DateTime := DateTime.addSeconds ⟨1779796800 * 10 ^ 9⟩ seconds

/-- The nonce is claimed twice before the first call gets its token. Then the signature is tried with
another nonce. -/
def acts : List AuthAction :=
  [.issue pubkey nonce (noon 0), .claim ⟨pubkey, nonce, signature⟩ (noon 10),
    .claim ⟨pubkey, nonce, signature⟩ (noon 11), .finish 0 (noon 20), .issue pubkey "00" (noon 30),
    .claim ⟨pubkey, "00", signature⟩ (noon 40), .finish 0 (noon 41)]

def after : AuthState := acts.foldl (Transition.settle (AuthState.step libraries config)) .empty

end SignIn

/-- The wallet has one token for its nonce; a signature of another message gets none. -/
theorem sign_in_safe_wallet :
    SignIn.after.minted.map (fun minted => (minted.call.nonce, minted.token.claims)) =
        [(SignIn.nonce, ⟨SignIn.pubkey, 1782388820, 1779796820⟩)] ∧
      ∀ minted ∈ SignIn.after.minted, Entitled SignIn.libraries SignIn.config
        (Transition.trace (AuthState.step SignIn.libraries SignIn.config) .empty SignIn.acts) minted := by
  obtain ⟨-, entitled, -⟩ :=
    sign_in_safe SignIn.libraries SignIn.config SignIn.after _ (.of_trace _ _ SignIn.acts)
  exact ⟨by decide +kernel, entitled⟩

end AgentFuel.Backend
