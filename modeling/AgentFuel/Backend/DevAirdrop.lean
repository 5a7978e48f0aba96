import AgentFuel.Library.Checked
import AgentFuel.Library.Encodings
import AgentFuel.Library.JsonBytes

/-!
# The mint authority of the dev airdrop

The key comes from the environment, in base 64: either its 64 bytes or the JSON array of them. Which
of the two it is, is guessed from the first byte.
-/
namespace AgentFuel.Backend

open Checked Encodings JsonBytes

inductive KeypairError where
  | notBase64
  | notJsonArray
  | length (got : ℕ)
  deriving DecidableEq, Repr

/-- The text, with what the decoder that failed says. -/
def KeypairError.text (e : String) : KeypairError → String
  | notBase64 => "AGENT_FUEL_USDC_MINT_AUTHORITY_B64 is not valid base64: " ++ e
  | notJsonArray => "decoded AGENT_FUEL_USDC_MINT_AUTHORITY_B64 is not a JSON array: " ++ e
  | length got => "expected 64-byte [seed || pubkey] keypair, got " ++ toString got ++ " bytes"

def enforceLen (bytes : List UInt8) : Except KeypairError Unit :=
  require (bytes.length = 64) (.length bytes.length)

section Keypair

-- What `serde_json::from_slice::<Vec<u8>>` reads.
variable (fromSlice : List UInt8 → Option (List UInt8))

def loadKeypairFromB64 (b64 : Text) : Except KeypairError (List UInt8) := do
  let decoded ← okOr (ofBase64 (Text.trim b64)) .notBase64
  -- The heuristic: a body that starts with `[` is taken for JSON.
  let bytes ← (if decoded.head? = some 91 then okOr (fromSlice decoded) .notJsonArray
    else pure decoded)
  enforceLen bytes
  pure bytes

/-- The key loads from either encoding, and whatever loads is what one of them denotes. -/
structure EitherEncoding (key : List UInt8) : Prop where
  raw : loadKeypairFromB64 fromSlice (base64 key) = .ok key
  json : ∀ text, Writes text key → text.head? = some 91 →
    loadKeypairFromB64 fromSlice (base64 text) = .ok key
  accepted : ∀ b64 bytes, loadKeypairFromB64 fromSlice b64 = .ok bytes →
    bytes.length = 64 ∧ ∃ decoded, ofBase64 (Text.trim b64) = some decoded ∧
      (decoded = bytes ∨ Writes decoded bytes)

variable {fromSlice} {decoded key bytes : List UInt8} {b64 : Text}

/-- What loads, by the first byte of the body. -/
theorem load_eq_ok : loadKeypairFromB64 fromSlice b64 = .ok bytes ↔
    bytes.length = 64 ∧ ∃ decoded, ofBase64 (Text.trim b64) = some decoded ∧
      if decoded.head? = some 91 then fromSlice decoded = some bytes else decoded = bytes := by
  have body : ∀ decoded, (if decoded.head? = some 91 then okOr (fromSlice decoded) .notJsonArray
      else pure decoded : Except KeypairError (List UInt8)) = .ok bytes ↔
      if decoded.head? = some 91 then fromSlice decoded = some bytes else decoded = bytes := by
    intro decoded
    split <;> simp
  simp only [loadKeypairFromB64, enforceLen, bind_eq_ok, okOr_eq_ok, require_eq_ok, pure_eq_ok]
  constructor
  · rintro ⟨decoded, taken, bytes', reading, -, length, rfl⟩
    exact ⟨length, decoded, taken, (body decoded).mp reading⟩
  · rintro ⟨length, decoded, taken, reading⟩
    exact ⟨decoded, taken, bytes, (body decoded).mpr reading, (), length, rfl⟩

theorem load_base64 : loadKeypairFromB64 fromSlice (base64 decoded) = .ok bytes ↔
    bytes.length = 64 ∧
      if decoded.head? = some 91 then fromSlice decoded = some bytes else decoded = bytes := by
  simp [load_eq_ok, trim_base64, ofBase64_base64]

/-- A text that is the array of 64 bytes is longer than that. -/
theorem readings_apart (writes : Writes decoded bytes) (length : bytes.length = 64) :
    decoded.length ≠ 64 := by
  have := writes.length_lt
  omega

/-- The JSON form without blanks loads, whichever bytes it has. -/
theorem load_render (reads : ∀ text bytes, fromSlice text = some bytes ↔ Writes text bytes)
    (length : key.length = 64) :
    loadKeypairFromB64 fromSlice (base64 (render key)) = .ok key := by
  rw [load_base64, if_pos (by simp [render]), reads]
  exact ⟨length, writes_render key⟩

theorem raw_bracket (reads : ∀ text bytes, fromSlice text = some bytes ↔ Writes text bytes)
    (length : key.length = 64) (bracket : key.head? = some 91) :
    loadKeypairFromB64 fromSlice (base64 key) ≠ .ok bytes := by
  rw [Ne, load_base64, if_pos bracket, reads]
  rintro ⟨length', writes⟩
  exact readings_apart writes length' length

/-- The raw bytes load where their first byte is not the bracket of the other encoding; all else
is as it should be. -/
theorem either_encoding_iff
    (reads : ∀ text bytes, fromSlice text = some bytes ↔ Writes text bytes)
    (length : key.length = 64) : EitherEncoding fromSlice key ↔ key.head? ≠ some 91 := by
  constructor
  · intro either bracket
    exact raw_bracket reads length bracket either.raw
  · intro plain
    constructor
    case raw =>
      rw [load_base64, if_neg plain]
      exact ⟨length, rfl⟩
    case json =>
      intro text writes bracket
      rw [load_base64, if_pos bracket, reads]
      exact ⟨length, writes⟩
    case accepted =>
      intro b64 bytes loaded
      obtain ⟨length', decoded, body, reading⟩ := load_eq_ok.mp loaded
      refine ⟨length', decoded, body, ?_⟩
      split at reading
      · exact .inr ((reads decoded bytes).mp reading)
      · exact .inl reading

end Keypair

theorem either_encoding_sevens : EitherEncoding JsonBytes.read (List.replicate 64 7) :=
  (either_encoding_iff (fun _ _ => read_eq_some) (by decide)).mpr (by decide)

/-- A key of which the first byte is that of `[`. -/
theorem bracket_key_refused : ¬∀ key : List UInt8, key.length = 64 →
    EitherEncoding JsonBytes.read key := by
  intro every
  have either := every (91 :: List.replicate 63 7) (by decide)
  exact raw_bracket (fun _ _ => read_eq_some) (by decide) (by decide) either.raw

end AgentFuel.Backend
