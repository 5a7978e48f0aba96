import AgentFuel.Backend.Events
import AgentFuel.Library.Sha256

/-!
# The decoder undoes the encoder

The two declarations of every event agree in the order, the names and the types of their
fields. That is checked once for each event; the rest is about lists of fields.
-/
namespace AgentFuel.Backend

open Encodings Solana Vault Reputation

variable {K S : Type}

/-! ### Two declarations of one event -/

/-- The type the backend has to declare for an on-chain field. -/
def Field.kind : Field K → FieldType
  | pubkey _ => .pubkeyBytes
  | u64 _ => .u64
  | u32 _ => .u32
  | u16 _ => .u16
  | i8 _ => .i8
  | bool _ => .bool
  | hash _ => .hash32
  | name _ => .nameBytes
  | category _ => .u8
  | pubkeys _ => .whitelist

def Field.value : (field : Field K) → field.kind.Carrier K
  | pubkey key => key
  | u64 n => n
  | u32 n => n
  | u16 n => n
  | i8 v => v
  | bool b => b
  | hash h => h
  | name bytes => bytes
  | category c => categoryTag c
  | pubkeys keys => keys

/-- What has to appear in the payload under the name of the field. -/
def Field.json (r : Rendering K S) (field : Field K) : Json S := field.kind.json r field.value

def Event.json (r : Rendering K S) (event : Event K) : List (String × Json S) :=
  event.fields.map fun f => (f.1, f.2.json r)

/-- Both sides declare the same fields in the same order. -/
theorem fields_layout (event : Event K) :
    event.fields.map (fun f => (f.1, f.2.kind)) = event.name.layout := by
  cases event with
  | vault event => cases event <;> rfl
  | reputation event => cases event <;> rfl

/-- A list of on-chain fields as a value of the structure with their types. -/
def recordOf : (fields : List (String × Field K)) →
    Record K (fields.map fun f => (f.1, f.2.kind))
  | [] => ()
  | f :: rest => (f.2.value, recordOf rest)

theorem recordOf_json (r : Rendering K S) (fields : List (String × Field K)) :
    Record.json r _ (recordOf fields) = fields.map fun f => (f.1, f.2.json r) := by
  induction fields with
  | nil => rfl
  | cons f rest ih => exact congrArg ((f.1, f.2.json r) :: ·) ih

theorem write_bytes {n : Nat} (bytes : Vector UInt8 n) :
    (Format.array n .byte).write bytes = bytes.toList := by
  unfold Format.array Format.byte
  exact List.flatMap_singleton' _

theorem Field.write_value (field : Field Pubkey) :
    field.kind.format.write field.value = field.borsh := by
  cases field with
  | pubkey key => exact write_bytes key
  | hash h => exact write_bytes h
  | name bytes => exact write_bytes bytes
  | category c => cases c <;> rfl
  | pubkeys keys => exact congrArg keys.toList.flatMap (funext write_bytes)
  | _ => rfl

theorem Field.valid_value {field : Field Pubkey} (valid : field.Valid) :
    field.kind.format.Valid field.value := by
  cases field with
  | pubkey => intro _ _; trivial
  | hash => intro _ _; trivial
  | name => intro _ _; trivial
  | bool => trivial
  | category c =>
    have small : categoryTag c < 256 ^ 1 := by cases c <;> decide
    exact small
  | pubkeys => intro _ _ _ _; trivial
  | i8 => exact valid
  | u64 n =>
    have bytes : (256 : Nat) ^ 8 = 2 ^ 64 := by decide
    have fits : n < 256 ^ 8 := by
      rw [bytes]
      exact valid
    exact fits
  | u32 n =>
    have bytes : (256 : Nat) ^ 4 = 2 ^ 32 := by decide
    have fits : n < 256 ^ 4 := by
      rw [bytes]
      exact valid
    exact fits
  | u16 n =>
    have bytes : (256 : Nat) ^ 2 = 2 ^ 16 := by decide
    have fits : n < 256 ^ 2 := by
      rw [bytes]
      exact valid
    exact fits

theorem write_recordOf (fields : List (String × Field Pubkey)) :
    (Record.format _).write (recordOf fields) = fields.flatMap fun f => f.2.borsh := by
  induction fields with
  | nil => rfl
  | cons f rest ih =>
    rw [List.flatMap_cons, ← ih, ← f.2.write_value]
    rfl

theorem valid_recordOf {fields : List (String × Field Pubkey)} (valid : ∀ f ∈ fields, f.2.Valid) :
    (Record.format _).Valid (recordOf fields) := by
  induction fields with
  | nil => trivial
  | cons f rest ih =>
    rw [List.forall_mem_cons] at valid
    exact ⟨Field.valid_value valid.1, ih valid.2⟩

/-- What the backend reads out of the bytes of a valid event. -/
theorem readAll_borsh {event : Event Pubkey} (valid : event.Valid) :
    ∃ record, (Record.format event.name.layout).readAll event.borsh = some record ∧
      ∀ r : Rendering Pubkey S, record.json r = event.json r := by
  rw [← fields_layout]
  refine ⟨recordOf event.fields, ?_, fun r => recordOf_json r event.fields⟩
  rw [Format.readAll_eq_some]
  exact ⟨valid_recordOf valid, (write_recordOf event.fields).symm⟩

/-! ### The dispatch table -/

section Dispatch

variable {discriminator : EventName → Vector UInt8 8}

theorem mem_dispatch (name : EventName) : name ∈ dispatch := by
  cases name <;> decide

/-- Distinct discriminators lead to one entry of the table. -/
theorem dispatch_find (distinct : Function.Injective discriminator) (name : EventName) :
    (dispatch.find? fun other => decide ((discriminator name).toList = (discriminator other).toList)) =
      some name := by
  obtain ⟨found, hit⟩ : ∃ found, (dispatch.find? fun other =>
      decide ((discriminator name).toList = (discriminator other).toList)) = some found := by
    rw [← Option.isSome_iff_exists, List.find?_isSome]
    exact ⟨name, mem_dispatch name, by simp⟩
  have same := List.find?_some hit
  simp only [decide_eq_true_eq] at same
  rw [hit, distinct (Vector.toList_inj.mp same)]

/-- The decoder accepts a byte string for an event exactly if it is the discriminator and one
written record, with nothing left. -/
theorem decode_eq_some (distinct : Function.Injective discriminator) (raw : Binary)
    (decoded : DecodedEvent String) :
    decode discriminator raw = .ok (some decoded) ↔
      ∃ record : Record Pubkey decoded.eventName.layout,
        (Record.format _).Valid record ∧
        raw = (discriminator decoded.eventName).toList ++ (Record.format _).write record ∧
        decoded.payload = .obj (record.json rendering) := by
  constructor
  · intro accepted
    unfold decode at accepted
    split at accepted
    · cases accepted
    next long =>
      split at accepted
      · cases accepted
      next name found =>
        split at accepted
        · cases accepted
        next record body =>
          obtain rfl := Option.some.inj (Except.ok.inj accepted)
          obtain ⟨valid, rest⟩ := (Format.readAll_eq_some _ _ _).mp body
          -- The name that was found has the eight bytes at the front.
          have head := List.find?_some found
          simp only [decide_eq_true_eq] at head
          exact ⟨record, valid, by rw [← head, ← rest, List.take_append_drop], rfl⟩
  · obtain ⟨name, payload⟩ := decoded
    rintro ⟨record, valid, rfl, shown⟩
    -- Cut after eight bytes: the discriminator, then the record and nothing else.
    have length : (discriminator name).toList.length = 8 := Vector.length_toList
    have long : ¬((discriminator name).toList ++ (Record.format _).write record).length < 8 := by
      rw [List.length_append, length]
      omega
    have head : ((discriminator name).toList ++ (Record.format _).write record).take 8 =
        (discriminator name).toList := List.take_left' length
    have body : ((discriminator name).toList ++ (Record.format _).write record).drop 8 =
        (Record.format _).write record := List.drop_left' length
    have whole := (Format.readAll_eq_some (Record.format name.layout) _ record).mpr ⟨valid, rfl⟩
    rw [decode, if_neg long, head, dispatch_find distinct, body]
    simp only [whole]
    rw [← shown]

end Dispatch

/-! ### Payloads tell events apart -/

theorem key_injective : Function.Injective rendering.key := by
  intro key other same
  have text : base58 key.toList = base58 other.toList := String.ofList_injective same
  apply Vector.toList_inj.mp
  exact base58_inj (by simp) text

theorem hash_injective : Function.Injective rendering.hash := by
  intro h other same
  have text : hex h.toList = hex other.toList := String.ofList_injective same
  exact Vector.toList_inj.mp (hex_injective text)

theorem categoryTag_injective : Function.Injective categoryTag := by
  intro c d same
  cases c <;> cases d <;> first | rfl | cases same

def Field.isName : Field K → Bool
  | name _ => true
  | _ => false

/-- Apart from names, fields of one type with the same JSON value are the same. -/
theorem Field.json_inj {field other : Field Pubkey} (kind : field.kind = other.kind)
    (label : field.isName = false) (same : field.json rendering = other.json rendering) :
    field = other := by
  cases field with
  | name => cases label
  | pubkey key =>
    cases other with
    | pubkey key' =>
      -- Texts and numbers are read back; everything else has another kind.
      have keys : rendering.key key = rendering.key key' := Json.str.inj same
      rw [key_injective keys]
    | _ => cases kind
  | hash h =>
    cases other with
    | hash h' =>
      have hashes : rendering.hash h = rendering.hash h' := Json.str.inj same
      rw [hash_injective hashes]
    | _ => cases kind
  | category c =>
    cases other with
    | category c' =>
      have tags : (categoryTag c : Int) = categoryTag c' := Json.num.inj same
      rw [categoryTag_injective (Int.ofNat.inj tags)]
    | _ => cases kind
  | pubkeys keys =>
    cases other with
    | pubkeys keys' =>
      have items := Json.arr.inj same
      have each : keys.toList = keys'.toList := by
        refine (List.map_injective_iff.mpr ?_) items
        intro key key' equal
        exact key_injective (Json.str.inj equal)
      rw [Vector.toList_inj.mp each]
    | _ => cases kind
  | bool b =>
    cases other with
    | bool b' => rw [show b = b' from Json.bool.inj same]
    | _ => cases kind
  | i8 v =>
    cases other with
    | i8 v' => rw [show v = v' from Json.num.inj same]
    | _ => cases kind
  | u64 n =>
    cases other with
    | u64 n' => rw [show n = n' from Int.ofNat.inj (Json.num.inj same)]
    | _ => cases kind
  | u32 n =>
    cases other with
    | u32 n' => rw [show n = n' from Int.ofNat.inj (Json.num.inj same)]
    | _ => cases kind
  | u16 n =>
    cases other with
    | u16 n' => rw [show n = n' from Int.ofNat.inj (Json.num.inj same)]
    | _ => cases kind

/-- The fields of an event without its label. -/
def Event.significant (event : Event K) : List (String × Field K) :=
  event.fields.filter fun f => !f.2.isName

theorem significant_inj {fields others : List (String × Field Pubkey)}
    (kinds : fields.map (fun f => (f.1, f.2.kind)) = others.map fun f => (f.1, f.2.kind))
    (same : fields.map (fun f => (f.1, f.2.json rendering)) =
      others.map fun f => (f.1, f.2.json rendering)) :
    fields.filter (fun f => !f.2.isName) = others.filter fun f => !f.2.isName := by
  induction fields generalizing others with
  | nil =>
    cases others with
    | nil => rfl
    | cons => cases kinds
  | cons f fields ih =>
    cases others with
    | nil => cases kinds
    | cons g others =>
      obtain ⟨field, value⟩ := f
      obtain ⟨field', value'⟩ := g
      simp only [List.map_cons, List.cons.injEq, Prod.mk.injEq] at kinds same
      obtain ⟨⟨rfl, kind⟩, kinds⟩ := kinds
      obtain ⟨⟨-, json⟩, same⟩ := same
      have labels : value.isName = value'.isName := by
        cases value <;> cases value' <;> first | rfl | cases kind
      cases label : value.isName with
      | true => simp [label, ← labels, ih kinds same]
      | false =>
        obtain rfl := Field.json_inj kind label json
        simp [label, ih kinds same]

/-! ### The decoder -/

theorem fields_nodup (event : Event K) : (event.fields.map Prod.fst).Nodup := by
  have names : event.fields.map Prod.fst = event.name.layout.map Prod.fst := by
    rw [← fields_layout, List.map_map]
    rfl
  rw [names]
  cases event.name <;> decide

theorem lookup_json {fields : List (String × Field K)} (distinct : (fields.map Prod.fst).Nodup)
    (r : Rendering K S) {f : String × Field K} (member : f ∈ fields) :
    (fields.map fun f => (f.1, f.2.json r)).lookup f.1 = some (f.2.json r) := by
  induction fields with
  | nil => cases member
  | cons g fields ih =>
    rw [List.map_cons, List.nodup_cons] at distinct
    rw [List.map_cons, List.lookup_cons]
    rcases List.mem_cons.mp member with rfl | later
    · simp
    · have apart : f.1 ≠ g.1 := by
        intro same
        exact distinct.1 (same ▸ List.mem_map_of_mem later)
      rw [beq_eq_false_iff_ne.mpr apart, ih distinct.2 later]

/-- Every field of an event appears in its payload under its name. -/
theorem Event.json_get (r : Rendering K S) (event : Event K) {f : String × Field K}
    (member : f ∈ event.fields) : (Json.obj (event.json r)).get f.1 = some (f.2.json r) :=
  lookup_json (fields_nodup event) r member

/-- The data of an event decodes to its name and its fields. -/
theorem decode_data {discriminator : EventName → Vector UInt8 8}
    (distinct : Function.Injective discriminator) {event : Event Pubkey} (valid : event.Valid) :
    decode discriminator (event.data discriminator) =
      .ok (some ⟨event.name, .obj (event.json rendering)⟩) := by
  obtain ⟨record, taken, shown⟩ := readAll_borsh (S := String) valid
  obtain ⟨fits, body⟩ := (Format.readAll_eq_some _ _ _).mp taken
  refine (decode_eq_some distinct _ _).mpr ⟨record, fits, ?_, ?_⟩
  · rw [Event.data, body]
  · rw [shown]

/-- The decoder undoes the encoder, tells events apart and accepts no second spelling. -/
theorem decoder_undoes_encoder (discriminator : EventName → Vector UInt8 8)
    (distinct : Function.Injective discriminator) :
    (∀ event : Event Pubkey, event.Valid →
      ∃ payload, decode discriminator (event.data discriminator) = .ok (some ⟨event.name, payload⟩) ∧
        payload = .obj (event.json rendering) ∧
        ∀ f ∈ event.fields, payload.get f.1 = some (f.2.json rendering)) ∧
    (∀ event other : Event Pubkey, event.name = other.name →
      event.json rendering = other.json rendering → event.significant = other.significant) ∧
    ∀ raw decoded, decode discriminator raw = .ok (some decoded) →
      ∃! record : Record Pubkey decoded.eventName.layout,
        (Record.format _).Valid record ∧
        raw = (discriminator decoded.eventName).toList ++ (Record.format _).write record ∧
        decoded.payload = .obj (record.json rendering) := by
  refine ⟨?_, ?_, ?_⟩
  · intro event valid
    exact ⟨_, decode_data distinct valid, rfl, fun f member => event.json_get rendering member⟩
  · intro event other name same
    have kinds := fields_layout event
    rw [name, ← fields_layout other] at kinds
    exact significant_inj kinds same
  · intro raw decoded accepted
    obtain ⟨record, valid, rfl, shown⟩ := (decode_eq_some distinct _ _).mp accepted
    refine ⟨record, ⟨valid, rfl, shown⟩, ?_⟩
    rintro other ⟨fits, same, -⟩
    exact (Format.write_inj _ valid fits (List.append_cancel_left same)).symm

/-- The first eight bytes of the SHA-256 hashes of `event:` and the name. -/
def anchorDiscriminator : EventName → Vector UInt8 8
  | .agentInitialized => #v[124, 252, 85, 27, 146, 101, 64, 160]
  | .serviceRegistered => #v[25, 219, 76, 223, 57, 191, 117, 38]
  | .serviceActiveSet => #v[151, 122, 7, 40, 191, 139, 237, 52]
  | .paymentRecorded => #v[214, 3, 212, 116, 135, 35, 104, 98]
  | .feedbackGiven => #v[64, 65, 2, 152, 174, 215, 156, 194]
  | .responseAppended => #v[168, 169, 214, 193, 171, 1, 232, 123]
  | .feedbackRevoked => #v[205, 16, 31, 94, 54, 101, 16, 199]
  | .scoreComputed => #v[52, 76, 80, 33, 2, 43, 75, 109]
  | .vaultCreated => #v[117, 25, 120, 254, 75, 236, 78, 115]
  | .deposited => #v[111, 141, 26, 45, 161, 35, 100, 57]
  | .spent => #v[43, 51, 164, 100, 191, 244, 174, 98]
  | .claimed => #v[217, 192, 123, 72, 108, 150, 248, 33]
  | .vaultFrozen => #v[13, 199, 172, 111, 88, 10, 151, 247]
  | .vaultUnfrozen => #v[128, 194, 79, 155, 85, 31, 226, 170]
  | .policyUpdated => #v[225, 112, 112, 67, 95, 236, 245, 161]
  | .withdrawn => #v[20, 89, 223, 198, 194, 124, 219, 13]
  | .spendRequested => #v[144, 207, 254, 247, 81, 146, 84, 87]
  | .spendRejected => #v[22, 233, 208, 109, 202, 231, 175, 22]

theorem anchorDiscriminator_eq (name : EventName) : (anchorDiscriminator name).toList =
    (Sha256.hash (Sha256.ascii ("event:" ++ name.text))).take 8 := by
  cases name <;> decide +kernel

theorem anchorDiscriminator_injective : Function.Injective anchorDiscriminator := by
  have distinct : (dispatch.map anchorDiscriminator).Nodup := by decide +kernel
  intro name other same
  exact List.inj_on_of_nodup_map distinct (mem_dispatch name) (mem_dispatch other) same

theorem decoder_undoes_encoder_anchor :
    ∃ payload, decode anchorDiscriminator
        (Event.data anchorDiscriminator
          (.reputation (.scoreComputed (Vector.replicate 32 8) 750 1000000))) =
        .ok (some ⟨.scoreComputed, payload⟩) ∧
      payload.get "score" = some (.num 750) := by
  have valid : Event.Valid (.reputation (.scoreComputed (K := Pubkey) (Vector.replicate 32 8) 750
      1000000)) := by
    simp [Event.Valid, Event.fields, reputationFields, Field.Valid]
  obtain ⟨decodes, -⟩ := decoder_undoes_encoder anchorDiscriminator anchorDiscriminator_injective
  obtain ⟨payload, accepted, -, shows⟩ := decodes _ valid
  exact ⟨payload, accepted, shows ("score", .u16 750) (by simp [Event.fields, reputationFields])⟩

end AgentFuel.Backend
