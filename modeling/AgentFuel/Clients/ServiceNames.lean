import AgentFuel.Clients.Layouts
import AgentFuel.Library.Unicode
import AgentFuel.Reputation.Interference

/-!
# The names of services

Two clients write a name into the 32 bytes that `register_service` stores, and two clients and the
backend read it from there. The bytes after the name are zero, which nothing tells apart from a
name that goes on with `U+0000`.
-/
namespace AgentFuel.Clients

open Checked Construct Reputation Solana Unicode

variable {K : Type} [DecidableEq K] [AddressSpace K]

/-! ### Strings and fields -/

/-- A string of JavaScript is a list of units of UTF-16. -/
abbrev JsString := List UInt16

/-- A string of Python is a list of code points, surrogates included. -/
abbrev PyString := List (Fin 0x110000)

def PyString.units (s : PyString) : JsString := s.flatMap fun point => Unicode.units point

/-- `NAME_BYTES` -/
def nameBytes : ℕ := 32

/-- `URI_BYTES` -/
def uriBytes : ℕ := 128

def zeroPadded (n : ℕ) (text : List UInt8) : Bytes n := Vector.ofFn fun i => text.getD i 0

theorem zeroPadded_toList {n : ℕ} {text : List UInt8} (fits : text.length ≤ n) :
    (zeroPadded n text).toList = text ++ List.replicate (n - text.length) 0 := by
  apply List.ext_getElem
  · simp only [Vector.length_toList, List.length_append, List.length_replicate]
    omega
  · intro i inside _
    simp only [zeroPadded, Vector.getElem_toList, Vector.getElem_ofFn]
    by_cases early : i < text.length
    · rw [List.getElem_append_left early, List.getD_eq_getElem _ _ early]
    · rw [List.getElem_append_right (by omega), List.getElem_replicate,
        List.getD_eq_default _ _ (by omega)]

/-! ### The writers -/

namespace TypeScript

inductive RegisterServiceError where
  | emptyName
  | longName (got : ℕ)
  | longUri (got : ℕ)
  deriving DecidableEq, Repr

def RegisterServiceError.message : RegisterServiceError → String
  | emptyName => "registerService: name must not be empty"
  | longName got => "registerService: name exceeds 32 bytes (got " ++ toString got ++ ")"
  | longUri got => "registerService: serviceUri exceeds 128 bytes (got " ++ toString got ++ ")"

structure RegisterServiceArgs (K : Type) [AddressSpace K] where
  sponsor : Signer K
  service : Signer K
  name : JsString
  category : ServiceCategory
  serviceUri : Option JsString

/-- `Buffer.byteLength(s, "utf8")`; a lone surrogate counts as its replacement. -/
def byteLength (s : JsString) : ℕ := (utf8 (scalars s)).length

/-- The characters that fit, of which the last one is not cut. -/
def fitting : ℕ → List Char → List Char
  | _, [] => []
  | room, c :: text => if c.utf8Size ≤ room then c :: fitting (room - c.utf8Size) text else []

/-- `Buffer.alloc(length)`, and `write` into it. -/
def packFixed (s : JsString) (length : ℕ) : Bytes length :=
  zeroPadded length (utf8 (fitting length (scalars s)))

def registerService (args : RegisterServiceArgs K) :
    Except RegisterServiceError (Reputation.Instruction K) := do
  require (args.name.length ≠ 0) .emptyName
  require (byteLength args.name ≤ nameBytes) (.longName (byteLength args.name))
  let uri := args.serviceUri.getD []
  require (byteLength uri ≤ uriBytes) (.longUri (byteLength uri))
  let registry := findProgramAddress (.service args.service.key)
  pure (.registerService ⟨args.sponsor, args.service, registry⟩ (packFixed args.name nameBytes)
    args.category (packFixed uri uriBytes))

end TypeScript

namespace Python

inductive ValueError where
  | emptyName
  | surrogate
  | long (length got : ℕ)
  deriving DecidableEq, Repr

/-- `str(err)`, but for what the codec says of a surrogate. -/
def ValueError.message (e : String) : ValueError → String
  | emptyName => "name must not be empty"
  | surrogate => e
  | long length got =>
    "value exceeds " ++ toString length ++ " bytes (got " ++ toString got ++ ")"

/-- The character at a code point that is no surrogate. -/
def character (point : Fin 0x110000) : Option Char :=
  if point.val.isValidChar then some (Char.ofNat point) else none

/-- `value.encode("utf-8")` -/
def encode (value : PyString) : Except ValueError (List UInt8) :=
  okOr ((value.mapM character).map utf8) .surrogate

/-- `_pack_fixed` -/
def packFixed (value : PyString) (length : ℕ) : Except ValueError (Bytes length) := do
  let encoded ← encode value
  require (encoded.length ≤ length) (.long length encoded.length)
  pure (zeroPadded length encoded)

/-- `_category_index` -/
def categoryIndex : ServiceCategory → UInt8
  | .dataFeed => 0
  | .compute => 1
  | .swap => 2
  | .rpc => 3
  | .other => 4

/-- `anchor_discriminator` -/
def anchorDiscriminator (name : String) : Binary :=
  (Sha256.hash (Sha256.ascii ("global:" ++ name))).take 8

/-- The data of `register_service_ix`. -/
def registerServiceIx (name : PyString) (category : ServiceCategory) (serviceUri : PyString) :
    Except ValueError Binary := do
  require (name ≠ []) .emptyName
  let packedName ← packFixed name nameBytes
  let packedUri ← packFixed serviceUri uriBytes
  pure (anchorDiscriminator "register_service" ++ packedName.toList ++ [categoryIndex category] ++
    packedUri.toList)

end Python

/-- The arguments as the program reads them from the data of the instruction. -/
def registerServiceArgs : Layout (Bytes 32 × UInt8 × Bytes 128) := do
  const (Python.anchorDiscriminator "register_service")
  let name ← bytes 32
  let category ← int8ub
  let serviceUri ← bytes 128
  pure (name, category, serviceUri)

/-! ### The readers -/

/-- `nameFromBytes` -/
def TypeScript.nameFromBytes (bytes : List UInt8) : JsString :=
  utf16 (lossy (bytes.takeWhile fun b => decide (b ≠ 0)))

/-- `_utf8_trim` with the decoder that replaces. -/
def Python.nameOf (bytes : List UInt8) : String :=
  Python.utf8Trim (fun b => String.ofList (lossy b)) bytes

/-- The three readers read the name. -/
structure Survives (name : JsString) (stored : Bytes 32) : Prop where
  typescript : TypeScript.nameFromBytes stored.toList = name
  python : utf16 (Python.nameOf stored.toList).toList = name
  backend : utf16 (Backend.nameText stored).toList = name

/-! ### Registration -/

/-- The registry is there after the instruction. -/
def Lands (service : K) (ix : Reputation.Instruction K) (registry : ServiceRegistry K) : Prop :=
  ∃ w w', Reachable w ∧ step w (.program ix) = .ok w' ∧
    w'.services (findProgramAddress (.service service)) = some registry

/-- A client accepts the name, and these bytes are stored. -/
inductive Registered (K : Type) [DecidableEq K] [AddressSpace K] : JsString → Bytes 32 → Prop
  | typescript {args : TypeScript.RegisterServiceArgs K} {ix : Reputation.Instruction K}
    {registry : ServiceRegistry K} (sent : TypeScript.registerService args = .ok ix)
    (lands : Lands args.service.key ix registry) : Registered K args.name registry.name
  | python {ctx : RegisterService K} {name uri : PyString} {category category' : ServiceCategory}
    {data : Binary} {tag : UInt8} {packedName : Bytes 32} {packedUri : Bytes 128}
    {registry : ServiceRegistry K} (sent : Python.registerServiceIx name category uri = .ok data)
    (received : registerServiceArgs.parse data = some (packedName, tag, packedUri))
    (variant : tag.toNat = Backend.categoryTag category')
    (lands : Lands ctx.service.key (.registerService ctx packedName category' packedUri) registry) :
    Registered K name.units registry.name

theorem Lands.name {ctx : RegisterService K} {name : Bytes 32} {category : ServiceCategory}
    {uri : Bytes 128} {registry : ServiceRegistry K}
    (lands : Lands ctx.service.key (.registerService ctx name category uri) registry) :
    registry.name = name := by
  obtain ⟨w, w', reachable, landed, found⟩ := lands
  simp only [step, map_eq_ok] at landed
  obtain ⟨⟨_, ev⟩, handled, rfl⟩ := landed
  obtain ⟨address, -, rfl, -⟩ := (ctx.handler_ok reachable.wellFormed).mp handled
  rw [← address] at found
  simp only [World.setService, Function.update_self, Option.some.injEq] at found
  rw [← found]
  rfl

omit [DecidableEq K] in
theorem TypeScript.registerService_eq_ok {args : TypeScript.RegisterServiceArgs K}
    {ix : Reputation.Instruction K} : TypeScript.registerService args = .ok ix ↔
      args.name ≠ [] ∧ byteLength args.name ≤ nameBytes ∧
        byteLength (args.serviceUri.getD []) ≤ uriBytes ∧
        .registerService
          ⟨args.sponsor, args.service, findProgramAddress (.service args.service.key)⟩
          (packFixed args.name nameBytes) args.category
          (packFixed (args.serviceUri.getD []) uriBytes) = ix := by
  simp [registerService]

theorem TypeScript.fitting_eq_self {room : ℕ} {text : List Char}
    (fits : (utf8 text).length ≤ room) : fitting room text = text := by
  induction text generalizing room with
  | nil => simp [fitting]
  | cons c text ih =>
    rw [utf8, List.flatMap_cons, List.length_append, String.length_utf8EncodeChar, ← utf8] at fits
    rw [fitting, if_pos (by omega), ih (by omega)]

/-- What is stored of a name that is accepted: its characters in UTF-8, and zeros. -/
structure Stores (name : JsString) (stored : Bytes 32) : Prop where
  fits : (utf8 (scalars name)).length ≤ 32
  bytes : stored = zeroPadded 32 (utf8 (scalars name))

theorem Python.character_eq_some {point : Fin 0x110000} {c : Char}
    (found : character point = some c) : c.toNat = point := by
  unfold character at found
  split at found
  next valid =>
    rw [← Option.some.inj found]
    exact toNat_ofNat valid
  · cases found

/-- The units of a string without surrogates are those of its characters. -/
theorem Python.units_eq {name : PyString} {text : List Char}
    (encoded : name.mapM character = some text) : name.units = utf16 text := by
  induction name generalizing text with
  | nil =>
    obtain rfl : [] = text := by simpa using encoded
    rfl
  | cons point name ih =>
    simp only [List.mapM_cons, Option.pure_def, Option.bind_eq_bind, Option.bind_eq_some_iff,
      Option.some.injEq] at encoded
    obtain ⟨c, first, rest, later, rfl⟩ := encoded
    rw [utf16_cons, ← ih later, character_eq_some first]
    rfl

/-- The program reads the fields where the client has put them. -/
theorem Python.registerServiceIx_reads {name uri : PyString} {category : ServiceCategory}
    {data : Binary} (sent : registerServiceIx name category uri = .ok data) :
    ∃ text packedUri, name.mapM character = some text ∧ (utf8 text).length ≤ 32 ∧
      registerServiceArgs.parse data =
        some (zeroPadded 32 (utf8 text), categoryIndex category, packedUri) := by
  simp only [registerServiceIx, packFixed, encode, bind_eq_ok, require_eq_ok, okOr_eq_ok,
    pure_eq_ok, Option.map_eq_some_iff] at sent
  obtain ⟨-, -, packedName, ⟨_, ⟨text, encoded, rfl⟩, -, fits, rfl⟩, packedUri, -, rfl⟩ := sent
  refine ⟨text, packedUri, encoded, fits, ?_⟩
  have reads : Reads registerServiceArgs
      (zeroPadded 32 (utf8 text), categoryIndex category, packedUri) _ :=
    .bind (reads_const _) (.bind (reads_bytes _) (.bind (reads_byte _) (.bind (reads_bytes _)
      (.pure _))))
  have whole := reads.whole
  simp only [List.append_nil, List.singleton_append] at whole
  simp only [List.append_assoc, List.singleton_append]
  exact whole

theorem Registered.stores {name : JsString} {stored : Bytes 32}
    (registered : Registered K name stored) : Stores name stored := by
  cases registered with
  | typescript sent lands =>
    obtain ⟨-, fits, -, rfl⟩ := TypeScript.registerService_eq_ok.mp sent
    refine ⟨fits, ?_⟩
    rw [lands.name, TypeScript.packFixed, TypeScript.fitting_eq_self fits]
    rfl
  | python sent received _ lands =>
    obtain ⟨text, packedUri, encoded, fits, parsed⟩ := Python.registerServiceIx_reads sent
    have fields := Option.some.inj (parsed.symm.trans received)
    rw [Python.units_eq encoded, lands.name, ← (Prod.mk.inj fields).1]
    constructor
    · rw [scalars_utf16]
      exact fits
    · rw [scalars_utf16]

/-! ### What is read -/

/-- Neither a lone surrogate nor `U+0000`. -/
def Clean (name : JsString) : Prop := isWellFormed name = true ∧ 0 ∉ name

instance (name : JsString) : Decidable (Clean name) := inferInstanceAs (Decidable (_ ∧ _))

section Stored

variable {name other : JsString} {stored stored' : Bytes 32}

/-- What the readers see of the name. -/
theorem Stores.label (stores : Stores name stored) :
    stored.toList.takeWhile (fun b => decide (b ≠ 0)) =
      utf8 ((scalars name).takeWhile fun c => decide (c ≠ null)) := by
  rw [stores.bytes, zeroPadded_toList stores.fits]
  exact takeWhile_utf8 _ _

/-- All three read the same text: what stands before the first `U+0000`. -/
theorem Stores.read (stores : Stores name stored) {text : List Char}
    (before : (scalars name).takeWhile (fun c => decide (c ≠ null)) = text) :
    TypeScript.nameFromBytes stored.toList = utf16 text ∧
      Python.nameOf stored.toList = String.ofList text ∧
      Backend.nameText stored = String.ofList text := by
  have label := stores.label
  rw [before] at label
  refine ⟨?_, ?_, ?_⟩
  · rw [TypeScript.nameFromBytes, label, lossy_utf8]
  · rw [Python.nameOf, Python.utf8Trim, label, lossy_utf8]
  · simp only [Backend.nameText, label, fromUTF8?_utf8]

theorem Clean.takeWhile (clean : Clean name) :
    (scalars name).takeWhile (fun c => decide (c ≠ null)) = scalars name := by
  rw [List.takeWhile_eq_self_iff]
  intro c member
  apply decide_eq_true
  rintro rfl
  exact clean.2 ((null_mem_scalars name).mp member)

theorem Stores.survives_iff (stores : Stores name stored) : Survives name stored ↔ Clean name := by
  constructor
  · intro survives
    -- What one reader gives back has the characters of the name, so none was cut off or replaced.
    have same : utf16 ((scalars name).takeWhile fun c => decide (c ≠ null)) = name := by
      rw [← (stores.read rfl).1]
      exact survives.typescript
    have characters := congrArg scalars same
    rw [scalars_utf16] at characters
    constructor
    · rw [← utf16_scalars, ← characters, same]
    · intro zero
      have member := (null_mem_scalars name).mpr zero
      rw [← characters] at member
      have kept := List.mem_takeWhile_imp member
      exact of_decide_eq_true kept rfl
  · intro clean
    obtain ⟨typescript, python, backend⟩ := stores.read clean.takeWhile
    have back := (utf16_scalars name).mpr clean.1
    constructor
    · rw [typescript, back]
    · rw [python, String.toList_ofList, back]
    · rw [backend, String.toList_ofList, back]

/-- Clean names are told apart by their bytes. -/
theorem Stores.inj (stores : Stores name stored) (stores' : Stores other stored)
    (clean : Clean name) (clean' : Clean other) : name = other := by
  have survives := stores.survives_iff.mpr clean
  have survives' := stores'.survives_iff.mpr clean'
  exact survives.typescript.symm.trans survives'.typescript

/-- The names that are accepted and come back, and stay apart, are the clean ones. -/
theorem service_names_survive_iff (first : Registered K name stored)
    (second : Registered K other stored') :
    (Survives name stored ∧ Survives other stored' ∧ (name ≠ other → stored ≠ stored')) ↔
      Clean name ∧ Clean other := by
  constructor
  · rintro ⟨survives, survives', -⟩
    exact ⟨first.stores.survives_iff.mp survives, second.stores.survives_iff.mp survives'⟩
  · rintro ⟨clean, clean'⟩
    refine ⟨first.stores.survives_iff.mpr clean, second.stores.survives_iff.mpr clean', ?_⟩
    rintro apart rfl
    exact apart (first.stores.inj second.stores clean clean')

end Stored

/-! ### Registrations on symbolic keys -/

/-- Where there is no registry yet, the instruction goes through. -/
theorem lands_vacant {ctx : RegisterService K} {w : World K} (reachable : Reachable w)
    (address : ctx.serviceRegistry = findProgramAddress (.service ctx.service.key))
    (vacant : w.services ctx.serviceRegistry = none) (name : Bytes 32) (category : ServiceCategory)
    (uri : Bytes 128) :
    Lands ctx.service.key (.registerService ctx name category uri)
      (ctx.registry w.slot name category uri) := by
  have handled : ctx.handler w name category uri = .ok _ :=
    (ctx.handler_ok reachable.wellFormed).mpr ⟨address, vacant, rfl, rfl⟩
  refine ⟨w, w.setService ctx.serviceRegistry (ctx.registry w.slot name category uri), reachable,
    ?_, ?_⟩
  · simp only [step, map_eq_ok]
    exact ⟨_, handled, rfl⟩
  · rw [← address]
    simp [World.setService]

namespace Bazaar

open SymbolicKey

theorem reachable : Reachable Reputation.Bazaar.empty :=
  ⟨_, [], ⟨fun _ => ⟨rfl, rfl, rfl, rfl, rfl⟩⟩, .nil⟩

/-- A client of TypeScript registers what it accepts. -/
theorem registered (name : JsString) (nonempty : name ≠ [])
    (fits : TypeScript.byteLength name ≤ nameBytes) :
    ∃ stored, Registered SymbolicKey name stored := by
  have noUri : TypeScript.byteLength [] ≤ uriBytes := by decide
  have accepted : TypeScript.registerService (K := SymbolicKey)
      ⟨signer 0, signer 1, name, .compute, none⟩ = .ok _ :=
    TypeScript.registerService_eq_ok.mpr ⟨nonempty, fits, noUri, rfl⟩
  exact ⟨_, .typescript accepted (lands_vacant reachable rfl rfl _ _ _)⟩

/-- And a client of Python what it can encode. -/
theorem registered_python {name : PyString} {text : List Char}
    (encoded : name.mapM Python.character = some text) (nonempty : name ≠ [])
    (fits : (utf8 text).length ≤ nameBytes) : ∃ stored, Registered SymbolicKey name.units stored := by
  have noUri : (utf8 []).length ≤ uriBytes := Nat.zero_le _
  have accepted : ∃ data, Python.registerServiceIx name .compute [] = .ok data := by
    simp [Python.registerServiceIx, Python.packFixed, Python.encode, encoded, nonempty, fits, noUri]
  obtain ⟨data, sent⟩ := accepted
  obtain ⟨text', packedUri, -, -, received⟩ := Python.registerServiceIx_reads sent
  let ctx : RegisterService SymbolicKey :=
    ⟨signer 0, signer 1, findProgramAddress (.service (signer 1).key)⟩
  have lands := @lands_vacant _ _ _ ctx _ reachable rfl rfl (zeroPadded 32 (utf8 text')) .compute packedUri
  exact ⟨_, .python sent received rfl lands⟩

/-- A name that fills its field. -/
def full : JsString := "agent fuel compute marketplace 1".toList.map fun c => UInt16.ofNat c.toNat

/-- Characters of one, two and four bytes. -/
def weather : PyString :=
  ['W', 'e', 't', 't', 'e', 'r', ' ', 'Z', 'ü', 'r', 'i', 'c', 'h', ' ', '🌦'].map fun c =>
    Fin.ofNat 0x110000 c.toNat

end Bazaar

theorem service_names_survive_bazaar : ∃ stored stored',
    Registered SymbolicKey Bazaar.full stored ∧ Registered SymbolicKey Bazaar.weather.units stored' ∧
      TypeScript.byteLength Bazaar.full = nameBytes ∧ TypeScript.byteLength Bazaar.weather.units = 19 ∧
      Survives Bazaar.full stored ∧ Survives Bazaar.weather.units stored' ∧ stored ≠ stored' := by
  obtain ⟨stored, first⟩ := Bazaar.registered Bazaar.full (by decide +kernel) (by decide +kernel)
  obtain ⟨text, encoded⟩ : ∃ text, Bazaar.weather.mapM Python.character = some text :=
    Option.isSome_iff_exists.mp (by decide +kernel)
  have fits : (Bazaar.weather.mapM Python.character).map (fun text => (utf8 text).length) = some 19 := by
    decide +kernel
  rw [encoded, Option.map_some, Option.some.injEq] at fits
  obtain ⟨stored', second⟩ := Bazaar.registered_python encoded (by decide) (by rw [fits]; decide)
  have clean : Clean Bazaar.full ∧ Clean Bazaar.weather.units := by decide +kernel
  obtain ⟨survives, survives', apart⟩ := (service_names_survive_iff first second).mpr clean
  exact ⟨stored, stored', first, second, by decide +kernel, by decide +kernel, survives, survives',
    apart (by decide +kernel)⟩

/-- The letter `a` and `U+0000`. -/
theorem null_name_cut : ¬∀ name other stored stored', Registered SymbolicKey name stored →
    Registered SymbolicKey other stored' →
    Survives name stored ∧ Survives other stored' ∧ (name ≠ other → stored ≠ stored') := by
  intro every
  obtain ⟨stored, registered⟩ := Bazaar.registered [97, 0] (by decide) (by decide)
  have survives := (every _ _ _ _ registered registered).1
  exact absurd (registered.stores.survives_iff.mp survives) (by decide)

end AgentFuel.Clients
