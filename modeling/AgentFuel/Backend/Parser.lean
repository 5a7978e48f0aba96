import AgentFuel.Backend.Events
import AgentFuel.Library.Brackets
import AgentFuel.Library.Text

/-!
# The log parser

A delivered transaction carries its log lines as JSON strings. The parser keeps a stack of the
programs whose invocation it has read and attributes each event to the one on top.
-/
namespace AgentFuel.Backend

open Encodings

structure ParsedEvent (S : Type) where
  signature : String
  slot : Int
  logIndex : Nat
  programId : Text
  decoded : DecodedEvent S

inductive ParseError where
  | json
  | unexpectedRoot
  deriving DecidableEq, Repr

/-- The program that a line invokes. -/
def parseInvoke (line : Text) : Option Text := do
  let rest ← Text.stripPrefix "Program ".toList line
  let (program, after) ← Text.splitOnce ' ' rest
  if "invoke ".toList.isPrefixOf after then some program else none

def parseTerminator (line : Text) : Bool :=
  match Text.stripPrefix "Program ".toList line with
  | none => false
  | some rest =>
    match Text.splitOnce ' ' rest with
    | none => false
    | some (_, after) => after = "success".toList || "failed:".toList.isPrefixOf after

/-- `Value::pointer`. A step is a field name and, where it reads as one, an array index. -/
def pointer (json : Json String) (path : List (String × Option Nat)) : Option (Json String) :=
  path.foldl (fun found step => found.bind fun value => value.child step.1 step.2) (some json)

/-- The flat signature, or the first of the list of the raw shape. -/
def signatureOf (tx : Json String) : String :=
  let flat := (tx.get "signature").bind Json.asStr
  let raw := (pointer tx [("transaction", none), ("signatures", none), ("0", some 0)]).bind Json.asStr
  (flat.or raw).getD ""

def slotOf (tx : Json String) : Int := ((tx.get "slot").bind Json.asI64).getD 0

/-- The log lines of the raw shape, or of the nested one. -/
def logMessages (tx : Json String) : Option (List (Json String)) :=
  let raw := pointer tx [("meta", none), ("logMessages", none)]
  let nested := pointer tx [("transaction", none), ("meta", none), ("logMessages", none)]
  (raw.or nested).bind Json.asArray

/-- The state of the loop over the lines of one transaction. -/
structure Cursor where
  stack : List Text
  logIndex : Nat
  out : List (ParsedEvent String)

def Cursor.start : Cursor := ⟨[], 0, []⟩

section Reading

variable (discriminator : EventName → Vector UInt8 8)

/-- One pass of the loop. -/
def readLine (signature : String) (slot : Int) (cursor : Cursor) (line : Text) : Cursor :=
  match parseInvoke line with
  | some program => { cursor with stack := program :: cursor.stack }
  | none =>
    if parseTerminator line then { cursor with stack := cursor.stack.tail }
    else
      match Text.stripPrefix "Program data: ".toList line, cursor.stack with
      | some b64, programId :: _ =>
        match ofBase64 (Text.trim b64) with
        | none => cursor
        | some raw =>
          match decode discriminator raw with
          | .ok (some decoded) =>
            { cursor with
              logIndex := cursor.logIndex + 1
              out := cursor.out ++ [⟨signature, slot, cursor.logIndex, programId, decoded⟩] }
          | .ok none => cursor
          | .error _ => cursor
      | _, _ => cursor

/-- `parse_one`. Transactions without a signature or without logs are passed over. -/
def parseOne (tx : Json String) : List (ParsedEvent String) :=
  if signatureOf tx = "" then []
  else
    match logMessages tx with
    | none => []
    | some logs =>
      let lines := (logs.filterMap Json.asStr).map String.toList
      (lines.foldl (readLine discriminator (signatureOf tx) (slotOf tx)) .start).out

/-- `parse`, from what the body is as JSON. -/
def parse (body : Option (Json String)) : Except ParseError (List (ParsedEvent String)) :=
  match body with
  | none => .error .json
  | some (.arr txs) => .ok (txs.flatMap (parseOne discriminator))
  | some (.obj fields) => .ok (parseOne discriminator (.obj fields))
  | some _ => .error .unexpectedRoot

/-- The event on a data line. -/
def dataEvent (line : Text) : Option (DecodedEvent String) := do
  let b64 ← Text.stripPrefix "Program data: ".toList line
  let raw ← ofBase64 (Text.trim b64)
  match decode discriminator raw with
  | .ok decoded => decoded
  | .error _ => none

/-- The event the loop takes from a line, given a program to attribute it to. -/
def lineEvent (line : Text) : Option (DecodedEvent String) :=
  match parseInvoke line with
  | some _ => none
  | none => if parseTerminator line then none else dataEvent discriminator line

/-- The events of a transaction in the order found, numbered from `first`. -/
def numbered (signature : String) (slot : Int) (first : Nat)
    (found : List (Text × DecodedEvent String)) : List (ParsedEvent String) :=
  (found.zipIdx first).map fun ((program, decoded), i) => ⟨signature, slot, i, program, decoded⟩

end Reading

variable {discriminator : EventName → Vector UInt8 8} {signature : String} {slot : Int}

theorem numbered_cons (first : Nat) (program : Text) (decoded : DecodedEvent String)
    (found : List (Text × DecodedEvent String)) :
    numbered signature slot first ((program, decoded) :: found) =
      ⟨signature, slot, first, program, decoded⟩ :: numbered signature slot (first + 1) found := rfl

theorem numbered_inj {first : Nat} {found others : List (Text × DecodedEvent String)}
    (same : numbered signature slot first found = numbered signature slot first others) :
    found = others := by
  induction found generalizing first others with
  | nil =>
    cases others with
    | nil => rfl
    | cons => cases same
  | cons f found ih =>
    cases others with
    | nil => cases same
    | cons g others =>
      rw [numbered_cons, numbered_cons, List.cons.injEq, ParsedEvent.mk.injEq] at same
      obtain ⟨⟨-, -, -, program, decoded⟩, later⟩ := same
      rw [ih later, Prod.ext program decoded]

theorem mem_numbered {first : Nat} {found : List (Text × DecodedEvent String)}
    {event : ParsedEvent String} (member : event ∈ numbered signature slot first found) :
    event.signature = signature ∧ event.slot = slot ∧ (event.programId, event.decoded) ∈ found := by
  obtain ⟨⟨⟨program, decoded⟩, i⟩, paired, rfl⟩ := List.mem_map.mp member
  exact ⟨rfl, rfl, List.fst_mem_of_mem_zipIdx paired⟩

theorem slotOf_range (tx : Json String) : -2 ^ 63 ≤ slotOf tx ∧ slotOf tx < 2 ^ 63 := by
  unfold slotOf
  cases found : (tx.get "slot").bind Json.asI64 with
  | none => exact ⟨by decide, by decide⟩
  | some slot =>
    obtain ⟨value, -, read⟩ := Option.bind_eq_some_iff.mp found
    cases value with
    | num n =>
      simp only [Json.asI64] at read
      split at read
      next range =>
        obtain rfl := Option.some.inj read
        exact range
      next => exact absurd read nofun
    | _ => exact absurd read nofun

/-- All that one pass of the loop can do. -/
theorem readLine_eq (cursor : Cursor) (line : Text) :
    readLine discriminator signature slot cursor line =
      match cursor.stack, lineEvent discriminator line with
      | program :: _, some decoded =>
        ⟨Brackets.push parseInvoke parseTerminator cursor.stack line, cursor.logIndex + 1,
          cursor.out ++ [⟨signature, slot, cursor.logIndex, program, decoded⟩]⟩
      | _, _ =>
        ⟨Brackets.push parseInvoke parseTerminator cursor.stack line, cursor.logIndex, cursor.out⟩ := by
  obtain ⟨stack, logIndex, out⟩ := cursor
  unfold readLine lineEvent Brackets.push
  cases invoked : parseInvoke line with
  | some program => cases stack <;> rfl
  | none =>
    cases ended : parseTerminator line with
    | true => cases stack <;> rfl
    | false =>
      simp only [Bool.false_eq_true, if_false]
      -- A line that is no bracket is an event if it can be decoded and some program is running.
      unfold dataEvent
      cases stack with
      | nil => split <;> first | rfl | simp_all
      | cons program stack =>
        cases Text.stripPrefix "Program data: ".toList line with
        | none => rfl
        | some b64 =>
          cases bytes : ofBase64 (Text.trim b64) with
          | none => simp [bytes]
          | some raw =>
            cases decodes : decode discriminator raw with
            | error => simp [bytes, decodes]
            | ok decoded => cases decoded <;> simp [bytes, decodes]

/-- The loop finds the events that stand in a bracket and numbers them. -/
theorem foldl_readLine (lines : List Text) (cursor : Cursor) :
    (lines.foldl (readLine discriminator signature slot) cursor).out =
      cursor.out ++ numbered signature slot cursor.logIndex
        (Brackets.attributed parseInvoke parseTerminator (lineEvent discriminator) cursor.stack
          lines) := by
  induction lines generalizing cursor with
  | nil => simp [Brackets.attributed, numbered]
  | cons line lines ih =>
    rw [List.foldl_cons, ih, readLine_eq]
    obtain ⟨stack, logIndex, out⟩ := cursor
    cases stack with
    | nil => rfl
    | cons program stack =>
      cases event : lineEvent discriminator line with
      | none => simp [Brackets.attributed, event]
      | some decoded =>
        simp only [Brackets.attributed, event, numbered_cons, List.append_assoc, List.cons_append,
          List.nil_append]

end AgentFuel.Backend
