import AgentFuel.Library.Format

/-!
# Declarative binary layouts

Layouts as the `construct` package of Python reads them: the fields of a structure are read off
the front of the data one after the other, and what follows the last one is left alone.
-/
namespace Construct

variable {α β : Type}

/-- A field takes its bytes off the front of the data, or fails. -/
abbrev Layout (α : Type) := StateT Binary Option α

def Layout.parse (layout : Layout α) (data : Binary) : Option α := (layout.run data).map Prod.fst

/-- `Array(n, ...)` of fields with a format of their own. -/
def array (n : Nat) (format : Format α) : Layout (Vector α n) := (Format.array n format).read

/-- `Bytes(n)` -/
def bytes (n : Nat) : Layout (Vector UInt8 n) := array n .byte

/-- `Int8ub` -/
def int8ub : Layout UInt8 := Format.byte.read

/-- `Int16ul`, `Int32ul` and `Int64ul`, by their number of bytes. -/
def int (width : Nat) : Layout Nat := Format.readNat width

/-- `Flag`: every byte but zero is true. -/
def flag : Layout Bool := fun data =>
  match data with
  | [] => none
  | b :: rest => some (decide (b ≠ 0), rest)

/-- `Const` -/
def const (expected : Binary) : Layout Unit := fun data =>
  if data.take expected.length = expected then some ((), data.drop expected.length) else none

/-! ### What a layout reads off which bytes -/

/-- The layout reads a value off exactly these bytes, whatever follows. -/
def Reads (layout : Layout α) (a : α) (data : Binary) : Prop :=
  ∀ rest, layout.run (data ++ rest) = some (a, rest)

variable {layout : Layout α} {next : α → Layout β} {a : α} {b : β} {data more rest : Binary}

theorem Reads.pure (a : α) : Reads (pure a) a [] := fun _ => rfl

theorem Reads.bind (first : Reads layout a data) (second : Reads (next a) b more) :
    Reads (layout >>= next) b (data ++ more) := by
  intro rest
  rw [StateT.run_bind, List.append_assoc, first]
  exact second rest

theorem Reads.parse (reads : Reads layout a data) : layout.parse (data ++ rest) = some a := by
  unfold Layout.parse
  rw [reads rest]
  rfl

theorem Reads.whole (reads : Reads layout a data) : layout.parse data = some a := by
  have parsed : layout.parse (data ++ []) = some a := reads.parse
  rwa [List.append_nil] at parsed

theorem reads_array {n : Nat} {format : Format α} {v : Vector α n}
    (valid : ∀ a ∈ v.toList, format.Valid a) :
    Reads (array n format) v (v.toList.flatMap format.write) :=
  fun rest => (Format.array n format).read_write v rest valid

theorem reads_bytes {n : Nat} (v : Vector UInt8 n) : Reads (bytes n) v v.toList := by
  have reads := @reads_array _ n .byte v fun _ _ => trivial
  rwa [show v.toList.flatMap Format.byte.write = v.toList from List.flatMap_singleton' _] at reads

theorem reads_int {width n : Nat} (fits : n < 256 ^ width) :
    Reads (int width) n (Format.writeNat width n) :=
  fun rest => Format.readNat_writeNat width n rest fits

theorem reads_byte (b : UInt8) : Reads int8ub b [b] := fun _ => rfl

theorem reads_flag (b : Bool) : Reads flag b [if b then 1 else 0] := by
  intro rest
  cases b <;> rfl

theorem reads_const (expected : Binary) : Reads (const expected) () expected := by
  intro rest
  unfold const StateT.run
  simp

/-- A constant that is not there is not read. -/
theorem const_ne {expected data : Binary} (length : data.length = expected.length)
    (differ : data ≠ expected) : (const expected).run (data ++ rest) = none := by
  unfold const StateT.run
  dsimp only
  rw [← length, List.take_left, if_neg differ]

theorem writeNat_length (width n : Nat) : (Format.writeNat width n).length = width := by
  induction width generalizing n with
  | zero => rfl
  | succ width ih => rw [Format.writeNat, List.length_cons, ih]

/-- A slice behind a known number of bytes. -/
theorem slice_append (front field back : Binary) :
    ((front ++ field ++ back).drop front.length).take field.length = field := by
  simp

end Construct
