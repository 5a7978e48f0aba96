import AgentFuel.Library.Format

/-!
# Tagged values

A tag stands before a value and says which variant it is. Where the tags have one length and
differ, the tag decides the variant, whatever the order in which the variants are tried.
-/
namespace Format

/-- One byte for a value of an enumeration, its number; other bytes stand for nothing. -/
def enumeration (count : ℕ) : Format (Fin count) where
  Valid i := i.val < 256
  write i := [UInt8.ofNat i]
  read data := (byte.read data).bind fun (taken : UInt8 × Binary) =>
    if small : taken.1.toNat < count then some (⟨taken.1.toNat, small⟩, taken.2) else none
  read_write := by
    intro i rest fits
    have stored : (UInt8.ofNat i.val).toNat = i.val := by
      rw [UInt8.toNat_ofNat']
      omega
    have first : byte.read ([UInt8.ofNat i] ++ rest) = some (UInt8.ofNat i, rest) := rfl
    simp only [first, Option.bind_some, stored, i.isLt, dite_true]
  write_read := by
    intro data i rest taken
    simp only [Option.bind_eq_some_iff, Option.dite_none_right_eq_some, Option.some.injEq,
      Prod.mk.injEq] at taken
    obtain ⟨⟨b, rest⟩, first, small, rfl, rfl⟩ := taken
    obtain ⟨-, rfl⟩ := byte.write_read first
    refine ⟨b.toNat_lt, ?_⟩
    rw [UInt8.ofNat_toNat]
    rfl

/-- `n` bytes as they are. -/
def bytes (n : ℕ) : Format (Vector UInt8 n) := array n byte

theorem bytes_valid {n : ℕ} (v : Vector UInt8 n) : (bytes n).Valid v := fun _ _ => trivial

theorem bytes_write {n : ℕ} (v : Vector UInt8 n) : (bytes n).write v = v.toList :=
  List.flatMap_singleton' _

end Format

namespace Tagged

variable {ι : Type*} {tag : ι → Binary} {variants : List ι} {width : ℕ}

/-- The first variant whose tag the data begins with. -/
def select (tag : ι → Binary) (variants : List ι) (data : Binary) : Option ι :=
  variants.find? fun v => (tag v).isPrefixOf data

/-- Two tags of one length that stand before the same data are the same tag. -/
theorem eq_of_begins {data left right : Binary} (length : left.length = right.length)
    (first : left <+: data) (second : right <+: data) : left = right :=
  (List.prefix_of_prefix_length_le first second length.le).eq_of_length length

/-- The variant that is selected is the one whose tag is there. -/
theorem select_eq_some {data : Binary} {v : ι} (length : ∀ u ∈ variants, (tag u).length = width)
    (distinct : (variants.map tag).Nodup) :
    select tag variants data = some v ↔ v ∈ variants ∧ tag v <+: data := by
  induction variants with
  | nil => simp [select]
  | cons u rest ih =>
    rw [List.map_cons, List.nodup_cons] at distinct
    have others := ih (fun u member => length u (List.mem_cons_of_mem _ member)) distinct.2
    unfold select at others ⊢
    rw [List.find?_cons]
    cases begins : (tag u).isPrefixOf data with
    | true =>
      have first : tag u <+: data := List.isPrefixOf_iff_prefix.mp begins
      constructor
      · intro same
        obtain rfl := Option.some.inj same
        exact ⟨List.mem_cons_self, first⟩
      · rintro ⟨member, second⟩
        -- A variant further down with this tag is excluded, as no tag stands twice.
        rcases List.mem_cons.mp member with rfl | later
        · rfl
        · have alike := eq_of_begins
            ((length u List.mem_cons_self).trans (length v member).symm) first second
          exact absurd (alike ▸ List.mem_map_of_mem later) distinct.1
    | false =>
      have differs : ¬tag u <+: data := by
        rw [← List.isPrefixOf_iff_prefix, begins]
        exact Bool.false_ne_true
      rw [others]
      constructor
      · rintro ⟨member, second⟩
        exact ⟨List.mem_cons_of_mem _ member, second⟩
      · rintro ⟨member, second⟩
        rcases List.mem_cons.mp member with rfl | later
        · exact absurd second differs
        · exact ⟨later, second⟩

end Tagged
