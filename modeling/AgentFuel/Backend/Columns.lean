import AgentFuel.Backend.Delivery

/-!
# Columns of a mirror row

A column asks a question about the rows of some events, those whose field names the key of the
mirror row. Read on the events of a chain the question is about what they write: how much in all,
the greatest value, or the value of the row that is last in `ORDER BY slot, log_index`.
-/
namespace AgentFuel.Backend

open Checked Solana Register Vault Reputation

variable {K S α β : Type} {r : Rendering K S}

/-! ### The fields of a row -/

/-- What `->>` shows of the fields that are strings. -/
def Field.text (r : Rendering K S) : Field K → Option S
  | pubkey key => some (r.key key)
  | hash h => some (r.hash h)
  | name bytes => some (r.name bytes)
  | _ => none

theorem row_get (r : Rendering K S) (e : Emitted K) (field : String) :
    (e.row r).decoded.payload.get field = (e.event.fields.lookup field).map (Field.json r) := by
  change (e.event.fields.map fun f => (f.1, f.2.json r)).lookup field = _
  induction e.event.fields with
  | nil => rfl
  | cons f fields ih =>
    rw [List.map_cons, List.lookup_cons, List.lookup_cons, ih]
    cases field == f.1 <;> rfl

theorem row_text (r : Rendering K S) (e : Emitted K) (field : String) :
    (e.row r).text field = (e.event.fields.lookup field).bind (Field.text r) := by
  rw [ParsedEvent.text, row_get]
  cases e.event.fields.lookup field with
  | none => rfl
  | some f => cases f <;> rfl

theorem row_number {e : Emitted K} {field : String} {f : Field K} {n : Int}
    (held : e.event.fields.lookup field = some f) (number : f.json r = .num n) (bits : Nat) :
    (e.row r).integer bits field = some <$> fit bits n := by
  rw [ParsedEvent.integer, row_get, held, Option.map_some, number]

theorem row_integer {e : Emitted K} {field : String} {n : Nat}
    (held : e.event.fields.lookup field = some (.u64 n)) (bits : Nat) :
    (e.row r).integer bits field = some <$> fit bits n := row_number held rfl bits

theorem row_boolean {e : Emitted K} {field : String} {b : Bool}
    (held : e.event.fields.lookup field = some (.bool b)) :
    (e.row r).boolean field = .ok (some b) := by
  rw [ParsedEvent.boolean, row_get, held]
  rfl

theorem row_position (r : Rendering K S) (e : Emitted K) : (e.row r).position = e.position := by
  simp only [ParsedEvent.position, Emitted.row, Emitted.position]

theorem row_slot (r : Rendering K S) (e : Emitted K) : (e.row r).slot = e.rowSlot := by
  simp only [Emitted.row]

theorem fit_eq_ok {bits : Nat} {n m : Int} :
    fit bits n = .ok m ↔ (-2 ^ (bits - 1) ≤ n ∧ n < 2 ^ (bits - 1)) ∧ n = m := by
  unfold fit
  split <;> simp_all

/-- A number that can be read is read as it was written. -/
theorem row_number_eq {e : Emitted K} {field : String} {f : Field K} {n : Int} {bits : Nat}
    {answer : Option Int} (held : e.event.fields.lookup field = some f) (number : f.json r = .num n)
    (read : (e.row r).integer bits field = .ok answer) : answer = some n := by
  rw [row_number held number, Checked.map_eq_ok] at read
  obtain ⟨m, fits, rfl⟩ := read
  rw [(fit_eq_ok.mp fits).2]

/-! ### The rows a query is about -/

/-- The events that write. -/
def writers (write : Emitted K → Option β) (entries : List (Emitted K)) : List (Emitted K) :=
  entries.filter fun e => (write e).isSome

theorem mem_writers {write : Emitted K → Option β} {entries : List (Emitted K)} {e : Emitted K} :
    e ∈ writers write entries ↔ e ∈ entries ∧ ∃ b, write e = some b := by
  rw [writers, List.mem_filter, Option.isSome_iff_exists]

theorem about_rows [DecidableEq S] {names : List EventName} {field : String} {key : S}
    {write : Emitted K → Option β} (entries : List (Emitted K))
    (named : ∀ e ∈ entries, e.event.name ∈ names ∧ (e.row r).text field = some key ↔
      (write e).isSome = true) :
    about names field key (entries.map (Emitted.row r)) =
      (writers write entries).map (Emitted.row r) := by
  rw [about, writers, List.filter_map]
  congr 1
  apply List.filter_congr
  intro e member
  rw [Bool.eq_iff_iff, ← named e member]
  exact decide_eq_true_iff

/-! ### ORDER BY slot DESC, log_index DESC LIMIT 1 -/

section LimitOne

variable {κ : Type} [LinearOrder κ] {key : ParsedEvent S → κ} {first : FirstBy key} {eager : Bool}
  {rows : List (ParsedEvent S)} {select : ParsedEvent S → Except SqlError α} {answer : Option α}

/-- The rows that are dropped add nothing to the answer. -/
theorem limitOne_lazy (done : limitOne first eager rows select = .ok answer) :
    limitOne first false rows select = .ok answer := by
  cases eager with
  | false => exact done
  | true =>
    obtain ⟨_, _, chosen⟩ := (bind_eq_ok _ _ _).mp done
    exact chosen

theorem limitOne_value (done : limitOne first eager rows select = .ok answer) :
    rows = [] ∧ answer = none ∨
      ∃ row ∈ rows, ∃ a, (∀ other ∈ rows, key row ≤ key other) ∧ select row = .ok a ∧
        answer = some a := by
  have chosen := limitOne_lazy done
  unfold limitOne at chosen
  cases found : first.pick rows with
  | none =>
    rw [found] at chosen
    exact .inl ⟨first.pick_none found, (Except.ok.inj chosen).symm⟩
  | some row =>
    rw [found] at chosen
    obtain ⟨a, selected, rfl⟩ := (map_eq_ok _ _ _).mp chosen
    exact .inr ⟨row, first.pick_mem found, a, first.pick_le found, selected, rfl⟩

theorem limitOne_nil (first : FirstBy key) (eager : Bool)
    (select : ParsedEvent S → Except SqlError α) : limitOne first eager [] select = .ok none := by
  obtain ⟨answer, done⟩ : ∃ answer, limitOne first eager [] select = .ok answer := by
    unfold limitOne
    cases found : first.pick [] with
    | none => exact ⟨none, by cases eager <;> rfl⟩
    | some row => exact absurd (first.pick_mem found) List.not_mem_nil
  rcases limitOne_value done with ⟨-, rfl⟩ | ⟨row, member, -⟩
  · exact done
  · cases member

theorem limitOne_total (each : ∀ row ∈ rows, ∃ a, select row = .ok a) :
    ∃ answer, limitOne first eager rows select = .ok answer := by
  have dropped : rows.forM (fun row => discard (select row)) = .ok () := by
    apply forM_total
    intro row member
    obtain ⟨a, selected⟩ := each row member
    exact ⟨(), by rw [selected]; rfl⟩
  unfold limitOne
  rw [dropped]
  cases found : first.pick rows with
  | none => exact ⟨none, by cases eager <;> rfl⟩
  | some row =>
    obtain ⟨a, selected⟩ := each row (first.pick_mem found)
    simp only [selected]
    exact ⟨some a, by cases eager <;> rfl⟩

variable (first eager) in
/-- Where there is a row and every row has a value of some kind, the answer is one of these. -/
theorem limitOne_some {Q : α → Prop} {row : ParsedEvent S} (member : row ∈ rows)
    (each : ∀ row ∈ rows, ∃ a, select row = .ok a ∧ Q a) :
    ∃ a, limitOne first eager rows select = .ok (some a) ∧ Q a := by
  obtain ⟨answer, done⟩ : ∃ answer, limitOne first eager rows select = .ok answer :=
    limitOne_total fun row held => (each row held).imp fun _ computed => computed.1
  rcases limitOne_value done with ⟨rfl, -⟩ | ⟨row, held, a, -, selected, rfl⟩
  · cases member
  · obtain ⟨b, computed, holds⟩ := each row held
    obtain rfl := Except.ok.inj (computed.symm.trans selected)
    exact ⟨b, done, holds⟩

end LimitOne

/-- The writes of the greatest position agree with the last write of the chain. -/
def Decided (write : Emitted K → Option β) (log : List (Emitted K)) : Prop :=
  ∀ e ∈ log, ∀ b, write e = some b →
    (∀ other ∈ log, (write other).isSome = true → other.position ≤ e.position) →
      last write log = some b

theorem latest_value {rt : Runtime S} {write : Emitted K → Option β} {log entries : List (Emitted K)}
    {select : ParsedEvent S → Except SqlError α} {value : β → α} {answer : Option α}
    (subset : entries ⊆ log) (covers : ∀ e ∈ log, (write e).isSome = true → e ∈ entries)
    (decided : Decided write log)
    (reads : ∀ e b a, write e = some b → select (e.row r) = .ok a → a = value b)
    (done : limitOne rt.latest rt.eager ((writers write entries).map (Emitted.row r)) select =
      .ok answer) :
    answer = (last write log).map value := by
  rcases limitOne_value done with ⟨none, rfl⟩ | ⟨row, member, a, latest, selected, rfl⟩
  · -- No event of the chain writes.
    have unwritten : last write log = Option.none := by
      rw [last_eq_none]
      intro e member
      by_contra wrote
      rw [← ne_eq, Option.ne_none_iff_isSome] at wrote
      have held : e ∈ writers write entries :=
        mem_writers.mpr ⟨covers e member wrote, Option.isSome_iff_exists.mp wrote⟩
      rw [List.map_eq_nil_iff] at none
      rw [none] at held
      cases held
    rw [unwritten, Option.map_none]
  · -- The row that is picked stands behind all other writers of the chain.
    obtain ⟨e, held, rfl⟩ := List.mem_map.mp member
    obtain ⟨inside, b, wrote⟩ := mem_writers.mp held
    have greatest : ∀ other ∈ log, (write other).isSome = true → other.position ≤ e.position := by
      intro other otherMember otherWrote
      have otherHeld := mem_writers.mpr
        ⟨covers other otherMember otherWrote, Option.isSome_iff_exists.mp otherWrote⟩
      have behind := latest _ (List.mem_map_of_mem otherHeld)
      simp only [row_position, OrderDual.toDual_le_toDual] at behind
      exact behind
    rw [decided e (subset inside) b wrote greatest, Option.map_some, reads e b a wrote selected]

/-- Where later writes stand behind earlier ones, the last one decides. -/
theorem Decided.of_sorted {write : Emitted K → Option β} {log : List (Emitted K)}
    (sorted : log.Pairwise fun a b =>
      (write a).isSome = true → (write b).isSome = true → a.position < b.position) :
    Decided write log := by
  intro e member b wrote greatest
  cases found : last write log with
  | none =>
    rw [last_eq_none] at found
    rw [found e member] at wrote
    cases wrote
  | some c =>
    obtain ⟨before, w, after, rfl, written, unwritten⟩ := last_eq_some found
    -- Were the event an earlier one, the last write would be behind it.
    rcases List.mem_append.mp member with earlier | later
    · have less := (List.pairwise_append.mp sorted).2.2 e earlier w List.mem_cons_self
        (by simp [wrote]) (by simp [written])
      exact absurd (greatest w (by simp) (by simp [written])) (not_le_of_gt less)
    · rcases List.mem_cons.mp later with rfl | behind
      · rw [← wrote, written]
      · rw [unwritten e behind] at wrote
        cases wrote

/-! ### MAX, SUM and COUNT -/

theorem reduceOption_some {γ δ : Type} (g : γ → δ) (rows : List γ) :
    (rows.map fun row => some (g row)).reduceOption = rows.map g := by
  rw [List.reduceOption, List.filterMap_map]
  exact congrFun List.filterMap_eq_map' rows

/-- What the writers of a column say of it. -/
theorem writers_map {γ : Type} {write : Emitted K → Option β} {f : Emitted K → γ} {g : β → γ}
    (reads : ∀ e b, write e = some b → f e = g b) (entries : List (Emitted K)) :
    (writers write entries).map f = (entries.filterMap write).map g := by
  induction entries with
  | nil => rfl
  | cons e entries ih =>
    unfold writers at ih ⊢
    cases wrote : write e with
    | none => simpa [wrote] using ih
    | some b => simpa [wrote, reads e b wrote] using ih

theorem writers_length (write : Emitted K → Option β) (entries : List (Emitted K)) :
    (writers write entries).length = (entries.filterMap write).length := by
  rw [List.length_filterMap_eq_countP, List.countP_eq_length_filter]
  rfl

theorem max_ofNat (ns : List Nat) : ((ns.map Int.ofNat).max?).getD 0 = Int.ofNat (ns.max?.getD 0) := by
  cases greatest : ns.max? with
  | none =>
    rw [List.max?_eq_none_iff.mp greatest]
    rfl
  | some n =>
    obtain ⟨member, bound⟩ := List.max?_eq_some_iff.mp greatest
    have same : (ns.map Int.ofNat).max? = some (Int.ofNat n) := by
      rw [List.max?_eq_some_iff]
      refine ⟨List.mem_map_of_mem member, ?_⟩
      intro m inside
      obtain ⟨k, held, rfl⟩ := List.mem_map.mp inside
      exact Int.ofNat_le.mpr (bound k held)
    rw [same]
    rfl

section Aggregates

variable {γ : Type} {items : List γ} {f : γ → ParsedEvent S} {g : γ → Int}
  {rows : List (ParsedEvent S)} {value : ParsedEvent S → Except SqlError (Option Int)}

theorem maxOf_value {greatest : Option Int} (done : maxOf (items.map f) value = .ok greatest)
    (reads : ∀ a ∈ items, ∀ n, value (f a) = .ok n → n = some (g a)) :
    greatest = (items.map g).max? := by
  obtain ⟨values, read, done⟩ := (bind_eq_ok _ _ _).mp done
  obtain rfl := Except.ok.inj done
  rw [List.mapM_map] at read
  rw [mapM_values read reads, reduceOption_some]

theorem maxOf_total (each : ∀ row ∈ rows, ∃ n, value row = .ok n) :
    ∃ greatest, maxOf rows value = .ok greatest := by
  obtain ⟨values, read⟩ := mapM_total each
  exact ⟨values.reduceOption.max?, by rw [maxOf, read]; rfl⟩

theorem sumOf_value {sum : Int} (done : sumOf (items.map f) value = .ok sum)
    (reads : ∀ a ∈ items, ∀ n, value (f a) = .ok n → n = some (g a)) :
    sum = (items.map g).sum := by
  obtain ⟨values, read, done⟩ := (bind_eq_ok _ _ _).mp done
  obtain rfl := Except.ok.inj done
  rw [List.mapM_map] at read
  rw [mapM_values read reads, reduceOption_some]

theorem sumOf_total (each : ∀ row ∈ rows, ∃ n, value row = .ok n) :
    ∃ sum, sumOf rows value = .ok sum := by
  obtain ⟨values, read⟩ := mapM_total each
  exact ⟨values.reduceOption.sum, by rw [sumOf, read]; rfl⟩

end Aggregates

theorem lastActive_eq [DecidableEq S] {rows : List (ParsedEvent S)} {field : String} {key : S}
    {init n : Int} (bound : ∀ row ∈ mentioning field key rows, row.slot ≤ n)
    (attained : ∃ row ∈ mentioning field key rows, row.slot = n) :
    lastActive rows key field init = n := by
  obtain ⟨row, member, rfl⟩ := attained
  have greatest : ((mentioning field key rows).map ParsedEvent.slot).max? = some row.slot := by
    rw [List.max?_eq_some_iff]
    refine ⟨List.mem_map_of_mem member, ?_⟩
    intro slot held
    obtain ⟨other, inside, rfl⟩ := List.mem_map.mp held
    exact bound other inside
  rw [lastActive, greatest, Option.getD_some]

end AgentFuel.Backend
