import Mathlib.Data.List.DropRight
import Mathlib.Tactic.Common

/-!
# Texts

The operations on strings that a line-oriented reader uses, on lists of characters.
-/
abbrev Text := List Char

namespace Text

/-- The rest of a text that starts with `start`. -/
def stripPrefix : Text → Text → Option Text
  | [], text => some text
  | _ :: _, [] => none
  | c :: start, d :: text => if c = d then stripPrefix start text else none

/-- What stands before and after the first occurrence of a character. -/
def splitOnce (separator : Char) : Text → Option (Text × Text)
  | [] => none
  | c :: text =>
    if c = separator then some ([], text)
    else (splitOnce separator text).map fun (before, after) => (c :: before, after)

/-- The characters of Unicode's `White_Space` property. -/
def isWhitespace (c : Char) : Bool :=
  (9 ≤ c.toNat && c.toNat ≤ 13) || (0x2000 ≤ c.toNat && c.toNat ≤ 0x200A) ||
    [0x20, 0x85, 0xA0, 0x1680, 0x2028, 0x2029, 0x202F, 0x205F, 0x3000].contains c.toNat

def trim (text : Text) : Text := (text.dropWhile isWhitespace).rdropWhile isWhitespace

/-- What stands before the first space. -/
def firstWord (text : Text) : Text := text.takeWhile (· ≠ ' ')

theorem stripPrefix_append (start rest : Text) : stripPrefix start (start ++ rest) = some rest := by
  induction start with
  | nil => rfl
  | cons c start ih =>
    rw [List.cons_append, stripPrefix, if_pos rfl]
    exact ih

theorem stripPrefix_eq_some {start text rest : Text} (found : stripPrefix start text = some rest) :
    text = start ++ rest := by
  induction start generalizing text with
  | nil => exact Option.some.inj found
  | cons c start ih =>
    cases text with
    | nil => cases found
    | cons d text =>
      rw [stripPrefix] at found
      split at found
      next same =>
        rw [same, ih found]
        rfl
      · cases found

theorem splitOnce_append {separator : Char} {word : Text} (outside : separator ∉ word)
    (after : Text) : splitOnce separator (word ++ separator :: after) = some (word, after) := by
  induction word with
  | nil => simp [splitOnce]
  | cons c word ih =>
    rw [List.mem_cons, not_or] at outside
    have apart : c ≠ separator := Ne.symm outside.1
    rw [List.cons_append, splitOnce, if_neg apart, ih outside.2]
    rfl

theorem firstWord_append {word : Text} (oneWord : ' ' ∉ word) (text : Text) :
    firstWord (word ++ text) = word ++ firstWord text := by
  apply List.takeWhile_append_of_pos
  intro c member
  have apart : c ≠ ' ' := fun same => oneWord (same ▸ member)
  exact decide_eq_true apart

theorem firstWord_of_word {word : Text} (oneWord : ' ' ∉ word) : firstWord word = word := by
  have whole := firstWord_append oneWord []
  rw [List.append_nil] at whole
  rw [whole, firstWord, List.takeWhile_nil, List.append_nil]

theorem firstWord_space {word : Text} (oneWord : ' ' ∉ word) (after : Text) :
    firstWord (word ++ ' ' :: after) = word := by
  rw [firstWord_append oneWord, firstWord, List.takeWhile_cons_of_neg (by decide), List.append_nil]

theorem dropWhile_before {p : Char → Bool} {left body : Text} (before : ∀ c ∈ left, p c = true)
    (dark : ∀ c ∈ body, p c = false) : (left ++ body).dropWhile p = body := by
  rw [List.dropWhile_append_of_pos before, List.dropWhile_eq_self_iff]
  intro long
  rw [dark _ (List.getElem_mem long)]
  exact Bool.false_ne_true

theorem rdropWhile_after {p : Char → Bool} {body right : Text} (after : ∀ c ∈ right, p c = true)
    (dark : ∀ c ∈ body, p c = false) : (body ++ right).rdropWhile p = body := by
  rw [List.rdropWhile, List.reverse_append, dropWhile_before, List.reverse_reverse]
  · exact fun c member => after c (List.mem_reverse.mp member)
  · exact fun c member => dark c (List.mem_reverse.mp member)

/-- Blanks around dark characters are cut off. -/
theorem trim_around {left body right : Text} (before : ∀ c ∈ left, isWhitespace c = true)
    (after : ∀ c ∈ right, isWhitespace c = true) (dark : ∀ c ∈ body, isWhitespace c = false) :
    trim (left ++ body ++ right) = body := by
  rw [trim, List.append_assoc, List.dropWhile_append_of_pos before]
  cases body with
  | nil =>
    rw [List.nil_append, List.dropWhile_eq_nil_iff.mpr after]
    rfl
  | cons c rest =>
    have first : ¬isWhitespace c = true := by
      rw [dark c List.mem_cons_self]
      exact Bool.false_ne_true
    rw [List.cons_append, List.dropWhile_cons_of_neg first, ← List.cons_append]
    exact rdropWhile_after after dark

theorem trim_eq_self {text : Text} (dark : ∀ c ∈ text, isWhitespace c = false) :
    trim text = text := by
  have around := @trim_around [] text [] nofun nofun dark
  rwa [List.nil_append, List.append_nil] at around

end Text
