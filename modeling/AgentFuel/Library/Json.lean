import Mathlib.Algebra.Order.Ring.Int
import Mathlib.Data.List.Basic
import Mathlib.Tactic.Common

/-!
# JSON values

Texts are of a type of their own, so that a value can be written with other things in their
place. Numbers are integers or fractions; a fraction is no integer to any reader here.
-/
inductive Json (S : Type) where
  | null
  | bool (b : Bool)
  | num (n : Int)
  | frac (numerator : Int) (denominator : Nat)
  | str (s : S)
  | arr (items : List (Json S))
  | obj (fields : List (String × Json S))

namespace Json

variable {S : Type}

/-- The value of a field, or of a missing one. -/
def get (json : Json S) (field : String) : Option (Json S) :=
  match json with
  | obj fields => fields.lookup field
  | _ => none

def asStr : Json S → Option S
  | str s => some s
  | _ => none

/-- Integers of 64 signed bits. -/
def asI64 : Json S → Option Int
  | num n => if -2 ^ 63 ≤ n ∧ n < 2 ^ 63 then some n else none
  | _ => none

def asArray : Json S → Option (List (Json S))
  | arr items => some items
  | _ => none

/-- A step of a JSON pointer: a field of an object, or an index in an array. -/
def child (json : Json S) (field : String) (index : Option Nat) : Option (Json S) :=
  match json with
  | obj fields => fields.lookup field
  | arr items => index.bind fun i => items[i]?
  | _ => none

end Json
