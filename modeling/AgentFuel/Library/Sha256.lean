import Mathlib.Tactic.Common

/-!
# SHA-256

The hash of a byte list, as the standard defines it: blocks of sixteen words, sixty-four rounds for
each. It is here to be evaluated.
-/
namespace Sha256

/-- The eight words of a state. -/
structure Words where
  a : UInt32
  b : UInt32
  c : UInt32
  d : UInt32
  e : UInt32
  f : UInt32
  g : UInt32
  h : UInt32
  deriving DecidableEq

/-- The first bits of the square roots of the first eight primes. -/
def start : Words :=
  { a := 0x6a09e667, b := 0xbb67ae85, c := 0x3c6ef372, d := 0xa54ff53a
    e := 0x510e527f, f := 0x9b05688c, g := 0x1f83d9ab, h := 0x5be0cd19 }

/-- The first bits of the cube roots of the first sixty-four primes. -/
def constants : List UInt32 :=
  [0x428a2f98, 0x71374491, 0xb5c0fbcf, 0xe9b5dba5, 0x3956c25b, 0x59f111f1, 0x923f82a4, 0xab1c5ed5,
    0xd807aa98, 0x12835b01, 0x243185be, 0x550c7dc3, 0x72be5d74, 0x80deb1fe, 0x9bdc06a7, 0xc19bf174,
    0xe49b69c1, 0xefbe4786, 0x0fc19dc6, 0x240ca1cc, 0x2de92c6f, 0x4a7484aa, 0x5cb0a9dc, 0x76f988da,
    0x983e5152, 0xa831c66d, 0xb00327c8, 0xbf597fc7, 0xc6e00bf3, 0xd5a79147, 0x06ca6351, 0x14292967,
    0x27b70a85, 0x2e1b2138, 0x4d2c6dfc, 0x53380d13, 0x650a7354, 0x766a0abb, 0x81c2c92e, 0x92722c85,
    0xa2bfe8a1, 0xa81a664b, 0xc24b8b70, 0xc76c51a3, 0xd192e819, 0xd6990624, 0xf40e3585, 0x106aa070,
    0x19a4c116, 0x1e376c08, 0x2748774c, 0x34b0bcb5, 0x391c0cb3, 0x4ed8aa4a, 0x5b9cca4f, 0x682e6ff3,
    0x748f82ee, 0x78a5636f, 0x84c87814, 0x8cc70208, 0x90befffa, 0xa4506ceb, 0xbef9a3f7, 0xc67178f2]

def rotr (x n : UInt32) : UInt32 := x >>> n ||| x <<< (32 - n)

/-- `steps` more words of the message schedule, newest first. -/
def extend : Nat → List UInt32 → List UInt32
  | 0, words => words
  | steps + 1, words =>
    let w2 := words.getD 1 0
    let w15 := words.getD 14 0
    let small := rotr w15 7 ^^^ rotr w15 18 ^^^ w15 >>> 3
    let large := rotr w2 17 ^^^ rotr w2 19 ^^^ w2 >>> 10
    extend steps ((words.getD 15 0 + small + words.getD 6 0 + large) :: words)

def round (s : Words) (constant word : UInt32) : Words :=
  let large := rotr s.e 6 ^^^ rotr s.e 11 ^^^ rotr s.e 25
  let choice := s.e &&& s.f ^^^ ~~~s.e &&& s.g
  let t1 := s.h + large + choice + constant + word
  let small := rotr s.a 2 ^^^ rotr s.a 13 ^^^ rotr s.a 22
  let majority := s.a &&& s.b ^^^ s.a &&& s.c ^^^ s.b &&& s.c
  { a := t1 + (small + majority), b := s.a, c := s.b, d := s.c, e := s.d + t1, f := s.e, g := s.f
    h := s.g }

def Words.add (s t : Words) : Words :=
  ⟨s.a + t.a, s.b + t.b, s.c + t.c, s.d + t.d, s.e + t.e, s.f + t.f, s.g + t.g, s.h + t.h⟩

/-- One block of sixteen words. -/
def compress (s : Words) (block : List UInt32) : Words :=
  let words := (extend 48 block.reverse).reverse
  s.add ((constants.zip words).foldl (fun t step => round t step.1 step.2) s)

/-- Four bytes a word, most significant byte first. -/
def wordsOf : List UInt8 → List UInt32
  | a :: b :: c :: d :: rest =>
    (a.toUInt32 <<< 24 ||| b.toUInt32 <<< 16 ||| c.toUInt32 <<< 8 ||| d.toUInt32) :: wordsOf rest
  | _ => []

def bytesOf (w : UInt32) : List UInt8 :=
  [(w >>> 24).toUInt8, (w >>> 16).toUInt8, (w >>> 8).toUInt8, w.toUInt8]

/-- The message, a one bit, zeros, and its length in bits, in whole blocks. -/
def pad (message : List UInt8) : List UInt8 :=
  let bits := (message.length * 8).toUInt64
  let filling : List UInt8 := 0x80 :: List.replicate ((119 - message.length % 64) % 64) 0
  message ++ filling ++ bytesOf (bits >>> 32).toUInt32 ++ bytesOf bits.toUInt32

/-- The first `count` blocks. -/
def blocks : Nat → List UInt32 → List (List UInt32)
  | 0, _ => []
  | count + 1, words => words.take 16 :: blocks count (words.drop 16)

def hash (message : List UInt8) : List UInt8 :=
  let padded := pad message
  let s := (blocks (padded.length / 64) (wordsOf padded)).foldl compress start
  [s.a, s.b, s.c, s.d, s.e, s.f, s.g, s.h].flatMap bytesOf

def ascii (text : String) : List UInt8 := text.toList.map fun c => UInt8.ofNat c.toNat

/-- HMAC with this hash. -/
def hmac (key message : List UInt8) : List UInt8 :=
  let key := if 64 < key.length then hash key else key
  let block := key ++ List.replicate (64 - key.length) 0
  hash (block.map (· ^^^ 0x5c) ++ hash (block.map (· ^^^ 0x36) ++ message))

theorem hash_length (message : List UInt8) : (hash message).length = 32 := rfl

/-- The first test message of the standard. -/
example : (hash (ascii "abc")).take 4 = [0xba, 0x78, 0x16, 0xbf] := by decide +kernel

example : (hmac (ascii "Jefe") (ascii "what do ya want for nothing?")).take 4 =
    [0x5b, 0xdc, 0xc1, 0x46] := by decide +kernel

end Sha256
