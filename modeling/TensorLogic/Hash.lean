/-
Module: TensorLogic.Hash
Purpose: A 64-bit hash of a sequence of words, and the hash of a datum.
Main exports: Hash.digest, Hash.ofInt, Hash.ofDatum, Hash.ofTuple
-/
import TensorLogic.Fault
import TensorLogic.Hash.Text

namespace TensorLogic.Hash

/-!
`digest` is the XXH64 hash with seed zero of the bytes of a sequence of 64-bit words, each written
with its least significant byte first.  The bytes come in whole words, so the part of the algorithm
that deals with single bytes at the end is never needed.

Numbers are hashed by their residue modulo a Mersenne prime, so that equal numbers of different kinds
have equal hashes.
-/

/-! ### The mixing of words -/

/-- The five odd multipliers of the mixing steps. -/
def prime1 : UInt64 := 0x9E3779B185EBCA87

/-- The second multiplier. -/
def prime2 : UInt64 := 0xC2B2AE3D27D4EB4F

/-- The third multiplier. -/
def prime3 : UInt64 := 0x165667B19E3779F9

/-- The fourth multiplier. -/
def prime4 : UInt64 := 0x85EBCA77C2B2AE63

/-- The fifth multiplier. -/
def prime5 : UInt64 := 0x27D4EB2F165667C5

/-- Mix a word into an accumulator. -/
def mix (accumulator word : UInt64) : UInt64 :=
  rotate (accumulator + word * prime2) 31 * prime1

/-- Four accumulators, which take every fourth word each. -/
structure Lanes where
  first : UInt64
  second : UInt64
  third : UInt64
  fourth : UInt64

/-- The accumulators before any word is mixed in. -/
def Lanes.start : Lanes := ⟨prime1 + prime2, prime2, 0, 0 - prime1⟩

/-- Mix all complete groups of four words into the accumulators; the words that are left over are
returned beside them. -/
def Lanes.absorb (lanes : Lanes) : List UInt64 → Lanes × List UInt64
  | first :: second :: third :: fourth :: words =>
      Lanes.absorb
        ⟨mix lanes.first first, mix lanes.second second, mix lanes.third third,
          mix lanes.fourth fourth⟩ words
  | words => (lanes, words)

/-- Mix an accumulator into the hash. -/
def join (hash accumulator : UInt64) : UInt64 :=
  (hash ^^^ mix 0 accumulator) * prime1 + prime4

/-- Put the four accumulators together. -/
def Lanes.merge (lanes : Lanes) : UInt64 :=
  let hash := rotate lanes.first 1 + rotate lanes.second 7 + rotate lanes.third 12 +
    rotate lanes.fourth 18
  join (join (join (join hash lanes.first) lanes.second) lanes.third) lanes.fourth

/-- Mix a left-over word into the hash. -/
def append (hash word : UInt64) : UInt64 :=
  rotate (hash ^^^ mix 0 word) 27 * prime1 + prime4

/-- Spread every bit of the hash over all of its bits. -/
def finish (hash : UInt64) : UInt64 :=
  let hash := (hash ^^^ (hash >>> 33)) * prime2
  let hash := (hash ^^^ (hash >>> 29)) * prime3
  hash ^^^ (hash >>> 32)

/-- The hash of a sequence of words.  The lanes are used from four words on. -/
def digest (words : List UInt64) : UInt64 :=
  let (lanes, rest) := Lanes.start.absorb words
  let hash := if words.length < 4 then prime5 else lanes.merge
  finish (rest.foldl append (hash + UInt64.ofNat (8 * words.length)))

/-! ### The hashes of data -/

/-- The prime modulo which numbers are hashed. -/
def modulus : Nat := 0x1FFFFFFFFFFFFFFF

/-- It is a Mersenne prime: its binary digits are sixty-one ones. -/
example : modulus = 2 ^ 61 - 1 := by decide

/-- The hash of a number: its residue, with its sign.  Multiplying by two turns the sixty-one binary
digits of a residue, so that a power of two is one by its exponent modulo sixty-one.  Minus one is no
hash, minus two stands for it. -/
def ofNumber (number : Exact) : Int :=
  let power := Nat.pow 2 (number.exponent.emod 61).toNat
  let residue := number.mantissa.natAbs * power % modulus
  let signed : Int := if number.mantissa < 0 then -residue else residue
  if signed = -1 then -2 else signed

/-- The hash of an infinite number that is not negative. -/
def ofInfinity : Int := 314159

/-- The hash of a number of any kind. -/
def ofQuantity : Quantity → Int
  | .finite number => ofNumber number
  | .infinite negative => if negative then -ofInfinity else ofInfinity

/-- The hash of a whole number. -/
def ofInt (value : Int) : Int := ofNumber (.ofInt value)

/-- The hash of a text, as a signed word.  Minus one is no hash here either. -/
def ofText (text : String) : Int :=
  let signed := (textDigest text).toInt64.toInt
  if signed = -1 then -2 else signed

/-- The hash of the datum that stands for nothing. -/
def ofNull : Int := 0xfca86420

/-- The hash of what is no number at all.  It goes by the address of the object, which is left open here:
as such an object equals no other one, any number will do. -/
def ofUndefined : Int := 0

/-- The hash of a datum.  Lists have none. -/
def ofDatum : Datum → Except Fault Int
  | .scalar _ value =>
      match value.number?, value with
      | some number, _ => .ok (ofQuantity number)
      | none, .str text => .ok (ofText text)
      | none, .fraction _ => .ok ofUndefined
      | none, _ => .ok ofNull
  | .list .. => .error .wrongType

/-- The hash of a tuple, given the hashes of its members, which are mixed in one after the other.  Last
their number is added.  Minus one is no hash here either. -/
def ofTuple (hashes : List Int) : Int :=
  let mixed := hashes.foldl (fun total hash => mix total (UInt64.ofInt hash)) prime5
  let total := mixed + (UInt64.ofNat hashes.length ^^^ (prime5 ^^^ 3527539))
  if total = 0xFFFFFFFFFFFFFFFF then 1546275796 else total.toInt64.toInt

/-- A pair, and the empty tuple. -/
example : ofTuple [1, 2] = -3550055125485641917 ∧ ofTuple [] = 5740354900026072187 := by decide

/-- A number as a word: the remainder modulo two to the power of sixty-four. -/
def word (value : Int) : UInt64 := UInt64.ofInt value

/-- The hash of no words at all, and the one finite number that has not its residue as hash. -/
example : digest [] = 0xEF46DB3751D8E999 ∧ ofInt (-1) = -2 ∧ ofInt (2 ^ 61) = 1 := by decide

end TensorLogic.Hash
