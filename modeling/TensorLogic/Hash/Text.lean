/-
Module: TensorLogic.Hash.Text
Purpose: A 64-bit hash of a text.
Main exports: Hash.bytesOf, Hash.Mixer, Hash.ofBytes, Hash.textDigest
-/
import TensorLogic.Text.CodePoint

namespace TensorLogic.Hash

/-!
`ofBytes` is the SipHash of a sequence of bytes under the key zero, with one round for each word and three
rounds at the end.  A text is hashed as its code points in order, each as one, two or four bytes with the
least significant first; the greatest code point of the text decides how many.
-/

/-! ### The bytes of a text -/

/-- The last `count` bytes of a number, the least significant first. -/
def lowBytes (count value : Nat) : List UInt8 :=
  (List.range count).map fun place => UInt8.ofNat (value >>> (8 * place))

/-- The number of bytes of each code point, given the greatest of them. -/
def unitBytes (greatest : Nat) : Nat :=
  if greatest < 0x100 then 1 else if greatest < 0x10000 then 2 else 4

/-- The bytes of a text. -/
def bytesOf (text : List Char) : List UInt8 :=
  let codes := Text.codePoints text
  codes.flatMap (lowBytes (unitBytes (codes.foldl Nat.max 0)))

/-! ### Mixing -/

/-- Turn a word to the left by a number of bits between one and sixty-three. -/
def rotate (word count : UInt64) : UInt64 :=
  (word <<< count) ||| (word >>> (64 - count))

/-- The four words that are mixed. -/
structure Mixer where
  first : UInt64
  second : UInt64
  third : UInt64
  fourth : UInt64

namespace Mixer

/-- The words before anything is mixed in, under the key zero. -/
def start : Mixer :=
  ⟨0x736f6d6570736575, 0x646f72616e646f6d, 0x6c7967656e657261, 0x7465646279746573⟩

/-- One round. -/
def round (mixer : Mixer) : Mixer :=
  let first := mixer.first + mixer.second
  let third := mixer.third + mixer.fourth
  let second := rotate mixer.second 13 ^^^ first
  let fourth := rotate mixer.fourth 16 ^^^ third
  let first := rotate first 32
  let third := third + second
  let first := first + fourth
  ⟨first, rotate second 17 ^^^ third, rotate third 32, rotate fourth 21 ^^^ first⟩

/-- Mix a word in. -/
def absorb (mixer : Mixer) (word : UInt64) : Mixer :=
  let mixed := round { mixer with fourth := mixer.fourth ^^^ word }
  { mixed with first := mixed.first ^^^ word }

/-- The hash that is left at the end. -/
def finish (mixer : Mixer) : UInt64 :=
  let mixed := round (round (round { mixer with third := mixer.third ^^^ 0xff }))
  (mixed.first ^^^ mixed.second) ^^^ (mixed.third ^^^ mixed.fourth)

end Mixer

/-- Bytes as one word, the least significant first. -/
def wordOf (bytes : List UInt8) : UInt64 :=
  bytes.foldr (fun byte word => (word <<< 8) ||| byte.toUInt64) 0

/-- Mix in the bytes eight by eight.  The last word has the bytes that are left over, at most seven, below the
number of all bytes. -/
def absorbBytes (length : UInt64) (mixer : Mixer) : List UInt8 → Mixer
  | a :: b :: c :: d :: e :: f :: g :: h :: rest =>
      absorbBytes length (mixer.absorb (wordOf [a, b, c, d, e, f, g, h])) rest
  | rest => mixer.absorb ((length <<< 56) ||| wordOf rest)

/-- The hash of a sequence of bytes. -/
def ofBytes (bytes : List UInt8) : UInt64 :=
  (absorbBytes (UInt64.ofNat bytes.length) Mixer.start bytes).finish

/-- The hash of a text.  That of the empty text is zero. -/
def textDigest (text : String) : UInt64 :=
  if text.isEmpty then 0 else ofBytes (bytesOf text.toList)

/-- Code points below 256 are one byte each; a greater one among them widens all. -/
example :
    bytesOf ['a', 'é'] = [0x61, 0xe9] ∧ bytesOf ['a', '→'] = [0x61, 0, 0x92, 0x21] := by decide

end TensorLogic.Hash
