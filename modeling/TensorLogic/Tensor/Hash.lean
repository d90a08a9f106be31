/-
Module: TensorLogic.Tensor.Hash
Purpose: Equality and hashing of tensors of data.
Main exports: Tensor.equal, Tensor.hash, Tensor.reducedHash
-/
import TensorLogic.Hash
import TensorLogic.Tensor.Basic
import TensorLogic.Tensor.Capacity

namespace TensorLogic.Tensor

/-- Tensors are equal when their shapes agree and they have equal elements. -/
def equal (left right : Tensor Datum) : Bool :=
  decide (Shape.Agree left.shape right.shape) && Datum.equalAll left.toList right.toList

/-- A dimension as a word.  It has to fit into one. -/
def dimensionWord (dimension : Count) : Except Fault UInt64 :=
  if wordLimit ≤ dimension.value then .error .hugeWord
  else .ok (Hash.word dimension.value)

/-- The hash of a tensor: that of its dimensions followed by the hashes of its elements.  It has none
if an element is a list. -/
def hash (tensor : Tensor Datum) : Except Fault UInt64 := do
  let dimensions ← tensor.shape.mapM dimensionWord
  let elements ← tensor.toList.mapM Hash.ofDatum
  pure (Hash.digest (dimensions ++ elements.map Hash.word))

/-- The hash as a signed machine number: itself where it fits, otherwise its residue. -/
def reducedHash (hash : UInt64) : Nat :=
  if hash.toNat < 0x8000000000000000 then hash.toNat else hash.toNat % Hash.modulus

end TensorLogic.Tensor
