import TensorPipeline.Table
import TensorPipeline.Text.Quoted

/-!
# Stored state

Iterators write their positions as entries of a store and read them back from
one.  An entry is an integer or a text; reading fails when there is no entry
under the key, or when a text stands where an integer is needed.
-/

namespace TensorPipeline

inductive StateValue where
  | int (value : Int64)
  | text (value : String)
deriving DecidableEq, Repr, Inhabited

inductive StateError where
  | missing (key : String)
  | notInteger (found : String)
  | negativePosition (value : Int64)
deriving DecidableEq, Repr

def StateError.message : StateError -> String
  | missing key => "checkpoint has no entry for key " ++ Text.quoted key
  | notInteger found =>
      "expected an integer state value, found Str(" ++ Text.quoted found ++ ")"
  | negativePosition value => "negative position " ++ toString value.toInt

def StateValue.toInt? : StateValue -> Except StateError Int64
  | int value => .ok value
  | text found => .error (.notInteger found)

/-- Entries under keys, in the order of the keys' UTF-8 bytes. -/
abbrev Store := Table StateValue

namespace Store

def read (s : Store) (key : String) : Except StateError StateValue :=
  match s.get? key with
  | some value => .ok value
  | none => .error (.missing key)

def readInt (s : Store) (key : String) : Except StateError Int64 := do
  (<- s.read key).toInt?

/-- The position under a key: an integer that is not negative. -/
def readPosition (s : Store) (key : String) : Except StateError UInt64 := do
  let value <- s.readInt key
  if value < 0 then .error (.negativePosition value) else .ok value.toUInt64

theorem readInt_of_get?
    {s : Store} {key : String} {value : Int64} (h : s.get? key = some (.int value)) :
    s.readInt key = .ok value := by
  rw [readInt, read, h]
  rfl

theorem nonneg_toInt64 {position : UInt64} (h : position.toNat < 0x8000000000000000) :
    0 ≤ position.toInt64 := by
  have hvalue : position.toInt64.toInt = position.toNat := by
    rw [Int64.toInt, UInt64.toBitVec_toInt64]
    exact BitVec.toInt_eq_toNat_of_lt (by rw [UInt64.toNat_toBitVec]; omega)
  rw [Int64.le_iff_toInt_le, hvalue, Int64.toInt_zero]
  omega

theorem readPosition_of_get?
    {s : Store} {key : String} {position : UInt64} (hsmall : position.toNat < 0x8000000000000000)
    (h : s.get? key = some (.int position.toInt64)) :
    s.readPosition key = .ok position := by
  have hnonneg : ¬ position.toInt64 < 0 := Int64.not_lt.mpr (nonneg_toInt64 hsmall)
  rw [readPosition, readInt_of_get? h]
  exact (if_neg hnonneg).trans (congrArg Except.ok (UInt64.toUInt64_toInt64 position))

end Store

end TensorPipeline
