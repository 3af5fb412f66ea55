import TensorPipeline.Bytes

/-!
# Variable-length numbers

A number is written in base 128, lowest digit first, one digit to a byte, with
the top bit set on every byte but the last.  Reading admits digits of zero at
the end, as long as the number of bytes stays within the most that the type
ever needs and the last of those bytes holds no bit beyond the type.  Signed
numbers take turns with the unsigned ones: zero, minus one, one, minus two, and
so on.
-/

namespace TensorPipeline
namespace Wire

abbrev Reader (α : Type) := List UInt8 -> Option (α × List UInt8)

def writeNat (n : Nat) : List UInt8 :=
  if n < 128 then [UInt8.ofNat n]
  else UInt8.ofNat (n % 128 + 128) :: writeNat (n / 128)

/-- A number of at most `room` bytes whose last possible byte is at most
`lastMax`. -/
def readNat (lastMax : Nat) : (room : Nat) -> Reader Nat
  | 0, _ => none
  | _ + 1, [] => none
  | room + 1, b :: rest =>
      if b.toNat < 128 then
        if room = 0 && lastMax < b.toNat then none else some (b.toNat, rest)
      else
        (readNat lastMax room rest).map fun (n, rest) => (b.toNat - 128 + 128 * n, rest)

def readNat64 : Reader Nat := readNat 1 10

def readNat32 : Reader Nat := readNat 15 5

/-- The place of a signed number among the unsigned ones. -/
def zigzag : Int -> Nat
  | .ofNat n => 2 * n
  | .negSucc n => 2 * n + 1

def unzigzag (n : Nat) : Int :=
  if n % 2 = 0 then Int.ofNat (n / 2) else Int.negSucc (n / 2)

end Wire
end TensorPipeline
