/-!
# Bytes

Numbers as bytes, lowest first; byte lists cut into pieces; and bytes as text
in base 16.
-/

namespace TensorPipeline

def littleEndian : Nat -> Nat -> List UInt8
  | 0, _ => []
  | w + 1, n => UInt8.ofNat (n % 256) :: littleEndian w (n / 256)

def ofLittleEndian : List UInt8 -> Nat
  | [] => 0
  | b :: rest => b.toNat + 256 * ofLittleEndian rest

@[simp] theorem length_littleEndian (w n : Nat) :
    (littleEndian w n).length = w := by
  induction w generalizing n with
  | zero => rfl
  | succ w ih => simp [littleEndian, ih]

/-- A list cut into pieces of `width`, the last one possibly shorter.  Nothing
is cut off when `width` is zero. -/
def pieces (width : Nat) : List UInt8 -> List (List UInt8)
  | [] => []
  | b :: rest =>
      if width = 0 then []
      else (b :: rest).take width :: pieces width ((b :: rest).drop width)
termination_by bytes => bytes.length

def hexText (bytes : List UInt8) : String :=
  String.ofList
    (bytes.flatMap fun b => [Nat.digitChar (b.toNat / 16), Nat.digitChar (b.toNat % 16)])

theorem digitChar_inj {m n : Nat} (hm : m < 16) (hn : n < 16)
    (h : Nat.digitChar m = Nat.digitChar n) : m = n := by
  have hdigits : forall m : Fin 16, forall n : Fin 16,
      Nat.digitChar m = Nat.digitChar n -> m = n := by
    decide
  exact congrArg Fin.val (hdigits ⟨m, hm⟩ ⟨n, hn⟩ h)

theorem hexText_injective {a b : List UInt8} (h : hexText a = hexText b) : a = b := by
  have hdigits := String.ofList_injective h
  clear h
  induction a generalizing b with
  | nil =>
      cases b with
      | nil => rfl
      | cons y b => cases hdigits
  | cons x a ih =>
      cases b with
      | nil => cases hdigits
      | cons y b =>
          rw [List.flatMap_cons, List.flatMap_cons] at hdigits
          injection hdigits with hhigh hdigits
          injection hdigits with hlow hdigits
          have hx := x.toNat_lt
          have hy := y.toNat_lt
          have hhigh := digitChar_inj (by omega) (by omega) hhigh
          have hlow := digitChar_inj (by omega) (by omega) hlow
          have hbyte : x = y := by
            apply UInt8.toNat_inj.mp
            omega
          rw [hbyte, ih hdigits]

end TensorPipeline
