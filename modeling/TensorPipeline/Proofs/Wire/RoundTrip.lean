import Mathlib.Algebra.Group.Nat.Defs
import TensorPipeline.Wire.Snapshot

/-!
# Reading what was written

Each reader gives back the value that its writer wrote and leaves the bytes
behind it, whatever they are.  Numbers have to fit the type that is read, and
texts must have a length that fits 64 bits, as every text in memory has.
-/

namespace TensorPipeline
namespace Wire

/-- The reader takes the value off bytes that begin with the given ones, and no
byte more. -/
def Reads {α : Type} (read : Reader α) (bytes : List UInt8) (value : α) : Prop :=
  forall rest : List UInt8, read (bytes ++ rest) = some (value, rest)

/-!
## Numbers
-/

theorem ofLittleEndian_littleEndian (w n : Nat) :
    ofLittleEndian (littleEndian w n) = n % 256 ^ w := by
  induction w generalizing n with
  | zero => simp [littleEndian, ofLittleEndian, Nat.mod_one]
  | succ w ih =>
      have hbyte : (UInt8.ofNat (n % 256)).toNat = n % 256 := by
        rw [UInt8.toNat_ofNat']
        omega
      rw [littleEndian, ofLittleEndian, ih, hbyte, Nat.pow_succ,
        Nat.mul_comm (256 ^ w) 256, Nat.mod_mul]

theorem readNat_writeNat
    {lastMax : Nat} (hlast : lastMax < 128) (room n : Nat)
    (hn : n < 128 ^ room * (lastMax + 1)) :
    Reads (readNat lastMax (room + 1)) (writeNat n) n := by
  intro rest
  induction room generalizing n with
  | zero =>
      have hsmall : n < 128 := by omega
      have hbyte : (UInt8.ofNat n).toNat = n := by
        rw [UInt8.toNat_ofNat']
        omega
      rw [writeNat, if_pos hsmall]
      simp only [List.cons_append, List.nil_append, readNat, hbyte, hsmall, if_true]
      rw [if_neg (by simp; omega)]
  | succ room ih =>
      rw [writeNat]
      by_cases hsmall : n < 128
      · have hbyte : (UInt8.ofNat n).toNat = n := by
          rw [UInt8.toNat_ofNat']
          omega
        rw [if_pos hsmall]
        simp only [List.cons_append, List.nil_append, readNat, hbyte, hsmall, if_true]
        rw [if_neg (by simp)]
      · have hbyte : (UInt8.ofNat (n % 128 + 128)).toNat = n % 128 + 128 := by
          rw [UInt8.toNat_ofNat']
          omega
        have hdigits : n / 128 < 128 ^ room * (lastMax + 1) := by
          rw [Nat.pow_succ, Nat.mul_right_comm, Nat.mul_comm] at hn
          exact Nat.div_lt_of_lt_mul hn
        rw [if_neg hsmall, List.cons_append, readNat, hbyte, if_neg (by omega), ih _ hdigits]
        simp only [Option.map_some, Option.some.injEq, Prod.mk.injEq, and_true]
        omega

theorem reads_nat64 {n : Nat} (hn : n < 2 ^ 64) : Reads readNat64 (writeNat n) n :=
  readNat_writeNat (by omega) 9 n (by omega)

theorem reads_nat32 {n : Nat} (hn : n < 2 ^ 32) : Reads readNat32 (writeNat n) n :=
  readNat_writeNat (by omega) 4 n (by omega)

theorem unzigzag_zigzag (i : Int) : unzigzag (zigzag i) = i := by
  cases i with
  | ofNat n =>
      rw [zigzag, unzigzag, if_pos (by omega)]
      congr 1
      omega
  | negSucc n =>
      rw [zigzag, unzigzag, if_neg (by omega)]
      congr 1
      omega

theorem zigzag_lt (n : Int64) : zigzag n.toInt < 2 ^ 64 := by
  have hlow := n.le_toInt
  have hhigh := n.toInt_lt
  cases h : n.toInt with
  | ofNat k =>
      rw [h, Int.ofNat_eq_natCast] at hhigh
      simp only [zigzag]
      omega
  | negSucc k =>
      rw [h] at hlow
      simp only [zigzag]
      omega

/-!
## Texts
-/

def Fits (s : String) : Prop := (utf8 s).length < 2 ^ 64

instance (s : String) : Decidable (Fits s) :=
  inferInstanceAs (Decidable ((utf8 s).length < 2 ^ 64))

theorem fromUTF8?_utf8 (s : String) :
    String.fromUTF8? ⟨(utf8 s).toArray⟩ = some s := by
  have hbytes : (⟨(utf8 s).toArray⟩ : ByteArray) = s.toByteArray := by
    rw [utf8, Array.toArray_toList]
  rw [hbytes, String.fromUTF8?, dif_pos s.isValidUTF8]
  rfl

theorem reads_text {s : String} (hs : Fits s) : Reads readText (writeText s) s := by
  intro rest
  rw [readText, writeText, List.append_assoc, reads_nat64 hs]
  simp only [Option.bind_eq_bind, Option.bind_some, List.length_append]
  rw [if_neg (by omega), List.take_left, List.drop_left, fromUTF8?_utf8]
  rfl

theorem length_utf8 (s : String) : (utf8 s).length = s.utf8ByteSize :=
  Array.length_toList

theorem utf8ByteSize_ofList_le (chars : List Char) :
    (String.ofList chars).utf8ByteSize ≤ 4 * chars.length := by
  induction chars with
  | nil => exact Nat.le_refl 0
  | cons c rest ih =>
      have hc := c.utf8Size_le_four
      have hsplit : String.ofList (c :: rest) = String.singleton c ++ String.ofList rest := by
        rw [String.singleton_eq_ofList, ← String.ofList_append]
        rfl
      rw [hsplit, String.utf8ByteSize_append, String.utf8ByteSize_singleton, List.length_cons]
      omega

theorem fits_empty : Fits "" := by
  rw [Fits, length_utf8, String.utf8ByteSize_empty]
  omega

theorem length_sha256 (message : List UInt8) : (Digest.sha256 message).length = 32 := by
  unfold Digest.sha256 Digest.bytesOf
  simp only [List.flatMap_cons, List.flatMap_nil, List.length_append, List.length_reverse,
    length_littleEndian, List.length_nil]

theorem fits_checksum (message : List UInt8) : Fits (Digest.checksum message) := by
  have hsize := utf8ByteSize_ofList_le ((Digest.sha256 message).flatMap fun b =>
    [Nat.digitChar (b.toNat / 16), Nat.digitChar (b.toNat % 16)])
  have hdigits : ((Digest.sha256 message).flatMap fun b =>
      [Nat.digitChar (b.toNat / 16), Nat.digitChar (b.toNat % 16)]).length = 32 * 2 := by
    simp only [List.length_flatMap, List.length_cons, List.length_nil, List.map_const',
      length_sha256, List.sum_replicate_nat]
  rw [Fits, length_utf8, Digest.checksum, hexText]
  omega

/-!
## Entries and stores
-/

def FitsValue : StateValue -> Prop
  | .int _ => True
  | .text s => Fits s

def FitsEntry (e : String × StateValue) : Prop := Fits e.1 ∧ FitsValue e.2

theorem reads_value {value : StateValue} (h : FitsValue value) :
    Reads readValue (writeValue value) value := by
  intro rest
  cases value with
  | int n =>
      rw [readValue, writeValue, List.append_assoc, reads_nat32 (by omega)]
      simp only [Option.bind_eq_bind, Option.bind_some]
      rw [reads_nat64 (zigzag_lt n)]
      simp only [Option.bind_some, unzigzag_zigzag, Int64.ofInt_toInt]
      rfl
  | text s =>
      rw [readValue, writeValue, List.append_assoc, reads_nat32 (by omega)]
      simp only [Option.bind_eq_bind, Option.bind_some]
      rw [reads_text h]
      rfl

theorem reads_entry {e : String × StateValue} (h : FitsEntry e) :
    Reads readEntry (writeEntry e) e := by
  intro rest
  rw [readEntry, writeEntry, List.append_assoc, reads_text h.1]
  simp only [Option.bind_eq_bind, Option.bind_some]
  rw [reads_value h.2]
  rfl

theorem reads_entries
    {entries : List (String × StateValue)} (h : forall e, e ∈ entries -> FitsEntry e) :
    Reads (readEntries entries.length) (entries.flatMap writeEntry) entries := by
  induction entries with
  | nil =>
      intro rest
      rfl
  | cons e entries ih =>
      intro rest
      have he := h e List.mem_cons_self
      have hrest := ih fun e' he' => h e' (List.mem_cons_of_mem e he')
      rw [List.length_cons, readEntries, List.flatMap_cons, List.append_assoc, reads_entry he]
      simp only [Option.bind_eq_bind, Option.bind_some]
      rw [hrest]
      rfl

structure FitsStore (s : Store) : Prop where
  size : s.size < 2 ^ 64
  entries : forall e : String × StateValue, e ∈ s.entries -> FitsEntry e

theorem reads_store {s : Store} (h : FitsStore s) : Reads readStore (writeStore s) s := by
  intro rest
  rw [readStore, writeStore, List.append_assoc, reads_nat64 h.size]
  simp only [Option.bind_eq_bind, Option.bind_some]
  rw [show s.size = s.entries.length from rfl, reads_entries h.entries]
  simp only [Option.bind_some, Table.ofPairs_entries]
  rfl

structure FitsSnapshot (s : Snapshot) : Prop where
  job : Fits s.job
  path : Fits s.path
  state : FitsStore s.state
  checksum : Fits s.checksum

theorem reads_snapshot {s : Snapshot} (h : FitsSnapshot s) :
    Reads readSnapshot (writeSnapshot s) s := by
  intro rest
  rw [readSnapshot, writeSnapshot, List.append_assoc, List.append_assoc, List.append_assoc,
    List.append_assoc, reads_text h.job]
  simp only [Option.bind_eq_bind, Option.bind_some]
  rw [reads_text h.path]
  simp only [Option.bind_some]
  rw [reads_nat64 s.timestamp.toNat_lt]
  simp only [Option.bind_some]
  rw [reads_store h.state]
  simp only [Option.bind_some]
  rw [reads_text h.checksum]
  simp only [Option.bind_some, UInt64.ofNat_toNat]
  rfl

end Wire

theorem Snapshot.ofBytes?_writeSnapshot {s : Snapshot} (h : Wire.FitsSnapshot s) :
    Snapshot.ofBytes? (Wire.writeSnapshot s) = some s := by
  have hread := Wire.reads_snapshot h []
  rw [List.append_nil] at hread
  rw [Snapshot.ofBytes?, hread]
  rfl

end TensorPipeline
