import TensorPipeline.Proofs.Stacking.Buffers
import TensorPipeline.Proofs.Wire.RoundTrip

/-!
# Values in the bytes of a tensor

A value is read back from the bytes that it was written as, and any bytes of the
right width are those of the value read from them, except that a truth value is
written as zero or one whatever byte it was read from.  The bytes of a tensor fall
into pieces of one width, one for each value, so both laws carry over from one value
to all values of a tensor.
-/

namespace TensorPipeline

/-!
## Numbers
-/

theorem ofLittleEndian_lt (bytes : List UInt8) : ofLittleEndian bytes < 256 ^ bytes.length := by
  induction bytes with
  | nil => exact Nat.one_pos
  | cons b rest ih =>
      have hb := b.toNat_lt
      rw [ofLittleEndian, List.length_cons, Nat.pow_succ]
      omega

theorem littleEndian_ofLittleEndian {bytes : List UInt8} {w : Nat} (h : bytes.length = w) :
    littleEndian w (ofLittleEndian bytes) = bytes := by
  subst h
  induction bytes with
  | nil => rfl
  | cons b rest ih =>
      have hb := b.toNat_lt
      have hlow : (b.toNat + 256 * ofLittleEndian rest) % 256 = b.toNat := by omega
      have hhigh : (b.toNat + 256 * ofLittleEndian rest) / 256 = ofLittleEndian rest := by omega
      rw [List.length_cons, ofLittleEndian, littleEndian, hlow, hhigh, ih, UInt8.ofNat_toNat]

theorem word32_ofLittleEndian (w : UInt32) :
    UInt32.ofNat (ofLittleEndian (littleEndian 4 w.toNat)) = w := by
  have hlt : w.toNat < 256 ^ 4 := w.toNat_lt
  rw [Wire.ofLittleEndian_littleEndian, Nat.mod_eq_of_lt hlt, UInt32.ofNat_toNat]

theorem word64_ofLittleEndian (w : UInt64) :
    UInt64.ofNat (ofLittleEndian (littleEndian 8 w.toNat)) = w := by
  have hlt : w.toNat < 256 ^ 8 := w.toNat_lt
  rw [Wire.ofLittleEndian_littleEndian, Nat.mod_eq_of_lt hlt, UInt64.ofNat_toNat]

/-!
## One value
-/

namespace DType

theorem decode_encode (d : DType) (v : d.Value) : d.decode (d.encode v) = v := by
  cases d with
  | bool =>
      cases v with
      | false => rfl
      | true => rfl
  | uint8 => rfl
  | int32 =>
      have hword := word32_ofLittleEndian (Int32.toUInt32 v)
      exact (congrArg UInt32.toInt32 hword).trans (Int32.toInt32_toUInt32 v)
  | int64 =>
      have hword := word64_ofLittleEndian (Int64.toUInt64 v)
      exact (congrArg UInt64.toInt64 hword).trans (Int64.toInt64_toUInt64 v)
  | float32 => exact word32_ofLittleEndian v
  | float64 => exact word64_ofLittleEndian v

/-- What is written for a byte that has been read: any byte but zero is read as the
same truth value, and that is written as one. -/
def rewritten : DType -> UInt8 -> UInt8
  | bool, b => if b = 0 then 0 else 1
  | _, b => b

theorem rewritten_of_ne_bool {d : DType} (h : d ≠ bool) : d.rewritten = id := by
  cases d with
  | bool => exact absurd rfl h
  | uint8 => rfl
  | int32 => rfl
  | int64 => rfl
  | float32 => rfl
  | float64 => rfl

theorem encode_decode_bool (b : UInt8) : bool.encode (bool.decode [b]) = [bool.rewritten b] := by
  by_cases hb : b = 0
  · rw [hb]
    rfl
  · have hne : (b == 0) = false := beq_eq_false_iff_ne.mpr hb
    simp [encode, decode, rewritten, hb, hne]

theorem encode_decode {d : DType} {bytes : List UInt8} (h : bytes.length = d.width) :
    d.encode (d.decode bytes) = bytes.map d.rewritten := by
  have hlt : ofLittleEndian bytes < 256 ^ d.width := h ▸ ofLittleEndian_lt bytes
  cases d with
  | bool =>
      rcases List.length_eq_one_iff.mp h with ⟨b, rfl⟩
      exact encode_decode_bool b
  | uint8 =>
      rcases List.length_eq_one_iff.mp h with ⟨b, rfl⟩
      rfl
  | int32 =>
      rw [rewritten_of_ne_bool (by decide), List.map_id, encode, decode,
        UInt32.toUInt32_toInt32, UInt32.toNat_ofNat_of_lt' hlt]
      exact littleEndian_ofLittleEndian h
  | int64 =>
      rw [rewritten_of_ne_bool (by decide), List.map_id, encode, decode,
        UInt64.toUInt64_toInt64, UInt64.toNat_ofNat_of_lt' hlt]
      exact littleEndian_ofLittleEndian h
  | float32 =>
      rw [rewritten_of_ne_bool (by decide), List.map_id, encode, decode,
        UInt32.toNat_ofNat_of_lt' hlt]
      exact littleEndian_ofLittleEndian h
  | float64 =>
      rw [rewritten_of_ne_bool (by decide), List.map_id, encode, decode,
        UInt64.toNat_ofNat_of_lt' hlt]
      exact littleEndian_ofLittleEndian h

end DType

/-!
## All values of a tensor
-/

theorem pieces_flatten
    {width : Nat} (hwidth : 0 < width) {slots : List (List UInt8)}
    (hslots : forall slot : List UInt8, slot ∈ slots -> slot.length = width) :
    pieces width slots.flatten = slots := by
  induction slots with
  | nil => rw [List.flatten_nil, pieces]
  | cons slot slots ih =>
      have hslot := hslots slot List.mem_cons_self
      have hrest := ih fun s hs => hslots s (List.mem_cons_of_mem slot hs)
      rw [List.flatten_cons, Stacking.pieces_of_le hwidth (by simp [hslot]),
        List.take_left' hslot, List.drop_left' hslot, hrest]

namespace Tensor

theorem storedValues_flatMap_encode (d : DType) (s : Shape) (vs : List d.Value) :
    storedValues ⟨d, s, vs.flatMap d.encode⟩ = vs := by
  have hwidth (slot : List UInt8) (hslot : slot ∈ vs.map d.encode) : slot.length = d.width := by
    rcases List.mem_map.mp hslot with ⟨v, _, rfl⟩
    exact d.length_encode v
  have hfilter : (vs.map d.encode).filter (fun p => p.length == d.width) = vs.map d.encode :=
    List.filter_eq_self.mpr fun slot hslot => beq_iff_eq.mpr (hwidth slot hslot)
  unfold storedValues
  simp only [List.flatMap_def, pieces_flatten d.width_pos hwidth, hfilter, List.map_map]
  exact List.map_id'' d.decode_encode vs

theorem values_self (t : Tensor) : t.values t.dtype = .ok t.storedValues := by
  rw [values, dif_pos rfl]

section

variable {t : Tensor}

theorem WellFormed.volume_mul_width (h : t.WellFormed) :
    t.data.length = t.shape.volume * t.dtype.width := by
  rcases h.byteSize?_eq with ⟨bytes, hbytes, hlength⟩
  rw [← hlength, Shape.byteSize?_eq_some_iff.mp hbytes]

theorem WellFormed.slots_pieces (h : t.WellFormed) :
    Stacking.Slots t.shape.volume t.dtype.width (pieces t.dtype.width t.data) :=
  Stacking.slots_pieces t.dtype.width_pos h.volume_mul_width

theorem WellFormed.storedValues_eq (h : t.WellFormed) :
    t.storedValues = (pieces t.dtype.width t.data).map t.dtype.decode := by
  have hfull : (pieces t.dtype.width t.data).filter (fun p => p.length == t.dtype.width) =
      pieces t.dtype.width t.data :=
    List.filter_eq_self.mpr fun p hp => beq_iff_eq.mpr (h.slots_pieces.width_eq p hp)
  rw [storedValues, hfull]

theorem WellFormed.length_storedValues (h : t.WellFormed) :
    t.storedValues.length = t.shape.volume := by
  rw [h.storedValues_eq, List.length_map, h.slots_pieces.length_eq]

theorem WellFormed.flatMap_encode_storedValues (h : t.WellFormed) :
    t.storedValues.flatMap t.dtype.encode = t.data.map t.dtype.rewritten := by
  have hpieces : (pieces t.dtype.width t.data).map (t.dtype.encode ∘ t.dtype.decode) =
      (pieces t.dtype.width t.data).map (List.map t.dtype.rewritten) :=
    List.map_congr_left fun p hp => DType.encode_decode (h.slots_pieces.width_eq p hp)
  rw [h.storedValues_eq, List.flatMap_def, List.map_map, hpieces, ← List.map_flatten,
    flatten_pieces t.dtype.width_pos]

end

/-!
## Building from values
-/

section

variable {d : DType} {s : Shape} {vs : List d.Value} {t : Tensor}

theorem ofValues_eq_ok_iff :
    ofValues d s vs = .ok t <->
      (s.volume = vs.length ∧ s.volume < 2 ^ 64) ∧ t = ⟨d, s, vs.flatMap d.encode⟩ := by
  unfold ofValues
  cases hsize : s.size? with
  | none =>
      have hlarge : ¬ s.volume < 2 ^ 64 := by
        intro hlt
        have hword := Shape.size?_eq_some_iff.mpr (UInt64.toNat_ofNat_of_lt' hlt).symm
        rw [hsize] at hword
        cases hword
      constructor
      · intro h
        cases h
      · intro h
        exact absurd h.1.2 hlarge
  | some expected =>
      have hvolume := Shape.size?_eq_some_iff.mp hsize
      simp only
      by_cases hlength : vs.length = expected.toNat
      · rw [if_pos hlength, hvolume]
        constructor
        · intro h
          cases h
          exact ⟨⟨hlength.symm, expected.toNat_lt⟩, rfl⟩
        · intro h
          rw [h.2]
      · rw [if_neg hlength, hvolume]
        constructor
        · intro h
          cases h
        · intro h
          exact absurd h.1.1.symm hlength

theorem length_flatMap_encode (vs : List d.Value) :
    (vs.flatMap d.encode).length = vs.length * d.width := by
  induction vs with
  | nil => exact (Nat.zero_mul d.width).symm
  | cons v vs ih =>
      rw [List.flatMap_cons, List.length_append, ih, d.length_encode, List.length_cons,
        Nat.succ_mul, Nat.add_comm]

theorem ofBytes_flatMap_encode
    (hvolume : s.volume = vs.length) (hfits : vs.length * d.width < 2 ^ 64) :
    ofBytes d s (vs.flatMap d.encode) = .ok ⟨d, s, vs.flatMap d.encode⟩ := by
  have hword : (UInt64.ofNat (vs.length * d.width)).toNat = vs.length * d.width :=
    UInt64.toNat_ofNat_of_lt' hfits
  have hbytes : s.byteSize? d = some (UInt64.ofNat (vs.length * d.width)) := by
    rw [Shape.byteSize?_eq_some_iff, hvolume, hword]
  simp only [ofBytes, hbytes, length_flatMap_encode, hword, if_true]

end

theorem WellFormed.ofValues_storedValues {t : Tensor} (h : t.WellFormed) :
    ofValues t.dtype t.shape t.storedValues =
      .ok { t with data := t.data.map t.dtype.rewritten } := by
  have hlt : t.shape.volume < 2 ^ 64 := by
    rcases h.byteSize?_eq with ⟨bytes, hbytes, _⟩
    rw [Shape.byteSize?_eq_some_iff] at hbytes
    exact Nat.lt_of_le_of_lt (Nat.le_mul_of_pos_right _ t.dtype.width_pos)
      (hbytes ▸ bytes.toNat_lt)
  refine ofValues_eq_ok_iff.mpr ⟨⟨h.length_storedValues.symm, hlt⟩, ?_⟩
  rw [h.flatMap_encode_storedValues]

end Tensor

/-- A tensor is built from values if and only if there are exactly as many as its
shape holds; it is then the tensor of their stored forms side by side, and its values
are those it was built from.  A tensor whose bytes balance is built anew from its own
values: it is the very same, except that every byte of a truth value other than zero
has become one, which leaves the values as they were. -/
theorem values_survive_in_tensors
    (d : DType) (s : Shape) (vs : List d.Value) (hfits : vs.length * d.width < 2 ^ 64) :
    ((exists t : Tensor, Tensor.ofValues d s vs = .ok t) <->
        s.volume = vs.length ∧ s.volume < 2 ^ 64) ∧
      (forall t : Tensor, Tensor.ofValues d s vs = .ok t ->
        Tensor.ofBytes d s (vs.flatMap d.encode) = .ok t ∧ t.values d = .ok vs) ∧
      forall t : Tensor, t.WellFormed ->
        exists stored : List t.dtype.Value,
          t.values t.dtype = .ok stored ∧
            (t.dtype ≠ .bool -> Tensor.ofValues t.dtype t.shape stored = .ok t) ∧
            (t.dtype = .bool ->
              exists settled : Tensor,
                Tensor.ofValues t.dtype t.shape stored = .ok settled ∧
                  settled = { t with data := t.data.map fun b => if b = 0 then 0 else 1 } ∧
                  settled.values t.dtype = .ok stored) := by
  refine ⟨?_, ?_, ?_⟩
  · constructor
    · rintro ⟨t, ht⟩
      exact (Tensor.ofValues_eq_ok_iff.mp ht).1
    · intro h
      exact ⟨_, Tensor.ofValues_eq_ok_iff.mpr ⟨h, rfl⟩⟩
  · intro t ht
    rcases Tensor.ofValues_eq_ok_iff.mp ht with ⟨⟨hvolume, _⟩, rfl⟩
    refine ⟨Tensor.ofBytes_flatMap_encode hvolume hfits, ?_⟩
    have hread := Tensor.values_self ⟨d, s, vs.flatMap d.encode⟩
    rw [Tensor.storedValues_flatMap_encode] at hread
    exact hread
  · intro t hwf
    have hrebuilt := hwf.ofValues_storedValues
    refine ⟨t.storedValues, t.values_self, ?_, ?_⟩
    · intro hdtype
      rw [hrebuilt, DType.rewritten_of_ne_bool hdtype, List.map_id]
    · intro hdtype
      refine ⟨_, hrebuilt, ?_, ?_⟩
      · rw [hdtype]
        rfl
      · have hsettled := Tensor.storedValues_flatMap_encode t.dtype t.shape t.storedValues
        rw [hwf.flatMap_encode_storedValues] at hsettled
        exact (Tensor.values_self _).trans (congrArg Except.ok hsettled)

def payloads : List (DType.Value .float32) :=
  let values : List UInt32 := [0x7fc00001, 0xff800000]
  values

def payloadTensor : Tensor :=
  ⟨.float32, ⟨[2]⟩, [0x01, 0x00, 0xc0, 0x7f, 0x00, 0x00, 0x80, 0xff]⟩

def threeTruths : Tensor := ⟨.bool, ⟨[3]⟩, [0, 1, 7]⟩

theorem values_survive_in_tensors_with_payloads :
    payloads.length * DType.float32.width < 2 ^ 64 ∧
      Tensor.ofValues .float32 ⟨[2]⟩ payloads = .ok payloadTensor ∧
      Tensor.ofBytes .float32 ⟨[2]⟩ (payloads.flatMap DType.float32.encode) =
        .ok payloadTensor ∧
      payloadTensor.values .float32 = .ok payloads ∧
      payloadTensor.WellFormed ∧
      (exists stored : List (DType.Value .float32),
        payloadTensor.values .float32 = .ok stored ∧
          Tensor.ofValues .float32 ⟨[2]⟩ stored = .ok payloadTensor) ∧
      threeTruths.WellFormed ∧
      exists (stored : List (DType.Value .bool)) (settled : Tensor),
        threeTruths.values .bool = .ok stored ∧
          Tensor.ofValues .bool ⟨[3]⟩ stored = .ok settled ∧
          settled.data = [0, 1, 1] ∧
          settled.values .bool = .ok stored := by
  have hfits : payloads.length * DType.float32.width < 2 ^ 64 := by decide
  have hbuilt : Tensor.ofValues .float32 ⟨[2]⟩ payloads = .ok payloadTensor := rfl
  have hpayloads : payloadTensor.WellFormed := by decide
  have htruths : threeTruths.WellFormed := by decide
  rcases values_survive_in_tensors .float32 ⟨[2]⟩ payloads hfits with ⟨_, hok, hrebuild⟩
  rcases hok payloadTensor hbuilt with ⟨hbytes, hread⟩
  rcases hrebuild payloadTensor hpayloads with ⟨stored, hstored, hsame, _⟩
  rcases hrebuild threeTruths htruths with ⟨truths, htold, _, hsettle⟩
  rcases hsettle rfl with ⟨settled, hsettled, heq, hagain⟩
  refine ⟨hfits, hbuilt, hbytes, hread, hpayloads, ⟨stored, hstored, hsame (by decide)⟩,
    htruths, truths, settled, htold, hsettled, ?_, hagain⟩
  rw [heq]
  rfl

end TensorPipeline
