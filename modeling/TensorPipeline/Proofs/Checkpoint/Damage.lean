import TensorPipeline.Proofs.Checkpoint.Retention
import TensorPipeline.Proofs.Wire.Prefixes

/-!
# Damaged checkpoint files

A file that breaks off before the end of its snapshot does not load, wherever it
breaks off.  One whose checksum was made for another state does not load either:
the checksum is taken of the bytes that the loaded state would be written as, and
different states are written as different bytes, so only a collision of the
digest could hide the exchange.  Bytes behind a whole snapshot do no harm.
-/

namespace TensorPipeline

/-!
## What bytes hold
-/

theorem Wire.writeStore_injective
    {s t : Store} (hs : FitsStore s) (ht : FitsStore t) (h : writeStore s = writeStore t) :
    s = t := by
  have hread := reads_store hs []
  rw [h, reads_store ht []] at hread
  exact (congrArg Prod.fst (Option.some.inj hread)).symm

theorem Wire.writeSnapshot_ne_nil {s : Snapshot} (h : FitsSnapshot s) : writeSnapshot s ≠ [] := by
  intro hnil
  have hread := reads_snapshot h []
  rw [hnil] at hread
  cases hread

theorem Store.sha256_eq_of_checksum_eq {s t : Store} (h : s.checksum = t.checksum) :
    Digest.sha256 (Wire.writeStore s) = Digest.sha256 (Wire.writeStore t) :=
  hexText_injective h

namespace Snapshot

theorem ofBytes?_of_torn
    {s : Snapshot} (hfits : Wire.FitsSnapshot s) {torn : List UInt8}
    (htorn : torn <+: Wire.writeSnapshot s) (hne : torn ≠ Wire.writeSnapshot s) :
    ofBytes? torn = none := by
  rw [ofBytes?, Wire.ignoresRest_snapshot.eq_none_of_torn (Wire.reads_snapshot hfits) htorn hne]
  rfl

theorem ofBytes?_writeSnapshot_append
    {s : Snapshot} (hfits : Wire.FitsSnapshot s) (behind : List UInt8) :
    ofBytes? (Wire.writeSnapshot s ++ behind) = some s := by
  rw [ofBytes?, Wire.reads_snapshot hfits]
  rfl

theorem intact_eq_false
    {job path : String} {t : UInt64} {state other : Store} (h : other.checksum ≠ state.checksum) :
    (Snapshot.mk job path t other state.checksum).intact = false :=
  beq_false_of_ne h

end Snapshot

/-!
## What loading makes of them
-/

/-- What loading makes of a damaged file.  A beginning of a snapshot cannot be
decoded.  A state behind the checksum of a different one, written as different
bytes, is reported as corrupt unless the digests of these bytes collide.  A whole
snapshot whose checksum fits its state loads, whatever follows it. -/
theorem damaged_checkpoint_never_loads
    (m : CheckpointManager) (v : Volume) (file : String) :
    (forall (s : Snapshot) (torn : List UInt8), Wire.FitsSnapshot s ->
      torn <+: Wire.writeSnapshot s -> torn ≠ Wire.writeSnapshot s ->
      v.at? (m.pathOf file) = some (.file torn) ->
      m.load v file = .error (.checkpoint .decode)) ∧
    (forall (job path : String) (t : UInt64) (state other : Store), state ≠ other ->
      Wire.FitsStore state ->
      Wire.FitsSnapshot ⟨job, path, t, other, state.checksum⟩ ->
      v.at? (m.pathOf file) =
        some (.file (Wire.writeSnapshot ⟨job, path, t, other, state.checksum⟩)) ->
      m.load v file = .error (.checkpoint (.checksum (m.pathOf file))) ∨
        Wire.writeStore state ≠ Wire.writeStore other ∧
          Digest.sha256 (Wire.writeStore state) = Digest.sha256 (Wire.writeStore other)) ∧
    (forall (s : Snapshot) (behind : List UInt8), Wire.FitsSnapshot s -> s.intact = true ->
      v.at? (m.pathOf file) = some (.file (Wire.writeSnapshot s ++ behind)) ->
      m.load v file = .ok s) := by
  refine ⟨?_, ?_, ?_⟩
  · intro s torn hfits htorn hne hat
    exact CheckpointManager.load_of_unreadable hat (Snapshot.ofBytes?_of_torn hfits htorn hne)
  · intro job path t state other hne hstate hfits hat
    have hload := CheckpointManager.load_of_at? hat hfits
    by_cases hchecksum : other.checksum = state.checksum
    · right
      constructor
      · intro hbytes
        exact hne (Wire.writeStore_injective hstate hfits.state hbytes)
      · exact (Store.sha256_eq_of_checksum_eq hchecksum).symm
    · left
      rw [hload, Snapshot.intact_eq_false hchecksum]
      rfl
  · intro s behind hfits hintact hat
    have hbytes := Snapshot.ofBytes?_writeSnapshot_append hfits behind
    rw [CheckpointManager.load_of_readable hat hbytes, if_pos hintact]

def oneEntry : Store := Table.ofPairs [("Iterator::Range:next", .int 5)]

theorem fits_oneEntry : Wire.FitsStore oneEntry := by
  refine ⟨show oneEntry.size < 2 ^ 64 by decide, ?_⟩
  intro e he
  have hone : oneEntry.entries = [("Iterator::Range:next", .int 5)] := by decide
  rw [hone] at he
  cases List.mem_singleton.mp he
  exact ⟨show Wire.Fits "Iterator::Range:next" by decide, trivial⟩

/-- A snapshot whose state was put behind the checksum of an empty one. -/
def forgedSnapshot : Snapshot := ⟨"a", "Iterator::Range", 8, oneEntry, Store.checksum Table.empty⟩

def damagedFiles : Volume :=
  ⟨.directory
    [("d", .directory
      [("checkpoint_a_7.bin", .file (Wire.writeSnapshot (blankSnapshot "a" 7)).dropLast),
        ("checkpoint_a_8.bin", .file (Wire.writeSnapshot forgedSnapshot)),
        ("checkpoint_a_9.bin", .file (Wire.writeSnapshot (blankSnapshot "a" 9) ++ [0]))])]⟩

theorem damaged_checkpoint_never_loads_of_three_files :
    (Wire.writeSnapshot (blankSnapshot "a" 7)).dropLast <+:
        Wire.writeSnapshot (blankSnapshot "a" 7) ∧
      (Wire.writeSnapshot (blankSnapshot "a" 7)).dropLast ≠
        Wire.writeSnapshot (blankSnapshot "a" 7) ∧
      Table.empty ≠ oneEntry ∧
      (blankSnapshot "a" 9).intact = true ∧
      twoAtMost.load damagedFiles "checkpoint_a_7.bin" = .error (.checkpoint .decode) ∧
      twoAtMost.load damagedFiles "checkpoint_a_8.bin" =
        .error (.checkpoint (.checksum "d/checkpoint_a_8.bin")) ∧
      twoAtMost.load damagedFiles "checkpoint_a_9.bin" = .ok (blankSnapshot "a" 9) := by
  have hfits (t : UInt64) : Wire.FitsSnapshot (blankSnapshot "a" t) :=
    fits_blankSnapshot (by decide) t
  have hempty : Wire.FitsStore Table.empty := (hfits 7).state
  have hforged : Wire.FitsSnapshot forgedSnapshot :=
    ⟨show Wire.Fits "a" by decide, show Wire.Fits "Iterator::Range" by decide, fits_oneEntry,
      Wire.fits_checksum _⟩
  have htorn := List.dropLast_prefix (Wire.writeSnapshot (blankSnapshot "a" 7))
  have hshort : (Wire.writeSnapshot (blankSnapshot "a" 7)).dropLast ≠
      Wire.writeSnapshot (blankSnapshot "a" 7) := by
    apply ne_of_apply_ne List.length
    have hpos := List.length_pos_of_ne_nil (Wire.writeSnapshot_ne_nil (hfits 7))
    rw [List.length_dropLast]
    omega
  have hother : Table.empty ≠ oneEntry := by decide
  have hintact : (blankSnapshot "a" 9).intact = true := beq_self_eq_true _
  have hdigests : Digest.sha256 (Wire.writeStore Table.empty) ≠
      Digest.sha256 (Wire.writeStore oneEntry) := by
    with_unfolding_all decide +kernel
  rcases damaged_checkpoint_never_loads twoAtMost damagedFiles "checkpoint_a_7.bin" with
    ⟨hdecode, _, _⟩
  rcases damaged_checkpoint_never_loads twoAtMost damagedFiles "checkpoint_a_8.bin" with
    ⟨_, hcorrupt, _⟩
  rcases damaged_checkpoint_never_loads twoAtMost damagedFiles "checkpoint_a_9.bin" with
    ⟨_, _, hwhole⟩
  refine ⟨htorn, hshort, hother, hintact, ?_, ?_, ?_⟩
  · exact hdecode _ _ (hfits 7) htorn hshort rfl
  · have hrejected := hcorrupt "a" "Iterator::Range" 8 _ _ hother hempty hforged rfl
    exact hrejected.resolve_right fun hcollide => hdigests hcollide.2
  · exact hwhole _ _ (hfits 9) hintact rfl

end TensorPipeline
