import TensorPipeline.Proofs.Keys
import TensorPipeline.Proofs.Requests

/-!
# Restoring what another pipeline has saved

An iterator saves a single entry, and its key tells how far it comes from.  So what
one pipeline has saved leads another one exactly where the first one stood, if the
key is one of its own: a marker needs the same stages down to the one that is used
up, whatever lies below, and a position needs all stages and the kind of the source
to be the same.  Anything else is a store that says nothing.
-/

namespace TensorPipeline
namespace Pipeline

/-!
## The entry of a cursor
-/

section

variable {p : Pipeline} {c : Cursor p}

theorem savedEntry_of_reading
    {position : Int64} (h : p.standing c = .reading position) (path : String) :
    p.savedEntry path c = (p.sourceKey path, .int position) := by
  induction p generalizing path with
  | range start stop =>
      cases h
      rfl
  | tensors source =>
      cases h
      rfl
  | counting tally input ih => exact ih h path
  | faulty failAt input ih => exact ih h path
  | batch stage input ih =>
      rcases c with ⟨feed, poisoned⟩
      cases feed with
      | drained => cases h
      | active c =>
          have hinput : input.standing c = .reading position := Standing.deeper_inj h
          exact ih hinput (input.pathUnder path)

theorem getElem?_markers_of_drained
    {level : Nat} (h : p.standing c = .drained level) (path : String) :
    (p.markers path)[level]? = some (p.savedEntry path c).1 := by
  induction p generalizing path level with
  | range start stop => cases h
  | tensors source => cases h
  | counting tally input ih => exact ih h path
  | faulty failAt input ih => exact ih h path
  | batch stage input ih =>
      rcases c with ⟨feed, poisoned⟩
      cases feed with
      | drained =>
          cases h
          rfl
      | active c =>
          cases level with
          | zero => exact absurd h (Standing.deeper_ne_drained_zero _)
          | succ level =>
              have hinput : input.standing c = .drained level := Standing.deeper_inj h
              exact ih hinput (input.pathUnder path)

theorem contains_savedStore_iff {path key : String} :
    (p.savedStore path c).contains key = true <-> key = (p.savedEntry path c).1 := by
  rw [Table.contains, savedStore, Table.get?_write]
  by_cases hkey : key = (p.savedEntry path c).1
  · rw [if_pos hkey]
    exact ⟨fun _ => hkey, fun _ => rfl⟩
  · rw [if_neg hkey]
    exact ⟨fun h => Bool.noConfusion h, fun h => absurd h hkey⟩

end

/-!
## Reading it as another pipeline
-/

/-- Whether a pipeline finds its own place in what another one has saved at a place. -/
def Recognizes (b a : Pipeline) : Standing -> Prop
  | .drained level => a.versions.take (level + 1) <+: b.versions
  | .reading _ => b.versions = a.versions ∧ b.sourceKind = a.sourceKind

instance (b a : Pipeline) : (place : Standing) -> Decidable (b.Recognizes a place)
  | .drained level => inferInstanceAs (Decidable (a.versions.take (level + 1) <+: b.versions))
  | .reading _ => inferInstanceAs
      (Decidable (b.versions = a.versions ∧ b.sourceKind = a.sourceKind))

theorem admitsPosition_eq (p : Pipeline) (position : Int64) :
    p.admitsPosition position =
      match p.sourceKind with
      | .range => true
      | .tensors => decide (0 ≤ position) := by
  induction p with
  | range start stop => rfl
  | tensors source => rfl
  | counting tally input ih => exact ih
  | faulty failAt input ih => exact ih
  | batch stage input ih => exact ih

theorem recorded_eq_missing
    {p : Pipeline} {path : String} {store : Store}
    (hmarkers : forall key : String, key ∈ p.markers path -> store.contains key = false)
    (hsource : store.get? (p.sourceKey path) = none) :
    p.recorded path store = .error (.missing (p.sourceKey path)) := by
  rw [recorded, List.findIdx?_eq_none_iff.mpr hmarkers, hsource]
  rfl

section

variable {b : Pipeline} {parent : String} {store : Store} {versions : List OpVersion}

theorem recorded_of_marker
    (honly : forall key : String, store.contains key = true <-> key = markerBelow parent versions)
    {level : Nat} (hlength : versions.length = level + 1) :
    b.recorded (b.pathUnder parent) store =
      if versions <+: b.versions then .ok (.drained level)
      else .error (.missing (b.sourceKey (b.pathUnder parent))) := by
  have hfound (i : Nat) (hi : i < (b.markers (b.pathUnder parent)).length)
      (h : store.contains (b.markers (b.pathUnder parent))[i] = true) :
      versions <+: b.versions ∧ versions.length = i + 1 := by
    apply getElem?_markers_eq_markerBelow_iff.mp
    rw [List.getElem?_eq_getElem hi, (honly _).mp h]
  by_cases hbegins : versions <+: b.versions
  · rw [if_pos hbegins]
    have hlookup : (b.markers (b.pathUnder parent))[level]? = some (markerBelow parent versions) :=
      getElem?_markers_eq_markerBelow_iff.mpr ⟨hbegins, hlength⟩
    rcases List.getElem?_eq_some_iff.mp hlookup with ⟨hlevel, hmarker⟩
    have hfirst : (b.markers (b.pathUnder parent)).findIdx? store.contains = some level := by
      rw [List.findIdx?_eq_some_iff_getElem]
      refine ⟨hlevel, (honly _).mpr hmarker, ?_⟩
      intro i hi hmarked
      have := (hfound i (Nat.lt_trans hi hlevel) hmarked).2
      omega
    rw [recorded, hfirst]
  · rw [if_neg hbegins]
    apply recorded_eq_missing
    · intro key hkey
      rcases List.getElem_of_mem hkey with ⟨i, hi, rfl⟩
      apply eq_false_of_ne_true
      intro hmarked
      exact hbegins (hfound i hi hmarked).1
    · apply Option.not_isSome_iff_eq_none.mp
      intro hsome
      have hkey := (honly _).mp hsome
      rw [sourceKey_pathUnder] at hkey
      exact markerBelow_ne_sourceKeyBelow _ hkey.symm

theorem recorded_of_position
    {kind : SourceKind} {value : StateValue}
    (hstore : store = Table.empty.write (sourceKeyBelow parent versions kind) value) :
    b.recorded (b.pathUnder parent) store =
      if b.versions = versions ∧ b.sourceKind = kind then
        b.sourcePlace (b.sourceKey (b.pathUnder parent)) (some value)
      else .error (.missing (b.sourceKey (b.pathUnder parent))) := by
  have hmarkers (key : String) (hkey : key ∈ b.markers (b.pathUnder parent)) :
      store.contains key = false := by
    rcases List.getElem?_of_mem hkey with ⟨i, hi⟩
    rw [← (getElem?_markers_eq_some_iff.mp hi).2, hstore, Table.contains, Table.get?_write,
      if_neg (markerBelow_ne_sourceKeyBelow kind)]
    rfl
  by_cases hsame : b.versions = versions ∧ b.sourceKind = kind
  · rw [if_pos hsame, recorded, List.findIdx?_eq_none_iff.mpr hmarkers]
    have hkey : b.sourceKey (b.pathUnder parent) = sourceKeyBelow parent versions kind := by
      rw [sourceKey_pathUnder, hsame.1, hsame.2]
    rw [hstore, Table.get?_write, if_pos hkey]
  · rw [if_neg hsame]
    apply recorded_eq_missing hmarkers
    rw [hstore, Table.get?_write, if_neg]
    · rfl
    · intro hkey
      rw [sourceKey_pathUnder] at hkey
      exact hsame (sourceKeyBelow_inj hkey)

end

theorem recorded_savedStore
    {a : Pipeline} {c : Cursor a} (hadmits : a.Admits (a.standing c)) (b : Pipeline)
    (parent : String) :
    b.recorded (b.pathUnder parent) (a.savedStore (a.pathUnder parent) c) =
      if b.Recognizes a (a.standing c) then .ok (a.standing c)
      else .error (.missing (b.sourceKey (b.pathUnder parent))) := by
  cases hstanding : a.standing c with
  | drained level =>
      have hmarker := getElem?_markers_of_drained hstanding (a.pathUnder parent)
      rcases getElem?_markers_eq_some_iff.mp hmarker with ⟨hlevel, hkey⟩
      apply recorded_of_marker
      · intro key
        rw [hkey]
        exact contains_savedStore_iff
      · rw [List.length_take]
        omega
  | reading position =>
      have hentry := savedEntry_of_reading hstanding (a.pathUnder parent)
      have hstore : a.savedStore (a.pathUnder parent) c =
          Table.empty.write (sourceKeyBelow parent a.versions a.sourceKind) (.int position) := by
        rw [savedStore, hentry, sourceKey_pathUnder]
      rw [recorded_of_position hstore]
      by_cases hrecognizes : b.Recognizes a (.reading position)
      · have hsame : b.versions = a.versions ∧ b.sourceKind = a.sourceKind := hrecognizes
        have hposition : b.admitsPosition position = true := by
          rw [b.admitsPosition_eq, hsame.2, ← a.admitsPosition_eq]
          exact hadmits position hstanding
        rw [if_pos hsame, if_pos hrecognizes, sourcePlace, if_pos hposition]
      · have hother : ¬ (b.versions = a.versions ∧ b.sourceKind = a.sourceKind) := hrecognizes
        rw [if_neg hother, if_neg hrecognizes]

end Pipeline

/-- A snapshot of one pipeline leads another one below the same parent exactly where
the first one stood, or is refused for want of the key of the other's source.  It
leads there exactly if the stages down to the one that is used up agree, or if all
stages and the kinds of the sources do.  It makes no difference whether the other is
made anew or moved in place.  No two keys of a pipeline are the same. -/
theorem foreign_snapshot_leads_or_is_missing
    {ctx : Context} {a : Pipeline} (parent : String) {c : Cursor a} (haddr : a.Addressable)
    (hreachable : a.Reachable ctx (a.pathUnder parent) c) (hlock : a.Unlocked c)
    (b : Pipeline) :
    let path := b.pathUnder parent
    (b.markers path ++ [b.sourceKey path]).Nodup ∧
    exists store : Store,
      Iterator.save ⟨a, a.pathUnder parent, c⟩ Table.empty = .ok store ∧
      (b.Recognizes a (a.standing c) ->
        (exists d : Cursor b,
          Iterator.restoredUnder b parent store = .ok ⟨b, path, d⟩ ∧
          b.RestoredTo (a.standing c) [] d) ∧
        forall other : Cursor b, b.Unlocked other -> exists d : Cursor b,
          Iterator.restore ⟨b, path, other⟩ store = .ok ⟨b, path, d⟩ ∧
          b.RestoredTo (a.standing c) (b.outerCounts other) d) ∧
      (¬ b.Recognizes a (a.standing c) ->
        Iterator.restoredUnder b parent store = .error (.state (.missing (b.sourceKey path))) ∧
        forall other : Cursor b, b.Unlocked other ->
          Iterator.restore ⟨b, path, other⟩ store =
            .error (.state (.missing (b.sourceKey path)))) := by
  intro path
  have hsound := hreachable.soundAt hlock
  have hrecorded := Pipeline.recorded_savedStore
    (Pipeline.admits_standing_of_soundAt hsound haddr) b parent
  rcases b.leads path (a.savedStore (a.pathUnder parent) c) with ⟨hnew, hmoved⟩
  rw [hrecorded] at hnew hmoved
  refine ⟨b.keys_nodup parent, a.savedStore (a.pathUnder parent) c,
    Pipeline.save_of_soundAt hsound _ _, ?_, ?_⟩
  · intro hrecognizes
    rw [if_pos hrecognizes] at hnew hmoved
    constructor
    · rcases hnew.of_ok with ⟨d, hd, hrestored⟩
      exact ⟨d, Iterator.restoredUnder_of_restoreNew hd, hrestored⟩
    · intro other hother
      rcases (hmoved other hother).of_ok with ⟨d, hd, hrestored⟩
      exact ⟨d, Iterator.restore_of_restoreInPlace hd, hrestored⟩
  · intro hrecognizes
    rw [if_neg hrecognizes] at hnew hmoved
    constructor
    · rw [Iterator.restoredUnder, hnew.of_error]
      rfl
    · intro other hother
      rw [Iterator.restore, (hmoved other hother).of_error]
      rfl

def newerPairs : Pipeline :=
  .batch Stage.singles (.batch Stage.pairs (.range 0 (some 3)))

theorem foreign_snapshot_leads_or_is_missing_between_versions :
    let c := singlesOfPairs.after Context.default "Iterator::BatchV2" singlesOfPairs.start
      [.next Usage.empty, .next Usage.empty]
    singlesOfPairs.Addressable ∧
      singlesOfPairs.Reachable Context.default "Iterator::BatchV2" c ∧
      singlesOfPairs.Unlocked c ∧
      exists store : Store,
        Iterator.save ⟨singlesOfPairs, "Iterator::BatchV2", c⟩ Table.empty = .ok store ∧
        (exists d : Cursor layeredPairs,
          Iterator.restoredUnder layeredPairs "Iterator" store =
            .ok ⟨layeredPairs, "Iterator::BatchV2", d⟩ ∧
          layeredPairs.RestoredTo (.drained 1) [] d) ∧
        Iterator.restoredUnder newerPairs "Iterator" store =
          .error (.state (.missing "Iterator::BatchV2::BatchV2::Range:next")) := by
  intro c
  have haddr : singlesOfPairs.Addressable := trivial
  have hreachable : singlesOfPairs.Reachable Context.default "Iterator::BatchV2" c :=
    Pipeline.Reachable.start.after _
  have hlock : singlesOfPairs.Unlocked c := by with_unfolding_all rfl
  have hstanding : singlesOfPairs.standing c = .drained 1 := by with_unfolding_all rfl
  rcases (foreign_snapshot_leads_or_is_missing "Iterator" haddr hreachable hlock
    layeredPairs).2 with ⟨store, hsave, hleads, _⟩
  rcases (foreign_snapshot_leads_or_is_missing "Iterator" haddr hreachable hlock
    newerPairs).2 with ⟨store', hsave', _, hmissing⟩
  cases hsave.symm.trans hsave'
  rw [hstanding] at hleads hmissing
  rcases (hleads (by decide)).1 with ⟨d, hd, hrestored⟩
  exact ⟨haddr, hreachable, hlock, store, hsave, ⟨d, hd, hrestored⟩, (hmissing (by decide)).1⟩

end TensorPipeline
