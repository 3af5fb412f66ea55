import Mathlib.Data.List.Dedup
import Mathlib.Data.List.Nodup
import TensorPipeline.Proofs.Checkpoint.FileNames

/-!
# Listing and evicting a job's files

Timestamps are kept in descending lists, the latest first, so that the latest so
many are a beginning of the list.  In a directory of checkpoint files a job's
files are listed by timestamp, oldest first, and evicting leaves those of the
latest timestamps together with the files of all other jobs.
-/

namespace TensorPipeline

/-!
## Descending timestamps
-/

def Descending (times : List UInt64) : Prop := times.Pairwise fun t u => u < t

theorem Descending.nodup {times : List UInt64} (h : Descending times) : times.Nodup := by
  refine List.Pairwise.imp ?_ h
  rintro t u hlt rfl
  exact UInt64.lt_irrefl t hlt

theorem Descending.eq_of_mem_iff
    {times times' : List UInt64} (h : Descending times) (h' : Descending times')
    (hmem : forall t : UInt64, t ∈ times <-> t ∈ times') : times = times' := by
  have hperm : times.Perm times' := (List.perm_ext_iff_of_nodup h.nodup h'.nodup).mpr hmem
  refine List.Perm.eq_of_pairwise ?_ h h' hperm
  intro t u _ _ htu hut
  exact absurd htu (UInt64.lt_asymm hut)

def insertTime (t : UInt64) : List UInt64 -> List UInt64
  | [] => [t]
  | u :: times =>
      if u < t then t :: u :: times
      else if t = u then u :: times
      else u :: insertTime t times

theorem mem_insertTime {t u : UInt64} {times : List UInt64} :
    u ∈ insertTime t times <-> u = t ∨ u ∈ times := by
  induction times with
  | nil => rw [insertTime, List.mem_cons]
  | cons first times ih =>
      unfold insertTime
      split
      · rw [List.mem_cons]
      · split
        · next heq =>
            rw [heq, List.mem_cons]
            exact ⟨Or.inr, fun h => h.elim Or.inl id⟩
        · rw [List.mem_cons, List.mem_cons, ih]
          exact or_left_comm

theorem Descending.insertTime {times : List UInt64} (h : Descending times) (t : UInt64) :
    Descending (insertTime t times) := by
  induction times with
  | nil => exact List.pairwise_singleton _ _
  | cons first times ih =>
      rcases List.pairwise_cons.mp h with ⟨hfirst, htimes⟩
      unfold TensorPipeline.insertTime
      split
      · next hlt =>
          refine List.pairwise_cons.mpr ⟨?_, h⟩
          intro u hu
          rcases List.mem_cons.mp hu with rfl | hu
          · exact hlt
          · exact UInt64.lt_trans (hfirst u hu) hlt
      · split
        · exact h
        · next hle hne =>
            refine List.pairwise_cons.mpr ⟨?_, ih htimes⟩
            intro u hu
            rcases mem_insertTime.mp hu with rfl | hu
            · exact UInt64.lt_of_le_of_ne (UInt64.not_lt.mp hle) hne
            · exact hfirst u hu

def latest (limit : Option Nat) (times : List UInt64) : List UInt64 :=
  match limit with
  | none => times
  | some count => times.take count

def beyond (limit : Option Nat) (times : List UInt64) : List UInt64 :=
  match limit with
  | none => []
  | some count => times.drop count

theorem latest_append_beyond (limit : Option Nat) (times : List UInt64) :
    latest limit times ++ beyond limit times = times := by
  cases limit with
  | none => exact List.append_nil times
  | some count => exact List.take_append_drop count times

theorem Descending.latest {times : List UInt64} (h : Descending times) (limit : Option Nat) :
    Descending (latest limit times) := by
  rw [← latest_append_beyond limit times] at h
  exact (List.pairwise_append.mp h).1

theorem Descending.mem_latest_iff
    {times : List UInt64} (h : Descending times) (limit : Option Nat) {t : UInt64} :
    t ∈ TensorPipeline.latest limit times <-> t ∈ times ∧ t ∉ beyond limit times := by
  have hnodup := h.nodup
  rw [← latest_append_beyond limit times] at hnodup
  have hdisjoint := (List.nodup_append.mp hnodup).2.2
  constructor
  · intro ht
    constructor
    · rw [← latest_append_beyond limit times]
      exact List.mem_append_left _ ht
    · intro hbeyond
      exact hdisjoint t ht t hbeyond rfl
  · rintro ⟨ht, hbeyond⟩
    rw [← latest_append_beyond limit times] at ht
    exact (List.mem_append.mp ht).resolve_right hbeyond

theorem take_cons_take {α : Type} (a : α) (l : List α) (n : Nat) :
    (a :: l.take n).take n = (a :: l).take n := by
  cases n with
  | zero => rfl
  | succ n =>
      rw [List.take_succ_cons, List.take_succ_cons, List.take_take,
        Nat.min_eq_left (Nat.le_succ n)]

/-- What was beyond the limit before a timestamp came in does not matter
afterwards. -/
theorem latest_insertTime_latest (limit : Option Nat) (t : UInt64) (times : List UInt64) :
    latest limit (insertTime t (latest limit times)) = latest limit (insertTime t times) := by
  cases limit with
  | none => rfl
  | some count =>
      show (insertTime t (times.take count)).take count = (insertTime t times).take count
      induction times generalizing count with
      | nil => rw [List.take_nil]
      | cons u times ih =>
          cases count with
          | zero => rfl
          | succ count =>
              rw [List.take_succ_cons, insertTime, insertTime]
              by_cases hlt : u < t
              · rw [if_pos hlt, if_pos hlt, List.take_succ_cons, List.take_succ_cons,
                  take_cons_take]
              · rw [if_neg hlt, if_neg hlt]
                by_cases heq : t = u
                · rw [if_pos heq, if_pos heq, List.take_succ_cons, List.take_succ_cons,
                    List.take_take, Nat.min_self]
                · rw [if_neg heq, if_neg heq, List.take_succ_cons, List.take_succ_cons, ih]

/-!
## Listing
-/

theorem mem_map_fst_iff_lookup
    {name : String} {files : List (String × List UInt8)} :
    name ∈ files.map Prod.fst <-> files.lookup name ≠ none := by
  rw [ne_eq, List.lookup_eq_none_iff, List.mem_map]
  constructor
  · rintro ⟨file, hfile, rfl⟩ hall
    exact bne_iff_ne.mp (hall file hfile) rfl
  · intro h
    by_contra hnone
    refine h fun file hfile => bne_iff_ne.mpr fun heq => ?_
    exact hnone ⟨file, hfile, heq.symm⟩

namespace CheckpointManager

variable {m : CheckpointManager} {v : Volume} {files : List (String × List UInt8)}

def filesAt (job : String) (times : List UInt64) : List (String × UInt64) :=
  times.map fun t => (checkpointFile job t, t)

theorem mem_map_fst_filesAt {job other : String} {times : List UInt64} {t : UInt64} :
    checkpointFile other t ∈ (filesAt job times).map Prod.fst <-> other = job ∧ t ∈ times := by
  rw [filesAt, List.map_map, List.mem_map]
  constructor
  · rintro ⟨u, hu, heq⟩
    rcases checkpointFile_inj heq with ⟨rfl, rfl⟩
    exact ⟨rfl, hu⟩
  · rintro ⟨rfl, ht⟩
    exact ⟨t, ht, rfl⟩

theorem pairwise_sorted (found : List (String × UInt64)) :
    (found.mergeSort fun a b => a.2 ≤ b.2).Pairwise fun a b => a.2 ≤ b.2 := by
  refine List.Pairwise.imp of_decide_eq_true (List.pairwise_mergeSort ?_ ?_ found)
  · intro a b c hab hbc
    exact decide_eq_true (UInt64.le_trans (of_decide_eq_true hab) (of_decide_eq_true hbc))
  · intro a b
    rw [Bool.or_eq_true, decide_eq_true_eq, decide_eq_true_eq]
    exact UInt64.le_total a.2 b.2

/-- In a directory of checkpoint files those of a job are listed by their
timestamps. -/
theorem list_eq
    (hfiles : v.HoldsFiles m.config.directory files)
    (hnamed : forall name : String, name ∈ files.map Prod.fst ->
      exists (job : String) (t : UInt64), name = checkpointFile job t)
    {job : String} {times : List UInt64} (htimes : Descending times)
    (hmem : forall t : UInt64, t ∈ times <-> checkpointFile job t ∈ files.map Prod.fst) :
    m.list v job = .ok (filesAt job times.reverse) := by
  rw [list, hfiles.children?_eq]
  simp only
  congr 1
  let dated := fun file : String => (timestampOf? job file).map fun t => (file, t)
  let names := (files.map Prod.fst).mergeSort fun a b => !decide (utf8Lt b a)
  have hnames : names.Nodup := (List.mergeSort_perm _ _).nodup_iff.mpr hfiles.nodup
  have hdated (file : String) (found : String × UInt64) (h : dated file = some found) :
      found.1 = file := by
    rcases Option.map_eq_some_iff.mp h with ⟨t, _, rfl⟩
    rfl
  have hnodup : (names.filterMap dated).Nodup := by
    refine hnames.filterMap ?_
    intro file file' found hfound hfound'
    exact (hdated file found hfound).symm.trans (hdated file' found hfound')
  have hlist : (filesAt job times.reverse).Nodup := by
    refine (List.nodup_reverse.mpr htimes.nodup).map ?_
    intro t u heq
    exact congrArg Prod.snd heq
  have hsame (found : String × UInt64) :
      found ∈ names.filterMap dated <-> found ∈ filesAt job times.reverse := by
    rw [List.mem_filterMap, filesAt, List.mem_map]
    constructor
    · rintro ⟨file, hfile, hfound⟩
      rw [(List.mergeSort_perm _ _).mem_iff] at hfile
      rcases hnamed file hfile with ⟨job', t, rfl⟩
      rcases Option.map_eq_some_iff.mp hfound with ⟨u, hu, rfl⟩
      rw [timestampOf?_checkpointFile] at hu
      split at hu
      · next hjob =>
          cases hu
          subst hjob
          exact ⟨t, List.mem_reverse.mpr ((hmem t).mpr hfile), rfl⟩
      · cases hu
    · rintro ⟨t, ht, rfl⟩
      refine ⟨checkpointFile job t, ?_, ?_⟩
      · rw [(List.mergeSort_perm _ _).mem_iff]
        exact (hmem t).mp (List.mem_reverse.mp ht)
      · show (timestampOf? job (checkpointFile job t)).map _ = _
        rw [timestampOf?_checkpointFile, if_pos rfl]
        rfl
  have hperm : ((names.filterMap dated).mergeSort fun a b => a.2 ≤ b.2).Perm
      (filesAt job times.reverse) :=
    (List.mergeSort_perm _ _).trans ((List.perm_ext_iff_of_nodup hnodup hlist).mpr hsame)
  -- sorting leaves no choice, as no two of the files have one timestamp
  refine List.Perm.eq_of_pairwise ?_ (pairwise_sorted _) ?_ hperm
  · intro a b ha hb hab hba
    have heq : a.2 = b.2 := UInt64.le_antisymm hab hba
    have hlisted := hperm.mem_iff.mp ha
    rcases List.mem_map.mp hlisted with ⟨t, _, rfl⟩
    rcases List.mem_map.mp hb with ⟨u, _, rfl⟩
    cases heq
    rfl
  · rw [filesAt, List.pairwise_map, List.pairwise_reverse]
    exact List.Pairwise.imp UInt64.le_of_lt htimes

/-!
## Removing
-/

theorem holdsFiles_removeFiles
    (hfiles : v.HoldsFiles m.config.directory files) {removed : List (String × UInt64)}
    (hremoved : forall name : String, name ∈ removed.map Prod.fst ->
      Path.Plain name ∧ Path.usable (m.pathOf name) = true) :
    (m.removeFiles v removed).HoldsFiles m.config.directory
      (files.filter fun file => file.1 ∉ removed.map Prod.fst) := by
  induction removed generalizing v files with
  | nil =>
      have hall : (files.filter fun file =>
          file.1 ∉ List.map Prod.fst ([] : List (String × UInt64))) = files :=
        List.filter_eq_self.mpr fun file _ => decide_eq_true List.not_mem_nil
      rw [hall]
      exact hfiles
  | cons first removed ih =>
      rcases hremoved first.1 List.mem_cons_self with ⟨hplain, husable⟩
      have hrest := ih (hfiles.removeFile hplain husable) fun name hname =>
        hremoved name (List.mem_cons_of_mem first.1 hname)
      have hfilter : (Volume.withoutFile first.1 files).filter
          (fun file => file.1 ∉ removed.map Prod.fst) =
            files.filter fun file => file.1 ∉ (first :: removed).map Prod.fst := by
        rw [Volume.withoutFile, List.filter_filter]
        refine List.filter_congr fun file _ => ?_
        rw [List.map_cons, ← Bool.decide_and]
        refine decide_eq_decide.mpr ?_
        rw [List.mem_cons, not_or, and_comm]
      rw [← hfilter]
      exact hrest

theorem evict_eq
    (hfiles : v.HoldsFiles m.config.directory files)
    (hnamed : forall name : String, name ∈ files.map Prod.fst ->
      (exists (job : String) (t : UInt64), name = checkpointFile job t) ∧
        Path.Plain name ∧ Path.usable (m.pathOf name) = true)
    {job : String} {times : List UInt64} (htimes : Descending times)
    (hmem : forall t : UInt64, t ∈ times <-> checkpointFile job t ∈ files.map Prod.fst) :
    exists w : Volume,
      m.evict v job = .ok w ∧
        w.HoldsFiles m.config.directory
          (files.filter fun file =>
            file.1 ∉ (filesAt job (beyond m.config.limit times).reverse).map Prod.fst) := by
  cases hlimit : m.config.limit with
  | none =>
      refine ⟨v, by rw [evict, hlimit], ?_⟩
      have hall : (files.filter fun file =>
          file.1 ∉ (filesAt job (beyond none times).reverse).map Prod.fst) = files :=
        List.filter_eq_self.mpr fun file _ => decide_eq_true List.not_mem_nil
      rw [hall]
      exact hfiles
  | some count =>
      have hlist := list_eq hfiles (fun name hname => (hnamed name hname).1) htimes hmem
      have htake : (filesAt job times.reverse).take
          ((filesAt job times.reverse).length - count) =
            filesAt job (times.drop count).reverse := by
        rw [filesAt, filesAt, List.length_map, List.length_reverse, ← List.map_take,
          List.take_reverse]
        congr 2
        by_cases hcount : count ≤ times.length
        · rw [Nat.sub_sub_self hcount]
        · rw [Nat.sub_eq_zero_of_le (Nat.le_of_not_le hcount), Nat.sub_zero, List.drop_length,
            List.drop_eq_nil_of_le (Nat.le_of_not_le hcount)]
      refine ⟨m.removeFiles v (filesAt job (times.drop count).reverse), ?_, ?_⟩
      · rw [evict, hlimit]
        simp only [hlist]
        exact congrArg (fun removed => Except.ok (m.removeFiles v removed)) htake
      · apply holdsFiles_removeFiles hfiles
        intro name hname
        refine (hnamed name ?_).2
        rw [filesAt, List.map_map] at hname
        rcases List.mem_map.mp hname with ⟨t, ht, rfl⟩
        exact (hmem t).mp (List.mem_of_mem_drop (List.mem_reverse.mp ht))

end CheckpointManager

end TensorPipeline
