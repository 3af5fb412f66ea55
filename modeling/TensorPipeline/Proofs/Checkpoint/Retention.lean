import TensorPipeline.Proofs.Checkpoint.Listing
import TensorPipeline.Proofs.Wire.RoundTrip

/-!
# What a manager keeps over a whole run

A run is a history of requests to save or to clear, for any number of jobs and
with timestamps in any order.  What is left of it can be said without a manager:
of each job, the latest timestamps saved since it was last cleared, and under
each the snapshot saved last.  A manager over a directory that was empty mirrors
its history: the directory holds these files and no others.
-/

namespace TensorPipeline

inductive Request where
  | save (now : Nat) (snapshot : Snapshot)
  | clear (job : String)

namespace Request

def job : Request -> String
  | save _ s => s.job
  | clear job => job

def perform (m : CheckpointManager) (v : Volume) :
    Request -> Except Error (CheckpointManager × Volume)
  | save now s =>
      match m.save v now s with
      | (.ok _, m, v) => .ok (m, v)
      | (.error e, _, _) => .error e
  | clear job => (m.clear v job).map fun v => (m, v)

theorem perform_of_save
    {m m' : CheckpointManager} {v w : Volume} {now : Nat} {s : Snapshot} {path : String}
    (h : m.save v now s = (.ok path, m', w)) : (save now s).perform m v = .ok (m', w) := by
  unfold perform
  simp only [h]

theorem perform_of_clear
    {m : CheckpointManager} {v w : Volume} {job : String} (h : m.clear v job = .ok w) :
    (clear job).perform m v = .ok (m, w) := by
  unfold perform
  simp only [h]
  rfl

def performAll (m : CheckpointManager) (v : Volume) :
    List Request -> Except Error (CheckpointManager × Volume)
  | [] => .ok (m, v)
  | request :: rest =>
      match request.perform m v with
      | .error e => .error e
      | .ok (m, v) => performAll m v rest

/-- The file that a snapshot is to be saved in can be made: the job has no slash,
and neither the file's name nor its path is too long or holds a NUL. -/
def Admitted (m : CheckpointManager) : Request -> Prop
  | save _ s =>
      '/' ∉ s.job.toList ∧
        Path.nameable (checkpointFile s.job s.timestamp) = true ∧
        Path.usable (m.pathOf (checkpointFile s.job s.timestamp)) = true
  | clear _ => True

theorem Admitted.of_config_eq
    {m m' : CheckpointManager} (hconfig : m'.config = m.config) {request : Request}
    (h : request.Admitted m) : request.Admitted m' := by
  cases request with
  | save now s =>
      rcases h with ⟨hslash, hshort, husable⟩
      refine ⟨hslash, hshort, ?_⟩
      rw [CheckpointManager.pathOf, hconfig]
      exact husable
  | clear job => trivial

end Request

/-!
## What is left of a history
-/

namespace History

/-- The snapshots saved for a job since it was last cleared, in the order of
saving. -/
def saved (job : String) (history : List Request) : List Snapshot :=
  history.foldl
    (fun saved request =>
      match request with
      | .save _ s => if s.job = job then saved ++ [s] else saved
      | .clear other => if other = job then [] else saved)
    []

/-- The distinct timestamps of these snapshots, the latest first. -/
def timestamps (job : String) (history : List Request) : List UInt64 :=
  ((saved job history).map Snapshot.timestamp).dedup.mergeSort fun t u => u ≤ t

def kept (limit : Option Nat) (job : String) (history : List Request) : List UInt64 :=
  latest limit (timestamps job history)

def lastAt (job : String) (history : List Request) (t : UInt64) : Option Snapshot :=
  (saved job history).reverse.find? fun s => s.timestamp = t

variable {job : String} {history : List Request} {limit : Option Nat}

theorem saved_concat_of_ne
    {request : Request} (h : request.job ≠ job) :
    saved job (history ++ [request]) = saved job history := by
  rw [saved, List.foldl_concat, ← saved]
  cases request with
  | save now s => exact if_neg h
  | clear other => exact if_neg h

theorem saved_concat_save (now : Nat) (s : Snapshot) :
    saved s.job (history ++ [.save now s]) = saved s.job history ++ [s] := by
  rw [saved, List.foldl_concat, ← saved]
  exact if_pos rfl

theorem saved_concat_clear : saved job (history ++ [.clear job]) = [] := by
  rw [saved, List.foldl_concat, ← saved]
  exact if_pos rfl

theorem mem_timestamps {t : UInt64} :
    t ∈ timestamps job history <->
      exists s : Snapshot, s ∈ saved job history ∧ s.timestamp = t := by
  rw [timestamps, (List.mergeSort_perm _ _).mem_iff, List.mem_dedup, List.mem_map]

theorem descending_timestamps (job : String) (history : List Request) :
    Descending (timestamps job history) := by
  have hnodup : (timestamps job history).Nodup :=
    (List.mergeSort_perm _ _).nodup_iff.mpr (List.nodup_dedup _)
  have hsorted : (timestamps job history).Pairwise fun t u => decide (u ≤ t) = true := by
    apply List.pairwise_mergeSort
    · intro a b c hab hbc
      exact decide_eq_true (UInt64.le_trans (of_decide_eq_true hbc) (of_decide_eq_true hab))
    · intro a b
      rw [Bool.or_eq_true, decide_eq_true_eq, decide_eq_true_eq]
      exact UInt64.le_total b a
  refine List.Pairwise.imp ?_ (hsorted.and hnodup)
  rintro t u ⟨hle, hne⟩
  exact UInt64.lt_of_le_of_ne (of_decide_eq_true hle) (Ne.symm hne)

theorem descending_kept (limit : Option Nat) (job : String) (history : List Request) :
    Descending (kept limit job history) :=
  (descending_timestamps job history).latest limit

theorem timestamps_concat_save (now : Nat) (s : Snapshot) :
    timestamps s.job (history ++ [.save now s]) =
      insertTime s.timestamp (timestamps s.job history) := by
  apply (descending_timestamps _ _).eq_of_mem_iff
    ((descending_timestamps _ _).insertTime s.timestamp)
  intro t
  rw [mem_insertTime, mem_timestamps, mem_timestamps, saved_concat_save]
  constructor
  · rintro ⟨other, hother, rfl⟩
    rcases List.mem_append.mp hother with hother | hother
    · exact Or.inr ⟨other, hother, rfl⟩
    · rw [List.mem_singleton.mp hother]
      exact Or.inl rfl
  · rintro (rfl | ⟨other, hother, rfl⟩)
    · exact ⟨s, List.mem_append_right _ (List.mem_singleton.mpr rfl), rfl⟩
    · exact ⟨other, List.mem_append_left _ hother, rfl⟩

theorem kept_concat_save (now : Nat) (s : Snapshot) :
    kept limit s.job (history ++ [.save now s]) =
      latest limit (insertTime s.timestamp (kept limit s.job history)) := by
  rw [kept, timestamps_concat_save, kept, latest_insertTime_latest]

theorem kept_concat_of_ne {request : Request} (h : request.job ≠ job) :
    kept limit job (history ++ [request]) = kept limit job history := by
  rw [kept, timestamps, saved_concat_of_ne h]
  rfl

theorem exists_of_mem_kept {t : UInt64} (h : t ∈ kept limit job history) :
    exists s : Snapshot, s ∈ saved job history ∧ s.timestamp = t :=
  mem_timestamps.mp (((descending_timestamps job history).mem_latest_iff limit).mp h).1

theorem kept_eq_nil (h : saved job history = []) : kept limit job history = [] := by
  rw [List.eq_nil_iff_forall_not_mem]
  intro t ht
  rcases exists_of_mem_kept ht with ⟨s, hs, _⟩
  rw [h] at hs
  cases hs

theorem lastAt_concat_of_ne {request : Request} (h : request.job ≠ job) (t : UInt64) :
    lastAt job (history ++ [request]) t = lastAt job history t := by
  rw [lastAt, saved_concat_of_ne h]
  rfl

theorem lastAt_concat_save (now : Nat) (s : Snapshot) (t : UInt64) :
    lastAt s.job (history ++ [.save now s]) t =
      if t = s.timestamp then some s else lastAt s.job history t := by
  rw [lastAt, saved_concat_save, List.reverse_append, List.reverse_singleton,
    List.singleton_append, List.find?_cons, lastAt]
  by_cases ht : s.timestamp = t
  · rw [if_pos ht.symm, decide_eq_true ht]
  · rw [if_neg (Ne.symm ht), decide_eq_false ht]

theorem lastAt_of_mem_kept {t : UInt64} (h : t ∈ kept limit job history) :
    exists s : Snapshot, lastAt job history t = some s := by
  rcases exists_of_mem_kept h with ⟨s, hs, ht⟩
  rw [← Option.isSome_iff_exists, lastAt, List.find?_isSome]
  exact ⟨s, List.mem_reverse.mpr hs, decide_eq_true ht⟩

def content (limit : Option Nat) (history : List Request) (job : String) (t : UInt64) :
    Option (List UInt8) :=
  if t ∈ kept limit job history then (lastAt job history t).map Wire.writeSnapshot else none

theorem content_eq_none_iff {t : UInt64} :
    content limit history job t = none <-> t ∉ kept limit job history := by
  unfold content
  split
  · next ht =>
      rcases lastAt_of_mem_kept ht with ⟨s, hs⟩
      rw [hs]
      constructor
      · intro h
        cases h
      · intro h
        exact absurd ht h
  · next ht => exact ⟨fun _ => ht, fun _ => rfl⟩

theorem content_concat_of_ne {request : Request} (h : request.job ≠ job) (t : UInt64) :
    content limit (history ++ [request]) job t = content limit history job t := by
  rw [content, kept_concat_of_ne h, lastAt_concat_of_ne h, content]

theorem content_concat_clear (t : UInt64) :
    content limit (history ++ [.clear job]) job t = none := by
  rw [content_eq_none_iff, kept_eq_nil saved_concat_clear]
  exact List.not_mem_nil

theorem content_concat_save (now : Nat) (s : Snapshot) (t : UInt64) :
    content limit (history ++ [.save now s]) s.job t =
      if t ∈ latest limit (insertTime s.timestamp (kept limit s.job history)) then
        if t = s.timestamp then some (Wire.writeSnapshot s)
        else content limit history s.job t
      else none := by
  rw [content, kept_concat_save, lastAt_concat_save]
  split
  · next ht =>
      split
      · rfl
      · next hne =>
          have htimes := (descending_kept limit s.job history).insertTime s.timestamp
          have hmem := mem_insertTime.mp ((htimes.mem_latest_iff limit).mp ht).1
          rw [content, if_pos (hmem.resolve_left hne)]
  · rfl

end History

/-!
## What every request keeps
-/

/-- The directory holds what is left of the history, under names that can be
followed. -/
structure Mirrors (m : CheckpointManager) (v : Volume) (history : List Request)
    (files : List (String × List UInt8)) : Prop where
  holds : v.HoldsFiles m.config.directory files
  named : forall name : String, name ∈ files.map Prod.fst ->
    (exists (job : String) (t : UInt64), name = checkpointFile job t) ∧
      Path.Plain name ∧ Path.usable (m.pathOf name) = true
  lookup_eq : forall (job : String) (t : UInt64),
    files.lookup (checkpointFile job t) = History.content m.config.limit history job t

namespace Mirrors

variable {m : CheckpointManager} {v : Volume} {history : List Request}
  {files : List (String × List UInt8)}

theorem start (hempty : v.children? m.config.directory = some []) : Mirrors m v [] [] := by
  have hlookup (job : String) (t : UInt64) :
      History.content m.config.limit [] job t = none := by
    rw [History.content_eq_none_iff, History.kept_eq_nil rfl]
    exact List.not_mem_nil
  refine ⟨⟨?_, List.nodup_nil⟩, fun name hname => absurd hname List.not_mem_nil,
    fun job t => (hlookup job t).symm⟩
  unfold Volume.children? at hempty
  split at hempty
  · next entries hat =>
      have hnames := (List.mergeSort_perm (entries.map Prod.fst)
        fun a b => !decide (utf8Lt b a)).length_eq
      rw [Option.some.inj hempty, List.length_map] at hnames
      rw [hat, List.length_eq_zero_iff.mp hnames.symm]
      rfl
  · cases hempty

theorem mem_kept_iff
    (h : Mirrors m v history files) (job : String) (t : UInt64) :
    t ∈ History.kept m.config.limit job history <-> checkpointFile job t ∈ files.map Prod.fst := by
  rw [mem_map_fst_iff_lookup, h.lookup_eq, ne_eq, History.content_eq_none_iff, not_not]

theorem list_eq (h : Mirrors m v history files) (job : String) :
    m.list v job =
      .ok (CheckpointManager.filesAt job (History.kept m.config.limit job history).reverse) :=
  CheckpointManager.list_eq h.holds (fun name hname => (h.named name hname).1)
    (History.descending_kept _ _ _) (h.mem_kept_iff job)

theorem named_of_filter
    (h : Mirrors m v history files) (keep : String × List UInt8 -> Bool) (name : String)
    (hname : name ∈ (files.filter keep).map Prod.fst) :
    (exists (job : String) (t : UInt64), name = checkpointFile job t) ∧
      Path.Plain name ∧ Path.usable (m.pathOf name) = true :=
  h.named name ((List.Sublist.map Prod.fst List.filter_sublist).subset hname)

theorem clear
    (h : Mirrors m v history files) (job : String) :
    exists (w : Volume) (files' : List (String × List UInt8)),
      m.clear v job = .ok w ∧ Mirrors m w (history ++ [.clear job]) files' := by
  let times := (History.kept m.config.limit job history).reverse
  let gone := (CheckpointManager.filesAt job times).map Prod.fst
  have hgone (name : String) (hname : name ∈ gone) :
      Path.Plain name ∧ Path.usable (m.pathOf name) = true := by
    refine (h.named name ?_).2
    rcases List.mem_map.mp hname with ⟨found, hfound, rfl⟩
    rcases List.mem_map.mp hfound with ⟨t, ht, rfl⟩
    exact (h.mem_kept_iff job t).mp (List.mem_reverse.mp ht)
  refine ⟨m.removeFiles v (CheckpointManager.filesAt job times),
    files.filter fun file => file.1 ∉ gone, ?_,
    ⟨CheckpointManager.holdsFiles_removeFiles h.holds hgone, h.named_of_filter _, ?_⟩⟩
  · rw [CheckpointManager.clear, h.list_eq]
    rfl
  · intro other t
    rw [FileNode.lookup_filter (fun name => name ∉ gone), h.lookup_eq]
    by_cases hjob : other = job
    · subst hjob
      rw [History.content_concat_clear]
      split
      · next hkept =>
          rw [History.content_eq_none_iff]
          intro ht
          refine of_decide_eq_true hkept (CheckpointManager.mem_map_fst_filesAt.mpr ⟨rfl, ?_⟩)
          exact List.mem_reverse.mpr ht
      · rfl
    · rw [History.content_concat_of_ne (Ne.symm hjob), if_pos]
      refine decide_eq_true fun hmem => hjob ?_
      exact (CheckpointManager.mem_map_fst_filesAt.mp hmem).1

theorem mem_insertTime_iff
    (h : Mirrors m v history files) (s : Snapshot) (t : UInt64) :
    t ∈ insertTime s.timestamp (History.kept m.config.limit s.job history) <->
      checkpointFile s.job t ∈
        (Volume.withFile (checkpointFile s.job s.timestamp) (Wire.writeSnapshot s) files).map
          Prod.fst := by
  rw [mem_insertTime, Volume.mem_withFile, h.mem_kept_iff]
  constructor
  · rintro (rfl | ht)
    · exact Or.inl rfl
    · exact Or.inr ht
  · rintro (heq | ht)
    · exact Or.inl (checkpointFile_inj heq).2
    · exact Or.inr ht

theorem lookup_saved
    (h : Mirrors m v history files) (now : Nat) (s : Snapshot) (job : String) (t : UInt64) :
    ((Volume.withFile (checkpointFile s.job s.timestamp) (Wire.writeSnapshot s) files).filter
        fun file =>
          file.1 ∉
            (CheckpointManager.filesAt s.job
              (beyond m.config.limit
                (insertTime s.timestamp
                  (History.kept m.config.limit s.job history))).reverse).map Prod.fst).lookup
        (checkpointFile job t) =
      History.content m.config.limit (history ++ [.save now s]) job t := by
  have htimes := (History.descending_kept m.config.limit s.job history).insertTime s.timestamp
  generalize htime : insertTime s.timestamp (History.kept m.config.limit s.job history) = times
    at htimes ⊢
  rw [FileNode.lookup_filter (fun name => name ∉
    (CheckpointManager.filesAt s.job (beyond m.config.limit times).reverse).map Prod.fst),
    Volume.lookup_withFile, h.lookup_eq]
  simp only [decide_eq_true_eq, CheckpointManager.mem_map_fst_filesAt, List.mem_reverse]
  by_cases hjob : job = s.job
  · subst hjob
    have hname : checkpointFile s.job t = checkpointFile s.job s.timestamp <-> t = s.timestamp :=
      ⟨fun heq => (checkpointFile_inj heq).2, congrArg (checkpointFile s.job)⟩
    rw [History.content_concat_save, htime]
    simp only [hname, true_and]
    by_cases hlatest : t ∈ latest m.config.limit times
    · rw [if_pos hlatest, if_pos ((htimes.mem_latest_iff _).mp hlatest).2]
    · rw [if_neg hlatest]
      by_cases hbeyond : t ∈ beyond m.config.limit times
      · rw [if_neg (not_not_intro hbeyond)]
      · -- neither kept nor evicted, the timestamp has not been there at all
        have hnever : t ∉ times := fun ht => hlatest ((htimes.mem_latest_iff _).mpr ⟨ht, hbeyond⟩)
        rw [← htime, mem_insertTime, not_or] at hnever
        rw [if_pos hbeyond, if_neg hnever.1]
        exact History.content_eq_none_iff.mpr hnever.2
  · have hname : checkpointFile job t ≠ checkpointFile s.job s.timestamp := fun heq =>
      hjob (checkpointFile_inj heq).1
    rw [History.content_concat_of_ne (Ne.symm hjob), if_pos fun hgone => hjob hgone.1,
      if_neg hname]

theorem save
    (h : Mirrors m v history files) (now : Nat) {s : Snapshot}
    (hadmitted : (Request.save now s).Admitted m) :
    exists (path : String) (w : Volume) (files' : List (String × List UInt8)),
      m.save v now s = (.ok path, { m with lastSaved := some now }, w) ∧
        Mirrors { m with lastSaved := some now } w (history ++ [.save now s]) files' := by
  rcases hadmitted with ⟨hslash, hshort, husable⟩
  have hplain := plain_checkpointFile hslash s.timestamp
  rcases h.holds.writeFile hplain husable hshort (Wire.writeSnapshot s) with
    ⟨written, hwrite, hholds⟩
  have hnamed (name : String) (hname : name ∈ (Volume.withFile
      (checkpointFile s.job s.timestamp) (Wire.writeSnapshot s) files).map Prod.fst) :
      (exists (job : String) (t : UInt64), name = checkpointFile job t) ∧
        Path.Plain name ∧ Path.usable (m.pathOf name) = true := by
    rcases Volume.mem_withFile.mp hname with rfl | hname
    · exact ⟨⟨_, _, rfl⟩, hplain, husable⟩
    · exact h.named name hname
  let later : CheckpointManager := { m with lastSaved := some now }
  have htimes := (History.descending_kept m.config.limit s.job history).insertTime s.timestamp
  rcases later.evict_eq hholds hnamed htimes (h.mem_insertTime_iff s) with ⟨w, hevict, hw⟩
  refine ⟨m.pathOf (checkpointFile s.job s.timestamp), w, _,
    CheckpointManager.save_of_written hwrite hevict, ⟨hw, ?_, h.lookup_saved now s⟩⟩
  intro name hname
  exact hnamed name ((List.Sublist.map Prod.fst List.filter_sublist).subset hname)

theorem perform
    (h : Mirrors m v history files) {request : Request} (hadmitted : request.Admitted m) :
    exists (m' : CheckpointManager) (w : Volume) (files' : List (String × List UInt8)),
      request.perform m v = .ok (m', w) ∧ m'.config = m.config ∧
        Mirrors m' w (history ++ [request]) files' := by
  cases request with
  | save now s =>
      rcases h.save now hadmitted with ⟨path, w, files', hsave, hmirrors⟩
      exact ⟨_, w, files', Request.perform_of_save hsave, rfl, hmirrors⟩
  | clear job =>
      rcases h.clear job with ⟨w, files', hclear, hmirrors⟩
      exact ⟨m, w, files', Request.perform_of_clear hclear, rfl, hmirrors⟩

theorem performAll
    (h : Mirrors m v history files) {requests : List Request}
    (hadmitted : forall request : Request, request ∈ requests -> request.Admitted m) :
    exists (m' : CheckpointManager) (w : Volume) (files' : List (String × List UInt8)),
      Request.performAll m v requests = .ok (m', w) ∧ m'.config = m.config ∧
        Mirrors m' w (history ++ requests) files' := by
  induction requests generalizing m v history files with
  | nil =>
      refine ⟨m, v, files, rfl, rfl, ?_⟩
      rw [List.append_nil]
      exact h
  | cons request requests ih =>
      rcases h.perform (hadmitted request List.mem_cons_self) with
        ⟨m', w, files', hperform, hconfig, hmirrors⟩
      have hrest (other : Request) (hother : other ∈ requests) : other.Admitted m' :=
        (hadmitted other (List.mem_cons_of_mem request hother)).of_config_eq hconfig
      rcases ih hmirrors hrest with ⟨m'', w', files'', hall, hconfig', hmirrors'⟩
      refine ⟨m'', w', files'', ?_, hconfig'.trans hconfig, ?_⟩
      · rw [Request.performAll, hperform]
        exact hall
      · rw [List.append_cons]
        exact hmirrors'

theorem at?_eq
    (h : Mirrors m v history files) {job : String} (hslash : '/' ∉ job.toList) (t : UInt64) :
    v.at? (m.pathOf (checkpointFile job t)) =
      if Path.usable (m.pathOf (checkpointFile job t)) then
        (History.content m.config.limit history job t).map FileNode.file
      else none := by
  split
  · next husable =>
      rw [← h.lookup_eq]
      exact h.holds.at?_join (plain_checkpointFile hslash t) husable
  · next husable =>
      rw [Volume.at?, Volume.locate, if_neg fun hpath => husable hpath.2]
      rfl

theorem at?_of_mem_kept
    (h : Mirrors m v history files) {job : String} {t : UInt64}
    (ht : t ∈ History.kept m.config.limit job history) :
    exists s : Snapshot,
      History.lastAt job history t = some s ∧
        v.at? (m.pathOf (checkpointFile job t)) = some (.file (Wire.writeSnapshot s)) := by
  rcases History.lastAt_of_mem_kept ht with ⟨s, hs⟩
  rcases h.named _ ((h.mem_kept_iff job t).mp ht) with ⟨_, hplain, husable⟩
  refine ⟨s, hs, (h.holds.at?_join hplain husable).trans ?_⟩
  rw [h.lookup_eq, History.content, if_pos ht, hs]
  rfl

theorem latest?_eq
    (h : Mirrors m v history files) (henabled : m.config.enabled = true) (job : String) :
    m.latest? v job =
      .ok ((History.kept m.config.limit job history).head?.map (checkpointFile job)) := by
  rw [CheckpointManager.latest?, henabled, h.holds.at?_eq, h.list_eq]
  show Except.ok ((CheckpointManager.filesAt job _).getLast?.map Prod.fst) = _
  rw [CheckpointManager.filesAt, List.getLast?_map, List.getLast?_reverse, Option.map_map]
  rfl

end Mirrors

theorem CheckpointManager.load_of_at?
    {m : CheckpointManager} {v : Volume} {file : String} {s : Snapshot}
    (hat : v.at? (m.pathOf file) = some (.file (Wire.writeSnapshot s)))
    (hfits : Wire.FitsSnapshot s) :
    m.load v file =
      if s.intact then .ok s else .error (.checkpoint (.checksum (m.pathOf file))) :=
  load_of_readable hat (Snapshot.ofBytes?_writeSnapshot hfits)

/-!
## Whole runs
-/

/-- Over a directory that was empty, every history of admitted requests is
performed without an error.  The files listed for a job are then those of its
latest timestamps since it was last cleared, oldest first, each with the snapshot
saved last under it, which loading gives back if its checksum fits its state.  A
further request changes nothing about the files of the jobs it is not about. -/
theorem manager_keeps_latest
    {m : CheckpointManager} {v : Volume} (henabled : m.config.enabled = true)
    (hempty : v.children? m.config.directory = some [])
    (history : List Request)
    (hadmitted : forall request : Request, request ∈ history -> request.Admitted m) :
    exists (m' : CheckpointManager) (w : Volume),
      Request.performAll m v history = .ok (m', w) ∧ m'.config = m.config ∧
      (forall job : String,
        let kept := History.kept m.config.limit job history
        m'.list w job = .ok (kept.reverse.map fun t => (checkpointFile job t, t)) ∧
        m'.latest? w job = .ok (kept.head?.map (checkpointFile job)) ∧
        forall t : UInt64, t ∈ kept ->
          exists s : Snapshot,
            History.lastAt job history t = some s ∧
            w.at? (m.pathOf (checkpointFile job t)) = some (.file (Wire.writeSnapshot s)) ∧
            (Wire.FitsSnapshot s ->
              m'.load w (checkpointFile job t) =
                if s.intact then .ok s
                else .error (.checkpoint (.checksum (m.pathOf (checkpointFile job t)))))) ∧
      (forall request : Request, request.Admitted m ->
        exists (m'' : CheckpointManager) (w' : Volume),
          request.perform m' w = .ok (m'', w') ∧
          forall job : String, job ≠ request.job ->
            m''.list w' job = m'.list w job ∧
            ('/' ∉ job.toList -> forall t : UInt64,
              w'.at? (m.pathOf (checkpointFile job t)) =
                w.at? (m.pathOf (checkpointFile job t)))) := by
  rcases (Mirrors.start hempty).performAll hadmitted with
    ⟨m', w, files, hperformed, hconfig, hmirrors⟩
  have hpath (file : String) : m'.pathOf file = m.pathOf file := by
    rw [CheckpointManager.pathOf, hconfig]
    rfl
  rw [List.nil_append] at hmirrors
  refine ⟨m', w, hperformed, hconfig, ?_, ?_⟩
  · intro job kept
    have hlist := hmirrors.list_eq job
    have hlatest := hmirrors.latest?_eq (hconfig ▸ henabled) job
    rw [hconfig] at hlist hlatest
    refine ⟨hlist, hlatest, ?_⟩
    intro t ht
    have ht' : t ∈ History.kept m'.config.limit job history := by
      rw [hconfig]
      exact ht
    rcases hmirrors.at?_of_mem_kept ht' with ⟨s, hs, hat⟩
    refine ⟨s, hs, ?_, ?_⟩
    · rw [← hpath]
      exact hat
    · intro hfits
      rw [← hpath]
      exact CheckpointManager.load_of_at? hat hfits
  · intro request hrequest
    rcases hmirrors.perform (hrequest.of_config_eq hconfig) with
      ⟨m'', w', files', hperform, hconfig', hmirrors'⟩
    refine ⟨m'', w', hperform, ?_⟩
    intro job hjob
    constructor
    · rw [hmirrors'.list_eq, hmirrors.list_eq, hconfig',
        History.kept_concat_of_ne (Ne.symm hjob)]
    · intro hslash t
      have hat := hmirrors.at?_eq hslash t
      have hat' := hmirrors'.at?_eq hslash t
      rw [History.content_concat_of_ne (Ne.symm hjob), CheckpointManager.pathOf, hconfig'] at hat'
      rw [← hpath, hat]
      exact hat'

def blankSnapshot (job : String) (t : UInt64) : Snapshot :=
  Snapshot.ofState job "Iterator::Range" t Table.empty

theorem fits_blankSnapshot
    {job : String} (hjob : Wire.Fits job) (t : UInt64) :
    Wire.FitsSnapshot (blankSnapshot job t) where
  job := hjob
  path := show Wire.Fits "Iterator::Range" by decide
  state := ⟨show 0 < 2 ^ 64 by decide, fun _ he => absurd he List.not_mem_nil⟩
  checksum := Wire.fits_checksum _

def entangledJobs : List Request :=
  [.save 0 (blankSnapshot "a" 7), .save 1 (blankSnapshot "a_5" 3),
    .save 2 (blankSnapshot "a" 9), .clear "b", .save 3 (blankSnapshot "a" 8)]

def twoAtMost : CheckpointManager where
  config := { enabled := true, directory := "d", policy := .manual, limit := some 2 }
  lastSaved := none

def emptyDirectory : Volume := ⟨.directory [("d", .directory [])]⟩

theorem manager_keeps_latest_of_entangled_jobs :
    twoAtMost.config.enabled = true ∧
      emptyDirectory.children? twoAtMost.config.directory = some [] ∧
      (forall request : Request, request ∈ entangledJobs -> request.Admitted twoAtMost) ∧
      exists (m : CheckpointManager) (w : Volume),
        Request.performAll twoAtMost emptyDirectory entangledJobs = .ok (m, w) ∧
        m.list w "a" = .ok [("checkpoint_a_8.bin", 8), ("checkpoint_a_9.bin", 9)] ∧
        m.latest? w "a" = .ok (some "checkpoint_a_9.bin") ∧
        m.list w "a_5" = .ok [("checkpoint_a_5_3.bin", 3)] ∧
        m.load w "checkpoint_a_8.bin" = .ok (blankSnapshot "a" 8) := by
  have hempty : emptyDirectory.children? twoAtMost.config.directory = some [] := by
    with_unfolding_all rfl
  have hadmitted : forall request : Request, request ∈ entangledJobs ->
      request.Admitted twoAtMost := by
    intro request hrequest
    simp only [entangledJobs, List.mem_cons, List.not_mem_nil, or_false] at hrequest
    rcases hrequest with rfl | rfl | rfl | rfl | rfl
    · exact ⟨by decide, by decide, by decide⟩
    · exact ⟨by decide, by decide, by decide⟩
    · exact ⟨by decide, by decide, by decide⟩
    · trivial
    · exact ⟨by decide, by decide, by decide⟩
  have htimes : History.timestamps "a" entangledJobs = [9, 8, 7] := by
    refine (History.descending_timestamps _ _).eq_of_mem_iff (by unfold Descending; decide) ?_
    intro t
    have hsaved : History.saved "a" entangledJobs =
        [blankSnapshot "a" 7, blankSnapshot "a" 9, blankSnapshot "a" 8] :=
      rfl
    rw [History.mem_timestamps, hsaved]
    simp only [List.mem_cons, List.not_mem_nil, or_false]
    constructor
    · rintro ⟨s, rfl | rfl | rfl, rfl⟩
      · exact Or.inr (Or.inr rfl)
      · exact Or.inl rfl
      · exact Or.inr (Or.inl rfl)
    · rintro (rfl | rfl | rfl)
      · exact ⟨_, Or.inr (Or.inl rfl), rfl⟩
      · exact ⟨_, Or.inr (Or.inr rfl), rfl⟩
      · exact ⟨_, Or.inl rfl, rfl⟩
  have hothers : History.timestamps "a_5" entangledJobs = [3] := by
    with_unfolding_all rfl
  have hlast : History.lastAt "a" entangledJobs 8 = some (blankSnapshot "a" 8) := rfl
  rcases manager_keeps_latest rfl hempty entangledJobs hadmitted with
    ⟨m, w, hperformed, _, hjobs, _⟩
  rcases hjobs "a" with ⟨hlist, hlatest, hfiles⟩
  have hkept : History.kept twoAtMost.config.limit "a" entangledJobs = [9, 8] := by
    rw [History.kept, htimes]
    rfl
  have hkept' : History.kept twoAtMost.config.limit "a_5" entangledJobs = [3] := by
    rw [History.kept, hothers]
    rfl
  have hlist' := (hjobs "a_5").1
  rw [hkept] at hlist hlatest hfiles
  rw [hkept'] at hlist'
  rcases hfiles 8 (by decide) with ⟨s, hs, _, hload⟩
  rw [hlast] at hs
  cases hs
  refine ⟨rfl, hempty, hadmitted, m, w, hperformed, hlist, hlatest, hlist', ?_⟩
  exact (hload (fits_blankSnapshot (by decide) 8)).trans (if_pos (beq_self_eq_true _))

end TensorPipeline
