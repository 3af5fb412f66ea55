import TensorPipeline.Proofs.Checkpoint.Damage

/-!
# Which checkpoint restoring rests on

Restoring takes the file of the greatest timestamp, whatever it holds, and looks
at no other.  If that file loads, the job goes on from it.  If it does not, the
error of loading it is the answer, and older files that do load are of no use
until it is gone.  A save that is cut short before its last byte leaves such a
file.
-/

namespace TensorPipeline

def DatedFile (job : String) (names : List String) (file : String) (t : UInt64) : Prop :=
  file ∈ names ∧ timestampOf? job file = some t

namespace CheckpointManager

variable {m : CheckpointManager} {v : Volume} {names : List String}

theorem exists_list
    (hnames : v.children? m.config.directory = some names) (job : String) :
    exists files : List (String × UInt64),
      m.list v job = .ok files ∧
        (forall (file : String) (t : UInt64),
          (file, t) ∈ files <-> DatedFile job names file t) ∧
        files.Pairwise fun a b => a.2 ≤ b.2 := by
  refine ⟨_, by rw [list, hnames], ?_, pairwise_sorted _⟩
  intro file t
  rw [(List.mergeSort_perm _ _).mem_iff, List.mem_filterMap]
  constructor
  · rintro ⟨name, hname, hdated⟩
    rcases Option.map_eq_some_iff.mp hdated with ⟨u, hu, heq⟩
    cases heq
    exact ⟨hname, hu⟩
  · rintro ⟨hfile, ht⟩
    refine ⟨file, hfile, ?_⟩
    rw [ht]
    rfl

theorem at?_isSome_of_children?
    (hnames : v.children? m.config.directory = some names) :
    (v.at? m.config.directory).isSome = true := by
  unfold Volume.children? at hnames
  split at hnames
  · next entries hat =>
      rw [hat]
      rfl
  · cases hnames

theorem latest?_of_list
    (henabled : m.config.enabled = true)
    (hnames : v.children? m.config.directory = some names) {job : String}
    {files : List (String × UInt64)} (hlist : m.list v job = .ok files) :
    m.latest? v job = .ok (files.getLast?.map Prod.fst) := by
  rw [latest?, henabled, at?_isSome_of_children? hnames, hlist]
  rfl

theorem latest?_cases
    (henabled : m.config.enabled = true)
    (hnames : v.children? m.config.directory = some names) (job : String) :
    m.latest? v job = .ok none ∧
        (forall (file : String) (t : UInt64), ¬ DatedFile job names file t) ∨
      exists (file : String) (t : UInt64),
        m.latest? v job = .ok (some file) ∧ DatedFile job names file t ∧
          forall (other : String) (u : UInt64), DatedFile job names other u -> u ≤ t := by
  rcases exists_list hnames job with ⟨files, hlist, hmem, hsorted⟩
  have hlatest := latest?_of_list henabled hnames hlist
  rcases List.eq_nil_or_concat files with rfl | ⟨older, ⟨file, t⟩, rfl⟩
  · left
    refine ⟨hlatest, ?_⟩
    intro file t hdated
    exact absurd ((hmem file t).mpr hdated) List.not_mem_nil
  · right
    rw [List.concat_eq_append] at *
    rw [List.getLast?_concat] at hlatest
    refine ⟨file, t, hlatest, (hmem file t).mp List.mem_concat_self, ?_⟩
    intro other u hdated
    rcases List.mem_append.mp ((hmem other u).mpr hdated) with hother | hother
    · exact (List.pairwise_append.mp hsorted).2.2 _ hother _ (List.mem_singleton.mpr rfl)
    · cases List.mem_singleton.mp hother
      exact UInt64.le_refl t

theorem latest?_eq_of_later
    (henabled : m.config.enabled = true)
    (hnames : v.children? m.config.directory = some names) {job file : String} {t : UInt64}
    (hfile : DatedFile job names file t)
    (hlater : forall (other : String) (u : UInt64),
      DatedFile job names other u -> other ≠ file -> u < t) :
    m.latest? v job = .ok (some file) := by
  rcases latest?_cases henabled hnames job with
    ⟨_, hnone⟩ | ⟨found, u, hlatest, hfound, hmax⟩
  · exact absurd hfile (hnone file t)
  · by_cases hsame : found = file
    · rw [hlatest, hsame]
    · exact absurd (hmax file t hfile) (UInt64.not_le.mpr (hlater found u hfound hsame))

theorem restoreLatest_of_none
    {job : String} (hlatest : m.latest? v job = .ok none) (p : Pipeline) (parent : String) :
    m.restoreLatest v job p parent = .ok (Iterator.startUnder p parent) := by
  rw [restoreLatest, hlatest]
  rfl

theorem restoreLatest_of_some
    {job file : String} (hlatest : m.latest? v job = .ok (some file)) (p : Pipeline)
    (parent : String) :
    m.restoreLatest v job p parent =
      (m.load v file).bind fun s => Iterator.restoredUnder p parent s.state := by
  rw [restoreLatest, hlatest]
  rfl

theorem load_error
    {file : String} {e : Error} (h : m.load v file = .error e) :
    exists cause : CheckpointError, e = .checkpoint cause := by
  unfold load at h
  split at h
  · cases h
    exact ⟨_, rfl⟩
  · cases h
    exact ⟨_, rfl⟩
  · split at h
    · cases h
      exact ⟨_, rfl⟩
    · split at h
      · cases h
      · cases h
        exact ⟨_, rfl⟩

end CheckpointManager

/-!
## A save cut short
-/

theorem Volume.HoldsFiles.exists_children?
    {v : Volume} {directory : String} {files : List (String × List UInt8)}
    (h : v.HoldsFiles directory files) :
    exists names : List String,
      v.children? directory = some names ∧
        forall name : String, name ∈ names <-> name ∈ files.map Prod.fst :=
  ⟨_, h.children?_eq, fun _ => (List.mergeSort_perm _ _).mem_iff⟩

namespace CheckpointManager

theorem load_congr
    {m : CheckpointManager} {v w : Volume} {file : String}
    (h : w.at? (m.pathOf file) = v.at? (m.pathOf file)) : m.load w file = m.load v file := by
  rw [load, load, h]

/-- The first bytes of a snapshot later than all others of its job, in the place
where it was to stand, are what restoring meets.  All other files load as they
did. -/
theorem restoreLatest_of_torn
    {m : CheckpointManager} {v : Volume} {files : List (String × List UInt8)}
    (henabled : m.config.enabled = true) (hfiles : v.HoldsFiles m.config.directory files)
    {now : Nat} {s : Snapshot} (hadmitted : (Request.save now s).Admitted m)
    (hlater : forall (file : String) (t : UInt64),
      DatedFile s.job (files.map Prod.fst) file t -> t < s.timestamp)
    (hfits : Wire.FitsSnapshot s) {torn : List UInt8} (htorn : torn <+: Wire.writeSnapshot s)
    (hne : torn ≠ Wire.writeSnapshot s) :
    exists w : Volume,
      v.writeFile (m.pathOf (checkpointFile s.job s.timestamp)) torn = some w ∧
        (forall (p : Pipeline) (parent : String),
          m.restoreLatest w s.job p parent = .error (.checkpoint .decode)) ∧
        forall file : String, file ≠ checkpointFile s.job s.timestamp -> Path.Plain file ->
          Path.usable (m.pathOf file) = true -> m.load w file = m.load v file := by
  rcases hadmitted with ⟨hslash, hshort, husable⟩
  have hplain := plain_checkpointFile hslash s.timestamp
  rcases hfiles.writeFile hplain husable hshort torn with ⟨w, hwrite, hholds⟩
  refine ⟨w, hwrite, ?_, ?_⟩
  · intro p parent
    have hat : w.at? (m.pathOf (checkpointFile s.job s.timestamp)) = some (.file torn) := by
      rw [pathOf, hholds.at?_join hplain husable, Volume.lookup_withFile, if_pos rfl]
      rfl
    have hload := load_of_unreadable hat (Snapshot.ofBytes?_of_torn hfits htorn hne)
    have hnew : timestampOf? s.job (checkpointFile s.job s.timestamp) = some s.timestamp := by
      rw [timestampOf?_checkpointFile, if_pos rfl]
    rcases hholds.exists_children? with ⟨names, hnames, hmem⟩
    have hdated : DatedFile s.job names (checkpointFile s.job s.timestamp) s.timestamp :=
      ⟨(hmem _).mpr (Volume.mem_withFile.mpr (Or.inl rfl)), hnew⟩
    have hlatest := latest?_eq_of_later henabled hnames hdated <| by
      rintro file t ⟨hfile, ht⟩ hother
      have hold := (Volume.mem_withFile.mp ((hmem file).mp hfile)).resolve_left hother
      exact hlater file t ⟨hold, ht⟩
    rw [restoreLatest_of_some hlatest, hload]
    rfl
  · intro file hother hfile husable'
    apply load_congr
    rw [pathOf, hholds.at?_join hfile husable', hfiles.at?_join hfile husable',
      Volume.lookup_withFile, if_neg hother]

end CheckpointManager

/-!
## What the latest file decides
-/

/-- In every directory the job's latest file alone decides what restoring comes
to.  Without a file of the job, or without the directory, the iterator starts at
the first element.  Otherwise some file of the job, none of whose others is later,
either loads and the iterator goes on from it, or keeps from loading, and its
error is the answer whatever the others hold.  So a save of the job's latest
snapshot that is cut short anywhere makes restoring fail, although all files that
loaded before still load. -/
theorem latest_file_decides_restoring
    (m : CheckpointManager) (v : Volume) (henabled : m.config.enabled = true) (job : String)
    (p : Pipeline) (parent : String) :
    (v.at? m.config.directory = none ->
      m.restoreLatest v job p parent = .ok (Iterator.startUnder p parent)) ∧
    (forall names : List String, v.children? m.config.directory = some names ->
      m.restoreLatest v job p parent = .ok (Iterator.startUnder p parent) ∧
          (forall (file : String) (t : UInt64), ¬ DatedFile job names file t) ∨
        exists (file : String) (t : UInt64),
          DatedFile job names file t ∧
          (forall (other : String) (u : UInt64), DatedFile job names other u -> u ≤ t) ∧
          ((exists s : Snapshot, m.load v file = .ok s ∧
              m.restoreLatest v job p parent = Iterator.restoredUnder p parent s.state) ∨
            exists cause : CheckpointError, m.load v file = .error (.checkpoint cause) ∧
              m.restoreLatest v job p parent = .error (.checkpoint cause))) ∧
    (forall (files : List (String × List UInt8)) (now : Nat) (s : Snapshot)
        (torn : List UInt8),
      v.HoldsFiles m.config.directory files -> s.job = job ->
      (Request.save now s).Admitted m ->
      (forall (file : String) (t : UInt64),
        DatedFile job (files.map Prod.fst) file t -> t < s.timestamp) ->
      Wire.FitsSnapshot s -> torn <+: Wire.writeSnapshot s -> torn ≠ Wire.writeSnapshot s ->
      exists w : Volume,
        v.writeFile (m.pathOf (checkpointFile job s.timestamp)) torn = some w ∧
        m.restoreLatest w job p parent = .error (.checkpoint .decode) ∧
        forall file : String, file ≠ checkpointFile job s.timestamp -> Path.Plain file ->
          Path.usable (m.pathOf file) = true -> m.load w file = m.load v file) := by
  refine ⟨?_, ?_, ?_⟩
  · intro hgone
    refine CheckpointManager.restoreLatest_of_none ?_ p parent
    rw [CheckpointManager.latest?, hgone]
    simp
  · intro names hnames
    rcases CheckpointManager.latest?_cases henabled hnames job with
      ⟨hlatest, hnone⟩ | ⟨file, t, hlatest, hdated, hmax⟩
    · left
      exact ⟨CheckpointManager.restoreLatest_of_none hlatest p parent, hnone⟩
    · right
      have hrestore := CheckpointManager.restoreLatest_of_some hlatest p parent
      refine ⟨file, t, hdated, hmax, ?_⟩
      cases hload : m.load v file with
      | ok s =>
          left
          refine ⟨s, rfl, ?_⟩
          rw [hrestore, hload]
          rfl
      | error e =>
          right
          rcases CheckpointManager.load_error hload with ⟨cause, rfl⟩
          refine ⟨cause, rfl, ?_⟩
          rw [hrestore, hload]
          rfl
  · rintro files now s torn hfiles rfl hadmitted hlater hfits htorn hne
    rcases CheckpointManager.restoreLatest_of_torn henabled hfiles hadmitted hlater hfits htorn
      hne with ⟨w, hwrite, hrestore, hothers⟩
    exact ⟨w, hwrite, hrestore p parent, hothers⟩

def savedFive : Snapshot := Snapshot.ofState "a" "Iterator::Range" 1 oneEntry

theorem fits_savedFive : Wire.FitsSnapshot savedFive where
  job := show Wire.Fits "a" by decide
  path := show Wire.Fits "Iterator::Range" by decide
  state := fits_oneEntry
  checksum := Wire.fits_checksum _

def onlyFive : List (String × List UInt8) :=
  [("checkpoint_a_1.bin", Wire.writeSnapshot savedFive)]

def directoryOf (files : List (String × List UInt8)) : Volume :=
  ⟨.directory [("d", .directory (files.map fun file => (file.1, .file file.2)))]⟩

theorem latest_file_decides_restoring_of_empty_file :
    twoAtMost.config.enabled = true ∧
      (directoryOf onlyFive).HoldsFiles twoAtMost.config.directory onlyFive ∧
      (Request.save 0 (blankSnapshot "a" 2)).Admitted twoAtMost ∧
      Wire.FitsSnapshot (blankSnapshot "a" 2) ∧
      exists w : Volume,
        (directoryOf onlyFive).writeFile "d/checkpoint_a_2.bin" [] = some w ∧
        twoAtMost.restoreLatest w "a" (.range 0 none) "Iterator" =
          .error (.checkpoint .decode) ∧
        twoAtMost.load w "checkpoint_a_1.bin" = .ok savedFive := by
  have hholds : (directoryOf onlyFive).HoldsFiles twoAtMost.config.directory onlyFive :=
    ⟨rfl, by decide⟩
  have hadmitted : (Request.save 0 (blankSnapshot "a" 2)).Admitted twoAtMost :=
    ⟨by decide, by decide, by decide⟩
  have hfits : Wire.FitsSnapshot (blankSnapshot "a" 2) := fits_blankSnapshot (by decide) 2
  have hlater (file : String) (t : UInt64)
      (hdated : DatedFile "a" (onlyFive.map Prod.fst) file t) : t < 2 := by
    rcases hdated with ⟨hfile, ht⟩
    cases List.mem_singleton.mp hfile
    cases (timestampOf?_checkpointFile "a" "a" 1).symm.trans ht
    decide
  rcases (latest_file_decides_restoring twoAtMost (directoryOf onlyFive) rfl "a" (.range 0 none)
    "Iterator").2.2 onlyFive 0 (blankSnapshot "a" 2) [] hholds rfl hadmitted hlater hfits
    List.nil_prefix (Wire.writeSnapshot_ne_nil hfits).symm with ⟨w, hwrite, hrestore, hothers⟩
  refine ⟨rfl, hholds, hadmitted, hfits, w, hwrite, hrestore, ?_⟩
  have hplain : Path.Plain (checkpointFile "a" 1) := plain_checkpointFile (by decide) 1
  rw [show "checkpoint_a_1.bin" = checkpointFile "a" 1 by decide,
    hothers (checkpointFile "a" 1) (by decide) hplain (by decide)]
  exact (CheckpointManager.load_of_at? rfl fits_savedFive).trans (if_pos (beq_self_eq_true _))

def tornLatest : List (String × List UInt8) := onlyFive ++ [("checkpoint_a_2.bin", [])]

/-- The older of the job's two files loads and an iterator can be restored from
it, but restoring answers with the error of the later one. -/
theorem torn_latest_hides_older :
    twoAtMost.config.enabled = true ∧
      (directoryOf tornLatest).HoldsFiles twoAtMost.config.directory tornLatest ∧
      (forall (file : String) (t : UInt64),
        DatedFile "a" (tornLatest.map Prod.fst) file t <->
          (file, t) ∈ [("checkpoint_a_1.bin", 1), ("checkpoint_a_2.bin", 2)]) ∧
      twoAtMost.load (directoryOf tornLatest) "checkpoint_a_1.bin" = .ok savedFive ∧
      Iterator.restoredUnder (.range 0 none) "Iterator" savedFive.state =
        .ok ⟨.range 0 none, "Iterator::Range", Guarded.ofContent (5 : Int64)⟩ ∧
      twoAtMost.restoreLatest (directoryOf tornLatest) "a" (.range 0 none) "Iterator" =
        .error (.checkpoint .decode) := by
  have hholds : (directoryOf tornLatest).HoldsFiles twoAtMost.config.directory tornLatest :=
    ⟨rfl, by decide⟩
  have hone : timestampOf? "a" "checkpoint_a_1.bin" = some 1 :=
    timestampOf?_checkpointFile "a" "a" 1
  have htwo : timestampOf? "a" "checkpoint_a_2.bin" = some 2 :=
    timestampOf?_checkpointFile "a" "a" 2
  have hdated (file : String) (t : UInt64) :
      DatedFile "a" (tornLatest.map Prod.fst) file t <->
        (file, t) ∈ [("checkpoint_a_1.bin", (1 : UInt64)), ("checkpoint_a_2.bin", 2)] := by
    rw [DatedFile, show tornLatest.map Prod.fst = ["checkpoint_a_1.bin", "checkpoint_a_2.bin"]
      from rfl, List.mem_pair, List.mem_pair, Prod.mk.injEq, Prod.mk.injEq]
    constructor
    · rintro ⟨rfl | rfl, ht⟩
      · exact Or.inl ⟨rfl, (Option.some.inj (hone.symm.trans ht)).symm⟩
      · exact Or.inr ⟨rfl, (Option.some.inj (htwo.symm.trans ht)).symm⟩
    · rintro (⟨rfl, rfl⟩ | ⟨rfl, rfl⟩)
      · exact ⟨Or.inl rfl, hone⟩
      · exact ⟨Or.inr rfl, htwo⟩
  have hload : twoAtMost.load (directoryOf tornLatest) "checkpoint_a_2.bin" =
      .error (.checkpoint .decode) :=
    CheckpointManager.load_of_unreadable rfl rfl
  refine ⟨rfl, hholds, hdated, ?_, rfl, ?_⟩
  · exact (CheckpointManager.load_of_at? rfl fits_savedFive).trans
      (if_pos (beq_self_eq_true _))
  · rcases hholds.exists_children? with ⟨names, hnames, hmem⟩
    have hdated' (file : String) (t : UInt64) :
        DatedFile "a" names file t <-> DatedFile "a" (tornLatest.map Prod.fst) file t :=
      and_congr_left' (hmem file)
    have hlast : DatedFile "a" names "checkpoint_a_2.bin" 2 :=
      (hdated' _ _).mpr ((hdated _ _).mpr (List.mem_pair.mpr (Or.inr rfl)))
    have hlater (file : String) (t : UInt64) (hfile : DatedFile "a" names file t)
        (hother : file ≠ "checkpoint_a_2.bin") : t < 2 := by
      rcases List.mem_pair.mp ((hdated _ _).mp ((hdated' _ _).mp hfile)) with heq | heq
      · cases heq
        decide
      · cases heq
        exact absurd rfl hother
    have henabled : twoAtMost.config.enabled = true := rfl
    have hlatest := CheckpointManager.latest?_eq_of_later henabled hnames hlast hlater
    rw [CheckpointManager.restoreLatest_of_some hlatest, hload]
    rfl

end TensorPipeline
