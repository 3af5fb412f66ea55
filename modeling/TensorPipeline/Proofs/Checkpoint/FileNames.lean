import TensorPipeline.Checkpoint.Manager
import TensorPipeline.Naming
import TensorPipeline.Proofs.Checkpoint.Directory

/-!
# Names of checkpoint files

The name of a file tells its job and its timestamp.  A job may itself hold
underscores and digits, and may be a beginning of another with these; but digits
hold no underscore, so the last underscore of a name is where its job ends.
-/

namespace TensorPipeline

theorem dropStart?_eq_some_iff {start cs rest : List Char} :
    dropStart? start cs = some rest <-> cs = start ++ rest := by
  induction start generalizing cs with
  | nil =>
      rw [dropStart?, Option.some_inj]
      rfl
  | cons p start ih =>
      cases cs with
      | nil =>
          constructor
          · intro h
            cases h
          · intro h
            cases h
      | cons c cs =>
          rw [dropStart?, List.cons_append, List.cons_eq_cons]
          by_cases hc : p = c
          · rw [if_pos (beq_iff_eq.mpr hc), ih]
            exact ⟨fun h => ⟨hc.symm, h⟩, And.right⟩
          · rw [if_neg fun h => hc (beq_iff_eq.mp h)]
            constructor
            · intro h
              cases h
            · intro h
              exact absurd h.1.symm hc

theorem dropEnd?_eq_some_iff {ending cs rest : List Char} :
    dropEnd? ending cs = some rest <-> cs = rest ++ ending := by
  rw [dropEnd?, Option.map_eq_some_iff]
  constructor
  · rintro ⟨front, hfront, rfl⟩
    rw [dropStart?_eq_some_iff] at hfront
    rw [← List.reverse_reverse cs, hfront, List.reverse_append, List.reverse_reverse]
  · rintro rfl
    refine ⟨rest.reverse, ?_, List.reverse_reverse rest⟩
    rw [dropStart?_eq_some_iff, List.reverse_append]

/-!
## Digits
-/

theorem underscore_not_mem_of_readTimestamp?
    {cs : List Char} {t : UInt64} (h : readTimestamp? cs = some t) : '_' ∉ cs := by
  have hdigits : (skipPlus cs).all Char.isDigit = true := by
    simp only [readTimestamp?] at h
    split at h
    · next hread => exact hread.2.1
    · cases h
  intro hmem
  have hrest : '_' ∈ skipPlus cs := by
    unfold skipPlus
    split
    · next rest =>
        cases hmem with
        | tail _ hmem => exact hmem
    · exact hmem
  exact absurd (List.all_eq_true.mp hdigits '_' hrest) (by decide)

theorem readTimestamp?_toDigits (t : UInt64) :
    readTimestamp? (Nat.toDigits 10 t.toNat) = some t := by
  have hdigit (c : Char) (hc : c ∈ Nat.toDigits 10 t.toNat) : c.isDigit = true :=
    Nat.isDigit_of_mem_toDigits (by decide) (by decide) hc
  have hplus : skipPlus (Nat.toDigits 10 t.toNat) = Nat.toDigits 10 t.toNat := by
    unfold skipPlus
    split
    · next hcs => exact absurd (hdigit '+' (hcs ▸ List.mem_cons_self)) (by decide)
    · rfl
  have hread : Nat.ofDigitChars 10 (Nat.toDigits 10 t.toNat) 0 = t.toNat :=
    Nat.ofDigitChars_toDigits (by decide) (by decide)
  unfold readTimestamp?
  simp only [hplus, hread]
  rw [if_pos ⟨Nat.toDigits_ne_nil, List.all_eq_true.mpr hdigit, t.toNat_lt⟩]
  exact congrArg some (UInt64.toNat_inj.mp (UInt64.toNat_ofNat_of_lt' t.toNat_lt))

/-!
## Names
-/

theorem append_cons_inj_of_not_mem
    {c : Char} {front back front' back' : List Char} (h : c ∉ back) (h' : c ∉ back')
    (heq : front ++ c :: back = front' ++ c :: back') : front = front' ∧ back = back' := by
  have hreverse : back.reverse ++ c :: front.reverse = back'.reverse ++ c :: front'.reverse := by
    simpa using congrArg List.reverse heq
  rcases Naming.append_cons_inj (fun hmem => h (List.mem_reverse.mp hmem))
    (fun hmem => h' (List.mem_reverse.mp hmem)) hreverse with ⟨hback, hfront⟩
  exact ⟨List.reverse_inj.mp hfront, List.reverse_inj.mp hback⟩

theorem toList_checkpointStem (job : String) :
    (checkpointStem job).toList = "checkpoint_".toList ++ job.toList ++ ['_'] := by
  rw [checkpointStem, String.toList_append, String.toList_append]
  rfl

theorem toList_checkpointFile (job : String) (t : UInt64) :
    (checkpointFile job t).toList =
      (checkpointStem job).toList ++ (Nat.toDigits 10 t.toNat ++ checkpointSuffix.toList) := by
  rw [checkpointFile, String.toList_append, String.toList_append, List.append_assoc]
  congr 2
  exact Nat.toList_repr

/-- The name of a file is read back as its timestamp by its own job, and by no
other. -/
theorem timestampOf?_checkpointFile (job other : String) (t : UInt64) :
    timestampOf? job (checkpointFile other t) = if job = other then some t else none := by
  by_cases hjob : job = other
  · subst hjob
    rw [if_pos rfl, timestampOf?, dropStart?_eq_some_iff.mpr (toList_checkpointFile job t)]
    show ((dropEnd? checkpointSuffix.toList
      (Nat.toDigits 10 t.toNat ++ checkpointSuffix.toList)).bind readTimestamp?) = some t
    rw [dropEnd?_eq_some_iff.mpr rfl]
    exact readTimestamp?_toDigits t
  · rw [if_neg hjob, Option.eq_none_iff_forall_ne_some]
    intro t' h
    rcases Option.bind_eq_some_iff.mp h with ⟨rest, hrest, h⟩
    rcases Option.bind_eq_some_iff.mp h with ⟨digits, hdigits, hread⟩
    rw [dropStart?_eq_some_iff, toList_checkpointFile, toList_checkpointStem,
      toList_checkpointStem] at hrest
    rw [dropEnd?_eq_some_iff] at hdigits
    rw [hdigits] at hrest
    simp only [List.append_assoc, List.append_cancel_left_eq, List.cons_append,
      List.nil_append] at hrest
    rw [← List.cons_append, ← List.cons_append, ← List.append_assoc, ← List.append_assoc,
      List.append_cancel_right_eq] at hrest
    -- what is left are the jobs, each before its last underscore
    have hends := append_cons_inj_of_not_mem Nat.underscore_not_in_toDigits
      (underscore_not_mem_of_readTimestamp? hread) hrest
    exact hjob (String.toList_inj.mp hends.1.symm)

theorem checkpointFile_inj
    {job other : String} {t u : UInt64} (h : checkpointFile job t = checkpointFile other u) :
    job = other ∧ t = u := by
  have hown := timestampOf?_checkpointFile job job t
  rw [h, timestampOf?_checkpointFile, if_pos rfl] at hown
  by_cases hjob : job = other
  · rw [if_pos hjob] at hown
    exact ⟨hjob, (Option.some.inj hown).symm⟩
  · rw [if_neg hjob] at hown
    cases hown

theorem plain_checkpointFile {job : String} (h : '/' ∉ job.toList) (t : UInt64) :
    Path.Plain (checkpointFile job t) := by
  have hname : (checkpointFile job t).toList = 'c' :: ("heckpoint_".toList ++ job.toList ++
      ['_'] ++ (Nat.toDigits 10 t.toNat ++ checkpointSuffix.toList)) := by
    rw [toList_checkpointFile, toList_checkpointStem]
    rfl
  have hne (other : String) (hother : other.toList.head? ≠ some 'c') :
      checkpointFile job t ≠ other := by
    intro heq
    rw [← heq, hname] at hother
    exact hother rfl
  constructor
  · intro hslash
    rw [toList_checkpointFile, toList_checkpointStem] at hslash
    simp only [List.mem_append, List.mem_singleton] at hslash
    rcases hslash with ((hslash | hslash) | hslash) | hslash | hslash
    · exact absurd hslash (by decide)
    · exact h hslash
    · exact absurd hslash (by decide)
    · exact absurd (Nat.isDigit_of_mem_toDigits (by decide) (by decide) hslash) (by decide)
    · exact absurd hslash (by decide)
  · rw [Path.staysPut, beq_false_of_ne (hne "" (by decide)),
      beq_false_of_ne (hne "." (by decide))]
    rfl
  · exact beq_false_of_ne (hne ".." (by decide))

end TensorPipeline
