import Mathlib.Data.List.Sort
import TensorPipeline.Proofs.Wire.Prefixes

/-!
# One written form for every state

A store remembers of its writes what was written last under each key and nothing
else.  Its bytes tell just as much: written values are told apart by the bytes that
they begin with, so different stores never have the same bytes, whatever the order
of the writes was.

Bytes of another origin need not be the written form of anything.  Numbers may be
longer than necessary there, and keys may be out of order or repeated.  What is read
from such bytes is still a store that fits, and its own bytes lead back to it.
-/

namespace TensorPipeline

/-!
## The last write under a key
-/

def lastValue {α : Type} (writes : List (String × α)) (key : String) : Option α :=
  writes.reverse.lookup key

namespace Table

variable {α : Type}

theorem get?_writeAll (t : Table α) (writes : List (String × α)) (key : String) :
    (t.writeAll writes).get? key = (lastValue writes key).or (t.get? key) := by
  induction writes generalizing t with
  | nil => rfl
  | cons write rest ih =>
      have hone : [write].lookup key = if key = write.1 then some write.2 else none :=
        lookup_cons_eq key write.1 write.2 []
      rw [writeAll, List.foldl_cons, ← writeAll, ih, get?_write, lastValue, lastValue,
        List.reverse_cons, List.lookup_append, hone, Option.or_assoc]
      congr 1
      split
      · rfl
      · rfl

theorem get?_ofPairs (writes : List (String × α)) (key : String) :
    (ofPairs writes).get? key = lastValue writes key := by
  rw [ofPairs, get?_writeAll]
  exact Option.or_none

theorem mem_entries_iff {t : Table α} {key : String} {value : α} :
    (key, value) ∈ t.entries <-> t.get? key = some value := by
  rcases t with ⟨entries, hincreasing⟩
  show _ <-> entries.lookup key = some value
  induction entries with
  | nil => exact ⟨fun h => absurd h List.not_mem_nil, fun h => by cases h⟩
  | cons head rest ih =>
      rcases List.pairwise_cons.mp hincreasing with ⟨hhead, hrest⟩
      rw [lookup_cons_eq, List.mem_cons]
      by_cases hkey : key = head.1
      · have hnew : (key, value) ∉ rest := by
          intro hmem
          have hlt := hhead _ hmem
          rw [← hkey] at hlt
          exact utf8Lt.irrefl key hlt
        rw [if_pos hkey, Option.some.injEq]
        constructor
        · rintro (rfl | hmem)
          · rfl
          · exact absurd hmem hnew
        · rintro rfl
          exact Or.inl (by rw [hkey])
      · rw [if_neg hkey, ← ih hrest]
        constructor
        · rintro (rfl | hmem)
          · exact absurd rfl hkey
          · exact hmem
        · exact Or.inr

theorem ext_get? {s t : Table α} (h : forall key : String, s.get? key = t.get? key) : s = t := by
  have hnodup (t : Table α) : t.entries.Nodup := by
    apply t.increasing.imp
    rintro a b hlt rfl
    exact utf8Lt.irrefl _ hlt
  have hperm : s.entries.Perm t.entries := by
    apply (List.perm_ext_iff_of_nodup (hnodup s) (hnodup t)).mpr
    intro e
    rw [mem_entries_iff, mem_entries_iff, h]
  have hentries : s.entries = t.entries := by
    refine List.Perm.eq_of_pairwise ?_ s.increasing t.increasing hperm
    intro a b _ _ hab hba
    exact absurd hab hba.asymm
  cases s
  cases t
  cases hentries
  rfl

theorem ofPairs_eq_iff {writes writes' : List (String × α)} :
    ofPairs writes = ofPairs writes' <->
      forall key : String, lastValue writes key = lastValue writes' key := by
  constructor
  · intro h key
    rw [← get?_ofPairs, h, get?_ofPairs]
  · intro h
    apply ext_get?
    intro key
    rw [get?_ofPairs, get?_ofPairs, h]

end Table

namespace Wire

/-!
## Values told apart by their bytes
-/

/-- Whatever stands behind them, equal bytes begin with the same value. -/
def ToldApart {α : Type} (write : α -> List UInt8) : Prop :=
  forall (a b : α) (rest rest' : List UInt8),
    write a ++ rest = write b ++ rest' -> a = b ∧ rest = rest'

theorem ToldApart.flatMap
    {α : Type} {write : α -> List UInt8} (h : ToldApart write) {as bs : List α}
    (hlength : as.length = bs.length) {rest rest' : List UInt8}
    (heq : as.flatMap write ++ rest = bs.flatMap write ++ rest') : as = bs ∧ rest = rest' := by
  induction as generalizing bs with
  | nil =>
      cases bs with
      | nil => exact ⟨rfl, heq⟩
      | cons b bs => cases hlength
  | cons a as ih =>
      cases bs with
      | nil => cases hlength
      | cons b bs =>
          rw [List.flatMap_cons, List.flatMap_cons, List.append_assoc, List.append_assoc] at heq
          rcases h _ _ _ _ heq with ⟨rfl, hbehind⟩
          rcases ih (Nat.succ.inj hlength) hbehind with ⟨rfl, hrest⟩
          exact ⟨rfl, hrest⟩

/-- A reader with room enough for two numbers finds either of them, so they cannot
begin the same bytes unless they are equal. -/
theorem toldApart_nat : ToldApart writeNat := by
  intro m n rest rest' heq
  have hfits (k : Nat) (hk : k ≤ max m n) : k < 128 ^ max m n * (127 + 1) :=
    calc
      k < 128 ^ k := Nat.lt_pow_self (by omega)
      _ ≤ 128 ^ max m n := Nat.pow_le_pow_right (by omega) hk
      _ ≤ 128 ^ max m n * (127 + 1) := Nat.le_mul_of_pos_right _ (by omega)
  have hm := readNat_writeNat (by omega) _ m (hfits m (Nat.le_max_left m n)) rest
  have hn := readNat_writeNat (by omega) _ n (hfits n (Nat.le_max_right m n)) rest'
  rw [heq, hn] at hm
  cases hm
  exact ⟨rfl, rfl⟩

theorem toldApart_text : ToldApart writeText := by
  intro s t rest rest' heq
  rw [writeText, writeText, List.append_assoc, List.append_assoc] at heq
  rcases toldApart_nat _ _ _ _ heq with ⟨hlength, heq⟩
  rcases List.append_inj heq hlength with ⟨hbytes, hrest⟩
  exact ⟨utf8_injective hbytes, hrest⟩

theorem zigzag_injective {i j : Int} (h : zigzag i = zigzag j) : i = j := by
  rw [← unzigzag_zigzag i, h, unzigzag_zigzag]

def tag : StateValue -> Nat
  | .int _ => 0
  | .text _ => 1

def writeContent : StateValue -> List UInt8
  | .int n => writeNat (zigzag n.toInt)
  | .text s => writeText s

theorem writeValue_eq (value : StateValue) :
    writeValue value = writeNat (tag value) ++ writeContent value := by
  cases value with
  | int n => rfl
  | text s => rfl

theorem toldApart_value : ToldApart writeValue := by
  intro a b rest rest' heq
  rw [writeValue_eq, writeValue_eq, List.append_assoc, List.append_assoc] at heq
  rcases toldApart_nat _ _ _ _ heq with ⟨htag, heq⟩
  cases a with
  | int m =>
      cases b with
      | int n =>
          rcases toldApart_nat _ _ _ _ heq with ⟨hvalue, hrest⟩
          rw [Int64.toInt_inj.mp (zigzag_injective hvalue)]
          exact ⟨rfl, hrest⟩
      | text t => cases htag
  | text s =>
      cases b with
      | int n => cases htag
      | text t =>
          rcases toldApart_text _ _ _ _ heq with ⟨rfl, hrest⟩
          exact ⟨rfl, hrest⟩

theorem toldApart_entry : ToldApart writeEntry := by
  intro a b rest rest' heq
  rw [writeEntry, writeEntry, List.append_assoc, List.append_assoc] at heq
  rcases toldApart_text _ _ _ _ heq with ⟨hkey, heq⟩
  rcases toldApart_value _ _ _ _ heq with ⟨hvalue, hrest⟩
  exact ⟨Prod.ext hkey hvalue, hrest⟩

theorem toldApart_store : ToldApart writeStore := by
  intro s t rest rest' heq
  rw [writeStore, writeStore, List.append_assoc, List.append_assoc] at heq
  rcases toldApart_nat _ _ _ _ heq with ⟨hsize, heq⟩
  rcases toldApart_entry.flatMap hsize heq with ⟨hentries, hrest⟩
  cases s
  cases t
  cases hentries
  exact ⟨rfl, hrest⟩

theorem writeStore_eq_iff {s t : Store} : writeStore s = writeStore t <-> s = t := by
  constructor
  · intro h
    exact (toldApart_store s t [] [] (by rw [h])).1
  · rintro rfl
    rfl

/-!
## What readers find fits
-/

/-- Whatever bytes it is given, the reader finds only values with the property. -/
def Finds {α : Type} (read : Reader α) (property : α -> Prop) : Prop :=
  forall (bytes : List UInt8) (value : α) (rest : List UInt8),
    read bytes = some (value, rest) -> property value

section

variable {α β : Type} {read : Reader α} {property : α -> Prop} {property' : β -> Prop}

theorem Finds.bind
    (h : Finds read property) {next : α -> Reader β}
    (hnext : forall value : α, property value -> Finds (next value) property') :
    Finds (fun bytes => (read bytes).bind fun found => next found.1 found.2) property' := by
  intro bytes value rest hread
  rcases Option.bind_eq_some_iff.mp hread with ⟨⟨first, behind⟩, hfirst, hvalue⟩
  exact hnext first (h _ _ _ hfirst) _ _ _ hvalue

theorem finds_value {value : α} (h : property value) :
    Finds (fun bytes => some (value, bytes)) property := by
  intro bytes value' rest hread
  cases hread
  exact h

end

theorem finds_nat (lastMax room : Nat) :
    Finds (readNat lastMax (room + 1)) fun n => n < 128 ^ room * (lastMax + 1) := by
  induction room with
  | zero =>
      intro bytes n rest hread
      cases bytes with
      | nil => cases hread
      | cons b bytes =>
          unfold readNat at hread
          split at hread
          · split at hread
            · cases hread
            · next hfits =>
                cases hread
                simp only [decide_true, Bool.true_and, decide_eq_true_eq] at hfits
                omega
          · cases hread
  | succ room ih =>
      intro bytes n rest hread
      have hroom : 0 < 128 ^ room * (lastMax + 1) :=
        Nat.mul_pos (Nat.pow_pos (by omega)) (Nat.succ_pos lastMax)
      have hmore : 128 ^ (room + 1) * (lastMax + 1) = 128 * (128 ^ room * (lastMax + 1)) := by
        rw [Nat.pow_succ, Nat.mul_right_comm, Nat.mul_comm]
      rw [hmore]
      cases bytes with
      | nil => cases hread
      | cons b bytes =>
          have hb := b.toNat_lt
          unfold readNat at hread
          split at hread
          · next hlow =>
              rw [if_neg (by simp)] at hread
              cases hread
              omega
          · rcases Option.map_eq_some_iff.mp hread with ⟨⟨m, behind⟩, hdigits, hvalue⟩
            cases hvalue
            have hm := ih _ _ _ hdigits
            omega

theorem finds_nat64 : Finds readNat64 fun n => n < 2 ^ 64 := by
  intro bytes n rest hread
  have hlt := finds_nat 1 9 _ _ _ hread
  omega

theorem utf8_of_fromUTF8? {bytes : List UInt8} {s : String}
    (h : String.fromUTF8? ⟨bytes.toArray⟩ = some s) : utf8 s = bytes := by
  unfold String.fromUTF8? at h
  split at h
  · cases h
    rfl
  · cases h

theorem finds_utf8 {length : Nat} (hlength : length < 2 ^ 64) :
    Finds (readUtf8 length) Fits := by
  intro bytes s rest hread
  unfold readUtf8 at hread
  split at hread
  · cases hread
  · rcases Option.bind_eq_some_iff.mp hread with ⟨s', hs, hvalue⟩
    cases hvalue
    rw [Fits, utf8_of_fromUTF8? hs, List.length_take]
    omega

theorem finds_text : Finds readText Fits :=
  finds_nat64.bind fun _ hlength => finds_utf8 hlength

theorem finds_stateValue : Finds readValue FitsValue := by
  intro bytes value rest hread
  rcases Option.bind_eq_some_iff.mp hread with ⟨⟨tag, behind⟩, _, hvalue⟩
  cases value with
  | int n => trivial
  | text s =>
      cases tag with
      | zero =>
          rcases Option.bind_eq_some_iff.mp hvalue with ⟨found, _, hfound⟩
          cases hfound
      | succ tag =>
          cases tag with
          | zero =>
              rcases Option.bind_eq_some_iff.mp hvalue with ⟨⟨s', rest'⟩, htext, hfound⟩
              cases hfound
              exact finds_text _ _ _ htext
          | succ tag => cases hvalue

theorem finds_entry : Finds readEntry FitsEntry :=
  finds_text.bind fun _ hkey =>
    finds_stateValue.bind fun _ hvalue => finds_value ⟨hkey, hvalue⟩

structure FitsRow (count : Nat) (entries : List (String × StateValue)) : Prop where
  length : entries.length = count
  entries : forall e : String × StateValue, e ∈ entries -> FitsEntry e

theorem FitsRow.cons
    {count : Nat} {e : String × StateValue} {entries : List (String × StateValue)}
    (h : FitsRow count entries) (he : FitsEntry e) : FitsRow (count + 1) (e :: entries) where
  length := congrArg Nat.succ h.length
  entries e' hmem := by
    rcases List.mem_cons.mp hmem with rfl | hmem
    · exact he
    · exact h.entries e' hmem

theorem finds_entries (count : Nat) : Finds (readEntries count) (FitsRow count) := by
  induction count with
  | zero => exact finds_value ⟨rfl, fun _ hmem => absurd hmem List.not_mem_nil⟩
  | succ count ih =>
      exact finds_entry.bind fun _ he => ih.bind fun _ hrow => finds_value (hrow.cons he)

end Wire

/-!
## Stores made of entries that fit
-/

namespace Table

variable {α : Type}

theorem length_writeEntry_le (key : String) (value : α) (entries : List (String × α)) :
    (writeEntry key value entries).length ≤ entries.length + 1 := by
  induction entries with
  | nil => exact Nat.le_refl 1
  | cons head rest ih =>
      unfold writeEntry
      split
      · exact Nat.le_refl _
      · split
        · exact Nat.le_succ _
        · exact Nat.succ_le_succ ih

theorem size_writeAll_le (t : Table α) (writes : List (String × α)) :
    (t.writeAll writes).size ≤ t.size + writes.length := by
  induction writes generalizing t with
  | nil => exact Nat.le_refl _
  | cons write rest ih =>
      have hrest := ih (t.write write.1 write.2)
      have hfirst := length_writeEntry_le write.1 write.2 t.entries
      have hsize : (t.write write.1 write.2).size ≤ t.size + 1 := hfirst
      rw [List.length_cons]
      exact Nat.le_trans hrest (by omega)

theorem mem_of_mem_writeAll {t : Table α} {writes : List (String × α)} {e : String × α}
    (h : e ∈ (t.writeAll writes).entries) : e ∈ t.entries ∨ e ∈ writes := by
  induction writes generalizing t with
  | nil => exact Or.inl h
  | cons write rest ih =>
      rcases ih h with hmem | hmem
      · rcases mem_writeEntry hmem with rfl | hmem
        · exact Or.inr List.mem_cons_self
        · exact Or.inl hmem
      · exact Or.inr (List.mem_cons_of_mem write hmem)

end Table

namespace Wire

theorem FitsRow.store
    {count : Nat} (hcount : count < 2 ^ 64) {entries : List (String × StateValue)}
    (h : FitsRow count entries) : FitsStore (Table.ofPairs entries) where
  size := by
    have hsize : (Table.ofPairs entries).size ≤ 0 + entries.length :=
      Table.size_writeAll_le Table.empty entries
    rw [Nat.zero_add, h.length] at hsize
    exact Nat.lt_of_le_of_lt hsize hcount
  entries e hmem := by
    rcases Table.mem_of_mem_writeAll hmem with hmem | hmem
    · exact absurd hmem List.not_mem_nil
    · exact h.entries e hmem

theorem finds_store : Finds readStore FitsStore :=
  finds_nat64.bind fun count hcount =>
    (finds_entries count).bind fun _ hrow => finds_value (hrow.store hcount)

theorem reads_row {entries : List (String × StateValue)} (hcount : entries.length < 2 ^ 64)
    (h : forall e : String × StateValue, e ∈ entries -> FitsEntry e) :
    Reads readStore (writeNat entries.length ++ entries.flatMap writeEntry)
      (Table.ofPairs entries) := by
  intro rest
  rw [readStore, List.append_assoc, reads_nat64 hcount]
  simp only [Option.bind_eq_bind, Option.bind_some]
  rw [reads_entries h]
  rfl

end Wire

namespace Store

theorem ofBytes?_of_reads {s : Store} {bytes : List UInt8} (h : Wire.Reads Wire.readStore bytes s)
    (behind : List UInt8) : ofBytes? (bytes ++ behind) = some s := by
  rw [ofBytes?, h behind]
  rfl

theorem fits_of_ofBytes? {s : Store} {bytes : List UInt8} (h : ofBytes? bytes = some s) :
    Wire.FitsStore s := by
  rcases Option.map_eq_some_iff.mp h with ⟨⟨s', rest⟩, hread, rfl⟩
  exact Wire.finds_store _ _ _ hread

end Store

/-- Two rows of writes on empty stores come to the same bytes, which are also what the
checksum is taken of, if and only if they leave the same under every key.  The
entries stand in the order of their keys and are what was written last.

Reading gives a written store back, whatever stands behind it.  Of any other bytes
it makes nothing or a store that is read back from its own bytes; in particular,
entries in any order and with repeated keys are read as what they leave when they
are written in turn. -/
theorem stored_bytes_are_canonical :
    (forall writes writes' : List (String × StateValue),
      Wire.writeStore (Table.ofPairs writes) = Wire.writeStore (Table.ofPairs writes') <->
        forall key : String, lastValue writes key = lastValue writes' key) ∧
    (forall writes : List (String × StateValue),
      let s : Store := Table.ofPairs writes
      s.checksum = Digest.checksum (Wire.writeStore s) ∧
        s.entries.Pairwise (fun a b => utf8 a.1 < utf8 b.1) ∧
        forall (key : String) (value : StateValue),
          (key, value) ∈ s.entries <-> lastValue writes key = some value) ∧
    (forall (s : Store) (behind : List UInt8), Wire.FitsStore s ->
      Store.ofBytes? (Wire.writeStore s ++ behind) = some s) ∧
    (forall bytes : List UInt8,
      Store.ofBytes? bytes = none ∨
        exists s : Store,
          Store.ofBytes? bytes = some s ∧ Store.ofBytes? (Wire.writeStore s) = some s) ∧
    (forall (pairs : List (String × StateValue)) (behind : List UInt8),
      pairs.length < 2 ^ 64 ->
      (forall e : String × StateValue, e ∈ pairs -> Wire.FitsEntry e) ->
      Store.ofBytes?
          (Wire.writeNat pairs.length ++ pairs.flatMap Wire.writeEntry ++ behind) =
        some (Table.ofPairs pairs)) := by
  refine ⟨?_, ?_, ?_, ?_, ?_⟩
  · intro writes writes'
    rw [Wire.writeStore_eq_iff, Table.ofPairs_eq_iff]
  · intro writes s
    refine ⟨rfl, s.increasing, ?_⟩
    intro key value
    rw [Table.mem_entries_iff, Table.get?_ofPairs]
  · intro s behind hfits
    exact Store.ofBytes?_of_reads (Wire.reads_store hfits) behind
  · intro bytes
    cases hread : Store.ofBytes? bytes with
    | none => exact Or.inl rfl
    | some s =>
        have hwritten := Store.ofBytes?_of_reads
          (Wire.reads_store (Store.fits_of_ofBytes? hread)) []
        rw [List.append_nil] at hwritten
        exact Or.inr ⟨s, rfl, hwritten⟩
  · intro pairs behind hcount hfits
    exact Store.ofBytes?_of_reads (Wire.reads_row hcount hfits) behind

def shuffledWrites : List (String × StateValue) :=
  [("b", .int (-1)), ("a", .text "x"), ("b", .int 2)]

theorem fits_shuffledWrites (e : String × StateValue) (he : e ∈ shuffledWrites) :
    Wire.FitsEntry e := by
  have hb : Wire.Fits "b" := by decide
  rcases List.mem_cons.mp he with rfl | he
  · exact ⟨hb, trivial⟩
  · rcases List.mem_cons.mp he with rfl | he
    · exact ⟨show Wire.Fits "a" by decide, show Wire.Fits "x" by decide⟩
    · cases List.mem_singleton.mp he
      exact ⟨hb, trivial⟩

theorem stored_bytes_are_canonical_of_shuffled :
    shuffledWrites.length < 2 ^ 64 ∧
      (forall e : String × StateValue, e ∈ shuffledWrites -> Wire.FitsEntry e) ∧
      Wire.FitsStore (Table.ofPairs shuffledWrites) ∧
      Store.ofBytes? [3, 1, 98, 0, 1, 1, 97, 1, 1, 120, 1, 98, 0, 4, 7] =
        some (Table.ofPairs shuffledWrites) ∧
      Store.ofBytes? [2, 1, 97, 1, 1, 120, 1, 98, 0, 4, 7] =
        some (Table.ofPairs shuffledWrites) := by
  rcases stored_bytes_are_canonical with ⟨_, _, hback, _, hrow⟩
  have hcount : shuffledWrites.length < 2 ^ 64 := by decide
  have hfits : Wire.FitsStore (Table.ofPairs shuffledWrites) :=
    (Wire.FitsRow.mk rfl fits_shuffledWrites).store hcount
  have hshuffled : Wire.writeNat shuffledWrites.length ++
      shuffledWrites.flatMap Wire.writeEntry ++ [7] =
        [3, 1, 98, 0, 1, 1, 97, 1, 1, 120, 1, 98, 0, 4, 7] := by
    with_unfolding_all rfl
  have hordered : Wire.writeStore (Table.ofPairs shuffledWrites) ++ [7] =
      [2, 1, 97, 1, 1, 120, 1, 98, 0, 4, 7] := by
    with_unfolding_all rfl
  refine ⟨hcount, fits_shuffledWrites, hfits, ?_, ?_⟩
  · rw [← hshuffled]
    exact hrow shuffledWrites [7] hcount fits_shuffledWrites
  · rw [← hordered]
    exact hback _ [7] hfits

end TensorPipeline
