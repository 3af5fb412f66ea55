import TensorPipeline.Proofs.Wire.RoundTrip

/-!
# Bytes behind a value, and bytes missing from it

A reader that has found a value has not looked at the bytes behind it.  With more
bytes there it finds the same value, and they are left as well.  No value can
therefore be found in bytes that break off before its end: what was found there
would be found in the whole as well, with bytes left that the whole does not
leave.
-/

namespace TensorPipeline
namespace Wire

/-- What is found does not depend on what stands behind it. -/
def IgnoresRest {α : Type} (read : Reader α) : Prop :=
  forall (bytes rest : List UInt8) (value : α) (more : List UInt8),
    read bytes = some (value, rest) -> read (bytes ++ more) = some (value, rest ++ more)

section

variable {α β : Type} {read : Reader α}

theorem IgnoresRest.bind
    (h : IgnoresRest read) {next : α -> Reader β} (hnext : forall value, IgnoresRest (next value)) :
    IgnoresRest fun bytes => (read bytes).bind fun found => next found.1 found.2 := by
  intro bytes rest value more hread
  rcases Option.bind_eq_some_iff.mp hread with ⟨⟨first, behind⟩, hfirst, hvalue⟩
  apply Option.bind_eq_some_iff.mpr
  exact ⟨(first, behind ++ more), h _ _ _ more hfirst, hnext first _ _ _ more hvalue⟩

theorem ignoresRest_value (value : α) : IgnoresRest fun bytes => some (value, bytes) := by
  intro bytes rest value' more hread
  cases hread
  rfl

theorem IgnoresRest.eq_none_of_torn
    (h : IgnoresRest read) {whole torn : List UInt8} {value : α}
    (hwhole : Reads read whole value) (htorn : torn <+: whole) (hne : torn ≠ whole) :
    read torn = none := by
  rcases htorn with ⟨missing, rfl⟩
  cases hread : read torn with
  | none => rfl
  | some found =>
      have hfound := h _ _ _ missing hread
      have hall := hwhole []
      rw [List.append_nil, hfound] at hall
      have hmissing : found.2 ++ missing = [] := congrArg Prod.snd (Option.some.inj hall)
      rw [(List.append_eq_nil_iff.mp hmissing).2, List.append_nil] at hne
      exact absurd rfl hne

end

/-!
## The readers
-/

theorem ignoresRest_nat (lastMax room : Nat) : IgnoresRest (readNat lastMax room) := by
  induction room with
  | zero =>
      intro bytes rest value more hread
      cases hread
  | succ room ih =>
      intro bytes rest value more hread
      cases bytes with
      | nil => cases hread
      | cons b bytes =>
          rw [List.cons_append]
          unfold readNat at hread ⊢
          by_cases hlast : b.toNat < 128
          · rw [if_pos hlast] at hread ⊢
            split at hread
            · cases hread
            · next hfits =>
                cases hread
                rw [if_neg hfits]
          · rw [if_neg hlast] at hread ⊢
            rcases Option.map_eq_some_iff.mp hread with ⟨⟨n, behind⟩, hdigits, hvalue⟩
            cases hvalue
            rw [ih _ _ _ more hdigits]
            rfl

def readUtf8 (length : Nat) : Reader String := fun bytes =>
  if bytes.length < length then none
  else
    (String.fromUTF8? ⟨(bytes.take length).toArray⟩).bind fun s => some (s, bytes.drop length)

theorem ignoresRest_utf8 (length : Nat) : IgnoresRest (readUtf8 length) := by
  intro bytes rest value more hread
  unfold readUtf8 at hread ⊢
  split at hread
  · cases hread
  · next hlength =>
      have hle : length ≤ bytes.length := Nat.le_of_not_lt hlength
      have hmore : ¬ (bytes ++ more).length < length := by
        rw [List.length_append]
        omega
      rcases Option.bind_eq_some_iff.mp hread with ⟨s, hs, hvalue⟩
      cases hvalue
      rw [if_neg hmore, List.take_append_of_le_length hle, hs, List.drop_append_of_le_length hle]
      rfl

theorem ignoresRest_text : IgnoresRest readText :=
  IgnoresRest.bind (ignoresRest_nat 1 10) ignoresRest_utf8

theorem ignoresRest_stateValue : IgnoresRest readValue := by
  intro bytes rest value more hread
  rcases Option.bind_eq_some_iff.mp hread with ⟨⟨tag, behind⟩, htag, hvalue⟩
  have hmore : readNat32 (bytes ++ more) = some (tag, behind ++ more) :=
    ignoresRest_nat 15 5 _ _ _ more htag
  apply Option.bind_eq_some_iff.mpr
  refine ⟨(tag, behind ++ more), hmore, ?_⟩
  cases tag with
  | zero =>
      have hint := IgnoresRest.bind (ignoresRest_nat 1 10) fun n =>
        ignoresRest_value (StateValue.int (Int64.ofInt (unzigzag n)))
      exact hint _ _ _ more hvalue
  | succ tag =>
      cases tag with
      | zero =>
          have htext := IgnoresRest.bind ignoresRest_text fun s =>
            ignoresRest_value (StateValue.text s)
          exact htext _ _ _ more hvalue
      | succ tag => cases hvalue

theorem ignoresRest_entry : IgnoresRest readEntry :=
  IgnoresRest.bind ignoresRest_text fun key =>
    IgnoresRest.bind ignoresRest_stateValue fun value => ignoresRest_value (key, value)

theorem ignoresRest_entries (count : Nat) : IgnoresRest (readEntries count) := by
  induction count with
  | zero => exact ignoresRest_value []
  | succ count ih =>
      exact IgnoresRest.bind ignoresRest_entry fun e =>
        IgnoresRest.bind ih fun entries => ignoresRest_value (e :: entries)

theorem ignoresRest_store : IgnoresRest readStore :=
  IgnoresRest.bind (ignoresRest_nat 1 10) fun count =>
    IgnoresRest.bind (ignoresRest_entries count) fun entries =>
      ignoresRest_value (Table.ofPairs entries)

theorem ignoresRest_snapshot : IgnoresRest readSnapshot :=
  IgnoresRest.bind ignoresRest_text fun job =>
    IgnoresRest.bind ignoresRest_text fun path =>
      IgnoresRest.bind (ignoresRest_nat 1 10) fun timestamp =>
        IgnoresRest.bind ignoresRest_store fun state =>
          IgnoresRest.bind ignoresRest_text fun checksum =>
            ignoresRest_value (Snapshot.mk job path (UInt64.ofNat timestamp) state checksum)

end Wire
end TensorPipeline
