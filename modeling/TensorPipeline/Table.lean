/-!
# Tables

A table keeps one value under each of finitely many text keys and lists its
entries in the order of the keys' UTF-8 bytes.  The order is part of the type,
so two tables that answer every look-up alike are equal, whatever the order in
which their entries were written.
-/

namespace TensorPipeline

def utf8 (s : String) : List UInt8 := s.toByteArray.data.toList

theorem utf8_injective {a b : String} (h : utf8 a = utf8 b) : a = b := by
  have hdata : a.toByteArray.data = b.toByteArray.data := Array.toList_inj.mp h
  have hbytes : a.toByteArray = b.toByteArray := by
    cases ha : a.toByteArray
    cases hb : b.toByteArray
    rw [ha, hb] at hdata
    exact congrArg ByteArray.mk hdata
  exact String.toByteArray_inj.mp hbytes

def utf8Lt (a b : String) : Prop := utf8 a < utf8 b

instance (a b : String) : Decidable (utf8Lt a b) :=
  inferInstanceAs (Decidable (utf8 a < utf8 b))

def KeysIncrease {α : Type} (entries : List (String × α)) : Prop :=
  entries.Pairwise fun a b => utf8Lt a.1 b.1

def writeEntry {α : Type} (key : String) (value : α) :
    List (String × α) -> List (String × α)
  | [] => [(key, value)]
  | (k, v) :: rest =>
      if utf8Lt key k then (key, value) :: (k, v) :: rest
      else if key = k then (key, value) :: rest
      else (k, v) :: writeEntry key value rest

theorem mem_writeEntry {α : Type} {key : String} {value : α}
    {entries : List (String × α)} {e : String × α}
    (h : e ∈ writeEntry key value entries) :
    e = (key, value) ∨ e ∈ entries := by
  induction entries with
  | nil => simpa [writeEntry] using h
  | cons head rest ih =>
      unfold writeEntry at h
      split at h
      · simpa using h
      · split at h
        · simp only [List.mem_cons] at h ⊢
          exact h.imp id Or.inr
        · simp only [List.mem_cons] at h ⊢
          rcases h with h | h
          · exact Or.inr (Or.inl h)
          · exact (ih h).imp id Or.inr

theorem utf8Lt_of_not_of_ne {a b : String} (hlt : ¬ utf8Lt a b) (hne : a ≠ b) :
    utf8Lt b a := by
  have hle : utf8 b ≤ utf8 a := List.not_lt.mp hlt
  refine List.not_le.mp fun hge => hne ?_
  exact utf8_injective (List.le_antisymm hge hle)

theorem utf8Lt.irrefl (a : String) : ¬ utf8Lt a a :=
  List.lt_irrefl (utf8 a)

theorem utf8Lt.asymm {a b : String} (h : utf8Lt a b) : ¬ utf8Lt b a :=
  fun h' => utf8Lt.irrefl a (List.lt_trans h h')

theorem writeEntry_of_last {α : Type} {key : String} (value : α)
    {entries : List (String × α)} (h : forall e, e ∈ entries -> utf8Lt e.1 key) :
    writeEntry key value entries = entries ++ [(key, value)] := by
  induction entries with
  | nil => rfl
  | cons head rest ih =>
      have hhead := h head List.mem_cons_self
      have hne : key ≠ head.1 := by
        rintro rfl
        exact utf8Lt.irrefl _ hhead
      rw [writeEntry, if_neg hhead.asymm, if_neg hne,
        ih fun e he => h e (List.mem_cons_of_mem head he)]
      rfl

theorem lookup_cons_eq {α : Type} (k key : String) (value : α)
    (entries : List (String × α)) :
    ((key, value) :: entries).lookup k =
      if k = key then some value else entries.lookup k := by
  by_cases hk : k = key
  · rw [if_pos hk, hk, List.lookup_cons_self]
  · rw [if_neg hk, List.lookup_cons, beq_eq_false_iff_ne.mpr hk]

theorem lookup_writeEntry {α : Type} (key : String) (value : α)
    (entries : List (String × α)) (k : String) :
    (writeEntry key value entries).lookup k =
      if k = key then some value else entries.lookup k := by
  induction entries with
  | nil => exact lookup_cons_eq k key value []
  | cons head rest ih =>
      unfold writeEntry
      split
      · exact lookup_cons_eq k key value (head :: rest)
      · split
        · next heq =>
            rw [lookup_cons_eq, lookup_cons_eq, ← heq]
            by_cases hk : k = key
            · rw [if_pos hk, if_pos hk]
            · rw [if_neg hk, if_neg hk, if_neg hk]
        · next hne =>
            rw [lookup_cons_eq, lookup_cons_eq, ih]
            by_cases hk : k = head.1
            · have hk' : k ≠ key := fun h => hne (h.symm.trans hk)
              rw [if_pos hk, if_neg hk', if_pos hk]
            · rw [if_neg hk, if_neg hk]

theorem KeysIncrease.writeEntry {α : Type} {entries : List (String × α)}
    (h : KeysIncrease entries) (key : String) (value : α) :
    KeysIncrease (writeEntry key value entries) := by
  induction entries with
  | nil => simp [TensorPipeline.writeEntry, KeysIncrease]
  | cons head rest ih =>
      obtain ⟨hhead, hrest⟩ := List.pairwise_cons.mp h
      unfold TensorPipeline.writeEntry
      split
      · next hlt =>
          refine List.pairwise_cons.mpr ⟨?_, h⟩
          intro e he
          rcases List.mem_cons.mp he with rfl | he
          · exact hlt
          · exact List.lt_trans hlt (hhead e he)
      · next hlt =>
          split
          · next heq =>
              exact List.pairwise_cons.mpr ⟨fun e he => heq ▸ hhead e he, hrest⟩
          · next hne =>
              refine List.pairwise_cons.mpr ⟨?_, ih hrest⟩
              intro e he
              rcases mem_writeEntry he with rfl | he
              · exact utf8Lt_of_not_of_ne hlt hne
              · exact hhead e he

/-- Values under text keys, listed in the order of the keys' UTF-8 bytes. -/
structure Table (α : Type) where
  entries : List (String × α)
  increasing : KeysIncrease entries

namespace Table

variable {α : Type}

instance [DecidableEq α] : DecidableEq (Table α) := fun a b =>
  match decEq a.entries b.entries with
  | isTrue h => isTrue (by cases a; cases b; cases h; rfl)
  | isFalse h => isFalse fun heq => h (congrArg Table.entries heq)

def empty : Table α := ⟨[], List.Pairwise.nil⟩

instance : Inhabited (Table α) := ⟨empty⟩

def size (t : Table α) : Nat := t.entries.length

def get? (t : Table α) (key : String) : Option α := t.entries.lookup key

def contains (t : Table α) (key : String) : Bool := (t.get? key).isSome

def write (t : Table α) (key : String) (value : α) : Table α :=
  ⟨writeEntry key value t.entries, t.increasing.writeEntry key value⟩

def writeAll (t : Table α) (pairs : List (String × α)) : Table α :=
  pairs.foldl (fun t pair => t.write pair.1 pair.2) t

def ofPairs (pairs : List (String × α)) : Table α := empty.writeAll pairs

@[simp] theorem get?_write (t : Table α) (key : String) (value : α) (k : String) :
    (t.write key value).get? k = if k = key then some value else t.get? k :=
  lookup_writeEntry key value t.entries k

theorem entries_writeAll {t : Table α} {pairs : List (String × α)}
    (h : KeysIncrease (t.entries ++ pairs)) :
    (t.writeAll pairs).entries = t.entries ++ pairs := by
  induction pairs generalizing t with
  | nil => exact (List.append_nil t.entries).symm
  | cons pair pairs ih =>
      have hlast : forall e, e ∈ t.entries -> utf8Lt e.1 pair.1 := fun e he =>
        (List.pairwise_append.mp h).2.2 e he pair List.mem_cons_self
      have hwrite : (t.write pair.1 pair.2).entries = t.entries ++ [pair] :=
        writeEntry_of_last pair.2 hlast
      have hsplit : t.entries ++ pair :: pairs = (t.write pair.1 pair.2).entries ++ pairs := by
        rw [hwrite, List.append_assoc]
        rfl
      rw [hsplit] at h ⊢
      exact ih h

theorem ofPairs_entries (t : Table α) : ofPairs t.entries = t := by
  have h : (ofPairs t.entries).entries = t.entries := entries_writeAll t.increasing
  cases hp : ofPairs t.entries
  cases t
  rw [hp] at h
  cases h
  rfl

end Table

end TensorPipeline
