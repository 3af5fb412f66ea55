import Mathlib.Data.List.DropRight
import TensorPipeline.Json.Reader
import TensorPipeline.Json.Writer

/-!
# Reading what was written

A value all of whose parts have an exact form is read back from either of its
written forms.  Texts are read character by character, each in its own escaped form;
a number is read up to the first character that no number goes on with; and the space
that a layout puts between the parts of a collection is skipped.
-/

namespace TensorPipeline
namespace Json

/-!
## Texts
-/

theorem readPieces_of_unescape?
    {e c : Char} (hunit : e ≠ 'u') (h : unescape? e = some c) (rest : List Char) :
    readPieces ('\\' :: e :: rest) =
      (readPieces rest).map fun read => (.char c :: read.1, read.2) := by
  rw [readPieces, h]
  · cases readPieces rest with
    | none => rfl
    | some read => rfl
  · intro a b c d rest' heq
    exact absurd heq hunit

theorem readPieces_of_unit
    {a b c d : Char} {unit : Nat} (h : hexUnit? a b c d = some unit) (rest : List Char) :
    readPieces ('\\' :: 'u' :: a :: b :: c :: d :: rest) =
      (readPieces rest).map fun read => (TextPiece.ofUnit unit :: read.1, read.2) := by
  rw [readPieces, h]
  cases readPieces rest with
  | none => rfl
  | some read => rfl

theorem readPieces_of_plain
    {c : Char} (hquote : c ≠ '"') (hslash : c ≠ '\\') (hcontrol : ¬ c.toNat < 32)
    (rest : List Char) :
    readPieces (c :: rest) =
      (readPieces rest).map fun read => (.char c :: read.1, read.2) := by
  have hplain : (decide (c.toNat < 32) || c == '\\') = false := by
    rw [decide_eq_false hcontrol, beq_eq_false_iff_ne.mpr hslash]
    rfl
  rw [readPieces.eq_def]
  split
  · next heq => cases heq
  · next heq => exact absurd (List.cons.inj heq).1 hquote
  · next heq => exact absurd (List.cons.inj heq).1 hslash
  · next heq => exact absurd (List.cons.inj heq).1 hslash
  · next heq =>
      cases heq
      rw [hplain]
      cases readPieces rest with
      | none => rfl
      | some read => rfl

theorem hexUnit?_control :
    forall n : Fin 32,
      hexUnit? '0' '0' (hexDigit (n.val / 16)) (hexDigit (n.val % 16)) = some n.val := by
  decide

theorem readPieces_escapeChar (c : Char) (rest : List Char) :
    readPieces (escapeChar c ++ rest) =
      (readPieces rest).map fun read => (.char c :: read.1, read.2) := by
  unfold escapeChar
  split
  · next h =>
      subst h
      exact readPieces_of_unescape? (by decide) rfl rest
  split
  · next h =>
      subst h
      exact readPieces_of_unescape? (by decide) rfl rest
  split
  · next h =>
      subst h
      exact readPieces_of_unescape? (by decide) rfl rest
  split
  · next h =>
      subst h
      exact readPieces_of_unescape? (by decide) rfl rest
  split
  · next h =>
      subst h
      exact readPieces_of_unescape? (by decide) rfl rest
  split
  · next h =>
      subst h
      exact readPieces_of_unescape? (by decide) rfl rest
  split
  · next h =>
      subst h
      exact readPieces_of_unescape? (by decide) rfl rest
  split
  · next h =>
      have hpiece : TextPiece.ofUnit c.toNat = .char c := by
        rw [TextPiece.ofUnit, if_neg (by omega), if_neg (by omega), Char.ofNat_toNat]
      rw [← hpiece]
      exact readPieces_of_unit (hexUnit?_control ⟨c.toNat, h⟩) rest
  · next hquote hslash _ _ _ _ _ hcontrol =>
      exact readPieces_of_plain hquote hslash hcontrol rest

theorem readPieces_escaped (cs rest : List Char) :
    readPieces (cs.flatMap escapeChar ++ '"' :: rest) = some (cs.map .char, rest) := by
  induction cs with
  | nil => rfl
  | cons c cs ih =>
      rw [List.flatMap_cons, List.append_assoc, readPieces_escapeChar, ih]
      rfl

theorem joinPieces_chars (cs : List Char) : joinPieces (cs.map .char) = some cs := by
  induction cs with
  | nil => rfl
  | cons c cs ih =>
      rw [List.map_cons, joinPieces, ih]
      rfl

theorem readText_escaped (s : String) (rest : List Char) :
    readText (s.toList.flatMap escapeChar ++ '"' :: rest) = some (some s, rest) := by
  rw [readText, readPieces_escaped]
  show some ((joinPieces (s.toList.map .char)).map String.ofList, rest) = _
  rw [joinPieces_chars, Option.map_some, String.ofList_toList]

/-!
## Numbers
-/

def goesOn (c : Char) : Bool := c.isDigit || c == '.' || c == 'e' || c == 'E'

def beginsNumber (c : Char) : Bool := c.isDigit || c == '-'

/-- No number at the end of which the text stands goes on with it. -/
def NumberEnds (rest : List Char) : Prop :=
  forall c : Char, c ∈ rest.head? -> goesOn c = false

theorem numberEnds_nil : NumberEnds [] := fun _ h => nomatch h

theorem numberEnds_cons {c : Char} (h : goesOn c = false) (rest : List Char) :
    NumberEnds (c :: rest) := by
  intro d hd
  cases hd
  exact h

theorem eq_of_isSpace {c : Char} (h : isSpace c = true) :
    c = ' ' ∨ c = '\n' ∨ c = '\t' ∨ c = '\r' := by
  simpa only [isSpace, Bool.or_eq_true, beq_iff_eq, or_assoc] using h

theorem goesOn_of_isSpace {c : Char} (h : isSpace c = true) : goesOn c = false := by
  rcases eq_of_isSpace h with rfl | rfl | rfl | rfl
  · rfl
  · rfl
  · rfl
  · rfl

theorem isSpace_of_beginsNumber {c : Char} (h : beginsNumber c = true) : isSpace c = false := by
  rw [Bool.eq_false_iff]
  intro hspace
  rcases eq_of_isSpace hspace with rfl | rfl | rfl | rfl
  · cases h
  · cases h
  · cases h
  · cases h

theorem numberEnds_gap
    {gap rest : List Char} (hgap : forall c : Char, c ∈ gap -> isSpace c = true)
    (hrest : NumberEnds rest) : NumberEnds (gap ++ rest) := by
  cases gap with
  | nil => exact hrest
  | cons c gap => exact numberEnds_cons (goesOn_of_isSpace (hgap c List.mem_cons_self)) _

theorem toDigits_eq_cons (n : Nat) :
    exists (d : Char) (ds : List Char), Nat.toDigits 10 n = d :: ds ∧ d.isDigit = true := by
  rcases List.exists_cons_of_ne_nil (Nat.toDigits_ne_nil (n := n) (b := 10)) with
    ⟨d, ds, hdigits⟩
  refine ⟨d, ds, hdigits, Nat.isDigit_of_mem_toDigits (n := n) (by decide) (Nat.le_refl 10) ?_⟩
  rw [hdigits]
  exact List.mem_cons_self

theorem writeInt_eq_cons (n : Int) :
    exists (c : Char) (cs : List Char), writeInt n = c :: cs ∧ beginsNumber c = true := by
  cases n with
  | ofNat n =>
      rcases toDigits_eq_cons n with ⟨d, ds, hdigits, hd⟩
      refine ⟨d, ds, hdigits, ?_⟩
      rw [beginsNumber, hd]
      rfl
  | negSucc n => exact ⟨'-', _, rfl, rfl⟩

theorem readDigits_toDigits (n : Nat) {rest : List Char} (hrest : NumberEnds rest) :
    readDigits (Nat.toDigits 10 n ++ rest) = some (Nat.toDigits 10 n, rest) := by
  have hdigit (c : Char) (hc : c ∈ Nat.toDigits 10 n) : c.isDigit = true :=
    Nat.isDigit_of_mem_toDigits (by decide) (by decide) hc
  have hstop : rest.takeWhile Char.isDigit = [] ∧ rest.dropWhile Char.isDigit = rest := by
    cases rest with
    | nil => exact ⟨rfl, rfl⟩
    | cons c cs =>
        have hno : ¬ c.isDigit = true := by
          intro hc
          have hends := hrest c rfl
          rw [goesOn, hc] at hends
          cases hends
        exact ⟨List.takeWhile_cons_of_neg hno, List.dropWhile_cons_of_neg hno⟩
  rw [readDigits, List.takeWhile_append_of_pos hdigit, List.dropWhile_append_of_pos hdigit,
    hstop.1, hstop.2, List.append_nil]
  split
  · next hnil => exact absurd hnil Nat.toDigits_ne_nil
  · rfl

theorem eq_zero_of_toDigits
    {n : Nat} {more rest : List Char} (h : Nat.toDigits 10 n ++ more = '0' :: rest) : n = 0 := by
  induction n using Nat.strongRecOn generalizing more with
  | ind n ih =>
      rcases Nat.lt_or_ge n 10 with hlt | hge
      · rw [Nat.toDigits_of_lt_base hlt] at h
        exact Nat.digitChar_eq_zero.mp (List.cons.inj h).1
      · rw [Nat.toDigits_of_base_le (by decide) hge, List.append_assoc] at h
        have hzero := ih (n / 10) (by omega) h
        omega

theorem readWhole_toDigits (n : Nat) {rest : List Char} (hrest : NumberEnds rest) :
    readWhole (Nat.toDigits 10 n ++ rest) = some (n, rest) := by
  by_cases hn : n = 0
  · subst hn
    rfl
  · rw [readWhole, readDigits_toDigits n hrest]
    · exact congrArg (fun m => some (m, rest)) (Nat.ofDigitChars_toDigits (by decide) (by decide))
    · intro more heq
      exact hn (eq_zero_of_toDigits heq)

theorem readPlaces_of_ends {rest : List Char} (hrest : NumberEnds rest) :
    readPlaces rest = some (false, rest) := by
  unfold readPlaces
  split
  · have hpoint := hrest '.' rfl
    cases hpoint
  · rfl

theorem readExponent_of_ends {rest : List Char} (hrest : NumberEnds rest) :
    readExponent rest = some (false, rest) := by
  unfold readExponent
  split
  · have hletter := hrest 'e' rfl
    cases hletter
  · have hletter := hrest 'E' rfl
    cases hletter
  · rfl

theorem readMagnitude_toDigits (n : Nat) {rest : List Char} (hrest : NumberEnds rest) :
    readMagnitude (Nat.toDigits 10 n ++ rest) = some (n, true, rest) := by
  rw [readMagnitude]
  simp only [readWhole_toDigits n hrest, readPlaces_of_ends hrest, readExponent_of_ends hrest,
    Option.bind_eq_bind, Option.bind_some]
  rfl

theorem readNumber_writeInt (n : Int) {rest : List Char} (hrest : NumberEnds rest) :
    readNumber (writeInt n ++ rest) = some (int n, rest) := by
  cases n with
  | ofNat n =>
      have hread := readMagnitude_toDigits n hrest
      rcases toDigits_eq_cons n with ⟨d, ds, hdigits, hd⟩
      show readNumber (Nat.toDigits 10 n ++ rest) = _
      unfold readNumber
      split
      · next heq =>
          rw [hdigits] at heq
          rw [(List.cons.inj heq).1] at hd
          cases hd
      · rw [hread]
        rfl
  | negSucc n =>
      have hread := readMagnitude_toDigits (n + 1) hrest
      rw [writeInt, List.cons_append, readNumber]
      simp only [hread, Option.bind_eq_bind, Option.bind_some]
      rfl

/-!
## Space
-/

theorem skipSpace_gap
    {gap : List Char} (h : forall c : Char, c ∈ gap -> isSpace c = true) (cs : List Char) :
    skipSpace (gap ++ cs) = skipSpace cs :=
  List.dropWhile_append_of_pos h

theorem skipSpace_cons {c : Char} (h : isSpace c = false) (cs : List Char) :
    skipSpace (c :: cs) = c :: cs := by
  apply List.dropWhile_cons_of_neg
  rw [h]
  exact Bool.false_ne_true

theorem skipSpace_skipSpace (cs : List Char) : skipSpace (skipSpace cs) = skipSpace cs :=
  List.dropWhile_idempotent isSpace cs

section

variable {cs ds : List Char} (h : skipSpace cs = skipSpace ds) (fuel : Nat)

include h

theorem readValue_congr : readValue fuel cs = readValue fuel ds := by
  cases fuel with
  | zero => rfl
  | succ fuel => rw [readValue, readValue, h]

theorem readItems_congr : readItems fuel cs = readItems fuel ds := by
  cases fuel with
  | zero => rfl
  | succ fuel => rw [readItems, readItems, readValue_congr h]

theorem readMembers_congr : readMembers fuel cs = readMembers fuel ds := by
  cases fuel with
  | zero => rfl
  | succ fuel => rw [readMembers, readMembers, h]

end

theorem readItems_of_closing
    {cs rest : List Char} (h : skipSpace cs = ']' :: rest) (fuel : Nat) :
    readItems fuel cs = none := by
  cases fuel with
  | zero => rfl
  | succ fuel =>
      have hvalue : readValue fuel cs = none := by
        cases fuel with
        | zero => rfl
        | succ fuel =>
            rw [readValue, h]
            rfl
      rw [readItems, hvalue]
      rfl

theorem readMembers_of_closing
    {cs rest : List Char} (h : skipSpace cs = '\x7d' :: rest) (fuel : Nat) :
    readMembers fuel cs = none := by
  cases fuel with
  | zero => rfl
  | succ fuel =>
      rw [readMembers, h]
      rfl

/-!
## One value
-/

theorem readValue_array
    {fuel : Nat} {cs rest : List Char} {items : List Json}
    (h : readItems fuel cs = some (items, rest)) :
    readValue (fuel + 1) ('[' :: cs) = some (array items, rest) := by
  rw [readValue, skipSpace_cons rfl]
  split
  case h_5 heq =>
    cases heq
    split
    · next hclosing =>
        rw [readItems_of_closing hclosing] at h
        cases h
    · rw [readItems_congr (skipSpace_skipSpace cs), h]
      rfl
  case h_7 hother _ => exact absurd rfl (hother cs)
  all_goals
    next heq => cases heq

theorem readValue_object
    {fuel : Nat} {cs rest : List Char} {members : List (Option String × Json)}
    (h : readMembers fuel cs = some (members, rest)) :
    readValue (fuel + 1) ('\x7b' :: cs) = some (object members, rest) := by
  rw [readValue, skipSpace_cons rfl]
  split
  case h_6 heq =>
    cases heq
    split
    · next hclosing =>
        rw [readMembers_of_closing hclosing] at h
        cases h
    · rw [readMembers_congr (skipSpace_skipSpace cs), h]
      rfl
  case h_7 hother => exact absurd rfl (hother cs)
  all_goals
    next heq => cases heq

theorem readValue_writeText (fuel : Nat) (s : String) (rest : List Char) :
    readValue (fuel + 1) (writeText s ++ rest) = some (text (some s), rest) := by
  have hread := readText_escaped s rest
  rw [writeText, List.cons_append, List.append_assoc, readValue, skipSpace_cons rfl]
  split
  case h_4 heq =>
    cases heq
    rw [List.singleton_append, hread]
    rfl
  case h_7 hother _ _ => exact absurd rfl (hother _)
  all_goals
    next heq => cases heq

theorem readValue_writeInt
    (fuel : Nat) (n : Int) {rest : List Char} (hrest : NumberEnds rest) :
    readValue (fuel + 1) (writeInt n ++ rest) = some (int n, rest) := by
  rcases writeInt_eq_cons n with ⟨c, cs, hn, hc⟩
  have hread := readNumber_writeInt n hrest
  rw [hn, List.cons_append] at hread ⊢
  rw [readValue, skipSpace_cons (isSpace_of_beginsNumber hc)]
  -- no value of another kind begins with such a character
  split <;> first
    | exact hread
    | next heq =>
        rw [(List.cons.inj heq).1] at hc
        cases hc

/-- A value is read back from its written form, whatever comes behind it unless a
number could go on with that. -/
def ReadsBack (l : Layout) (j : Json) : Prop :=
  forall (level fuel : Nat) (rest : List Char),
    (write l level j).length ≤ fuel -> NumberEnds rest ->
    readValue fuel (write l level j ++ rest) = some (j, rest)

section

variable {l : Layout}

theorem readsBack_of_scalar
    {j : Json} (harray : forall items : List Json, j ≠ array items)
    (hobject : forall members : List (Option String × Json), j ≠ object members)
    (hne : writeScalar j ≠ [])
    (hread : forall (fuel : Nat) (rest : List Char), NumberEnds rest ->
      readValue (fuel + 1) (writeScalar j ++ rest) = some (j, rest)) : ReadsBack l j := by
  intro level fuel rest hfuel hrest
  have hwrite : write l level j = writeScalar j := by
    rw [write]
    · exact harray []
    · intro item rest
      exact harray (item :: rest)
    · exact hobject []
    · intro name value rest
      exact hobject ((name, value) :: rest)
  rw [hwrite] at hfuel ⊢
  cases fuel with
  | zero => exact absurd (List.eq_nil_of_length_eq_zero (Nat.le_zero.mp hfuel)) hne
  | succ fuel => exact hread fuel rest hrest

theorem readsBack_null : ReadsBack l null := by
  apply readsBack_of_scalar
  · exact nofun
  · exact nofun
  · exact List.cons_ne_nil _ _
  · intro fuel rest _
    rfl

theorem readsBack_bool (b : Bool) : ReadsBack l (bool b) := by
  apply readsBack_of_scalar
  · exact nofun
  · exact nofun
  · cases b with
    | true => exact List.cons_ne_nil _ _
    | false => exact List.cons_ne_nil _ _
  · intro fuel rest _
    cases b with
    | true => rfl
    | false => rfl

theorem readsBack_int (n : Int) : ReadsBack l (int n) := by
  apply readsBack_of_scalar
  · exact nofun
  · exact nofun
  · rcases writeInt_eq_cons n with ⟨c, cs, hn, _⟩
    rw [writeScalar, hn]
    exact List.cons_ne_nil _ _
  · intro fuel rest hrest
    exact readValue_writeInt fuel n hrest

theorem readsBack_text (s : String) : ReadsBack l (text (some s)) := by
  apply readsBack_of_scalar
  · exact nofun
  · exact nofun
  · exact List.cons_ne_nil _ _
  · intro fuel rest _
    exact readValue_writeText fuel s rest

/-!
## Collections
-/

theorem readItems_last
    {fuel : Nat} {cs more rest : List Char} {item : Json}
    (hitem : readValue fuel cs = some (item, more)) (hend : skipSpace more = ']' :: rest) :
    readItems (fuel + 1) cs = some ([item], rest) := by
  rw [readItems]
  simp only [hitem, hend, Option.bind_eq_bind, Option.bind_some]

theorem readItems_next
    {fuel : Nat} {cs more next rest : List Char} {item : Json} {items : List Json}
    (hitem : readValue fuel cs = some (item, more)) (hcomma : skipSpace more = ',' :: next)
    (hitems : readItems fuel next = some (items, rest)) :
    readItems (fuel + 1) cs = some (item :: items, rest) := by
  rw [readItems]
  simp only [hitem, hcomma, hitems, Option.bind_eq_bind, Option.bind_some]
  rfl

theorem numberEnds_writeItems (level : Nat) (items : List Json) (rest : List Char) :
    NumberEnds (writeItems l level items ++ rest) := by
  cases items with
  | nil =>
      rw [writeItems, List.append_assoc]
      exact numberEnds_gap (l.gap_isSpace level) (numberEnds_cons rfl rest)
  | cons item items =>
      rw [writeItems]
      exact numberEnds_cons rfl _

theorem readItems_write
    {items : List Json} (hitems : forall item : Json, item ∈ items -> ReadsBack l item)
    {first : Json} (hfirst : ReadsBack l first) (level fuel : Nat) (rest : List Char)
    (hfuel : (write l (level + 1) first).length + (writeItems l level items).length ≤ fuel) :
    readItems fuel (write l (level + 1) first ++ (writeItems l level items ++ rest)) =
      some (first :: items, rest) := by
  induction items generalizing first fuel with
  | nil =>
      have hends := numberEnds_writeItems (l := l) level [] rest
      rw [writeItems, List.length_append, List.length_singleton] at hfuel
      cases fuel with
      | zero => omega
      | succ fuel =>
          apply readItems_last (hfirst (level + 1) fuel _ (by omega) hends)
          rw [writeItems, List.append_assoc, skipSpace_gap (l.gap_isSpace level)]
          rfl
  | cons second items ih =>
      have hends := numberEnds_writeItems (l := l) level (second :: items) rest
      rw [writeItems, List.length_cons, List.length_append, List.length_append] at hfuel
      cases fuel with
      | zero => omega
      | succ fuel =>
          have hlater := ih (fun item hitem => hitems item (List.mem_cons_of_mem second hitem))
            (hitems second List.mem_cons_self) fuel (by omega)
          rw [← readItems_congr (skipSpace_gap (l.gap_isSpace (level + 1)) _)] at hlater
          apply readItems_next (hfirst (level + 1) fuel _ (by omega) hends) _ hlater
          rw [writeItems, List.cons_append, skipSpace_cons rfl, List.append_assoc,
            List.append_assoc]

theorem readsBack_array
    {items : List Json} (hitems : forall item : Json, item ∈ items -> ReadsBack l item) :
    ReadsBack l (array items) := by
  intro level fuel rest hfuel _
  cases items with
  | nil =>
      rw [write] at hfuel ⊢
      cases fuel with
      | zero => cases hfuel
      | succ fuel => rfl
  | cons first items =>
      rw [write, List.length_cons, List.length_append, List.length_append] at hfuel
      cases fuel with
      | zero => cases hfuel
      | succ fuel =>
          have hread := readItems_write
            (fun item hitem => hitems item (List.mem_cons_of_mem first hitem))
            (hitems first List.mem_cons_self) level fuel rest (by omega)
          rw [← readItems_congr (skipSpace_gap (l.gap_isSpace (level + 1)) _)] at hread
          rw [write, List.cons_append, List.append_assoc, List.append_assoc]
          exact readValue_array hread

theorem writeName_append (name : String) (cs : List Char) :
    writeName (some name) ++ cs =
      '"' :: (name.toList.flatMap escapeChar ++ '"' :: ':' :: cs) := by
  show '"' :: (((name.toList.flatMap escapeChar ++ ['"']) ++ [':']) ++ cs) = _
  rw [List.append_assoc, List.append_assoc]
  rfl

theorem readMembers_last
    (name : String) {fuel : Nat} {cs more rest : List Char} {value : Json}
    (hvalue : readValue fuel cs = some (value, more)) (hend : skipSpace more = '\x7d' :: rest) :
    readMembers (fuel + 1) (writeName (some name) ++ cs) = some ([(some name, value)], rest) := by
  rw [writeName_append, readMembers, skipSpace_cons rfl]
  simp only [readText_escaped, skipSpace_cons (c := ':') rfl, hvalue, hend, Option.bind_eq_bind,
    Option.bind_some]

theorem readMembers_next
    (name : String) {fuel : Nat} {cs more next rest : List Char} {value : Json}
    {members : List (Option String × Json)} (hvalue : readValue fuel cs = some (value, more))
    (hcomma : skipSpace more = ',' :: next)
    (hmembers : readMembers fuel next = some (members, rest)) :
    readMembers (fuel + 1) (writeName (some name) ++ cs) =
      some ((some name, value) :: members, rest) := by
  rw [writeName_append, readMembers, skipSpace_cons rfl]
  simp only [readText_escaped, skipSpace_cons (c := ':') rfl, hvalue, hcomma, hmembers,
    Option.bind_eq_bind, Option.bind_some]
  rfl

theorem numberEnds_writeMembers
    (level : Nat) (members : List (Option String × Json)) (rest : List Char) :
    NumberEnds (writeMembers l level members ++ rest) := by
  cases members with
  | nil =>
      rw [writeMembers, List.append_assoc]
      exact numberEnds_gap (l.gap_isSpace level) (numberEnds_cons rfl rest)
  | cons member members =>
      rw [writeMembers]
      exact numberEnds_cons rfl _

theorem readValue_afterName
    {value : Json} (hvalue : ReadsBack l value) (level fuel : Nat) {rest : List Char}
    (hfuel : (write l level value).length ≤ fuel) (hrest : NumberEnds rest) :
    readValue fuel (l.afterName ++ (write l level value ++ rest)) = some (value, rest) := by
  rw [readValue_congr (skipSpace_gap l.afterName_isSpace _)]
  exact hvalue level fuel rest hfuel hrest

def named (members : List (String × Json)) : List (Option String × Json) :=
  members.map fun member => (some member.1, member.2)

theorem readMembers_write
    {members : List (String × Json)}
    (hmembers : forall member : String × Json, member ∈ members -> ReadsBack l member.2)
    (name : String) {value : Json} (hvalue : ReadsBack l value) (level fuel : Nat)
    (rest : List Char)
    (hfuel : (write l (level + 1) value).length +
      (writeMembers l level (named members)).length ≤ fuel) :
    readMembers fuel (writeName (some name) ++ (l.afterName ++ (write l (level + 1) value ++
        (writeMembers l level (named members) ++ rest)))) =
      some ((some name, value) :: named members, rest) := by
  have hends := numberEnds_writeMembers (l := l) level (named members) rest
  induction members generalizing name value fuel with
  | nil =>
      rw [named, List.map_nil, writeMembers, List.length_append, List.length_singleton] at hfuel
      cases fuel with
      | zero => omega
      | succ fuel =>
          have hread := readValue_afterName hvalue (level + 1) fuel (by omega) hends
          apply readMembers_last name hread
          rw [named, List.map_nil, writeMembers, List.append_assoc,
            skipSpace_gap (l.gap_isSpace level)]
          rfl
  | cons second members ih =>
      rw [named, List.map_cons, ← named, writeMembers, List.length_cons, List.length_append,
        List.length_append, List.length_append, List.length_append] at hfuel
      cases fuel with
      | zero => omega
      | succ fuel =>
          have hread := readValue_afterName hvalue (level + 1) fuel (by omega) hends
          have hlater := ih
            (fun member hmember => hmembers member (List.mem_cons_of_mem second hmember))
            second.1 (hmembers second List.mem_cons_self) fuel (by omega)
            (numberEnds_writeMembers level (named members) rest)
          rw [← readMembers_congr (skipSpace_gap (l.gap_isSpace (level + 1)) _)] at hlater
          apply readMembers_next name hread _ hlater
          rw [named, List.map_cons, ← named, writeMembers, List.cons_append, skipSpace_cons rfl]
          simp only [List.append_assoc]

theorem readsBack_object
    {members : List (String × Json)}
    (hmembers : forall member : String × Json, member ∈ members -> ReadsBack l member.2) :
    ReadsBack l (ofMembers members) := by
  intro level fuel rest hfuel _
  cases members with
  | nil =>
      rw [ofMembers, List.map_nil, write] at hfuel ⊢
      cases fuel with
      | zero => cases hfuel
      | succ fuel => rfl
  | cons first members =>
      rw [ofMembers, List.map_cons, ← named, write, List.length_cons, List.length_append,
        List.length_append, List.length_append, List.length_append] at hfuel
      cases fuel with
      | zero => cases hfuel
      | succ fuel =>
          have hread := readMembers_write
            (fun member hmember => hmembers member (List.mem_cons_of_mem first hmember))
            first.1 (hmembers first List.mem_cons_self) level fuel rest (by omega)
          rw [← readMembers_congr (skipSpace_gap (l.gap_isSpace (level + 1)) _)] at hread
          rw [ofMembers, List.map_cons, ← named, write, List.cons_append]
          simp only [List.append_assoc]
          exact readValue_object hread

end

/-!
## Exact values
-/

inductive Exact : Json -> Prop where
  | null : Exact null
  | bool (b : Bool) : Exact (bool b)
  | int (n : Int) : Exact (int n)
  | text (s : String) : Exact (ofString s)
  | array {items : List Json} (h : forall item : Json, item ∈ items -> Exact item) :
      Exact (array items)
  | object {members : List (String × Json)}
      (h : forall member : String × Json, member ∈ members -> Exact member.2) :
      Exact (ofMembers members)

theorem Exact.readsBack (l : Layout) {j : Json} (h : Exact j) : ReadsBack l j := by
  induction h with
  | null => exact readsBack_null
  | bool b => exact readsBack_bool b
  | int n => exact readsBack_int n
  | text s => exact readsBack_text s
  | array _ ih => exact readsBack_array ih
  | object _ ih => exact readsBack_object ih

/-- A value all of whose parts have an exact form is read back from its text in
every layout. -/
theorem read_write (l : Layout) {j : Json} (h : Exact j) :
    read (String.ofList (write l 0 j)) = some j := by
  have hread := h.readsBack l 0 ((write l 0 j).length + 1) [] (Nat.le_succ _) numberEnds_nil
  rw [List.append_nil] at hread
  rw [read, String.toList_ofList]
  simp only [hread, Option.bind_eq_bind, Option.bind_some]
  rfl

end Json
end TensorPipeline
