/-!
# Names

Stages have a type and a protocol version.  From those come the name of the
operation in a plan, the one-line description of a pipeline, and the path of an
iterator: the path of its parent followed by the iterator's own type.  The
first version is left out of names, later ones are written as `V2`, `V3`, and
so on.

An iterator stores its position under keys made of its path and the name of the
entry, so the paths are what keeps the stages of one pipeline apart.
-/

namespace TensorPipeline
namespace Naming

def versionSuffix (version : Nat) : String :=
  if version ≤ 1 then "" else "V" ++ toString version

def opName (kind : String) (version : Nat) : String :=
  kind ++ "Dataset" ++ versionSuffix version

def pathUnder (kind parent : String) (version : Nat) : String :=
  parent ++ "::" ++ kind ++ versionSuffix version

def description (kind : String) (version : Nat) (args : List String) : String :=
  opName kind version ++ "Op(" ++ ", ".intercalate args ++ ")::Dataset"

def entryKey (path name : String) : String := path ++ ":" ++ name

def nextEntry : String := "next"

/-- The entry that marks a batch stage whose input is used up. -/
def drainedEntry : String := "input_impl_empty"

theorem pathUnder_eq
    (kind parent : String) (version : Nat) :
    exists name : String, pathUnder kind parent version = parent ++ ("::" ++ name) :=
  ⟨kind ++ versionSuffix version, by simp only [pathUnder, String.append_assoc]⟩

theorem entryKey_eq (path name : String) : entryKey path name = path ++ (":" ++ name) :=
  String.append_assoc

/-- An entry of the iterator at `path` is told from any entry below by the
second character behind the path. -/
theorem entryKey_ne_of_below
    {path name below : String} (hname : name.toList.head? ≠ some ':') :
    entryKey path name ≠ path ++ ("::" ++ below) := by
  intro heq
  have hlists : path.toList ++ (":" ++ name).toList = path.toList ++ ("::" ++ below).toList := by
    rw [← String.toList_append, ← String.toList_append, ← entryKey_eq, heq]
  have hcancel := List.append_cancel_left hlists
  rw [String.toList_append, String.toList_append] at hcancel
  have htail : name.toList = ':' :: below.toList := (List.cons.inj hcancel).2
  rw [htail] at hname
  exact hname rfl

theorem append_cons_inj
    {c : Char} {front back front' back' : List Char} (h : c ∉ front) (h' : c ∉ front')
    (heq : front ++ c :: back = front' ++ c :: back') : front = front' ∧ back = back' := by
  induction front generalizing front' with
  | nil =>
      cases front' with
      | nil => exact ⟨rfl, (List.cons.inj heq).2⟩
      | cons d front' =>
          cases (List.cons.inj heq).1
          exact absurd List.mem_cons_self h'
  | cons d front ih =>
      cases front' with
      | nil =>
          cases (List.cons.inj heq).1
          exact absurd List.mem_cons_self h
      | cons d' front' =>
          rcases List.cons.inj heq with ⟨hhead, htail⟩
          rcases ih (List.not_mem_of_not_mem_cons h) (List.not_mem_of_not_mem_cons h') htail with
            ⟨hfront, hback⟩
          exact ⟨by rw [hhead, hfront], hback⟩

end Naming
end TensorPipeline
