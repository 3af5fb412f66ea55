import Mathlib.Data.List.Nodup
import TensorPipeline.Proofs.Restoring

/-!
# What a key tells

The path of an iterator names the stages from the outside in, each behind two
colons, and its entries stand behind a single one.  No name holds a colon, so a key
is read back name by name from the front, whatever the path that all of them start
from.  The name of one stage may begin with that of another; where it ends is told
by the colon behind it.

So a key tells the versions of the stages down to the one that it belongs to, and
the key of a source tells its kind as well.  No two stages of a pipeline share a key.
-/

namespace TensorPipeline
namespace Naming

/-- The key of an entry of the iterator with the given names below a path, the
outermost first. -/
def keyBelow : List String -> String -> String -> String
  | [], path, entry => entryKey path entry
  | name :: names, path, entry => keyBelow names (path ++ "::" ++ name) entry

def keyTail : List String -> String -> List Char
  | [], entry => ':' :: entry.toList
  | name :: names, entry => ':' :: ':' :: (name.toList ++ keyTail names entry)

theorem toList_keyBelow (names : List String) (path entry : String) :
    (keyBelow names path entry).toList = path.toList ++ keyTail names entry := by
  induction names generalizing path with
  | nil =>
      rw [keyBelow, entryKey_eq, String.toList_append, String.toList_append]
      rfl
  | cons name names ih =>
      rw [keyBelow, ih, String.toList_append, String.toList_append, List.append_assoc,
        List.append_assoc]
      rfl

theorem keyTail_eq_cons (names : List String) (entry : String) :
    exists tail : List Char, keyTail names entry = ':' :: tail := by
  cases names with
  | nil => exact ⟨_, rfl⟩
  | cons name names => exact ⟨_, rfl⟩

theorem keyTail_inj
    {names names' : List String} {entry entry' : String}
    (hnames : forall name : String, name ∈ names -> ':' ∉ name.toList)
    (hnames' : forall name : String, name ∈ names' -> ':' ∉ name.toList)
    (hentry : entry.toList.head? ≠ some ':') (hentry' : entry'.toList.head? ≠ some ':')
    (h : keyTail names entry = keyTail names' entry') : names = names' ∧ entry = entry' := by
  induction names generalizing names' with
  | nil =>
      cases names' with
      | nil => exact ⟨rfl, String.toList_inj.mp (List.cons.inj h).2⟩
      | cons name' names' =>
          have hsecond : entry.toList = ':' :: _ := (List.cons.inj h).2
          rw [hsecond] at hentry
          exact absurd rfl hentry
  | cons name names ih =>
      cases names' with
      | nil =>
          have hsecond : ':' :: _ = entry'.toList := (List.cons.inj h).2
          rw [← hsecond] at hentry'
          exact absurd rfl hentry'
      | cons name' names' =>
          have hbehind : name.toList ++ keyTail names entry =
              name'.toList ++ keyTail names' entry' :=
            (List.cons.inj (List.cons.inj h).2).2
          rcases keyTail_eq_cons names entry with ⟨tail, htail⟩
          rcases keyTail_eq_cons names' entry' with ⟨tail', htail'⟩
          rw [htail, htail'] at hbehind
          rcases append_cons_inj (hnames name List.mem_cons_self)
            (hnames' name' List.mem_cons_self) hbehind with ⟨hname, hrest⟩
          have hkey : keyTail names entry = keyTail names' entry' := by rw [htail, htail', hrest]
          rcases ih (fun n hn => hnames n (List.mem_cons_of_mem _ hn))
            (fun n hn => hnames' n (List.mem_cons_of_mem _ hn)) hkey with ⟨hnames_eq, hentry_eq⟩
          exact ⟨by rw [String.toList_inj.mp hname, hnames_eq], hentry_eq⟩

theorem keyBelow_inj
    {names names' : List String} {path entry entry' : String}
    (hnames : forall name : String, name ∈ names -> ':' ∉ name.toList)
    (hnames' : forall name : String, name ∈ names' -> ':' ∉ name.toList)
    (hentry : entry.toList.head? ≠ some ':') (hentry' : entry'.toList.head? ≠ some ':')
    (h : keyBelow names path entry = keyBelow names' path entry') :
    names = names' ∧ entry = entry' := by
  have hlists := congrArg String.toList h
  rw [toList_keyBelow, toList_keyBelow] at hlists
  exact keyTail_inj hnames hnames' hentry hentry' (List.append_cancel_left hlists)

end Naming

/-!
## Names of stages and sources
-/

def OpVersion.iteratorName (v : OpVersion) : String :=
  "Batch" ++ Naming.versionSuffix v.number

theorem OpVersion.iteratorName_injective {v w : OpVersion}
    (h : v.iteratorName = w.iteratorName) : v = w := by
  cases v with
  | v1 =>
      cases w with
      | v1 => rfl
      | v2 => exact absurd h (by decide)
  | v2 =>
      cases w with
      | v1 => exact absurd h (by decide)
      | v2 => rfl

theorem OpVersion.colon_not_mem_iteratorName (v : OpVersion) :
    ':' ∉ v.iteratorName.toList := by
  cases v with
  | v1 => decide
  | v2 => decide

theorem Stage.pathUnder_eq (s : Stage) (parent : String) :
    s.pathUnder parent = parent ++ "::" ++ s.version.iteratorName :=
  String.append_assoc

inductive SourceKind where
  | range
  | tensors
deriving DecidableEq, Repr

namespace SourceKind

def name : SourceKind -> String
  | range => "Range"
  | tensors => "Tensors"

theorem name_injective {k l : SourceKind} (h : k.name = l.name) : k = l := by
  cases k with
  | range =>
      cases l with
      | range => rfl
      | tensors => exact absurd h (by decide)
  | tensors =>
      cases l with
      | range => exact absurd h (by decide)
      | tensors => rfl

theorem colon_not_mem_name (k : SourceKind) : ':' ∉ k.name.toList := by
  cases k with
  | range => decide
  | tensors => decide

end SourceKind

/-!
## Keys of stages and sources
-/

def iteratorNames (versions : List OpVersion) : List String :=
  versions.map OpVersion.iteratorName

def markerBelow (parent : String) (versions : List OpVersion) : String :=
  Naming.keyBelow (iteratorNames versions) parent Naming.drainedEntry

def sourceKeyBelow (parent : String) (versions : List OpVersion) (kind : SourceKind) : String :=
  Naming.keyBelow (iteratorNames versions ++ [kind.name]) parent Naming.nextEntry

section

variable {parent : String} {versions versions' : List OpVersion}

theorem iteratorNames_injective (h : iteratorNames versions = iteratorNames versions') :
    versions = versions' :=
  List.map_injective_iff.mpr (fun _ _ => OpVersion.iteratorName_injective) h

theorem colon_not_mem_of_mem_iteratorNames
    (name : String) (h : name ∈ iteratorNames versions) : ':' ∉ name.toList := by
  rcases List.mem_map.mp h with ⟨v, _, rfl⟩
  exact v.colon_not_mem_iteratorName

theorem colon_not_mem_of_mem_sourceNames
    {kind : SourceKind} (name : String) (h : name ∈ iteratorNames versions ++ [kind.name]) :
    ':' ∉ name.toList := by
  rcases List.mem_append.mp h with h | h
  · exact colon_not_mem_of_mem_iteratorNames name h
  · rw [List.mem_singleton.mp h]
    exact kind.colon_not_mem_name

theorem markerBelow_injective
    (h : markerBelow parent versions = markerBelow parent versions') : versions = versions' := by
  apply iteratorNames_injective
  exact (Naming.keyBelow_inj colon_not_mem_of_mem_iteratorNames
    colon_not_mem_of_mem_iteratorNames (by decide) (by decide) h).1

theorem sourceKeyBelow_inj
    {kind kind' : SourceKind}
    (h : sourceKeyBelow parent versions kind = sourceKeyBelow parent versions' kind') :
    versions = versions' ∧ kind = kind' := by
  have hnames := (Naming.keyBelow_inj colon_not_mem_of_mem_sourceNames
    colon_not_mem_of_mem_sourceNames (by decide) (by decide) h).1
  rcases List.append_inj' hnames rfl with ⟨hversions, hkind⟩
  exact ⟨iteratorNames_injective hversions, SourceKind.name_injective (List.cons.inj hkind).1⟩

theorem markerBelow_ne_sourceKeyBelow (kind : SourceKind) :
    markerBelow parent versions ≠ sourceKeyBelow parent versions' kind := by
  intro h
  have hentry := (Naming.keyBelow_inj colon_not_mem_of_mem_iteratorNames
    colon_not_mem_of_mem_sourceNames (by decide) (by decide) h).2
  exact absurd hentry (by decide)

end

namespace Pipeline

def versions : Pipeline -> List OpVersion
  | range _ _ => []
  | tensors _ => []
  | counting _ input => input.versions
  | faulty _ input => input.versions
  | batch stage input => stage.version :: input.versions

def sourceKind : Pipeline -> SourceKind
  | range _ _ => .range
  | tensors _ => .tensors
  | counting _ input => input.sourceKind
  | faulty _ input => input.sourceKind
  | batch _ input => input.sourceKind

theorem sourceKey_pathUnder (p : Pipeline) (parent : String) :
    p.sourceKey (p.pathUnder parent) = sourceKeyBelow parent p.versions p.sourceKind := by
  induction p generalizing parent with
  | range start stop => exact congrArg nextKey String.append_assoc
  | tensors source => exact congrArg nextKey String.append_assoc
  | counting tally input ih => exact ih parent
  | faulty failAt input ih => exact ih parent
  | batch stage input ih =>
      show input.sourceKey (input.pathUnder (stage.pathUnder parent)) = _
      rw [ih, stage.pathUnder_eq]
      rfl

theorem markers_pathUnder (p : Pipeline) (parent : String) :
    p.markers (p.pathUnder parent) =
      (List.range p.versions.length).map fun level =>
        markerBelow parent (p.versions.take (level + 1)) := by
  induction p generalizing parent with
  | range start stop => rfl
  | tensors source => rfl
  | counting tally input ih => exact ih parent
  | faulty failAt input ih => exact ih parent
  | batch stage input ih =>
      show drainedKey (stage.pathUnder parent) ::
        input.markers (input.pathUnder (stage.pathUnder parent)) = _
      rw [ih, stage.pathUnder_eq, versions, List.length_cons, List.range_succ_eq_map,
        List.map_cons, List.map_map]
      rfl

theorem getElem?_markers_eq_some_iff
    {p : Pipeline} {parent : String} {level : Nat} {key : String} :
    (p.markers (p.pathUnder parent))[level]? = some key <->
      level < p.versions.length ∧ markerBelow parent (p.versions.take (level + 1)) = key := by
  rw [markers_pathUnder, List.getElem?_map, Option.map_eq_some_iff]
  constructor
  · rintro ⟨found, hfound, hkey⟩
    rcases List.getElem?_eq_some_iff.mp hfound with ⟨hlevel, hrange⟩
    rw [List.length_range] at hlevel
    rw [List.getElem_range] at hrange
    cases hrange
    exact ⟨hlevel, hkey⟩
  · rintro ⟨hlevel, hkey⟩
    exact ⟨level, List.getElem?_range hlevel, hkey⟩

theorem getElem?_markers_eq_markerBelow_iff
    {p : Pipeline} {parent : String} {level : Nat} {versions : List OpVersion} :
    (p.markers (p.pathUnder parent))[level]? = some (markerBelow parent versions) <->
      versions <+: p.versions ∧ versions.length = level + 1 := by
  rw [getElem?_markers_eq_some_iff]
  constructor
  · rintro ⟨hlevel, hkey⟩
    have htake := markerBelow_injective hkey
    rw [← htake, List.length_take]
    exact ⟨List.take_prefix _ _, by omega⟩
  · rintro ⟨hbegins, hlength⟩
    have hle := hbegins.length_le
    refine ⟨by omega, ?_⟩
    rw [← hlength, ← List.prefix_iff_eq_take.mp hbegins]

theorem sourceKey_not_mem_markers (p : Pipeline) (parent : String) :
    p.sourceKey (p.pathUnder parent) ∉ p.markers (p.pathUnder parent) := by
  intro hmem
  rcases List.getElem?_of_mem hmem with ⟨level, hlevel⟩
  have hkey := (getElem?_markers_eq_some_iff.mp hlevel).2
  rw [sourceKey_pathUnder] at hkey
  exact markerBelow_ne_sourceKeyBelow _ hkey

/-- All keys that the iterators of a pipeline write are different. -/
theorem keys_nodup (p : Pipeline) (parent : String) :
    (p.markers (p.pathUnder parent) ++ [p.sourceKey (p.pathUnder parent)]).Nodup := by
  rw [List.nodup_append]
  refine ⟨?_, List.nodup_singleton _, ?_⟩
  · rw [List.nodup_iff_getElem?_ne_getElem?]
    intro level level' hlt hlength heq
    have hmarker := List.getElem?_eq_getElem hlength
    rcases getElem?_markers_eq_some_iff.mp hmarker with ⟨hin, hkey⟩
    rw [hmarker] at heq
    rcases getElem?_markers_eq_some_iff.mp heq with ⟨_, hkey'⟩
    have htakes := congrArg List.length (markerBelow_injective (hkey.trans hkey'.symm))
    rw [List.length_take, List.length_take] at htakes
    omega
  · intro key hkey key' hkey' heq
    rw [heq, List.mem_singleton.mp hkey'] at hkey
    exact p.sourceKey_not_mem_markers parent hkey

end Pipeline

end TensorPipeline
