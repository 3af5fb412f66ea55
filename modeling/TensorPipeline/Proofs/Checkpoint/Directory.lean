import TensorPipeline.Checkpoint.Volume

/-!
# Files in one directory

Writing and removing files below a directory changes what that directory holds
and nothing else.  In particular no directory goes away, so every path that led
to a directory still does, and the one that the files are in can be found again
under the same path.
-/

namespace TensorPipeline

/-!
## Trees
-/

namespace FileNode

def at? : FileNode -> List String -> Option FileNode
  | node, [] => some node
  | node, name :: row => (node.child? name).bind fun child => child.at? row

theorem at?_append_singleton (node : FileNode) (row : List String) (name : String) :
    node.at? (row ++ [name]) = (node.at? row).bind fun found => found.child? name := by
  induction row generalizing node with
  | nil =>
      show (node.child? name).bind (fun child => child.at? []) = node.child? name
      cases node.child? name with
      | none => rfl
      | some child => rfl
  | cons first row ih =>
      rw [List.cons_append, at?, at?]
      cases node.child? first with
      | none => rfl
      | some child => exact ih child

theorem lookup_filter
    {α : Type} (keep : String -> Bool) (name : String) (entries : List (String × α)) :
    (entries.filter fun entry => keep entry.1).lookup name =
      if keep name then entries.lookup name else none := by
  induction entries with
  | nil =>
      split
      · rfl
      · rfl
  | cons entry entries ih =>
      rcases entry with ⟨key, value⟩
      rw [List.filter_cons, List.lookup_cons]
      by_cases hname : name = key
      · subst hname
        cases hkeep : keep name with
        | true => rw [if_pos rfl, if_pos rfl, List.lookup_cons, beq_self_eq_true]
        | false =>
            rw [hkeep] at ih
            exact ih
      · rw [beq_false_of_ne hname, ← ih]
        cases keep key with
        | true => rw [if_pos rfl, List.lookup_cons, beq_false_of_ne hname]
        | false => rfl

theorem child?_setChild_self
    (entries : List (String × FileNode)) (name : String) (child : Option FileNode) :
    ((directory entries).setChild name child).child? name = child := by
  show List.lookup name _ = child
  rw [List.lookup_append, lookup_filter (fun key => key ≠ name), if_neg (by simp)]
  cases child with
  | none => rfl
  | some node =>
      show List.lookup name [(name, node)] = some node
      rw [List.lookup_cons, beq_self_eq_true]

theorem child?_setChild_of_ne
    {name other : String} (hne : other ≠ name) (node : FileNode) (child : Option FileNode) :
    (node.setChild name child).child? other = node.child? other := by
  cases node with
  | file bytes => rfl
  | directory entries =>
      show List.lookup other _ = entries.lookup other
      rw [List.lookup_append, lookup_filter (fun key => key ≠ name), if_pos (by simp [hne])]
      have hnone : List.lookup other (child.map fun node => (name, node)).toList = none := by
        cases child with
        | none => rfl
        | some node =>
            show List.lookup other [(name, node)] = none
            rw [List.lookup_cons, beq_false_of_ne hne]
            rfl
      rw [hnone, Option.or_none]

theorem child?_eq_some
    {node child : FileNode} {name : String} (h : node.child? name = some child) :
    exists entries : List (String × FileNode),
      node = directory entries ∧ entries.lookup name = some child := by
  cases node with
  | file bytes => cases h
  | directory entries => exact ⟨entries, rfl, h⟩

theorem at?_updateAt
    {f : FileNode -> FileNode} {row : List String} {node found : FileNode}
    (h : node.at? row = some found) : (node.updateAt f row).at? row = some (f found) := by
  induction row generalizing node with
  | nil =>
      cases h
      rfl
  | cons name row ih =>
      rcases Option.bind_eq_some_iff.mp h with ⟨child, hchild, hfound⟩
      rcases child?_eq_some hchild with ⟨entries, rfl, hlookup⟩
      rw [updateAt, hchild]
      simp only
      rw [at?, child?_setChild_self]
      exact ih hfound

/-- Wherever the one tree has a directory, the other has one too. -/
def KeepsDirectories (a b : FileNode) : Prop :=
  forall (row : List String) (entries : List (String × FileNode)),
    a.at? row = some (directory entries) ->
    exists entries' : List (String × FileNode), b.at? row = some (directory entries')

theorem KeepsDirectories.refl (node : FileNode) : node.KeepsDirectories node := by
  intro row entries h
  exact ⟨entries, h⟩

theorem keepsDirectories_setChild
    {node : FileNode} {name : String} {child : Option FileNode}
    (h : forall old : FileNode, node.child? name = some old ->
      (exists new : FileNode, child = some new ∧ old.KeepsDirectories new) ∨
        exists bytes : List UInt8, old = file bytes) :
    node.KeepsDirectories (node.setChild name child) := by
  intro row entries hrow
  cases node with
  | file bytes => exact ⟨entries, hrow⟩
  | directory here =>
      cases row with
      | nil => exact ⟨_, rfl⟩
      | cons first row =>
          rw [at?] at hrow ⊢
          by_cases hfirst : first = name
          · subst hfirst
            rcases Option.bind_eq_some_iff.mp hrow with ⟨old, hold, hbelow⟩
            rw [child?_setChild_self]
            rcases h old hold with ⟨new, rfl, hkeeps⟩ | ⟨bytes, rfl⟩
            · exact hkeeps row entries hbelow
            · -- below a file there is no directory
              cases row with
              | nil => cases hbelow
              | cons second row => cases hbelow
          · rw [child?_setChild_of_ne hfirst]
            exact ⟨entries, hrow⟩

theorem keepsDirectories_updateAt
    {f : FileNode -> FileNode} {row : List String} {node : FileNode}
    (h : forall found : FileNode, node.at? row = some found ->
      found.KeepsDirectories (f found)) :
    node.KeepsDirectories (node.updateAt f row) := by
  induction row generalizing node with
  | nil => exact h node rfl
  | cons name row ih =>
      rw [updateAt]
      cases hchild : node.child? name with
      | none => exact KeepsDirectories.refl node
      | some child =>
          have hbelow : child.KeepsDirectories (child.updateAt f row) := by
            apply ih
            intro found hfound
            apply h
            rw [at?, hchild]
            exact hfound
          apply keepsDirectories_setChild
          intro old hold
          rw [hchild] at hold
          cases hold
          exact Or.inl ⟨_, rfl, hbelow⟩

end FileNode

/-!
## Trails
-/

namespace Volume

/-- Each name of a trail is that of what stands above it. -/
inductive Located (v : Volume) : Trail -> Prop where
  | root : Located v []
  | under {trail : Trail} {entries : List (String × FileNode)} {name : String}
      {node : FileNode} :
      Located v trail -> v.here trail = .directory entries ->
      entries.lookup name = some node -> Located v ((name, node) :: trail)

def row (trail : Trail) : List String := (trail.map Prod.fst).reverse

theorem row_cons (entry : String × FileNode) (trail : Trail) :
    row (entry :: trail) = row trail ++ [entry.1] := by
  rw [row, List.map_cons, List.reverse_cons]
  rfl

section

variable {v : Volume} {trail trail' : Trail}

theorem Located.at?_row (h : Located v trail) : v.root.at? (row trail) = some (v.here trail) := by
  induction h with
  | root => rfl
  | under _ hhere hlookup ih =>
      rw [row_cons, FileNode.at?_append_singleton, ih, hhere]
      exact hlookup

theorem Located.tail (h : Located v trail) : Located v trail.tail := by
  cases h with
  | root => exact Located.root
  | under habove _ _ => exact habove

theorem Located.follow
    (h : Located v trail) {names : List String} (hfollow : v.follow trail names = some trail') :
    Located v trail' := by
  induction names generalizing trail with
  | nil =>
      cases hfollow
      exact h
  | cons name names ih =>
      rw [Volume.follow] at hfollow
      cases hhere : v.here trail with
      | file bytes =>
          rw [hhere] at hfollow
          cases hfollow
      | directory entries =>
          simp only [hhere] at hfollow
          split at hfollow
          · exact ih h hfollow
          · split at hfollow
            · exact ih h.tail hfollow
            · split at hfollow
              · cases hfollow
              · next node hlookup => exact ih (Located.under h hhere hlookup) hfollow

theorem follow_of_keepsDirectories
    {w : Volume} (hkeeps : v.root.KeepsDirectories w.root) {other : Trail}
    (hv : Located v trail) (hw : Located w other) (hrow : row trail = row other)
    {names : List String} (hfollow : v.follow trail names = some trail')
    {entries : List (String × FileNode)} (hhere : v.here trail' = .directory entries) :
    exists other' : Trail, w.follow other names = some other' ∧ row other' = row trail' := by
  induction names generalizing trail other with
  | nil =>
      cases hfollow
      exact ⟨other, rfl, hrow.symm⟩
  | cons name names ih =>
      rw [Volume.follow] at hfollow
      cases hstart : v.here trail with
      | file bytes =>
          rw [hstart] at hfollow
          cases hfollow
      | directory inside =>
          have hinside := hv.at?_row
          rw [hstart] at hinside
          rcases hkeeps _ _ hinside with ⟨inside', hinside'⟩
          have hother : w.here other = .directory inside' := by
            have hhere' := hw.at?_row
            rw [← hrow, hinside'] at hhere'
            exact (Option.some.inj hhere').symm
          rw [Volume.follow, hother]
          simp only [hstart] at hfollow
          simp only
          split at hfollow
          · next hstays =>
              rw [if_pos hstays]
              exact ih hv hw hrow hfollow
          · next hstays =>
              rw [if_neg hstays]
              split at hfollow
              · next hclimbs =>
                  rw [if_pos hclimbs]
                  refine ih hv.tail hw.tail ?_ hfollow
                  have hnames : trail.map Prod.fst = other.map Prod.fst :=
                    List.reverse_inj.mp hrow
                  rw [row, row, List.map_tail, List.map_tail, hnames]
              · next hclimbs =>
                  rw [if_neg hclimbs]
                  split at hfollow
                  · cases hfollow
                  · next node hlookup =>
                      have hbelow := Located.under hv hstart hlookup
                      cases node with
                      | file bytes =>
                          -- a file can only be the end, and the end is a directory
                          cases names with
                          | nil =>
                              cases hfollow
                              cases hhere
                          | cons next names => cases hfollow
                      | directory deeper =>
                          rcases hkeeps _ _ hbelow.at?_row with ⟨deeper', hdeeper'⟩
                          rw [row_cons, hrow, FileNode.at?_append_singleton, hw.at?_row,
                            hother] at hdeeper'
                          have hlookup' : inside'.lookup name = some (.directory deeper') :=
                            hdeeper'
                          rw [hlookup']
                          refine ih hbelow (Located.under hw hother hlookup') ?_ hfollow
                          rw [row_cons, row_cons, hrow]

end

theorem locate_eq_some_iff {v : Volume} {path : String} {trail : Trail} :
    v.locate path = some trail <->
      (path ≠ "" ∧ Path.usable path = true) ∧ v.follow [] (Path.names path) = some trail := by
  rw [locate, Option.ite_none_right_eq_some]

theorem at?_setChild
    {v : Volume} {path : String} {trail : Trail} {entries : List (String × FileNode)}
    (hlocate : v.locate path = some trail) (hhere : v.here trail = .directory entries)
    {name : String} (hold : forall old : FileNode, entries.lookup name = some old ->
      exists bytes : List UInt8, old = .file bytes)
    (child : Option FileNode) :
    (v.setChild trail name child).at? path =
      some ((FileNode.directory entries).setChild name child) := by
  rcases locate_eq_some_iff.mp hlocate with ⟨hpath, hfollow⟩
  have hrow := (Located.root.follow hfollow).at?_row
  rw [hhere] at hrow
  have hkeeps : v.root.KeepsDirectories (v.setChild trail name child).root := by
    apply FileNode.keepsDirectories_updateAt
    intro found hfound
    have hrow' : v.root.at? (row trail) = some found := hfound
    rw [hrow] at hrow'
    cases hrow'
    exact FileNode.keepsDirectories_setChild fun old hlookup => Or.inr (hold old hlookup)
  rcases follow_of_keepsDirectories hkeeps Located.root Located.root rfl hfollow hhere with
    ⟨trail', hfollow', hrow'⟩
  have hend := (Located.root.follow hfollow').at?_row
  rw [hrow', setChild] at hend
  rw [at?, locate, if_pos hpath, hfollow']
  exact hend.symm.trans (FileNode.at?_updateAt hrow)

end Volume

/-!
## Paths of files in a directory
-/

namespace Path

theorem splitAtSlashes_ne_nil (cs : List Char) : splitAtSlashes cs ≠ [] := by
  cases cs with
  | nil => exact List.cons_ne_nil _ _
  | cons c cs =>
      unfold splitAtSlashes
      split
      · exact List.cons_ne_nil _ _
      · split
        · exact List.cons_ne_nil _ _
        · exact List.cons_ne_nil _ _

theorem splitAtSlashes_of_not_mem {cs : List Char} (h : '/' ∉ cs) : splitAtSlashes cs = [cs] := by
  induction cs with
  | nil => rfl
  | cons c cs ih =>
      rcases List.ne_and_not_mem_of_not_mem_cons h with ⟨hc, hcs⟩
      rw [splitAtSlashes, if_neg fun heq => hc heq.symm, ih hcs]

theorem splitAtSlashes_append (front back : List Char) :
    splitAtSlashes (front ++ '/' :: back) = splitAtSlashes front ++ splitAtSlashes back := by
  induction front with
  | nil =>
      rw [List.nil_append]
      rfl
  | cons c front ih =>
      rw [List.cons_append, splitAtSlashes, splitAtSlashes, ih]
      by_cases hc : c = '/'
      · rw [if_pos hc, if_pos hc]
        rfl
      · rw [if_neg hc, if_neg hc]
        cases hfront : splitAtSlashes front with
        | nil => exact absurd hfront (splitAtSlashes_ne_nil front)
        | cons piece pieces => rfl

structure Plain (name : String) : Prop where
  slash_not_mem : '/' ∉ name.toList
  staysPut_eq : staysPut name = false
  climbs_eq : climbs name = false

theorem Plain.ne_empty {name : String} (h : Plain name) : name ≠ "" := by
  rintro rfl
  cases h.staysPut_eq

/-- The names along a joined path are those along the directory and the one
more; a slash that closes the directory's path leaves no name between them. -/
theorem names_join
    {directory : String} (hdirectory : directory ≠ "") {name : String} (h : Plain name) :
    exists before closing : List String,
      names directory = before ++ closing ∧ names (join directory name) = before ++ [name] ∧
        (closing = [] ∨ closing = [""]) := by
  have hname : splitAtSlashes name.toList = [name.toList] :=
    splitAtSlashes_of_not_mem h.slash_not_mem
  have hhead : name.toList.head? ≠ some '/' := by
    intro hhead
    exact h.slash_not_mem (List.mem_of_mem_head? hhead)
  unfold join
  rw [if_neg hhead]
  split
  · next hclosed =>
      rcases List.getLast?_eq_some_iff.mp (hclosed.resolve_left hdirectory) with ⟨front, hfront⟩
      refine ⟨(splitAtSlashes front).map String.ofList, [""], ?_, ?_, Or.inr rfl⟩
      · rw [names, hfront, splitAtSlashes_append, List.map_append]
        rfl
      · rw [names, String.toList_append, hfront, List.append_assoc, List.singleton_append,
          splitAtSlashes_append, hname, List.map_append, List.map_singleton, String.ofList_toList]
  · refine ⟨names directory, [], (List.append_nil _).symm, ?_, Or.inl rfl⟩
    rw [names, String.toList_append, String.toList_append, List.append_assoc]
    rw [show "/".toList ++ name.toList = '/' :: name.toList from rfl, splitAtSlashes_append,
      hname, List.map_append, List.map_singleton, String.ofList_toList]
    rfl

theorem join_ne_empty (directory : String) {name : String} (h : name ≠ "") :
    join directory name ≠ "" := by
  unfold join
  split
  · exact h
  · split
    · exact fun heq => h (String.append_eq_empty_iff.mp heq).2
    · exact fun heq => h (String.append_eq_empty_iff.mp heq).2

end Path

namespace Volume

theorem follow_append (v : Volume) (trail : Trail) (front back : List String) :
    v.follow trail (front ++ back) =
      (v.follow trail front).bind fun trail' => v.follow trail' back := by
  induction front generalizing trail with
  | nil => rfl
  | cons name front ih =>
      rw [List.cons_append, follow, follow]
      cases v.here trail with
      | file bytes => rfl
      | directory entries =>
          simp only
          split
          · exact ih trail
          · split
            · exact ih trail.tail
            · cases entries.lookup name with
              | none => rfl
              | some node => exact ih ((name, node) :: trail)

section

variable {v : Volume} {directory name : String} {trail : Trail}
  {entries : List (String × FileNode)}

theorem follow_closing
    {closing : List String} (hclosing : closing = [] ∨ closing = [""]) {before : Trail}
    (h : v.follow before closing = some trail) : before = trail := by
  rcases hclosing with rfl | rfl
  · exact Option.some.inj h
  · rw [follow] at h
    split at h
    · cases h
    · exact Option.some.inj h

theorem follow_join
    (hlocate : v.locate directory = some trail) (hname : Path.Plain name) :
    exists before : List String,
      Path.names (Path.join directory name) = before ++ [name] ∧
        v.follow [] before = some trail := by
  rcases locate_eq_some_iff.mp hlocate with ⟨⟨hdirectory, _⟩, hfollow⟩
  rcases Path.names_join hdirectory hname with ⟨before, closing, hnames, hjoin, hclosing⟩
  refine ⟨before, hjoin, ?_⟩
  rw [hnames, follow_append] at hfollow
  rcases Option.bind_eq_some_iff.mp hfollow with ⟨trail', hbefore, hclose⟩
  rw [hbefore, follow_closing hclosing hclose]

theorem spot?_join
    (hlocate : v.locate directory = some trail) (hhere : v.here trail = .directory entries)
    (hname : Path.Plain name) (husable : Path.usable (Path.join directory name) = true) :
    v.spot? (Path.join directory name) = some (trail, name) := by
  rcases follow_join hlocate hname with ⟨before, hnames, hfollow⟩
  rw [spot?, if_pos husable, hnames, holder?, List.getLast?_concat, List.dropLast_concat]
  show (if Path.staysPut name || Path.climbs name then none
    else (v.follow [] before).bind _) = _
  rw [hname.staysPut_eq, hname.climbs_eq, hfollow]
  simp only [Bool.or_self, Bool.false_eq_true, if_false, Option.bind_some, hhere]
  rfl

theorem at?_join
    (hlocate : v.locate directory = some trail) (hhere : v.here trail = .directory entries)
    (hname : Path.Plain name) (husable : Path.usable (Path.join directory name) = true) :
    v.at? (Path.join directory name) = entries.lookup name := by
  rcases follow_join hlocate hname with ⟨before, hnames, hfollow⟩
  have hpath := Path.join_ne_empty directory hname.ne_empty
  rw [at?, locate, if_pos ⟨hpath, husable⟩, hnames, follow_append, hfollow]
  show (v.follow trail [name]).map v.here = _
  rw [follow, hhere]
  simp only [hname.staysPut_eq, hname.climbs_eq, Bool.false_eq_true, if_false]
  cases entries.lookup name with
  | none => rfl
  | some node => rfl

end

/-!
## Directories of files
-/

/-- At the end of the path stands a directory with just these files, under names
of which none is there twice. -/
structure HoldsFiles (v : Volume) (path : String) (files : List (String × List UInt8)) :
    Prop where
  at?_eq : v.at? path =
    some (.directory (files.map fun file => (file.1, .file file.2)))
  nodup : (files.map Prod.fst).Nodup

def withoutFile (name : String) (files : List (String × List UInt8)) :
    List (String × List UInt8) :=
  files.filter fun file => file.1 ≠ name

theorem lookup_map_file (name : String) (files : List (String × List UInt8)) :
    (files.map fun file => (file.1, FileNode.file file.2)).lookup name =
      (files.lookup name).map FileNode.file := by
  induction files with
  | nil => rfl
  | cons file files ih =>
      rw [List.map_cons, List.lookup_cons, List.lookup_cons, ih]
      cases name == file.1 with
      | true => rfl
      | false => rfl

def withFile (name : String) (bytes : List UInt8) (files : List (String × List UInt8)) :
    List (String × List UInt8) :=
  withoutFile name files ++ [(name, bytes)]

theorem lookup_withFile
    (name : String) (bytes : List UInt8) (files : List (String × List UInt8)) (other : String) :
    (withFile name bytes files).lookup other =
      if other = name then some bytes else files.lookup other := by
  rw [withFile, List.lookup_append, withoutFile, FileNode.lookup_filter (fun key => key ≠ name)]
  by_cases hother : other = name
  · rw [if_pos hother, if_neg (by simp [hother]), List.lookup_cons, beq_iff_eq.mpr hother]
    rfl
  · rw [if_neg hother, if_pos (by simp [hother]), List.lookup_cons, beq_false_of_ne hother]
    exact Option.or_none

theorem mem_withFile
    {name : String} {bytes : List UInt8} {files : List (String × List UInt8)} {other : String} :
    other ∈ (withFile name bytes files).map Prod.fst <->
      other = name ∨ other ∈ files.map Prod.fst := by
  rw [withFile, withoutFile, List.map_append, List.mem_append, List.map_singleton,
    List.mem_singleton]
  constructor
  · rintro (hother | hother)
    · exact Or.inr ((List.Sublist.map Prod.fst List.filter_sublist).subset hother)
    · exact Or.inl hother
  · intro hother
    by_cases hname : other = name
    · exact Or.inr hname
    · rcases List.mem_map.mp (hother.resolve_left hname) with ⟨file, hfile, rfl⟩
      exact Or.inl
        (List.mem_map.mpr ⟨file, List.mem_filter.mpr ⟨hfile, decide_eq_true hname⟩, rfl⟩)

theorem nodup_withoutFile
    {files : List (String × List UInt8)} (h : (files.map Prod.fst).Nodup) (name : String) :
    ((withoutFile name files).map Prod.fst).Nodup :=
  List.Sublist.nodup (List.Sublist.map Prod.fst List.filter_sublist) h

section

variable {v : Volume} {directory name : String} {files : List (String × List UInt8)}
  (h : v.HoldsFiles directory files)

include h

theorem HoldsFiles.children?_eq :
    v.children? directory =
      some ((files.map Prod.fst).mergeSort fun a b => !decide (utf8Lt b a)) := by
  have hnames : (files.map fun file => (file.1, FileNode.file file.2)).map Prod.fst =
      files.map Prod.fst := by
    rw [List.map_map]
    rfl
  rw [children?, h.at?_eq]
  simp only [hnames]

theorem HoldsFiles.locate :
    exists trail : Trail,
      v.locate directory = some trail ∧
        v.here trail = .directory (files.map fun file => (file.1, .file file.2)) :=
  Option.map_eq_some_iff.mp h.at?_eq

theorem HoldsFiles.at?_join
    (hname : Path.Plain name) (husable : Path.usable (Path.join directory name) = true) :
    v.at? (Path.join directory name) = (files.lookup name).map FileNode.file := by
  rcases h.locate with ⟨trail, hlocate, hhere⟩
  rw [Volume.at?_join hlocate hhere hname husable, lookup_map_file]

theorem HoldsFiles.setChild
    {trail : Trail} (hlocate : v.locate directory = some trail)
    (hhere : v.here trail = .directory (files.map fun file => (file.1, .file file.2)))
    (name : String) (bytes : Option (List UInt8)) :
    (v.setChild trail name (bytes.map FileNode.file)).HoldsFiles directory
      (withoutFile name files ++ (bytes.map fun content => (name, content)).toList) := by
  constructor
  · rw [at?_setChild hlocate hhere]
    · rw [FileNode.setChild, List.filter_map, List.map_append, withoutFile]
      cases bytes with
      | none => rfl
      | some content => rfl
    · intro old hlookup
      rw [lookup_map_file] at hlookup
      rcases Option.map_eq_some_iff.mp hlookup with ⟨content, _, rfl⟩
      exact ⟨content, rfl⟩
  · rw [List.map_append]
    cases bytes with
    | none =>
        rw [show (Option.map (fun content : List UInt8 => (name, content)) none).toList = []
          from rfl, List.map_nil, List.append_nil]
        exact nodup_withoutFile h.nodup name
    | some content =>
        have hone : [name].Nodup := List.nodup_cons.mpr ⟨List.not_mem_nil, List.nodup_nil⟩
        refine List.nodup_append.mpr ⟨nodup_withoutFile h.nodup name, hone, ?_⟩
        intro a ha b hb heq
        rcases List.mem_map.mp ha with ⟨file, hfile, rfl⟩
        have hne := of_decide_eq_true (List.mem_filter.mp hfile).2
        rw [List.mem_singleton.mp hb] at heq
        exact hne heq

theorem HoldsFiles.writeFile
    (hname : Path.Plain name) (husable : Path.usable (Path.join directory name) = true)
    (hshort : Path.nameable name = true) (bytes : List UInt8) :
    exists w : Volume,
      v.writeFile (Path.join directory name) bytes = some w ∧
        w.HoldsFiles directory (withFile name bytes files) := by
  rcases h.locate with ⟨trail, hlocate, hhere⟩
  refine ⟨v.setChild trail name (some (.file bytes)), ?_,
    h.setChild hlocate hhere name (some bytes)⟩
  rw [Volume.writeFile, spot?_join hlocate hhere hname husable]
  simp only [Option.bind_eq_bind, Option.bind_some, hhere, FileNode.child?, lookup_map_file]
  cases files.lookup name with
  | none => exact if_pos hshort
  | some content => exact if_pos hshort

theorem HoldsFiles.removeFile
    (hname : Path.Plain name) (husable : Path.usable (Path.join directory name) = true) :
    (v.removeFile (Path.join directory name)).HoldsFiles directory (withoutFile name files) := by
  rcases h.locate with ⟨trail, hlocate, hhere⟩
  have hset := h.setChild hlocate hhere name none
  rw [show (Option.map (fun content : List UInt8 => (name, content)) none).toList = []
    from rfl, List.append_nil] at hset
  rw [Volume.removeFile, spot?_join hlocate hhere hname husable]
  simp only [hhere, FileNode.child?, lookup_map_file]
  cases hlookup : files.lookup name with
  | some content => exact hset
  | none =>
      have hall : withoutFile name files = files := by
        rw [withoutFile, List.filter_eq_self]
        intro file hfile
        have hne := List.lookup_eq_none_iff.mp hlookup file hfile
        exact decide_eq_true fun heq => bne_iff_ne.mp hne heq.symm
      rw [hall]
      exact h

end

end Volume

end TensorPipeline
