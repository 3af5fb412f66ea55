import TensorPipeline.Checkpoint.Path

/-!
# Files and directories

A volume is a tree of files and directories below one root directory.  A path
that is not empty is followed from the root one name at a time, and every name,
even one that stays where it is, can only be followed from a directory.

Directories along a path are made one after another from the root, and those
made before one that cannot be made remain.
-/

namespace TensorPipeline

inductive FileNode where
  | file (bytes : List UInt8)
  | directory (entries : List (String × FileNode))

namespace FileNode

def child? : FileNode -> String -> Option FileNode
  | file _, _ => none
  | directory entries, name => entries.lookup name

def setChild (name : String) (child : Option FileNode) : FileNode -> FileNode
  | file bytes => file bytes
  | directory entries =>
      directory
        (entries.filter (fun entry => entry.1 ≠ name) ++
          (child.map fun node => (name, node)).toList)

/-- The tree with `f` applied to what stands at the end of a row of names; it
stays as it is if nothing stands there. -/
def updateAt (f : FileNode -> FileNode) : List String -> FileNode -> FileNode
  | [], node => f node
  | name :: rest, node =>
      match node.child? name with
      | none => node
      | some child => node.setChild name (some (updateAt f rest child))

end FileNode

structure Volume where
  root : FileNode

/-- Where following a path has come to: the names from the root with what
stands under each, the last one first. -/
abbrev Trail := List (String × FileNode)

namespace Volume

def empty : Volume := ⟨.directory []⟩

def here (v : Volume) : Trail -> FileNode
  | [] => v.root
  | (_, node) :: _ => node

def follow (v : Volume) : Trail -> List String -> Option Trail
  | trail, [] => some trail
  | trail, name :: rest =>
      match v.here trail with
      | .file _ => none
      | .directory entries =>
          if Path.staysPut name then v.follow trail rest
          else if Path.climbs name then v.follow trail.tail rest
          else
            match entries.lookup name with
            | none => none
            | some node => v.follow ((name, node) :: trail) rest

/-- Where a path leads, if it can be followed and something stands there.  The
empty path leads nowhere. -/
def locate (v : Volume) (path : String) : Option Trail :=
  if path ≠ "" ∧ Path.usable path = true then v.follow [] (Path.names path) else none

def at? (v : Volume) (path : String) : Option FileNode := (v.locate path).map v.here

def children? (v : Volume) (path : String) : Option (List String) :=
  match v.at? path with
  | some (.directory entries) =>
      some ((entries.map Prod.fst).mergeSort fun a b => !decide (utf8Lt b a))
  | _ => none

def setChild (v : Volume) (trail : Trail) (name : String) (child : Option FileNode) : Volume :=
  ⟨v.root.updateAt (FileNode.setChild name child) (trail.map Prod.fst).reverse⟩

def holder? (v : Volume) (names : List String) : Option (Trail × String) := do
  let name <- names.getLast?
  if Path.staysPut name || Path.climbs name then none
  else
    let trail <- v.follow [] names.dropLast
    match v.here trail with
    | .file _ => none
    | .directory _ => return (trail, name)

/-- The directory that holds the end of a path, and the name that it has there,
whether or not anything stands under it. -/
def spot? (v : Volume) (path : String) : Option (Trail × String) :=
  if Path.usable path then v.holder? (Path.names path) else none

def writeFile (v : Volume) (path : String) (bytes : List UInt8) : Option Volume := do
  let (trail, name) <- v.spot? path
  match (v.here trail).child? name with
  | some (.directory _) => none
  | _ => if Path.nameable name then return v.setChild trail name (some (.file bytes)) else none

def removeFile (v : Volume) (path : String) : Volume :=
  match v.spot? path with
  | none => v
  | some (trail, name) =>
      match (v.here trail).child? name with
      | some (.file _) => v.setChild trail name none
      | _ => v

def removeAll (v : Volume) (path : String) : Volume :=
  match v.holder? (Path.dropClosingSlashes (Path.names path)) with
  | none => v
  | some (trail, name) => v.setChild trail name none

/-- A directory at the end of a row of names, if there is not one already.
Slashes may follow its name. -/
def makeDirectory (v : Volume) (names : List String) : Option Volume :=
  match (Path.dropClosingSlashes names).getLast? with
  | none => some v
  | some name =>
      match v.follow [] (Path.dropClosingSlashes names).dropLast with
      | none => none
      | some trail =>
          match v.here trail with
          | .file _ => none
          | .directory entries =>
              if Path.staysPut name || Path.climbs name then some v
              else
                match entries.lookup name with
                | some (.directory _) => some v
                | some (.file _) => none
                | none =>
                    if Path.nameable name then
                      some (v.setChild trail name (some (.directory [])))
                    else none

def makeEach (v : Volume) : List (List String) -> Bool × Volume
  | [] => (true, v)
  | names :: rest =>
      match v.makeDirectory names with
      | none => (false, v)
      | some v => v.makeEach rest

/-- Makes the directories along a path, and tells whether all are there.  Names
that stay where they are do not count, except after the last step of the path:
there they need the directory before them. -/
def makePath (v : Volume) (path : String) : Bool × Volume :=
  if Path.usable path then
    let steps := Path.steps path
    v.makeEach ((List.range steps.length).map steps.take ++ [Path.names path])
  else (false, v)

end Volume

end TensorPipeline
