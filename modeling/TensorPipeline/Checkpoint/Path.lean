import TensorPipeline.Table

/-!
# Paths

A path is a text in which slashes separate names.  Empty names and single dots
stay where they are, two dots lead to the directory above, and every other name
leads to what stands under it.

A path can only be followed if it is not too long and holds no NUL, and only a
name that is not too long can be given to anything.
-/

namespace TensorPipeline
namespace Path

def splitAtSlashes : List Char -> List (List Char)
  | [] => [[]]
  | c :: rest =>
      if c = '/' then [] :: splitAtSlashes rest
      else
        match splitAtSlashes rest with
        | [] => [[c]]
        | piece :: pieces => (c :: piece) :: pieces

def names (path : String) : List String :=
  (splitAtSlashes path.toList).map String.ofList

def staysPut (name : String) : Bool := name == "" || name == "."

def climbs (name : String) : Bool := name == ".."

/-- The names along a path without those that stay where they are. -/
def steps (path : String) : List String := (names path).filter fun name => !staysPut name

def lastStep (path : String) : String := (steps path).getLastD ""

def dropClosingSlashes (names : List String) : List String :=
  (names.reverse.dropWhile fun name => name == "").reverse

def maxBytes : Nat := 4095

def maxNameBytes : Nat := 255

def usable (path : String) : Bool :=
  (utf8 path).length ≤ maxBytes && !(utf8 path).contains 0

def nameable (name : String) : Bool := (utf8 name).length ≤ maxNameBytes

/-- A path with more names after it.  No second slash is put after one at its
end and none after the empty path, and what starts with a slash is a path by
itself. -/
def join (directory more : String) : String :=
  if more.toList.head? = some '/' then more
  else if directory = "" ∨ directory.toList.getLast? = some '/' then directory ++ more
  else directory ++ "/" ++ more

end Path
end TensorPipeline
