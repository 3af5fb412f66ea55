/-!
# JSON values

The tree that a JSON text stands for.  Members of an object keep their order
and may repeat a name; what a repetition means is up to whoever reads the
object.  Two things that the syntax admits have no exact value here: a number
that is not written as an integer, and a text with half of a surrogate pair.
Both are kept as such, since a reader may skip over them.
-/

namespace TensorPipeline

inductive Json where
  | null
  | bool (value : Bool)
  | int (value : Int)
  | fraction
  | text (value : Option String)
  | array (items : List Json)
  | object (members : List (Option String × Json))
deriving Inhabited

namespace Json

def isSpace (c : Char) : Bool :=
  c == ' ' || c == '\n' || c == '\t' || c == '\r'

def ofString (s : String) : Json := text (some s)

def ofMembers (members : List (String × Json)) : Json :=
  object (members.map fun member => (some member.1, member.2))

end Json

end TensorPipeline
