import TensorPipeline.Json.Basic

/-!
# Writing JSON

Two written forms of a value: the compact one without any space, and one for
people, with each item on a line of its own, indented by two spaces for every
level.  They differ in the space between the parts of collections alone.  In texts
only quotes, backslashes and control characters are escaped.
-/

namespace TensorPipeline
namespace Json

def hexDigit (n : Nat) : Char := Nat.digitChar n

def escapeChar (c : Char) : List Char :=
  if c = '"' then ['\\', '"']
  else if c = '\\' then ['\\', '\\']
  else if c = '\x08' then ['\\', 'b']
  else if c = '\x0c' then ['\\', 'f']
  else if c = '\n' then ['\\', 'n']
  else if c = '\r' then ['\\', 'r']
  else if c = '\t' then ['\\', 't']
  else if c.toNat < 32 then
    ['\\', 'u', '0', '0', hexDigit (c.toNat / 16), hexDigit (c.toNat % 16)]
  else [c]

def writeText (s : String) : List Char :=
  '"' :: (s.toList.flatMap escapeChar ++ ['"'])

def writeInt : Int -> List Char
  | .ofNat n => Nat.toDigits 10 n
  | .negSucc n => '-' :: Nat.toDigits 10 (n + 1)

/-- A value that is not a collection.  Values without an exact form are written
as nothing. -/
def writeScalar : Json -> List Char
  | null => ['n', 'u', 'l', 'l']
  | bool true => ['t', 'r', 'u', 'e']
  | bool false => ['f', 'a', 'l', 's', 'e']
  | int n => writeInt n
  | text (some s) => writeText s
  | _ => []

def writeName (name : Option String) : List Char :=
  writeText (name.getD "") ++ [':']

/-- Where a written form puts space: in front of every item and of the end of a
collection, at their level of indentation, and behind the name of a member. -/
structure Layout where
  gap : Nat -> List Char
  gap_isSpace : forall (level : Nat) (c : Char), c ∈ gap level -> isSpace c = true
  afterName : List Char
  afterName_isSpace : forall c : Char, c ∈ afterName -> isSpace c = true

def Layout.compact : Layout where
  gap _ := []
  gap_isSpace _ _ h := nomatch h
  afterName := []
  afterName_isSpace _ h := nomatch h

def newLine (level : Nat) : List Char := '\n' :: List.replicate (2 * level) ' '

theorem isSpace_of_mem_newLine {level : Nat} {c : Char} (h : c ∈ newLine level) :
    isSpace c = true := by
  rcases List.mem_cons.mp h with rfl | h
  · rfl
  · rw [List.eq_of_mem_replicate h]
    rfl

def Layout.pretty : Layout where
  gap := newLine
  gap_isSpace _ _ h := isSpace_of_mem_newLine h
  afterName := [' ']
  afterName_isSpace c h := by
    rw [List.mem_singleton.mp h]
    rfl

mutual

def write (l : Layout) (level : Nat) : Json -> List Char
  | array [] => ['[', ']']
  | array (item :: rest) =>
      '[' :: (l.gap (level + 1) ++ (write l (level + 1) item ++ writeItems l level rest))
  | object [] => ['\x7b', '\x7d']
  | object ((name, value) :: rest) =>
      '\x7b' :: (l.gap (level + 1) ++
        (writeName name ++ (l.afterName ++
          (write l (level + 1) value ++ writeMembers l level rest))))
  | scalar => writeScalar scalar

def writeItems (l : Layout) (level : Nat) : List Json -> List Char
  | [] => l.gap level ++ [']']
  | item :: rest =>
      ',' :: (l.gap (level + 1) ++ (write l (level + 1) item ++ writeItems l level rest))

def writeMembers (l : Layout) (level : Nat) : List (Option String × Json) -> List Char
  | [] => l.gap level ++ ['\x7d']
  | (name, value) :: rest =>
      ',' :: (l.gap (level + 1) ++
        (writeName name ++ (l.afterName ++
          (write l (level + 1) value ++ writeMembers l level rest))))

end

def toCompact (j : Json) : String := String.ofList (write .compact 0 j)

def toPretty (j : Json) : String := String.ofList (write .pretty 0 j)

end Json
end TensorPipeline
