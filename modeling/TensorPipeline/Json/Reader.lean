import TensorPipeline.Json.Basic

/-!
# Reading JSON

A text is read as one value with space around it.  Space is a space, a tab, a
line feed or a carriage return, and nothing else.  A control character inside
quotes is refused; an escaped half of a surrogate pair without its other half
leaves the text without an exact value.  Zero with a minus sign is not an
integer.

The recursion is bounded by a count that each step into a value or past an
item lowers; the length of the text is always enough, since every value has a
character of its own.
-/

namespace TensorPipeline
namespace Json

def skipSpace (cs : List Char) : List Char := cs.dropWhile isSpace

def hexValue? (c : Char) : Option Nat :=
  if '0' ≤ c ∧ c ≤ '9' then some (c.toNat - '0'.toNat)
  else if 'a' ≤ c ∧ c ≤ 'f' then some (c.toNat - 'a'.toNat + 10)
  else if 'A' ≤ c ∧ c ≤ 'F' then some (c.toNat - 'A'.toNat + 10)
  else none

def hexUnit? (a b c d : Char) : Option Nat := do
  return ((<- hexValue? a) * 16 + (<- hexValue? b)) * 256 +
    ((<- hexValue? c) * 16 + (<- hexValue? d))

/-- A piece of a text in quotes: a character, or half of a surrogate pair. -/
inductive TextPiece where
  | char (c : Char)
  | high (bits : Nat)
  | low (bits : Nat)

def TextPiece.ofUnit (unit : Nat) : TextPiece :=
  if 0xd800 ≤ unit ∧ unit < 0xdc00 then high (unit - 0xd800)
  else if 0xdc00 ≤ unit ∧ unit < 0xe000 then low (unit - 0xdc00)
  else char (Char.ofNat unit)

def joinPieces : List TextPiece -> Option (List Char)
  | [] => some []
  | .char c :: rest => (joinPieces rest).map (c :: ·)
  | .high h :: .low l :: rest =>
      (joinPieces rest).map (Char.ofNat (0x10000 + h * 0x400 + l) :: ·)
  | _ => none

def unescape? : Char -> Option Char
  | '"' => some '"'
  | '\\' => some '\\'
  | '/' => some '/'
  | 'b' => some '\x08'
  | 'f' => some '\x0c'
  | 'n' => some '\n'
  | 'r' => some '\r'
  | 't' => some '\t'
  | _ => none

def readPieces : List Char -> Option (List TextPiece × List Char)
  | [] => none
  | '"' :: rest => some ([], rest)
  | '\\' :: 'u' :: a :: b :: c :: d :: rest => do
      let unit <- hexUnit? a b c d
      let (pieces, rest) <- readPieces rest
      return (TextPiece.ofUnit unit :: pieces, rest)
  | '\\' :: e :: rest => do
      let c <- unescape? e
      let (pieces, rest) <- readPieces rest
      return (.char c :: pieces, rest)
  | c :: rest =>
      if c.toNat < 32 || c == '\\' then none
      else do
        let (pieces, rest) <- readPieces rest
        return (.char c :: pieces, rest)

/-- The text up to the closing quote, if it has an exact value, and what comes
after it. -/
def readText (cs : List Char) : Option (Option String × List Char) := do
  let (pieces, rest) <- readPieces cs
  return ((joinPieces pieces).map String.ofList, rest)

def readDigits (cs : List Char) : Option (List Char × List Char) :=
  match cs.takeWhile Char.isDigit with
  | [] => none
  | digits => some (digits, cs.dropWhile Char.isDigit)

def readWhole : List Char -> Option (Nat × List Char)
  | '0' :: rest => some (0, rest)
  | cs => (readDigits cs).map fun (digits, rest) => (Nat.ofDigitChars 10 digits 0, rest)

def readPlaces : List Char -> Option (Bool × List Char)
  | '.' :: rest => (readDigits rest).map fun (_, rest) => (true, rest)
  | cs => some (false, cs)

def skipSign : List Char -> List Char
  | '+' :: rest => rest
  | '-' :: rest => rest
  | cs => cs

def readExponent : List Char -> Option (Bool × List Char)
  | 'e' :: rest => (readDigits (skipSign rest)).map fun (_, rest) => (true, rest)
  | 'E' :: rest => (readDigits (skipSign rest)).map fun (_, rest) => (true, rest)
  | cs => some (false, cs)

/-- A number without its sign: its digits before any point, and whether there
was no point and no exponent. -/
def readMagnitude (cs : List Char) : Option (Nat × Bool × List Char) := do
  let (whole, rest) <- readWhole cs
  let (hasPlaces, rest) <- readPlaces rest
  let (hasExponent, rest) <- readExponent rest
  return (whole, !(hasPlaces || hasExponent), rest)

def readNumber : List Char -> Option (Json × List Char)
  | '-' :: cs => do
      let (n, exact, rest) <- readMagnitude cs
      return (if exact && n != 0 then int (-(n : Int)) else fraction, rest)
  | cs => do
      let (n, exact, rest) <- readMagnitude cs
      return (if exact then int n else fraction, rest)

mutual

def readValue : Nat -> List Char -> Option (Json × List Char)
  | 0, _ => none
  | fuel + 1, cs =>
      match skipSpace cs with
      | 'n' :: 'u' :: 'l' :: 'l' :: rest => some (null, rest)
      | 't' :: 'r' :: 'u' :: 'e' :: rest => some (bool true, rest)
      | 'f' :: 'a' :: 'l' :: 's' :: 'e' :: rest => some (bool false, rest)
      | '"' :: rest => (readText rest).map fun (s, rest) => (text s, rest)
      | '[' :: rest =>
          match skipSpace rest with
          | ']' :: rest => some (array [], rest)
          | rest => (readItems fuel rest).map fun (items, rest) => (array items, rest)
      | '\x7b' :: rest =>
          match skipSpace rest with
          | '\x7d' :: rest => some (object [], rest)
          | rest => (readMembers fuel rest).map fun (members, rest) => (object members, rest)
      | cs => readNumber cs

def readItems : Nat -> List Char -> Option (List Json × List Char)
  | 0, _ => none
  | fuel + 1, cs => do
      let (item, rest) <- readValue fuel cs
      match skipSpace rest with
      | ']' :: rest => some ([item], rest)
      | ',' :: rest =>
          let (items, rest) <- readItems fuel rest
          return (item :: items, rest)
      | _ => none

def readMembers : Nat -> List Char -> Option (List (Option String × Json) × List Char)
  | 0, _ => none
  | fuel + 1, cs =>
      match skipSpace cs with
      | '"' :: rest => do
          let (name, rest) <- readText rest
          match skipSpace rest with
          | ':' :: rest =>
              let (value, rest) <- readValue fuel rest
              match skipSpace rest with
              | '\x7d' :: rest => some ([(name, value)], rest)
              | ',' :: rest =>
                  let (members, rest) <- readMembers fuel rest
                  return ((name, value) :: members, rest)
              | _ => none
          | _ => none
      | _ => none

end

def read (s : String) : Option Json := do
  let cs := s.toList
  let (value, rest) <- readValue (cs.length + 1) cs
  if (skipSpace rest).isEmpty then some value else none

end Json
end TensorPipeline
