import TensorPipeline.Text.GraphemeExtend
import TensorPipeline.Text.Unprintable

/-!
# Quoted text

A text in double quotes, on one line, in which every character can be seen:
quotes and backslashes are escaped, the common controls have short escapes, and
whatever does not print by itself is written by its code point in braces.
Messages quote keys, values and names this way.
-/

namespace TensorPipeline
namespace Text

def hexDigits (n : Nat) : List Char := Nat.toDigits 16 n

def quoteChar (c : Char) : List Char :=
  if c = '"' then ['\\', '"']
  else if c = '\\' then ['\\', '\\']
  else if c = '\n' then ['\\', 'n']
  else if c = '\r' then ['\\', 'r']
  else if c = '\t' then ['\\', 't']
  else if c = Char.ofNat 0 then ['\\', '0']
  else if isGraphemeExtend c || isUnprintable c then
    ['\\', 'u', '\x7b'] ++ hexDigits c.toNat ++ ['\x7d']
  else [c]

def quoted (s : String) : String :=
  "\"" ++ String.ofList (s.toList.flatMap quoteChar) ++ "\""

end Text
end TensorPipeline
