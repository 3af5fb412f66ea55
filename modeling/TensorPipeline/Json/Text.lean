import TensorPipeline.Error
import TensorPipeline.Json.Document
import TensorPipeline.Json.Reader
import TensorPipeline.Json.Writer

/-!
# Documents as texts

The texts of documents, and the options of a batch stage read from a text or
from the bytes of a file.
-/

namespace TensorPipeline

def toCompactText {α : Type} [Document α] (a : α) : String := (toJson a).toCompact

def toPrettyText {α : Type} [Document α] (a : α) : String := (toJson a).toPretty

def ofText? {α : Type} [Document α] (s : String) : Option α := (Json.read s).bind ofJson?

namespace Options

def ofText (s : String) : Except Error Options :=
  match (ofText? s : Option Options) with
  | some options => .ok options
  | none => .error .optionsMalformed

/-- The options in the file called `name`; `content` is nothing when there is
no file. -/
def ofFile (name : String) (content : Option (List UInt8)) : Except Error Options :=
  match content.bind fun bytes => String.fromUTF8? ⟨bytes.toArray⟩ with
  | some s => ofText s
  | none => .error (.optionsUnreadable name)

end Options

end TensorPipeline
