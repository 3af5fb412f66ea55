import TensorPipeline.Batch.Stage
import TensorPipeline.Pipeline.TensorSource
import TensorPipeline.Store

/-!
# Errors and crashes

An error is an answer: the operation names its cause and everything stays
usable.  A crash ends an operation in the middle, and whoever held a lock at
that moment leaves it poisoned.  A failure is one or the other.
-/

namespace TensorPipeline

inductive CheckpointError where
  | createDirectory
  | readDirectory
  | createFile
  | openFile
  | readFile
  | decode
  | checksum (file : String)
deriving DecidableEq, Repr

def CheckpointError.message : CheckpointError -> String
  | createDirectory => "Failed to create checkpoint directory"
  | readDirectory => "Failed to read checkpoint directory"
  | createFile => "Failed to create checkpoint file"
  | openFile => "Failed to open checkpoint file"
  | readFile => "Failed to read checkpoint"
  | decode => "Failed to deserialize checkpoint"
  | checksum file => "corrupt checkpoint: checksum mismatch in " ++ file

inductive Error where
  | config (cause : ConfigError)
  | componentCount (expected index actual : Nat)
  | shapeMismatch (component : Nat) (first : Shape) (index : Nat) (actual : Shape)
  | typeMismatch (component index : Nat) (expected actual : DType)
  | exhausted (component : Nat) (bytes : UInt64)
  | tensor (cause : TensorError)
  | source (cause : SourceError)
  | injected (pull : UInt64)
  | state (cause : StateError)
  | sourcePoisoned (path : String)
  | stagePoisoned (path : String)
  | missingComponent (batch component : Nat)
  | optionsUnreadable (file : String)
  | optionsMalformed
  | checkpoint (cause : CheckpointError)
deriving DecidableEq, Repr

def Error.message : Error -> String
  | config cause => "invalid configuration: " ++ cause.message
  | componentCount expected index actual =>
      "Cannot batch elements with different numbers of components. First element had " ++
        toString expected ++ " components and element " ++ toString index ++ " had " ++
        toString actual ++ "."
  | shapeMismatch component first index actual =>
      "Cannot batch tensors with different shapes in component " ++ toString component ++
        ". First element had shape " ++ first.toText ++ " and element " ++ toString index ++
        " had shape " ++ actual.toText ++ "."
  | typeMismatch component index expected actual =>
      "Cannot copy element " ++ toString index ++ " into the batch of component " ++
        toString component ++ ": expected dtype " ++ expected.name ++ " but got " ++
        actual.name ++ "."
  | exhausted component bytes =>
      "Failed to allocate memory for the batch of component " ++ toString component ++
        " (" ++ toString bytes.toNat ++ " bytes)"
  | tensor cause => "invalid tensor: " ++ cause.message
  | source cause => cause.message
  | injected pull => "injected fault on pull " ++ toString pull.toNat
  | state cause => cause.message
  | sourcePoisoned path => "iterator " ++ path ++ " lock poisoned"
  | stagePoisoned path => "batch iterator " ++ path ++ " lock poisoned"
  | missingComponent batch component =>
      "batch " ++ toString batch ++ " has no component " ++ toString component
  | optionsUnreadable file => "Failed to read batch options from " ++ file
  | optionsMalformed => "Failed to parse batch options"
  | checkpoint cause => cause.message

inductive Crash where
  | counterOverflow
  | capacityOverflow
  | emptyWindow
  | emptySlot
deriving DecidableEq, Repr

def Crash.message : Crash -> String
  | counterOverflow => "attempt to add with overflow"
  | capacityOverflow => "capacity overflow"
  | emptyWindow => "index out of bounds: the len is 0 but the index is 0"
  | emptySlot => "chunk size must be non-zero"

inductive Failure where
  | error (cause : Error)
  | crash (cause : Crash)
deriving DecidableEq, Repr

end TensorPipeline
