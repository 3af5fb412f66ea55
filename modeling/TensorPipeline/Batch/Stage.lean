import TensorPipeline.Naming
import TensorPipeline.Text.Quoted

/-!
# Batch stages

A batch stage groups consecutive elements into batches of a fixed size.  It is
configured by arguments that differ between the two versions of the operation:
the first never drops a short last batch and accepts no argument about it, the
second insists on one.  What a stage holds once it is built is always valid:
the size is positive and fits a signed 64-bit number.
-/

namespace TensorPipeline

inductive ConfigError where
  | unknownOp (name : String)
  | dropRemainderRefused
  | dropRemainderMissing
  | sizeNotPositive
deriving DecidableEq, Repr

def ConfigError.message : ConfigError -> String
  | unknownOp name => "unknown batch op " ++ Text.quoted name
  | dropRemainderRefused => "BatchDataset does not accept a drop_remainder argument"
  | dropRemainderMissing => "BatchDatasetV2 requires a drop_remainder argument"
  | sizeNotPositive => "Batch size must be greater than zero."

inductive OpVersion where
  | v1
  | v2
deriving DecidableEq, Repr, Inhabited

namespace OpVersion

def number : OpVersion -> Nat
  | v1 => 1
  | v2 => 2

def label : OpVersion -> String
  | v1 => "V1"
  | v2 => "V2"

def opName (v : OpVersion) : String := Naming.opName "Batch" v.number

def ofOpName (name : String) : Except ConfigError OpVersion :=
  if name = v1.opName then .ok v1
  else if name = v2.opName then .ok v2
  else .error (.unknownOp name)

end OpVersion

structure Stage where
  size : Nat
  size_pos : 0 < size
  size_lt : size < 0x8000000000000000
  dropRemainder : Bool
  parallelCopy : Bool
  version : OpVersion
deriving DecidableEq

namespace Stage

def make (size : Int64) (dropRemainder parallelCopy : Bool) :
    Except ConfigError Stage :=
  if h : 0 < size.toInt then
    .ok
      { size := size.toInt.toNat
        size_pos := by omega
        size_lt := by
          have := size.toInt_lt
          omega
        dropRemainder := dropRemainder
        parallelCopy := parallelCopy
        version := .v2 }
  else .error .sizeNotPositive

def remainderPolicy : OpVersion -> Option Bool -> Except ConfigError Bool
  | .v1, none => .ok false
  | .v1, some _ => .error .dropRemainderRefused
  | .v2, some drop => .ok drop
  | .v2, none => .error .dropRemainderMissing

/-- A stage from the arguments of an operation.  The name is checked first,
then the argument about short last batches, then the size. -/
def ofArguments (opName : String) (size : Int64) (dropRemainder parallelCopy : Option Bool) :
    Except ConfigError Stage := do
  let version <- OpVersion.ofOpName opName
  let drop <- remainderPolicy version dropRemainder
  let stage <- make size drop (parallelCopy.getD false)
  return { stage with version := version }

/-- The most elements for which room can be set aside at once: each takes 24
bytes, and no allocation may exceed the signed 64-bit range. -/
def windowLimit : Nat := 0x7fffffffffffffff / 24

def pathUnder (s : Stage) (parent : String) : String :=
  Naming.pathUnder "Batch" parent s.version.number

def description (s : Stage) : String :=
  Naming.description "Batch" s.version.number [toString s.size]

def debugText (s : Stage) (input : String) : String :=
  "BatchSpec \x7b input: " ++ Text.quoted input ++
    ", batch_size: " ++ toString s.size ++
    ", drop_remainder: " ++ toString s.dropRemainder ++
    ", parallel_copy: " ++ toString s.parallelCopy ++
    ", op_version: " ++ s.version.label ++ ", .. \x7d"

end Stage

structure Options where
  op : String
  size : Int64
  dropRemainder : Option Bool
  parallelCopy : Option Bool
deriving DecidableEq, Repr

namespace Options

def defaultOp : String := OpVersion.v2.opName

def default : Options := ⟨defaultOp, 1, some false, none⟩

def stage (o : Options) : Except ConfigError Stage :=
  Stage.ofArguments o.op o.size o.dropRemainder o.parallelCopy

end Options

end TensorPipeline
