import TensorPipeline.Digest
import TensorPipeline.Store
import TensorPipeline.Wire.Varint

/-!
# Stored snapshots

The bytes of a store and of a snapshot.  A text is its length in bytes and its
UTF-8; an entry is a key and a tagged value; a store is the number of its
entries and the entries in order.  Reading takes entries in any order, a later
one for a key in place of an earlier, and leaves what comes after the value.

A snapshot names its job and the iterator it was taken of, and carries the
checksum of the bytes of its own state.
-/

namespace TensorPipeline

structure Snapshot where
  job : String
  path : String
  timestamp : UInt64
  state : Store
  checksum : String
deriving DecidableEq

namespace Wire

def writeText (s : String) : List UInt8 :=
  writeNat (utf8 s).length ++ utf8 s

def readText : Reader String := fun bytes => do
  let (n, rest) <- readNat64 bytes
  if rest.length < n then none
  else
    let s <- String.fromUTF8? ⟨(rest.take n).toArray⟩
    return (s, rest.drop n)

def writeValue : StateValue -> List UInt8
  | .int n => writeNat 0 ++ writeNat (zigzag n.toInt)
  | .text s => writeNat 1 ++ writeText s

def readValue : Reader StateValue := fun bytes => do
  match <- readNat32 bytes with
  | (0, rest) =>
      let (n, rest) <- readNat64 rest
      return (.int (Int64.ofInt (unzigzag n)), rest)
  | (1, rest) =>
      let (s, rest) <- readText rest
      return (.text s, rest)
  | _ => none

def writeEntry (e : String × StateValue) : List UInt8 :=
  writeText e.1 ++ writeValue e.2

def readEntry : Reader (String × StateValue) := fun bytes => do
  let (key, rest) <- readText bytes
  let (value, rest) <- readValue rest
  return ((key, value), rest)

def readEntries : Nat -> Reader (List (String × StateValue))
  | 0, bytes => some ([], bytes)
  | count + 1, bytes => do
      let (e, rest) <- readEntry bytes
      let (entries, rest) <- readEntries count rest
      return (e :: entries, rest)

def writeStore (s : Store) : List UInt8 :=
  writeNat s.size ++ s.entries.flatMap writeEntry

def readStore : Reader Store := fun bytes => do
  let (count, rest) <- readNat64 bytes
  let (entries, rest) <- readEntries count rest
  return (Table.ofPairs entries, rest)

def writeSnapshot (s : Snapshot) : List UInt8 :=
  writeText s.job ++ writeText s.path ++ writeNat s.timestamp.toNat ++ writeStore s.state ++
    writeText s.checksum

def readSnapshot : Reader Snapshot := fun bytes => do
  let (job, rest) <- readText bytes
  let (path, rest) <- readText rest
  let (timestamp, rest) <- readNat64 rest
  let (state, rest) <- readStore rest
  let (checksum, rest) <- readText rest
  return (⟨job, path, UInt64.ofNat timestamp, state, checksum⟩, rest)

end Wire

namespace Store

/-- The store that bytes begin with. -/
def ofBytes? (bytes : List UInt8) : Option Store := (Wire.readStore bytes).map Prod.fst

def checksum (s : Store) : String := Digest.checksum (Wire.writeStore s)

end Store

namespace Snapshot

def ofState (job path : String) (timestamp : UInt64) (state : Store) : Snapshot :=
  ⟨job, path, timestamp, state, state.checksum⟩

/-- The snapshot that bytes begin with. -/
def ofBytes? (bytes : List UInt8) : Option Snapshot := (Wire.readSnapshot bytes).map Prod.fst

def intact (s : Snapshot) : Bool := s.state.checksum == s.checksum

end Snapshot

end TensorPipeline
