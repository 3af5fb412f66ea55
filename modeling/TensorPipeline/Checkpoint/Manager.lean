import TensorPipeline.Checkpoint.Volume
import TensorPipeline.Iterator
import TensorPipeline.Wire.Snapshot

/-!
# Checkpoints

A manager keeps snapshots of the iterators of any number of jobs as files of
one directory.  The file of a snapshot is named after its job and its
timestamp; of one job the manager keeps as many of the latest snapshots as its
configuration allows, by timestamp and not by the order of saving.

When checkpoints are due is a policy of its own: never by itself, after every
so many batches, or when so many seconds have passed since the last one.
-/

namespace TensorPipeline

inductive CheckpointPolicy where
  | manual
  | everyBatches (count : UInt64)
  | interval (seconds : UInt64)
deriving DecidableEq, Repr

def CheckpointPolicy.toText : CheckpointPolicy -> String
  | manual => "Manual"
  | everyBatches n => "EveryNBatches(" ++ toString n.toNat ++ ")"
  | interval n => "TimeInterval(" ++ toString n.toNat ++ ")"

/-- How a manager works: whether at all, where, when, and how many snapshots of
a job it keeps, all of them if there is no number. -/
structure CheckpointConfig where
  enabled : Bool
  directory : String
  policy : CheckpointPolicy
  limit : Option Nat
deriving DecidableEq, Repr

namespace CheckpointConfig

def default : CheckpointConfig := ⟨false, "./tensor_batch_checkpoints", .manual, some 10⟩

def directoryName (c : CheckpointConfig) : String := Path.lastStep c.directory

end CheckpointConfig

structure CheckpointManager where
  config : CheckpointConfig
  lastSaved : Option Nat
deriving DecidableEq, Repr

/-!
## File names
-/

def checkpointStem (job : String) : String := "checkpoint_" ++ job ++ "_"

def checkpointSuffix : String := ".bin"

def checkpointFile (job : String) (timestamp : UInt64) : String :=
  checkpointStem job ++ toString timestamp.toNat ++ checkpointSuffix

def dropStart? {α : Type} [BEq α] : List α -> List α -> Option (List α)
  | [], cs => some cs
  | p :: ps, c :: cs => if p == c then dropStart? ps cs else none
  | _ :: _, [] => none

def dropEnd? {α : Type} [BEq α] (ending cs : List α) : Option (List α) :=
  (dropStart? ending.reverse cs.reverse).map List.reverse

def skipPlus : List Char -> List Char
  | '+' :: rest => rest
  | cs => cs

/-- A number of 64 bits in decimal digits, with a plus sign and zeros in front
of it if need be. -/
def readTimestamp? (cs : List Char) : Option UInt64 :=
  let digits := skipPlus cs
  let n := Nat.ofDigitChars 10 digits 0
  if digits ≠ [] ∧ digits.all Char.isDigit ∧ n < 0x10000000000000000 then
    some (UInt64.ofNat n)
  else none

def timestampOf? (job name : String) : Option UInt64 := do
  let rest <- dropStart? (checkpointStem job).toList name.toList
  let digits <- dropEnd? checkpointSuffix.toList rest
  readTimestamp? digits

namespace CheckpointManager

def start (v : Volume) (config : CheckpointConfig) :
    Except Error CheckpointManager × Volume :=
  if config.enabled then
    match v.makePath config.directory with
    | (true, v) => (.ok ⟨config, none⟩, v)
    | (false, v) => (.error (.checkpoint .createDirectory), v)
  else (.ok ⟨config, none⟩, v)

def due (m : CheckpointManager) (now : Nat) (batches : UInt64) : Bool :=
  m.config.enabled &&
    match m.config.policy with
    | .manual => false
    | .everyBatches n => n ≠ 0 ∧ batches ≠ 0 ∧ batches % n = 0
    | .interval seconds =>
        match m.lastSaved with
        | none => true
        | some last => last ≤ now ∧ 1000 * seconds.toNat ≤ now - last

def pathOf (m : CheckpointManager) (file : String) : String :=
  Path.join m.config.directory file

def list (m : CheckpointManager) (v : Volume) (job : String) :
    Except Error (List (String × UInt64)) :=
  match v.children? m.config.directory with
  | none => .error (.checkpoint .readDirectory)
  | some files =>
      .ok
        ((files.filterMap fun file => (timestampOf? job file).map fun t => (file, t)).mergeSort
          fun a b => a.2 ≤ b.2)

def removeFiles (m : CheckpointManager) (v : Volume) (files : List (String × UInt64)) : Volume :=
  files.foldl (fun v file => v.removeFile (m.pathOf file.1)) v

def evict (m : CheckpointManager) (v : Volume) (job : String) : Except Error Volume :=
  match m.config.limit with
  | none => .ok v
  | some limit => do
      let files <- m.list v job
      return m.removeFiles v (files.take (files.length - limit))

/-- Writes a snapshot and then removes what is beyond the limit, which may be
the snapshot itself.  Tells the path of the file. -/
def save (m : CheckpointManager) (v : Volume) (now : Nat) (s : Snapshot) :
    Except Error String × CheckpointManager × Volume :=
  let path := m.pathOf (checkpointFile s.job s.timestamp)
  match v.writeFile path (Wire.writeSnapshot s) with
  | none => (.error (.checkpoint .createFile), m, v)
  | some v =>
      let m := { m with lastSaved := some now }
      match m.evict v s.job with
      | .error e => (.error e, m, v)
      | .ok v => (.ok path, m, v)

def saveIterator (m : CheckpointManager) (v : Volume) (now : Nat) (job : String)
    (it : Iterator) : Except Error String × CheckpointManager × Volume :=
  match it.save Table.empty with
  | .error e => (.error e, m, v)
  | .ok state => m.save v now (Snapshot.ofState job it.path (UInt64.ofNat now) state)

/-- The latest of the job's files.  There is none where checkpoints are not
enabled or the directory is gone. -/
def latest? (m : CheckpointManager) (v : Volume) (job : String) :
    Except Error (Option String) :=
  if m.config.enabled && (v.at? m.config.directory).isSome then do
    let files <- m.list v job
    return files.getLast?.map Prod.fst
  else .ok none

def load (m : CheckpointManager) (v : Volume) (file : String) : Except Error Snapshot :=
  match v.at? (m.pathOf file) with
  | none => .error (.checkpoint .openFile)
  | some (.directory _) => .error (.checkpoint .readFile)
  | some (.file bytes) =>
      match Snapshot.ofBytes? bytes with
      | none => .error (.checkpoint .decode)
      | some s =>
          if s.intact then .ok s else .error (.checkpoint (.checksum (m.pathOf file)))

def restoreLatest (m : CheckpointManager) (v : Volume) (job : String) (p : Pipeline)
    (parent : String) : Except Error Iterator := do
  match <- m.latest? v job with
  | none => return Iterator.startUnder p parent
  | some file =>
      let s <- m.load v file
      Iterator.restoredUnder p parent s.state

def clear (m : CheckpointManager) (v : Volume) (job : String) : Except Error Volume := do
  let files <- m.list v job
  return m.removeFiles v files

theorem save_of_written
    {m : CheckpointManager} {v written w : Volume} {now : Nat} {s : Snapshot}
    (hwrite : v.writeFile (m.pathOf (checkpointFile s.job s.timestamp)) (Wire.writeSnapshot s) =
      some written)
    (hevict : { m with lastSaved := some now }.evict written s.job = .ok w) :
    m.save v now s =
      (.ok (m.pathOf (checkpointFile s.job s.timestamp)), { m with lastSaved := some now }, w) := by
  unfold save
  simp only [hwrite, hevict]

theorem load_of_unreadable
    {m : CheckpointManager} {v : Volume} {file : String} {bytes : List UInt8}
    (hat : v.at? (m.pathOf file) = some (.file bytes)) (hbytes : Snapshot.ofBytes? bytes = none) :
    m.load v file = .error (.checkpoint .decode) := by
  unfold load
  simp only [hat, hbytes]

theorem load_of_readable
    {m : CheckpointManager} {v : Volume} {file : String} {bytes : List UInt8} {s : Snapshot}
    (hat : v.at? (m.pathOf file) = some (.file bytes))
    (hbytes : Snapshot.ofBytes? bytes = some s) :
    m.load v file =
      if s.intact then .ok s else .error (.checkpoint (.checksum (m.pathOf file))) := by
  unfold load
  simp only [hat, hbytes]

end CheckpointManager

end TensorPipeline
