import WordMachine.Gzip.Member
import WordMachine.Snapshot.Body

/-!
# Snapshot files

A file starts with a mark and a version, and goes on with the compressed snapshot.
What is read from a file is always a state that a machine can be in.
-/

namespace WordMachine.Snapshot

/-- The bytes at the start of a file. -/
def mark : List UInt8 := Utf8.bytesOf "W16S"

def header : List UInt8 := mark ++ Gzip.littleEndian 4 currentVersion.toNat

def wrap (body : List UInt8) : List UInt8 :=
  header ++ Gzip.compress body

def toFile (snapshot : Snapshot) : List UInt8 :=
  wrap snapshot.encode

/-- A number from its bytes, the low byte first. -/
def ofLittleEndian (bytes : List UInt8) : Nat :=
  bytes.foldr (fun b value => b.toNat + 256 * value) 0

/-- The contents of a file, once mark and version are as they should be. -/
def unwrap (bytes : List UInt8) : Except SnapshotError (List UInt8) :=
  let (start, rest) := bytes.splitAt 4
  if start.length < 4 then .error (.shortMark start.isEmpty)
  else if start ≠ mark then .error (.badMark start)
  else
    let (version, rest) := rest.splitAt 4
    if version.length < 4 then .error (.shortVersion version.isEmpty)
    else if ofLittleEndian version ≠ currentVersion.toNat then
      .error (.version (ofLittleEndian version))
    else
      match Gzip.decompress rest with
      | .error .header => .error .notCompressed
      | .error .data => .error .damaged
      | .ok body => .ok body

def ofFile (bytes : List UInt8) : Except SnapshotError Snapshot := do
  let body ← unwrap bytes
  match decode body with
  | none => .error .undecodable
  | some snapshot =>
    snapshot.check
    return snapshot

end WordMachine.Snapshot
