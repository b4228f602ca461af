import BeeSync.FileOps
import BeeSync.Arithmetic.Tiling
import BeeSync.Encoding.OrderedMap
import BeeSync.Encoding.PathName

/-!
# Transfer metadata

The record of a transfer's parameters and chunk hashes that is kept in a
`.bee-meta` file next to the `.part` files, its binary format, and its use for
deciding which parts survive a restart.
-/

set_option autoImplicit false

namespace BeeSync.Server

open Encoding Interaction Arithmetic

/-- A path as the server formats it: a directory and a name in it. -/
structure FilePath where
  dir : Bytes
  name : Bytes
  deriving DecidableEq, Repr

/-- The order in which a hash map yields its keys, which the language leaves open. -/
class KeyOrder where
  keys : OrderedMap Nat Digest → List Nat
  perm : ∀ map, (keys map).Perm map.keys

/-- The order of the keys themselves. -/
@[reducible] def KeyOrder.increasing : KeyOrder where
  keys := OrderedMap.keys
  perm := fun _ => .refl _

structure TransferMetadata where
  chunkSize : Nat
  numChunks : Nat
  fileSize : Nat
  fullHash : Digest
  chunkHashes : OrderedMap Nat Digest

namespace TransferMetadata

def magic : Bytes := [0x42, 0x45, 0x4D, 0x54]

def version : UInt8 := 1

/-- Magic, version, three numbers, hash and entry count. -/
def headerSize : Nat := 57

/-- Index and hash. -/
def entrySize : Nat := 36

def new (chunkSize numChunks fileSize : Nat) (fullHash : Digest) : TransferMetadata :=
  ⟨chunkSize, numChunks, fileSize, fullHash, .empty⟩

def addChunk (metadata : TransferMetadata) (index : Nat) (hash : Digest) : TransferMetadata :=
  { metadata with chunkHashes := metadata.chunkHashes.insert index hash }

def metaPath (partsDir filename : Bytes) : FilePath :=
  ⟨partsDir, filename ++ ascii ".bee-meta"⟩

/-- The temporary file `save` writes before it renames it. -/
def tmpPath (partsDir filename : Bytes) : FilePath :=
  ⟨partsDir, filename ++ ascii ".bee-meta" ++ ascii ".tmp"⟩

/-- The `.part` file of a chunk. -/
def partPath (partsDir filename : Bytes) (index : Nat) : FilePath :=
  ⟨partsDir, filename ++ ascii ".part" ++ decimal index⟩

/-- One entry of the format. -/
def encodeEntry (entry : Nat × Digest) : Bytes :=
  toBigEndian 4 (asU32 entry.1) ++ entry.2.bytes

/-- `to_bytes`: the header, then the entries in the order of their indices. -/
def toBytes (metadata : TransferMetadata) : Bytes :=
  magic ++ ([version] ++ (toBigEndian 4 (asU32 metadata.chunkSize) ++
    (toBigEndian 4 (asU32 metadata.numChunks) ++ (toBigEndian 8 metadata.fileSize ++
      (metadata.fullHash.bytes ++ (toBigEndian 4 (asU32 metadata.chunkHashes.entries.length) ++
        metadata.chunkHashes.entries.flatMap encodeEntry))))))

/-- Errors of `from_bytes`. -/
inductive FormatError where
  | tooShort (length : Nat)
  | badMagic (magic : Bytes)
  | unsupportedVersion (version : UInt8)
  | truncated (expected got : Nat)
  deriving DecidableEq, Repr

def FormatError.message : FormatError → String
  | .tooShort length => "metadata file too short: " ++ toString length ++ " bytes"
  | .badMagic magic => "bad metadata magic: " ++ toString (magic.map UInt8.toNat)
  | .unsupportedVersion version => "unsupported metadata version: " ++ toString version.toNat
  | .truncated expected got =>
    "metadata truncated: expected " ++ toString expected ++ " bytes, got " ++ toString got

/-- The digest at an offset of a long enough byte string. -/
def digestAt (data : Bytes) (offset : Nat) (inside : offset + 32 ≤ data.length) : Digest :=
  ⟨field data offset 32, field_length inside⟩

/-- The entry at a position of a long enough byte string. -/
def decodeEntry (data : Bytes) (count : Nat) (long : headerSize + count * entrySize ≤ data.length)
    (position : Fin count) : Nat × Digest :=
  (readBigEndian data (headerSize + position * entrySize) 4,
    digestAt data (headerSize + position * entrySize + 4) (by
      have bound : (position + 1) * entrySize ≤ count * entrySize :=
        Nat.mul_le_mul_right _ position.isLt
      simp only [headerSize, entrySize] at *
      omega))

/-- `from_bytes`. -/
def fromBytes (data : Bytes) : Except FormatError TransferMetadata :=
  if short : data.length < headerSize then .error (.tooShort data.length)
  else if field data 0 4 ≠ magic then .error (.badMagic (field data 0 4))
  else if data.getD 4 0 ≠ version then .error (.unsupportedVersion (data.getD 4 0))
  else
    let entryCount := readBigEndian data 53 4
    if truncated : data.length < headerSize + entryCount * entrySize then
      .error (.truncated (headerSize + entryCount * entrySize) data.length)
    else .ok {
      chunkSize := readBigEndian data 5 4
      numChunks := readBigEndian data 9 4
      fileSize := readBigEndian data 13 8
      fullHash := digestAt data 21 (by simp only [headerSize] at short; omega)
      chunkHashes :=
        .ofList ((List.finRange entryCount).map (decodeEntry data entryCount (not_lt.mp truncated))) }

/-- `save`: write a temporary file, then rename it over the old one. -/
def save (metadata : TransferMetadata) (partsDir filename : Bytes) :
    FsProg FilePath (Except IoError Unit) :=
  (writeFile (tmpPath partsDir filename) metadata.toBytes).attempt fun _ =>
    (FsOp.rename (tmpPath partsDir filename) (metaPath partsDir filename)).call.bind fun
      | .ok () => .ret (.ok ())
      | .error error =>
        (FsOp.remove (tmpPath partsDir filename)).call.bind fun _ => .ret (.error error)

/-- Errors of `load`. -/
inductive LoadError where
  | io (error : IoError)
  | format (error : FormatError)

/-- `Path::exists`: an error counts as absence. -/
def pathExists {Path : Type} (path : Path) : FsProg Path Bool :=
  (FsOp.exists_ path).call.bind fun
    | .ok found => .ret found
    | .error _ => .ret false

/-- `load`: nothing when there is no metadata file. -/
def load (partsDir filename : Bytes) :
    FsProg FilePath (Except LoadError (Option TransferMetadata)) :=
  (pathExists (metaPath partsDir filename)).bind fun
    | false => .ret (.ok none)
    | true => (FsOp.readFile (metaPath partsDir filename)).call.bind fun
      | .error error => .ret (.error (.io error))
      | .ok data =>
        match fromBytes data with
        | .error error => .ret (.error (.format error))
        | .ok metadata => .ret (.ok (some metadata))

def paramsMatch (metadata : TransferMetadata) (chunkSize numChunks fileSize : Nat)
    (fullHash : Digest) : Bool :=
  metadata.chunkSize = chunkSize ∧ metadata.numChunks = numChunks ∧
    metadata.fileSize = fileSize ∧ metadata.fullHash = fullHash

/-- `verify_part`: the part is there and has its recorded hash. -/
def verifyPart [Blake3] (metadata : TransferMetadata) (index : Nat) (partsDir filename : Bytes) :
    FsProg FilePath Bool :=
  match metadata.chunkHashes.get? index with
  | none => .ret false
  | some expectedHash => (FsOp.readFile (partPath partsDir filename index)).call.bind fun
    | .error _ => .ret false
    | .ok data => .ret (decide (calcHash data = expectedHash))

def purgeLoop (partsDir filename : Bytes) : List Nat → FsProg FilePath Unit
  | [] => .ret ()
  | i :: rest =>
    (FsOp.remove (partPath partsDir filename i)).call.bind fun _ => purgeLoop partsDir filename rest

/-- `purge`: remove the metadata file and every part, ignoring failures. -/
def purge (partsDir filename : Bytes) (numChunks : Nat) : FsProg FilePath Unit :=
  (FsOp.remove (metaPath partsDir filename)).call.bind fun _ =>
    purgeLoop partsDir filename (List.range numChunks)

end TransferMetadata

end BeeSync.Server
