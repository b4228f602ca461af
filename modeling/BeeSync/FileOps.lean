import BeeSync.Interaction.FileSystem

/-!
# Hashing

BLAKE3 enters as a function from byte strings to digests of 32 bytes. A streaming
hasher is the bytes it has absorbed: its digest is the hash of their concatenation.
-/

set_option autoImplicit false

namespace BeeSync

open Encoding Interaction

/-- BLAKE3 output size. -/
def hashSize : Nat := 32

/-- A hash value. -/
structure Digest where
  bytes : Bytes
  sized : bytes.length = hashSize

namespace Digest

@[ext] theorem ext {left right : Digest} (same : left.bytes = right.bytes) : left = right := by
  cases left
  cases right
  cases same
  rfl

instance : DecidableEq Digest := fun left right =>
  decidable_of_iff (left.bytes = right.bytes) ⟨Digest.ext, congrArg _⟩

end Digest

/-- The hash function. -/
class Blake3 where
  hash : Bytes → Digest

/-- The hash function on the one-byte file `a`; other inputs get the hash of no bytes. -/
@[reducible] def Blake3.sample : Blake3 where
  hash data :=
    if data = [0x61] then
      ⟨[23, 118, 47, 221, 217, 105, 164, 83, 146, 93, 101, 113, 122, 195, 238, 162, 19, 32, 182,
        107, 84, 52, 47, 222, 21, 18, 141, 108, 175, 33, 33, 95], rfl⟩
    else
      ⟨[175, 19, 73, 185, 245, 249, 161, 166, 160, 64, 77, 234, 54, 220, 201, 73, 155, 203, 37,
        201, 173, 193, 18, 183, 204, 154, 147, 202, 228, 31, 50, 98], rfl⟩

/-- The hash function on the files `a`, `b` and `ab`; other inputs get the hash of no bytes. -/
@[reducible] def Blake3.samples : Blake3 where
  hash
    | [0x61] => Blake3.sample.hash [0x61]
    | [0x62] =>
      ⟨[16, 229, 207, 61, 60, 138, 79, 159, 52, 104, 200, 204, 88, 238, 168, 72, 146, 162, 47, 218,
        219, 193, 172, 178, 36, 16, 25, 0, 68, 193, 213, 83], rfl⟩
    | [0x61, 0x62] =>
      ⟨[45, 201, 153, 153, 166, 170, 239, 63, 32, 52, 157, 46, 212, 5, 122, 43, 84, 65, 149, 69,
        218, 187, 128, 158, 99, 129, 222, 27, 173, 131, 55, 226], rfl⟩
    | _ => Blake3.sample.hash []

/-- `blake3::Hasher`: what it has been given so far. -/
structure Hasher where
  absorbed : Bytes

namespace Hasher

def new : Hasher := ⟨[]⟩

def update (hasher : Hasher) (piece : Bytes) : Hasher := ⟨hasher.absorbed ++ piece⟩

end Hasher

/-- The size of the buffer that files are read through. -/
def bufferSize : Nat := 65536

section

variable [Blake3] {Path : Type}

def Hasher.finalize (hasher : Hasher) : Digest := Blake3.hash hasher.absorbed

/-- Hash of data in memory. -/
def calcHash (data : Bytes) : Digest := Blake3.hash data

/-- The read loop of `file_hash`, with a bound on the number of reads. -/
def fileHashLoop (path : Path) : Nat → Nat → Hasher → FsProg Path (Except IoError Digest)
  | 0, _, _ => .vis .stuck nofun
  | reads + 1, offset, hasher =>
      (FsOp.readAt path offset bufferSize).call.attempt fun piece =>
        if piece.length = 0 then .ret (.ok hasher.finalize)
        else fileHashLoop path reads (offset + piece.length) (hasher.update piece)

/-- Hash of an entire file. -/
def fileHash (reads : Nat) (path : Path) : FsProg Path (Except IoError Digest) :=
  (FsOp.openRead path).call.attempt fun _ => fileHashLoop path reads 0 .new

end

end BeeSync
