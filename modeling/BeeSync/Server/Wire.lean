import BeeSync.FileOps
import BeeSync.Protocol
import BeeSync.Encoding.PathName
import BeeSync.Encoding.Utf8

/-!
# What the server understands and answers

Handshake parsing with its checks in their order, the handshake response, the
header of a chunk message, the size the server expects of a chunk, and the answer
to a resume query.
-/

set_option autoImplicit false

namespace BeeSync.Server

open Encoding Arithmetic

/-- The longest accepted file name. -/
def maxFilenameLen : Nat := 255

/-- The largest accepted number of chunks. -/
def maxChunks : Nat := 1000000

/-- An accepted handshake. -/
structure HandshakeData where
  filename : Bytes
  safeName : Bytes
  fileSize : Nat
  chunkSize : Nat
  numChunks : Nat
  fullHash : Digest
  safe : fileName filename = some safeName
  fileSize_lt : fileSize < 2 ^ 64
  chunkSize_pos : 0 < chunkSize
  chunkSize_lt : chunkSize < 2 ^ 32
  numChunks_pos : 0 < numChunks
  numChunks_le : numChunks ≤ maxChunks

/-- Errors of `parse_handshake`. -/
inductive HandshakeError where
  | tooShort (length : Nat)
  | badMagic (magic : Bytes)
  | filenameTooLong (length : Nat)
  | tooShortForFilename
  | invalidFilename
  | zeroChunkSize
  | zeroNumChunks
  | tooManyChunks (count : Nat)
  deriving DecidableEq, Repr

def HandshakeError.message : HandshakeError → String
  | .tooShort length =>
    "Handshake too short: " ++ toString length ++ " bytes (minimum " ++
      toString (Handshake.prefixSize + Handshake.suffixSize) ++ ")"
  | .badMagic magic => "Bad MAGIC: " ++ toString (magic.map UInt8.toNat)
  | .filenameTooLong length =>
    "filename too long: " ++ toString length ++ " bytes (max " ++ toString maxFilenameLen ++ ")"
  | .tooShortForFilename => "Handshake too short for filename"
  | .invalidFilename => "Invalid filename"
  | .zeroChunkSize => "chunk_size must be > 0"
  | .zeroNumChunks => "num_chunks must be > 0"
  | .tooManyChunks count =>
    "num_chunks " ++ toString count ++ " exceeds maximum " ++ toString maxChunks

/-- `parse_handshake`. -/
def parseHandshake (data : Bytes) : Except HandshakeError HandshakeData :=
  if data.length < Handshake.prefixSize + Handshake.suffixSize then .error (.tooShort data.length)
  else if field data 0 4 ≠ Handshake.magic then .error (.badMagic (field data 0 4))
  else
    let filenameLen := readBigEndian data 4 2
    if filenameLen > maxFilenameLen then .error (.filenameTooLong filenameLen)
    else if short : data.length < Handshake.prefixSize + filenameLen + Handshake.suffixSize then
      .error .tooShortForFilename
    else
      let filename := fromUtf8Lossy (field data Handshake.prefixSize filenameLen)
      match safe : fileName filename with
      | none => .error .invalidFilename
      | some safeName =>
        let offset := Handshake.prefixSize + filenameLen
        let chunkSize := readBigEndian data (offset + 8) 4
        let numChunks := readBigEndian data (offset + 12) 4
        if noChunk : chunkSize = 0 then .error .zeroChunkSize
        else if noChunks : numChunks = 0 then .error .zeroNumChunks
        else if many : numChunks > maxChunks then .error (.tooManyChunks numChunks)
        else .ok {
          filename, safeName, chunkSize, numChunks, safe
          fileSize := readBigEndian data offset 8
          fullHash := ⟨field data (offset + 16) 32, field_length (by
            simp only [Handshake.suffixSize] at short
            omega)⟩
          fileSize_lt := readBigEndian_lt data offset 8
          chunkSize_pos := Nat.pos_of_ne_zero noChunk
          chunkSize_lt := readBigEndian_lt data (offset + 8) 4
          numChunks_pos := Nat.pos_of_ne_zero noChunks
          numChunks_le := not_lt.mp many }

/-- What an accepted frame says, field by field. -/
structure HandshakeData.ReadFrom (handshake : HandshakeData) (data : Bytes) : Prop where
  magic : field data 0 4 = Handshake.magic
  nameLen : readBigEndian data 4 2 ≤ maxFilenameLen
  complete : Handshake.prefixSize + readBigEndian data 4 2 + Handshake.suffixSize ≤ data.length
  filename : handshake.filename =
    fromUtf8Lossy (field data Handshake.prefixSize (readBigEndian data 4 2))
  fileSize : handshake.fileSize =
    readBigEndian data (Handshake.prefixSize + readBigEndian data 4 2) 8
  chunkSize : handshake.chunkSize =
    readBigEndian data (Handshake.prefixSize + readBigEndian data 4 2 + 8) 4
  numChunks : handshake.numChunks =
    readBigEndian data (Handshake.prefixSize + readBigEndian data 4 2 + 12) 4
  fullHash : handshake.fullHash.bytes =
    field data (Handshake.prefixSize + readBigEndian data 4 2 + 16) 32

/-- Parsing accepts exactly the frames that state the fields of a valid handshake. -/
theorem parseHandshake_eq_ok_iff {data : Bytes} {handshake : HandshakeData} :
    parseHandshake data = .ok handshake ↔ handshake.ReadFrom data := by
  constructor
  · intro accepted
    unfold parseHandshake at accepted
    split at accepted
    · cases accepted
    split at accepted
    · cases accepted
    rename_i magic
    dsimp only at accepted
    split at accepted
    · cases accepted
    rename_i nameLen
    split at accepted
    · cases accepted
    rename_i complete
    split at accepted
    · cases accepted
    split at accepted
    · cases accepted
    split at accepted
    · cases accepted
    split at accepted
    · cases accepted
    cases accepted
    exact ⟨not_not.mp magic, not_lt.mp nameLen, not_lt.mp complete, rfl, rfl, rfl, rfl, rfl⟩
  · intro read
    obtain ⟨filename, safeName, fileSize, chunkSize, numChunks, ⟨bytes, sized⟩, safe, fileSize_lt,
      chunkSize_pos, chunkSize_lt, numChunks_pos, numChunks_le⟩ := handshake
    obtain ⟨magic, nameLen, complete, rfl, rfl, rfl, rfl, rfl⟩ := read
    have long : ¬ data.length < Handshake.prefixSize + Handshake.suffixSize := by omega
    unfold parseHandshake
    rw [if_neg long, if_neg (not_not.mpr magic)]
    dsimp only
    rw [if_neg (not_lt.mpr nameLen), dif_neg (not_lt.mpr complete)]
    split
    case h_1 missing => simp [missing] at safe
    case h_2 name found =>
      have same : name = safeName := by simpa [found] using safe
      subst same
      rw [dif_neg chunkSize_pos.ne', dif_neg numChunks_pos.ne', dif_neg (not_lt.mpr numChunks_le)]

/-- The payload of `send_handshake_response`: the port count is cast to one byte. -/
def handshakeResponse (status : UInt8) (ports : List UInt16) : Bytes :=
  status :: UInt8.ofNat ports.length :: ports.flatMap fun port => toBigEndian 2 port.toNat

/-- The header of a chunk message. -/
structure ChunkHeader where
  chunkIndex : Nat
  chunkOffset : Nat
  chunkSize : Nat
  deriving DecidableEq, Repr

/-- The header `process_chunk` reads: nothing stands for the panic of indexing a
frame that is shorter than a header. -/
def parseChunkHeader (data : Bytes) : Option ChunkHeader :=
  if data.length < Chunk.headerSize then none
  else some ⟨readBigEndian data 0 4, readBigEndian data 4 8, readBigEndian data 12 4⟩

/-- The size `process_chunk` expects of a chunk: nothing when the index is out of
range. The last chunk is what the others leave, or a full one if that is nothing. -/
def expectedChunkSize (fileSize chunkSize numChunks chunkIndex : Nat) : Option Nat :=
  if chunkIndex ≥ numChunks then none
  else
    let lastIdx := numChunks - 1
    if chunkIndex = lastIdx then
      let remainder := wrappingSub fileSize (wrappingMul lastIdx chunkSize)
      some (if remainder = 0 then chunkSize else remainder)
    else some chunkSize

theorem index_lt_of_expectedChunkSize {fileSize chunkSize numChunks chunkIndex size : Nat}
    (expected : expectedChunkSize fileSize chunkSize numChunks chunkIndex = some size) :
    chunkIndex < numChunks := by
  rw [expectedChunkSize] at expected
  split at expected
  · cases expected
  · rename_i inside
    exact not_le.mp inside

/-- The indices that are marked in a list of flags. -/
def markedIndices (flags : List Bool) : List Nat :=
  (List.range flags.length).filter fun i => flags.getD i false

/-- The answer of `handle_query`. -/
def queryResponse (flags : List Bool) : Bytes :=
  toBigEndian 4 (asU32 (markedIndices flags).length) ++
    (markedIndices flags).flatMap fun idx => toBigEndian 4 (asU32 idx)

end BeeSync.Server
