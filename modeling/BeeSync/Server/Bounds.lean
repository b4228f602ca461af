import BeeSync.Encoding.Checked
import BeeSync.Server.Metadata
import BeeSync.Server.Wire

/-!
# The parsers with their bounds checks

`from_bytes` and `parse_handshake` once more, with every index and slice of the source as
a read that may panic. None of them does: the length checks come first.
-/

set_option autoImplicit false

namespace BeeSync.Server

open Encoding

/-- `try_into().unwrap()` of a slice: nothing stands for the panic at another length. -/
def Digest.ofSlice (bytes : Bytes) : Option Digest :=
  if sized : bytes.length = hashSize then some ⟨bytes, sized⟩ else none

theorem Digest.ofSlice_field {data : Bytes} {offset : Nat} (inside : offset + 32 ≤ data.length) :
    Digest.ofSlice (field data offset 32) = some (TransferMetadata.digestAt data offset inside) :=
  dif_pos (field_length inside)

namespace TransferMetadata

/-- One turn of the loop over the entries. -/
def readEntry (data : Bytes) (map : OrderedMap Nat Digest) (i : Nat) :
    Option (OrderedMap Nat Digest) := do
  let offset := headerSize + i * entrySize
  let idx ← numberAt data offset 4
  let bytes ← sliced data (offset + 4) (offset + 36)
  let hash ← Digest.ofSlice bytes
  return map.insert idx hash

/-- `from_bytes`: nothing stands for a panic. -/
def readBytes (data : Bytes) : Option (Except FormatError TransferMetadata) :=
  if data.length < headerSize then some (.error (.tooShort data.length))
  else do
    let magicBytes ← sliced data 0 4
    if magicBytes ≠ magic then return .error (.badMagic magicBytes)
    let versionByte ← data[4]?
    if versionByte ≠ version then return .error (.unsupportedVersion versionByte)
    let chunkSize ← numberAt data 5 4
    let numChunks ← numberAt data 9 4
    let fileSize ← numberAt data 13 8
    let hashBytes ← sliced data 21 53
    let fullHash ← Digest.ofSlice hashBytes
    let count ← numberAt data 53 4
    let expectedLen := headerSize + count * entrySize
    if data.length < expectedLen then return .error (.truncated expectedLen data.length)
    let chunkHashes ← (List.range count).foldlM (readEntry data) .empty
    return .ok {
      chunkSize
      numChunks
      fileSize
      fullHash
      chunkHashes }

theorem readEntry_eq {data : Bytes} {count : Nat}
    (long : headerSize + count * entrySize ≤ data.length) (map : OrderedMap Nat Digest)
    (position : Fin count) :
    readEntry data map position = some (map.insert (decodeEntry data count long position).1
      (decodeEntry data count long position).2) := by
  have bound : (position + 1) * entrySize ≤ count * entrySize :=
    Nat.mul_le_mul_right _ position.isLt
  simp only [headerSize, entrySize] at long bound
  have index : headerSize + position * entrySize + 4 ≤ data.length := by
    simp only [headerSize, entrySize]
    omega
  have hash : headerSize + position * entrySize + 4 + 32 ≤ data.length := by
    simp only [headerSize, entrySize]
    omega
  have bytes : sliced data (headerSize + position * entrySize + 4)
      (headerSize + position * entrySize + 36) =
        some (field data (headerSize + position * entrySize + 4) 32) := by
    rw [sliced_of_le (by omega) hash]
    congr 2
    omega
  simp only [readEntry, numberAt_of_le index, bytes, Digest.ofSlice_field hash,
    Option.bind_eq_bind, Option.bind_some]
  rfl

theorem readEntries_eq {data : Bytes} {count : Nat}
    (long : headerSize + count * entrySize ≤ data.length) :
    (List.range count).foldlM (readEntry data) .empty =
      some (.ofList ((List.finRange count).map (decodeEntry data count long))) := by
  rw [← List.map_coe_finRange_eq_range, List.foldlM_map]
  rw [foldlM_eq_some _ fun map position _ => readEntry_eq long map position, OrderedMap.ofList,
    List.foldl_map]

theorem readBytes_eq (data : Bytes) : readBytes data = some (fromBytes data) := by
  unfold readBytes fromBytes
  split
  · rfl
  rename_i header
  have long : 57 ≤ data.length := not_lt.mp header
  have byte : data[4]? = some (data.getD 4 0) := by
    rw [List.getD_eq_getElem?_getD, List.getElem?_eq_getElem (show 4 < data.length by omega),
      Option.getD_some]
  have magicBytes : sliced data 0 4 = some (field data 0 4) :=
    sliced_of_le (Nat.zero_le 4) (by omega)
  have hashBytes : sliced data 21 53 = some (field data 21 32) :=
    sliced_of_le (by decide) (by omega)
  have hash : 21 + 32 ≤ data.length := by omega
  simp only [magicBytes, byte, hashBytes, numberAt_of_le (show 5 + 4 ≤ data.length by omega),
    numberAt_of_le (show 9 + 4 ≤ data.length by omega),
    numberAt_of_le (show 13 + 8 ≤ data.length by omega),
    numberAt_of_le (show 53 + 4 ≤ data.length by omega), Digest.ofSlice_field hash,
    Option.bind_eq_bind, Option.bind_some]
  split
  · rfl
  split
  · rfl
  split
  case isTrue => rfl
  case isFalse complete =>
    rw [readEntries_eq (not_lt.mp complete)]
    rfl

end TransferMetadata

/-- What is read from a handshake, without the facts that come with it. -/
structure HandshakeFields where
  filename : Bytes
  safeName : Bytes
  fileSize : Nat
  chunkSize : Nat
  numChunks : Nat
  fullHash : Digest

def HandshakeData.fields (handshake : HandshakeData) : HandshakeFields where
  filename := handshake.filename
  safeName := handshake.safeName
  fileSize := handshake.fileSize
  chunkSize := handshake.chunkSize
  numChunks := handshake.numChunks
  fullHash := handshake.fullHash

/-- The metadata behind the file name. -/
def readMetadata (data filename safeName : Bytes) (offset : Nat) :
    Option (Except HandshakeError HandshakeFields) := do
  let fileSize ← numberAt data offset 8
  let chunkSize ← numberAt data (offset + 8) 4
  let numChunks ← numberAt data (offset + 12) 4
  let hashBytes ← sliced data (offset + 16) (offset + 48)
  let fullHash ← Digest.ofSlice hashBytes
  if chunkSize = 0 then return .error .zeroChunkSize
  if numChunks = 0 then return .error .zeroNumChunks
  if numChunks > maxChunks then
    return .error (.tooManyChunks numChunks)
  return .ok {
    filename
    safeName
    fileSize
    chunkSize
    numChunks
    fullHash }

/-- `parse_handshake`: nothing stands for a panic. -/
def readHandshake (data : Bytes) : Option (Except HandshakeError HandshakeFields) :=
  if data.length < Handshake.prefixSize + Handshake.suffixSize then
    some (.error (.tooShort data.length))
  else do
    let magic ← sliced data 0 4
    if magic ≠ Handshake.magic then return .error (.badMagic magic)
    let filenameLen ← numberAt data 4 2
    if filenameLen > maxFilenameLen then return .error (.filenameTooLong filenameLen)
    if data.length < Handshake.prefixSize + filenameLen + Handshake.suffixSize then
      return .error .tooShortForFilename
    let offset := Handshake.prefixSize
    let nameBytes ← sliced data offset (offset + filenameLen)
    match fileName (fromUtf8Lossy nameBytes) with
    | none => return .error .invalidFilename
    | some safeName => readMetadata data (fromUtf8Lossy nameBytes) safeName (offset + filenameLen)

theorem readMetadata_eq {data filename safeName : Bytes} {offset : Nat}
    (inside : offset + 48 ≤ data.length) : readMetadata data filename safeName offset = some (
      if readBigEndian data (offset + 8) 4 = 0 then .error .zeroChunkSize
      else if readBigEndian data (offset + 12) 4 = 0 then .error .zeroNumChunks
      else if readBigEndian data (offset + 12) 4 > maxChunks then
        .error (.tooManyChunks (readBigEndian data (offset + 12) 4))
      else .ok {
        filename
        safeName
        fileSize := readBigEndian data offset 8
        chunkSize := readBigEndian data (offset + 8) 4
        numChunks := readBigEndian data (offset + 12) 4
        fullHash := TransferMetadata.digestAt data (offset + 16) (by omega) }) := by
  have hash : offset + 16 + 32 ≤ data.length := by omega
  have bytes : sliced data (offset + 16) (offset + 48) = some (field data (offset + 16) 32) := by
    rw [sliced_of_le (by omega) inside]
    congr 2
    omega
  simp only [readMetadata, bytes, numberAt_of_le (show offset + 8 ≤ data.length by omega),
    numberAt_of_le (show offset + 8 + 4 ≤ data.length by omega),
    numberAt_of_le (show offset + 12 + 4 ≤ data.length by omega), Digest.ofSlice_field hash,
    Option.bind_eq_bind, Option.bind_some]
  split_ifs
  · rfl
  · rfl
  · rfl
  · rfl

theorem readHandshake_eq (data : Bytes) :
    readHandshake data = some ((parseHandshake data).map HandshakeData.fields) := by
  unfold readHandshake parseHandshake
  split
  · rfl
  rename_i header
  have long : 54 ≤ data.length := not_lt.mp header
  have magic : sliced data 0 4 = some (field data 0 4) := sliced_of_le (Nat.zero_le 4) (by omega)
  simp only [magic, numberAt_of_le (show 4 + 2 ≤ data.length by omega), Option.bind_eq_bind,
    Option.bind_some]
  split
  · rfl
  split
  · rfl
  split
  case isTrue => rfl
  case isFalse complete =>
    simp only [Handshake.prefixSize, Handshake.suffixSize] at complete
    have name : sliced data Handshake.prefixSize
        (Handshake.prefixSize + readBigEndian data 4 2) =
          some (field data Handshake.prefixSize (readBigEndian data 4 2)) := by
      rw [sliced_of_le (by omega) (by simp only [Handshake.prefixSize]; omega),
        Nat.add_sub_cancel_left]
    have inside : Handshake.prefixSize + readBigEndian data 4 2 + 48 ≤ data.length := by
      simp only [Handshake.prefixSize]
      omega
    simp only [name, Option.bind_some, readMetadata_eq inside]
    split
    case h_1 missing =>
      split
      · rfl
      · rename_i found
        cases missing.symm.trans found
    case h_2 safeName found =>
      refine congrArg some ?_
      split_ifs
      all_goals
        split
        · rename_i missing
          cases missing.symm.trans found
        · rename_i found'
          cases found.symm.trans found'
          rfl

end BeeSync.Server
