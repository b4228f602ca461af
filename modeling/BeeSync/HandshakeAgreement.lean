import BeeSync.Client.Wire
import BeeSync.Server.Wire

/-!
# Agreement on the handshake

The server reads the fields the client wrote whenever each of them fits its width
on the wire. The three narrowing casts of the encoder decide what happens beyond:
a field that wraps around either is refused by a range check or is taken at face
value. The port list of the response has the same kind of limit in its count.
-/

set_option autoImplicit false

namespace BeeSync

open Encoding Arithmetic

section Layout

variable {name : Bytes} {fileSize chunkSize : Nat} {fullHash : Digest}

/-- What follows the file name in a handshake. -/
private def handshakeSuffix (fileSize chunkSize : Nat) (fullHash : Digest) : Bytes :=
  toBigEndian 8 fileSize ++ (toBigEndian 4 (asU32 chunkSize) ++
    (toBigEndian 4 (asU32 (Client.numChunks fileSize chunkSize)) ++ fullHash.bytes))

private def handshakePrefix (name : Bytes) : Bytes :=
  Handshake.magic ++ (toBigEndian 2 (asU16 name.length) ++ name)

private theorem encodeHandshake_eq :
    Client.encodeHandshake name fileSize chunkSize fullHash =
      handshakePrefix name ++ handshakeSuffix fileSize chunkSize fullHash := by
  simp only [Client.encodeHandshake, handshakePrefix, handshakeSuffix, List.append_assoc]

private theorem handshakePrefix_length :
    (handshakePrefix name).length = Handshake.prefixSize + name.length := by
  simp only [handshakePrefix, Handshake.magic, List.length_append, toBigEndian_length,
    List.length_cons, List.length_nil, Handshake.prefixSize]
  omega

theorem encodeHandshake_length :
    (Client.encodeHandshake name fileSize chunkSize fullHash).length =
      Handshake.prefixSize + name.length + Handshake.suffixSize := by
  have hash := fullHash.sized
  rw [encodeHandshake_eq, List.length_append, handshakePrefix_length]
  simp only [handshakeSuffix, List.length_append, toBigEndian_length, hash, hashSize,
    Handshake.suffixSize]

theorem encodeHandshake_magic :
    field (Client.encodeHandshake name fileSize chunkSize fullHash) 0 4 = Handshake.magic := by
  rw [encodeHandshake_eq, handshakePrefix, List.append_assoc]
  exact field_zero_append rfl

/-- The announced length is the length of the name modulo the field's range. -/
theorem encodeHandshake_nameLen :
    readBigEndian (Client.encodeHandshake name fileSize chunkSize fullHash) 4 2 =
      name.length % 2 ^ 16 := by
  rw [encodeHandshake_eq, handshakePrefix, List.append_assoc, List.append_assoc,
    readBigEndian_append_right (by decide)]
  refine readBigEndian_zero_append.trans ?_
  simp only [asU16]
  omega

/-- The bytes the server takes for the name, when it announces no more than there are. -/
theorem encodeHandshake_filename {length : Nat} (inside : length ≤ name.length) :
    field (Client.encodeHandshake name fileSize chunkSize fullHash) Handshake.prefixSize length =
      name.take length := by
  rw [encodeHandshake_eq, handshakePrefix, ← List.append_assoc, List.append_assoc,
    field_append_right (by simp [Handshake.magic, Handshake.prefixSize])]
  simp only [Handshake.magic, List.length_append, toBigEndian_length, List.length_cons,
    List.length_nil, Handshake.prefixSize, field]
  exact List.take_append_of_le_length inside

private theorem readBigEndian_suffix {offset width : Nat} :
    readBigEndian (Client.encodeHandshake name fileSize chunkSize fullHash)
        (Handshake.prefixSize + name.length + offset) width =
      readBigEndian (handshakeSuffix fileSize chunkSize fullHash) offset width := by
  rw [encodeHandshake_eq, readBigEndian_append_right (by rw [handshakePrefix_length]; omega),
    handshakePrefix_length, Nat.add_sub_cancel_left]

theorem encodeHandshake_fileSize (fits : fileSize < 2 ^ 64) :
    readBigEndian (Client.encodeHandshake name fileSize chunkSize fullHash)
      (Handshake.prefixSize + name.length) 8 = fileSize := by
  rw [← Nat.add_zero (Handshake.prefixSize + name.length), readBigEndian_suffix, handshakeSuffix,
    readBigEndian_zero_append]
  exact Nat.mod_eq_of_lt fits

theorem encodeHandshake_chunkSize :
    readBigEndian (Client.encodeHandshake name fileSize chunkSize fullHash)
      (Handshake.prefixSize + name.length + 8) 4 = chunkSize % 2 ^ 32 := by
  rw [readBigEndian_suffix, handshakeSuffix,
    readBigEndian_append_right (by rw [toBigEndian_length]), toBigEndian_length]
  refine readBigEndian_zero_append.trans ?_
  simp only [asU32]
  omega

theorem encodeHandshake_numChunks :
    readBigEndian (Client.encodeHandshake name fileSize chunkSize fullHash)
      (Handshake.prefixSize + name.length + 12) 4 =
        Client.numChunks fileSize chunkSize % 2 ^ 32 := by
  rw [readBigEndian_suffix, handshakeSuffix,
    readBigEndian_append_right (by rw [toBigEndian_length]; omega), toBigEndian_length,
    readBigEndian_append_right (by rw [toBigEndian_length]), toBigEndian_length]
  refine readBigEndian_zero_append.trans ?_
  simp only [asU32]
  omega

theorem encodeHandshake_fullHash :
    field (Client.encodeHandshake name fileSize chunkSize fullHash)
      (Handshake.prefixSize + name.length + 16) 32 = fullHash.bytes := by
  rw [encodeHandshake_eq, handshakeSuffix, ← List.append_assoc (toBigEndian 4 _),
    ← List.append_assoc (toBigEndian 8 _), ← List.append_assoc]
  refine field_append_end ?_ fullHash.sized
  simp only [List.length_append, handshakePrefix_length, toBigEndian_length]

/-- Behind an announced length below the real one, the server reads the name itself. -/
theorem encodeHandshake_inside {length offset width : Nat}
    (inside : length + offset + width ≤ name.length) :
    readBigEndian (Client.encodeHandshake name fileSize chunkSize fullHash)
      (Handshake.prefixSize + length + offset) width =
        readBigEndian name (length + offset) width := by
  rw [encodeHandshake_eq, handshakePrefix, ← List.append_assoc, List.append_assoc,
    readBigEndian_append_right
      (by simp only [Handshake.magic, List.length_append, toBigEndian_length, List.length_cons,
        List.length_nil, Handshake.prefixSize]; omega)]
  simp only [Handshake.magic, List.length_append, toBigEndian_length, List.length_cons,
    List.length_nil, Handshake.prefixSize, readBigEndian, field]
  rw [show 6 + length + offset - (0 + 1 + 1 + 1 + 1 + 2) = length + offset by omega,
    List.drop_append_of_le_length (by omega), List.take_append_of_le_length (by
      rw [List.length_drop]; omega)]

end Layout

/-- A parsed handshake states the values by which the client cuts the file. -/
structure SameTransfer (handshake : Server.HandshakeData) (name : Bytes)
    (fileSize chunkSize : Nat) (fullHash : Digest) : Prop where
  sameName : handshake.safeName = name
  sameFileSize : handshake.fileSize = fileSize
  sameChunkSize : handshake.chunkSize = chunkSize
  sameNumChunks : handshake.numChunks = Client.numChunks fileSize chunkSize
  sameHash : handshake.fullHash = fullHash

/-- The server accepts the client's handshake only under the client's own values. -/
def HandshakeAgrees (name : Bytes) (fileSize chunkSize : Nat) (fullHash : Digest) : Prop :=
  ∀ handshake, Server.parseHandshake (Client.encodeHandshake name fileSize chunkSize fullHash) =
    .ok handshake → SameTransfer handshake name fileSize chunkSize fullHash

/-- Every field of the handshake fits its width on the wire. -/
structure FieldsFit (name : Bytes) (fileSize chunkSize : Nat) : Prop where
  nameFits : name.length < 2 ^ 16
  chunkSizeFits : chunkSize < 2 ^ 32
  numChunksFits : Client.numChunks fileSize chunkSize < 2 ^ 32

/-- Some field, as it stands on the wire after the casts, is out of the accepted
range. Behind a name whose length wrapped around, the name itself is read as the
fields that should follow it. -/
def RefusedOnWire (name : Bytes) (fileSize chunkSize : Nat) : Prop :=
  if name.length < 2 ^ 16 then
    Server.maxFilenameLen < name.length ∨ asU32 chunkSize = 0 ∨
      asU32 (Client.numChunks fileSize chunkSize) = 0 ∨
      Server.maxChunks < asU32 (Client.numChunks fileSize chunkSize)
  else
    let length := asU16 name.length
    Server.maxFilenameLen < length ∨ fileName (fromUtf8Lossy (name.take length)) = none ∨
      readBigEndian name (length + 8) 4 = 0 ∨ readBigEndian name (length + 12) 4 = 0 ∨
      Server.maxChunks < readBigEndian name (length + 12) 4

section Agreement

variable {name : Bytes} {fileSize chunkSize : Nat} {fullHash : Digest}

/-- A handshake read from the client's frame with an unwrapped name length has the
client's name, file size and hash, and the other two fields as cast. -/
theorem ReadFrom.of_short {handshake : Server.HandshakeData} (short : name.length < 2 ^ 16)
    (lossless : fromUtf8Lossy name = name) (component : IsComponent name)
    (size : fileSize < 2 ^ 64)
    (read : handshake.ReadFrom (Client.encodeHandshake name fileSize chunkSize fullHash)) :
    name.length ≤ Server.maxFilenameLen ∧ handshake.safeName = name ∧
      handshake.fileSize = fileSize ∧ handshake.chunkSize = asU32 chunkSize ∧
      handshake.numChunks = asU32 (Client.numChunks fileSize chunkSize) ∧
      handshake.fullHash = fullHash := by
  obtain ⟨_, nameLen, _, filename, readSize, readChunk, readCount, readHash⟩ := read
  have announced : readBigEndian (Client.encodeHandshake name fileSize chunkSize fullHash) 4 2 =
      name.length := encodeHandshake_nameLen.trans (Nat.mod_eq_of_lt short)
  rw [announced] at nameLen filename readSize readChunk readCount readHash
  rw [encodeHandshake_filename (le_refl _), List.take_length, lossless] at filename
  rw [encodeHandshake_fileSize size] at readSize
  rw [encodeHandshake_chunkSize] at readChunk
  rw [encodeHandshake_numChunks] at readCount
  rw [encodeHandshake_fullHash] at readHash
  have safe := handshake.safe
  rw [filename, component.fileName_eq, Option.some.injEq] at safe
  exact ⟨nameLen, safe.symm, readSize, readChunk, readCount, Digest.ext readHash⟩

/-- The server accepts a frame whose fields, as they stand on the wire, are in range. -/
theorem parseHandshake_encodeHandshake (name : Bytes) (fileSize chunkSize : Nat)
    (fullHash : Digest) {filenameLen : Nat} {safeName : Bytes}
    (announced : name.length % 2 ^ 16 = filenameLen)
    (nameLen : filenameLen ≤ Server.maxFilenameLen)
    (safe : fileName (fromUtf8Lossy (name.take filenameLen)) = some safeName)
    (chunk : readBigEndian (Client.encodeHandshake name fileSize chunkSize fullHash)
      (Handshake.prefixSize + filenameLen + 8) 4 ≠ 0)
    (chunks : readBigEndian (Client.encodeHandshake name fileSize chunkSize fullHash)
      (Handshake.prefixSize + filenameLen + 12) 4 ≠ 0)
    (few : readBigEndian (Client.encodeHandshake name fileSize chunkSize fullHash)
      (Handshake.prefixSize + filenameLen + 12) 4 ≤ Server.maxChunks) :
    ∃ handshake, Server.parseHandshake (Client.encodeHandshake name fileSize chunkSize fullHash) =
      .ok handshake ∧ handshake.safeName = safeName := by
  have inside : filenameLen ≤ name.length := announced ▸ Nat.mod_le _ _
  have complete : Handshake.prefixSize + filenameLen + Handshake.suffixSize ≤
      (Client.encodeHandshake name fileSize chunkSize fullHash).length := by
    rw [encodeHandshake_length]
    omega
  refine ⟨{
    filename := fromUtf8Lossy (name.take filenameLen)
    safeName, safe
    fileSize := readBigEndian (Client.encodeHandshake name fileSize chunkSize fullHash)
      (Handshake.prefixSize + filenameLen) 8
    fileSize_lt := readBigEndian_lt _ _ 8
    chunkSize := _
    chunkSize_pos := Nat.pos_of_ne_zero chunk
    chunkSize_lt := readBigEndian_lt _ _ 4
    numChunks := _
    numChunks_pos := Nat.pos_of_ne_zero chunks
    numChunks_le := few
    fullHash := ⟨field (Client.encodeHandshake name fileSize chunkSize fullHash)
      (Handshake.prefixSize + filenameLen + 16) 32, field_length (by
        simp only [Handshake.suffixSize] at complete
        omega)⟩ }, Server.parseHandshake_eq_ok_iff.mpr ?_, rfl⟩
  constructor <;> try rw [encodeHandshake_nameLen, announced]
  case magic => exact encodeHandshake_magic
  case nameLen => exact nameLen
  case complete => exact complete
  case filename => rw [encodeHandshake_filename inside]

/-- Without wrapping in the name, agreement fails exactly when a cast changes a
field into an acceptable one. -/
private theorem handshakeAgrees_short (short : name.length < 2 ^ 16)
    (lossless : fromUtf8Lossy name = name) (component : IsComponent name)
    (size : fileSize < 2 ^ 64) :
    HandshakeAgrees name fileSize chunkSize fullHash ↔
      FieldsFit name fileSize chunkSize ∨ RefusedOnWire name fileSize chunkSize := by
  unfold RefusedOnWire
  rw [if_pos short]
  constructor
  · intro agrees
    by_contra outside
    push Not at outside
    obtain ⟨misfit, nameLen, chunk, chunks, few⟩ := outside
    have whole : name.take name.length = name := List.take_length
    obtain ⟨handshake, accepted, _⟩ := parseHandshake_encodeHandshake name fileSize
      chunkSize fullHash (Nat.mod_eq_of_lt short) nameLen
      (by rw [whole, lossless]; exact component.fileName_eq)
      (by rw [encodeHandshake_chunkSize]; exact chunk)
      (by rw [encodeHandshake_numChunks]; exact chunks)
      (by rw [encodeHandshake_numChunks]; exact few)
    have same := agrees handshake accepted
    obtain ⟨_, _, _, readChunk, readCount, _⟩ :=
      ReadFrom.of_short short lossless component size
        (Server.parseHandshake_eq_ok_iff.mp accepted)
    refine misfit ⟨short, ?_, ?_⟩
    · rw [← same.sameChunkSize, readChunk]
      exact asU32_lt _
    · rw [← same.sameNumChunks, readCount]
      exact asU32_lt _
  · intro condition handshake accepted
    have read := Server.parseHandshake_eq_ok_iff.mp accepted
    obtain ⟨nameLen, safeName, readSize, readChunk, readCount, readHash⟩ :=
      ReadFrom.of_short short lossless component size read
    rcases condition with fits | nameLong | noChunk | noChunks | many
    · rw [asU32_of_lt fits.chunkSizeFits] at readChunk
      rw [asU32_of_lt fits.numChunksFits] at readCount
      exact ⟨safeName, readSize, readChunk, readCount, readHash⟩
    · exact absurd nameLen (not_le.mpr nameLong)
    · exact absurd (readChunk.trans noChunk) handshake.chunkSize_pos.ne'
    · exact absurd (readCount.trans noChunks) handshake.numChunks_pos.ne'
    · exact absurd handshake.numChunks_le (by rw [readCount]; exact not_le.mpr many)

/-- A name whose length wraps around is never parsed as itself. -/
private theorem handshakeAgrees_long (long : ¬ name.length < 2 ^ 16) :
    HandshakeAgrees name fileSize chunkSize fullHash ↔
      FieldsFit name fileSize chunkSize ∨ RefusedOnWire name fileSize chunkSize := by
  have room : asU16 name.length < 2 ^ 16 := Nat.mod_lt _ (by decide)
  unfold RefusedOnWire
  rw [if_neg long]
  dsimp only
  generalize announced : asU16 name.length = length at room
  constructor
  · intro agrees
    by_contra outside
    push Not at outside
    obtain ⟨_, nameLen, named, chunk, chunks, few⟩ := outside
    obtain ⟨safeName, found⟩ := Option.ne_none_iff_exists'.mp named
    have behind : length + 16 ≤ name.length := by
      simp only [Server.maxFilenameLen] at nameLen
      omega
    obtain ⟨handshake, accepted, parsed⟩ := parseHandshake_encodeHandshake name fileSize
      chunkSize fullHash announced nameLen found
      (by rw [encodeHandshake_inside (by omega)]; exact chunk)
      (by rw [encodeHandshake_inside (by omega)]; exact chunks)
      (by rw [encodeHandshake_inside (by omega)]; exact few)
    have same := (agrees handshake accepted).sameName
    have bound := fileName_length_le found
    have lossy := fromUtf8Lossy_length_le (name.take length)
    rw [← parsed, same] at bound
    rw [List.length_take] at lossy
    simp only [Server.maxFilenameLen] at nameLen
    omega
  · intro condition handshake accepted
    exfalso
    obtain ⟨_, nameLen, _, filename, _, readChunk, readCount, _⟩ :=
      Server.parseHandshake_eq_ok_iff.mp accepted
    have wrapped : readBigEndian (Client.encodeHandshake name fileSize chunkSize fullHash) 4 2 =
        length := encodeHandshake_nameLen.trans announced
    rw [wrapped] at nameLen filename readChunk readCount
    simp only [Server.maxFilenameLen] at nameLen
    rw [encodeHandshake_filename (by omega)] at filename
    rw [encodeHandshake_inside (by omega)] at readChunk readCount
    rcases condition with fits | nameLong | unnamed | noChunk | noChunks | many
    · exact long fits.nameFits
    · exact absurd nameLen (not_le.mpr nameLong)
    · have safe := handshake.safe
      rw [filename, unnamed] at safe
      cases safe
    · exact absurd (readChunk.trans noChunk) handshake.chunkSize_pos.ne'
    · exact absurd (readCount.trans noChunks) handshake.numChunks_pos.ne'
    · exact absurd handshake.numChunks_le (by rw [readCount]; exact not_le.mpr many)

end Agreement

/-- Client and server agree on every accepted handshake exactly when each field fits
its width on the wire, or what is left of it after the casts is out of range. -/
theorem handshake_agreement_iff (text : String) (fileSize chunkSize : Nat) (fullHash : Digest)
    (component : IsComponent (utf8 text)) (size : fileSize < 2 ^ 64) :
    HandshakeAgrees (utf8 text) fileSize chunkSize fullHash ↔
      FieldsFit (utf8 text) fileSize chunkSize ∨ RefusedOnWire (utf8 text) fileSize chunkSize := by
  by_cases short : (utf8 text).length < 2 ^ 16
  · exact handshakeAgrees_short short (fromUtf8Lossy_utf8 text) component size
  · exact handshakeAgrees_long short

/-- The condition decided for a ten-byte file and a chunk size of 2^32 + 1. -/
theorem handshake_agreement_iff_wrapped :
    HandshakeAgrees (utf8 "data.bin") 10 (2 ^ 32 + 1) ⟨List.replicate 32 0, rfl⟩ ↔
      FieldsFit (utf8 "data.bin") 10 (2 ^ 32 + 1) ∨
        RefusedOnWire (utf8 "data.bin") 10 (2 ^ 32 + 1) :=
  handshake_agreement_iff "data.bin" 10 (2 ^ 32 + 1) _ (by decide) (by decide)

/-- A chunk size of 2^32 + 1 is accepted as a chunk size of 1. -/
theorem handshake_disagreement_wrapped :
    ¬ HandshakeAgrees (utf8 "data.bin") 10 (2 ^ 32 + 1) ⟨List.replicate 32 0, rfl⟩ := by
  rw [handshakeAgrees_short (by decide) (fromUtf8Lossy_utf8 _) (by decide) (by decide)]
  rintro (fits | refused)
  · exact absurd fits.chunkSizeFits (by decide)
  · rw [RefusedOnWire, if_pos (by decide)] at refused
    exact absurd refused (by decide)

/-- The client reads as many of the ports as the count byte says. -/
theorem parseResponse_handshakeResponse (status : UInt8) (ports : List UInt16) :
    Client.parseResponse (Server.handshakeResponse status ports) =
      .ok (status, ports.take (ports.length % 2 ^ 8)) := by
  have fixed : ∀ port : UInt16, (toBigEndian 2 port.toNat).length = 2 := fun _ =>
    toBigEndian_length _ _
  have count : (UInt8.ofNat ports.length).toNat = ports.length % 2 ^ 8 := UInt8.toNat_ofNat'
  have bound : ports.length % 2 ^ 8 ≤ ports.length := Nat.mod_le _ _
  simp only [Server.handshakeResponse, Client.parseResponse, List.length_cons, count,
    flatMap_length fixed]
  rw [if_neg (by omega)]
  refine congrArg Except.ok (Prod.ext rfl ?_)
  refine List.ext_getElem (by simp; omega) fun index inside _ => ?_
  rw [List.length_map, List.length_range] at inside
  rw [List.getElem_map, List.getElem_range, List.getElem_take, Client.responsePort]
  have listed : index < ports.length := by omega
  have record := field_flatMap fixed ports [] listed
  rw [List.append_nil] at record
  rw [readBigEndian, show ∀ rest : Bytes, field (status :: UInt8.ofNat ports.length :: rest)
    (2 + index * 2) 2 = field rest (index * 2) 2 from fun rest => by
      rw [Nat.add_comm 2]; rfl, record, ofBigEndian_toBigEndian_of_lt (UInt16.toNat_lt _)]
  exact UInt16.ofNat_toNat

/-- The response is read back as it was sent exactly when its ports fit the count byte. -/
theorem handshake_response_round_trip_iff (status : UInt8) (ports : List UInt16) :
    Client.parseResponse (Server.handshakeResponse status ports) = .ok (status, ports) ↔
      ports.length < 2 ^ 8 := by
  rw [parseResponse_handshakeResponse]
  constructor
  · intro same
    have whole : ports.take (ports.length % 2 ^ 8) = ports :=
      congrArg Prod.snd (Except.ok.inj same)
    have counted := congrArg List.length whole
    rw [List.length_take] at counted
    omega
  · intro fits
    rw [Nat.mod_eq_of_lt fits, List.take_length]

/-- With 256 ports, as a server with a larger parallel limit allocates them, the
client reads none. -/
theorem handshake_response_256_ports :
    Client.parseResponse (Server.handshakeResponse Handshake.respOk
        ((List.range 256).map fun index => UInt16.ofNat (45000 + index))) ≠
      .ok (Handshake.respOk, (List.range 256).map fun index => UInt16.ofNat (45000 + index)) := by
  rw [parseResponse_handshakeResponse]
  intro same
  have counted := congrArg List.length (congrArg Prod.snd (Except.ok.inj same))
  simp only [List.length_take, List.length_map, List.length_range] at counted
  exact absurd counted (by decide)

end BeeSync
