import BeeSync.Server.Bounds
import BeeSync.Server.Control
import BeeSync.Server.TransferFiles

/-!
# The grammar of a handshake

The frames that are accepted, read byte by byte, and where the files of an accepted
transfer can lie.
-/

set_option autoImplicit false

namespace BeeSync.Server

open Encoding Interaction

/-- A frame that is a handshake. -/
structure IsHandshake (data : Bytes) : Prop where
  long : 54 ≤ data.length
  magic : field data 0 4 = Handshake.magic
  nameLen : readBigEndian data 4 2 ≤ 255
  complete : 54 + readBigEndian data 4 2 ≤ data.length
  named : ∃ name, fileName (fromUtf8Lossy (field data 6 (readBigEndian data 4 2))) = some name
  chunkSize : 0 < readBigEndian data (6 + readBigEndian data 4 2 + 8) 4
  numChunks : 1 ≤ readBigEndian data (6 + readBigEndian data 4 2 + 12) 4
  numChunks_le : readBigEndian data (6 + readBigEndian data 4 2 + 12) 4 ≤ 1000000

/-- The path is an entry of the directory. -/
structure IsEntryOf (dir : Bytes) (path : FilePath) : Prop where
  dir : path.dir = dir
  name : IsComponent path.name

theorem IsHandshake.accepted {data : Bytes} (grammar : IsHandshake data) :
    ∃ handshake, parseHandshake data = .ok handshake := by
  obtain ⟨long, magic, nameLen, complete, ⟨name, named⟩, chunkSize, numChunks, numChunks_le⟩ :=
    grammar
  refine ⟨⟨_, name, readBigEndian data (6 + readBigEndian data 4 2) 8, _, _,
    TransferMetadata.digestAt data (6 + readBigEndian data 4 2 + 16) (by omega), named,
    readBigEndian_lt data _ 8, chunkSize, readBigEndian_lt data _ 4, numChunks, numChunks_le⟩, ?_⟩
  rw [parseHandshake_eq_ok_iff]
  refine ⟨magic, nameLen, ?_, rfl, rfl, rfl, rfl, rfl⟩
  simp only [Handshake.prefixSize, Handshake.suffixSize]
  omega

theorem HandshakeData.ReadFrom.isHandshake {data : Bytes} {handshake : HandshakeData}
    (read : handshake.ReadFrom data) : IsHandshake data := by
  have complete := read.complete
  simp only [Handshake.prefixSize, Handshake.suffixSize] at complete
  constructor
  · omega
  · exact read.magic
  · exact read.nameLen
  · omega
  · have named := handshake.safe
    rw [read.filename] at named
    exact ⟨_, named⟩
  · have positive := handshake.chunkSize_pos
    rwa [read.chunkSize] at positive
  · have positive := handshake.numChunks_pos
    rwa [read.numChunks] at positive
  · have bounded := handshake.numChunks_le
    rwa [read.numChunks] at bounded

section Names

variable {name : Bytes} (component : IsComponent name)

include component

theorem isEntryOf_partPath (dir : Bytes) (idx : Nat) :
    IsEntryOf dir (TransferMetadata.partPath dir name idx) := by
  refine ⟨rfl, ?_⟩
  rw [TransferMetadata.partPath, List.append_assoc]
  refine component.append ?_ ?_
  · intro member
    obtain part | number := List.mem_append.mp member
    · exact absurd part (by decide)
    · exact absurd (decimal_isDigit number) (by decide)
  · have suffix : (ascii ".part").length = 5 := rfl
    rw [List.length_append]
    omega

theorem isEntryOf_metaPath (dir : Bytes) :
    IsEntryOf dir (TransferMetadata.metaPath dir name) :=
  ⟨rfl, component.append (by decide) (by decide)⟩

theorem isEntryOf_tmpPath (dir : Bytes) : IsEntryOf dir (TransferMetadata.tmpPath dir name) := by
  refine ⟨rfl, ?_⟩
  rw [TransferMetadata.tmpPath, List.append_assoc]
  exact component.append (by decide) (by decide)

end Names

/-- Every byte string is parsed without leaving it. It is accepted just if it is a handshake,
the fields are those at their offsets, and no file of the transfer lies outside its directory. -/
theorem parseHandshake_grammar (data : Bytes) :
    readHandshake data = some ((parseHandshake data).map HandshakeData.fields) ∧
      ((∃ handshake, parseHandshake data = .ok handshake) ↔ IsHandshake data) ∧
      ∀ handshake, parseHandshake data = .ok handshake →
        handshake.ReadFrom data ∧ IsComponent handshake.safeName ∧
          ∀ outputDir tempDir : Bytes,
            IsEntryOf outputDir (handshake.receiver outputDir tempDir).finalPath ∧
            IsEntryOf tempDir (handshake.receiver outputDir tempDir).metaPath ∧
            IsEntryOf tempDir (handshake.receiver outputDir tempDir).tmpPath ∧
            ∀ idx, IsEntryOf tempDir ((handshake.receiver outputDir tempDir).partPath idx) := by
  refine ⟨readHandshake_eq data, ⟨?_, IsHandshake.accepted⟩, fun handshake accepted => ?_⟩
  · intro ⟨handshake, accepted⟩
    exact (parseHandshake_eq_ok_iff.mp accepted).isHandshake
  · have component := fileName_isComponent handshake.safe
    refine ⟨parseHandshake_eq_ok_iff.mp accepted, component, fun outputDir tempDir => ?_⟩
    exact ⟨⟨rfl, component⟩, isEntryOf_metaPath component tempDir,
      isEntryOf_tmpPath component tempDir, isEntryOf_partPath component tempDir⟩

end BeeSync.Server
