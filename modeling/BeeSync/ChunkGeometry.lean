import BeeSync.Client.Wire
import BeeSync.Server.Wire

/-!
# Agreement on the chunks

The client cuts the file at multiples of the chunk size; the server recomputes the
size of each chunk from the handshake. Both computations give the same pieces of
every non-empty file whose chunk count fits the wire.
-/

set_option autoImplicit false

namespace BeeSync

open Encoding Arithmetic

section Ranges

variable {fileSize chunkSize idx : Nat}

theorem numChunks_of_pos (nonempty : 0 < fileSize) :
    Client.numChunks fileSize chunkSize = divCeil fileSize chunkSize :=
  if_pos nonempty

/-- A chunk index is in range when its offset lies within a non-empty file. -/
theorem lt_numChunks_iff (nonempty : 0 < fileSize) (positive : 0 < chunkSize) :
    idx < Client.numChunks fileSize chunkSize ↔ idx * chunkSize < fileSize := by
  rw [numChunks_of_pos nonempty, lt_divCeil_iff positive]

theorem numChunks_pos (positive : 0 < chunkSize) : 0 < Client.numChunks fileSize chunkSize := by
  unfold Client.numChunks
  split
  case isTrue nonempty => exact divCeil_pos positive nonempty
  case isFalse => exact Nat.one_pos

/-- The last chunk starts before the end of a non-empty file and reaches it. -/
theorem last_chunk (nonempty : 0 < fileSize) (positive : 0 < chunkSize) :
    (Client.numChunks fileSize chunkSize - 1) * chunkSize < fileSize ∧
      fileSize ≤ (Client.numChunks fileSize chunkSize - 1) * chunkSize + chunkSize := by
  have some : 0 < Client.numChunks fileSize chunkSize := numChunks_pos positive
  constructor
  · exact (lt_numChunks_iff nonempty positive).mp (by omega)
  · rw [← Nat.succ_mul, show (Client.numChunks fileSize chunkSize - 1).succ =
      Client.numChunks fileSize chunkSize by omega, numChunks_of_pos nonempty]
    exact le_divCeil_mul positive

theorem chunkRange_of_le (size : fileSize < 2 ^ 64) (inside : idx * chunkSize ≤ fileSize) :
    Client.chunkRange fileSize chunkSize idx =
      some (idx * chunkSize, min chunkSize (fileSize - idx * chunkSize)) := by
  have fits : idx * chunkSize < 2 ^ 64 := lt_of_le_of_lt inside size
  simp only [Client.chunkRange, checkedMul, if_pos fits, if_pos inside]

/-- The client's offsets exist for all its chunks, also for the one of an empty file. -/
theorem chunkRange_eq (size : fileSize < 2 ^ 64) (positive : 0 < chunkSize)
    (inRange : idx < Client.numChunks fileSize chunkSize) :
    Client.chunkRange fileSize chunkSize idx =
      some (idx * chunkSize, min chunkSize (fileSize - idx * chunkSize)) := by
  refine chunkRange_of_le size ?_
  rcases Nat.eq_zero_or_pos fileSize with rfl | nonempty
  · have first : idx = 0 := by simpa [Client.numChunks] using inRange
    rw [first, Nat.zero_mul]
  · exact le_of_lt ((lt_numChunks_iff nonempty positive).mp inRange)

/-- The server expects what the client sends of each chunk of a non-empty file. -/
theorem expectedChunkSize_eq (size : fileSize < 2 ^ 64) (positive : 0 < chunkSize)
    (nonempty : 0 < fileSize) (inRange : idx < Client.numChunks fileSize chunkSize) :
    Server.expectedChunkSize fileSize chunkSize (Client.numChunks fileSize chunkSize) idx =
      some (min chunkSize (fileSize - idx * chunkSize)) := by
  obtain ⟨starts, reaches⟩ := last_chunk nonempty positive
  simp only [Server.expectedChunkSize, if_neg (not_le.mpr inRange)]
  by_cases last : idx = Client.numChunks fileSize chunkSize - 1
  · rw [if_pos last, wrappingMul_of_lt (starts.trans size), wrappingSub_of_le (le_of_lt starts) size,
      if_neg (by omega), ← last, min_eq_right (by rw [last]; omega)]
  · have next : (idx + 1) * chunkSize ≤ (Client.numChunks fileSize chunkSize - 1) * chunkSize :=
      Nat.mul_le_mul_right _ (by omega)
    rw [Nat.succ_mul] at next
    rw [if_neg last, min_eq_left (by omega)]

theorem tiles_chunkRanges (size : fileSize < 2 ^ 64) (positive : 0 < chunkSize) :
    Tiles 0 ((List.range (Client.numChunks fileSize chunkSize)).filterMap
      (Client.chunkRange fileSize chunkSize)) fileSize := by
  have ranges : (List.range (Client.numChunks fileSize chunkSize)).filterMap
      (Client.chunkRange fileSize chunkSize) =
        (List.range (Client.numChunks fileSize chunkSize)).map fun idx =>
          (idx * chunkSize, min chunkSize (fileSize - idx * chunkSize)) := by
    rw [← List.filterMap_eq_map]
    refine List.filterMap_congr fun idx member => ?_
    exact chunkRange_eq size positive (List.mem_range.mp member)
  have inside : ∀ idx < Client.numChunks fileSize chunkSize, idx * chunkSize ≤ fileSize := by
    intro idx inRange
    rcases Nat.eq_zero_or_pos fileSize with rfl | nonempty
    · have first : idx = 0 := by simpa [Client.numChunks] using inRange
      rw [first, Nat.zero_mul]
    · exact le_of_lt ((lt_numChunks_iff nonempty positive).mp inRange)
  have covered : fileSize ≤ Client.numChunks fileSize chunkSize * chunkSize := by
    rcases Nat.eq_zero_or_pos fileSize with rfl | nonempty
    · exact Nat.zero_le _
    · rw [numChunks_of_pos nonempty]
      exact le_divCeil_mul positive
  have tiled := tiles_range inside
  rwa [min_eq_right covered, ← ranges] at tiled

end Ranges

/-- Client and server agree on the chunks of a file: the client finds a range for
each, the ranges tile the file, and the server, which has the handshake's fields as
cast to their widths, expects the size of each range. -/
structure GeometryAgrees (fileSize chunkSize : Nat) : Prop where
  ranges : ∀ idx < Client.numChunks fileSize chunkSize,
    (Client.chunkRange fileSize chunkSize idx).isSome
  tiles : Tiles 0 ((List.range (Client.numChunks fileSize chunkSize)).filterMap
    (Client.chunkRange fileSize chunkSize)) fileSize
  sizes : ∀ idx < Client.numChunks fileSize chunkSize, ∀ offset actualSize,
    Client.chunkRange fileSize chunkSize idx = some (offset, actualSize) →
      Server.expectedChunkSize fileSize (asU32 chunkSize)
        (asU32 (Client.numChunks fileSize chunkSize)) (asU32 idx) = some actualSize

/-- The chunks agree exactly for a non-empty file whose chunk count fits 32 bits. -/
theorem chunk_geometry_agrees_iff (fileSize chunkSize : Nat) (size : fileSize < 2 ^ 64)
    (positive : 1 ≤ chunkSize) (narrow : chunkSize < 2 ^ 32) :
    GeometryAgrees fileSize chunkSize ↔
      0 < fileSize ∧ Client.numChunks fileSize chunkSize < 2 ^ 32 := by
  have chunk := asU32_of_lt narrow
  constructor
  · intro agrees
    constructor
    · -- the one chunk of an empty file has no bytes, but the server expects a full one
      by_contra empty
      have zero : fileSize = 0 := by omega
      subst zero
      have first : 0 < Client.numChunks 0 chunkSize := numChunks_pos positive
      have expected := agrees.sizes 0 first _ _ (chunkRange_eq size positive first)
      simp [Client.numChunks, Server.expectedChunkSize, asU32, wrappingSub, wrappingMul] at expected
      omega
    · -- a wrapped count leaves the index 2^32 - 1 out of the server's range
      by_contra many
      have inRange : 2 ^ 32 - 1 < Client.numChunks fileSize chunkSize := by omega
      have expected := agrees.sizes _ inRange _ _ (chunkRange_eq size positive inRange)
      have wrapped := asU32_lt (Client.numChunks fileSize chunkSize)
      rw [Server.expectedChunkSize, asU32_of_lt (by decide : 2 ^ 32 - 1 < 2 ^ 32),
        if_pos (by omega)] at expected
      cases expected
  · rintro ⟨nonempty, few⟩
    refine ⟨fun idx inRange => ?_, tiles_chunkRanges size positive, ?_⟩
    · rw [chunkRange_eq size positive inRange]
      rfl
    · intro idx inRange offset actualSize found
      rw [chunkRange_eq size positive inRange] at found
      rw [chunk, asU32_of_lt few, asU32_of_lt (inRange.trans few),
        expectedChunkSize_eq size positive nonempty inRange]
      exact congrArg (Option.map Prod.snd) found

/-- The condition decided for a file of two full chunks and a tail. -/
theorem chunk_geometry_agrees_iff_tail :
    GeometryAgrees 2500 1024 ↔ 0 < 2500 ∧ Client.numChunks 2500 1024 < 2 ^ 32 :=
  chunk_geometry_agrees_iff 2500 1024 (by decide) (by decide) (by decide)

/-- The only chunk of an empty file is refused for its size. -/
theorem chunk_geometry_empty_file : ¬ GeometryAgrees 0 1024 := by
  intro agrees
  have expected := agrees.sizes 0 (by decide) 0 0 (by decide)
  exact absurd expected (by decide)

end BeeSync
