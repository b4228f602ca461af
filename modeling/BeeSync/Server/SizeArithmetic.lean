import BeeSync.Server.Wire
import Mathlib.Algebra.BigOperators.Intervals

/-!
# The sizes that the server expects

`process_chunk` computes the size of the last chunk from three numbers of the handshake,
which are checked one by one only. The computation makes sense when the chunks before the
last one end within the file and the last one reaches its end.
-/

set_option autoImplicit false

namespace BeeSync.Server

open Encoding Arithmetic

variable {fileSize chunkSize numChunks idx : Nat}

theorem expectedChunkSize_of_lt (before : idx < numChunks - 1) :
    expectedChunkSize fileSize chunkSize numChunks idx = some chunkSize := by
  rw [expectedChunkSize, if_neg (by omega)]
  exact if_neg before.ne

/-- The last chunk is what the others leave of the file, if they end within it. -/
theorem expectedChunkSize_last (some_ : 0 < numChunks) (size : fileSize < 2 ^ 64)
    (ordered : (numChunks - 1) * chunkSize ≤ fileSize) :
    expectedChunkSize fileSize chunkSize numChunks (numChunks - 1) =
      some (if fileSize - (numChunks - 1) * chunkSize = 0 then chunkSize
        else fileSize - (numChunks - 1) * chunkSize) := by
  rw [expectedChunkSize, if_neg (by omega)]
  simp only [if_true]
  rw [wrappingMul_of_lt (ordered.trans_lt size), wrappingSub_of_le ordered size]

/-- The arithmetic on the sizes of a transfer is that of numbers, and the sizes add up. -/
structure SoundSizes (fileSize chunkSize numChunks : Nat) : Prop where
  noOverflow : (numChunks - 1) * chunkSize < 2 ^ 64
  noUnderflow : (numChunks - 1) * chunkSize ≤ fileSize
  sizes : ∀ idx < numChunks, ∃ size,
    expectedChunkSize fileSize chunkSize numChunks idx = some size ∧
      (1 ≤ size ∧ size ≤ chunkSize ∨ size = 0 ∧ fileSize = 0)
  total : ∑ idx ∈ Finset.range numChunks,
    (expectedChunkSize fileSize chunkSize numChunks idx).getD 0 = fileSize

theorem sum_expectedChunkSize (some_ : 0 < numChunks) :
    ∑ idx ∈ Finset.range numChunks,
        (expectedChunkSize fileSize chunkSize numChunks idx).getD 0 =
      (numChunks - 1) * chunkSize +
        (expectedChunkSize fileSize chunkSize numChunks (numChunks - 1)).getD 0 := by
  have full : ∀ idx ∈ Finset.range (numChunks - 1),
      (expectedChunkSize fileSize chunkSize numChunks idx).getD 0 = chunkSize := by
    intro idx member
    rw [expectedChunkSize_of_lt (Finset.mem_range.mp member), Option.getD_some]
  have split : Finset.range numChunks = Finset.range (numChunks - 1 + 1) := by
    rw [Nat.sub_add_cancel some_]
  rw [split, Finset.sum_range_succ, Finset.sum_congr rfl full, Finset.sum_const,
    Finset.card_range, nsmul_eq_mul, Nat.cast_id]

/-- The sizes that are expected for an accepted handshake are sound just if all chunks but the
last one end before the end of the file and the last one reaches it. -/
theorem sizes_sound_iff (handshake : HandshakeData) :
    SoundSizes handshake.fileSize handshake.chunkSize handshake.numChunks ↔
      (handshake.numChunks - 1) * handshake.chunkSize < handshake.fileSize ∧
        handshake.fileSize ≤ handshake.numChunks * handshake.chunkSize := by
  have some_ := handshake.numChunks_pos
  have positive := handshake.chunkSize_pos
  have whole : handshake.numChunks * handshake.chunkSize =
      (handshake.numChunks - 1) * handshake.chunkSize + handshake.chunkSize := by
    rw [← Nat.succ_mul, Nat.succ_eq_add_one, Nat.sub_add_cancel some_]
  rw [whole]
  constructor
  · intro ⟨_, ordered, sizes, total⟩
    have last := expectedChunkSize_last some_ handshake.fileSize_lt ordered
    rw [sum_expectedChunkSize some_, last, Option.getD_some] at total
    obtain ⟨size, expected, bounds⟩ := sizes (handshake.numChunks - 1) (by omega)
    rw [last] at expected
    cases expected
    split at total
    · omega
    · rename_i remains
      rw [if_neg remains] at bounds
      omega
  · intro ⟨starts, reaches⟩
    have last := expectedChunkSize_last some_ handshake.fileSize_lt starts.le
    rw [if_neg (by omega)] at last
    refine ⟨starts.trans handshake.fileSize_lt, starts.le, fun idx inRange => ?_, ?_⟩
    · by_cases before : idx < handshake.numChunks - 1
      · exact ⟨_, expectedChunkSize_of_lt before, .inl ⟨positive, le_rfl⟩⟩
      · have here : idx = handshake.numChunks - 1 := by omega
        rw [here]
        exact ⟨_, last, .inl ⟨by omega, by omega⟩⟩
    · rw [sum_expectedChunkSize some_, last, Option.getD_some]
      omega

/-- The handshake of a one-byte file in three chunks of one byte. -/
def oversizedHandshake : Bytes :=
  Handshake.magic ++ [0, 1] ++ ascii "f" ++ toBigEndian 8 1 ++ toBigEndian 4 1 ++
    toBigEndian 4 3 ++ List.replicate 32 0

set_option maxRecDepth 8000 in
/-- A handshake is accepted although its first two chunks are longer than the file. -/
theorem sizes_unsound :
    ¬ ∀ data handshake, parseHandshake data = .ok handshake →
      SoundSizes handshake.fileSize handshake.chunkSize handshake.numChunks := by
  intro sound
  have accepted : ∃ handshake, parseHandshake oversizedHandshake = .ok handshake ∧
      handshake.fileSize = 1 ∧ handshake.chunkSize = 1 ∧ handshake.numChunks = 3 :=
    ⟨_, rfl, rfl, rfl, rfl⟩
  obtain ⟨handshake, accepted, fileSize, chunkSize, numChunks⟩ := accepted
  have ordered := (sound oversizedHandshake handshake accepted).noUnderflow
  rw [fileSize, chunkSize, numChunks] at ordered
  contradiction

end BeeSync.Server
