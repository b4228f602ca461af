import BeeSync.Client.Wire
import BeeSync.Server.Wire

/-!
# Agreement on chunk messages and resume queries

The server reads from a chunk message what the client wrote into it, and the client
reads from a resume answer the marked indices of the server.
-/

set_option autoImplicit false

namespace BeeSync

open Encoding Arithmetic

private theorem asU32_mod (value : Nat) : asU32 value % 256 ^ 4 = asU32 value :=
  Nat.mod_eq_of_lt (asU32_lt value)

section ChunkMessages

variable [Blake3] (idx offset : Nat) (data : Bytes)

theorem chunkMessage_flatten : (Client.chunkMessage idx offset data).flatten =
    Client.chunkHeader idx offset data.length ++ (data ++ (calcHash data).bytes) := by
  simp [Client.chunkMessage]

omit [Blake3] in
theorem chunkHeader_length (size : Nat) :
    (Client.chunkHeader idx offset size).length = Chunk.headerSize := by
  simp [Client.chunkHeader, Chunk.headerSize]

theorem chunkMessage_length : (Client.chunkMessage idx offset data).flatten.length =
    Chunk.headerSize + data.length + Chunk.hashSize := by
  rw [chunkMessage_flatten, List.length_append, chunkHeader_length, List.length_append,
    (calcHash data).sized, ← Nat.add_assoc]
  rfl

theorem parseChunkHeader_chunkMessage :
    Server.parseChunkHeader (Client.chunkMessage idx offset data).flatten =
      some ⟨asU32 idx, offset % 2 ^ 64, asU32 data.length⟩ := by
  have long : ¬ (Client.chunkMessage idx offset data).flatten.length < Chunk.headerSize := by
    rw [chunkMessage_length]
    omega
  have index : readBigEndian (Client.chunkMessage idx offset data).flatten 0 4 = asU32 idx := by
    rw [chunkMessage_flatten, Client.chunkHeader, List.append_assoc, List.append_assoc,
      readBigEndian_zero_append, asU32_mod]
  have position : readBigEndian (Client.chunkMessage idx offset data).flatten 4 8 =
      offset % 2 ^ 64 := by
    rw [chunkMessage_flatten, Client.chunkHeader, List.append_assoc, List.append_assoc,
      readBigEndian, field_append (toBigEndian_length _ _) (toBigEndian_length _ _),
      ofBigEndian_toBigEndian]
    rfl
  have size : readBigEndian (Client.chunkMessage idx offset data).flatten 12 4 =
      asU32 data.length := by
    have positioned : (toBigEndian 4 (asU32 idx) ++ toBigEndian 8 offset).length = 12 := by simp
    rw [chunkMessage_flatten, Client.chunkHeader, List.append_assoc, readBigEndian,
      field_append positioned (toBigEndian_length _ _), ofBigEndian_toBigEndian, asU32_mod]
  rw [Server.parseChunkHeader, if_neg long, index, position, size]

theorem chunkMessage_data :
    field (Client.chunkMessage idx offset data).flatten Chunk.headerSize data.length = data := by
  rw [chunkMessage_flatten]
  exact field_append (chunkHeader_length _ _ _) rfl

theorem chunkMessage_hash :
    field (Client.chunkMessage idx offset data).flatten (Chunk.headerSize + data.length)
      Chunk.hashSize = (calcHash data).bytes := by
  rw [chunkMessage_flatten, ← List.append_assoc]
  refine field_append_end ?_ (calcHash data).sized
  rw [List.length_append, chunkHeader_length]

theorem chunkMessage_ne_query :
    (Client.chunkMessage idx offset data).flatten ≠ [Chunk.queryMagic] := by
  intro same
  have sized := congrArg List.length same
  rw [chunkMessage_length] at sized
  simp only [Chunk.headerSize, Chunk.hashSize, List.length_singleton] at sized
  omega

end ChunkMessages

section Queries

variable {flags : List Bool}

theorem mem_markedIndices {idx : Nat} :
    idx ∈ Server.markedIndices flags ↔ flags[idx]? = some true := by
  rw [Server.markedIndices, List.mem_filter, List.mem_range, List.getD_eq_getElem?_getD]
  constructor
  · rintro ⟨inside, marked⟩
    rw [List.getElem?_eq_getElem inside] at marked ⊢
    exact congrArg some marked
  · intro found
    obtain ⟨inside, _⟩ := List.getElem?_eq_some_iff.mp found
    rw [found]
    exact ⟨inside, rfl⟩

theorem markedIndices_length_le : (Server.markedIndices flags).length ≤ flags.length := by
  refine (List.length_filter_le _ _).trans ?_
  rw [List.length_range]

theorem queryResponse_length :
    (Server.queryResponse flags).length = 4 + (Server.markedIndices flags).length * 4 := by
  rw [Server.queryResponse, List.length_append, toBigEndian_length,
    flatMap_length fun _ => toBigEndian_length _ _]

/-- The client reads the marked indices, as long as there are no more than 32 bits count. -/
theorem parseReceived_queryResponse (few : flags.length < 2 ^ 32) :
    Client.parseReceived (Server.queryResponse flags) = some (Server.markedIndices flags) := by
  have marked := markedIndices_length_le.trans_lt few
  have length : (Server.queryResponse flags).length =
      4 + (Server.markedIndices flags).length * 4 := queryResponse_length
  have count : readBigEndian (Server.queryResponse flags) 0 4 =
      (Server.markedIndices flags).length := by
    rw [Server.queryResponse, readBigEndian_zero_append, asU32_mod, asU32_of_lt marked]
  have indices : (List.range (Server.markedIndices flags).length).map
      (Client.receivedIndex (Server.queryResponse flags)) = Server.markedIndices flags := by
    refine List.ext_getElem (by rw [List.length_map, List.length_range]) ?_
    intro position _ inside
    have member := mem_markedIndices.mp (List.getElem_mem inside)
    have small : (Server.markedIndices flags)[position] < 2 ^ 32 :=
      (List.getElem?_eq_some_iff.mp member).choose.trans few
    have found := field_flatMap (fun idx => toBigEndian_length 4 (asU32 idx))
      (Server.markedIndices flags) [] inside
    rw [List.append_nil] at found
    rw [List.getElem_map, List.getElem_range, Client.receivedIndex, Server.queryResponse,
      readBigEndian_append_right (by rw [toBigEndian_length]; omega), toBigEndian_length,
      Nat.add_sub_cancel_left, readBigEndian, found, asU32_of_lt small]
    exact ofBigEndian_toBigEndian_of_lt small
  rw [Client.parseReceived, if_neg (by omega)]
  dsimp only
  rw [count, if_neg (by omega), indices]

end Queries

end BeeSync
