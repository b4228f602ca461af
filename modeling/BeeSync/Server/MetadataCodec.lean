import BeeSync.Server.Metadata

/-!
# The metadata format

What is written to a metadata file is read back as it was, and files say different
things when the records differ.
-/

set_option autoImplicit false

namespace BeeSync.Server.TransferMetadata

open Encoding Arithmetic

/-- The record fits the widths of its fields. -/
structure Encodable (metadata : TransferMetadata) : Prop where
  chunkSize : metadata.chunkSize < 2 ^ 32
  numChunks : metadata.numChunks < 2 ^ 32
  fileSize : metadata.fileSize < 2 ^ 64
  count : metadata.chunkHashes.entries.length < 2 ^ 32
  indices : ∀ entry ∈ metadata.chunkHashes.entries, entry.1 < 2 ^ 32

theorem Encodable.restrict {metadata metadata' : TransferMetadata} (encodable : metadata.Encodable)
    (chunkSize : metadata'.chunkSize = metadata.chunkSize)
    (numChunks : metadata'.numChunks = metadata.numChunks)
    (fileSize : metadata'.fileSize = metadata.fileSize)
    (among : ∀ idx ∈ metadata'.chunkHashes.keys, idx ∈ metadata.chunkHashes.keys) :
    metadata'.Encodable := by
  constructor
  · rw [chunkSize]
    exact encodable.chunkSize
  · rw [numChunks]
    exact encodable.numChunks
  · rw [fileSize]
    exact encodable.fileSize
  · have fewer := OrderedMap.length_entries_le among
    rw [OrderedMap.length_keys] at fewer
    exact fewer.trans_lt encodable.count
  · intro entry member
    have listed := among entry.1 (List.mem_map_of_mem member)
    obtain ⟨entry', member', same⟩ := List.mem_map.mp listed
    rw [← same]
    exact encodable.indices entry' member'

theorem fromBytes_encodable {data : Bytes} {metadata : TransferMetadata}
    (read : fromBytes data = .ok metadata) : metadata.Encodable := by
  unfold fromBytes at read
  split at read
  · cases read
  split at read
  · cases read
  split at read
  · cases read
  dsimp only at read
  split at read
  · cases read
  rename_i complete
  cases read
  have positions : ∀ idx, idx ∈ (OrderedMap.ofList ((List.finRange (readBigEndian data 53 4)).map
      (decodeEntry data _ (not_lt.mp complete)))).keys → ∃ position,
        (decodeEntry data _ (not_lt.mp complete) position).1 = idx := by
    intro idx listed
    rw [OrderedMap.mem_keys_ofList] at listed
    simpa using listed
  constructor
  · exact readBigEndian_lt data 5 4
  · exact readBigEndian_lt data 9 4
  · exact readBigEndian_lt data 13 8
  · refine (OrderedMap.length_entries_le fun idx listed =>
      OrderedMap.mem_keys_ofList.mp listed).trans_lt ?_
    rw [List.length_map, List.length_map, List.length_finRange]
    exact readBigEndian_lt data 53 4
  · intro entry member
    obtain ⟨position, same⟩ := positions entry.1 (List.mem_map_of_mem member)
    rw [← same]
    exact readBigEndian_lt data _ 4

variable (metadata : TransferMetadata)

@[simp] theorem encodeEntry_length (entry : Nat × Digest) :
    (encodeEntry entry).length = entrySize := by
  simp [encodeEntry, entry.2.sized, entrySize, hashSize]

/-- Everything before the entries. -/
def header : Bytes :=
  magic ++ ([version] ++ (toBigEndian 4 (asU32 metadata.chunkSize) ++
    (toBigEndian 4 (asU32 metadata.numChunks) ++ (toBigEndian 8 metadata.fileSize ++
      (metadata.fullHash.bytes ++ toBigEndian 4 (asU32 metadata.chunkHashes.entries.length))))))

theorem toBytes_eq : metadata.toBytes =
    metadata.header ++ metadata.chunkHashes.entries.flatMap encodeEntry := by
  simp only [toBytes, header, List.append_assoc]

@[simp] theorem header_length : metadata.header.length = headerSize := by
  simp [header, magic, metadata.fullHash.sized, hashSize, headerSize]

theorem toBytes_length : metadata.toBytes.length =
    headerSize + metadata.chunkHashes.entries.length * entrySize := by
  rw [toBytes_eq, List.length_append, header_length, flatMap_length encodeEntry_length]

section Fields

variable {metadata}

theorem field_magic : field metadata.toBytes 0 4 = magic :=
  field_zero_append rfl

theorem version_toBytes : metadata.toBytes.getD 4 0 = version := rfl

theorem chunkSize_toBytes (fits : metadata.chunkSize < 2 ^ 32) :
    readBigEndian metadata.toBytes 5 4 = metadata.chunkSize := by
  obtain ⟨rest, split⟩ : ∃ rest, metadata.toBytes =
      (magic ++ [version]) ++ (toBigEndian 4 (asU32 metadata.chunkSize) ++ rest) :=
    ⟨_, (List.append_assoc _ _ _).symm⟩
  have positioned : (magic ++ [version]).length = 5 := rfl
  rw [split, readBigEndian, field_append positioned (toBigEndian_length _ _), asU32_of_lt fits]
  exact ofBigEndian_toBigEndian_of_lt fits

theorem numChunks_toBytes (fits : metadata.numChunks < 2 ^ 32) :
    readBigEndian metadata.toBytes 9 4 = metadata.numChunks := by
  obtain ⟨rest, split⟩ : ∃ rest, metadata.toBytes =
      (magic ++ ([version] ++ toBigEndian 4 (asU32 metadata.chunkSize))) ++
        (toBigEndian 4 (asU32 metadata.numChunks) ++ rest) :=
    ⟨_, by rw [toBytes, List.append_assoc, List.append_assoc]⟩
  have positioned : (magic ++ ([version] ++ toBigEndian 4 (asU32 metadata.chunkSize))).length = 9 := by
    simp [magic]
  rw [split, readBigEndian, field_append positioned (toBigEndian_length _ _), asU32_of_lt fits]
  exact ofBigEndian_toBigEndian_of_lt fits

theorem fileSize_toBytes (fits : metadata.fileSize < 2 ^ 64) :
    readBigEndian metadata.toBytes 13 8 = metadata.fileSize := by
  obtain ⟨rest, split⟩ : ∃ rest, metadata.toBytes =
      (magic ++ ([version] ++ (toBigEndian 4 (asU32 metadata.chunkSize) ++
        toBigEndian 4 (asU32 metadata.numChunks)))) ++ (toBigEndian 8 metadata.fileSize ++ rest) :=
    ⟨_, by rw [toBytes, List.append_assoc, List.append_assoc, List.append_assoc]⟩
  have positioned : (magic ++ ([version] ++ (toBigEndian 4 (asU32 metadata.chunkSize) ++
      toBigEndian 4 (asU32 metadata.numChunks)))).length = 13 := by
    simp [magic]
  rw [split, readBigEndian, field_append positioned (toBigEndian_length _ _)]
  exact ofBigEndian_toBigEndian_of_lt fits

theorem fullHash_toBytes : field metadata.toBytes 21 32 = metadata.fullHash.bytes := by
  obtain ⟨rest, split⟩ : ∃ rest, metadata.toBytes =
      (magic ++ ([version] ++ (toBigEndian 4 (asU32 metadata.chunkSize) ++
        (toBigEndian 4 (asU32 metadata.numChunks) ++ toBigEndian 8 metadata.fileSize)))) ++
          (metadata.fullHash.bytes ++ rest) :=
    ⟨_, by rw [toBytes, List.append_assoc, List.append_assoc, List.append_assoc, List.append_assoc]⟩
  have positioned : (magic ++ ([version] ++ (toBigEndian 4 (asU32 metadata.chunkSize) ++
      (toBigEndian 4 (asU32 metadata.numChunks) ++ toBigEndian 8 metadata.fileSize)))).length =
        21 := by
    simp [magic]
  rw [split]
  exact field_append positioned metadata.fullHash.sized

theorem count_toBytes (fits : metadata.chunkHashes.entries.length < 2 ^ 32) :
    readBigEndian metadata.toBytes 53 4 = metadata.chunkHashes.entries.length := by
  obtain ⟨rest, split⟩ : ∃ rest, metadata.toBytes =
      (magic ++ ([version] ++ (toBigEndian 4 (asU32 metadata.chunkSize) ++
        (toBigEndian 4 (asU32 metadata.numChunks) ++ (toBigEndian 8 metadata.fileSize ++
          metadata.fullHash.bytes))))) ++
            (toBigEndian 4 (asU32 metadata.chunkHashes.entries.length) ++ rest) :=
    ⟨_, by rw [toBytes, List.append_assoc, List.append_assoc, List.append_assoc,
      List.append_assoc, List.append_assoc]⟩
  have positioned : (magic ++ ([version] ++ (toBigEndian 4 (asU32 metadata.chunkSize) ++
      (toBigEndian 4 (asU32 metadata.numChunks) ++ (toBigEndian 8 metadata.fileSize ++
        metadata.fullHash.bytes))))).length = 53 := by
    simp [magic, metadata.fullHash.sized, hashSize]
  rw [split, readBigEndian, field_append positioned (toBigEndian_length _ _), asU32_of_lt fits]
  exact ofBigEndian_toBigEndian_of_lt fits

/-- The entry at a position lies behind the header and the entries before it. -/
theorem entry_toBytes {position : Nat} (inside : position < metadata.chunkHashes.entries.length) :
    field metadata.toBytes (headerSize + position * entrySize) entrySize =
      encodeEntry metadata.chunkHashes.entries[position] := by
  have skipped : metadata.header.length ≤ headerSize + position * entrySize := by
    rw [header_length]
    exact Nat.le_add_right _ _
  have found := field_flatMap encodeEntry_length metadata.chunkHashes.entries [] inside
  rw [List.append_nil] at found
  rw [toBytes_eq, field_append_right skipped, header_length, Nat.add_sub_cancel_left, found]

theorem decodeEntry_toBytes (encodable : metadata.Encodable) {count : Nat}
    (long : headerSize + count * entrySize ≤ metadata.toBytes.length) (position : Fin count)
    (inside : position < metadata.chunkHashes.entries.length) :
    decodeEntry metadata.toBytes count long position =
      metadata.chunkHashes.entries[position] := by
  have entry := entry_toBytes inside
  have index : readBigEndian metadata.toBytes (headerSize + position * entrySize) 4 =
      metadata.chunkHashes.entries[position].1 := by
    have fits := encodable.indices _ (List.getElem_mem inside)
    have start : field metadata.toBytes (headerSize + position * entrySize) 4 =
        toBigEndian 4 (asU32 metadata.chunkHashes.entries[position].1) := by
      rw [← Nat.add_zero (headerSize + position * entrySize),
        ← field_field (by decide : 0 + 4 ≤ entrySize), entry]
      exact field_zero_append (toBigEndian_length _ _)
    rw [readBigEndian, start]
    refine (congrArg _ (congrArg _ (asU32_of_lt fits))).trans ?_
    exact ofBigEndian_toBigEndian_of_lt fits
  have digest : field metadata.toBytes (headerSize + position * entrySize + 4) 32 =
      metadata.chunkHashes.entries[position].2.bytes := by
    rw [← field_field (by decide : 4 + 32 ≤ entrySize), entry]
    exact field_append_end (toBigEndian_length _ _) metadata.chunkHashes.entries[position].2.sized
  exact Prod.ext index (Digest.ext digest)

theorem fromBytes_toBytes (encodable : metadata.Encodable) :
    fromBytes metadata.toBytes = .ok metadata := by
  have sized := metadata.toBytes_length
  have count := count_toBytes encodable.count
  have long : ¬ metadata.toBytes.length < headerSize := by omega
  unfold fromBytes
  rw [dif_neg long, if_neg (not_not.mpr field_magic), if_neg (not_not.mpr version_toBytes)]
  dsimp only
  have complete : ¬ metadata.toBytes.length <
      headerSize + readBigEndian metadata.toBytes 53 4 * entrySize := by
    rw [count, sized]
    exact lt_irrefl _
  rw [dif_neg complete]
  have entries : (List.finRange (readBigEndian metadata.toBytes 53 4)).map
      (decodeEntry metadata.toBytes _ (not_lt.mp complete)) = metadata.chunkHashes.entries := by
    refine List.ext_getElem (by rw [List.length_map, List.length_finRange, count]) ?_
    intro position _ inside
    rw [List.getElem_map, List.getElem_finRange]
    exact decodeEntry_toBytes encodable _ _ inside
  have hash : digestAt metadata.toBytes 21 (by simp only [headerSize] at long; omega) =
      metadata.fullHash := Digest.ext fullHash_toBytes
  simp only [entries, hash, OrderedMap.ofList_entries, chunkSize_toBytes encodable.chunkSize,
    numChunks_toBytes encodable.numChunks, fileSize_toBytes encodable.fileSize]

section Trailing

variable {data : Bytes} (trailing : Bytes)

private theorem readBigEndian_append_left {offset width : Nat} (inside : offset + width ≤ data.length) :
    readBigEndian (data ++ trailing) offset width = readBigEndian data offset width := by
  rw [readBigEndian, readBigEndian, field_append_left inside]

private theorem decodeEntries_append {count count' : Nat} (same : count = count')
    (long : headerSize + count * entrySize ≤ (data ++ trailing).length)
    (long' : headerSize + count' * entrySize ≤ data.length) :
    (List.finRange count).map (decodeEntry (data ++ trailing) count long) =
      (List.finRange count').map (decodeEntry data count' long') := by
  subst same
  refine List.map_congr_left fun position _ => ?_
  have inside : (position + 1) * entrySize ≤ count * entrySize :=
    Nat.mul_le_mul_right _ position.isLt
  simp only [headerSize, entrySize] at inside long'
  refine Prod.ext (readBigEndian_append_left trailing ?_) (Digest.ext (field_append_left ?_))
  · simp only [headerSize, entrySize]
    omega
  · simp only [headerSize, entrySize]
    omega

theorem fromBytes_append (read : fromBytes data = .ok metadata) :
    fromBytes (data ++ trailing) = .ok metadata := by
  unfold fromBytes at read ⊢
  split at read
  · cases read
  rename_i header
  split at read
  · cases read
  rename_i magic
  split at read
  · cases read
  rename_i version
  dsimp only at read ⊢
  split at read
  · cases read
  rename_i complete
  have header' : 57 ≤ data.length := not_lt.mp header
  have long : ¬ (data ++ trailing).length < headerSize := by
    rw [List.length_append]
    omega
  have same : (data ++ trailing).getD 4 0 = data.getD 4 0 := by
    rw [List.getD_eq_getElem?_getD, List.getElem?_append_left (by omega),
      ← List.getD_eq_getElem?_getD]
  have count : readBigEndian (data ++ trailing) 53 4 = readBigEndian data 53 4 :=
    readBigEndian_append_left trailing (by omega)
  have covered : ¬ (data ++ trailing).length <
      headerSize + readBigEndian (data ++ trailing) 53 4 * entrySize := by
    rw [count, List.length_append]
    omega
  rw [dif_neg long, field_append_left (by omega), if_neg magic, same, if_neg version,
    dif_neg covered, ← read]
  refine congrArg Except.ok ?_
  simp only [TransferMetadata.mk.injEq]
  refine ⟨readBigEndian_append_left trailing (by omega), readBigEndian_append_left trailing
    (by omega), readBigEndian_append_left trailing (by omega), Digest.ext (field_append_left
    (by omega)), congrArg OrderedMap.ofList (decodeEntries_append trailing count _ _)⟩

end Trailing

theorem fromBytes_take (encodable : metadata.Encodable) {count : Nat}
    (inside : count < metadata.toBytes.length) :
    ∃ error, fromBytes (metadata.toBytes.take count) = .error error := by
  have sized : (metadata.toBytes.take count).length = count := by
    rw [List.length_take]
    exact min_eq_left inside.le
  by_cases short : count < headerSize
  · exact ⟨_, dif_pos (sized.symm ▸ short)⟩
  · have split := List.take_append_drop count metadata.toBytes
    have whole : 57 ≤ (metadata.toBytes.take count).length := by
      rw [sized]
      exact not_lt.mp short
    have announced : readBigEndian (metadata.toBytes.take count) 53 4 =
        metadata.chunkHashes.entries.length := by
      rw [← count_toBytes encodable.count, ← readBigEndian_append_left _ (by omega), split]
    have truncated : (metadata.toBytes.take count).length <
        headerSize + readBigEndian (metadata.toBytes.take count) 53 4 * entrySize := by
      rwa [announced, sized, ← toBytes_length]
    unfold fromBytes
    split
    · exact ⟨_, rfl⟩
    split
    · exact ⟨_, rfl⟩
    split
    · exact ⟨_, rfl⟩
    exact ⟨_, dif_pos truncated⟩

end Fields

section Order

variable {metadata}

/-- `to_bytes` as it goes over the hash map: the entries of an iteration, sorted by their
index. -/
def toBytesFrom (metadata : TransferMetadata) (iteration : List (Nat × Digest)) : Bytes :=
  metadata.header ++
    (iteration.mergeSort fun left right => left.1 ≤ right.1).flatMap encodeEntry

theorem toBytesFrom_eq {iteration : List (Nat × Digest)}
    (perm : iteration.Perm metadata.chunkHashes.entries) :
    metadata.toBytesFrom iteration = metadata.toBytes := by
  rw [toBytesFrom, metadata.chunkHashes.mergeSort_entries perm, toBytes_eq]

end Order

/-- Records with the same parameters and the same map. -/
structure Same (metadata metadata' : TransferMetadata) : Prop where
  chunkSize : metadata.chunkSize = metadata'.chunkSize
  numChunks : metadata.numChunks = metadata'.numChunks
  fileSize : metadata.fileSize = metadata'.fileSize
  fullHash : metadata.fullHash = metadata'.fullHash
  chunkHashes : ∀ idx, metadata.chunkHashes.get? idx = metadata'.chunkHashes.get? idx

theorem Same.eq {metadata metadata' : TransferMetadata} (same : metadata.Same metadata') :
    metadata = metadata' := by
  obtain ⟨chunkSize, numChunks, fileSize, fullHash, chunkHashes⟩ := same
  have maps := OrderedMap.ext_get? chunkHashes
  cases metadata
  cases metadata'
  cases chunkSize
  cases numChunks
  cases fileSize
  cases fullHash
  cases maps
  rfl

/-- A record is read back from its bytes whatever follows them, and no shorter file is
taken for a record. The bytes depend on the map alone, not on how it was filled or in which
order its entries come. -/
theorem metadata_codec (metadata : TransferMetadata) (encodable : metadata.Encodable) :
    (∀ trailing, fromBytes (metadata.toBytes ++ trailing) = .ok metadata) ∧
      (∀ count < metadata.toBytes.length,
        ∃ error, fromBytes (metadata.toBytes.take count) = .error error) ∧
      (∀ iteration : List (Nat × Digest), iteration.Perm metadata.chunkHashes.entries →
        metadata.toBytesFrom iteration = metadata.toBytes) ∧
      (∀ metadata', metadata.Same metadata' → metadata'.toBytes = metadata.toBytes) :=
  ⟨fun trailing => fromBytes_append trailing (fromBytes_toBytes encodable),
    fun _ inside => fromBytes_take encodable inside,
    fun _ perm => toBytesFrom_eq perm,
    fun _ same => congrArg toBytes same.eq.symm⟩

/-- The record of two chunks, the second of which has arrived first. -/
theorem metadata_codec_two_chunks :
    let metadata := ((new 1 2 2 ⟨List.replicate 32 0, rfl⟩).addChunk 1
      ⟨List.replicate 32 8, rfl⟩).addChunk 0 ⟨List.replicate 32 7, rfl⟩
    (∀ trailing, fromBytes (metadata.toBytes ++ trailing) = .ok metadata) ∧
      (∀ count < metadata.toBytes.length,
        ∃ error, fromBytes (metadata.toBytes.take count) = .error error) ∧
      (∀ iteration : List (Nat × Digest), iteration.Perm metadata.chunkHashes.entries →
        metadata.toBytesFrom iteration = metadata.toBytes) ∧
      (∀ metadata', metadata.Same metadata' → metadata'.toBytes = metadata.toBytes) :=
  metadata_codec _ ⟨by decide, by decide, by decide, by decide, by decide⟩

end BeeSync.Server.TransferMetadata
