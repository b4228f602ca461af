import BeeSync.Server.Metadata

/-!
# The receiver of one transfer

Which chunks have arrived, their persistent record, recovery of an earlier
transfer and assembly of the final file.
-/

set_option autoImplicit false

namespace BeeSync.Server

open Encoding Interaction

/-- One incoming transfer. There is one flag for each chunk. -/
structure FileReceiver where
  filename : Bytes
  fileSize : Nat
  chunkSize : Nat
  numChunks : Nat
  fullHash : Digest
  outputDir : Bytes
  partsDir : Bytes
  receivedChunks : List Bool
  failed : Bool
  metadata : TransferMetadata
  sized : receivedChunks.length = numChunks

namespace FileReceiver

def new (filename : Bytes) (fileSize chunkSize numChunks : Nat) (fullHash : Digest)
    (outputDir partsDir : Bytes) : FileReceiver where
  filename := filename
  fileSize := fileSize
  chunkSize := chunkSize
  numChunks := numChunks
  fullHash := fullHash
  outputDir := outputDir
  partsDir := partsDir
  receivedChunks := List.replicate numChunks false
  failed := false
  metadata := .new chunkSize numChunks fileSize fullHash
  sized := List.length_replicate

def partPath (receiver : FileReceiver) (index : Nat) : FilePath :=
  TransferMetadata.partPath receiver.partsDir receiver.filename index

def metaPath (receiver : FileReceiver) : FilePath :=
  TransferMetadata.metaPath receiver.partsDir receiver.filename

def tmpPath (receiver : FileReceiver) : FilePath :=
  TransferMetadata.tmpPath receiver.partsDir receiver.filename

def finalPath (receiver : FileReceiver) : FilePath :=
  ⟨receiver.outputDir, receiver.filename⟩

def isComplete (receiver : FileReceiver) : Bool :=
  receiver.receivedChunks.all id

/-- A chunk is marked as received. -/
def Received (receiver : FileReceiver) (index : Nat) : Prop :=
  receiver.receivedChunks[index]? = some true

instance (receiver : FileReceiver) (index : Nat) : Decidable (receiver.Received index) :=
  inferInstanceAs (Decidable (receiver.receivedChunks[index]? = some true))

/-- `received_chunks[index] = true`. -/
def mark (receiver : FileReceiver) (index : Nat) : FileReceiver :=
  { receiver with
    receivedChunks := receiver.receivedChunks.set index true
    sized := (List.length_set ..).trans receiver.sized }

def setFailed (receiver : FileReceiver) : FileReceiver :=
  { receiver with failed := true }

def setMetadata (receiver : FileReceiver) (metadata : TransferMetadata) : FileReceiver :=
  { receiver with metadata := metadata }

/-- What stays the same throughout a transfer. -/
structure Params where
  filename : Bytes
  fileSize : Nat
  chunkSize : Nat
  numChunks : Nat
  fullHash : Digest
  outputDir : Bytes
  partsDir : Bytes

def params (receiver : FileReceiver) : Params where
  filename := receiver.filename
  fileSize := receiver.fileSize
  chunkSize := receiver.chunkSize
  numChunks := receiver.numChunks
  fullHash := receiver.fullHash
  outputDir := receiver.outputDir
  partsDir := receiver.partsDir

@[simp] theorem params_setFailed (receiver : FileReceiver) :
    receiver.setFailed.params = receiver.params := rfl

@[simp] theorem params_setMetadata (receiver : FileReceiver) (metadata : TransferMetadata) :
    (receiver.setMetadata metadata).params = receiver.params := rfl

/-- The resume loop `received_chunks[idx] = true`: nothing stands for the panic of
an index that is out of range. -/
def markAll (receiver : FileReceiver) : List Nat → Option FileReceiver
  | [] => some receiver
  | idx :: rest =>
    if idx < receiver.receivedChunks.length then (receiver.mark idx).markAll rest else none

theorem not_received_new (filename : Bytes) (fileSize chunkSize numChunks : Nat) (fullHash : Digest)
    (outputDir partsDir : Bytes) (index : Nat) :
    ¬ (new filename fileSize chunkSize numChunks fullHash outputDir partsDir).Received index := by
  intro received
  obtain ⟨_, same⟩ := List.getElem?_eq_some_iff.mp received
  simp [new] at same

theorem received_mark_self {receiver : FileReceiver} {index : Nat}
    (inRange : index < receiver.numChunks) : (receiver.mark index).Received index := by
  rw [← receiver.sized] at inRange
  exact List.getElem?_set_self inRange

theorem received_mark_of_ne {receiver : FileReceiver} {index other : Nat} (different : other ≠ index) :
    (receiver.mark index).Received other ↔ receiver.Received other := by
  rw [Received, mark, List.getElem?_set_ne different.symm]
  exact Iff.rfl

theorem received_mark {receiver : FileReceiver} {index other : Nat}
    (received : (receiver.mark index).Received other) : other = index ∨ receiver.Received other := by
  by_cases same : other = index
  · exact .inl same
  · exact .inr ((received_mark_of_ne same).mp received)

theorem received_markAll {receiver marked : FileReceiver} {indices : List Nat}
    (all : receiver.markAll indices = some marked) {index : Nat} (received : marked.Received index) :
    index ∈ indices ∨ receiver.Received index := by
  induction indices generalizing receiver with
  | nil =>
      cases all
      exact .inr received
  | cons idx rest ih =>
      rw [markAll] at all
      split at all
      · obtain later | marked := ih all
        · exact .inl (List.mem_cons_of_mem idx later)
        · obtain here | earlier := received_mark marked
          · exact .inl (here ▸ List.mem_cons_self)
          · exact .inr earlier
      · cases all

theorem markAll_of_lt {receiver : FileReceiver} {indices : List Nat}
    (inRange : ∀ idx ∈ indices, idx < receiver.numChunks) :
    ∃ marked, receiver.markAll indices = some marked ∧
      ∀ idx, marked.Received idx ↔ receiver.Received idx ∨ idx ∈ indices := by
  induction indices generalizing receiver with
  | nil => exact ⟨receiver, rfl, fun idx => by simp⟩
  | cons head rest ih =>
      obtain ⟨here, later⟩ := List.forall_mem_cons.mp inRange
      obtain ⟨marked, all, received⟩ := @ih (receiver.mark head) later
      rw [markAll, receiver.sized, if_pos here]
      refine ⟨marked, all, fun idx => ?_⟩
      rw [received, List.mem_cons]
      by_cases same : idx = head
      · rw [same]
        simp [received_mark_self here]
      · simp [received_mark_of_ne same, same]

theorem params_markAll {receiver marked : FileReceiver} {indices : List Nat}
    (all : receiver.markAll indices = some marked) : marked.params = receiver.params := by
  induction indices generalizing receiver with
  | nil =>
      cases all
      rfl
  | cons idx rest ih =>
      rw [markAll] at all
      split at all
      · have later := ih all
        exact later
      · cases all

theorem markAll_eq_none_iff {receiver : FileReceiver} {indices : List Nat} :
    receiver.markAll indices = none ↔ ∃ idx ∈ indices, receiver.numChunks ≤ idx := by
  induction indices generalizing receiver with
  | nil => simp [markAll]
  | cons idx rest ih =>
      rw [markAll, receiver.sized]
      split
      case isTrue inside =>
        rw [ih]
        simp [inside, mark]
      case isFalse outside => simp [not_lt.mp outside]

theorem isComplete_of_count {receiver : FileReceiver}
    (all : receiver.receivedChunks.count true = receiver.numChunks) :
    receiver.isComplete = true := by
  rw [← receiver.sized, List.count_eq_length] at all
  rw [isComplete, List.all_eq_true]
  intro flag member
  exact (all flag member).symm

/-- `record_chunk`, called with an index that has been checked: the receiver
changes even when saving fails. -/
def recordChunk (receiver : FileReceiver) (index : Nat) (hash : Digest) :
    FsProg FilePath (FileReceiver × Except IoError Unit) :=
  let recorded := (receiver.mark index).setMetadata (receiver.metadata.addChunk index hash)
  (recorded.metadata.save recorded.partsDir recorded.filename).bind fun result =>
    .ret (recorded, result)

variable [Blake3]

/-- Check every recorded part and remove those that do not verify: the valid
indices in the order of the check, and the number of others. -/
def verifyParts (receiver : FileReceiver) (metadata : TransferMetadata) :
    List Nat → List Nat → Nat → FsProg FilePath (List Nat × Nat)
  | [], validIndices, corruptCount => .ret (validIndices, corruptCount)
  | idx :: rest, validIndices, corruptCount =>
    (metadata.verifyPart idx receiver.partsDir receiver.filename).bind fun
      | true => receiver.verifyParts metadata rest (validIndices ++ [idx]) corruptCount
      | false => (FsOp.remove (receiver.partPath idx)).call.bind fun _ =>
          receiver.verifyParts metadata rest validIndices (corruptCount + 1)

/-- The record of the valid entries only. -/
def cleanMetadata (receiver : FileReceiver) (metadata : TransferMetadata)
    (validIndices : List Nat) : TransferMetadata :=
  validIndices.foldl
    (fun clean idx =>
      match metadata.chunkHashes.get? idx with
      | some hash => clean.addChunk idx hash
      | none => clean)
    (.new receiver.chunkSize receiver.numChunks receiver.fileSize receiver.fullHash)

/-- What the check of the parts returns: valid ones among those it was given, and all of
them when it counts no other. -/
theorem verifyParts_yields (receiver : FileReceiver) (metadata : TransferMetadata)
    (unchecked validIndices : List Nat) (corruptCount : Nat) :
    (receiver.verifyParts metadata unchecked validIndices corruptCount).Yields fun result =>
      (∀ idx ∈ result.1, idx ∈ validIndices ∨ idx ∈ unchecked) ∧ corruptCount ≤ result.2 ∧
        (result.2 = corruptCount → ∀ idx, idx ∈ validIndices ∨ idx ∈ unchecked → idx ∈ result.1) := by
  induction unchecked generalizing validIndices corruptCount with
  | nil => exact ⟨fun _ member => .inl member, le_rfl, fun _ _ listed => by simpa using listed⟩
  | cons idx rest ih =>
      rw [verifyParts]
      refine .bind _ fun valid => ?_
      cases valid with
      | true =>
          have later := ih (validIndices ++ [idx]) corruptCount
          simpa [or_assoc] using later
      | false =>
          refine .bind (FsOp.remove (receiver.partPath idx)).call fun _ => ?_
          refine (ih validIndices (corruptCount + 1)).mono fun result kept => ?_
          obtain ⟨among, more, _⟩ := kept
          refine ⟨fun j member => (among j member).imp_right (List.mem_cons_of_mem idx), ?_, ?_⟩
          · omega
          · intro same
            omega

omit [Blake3] in
theorem mem_keys_cleanMetadata {receiver : FileReceiver} {metadata : TransferMetadata}
    {validIndices : List Nat} (listed : ∀ idx ∈ validIndices, idx ∈ metadata.chunkHashes.keys)
    (idx : Nat) :
    idx ∈ (receiver.cleanMetadata metadata validIndices).chunkHashes.keys ↔
      idx ∈ validIndices := by
  have folded : ∀ clean : TransferMetadata,
      idx ∈ (validIndices.foldl (fun clean idx =>
        match metadata.chunkHashes.get? idx with
        | some hash => clean.addChunk idx hash
        | none => clean) clean).chunkHashes.keys ↔
        idx ∈ clean.chunkHashes.keys ∨ idx ∈ validIndices := by
    induction validIndices with
    | nil => simp
    | cons head rest ih =>
        intro clean
        obtain ⟨hash, found⟩ := OrderedMap.mem_keys_iff.mp (listed head List.mem_cons_self)
        rw [List.foldl_cons, ih fun j member => listed j (List.mem_cons_of_mem head member)]
        simp [found, TransferMetadata.addChunk, OrderedMap.mem_keys_insert, or_assoc, or_left_comm]
  have none_first : idx ∉ (TransferMetadata.new receiver.chunkSize receiver.numChunks
      receiver.fileSize receiver.fullHash).chunkHashes.keys := by
    simp [TransferMetadata.new, OrderedMap.keys, OrderedMap.empty]
  rw [cleanMetadata, folded]
  exact or_iff_right none_first

omit [Blake3] in
theorem get?_cleanMetadata {receiver : FileReceiver} {metadata : TransferMetadata}
    {validIndices : List Nat} {idx : Nat} {hash : Digest}
    (found : (receiver.cleanMetadata metadata validIndices).chunkHashes.get? idx = some hash) :
    idx ∈ validIndices ∧ metadata.chunkHashes.get? idx = some hash := by
  have folded : ∀ clean : TransferMetadata, (validIndices.foldl (fun clean idx =>
      match metadata.chunkHashes.get? idx with
      | some hash => clean.addChunk idx hash
      | none => clean) clean).chunkHashes.get? idx = some hash →
        clean.chunkHashes.get? idx = some hash ∨
          idx ∈ validIndices ∧ metadata.chunkHashes.get? idx = some hash := by
    clear found
    induction validIndices with
    | nil => exact fun _ found => .inl found
    | cons head rest ih =>
        intro clean found
        rw [List.foldl_cons] at found
        obtain earlier | ⟨member, listed⟩ := ih _ found
        · cases recorded : metadata.chunkHashes.get? head with
          | none =>
              rw [recorded] at earlier
              exact .inl earlier
          | some hash' =>
              simp only [recorded, TransferMetadata.addChunk] at earlier
              by_cases same : idx = head
              · subst same
                rw [OrderedMap.get?_insert_self] at earlier
                cases earlier
                exact .inr ⟨List.mem_cons_self, recorded⟩
              · rw [OrderedMap.get?_insert_of_ne _ _ same] at earlier
                exact .inl earlier
        · exact .inr ⟨List.mem_cons_of_mem head member, listed⟩
  exact (folded _ found).resolve_left nofun

/-- `load_or_purge_metadata`. -/
def loadOrPurgeMetadata [KeyOrder] (receiver : FileReceiver) :
    FsProg FilePath (Option TransferMetadata) :=
  let purge := TransferMetadata.purge receiver.partsDir receiver.filename receiver.numChunks
  (TransferMetadata.load receiver.partsDir receiver.filename).bind fun
    | .ok none => .ret none
    | .error _ => purge.bind fun _ => .ret none
    | .ok (some metadata) =>
      if metadata.paramsMatch receiver.chunkSize receiver.numChunks receiver.fileSize
          receiver.fullHash then
        (receiver.verifyParts metadata (KeyOrder.keys metadata.chunkHashes) [] 0).bind
          fun (validIndices, corruptCount) =>
            if corruptCount > 0 then
              if validIndices.isEmpty then purge.bind fun _ => .ret none
              else
                let clean := receiver.cleanMetadata metadata validIndices
                (clean.save receiver.partsDir receiver.filename).bind fun _ => .ret (some clean)
            else .ret (some metadata)
      else purge.bind fun _ => .ret none

/-- The copy loop of `assemble` for one part, with a bound on the number of reads:
the bytes written to the output so far and the hasher go along. -/
def copyPart (out part : FilePath) :
    Nat → Nat → Nat → Hasher → FsProg FilePath (Except IoError (Nat × Hasher))
  | 0, _, _, _ => .vis .stuck nofun
  | reads + 1, offset, written, hasher =>
      (FsOp.readAt part offset bufferSize).call.attempt fun piece =>
        if piece.length = 0 then .ret (.ok (written, hasher))
        else (writeAll out written piece).attempt fun _ =>
          copyPart out part reads (offset + piece.length) (written + piece.length)
            (hasher.update piece)

/-- The loop of `assemble` over the parts and what follows it. -/
def assembleParts (reads : Nat) (receiver : FileReceiver) :
    List Nat → Nat → Hasher → FsProg FilePath (Except IoError Bool)
  | [], _, hasher =>
      (FsOp.remove receiver.metaPath).call.bind fun _ =>
        .ret (.ok (decide (hasher.finalize = receiver.fullHash)))
  | i :: rest, written, hasher =>
      (TransferMetadata.pathExists (receiver.partPath i)).bind fun
        | false => .ret (.ok false)
        | true =>
          (FsOp.openRead (receiver.partPath i)).call.attempt fun _ =>
            (copyPart receiver.finalPath (receiver.partPath i) reads 0 written hasher).attempt
              fun (written, hasher) =>
                (FsOp.remove (receiver.partPath i)).call.attempt fun _ =>
                  assembleParts reads receiver rest written hasher

/-- `assemble`. -/
def assemble (reads : Nat) (receiver : FileReceiver) : FsProg FilePath (Except IoError Bool) :=
  (FsOp.create receiver.finalPath).call.attempt fun _ =>
    assembleParts reads receiver (List.range receiver.numChunks) 0 .new

end FileReceiver

end BeeSync.Server
