import BeeSync.Server.DataPhases
import BeeSync.Server.ResumeOutcome

/-!
# The states of a receiver

What becomes of a receiver between its handshake and its end: it may take over the record of
an earlier transfer, chunks are recorded, and it may be marked as failed. In all of these
states its record can be written to disk and read back.
-/

set_option autoImplicit false

namespace BeeSync.Server

open Encoding Interaction

namespace FileReceiver

variable [Blake3]

theorem loadOrPurgeMetadata_yields [KeyOrder] (receiver : FileReceiver) :
    receiver.loadOrPurgeMetadata.Yields fun result =>
      ∀ metadata, result = some metadata → SameParams receiver metadata := by
  unfold loadOrPurgeMetadata
  apply Prog.Yields.bind
  intro loaded
  split
  · exact nofun
  · exact Prog.Yields.bind _ fun _ => nofun
  · rename_i metadata
    split
    · rename_i same
      apply Prog.Yields.bind
      intro (validIndices, corruptCount)
      dsimp only
      split
      · split
        · exact Prog.Yields.bind _ fun _ => nofun
        · apply Prog.Yields.bind
          intro _ clean taken
          cases taken
          exact receiver.sameParams_cleanMetadata metadata validIndices
      · intro kept taken
        cases taken
        exact paramsMatch_iff.mp same
    · exact Prog.Yields.bind _ fun _ => nofun

/-- The states of the receiver of an accepted handshake. -/
inductive Lived [KeyOrder] (handshake : HandshakeData) (outputDir partsDir : Bytes) :
    FileReceiver → Prop where
  | created : Lived handshake outputDir partsDir (handshake.receiver outputDir partsDir)
  /-- Whatever the calls on the files are answered. -/
  | resumed {receiver marked : FileReceiver} {metadata : TransferMetadata}
      {events : List (Event (FsSig FilePath))} (lived : Lived handshake outputDir partsDir receiver)
      (loaded : Prog.Path receiver.loadOrPurgeMetadata events (.ret (some metadata)))
      (all : receiver.markAll (KeyOrder.keys metadata.chunkHashes) = some marked) :
      Lived handshake outputDir partsDir (marked.setMetadata metadata)
  | recorded {receiver : FileReceiver} {chunk : ChunkInHand}
      (lived : Lived handshake outputDir partsDir receiver)
      (inRange : chunk.idx < receiver.numChunks) :
      Lived handshake outputDir partsDir (receiver.recorded chunk)
  | failed {receiver : FileReceiver} (lived : Lived handshake outputDir partsDir receiver) :
      Lived handshake outputDir partsDir receiver.setFailed

/-- The record of a receiver is one of its transfer and lists chunks of it. -/
structure Coherent (handshake : HandshakeData) (receiver : FileReceiver) : Prop where
  fileSize : receiver.fileSize = handshake.fileSize
  chunkSize : receiver.chunkSize = handshake.chunkSize
  numChunks : receiver.numChunks = handshake.numChunks
  params : SameParams receiver receiver.metadata
  listed : ∀ idx ∈ receiver.metadata.chunkHashes.keys, idx < receiver.numChunks

theorem Coherent.recorded {handshake : HandshakeData} {receiver : FileReceiver}
    {chunk : ChunkInHand} (coherent : Coherent handshake receiver)
    (inRange : chunk.idx < receiver.numChunks) :
    Coherent handshake (receiver.recorded chunk) := by
  obtain ⟨fileSize, chunkSize, numChunks, params, listed⟩ := coherent
  refine ⟨fileSize, chunkSize, numChunks, ⟨params.chunkSize, params.numChunks, params.fileSize,
    params.fullHash⟩, fun idx member => ?_⟩
  obtain rfl | earlier := OrderedMap.mem_keys_insert.mp member
  · exact inRange
  · exact listed idx earlier

omit [Blake3] in
theorem Coherent.setFailed {handshake : HandshakeData} {receiver : FileReceiver}
    (coherent : Coherent handshake receiver) : Coherent handshake receiver.setFailed := by
  obtain ⟨fileSize, chunkSize, numChunks, params, listed⟩ := coherent
  exact ⟨fileSize, chunkSize, numChunks, ⟨params.chunkSize, params.numChunks, params.fileSize,
    params.fullHash⟩, listed⟩

omit [Blake3] in
theorem Coherent.resumed [KeyOrder] {handshake : HandshakeData} {receiver marked : FileReceiver}
    {metadata : TransferMetadata} (coherent : Coherent handshake receiver)
    (params : SameParams receiver metadata)
    (all : receiver.markAll (KeyOrder.keys metadata.chunkHashes) = some marked) :
    Coherent handshake (marked.setMetadata metadata) := by
  have same := params_markAll all
  have fileSize : marked.fileSize = receiver.fileSize := congrArg Params.fileSize same
  have chunkSize : marked.chunkSize = receiver.chunkSize := congrArg Params.chunkSize same
  have numChunks : marked.numChunks = receiver.numChunks := congrArg Params.numChunks same
  have fullHash : marked.fullHash = receiver.fullHash := congrArg Params.fullHash same
  refine ⟨fileSize.trans coherent.fileSize, chunkSize.trans coherent.chunkSize,
    numChunks.trans coherent.numChunks, ⟨params.chunkSize.trans chunkSize.symm,
      params.numChunks.trans numChunks.symm, params.fileSize.trans fileSize.symm,
      params.fullHash.trans fullHash.symm⟩, fun idx member => ?_⟩
  by_contra outside
  have panics : receiver.markAll (KeyOrder.keys metadata.chunkHashes) = none := by
    refine markAll_eq_none_iff.mpr ⟨idx, ?_, ?_⟩
    · exact (KeyOrder.perm _).mem_iff.mpr member
    · rw [← numChunks]
      exact not_lt.mp outside
  rw [panics] at all
  cases all

omit [Blake3] in
theorem Coherent.encodable {handshake : HandshakeData} {receiver : FileReceiver}
    (coherent : Coherent handshake receiver) : receiver.metadata.Encodable := by
  have few := handshake.numChunks_le
  have most : maxChunks < 2 ^ 32 := by decide
  have numChunks := coherent.numChunks
  constructor
  · rw [coherent.params.chunkSize, coherent.chunkSize]
    exact handshake.chunkSize_lt
  · rw [coherent.params.numChunks]
    omega
  · rw [coherent.params.fileSize, coherent.fileSize]
    exact handshake.fileSize_lt
  · have among : receiver.metadata.chunkHashes.keys ⊆ List.range receiver.numChunks :=
      fun idx member => List.mem_range.mpr (coherent.listed idx member)
    have fewer := (List.subperm_of_subset (OrderedMap.keys_nodup _) among).length_le
    rw [OrderedMap.length_keys, List.length_range] at fewer
    omega
  · intro entry member
    have inRange := coherent.listed entry.1 (List.mem_map_of_mem member)
    omega

theorem Lived.coherent [KeyOrder] {handshake : HandshakeData} {outputDir partsDir : Bytes}
    {receiver : FileReceiver} (lived : Lived handshake outputDir partsDir receiver) :
    Coherent handshake receiver := by
  induction lived with
  | created => exact ⟨rfl, rfl, rfl, ⟨rfl, rfl, rfl, rfl⟩, nofun⟩
  | resumed _ loaded all ih =>
      exact ih.resumed (loaded.yields (loadOrPurgeMetadata_yields _) _ rfl) all
  | recorded _ inRange ih => exact ih.recorded inRange
  | failed _ ih => exact ih.setFailed

end FileReceiver

end BeeSync.Server
