import BeeSync.Server.ChunkRecording
import BeeSync.Server.PartsAgree

/-!
# The order in which chunks arrive

Every chunk that is taken in touches the flags, the map of hashes, a part of its own and the
one record that is rewritten as a whole. For chunks of different indices these steps commute,
also on disk: the entries of the record are sorted before they are written.
-/

set_option autoImplicit false

namespace BeeSync.Server

open Encoding Interaction

/-- The store, and the frames that have been sent. -/
structure Served (Owner : Type) where
  store : Store Owner
  sent : List Bytes

/-- No call on the files fails for reasons of its own. -/
def Served.sem {Owner : Type} (owner : Owner) :
    (op : DataOp) → Served Owner → op.Res → Served Owner → Prop
  | .sendFrame payload, world, _, world' =>
      world' = { world with sent := world.sent ++ [payload] }
  | op, world, answer, world' => ∃ store,
      Store.dataSem False owner op world.store answer store ∧ world' = { world with store := store }

/-- What is ensured about a task whose calls may fail holds when none does, whatever has been
sent before. -/
theorem Traced.ensures_served {Owner α : Type} {owner : Owner} {program : DataProg α}
    {post : α → Traced Owner → Prop} {store : Store Owner} {failed : Option (FsOp FilePath)}
    {sent : List Bytes} (holds : Ensures (Traced.sem owner) program post ⟨store, failed, sent⟩)
    (earlier : List Bytes) :
    Ensures (Served.sem owner) program (fun value world => ∃ later,
      world.sent = earlier ++ later ∧ post value ⟨world.store, failed, later⟩)
      ⟨store, earlier ++ sent⟩ := by
  induction program generalizing store sent with
  | ret value => exact ⟨sent, rfl, holds⟩
  | vis op next ih =>
      obtain ⟨⟨answer, world', acted⟩, steps⟩ := holds
      cases op with
      | fs op =>
          obtain ⟨answer, files, called⟩ : ∃ answer files, op.Sem False store.fs answer files :=
            FsOp.Sem.answers (FsOp.bounded_of_res answer) store.fs
          refine ⟨⟨answer, _, _, ⟨files, called, rfl⟩, rfl⟩, fun answer world' acted => ?_⟩
          obtain ⟨store', ⟨files, called, rfl⟩, rfl⟩ := acted
          exact ih answer (steps answer _ ⟨⟨files, failed⟩, .inl ⟨called, rfl⟩, rfl⟩)
      | sendFrame payload =>
          refine ⟨⟨answer, _, rfl⟩, fun answer world' acted => ?_⟩
          cases acted
          dsimp only
          rw [List.append_assoc]
          exact ih answer (steps answer _ rfl)
      | start | accept | getReceiver | recvFrame | lock | unlock | closeStream | dropListener =>
          obtain ⟨store', moved, _⟩ := acted
          refine ⟨⟨answer, _, store', moved, rfl⟩, fun answer world' acted => ?_⟩
          obtain ⟨store', moved, rfl⟩ := acted
          exact ih answer (steps answer _ ⟨store', moved, rfl⟩)

/-- The files and the receiver of a transfer. -/
@[ext] structure Holdings where
  files : Fs FilePath
  state : FileReceiver

def Store.keep {Owner : Type} (store : Store Owner) (receiver : ReceiverId) (held : Holdings) :
    Store Owner :=
  (store.withFs held.files).leave receiver held.state

theorem Store.keep_keep {Owner : Type} (store : Store Owner) (receiver : ReceiverId)
    (held held' : Holdings) :
    (store.keep receiver held).keep receiver held' = store.keep receiver held' := by
  rw [keep, leave, keep, leave, withFs, withFs]
  dsimp only
  rw [Function.update_idem]
  rfl

section Chunks

variable [Blake3]

theorem FileReceiver.recorded_comm (state : FileReceiver) {chunk chunk' : ChunkInHand}
    (different : chunk.idx ≠ chunk'.idx) :
    (state.recorded chunk).recorded chunk' = (state.recorded chunk').recorded chunk := by
  have flags : (state.receivedChunks.set chunk.idx true).set chunk'.idx true =
      (state.receivedChunks.set chunk'.idx true).set chunk.idx true :=
    List.set_comm _ _ different
  have hashes := state.metadata.chunkHashes.insert_comm (calcHash chunk.data)
    (calcHash chunk'.data) different
  simp only [recorded, mark, setMetadata, TransferMetadata.addChunk, flags, hashes]

namespace Holdings

/-- What a chunk leaves behind that is taken in. -/
def take (held : Holdings) (chunk : ChunkInHand) : Holdings where
  files := TransferMetadata.saved
    (Function.update held.files (held.state.partPath chunk.idx) (some chunk.data))
    held.state.partsDir held.state.filename (held.state.recorded chunk).metadata
  state := held.state.recorded chunk

variable (held : Holdings) (chunk : ChunkInHand)

theorem take_metaPath : (held.take chunk).files held.state.metaPath =
    some (held.state.recorded chunk).metadata.toBytes :=
  TransferMetadata.saved_metaPath _

theorem take_tmpPath : (held.take chunk).files held.state.tmpPath = none := by
  have other : held.state.tmpPath ≠ held.state.metaPath :=
    TransferMetadata.metaPath_ne_tmpPath.symm
  exact (Function.update_of_ne other _ _).trans (Function.update_self ..)

theorem take_partPath : (held.take chunk).files (held.state.partPath chunk.idx) =
    some chunk.data :=
  (TransferMetadata.saved_partPath _ _).trans (Function.update_self ..)

theorem take_of_ne {path : FilePath} (record : path ≠ held.state.metaPath)
    (temporary : path ≠ held.state.tmpPath) (part : path ≠ held.state.partPath chunk.idx) :
    (held.take chunk).files path = held.files path := by
  refine (Function.update_of_ne record _ _).trans ?_
  exact (Function.update_of_ne temporary _ _).trans (Function.update_of_ne part _ _)

variable {chunk} in
theorem take_partPath_of_ne {chunk' : ChunkInHand} (different : chunk.idx ≠ chunk'.idx) :
    (held.take chunk').files (held.state.partPath chunk.idx) =
      held.files (held.state.partPath chunk.idx) :=
  held.take_of_ne chunk' (TransferMetadata.partPath_ne_metaPath _)
    (TransferMetadata.partPath_ne_tmpPath _) (held.state.partPath_injective.ne different)

variable {chunk} in
theorem take_comm {chunk' : ChunkInHand} (different : chunk.idx ≠ chunk'.idx) :
    (held.take chunk).take chunk' = (held.take chunk').take chunk := by
  have states : ((held.take chunk).take chunk').state = ((held.take chunk').take chunk).state :=
    held.state.recorded_comm different
  have files : ((held.take chunk).take chunk').files = ((held.take chunk').take chunk).files := by
    funext path
    by_cases record : path = held.state.metaPath
    · rw [record]
      have same := congrArg (fun state => some state.metadata.toBytes) states
      exact ((held.take chunk).take_metaPath chunk').trans
        (same.trans ((held.take chunk').take_metaPath chunk).symm)
    by_cases temporary : path = held.state.tmpPath
    · rw [temporary]
      exact ((held.take chunk).take_tmpPath chunk').trans
        ((held.take chunk').take_tmpPath chunk).symm
    by_cases first : path = held.state.partPath chunk.idx
    · rw [first]
      exact ((held.take chunk).take_partPath_of_ne different).trans
        ((held.take_partPath chunk).trans ((held.take chunk').take_partPath chunk).symm)
    by_cases second : path = held.state.partPath chunk'.idx
    · rw [second]
      exact ((held.take chunk).take_partPath chunk').trans
        ((held.take_partPath chunk').symm.trans
          ((held.take chunk').take_partPath_of_ne (Ne.symm different)).symm)
    · have unchanged : ((held.take chunk).take chunk').files path = held.files path :=
        ((held.take chunk).take_of_ne chunk' record temporary second).trans
          (held.take_of_ne chunk record temporary first)
      have unchanged' : ((held.take chunk').take chunk).files path = held.files path :=
        ((held.take chunk').take_of_ne chunk record temporary first).trans
          (held.take_of_ne chunk' record temporary second)
      exact unchanged.trans unchanged'.symm
  exact Holdings.ext files states

/-- What a list of chunks leaves behind depends on which chunks they are, not on their order. -/
theorem foldl_take_perm {frames frames' : List Bytes} (chunk : Bytes → ChunkInHand)
    (perm : frames.Perm frames')
    (distinct : (frames.map fun frame => (chunk frame).idx).Nodup) :
    frames.foldl (fun held frame => held.take (chunk frame)) held =
      frames'.foldl (fun held frame => held.take (chunk frame)) held := by
  refine perm.foldl_eq' (fun frame member frame' member' held => ?_) held
  by_cases same : frame = frame'
  · rw [same]
  · have different : (chunk frame).idx ≠ (chunk frame').idx :=
      fun equal => same (List.inj_on_of_nodup_map distinct member member' equal)
    exact held.take_comm different

theorem foldl_take_metaPath {frames : List Bytes} (chunk : Bytes → ChunkInHand)
    (any : frames ≠ []) :
    (frames.foldl (fun held frame => held.take (chunk frame)) held).files held.state.metaPath =
      some (frames.foldl (fun held frame => held.take (chunk frame)) held).state.metadata.toBytes := by
  induction frames generalizing held with
  | nil => exact absurd rfl any
  | cons frame rest ih =>
      rw [List.foldl_cons]
      cases rest with
      | nil => exact held.take_metaPath (chunk frame)
      | cons next rest => exact ih (held.take (chunk frame)) (List.cons_ne_nil next rest)

end Holdings

namespace Data

/-- The frames of a list, one after the other. -/
def processChunks (receiver : ReceiverId) : List Bytes → DataProg Unit
  | [] => .ret ()
  | data :: rest => (processChunk receiver data).bind fun _ => processChunks receiver rest

variable {Owner : Type} {owner : Owner} {store : Store Owner} {receiver : ReceiverId}
  {held : Holdings} {sent : List Bytes}

theorem ensures_take (free : store.holder receiver = none) {data : Bytes} {chunk : ChunkInHand}
    (carries : Carries held.state data chunk) :
    Ensures (Served.sem owner) (processChunk receiver data)
      (fun _ world => world =
        ⟨store.keep receiver (held.take chunk), sent ++ [[Chunk.ackOk]]⟩)
      ⟨store.keep receiver held, sent⟩ := by
  have ready : (store.keep receiver held).Ready receiver held.state := ⟨free, Store.leave_self⟩
  have served := Traced.ensures_served (@ensures_accepted _ Owner owner _ _ _ _ _ ready carries) sent
  rw [List.append_nil] at served
  refine served.mono fun _ world reached => ?_
  obtain ⟨later, wrote, accepted, after, watched, ends, stored, failed⟩ := reached
  obtain rfl : later = [[Chunk.ackOk]] := accepted rfl
  obtain ⟨after', sent'⟩ := world
  dsimp only at wrote stored ends
  subst wrote stored
  cases ends with
  | refused negative => exact absurd rfl negative
  | @taken taken carries' =>
      cases carries'.unique carries
      have once := store.keep_keep receiver held (held.take chunk)
      exact congrArg (fun store => (⟨store, sent ++ [[Chunk.ackOk]]⟩ : Served Owner)) once

theorem ensures_processChunks (free : store.holder receiver = none) (chunk : Bytes → ChunkInHand)
    (frames : List Bytes) (carries : ∀ frame ∈ frames, Carries held.state frame (chunk frame)) :
    Ensures (Served.sem owner) (processChunks receiver frames)
      (fun _ world => world = ⟨store.keep receiver
        (frames.foldl (fun held frame => held.take (chunk frame)) held),
          sent ++ frames.map fun _ => [Chunk.ackOk]⟩)
      ⟨store.keep receiver held, sent⟩ := by
  induction frames generalizing held sent with
  | nil =>
      rw [processChunks, ensures_ret, List.map_nil, List.append_nil]
      rfl
  | cons frame rest ih =>
      have first := carries frame List.mem_cons_self
      refine Ensures.bind (ensures_take free first) ?_
      intro _ world reached
      rw [reached, List.foldl_cons, List.map_cons, List.append_cons]
      have later : ∀ frame' ∈ rest, Carries (held.take (chunk frame)).state frame' (chunk frame') :=
        fun frame' member => (carries frame' (List.mem_cons_of_mem frame member)).of_params rfl
      exact ih later

end Data

/-- Chunks of different indices leave the same flags, record, files and acknowledgments behind in
whatever order they are processed. -/
theorem arrival_order_irrelevant {Owner : Type} (owner : Owner) (store : Store Owner)
    (receiver : ReceiverId) (state : FileReceiver) (frames : List Bytes) (sent : List Bytes)
    (ready : store.Ready receiver state)
    (valid : ∀ frame ∈ frames, ∃ chunk, Carries state frame chunk)
    (distinct : frames.Pairwise fun frame frame' => ∀ chunk chunk', Carries state frame chunk →
      Carries state frame' chunk' → chunk.idx ≠ chunk'.idx) :
    ∃ held : Holdings,
      (∀ order, order.Perm frames → Ensures (Served.sem owner) (Data.processChunks receiver order)
        (fun _ world => world = ⟨store.keep receiver held,
          sent ++ order.map fun _ => [Chunk.ackOk]⟩) ⟨store, sent⟩) ∧
      (frames ≠ [] → ∀ iteration, iteration.Perm held.state.metadata.chunkHashes.entries →
        held.files state.metaPath = some (held.state.metadata.toBytesFrom iteration)) := by
  have : Nonempty ChunkInHand := ⟨⟨0, []⟩⟩
  choose! chunk carries using valid
  have indices : (frames.map fun frame => (chunk frame).idx).Nodup := by
    refine List.pairwise_map.mpr (distinct.imp_of_mem fun member member' different => ?_)
    exact different _ _ (carries _ member) (carries _ member')
  let begun : Holdings := ⟨store.fs, state⟩
  have unchanged : store.keep receiver begun = store := ready.kept
  refine ⟨frames.foldl (fun held frame => held.take (chunk frame)) begun, fun order perm => ?_,
    fun any iteration listed => ?_⟩
  · have carried : ∀ frame ∈ order, Carries begun.state frame (chunk frame) :=
      fun frame member => carries frame (perm.mem_iff.mp member)
    have processed := @Data.ensures_processChunks _ Owner owner store receiver begun sent ready.free
      chunk order carried
    rw [unchanged] at processed
    rw [begun.foldl_take_perm chunk perm.symm indices]
    exact processed
  · rw [TransferMetadata.toBytesFrom_eq listed]
    exact begun.foldl_take_metaPath chunk any

end Chunks

namespace ArrivalOrder

/-- The receiver of a file of two chunks, and no files. -/
def store : Store Unit := (Store.initial fun _ => none).leave 0 sampleReceiver

/-- A chunk of one byte. -/
def frame (idx : Nat) (byte : UInt8) : Bytes :=
  let _ := Blake3.samples
  (Client.chunkMessage idx 0 [byte]).flatten

theorem carries_frame {idx : Nat} (inRange : idx < 2) (byte : UInt8) :
    let _ := Blake3.samples
    Carries sampleReceiver (frame idx byte) ⟨idx, [byte]⟩ := by
  intro _
  have sized : expectedChunkSize 2 1 2 idx = some 1 := by
    interval_cases idx <;> rfl
  exact carries_chunkMessage (by omega) (by simp) sized

end ArrivalOrder

open ArrivalOrder in
theorem arrival_order_irrelevant_two_chunks :
    let _ := Blake3.samples
    ∃ held : Holdings,
      (∀ order, order.Perm [frame 0 0x61, frame 1 0x62] →
        Ensures (Served.sem ()) (Data.processChunks 0 order)
          (fun _ world => world = ⟨store.keep 0 held, [] ++ order.map fun _ => [Chunk.ackOk]⟩)
          ⟨store, []⟩) ∧
      ([frame 0 0x61, frame 1 0x62] ≠ [] →
        ∀ iteration, iteration.Perm held.state.metadata.chunkHashes.entries →
          held.files sampleReceiver.metaPath = some (held.state.metadata.toBytesFrom iteration)) := by
  intro _
  have first := carries_frame Nat.zero_lt_two 0x61
  have second := carries_frame Nat.one_lt_two 0x62
  refine arrival_order_irrelevant () store 0 sampleReceiver [frame 0 0x61, frame 1 0x62] []
    ⟨rfl, Store.leave_self⟩ ?_ ?_
  · intro data member
    rcases List.mem_pair.mp member with rfl | rfl
    · exact ⟨_, first⟩
    · exact ⟨_, second⟩
  · refine List.pairwise_pair.mpr fun chunk chunk' carries carries' => ?_
    rw [carries.unique first, carries'.unique second]
    exact Nat.zero_ne_one

end BeeSync.Server
