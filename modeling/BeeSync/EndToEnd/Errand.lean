import BeeSync.EndToEnd.MainAccounts
import BeeSync.Server.CrashRecovery
import BeeSync.Server.DataRuns

/-!
# A transfer that nothing is in the way of

What the client is configured for is the job of the server: the frame of every chunk is
accepted, and every chunk is given to one worker.
-/

set_option autoImplicit false

namespace BeeSync.Server

open Arithmetic Encoding Interaction

namespace Job

variable [Blake3] (job : Job)

/-- The frame by which a chunk is to be sent. -/
def frame (idx : Nat) : Bytes :=
  (Client.chunkMessage idx (idx * job.handshake.chunkSize) (job.chunk idx)).flatten

variable {job} {idx : Nat}

theorem frame_length :
    (job.frame idx).length = Chunk.headerSize + (job.chunk idx).length + Chunk.hashSize :=
  chunkMessage_length ..

theorem frame_ne_query : job.frame idx ≠ [Chunk.queryMagic] :=
  chunkMessage_ne_query _ _ _

theorem chunk_length_le : (job.chunk idx).length ≤ job.handshake.chunkSize := by
  rw [chunk_length]
  exact Nat.min_le_left ..

theorem message_frame (inRange : idx < job.handshake.numChunks) : job.Message idx (job.frame idx) := by
  refine ⟨inRange, job.chunk idx, ⟨List.take_prefix _ _, le_refl _, fun nothing => .inr ?_⟩, rfl⟩
  simp [nothing]

theorem headerIndex_frame (inRange : idx < job.handshake.numChunks) :
    headerIndex (job.frame idx) = some idx :=
  (message_frame inRange).index

/-- The server accepts the frame, whatever it has marked. -/
theorem carries_frame {state : FileReceiver} (inRange : idx < job.handshake.numChunks)
    (params : state.params = job.receiver.params) :
    Carries state (job.frame idx) ⟨idx, job.chunk idx⟩ := by
  have fileSize : state.fileSize = job.source.length :=
    (congrArg FileReceiver.Params.fileSize params).trans job.fileSize
  have chunkSize : state.chunkSize = job.handshake.chunkSize :=
    congrArg FileReceiver.Params.chunkSize params
  have numChunks : state.numChunks = Client.numChunks job.source.length job.handshake.chunkSize :=
    (congrArg FileReceiver.Params.numChunks params).trans job.numChunks
  have size : job.source.length < 2 ^ 64 := job.fileSize ▸ job.handshake.fileSize_lt
  have short : (job.chunk idx).length < 2 ^ 32 := chunk_length_le.trans_lt job.handshake.chunkSize_lt
  refine carries_chunkMessage (inRange_lt inRange) short ?_
  rw [fileSize, chunkSize, numChunks, chunk_length]
  exact expectedChunkSize_eq size job.handshake.chunkSize_pos job.nonempty (job.numChunks ▸ inRange)

/-- So it neither ignores nor refuses it. -/
theorem frame_fits {state : FileReceiver} {header : ChunkHeader}
    (inRange : idx < job.handshake.numChunks) (params : state.params = job.receiver.params)
    (parsed : parseChunkHeader (job.frame idx) = some header) :
    header.Fits state ∧
      (calcHash (field (job.frame idx) Chunk.headerSize header.chunkSize)).bytes =
        field (job.frame idx) (Chunk.headerSize + header.chunkSize) Chunk.hashSize ∧
      Chunk.headerSize + header.chunkSize + Chunk.hashSize ≤ (job.frame idx).length := by
  obtain ⟨header', parsed', index, expected, long, bytes, hash⟩ := carries_frame inRange params
  cases parsed.symm.trans parsed'
  refine ⟨expected, ?_, long⟩
  rw [← bytes]
  exact hash

end Job

end BeeSync.Server

namespace BeeSync.EndToEnd

open Arithmetic Encoding Interaction Server

section Errand

variable [Blake3]

/-- Nothing is in the way of the transfer. -/
structure Scene.Clear (scene : Scene) (job : Job) (files : Fs FilePath) : Prop where
  served : scene.Served
  server : job.config = scene.server
  source : job.source = scene.source
  announced : ∃ name, fileName scene.client.filepath = some name ∧
    parseHandshake (scene.hail name) = .ok job.handshake
  /-- The frame of a chunk is not too long. -/
  frames : scene.client.chunkSize + Chunk.headerSize + Chunk.hashSize ≤ Frame.maxPayload
  retries : 0 < scene.client.retries
  /-- Enough ports are free. -/
  room : ∃ spare : List UInt16, spare.Sublist dataPorts ∧ (∀ port ∈ spare, scene.free port) ∧
    min scene.numChunks scene.server.maxParallel ≤ spare.length
  untouched : job.Untouched files

end Errand

namespace Scene.Clear

variable [Blake3] {scene : Scene} {job : Job} {files : Fs FilePath}

theorem announces (clear : scene.Clear job files) : scene.Announces job.handshake := by
  obtain ⟨name, named, parsed⟩ := clear.announced
  exact ⟨_, ⟨name, named, rfl⟩, parsed⟩

theorem numChunks (clear : scene.Clear job files) : job.handshake.numChunks = scene.numChunks :=
  clear.announces.numChunks

theorem chunkSize (clear : scene.Clear job files) :
    job.handshake.chunkSize = scene.client.chunkSize := by
  obtain ⟨_, _, same⟩ := clear.announces.describes
  exact congrArg FileReceiver.Params.chunkSize same

/-- The number of chunks is what the client takes it for. -/
theorem count (clear : scene.Clear job files) :
    Client.numChunks scene.source.length scene.client.chunkSize = scene.numChunks := by
  rw [← clear.numChunks, job.numChunks, clear.source, clear.chunkSize]

/-- What a worker finds out about a chunk. -/
theorem chunkRange (clear : scene.Clear job files) {idx : Nat} (inRange : idx < scene.numChunks) :
    Client.chunkRange scene.source.length scene.client.chunkSize idx =
      some (idx * scene.client.chunkSize, (job.chunk idx).length) := by
  have size : scene.source.length < 2 ^ 64 := by
    rw [← clear.source, ← job.fileSize]
    exact job.handshake.fileSize_lt
  rw [chunkRange_eq size scene.client.chunkSize_pos (clear.count ▸ inRange), Job.chunk_length,
    clear.source, clear.chunkSize]

/-- A read that brings all it is asked for brings the chunk. -/
theorem filled (clear : scene.Clear job files) {idx : Nat} {piece : Bytes}
    (isPiece : IsPiece scene.source (idx * scene.client.chunkSize) (job.chunk idx).length piece)
    (fills : piece.length =
      min (job.chunk idx).length (scene.source.length - idx * scene.client.chunkSize)) :
    piece = job.chunk idx := by
  have whole : piece.length = (job.chunk idx).length := by
    rw [fills, Job.chunk_length, clear.source, clear.chunkSize]
    omega
  rw [← clear.source, ← clear.chunkSize] at isPiece
  have taken : job.chunk idx <+: job.source.drop (idx * job.handshake.chunkSize) := List.take_prefix _ _
  exact (List.prefix_of_prefix_length_le isPiece.isPrefix taken whole.le).eq_of_length whole

theorem frame_short (clear : scene.Clear job files) (idx : Nat) :
    (job.frame idx).length ≤ Frame.maxPayload := by
  have few : (job.chunk idx).length ≤ job.handshake.chunkSize := Job.chunk_length_le
  have fits := clear.frames
  rw [clear.chunkSize] at few
  rw [Job.frame_length]
  omega

end Scene.Clear

section Staff

/-- The chunks that the workers are given when there are so many ports. -/
def Scene.shares (scene : Scene) (dataPorts : List UInt16) : List (List Nat) :=
  deal scene.numChunks (Client.Main.numWorkers scene.client dataPorts)

/-- The worker is given its share, and one of the ports. -/
structure Hired (scene : Scene) (dataPorts : List UInt16) (worker : Nat)
    (config : Client.WorkerConfig) : Prop where
  share : (scene.shares dataPorts)[worker]? = some config.chunkIndices
  some_ : config.chunkIndices ≠ []
  port : config.port ∈ dataPorts
  filepath : config.filepath = scene.client.filepath
  chunkSize : config.chunkSize = scene.client.chunkSize
  fileSize : config.fileSize = scene.source.length
  retries : config.retries = scene.client.retries

namespace Hired

variable {scene : Scene} {dataPorts : List UInt16} {worker other : Nat}
  {config config' : Client.WorkerConfig}

theorem pile (hired : Hired scene dataPorts worker config) :
    config.chunkIndices =
      Arithmetic.pile scene.numChunks (Client.Main.numWorkers scene.client dataPorts) worker := by
  have share := hired.share
  rw [Scene.shares, deal_eq, List.getElem?_map] at share
  obtain ⟨position, found, same⟩ := Option.map_eq_some_iff.mp share
  obtain ⟨_, here⟩ := List.getElem?_eq_some_iff.mp found
  rw [List.getElem_range] at here
  subst here
  exact same.symm

theorem nodup (hired : Hired scene dataPorts worker config) : config.chunkIndices.Nodup := by
  rw [hired.pile]
  exact (pile_increasing ..).imp fun less => Nat.ne_of_lt less

theorem inRange (hired : Hired scene dataPorts worker config) {idx : Nat}
    (given : idx ∈ config.chunkIndices) : idx < scene.numChunks := by
  rw [hired.pile] at given
  exact (mem_pile.mp given).1

/-- No chunk is given to two workers. -/
theorem alone (hired : Hired scene dataPorts worker config)
    (hired' : Hired scene dataPorts other config') {idx : Nat}
    (given : idx ∈ config.chunkIndices) (given' : idx ∈ config'.chunkIndices) : worker = other := by
  rw [hired.pile] at given
  rw [hired'.pile] at given'
  exact (mem_pile.mp given).2.symm.trans (mem_pile.mp given').2

end Hired

/-- What the client gives to a worker. -/
theorem hired_workerConfig {scene : Scene} {dataPorts : List UInt16} {worker : Nat} {chunks : List Nat}
    (share : (scene.shares dataPorts)[worker]? = some chunks) (some_ : chunks ≠ []) (ports : dataPorts ≠ []) :
    Hired scene dataPorts worker
      (Client.Main.workerConfig scene.client dataPorts scene.source.length worker chunks) where
  share := share
  some_ := some_
  port := by
    have inside : worker % dataPorts.length < dataPorts.length :=
      Nat.mod_lt _ (List.length_pos_iff.mpr ports)
    simp [Client.Main.workerConfig, List.getD_eq_getElem?_getD, List.getElem?_eq_getElem inside]
  filepath := rfl
  chunkSize := rfl
  fileSize := rfl
  retries := rfl

end Staff

end BeeSync.EndToEnd
