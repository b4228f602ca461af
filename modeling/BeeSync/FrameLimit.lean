import BeeSync.ChunkGeometry
import BeeSync.ChunkMessage
import BeeSync.Client.Worker
import BeeSync.HandshakeAgreement
import BeeSync.Interaction.ThreadPool

/-!
# Chunks and the frame limit

A chunk frame carries a header and a hash beside the chunk. The server refuses frames
beyond the limit of the frame layer, while the handshake admits any chunk size of 32
bits: which transfers can be transmitted is decided by their largest chunk.
-/

set_option autoImplicit false

namespace BeeSync

open Encoding Arithmetic Interaction

namespace Frame

theorem length_le_of_recv {bytes payload rest : Bytes} (received : recv bytes = .ok (payload, rest)) :
    payload.length ≤ maxPayload := by
  unfold recv at received
  split at received
  · cases received
  dsimp only at received
  split at received
  · cases received
  rename_i small
  split at received
  · cases received
  cases received
  exact (List.length_take_le _ _).trans (not_lt.mp small)

/-- A frame is received unchanged exactly when its payload is within the limit. -/
theorem recv_sendParts_iff {parts : List Bytes} :
    (∀ rest, recv (sendParts parts ++ rest) = .ok (parts.flatten, rest)) ↔
      parts.flatten.length ≤ maxPayload := by
  constructor
  · intro received
    exact length_le_of_recv (received [])
  · intro fits rest
    rw [sendParts_eq_send]
    exact recv_send rest fits

end Frame

namespace Client

variable [Blake3]

/-- How the calls of a worker are answered: its file is a regular file that nobody
changes, and anything may come over the network. -/
def fileSem : (op : WorkerOp) → Fs Bytes → op.Res → Fs Bytes → Prop
  | .fs op, fs, answer, fs' => op.Sem True fs answer fs'
  | _, fs, _, fs' => fs' = fs

/-- `send_chunk` can come to send a chunk frame for a chunk of the file, whatever the number of retries. -/
def Emits (source : Bytes) (chunkSize : Nat) (parts : List Bytes) : Prop :=
  ∃ filepath idx offset actualSize retries next, ∃ fs fs' : Fs Bytes,
    fs filepath = some source ∧ idx < numChunks source.length chunkSize ∧
      chunkRange source.length chunkSize idx = some (offset, actualSize) ∧
        Runs fileSem (Worker.sendChunk filepath idx offset actualSize retries) fs
          (.vis (.sendParts parts) next) fs'

section Sending

variable (source filepath : Bytes) (idx offset actualSize : Nat)

/-- The frames a call of `send_chunk` may send. -/
private def sending : Protocol WorkerSig (Fs Bytes) where
  sem := fileSem
  inv _ := True
  interf _ _ := False
  guar _ _ := True
  ob
    | .sendParts parts => fun _ => ∃ piece,
        IsPiece source offset actualSize piece ∧ parts = chunkMessage idx offset piece
    | _ => fun _ => True

private theorem stable_sending (fact : Fs Bytes → Prop) :
    (sending source idx offset actualSize).Stable fact :=
  fun _ _ _ _ moved _ => moved.elim

private theorem step_network {op : WorkerOp} (kept : Fs Bytes → Prop)
    (allowed : ∀ fs, kept fs → (sending source idx offset actualSize).ob op fs) :
    (sending source idx offset actualSize).Step kept op fun _ _ => True :=
  fun fs _ holds => ⟨allowed fs holds, fun _ _ _ => ⟨trivial, trivial, trivial⟩⟩

private theorem sendAttempts_triple {piece : Bytes} (read : IsPiece source offset actualSize piece)
    (attempts : Nat) :
    Triple (sending source idx offset actualSize) (fun _ => True)
      (Worker.sendAttempts (chunkMessage idx offset piece) attempts) fun _ _ => True := by
  have stable := stable_sending source idx offset actualSize fun _ => True
  have ends : ∀ result : Except SendError Bool,
      Triple (sending source idx offset actualSize) (fun _ => True) (.ret result)
        fun _ _ => True := fun _ => .ret stable fun _ _ _ => trivial
  induction attempts with
  | zero => exact ends _
  | succ remaining ih =>
      refine .step _ stable (step_network source idx offset actualSize _
        fun _ _ => ⟨piece, read, rfl⟩) fun sent => ?_
      cases sent with
      | error error => exact ends _
      | ok _ =>
          refine .step _ stable (step_network source idx offset actualSize _
            fun _ _ => trivial) fun shutdown => ?_
          cases shutdown with
          | true => exact ends _
          | false =>
              refine .step _ stable (step_network source idx offset actualSize _
                fun _ _ => trivial) fun ack => ?_
              cases ack with
              | error error => exact ends _
              | ok bytes =>
                  cases bytes with
                  | nil =>
                      dsimp only
                      split
                      · exact ih
                      · exact ends _
                  | cons status _ =>
                      dsimp only
                      split
                      · exact ends _
                      · split
                        · exact ih
                        · exact ends _

private theorem sendChunk_triple (retries : Nat) :
    Triple (sending source idx offset actualSize) (fun fs => fs filepath = some source)
      (Worker.sendChunk filepath idx offset actualSize retries) fun _ _ => True := by
  have stable := stable_sending source idx offset actualSize
  have ends : ∀ result : Except SendError Bool,
      Triple (sending source idx offset actualSize) (fun _ => True) (.ret result)
        fun _ _ => True := fun _ => .ret (stable _) fun _ _ _ => trivial
  refine .step (fun _ fs => fs filepath = some source) (stable _) ?_ fun opened => ?_
  · rintro fs _ known
    refine ⟨trivial, ?_⟩
    rintro _ _ ⟨rfl, _⟩
    exact ⟨trivial, trivial, known⟩
  cases opened with
  | error error => exact (ends _).conseq (fun _ _ _ => trivial) fun _ _ _ _ => trivial
  | ok _ =>
      refine .step (fun
        | .ok piece => fun _ => IsPiece source offset actualSize piece
        | .error _ => fun _ => True) (stable _) ?_ fun read => ?_
      · intro fs _ known
        refine ⟨trivial, ?_⟩
        rintro _ _ ⟨rfl, ⟨piece, rfl, read⟩ | ⟨_, error, rfl⟩⟩
        · rw [known] at read
          exact ⟨trivial, trivial, read⟩
        · exact ⟨trivial, trivial, trivial⟩
      cases read with
      | error error => exact ends _
      | ok piece =>
          intro fs inv holds
          exact sendAttempts_triple source idx offset actualSize holds retries fs inv trivial

end Sending

/-- What `send_chunk` can send: any piece a read can bring at the offset of a chunk. -/
theorem emits_iff {source : Bytes} {chunkSize : Nat} {parts : List Bytes} :
    Emits source chunkSize parts ↔ ∃ idx offset actualSize piece,
      idx < numChunks source.length chunkSize ∧
        chunkRange source.length chunkSize idx = some (offset, actualSize) ∧
          IsPiece source offset actualSize piece ∧ parts = chunkMessage idx offset piece := by
  constructor
  · rintro ⟨filepath, idx, offset, actualSize, retries, next, fs, fs', known, inRange, range, ran⟩
    have met := sendChunk_triple source filepath idx offset actualSize retries fs trivial known
    obtain ⟨piece, read, same⟩ := wp_runs met ran
    exact ⟨idx, offset, actualSize, piece, inRange, range, read, same⟩
  · rintro ⟨idx, offset, actualSize, piece, inRange, range, read, rfl⟩
    refine ⟨[], idx, offset, actualSize, 1, _, fun _ => some source, fun _ => some source, rfl,
      inRange, range, .vis (.ok ()) ⟨rfl, .inl ⟨rfl, rfl⟩⟩ (.vis (.ok piece)
        ⟨rfl, .inl ⟨piece, rfl, read⟩⟩ .refl)⟩

end Client

section Transfers

variable [Blake3]

/-- The server accepts the handshake of the client. -/
def Admitted (name source : Bytes) (chunkSize : Nat) : Prop :=
  ∃ handshake, Server.parseHandshake
    (Client.encodeHandshake name source.length chunkSize (calcHash source)) = .ok handshake

/-- Every chunk frame of a transfer is received as it was sent. -/
def Transmissible (source : Bytes) (chunkSize : Nat) : Prop :=
  ∀ parts, Client.Emits source chunkSize parts →
    ∀ rest, Frame.recv (Frame.sendParts parts ++ rest) = .ok (parts.flatten, rest)

/-- The payload of a frame with the largest chunk is within the limit. -/
def LargestFits (source : Bytes) (chunkSize : Nat) : Prop :=
  Chunk.headerSize + min chunkSize source.length + Chunk.hashSize ≤ Frame.maxPayload

theorem transmissible_iff {source : Bytes} {chunkSize : Nat} :
    Transmissible source chunkSize ↔ LargestFits source chunkSize := by
  constructor
  · intro transmissible
    rcases Nat.eq_zero_or_pos chunkSize with rfl | positive
    · rw [LargestFits, Nat.zero_min]
      decide
    · -- the first chunk is the largest, and one read may bring all of it
      have range : Client.chunkRange source.length chunkSize 0 =
          some (0, min chunkSize source.length) := by
        simp only [Client.chunkRange, checkedMul, Nat.zero_mul]
        rfl
      have read : IsPiece source 0 (min chunkSize source.length) (source.take chunkSize) := by
        refine ⟨List.take_prefix _ _, (List.length_take ..).le, fun nothing => .inr ?_⟩
        rw [← List.length_take, nothing]
        rfl
      have received := transmissible _ (Client.emits_iff.mpr
        ⟨0, 0, _, _, numChunks_pos positive, range, read, rfl⟩)
      have fits := Frame.recv_sendParts_iff.mp received
      rwa [chunkMessage_length, List.length_take] at fits
  · rintro fits _ emitted
    obtain ⟨idx, offset, actualSize, piece, _, range, read, rfl⟩ := Client.emits_iff.mp emitted
    have bounded := read.bounded
    have largest : actualSize ≤ min chunkSize source.length := by
      simp only [Client.chunkRange] at range
      split at range
      · split at range
        · cases range
          omega
        · cases range
      · cases range
    rw [Frame.recv_sendParts_iff, chunkMessage_length]
    unfold LargestFits at fits
    omega

/-- An admitted transfer is transmissible exactly when its largest chunk fits a frame
beside its header and its hash. -/
theorem admitted_transmissible_iff (name source : Bytes) (chunkSize : Nat) :
    (Admitted name source chunkSize → Transmissible source chunkSize) ↔
      (Admitted name source chunkSize → LargestFits source chunkSize) :=
  imp_congr_right fun _ => transmissible_iff

end Transfers

/-- A file of 16 MiB in one chunk is admitted, and its only chunk frame is refused. -/
theorem admitted_not_transmissible_16_mib :
    let _ := Blake3.sample
    ¬ (Admitted (ascii "f") (List.replicate (2 ^ 24) 0) (2 ^ 24) →
      Transmissible (List.replicate (2 ^ 24) 0) (2 ^ 24)) := by
  intro _ transmissible
  have admitted : Admitted (ascii "f") (List.replicate (2 ^ 24) 0) (2 ^ 24) := by
    rw [Admitted, List.length_replicate]
    have short : (ascii "f").length % 2 ^ 16 = (ascii "f").length := by decide
    have safe : fileName (fromUtf8Lossy ((ascii "f").take (ascii "f").length)) =
        some (ascii "f") := by decide
    have one : Client.numChunks (2 ^ 24) (2 ^ 24) % 2 ^ 32 = 1 := by decide
    obtain ⟨handshake, accepted, _⟩ := parseHandshake_encodeHandshake (ascii "f") (2 ^ 24) (2 ^ 24)
      (calcHash (List.replicate (2 ^ 24) 0)) short (by decide) safe
      (by rw [encodeHandshake_chunkSize]; decide)
      (by rw [encodeHandshake_numChunks, one]; decide)
      (by rw [encodeHandshake_numChunks, one]; decide)
    exact ⟨handshake, accepted⟩
  have fits := transmissible_iff.mp (transmissible admitted)
  rw [LargestFits, List.length_replicate] at fits
  exact absurd fits (by decide)

end BeeSync
