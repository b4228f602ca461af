import BeeSync.ChunkMessage
import BeeSync.Client.Worker

/-!
# Whole chunks

`send_chunk` reads its chunk with a single read, which may bring less than it asks for. What
is sent is well formed all the same: the size and the hash are those of the piece.
-/

set_option autoImplicit false

namespace BeeSync.Client

open Encoding Arithmetic Interaction

/-- The payload of a chunk frame says that it is the chunk of an index at an offset, with a size, the
bytes of the file and their hash. -/
structure CarriesChunk [Blake3] (source : Bytes) (idx offset size : Nat) (payload : Bytes) :
    Prop where
  header : Server.parseChunkHeader payload = some ⟨idx, offset, size⟩
  data : field payload Chunk.headerSize size = field source offset size
  hash : payload.drop (Chunk.headerSize + size) = (calcHash (field source offset size)).bytes

theorem field_of_isPiece {source piece : Bytes} {offset size : Nat}
    (read : IsPiece source offset size piece) (full : piece.length = size) :
    field source offset size = piece := by
  obtain ⟨behind, split⟩ := read.isPrefix
  rw [field, ← split, ← full, List.take_left]

/-- The message for a piece carries the chunk exactly when the piece is all of it and the numbers fit
their fields. -/
theorem carriesChunk_iff [Blake3] {source piece : Bytes} {idx offset size : Nat}
    (offset_lt : offset < 2 ^ 64) (read : IsPiece source offset size piece) :
    CarriesChunk source idx offset size (chunkMessage idx offset piece).flatten ↔
      piece.length = size ∧ idx < 2 ^ 32 ∧ size < 2 ^ 32 := by
  have header := parseChunkHeader_chunkMessage idx offset piece
  rw [Nat.mod_eq_of_lt offset_lt] at header
  constructor
  · intro carries
    have same := carries.header.symm.trans header
    simp only [Option.some.injEq, Server.ChunkHeader.mk.injEq, true_and] at same
    obtain ⟨index, sized⟩ := same
    have bounded := read.bounded
    have cut : asU32 piece.length ≤ piece.length := Nat.mod_le _ _
    refine ⟨by omega, ?_, ?_⟩
    · rw [index]
      exact asU32_lt idx
    · rw [sized]
      exact asU32_lt _
  · rintro ⟨full, index, sized⟩
    have bytes := field_of_isPiece read full
    constructor
    case header =>
      rw [header, asU32_of_lt index, full, asU32_of_lt sized]
    case data =>
      rw [bytes, ← full]
      exact chunkMessage_data idx offset piece
    case hash =>
      have positioned : (chunkHeader idx offset piece.length ++ piece).length =
          Chunk.headerSize + size := by
        rw [List.length_append, chunkHeader_length, full]
      rw [bytes, chunkMessage_flatten, ← List.append_assoc, ← positioned, List.drop_left]

namespace Worker

/-- What the attempts of `send_chunk` may request. -/
def Attempts (parts : List Bytes) : WorkerOp → Prop
  | .sendParts parts' => parts' = parts
  | .fs _ => False
  | _ => True

theorem sendAttempts_attempts (parts : List Bytes) (remaining : Nat) :
    (sendAttempts parts remaining).All (Attempts parts) := by
  induction remaining with
  | zero => trivial
  | succ remaining ih =>
      refine Prog.All.recover ⟨rfl, fun _ => trivial⟩ (fun _ => trivial) fun _ => ?_
      refine ⟨trivial, fun shutdown => ?_⟩
      cases shutdown with
      | true => trivial
      | false =>
          refine Prog.All.recover ⟨trivial, fun _ => trivial⟩ (fun _ => trivial) fun ack => ?_
          split
          · split
            · exact ih
            · trivial
          · split
            · trivial
            · split
              · exact ih
              · trivial

section Frames

variable [Blake3] {source filepath : Bytes} {idx offset chunkSize retries : Nat}
  {events : List (Event WorkerSig)} {rest : WorkerProg (Except SendError Bool)}

/-- A call that gets as far as to send has read one piece, and sends the message for it. -/
theorem sendChunk_path
    (path : Prog.Path (sendChunk filepath idx offset chunkSize retries) events rest)
    {parts : List Bytes} {sent : Except IoError Unit} (sends : ⟨.sendParts parts, sent⟩ ∈ events) :
    ∃ piece later, events = ⟨.fs (.openRead filepath), .ok ()⟩ ::
        ⟨.fs (.readAt filepath offset chunkSize), .ok piece⟩ :: later ∧
      ∀ event ∈ later, Attempts (chunkMessage idx offset piece) event.op := by
  cases path with
  | nil => cases sends
  | @cons _ _ opened _ _ path =>
    rcases opened with error | ⟨⟩
    · obtain ⟨rfl, _⟩ := path.ret
      exact absurd sends (by simp)
    · cases path with
      | nil => exact absurd sends (by simp)
      | @cons _ _ read later _ path =>
        cases read with
        | error error =>
            obtain ⟨rfl, _⟩ := path.ret
            exact absurd sends (by simp)
        | ok piece => exact ⟨piece, later, rfl, path.all (sendAttempts_attempts _ _)⟩

/-- The chunk frame of every attempt carries the chunk. -/
def EveryAttemptCarries (source : Bytes) (idx offset chunkSize : Nat)
    (events : List (Event WorkerSig)) : Prop :=
  ∀ parts sent, ⟨.sendParts parts, sent⟩ ∈ events →
    CarriesChunk source idx offset chunkSize parts.flatten

/-- The read brings as many bytes as it asks for. -/
def FullRead (filepath : Bytes) (offset chunkSize : Nat) (events : List (Event WorkerSig)) : Prop :=
  ∀ piece, ⟨.fs (.readAt filepath offset chunkSize), .ok piece⟩ ∈ events → piece.length = chunkSize

/-- The attempts of a call for a chunk inside of the file carry it exactly when the single read brings
all of it and its index and size fit their fields of 32 bits. -/
theorem everyAttemptCarries_iff (inside : offset + chunkSize ≤ source.length)
    (sized : source.length < 2 ^ 64)
    (path : Prog.Path (sendChunk filepath idx offset chunkSize retries) events rest)
    (contract : ∀ piece, ⟨.fs (.readAt filepath offset chunkSize), .ok piece⟩ ∈ events →
      IsPiece source offset chunkSize piece)
    (attempted : ∃ parts sent, ⟨.sendParts parts, sent⟩ ∈ events) :
    EveryAttemptCarries source idx offset chunkSize events ↔
      FullRead filepath offset chunkSize events ∧ idx < 2 ^ 32 ∧ chunkSize < 2 ^ 32 := by
  obtain ⟨parts, sent, sends⟩ := attempted
  obtain ⟨piece, later, rfl, attempts⟩ := sendChunk_path path sends
  have read := contract piece (List.mem_cons_of_mem _ List.mem_cons_self)
  have sentOnly : ∀ parts sent, ⟨.sendParts parts, sent⟩ ∈ (⟨.fs (.openRead filepath), .ok ()⟩ ::
      ⟨.fs (.readAt filepath offset chunkSize), .ok piece⟩ :: later : List (Event WorkerSig)) →
        parts = chunkMessage idx offset piece := by
    intro parts sent member
    simp only [List.mem_cons, Event.mk.injEq, reduceCtorEq, false_and, false_or] at member
    exact attempts _ member
  have readOnly : FullRead filepath offset chunkSize (⟨.fs (.openRead filepath), .ok ()⟩ ::
      ⟨.fs (.readAt filepath offset chunkSize), .ok piece⟩ :: later) ↔
        piece.length = chunkSize := by
    constructor
    · intro full
      exact full piece (List.mem_cons_of_mem _ List.mem_cons_self)
    · intro full other member
      rcases List.mem_cons.mp member with impossible | member
      · cases impossible
      · rcases List.mem_cons.mp member with same | member
        · cases same
          exact full
        · exact (attempts _ member).elim
  rw [readOnly, ← carriesChunk_iff (by omega) read]
  constructor
  · intro carry
    rw [← sentOnly parts sent sends]
    exact carry parts sent sends
  · intro carries parts sent member
    rw [sentOnly parts sent member]
    exact carries

end Frames

/-- A call that sends the two bytes of a file after a read that brought so many of them. -/
private def sendsPiece [Blake3] (piece : Bytes) : List (Event WorkerSig) :=
  [⟨.fs (.openRead (ascii "f")), .ok ()⟩, ⟨.fs (.readAt (ascii "f") 0 2), .ok piece⟩,
    ⟨.sendParts (chunkMessage 0 0 piece), .ok ()⟩]

private theorem sendsPiece_path [Blake3] (piece : Bytes) :
    ∃ rest, Prog.Path (sendChunk (ascii "f") 0 0 2 1) (sendsPiece piece) rest :=
  ⟨_, .cons (.cons (.cons .nil))⟩

private theorem isPiece_of_sendsPiece [Blake3] {piece : Bytes}
    (isPiece : IsPiece [0x61, 0x62] 0 2 piece) :
    ∀ piece', ⟨.fs (.readAt (ascii "f") 0 2), .ok piece'⟩ ∈ sendsPiece piece →
      IsPiece [0x61, 0x62] 0 2 piece' := by
  intro piece' member
  rcases List.mem_cons.mp member with impossible | member
  · cases impossible
  · rcases List.mem_cons.mp member with same | member
    · cases same
      exact isPiece
    · rcases List.mem_cons.mp member with impossible | impossible
      · cases impossible
      · cases impossible

theorem everyAttemptCarries_iff_two_bytes :
    let _ := Blake3.samples
    EveryAttemptCarries [0x61, 0x62] 0 0 2 (sendsPiece [0x61, 0x62]) ↔
      FullRead (ascii "f") 0 2 (sendsPiece [0x61, 0x62]) ∧ 0 < 2 ^ 32 ∧ 2 < 2 ^ 32 := by
  intro _
  obtain ⟨rest, path⟩ := sendsPiece_path [0x61, 0x62]
  have isPiece : IsPiece [0x61, 0x62] 0 2 [0x61, 0x62] := ⟨by decide, by decide, by decide⟩
  exact everyAttemptCarries_iff (by decide) (by decide) path (isPiece_of_sendsPiece isPiece)
    ⟨_, _, .tail _ (.tail _ (.head _))⟩

/-- A read that brings one of two bytes makes a chunk of one byte. -/
theorem short_read_cut_chunk :
    let _ := Blake3.samples
    ¬ ∀ (source filepath : Bytes) (idx offset chunkSize retries : Nat)
        (events : List (Event WorkerSig)) (rest : WorkerProg (Except SendError Bool)),
      offset + chunkSize ≤ source.length → source.length < 2 ^ 64 →
      Prog.Path (sendChunk filepath idx offset chunkSize retries) events rest →
      (∀ piece, ⟨.fs (.readAt filepath offset chunkSize), .ok piece⟩ ∈ events →
        IsPiece source offset chunkSize piece) →
      EveryAttemptCarries source idx offset chunkSize events := by
  intro _ carries
  obtain ⟨rest, path⟩ := sendsPiece_path [0x61]
  have isPiece : IsPiece [0x61, 0x62] 0 2 [0x61] := ⟨by decide, by decide, by decide⟩
  have carried := carries [0x61, 0x62] (ascii "f") 0 0 2 1 _ rest (by decide) (by decide) path
    (isPiece_of_sendsPiece isPiece) _ _ (.tail _ (.tail _ (.head _)))
  exact absurd ((carriesChunk_iff (by decide) isPiece).mp carried).1 (by decide)

end Worker

end BeeSync.Client
