import BeeSync.Encoding.BigEndian
import BeeSync.Arithmetic.Tiling

/-!
# Wire protocol

Every message is a length-prefixed frame. The constants are those of the
handshake, its response, the chunk messages and the resume query.
-/

set_option autoImplicit false

namespace BeeSync

open Encoding Arithmetic

namespace Frame

/-- Size of the length prefix. -/
def headerSize : Nat := 4

/-- Frames with a larger payload are refused: 16 MiB. -/
def maxPayload : Nat := 16 * 1024 * 1024

/-- `frame::send`: the length prefix is the payload length cast to 32 bits. -/
def send (data : Bytes) : Bytes :=
  toBigEndian headerSize (asU32 data.length) ++ data

/-- `frame::send_parts`: one frame assembled from several buffers. -/
def sendParts (parts : List Bytes) : Bytes :=
  toBigEndian headerSize (asU32 (parts.map List.length).sum) ++ parts.flatten

/-- Why no frame can be taken from the bytes at hand. -/
inductive RecvError where
  /-- The bytes end before the frame does. -/
  | incomplete
  | tooLarge (payloadLen : Nat)
  deriving DecidableEq, Repr

/-- `frame::recv` on the bytes that arrived: the payload and the bytes behind it. -/
def recv (stream : Bytes) : Except RecvError (Bytes × Bytes) :=
  if stream.length < headerSize then .error .incomplete
  else
    let payloadLen := readBigEndian stream 0 headerSize
    if payloadLen > maxPayload then .error (.tooLarge payloadLen)
    else if stream.length < headerSize + payloadLen then .error .incomplete
    else .ok (field stream headerSize payloadLen, stream.drop (headerSize + payloadLen))

@[simp] theorem send_length (data : Bytes) : (send data).length = headerSize + data.length := by
  simp [send]

theorem sendParts_eq_send (parts : List Bytes) : sendParts parts = send parts.flatten := by
  simp [sendParts, send, List.length_flatten]

theorem prefix_send (data rest : Bytes) (fits : data.length < 2 ^ 32) :
    readBigEndian (send data ++ rest) 0 headerSize = data.length := by
  rw [send, List.append_assoc, readBigEndian_zero_append, asU32_of_lt fits, headerSize]
  exact Nat.mod_eq_of_lt (by omega)

theorem recv_send {data : Bytes} (rest : Bytes) (fits : data.length ≤ maxPayload) :
    recv (send data ++ rest) = .ok (data, rest) := by
  have small : data.length < 2 ^ 32 := lt_of_le_of_lt fits (by decide)
  have long : ¬ (send data ++ rest).length < headerSize := by
    simp only [List.length_append, send_length]
    omega
  have complete : ¬ (send data ++ rest).length < headerSize + data.length := by
    simp only [List.length_append, send_length]
    omega
  have payload : field (send data ++ rest) headerSize data.length = data := by
    rw [send, List.append_assoc]
    exact field_append (toBigEndian_length _ _) rfl
  have behind : (send data ++ rest).drop (headerSize + data.length) = rest := by
    rw [← send_length, List.drop_left]
  simp only [recv, if_neg long, prefix_send data rest small, if_neg (not_lt.mpr fits),
    if_neg complete, payload, behind]

end Frame

namespace Handshake

/-- Protocol magic number, the ASCII bytes of BESN. -/
def magic : Bytes := [0x42, 0x45, 0x53, 0x4E]

/-- Magic and file name length. -/
def prefixSize : Nat := 6

/-- File size, chunk size, number of chunks and hash. -/
def suffixSize : Nat := 48

/-- Transfer accepted, data ports follow. -/
def respOk : UInt8 := 0

/-- Server error. -/
def respErr : UInt8 := 1

/-- The file exists with the same hash. -/
def respExists : UInt8 := 2

/-- All chunks are present; the server assembles and confirms. -/
def respComplete : UInt8 := 3

end Handshake

namespace Chunk

/-- Chunk index, offset and size. -/
def headerSize : Nat := 16

/-- Size of the BLAKE3 hash that ends a chunk message. -/
def hashSize : Nat := 32

/-- The chunk was stored. -/
def ackOk : UInt8 := 0

/-- The chunk was not stored; the client should retry. -/
def ackHashMismatch : UInt8 := 1

/-- The message that asks which chunks the server already has. -/
def queryMagic : UInt8 := 1

end Chunk

end BeeSync
