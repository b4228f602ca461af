import BeeSync.FileOps
import BeeSync.Protocol
import BeeSync.Encoding.PathName
import BeeSync.Encoding.Utf8

/-!
# What the client sends and understands

The messages the client builds and its parsing of the server's answers, together
with the arithmetic by which it cuts the file into chunks.
-/

set_option autoImplicit false

namespace BeeSync.Client

open Encoding Arithmetic

/-- The number of chunks, as `build_handshake` and `setup_transfer` compute it. -/
def numChunks (fileSize chunkSize : Nat) : Nat :=
  if fileSize > 0 then divCeil fileSize chunkSize else 1

/-- The frame of `build_handshake`. -/
def encodeHandshake (filename : Bytes) (fileSize chunkSize : Nat) (fullHash : Digest) : Bytes :=
  Handshake.magic ++ toBigEndian 2 (asU16 filename.length) ++ filename ++
    toBigEndian 8 fileSize ++ toBigEndian 4 (asU32 chunkSize) ++
    toBigEndian 4 (asU32 (numChunks fileSize chunkSize)) ++ fullHash.bytes

/-- Errors of `parse_response`. -/
inductive ResponseError where
  | tooShort
  | tooShortForPorts
  deriving DecidableEq, Repr

def ResponseError.message : ResponseError → String
  | .tooShort => "Response too short"
  | .tooShortForPorts => "Response too short for ports"

/-- The port at a position of a handshake response. -/
def responsePort (data : Bytes) (index : Nat) : UInt16 :=
  UInt16.ofNat (readBigEndian data (2 + index * 2) 2)

/-- `parse_response`: status byte, port count byte, ports. -/
def parseResponse (data : Bytes) : Except ResponseError (UInt8 × List UInt16) :=
  match data with
  | status :: count :: _ =>
    if data.length < 2 + count.toNat * 2 then .error .tooShortForPorts
    else .ok (status, (List.range count.toNat).map (responsePort data))
  | _ => .error .tooShort

/-- Where a worker reads a chunk and how much of it there is: `None` when the
offset overflows or lies behind the end of the file. -/
def chunkRange (fileSize chunkSize idx : Nat) : Option (Nat × Nat) :=
  match checkedMul idx chunkSize with
  | some offset =>
    if offset ≤ fileSize then some (offset, min chunkSize (fileSize - offset)) else none
  | none => none

/-- The chunk header of `send_chunk`. -/
def chunkHeader (chunkIndex chunkOffset actualSize : Nat) : Bytes :=
  toBigEndian 4 (asU32 chunkIndex) ++ toBigEndian 8 chunkOffset ++ toBigEndian 4 (asU32 actualSize)

/-- The payload of the chunk frame of `send_chunk`. -/
def chunkMessage [Blake3] (chunkIndex chunkOffset : Nat) (chunkData : Bytes) : List Bytes :=
  [chunkHeader chunkIndex chunkOffset chunkData.length, chunkData, (calcHash chunkData).bytes]

/-- The index at a position of a resume response. -/
def receivedIndex (resp : Bytes) (position : Nat) : Nat :=
  readBigEndian resp (4 + position * 4) 4

/-- The answer `query_received` reads: nothing stands for the panic of an index
that is announced but not there. -/
def parseReceived (resp : Bytes) : Option (List Nat) :=
  if resp.length < 4 then some []
  else
    let num := readBigEndian resp 0 4
    if resp.length < 4 + num * 4 then none
    else some ((List.range num).map (receivedIndex resp))

/-- Round-robin distribution of `setup_workers`: chunk `i` to worker `i % num_workers`. -/
def workerAssignments (numChunks numWorkers : Nat) : List (List Nat) :=
  let empty := List.replicate (max numWorkers 1) []
  if numWorkers > 0 then
    (List.range numChunks).foldl
      (fun lists i => lists.modify (i % numWorkers) fun list => list ++ [i]) empty
  else empty

end BeeSync.Client
