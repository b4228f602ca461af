import BeeSync.Protocol

/-!
# Streams of frames

What one end writes with `send` and `send_parts` is taken apart by `recv` at the other
end, message by message. A stream that breaks off or announces too much gives an error
in place of the frame, after the complete frames before it.
-/

set_option autoImplicit false

namespace BeeSync.Frame

open Encoding Arithmetic

/-- How a message is handed to the stream. -/
inductive Sending where
  | send (data : Bytes)
  | sendParts (parts : List Bytes)

def Sending.payload : Sending → Bytes
  | .send data => data
  | .sendParts parts => parts.flatten

def Sending.written : Sending → Bytes
  | .send data => Frame.send data
  | .sendParts parts => Frame.sendParts parts

theorem Sending.written_eq (sending : Sending) : sending.written = Frame.send sending.payload := by
  cases sending with
  | send data => rfl
  | sendParts parts => exact sendParts_eq_send parts

/-- A message within the limit. -/
structure Message where
  sending : Sending
  fits : sending.payload.length ≤ maxPayload

namespace Message

def payload (message : Message) : Bytes := message.sending.payload

def written (message : Message) : Bytes := message.sending.written

theorem recv_written (message : Message) (rest : Bytes) :
    recv (message.written ++ rest) = .ok (message.payload, rest) := by
  rw [written, Sending.written_eq]
  exact recv_send rest message.fits

end Message

/-- Everything that was written. -/
def stream (messages : List Message) : Bytes :=
  messages.flatMap Message.written

/-- `recv` again and again, up to a number of frames: the payloads, and the bytes behind
them or why there is no further frame. -/
def recvTimes : Nat → Bytes → List Bytes × Except RecvError Bytes
  | 0, bytes => ([], .ok bytes)
  | count + 1, bytes =>
    match recv bytes with
    | .error error => ([], .error error)
    | .ok (payload, rest) =>
      let (payloads, outcome) := recvTimes count rest
      (payload :: payloads, outcome)

theorem recvTimes_succ_ok {count : Nat} {bytes payload rest : Bytes}
    (received : recv bytes = .ok (payload, rest)) :
    recvTimes (count + 1) bytes =
      (payload :: (recvTimes count rest).1, (recvTimes count rest).2) := by
  simp only [recvTimes, received]

theorem recvTimes_error {count : Nat} {bytes : Bytes} {error : RecvError}
    (refused : recv bytes = .error error) : recvTimes (count + 1) bytes = ([], .error error) := by
  simp only [recvTimes, refused]

theorem recvTimes_stream (messages : List Message) (count : Nat) (tail : Bytes) :
    recvTimes (messages.length + count) (stream messages ++ tail) =
      (messages.map Message.payload ++ (recvTimes count tail).1, (recvTimes count tail).2) := by
  induction messages with
  | nil =>
      rw [List.length_nil, Nat.zero_add]
      rfl
  | cons message rest ih =>
      have received := message.recv_written (stream rest ++ tail)
      have split : stream (message :: rest) ++ tail =
          message.written ++ (stream rest ++ tail) := by
        rw [stream, List.flatMap_cons, List.append_assoc]
        rfl
      rw [List.length_cons, Nat.add_right_comm, split, recvTimes_succ_ok received, ih]
      rfl

theorem recv_cut {data : Bytes} (fits : data.length ≤ maxPayload) {count : Nat}
    (inside : count < (send data).length) : recv ((send data).take count) = .error .incomplete := by
  have small : data.length < 2 ^ 32 := lt_of_le_of_lt fits (by decide)
  have sized : ((send data).take count).length = count := by
    rw [List.length_take]
    exact min_eq_left inside.le
  by_cases short : count < headerSize
  · exact if_pos (sized.symm ▸ short)
  · have long : ¬ ((send data).take count).length < headerSize := by
      rw [sized]
      exact short
    have announced : readBigEndian ((send data).take count) 0 headerSize = data.length := by
      have whole := prefix_send data [] small
      rw [List.append_nil, readBigEndian, field, List.drop_zero] at whole
      rwa [readBigEndian, field, List.drop_zero, List.take_take, min_eq_left (not_lt.mp short)]
    have cut : ((send data).take count).length < headerSize + data.length := by
      rwa [sized, ← send_length]
    simp only [recv, if_neg long, announced, if_neg (not_lt.mpr fits), if_pos cut]

theorem Message.recv_take (message : Message) {count : Nat}
    (inside : count < message.written.length) :
    recv (message.written.take count) = .error .incomplete := by
  rw [written, Sending.written_eq] at inside ⊢
  exact recv_cut message.fits inside

/-- A frame that announces too much is refused before its payload is read. -/
theorem recv_tooLarge {bytes : Bytes} (long : headerSize ≤ bytes.length)
    (large : maxPayload < readBigEndian bytes 0 headerSize) :
    recv bytes = .error (.tooLarge (readBigEndian bytes 0 headerSize)) := by
  simp only [recv, if_neg (not_lt.mpr long), if_pos large]

/-- Frames are received as they were sent, in order and with no byte left over; in place
of a frame that breaks off or announces too much there is an error. -/
theorem frame_transport (messages : List Message) :
    recvTimes messages.length (stream messages) = (messages.map Message.payload, .ok []) ∧
      (∀ parts, sendParts parts = send parts.flatten) ∧
      (∀ (last : Message) (count : Nat), count < last.written.length →
        recvTimes (messages.length + 1) (stream messages ++ last.written.take count) =
          (messages.map Message.payload, .error .incomplete)) ∧
      (∀ tail : Bytes, headerSize ≤ tail.length → maxPayload < readBigEndian tail 0 headerSize →
        recvTimes (messages.length + 1) (stream messages ++ tail) =
          (messages.map Message.payload, .error (.tooLarge (readBigEndian tail 0 headerSize)))) := by
  refine ⟨?_, sendParts_eq_send, fun last count inside => ?_, fun tail long large => ?_⟩
  · have all := recvTimes_stream messages 0 []
    rw [Nat.add_zero, List.append_nil] at all
    rw [all, recvTimes, List.append_nil]
  · rw [recvTimes_stream, recvTimes_error (last.recv_take inside), List.append_nil]
  · rw [recvTimes_stream, recvTimes_error (recv_tooLarge long large), List.append_nil]

end BeeSync.Frame
