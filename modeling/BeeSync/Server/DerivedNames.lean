import BeeSync.HandshakeAgreement
import BeeSync.Server.Control
import BeeSync.Server.TransferFiles

/-!
# Files of transfers with different names

Parts, record and temporary record are named by appending to the name of the output
file. Appended names never meet each other, but a remote client may choose such a name
for its output file.
-/

set_option autoImplicit false

namespace BeeSync.Server

open Encoding Interaction

/-- A file that the server keeps for a transfer. -/
inductive FileReceiver.Owns (receiver : FileReceiver) : FilePath → Prop where
  | final : Owns receiver receiver.finalPath
  | part {idx : Nat} : idx < receiver.numChunks → Owns receiver (receiver.partPath idx)
  | record : Owns receiver receiver.metaPath
  | recordTmp : Owns receiver receiver.tmpPath

/-- What is appended to the name of a transfer with a number of chunks. -/
inductive Suffix (numChunks : Nat) : Bytes → Prop where
  | part {idx : Nat} : idx < numChunks → Suffix numChunks (ascii ".part" ++ decimal idx)
  | record : Suffix numChunks (ascii ".bee-meta")
  | recordTmp : Suffix numChunks (ascii ".bee-meta" ++ ascii ".tmp")

/-- A name that is derived from the name of a transfer. -/
def HandshakeData.Derives (handshake : HandshakeData) (name : Bytes) : Prop :=
  ∃ suffix, Suffix handshake.numChunks suffix ∧ name = handshake.safeName ++ suffix

theorem owns_receiver_iff {handshake : HandshakeData} {dir : Bytes} {path : FilePath} :
    (handshake.receiver dir dir).Owns path ↔ path.dir = dir ∧
      (path.name = handshake.safeName ∨ handshake.Derives path.name) := by
  constructor
  · intro owns
    cases owns with
    | final => exact ⟨rfl, .inl rfl⟩
    | part inRange => exact ⟨rfl, .inr ⟨_, .part inRange, List.append_assoc _ _ _⟩⟩
    | record => exact ⟨rfl, .inr ⟨_, .record, rfl⟩⟩
    | recordTmp => exact ⟨rfl, .inr ⟨_, .recordTmp, List.append_assoc _ _ _⟩⟩
  · obtain ⟨pathDir, name⟩ := path
    rintro ⟨rfl, rfl | ⟨suffix, kind, rfl⟩⟩
    · exact .final
    · cases kind with
      | part inRange =>
          rw [← List.append_assoc]
          exact .part inRange
      | record => exact .record
      | recordTmp =>
          rw [← List.append_assoc]
          exact .recordTmp

section Suffixes

variable {left right suffix suffix' : Bytes} {count count' : Nat}

private theorem last_eq {byte byte' : UInt8} (last : suffix.getLast? = some byte)
    (last' : suffix'.getLast? = some byte') (same : left ++ suffix = right ++ suffix') :
    byte = byte' := by
  have ends := congrArg List.getLast? same
  rw [List.getLast?_append, List.getLast?_append, last, last'] at ends
  exact Option.some.inj ends

private theorem last_part (idx : Nat) :
    ∃ byte, (ascii ".part" ++ decimal idx).getLast? = some byte ∧ IsDigit byte := by
  obtain ⟨byte, last⟩ := Option.ne_none_iff_exists'.mp
    (mt List.getLast?_eq_none_iff.mp (decimal_ne_nil idx))
  refine ⟨byte, ?_, decimal_isDigit (List.mem_of_getLast? last)⟩
  rw [List.getLast?_append, last]
  rfl

private theorem last_record : (ascii ".bee-meta").getLast? = some 97 := by decide

private theorem last_recordTmp : (ascii ".bee-meta" ++ ascii ".tmp").getLast? = some 112 := by
  decide

private theorem part_cancel {idx idx' : Nat}
    (same : left ++ (ascii ".part" ++ decimal idx) = right ++ (ascii ".part" ++ decimal idx')) :
    left = right := by
  have split : ascii ".part" = ascii ".par" ++ [116] := by decide
  rw [split, ← List.append_assoc, ← List.append_assoc, ← List.append_assoc,
    ← List.append_assoc] at same
  have names := decimal_append_cancel (by decide) (by decide) same
  exact List.append_cancel_right (List.append_cancel_right names)

theorem Suffix.cancel (kind : Suffix count suffix) (kind' : Suffix count' suffix')
    (same : left ++ suffix = right ++ suffix') : left = right := by
  cases kind with
  | @part idx _ =>
      obtain ⟨byte, last, digit⟩ := last_part idx
      cases kind' with
      | part _ => exact part_cancel same
      | record =>
          cases last_eq last last_record same
          exact absurd digit (by decide)
      | recordTmp =>
          cases last_eq last last_recordTmp same
          exact absurd digit (by decide)
  | record =>
      cases kind' with
      | @part idx _ =>
          obtain ⟨byte, last, digit⟩ := last_part idx
          cases last_eq last_record last same
          exact absurd digit (by decide)
      | record => exact List.append_cancel_right same
      | recordTmp => cases last_eq last_record last_recordTmp same
  | recordTmp =>
      cases kind' with
      | @part idx _ =>
          obtain ⟨byte, last, digit⟩ := last_part idx
          cases last_eq last_recordTmp last same
          exact absurd digit (by decide)
      | record => cases last_eq last_recordTmp last_record same
      | recordTmp => exact List.append_cancel_right same

end Suffixes

/-- Transfers with different names share no file exactly when neither name is derived from
the other. -/
theorem transfer_files_disjoint_iff (dir : Bytes) (left right : HandshakeData)
    (different : left.safeName ≠ right.safeName) :
    (∀ path, (left.receiver dir dir).Owns path → ¬ (right.receiver dir dir).Owns path) ↔
      ¬ left.Derives right.safeName ∧ ¬ right.Derives left.safeName := by
  constructor
  · intro disjoint
    constructor
    · intro derives
      exact disjoint ⟨dir, right.safeName⟩ (owns_receiver_iff.mpr ⟨rfl, .inr derives⟩) .final
    · intro derives
      exact disjoint ⟨dir, left.safeName⟩ .final (owns_receiver_iff.mpr ⟨rfl, .inr derives⟩)
  · rintro ⟨apart, apart'⟩ path owns owns'
    obtain ⟨_, named⟩ := owns_receiver_iff.mp owns
    obtain ⟨_, named'⟩ := owns_receiver_iff.mp owns'
    rcases named with same | ⟨suffix, kind, same⟩
    · rw [same] at named'
      rcases named' with same' | derives
      · exact different same'
      · exact apart' derives
    · rcases named' with same' | ⟨suffix', kind', same'⟩
      · exact apart ⟨suffix, kind, same'.symm.trans same⟩
      · exact different (kind.cancel kind' (same.symm.trans same'))

/-- The handshake of a file with one chunk. -/
private def named (name : Bytes) (component : IsComponent name) : HandshakeData where
  filename := name
  safeName := name
  fileSize := 1
  chunkSize := 1
  numChunks := 1
  fullHash := ⟨List.replicate 32 0, rfl⟩
  safe := component.fileName_eq
  fileSize_lt := by decide
  chunkSize_pos := by decide
  chunkSize_lt := by decide
  numChunks_pos := by decide
  numChunks_le := by decide

/-- Two plain names. -/
theorem transfer_files_disjoint_iff_plain :
    (∀ path, ((named (ascii "f") (by decide)).receiver [] []).Owns path →
      ¬ ((named (ascii "g") (by decide)).receiver [] []).Owns path) ↔
        ¬ (named (ascii "f") (by decide)).Derives (ascii "g") ∧
          ¬ (named (ascii "g") (by decide)).Derives (ascii "f") :=
  transfer_files_disjoint_iff [] (named (ascii "f") (by decide)) (named (ascii "g") (by decide))
    (by decide)

/-- A client may call its file as it likes. -/
theorem accepted_named (name : Bytes) (component : IsComponent name)
    (short : name.length ≤ maxFilenameLen) (lossless : fromUtf8Lossy name = name) :
    ∃ handshake, parseHandshake (Client.encodeHandshake name 1 1 ⟨List.replicate 32 0, rfl⟩) =
      .ok handshake ∧ handshake.safeName = name := by
  have announced : name.length % 2 ^ 16 = name.length :=
    Nat.mod_eq_of_lt (lt_of_le_of_lt short (by decide))
  have safe : fileName (fromUtf8Lossy (name.take name.length)) = some name := by
    rw [List.take_length, lossless, component.fileName_eq]
  have one : Client.numChunks 1 1 % 2 ^ 32 = 1 := by decide
  exact parseHandshake_encodeHandshake name 1 1 _ announced short safe
    (by rw [encodeHandshake_chunkSize]; decide)
    (by rw [encodeHandshake_numChunks, one]; decide)
    (by rw [encodeHandshake_numChunks, one]; decide)

/-- A client that calls its file `f.part0` shares a file with the transfer of `f`. -/
theorem transfer_files_shared_part :
    ¬ ∀ data data' left right, parseHandshake data = .ok left → parseHandshake data' = .ok right →
      left.safeName ≠ right.safeName → ∀ dir path, (left.receiver dir dir).Owns path →
        ¬ (right.receiver dir dir).Owns path := by
  intro disjoint
  obtain ⟨left, accepted, name⟩ := accepted_named (utf8 "f") (by decide) (by decide)
    (fromUtf8Lossy_utf8 _)
  obtain ⟨right, accepted', name'⟩ :=
    accepted_named (utf8 "f.part0") (by decide) (by decide) (fromUtf8Lossy_utf8 _)
  have derives : left.Derives right.safeName := by
    refine ⟨ascii ".part" ++ decimal 0, .part left.numChunks_pos, ?_⟩
    rw [name, name']
    decide
  refine disjoint _ _ left right accepted accepted' ?_ [] ⟨[], right.safeName⟩
    (owns_receiver_iff.mpr ⟨rfl, .inr derives⟩) .final
  rw [name, name']
  decide

end BeeSync.Server
