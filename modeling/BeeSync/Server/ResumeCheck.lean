import BeeSync.Server.FilePhases
import BeeSync.Server.TransferFiles

/-!
# What a recovery has made sure of

A record that comes out of the recovery of an earlier transfer lists only parts that have
been read and have the recorded hashes, as long as nobody else changes them.
-/

set_option autoImplicit false

namespace BeeSync.Server

open Encoding Interaction

variable [Blake3]

/-- The part of a chunk is on disk with the hash that a record lists. -/
def Matches (fs : Fs FilePath) (receiver : FileReceiver) (metadata : TransferMetadata) (idx : Nat) :
    Prop :=
  ∃ part, fs (receiver.partPath idx) = some part ∧
    metadata.chunkHashes.get? idx = some (calcHash part)

namespace ResumePhase

/-- The parts that have been checked match, and the others are still to come. -/
structure Checking (fs : Fs FilePath) (receiver : FileReceiver) (metadata : TransferMetadata)
    (unchecked validIndices : List Nat) (corruptCount : Nat) : Prop where
  valid : ∀ idx ∈ validIndices, Matches fs receiver metadata idx
  distinct : (validIndices ++ unchecked).Nodup
  all : corruptCount = 0 → ∀ idx ∈ metadata.chunkHashes.keys,
    idx ∈ validIndices ∨ idx ∈ unchecked

/-- What is certain in a phase of the recovery. -/
def Sure (fs : Fs FilePath) (receiver : FileReceiver) : ResumePhase → Prop
  | .verifying metadata unchecked validIndices corruptCount =>
      Checking fs receiver metadata unchecked validIndices corruptCount
  | .dropping metadata idx unchecked validIndices corruptCount =>
      Checking fs receiver metadata unchecked validIndices corruptCount ∧ 0 < corruptCount ∧
        idx ∉ validIndices
  | .saving metadata _ | .loaded metadata =>
      ∀ idx ∈ metadata.chunkHashes.keys, Matches fs receiver metadata idx
  | _ => True

variable {fs fs' : Fs FilePath} {receiver : FileReceiver} {metadata : TransferMetadata}
  {unchecked validIndices : List Nat} {corruptCount : Nat}

theorem Checking.settle
    (checking : Checking fs receiver metadata unchecked validIndices corruptCount) :
    Sure fs receiver (.settle receiver metadata unchecked validIndices corruptCount) := by
  obtain ⟨valid, distinct, all⟩ := checking
  cases unchecked with
  | nil =>
      rw [ResumePhase.settle]
      split
      · split
        · trivial
        · intro idx listed
          obtain ⟨hash, found⟩ := OrderedMap.mem_keys_iff.mp listed
          obtain ⟨member, same⟩ := FileReceiver.get?_cleanMetadata found
          obtain ⟨part, onDisk, hashed⟩ := valid idx member
          rw [same] at hashed
          cases hashed
          exact ⟨part, onDisk, found⟩
      · rename_i clean
        intro idx listed
        have member := all (Nat.eq_zero_of_not_pos clean) idx listed
        exact valid idx (member.resolve_right List.not_mem_nil)
  | cons idx rest =>
      rw [ResumePhase.settle]
      split
      · have fresh : idx ∉ validIndices := fun member =>
          (List.nodup_append.mp distinct).2.2 idx member idx List.mem_cons_self rfl
        have distinct' : (validIndices ++ rest).Nodup :=
          distinct.sublist (List.Sublist.append_left (List.sublist_cons_self idx rest) _)
        exact ⟨⟨valid, distinct', by simp⟩, Nat.succ_pos _, fresh⟩
      · exact ⟨valid, distinct, all⟩

/-- A call that leaves the parts of a record alone leaves it certain. -/
theorem Sure.frame {phase : ResumePhase} (sure : Sure fs receiver phase)
    (same : ∀ idx, fs' (receiver.partPath idx) = fs (receiver.partPath idx)) :
    Sure fs' receiver phase := by
  have matches_ : ∀ {metadata idx}, Matches fs receiver metadata idx →
      Matches fs' receiver metadata idx := by
    intro metadata idx found
    obtain ⟨part, onDisk, hashed⟩ := found
    exact ⟨part, (same idx).trans onDisk, hashed⟩
  cases phase with
  | verifying =>
      obtain ⟨valid, distinct, all⟩ := sure
      exact ⟨fun idx member => matches_ (valid idx member), distinct, all⟩
  | dropping =>
      obtain ⟨⟨valid, distinct, all⟩, corrupt, fresh⟩ := sure
      exact ⟨⟨fun idx member => matches_ (valid idx member), distinct, all⟩, corrupt, fresh⟩
  | saving | loaded => exact fun idx listed => matches_ (sure idx listed)
  | _ => trivial

theorem judge_sure [KeyOrder] (fs : Fs FilePath) (receiver : FileReceiver) (data : Bytes) :
    Sure fs receiver (.judge receiver data) := by
  rw [judge]
  split
  · trivial
  · rename_i metadata _
    split
    · refine Checking.settle ⟨by simp, ?_, fun _ idx listed => .inr ?_⟩
      · rw [List.nil_append]
        exact (KeyOrder.perm metadata.chunkHashes).nodup_iff.mpr metadata.chunkHashes.keys_nodup
      · exact (KeyOrder.perm metadata.chunkHashes).mem_iff.mpr listed
    · trivial

end ResumePhase

theorem ResumeTurn.sure [KeyOrder] {receiver : FileReceiver} {phase phase' : ResumePhase}
    {op : FsOp FilePath} {answer : op.Res} {faults : Prop} {fs fs' : Fs FilePath}
    (turned : ResumeTurn receiver phase op answer phase')
    (acted : op.Sem faults fs answer fs') (sure : phase.Sure fs receiver) :
    phase'.Sure fs' receiver := by
  cases turned with
  | found | absent | unreadable | purge | purgePart => trivial
  | read data => exact ResumePhase.judge_sure fs' receiver data
  | @valid metadata idx rest validIndices corruptCount data same =>
      obtain ⟨unchanged, read⟩ := acted
      subst unchanged
      obtain ⟨content, onDisk, reads⟩ | ⟨_, error, fails⟩ := read
      · cases reads
        obtain ⟨valid, distinct, all⟩ := sure
        refine ResumePhase.Checking.settle ⟨fun j member => ?_, ?_, fun clean j listed => ?_⟩
        · obtain earlier | here := List.mem_append.mp member
          · exact valid j earlier
          · cases List.mem_singleton.mp here
            exact ⟨data, onDisk, same⟩
        · rw [List.append_assoc, List.singleton_append]
          exact distinct
        · obtain earlier | later := all clean j listed
          · exact .inl (List.mem_append_left _ earlier)
          · obtain here | later := List.mem_cons.mp later
            · exact .inl (List.mem_append_right _ (List.mem_singleton.mpr here))
            · exact .inr later
      · cases fails
  | @corrupt metadata idx rest validIndices corruptCount answer differs =>
      obtain ⟨unchanged, _⟩ := acted
      subst unchanged
      obtain ⟨valid, distinct, all⟩ := sure
      have fresh : idx ∉ validIndices := fun member =>
        (List.nodup_append.mp distinct).2.2 idx member idx List.mem_cons_self rfl
      have distinct' : (validIndices ++ rest).Nodup :=
        distinct.sublist (List.Sublist.append_left (List.sublist_cons_self idx rest) _)
      exact ⟨⟨valid, distinct', nofun⟩, Nat.succ_pos _, fresh⟩
  | @drop metadata idx rest validIndices corruptCount answer =>
      obtain ⟨⟨valid, distinct, all⟩, corrupt, fresh⟩ := sure
      refine ResumePhase.Checking.settle ⟨fun j member => ?_, distinct, all⟩
      obtain ⟨part, onDisk, hashed⟩ := valid j member
      refine ⟨part, ?_, hashed⟩
      rw [acted.frame fun removed => ?_]
      · exact onDisk
      · exact fresh (TransferMetadata.partPath_injective removed ▸ member)
  | @save clean phase phase' op answer saved =>
      refine ResumePhase.Sure.frame sure fun idx => acted.frame fun written => ?_
      obtain isTmp | isMeta := saved.writes written
      · exact TransferMetadata.partPath_ne_tmpPath idx isTmp
      · exact TransferMetadata.partPath_ne_metaPath idx isMeta

end BeeSync.Server
