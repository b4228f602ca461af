import BeeSync.Server.FileReceiver

/-!
# The files of a transfer

Parts, metadata and its temporary file are named after the output file. No two of them
are the same file, whatever directories they are in.
-/

set_option autoImplicit false

namespace BeeSync.Server

open Encoding Interaction

namespace TransferMetadata

variable {partsDir filename : Bytes}

private theorem ascii_part : ascii ".part" = [46, 112, 97, 114, 116] := by decide

private theorem ascii_meta : ascii ".bee-meta" = [46, 98, 101, 101, 45, 109, 101, 116, 97] := by
  decide

theorem partPath_injective {left right : Nat}
    (same : partPath partsDir filename left = partPath partsDir filename right) :
    left = right := by
  have names := congrArg FilePath.name same
  simp only [partPath, List.append_assoc] at names
  exact decimal_injective (List.append_cancel_left (List.append_cancel_left names))

theorem partPath_ne_metaPath (idx : Nat) :
    partPath partsDir filename idx ≠ metaPath partsDir filename := by
  intro same
  have names := congrArg FilePath.name same
  simp only [partPath, metaPath, List.append_assoc] at names
  have suffixes := List.append_cancel_left names
  rw [ascii_part, ascii_meta] at suffixes
  cases suffixes

theorem partPath_ne_tmpPath (idx : Nat) :
    partPath partsDir filename idx ≠ tmpPath partsDir filename := by
  intro same
  have names := congrArg FilePath.name same
  simp only [partPath, tmpPath, List.append_assoc] at names
  have suffixes := List.append_cancel_left names
  rw [ascii_part, ascii_meta] at suffixes
  cases suffixes

theorem metaPath_ne_tmpPath : metaPath partsDir filename ≠ tmpPath partsDir filename := by
  intro same
  have names := congrArg (fun path => path.name.length) same
  simp only [metaPath, tmpPath, List.length_append] at names
  have suffix : (ascii ".tmp").length = 4 := rfl
  omega

end TransferMetadata

namespace FileReceiver

/-- A file that belongs to a transfer without being its output file. -/
def Auxiliary (params : Params) (path : FilePath) : Prop :=
  params.filename.length < path.name.length

theorem auxiliary_partPath (receiver : FileReceiver) (index : Nat) :
    Auxiliary receiver.params (receiver.partPath index) := by
  simp only [Auxiliary, params, partPath, TransferMetadata.partPath, List.length_append]
  have suffix : (ascii ".part").length = 5 := rfl
  omega

theorem auxiliary_metaPath (receiver : FileReceiver) :
    Auxiliary receiver.params receiver.metaPath := by
  simp only [Auxiliary, params, metaPath, TransferMetadata.metaPath, List.length_append]
  have suffix : (ascii ".bee-meta").length = 9 := rfl
  omega

theorem auxiliary_tmpPath (receiver : FileReceiver) :
    Auxiliary receiver.params receiver.tmpPath := by
  simp only [Auxiliary, params, tmpPath, TransferMetadata.tmpPath, List.length_append]
  have suffix : (ascii ".tmp").length = 4 := rfl
  omega

theorem partPath_injective (receiver : FileReceiver) : Function.Injective receiver.partPath :=
  fun _ _ same => TransferMetadata.partPath_injective same

theorem partPath_ne_metaPath (receiver : FileReceiver) (index : Nat) :
    receiver.partPath index ≠ receiver.metaPath :=
  TransferMetadata.partPath_ne_metaPath index

theorem partPath_of_params {receiver receiver' : FileReceiver}
    (params : receiver'.params = receiver.params) (index : Nat) :
    receiver'.partPath index = receiver.partPath index := by
  have dir := congrArg Params.partsDir params
  have name := congrArg Params.filename params
  exact congrArg₂ (TransferMetadata.partPath · · index) dir name

theorem metaPath_of_params {receiver receiver' : FileReceiver}
    (params : receiver'.params = receiver.params) : receiver'.metaPath = receiver.metaPath :=
  congrArg₂ TransferMetadata.metaPath (congrArg Params.partsDir params)
    (congrArg Params.filename params)

theorem partPath_ne_finalPath (receiver : FileReceiver) (index : Nat) :
    receiver.partPath index ≠ receiver.finalPath := by
  intro same
  have longer := receiver.auxiliary_partPath index
  rw [same] at longer
  exact lt_irrefl _ longer

theorem tmpPath_ne_finalPath (receiver : FileReceiver) : receiver.tmpPath ≠ receiver.finalPath := by
  intro same
  have longer := receiver.auxiliary_tmpPath
  rw [same] at longer
  exact lt_irrefl _ longer

theorem metaPath_ne_finalPath (receiver : FileReceiver) :
    receiver.metaPath ≠ receiver.finalPath := by
  intro same
  have longer := receiver.auxiliary_metaPath
  rw [same] at longer
  exact lt_irrefl _ longer

/-- A call that writes auxiliary files only. -/
def WritesAuxiliary (params : Params) (op : FsOp FilePath) : Prop :=
  ∀ path, op.writes path → Auxiliary params path

theorem writeAll_auxiliary {params : Params} {path : FilePath} (auxiliary : Auxiliary params path)
    (offset : Nat) (data : Bytes) : (writeAll path offset data).All (WritesAuxiliary params) := by
  induction data generalizing offset with
  | nil => trivial
  | cons byte rest ih =>
      refine .attempt ⟨?_, fun _ => trivial⟩ fun _ => ih (offset + 1)
      rintro changed rfl
      exact auxiliary

theorem writeFile_auxiliary {params : Params} {path : FilePath} (auxiliary : Auxiliary params path)
    (data : Bytes) : (writeFile path data).All (WritesAuxiliary params) := by
  refine .attempt ⟨?_, fun _ => trivial⟩ fun _ => writeAll_auxiliary auxiliary 0 data
  rintro changed rfl
  exact auxiliary

theorem recordChunk_auxiliary (receiver : FileReceiver) (index : Nat) (hash : Digest) :
    (receiver.recordChunk index hash).All (WritesAuxiliary receiver.params) := by
  refine .bind (.attempt (writeFile_auxiliary receiver.auxiliary_tmpPath _) fun _ => ?_)
    fun _ => trivial
  refine ⟨?_, fun renamed => ?_⟩
  · rintro changed (rfl | rfl)
    · exact receiver.auxiliary_tmpPath
    · exact receiver.auxiliary_metaPath
  · cases renamed with
    | ok _ => trivial
    | error error =>
        refine ⟨?_, fun _ => trivial⟩
        rintro changed rfl
        exact receiver.auxiliary_tmpPath

end FileReceiver

end BeeSync.Server
