import BeeSync.Server.Control

/-!
# Read loops end

The read loops of a handler have a bound in the model. It is not reached as long as no file
that is read is as long as the bound.
-/

set_option autoImplicit false

namespace BeeSync.Server

open Encoding Interaction

/-- Not the request of a read loop that has outlived its bound. -/
def ControlOp.Bounded : ControlOp → Prop
  | .fs op => op.Bounded
  | _ => True

/-- The file that is read from ends within a limit. -/
def ReadsWithin (limit : Nat) : (op : FsOp FilePath) → op.Res → Prop
  | .readAt _ offset _, answer => ∀ piece, answer = .ok piece → piece ≠ [] →
      offset + piece.length ≤ limit
  | _, _ => True

namespace TransferMetadata

variable {partsDir filename : Bytes}

theorem purgeLoop_bounded (indices : List Nat) :
    (purgeLoop partsDir filename indices).All FsOp.Bounded := by
  induction indices with
  | nil => trivial
  | cons i rest ih => exact ⟨trivial, fun _ => ih⟩

theorem purge_bounded (numChunks : Nat) :
    (purge partsDir filename numChunks).All FsOp.Bounded :=
  ⟨trivial, fun _ => purgeLoop_bounded _⟩

theorem save_bounded (metadata : TransferMetadata) :
    (metadata.save partsDir filename).All FsOp.Bounded := by
  refine .attempt (writeFile_bounded _ _) fun _ => ⟨trivial, fun renamed => ?_⟩
  cases renamed with
  | ok _ => trivial
  | error error => exact ⟨trivial, fun _ => trivial⟩

end TransferMetadata

section Files

variable {limit : Nat}

variable [Blake3]

private theorem bounded_verifyParts (receiver : FileReceiver) (metadata : TransferMetadata)
    (unchecked validIndices : List Nat) (corruptCount : Nat) :
    (receiver.verifyParts metadata unchecked validIndices corruptCount).All FsOp.Bounded := by
  induction unchecked generalizing validIndices corruptCount with
  | nil => trivial
  | cons idx rest ih =>
      have verified : (metadata.verifyPart idx receiver.partsDir receiver.filename).All
          FsOp.Bounded := by
        rw [TransferMetadata.verifyPart]
        split
        · trivial
        · refine ⟨trivial, fun read => ?_⟩
          cases read <;> trivial
      refine verified.bind fun valid => ?_
      cases valid with
      | true => exact ih _ _
      | false => exact ⟨trivial, fun _ => ih _ _⟩

private theorem bounded_loadOrPurgeMetadata [KeyOrder] (receiver : FileReceiver) :
    receiver.loadOrPurgeMetadata.All FsOp.Bounded := by
  have purged : ((TransferMetadata.purge receiver.partsDir receiver.filename
      receiver.numChunks).bind fun _ => .ret none : FsProg FilePath (Option TransferMetadata)).All
        FsOp.Bounded := (TransferMetadata.purge_bounded _).bind fun _ => trivial
  have loaded : (TransferMetadata.load receiver.partsDir receiver.filename).All FsOp.Bounded := by
    have found : (TransferMetadata.pathExists (TransferMetadata.metaPath receiver.partsDir
        receiver.filename)).All FsOp.Bounded := by
      refine ⟨trivial, fun found => ?_⟩
      cases found <;> trivial
    refine found.bind fun found => ?_
    cases found with
    | false => trivial
    | true =>
        refine ⟨trivial, fun read => ?_⟩
        cases read with
        | error error => trivial
        | ok data =>
            dsimp only [Prog.ret_bind]
            split <;> trivial
  refine loaded.bind fun result => ?_
  cases result with
  | error error => exact purged
  | ok found =>
      cases found with
      | none => trivial
      | some metadata =>
          change Prog.All _ (ite _ _ _)
          split
          · refine (bounded_verifyParts _ _ _ _ _).bind fun checked => ?_
            dsimp only
            split
            · split
              · exact purged
              · exact (TransferMetadata.save_bounded _).bind fun _ => trivial
            · trivial
          · exact purged

omit [Blake3] in
private theorem bounded_copyPart (out part : FilePath) (remaining offset written : Nat)
    (hasher : Hasher) (inside : offset ≤ limit) (enough : limit < remaining + offset) :
    (FileReceiver.copyPart out part remaining offset written hasher).AllWhen (ReadsWithin limit)
      FsOp.Bounded := by
  induction remaining generalizing offset written hasher with
  | zero => omega
  | succ remaining ih =>
      refine ⟨trivial, fun read within => ?_⟩
      cases read with
      | error error => trivial
      | ok piece =>
          change Prog.AllWhen _ _ (ite _ _ _)
          split
          · trivial
          · rename_i some_
            have further := within piece rfl fun none_ => some_ (congrArg List.length none_)
            refine .attempt (writeAll_bounded _ _ _).when fun _ => ?_
            exact ih _ _ _ further (by omega)

private theorem bounded_fileHash (reads : Nat) (path : FilePath) (enough : limit < reads) :
    (fileHash reads path).AllWhen (ReadsWithin limit) FsOp.Bounded := by
  have loop : ∀ remaining offset hasher, offset ≤ limit → limit < remaining + offset →
      (fileHashLoop path remaining offset hasher).AllWhen (ReadsWithin limit) FsOp.Bounded := by
    intro remaining
    induction remaining with
    | zero => omega
    | succ remaining ih =>
        intro offset hasher inside enough
        refine ⟨trivial, fun read within => ?_⟩
        cases read with
        | error error => trivial
        | ok piece =>
            change Prog.AllWhen _ _ (ite _ _ _)
            split
            · trivial
            · rename_i some_
              have further := within piece rfl fun none_ => some_ (congrArg List.length none_)
              exact ih _ _ further (by omega)
  refine .attempt ⟨trivial, fun _ _ => trivial⟩ fun _ => loop _ _ _ (Nat.zero_le _) enough

private theorem bounded_assemble (receiver : FileReceiver) (reads : Nat) (enough : limit < reads) :
    (receiver.assemble reads).AllWhen (ReadsWithin limit) FsOp.Bounded := by
  have parts : ∀ left written hasher, (receiver.assembleParts reads left written hasher).AllWhen
      (ReadsWithin limit) FsOp.Bounded := by
    intro left
    induction left with
    | nil => exact fun _ _ => ⟨trivial, fun _ _ => trivial⟩
    | cons idx rest ih =>
        intro written hasher
        have exists_ : (TransferMetadata.pathExists (receiver.partPath idx)).AllWhen
            (ReadsWithin limit) FsOp.Bounded := by
          refine ⟨trivial, fun found _ => ?_⟩
          cases found <;> trivial
        refine exists_.bind fun found => ?_
        cases found with
        | false => trivial
        | true =>
            refine .attempt ⟨trivial, fun _ _ => trivial⟩ fun _ => ?_
            refine .attempt (bounded_copyPart _ _ _ _ _ _ (Nat.zero_le _) enough) fun copied => ?_
            exact .attempt ⟨trivial, fun _ _ => trivial⟩ fun _ => ih _ _
  exact .attempt ⟨trivial, fun _ _ => trivial⟩ fun _ => parts _ _ _

end Files

namespace Control

/-- The files that a handler reads end within a limit. -/
def ReadsWithin (limit : Nat) : (op : ControlOp) → op.Res → Prop
  | .fs op, answer => Server.ReadsWithin limit op answer
  | _, _ => True

section Programs

variable {limit : Nat}

private theorem bounded_onFs {α : Type} {program : FsProg FilePath α}
    (bounded : program.AllWhen (Server.ReadsWithin limit) FsOp.Bounded) :
    (onFs program).AllWhen (ReadsWithin limit) ControlOp.Bounded := by
  exact .embed (fun _ _ => id) bounded

private theorem bounded_answer (status : UInt8) :
    (answer status).AllWhen (ReadsWithin limit) ControlOp.Bounded :=
  ⟨trivial, fun _ _ => trivial⟩

private theorem bounded_cleanup (ports : List UInt16) :
    (cleanup ports).All ControlOp.Bounded := by
  have removed : ∀ ports, (removeReceivers ports).All ControlOp.Bounded := by
    intro ports
    induction ports with
    | nil => trivial
    | cons port rest ih => exact ⟨trivial, fun _ => ih⟩
  refine (removed ports).bind fun _ => ?_
  split
  · exact ⟨trivial, fun _ => trivial⟩
  · trivial

private theorem bounded_allocateSockets (count maxParallel : Nat) :
    (allocateSockets count maxParallel).All ControlOp.Bounded := by
  have next : ∀ untried, (bindNext untried).All ControlOp.Bounded := by
    intro untried
    induction untried with
    | nil => trivial
    | cons port rest ih => exact .recover ⟨trivial, fun _ => trivial⟩ (fun _ => ih) fun _ => trivial
  have loop : ∀ turns untried sockets, (bindLoop turns untried sockets).All
      ControlOp.Bounded := by
    intro turns
    induction turns with
    | zero => exact fun _ _ => trivial
    | succ turns ih =>
        intro untried sockets
        refine .bind (next untried) fun found => ?_
        obtain ⟨port, rest⟩ := found
        cases port with
        | none => exact ih rest sockets
        | some port => exact ih rest (sockets ++ [port])
  refine ⟨trivial, fun reserved => ?_⟩
  cases reserved with
  | false => trivial
  | true =>
      refine (loop (min count maxParallel) dataPorts []).bind fun sockets => ?_
      split
      · exact ⟨trivial, fun _ => trivial⟩
      · trivial

private theorem bounded_spawnDataServers (ports : List UInt16) :
    (spawnDataServers ports).All ControlOp.Bounded := by
  induction ports with
  | nil => trivial
  | cons port rest ih => exact ⟨trivial, fun _ => ih⟩

variable [Blake3] {reads : Nat}

private theorem bounded_assembleFile (receiver : ReceiverId) (enough : limit < reads) :
    (assembleFile reads receiver).AllWhen (ReadsWithin limit) ControlOp.Bounded := by
  refine ⟨trivial, fun state _ => ?_⟩
  refine (bounded_onFs (bounded_assemble state reads enough)).bind fun result => ?_
  exact ⟨trivial, fun _ _ => trivial⟩

private theorem bounded_finish (transfer : Transfer) (enough : limit < reads) :
    (finish reads transfer).AllWhen (ReadsWithin limit) ControlOp.Bounded := by
  refine ⟨trivial, fun state _ => ⟨trivial, fun _ _ => ⟨trivial, fun state' _ => ⟨trivial, fun _ _ => ?_⟩⟩⟩⟩
  have outcome : (if state'.failed then .ret false
      else if !state.isComplete then .ret false
      else (assembleFile reads transfer.receiver).recover (fun _ => .ret false) .ret
        : ControlProg Bool).AllWhen (ReadsWithin limit) ControlOp.Bounded := by
    split
    · trivial
    · split
      · trivial
      · exact (bounded_assembleFile transfer.receiver enough).recover (fun _ => trivial)
          fun _ => trivial
  refine outcome.bind fun success => ⟨trivial, fun _ _ => ?_⟩
  exact (bounded_cleanup transfer.ports).when.bind fun _ => trivial

private theorem bounded_waitForCompletion (transfer : Transfer) (enough : limit < reads) :
    (waitForCompletion reads transfer).AllWhen (ReadsWithin limit) ControlOp.Bounded := by
  refine ⟨trivial, fun state _ => ⟨trivial, fun _ _ => ?_⟩⟩
  change Prog.AllWhen _ _ (ite _ _ _)
  split
  · exact bounded_finish transfer enough
  · refine ⟨trivial, fun poll _ => ?_⟩
    cases poll with
    | idle => trivial
    | data => trivial
    | disconnected => exact bounded_finish transfer enough

omit [Blake3] in
private theorem bounded_closing (state : ControlState) :
    (closing state).AllWhen (ReadsWithin limit) ControlOp.Bounded := by
  cases state with
  | waiting transfer => trivial
  | returned result => exact ⟨trivial, fun _ _ => trivial⟩
  | panicked => exact ⟨trivial, fun _ _ => trivial⟩

variable [KeyOrder] {config : Config}

private theorem bounded_resume (receiver : ReceiverId) :
    (resume receiver).AllWhen (ReadsWithin limit) ControlOp.Bounded := by
  refine ⟨trivial, fun state _ => ?_⟩
  refine (bounded_onFs (bounded_loadOrPurgeMetadata state).when).bind fun loaded => ?_
  cases loaded with
  | none => exact ⟨trivial, fun _ _ => trivial⟩
  | some metadata =>
      dsimp only
      split
      · trivial
      · exact ⟨trivial, fun _ _ => trivial⟩

private theorem bounded_receiveFile (handshake : HandshakeData) (enough : limit < config.reads) :
    (receiveFile config handshake).AllWhen (ReadsWithin limit) ControlOp.Bounded := by
  have temporary : (if config.tempDir ≠ config.outputDir then call (.createDirAll config.tempDir)
      else .ret (.ok ())).AllWhen (ReadsWithin limit) ControlOp.Bounded := by
    split
    · exact ⟨trivial, fun _ _ => trivial⟩
    · trivial
  refine .recover ⟨trivial, fun _ _ => trivial⟩ (fun _ => bounded_answer _) fun _ => ?_
  refine temporary.recover (fun _ => bounded_answer _) fun _ => ⟨trivial, fun receiver _ => ?_⟩
  refine (bounded_resume receiver).bind fun resumed => ?_
  cases resumed with
  | none => trivial
  | some complete =>
      cases complete with
      | true =>
          refine .recover ⟨trivial, fun _ _ => trivial⟩ (fun _ => trivial) fun _ => ?_
          refine (bounded_assembleFile receiver enough).bind fun result => ?_
          exact ⟨trivial, fun _ _ => trivial⟩
      | false =>
          refine (bounded_allocateSockets _ _).when.recover (fun _ => bounded_answer _) ?_
          refine fun ports => ⟨trivial, fun _ _ => ?_⟩
          refine .recover ⟨trivial, fun _ _ => trivial⟩ (fun _ => ⟨trivial, fun _ _ => trivial⟩) ?_
          intro _
          exact (bounded_spawnDataServers ports).when.bind fun _ =>
            bounded_waitForCompletion _ enough

/-- A handler is never caught in a read loop if the files that it reads end early enough. -/
theorem task_bounded (enough : limit < config.reads) :
    (task config).AllWhen (ReadsWithin limit) ControlOp.Bounded := by
  refine .bind (.recover ⟨trivial, fun _ _ => trivial⟩ (fun _ => trivial) fun data => ?_)
    bounded_closing
  split
  · trivial
  · split
    · exact bounded_answer _
    · rename_i handshake _
      have checks : (checkExistingFile config.reads config.outputDir handshake.safeName
          handshake.fullHash).AllWhen (Server.ReadsWithin limit) FsOp.Bounded := by
        refine .attempt ⟨trivial, fun _ _ => trivial⟩ fun found => ?_
        cases found with
        | false => trivial
        | true => exact .attempt (bounded_fileHash _ _ enough) fun _ => trivial
      refine (bounded_onFs checks).recover (fun _ => trivial) fun found => ?_
      cases found with
      | true => exact bounded_answer _
      | false => exact bounded_receiveFile handshake enough

omit [KeyOrder] in
theorem again_bounded (enough : limit < config.reads) {state : ControlState}
    {rest : ControlProg ControlState} (again : Control.again config state = some rest) :
    rest.AllWhen (ReadsWithin limit) ControlOp.Bounded := by
  cases state with
  | waiting transfer =>
      cases again
      exact (bounded_waitForCompletion transfer enough).bind bounded_closing
  | returned result => cases again
  | panicked => cases again

end Programs

end Control

end BeeSync.Server
