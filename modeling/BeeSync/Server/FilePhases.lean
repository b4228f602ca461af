import BeeSync.Interaction.Phases
import BeeSync.Server.FileReceiver

/-!
# The phases of the file work

Writing a file, saving a record, recovering an earlier transfer and assembling the output
file, call by call: where the work stands, and what each answer makes of it.
-/

set_option autoImplicit false

namespace BeeSync.Server

open Encoding Interaction

/-- A file is being written as a whole. -/
inductive WritePhase where
  | opening
  | writing (written : Nat)
  | failed

inductive WriteTurn {Path : Type} (path : Path) (data : Bytes) : Turns (FsSig Path) WritePhase where
  | create : WriteTurn path data .opening (.create path) (.ok ()) (.writing 0)
  | createFails (error : IoError) :
      WriteTurn path data .opening (.create path) (.error error) .failed
  | write (written : Nat) (more : written < data.length) :
      WriteTurn path data (.writing written) (.writeAt path written data[written]) (.ok ())
        (.writing (written + 1))
  | writeFails (written : Nat) (more : written < data.length) (error : IoError) :
      WriteTurn path data (.writing written) (.writeAt path written data[written]) (.error error)
        .failed

theorem WriteTurn.writes {Path : Type} {path changed : Path} {data : Bytes}
    {phase phase' : WritePhase} {op : FsOp Path} {answer : op.Res}
    (turned : WriteTurn path data phase op answer phase') (written : op.writes changed) :
    changed = path := by
  cases turned <;> exact written

/-- Where a file stands that has been written, or not. -/
def WritePhase.Done (data : Bytes) : Except IoError Unit → WritePhase → Prop
  | .ok _, phase => phase = .writing data.length
  | .error _, phase => phase = .failed

theorem writeFile_follows {Path : Type} (path : Path) (data : Bytes) :
    (writeFile path data).Follows (WriteTurn path data) (WritePhase.Done data) .opening := by
  have appends : ∀ todo done, data = done ++ todo → (writeAll path done.length todo).Follows
      (WriteTurn path data) (WritePhase.Done data) (.writing done.length) := by
    intro todo
    induction todo with
    | nil =>
        intro done whole
        rw [List.append_nil] at whole
        exact congrArg _ (congrArg List.length whole).symm
    | cons byte rest ih =>
        intro done whole answer
        have more : done.length < data.length := by simp [whole]
        have next : data[done.length] = byte := by simp [whole]
        cases answer with
        | error error => exact ⟨.failed, next ▸ .writeFails done.length more error, rfl⟩
        | ok _ =>
            have later := ih (done ++ [byte]) (by simp [whole])
            rw [List.length_append, List.length_singleton] at later
            exact ⟨.writing (done.length + 1), next ▸ .write done.length more, later⟩
  intro answer
  cases answer with
  | error error => exact ⟨.failed, .createFails error, rfl⟩
  | ok _ => exact ⟨.writing 0, .create, appends data [] rfl⟩

/-- A record is being saved. -/
inductive SavePhase where
  | writing (phase : WritePhase)
  | removing (error : IoError)
  | saved (result : Except IoError Unit)

inductive SaveTurn (metadata : TransferMetadata) (partsDir filename : Bytes) :
    Turns (FsSig FilePath) SavePhase where
  | write {phase phase' : WritePhase} {op : FsOp FilePath} {answer : op.Res} :
      WriteTurn (TransferMetadata.tmpPath partsDir filename) metadata.toBytes phase op answer phase' →
        SaveTurn metadata partsDir filename (.writing phase) op answer (.writing phase')
  | rename : SaveTurn metadata partsDir filename (.writing (.writing metadata.toBytes.length))
      (.rename (TransferMetadata.tmpPath partsDir filename)
        (TransferMetadata.metaPath partsDir filename)) (.ok ()) (.saved (.ok ()))
  | renameFails (error : IoError) :
      SaveTurn metadata partsDir filename (.writing (.writing metadata.toBytes.length))
        (.rename (TransferMetadata.tmpPath partsDir filename)
          (TransferMetadata.metaPath partsDir filename)) (.error error) (.removing error)
  | remove (error : IoError) (answer : Except IoError Unit) :
      SaveTurn metadata partsDir filename (.removing error)
        (.remove (TransferMetadata.tmpPath partsDir filename)) answer (.saved (.error error))

theorem SaveTurn.writes {metadata : TransferMetadata} {partsDir filename : Bytes}
    {changed : FilePath} {phase phase' : SavePhase} {op : FsOp FilePath} {answer : op.Res}
    (turned : SaveTurn metadata partsDir filename phase op answer phase')
    (written : op.writes changed) :
    changed = TransferMetadata.tmpPath partsDir filename ∨
      changed = TransferMetadata.metaPath partsDir filename := by
  cases turned with
  | write writing => exact .inl (writing.writes written)
  | rename | renameFails => exact written
  | remove => exact .inl written

/-- Where a save has come to an end. -/
def SavePhase.Done : Except IoError Unit → SavePhase → Prop
  | .ok _, phase => phase = .saved (.ok ())
  | .error error, phase => phase = .saved (.error error) ∨ phase = .writing .failed

theorem save_follows (metadata : TransferMetadata) (partsDir filename : Bytes) :
    (metadata.save partsDir filename).Follows (SaveTurn metadata partsDir filename)
      SavePhase.Done (.writing .opening) := by
  have written := (writeFile_follows (TransferMetadata.tmpPath partsDir filename)
    metadata.toBytes).lift SavePhase.writing fun _ _ _ _ turned => SaveTurn.write turned
  refine written.attempt ?_ ?_
  · intro error phase reached
    obtain ⟨phase', same, failed⟩ := reached
    exact .inr (same.trans (congrArg _ failed))
  · intro _ phase reached
    obtain ⟨phase', same, written⟩ := reached
    cases written
    subst same
    intro answer
    cases answer with
    | ok _ => exact ⟨_, .rename, rfl⟩
    | error error => exact ⟨_, .renameFails error, fun answer => ⟨_, .remove error answer, .inl rfl⟩⟩

/-- An earlier transfer is being recovered. -/
inductive ResumePhase where
  | looking
  /-- No record has been found. -/
  | missing
  | loading
  | verifying (metadata : TransferMetadata) (unchecked validIndices : List Nat)
      (corruptCount : Nat)
  | dropping (metadata : TransferMetadata) (idx : Nat) (unchecked validIndices : List Nat)
      (corruptCount : Nat)
  | purging
  | purgingParts (left : List Nat)
  | saving (clean : TransferMetadata) (phase : SavePhase)
  | loaded (metadata : TransferMetadata)

section Resume

variable [Blake3]

namespace ResumePhase

/-- What follows the check of a part. -/
def settle (receiver : FileReceiver) (metadata : TransferMetadata) (unchecked validIndices : List Nat)
    (corruptCount : Nat) : ResumePhase :=
  match unchecked with
  | [] =>
    if corruptCount > 0 then
      if validIndices.isEmpty then .purging
      else .saving (receiver.cleanMetadata metadata validIndices) (.writing .opening)
    else .loaded metadata
  | idx :: rest =>
    if metadata.chunkHashes.get? idx = none then
      .dropping metadata idx rest validIndices (corruptCount + 1)
    else .verifying metadata (idx :: rest) validIndices corruptCount

/-- What follows the reading of the record. -/
def judge [KeyOrder] (receiver : FileReceiver) (data : Bytes) : ResumePhase :=
  match TransferMetadata.fromBytes data with
  | .error _ => .purging
  | .ok metadata =>
    if metadata.paramsMatch receiver.chunkSize receiver.numChunks receiver.fileSize
        receiver.fullHash then
      settle receiver metadata (KeyOrder.keys metadata.chunkHashes) [] 0
    else .purging

/-- Where the recovery has come to an end. -/
def Done (result : Option TransferMetadata) (phase : ResumePhase) : Prop :=
  match result with
  | some metadata => phase = .loaded metadata ∨ ∃ saved, phase = .saving metadata saved ∧
      ∃ outcome, SavePhase.Done outcome saved
  | none => phase = .missing ∨ phase = .purgingParts []

end ResumePhase

inductive ResumeTurn [KeyOrder] (receiver : FileReceiver) : Turns (FsSig FilePath) ResumePhase where
  | found : ResumeTurn receiver .looking (.exists_ receiver.metaPath) (.ok true) .loading
  | absent (answer : Except IoError Bool) (different : answer ≠ .ok true) :
      ResumeTurn receiver .looking (.exists_ receiver.metaPath) answer .missing
  | unreadable (error : IoError) :
      ResumeTurn receiver .loading (.readFile receiver.metaPath) (.error error) .purging
  | read (data : Bytes) : ResumeTurn receiver .loading (.readFile receiver.metaPath) (.ok data)
      (ResumePhase.judge receiver data)
  | valid {metadata : TransferMetadata} {idx : Nat} {rest validIndices : List Nat}
      {corruptCount : Nat} (data : Bytes)
      (same : metadata.chunkHashes.get? idx = some (calcHash data)) :
      ResumeTurn receiver (.verifying metadata (idx :: rest) validIndices corruptCount)
        (.readFile (receiver.partPath idx)) (.ok data)
        (ResumePhase.settle receiver metadata rest (validIndices ++ [idx]) corruptCount)
  | corrupt {metadata : TransferMetadata} {idx : Nat} {rest validIndices : List Nat}
      {corruptCount : Nat} (answer : Except IoError Bytes)
      (differs : ∀ data, answer = .ok data →
        metadata.chunkHashes.get? idx ≠ some (calcHash data)) :
      ResumeTurn receiver (.verifying metadata (idx :: rest) validIndices corruptCount)
        (.readFile (receiver.partPath idx)) answer
        (.dropping metadata idx rest validIndices (corruptCount + 1))
  | drop {metadata : TransferMetadata} {idx : Nat} {rest validIndices : List Nat}
      {corruptCount : Nat} (answer : Except IoError Unit) :
      ResumeTurn receiver (.dropping metadata idx rest validIndices corruptCount)
        (.remove (receiver.partPath idx)) answer
        (ResumePhase.settle receiver metadata rest validIndices corruptCount)
  | purge (answer : Except IoError Unit) :
      ResumeTurn receiver .purging (.remove receiver.metaPath) answer
        (.purgingParts (List.range receiver.numChunks))
  | purgePart (idx : Nat) (left : List Nat) (answer : Except IoError Unit) :
      ResumeTurn receiver (.purgingParts (idx :: left)) (.remove (receiver.partPath idx)) answer
        (.purgingParts left)
  | save {clean : TransferMetadata} {phase phase' : SavePhase} {op : FsOp FilePath}
      {answer : op.Res} : SaveTurn clean receiver.partsDir receiver.filename phase op answer phase' →
        ResumeTurn receiver (.saving clean phase) op answer (.saving clean phase')

/-- A recovery creates no file but the temporary one of the record. -/
theorem ResumeTurn.creates [KeyOrder] {receiver : FileReceiver} {phase phase' : ResumePhase}
    {op : FsOp FilePath} {answer : op.Res} {path : FilePath}
    (turned : ResumeTurn receiver phase op answer phase') (creates : op = .create path) :
    path = receiver.tmpPath := by
  cases turned with
  | save saved =>
      cases saved with
      | write writing =>
          cases writing with
          | create | createFails =>
              cases creates
              rfl
          | write | writeFails => cases creates
      | _ => cases creates
  | _ => cases creates

variable [KeyOrder] (receiver : FileReceiver)

private theorem purge_follows :
    ((TransferMetadata.purge receiver.partsDir receiver.filename receiver.numChunks).bind fun _ =>
      .ret none).Follows (ResumeTurn receiver) ResumePhase.Done .purging := by
  have parts : ∀ left, (TransferMetadata.purgeLoop receiver.partsDir receiver.filename left).Follows
      (ResumeTurn receiver) (fun _ phase => phase = .purgingParts []) (.purgingParts left) := by
    intro left
    induction left with
    | nil => exact rfl
    | cons idx rest ih => exact fun answer => ⟨_, .purgePart idx rest answer, ih⟩
  refine .bind (fun answer => ⟨_, .purge answer, parts _⟩) fun _ phase reached => ?_
  exact .inr reached

/-- What follows the check of all parts. -/
private def settled (metadata : TransferMetadata) (checked : List Nat × Nat) :
    FsProg FilePath (Option TransferMetadata) :=
  if checked.2 > 0 then
    if checked.1.isEmpty then
      (TransferMetadata.purge receiver.partsDir receiver.filename receiver.numChunks).bind
        fun _ => .ret none
    else
      let clean := receiver.cleanMetadata metadata checked.1
      (clean.save receiver.partsDir receiver.filename).bind fun _ => .ret (some clean)
  else .ret (some metadata)

private theorem settled_follows (metadata : TransferMetadata) (checked : List Nat × Nat) :
    (settled receiver metadata checked).Follows (ResumeTurn receiver) ResumePhase.Done
      (.settle receiver metadata [] checked.1 checked.2) := by
  rw [settled, ResumePhase.settle]
  split
  · split
    · exact purge_follows receiver
    · have saved := (save_follows (receiver.cleanMetadata metadata checked.1) receiver.partsDir
        receiver.filename).lift (ResumePhase.saving (receiver.cleanMetadata metadata checked.1))
        fun _ _ _ _ turned => ResumeTurn.save turned
      refine saved.bind fun outcome phase reached => ?_
      obtain ⟨phase', same, done⟩ := reached
      exact .inr ⟨phase', same, outcome, done⟩
  · exact .inl rfl

private theorem verifyParts_follows (metadata : TransferMetadata)
    (unchecked validIndices : List Nat) (corruptCount : Nat) :
    ((receiver.verifyParts metadata unchecked validIndices corruptCount).bind
      (settled receiver metadata)).Follows (ResumeTurn receiver) ResumePhase.Done
        (.settle receiver metadata unchecked validIndices corruptCount) := by
  induction unchecked generalizing validIndices corruptCount with
  | nil => exact settled_follows receiver metadata (validIndices, corruptCount)
  | cons idx rest ih =>
      have drops : (((FsOp.remove (receiver.partPath idx)).call.bind fun _ =>
          receiver.verifyParts metadata rest validIndices (corruptCount + 1)).bind
            (settled receiver metadata)).Follows (ResumeTurn receiver) ResumePhase.Done
              (.dropping metadata idx rest validIndices (corruptCount + 1)) :=
        fun answer => ⟨_, .drop answer, ih validIndices (corruptCount + 1)⟩
      rw [FileReceiver.verifyParts, TransferMetadata.verifyPart, ResumePhase.settle]
      cases listed : metadata.chunkHashes.get? idx with
      | none =>
          rw [if_pos rfl]
          exact drops
      | some expectedHash =>
          rw [if_neg (Option.some_ne_none _)]
          intro answer
          cases answer with
          | error error => exact ⟨_, .corrupt (.error error) (by simp), drops⟩
          | ok data =>
              by_cases same : calcHash data = expectedHash
              · have valid : metadata.chunkHashes.get? idx = some (calcHash data) := by
                  rw [listed, same]
                refine ⟨_, .valid data valid, ?_⟩
                simp only [Prog.ret_bind, same, decide_true]
                exact ih (validIndices ++ [idx]) corruptCount
              · have differs : ∀ read, Except.ok data = Except.ok (ε := IoError) read →
                    metadata.chunkHashes.get? idx ≠ some (calcHash read) := by
                  intro read reads hashed
                  cases reads
                  rw [listed] at hashed
                  exact same (Option.some.inj hashed).symm
                refine ⟨_, .corrupt (.ok data) differs, ?_⟩
                simp only [Prog.ret_bind, same, decide_false]
                exact drops

theorem loadOrPurgeMetadata_follows :
    receiver.loadOrPurgeMetadata.Follows (ResumeTurn receiver) ResumePhase.Done .looking := by
  intro answer
  by_cases present : answer = .ok true
  · subst present
    refine ⟨.loading, .found, fun answer => ?_⟩
    cases answer with
    | error error => exact ⟨_, .unreadable error, purge_follows receiver⟩
    | ok data =>
        refine ⟨_, .read data, ?_⟩
        change Prog.Follows _ _ (Prog.bind (match TransferMetadata.fromBytes data with
          | .error error => _
          | .ok metadata => _) _) _
        rw [ResumePhase.judge]
        cases TransferMetadata.fromBytes data with
        | error error => exact purge_follows receiver
        | ok metadata =>
            change Prog.Follows _ _ (ite _ _ _) (ite _ _ _)
            split
            · exact verifyParts_follows receiver metadata _ [] 0
            · exact purge_follows receiver
  · refine ⟨.missing, .absent answer present, ?_⟩
    cases answer with
    | error error => exact .inl rfl
    | ok found =>
        cases found with
        | true => exact absurd rfl present
        | false => exact .inl rfl

end Resume

/-- The output file is being assembled: `absorbed` has been copied from earlier parts,
`copied` from the part at hand. -/
inductive AssemblePhase where
  | creating
  | checking (left : List Nat) (absorbed : Bytes)
  | opening (idx : Nat) (rest : List Nat) (absorbed : Bytes)
  | reading (idx : Nat) (rest : List Nat) (absorbed copied : Bytes)
  | writing (idx : Nat) (rest : List Nat) (absorbed copied written unwritten : Bytes)
  | removing (idx : Nat) (rest : List Nat) (absorbed copied : Bytes)
  | assembled (result : Except IoError Bool) (absorbed : Bytes)

section Assemble

variable [Blake3]

namespace AssemblePhase

/-- What follows the writing of a byte. -/
def settle (idx : Nat) (rest : List Nat) (absorbed copied written unwritten : Bytes) :
    AssemblePhase :=
  if unwritten = [] then .reading idx rest absorbed (copied ++ written)
  else .writing idx rest absorbed copied written unwritten

/-- Where the assembly has come to an end. -/
def Done (result : Except IoError Bool) (phase : AssemblePhase) : Prop :=
  ∃ absorbed, phase = .assembled result absorbed

end AssemblePhase

inductive AssembleTurn (receiver : FileReceiver) : Turns (FsSig FilePath) AssemblePhase where
  | create : AssembleTurn receiver .creating (.create receiver.finalPath) (.ok ())
      (.checking (List.range receiver.numChunks) [])
  | createFails (error : IoError) : AssembleTurn receiver .creating (.create receiver.finalPath)
      (.error error) (.assembled (.error error) [])
  | found {idx : Nat} {rest : List Nat} {absorbed : Bytes} :
      AssembleTurn receiver (.checking (idx :: rest) absorbed) (.exists_ (receiver.partPath idx))
        (.ok true) (.opening idx rest absorbed)
  | missing {idx : Nat} {rest : List Nat} {absorbed : Bytes} (answer : Except IoError Bool)
      (different : answer ≠ .ok true) :
      AssembleTurn receiver (.checking (idx :: rest) absorbed) (.exists_ (receiver.partPath idx))
        answer (.assembled (.ok false) absorbed)
  | open_ {idx : Nat} {rest : List Nat} {absorbed : Bytes} :
      AssembleTurn receiver (.opening idx rest absorbed) (.openRead (receiver.partPath idx))
        (.ok ()) (.reading idx rest absorbed [])
  | openFails {idx : Nat} {rest : List Nat} {absorbed : Bytes} (error : IoError) :
      AssembleTurn receiver (.opening idx rest absorbed) (.openRead (receiver.partPath idx))
        (.error error) (.assembled (.error error) absorbed)
  | read {idx : Nat} {rest : List Nat} {absorbed copied : Bytes} (piece : Bytes)
      (some_ : piece ≠ []) :
      AssembleTurn receiver (.reading idx rest absorbed copied)
        (.readAt (receiver.partPath idx) copied.length bufferSize) (.ok piece)
        (.writing idx rest absorbed copied [] piece)
  | readEnd {idx : Nat} {rest : List Nat} {absorbed copied : Bytes} :
      AssembleTurn receiver (.reading idx rest absorbed copied)
        (.readAt (receiver.partPath idx) copied.length bufferSize) (.ok [])
        (.removing idx rest absorbed copied)
  | readFails {idx : Nat} {rest : List Nat} {absorbed copied : Bytes} (error : IoError) :
      AssembleTurn receiver (.reading idx rest absorbed copied)
        (.readAt (receiver.partPath idx) copied.length bufferSize) (.error error)
        (.assembled (.error error) absorbed)
  | write {idx : Nat} {rest : List Nat} {absorbed copied written unwritten : Bytes} (byte : UInt8) :
      AssembleTurn receiver (.writing idx rest absorbed copied written (byte :: unwritten))
        (.writeAt receiver.finalPath (absorbed ++ copied ++ written).length byte) (.ok ())
        (.settle idx rest absorbed copied (written ++ [byte]) unwritten)
  | writeFails {idx : Nat} {rest : List Nat} {absorbed copied written unwritten : Bytes}
      (byte : UInt8) (error : IoError) :
      AssembleTurn receiver (.writing idx rest absorbed copied written (byte :: unwritten))
        (.writeAt receiver.finalPath (absorbed ++ copied ++ written).length byte) (.error error)
        (.assembled (.error error) absorbed)
  | remove {idx : Nat} {rest : List Nat} {absorbed copied : Bytes} :
      AssembleTurn receiver (.removing idx rest absorbed copied) (.remove (receiver.partPath idx))
        (.ok ()) (.checking rest (absorbed ++ copied))
  | removeFails {idx : Nat} {rest : List Nat} {absorbed copied : Bytes} (error : IoError) :
      AssembleTurn receiver (.removing idx rest absorbed copied) (.remove (receiver.partPath idx))
        (.error error) (.assembled (.error error) absorbed)
  | finish {absorbed : Bytes} (answer : Except IoError Unit) :
      AssembleTurn receiver (.checking [] absorbed) (.remove receiver.metaPath) answer
        (.assembled (.ok (decide (calcHash absorbed = receiver.fullHash))) absorbed)

/-- An assembly writes the output file and removes parts and record. -/
theorem AssembleTurn.writes {receiver : FileReceiver} {phase phase' : AssemblePhase}
    {op : FsOp FilePath} {answer : op.Res} (turned : AssembleTurn receiver phase op answer phase') :
    (∃ idx, op = .remove (receiver.partPath idx)) ∨
      ∀ path, op.writes path → path = receiver.finalPath ∨ path = receiver.metaPath := by
  cases turned with
  | create | createFails | write | writeFails => exact .inr fun _ => .inl
  | found | missing | open_ | openFails | read | readEnd | readFails => exact .inr nofun
  | remove | removeFails => exact .inl ⟨_, rfl⟩
  | finish => exact .inr fun _ => .inr

variable (receiver : FileReceiver)

/-- Where a copied piece has come to an end, and the reading of a part. -/
private def Wrote (idx : Nat) (rest : List Nat) (absorbed copied : Bytes) :
    Except IoError Unit → AssemblePhase → Prop
  | .ok _, phase => phase = .reading idx rest absorbed copied
  | .error error, phase => phase = .assembled (.error error) absorbed

private def CopiedPart (idx : Nat) (rest : List Nat) (absorbed : Bytes) :
    Except IoError (Nat × Hasher) → AssemblePhase → Prop
  | .ok (written, hasher), phase => ∃ copied, phase = .removing idx rest absorbed copied ∧
      written = (absorbed ++ copied).length ∧ hasher = ⟨absorbed ++ copied⟩
  | .error error, phase => phase = .assembled (.error error) absorbed

private theorem writeAll_follows (idx : Nat) (rest : List Nat) (absorbed copied : Bytes)
    (written unwritten : Bytes) :
    (writeAll receiver.finalPath (absorbed ++ copied ++ written).length unwritten).Follows
      (AssembleTurn receiver) (Wrote idx rest absorbed (copied ++ written ++ unwritten))
      (.settle idx rest absorbed copied written unwritten) := by
  induction unwritten generalizing written with
  | nil =>
      rw [List.append_nil, AssemblePhase.settle, if_pos rfl]
      exact rfl
  | cons byte later ih =>
      rw [AssemblePhase.settle, if_neg nofun]
      intro answer
      cases answer with
      | error error => exact ⟨_, .writeFails byte error, rfl⟩
      | ok _ =>
          have further := ih (written ++ [byte])
          have longer : (absorbed ++ copied ++ (written ++ [byte])).length =
              (absorbed ++ copied ++ written).length + 1 := by simp [Nat.add_assoc]
          have whole : copied ++ (written ++ [byte]) ++ later = copied ++ written ++ byte :: later := by
            simp
          rw [longer, whole] at further
          exact ⟨_, .write byte, further⟩

private theorem copyPart_follows (reads idx : Nat) (rest : List Nat) (absorbed copied : Bytes) :
    (FileReceiver.copyPart receiver.finalPath (receiver.partPath idx) reads copied.length
      (absorbed ++ copied).length ⟨absorbed ++ copied⟩).Follows (AssembleTurn receiver)
        (CopiedPart idx rest absorbed) (.reading idx rest absorbed copied) := by
  induction reads generalizing copied with
  | zero => exact nofun
  | succ reads ih =>
      intro answer
      cases answer with
      | error error => exact ⟨_, .readFails error, rfl⟩
      | ok piece =>
          by_cases last : piece = []
          · subst last
            exact ⟨_, .readEnd, copied, rfl, rfl, rfl⟩
          · refine ⟨_, .read piece last, ?_⟩
            have some_ : piece.length ≠ 0 := fun none_ => last (List.eq_nil_of_length_eq_zero none_)
            change Prog.Follows _ _ (ite _ _ _) _
            rw [if_neg some_]
            have writes := writeAll_follows receiver idx rest absorbed copied [] piece
            rw [List.append_nil, List.append_nil, AssemblePhase.settle, if_neg last] at writes
            refine writes.attempt (fun error phase failed => failed) fun _ phase reached => ?_
            have later := ih (copied ++ piece)
            have offset : (copied ++ piece).length = copied.length + piece.length :=
              List.length_append
            have longer : (absorbed ++ (copied ++ piece)).length =
                (absorbed ++ copied).length + piece.length := by simp [Nat.add_assoc]
            rw [offset, longer, ← List.append_assoc] at later
            rw [reached]
            exact later

theorem assembleParts_follows (reads : Nat) (left : List Nat) (absorbed : Bytes) :
    (receiver.assembleParts reads left absorbed.length ⟨absorbed⟩).Follows (AssembleTurn receiver)
      AssemblePhase.Done (.checking left absorbed) := by
  induction left generalizing absorbed with
  | nil => exact fun answer => ⟨_, .finish answer, absorbed, rfl⟩
  | cons idx rest ih =>
      intro answer
      by_cases present : answer = .ok true
      · subst present
        refine ⟨_, .found, fun answer => ?_⟩
        cases answer with
        | error error => exact ⟨_, .openFails error, absorbed, rfl⟩
        | ok _ =>
            refine ⟨_, .open_, ?_⟩
            have copies := copyPart_follows receiver reads idx rest absorbed []
            rw [List.append_nil] at copies
            refine copies.attempt (fun error phase failed => ⟨absorbed, failed⟩) ?_
            intro result phase reached
            obtain ⟨copied, same, length, hasher⟩ := reached
            rw [same]
            intro answer
            cases answer with
            | error error => exact ⟨_, .removeFails error, absorbed, rfl⟩
            | ok _ =>
                refine ⟨_, .remove, ?_⟩
                have later := ih (absorbed ++ copied)
                rw [← length, ← hasher] at later
                exact later
      · refine ⟨_, .missing answer present, ?_⟩
        cases answer with
        | error error => exact ⟨absorbed, rfl⟩
        | ok found =>
            cases found with
            | true => exact absurd rfl present
            | false => exact ⟨absorbed, rfl⟩

theorem assemble_follows (reads : Nat) :
    (receiver.assemble reads).Follows (AssembleTurn receiver) AssemblePhase.Done .creating := by
  intro answer
  cases answer with
  | error error => exact ⟨_, .createFails error, [], rfl⟩
  | ok _ => exact ⟨_, .create, assembleParts_follows receiver reads _ []⟩

end Assemble

end BeeSync.Server
