import BeeSync.ChunkMessage
import BeeSync.Interaction.ThreadPool
import BeeSync.Server.Data

/-!
# Requests and replies on a data connection

A data server task serves one connection after the other. Clients pair replies with
frames by their position alone, so each frame has to be answered before the next one is
taken, or the connection closed. A malformed chunk frame is dropped without a reply.
-/

set_option autoImplicit false

namespace BeeSync.Server

open Encoding Interaction

/-- What has gone over the connection that was accepted last. -/
structure Traffic where
  consumed : List Bytes
  replies : List Bytes
  connected : Bool

/-- The reply that belongs to a frame. -/
inductive Replies : Bytes → Bytes → Prop where
  | query (flags : List Bool) : Replies [Chunk.queryMagic] (queryResponse flags)
  | ack {data : Bytes} {ack : UInt8} : data ≠ [Chunk.queryMagic] →
      ack = Chunk.ackOk ∨ ack = Chunk.ackHashMismatch → Replies data [ack]

namespace Traffic

/-- Every frame has been answered, in order. -/
def Answered (traffic : Traffic) : Prop :=
  List.Forall₂ Replies traffic.consumed traffic.replies

/-- Every frame but the last has been answered. -/
def Pending (data : Bytes) (traffic : Traffic) : Prop :=
  ∃ earlier, traffic.consumed = earlier ++ [data] ∧ List.Forall₂ Replies earlier traffic.replies

/-- The peer sends any of its frames at any time. The receiver may change between any two
looks at it, but not its parameters. -/
def sem (params : FileReceiver.Params) (frames : Set Bytes) (sendsFail : Prop) :
    (op : DataOp) → Traffic → op.Res → Traffic → Prop
  | .accept, traffic, answer, traffic' =>
      (answer = .ok () ∧ traffic' = ⟨[], [], true⟩) ∨
        ((∃ error, answer = .error error) ∧ traffic' = traffic)
  | .recvFrame, traffic, answer, traffic' =>
      (∃ data ∈ frames, answer = .ok data ∧
        traffic' = { traffic with consumed := traffic.consumed ++ [data] }) ∨
          ((∃ error, answer = .error error) ∧ traffic' = traffic)
  | .sendFrame payload, traffic, answer, traffic' =>
      (answer = .ok () ∧ traffic' = { traffic with replies := traffic.replies ++ [payload] }) ∨
        (sendsFail ∧ (∃ error, answer = .error error) ∧ traffic' = traffic)
  | .lock _, traffic, answer, traffic' => answer.params = params ∧ traffic' = traffic
  | .closeStream, traffic, _, traffic' => traffic' = { traffic with connected := false }
  | _, traffic, _, traffic' => traffic' = traffic

variable [Blake3]

def system (params : FileReceiver.Params) (frames : Set Bytes) (sendsFail : Prop) :
    System Unit (fun _ => DataSig) (fun _ => DataState) Traffic where
  sem _ := sem params frames sendsFail
  again _ := Data.again

omit [Blake3] in
/-- The task before its first connection. -/
def start : Pool (fun _ : Unit => DataSig) (fun _ => DataState) Traffic where
  prog _ := Data.task
  world := ⟨[], [], false⟩

end Traffic

/-- Requests and replies are in step: at most one frame is without its reply, and none is
when the task takes the next one or has nothing left to do on an open connection. -/
structure Disciplined (pool : Pool (fun _ : Unit => DataSig) (fun _ => DataState) Traffic) :
    Prop where
  inStep : pool.world.Answered ∨ ∃ data, pool.world.Pending data
  answered : ∀ next, pool.prog () = .vis .recvFrame next → pool.world.Answered
  settled : ∀ state, pool.prog () = .ret state → pool.world.connected = true →
    pool.world.Answered

/-- A chunk message as the server expects it. -/
def WellFormed (params : FileReceiver.Params) (data : Bytes) : Prop :=
  ∃ header, parseChunkHeader data = some header ∧
    Chunk.headerSize + header.chunkSize + Chunk.hashSize ≤ data.length ∧
      expectedChunkSize params.fileSize params.chunkSize params.numChunks header.chunkIndex =
        some header.chunkSize

namespace ReplyDiscipline

open Traffic

variable [Blake3] {params : FileReceiver.Params} {frames : Set Bytes} {sendsFail : Prop}

def contract : Contract (fun _ : Unit => DataSig) (fun _ => DataState) Traffic where
  inv traffic := traffic.Answered ∨ ∃ data, traffic.Pending data
  guar _ _ _ := True
  ob _
    | .recvFrame => Answered
    | _ => fun _ => True
  post _
    | .connected _ _ => Answered
    | .accepting _ | .ended => fun traffic => traffic.connected = false

abbrev protocol (params : FileReceiver.Params) (frames : Set Bytes) (sendsFail : Prop) :
    Protocol DataSig Traffic :=
  contract.protocol (Traffic.system params frames sendsFail) (fun _ => True) ()

private theorem stable (kept : Traffic → Prop) : (protocol params frames sendsFail).Stable kept := by
  rintro _ _ _ _ ⟨other, different, _⟩ _
  exact absurd rfl different

/-- Calls that leave the connection alone. -/
def Beside : DataOp → Prop
  | .accept | .recvFrame | .sendFrame _ | .closeStream => False
  | _ => True

private theorem step_beside (kept : Traffic → Prop) {op : DataOp} (beside : Beside op) :
    (protocol params frames sendsFail).Step kept op fun _ => kept := by
  refine fun traffic inv holds => ⟨?_, ?_⟩
  · cases op <;> trivial
  · rintro answer traffic' ⟨acted, _⟩
    have same : traffic' = traffic := by
      cases op with
      | accept | recvFrame | sendFrame | closeStream => cases beside
      | lock receiver => exact acted.2
      | start | getReceiver | fs | unlock | dropListener => exact acted
    subst same
    exact ⟨trivial, inv, holds⟩

private theorem step_lock (kept : Traffic → Prop) (receiver : ReceiverId) :
    (protocol params frames sendsFail).Step kept (.lock receiver) fun state traffic =>
      kept traffic ∧ state.params = params := by
  intro traffic inv holds
  have beside : Beside (.lock receiver) := trivial
  obtain ⟨ob, acts⟩ := step_beside kept beside traffic inv holds
  refine ⟨ob, fun state traffic' acted => ?_⟩
  obtain ⟨guar, inv', kept'⟩ := acts state traffic' acted
  exact ⟨guar, inv', kept', acted.1.1⟩

private theorem look_triple {α : Type} {kept : Traffic → Prop} (receiver : ReceiverId)
    {rest : FileReceiver → DataProg α} {post : α → Traffic → Prop}
    (following : ∀ state, state.params = params →
      Triple (protocol params frames sendsFail) kept (rest state) post) :
    Triple (protocol params frames sendsFail) kept
      ((Data.call (.lock receiver)).bind fun state =>
        (Data.call (.unlock receiver state)).bind fun _ => rest state) post := by
  refine .step _ (stable kept) (step_lock kept receiver) fun state => ?_
  refine fun traffic inv ⟨holds, same⟩ => ?_
  have beside : Beside (.unlock receiver state) := trivial
  exact Triple.step _ (stable kept) (step_beside kept beside) (fun _ => following state same)
    traffic inv holds

private theorem disconnect_triple (kept : Traffic → Prop) (port : UInt16) :
    Triple (protocol params frames sendsFail) kept (Data.disconnect port) (contract.post ()) := by
  refine .step (fun _ traffic => traffic.connected = false) (stable _) ?_ fun _ =>
    .ret (stable _) fun _ _ closed => closed
  refine fun traffic inv _ => ⟨trivial, ?_⟩
  rintro _ _ ⟨rfl, _⟩
  exact ⟨trivial, inv, rfl⟩

private theorem step_reply {data payload : Bytes} (belongs : Replies data payload) :
    (protocol params frames sendsFail).Step (Pending data) (.sendFrame payload) fun
      | .ok _ => Answered
      | .error _ => fun _ => sendsFail := by
  refine fun traffic inv ⟨earlier, consumed, answered⟩ => ⟨trivial, ?_⟩
  rintro _ _ ⟨⟨rfl, rfl⟩ | ⟨fails, ⟨error, rfl⟩, rfl⟩, _⟩
  · have all : Answered { traffic with replies := traffic.replies ++ [payload] } := by
      rw [Answered, consumed]
      exact List.rel_append answered (.cons belongs .nil)
    exact ⟨trivial, .inl all, all⟩
  · exact ⟨trivial, inv, fails⟩

private theorem verify_beside (receiver : ReceiverId) (idx : Nat) (data hash : Bytes) :
    (Data.verifyAndWriteChunk receiver idx data hash).All Beside := by
  have files : ∀ {α : Type} (program : FsProg FilePath α), (Data.onFs program).All Beside :=
    fun program => .embed (.of_forall (fun _ => trivial) program)
  unfold Data.verifyAndWriteChunk
  split
  · refine .bind (.call trivial) fun state => .bind (.call trivial) fun _ =>
      .recover (files _) (fun _ => ?_) fun _ => .bind (.call trivial) fun state' =>
        .bind (files _) fun recorded => ?_
    · exact .bind (.call trivial) fun _ => .bind (.call trivial) fun _ => trivial
    · obtain ⟨recorded, result⟩ := recorded
      cases result <;> exact .bind (.call trivial) fun _ => trivial
  · trivial

private theorem verify_yields (receiver : ReceiverId) (idx : Nat) (data hash : Bytes) :
    (Data.verifyAndWriteChunk receiver idx data hash).Yields
      fun ack => ack = Chunk.ackOk ∨ ack = Chunk.ackHashMismatch := by
  unfold Data.verifyAndWriteChunk
  split
  · refine .bind _ fun state => .bind _ fun _ => .bind _ fun written => ?_
    cases written with
    | error error => exact .bind _ fun _ => .bind _ fun _ => .inr rfl
    | ok _ =>
        refine .bind _ fun state' => .bind _ fun recorded => ?_
        obtain ⟨recorded, result⟩ := recorded
        cases result with
        | ok _ => exact .bind _ fun _ => .inl rfl
        | error error => exact .bind _ fun _ => .inr rfl
  · exact .inr rfl

private theorem verify_triple (kept : Traffic → Prop) (receiver : ReceiverId) (idx : Nat)
    (data hash : Bytes) :
    Triple (protocol params frames sendsFail) kept (Data.verifyAndWriteChunk receiver idx data hash)
      fun ack traffic => kept traffic ∧ (ack = Chunk.ackOk ∨ ack = Chunk.ackHashMismatch) :=
  (Triple.uniform (stable kept) (verify_beside receiver idx data hash)
    fun _ beside => step_beside kept beside).yields (verify_yields receiver idx data hash)

/-- A frame that may be left to the server: one it panics on, or one that it answers and
whose answer gets through. -/
def Answerable (params : FileReceiver.Params) (sendsFail : Prop) (data : Bytes) : Prop :=
  data.length < Chunk.headerSize ∨ ¬ sendsFail ∧ WellFormed params data

private theorem processChunk_triple (receiver : ReceiverId) {data : Bytes}
    (chunk : data ≠ [Chunk.queryMagic]) (answerable : Answerable params sendsFail data) :
    Triple (protocol params frames sendsFail) (Pending data) (Data.processChunk receiver data) fun
      | none => fun _ => True
      | some _ => Answered := by
  unfold Data.processChunk
  cases parsed : parseChunkHeader data with
  | none => exact .ret (stable _) fun _ _ _ => trivial
  | some header =>
      obtain short | ⟨lossless, header', parsed', long, expected⟩ := answerable
      · rw [parseChunkHeader, if_pos short] at parsed
        cases parsed
      · cases parsed.symm.trans parsed'
        dsimp only
        rw [if_neg (not_lt.mpr long)]
        refine look_triple receiver fun state same => ?_
        subst same
        have size : expectedChunkSize state.fileSize state.chunkSize state.numChunks
            header.chunkIndex = some header.chunkSize := expected
        rw [size]
        dsimp only
        rw [if_neg (not_not.mpr rfl)]
        refine .bind _ (verify_triple (Pending data) receiver _ _ _) fun ack => ?_
        rintro traffic inv ⟨pending, known⟩
        refine Triple.step _ (stable _) (step_reply (.ack chunk known)) (fun sent => ?_)
          traffic inv pending
        cases sent with
        | ok _ => exact .ret (stable _) fun _ _ answered => answered
        | error error => exact fun _ _ fails => absurd fails lossless

private theorem step_recv :
    (protocol params frames sendsFail).Step Answered .recvFrame fun
      | .ok data => fun traffic => data ∈ frames ∧ Pending data traffic
      | .error _ => fun _ => True := by
  refine fun traffic inv answered => ⟨answered, ?_⟩
  rintro _ _ ⟨⟨data, sent, rfl, rfl⟩ | ⟨⟨error, rfl⟩, rfl⟩, _⟩
  · have pending : Pending data { traffic with consumed := traffic.consumed ++ [data] } :=
      ⟨traffic.consumed, rfl, answered⟩
    exact ⟨trivial, .inr ⟨data, pending⟩, sent, pending⟩
  · exact ⟨trivial, inv, trivial⟩

private theorem handleQuery_triple (receiver : ReceiverId) :
    Triple (protocol params frames sendsFail) (Pending [Chunk.queryMagic])
      (Data.handleQuery receiver) fun
        | .ok _ => Answered
        | .error _ => fun _ => True := by
  refine look_triple receiver fun state _ => ?_
  refine .step _ (stable _) (step_reply (.query state.receivedChunks)) fun sent => ?_
  refine .ret (stable _) fun traffic _ holds => ?_
  cases sent with
  | ok _ => exact holds
  | error error => trivial

private theorem serveFrame_triple (answerable : ∀ data ∈ frames, Answerable params sendsFail data)
    (port : UInt16) (receiver : ReceiverId) :
    Triple (protocol params frames sendsFail) Answered (Data.serveFrame port receiver)
      (contract.post ()) := by
  have goes : Triple (protocol params frames sendsFail) Answered
      (.ret (.connected port receiver)) (contract.post ()) :=
    .ret (stable _) fun _ _ answered => answered
  refine look_triple receiver fun state _ => ?_
  split
  · exact disconnect_triple _ port
  · refine .recover _ (.step _ (stable _) step_recv fun _ => .ret (stable _) fun _ _ holds => holds)
      (fun _ => disconnect_triple _ port) fun data => ?_
    rintro traffic inv ⟨sent, pending⟩
    by_cases nothing : data.isEmpty
    · rw [if_pos nothing]
      exact disconnect_triple _ port traffic inv pending
    · rw [if_neg nothing]
      by_cases query : data = [Chunk.queryMagic]
      · subst query
        rw [if_pos rfl]
        exact Triple.recover _ (handleQuery_triple receiver) (fun _ => disconnect_triple _ port)
          (fun _ => goes) traffic inv pending
      · rw [if_neg query]
        refine Triple.bind _ (processChunk_triple receiver query (answerable data sent))
          (fun result => ?_) traffic inv pending
        cases result with
        | some _ => exact goes
        | none =>
            refine .step (fun _ traffic => traffic.connected = false) (stable _) ?_ fun _ => ?_
            · refine fun traffic inv _ => ⟨trivial, ?_⟩
              rintro _ _ ⟨rfl, _⟩
              exact ⟨trivial, inv, rfl⟩
            · exact .step _ (stable _) (step_beside _ trivial) fun _ =>
                .ret (stable _) fun _ _ closed => closed

private theorem acceptConnection_triple (port : UInt16) :
    Triple (protocol params frames sendsFail) (fun traffic => traffic.connected = false)
      (Data.acceptConnection port) (contract.post ()) := by
  have accept : (protocol params frames sendsFail).Step (fun traffic => traffic.connected = false)
      .accept fun
        | .ok _ => Answered
        | .error _ => fun traffic => traffic.connected = false := by
    refine fun traffic inv closed => ⟨trivial, ?_⟩
    rintro _ _ ⟨⟨rfl, rfl⟩ | ⟨⟨error, rfl⟩, rfl⟩, _⟩
    · exact ⟨trivial, .inl .nil, .nil⟩
    · exact ⟨trivial, inv, closed⟩
  refine .recover _ (.step _ (stable _) accept fun _ => .ret (stable _) fun _ _ holds => holds)
    (fun _ => ?_) fun _ => ?_
  · exact .step _ (stable _) (step_beside _ trivial) fun _ =>
      .ret (stable _) fun _ _ closed => closed
  · refine .step _ (stable _) (step_beside _ trivial) fun found => ?_
    cases found with
    | none => exact disconnect_triple _ port
    | some receiver => exact .ret (stable _) fun _ _ answered => answered

private theorem again_triple (answerable : ∀ data ∈ frames, Answerable params sendsFail data)
    (state : DataState) (rest : DataProg DataState) (again : Data.again state = some rest) :
    Triple (protocol params frames sendsFail) (contract.post () state) rest (contract.post ()) := by
  cases state with
  | accepting port =>
      cases again
      exact acceptConnection_triple port
  | connected port receiver =>
      cases again
      exact serveFrame_triple answerable port receiver
  | ended => cases again

private theorem start_holds :
    contract.Holds (Traffic.system params frames sendsFail) (fun _ => True) Traffic.start := by
  have beside : Beside .start := trivial
  have task : Triple (protocol params frames sendsFail) (fun traffic => traffic.connected = false)
      Data.task (contract.post ()) :=
    .step _ (stable _) (step_beside _ beside) fun _ => .ret (stable _) fun _ _ closed => closed
  exact ⟨.inl .nil, fun _ => task _ (.inl .nil) rfl⟩

private theorem disciplined_of_holds
    {pool : Pool (fun _ : Unit => DataSig) (fun _ => DataState) Traffic}
    (holds : contract.Holds (Traffic.system params frames sendsFail) (fun _ => True) pool) :
    Disciplined pool where
  inStep := holds.inv
  answered _ current := holds.obligation current
  settled state current opened := by
    have post := holds.returned current
    cases state with
    | connected port receiver => exact post
    | accepting port | ended => exact absurd (post.symm.trans opened) (by decide)

section Silence

/-- A receiver with the given parameters. -/
private def receiverOf (params : FileReceiver.Params) : FileReceiver :=
  .new params.filename params.fileSize params.chunkSize params.numChunks params.fullHash
    params.outputDir params.partsDir

omit [Blake3] in
private theorem runs_writeFile (path : FilePath) (content : Bytes) (traffic : Traffic) :
    Runs (fun (_ : FsOp FilePath) before _ after => after = before) (writeFile path content)
      traffic (.ret (.ok ())) traffic := by
  have written : ∀ (offset : Nat), Runs (fun (_ : FsOp FilePath) before _ after => after = before)
      (writeAll path offset content) traffic (.ret (.ok ())) traffic := by
    induction content with
    | nil => exact fun _ => .refl
    | cons byte rest ih => exact fun offset => .vis (.ok ()) rfl (ih (offset + 1))
  exact .vis (.ok ()) rfl (written 0)

omit [Blake3] in
private theorem runs_recordChunk (state : FileReceiver) (idx : Nat) (hash : Digest)
    (traffic : Traffic) :
    ∃ recorded, Runs (fun (_ : FsOp FilePath) before _ after => after = before)
      (state.recordChunk idx hash) traffic (.ret (recorded, .ok ())) traffic :=
  ⟨_, .bind (.bind (runs_writeFile _ _ traffic) (.vis (.ok ()) rfl .refl)) .refl⟩

omit [Blake3] in
private theorem runs_fs {α : Type} {program : FsProg FilePath α} {value : α} {traffic : Traffic}
    (ran : Runs (fun (_ : FsOp FilePath) before _ after => after = before) program traffic
      (.ret value) traffic) :
    Runs (Traffic.sem params frames sendsFail) (Data.onFs program) traffic (.ret value) traffic := by
  have acts : ∀ (op : FsOp FilePath) (before : Traffic) (result : op.Res) (after : Traffic),
      after = before → ∃ given : op.Res, given = result ∧
        Traffic.sem params frames sendsFail (.fs op) before given after :=
    fun _ _ result _ acted => ⟨result, rfl, acted⟩
  exact Runs.embed acts ran

private theorem runs_verify (receiver : ReceiverId) (idx : Nat) (data hash : Bytes)
    (traffic : Traffic) :
    ∃ ack, Runs (Traffic.sem params frames sendsFail)
      (Data.verifyAndWriteChunk receiver idx data hash) traffic (.ret ack) traffic := by
  unfold Data.verifyAndWriteChunk
  split
  · obtain ⟨recorded, ran⟩ := runs_recordChunk (receiverOf params) idx (calcHash data) traffic
    have look : Runs (Traffic.sem params frames sendsFail) (Data.call (.lock receiver)) traffic
        (.ret (receiverOf params)) traffic := .vis _ ⟨rfl, rfl⟩ .refl
    have leave : ∀ state, Runs (Traffic.sem params frames sendsFail)
        (Data.call (.unlock receiver state)) traffic (.ret ()) traffic := fun _ => .vis () rfl .refl
    have written : Runs (Traffic.sem params frames sendsFail)
        (Data.onFs (writeFile ((receiverOf params).partPath idx) data)) traffic
        (.ret (.ok ())) traffic := runs_fs (runs_writeFile _ data traffic)
    exact ⟨Chunk.ackOk, look.bind ((leave _).bind (written.bind (look.bind
      ((runs_fs ran).bind ((leave recorded).bind .refl)))))⟩
  · exact ⟨_, .refl⟩

/-- A frame that is not answerable may be handled without a reply. -/
private theorem runs_processChunk (receiver : ReceiverId) {data : Bytes}
    (unanswerable : ¬ Answerable params sendsFail data) (traffic : Traffic) :
    ∃ result, Runs (Traffic.sem params frames sendsFail) (Data.processChunk receiver data) traffic
      (.ret (some result)) traffic := by
  rw [Answerable, not_or] at unanswerable
  obtain ⟨long, unanswered⟩ := unanswerable
  unfold Data.processChunk
  cases parsed : parseChunkHeader data with
  | none =>
      rw [parseChunkHeader, if_neg long] at parsed
      cases parsed
  | some header =>
      dsimp only
      split
      · exact ⟨_, .refl⟩
      · rename_i complete
        -- the receiver that the lock shows decides about the size
        cases size : expectedChunkSize (receiverOf params).fileSize (receiverOf params).chunkSize
            (receiverOf params).numChunks header.chunkIndex with
        | none =>
            refine ⟨.ok (), .vis (receiverOf params) ⟨rfl, rfl⟩ (.vis () rfl ?_)⟩
            rw [size]
            exact .refl
        | some expected =>
            suffices ∃ result, Runs (Traffic.sem params frames sendsFail)
                (if header.chunkSize ≠ expected then Prog.ret (some (.ok ()))
                else (Data.verifyAndWriteChunk receiver header.chunkIndex
                    (field data Chunk.headerSize header.chunkSize)
                    (field data (Chunk.headerSize + header.chunkSize) Chunk.hashSize)).bind fun ack =>
                  (Data.call (.sendFrame [ack])).bind fun sent => .ret (some sent))
                traffic (.ret (some result)) traffic by
              obtain ⟨result, ran⟩ := this
              refine ⟨result, .vis (receiverOf params) ⟨rfl, rfl⟩ (.vis () rfl ?_)⟩
              rw [size]
              exact ran
            split
            · exact ⟨_, .refl⟩
            rename_i fitting
            have fails : sendsFail := by
              refine not_not.mp fun lossless => unanswered ⟨lossless, header, parsed,
                not_lt.mp complete, ?_⟩
              rw [not_not.mp fitting]
              exact size
            obtain ⟨ack, ran⟩ : ∃ ack, Runs (Traffic.sem params frames sendsFail)
                (Data.verifyAndWriteChunk receiver header.chunkIndex
                  (field data Chunk.headerSize header.chunkSize)
                  (field data (Chunk.headerSize + header.chunkSize) Chunk.hashSize)) traffic
                (.ret ack) traffic := runs_verify _ _ _ _ _
            exact ⟨.error ⟨"send timed out"⟩, ran.bind (.vis (.error ⟨"send timed out"⟩)
              (.inr ⟨fails, ⟨_, rfl⟩, rfl⟩) .refl)⟩

/-- The task between two of its calls. -/
private def alone (program : DataProg DataState) (traffic : Traffic) :
    Pool (fun _ : Unit => DataSig) (fun _ => DataState) Traffic :=
  ⟨fun _ => program, traffic⟩

omit [Blake3] in
private theorem resume_alone (program rest : DataProg DataState) (traffic traffic' : Traffic) :
    (alone program traffic).resume () rest traffic' = alone rest traffic' := by
  have same : Function.update (fun _ : Unit => program) () rest = fun _ => rest :=
    funext fun _ => Function.update_self _ _ _
  rw [Pool.resume, alone, alone, same]

variable {program rest : DataProg DataState} {traffic traffic' : Traffic}

private theorem reaches_run
    (reached : Reaches (Traffic.system params frames sendsFail) (fun _ => True) Traffic.start
      (alone program traffic))
    (ran : Runs (Traffic.sem params frames sendsFail) program traffic rest traffic') :
    Reaches (Traffic.system params frames sendsFail) (fun _ => True) Traffic.start
      (alone rest traffic') := by
  have permitted : Runs (fun op before answer after =>
      Traffic.sem params frames sendsFail op before answer after ∧ True) program traffic rest
        traffic' := by
    simpa only [and_true] using ran
  rw [← resume_alone program rest traffic traffic']
  exact reached.runs rfl permitted

private theorem reaches_again {state : DataState}
    (reached : Reaches (Traffic.system params frames sendsFail) (fun _ => True) Traffic.start
      (alone (.ret state) traffic)) (again : Data.again state = some rest) :
    Reaches (Traffic.system params frames sendsFail) (fun _ => True) Traffic.start
      (alone rest traffic) := by
  rw [← resume_alone (.ret state) rest traffic traffic]
  exact reached.restart rfl again

private theorem undisciplined {data : Bytes} (sent : data ∈ frames)
    (unanswerable : ¬ Answerable params sendsFail data) :
    ∃ pool, Reaches (Traffic.system params frames sendsFail) (fun _ => True) Traffic.start pool ∧
      ¬ Disciplined pool := by
  have long : Chunk.headerSize ≤ data.length := by
    rw [Answerable, not_or] at unanswerable
    exact not_lt.mp unanswerable.1
  have something : ¬ data.isEmpty := by
    rintro nothing
    rw [List.isEmpty_iff.mp nothing] at long
    cases long
  have chunk : data ≠ [Chunk.queryMagic] := by
    rintro rfl
    exact absurd long (by decide)
  have look : ∀ traffic, Runs (Traffic.sem params frames sendsFail) (Data.call (.lock 0)) traffic
      (.ret (receiverOf params)) traffic := fun _ => .vis _ ⟨rfl, rfl⟩ .refl
  have leave : ∀ traffic, Runs (Traffic.sem params frames sendsFail)
      (Data.call (.unlock 0 (receiverOf params))) traffic (.ret ()) traffic :=
    fun _ => .vis () rfl .refl
  have started : Runs (Traffic.sem params frames sendsFail) Data.task ⟨[], [], false⟩
      (.ret (.accepting 45000)) ⟨[], [], false⟩ := .vis _ rfl .refl
  have accepted : Runs (Traffic.sem params frames sendsFail) (Data.acceptConnection 45000)
      ⟨[], [], false⟩ (.ret (.connected 45000 0)) ⟨[], [], true⟩ :=
    .vis (.ok ()) (.inl ⟨rfl, rfl⟩) (.vis (some 0) rfl .refl)
  have served : Runs (Traffic.sem params frames sendsFail) (Data.serveFrame 45000 0)
      ⟨[], [], true⟩ (.ret (.connected 45000 0)) ⟨[data], [], true⟩ := by
    obtain ⟨result, ran⟩ : ∃ result, Runs (Traffic.sem params frames sendsFail)
        (Data.processChunk 0 data) ⟨[data], [], true⟩ (.ret (some result)) ⟨[data], [], true⟩ :=
      runs_processChunk 0 unanswerable _
    have taken : Runs (Traffic.sem params frames sendsFail) (Data.call .recvFrame) ⟨[], [], true⟩
        (.ret (.ok data)) ⟨[data], [], true⟩ := .vis _ (.inl ⟨data, sent, rfl, rfl⟩) .refl
    refine (look _).bind ((leave _).bind (taken.bind ?_))
    dsimp only
    rw [if_neg something, if_neg chunk]
    exact ran.bind .refl
  obtain ⟨next, waiting⟩ : ∃ next, Runs (Traffic.sem params frames sendsFail)
      (Data.serveFrame 45000 0) ⟨[data], [], true⟩ (.vis .recvFrame next) ⟨[data], [], true⟩ :=
    ⟨_, (look _).bind ((leave _).bind .refl)⟩
  have connected := reaches_run (reaches_again (reaches_run .refl started) rfl) accepted
  have reached := reaches_run (reaches_again (reaches_run (reaches_again connected rfl) served) rfl)
    waiting
  refine ⟨_, reached, fun disciplined => ?_⟩
  cases disciplined.answered next rfl

end Silence

end ReplyDiscipline

/-- On every run of a data server task, requests and replies are in step exactly when each
frame of the peer is too short to be read, or is a chunk message as the server expects it
whose acknowledgment gets through. -/
theorem reply_discipline_iff [Blake3] (params : FileReceiver.Params) (frames : Set Bytes)
    (sendsFail : Prop) :
    (∀ pool, Reaches (Traffic.system params frames sendsFail) (fun _ => True) Traffic.start pool →
      Disciplined pool) ↔
        ∀ data ∈ frames, data.length < Chunk.headerSize ∨ ¬ sendsFail ∧ WellFormed params data := by
  constructor
  · intro disciplined data sent
    by_contra unanswerable
    obtain ⟨pool, reached, broken⟩ := ReplyDiscipline.undisciplined sent unanswerable
    exact broken (disciplined pool reached)
  · intro answerable pool reached
    exact ReplyDiscipline.disciplined_of_holds
      (ReplyDiscipline.start_holds.reaches
        (fun _ => ReplyDiscipline.again_triple answerable) reached)

/-- A message for the second chunk of a transfer with one chunk is taken and not answered. -/
theorem reply_missing_index_out_of_range :
    let _ := Blake3.sample
    let params : FileReceiver.Params := ⟨ascii "f", 1, 1, 1, calcHash [0x61], [], []⟩
    ¬ ∀ pool, Reaches (Traffic.system params {(Client.chunkMessage 1 1 [0x61]).flatten} False)
      (fun _ => True) Traffic.start pool → Disciplined pool := by
  intro _ params disciplined
  have unanswerable : ¬ ReplyDiscipline.Answerable params False
      (Client.chunkMessage 1 1 [0x61]).flatten := by
    rintro (short | ⟨_, header, parsed, _, expected⟩)
    · rw [chunkMessage_length] at short
      exact absurd short (by decide)
    · rw [parseChunkHeader_chunkMessage] at parsed
      cases parsed
      exact absurd expected (by decide)
  obtain ⟨pool, reached, broken⟩ :=
    ReplyDiscipline.undisciplined (Set.mem_singleton _) unanswerable
  exact broken (disciplined pool reached)

end BeeSync.Server
