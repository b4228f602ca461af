import BeeSync.Client.Session
import BeeSync.Interaction.Phases

/-!
# The phases of the client's main task

What the main task is about to ask for: the size of the file and its hash, the answer to its
handshake, the workers to spawn and to wait for, the final status.
-/

set_option autoImplicit false

namespace BeeSync.Client

open Encoding Interaction

inductive MainPhase where
  | starting
  | found
  /-- The size of the file is what the numbers of chunks are computed from. -/
  | sized (fileSize : Nat)
  | connected (fileSize : Nat) (name : Bytes)
  | opening (fileSize : Nat) (name : Bytes) (announced : Nat)
  /-- The file is being hashed, and so much of it has been read. -/
  | hashing (fileSize : Nat) (name : Bytes) (announced : Nat) (absorbed : Bytes)
  | greeting (fileSize : Nat) (message : Bytes)
  | greeted (fileSize : Nat)
  /-- A worker is due, and these come after it. -/
  | spawning (fileSize : Nat) (dataPorts : List UInt16) (chunks : List Nat) (worker : Nat)
      (rest : List (List Nat × Nat)) (handles : List Nat)
  | joining (worker : Nat) (handles failed : List Nat)
  | deciding (failed : List Nat)
  | confirming
  | ending (exitCode : Nat)
  | ended (exitCode : Nat)

/-- What to do with the handles that are left. -/
def MainPhase.join (failed : List Nat) : List Nat → MainPhase
  | [] => .deciding failed
  | worker :: handles => .joining worker handles failed

/-- What to do with the assignments that are left. -/
def MainPhase.spawn (fileSize : Nat) (dataPorts : List UInt16) (handles : List Nat) :
    List (List Nat × Nat) → MainPhase
  | [] => .join [] handles
  | ([], _) :: rest => .spawn fileSize dataPorts handles rest
  | (idx :: chunks, worker) :: rest =>
      .spawning fileSize dataPorts (idx :: chunks) worker rest handles

/-- What to do after an answer to the handshake. -/
def MainPhase.answered (config : ClientConfig) (fileSize : Nat) (status : UInt8)
    (dataPorts : List UInt16) : MainPhase :=
  if status = Handshake.respOk then
    if dataPorts.isEmpty then .confirming
    else .spawn fileSize dataPorts [] (workerAssignments (numChunks fileSize config.chunkSize)
      (Main.numWorkers config dataPorts)).zipIdx
  else if status = Handshake.respExists then .ending 0
  else if status = Handshake.respComplete then .confirming
  else .ending 1

/-- The exit code for a final status. -/
def finalCode : Bytes → Nat
  | [] => 1
  | status :: _ => if status = Handshake.respOk then 0 else 1

/-- The handshake can only be built for a path that ends in a name. -/
def MainPhase.named (config : ClientConfig) (fileSize : Nat) : MainPhase :=
  match fileName config.filepath with
  | none => .ending 1
  | some name => .connected fileSize name

inductive MainTurn [Blake3] (config : ClientConfig) : Turns MainSig MainPhase where
  | find : MainTurn config .starting (.isFile config.filepath) true .found
  | missing : MainTurn config .starting (.isFile config.filepath) false (.ending 1)
  | measure (result : Except IoError Nat) :
      MainTurn config .found (.metadataLen config.filepath) result
        (.sized (match result with
          | .ok length => length
          | .error _ => 0))
  | connect {fileSize : Nat} :
      MainTurn config (.sized fileSize) (.connect config.host config.port) (.ok ())
        (.named config fileSize)
  | unreachable {fileSize : Nat} (error : IoError) :
      MainTurn config (.sized fileSize) (.connect config.host config.port) (.error error) (.ending 1)
  | announce {fileSize : Nat} {name : Bytes} (length : Nat) :
      MainTurn config (.connected fileSize name) (.metadataLen config.filepath) (.ok length)
        (.opening fileSize name length)
  | unmeasured {fileSize : Nat} {name : Bytes} (error : IoError) :
      MainTurn config (.connected fileSize name) (.metadataLen config.filepath) (.error error)
        (.ending 1)
  | open_ {fileSize announced : Nat} {name : Bytes} :
      MainTurn config (.opening fileSize name announced) (.fs (.openRead config.filepath)) (.ok ())
        (.hashing fileSize name announced [])
  | unopened {fileSize announced : Nat} {name : Bytes} (error : IoError) :
      MainTurn config (.opening fileSize name announced) (.fs (.openRead config.filepath))
        (.error error) (.ending 1)
  | absorb {fileSize announced : Nat} {name absorbed : Bytes} (piece : Bytes)
      (some_ : piece ≠ []) :
      MainTurn config (.hashing fileSize name announced absorbed)
        (.fs (.readAt config.filepath absorbed.length bufferSize)) (.ok piece)
        (.hashing fileSize name announced (absorbed ++ piece))
  | absorbed {fileSize announced : Nat} {name absorbed : Bytes} :
      MainTurn config (.hashing fileSize name announced absorbed)
        (.fs (.readAt config.filepath absorbed.length bufferSize)) (.ok [])
        (.greeting fileSize (encodeHandshake (fromUtf8Lossy name) announced config.chunkSize
          (calcHash absorbed)))
  | unread {fileSize announced : Nat} {name absorbed : Bytes} (error : IoError) :
      MainTurn config (.hashing fileSize name announced absorbed)
        (.fs (.readAt config.filepath absorbed.length bufferSize)) (.error error) (.ending 1)
  | greet {fileSize : Nat} {message : Bytes} :
      MainTurn config (.greeting fileSize message) (.sendFrame message) (.ok ()) (.greeted fileSize)
  | mute {fileSize : Nat} {message : Bytes} (error : IoError) :
      MainTurn config (.greeting fileSize message) (.sendFrame message) (.error error) (.ending 1)
  | answered {fileSize : Nat} (data : Bytes) (status : UInt8) (dataPorts : List UInt16)
      (parsed : parseResponse data = .ok (status, dataPorts)) :
      MainTurn config (.greeted fileSize) .recvFrame (.ok data)
        (.answered config fileSize status dataPorts)
  | garbled {fileSize : Nat} (data : Bytes) (error : ResponseError)
      (parsed : parseResponse data = .error error) :
      MainTurn config (.greeted fileSize) .recvFrame (.ok data) (.ending 1)
  | deaf {fileSize : Nat} (error : IoError) :
      MainTurn config (.greeted fileSize) .recvFrame (.error error) (.ending 1)
  | spawn {fileSize worker : Nat} {dataPorts : List UInt16} {chunks handles : List Nat}
      {rest : List (List Nat × Nat)} :
      MainTurn config (.spawning fileSize dataPorts chunks worker rest handles)
        (.spawnWorker worker (Main.workerConfig config dataPorts fileSize worker chunks)) ()
        (.spawn fileSize dataPorts (handles ++ [worker]) rest)
  | join {worker : Nat} {handles failed : List Nat} (outcome : Option WorkerResult) :
      MainTurn config (.joining worker handles failed) (.joinWorker worker) outcome
        (.join (failed ++ Session.reported outcome) handles)
  | interrupted {failed : List Nat} :
      MainTurn config (.deciding failed) .loadShutdown true (.ending 0)
  | decide {failed : List Nat} :
      MainTurn config (.deciding failed) .loadShutdown false
        (if failed.isEmpty then .confirming else .ending 1)
  | confirm (data : Bytes) :
      MainTurn config .confirming .recvFinal (.ok data) (.ending (finalCode data))
  | unconfirmed (error : IoError) : MainTurn config .confirming .recvFinal (.error error) (.ending 1)
  | close {exitCode : Nat} : MainTurn config (.ending exitCode) .closeStream () (.ended exitCode)

namespace MainPhase

variable [Blake3] {config : ClientConfig}

private def Coded (exitCode : Nat) (phase : MainPhase) : Prop := phase = .ending exitCode

private theorem confirm_follows :
    Main.confirm.Follows (MainTurn config) Coded .confirming := by
  intro answer
  cases answer with
  | error error => exact ⟨_, .unconfirmed error, rfl⟩
  | ok data =>
      refine ⟨_, .confirm data, ?_⟩
      cases data <;> exact rfl

private theorem joinWorkers_follows (handles failed : List Nat) :
    (Main.joinWorkers handles failed).Follows (MainTurn config)
      (fun allFailed phase => phase = .deciding allFailed) (.join failed handles) := by
  induction handles generalizing failed with
  | nil => exact rfl
  | cons worker handles ih =>
      intro outcome
      refine ⟨_, .join outcome, ?_⟩
      cases outcome with
      | some result => exact ih _
      | none =>
          rw [show failed ++ Session.reported none = failed from List.append_nil failed]
          exact ih _

private theorem spawnWorkers_follows (fileSize : Nat) (dataPorts : List UInt16)
    (assigned : List (List Nat × Nat)) (handles : List Nat) :
    (Main.spawnWorkers config dataPorts fileSize assigned handles).Follows (MainTurn config)
      (fun handles phase => phase = .join [] handles)
      (.spawn fileSize dataPorts handles assigned) := by
  induction assigned generalizing handles with
  | nil => exact rfl
  | cons entry rest ih =>
      obtain ⟨chunks, worker⟩ := entry
      cases chunks with
      | nil => exact ih handles
      | cons idx chunks => exact fun _ => ⟨_, .spawn, ih _⟩

private theorem runWorkers_follows (fileSize : Nat) (dataPorts : List UInt16)
    (assignments : List (List Nat)) :
    (Main.runWorkers config assignments dataPorts fileSize).Follows (MainTurn config)
      (fun allFailed phase => phase = .deciding allFailed)
      (.spawn fileSize dataPorts [] assignments.zipIdx) := by
  refine (spawnWorkers_follows fileSize dataPorts _ []).bind fun handles phase reached => ?_
  rw [reached]
  exact joinWorkers_follows handles []

private theorem transfer_follows (fileSize : Nat) (dataPorts : List UInt16) :
    (Main.transfer config fileSize (numChunks fileSize config.chunkSize) dataPorts).Follows
      (MainTurn config) Coded (.answered config fileSize Handshake.respOk dataPorts) := by
  rw [answered, if_pos rfl, Main.transfer]
  split
  · exact confirm_follows
  · refine (runWorkers_follows fileSize dataPorts _).bind fun allFailed phase reached => ?_
    rw [reached]
    intro stopped
    cases stopped with
    | true => exact ⟨_, .interrupted, rfl⟩
    | false =>
        refine ⟨_, .decide, ?_⟩
        simp only [Prog.ret_bind]
        split
        · exact confirm_follows
        · exact rfl

private theorem fileHashLoop_follows (fileSize announced : Nat) (name : Bytes) (reads : Nat)
    (absorbed : Bytes) :
    (Main.onFs (fileHashLoop config.filepath reads absorbed.length ⟨absorbed⟩)).Follows
      (MainTurn config) (fun result phase => match result with
        | .ok digest => phase = .greeting fileSize
            (encodeHandshake (fromUtf8Lossy name) announced config.chunkSize digest)
        | .error _ => phase = .ending 1) (.hashing fileSize name announced absorbed) := by
  induction reads generalizing absorbed with
  | zero => exact nofun
  | succ reads ih =>
      intro answer
      cases answer with
      | error error => exact ⟨_, .unread error, rfl⟩
      | ok piece =>
          cases piece with
          | nil => exact ⟨_, .absorbed, rfl⟩
          | cons byte piece =>
              refine ⟨_, .absorb (byte :: piece) nofun, ?_⟩
              have continued := ih (absorbed ++ byte :: piece)
              rw [List.length_append] at continued
              exact continued

private theorem buildHandshake_follows (reads fileSize : Nat) :
    (Main.buildHandshake reads config.filepath config.chunkSize).Follows (MainTurn config)
      (fun result phase => match result with
        | .ok message => phase = .greeting fileSize message
        | .error _ => phase = .ending 1) (.named config fileSize) := by
  rw [Main.buildHandshake, named]
  cases fileName config.filepath with
  | none => exact rfl
  | some name =>
      intro length
      cases length with
      | error error => exact ⟨_, .unmeasured error, rfl⟩
      | ok length =>
          refine ⟨_, .announce length, fun opened => ?_⟩
          cases opened with
          | error error => exact ⟨_, .unopened error, rfl⟩
          | ok _ =>
              refine ⟨_, .open_, (fileHashLoop_follows fileSize length name reads []).recover ?_ ?_⟩
              · exact fun _ _ reached => reached
              · exact fun _ _ reached => reached

private theorem performHandshake_follows (reads fileSize : Nat) :
    (Main.performHandshake reads config).Follows (MainTurn config)
      (fun result phase => match result with
        | none => phase = .ending 1
        | some (status, dataPorts) => phase = .answered config fileSize status dataPorts)
      (.sized fileSize) := by
  intro connected
  cases connected with
  | error error => exact ⟨_, .unreachable error, rfl⟩
  | ok _ =>
      refine ⟨_, .connect, (buildHandshake_follows reads fileSize).recover ?_ fun message phase ready => ?_⟩
      · exact fun _ _ reached => reached
      · rw [show phase = .greeting fileSize message from ready]
        intro sent
        cases sent with
        | error error => exact ⟨_, .mute error, rfl⟩
        | ok _ =>
            refine ⟨_, .greet, fun answer => ?_⟩
            cases answer with
            | error error => exact ⟨_, .deaf error, rfl⟩
            | ok data =>
                cases parsed : parseResponse data with
                | error error =>
                    simp only [Prog.ret_bind, parsed]
                    exact ⟨_, .garbled data error parsed, rfl⟩
                | ok response =>
                    obtain ⟨status, dataPorts⟩ := response
                    simp only [Prog.ret_bind, parsed]
                    exact ⟨_, .answered data status dataPorts parsed, rfl⟩

private theorem respond_follows (reads fileSize : Nat) :
    ((Main.performHandshake reads config).bind fun
      | none => .ret 1
      | some (status, dataPorts) =>
        if status = Handshake.respOk then
          Main.transfer config fileSize (numChunks fileSize config.chunkSize) dataPorts
        else if status = Handshake.respExists then .ret 0
        else if status = Handshake.respComplete then Main.confirm
        else .ret 1).Follows (MainTurn config) Coded (.sized fileSize) := by
  refine (performHandshake_follows reads fileSize).bind fun result phase reached => ?_
  cases result with
  | none => exact reached
  | some response =>
      obtain ⟨status, dataPorts⟩ := response
      rw [show phase = .answered config fileSize status dataPorts from reached]
      by_cases accepted : status = Handshake.respOk
      · subst accepted
        exact transfer_follows fileSize dataPorts
      · rw [answered, if_neg accepted]
        simp only [if_neg accepted]
        split
        · exact rfl
        · split
          · exact confirm_follows
          · exact rfl

private theorem runClient_follows (reads : Nat) :
    (Main.runClient reads config).Follows (MainTurn config) Coded .starting := by
  intro present
  cases present with
  | false => exact ⟨_, .missing, rfl⟩
  | true =>
      refine ⟨_, .find, fun measured => ⟨_, .measure measured, ?_⟩⟩
      cases measured with
      | error error => exact respond_follows reads 0
      | ok length => exact respond_follows reads length

theorem task_follows (reads : Nat) :
    (Main.task reads config).Follows (MainTurn config)
      (fun exitCode phase => phase = .ended exitCode) .starting := by
  refine (runClient_follows reads).bind fun exitCode phase reached => ?_
  rw [show phase = .ending exitCode from reached]
  exact fun _ => ⟨_, .close, rfl⟩

end MainPhase

end BeeSync.Client
