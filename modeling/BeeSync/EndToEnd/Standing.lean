import BeeSync.Client.MainPhases
import BeeSync.Client.WorkerPhases
import BeeSync.EndToEnd.World
import BeeSync.HandshakeAgreement
import BeeSync.Server.HandlePhases
import BeeSync.Server.Marks
import BeeSync.Server.OneTransfer
import BeeSync.Server.ServePhases

/-!
# Where both sides stand

The phases of the main task, of the workers, of the control handler and of the data server
tasks, and the server by itself among them.
-/

set_option autoImplicit false

namespace BeeSync.EndToEnd

open Arithmetic Encoding Interaction Server

@[reducible] def Phase : Tid → Type
  | .main => Client.MainPhase
  | .worker _ => Client.WorkerPhase
  | .control => HandlePhase
  | .data _ => TaskPhase

/-- The phase in which a task begins. -/
def begin : (tid : Tid) → Phase tid
  | .main => .starting
  | .worker _ => .waiting
  | .control => .starting
  | .data _ => .unspawned

def Ends : (tid : Tid) → Ctl tid → Phase tid → Prop
  | .main => fun exitCode phase => phase = .ended exitCode
  | .worker _ => fun _ phase => phase = .finished
  | .control => ControlState.Handles
  | .data _ => DataState.Hosts

abbrev Standing := Stance Phase World

section Programs

variable [Blake3] [KeyOrder] (scene : Scene)

def turn : (tid : Tid) → Turns (sig tid) (Phase tid)
  | .main => Client.MainTurn scene.client
  | .worker _ => Client.WorkerTurn
  | .control => HandleTurn scene.server
  | .data _ => TaskTurn

/-- What both sides do, their phases do as well. -/
theorem Scene.moves {faults : Prop} {allowed : Label sig → Prop} {files : Fs FilePath}
    {pool : Pool sig Ctl World}
    (reached : Reaches (scene.system faults) allowed (scene.start files) pool) :
    ∃ phase, Moves (scene.system faults) allowed (turn scene) ⟨begin, (scene.start files).world⟩
        ⟨phase, pool.world⟩ ∧
      ∀ tid, (pool.prog tid).Follows (turn scene tid) (Ends tid) (phase tid) := by
  refine reached.moves (fun tid => ?_) fun tid value rest again phase ended => ?_
  · cases tid with
    | main => exact Client.MainPhase.task_follows scene.reads
    | worker index => exact Client.WorkerPhase.task_follows
    | control => exact HandlePhase.task_follows
    | data task => exact TaskPhase.task_follows
  · cases tid with
    | main => cases again
    | worker index => cases again
    | control => exact HandlePhase.again_follows again ended
    | data task => exact TaskPhase.again_follows again ended

end Programs

/-- The server by itself. -/
def roles (phase : (tid : Tid) → Phase tid) : (role : Role Unit) → role.Phase
  | .control _ => (phase .control).inner
  | .data task => (phase (.data task)).serve.inner

section Roles

variable (phase : (tid : Tid) → Phase tid)

theorem roles_begin : roles begin = Role.begin := by
  funext role
  cases role <;> rfl

@[simp] theorem roles_main (phase' : Client.MainPhase) :
    roles (Function.update phase .main phase') = roles phase := by
  funext role
  cases role <;> simp [roles, Function.update]

@[simp] theorem roles_worker (index : Nat) (phase' : Client.WorkerPhase) :
    roles (Function.update phase (.worker index) phase') = roles phase := by
  funext role
  cases role <;> simp [roles, Function.update]

@[simp] theorem roles_control (phase' : HandlePhase) :
    roles (Function.update phase .control phase') =
      Function.update (roles phase) (.control ()) phase'.inner := by
  funext role
  cases role with
  | control handler => simp [roles]
  | data task => simp [roles]

@[simp] theorem roles_data (task : Nat) (phase' : TaskPhase) :
    roles (Function.update phase (.data task) phase') =
      Function.update (roles phase) (.data task) phase'.serve.inner := by
  funext role
  cases role with
  | control handler => simp [roles]
  | data other =>
      by_cases same : other = task
      · subst same
        simp [roles]
      · rw [Role.update_data_other same]
        simp [roles, same]

end Roles

namespace Scene

section Announcement

variable [Blake3]

/-- The message by which the client announces its file. -/
def hail (scene : Scene) (name : Bytes) : Bytes :=
  Client.encodeHandshake (fromUtf8Lossy name) scene.source.length scene.client.chunkSize
    (calcHash scene.source)

def Greets (scene : Scene) (message : Bytes) : Prop :=
  ∃ name, fileName scene.client.filepath = some name ∧ message = scene.hail name

/-- What the server makes of the announcement. -/
def Announces (scene : Scene) (handshake : HandshakeData) : Prop :=
  ∃ message, scene.Greets message ∧ parseHandshake message = .ok handshake

end Announcement

/-- The number of chunks that is announced to the server. -/
def numChunks (scene : Scene) : Nat :=
  asU32 (Client.numChunks scene.source.length scene.client.chunkSize)

theorem numChunks_lt (scene : Scene) : scene.numChunks < 2 ^ 32 := asU32_lt _

/-- The receiver that the server is to have. -/
def params [Blake3] (scene : Scene) (name : Bytes) : FileReceiver.Params where
  filename := fromUtf8Lossy name
  fileSize := scene.source.length
  chunkSize := scene.client.chunkSize
  numChunks := scene.numChunks
  fullHash := calcHash scene.source
  outputDir := scene.server.outputDir
  partsDir := scene.server.tempDir

/-- A receiver of the file that the client sends. -/
def Describes [Blake3] (scene : Scene) (state : FileReceiver) : Prop :=
  ∃ name, fileName scene.client.filepath = some name ∧ state.params = scene.params name

section Announced

variable [Blake3] {scene : Scene} {handshake : HandshakeData} {state state' : FileReceiver}

theorem Announces.describes (announces : scene.Announces handshake) :
    scene.Describes (handshake.receiver scene.server.outputDir scene.server.tempDir) := by
  obtain ⟨message, ⟨name, named, same⟩, parsed⟩ := announces
  subst same
  obtain ⟨_, safeName, fileSize, chunkSize, numChunks, fullHash⟩ :=
    ReadFrom.of_short (scene.nameFits name named) (fromUtf8Lossy_fromUtf8Lossy name)
      (fileName_isComponent named).decoded scene.sizeFits (parseHandshake_eq_ok_iff.mp parsed)
  have fits : scene.client.chunkSize < 2 ^ 32 := by
    have longer := scene.chunkFits
    omega
  rw [asU32_of_lt fits] at chunkSize
  refine ⟨name, named, ?_⟩
  simp only [FileReceiver.params, HandshakeData.receiver, FileReceiver.new, params, Scene.numChunks,
    safeName, fileSize, chunkSize, numChunks, fullHash]

theorem Announces.numChunks (announces : scene.Announces handshake) :
    handshake.numChunks = scene.numChunks := by
  obtain ⟨_, _, same⟩ := announces.describes
  exact congrArg FileReceiver.Params.numChunks same

theorem Describes.numChunks (describes : scene.Describes state) :
    state.numChunks = scene.numChunks := by
  obtain ⟨_, _, same⟩ := describes
  exact congrArg FileReceiver.Params.numChunks same

theorem Describes.of_params (describes : scene.Describes state) (same : state'.params = state.params) :
    scene.Describes state' := by
  obtain ⟨name, named, described⟩ := describes
  exact ⟨name, named, same.trans described⟩

end Announced

end Scene

end BeeSync.EndToEnd
