import BeeSync.Server.LateWrites
import BeeSync.Server.PoolRuns

/-!
# The output of a confirmed transfer

Every assembly of a name creates the same output file in place. A file that has been
reported complete stays so only as long as no assembly of the name touches it again, and
it is complete only if nobody else has written it since its own assembly created it.
-/

set_option autoImplicit false

namespace BeeSync.Server

open Encoding Interaction

variable {Handler : Type}

/-- The transfers that share an output file, and whose file it is. -/
structure Publication (Handler : Type) where
  store : Store (Role Handler)
  roster : Roster Handler
  /-- The handler that has created the output file and has been the only one to write it
  since. -/
  maker : Option Handler
  /-- The hash of the last transfer that has been reported successful. -/
  standing : Option Digest

/-- The hash that a transfer has announced. -/
def Store.fullHash {Owner : Type} (store : Store Owner) (receiver : ReceiverId) : Option Digest :=
  (store.receivers receiver).map FileReceiver.fullHash

namespace Publication

def initial (fs : Fs FilePath) : Publication Handler where
  store := .initial fs
  roster := .initial
  maker := none
  standing := none

variable [DecidableEq Handler] (output : FilePath)

def noteMaker (handler : Handler) (op : ControlOp) (answer : op.Res) (before : Option Handler) :
    Option Handler :=
  match op, answer with
  | .fs (.create path), .ok _ => if path = output then some handler else before
  | .fs (.writeAt path _ _), .ok _ =>
      if path = output ∧ before ≠ some handler then none else before
  | _, _ => before

omit [DecidableEq Handler] in
def noteStanding (handler : Handler) (op : ControlOp) (answer : op.Res)
    (publication : Publication Handler) : Option Digest :=
  match op, answer with
  | .sendFrame payload, .ok _ =>
    if payload = [Control.finalStatus true] then
      (publication.roster.begun handler).bind publication.store.fullHash
    else publication.standing
  | _, _ => publication.standing

/-- What is known after a handler has changed the store. -/
def noteControl (handler : Handler) (op : ControlOp) (answer : op.Res)
    (publication : Publication Handler) (store : Store (Role Handler)) : Publication Handler where
  store := store
  roster := publication.roster.noteControl handler op answer
  maker := noteMaker output handler op answer publication.maker
  standing := noteStanding handler op answer publication

/-- Any call on files may fail. -/
def acts : Acts Handler (Publication Handler)
  | .control handler, op, publication, answer, publication' => ∃ store,
      Store.controlSem True (Role.control handler) op publication.store answer store ∧
        publication' = noteControl output handler op answer publication store
  | .data task, op, publication, answer, publication' => ∃ store,
      Store.dataSem True (Role.data task) op publication.store answer store ∧
        publication' = { publication with
          store := store
          roster := publication.roster.noteData task op answer }

omit [DecidableEq Handler] in
/-- Every transfer that the server has accepted so far has this output file. -/
def Shared (publication : Publication Handler) : Prop :=
  ∀ receiver state, publication.store.receivers receiver = some state → state.finalPath = output

omit [DecidableEq Handler] in
/-- The output file has the hash that was confirmed last. -/
def Intact [Blake3] (publication : Publication Handler) : Prop :=
  ∀ digest, publication.standing = some digest →
    ∃ content, publication.store.fs output = some content ∧ calcHash content = digest

omit [DecidableEq Handler] in
/-- After a success no assembly creates or writes the output file, unless it creates an
empty file anew; and success is reported by a handler that has had the output file to itself
from its creation on. -/
def Undisturbed [Blake3] : (role : Role Handler) → (op : role.sig.Op) → Publication Handler →
    role.sig.Res op → Prop
  | .control _, .fs (.create path), publication, .ok _ => path = output →
      publication.standing = none ∨ publication.standing = some (calcHash [])
  | .control _, .fs (.writeAt path _ _), publication, .ok _ => path = output →
      publication.standing = none
  | .control handler, .sendFrame payload, publication, .ok _ =>
      payload = [Control.finalStatus true] → publication.maker = some handler
  | _, _, _, _ => True

omit [DecidableEq Handler] in
/-- A call that changes the output file. -/
inductive Touch : (op : ControlOp) → op.Res → Prop where
  | create : Touch (.fs (.create output)) (.ok ())
  | write (offset : Nat) (byte : UInt8) : Touch (.fs (.writeAt output offset byte)) (.ok ())

end Publication

/-- What an assembly that has had the output file to itself has written to it. -/
def AssemblePhase.Made [Blake3] (state : FileReceiver) (content : Option Bytes) :
    AssemblePhase → Prop
  | .creating => True
  | .checking _ absorbed | .opening _ _ absorbed => content = some absorbed
  | .reading _ _ absorbed copied | .removing _ _ absorbed copied =>
      content = some (absorbed ++ copied)
  | .writing _ _ absorbed copied written _ => content = some (absorbed ++ copied ++ written)
  | .assembled result absorbed => result = .ok true →
      content = some absorbed ∧ calcHash absorbed = state.fullHash

def ControlPhase.Made [Blake3] (fullHash : ReceiverId → Option Digest) (content : Option Bytes) :
    ControlPhase → Prop
  | .assembling _ _ state assembly => assembly.Made state content
  | .reporting _ receiver success => success = true →
      ∃ bytes, content = some bytes ∧ fullHash receiver = some (calcHash bytes)
  | _ => True

section Assembly

variable [Blake3] {state : FileReceiver} {assembly assembly' : AssemblePhase}

/-- An assembly copies what it has read behind what it has written. -/
theorem AssembleTurn.made {op : FsOp FilePath} {answer : op.Res} {fs fs' : Fs FilePath}
    (turned : AssembleTurn state assembly op answer assembly') (acted : op.Sem True fs answer fs')
    (made : op ≠ .create state.finalPath → assembly.Made state (fs state.finalPath)) :
    assembly'.Made state (fs' state.finalPath) := by
  cases turned with
  | create =>
      obtain ⟨_, same⟩ | ⟨_, _, error, fails⟩ := acted
      · rw [same, Function.update_self]
        exact rfl
      · cases fails
  | createFails | missing | openFails | readFails | writeFails | removeFails => simp [AssemblePhase.Made]
  | found | readEnd =>
      rw [acted.1]
      exact made (by simp)
  | open_ | read =>
      rw [acted.1]
      simpa only [AssemblePhase.Made, List.append_nil] using made (by simp)
  | @write idx rest absorbed copied written unwritten byte =>
      have before : fs state.finalPath = some (absorbed ++ copied ++ written) := made (by simp)
      have after : fs' state.finalPath = some (absorbed ++ copied ++ (written ++ [byte])) := by
        obtain ⟨_, same⟩ | ⟨_, _, error, fails⟩ := acted
        · rw [same, Function.update_self, before, Option.map_some, putByte_end]
          simp
        · cases fails
      rw [AssemblePhase.settle]
      split
      · rw [List.append_assoc] at after
        exact after
      · exact after
  | @remove idx rest absorbed copied =>
      have different : state.finalPath ≠ state.partPath idx := (state.partPath_ne_finalPath idx).symm
      exact (acted.frame different).trans (made (by simp))
  | @finish absorbed answer =>
      intro hashed
      have same : fs' state.finalPath = fs state.finalPath :=
        acted.frame state.metaPath_ne_finalPath.symm
      refine ⟨same.trans (made (by simp)), ?_⟩
      simpa using hashed

end Assembly

section Writes

variable [Blake3] {output : FilePath}

omit [Blake3] in
theorem Store.fullHash_of_params {Owner : Type} {store store' : Store Owner} {receiver : ReceiverId}
    (params : (store'.receivers receiver).map FileReceiver.params =
      (store.receivers receiver).map FileReceiver.params) :
    store'.fullHash receiver = store.fullHash receiver := by
  have same := congrArg (Option.map FileReceiver.Params.fullHash) params
  rw [Option.map_map, Option.map_map] at same
  exact same

theorem ControlPhase.Made.congr {phase : ControlPhase} {content : Option Bytes}
    {fullHash fullHash' : ReceiverId → Option Digest} (made : phase.Made fullHash content)
    (same : ∀ receiver, phase.receiver = some receiver → fullHash' receiver = fullHash receiver) :
    phase.Made fullHash' content := by
  cases phase with
  | reporting handshake receiver success =>
      intro successful
      obtain ⟨bytes, there, hashed⟩ := made successful
      exact ⟨bytes, there, (same receiver rfl).trans hashed⟩
  | _ => exact made

omit [Blake3] in
theorem FileReceiver.auxiliary_ne {state : FileReceiver} (shares : state.finalPath = output)
    {path : FilePath} (auxiliary : FileReceiver.Auxiliary state.params path) : output ≠ path := by
  intro same
  rw [← same, ← shares] at auxiliary
  exact lt_irrefl _ auxiliary

omit [Blake3] in
theorem SaveTurn.auxiliary {metadata : TransferMetadata} {state : FileReceiver}
    {phase phase' : SavePhase} {op : FsOp FilePath} {answer : op.Res} {path : FilePath}
    (turned : SaveTurn metadata state.partsDir state.filename phase op answer phase')
    (writes : op.writes path) : FileReceiver.Auxiliary state.params path := by
  obtain same | same := turned.writes writes
  · rw [same]
    exact state.auxiliary_tmpPath
  · rw [same]
    exact state.auxiliary_metaPath

/-- A recovery leaves the output file alone. -/
theorem ResumeTurn.auxiliary [KeyOrder] {state : FileReceiver} {phase phase' : ResumePhase}
    {op : FsOp FilePath} {answer : op.Res} {path : FilePath}
    (turned : ResumeTurn state phase op answer phase') (writes : op.writes path) :
    FileReceiver.Auxiliary state.params path := by
  cases turned with
  | found | absent | unreadable | read | valid | corrupt => cases writes
  | drop | purgePart =>
      cases writes
      exact state.auxiliary_partPath _
  | purge =>
      cases writes
      exact state.auxiliary_metaPath
  | save saving => exact saving.auxiliary writes

/-- A handler touches the output file only by creating and writing it. -/
theorem ControlTurn.touches [KeyOrder] {config : Control.Config} {phase phase' : ControlPhase}
    {op : ControlOp} {answer : op.Res} (turned : ControlTurn config phase op answer phase')
    (shares : ∀ receiver state, phase.holding = some (receiver, state) → state.finalPath = output)
    (writes : op.writes output) :
    op = .fs (.create output) ∨ ∃ offset byte, op = .fs (.writeAt output offset byte) := by
  cases turned with
  | quiet _ op quiet => cases op <;> first | exact absurd writes id | cases quiet
  | check op looks => cases op <;> first | exact absurd writes id | exact looks.elim
  | recover recovering =>
      exact absurd rfl (FileReceiver.auxiliary_ne (shares _ _ rfl) (recovering.auxiliary writes))
  | @build handshake receiver state assembly assembly' op answer building =>
      have shared := shares receiver state rfl
      cases building with
      | create | createFails =>
          cases writes
          exact .inl rfl
      | write | writeFails =>
          cases writes
          exact .inr ⟨_, _, rfl⟩
      | remove | removeFails =>
          exact absurd writes (FileReceiver.auxiliary_ne shared (state.auxiliary_partPath _))
      | finish =>
          exact absurd writes (FileReceiver.auxiliary_ne shared state.auxiliary_metaPath)
      | _ => cases writes
  | _ => cases writes

/-- Success is reported by a handler whose assembly went well, and it is done then. -/
theorem ControlTurn.confirms [KeyOrder] {config : Control.Config} {phase phase' : ControlPhase}
    {payload : Bytes} {answer : Except IoError Unit}
    (turned : ControlTurn config phase (.sendFrame payload) answer phase')
    (confirms : payload = [Control.finalStatus true]) :
    ∃ handshake receiver, phase = .reporting handshake receiver true ∧ phase' = .finished := by
  cases turned with
  | quiet _ _ quiet => cases quiet
  | answer _ _ _ response =>
      rw [confirms] at response
      exact absurd rfl response
  | @report handshake receiver success =>
      cases success with
      | false => cases confirms
      | true => exact ⟨handshake, receiver, rfl, rfl⟩
  | abandon => cases confirms

/-- A data server task writes where it has placed its chunk, and the record. -/
theorem DataTurn.untouched {phase phase' : DataPhase} {op : DataOp} {answer : op.Res}
    (turned : DataTurn phase op answer phase')
    (shares : ∀ receiver state, phase.holding = some (receiver, state) → state.finalPath = output)
    (placed : ∀ receiver chunk path writing, phase = .storing receiver chunk path writing →
      output ≠ path) : ¬ op.writes output := by
  intro writes
  cases turned with
  | idle op quiet => cases op <;> first | exact absurd writes id | cases quiet
  | store writing => exact placed _ _ _ _ rfl (writing.writes writes)
  | save saving =>
      exact absurd rfl (FileReceiver.auxiliary_ne (shares _ _ rfl) (saving.auxiliary writes))
  | _ => exact writes

end Writes

namespace Publication

variable [DecidableEq Handler] [Blake3] {output : FilePath}
  {phase : (role : Role Handler) → role.Phase} {publication : Publication Handler}

structure Sound (output : FilePath) (phase : (role : Role Handler) → role.Phase)
    (publication : Publication Handler) : Prop where
  fits : publication.roster.Fits phase publication.store
  placed : ∀ task receiver chunk path writing,
    phase (.data task) = .storing receiver chunk path writing → output ≠ path
  made : ∀ handler, publication.maker = some handler →
    (phase (.control handler)).Made publication.store.fullHash (publication.store.fs output)
  intact : publication.Intact output

omit [DecidableEq Handler] in
theorem Sound.start (fs : Fs FilePath) : Sound output (@Role.begin Handler) (initial fs) where
  fits := .start fs
  placed _ _ _ _ _ storing := by cases storing
  made _ made := by cases made
  intact _ standing := by cases standing

omit [DecidableEq Handler] in
/-- Whoever holds the lock of a transfer has seen the shared output file. -/
theorem Sound.shares (sound : Sound output phase publication) (shared : publication.Shared output)
    (role : Role Handler) (receiver : ReceiverId) (state : FileReceiver)
    (holds : role.holding (phase role) = some (receiver, state)) : state.finalPath = output :=
  shared receiver state (sound.fits.orderly.held role receiver state holds).2

theorem Sound.data (sound : Sound output phase publication) (shared : publication.Shared output)
    {task : Nat} {op : DataOp} {answer : op.Res} {phase' : DataPhase} {store : Store (Role Handler)}
    (turned : DataTurn (phase (.data task)) op answer phase')
    (acted : Store.dataSem True (Role.data task) op publication.store answer store) :
    Sound output (Function.update phase (.data task) phase') { publication with
      store := store
      roster := publication.roster.noteData task op answer } := by
  have params := sound.fits.orderly.data_params turned acted
  have shares := sound.shares shared (.data task)
  have untouched : ¬ op.writes output := turned.untouched shares (sound.placed task)
  have same : store.fs output = publication.store.fs output :=
    Store.dataSem.frame acted untouched
  constructor
  · exact sound.fits.data turned acted
  · intro other receiver chunk path writing storing
    by_cases here : other = task
    · subst here
      rw [Function.update_self] at storing
      obtain ⟨writing', before⟩ | ⟨state, placing, named⟩ := turned.path storing
      · exact sound.placed other receiver chunk path writing' before
      · have shared := shares receiver state (by rw [placing]; rfl)
        rw [named]
        exact FileReceiver.auxiliary_ne shared (state.auxiliary_partPath _)
    · rw [Role.update_data_other here] at storing
      exact sound.placed other receiver chunk path writing storing
  · intro handler mine
    dsimp only
    rw [Role.update_data_control, same]
    exact (sound.made handler mine).congr fun receiver _ => Store.fullHash_of_params (params receiver)
  · intro digest standing
    dsimp only
    rw [same]
    exact sound.intact digest standing

variable [KeyOrder] {config : Control.Config} {handler : Handler} {op : ControlOp}
  {answer : op.Res} {phase' : ControlPhase} {store : Store (Role Handler)}

/-- A handler that leaves the output file as it is leaves it to its maker. -/
theorem Sound.touch_or_same (sound : Sound output phase publication)
    (shared : publication.Shared output)
    (turned : ControlTurn config (phase (.control handler)) op answer phase')
    (acted : Store.controlSem True (Role.control handler) op publication.store answer store) :
    Touch output op answer ∨ noteMaker output handler op answer publication.maker =
      publication.maker ∧ store.fs output = publication.store.fs output := by
  by_cases writes : op.writes output
  · obtain same | ⟨offset, byte, same⟩ :=
      turned.touches (sound.shares shared (.control handler)) writes
    · subst same
      cases answer with
      | ok _ => exact .inl .create
      | error error =>
          obtain ⟨fs, ⟨fails, _⟩ | ⟨_, unchanged, _⟩, same⟩ := acted
          · cases fails
          · subst same unchanged
            exact .inr ⟨rfl, rfl⟩
    · subst same
      cases answer with
      | ok _ => exact .inl (.write offset byte)
      | error error =>
          obtain ⟨fs, ⟨fails, _⟩ | ⟨_, unchanged, _⟩, same⟩ := acted
          · cases fails
          · subst same unchanged
            exact .inr ⟨rfl, rfl⟩
  · refine .inr ⟨?_, Store.controlSem.frame acted writes⟩
    cases op with
    | fs op =>
        cases op with
        | create path | writeAt path _ _ =>
            have elsewhere : path ≠ output := fun same => writes same.symm
            cases answer with
            | error error => rfl
            | ok _ => simp [noteMaker, elsewhere]
        | _ => rfl
    | _ => rfl

omit [Blake3] [KeyOrder] in
/-- Who has the output file to himself has had it before or has just created it. -/
theorem noteMaker_self {before : Option Handler}
    (mine : noteMaker output handler op answer before = some handler) :
    op = .fs (.create output) ∨ before = some handler := by
  cases op with
  | fs op =>
      cases op with
      | create path =>
          cases answer with
          | error error => exact .inr mine
          | ok _ =>
              dsimp only [noteMaker] at mine
              split at mine
              case isTrue here => exact .inl (by rw [here])
              case isFalse => exact .inr mine
      | writeAt path offset byte =>
          cases answer with
          | error error => exact .inr mine
          | ok _ =>
              dsimp only [noteMaker] at mine
              split at mine
              · cases mine
              · exact .inr mine
      | _ => exact .inr mine
  | _ => exact .inr mine

/-- What a handler that has had the output file to itself knows about it. -/
theorem Sound.makes (sound : Sound output phase publication) (shared : publication.Shared output)
    (turned : ControlTurn config (phase (.control handler)) op answer phase')
    (acted : Store.controlSem True (Role.control handler) op publication.store answer store)
    (mine : noteMaker output handler op answer publication.maker = some handler) :
    phase'.Made store.fullHash (store.fs output) := by
  have made : op ≠ .fs (.create output) → (phase (.control handler)).Made
      publication.store.fullHash (publication.store.fs output) := fun different =>
    sound.made handler ((noteMaker_self mine).resolve_left different)
  have shares := sound.shares shared (.control handler)
  have held := sound.fits.orderly.held (.control handler)
  generalize phase (.control handler) = before at turned made shares held
  cases turned with
  | quiet _ op quiet =>
      have same : store = publication.store := by cases op <;> first | exact acted | cases quiet
      have old : op ≠ .fs (.create output) := by
        intro same
        rw [same] at quiet
        cases quiet
      rw [same]
      exact made old
  | answer _ answers =>
      cases acted
      exact made nofun
  | @build handshake receiver state assembly assembly' op answer building =>
      obtain ⟨fs, called, same⟩ := acted
      subst same
      have final : state.finalPath = output := shares receiver state rfl
      subst final
      exact building.made called fun different => made fun same => different (by cases same; rfl)
  | @built handshake receiver state result absorbed =>
      cases acted
      intro success
      have whole : result = .ok true := by
        cases result with
        | error error => cases success
        | ok result => cases result <;> first | rfl | cases success
      obtain ⟨there, hashed⟩ := made nofun whole
      refine ⟨absorbed, there, ?_⟩
      simp [Store.fullHash, hashed]
  | _ => trivial

/-- A handler that does not have the output file to itself leaves it to whoever has. -/
theorem Sound.makes_other (sound : Sound output phase publication)
    (shared : publication.Shared output)
    (turned : ControlTurn config (phase (.control handler)) op answer phase')
    (acted : Store.controlSem True (Role.control handler) op publication.store answer store)
    {other : Handler} (different : other ≠ handler)
    (theirs : noteMaker output handler op answer publication.maker = some other) :
    publication.maker = some other ∧ store.fs output = publication.store.fs output := by
  obtain touch | ⟨same, untouched⟩ := sound.touch_or_same shared turned acted
  · cases touch with
    | create =>
        dsimp only [noteMaker] at theirs
        rw [if_pos rfl] at theirs
        exact absurd (Option.some.inj theirs).symm different
    | write offset byte =>
        dsimp only [noteMaker] at theirs
        split at theirs
        case isTrue => cases theirs
        case isFalse still =>
          have mine : publication.maker = some handler := by simpa using still
          exact absurd (Option.some.inj (theirs.symm.trans mine)) different
  · exact ⟨same.symm.trans theirs, untouched⟩

/-- What has been confirmed last is in the output file. -/
theorem Sound.stands (sound : Sound output phase publication) (shared : publication.Shared output)
    (turned : ControlTurn config (phase (.control handler)) op answer phase')
    (acted : Store.controlSem True (Role.control handler) op publication.store answer store)
    (undisturbed : Undisturbed output (.control handler) op publication answer) {digest : Digest}
    (standing : noteStanding handler op answer publication = some digest) :
    ∃ content, store.fs output = some content ∧ calcHash content = digest := by
  obtain touch | ⟨_, same⟩ := sound.touch_or_same shared turned acted
  · cases touch with
    | create =>
        obtain ⟨fs, ⟨_, created⟩ | ⟨_, _, error, fails⟩, same⟩ := acted
        · subst same created
          obtain nothing | empty := undisturbed rfl
          · cases nothing.symm.trans standing
          · cases empty.symm.trans standing
            exact ⟨[], Function.update_self _ _ _, rfl⟩
        · cases fails
    | write offset byte => cases (undisturbed rfl).symm.trans standing
  · rw [same]
    cases op with
    | sendFrame payload =>
        cases answer with
        | error error => exact sound.intact digest standing
        | ok _ =>
            dsimp only [noteStanding] at standing
            split at standing
            case isFalse => exact sound.intact digest standing
            case isTrue confirms =>
              obtain ⟨handshake, receiver, reporting, _⟩ := turned.confirms confirms
              have made := sound.made handler (undisturbed confirms)
              have begun := sound.fits.begun handler receiver (by rw [reporting]; rfl)
              rw [reporting] at made
              obtain ⟨content, there, hashed⟩ := made rfl
              rw [begun, Option.bind_some, hashed] at standing
              exact ⟨content, there, Option.some.inj standing⟩
    | _ => exact sound.intact digest standing

theorem Sound.control (sound : Sound output phase publication) (shared : publication.Shared output)
    (turned : ControlTurn config (phase (.control handler)) op answer phase')
    (acted : Store.controlSem True (Role.control handler) op publication.store answer store)
    (undisturbed : Undisturbed output (.control handler) op publication answer) :
    Sound output (Function.update phase (.control handler) phase')
      (noteControl output handler op answer publication store) := by
  constructor
  · exact sound.fits.control turned acted
  · intro task receiver chunk path writing storing
    rw [Role.update_control_data] at storing
    exact sound.placed task receiver chunk path writing storing
  · intro other mine
    by_cases here : other = handler
    · subst here
      rw [Function.update_self]
      exact sound.makes shared turned acted mine
    · obtain ⟨before, same⟩ := sound.makes_other shared turned acted here mine
      dsimp only [noteControl]
      rw [Role.update_control_other here, same]
      refine (sound.made other before).congr fun receiver knows => Store.fullHash_of_params ?_
      have present := sound.fits.orderly.known (.control other) receiver knows
      obtain ⟨state, found⟩ := Option.ne_none_iff_exists'.mp present
      obtain ⟨state', found', params⟩ := sound.fits.orderly.control_grows turned acted found
      rw [found, found', Option.map_some, Option.map_some, params]
  · exact fun digest standing => sound.stands shared turned acted undisturbed standing

omit [DecidableEq Handler] [Blake3] [KeyOrder] in
/-- Transfers keep their output file: if all share it now, they have always done so. -/
theorem Shared.of_params {publication' : Publication Handler} (shared : publication'.Shared output)
    (grows : ∀ receiver state, publication.store.receivers receiver = some state →
      ∃ state', publication'.store.receivers receiver = some state' ∧ state'.params = state.params) :
    publication.Shared output := by
  intro receiver state found
  obtain ⟨state', found', params⟩ := grows receiver state found
  rw [← shared receiver state' found']
  exact congrArg₂ FilePath.mk (congrArg FileReceiver.Params.outputDir params).symm
    (congrArg FileReceiver.Params.filename params).symm

def system (config : Control.Config) (output : FilePath) :
    System (Role Handler) Role.sig Role.Ctl (Publication Handler) :=
  serverSystem config (acts output)

theorem Sound.move {before after : Stance (@Role.Phase Handler) (Publication Handler)}
    (sound : before.world.roster.Fits before.phase before.world.store ∧
      (before.world.Shared output → Sound output before.phase before.world))
    (moved : Move ((system config output).guarded (Undisturbed output)) (fun _ => True)
      (Role.turn config) before after) :
    after.world.roster.Fits after.phase after.world.store ∧
      (after.world.Shared output → Sound output after.phase after.world) := by
  obtain ⟨fits, sound⟩ := sound
  cases moved with
  | @act tid op answer phase' world turned acted permitted =>
      obtain ⟨undisturbed, acted⟩ := acted
      cases tid with
      | control handler =>
          obtain ⟨store, acted, same⟩ := acted
          subst same
          refine ⟨fits.control turned acted, fun shared => ?_⟩
          have before : before.world.Shared output := shared.of_params fun receiver state found =>
            fits.orderly.control_grows turned acted found
          exact (sound before).control before turned acted undisturbed
      | data task =>
          obtain ⟨store, acted, same⟩ := acted
          subst same
          refine ⟨fits.data turned acted, fun shared => ?_⟩
          have before : before.world.Shared output := shared.of_params fun receiver state found => by
            have params := fits.orderly.data_params turned acted receiver
            rwa [found, Option.map_some, Option.map_eq_some_iff] at params
          exact (sound before).data before turned acted

omit [DecidableEq Handler] [KeyOrder] in
/-- An output file that has just been created is empty. -/
theorem not_intact_of_empty {digest : Digest} (standing : publication.standing = some digest)
    (empty : publication.store.fs output = some []) (something : digest ≠ calcHash []) :
    ¬ publication.Intact output := by
  intro intact
  obtain ⟨content, there, hashed⟩ := intact digest standing
  cases empty.symm.trans there
  exact something hashed.symm

end Publication

/-- Among transfers that share their output file: in every run in which no assembly touches the
file after a success, except to create an empty file anew, and each success is reported by a
handler that has had the file to itself since it created it, the file has the hash of the last
transfer that has been reported successful. -/
theorem confirmed_output_intact [DecidableEq Handler] [Blake3] [KeyOrder] (config : Control.Config)
    (fs : Fs FilePath) (output : FilePath)
    {pool : Pool (@Role.sig Handler) Role.Ctl (Publication Handler)}
    (reached : Reaches ((Publication.system config output).guarded
      (Publication.Undisturbed output)) (fun _ => True)
      (serverStart config (Publication.initial fs)) pool) (shared : pool.world.Shared output) :
    pool.world.Intact output := by
  obtain ⟨phase, moved, _⟩ := server_moves config reached
  have sound : pool.world.roster.Fits phase pool.world.store ∧
      (pool.world.Shared output → Publication.Sound output phase pool.world) :=
    moved.invariant (fun stance => stance.world.roster.Fits stance.phase stance.world.store ∧
        (stance.world.Shared output → Publication.Sound output stance.phase stance.world))
      ⟨.start fs, fun _ => .start fs⟩ fun _ _ sound moved => Publication.Sound.move sound moved
  exact (sound.2 shared).intact

section Sample

theorem ControlTurn.finished [Blake3] [KeyOrder] {config : Control.Config}
    {phase phase' : ControlPhase} {op : ControlOp} {answer : op.Res}
    (turned : ControlTurn config phase op answer phase') (done : phase = .finished) :
    phase' = .finished := by
  subst done
  cases turned with
  | quiet | remove => rfl
  | answer _ answers => cases answers

namespace Publication

section Runs

variable [DecidableEq Handler] [Blake3] [KeyOrder] {config : Control.Config} {output : FilePath}
  {handler : Handler} {publication : Publication Handler} {store : Store (Role Handler)}
  {program rest : ControlProg ControlState} {phase : ControlPhase}

omit [DecidableEq Handler] in
theorem noteStanding_unfinished {phase' : ControlPhase} {op : ControlOp} {answer : op.Res}
    (turned : ControlTurn config phase op answer phase') (unfinished : phase' ≠ .finished) :
    noteStanding handler op answer publication = publication.standing := by
  cases op with
  | sendFrame payload =>
      cases answer with
      | error error => rfl
      | ok _ =>
          refine if_neg fun confirms => ?_
          obtain ⟨_, _, _, done⟩ := turned.confirms confirms
          exact unfinished done
  | _ => rfl

variable (output) in
/-- A run of a handler that does not come to its end. -/
theorem runs_handler (guard : (op : ControlOp) → Publication Handler → op.Res → Prop)
    (kept : ControlPhase → Publication Handler → Prop)
    (step : ∀ phase (op : ControlOp) (answer : op.Res) phase' publication store,
      kept phase publication → ControlTurn config phase op answer phase' → phase' ≠ .finished →
        Store.controlSem False (Role.control handler) op publication.store answer store →
          guard op publication answer ∧
            kept phase' (noteControl output handler op answer publication store))
    (follows : program.Follows (ControlTurn config) ControlState.Ends phase)
    (initial : kept phase publication)
    (unfinished : ∀ phase, rest.Follows (ControlTurn config) ControlState.Ends phase →
      phase ≠ .finished)
    (ran : Runs (Store.controlSem False (Role.control handler)) program publication.store rest store) :
    ∃ publication' phase', Runs (fun op before answer after => guard op before answer ∧
        acts output (.control handler) op before answer after) program publication rest publication' ∧
      publication'.store = store ∧ kept phase' publication' ∧
        rest.Follows (ControlTurn config) ControlState.Ends phase' := by
  refine Runs.follow Publication.store kept (fun _ _ _ _ turned done left => ?_) unfinished ?_
    follows initial ran
  · exact done fun earlier => left (turned.finished earlier)
  · intro phase op answer phase' world after holds turned inside acted
    obtain ⟨allowed, holds'⟩ := step phase op answer phase' world after holds turned inside acted
    exact ⟨_, ⟨allowed, after, acted.mono, rfl⟩, rfl, holds'⟩

omit [DecidableEq Handler] in
theorem undisturbed_of_nothing {phase' : ControlPhase} {op : ControlOp} {answer : op.Res}
    (nothing : publication.standing = none)
    (turned : ControlTurn config phase op answer phase') (unfinished : phase' ≠ .finished) :
    Undisturbed output (.control handler) op publication answer := by
  cases op with
  | fs op =>
      cases op with
      | create path =>
          cases answer with
          | error error => trivial
          | ok _ => exact fun _ => .inl nothing
      | writeAt path offset byte =>
          cases answer with
          | error error => trivial
          | ok _ => exact fun _ => nothing
      | _ => trivial
  | sendFrame payload =>
      cases answer with
      | error error => trivial
      | ok _ =>
          intro confirms
          obtain ⟨_, _, _, done⟩ := turned.confirms confirms
          exact absurd done unfinished
  | _ => trivial

/-- A transfer waits for its chunks or is assembled, and its handler has had the output file
to itself. -/
structure Assembles (output : FilePath) (handler : Handler) (receiver : ReceiverId)
    (phase : ControlPhase) (publication : Publication Handler) : Prop where
  nothing : publication.standing = none
  shared : publication.Shared output
  sees : ∀ receiver state, phase.holding = some (receiver, state) → state.finalPath = output
  begun : publication.roster.begun handler = some receiver
  received : ¬ phase.Unserved
  mine : phase.Closing → publication.maker = some handler

omit [Blake3] [KeyOrder] in
theorem noteMaker_mine {op : ControlOp} (answer : op.Res) :
    noteMaker output handler op answer (some handler) = some handler := by
  cases op with
  | fs op =>
      cases op with
      | create | writeAt => cases answer <;> simp [noteMaker]
      | _ => rfl
  | _ => rfl

theorem Assembles.makes {receiver : ReceiverId} {phase' : ControlPhase} {op : ControlOp}
    {answer : op.Res} (assembles : Assembles output handler receiver phase publication)
    (turned : ControlTurn config phase op answer phase')
    (acted : Store.controlSem False (Role.control handler) op publication.store answer store)
    (closing : phase'.Closing) :
    noteMaker output handler op answer publication.maker = some handler := by
  have stays : phase.Closing → noteMaker output handler op answer publication.maker =
      some handler := fun earlier => by rw [assembles.mine earlier, noteMaker_mine]
  have sees := assembles.sees
  cases turned with
  | quiet | answer => exact stays closing
  | built => exact stays trivial
  | @build handshake receiver state assembly assembly' op answer building =>
      cases building with
      | create =>
          dsimp only [noteMaker]
          rw [if_pos (sees receiver state rfl)]
      | createFails =>
          obtain ⟨_, ⟨fails, _⟩ | ⟨impossible, _⟩, _⟩ := acted
          · cases fails
          · exact impossible.elim
      | _ => exact stays trivial
  | _ => cases closing

theorem Assembles.step {receiver : ReceiverId} {phase' : ControlPhase} {op : ControlOp}
    {answer : op.Res} (assembles : Assembles output handler receiver phase publication)
    (turned : ControlTurn config phase op answer phase') (unfinished : phase' ≠ .finished)
    (acted : Store.controlSem False (Role.control handler) op publication.store answer store) :
    Assembles output handler receiver phase'
      (noteControl output handler op answer publication store) := by
  have old : ∀ state, op ≠ .newReceiver state := fun state new =>
    assembles.received (turned.unborn.2 state new).unserved
  have shift := turned.shift
  constructor
  · exact (noteStanding_unfinished turned unfinished).trans assembles.nothing
  · cases op with
    | fs | lock =>
        obtain ⟨_, _, same⟩ := acted
        subst same
        exact assembles.shared
    | unlock other state' =>
        obtain ⟨_, _, state, held, params⟩ := shift
        cases acted
        intro receiver' state'' found
        by_cases here : receiver' = other
        · subst here
          cases (Function.update_self _ _ _).symm.trans found
          rw [← assembles.sees _ _ held]
          exact congrArg₂ FilePath.mk (congrArg FileReceiver.Params.outputDir params)
            (congrArg FileReceiver.Params.filename params)
        · exact assembles.shared receiver' state'' ((Function.update_of_ne here _ _).symm.trans found)
    | newReceiver state => exact absurd rfl (old state)
    | _ =>
        cases acted
        exact assembles.shared
  · intro other state holds
    cases op with
    | lock receiver =>
        cases shift.1.symm.trans holds
        exact assembles.shared _ _ acted.2.1
    | unlock | newReceiver => cases shift.1.symm.trans holds
    | _ => exact assembles.sees other state (shift.1.symm.trans holds)
  · dsimp only [noteControl]
    rw [Roster.noteControl_old answer _ old]
    exact assembles.begun
  · have received := assembles.received
    cases turned with
    | quiet | answer => exact received
    | hear | accept | check | create | resume | recover => exact absurd trivial received
    | _ => exact id
  · exact assembles.makes turned acted

end Runs

/-- The output file of the sample transfers. -/
def sampleOutput : FilePath := singleReceiver.finalPath

/-- A handler accepts a one-byte file and waits for its chunk. -/
theorem reaches_waiting {start pool : Pool (@Role.sig Bool) Role.Ctl (Publication Bool)}
    (handler : Bool) (receiver : ReceiverId) (refused : List UInt16) {untried : List UInt16}
    {port : UInt16} :
    let _ := Blake3.sample
    let _ := KeyOrder.increasing
    Reaches ((system Control.sampleConfig sampleOutput).guarded (Undisturbed sampleOutput))
      (fun _ => True) start pool →
    pool.prog (.control handler) = Control.task Control.sampleConfig →
    pool.world.standing = none → pool.world.store.receivers receiver = none →
    pool.world.store.holder receiver = none → pool.world.store.fs sampleOutput = none →
    pool.world.store.fs singleReceiver.metaPath = none →
    dataPorts = refused ++ port :: untried →
    ∃ pool' handshake, Reaches ((system Control.sampleConfig sampleOutput).guarded
        (Undisturbed sampleOutput)) (fun _ => True) start pool' ∧
      pool'.prog (.control handler) = .ret (.waiting ⟨handshake, receiver, [port]⟩) ∧
      (∀ other, other ≠ .control handler → pool'.prog other = pool.prog other) ∧
      pool'.world.standing = none ∧
      pool'.world.store = (pool.world.store.leave receiver singleReceiver).enlist port receiver := by
  intro _ _ reached fresh nothing absent unlocked missing unrecorded ports
  obtain ⟨handshake, parsed, name, chunks, created⟩ := parseHandshake_sampleHandshake
  have output : sampleOutput = ⟨Control.sampleConfig.outputDir, handshake.safeName⟩ := by
    rw [name]
    rfl
  have reads : Runs (Store.readSem (Role.control handler) Control.sampleHandshake fun _ => True)
      (Control.task Control.sampleConfig) pool.world.store
      (.ret (.waiting ⟨handshake, receiver, [port]⟩))
      ((pool.world.store.leave receiver singleReceiver).enlist port receiver) := by
    rw [← created] at unrecorded ⊢
    rw [output] at missing
    exact Store.runs_handshake_new rfl parsed (by rw [chunks]; rfl) ports absent unlocked missing
      unrecorded trivial (by rw [HandshakeData.receiver, chunks]; rfl)
  have accepts := reads.mono fun _ _ _ _ acted => acted.2
  have waits : ∀ phase, (Prog.ret (.waiting ⟨handshake, receiver, [port]⟩) :
      ControlProg ControlState).Follows (ControlTurn Control.sampleConfig) ControlState.Ends phase →
        phase ≠ .finished := by
    intro phase ended done
    obtain ⟨_, _, serving⟩ := ended
    cases serving.symm.trans done
  obtain ⟨opened, _, runs, stored, nothing, _⟩ := runs_handler sampleOutput
    (Undisturbed sampleOutput (.control handler)) (fun _ world => world.standing = none)
    (fun phase op answer phase' world store nothing turned unfinished _ =>
      ⟨undisturbed_of_nothing nothing turned unfinished,
        (noteStanding_unfinished turned unfinished).trans nothing⟩)
    ControlPhase.task_follows nothing waits accepts
  obtain ⟨pool', reached, step⟩ := reached.alone (.control handler) fresh rfl runs
  refine ⟨pool', handshake, reached, step.prog, step.others, ?_, ?_⟩
  · rw [step.world]
    exact nothing
  · rw [step.world]
    exact stored

/-- Two handlers have received the same one-byte file, and neither has assembled it. -/
theorem reaches_received :
    let _ := Blake3.sample
    let _ := KeyOrder.increasing
    ∃ (pool : Pool (@Role.sig Bool) Role.Ctl (Publication Bool)) (first second : HandshakeData),
      Reaches ((system Control.sampleConfig sampleOutput).guarded (Undisturbed sampleOutput))
        (fun _ => True) (serverStart Control.sampleConfig (initial fun _ => none)) pool ∧
      pool.prog (.control false) = .ret (.waiting ⟨first, 0, [45000]⟩) ∧
      pool.prog (.control true) = .ret (.waiting ⟨second, 1, [45001]⟩) ∧
      pool.world.standing = none ∧ pool.world.Shared sampleOutput ∧
      pool.world.store.Ready 0 (singleReceiver.recorded singleChunk) ∧
      pool.world.store.Ready 1 (singleReceiver.recorded singleChunk) ∧
      pool.world.store.fs (singleReceiver.partPath 0) = some [0x61] ∧
      pool.world.store.fs singleReceiver.metaPath =
        some (singleReceiver.recorded singleChunk).metadata.toBytes := by
  intro _ _
  obtain ⟨untried, ports⟩ := dataPorts_first
  have begun : Reaches ((system Control.sampleConfig sampleOutput).guarded
    (Undisturbed sampleOutput)) (fun _ => True)
    (serverStart Control.sampleConfig (initial fun _ => none : Publication Bool)) _ := .refl
  obtain ⟨pool₁, first, reached, waits, others, nothing, same⟩ :=
    reaches_waiting false 0 [] begun rfl rfl rfl rfl rfl rfl ports
  have second : pool₁.prog (.control true) = Control.task Control.sampleConfig :=
    others _ (by simp)
  obtain ⟨pool₂, second, reached, waits', others', nothing, same'⟩ :=
    reaches_waiting true 1 [45000] reached second nothing (by rw [same]; rfl) (by rw [same]; rfl)
      (by rw [same]; rfl) (by rw [same]; rfl) ports
  have follows : FollowsData (fun (role : Role Bool) op before answer after =>
      Undisturbed sampleOutput role op before answer ∧
        acts sampleOutput role op before answer after) Publication.store
      (fun world => world.standing = none) := fun task op world answer store nothing acted =>
    ⟨_, ⟨trivial, store, acted.mono, rfl⟩, rfl, nothing⟩
  rw [same] at same'
  have store : pool₂.world.store = (((((Store.initial fun _ => none).leave 0 singleReceiver).enlist
      45000 0).leave 1 singleReceiver).enlist 45001 1 : Store (Role Bool)) := same'
  -- both receive the chunk, over a data connection each
  obtain ⟨pool₃, reached, _, others₃, nothing, received⟩ :=
    follows.reaches_chunk 0 45000 reached
      (by rw [others' _ (by simp), others _ (by simp)]; rfl) nothing (by rw [store]; rfl)
      (by rw [store]; exact ⟨rfl, rfl⟩) (carries_singleChunk rfl) rfl
  rw [store] at received
  obtain ⟨pool₄, reached, _, others₄, nothing, received'⟩ :=
    follows.reaches_chunk 1 45001 reached
      (by rw [others₃ _ (by simp), others' _ (by simp), others _ (by simp)]; rfl) nothing
      (by rw [received]; rfl) (by rw [received]; exact ⟨rfl, rfl⟩) (carries_singleChunk rfl) rfl
  rw [received] at received'
  have shared : pool₄.world.store.All fun state => state.finalPath = sampleOutput := by
    have none_ : (Store.initial fun _ => none : Store (Role Bool)).All
        fun state => state.finalPath = sampleOutput := Store.all_initial _ _
    rw [received']
    have accepted := (((none_.leave 0 rfl).enlist 45000 0).leave 1 rfl).enlist 45001 1
    exact (accepted.receive rfl).receive rfl
  refine ⟨pool₄, first, second, reached, ?_, ?_, nothing, shared, ?_, ?_, ?_, ?_⟩
  · rw [others₄ _ (by simp), others₃ _ (by simp), others' _ (by simp)]
    exact waits
  · rw [others₄ _ (by simp), others₃ _ (by simp)]
    exact waits'
  · rw [received']
    exact ⟨rfl, rfl⟩
  · rw [received']
    exact ⟨rfl, rfl⟩
  · rw [received']
    exact Store.receive_partPath
  · rw [received']
    exact Store.receive_metaPath

/-- The first of the two has been assembled and confirmed. -/
theorem reaches_confirmed :
    let _ := Blake3.sample
    let _ := KeyOrder.increasing
    ∃ (pool : Pool (@Role.sig Bool) Role.Ctl (Publication Bool)) (second : HandshakeData),
      Reaches ((system Control.sampleConfig sampleOutput).guarded (Undisturbed sampleOutput))
        (fun _ => True) (serverStart Control.sampleConfig (initial fun _ => none)) pool ∧
      pool.prog (.control true) = .ret (.waiting ⟨second, 1, [45001]⟩) ∧
      pool.world.standing = some (calcHash [0x61]) ∧ pool.world.Shared sampleOutput ∧
      pool.world.store.Ready 1 (singleReceiver.recorded singleChunk) := by
  intro _ _
  obtain ⟨pool, first, second, reached, waits, waits', nothing, shared, ready, ready', part, record⟩ :=
    reaches_received
  let state := singleReceiver.recorded singleChunk
  have assembles : Runs (FsOp.Sem False) (state.assemble 10) pool.world.store.fs
      (.ret (.ok true)) _ :=
    Store.runs_assemble rfl part record nofun (by decide) rfl
  have builds : Runs (Store.controlSem False (Role.control false))
      ((Control.waitForCompletion Control.sampleConfig.reads ⟨first, 0, [45000]⟩).bind
        Control.closing) pool.world.store (Control.reporting ⟨first, 0, [45000]⟩) _ :=
    Store.runs_of_within (Store.runs_reporting ready rfl rfl assembles)
  have reports : ∀ phase, (Control.reporting ⟨first, 0, [45000]⟩).Follows
      (ControlTurn Control.sampleConfig) ControlState.Ends phase →
        ∃ handshake receiver, phase = .reporting handshake receiver true := by
    intro phase follows
    obtain ⟨_, turned, _⟩ := follows (.ok ())
    obtain ⟨handshake, receiver, reporting, _⟩ := turned.confirms rfl
    exact ⟨handshake, receiver, reporting⟩
  obtain ⟨phase, moved, follows⟩ := server_moves Control.sampleConfig reached
  have fits : pool.world.roster.Fits phase pool.world.store :=
    (moved.invariant (fun stance => stance.world.roster.Fits stance.phase stance.world.store ∧
        (stance.world.Shared sampleOutput → Sound sampleOutput stance.phase stance.world))
      ⟨.start _, fun _ => .start _⟩ fun _ _ sound moved => Sound.move sound moved).1
  have ended : (ControlState.waiting ⟨first, 0, [45000]⟩).Ends (phase (.control false)) := by
    have here := follows (.control false)
    rw [waits] at here
    exact here
  obtain ⟨handshake, complete, serving⟩ := id ended
  have initial : Assembles sampleOutput false 0 (phase (.control false)) pool.world := by
    rw [serving]
    refine ⟨nothing, shared, nofun, fits.begun false 0 (by rw [serving]; rfl), id, nofun⟩
  have again : Control.again Control.sampleConfig (.waiting ⟨first, 0, [45000]⟩) = some _ := rfl
  obtain ⟨built, phase', runs, same, assembled, further⟩ := runs_handler sampleOutput
    (Undisturbed sampleOutput (.control false)) (Assembles sampleOutput false 0)
    (fun phase op answer phase' world store assembles turned unfinished acted =>
      ⟨undisturbed_of_nothing assembles.nothing turned unfinished,
        assembles.step turned unfinished acted⟩)
    (ControlPhase.again_follows again ended) initial (fun phase follows done => by
      obtain ⟨_, _, reporting⟩ := reports phase follows
      cases reporting.symm.trans done) builds
  obtain ⟨_, _, reporting⟩ := reports phase' further
  have mine : built.maker = some false := assembled.mine (by rw [reporting]; trivial)
  have send : ((system Control.sampleConfig sampleOutput).guarded (Undisturbed sampleOutput)).sem
      (.control false) (.sendFrame [Control.finalStatus true]) built (.ok ()) _ :=
    ⟨fun _ => mine, built.store, rfl, rfl⟩
  obtain ⟨pool', reached, step⟩ := reached.aloneAgain (.control false) waits rfl rfl
    (runs.trans (.vis (.ok ()) send .refl))
  have present : built.store.receivers = pool.world.store.receivers := by
    rw [same]
    rfl
  refine ⟨pool', second, reached, (step.others _ (by simp)).trans waits', ?_, ?_, ?_⟩
  · rw [step.world]
    have announced : built.store.fullHash 0 = some (calcHash [0x61]) := by
      rw [Store.fullHash, present, ready.found]
      rfl
    have noted : noteStanding false (.sendFrame [Control.finalStatus true]) (.ok ()) built =
        (built.roster.begun false).bind built.store.fullHash := by
      dsimp only [noteStanding]
      rw [if_pos rfl]
    exact noted.trans (by rw [assembled.begun]; exact announced)
  · rw [step.world]
    exact assembled.shared
  · rw [step.world]
    refine ⟨?_, (congrFun present 1).trans ready'.found⟩
    change built.store.holder 1 = none
    rw [same]
    exact ready'.free

end Publication

/-- It has its output. -/
theorem confirmed_output_intact_once :
    let _ := Blake3.sample
    let _ := KeyOrder.increasing
    ∃ pool : Pool (@Role.sig Bool) Role.Ctl (Publication Bool),
      pool.world.standing = some (calcHash [0x61]) ∧
      ∃ content, pool.world.store.fs Publication.sampleOutput = some content ∧
        calcHash content = calcHash [0x61] := by
  intro _ _
  obtain ⟨pool, _, reached, _, standing, shared, _⟩ := Publication.reaches_confirmed
  exact ⟨pool, standing, confirmed_output_intact Control.sampleConfig (fun _ => none)
    Publication.sampleOutput reached shared _ standing⟩

/-- The second handler starts its assembly, which empties the confirmed file. -/
theorem confirmed_output_truncated :
    let _ := Blake3.sample
    let _ := KeyOrder.increasing
    ∃ pool : Pool (@Role.sig Bool) Role.Ctl (Publication Bool),
      Reaches (Publication.system Control.sampleConfig Publication.sampleOutput) (fun _ => True)
        (serverStart Control.sampleConfig (Publication.initial fun _ => none)) pool ∧
      pool.world.Shared Publication.sampleOutput ∧
        ¬ pool.world.Intact Publication.sampleOutput := by
  intro _ _
  obtain ⟨pool, second, reached, waits, standing, shared, ready⟩ := Publication.reaches_confirmed
  have reached := reached.unguarded
  let state := singleReceiver.recorded singleChunk
  have creates : Runs (FsOp.Sem False) (state.assemble 10) pool.world.store.fs _
      (Function.update pool.world.store.fs Publication.sampleOutput (some [])) :=
    .vis (.ok ()) (.inl ⟨rfl, rfl⟩) .refl
  have builds : Runs (Store.controlSem False (Role.control true))
      ((Control.waitForCompletion Control.sampleConfig.reads ⟨second, 1, [45001]⟩).bind
        Control.closing) pool.world.store _ _ :=
    Store.runs_of_within (Store.runs_building ready rfl rfl creates)
  obtain ⟨phase, _, follows⟩ := server_moves Control.sampleConfig reached
  have ended : (ControlState.waiting ⟨second, 1, [45001]⟩).Ends (phase (.control true)) := by
    have here := follows (.control true)
    rw [waits] at here
    exact here
  have again : Control.again Control.sampleConfig (.waiting ⟨second, 1, [45001]⟩) = some _ := rfl
  obtain ⟨built, _, runs, same, standing, _⟩ := Publication.runs_handler Publication.sampleOutput
    (fun _ _ _ => True) (fun _ world => world.standing = some (calcHash [0x61]))
    (fun phase op answer phase' world store standing turned unfinished _ =>
      ⟨trivial, (Publication.noteStanding_unfinished turned unfinished).trans standing⟩)
    (ControlPhase.again_follows again ended) standing (fun phase follows done => by
      subst done
      obtain ⟨_, turned, _⟩ := follows (.ok true)
      cases turned with
      | quiet _ _ quiet => cases quiet) builds
  simp only [true_and] at runs
  obtain ⟨pool', reached, step⟩ := reached.aloneAgain (.control true) waits rfl again runs
  refine ⟨pool', reached, ?_, ?_⟩
  · rw [step.world, Publication.Shared, same]
    exact shared
  · rw [step.world]
    refine Publication.not_intact_of_empty standing ?_ (by decide)
    have emptied : Function.update pool.world.store.fs Publication.sampleOutput (some [])
        Publication.sampleOutput = some [] := Function.update_self _ _ _
    rw [same]
    exact emptied

end Sample

end BeeSync.Server
