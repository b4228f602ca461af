import BeeSync.ChunkMessage
import BeeSync.Client.Worker
import BeeSync.Encoding.Checked
import BeeSync.Server.Data

/-!
# The reply to the resume query

`query_received` decodes the indices of a reply with checked reads, up to a count that
comes with the reply. On the answers of `handle_query` it gets the marked chunks, and the
worker skips exactly these. On other replies the count may exceed what is there.
-/

set_option autoImplicit false

namespace BeeSync.Client

open Encoding Interaction

/-- One turn of the loop of `query_received`. -/
def insertIndex (resp : Bytes) (received : Finset Nat) (i : Nat) : Option (Finset Nat) := do
  let idx ← numberAt resp (4 + i * 4) 4
  return insert idx received

/-- The decoding of `query_received` as it is written: nothing stands for a panic. -/
def decodeReceived (resp : Bytes) : Option (Finset Nat) :=
  if resp.length < 4 then some ∅
  else do
    let num ← numberAt resp 0 4
    (List.range num).foldlM (insertIndex resp) ∅

/-- The reply has all the indices it announces, or is too short to announce any. -/
def Intact (resp : Bytes) : Prop :=
  resp.length < 4 ∨ 4 + readBigEndian resp 0 4 * 4 ≤ resp.length

instance (resp : Bytes) : Decidable (Intact resp) :=
  inferInstanceAs (Decidable (_ ∨ _))

/-- The index stands in the reply, at one of the positions for indices. -/
def Encoded (resp : Bytes) (idx : Nat) : Prop :=
  ∃ position, 4 + position * 4 + 4 ≤ resp.length ∧
    idx = ofBigEndian (field resp (4 + position * 4) 4)

section Decoding

variable {resp : Bytes}

theorem insertIndex_of_le {received : Finset Nat} {i : Nat}
    (inside : 4 + i * 4 + 4 ≤ resp.length) :
    insertIndex resp received i = some (insert (receivedIndex resp i) received) := by
  rw [insertIndex, numberAt_of_le inside]
  rfl

theorem insertIndex_of_lt {received : Finset Nat} {i : Nat}
    (outside : resp.length < 4 + i * 4 + 4) : insertIndex resp received i = none := by
  rw [insertIndex, numberAt_of_lt outside (by decide)]
  rfl

theorem foldl_insert (read : Nat → Nat) (positions : List Nat) (received : Finset Nat) :
    positions.foldl (fun received i => insert (read i) received) received =
      received ∪ (positions.map read).toFinset := by
  induction positions generalizing received with
  | nil => simp
  | cons head rest ih =>
      rw [List.foldl_cons, ih, List.map_cons, List.toFinset_cons, Finset.insert_union,
        Finset.union_insert]

/-- The loop ends at the first position that is not there, and reads them all otherwise. -/
theorem decodeReceived_eq (resp : Bytes) :
    decodeReceived resp = (parseReceived resp).map List.toFinset := by
  rw [decodeReceived, parseReceived]
  split
  · rfl
  rename_i header
  dsimp only
  rw [numberAt_of_le (show 0 + 4 ≤ resp.length by omega), Option.bind_eq_bind, Option.bind_some]
  split
  · rename_i short
    -- the first position behind the end is among those that are announced
    have announced : (resp.length - 4) / 4 ∈ List.range (readBigEndian resp 0 4) := by
      rw [List.mem_range]
      omega
    exact foldlM_eq_none announced (fun received => insertIndex_of_lt (by omega)) ∅
  · rename_i complete
    have safe : ∀ received, ∀ i ∈ List.range (readBigEndian resp 0 4),
        insertIndex resp received i = some (insert (receivedIndex resp i) received) := by
      intro received i member
      have inRange := List.mem_range.mp member
      exact insertIndex_of_le (by omega)
    rw [foldlM_eq_some _ safe, foldl_insert, Finset.empty_union]
    rfl

theorem parseReceived_isSome : (parseReceived resp).isSome ↔ Intact resp := by
  rw [parseReceived, Intact]
  split
  · rename_i short
    exact iff_of_true rfl (.inl short)
  · rename_i header
    dsimp only
    split
    · rename_i short
      exact iff_of_false (by simp) (not_or.mpr ⟨header, by omega⟩)
    · rename_i complete
      exact iff_of_true rfl (.inr (by omega))

theorem encoded_of_parseReceived {received : List Nat} (parsed : parseReceived resp = some received)
    {idx : Nat} (member : idx ∈ received) : Encoded resp idx := by
  rw [parseReceived] at parsed
  split at parsed
  · cases parsed
    cases member
  · dsimp only at parsed
    split at parsed
    · cases parsed
    · rename_i complete
      cases parsed
      obtain ⟨position, inRange, rfl⟩ := List.mem_map.mp member
      have announced := List.mem_range.mp inRange
      exact ⟨position, by omega, rfl⟩

end Decoding

namespace Worker

/-- What `query_received` requests when the reply arrives. -/
def queried (resp : Bytes) : List (Event WorkerSig) :=
  [⟨.sendFrame [Chunk.queryMagic], .ok ()⟩, ⟨.recvFrame, .ok resp⟩]

/-- The first requests of a worker that gets its query through. -/
def opened (config : WorkerConfig) (resp : Bytes) : List (Event WorkerSig) :=
  ⟨.loadShutdown, false⟩ :: ⟨.connect config.host config.port, .ok ()⟩ :: queried resp

/-- On a reply, `query_received` ends with these indices and with nothing else. -/
def Gets (resp : Bytes) (indices : List Nat) : Prop :=
  ∀ outcome, Prog.Path queryReceived (queried resp) (.ret outcome) ↔ outcome = some (.ok indices)

/-- `query_received` on a reply: what it returns is a set of indices that stand in the reply,
whichever of the two forms of the decoding is looked at. -/
def AnswersSafely (resp : Bytes) : Prop :=
  ∃ received, decodeReceived resp = some received ∧ (∀ idx ∈ received, Encoded resp idx) ∧
    ∃ indices, indices.toFinset = received ∧ Gets resp indices

theorem queryReceived_path {resp : Bytes} {outcome : Option (Except IoError (List Nat))} :
    Prog.Path queryReceived (queried resp) (.ret outcome) ↔
      outcome = (parseReceived resp).map .ok := by
  constructor
  · intro path
    cases path with
    | cons asked =>
      cases asked with
      | cons heard =>
        simp only [Prog.ret_bind] at heard
        cases parsed : parseReceived resp with
        | none =>
            rw [parsed] at heard
            exact Prog.ret.inj heard.ret.2
        | some received =>
            rw [parsed] at heard
            exact Prog.ret.inj heard.ret.2
  · rintro rfl
    refine .cons (.cons ?_)
    simp only [Prog.ret_bind]
    cases parsed : parseReceived resp with
    | none => exact .nil
    | some received => exact .nil

theorem gets_of_parseReceived {resp : Bytes} {indices : List Nat}
    (parsed : parseReceived resp = some indices) : Gets resp indices := by
  intro outcome
  rw [queryReceived_path, parsed, Option.map_some]

/-- The reply parser is safe exactly on the replies that have what they announce. -/
theorem answersSafely_iff (resp : Bytes) : AnswersSafely resp ↔ Intact resp := by
  constructor
  · rintro ⟨received, decoded, _⟩
    rw [decodeReceived_eq, Option.map_eq_some_iff] at decoded
    obtain ⟨indices, parsed, _⟩ := decoded
    exact parseReceived_isSome.mp (Option.isSome_of_eq_some parsed)
  · intro intact
    obtain ⟨indices, parsed⟩ := Option.isSome_iff_exists.mp (parseReceived_isSome.mpr intact)
    refine ⟨indices.toFinset, ?_, fun idx member => ?_, indices, rfl, gets_of_parseReceived parsed⟩
    · rw [decodeReceived_eq, parsed, Option.map_some]
    · exact encoded_of_parseReceived parsed (List.mem_toFinset.mp member)

/-- A reply that announces an index and ends there makes the worker panic. -/
theorem answersUnsafely_truncated :
    ¬ ∀ resp : Bytes, resp.length ≤ Frame.maxPayload → AnswersSafely resp := by
  intro safe
  obtain ⟨received, decoded, _⟩ := safe [0, 0, 0, 1] (by decide)
  have panics : decodeReceived [0, 0, 0, 1] = none := by decide
  exact nomatch panics.symm.trans decoded

/-- What a turn of the loop does with its chunk: nothing if the server has it, else the chunk
ends up in one of the lists. -/
inductive Turn (already : List Nat) (idx : Nat) (result : WorkerResult) : WorkerResult → Prop where
  | skipped : idx ∈ already → Turn already idx result result
  | delivered : idx ∉ already →
      Turn already idx result { result with okList := result.okList ++ [idx] }
  | failed : idx ∉ already →
      Turn already idx result { result with failList := result.failList ++ [idx] }

theorem Turn.listed {already : List Nat} {idx : Nat} {result next : WorkerResult}
    (turn : Turn already idx result next) (other : Nat) :
    other ∈ next.okList ++ next.failList ↔
      other ∈ result.okList ++ result.failList ∨ other = idx ∧ other ∉ already := by
  cases turn with
  | skipped member =>
      constructor
      · exact .inl
      · rintro (listed | ⟨rfl, outside⟩)
        · exact listed
        · exact absurd member outside
  | delivered outside =>
      simp only [List.mem_append, List.mem_singleton]
      constructor
      · rintro ((listed | rfl) | listed)
        · exact .inl (.inl listed)
        · exact .inr ⟨rfl, outside⟩
        · exact .inl (.inr listed)
      · tauto
  | failed outside =>
      simp only [List.mem_append, List.mem_singleton]
      constructor
      · rintro (listed | listed | rfl)
        · exact .inl (.inl listed)
        · exact .inl (.inr listed)
        · exact .inr ⟨rfl, outside⟩
      · tauto

theorem Turn.okList {already : List Nat} {idx other : Nat} {result next : WorkerResult}
    (turn : Turn already idx result next) (listed : other ∈ next.okList) :
    other = idx ∨ other ∈ result.okList := by
  cases turn with
  | skipped | failed => exact .inr listed
  | delivered => exact (List.mem_append.mp listed).symm.imp_left List.mem_singleton.mp

section Skipping

variable [Blake3]

/-- A turn of the loop ends it when the flag is set, and goes on to the next chunk otherwise. A chunk
that counts as delivered has been sent for. -/
theorem sendChunks_turn {config : WorkerConfig} {already rest : List Nat} {idx : Nat}
    {result outcome : WorkerResult} {events : List (Event WorkerSig)}
    (path : Prog.Path (sendChunks config already (idx :: rest) result) events (.ret outcome)) :
    outcome = result ∧ ⟨.loadShutdown, true⟩ ∈ events ∨
      ∃ next during later, events = during ++ later ∧ Turn already idx result next ∧
        (idx ∈ next.okList → idx ∈ result.okList ∨ ∃ offset size sending,
          chunkRange config.fileSize config.chunkSize idx = some (offset, size) ∧
            sending <:+: during ∧
              Prog.Path (sendChunk config.filepath idx offset size config.retries) sending
                (.ret (.ok true))) ∧
        Prog.Path (sendChunks config already rest next) later (.ret outcome) := by
  obtain ⟨stopped, later, rfl, loaded⟩ := path.vis
  cases stopped with
  | true =>
      obtain ⟨_, same⟩ := loaded.ret
      exact .inl ⟨Prog.ret.inj same, List.mem_cons_self⟩
  | false =>
      right
      rw [Prog.ret_bind] at loaded
      dsimp only at loaded
      split at loaded
      · rename_i marked
        exact ⟨_, [_], later, rfl, .skipped (List.contains_iff_mem.mp marked), .inl, loaded⟩
      rename_i unmarked
      have outside : idx ∉ already := fun member => unmarked (List.contains_iff_mem.mpr member)
      split at loaded
      · exact ⟨_, [_], later, rfl, .failed outside, .inl, loaded⟩
      · rename_i offset size ranged
        obtain ⟨sent, sending, last, rfl, sends, returned⟩ := loaded.bind
        have regroup : ∀ (stored : Event WorkerSig) (last : List (Event WorkerSig)),
            ⟨.loadShutdown, false⟩ :: (sending ++ stored :: last) =
              (⟨.loadShutdown, false⟩ :: sending ++ [stored]) ++ last := by simp
        rcases sent with error | _ | _
        · obtain ⟨_, last, rfl, stored⟩ := returned.vis
          exact ⟨_, _, last, regroup _ last, .failed outside, .inl, stored⟩
        · obtain ⟨_, last, rfl, stored⟩ := returned.vis
          exact ⟨_, _, last, regroup _ last, .failed outside, .inl, stored⟩
        · refine ⟨_, _ :: sending, last, rfl, .delivered outside, fun _ => .inr ?_, returned⟩
          exact ⟨offset, size, sending, ranged, (List.suffix_cons _ _).isInfix, sends⟩

/-- A worker takes up its chunks in their order, all of them unless it is told to stop, and
of those it takes up it skips the ones that the server has. -/
theorem sendChunks_path {config : WorkerConfig} {already indices : List Nat}
    {result outcome : WorkerResult} {events : List (Event WorkerSig)}
    (path : Prog.Path (sendChunks config already indices result) events (.ret outcome)) :
    ∃ taken left, indices = taken ++ left ∧ (left ≠ [] → ⟨.loadShutdown, true⟩ ∈ events) ∧
      ∀ idx, idx ∈ outcome.okList ++ outcome.failList ↔
        idx ∈ result.okList ++ result.failList ∨ idx ∈ taken ∧ idx ∉ already := by
  induction indices generalizing result events with
  | nil =>
      obtain ⟨_, same⟩ := path.ret
      cases same
      exact ⟨[], [], rfl, fun some_ => absurd rfl some_, fun idx => by simp⟩
  | cons head rest ih =>
      obtain ⟨rfl, told⟩ | ⟨next, during, later, rfl, turn, _, continued⟩ := sendChunks_turn path
      · exact ⟨[], head :: rest, rfl, fun _ => told, fun idx => by simp⟩
      · obtain ⟨taken, left, split, told, lists⟩ := ih continued
        refine ⟨head :: taken, left, congrArg (head :: ·) split, fun some_ => ?_, fun idx => ?_⟩
        · exact List.mem_append_right during (told some_)
        · rw [lists, turn.listed, List.mem_cons]
          tauto

end Skipping

def sampleWorker : WorkerConfig where
  host := "localhost"
  port := 45000
  filepath := ascii "f"
  chunkIndices := [0, 1, 2]
  chunkSize := 1
  fileSize := 3
  retries := 1

end Worker

end BeeSync.Client
