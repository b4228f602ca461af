import BeeSync.Client.Worker
import BeeSync.Interaction.Phases

/-!
# The phases of a worker

What a worker is about to ask for: the connection, the chunks that the server has, the data
of a chunk, an attempt to send it, the acknowledgment.
-/

set_option autoImplicit false

namespace BeeSync.Client

open Encoding Interaction

/-- A chunk in the hands of a worker, what it was told at the beginning, and what it has got to. -/
structure Round where
  config : WorkerConfig
  already : List Nat
  idx : Nat
  rest : List Nat
  result : WorkerResult

inductive WorkerPhase where
  /-- The task has not been spawned. -/
  | waiting
  | begun (config : WorkerConfig)
  | connecting (config : WorkerConfig)
  | asking (config : WorkerConfig)
  | asked (config : WorkerConfig)
  | between (config : WorkerConfig) (already rest : List Nat) (result : WorkerResult)
  | opening (round : Round) (offset size : Nat)
  | reading (round : Round) (offset size : Nat)
  /-- One attempt is due, and so many more are left. -/
  | attempting (round : Round) (parts : List Bytes) (remaining : Nat)
  | sent (round : Round) (parts : List Bytes) (remaining : Nat)
  | awaiting (round : Round) (parts : List Bytes) (remaining : Nat)
  | failing (round : Round)
  | closing (outcome : Option WorkerResult)
  | finishing (outcome : Option WorkerResult)
  | finished

namespace Round

/-- The chunk counts as delivered. -/
def delivered (round : Round) : WorkerPhase :=
  .between round.config round.already round.rest
    { round.result with okList := round.result.okList ++ [round.idx] }

def failed (round : Round) : WorkerPhase :=
  .between round.config round.already round.rest
    { round.result with failList := round.result.failList ++ [round.idx] }

/-- The attempts that are left. -/
def attempts (round : Round) (parts : List Bytes) : Nat → WorkerPhase
  | 0 => .failing round
  | remaining + 1 => .attempting round parts remaining

end Round

/-- Nothing has been sent, so every chunk has failed. -/
def WorkerConfig.hopeless (config : WorkerConfig) : WorkerPhase :=
  .closing (some ⟨[], config.chunkIndices⟩)

inductive WorkerTurn [Blake3] : Turns WorkerSig WorkerPhase where
  | start (config : WorkerConfig) : WorkerTurn .waiting .start config (.begun config)
  | dismissed {config : WorkerConfig} :
      WorkerTurn (.begun config) .loadShutdown true (.closing (some ⟨[], []⟩))
  | begin_ {config : WorkerConfig} : WorkerTurn (.begun config) .loadShutdown false (.connecting config)
  | connect {config : WorkerConfig} :
      WorkerTurn (.connecting config) (.connect config.host config.port) (.ok ()) (.asking config)
  | unreachable {config : WorkerConfig} (error : IoError) :
      WorkerTurn (.connecting config) (.connect config.host config.port) (.error error) config.hopeless
  | ask {config : WorkerConfig} :
      WorkerTurn (.asking config) (.sendFrame [Chunk.queryMagic]) (.ok ()) (.asked config)
  | mute {config : WorkerConfig} (error : IoError) :
      WorkerTurn (.asking config) (.sendFrame [Chunk.queryMagic]) (.error error) config.hopeless
  | told {config : WorkerConfig} (resp : Bytes) (already : List Nat)
      (parsed : parseReceived resp = some already) :
      WorkerTurn (.asked config) .recvFrame (.ok resp)
        (.between config already config.chunkIndices ⟨[], []⟩)
  | panic {config : WorkerConfig} (resp : Bytes) (parsed : parseReceived resp = none) :
      WorkerTurn (.asked config) .recvFrame (.ok resp) (.closing none)
  | deaf {config : WorkerConfig} (error : IoError) :
      WorkerTurn (.asked config) .recvFrame (.error error) config.hopeless
  | stop {config : WorkerConfig} {already rest : List Nat} {idx : Nat} {result : WorkerResult} :
      WorkerTurn (.between config already (idx :: rest) result) .loadShutdown true
        (.closing (some result))
  | skip {config : WorkerConfig} {already rest : List Nat} {idx : Nat} {result : WorkerResult}
      (known : idx ∈ already) :
      WorkerTurn (.between config already (idx :: rest) result) .loadShutdown false
        (.between config already rest result)
  | outside {config : WorkerConfig} {already rest : List Nat} {idx : Nat} {result : WorkerResult}
      (ranged : chunkRange config.fileSize config.chunkSize idx = none) :
      WorkerTurn (.between config already (idx :: rest) result) .loadShutdown false
        (.between config already rest { result with failList := result.failList ++ [idx] })
  | take {config : WorkerConfig} {already rest : List Nat} {idx offset size : Nat}
      {result : WorkerResult} (unknown : idx ∉ already)
      (ranged : chunkRange config.fileSize config.chunkSize idx = some (offset, size)) :
      WorkerTurn (.between config already (idx :: rest) result) .loadShutdown false
        (.opening ⟨config, already, idx, rest, result⟩ offset size)
  | open_ {round : Round} {offset size : Nat} :
      WorkerTurn (.opening round offset size) (.fs (.openRead round.config.filepath)) (.ok ())
        (.reading round offset size)
  | unopened {round : Round} {offset size : Nat} (error : IoError) :
      WorkerTurn (.opening round offset size) (.fs (.openRead round.config.filepath)) (.error error)
        (.failing round)
  | read {round : Round} {offset size : Nat} (data : Bytes) :
      WorkerTurn (.reading round offset size)
        (.fs (.readAt round.config.filepath offset size)) (.ok data)
        (round.attempts (chunkMessage round.idx offset data) round.config.retries)
  | unread {round : Round} {offset size : Nat} (error : IoError) :
      WorkerTurn (.reading round offset size)
        (.fs (.readAt round.config.filepath offset size)) (.error error) (.failing round)
  | send {round : Round} {parts : List Bytes} {remaining : Nat} :
      WorkerTurn (.attempting round parts remaining) (.sendParts parts) (.ok ())
        (.sent round parts remaining)
  | unsent {round : Round} {parts : List Bytes} {remaining : Nat} (error : IoError) :
      WorkerTurn (.attempting round parts remaining) (.sendParts parts) (.error error)
        (.failing round)
  | interrupted {round : Round} {parts : List Bytes} {remaining : Nat} :
      WorkerTurn (.sent round parts remaining) .loadShutdown true round.delivered
  | wait {round : Round} {parts : List Bytes} {remaining : Nat} :
      WorkerTurn (.sent round parts remaining) .loadShutdown false (.awaiting round parts remaining)
  | acked {round : Round} {parts : List Bytes} {remaining : Nat} (rest : Bytes) :
      WorkerTurn (.awaiting round parts remaining) .recvFrame (.ok (Chunk.ackOk :: rest))
        round.delivered
  | refused {round : Round} {parts : List Bytes} {remaining : Nat} (ack : Bytes)
      (other : ack.head? ≠ some Chunk.ackOk) :
      WorkerTurn (.awaiting round parts remaining) .recvFrame (.ok ack)
        (round.attempts parts remaining)
  | unacked {round : Round} {parts : List Bytes} {remaining : Nat} (error : IoError) :
      WorkerTurn (.awaiting round parts remaining) .recvFrame (.error error) (.failing round)
  | fail {round : Round} : WorkerTurn (.failing round) .storeShutdown () round.failed
  | done {config : WorkerConfig} {already : List Nat} {result : WorkerResult} :
      WorkerTurn (.between config already [] result) .closeStream () (.finishing (some result))
  | close {outcome : Option WorkerResult} :
      WorkerTurn (.closing outcome) .closeStream () (.finishing outcome)
  | finish {outcome : Option WorkerResult} :
      WorkerTurn (.finishing outcome) (.finish outcome) () .finished

namespace WorkerPhase

variable [Blake3]

/-- How the sending of a chunk ends. -/
private def Sent (round : Round) : Except SendError Bool → WorkerPhase → Prop
  | .ok true, phase => phase = round.delivered
  | .ok false, phase | .error _, phase => phase = .failing round

private theorem sendAttempts_follows (round : Round) (parts : List Bytes) (remaining : Nat) :
    (Worker.sendAttempts parts remaining).Follows WorkerTurn (Sent round)
      (round.attempts parts remaining) := by
  induction remaining with
  | zero => exact rfl
  | succ remaining ih =>
      intro sent
      cases sent with
      | error error => exact ⟨_, .unsent error, rfl⟩
      | ok _ =>
          refine ⟨_, .send, fun stopped => ?_⟩
          cases stopped with
          | true => exact ⟨_, .interrupted, rfl⟩
          | false =>
              refine ⟨_, .wait, fun answer => ?_⟩
              cases answer with
              | error error => exact ⟨_, .unacked error, rfl⟩
              | ok ack =>
                  have again : ∀ {error}, ack.head? ≠ some Chunk.ackOk → ∃ phase,
                      WorkerTurn (.awaiting round parts remaining) .recvFrame (.ok ack) phase ∧
                        (if remaining > 0 then Worker.sendAttempts parts remaining
                          else .ret (.error error)).Follows WorkerTurn (Sent round) phase := by
                    intro error other
                    refine ⟨_, .refused ack other, ?_⟩
                    split
                    · exact ih
                    · rename_i none_
                      rw [show remaining = 0 by omega]
                      exact rfl
                  cases ack with
                  | nil => exact again nofun
                  | cons status rest =>
                      by_cases accepted : status = Chunk.ackOk
                      · subst accepted
                        refine ⟨_, .acked rest, ?_⟩
                        simp only [Prog.ret_bind, if_true]
                        exact rfl
                      · simp only [Prog.ret_bind, if_neg accepted]
                        exact again (by simpa using accepted)

private theorem sendChunk_follows (round : Round) (offset size : Nat) :
    (Worker.sendChunk round.config.filepath round.idx offset size round.config.retries).Follows
      WorkerTurn (Sent round) (.opening round offset size) := by
  intro opened
  cases opened with
  | error error => exact ⟨_, .unopened error, rfl⟩
  | ok _ =>
      refine ⟨_, .open_, fun read => ?_⟩
      cases read with
      | error error => exact ⟨_, .unread error, rfl⟩
      | ok data => exact ⟨_, .read data, sendAttempts_follows round _ _⟩

/-- How the loop over the chunks ends: it was told to stop, or no chunk is left. -/
private def Through (config : WorkerConfig) (already : List Nat) (result : WorkerResult)
    (phase : WorkerPhase) : Prop :=
  phase = .closing (some result) ∨ phase = .between config already [] result

private theorem sendChunks_follows (config : WorkerConfig) (already indices : List Nat)
    (result : WorkerResult) :
    (Worker.sendChunks config already indices result).Follows WorkerTurn (Through config already)
      (.between config already indices result) := by
  induction indices generalizing result with
  | nil => exact .inr rfl
  | cons idx rest ih =>
      intro stopped
      cases stopped with
      | true => exact ⟨_, .stop, .inl rfl⟩
      | false =>
          by_cases known : idx ∈ already
          · refine ⟨_, .skip known, ?_⟩
            simp only [Prog.ret_bind, List.contains_eq_mem, known, decide_true, if_true]
            exact ih result
          · simp only [Prog.ret_bind, List.contains_eq_mem, known, decide_false, Bool.false_eq_true,
              if_false]
            cases ranged : chunkRange config.fileSize config.chunkSize idx with
            | none => exact ⟨_, .outside ranged, ih _⟩
            | some range =>
                obtain ⟨offset, size⟩ := range
                let round : Round := ⟨config, already, idx, rest, result⟩
                refine ⟨_, .take known ranged, (sendChunk_follows round offset size).bind ?_⟩
                intro outcome phase reached
                have lost : phase = .failing round → ((Worker.call .storeShutdown).bind fun _ =>
                    Worker.sendChunks config already rest
                      { result with failList := result.failList ++ [idx] }).Follows WorkerTurn
                        (Through config already) phase := by
                  intro failing
                  rw [failing]
                  exact fun _ => ⟨_, .fail, ih _⟩
                cases outcome with
                | error error => exact lost reached
                | ok delivered =>
                    cases delivered with
                    | false => exact lost reached
                    | true =>
                        rw [show phase = round.delivered from reached]
                        exact ih _

theorem worker_follows (config : WorkerConfig) :
    (Worker.worker config).Follows WorkerTurn
      (fun outcome phase => phase = .closing outcome ∨
        ∃ already result, outcome = some result ∧ phase = .between config already [] result)
      (.begun config) := by
  intro stopped
  cases stopped with
  | true => exact ⟨_, .dismissed, .inl rfl⟩
  | false =>
      refine ⟨_, .begin_, fun connected => ?_⟩
      cases connected with
      | error error => exact ⟨_, .unreachable error, .inl rfl⟩
      | ok _ =>
          refine ⟨_, .connect, fun asked => ?_⟩
          cases asked with
          | error error => exact ⟨_, .mute error, .inl rfl⟩
          | ok _ =>
              refine ⟨_, .ask, fun answer => ?_⟩
              cases answer with
              | error error => exact ⟨_, .deaf error, .inl rfl⟩
              | ok resp =>
                  cases parsed : parseReceived resp with
                  | none =>
                      simp only [Prog.ret_bind, parsed]
                      exact ⟨_, .panic resp parsed, .inl rfl⟩
                  | some already =>
                      simp only [Prog.ret_bind, parsed]
                      refine ⟨_, .told resp already parsed, ?_⟩
                      refine (sendChunks_follows config already config.chunkIndices ⟨[], []⟩).bind ?_
                      intro result phase reached
                      obtain closing | between := reached
                      · exact .inl closing
                      · exact .inr ⟨already, result, rfl, between⟩

theorem task_follows :
    Worker.task.Follows WorkerTurn (fun _ phase => phase = .finished) .waiting := by
  refine fun config => ⟨_, .start config, (worker_follows config).bind ?_⟩
  intro outcome phase reached
  obtain closing | ⟨already, result, same, between⟩ := reached
  · rw [closing]
    exact fun _ => ⟨_, .close, fun _ => ⟨_, .finish, rfl⟩⟩
  · rw [between, same]
    exact fun _ => ⟨_, .done, fun _ => ⟨_, .finish, rfl⟩⟩

end WorkerPhase

end BeeSync.Client
