import Mathlib.Data.List.Basic

/-!
# Requests and replies over a connection

A connection carries messages one way and the other. Each way is the list of all messages
that have been written to it, with the number of those that have been read. Where one side
asks and the other one answers, they stay in step: the reply that is read next belongs to
the request that was written last.
-/

set_option autoImplicit false

namespace Interaction

/-- One way of a connection. -/
structure Lane (Message : Type) where
  written : List Message
  read : Nat

namespace Lane

variable {Message : Type}

def empty : Lane Message := ⟨[], 0⟩

def write (lane : Lane Message) (message : Message) : Lane Message :=
  { lane with written := lane.written ++ [message] }

def advance (lane : Lane Message) : Lane Message :=
  { lane with read := lane.read + 1 }

/-- The message that is read next. -/
def next (lane : Lane Message) : Option Message := lane.written[lane.read]?

@[simp] theorem write_read (lane : Lane Message) (message : Message) :
    (lane.write message).read = lane.read := rfl

@[simp] theorem length_write (lane : Lane Message) (message : Message) :
    (lane.write message).written.length = lane.written.length + 1 :=
  List.length_append

@[simp] theorem advance_read (lane : Lane Message) : lane.advance.read = lane.read + 1 := rfl

@[simp] theorem advance_written (lane : Lane Message) : lane.advance.written = lane.written := rfl

theorem next_eq_none_iff {lane : Lane Message} :
    lane.next = none ↔ lane.written.length ≤ lane.read :=
  List.getElem?_eq_none_iff

theorem read_lt {lane : Lane Message} {message : Message} (next : lane.next = some message) :
    lane.read < lane.written.length := by
  obtain ⟨inside, _⟩ := List.getElem?_eq_some_iff.mp next
  exact inside

theorem getElem?_write {lane : Lane Message} {message found : Message} {k : Nat}
    (at_ : (lane.write message).written[k]? = some found) :
    lane.written[k]? = some found ∨ k = lane.written.length ∧ found = message := by
  have inside : k < (lane.write message).written.length :=
    (List.getElem?_eq_some_iff.mp at_).1
  rw [length_write] at inside
  by_cases last : k = lane.written.length
  · subst last
    rw [write, List.getElem?_concat_length] at at_
    exact .inr ⟨rfl, (Option.some.inj at_).symm⟩
  · rw [write, List.getElem?_append_left (by omega)] at at_
    exact .inl at_

theorem write_getElem? {lane : Lane Message} {found : Message} {k : Nat}
    (at_ : lane.written[k]? = some found) (message : Message) :
    (lane.write message).written[k]? = some found := by
  have inside : k < lane.written.length := (List.getElem?_eq_some_iff.mp at_).1
  rw [write, List.getElem?_append_left inside]
  exact at_

theorem write_last (lane : Lane Message) (message : Message) :
    (lane.write message).written[lane.written.length]? = some message :=
  List.getElem?_concat_length

end Lane

/-- A connection on which one side asks and the other one answers. -/
structure Exchange (Request Reply : Type) where
  up : Lane Request
  down : Lane Reply

namespace Exchange

variable {Request Reply : Type} {answers answers' : Request → Reply → Prop}
  {exchange : Exchange Request Reply} {request : Request} {reply : Reply}

def empty : Exchange Request Reply := ⟨.empty, .empty⟩

def ask (exchange : Exchange Request Reply) (request : Request) : Exchange Request Reply :=
  { exchange with up := exchange.up.write request }

def take (exchange : Exchange Request Reply) : Exchange Request Reply :=
  { exchange with up := exchange.up.advance }

def answer (exchange : Exchange Request Reply) (reply : Reply) : Exchange Request Reply :=
  { exchange with down := exchange.down.write reply }

def hear (exchange : Exchange Request Reply) : Exchange Request Reply :=
  { exchange with down := exchange.down.advance }

/-- Both sides are in step, and every reply belongs to the request of its position. -/
structure InStep (answers : Request → Reply → Prop) (exchange : Exchange Request Reply) : Prop where
  asked : exchange.up.written.length ≤ exchange.down.read + 1
  heard : exchange.down.read ≤ exchange.down.written.length
  answered : exchange.down.written.length ≤ exchange.up.read
  taken : exchange.up.read ≤ exchange.up.written.length
  matched : ∀ (k : Nat) request reply, exchange.up.written[k]? = some request →
    exchange.down.written[k]? = some reply → answers request reply

/-- The asking side has heard a reply to all it has asked. -/
def Settled (exchange : Exchange Request Reply) : Prop :=
  exchange.up.written.length = exchange.down.read

/-- The asking side has asked and has not heard the reply. -/
def Awaits (exchange : Exchange Request Reply) (request : Request) : Prop :=
  exchange.up.written.length = exchange.down.read + 1 ∧
    exchange.up.written[exchange.down.read]? = some request

/-- The answering side has taken a request and has not answered it. -/
def Owes (exchange : Exchange Request Reply) (request : Request) : Prop :=
  exchange.up.read = exchange.down.written.length + 1 ∧
    exchange.up.written[exchange.down.written.length]? = some request

namespace InStep

theorem empty : InStep answers (.empty : Exchange Request Reply) where
  asked := Nat.zero_le _
  heard := Nat.le_refl _
  answered := Nat.le_refl _
  taken := Nat.le_refl _
  matched _ _ _ missing := by cases missing

theorem mono (inStep : InStep answers exchange)
    (weaker : ∀ request reply, answers request reply → answers' request reply) :
    InStep answers' exchange :=
  ⟨inStep.asked, inStep.heard, inStep.answered, inStep.taken, fun k request reply at_ at_' =>
    weaker request reply (inStep.matched k request reply at_ at_')⟩

theorem ask (inStep : InStep answers exchange) (settled : exchange.Settled) (request : Request) :
    InStep answers (exchange.ask request) ∧ (exchange.ask request).Awaits request := by
  obtain ⟨asked, heard, answered, taken, matched⟩ := inStep
  rw [Settled] at settled
  refine ⟨⟨?_, heard, answered, ?_, fun k request' reply at_ at_' => ?_⟩, ?_, ?_⟩
  · simp [Exchange.ask, settled]
  · simpa [Exchange.ask] using Nat.le_succ_of_le taken
  · obtain earlier | ⟨last, _⟩ := Lane.getElem?_write at_
    · exact matched k request' reply earlier at_'
    · -- the new request has no reply yet
      have inside : k < exchange.down.written.length := (List.getElem?_eq_some_iff.mp at_').1
      omega
  · simp [Exchange.ask, settled]
  · dsimp only [Exchange.ask]
    rw [← settled]
    exact exchange.up.write_last request

theorem take (inStep : InStep answers exchange) (next : exchange.up.next = some request) :
    InStep answers exchange.take ∧ exchange.take.Owes request := by
  obtain ⟨asked, heard, answered, taken, matched⟩ := inStep
  have inside := Lane.read_lt next
  have here : exchange.up.read = exchange.down.written.length := by omega
  refine ⟨⟨asked, heard, Nat.le_succ_of_le answered, inside, matched⟩, ?_, ?_⟩
  · exact congrArg (· + 1) here
  · rw [← show exchange.up.read = exchange.take.down.written.length from here]
    exact next

theorem answer (inStep : InStep answers exchange) (owes : exchange.Owes request)
    (good : answers request reply) : InStep answers (exchange.answer reply) := by
  obtain ⟨asked, heard, answered, taken, matched⟩ := inStep
  obtain ⟨read, last⟩ := owes
  refine ⟨asked, ?_, ?_, taken, fun k request' reply' at_ at_' => ?_⟩
  · simpa [Exchange.answer] using Nat.le_succ_of_le heard
  · simp [Exchange.answer, read]
  · obtain earlier | ⟨same, rfl⟩ := Lane.getElem?_write at_'
    · exact matched k request' reply' at_ earlier
    · subst same
      cases last.symm.trans at_
      exact good

theorem hear (inStep : InStep answers exchange) (next : exchange.down.next = some reply) :
    InStep answers exchange.hear := by
  obtain ⟨asked, heard, answered, taken, matched⟩ := inStep
  exact ⟨Nat.le_succ_of_le asked, Lane.read_lt next, answered, taken, matched⟩

/-- The reply that is heard belongs to the request that is waiting for it. -/
theorem heard_matches (inStep : InStep answers exchange) (awaits : exchange.Awaits request)
    (next : exchange.down.next = some reply) : answers request reply ∧ exchange.hear.Settled :=
  ⟨inStep.matched _ request reply awaits.2 next, awaits.1⟩

end InStep

theorem Owes.ask (owes : exchange.Owes request) (request' : Request) :
    (exchange.ask request').Owes request :=
  ⟨owes.1, Lane.write_getElem? owes.2 request'⟩

theorem Awaits.answer (awaits : exchange.Awaits request) (reply : Reply) :
    (exchange.answer reply).Awaits request :=
  awaits

end Exchange

end Interaction
