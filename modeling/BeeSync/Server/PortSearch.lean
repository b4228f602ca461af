import BeeSync.Server.Control

/-!
# The search for data ports

`allocate_sockets` as it is written, with one cursor that two nested loops share. The loops
go through the range once, and against any pattern of free ports they find the smallest ones.
-/

set_option autoImplicit false

namespace BeeSync.Server

open Interaction

/-- The counter `port` of `allocate_sockets`: it is at most one behind the last port. -/
structure Cursor where
  port : UInt16
  low : dataPortStart ≤ port.toNat
  high : port.toNat ≤ dataPortEnd + 1

namespace Cursor

def first : Cursor := ⟨UInt16.ofNat dataPortStart, by decide, by decide⟩

theorem add_one_toNat {port : UInt16} (inRange : port.toNat ≤ dataPortEnd) :
    (port + 1).toNat = port.toNat + 1 := by
  rw [UInt16.toNat_add]
  simp only [dataPortEnd] at inRange
  exact Nat.mod_eq_of_lt (by
    rw [UInt16.toNat_one]
    omega)

/-- `port += 1`. -/
def next (cursor : Cursor) (inRange : cursor.port.toNat ≤ dataPortEnd) : Cursor where
  port := cursor.port + 1
  low := by
    rw [add_one_toNat inRange]
    exact cursor.low.trans (Nat.le_succ _)
  high := by
    rw [add_one_toNat inRange]
    exact Nat.succ_le_succ inRange

theorem next_toNat (cursor : Cursor) (inRange : cursor.port.toNat ≤ dataPortEnd) :
    (cursor.next inRange).port.toNat = cursor.port.toNat + 1 :=
  add_one_toNat inRange

/-- The ports that the cursor has not passed. -/
def untried (cursor : Cursor) : List UInt16 :=
  dataPorts.drop (cursor.port.toNat - dataPortStart)

end Cursor

namespace Control

/-- The inner loop `while port <= DATA_PORT_END`: the port it was left with, if any. -/
def searchPort (cursor : Cursor) : ControlProg (Option UInt16 × Cursor) :=
  if inRange : cursor.port.toNat ≤ dataPortEnd then
    (call (.bind cursor.port)).bind fun
      | .ok () => .ret (some cursor.port, cursor.next inRange)
      | .error _ => searchPort (cursor.next inRange)
  else .ret (none, cursor)
termination_by dataPortEnd + 1 - cursor.port.toNat
decreasing_by
  rw [Cursor.next_toNat]
  omega

/-- The outer loop `for _ in 0..num_socks`. -/
def searchPorts : Nat → Cursor → List UInt16 → ControlProg (List UInt16 × Cursor)
  | 0, cursor, sockets => .ret (sockets, cursor)
  | turns + 1, cursor, sockets =>
    (searchPort cursor).bind fun
      | (some port, cursor) => searchPorts turns cursor (sockets ++ [port])
      | (none, cursor) => searchPorts turns cursor sockets

/-- `allocate_sockets` with the cursor of the source. -/
def searchSockets (count maxParallel : Nat) : ControlProg (Except AllocateError (List UInt16)) :=
  let numSocks := min count maxParallel
  (call (.tryReservePorts numSocks)).bind fun
    | false => .ret (.error (.notEnoughPorts numSocks))
    | true => (searchPorts numSocks .first []).bind fun (sockets, _) =>
        if sockets.length < numSocks then
          (call (.dropSockets sockets)).bind fun _ => .ret (.error .rangeExhausted)
        else .ret (.ok sockets)

section Cursors

theorem dataPorts_length : dataPorts.length = totalDataPorts := by
  rw [dataPorts, List.length_map, List.length_range]

theorem Cursor.untried_of_inRange {cursor : Cursor} (inRange : cursor.port.toNat ≤ dataPortEnd) :
    cursor.untried = cursor.port :: (cursor.next inRange).untried := by
  have low := cursor.low
  have position : cursor.port.toNat - dataPortStart < dataPorts.length := by
    rw [dataPorts_length, totalDataPorts]
    omega
  have here : dataPorts[cursor.port.toNat - dataPortStart] = cursor.port := by
    simp only [dataPorts, List.getElem_map, List.getElem_range]
    rw [Nat.add_sub_cancel' low, UInt16.ofNat_toNat]
  rw [Cursor.untried, List.drop_eq_getElem_cons position, here, Cursor.untried, Cursor.next_toNat,
    Nat.sub_add_comm low]

theorem Cursor.untried_of_behind {cursor : Cursor} (behind : ¬ cursor.port.toNat ≤ dataPortEnd) :
    cursor.untried = [] := by
  refine List.drop_eq_nil_of_le ?_
  rw [dataPorts_length]
  simp only [totalDataPorts, dataPortEnd, dataPortStart] at behind ⊢
  omega

theorem Cursor.untried_first : Cursor.first.untried = dataPorts := by
  have start : Cursor.first.port.toNat = dataPortStart := by decide
  rw [Cursor.untried, start, Nat.sub_self, List.drop_zero]

/-- The cursor stands for the list of the ports behind it. -/
theorem bindNext_untried (cursor : Cursor) :
    bindNext cursor.untried = (searchPort cursor).bind fun (found, last) =>
      .ret (found, last.untried) := by
  fun_induction searchPort cursor with
  | case1 cursor inRange ih =>
      rw [Cursor.untried_of_inRange inRange, bindNext, Prog.recover, Prog.bind_assoc]
      refine congrArg _ (funext fun answer => ?_)
      rcases answer with error | ⟨⟩
      · exact ih
      · rfl
  | case2 cursor behind =>
      have nothing := Cursor.untried_of_behind behind
      rw [nothing, bindNext, Prog.ret_bind]
      exact congrArg (fun rest => Prog.ret (none, rest)) nothing.symm

theorem bindLoop_untried (turns : Nat) (cursor : Cursor) (sockets : List UInt16) :
    bindLoop turns cursor.untried sockets =
      (searchPorts turns cursor sockets).bind fun (sockets, _) => .ret sockets := by
  induction turns generalizing cursor sockets with
  | zero => rfl
  | succ turns ih =>
      rw [bindLoop, bindNext_untried, searchPorts, Prog.bind_assoc, Prog.bind_assoc]
      refine congrArg _ (funext fun (found, last) => ?_)
      cases found with
      | none => exact ih last sockets
      | some port => exact ih last (sockets ++ [port])

/-- The nested loops of the source make the requests of the search over the list of ports. -/
theorem searchSockets_eq (count maxParallel : Nat) :
    searchSockets count maxParallel = allocateSockets count maxParallel := by
  rw [searchSockets, allocateSockets]
  refine congrArg _ (funext fun reserved => ?_)
  cases reserved with
  | false => rfl
  | true =>
      dsimp only
      rw [← Cursor.untried_first, bindLoop_untried, Prog.bind_assoc]
      rfl

end Cursors

section Patterns

variable {free : UInt16 → Bool}

/-- The port that a request tries to bind. -/
def triedPort (event : Event ControlSig) : Option UInt16 :=
  match event.op with
  | .bind port => some port
  | _ => none

/-- A port is bound exactly when it is free. -/
def Follows (free : UInt16 → Bool) (event : Event ControlSig) : Prop :=
  ∀ port answer, event = ⟨.bind port, answer⟩ → (answer = .ok () ↔ free port = true)

theorem bindNext_path {untried rest : List UInt16} {found : Option UInt16}
    {events : List (Event ControlSig)}
    (path : Prog.Path (bindNext untried) events (.ret (found, rest)))
    (pattern : ∀ event ∈ events, Follows free event) :
    untried = events.filterMap triedPort ++ rest ∧
      (events.filterMap triedPort).filter free = found.toList ∧ (found = none → rest = []) := by
  induction untried generalizing events with
  | nil =>
      obtain ⟨rfl, same⟩ := path.ret
      cases same
      exact ⟨rfl, rfl, fun _ => rfl⟩
  | cons port behind ih =>
      obtain ⟨answer, later, rfl, answered⟩ := path.vis
      have bound := pattern _ List.mem_cons_self port answer rfl
      rcases answer with error | ⟨⟩
      · have taken : free port = false := by
          rw [← Bool.not_eq_true, ← bound]
          exact nofun
        obtain ⟨split, filtered, ended⟩ :=
          ih answered fun event member => pattern event (List.mem_cons_of_mem _ member)
        have tried : (⟨.bind port, .error error⟩ :: later : List (Event ControlSig)).filterMap
            triedPort = port :: later.filterMap triedPort := rfl
        rw [tried, List.filter_cons_of_neg (by rw [taken]; exact Bool.false_ne_true)]
        exact ⟨congrArg (port :: ·) split, filtered, ended⟩
      · obtain ⟨rfl, same⟩ := answered.ret
        cases same
        have open_ : free port = true := bound.mp rfl
        refine ⟨rfl, ?_, nofun⟩
        exact List.filter_cons_of_pos open_

/-- The loop binds the first free ports, as many as it has turns for. -/
theorem bindLoop_path {turns : Nat} {untried sockets result : List UInt16}
    {events : List (Event ControlSig)}
    (path : Prog.Path (bindLoop turns untried sockets) events (.ret result))
    (pattern : ∀ event ∈ events, Follows free event) :
    events.filterMap triedPort <+: untried ∧
      result = sockets ++ (untried.filter free).take turns := by
  induction turns generalizing untried sockets events with
  | zero =>
      obtain ⟨rfl, same⟩ := path.ret
      cases same
      exact ⟨List.nil_prefix, by rw [List.take_zero, List.append_nil]⟩
  | succ turns ih =>
      obtain ⟨⟨found, rest⟩, first, later, rfl, searched, continued⟩ := path.bind
      obtain ⟨split, filtered, ended⟩ := bindNext_path searched fun event member =>
        pattern event (List.mem_append_left _ member)
      have after : ∀ event ∈ later, Follows free event := fun event member =>
        pattern event (List.mem_append_right _ member)
      rw [List.filterMap_append, split, List.filter_append, filtered]
      cases found with
      | none =>
          obtain ⟨tried, same⟩ := ih continued after
          refine ⟨(List.prefix_append_right_inj _).mpr tried, ?_⟩
          rw [same, ended rfl]
          simp
      | some port =>
          obtain ⟨tried, same⟩ := ih continued after
          refine ⟨(List.prefix_append_right_inj _).mpr tried, ?_⟩
          rw [same, Option.toList_some, List.singleton_append, List.take_succ_cons,
            List.append_assoc, List.singleton_append]

theorem dataPorts_increasing : dataPorts.Pairwise (· < ·) := by
  rw [dataPorts, List.pairwise_map]
  refine List.pairwise_lt_range.imp_of_mem fun inRange inRange' less => ?_
  have small := List.mem_range.mp inRange
  have small' := List.mem_range.mp inRange'
  simp only [totalDataPorts, dataPortEnd, dataPortStart] at small small' ⊢
  rw [UInt16.lt_iff_toNat_lt, UInt16.toNat_ofNat', UInt16.toNat_ofNat']
  omega

theorem searchPort_path {cursor last : Cursor} {found : Option UInt16}
    {events : List (Event ControlSig)}
    (path : Prog.Path (searchPort cursor) events (.ret (found, last))) :
    last.port.toNat = cursor.port.toNat + (events.filterMap triedPort).length := by
  fun_induction searchPort cursor generalizing events with
  | case1 cursor inRange ih =>
      obtain ⟨answer, later, rfl, answered⟩ := path.vis
      have tried : ((⟨.bind cursor.port, answer⟩ :: later).filterMap triedPort).length =
          (later.filterMap triedPort).length + 1 := rfl
      rw [tried]
      rcases answer with error | ⟨⟩
      · have moved := ih answered
        rw [Cursor.next_toNat] at moved
        omega
      · obtain ⟨rfl, same⟩ := answered.ret
        cases same
        rw [Cursor.next_toNat]
        rfl
  | case2 cursor behind =>
      obtain ⟨rfl, same⟩ := path.ret
      cases same
      rfl

/-- The cursor moves by one with every port that is tried. -/
theorem searchPorts_path {turns : Nat} {cursor last : Cursor} {sockets result : List UInt16}
    {events : List (Event ControlSig)}
    (path : Prog.Path (searchPorts turns cursor sockets) events (.ret (result, last))) :
    last.port.toNat = cursor.port.toNat + (events.filterMap triedPort).length := by
  induction turns generalizing cursor sockets events with
  | zero =>
      obtain ⟨rfl, same⟩ := path.ret
      cases same
      rfl
  | succ turns ih =>
      obtain ⟨⟨found, middle⟩, first, later, rfl, searched, continued⟩ := path.bind
      have moved := searchPort_path searched
      rw [List.filterMap_append, List.length_append]
      cases found with
      | none =>
          have rest := ih continued
          omega
      | some port =>
          have rest := ih continued
          omega

/-- What the allocation of a number of ports comes to against a pattern of free ports. -/
structure Finds (free : UInt16 → Bool) (wanted : Nat) (events : List (Event ControlSig))
    (outcome : Except AllocateError (List UInt16)) : Prop where
  succeeds : (∃ sockets, outcome = .ok sockets) ↔ wanted ≤ (dataPorts.filter free).length
  smallest : ∀ sockets, outcome = .ok sockets →
    sockets = (dataPorts.filter free).take wanted ∧ sockets.Pairwise (· < ·)
  tried : events.filterMap triedPort <+: dataPorts ∧ (events.filterMap triedPort).Nodup

theorem allocateSockets_finds {count maxParallel : Nat} {events : List (Event ControlSig)}
    {outcome : Except AllocateError (List UInt16)}
    (path : Prog.Path (allocateSockets count maxParallel) events (.ret outcome))
    (pattern : ∀ event ∈ events, Follows free event)
    (reserved : ⟨.tryReservePorts (min count maxParallel), true⟩ ∈ events) :
    Finds free (min count maxParallel) events outcome := by
  obtain ⟨answer, later, rfl, answered⟩ := path.vis
  cases answer with
  | false =>
      obtain ⟨rfl, _⟩ := answered.ret
      exact absurd reserved (by simp)
  | true =>
      rw [Prog.ret_bind] at answered
      obtain ⟨sockets, searched, last, rfl, looped, ended⟩ := answered.bind
      obtain ⟨tried, same⟩ := bindLoop_path looped fun event member =>
        pattern event (List.mem_cons_of_mem _ (List.mem_append_left _ member))
      rw [List.nil_append] at same
      have ordered : sockets.Pairwise (· < ·) := by
        rw [same]
        exact dataPorts_increasing.sublist ((List.take_sublist _ _).trans List.filter_sublist)
      have few : sockets.length = min (min count maxParallel) (dataPorts.filter free).length := by
        rw [same, List.length_take]
      have distinct : dataPorts.Nodup := dataPorts_increasing.imp UInt16.ne_of_lt
      -- dropping the sockets at the end tries no port
      have quiet : last.filterMap triedPort = [] ∧
          outcome = if sockets.length < min count maxParallel then .error .rangeExhausted
            else .ok sockets := by
        split at ended
        · rename_i short
          obtain ⟨dropped, rest, rfl, returned⟩ := ended.vis
          obtain ⟨rfl, done⟩ := returned.ret
          rw [if_pos short]
          exact ⟨rfl, Prog.ret.inj done⟩
        · rename_i enough
          obtain ⟨rfl, done⟩ := ended.ret
          rw [if_neg enough]
          exact ⟨rfl, Prog.ret.inj done⟩
      have all : (⟨.tryReservePorts (min count maxParallel), true⟩ :: (searched ++ last)).filterMap
          triedPort = searched.filterMap triedPort := by
        have split : (⟨.tryReservePorts (min count maxParallel), true⟩ ::
            (searched ++ last)).filterMap triedPort = (searched ++ last).filterMap triedPort := rfl
        rw [split, List.filterMap_append, quiet.1, List.append_nil]
      rw [quiet.2]
      constructor
      case succeeds =>
        split
        · rename_i short
          exact iff_of_false nofun (by omega)
        · rename_i enough
          exact iff_of_true ⟨sockets, rfl⟩ (by omega)
      case smallest =>
        intro result success
        split at success
        · cases success
        · cases success
          exact ⟨same, ordered⟩
      case tried =>
        rw [all]
        exact ⟨tried, distinct.sublist tried.sublist⟩

/-- The operations of the allocation. -/
def Allocates : ControlOp → Prop
  | .tryReservePorts _ | .bind _ | .dropSockets _ => True
  | _ => False

theorem bindNext_allocates (untried : List UInt16) : (bindNext untried).All Allocates := by
  induction untried with
  | nil => trivial
  | cons port rest ih => exact (Prog.All.call trivial).recover (fun _ => ih) fun _ => trivial

theorem bindLoop_allocates (turns : Nat) (untried sockets : List UInt16) :
    (bindLoop turns untried sockets).All Allocates := by
  induction turns generalizing untried sockets with
  | zero => trivial
  | succ turns ih =>
      refine (bindNext_allocates untried).bind fun (found, rest) => ?_
      cases found with
      | none => exact ih rest sockets
      | some port => exact ih rest (sockets ++ [port])

/-- A pattern answers every operation of the allocation. -/
def Admits (free : UInt16 → Bool) : (op : ControlOp) → op.Res → Prop
  | .bind port, answer => answer = .ok () ↔ free port = true
  | _, _ => True

theorem exists_admitted {op : ControlOp} (allocates : Allocates op) :
    ∃ answer, Admits free op answer := by
  cases op with
  | tryReservePorts count => exact ⟨true, trivial⟩
  | dropSockets ports => exact ⟨(), trivial⟩
  | bind port =>
      cases open_ : free port with
      | true => exact ⟨.ok (), iff_of_true rfl open_⟩
      | false => exact ⟨.error ⟨""⟩, iff_of_false nofun (by rw [open_]; exact Bool.false_ne_true)⟩
  | _ => exact allocates.elim

theorem follows_of_admits {event : Event ControlSig} (admitted : Admits free event.op event.answer) :
    Follows free event := by
  rintro port answer rfl
  exact admitted

/-- Once the ports are reserved the allocation runs to its end. -/
theorem allocateSockets_ends (free : UInt16 → Bool) (count maxParallel : Nat) :
    ∃ events outcome, Prog.Path (allocateSockets count maxParallel) events (.ret outcome) ∧
      (∀ event ∈ events, Follows free event) ∧
        ⟨.tryReservePorts (min count maxParallel), true⟩ ∈ events := by
  have rest : ((bindLoop (min count maxParallel) dataPorts []).bind fun sockets =>
      if sockets.length < min count maxParallel then
        (call (.dropSockets sockets)).bind fun _ =>
          (.ret (.error .rangeExhausted) : ControlProg (Except AllocateError (List UInt16)))
      else .ret (.ok sockets)).All Allocates := by
    refine (bindLoop_allocates _ _ _).bind fun sockets => ?_
    split
    · exact ⟨trivial, fun _ => trivial⟩
    · trivial
  have answers : ∀ op, Allocates op → ∃ answer, Admits free op answer :=
    fun op allocates => exists_admitted allocates
  obtain ⟨events, outcome, path, admitted⟩ := rest.path answers
  have whole : Prog.Path (allocateSockets count maxParallel)
      (⟨.tryReservePorts (min count maxParallel), true⟩ :: events) (.ret outcome) := .cons path
  refine ⟨_, outcome, whole, fun event member => ?_, List.mem_cons_self⟩
  rcases List.mem_cons.mp member with rfl | later
  · exact nofun
  · exact follows_of_admits (admitted event later)

/-- The search ends, finds the smallest free ports, and has tried as many ports as its cursor has
moved. -/
structure SearchesExactly (free : UInt16 → Bool) (count maxParallel : Nat) : Prop where
  ends : ∃ events outcome, Prog.Path (searchSockets count maxParallel) events (.ret outcome) ∧
    (∀ event ∈ events, Follows free event) ∧
      ⟨.tryReservePorts (min count maxParallel), true⟩ ∈ events
  finds : ∀ events outcome, Prog.Path (searchSockets count maxParallel) events (.ret outcome) →
    (∀ event ∈ events, Follows free event) →
      ⟨.tryReservePorts (min count maxParallel), true⟩ ∈ events →
        Finds free (min count maxParallel) events outcome
  cursor : ∀ events sockets last,
    Prog.Path (searchPorts (min count maxParallel) .first []) events (.ret (sockets, last)) →
      last.port.toNat = dataPortStart + (events.filterMap triedPort).length ∧
        last.port.toNat ≤ 46001

/-- The search is exact against every pattern of free ports. -/
theorem searchesExactly (free : UInt16 → Bool) (count maxParallel : Nat) :
    SearchesExactly free count maxParallel := by
  constructor
  case ends =>
    rw [searchSockets_eq]
    exact allocateSockets_ends free count maxParallel
  case finds =>
    intro events outcome path pattern reserved
    rw [searchSockets_eq] at path
    exact allocateSockets_finds path pattern reserved
  case cursor =>
    intro events sockets last path
    exact ⟨searchPorts_path path, last.high⟩

end Patterns

end Control

end BeeSync.Server
