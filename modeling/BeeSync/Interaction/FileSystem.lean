import BeeSync.Interaction.Interference
import BeeSync.Encoding.BigEndian
import Mathlib.Logic.Function.Basic

/-!
# A file store as an interface

Regular files under an arbitrary type of paths, at the granularity of system
calls: a whole-file write is a truncation followed by single-byte writes at the
handle's own offset, so another thread or a crash can fall between any two of
them. A handle is identified with the path it was opened at.
-/

set_option autoImplicit false

namespace Interaction

open Encoding

/-- An error reported by the operating system. -/
structure IoError where
  message : String
  deriving DecidableEq, Repr

/-- System calls on regular files. -/
inductive FsOp (Path : Type) where
  | exists_ (path : Path)
  | readFile (path : Path)
  | create (path : Path)
  | writeAt (path : Path) (offset : Nat) (byte : UInt8)
  | openRead (path : Path)
  | readAt (path : Path) (offset limit : Nat)
  | rename (source target : Path)
  | remove (path : Path)
  /-- A read loop that outlived its bound: it never continues. -/
  | stuck

@[reducible] def FsOp.Res {Path : Type} : FsOp Path → Type
  | .exists_ _ => Except IoError Bool
  | .readFile _ => Except IoError Bytes
  | .create _ => Except IoError Unit
  | .writeAt _ _ _ => Except IoError Unit
  | .openRead _ => Except IoError Unit
  | .readAt _ _ _ => Except IoError Bytes
  | .rename _ _ => Except IoError Unit
  | .remove _ => Except IoError Unit
  | .stuck => Empty

/-- Not the call of a read loop that has outlived its bound. -/
def FsOp.Bounded {Path : Type} : FsOp Path → Prop
  | .stuck => False
  | _ => True

/-- Only a call that is not bounded stays without an answer. -/
theorem FsOp.bounded_of_res {Path : Type} {op : FsOp Path} (answer : op.Res) : op.Bounded := by
  cases op with
  | stuck => exact answer.elim
  | _ => trivial

@[reducible] def FsSig (Path : Type) : Sig := ⟨FsOp Path, FsOp.Res⟩

/-- The regular files of a store and their contents. -/
abbrev Fs (Path : Type) := Path → Option Bytes

/-- Programs over a file store. -/
abbrev FsProg (Path α : Type) := Prog (FsSig Path) α

/-- A write at an offset: a gap behind the end of the file reads as zero. -/
def putByte (content : Bytes) (offset : Nat) (byte : UInt8) : Bytes :=
  if offset < content.length then content.set offset byte
  else content ++ List.replicate (offset - content.length) 0 ++ [byte]

/-- What one read may return: at most `limit` bytes from the offset on, and none
only at the end of the file. -/
structure IsPiece (content : Bytes) (offset limit : Nat) (piece : Bytes) : Prop where
  isPrefix : piece <+: content.drop offset
  bounded : piece.length ≤ limit
  atEnd : piece = [] → content.length ≤ offset ∨ limit = 0

theorem IsPiece.within {content piece : Bytes} {offset limit : Nat}
    (isPiece : IsPiece content offset limit piece) (some_ : piece ≠ []) :
    offset + piece.length ≤ content.length := by
  have few := isPiece.isPrefix.length_le
  have positive := List.length_pos_iff.mpr some_
  rw [List.length_drop] at few
  omega

section Semantics

variable {Path : Type} [DecidableEq Path]

/-- How a call acts on the store. With `faults`, any call may also fail and then
leaves the store as it was. -/
def FsOp.Sem (faults : Prop) : (op : FsOp Path) → Fs Path → op.Res → Fs Path → Prop
  | .exists_ path, fs, answer, fs' => fs' = fs ∧
      (answer = .ok (fs path).isSome ∨ faults ∧ ∃ error, answer = .error error)
  | .readFile path, fs, answer, fs' => fs' = fs ∧
      ((∃ content, fs path = some content ∧ answer = .ok content) ∨
        (fs path = none ∨ faults) ∧ ∃ error, answer = .error error)
  | .create path, fs, answer, fs' =>
      (answer = .ok () ∧ fs' = Function.update fs path (some [])) ∨
        (faults ∧ fs' = fs ∧ ∃ error, answer = .error error)
  | .writeAt path offset byte, fs, answer, fs' =>
      (answer = .ok () ∧
        fs' = Function.update fs path ((fs path).map fun content => putByte content offset byte)) ∨
        (faults ∧ fs' = fs ∧ ∃ error, answer = .error error)
  | .openRead path, fs, answer, fs' => fs' = fs ∧
      (((fs path).isSome ∧ answer = .ok ()) ∨
        (fs path = none ∨ faults) ∧ ∃ error, answer = .error error)
  | .readAt path offset limit, fs, answer, fs' => fs' = fs ∧
      ((∃ piece, answer = .ok piece ∧ IsPiece ((fs path).getD []) offset limit piece) ∨
        faults ∧ ∃ error, answer = .error error)
  | .rename source target, fs, answer, fs' =>
      (∃ content, fs source = some content ∧ answer = .ok () ∧
        fs' = Function.update (Function.update fs source none) target (some content)) ∨
        ((fs source = none ∨ faults) ∧ fs' = fs ∧ ∃ error, answer = .error error)
  | .remove path, fs, answer, fs' =>
      ((fs path).isSome ∧ answer = .ok () ∧ fs' = Function.update fs path none) ∨
        ((fs path = none ∨ faults) ∧ fs' = fs ∧ ∃ error, answer = .error error)
  | .stuck, _, answer, _ => nomatch answer

theorem FsOp.Sem.mono {faults faults' : Prop} (wider : faults → faults') {op : FsOp Path}
    {fs fs' : Fs Path} {answer : op.Res} (acted : op.Sem faults fs answer fs') :
    op.Sem faults' fs answer fs' := by
  cases op with
  | exists_ => exact acted.imp_right (Or.imp_right (And.imp_left wider))
  | readFile | openRead => exact acted.imp_right (Or.imp_right (And.imp_left (Or.imp_right wider)))
  | readAt => exact acted.imp_right (Or.imp_right (And.imp_left wider))
  | create | writeAt => exact Or.imp_right (And.imp_left wider) acted
  | rename | remove => exact Or.imp_right (And.imp_left (Or.imp_right wider)) acted
  | stuck => cases answer

/-- The paths a call may change. -/
def FsOp.writes : FsOp Path → Path → Prop
  | .create path, changed => changed = path
  | .writeAt path _ _, changed => changed = path
  | .rename source target, changed => changed = source ∨ changed = target
  | .remove path, changed => changed = path
  | _, _ => False

theorem FsOp.Sem.frame {faults : Prop} {op : FsOp Path} {fs fs' : Fs Path} {answer : op.Res}
    (acted : op.Sem faults fs answer fs') {path : Path} (untouched : ¬ op.writes path) :
    fs' path = fs path := by
  cases op with
  | exists_ | readFile | openRead | readAt => rw [acted.1]
  | create target =>
      rcases acted with ⟨_, rfl⟩ | ⟨_, rfl, _⟩
      · exact Function.update_of_ne untouched _ _
      · rfl
  | writeAt target offset byte =>
      rcases acted with ⟨_, rfl⟩ | ⟨_, rfl, _⟩
      · exact Function.update_of_ne untouched _ _
      · rfl
  | rename source target =>
      simp only [FsOp.writes, not_or] at untouched
      rcases acted with ⟨content, _, _, rfl⟩ | ⟨_, rfl, _⟩
      · rw [Function.update_of_ne untouched.2, Function.update_of_ne untouched.1]
      · rfl
  | remove target =>
      rcases acted with ⟨_, _, rfl⟩ | ⟨_, rfl, _⟩
      · exact Function.update_of_ne untouched _ _
      · rfl
  | stuck => cases answer

end Semantics

section Programs

variable {Path : Type}

/-- The program that makes one call and returns its answer. -/
@[reducible] def FsOp.call (op : FsOp Path) : FsProg Path op.Res :=
  .vis op .ret

/-- `Write::write_all` through a handle at the given offset. -/
def writeAll (path : Path) : Nat → Bytes → FsProg Path (Except IoError Unit)
  | _, [] => .ret (.ok ())
  | offset, byte :: rest =>
      (FsOp.writeAt path offset byte).call.attempt fun _ => writeAll path (offset + 1) rest

/-- `std::fs::write`: create or truncate, then write everything. -/
def writeFile (path : Path) (data : Bytes) : FsProg Path (Except IoError Unit) :=
  (FsOp.create path).call.attempt fun _ => writeAll path 0 data

theorem writeAll_bounded (path : Path) (offset : Nat) (data : Bytes) :
    (writeAll path offset data).All FsOp.Bounded := by
  induction data generalizing offset with
  | nil => trivial
  | cons byte rest ih => exact .attempt ⟨trivial, fun _ => trivial⟩ fun _ => ih (offset + 1)

theorem writeFile_bounded (path : Path) (data : Bytes) :
    (writeFile path data).All FsOp.Bounded :=
  .attempt ⟨trivial, fun _ => trivial⟩ fun _ => writeAll_bounded path 0 data

end Programs

end Interaction
