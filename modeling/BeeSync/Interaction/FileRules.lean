import BeeSync.Interaction.FileSystem
import BeeSync.Interaction.ThreadPool

/-!
# Rules for writing files

What a whole-file write does, for a thread that may write the file and whose
assertion survives each single call. Other threads may do anything to the store
that the assertion allows. Several writers of the same bytes may write one file.
-/

set_option autoImplicit false

namespace Interaction

open Encoding

variable {Path World : Type} {P : Protocol (FsSig Path) World} {files : World → Fs Path}

theorem putByte_end (content : Bytes) (byte : UInt8) :
    putByte content content.length byte = content ++ [byte] := by
  simp [putByte]

/-- One more byte of what is being written. -/
theorem putByte_take {data : Bytes} {written : Nat} (more : written < data.length) :
    putByte (data.take written) written data[written] = data.take (written + 1) := by
  have length : (data.take written).length = written := by
    rw [List.length_take]
    omega
  have ends := putByte_end (data.take written) data[written]
  rw [length] at ends
  rw [ends, List.take_append_getElem more]

theorem length_putByte (content : Bytes) (offset : Nat) (byte : UInt8) :
    (putByte content offset byte).length = max content.length (offset + 1) := by
  rw [putByte]
  split
  case isTrue inside =>
    rw [List.length_set]
    omega
  case isFalse behind =>
    simp only [List.length_append, List.length_replicate, List.length_singleton]
    omega

theorem getElem?_putByte_self (content : Bytes) (offset : Nat) (byte : UInt8) :
    (putByte content offset byte)[offset]? = some byte := by
  rw [putByte]
  split
  case isTrue inside => exact List.getElem?_set_self inside
  case isFalse behind =>
    have length : (content ++ List.replicate (offset - content.length) 0).length = offset := by
      simp only [List.length_append, List.length_replicate]
      omega
    rw [List.getElem?_append_right length.le, length]
    simp

theorem getElem?_putByte_of_lt {content : Bytes} {offset index : Nat} (byte : UInt8)
    (inside : index < content.length) (different : index ≠ offset) :
    (putByte content offset byte)[index]? = content[index]? := by
  rw [putByte]
  split
  · exact List.getElem?_set_ne different.symm
  · rw [List.append_assoc, List.getElem?_append_left inside]

/-- What a file holds that several writers of the same bytes are writing: the first bytes
are right, and nothing lies behind the end. -/
structure Agrees (data : Bytes) (written : Nat) (content : Bytes) : Prop where
  reached : written ≤ content.length
  within : content.length ≤ data.length
  same : ∀ index < written, content[index]? = data[index]?

namespace Agrees

variable {data content : Bytes} {written : Nat}

theorem nil (data : Bytes) : Agrees data 0 [] := ⟨le_rfl, Nat.zero_le _, nofun⟩

theorem whole (agrees : Agrees data data.length content) : content = data := by
  apply List.ext_getElem?
  intro index
  by_cases inside : index < data.length
  · exact agrees.same index inside
  · have behind := agrees.within.trans (not_lt.mp inside)
    rw [List.getElem?_eq_none behind, List.getElem?_eq_none (not_lt.mp inside)]

theorem write (agrees : Agrees data written content) (offset : Nat) (more : offset < data.length) :
    Agrees data written (putByte content offset data[offset]) := by
  obtain ⟨reached, within, same⟩ := agrees
  constructor
  · rw [length_putByte]
    exact reached.trans (le_max_left _ _)
  · rw [length_putByte]
    exact max_le within more
  · intro index before
    by_cases here : index = offset
    · subst here
      rw [getElem?_putByte_self, List.getElem?_eq_getElem more]
    · rw [getElem?_putByte_of_lt _ (before.trans_le reached) here]
      exact same index before

theorem advance (agrees : Agrees data written content) (more : written < data.length) :
    Agrees data (written + 1) (putByte content written data[written]) := by
  obtain ⟨_, within, same⟩ := agrees.write written more
  refine ⟨?_, within, fun index before => ?_⟩
  · rw [length_putByte]
    exact le_max_right _ _
  · obtain earlier | here := Nat.lt_succ_iff_lt_or_eq.mp before
    · exact same index earlier
    · subst here
      rw [getElem?_putByte_self, List.getElem?_eq_getElem more]

end Agrees

theorem putByte_same {data : Bytes} {offset : Nat} (more : offset < data.length) :
    putByte data offset data[offset] = data := by
  rw [putByte, if_pos more, List.set_getElem_self]

/-- The content of a file, next to an assertion. -/
def Holding (files : World → Fs Path) (kept : World → Prop) (path : Path) (content : Bytes) :
    World → Prop :=
  fun world => kept world ∧ files world path = some content

/-- An assertion under which one thread appends to a file, and what is left of it when a
call fails. -/
structure Appendable (P : Protocol (FsSig Path) World) (files : World → Fs Path)
    (kept failed : World → Prop) (path : Path) : Prop where
  stable_failed : P.Stable failed
  stable_content : ∀ content, P.Stable (Holding files kept path content)
  write : ∀ content byte,
    P.Step (Holding files kept path content) (.writeAt path content.length byte) fun
      | .ok _ => Holding files kept path (content ++ [byte])
      | .error _ => failed

/-- The file can also be created or truncated. -/
structure Writable (P : Protocol (FsSig Path) World) (files : World → Fs Path)
    (kept failed : World → Prop) (path : Path) : Prop
    extends Appendable P files kept failed path where
  stable : P.Stable kept
  create : P.Step kept (.create path) fun
    | .ok _ => Holding files kept path []
    | .error _ => failed

variable {kept failed : World → Prop} {path : Path}

/-- Everything is written behind what is there, or an error stops the writing. -/
theorem Appendable.writeAll (file : Appendable P files kept failed path) (content data : Bytes) :
    Triple P (Holding files kept path content) (writeAll path content.length data) fun
      | .ok _ => Holding files kept path (content ++ data)
      | .error _ => failed := by
  induction data generalizing content with
  | nil =>
      refine .ret (file.stable_content content) fun world _ holds => ?_
      rw [List.append_nil]
      exact holds
  | cons byte rest ih =>
      refine .vis _ (file.stable_content content) (file.write content byte) fun answer => ?_
      cases answer with
      | error error => exact .ret file.stable_failed fun _ _ holds => holds
      | ok _ =>
          have later := ih (content ++ [byte])
          rw [List.length_append, List.length_singleton, List.append_assoc,
            List.singleton_append] at later
          exact later

theorem Runs.writeAll {sem : (op : FsOp Path) → World → op.Res → World → Prop} {path : Path}
    (put : Bytes → World)
    (write : ∀ content byte,
      sem (.writeAt path content.length byte) (put content) (.ok ()) (put (content ++ [byte])))
    (content data : Bytes) : Runs sem (Interaction.writeAll path content.length data) (put content)
      (.ret (.ok ())) (put (content ++ data)) := by
  induction data generalizing content with
  | nil =>
      rw [List.append_nil]
      exact .refl
  | cons byte rest ih =>
      have later := ih (content ++ [byte])
      rw [List.length_append, List.length_singleton, List.append_assoc,
        List.singleton_append] at later
      exact .vis (.ok ()) (write content byte) later

theorem Runs.writeFile {sem : (op : FsOp Path) → World → op.Res → World → Prop} {path : Path}
    {before : World} (put : Bytes → World) (create : sem (.create path) before (.ok ()) (put []))
    (write : ∀ content byte,
      sem (.writeAt path content.length byte) (put content) (.ok ()) (put (content ++ [byte])))
    (data : Bytes) : Runs sem (Interaction.writeFile path data) before (.ret (.ok ())) (put data) :=
  .vis (.ok ()) create (Runs.writeAll put write [] data)

end Interaction
