import BeeSync.Interaction.Failures
import BeeSync.Server.ResumeOutcome

/-!
# How assembling ends

`assemble` consumes the parts one after the other: at each moment the output holds the first
parts and these are gone. It ends where a part is missing, where a call fails, or with the
verdict on the whole.
-/

set_option autoImplicit false

namespace BeeSync.Server.FileReceiver

open Encoding Interaction

variable {receiver : FileReceiver} {fs : Fs FilePath} {k : Nat}

/-- The content of a part, or nothing if the part is missing. -/
def partBytes (receiver : FileReceiver) (fs : Fs FilePath) (index : Nat) : Bytes :=
  (fs (receiver.partPath index)).getD []

/-- The first parts in index order, one behind the other. -/
def joined (receiver : FileReceiver) (fs : Fs FilePath) (count : Nat) : Bytes :=
  ((List.range count).map (receiver.partBytes fs)).flatten

theorem joined_zero : receiver.joined fs 0 = [] := rfl

theorem joined_succ (k : Nat) :
    receiver.joined fs (k + 1) = receiver.joined fs k ++ receiver.partBytes fs k := by
  simp [joined, List.range_succ]

/-- The first parts are there. -/
def HasParts (receiver : FileReceiver) (fs : Fs FilePath) (count : Nat) : Prop :=
  ∀ index < count, (fs (receiver.partPath index)).isSome

theorem not_hasParts {count index : Nat} (before : index < count)
    (absent : fs (receiver.partPath index) = none) : ¬ receiver.HasParts fs count := by
  intro all
  have found := all index before
  rw [absent] at found
  cases found

/-- The files once the first parts have been consumed, with a given output. -/
noncomputable def consuming (receiver : FileReceiver) (fs : Fs FilePath) (count : Nat)
    (output : Bytes) : Fs FilePath :=
  Function.update (fs.without (receiver.partPath '' {index | index < count})) receiver.finalPath
    (some output)

theorem consuming_zero (output : Bytes) :
    receiver.consuming fs 0 output = Function.update fs receiver.finalPath (some output) := by
  simp [consuming]

theorem consuming_finalPath (output : Bytes) :
    receiver.consuming fs k output receiver.finalPath = some output :=
  Function.update_self ..

theorem consuming_partPath {index : Nat} (output : Bytes) (later : k ≤ index) :
    receiver.consuming fs k output (receiver.partPath index) = fs (receiver.partPath index) := by
  rw [consuming, Function.update_of_ne (receiver.partPath_ne_finalPath index)]
  apply Fs.without_of_notMem
  intro ⟨other, before, same⟩
  have here : other = index := receiver.partPath_injective same
  rw [here] at before
  exact absurd later (not_le.mpr before)

theorem consuming_partPath_of_lt {index : Nat} (output : Bytes) (earlier : index < k) :
    receiver.consuming fs k output (receiver.partPath index) = none := by
  rw [consuming, Function.update_of_ne (receiver.partPath_ne_finalPath index)]
  exact Fs.without_of_mem ⟨index, earlier, rfl⟩

theorem update_consuming (output output' : Bytes) :
    Function.update (receiver.consuming fs k output) receiver.finalPath (some output') =
      receiver.consuming fs k output' :=
  Function.update_idem ..

theorem consuming_remove (output : Bytes) :
    (receiver.consuming fs k output).without {receiver.partPath k} =
      receiver.consuming fs (k + 1) output := by
  rw [← Fs.update_none, consuming,
    Function.update_comm (receiver.partPath_ne_finalPath k).symm, Fs.update_none,
    Fs.without_without, ← Set.image_singleton, ← Set.image_union, consuming]
  congr 3
  ext index
  simp only [Set.mem_union, Set.mem_singleton_iff, Set.mem_ofPred_eq]
  omega

theorem consuming_remove_meta (output : Bytes) :
    (receiver.consuming fs receiver.numChunks output).without {receiver.metaPath} =
      Function.update (fs.without receiver.purged) receiver.finalPath (some output) := by
  rw [← Fs.update_none, consuming, Function.update_comm receiver.metaPath_ne_finalPath.symm,
    Fs.update_none, Fs.without_without, Set.union_singleton]
  rfl

/-- A call that fails while a part is consumed, and what had been copied of the part. -/
inductive Interrupts (receiver : FileReceiver) (fs : Fs FilePath) (k : Nat) :
    FsOp FilePath → Bytes → Prop where
  | exists_ : Interrupts receiver fs k (.exists_ (receiver.partPath k)) []
  | openRead : Interrupts receiver fs k (.openRead (receiver.partPath k)) []
  | readAt {count : Nat} (inside : count ≤ (receiver.partBytes fs k).length) :
      Interrupts receiver fs k (.readAt (receiver.partPath k) count bufferSize)
        ((receiver.partBytes fs k).take count)
  | writeAt {count : Nat} (byte : UInt8) (inside : count < (receiver.partBytes fs k).length) :
      Interrupts receiver fs k
        (.writeAt receiver.finalPath ((receiver.joined fs k).length + count) byte)
        ((receiver.partBytes fs k).take count)
  | remove : Interrupts receiver fs k (.remove (receiver.partPath k)) (receiver.partBytes fs k)

/-- How the copying of a part ends. -/
def CopyEnds (receiver : FileReceiver) (fs : Fs FilePath) (k : Nat) :
    Except IoError (Nat × Hasher) → Watched FilePath → Prop
  | .ok (written, hasher), world =>
    written = (receiver.joined fs (k + 1)).length ∧ hasher = ⟨receiver.joined fs (k + 1)⟩ ∧
      world = ⟨receiver.consuming fs k (receiver.joined fs (k + 1)), none⟩
  | .error _, world => ∃ call copied, Interrupts receiver fs k call copied ∧
      world = ⟨receiver.consuming fs k (receiver.joined fs k ++ copied), some call⟩

theorem ensures_copyPart (remaining offset : Nat)
    (progress : (receiver.partBytes fs k).length < remaining + offset)
    (inside : offset ≤ (receiver.partBytes fs k).length) {output : Bytes}
    (copied : output = receiver.joined fs k ++ (receiver.partBytes fs k).take offset) :
    Ensures FsOp.Watch
      (copyPart receiver.finalPath (receiver.partPath k) remaining offset output.length ⟨output⟩)
      (CopyEnds receiver fs k) ⟨receiver.consuming fs k output, none⟩ := by
  induction remaining generalizing offset output with
  | zero => omega
  | succ remaining ih =>
      have bounded : (FsOp.readAt (receiver.partPath k) offset bufferSize).Bounded := trivial
      apply Ensures.watched bounded
      · intro answer files acted
        obtain ⟨same, ⟨piece, answered, isPiece⟩ | ⟨fault, _⟩⟩ := acted
        · rw [consuming_partPath _ le_rfl] at isPiece
          have content : IsPiece (receiver.partBytes fs k) offset bufferSize piece := isPiece
          rw [answered, same]
          by_cases last : piece.length = 0
          · have atEnd := (content.atEnd (List.eq_nil_of_length_eq_zero last)).resolve_right
              (by decide)
            have all : output = receiver.joined fs (k + 1) := by
              rw [copied, List.take_of_length_le atEnd, joined_succ]
            simp only [if_pos last]
            subst all
            exact ⟨rfl, rfl, rfl⟩
          · simp only [if_neg last]
            have taken := List.prefix_iff_eq_take.mp content.isPrefix
            have bound := content.isPrefix.length_le
            rw [List.length_drop] at bound
            have write : Ensures FsOp.Watch (writeAll receiver.finalPath output.length piece)
                (Appended receiver.finalPath (receiver.consuming fs k output) none output piece)
                ⟨Function.update (receiver.consuming fs k output) receiver.finalPath (some output),
                  none⟩ := .appended output piece
            rw [update_consuming] at write
            apply write.attempt
            · intro error world reached
              obtain ⟨count, byte, short, same⟩ := reached
              refine ⟨_, (receiver.partBytes fs k).take (offset + count),
                .writeAt byte (by omega), ?_⟩
              rw [same, update_consuming, copied, List.append_assoc, List.length_append,
                List.length_take_of_le inside, Nat.add_assoc, List.take_add]
              congr 4
              rw [taken, List.take_take, min_eq_left short.le]
            · intro _ world reached
              have advanced : output ++ piece = receiver.joined fs k ++
                  (receiver.partBytes fs k).take (offset + piece.length) := by
                rw [copied, List.append_assoc, List.take_add, ← taken]
              have later := ih (offset + piece.length) (by omega) (by omega) advanced
              rw [reached, update_consuming]
              rw [List.length_append] at later
              exact later
        · exact fault.elim
      · intro answer errs
        obtain ⟨error, rfl⟩ := errs
        exact ⟨_, _, .readAt inside, by rw [copied]; rfl⟩

variable [Blake3]

/-- How assembling ends: the result, and the files and the call that failed. -/
inductive Assembly (receiver : FileReceiver) (fs : Fs FilePath) :
    Except IoError Bool → Watched FilePath → Prop where
  | refused (error : IoError) :
      Assembly receiver fs (.error error) ⟨fs, some (.create receiver.finalPath)⟩
  | missing {k : Nat} (inRange : k < receiver.numChunks) (before : receiver.HasParts fs k)
      (absent : fs (receiver.partPath k) = none) :
      Assembly receiver fs (.ok false) ⟨receiver.consuming fs k (receiver.joined fs k), none⟩
  | interrupted {k : Nat} {call : FsOp FilePath} {copied : Bytes} {result : Except IoError Bool}
      (inRange : k < receiver.numChunks) (before : receiver.HasParts fs k)
      (interrupts : Interrupts receiver fs k call copied) (unfinished : result ≠ .ok true) :
      Assembly receiver fs result
        ⟨receiver.consuming fs k (receiver.joined fs k ++ copied), some call⟩
  | finished (all : receiver.HasParts fs receiver.numChunks) :
      Assembly receiver fs
        (.ok (decide (calcHash (receiver.joined fs receiver.numChunks) = receiver.fullHash)))
        ⟨Function.update (fs.without receiver.purged) receiver.finalPath
          (some (receiver.joined fs receiver.numChunks)), none⟩
  | metaKept (all : receiver.HasParts fs receiver.numChunks) :
      Assembly receiver fs
        (.ok (decide (calcHash (receiver.joined fs receiver.numChunks) = receiver.fullHash)))
        ⟨receiver.consuming fs receiver.numChunks (receiver.joined fs receiver.numChunks),
          some (.remove receiver.metaPath)⟩

variable {reads : Nat}

/-- A part that is there: it is copied and removed, and then the next parts follow. -/
theorem ensures_consumePart
    (enough : ∀ index < receiver.numChunks, (receiver.partBytes fs index).length < reads)
    (inRange : k < receiver.numChunks) (before : receiver.HasParts fs k)
    (found : (fs (receiver.partPath k)).isSome) {rest : List Nat}
    (later : receiver.HasParts fs (k + 1) → Ensures FsOp.Watch
      (receiver.assembleParts reads rest (receiver.joined fs (k + 1)).length
        ⟨receiver.joined fs (k + 1)⟩)
      (Assembly receiver fs)
      ⟨receiver.consuming fs (k + 1) (receiver.joined fs (k + 1)), none⟩) :
    Ensures FsOp.Watch
      ((FsOp.openRead (receiver.partPath k)).call.attempt fun _ =>
        (copyPart receiver.finalPath (receiver.partPath k) reads 0 (receiver.joined fs k).length
          ⟨receiver.joined fs k⟩).attempt fun (written, hasher) =>
            (FsOp.remove (receiver.partPath k)).call.attempt fun _ =>
              receiver.assembleParts reads rest written hasher)
      (Assembly receiver fs) ⟨receiver.consuming fs k (receiver.joined fs k), none⟩ := by
  have before' : receiver.HasParts fs (k + 1) := by
    intro index inside
    obtain earlier | rfl := Nat.lt_succ_iff_lt_or_eq.mp inside
    · exact before index earlier
    · exact found
  have opening : (FsOp.openRead (receiver.partPath k)).Bounded := trivial
  apply Ensures.watched opening
  · intro answer files acted
    obtain ⟨same, ⟨_, answered⟩ | ⟨absent, _⟩⟩ := acted
    · rw [answered, same]
      have copy : Ensures FsOp.Watch
          (copyPart receiver.finalPath (receiver.partPath k) reads 0 (receiver.joined fs k).length
            ⟨receiver.joined fs k⟩)
          (CopyEnds receiver fs k) ⟨receiver.consuming fs k (receiver.joined fs k), none⟩ :=
        ensures_copyPart reads 0 (by simpa using enough k inRange) (Nat.zero_le _)
          (List.append_nil (receiver.joined fs k)).symm
      apply copy.attempt
      · intro error world reached
        obtain ⟨call, copied, interrupts, same⟩ := reached
        rw [same]
        exact .interrupted inRange before interrupts nofun
      · intro (written, hasher) world reached
        obtain ⟨rfl, rfl, rfl⟩ := reached
        have removing : (FsOp.remove (receiver.partPath k)).Bounded := trivial
        apply Ensures.watched removing
        · intro answer files acted
          have removed := acted.removed
          obtain ⟨_, answered, _⟩ | ⟨absent, _⟩ := acted
          · rw [answered, removed, consuming_remove]
            exact later before'
          · rw [consuming_partPath _ le_rfl] at absent
            rw [absent.resolve_right id] at found
            cases found
        · intro answer errs
          obtain ⟨error, rfl⟩ := errs
          rw [joined_succ]
          exact .interrupted inRange before .remove nofun
    · rw [consuming_partPath _ le_rfl] at absent
      rw [absent.resolve_right id] at found
      cases found
  · intro answer errs
    obtain ⟨error, rfl⟩ := errs
    have stopped : Assembly receiver fs (.error error)
        ⟨receiver.consuming fs k (receiver.joined fs k ++ []), _⟩ :=
      .interrupted inRange before .openRead nofun
    rw [List.append_nil] at stopped
    exact stopped

theorem ensures_assembleParts
    (enough : ∀ index < receiver.numChunks, (receiver.partBytes fs index).length < reads)
    (left k : Nat) (position : k + left = receiver.numChunks) (before : receiver.HasParts fs k) :
    Ensures FsOp.Watch
      (receiver.assembleParts reads (List.range' k left) (receiver.joined fs k).length
        ⟨receiver.joined fs k⟩)
      (Assembly receiver fs) ⟨receiver.consuming fs k (receiver.joined fs k), none⟩ := by
  induction left generalizing k with
  | zero =>
      obtain rfl : k = receiver.numChunks := position
      have bounded : (FsOp.remove receiver.metaPath).Bounded := trivial
      apply Ensures.watched bounded
      · intro answer files acted
        rw [acted.removed, consuming_remove_meta]
        exact .finished before
      · intro answer errs
        exact .metaKept before
  | succ left ih =>
      have inRange : k < receiver.numChunks := by omega
      have bounded : (FsOp.exists_ (receiver.partPath k)).Bounded := trivial
      rw [List.range'_succ, assembleParts, TransferMetadata.pathExists, Prog.bind_assoc]
      apply Ensures.watched bounded
      · intro answer files acted
        obtain ⟨same, answered | ⟨fault, _⟩⟩ := acted
        · rw [answered, same, consuming_partPath _ le_rfl]
          cases found : fs (receiver.partPath k) with
          | none => exact .missing inRange before found
          | some part =>
              exact ensures_consumePart enough inRange before (by rw [found]; rfl) fun before' =>
                ih (k + 1) (by omega) before'
        · exact fault.elim
      · intro answer errs
        obtain ⟨error, rfl⟩ := errs
        have stopped : Assembly receiver fs (.ok false)
            ⟨receiver.consuming fs k (receiver.joined fs k ++ []), _⟩ :=
          .interrupted inRange before .exists_ nofun
        rw [List.append_nil] at stopped
        exact stopped

/-- Assembling ends in one of these ways, whichever call fails first. -/
theorem ensures_assemble
    (enough : ∀ index < receiver.numChunks, (receiver.partBytes fs index).length < reads) :
    Ensures FsOp.Watch (receiver.assemble reads) (Assembly receiver fs) ⟨fs, none⟩ := by
  have bounded : (FsOp.create receiver.finalPath).Bounded := trivial
  apply Ensures.watched bounded
  · intro answer files acted
    obtain ⟨answered, same⟩ | ⟨fault, _⟩ := acted
    · have parts := ensures_assembleParts enough receiver.numChunks 0 (Nat.zero_add _) nofun
      rw [← List.range_eq_range', joined_zero, consuming_zero] at parts
      rw [answered, same]
      exact parts
    · exact fault.elim
  · intro answer errs
    obtain ⟨error, rfl⟩ := errs
    exact .refused error

end BeeSync.Server.FileReceiver
