import BeeSync.Interaction.FileRules
import BeeSync.Server.FileReceiver

/-!
# What assembling does

The copy loop keeps the output file equal to what the hasher has absorbed, whatever
the parts contain and whoever changes them. Where the content of a part is known and
cannot change, that content is what is copied.
-/

set_option autoImplicit false

namespace BeeSync.Server.FileReceiver

open Encoding Interaction

variable {World : Type} {P : Protocol (FsSig FilePath) World} {files : World → Fs FilePath}

/-- How the calls of `assemble` act for a thread that alone writes the output file:
what is kept while the listed parts are left, and after the last one. A bounded number
of reads is enough for parts that are known to be shorter. -/
structure Assembling (P : Protocol (FsSig FilePath) World) (files : World → Fs FilePath)
    (receiver : FileReceiver) (reads : Nat) (before : World → Prop)
    (kept : List Nat → World → Prop) (done failed : World → Prop)
    (known : Nat → Option Bytes) : Prop where
  stable : P.Stable before
  create : P.Step before (.create receiver.finalPath) fun
    | .ok _ => Holding files (kept (List.range receiver.numChunks)) receiver.finalPath []
    | .error _ => failed
  output : ∀ left, Appendable P files (kept left) failed receiver.finalPath
  stable_done : ∀ content, P.Stable (Holding files done receiver.finalPath content)
  exists_ : ∀ i left content,
    P.Step (Holding files (kept (i :: left)) receiver.finalPath content)
      (.exists_ (receiver.partPath i)) fun
        | .ok true => Holding files (kept (i :: left)) receiver.finalPath content
        | _ => failed
  openRead : ∀ i left content,
    P.Step (Holding files (kept (i :: left)) receiver.finalPath content)
      (.openRead (receiver.partPath i)) fun
        | .ok _ => Holding files (kept (i :: left)) receiver.finalPath content
        | .error _ => failed
  readAt : ∀ i left content offset,
    P.Step (Holding files (kept (i :: left)) receiver.finalPath content)
      (.readAt (receiver.partPath i) offset bufferSize) fun
        | .ok piece => fun world =>
          Holding files (kept (i :: left)) receiver.finalPath content world ∧
            ∀ bytes, known i = some bytes → IsPiece bytes offset bufferSize piece
        | .error _ => failed
  stuck : ∀ i left content, (∀ bytes, known i = some bytes → reads ≤ bytes.length) →
    P.Step (Holding files (kept (i :: left)) receiver.finalPath content) .stuck fun _ _ => False
  removePart : ∀ i left content,
    P.Step (Holding files (kept (i :: left)) receiver.finalPath content)
      (.remove (receiver.partPath i)) fun
        | .ok _ => Holding files (kept left) receiver.finalPath content
        | .error _ => failed
  removeMeta : ∀ content,
    P.Step (Holding files (kept []) receiver.finalPath content) (.remove receiver.metaPath)
      fun _ => Holding files done receiver.finalPath content

/-- The bytes of a part that have been copied, as far as its content is known. -/
def Copied (known : Option Bytes) (offset : Nat) (copied : Bytes) : Prop :=
  ∀ bytes, known = some bytes → copied = bytes.take offset

theorem Copied.append {known : Option Bytes} {offset : Nat} {copied piece : Bytes}
    (before : Copied known offset copied)
    (read : ∀ bytes, known = some bytes → IsPiece bytes offset bufferSize piece) :
    Copied known (offset + piece.length) (copied ++ piece) := by
  intro bytes same
  have taken := List.prefix_iff_eq_take.mp (read bytes same).isPrefix
  rw [before bytes same, List.take_add, ← taken]

theorem Copied.all {known : Option Bytes} {offset : Nat} {copied : Bytes}
    (before : Copied known offset copied)
    (read : ∀ bytes, known = some bytes → IsPiece bytes offset bufferSize []) :
    ∀ bytes, known = some bytes → copied = bytes := by
  intro bytes same
  have atEnd := ((read bytes same).atEnd rfl).resolve_right (by decide)
  rw [before bytes same, List.take_of_length_le atEnd]

variable {receiver : FileReceiver} {reads : Nat} {before : World → Prop}
  {kept : List Nat → World → Prop} {done failed : World → Prop} {known : Nat → Option Bytes}

theorem Assembling.copyPart
    (assembling : Assembling P files receiver reads before kept done failed known)
    (i : Nat) (left : List Nat) (remaining offset : Nat) (absorbed copied : Bytes)
    (progress : reads ≤ remaining + offset)
    (inside : ∀ bytes, known i = some bytes → offset ≤ bytes.length)
    (copiedSoFar : Copied (known i) offset copied) :
    Triple P (Holding files (kept (i :: left)) receiver.finalPath (absorbed ++ copied))
      (copyPart receiver.finalPath (receiver.partPath i) remaining offset (absorbed ++ copied).length
        ⟨absorbed ++ copied⟩) fun
      | .ok (written, hasher) => fun world => ∃ part,
          Holding files (kept (i :: left)) receiver.finalPath (absorbed ++ part) world ∧
            written = (absorbed ++ part).length ∧ hasher = ⟨absorbed ++ part⟩ ∧
            ∀ bytes, known i = some bytes → part = bytes
      | .error _ => failed := by
  have output := assembling.output (i :: left)
  induction remaining generalizing offset copied with
  | zero =>
      have exhausted : ∀ bytes, known i = some bytes → reads ≤ bytes.length := by
        intro bytes same
        have bound := inside bytes same
        omega
      exact .vis _ (output.stable_content _) (assembling.stuck i left _ exhausted) nofun
  | succ remaining ih =>
      refine .step _ (output.stable_content _) (assembling.readAt i left _ offset) fun answer => ?_
      cases answer with
      | error error => exact .ret output.stable_failed fun _ _ holds => holds
      | ok piece =>
          have stable : P.Stable fun world =>
              Holding files (kept (i :: left)) receiver.finalPath (absorbed ++ copied) world ∧
                ∀ bytes, known i = some bytes → IsPiece bytes offset bufferSize piece :=
            (output.stable_content _).and (.const _)
          by_cases last : piece.length = 0
          · simp only [if_pos last]
            refine .ret stable fun world _ ⟨holds, read⟩ => ⟨copied, holds, rfl, rfl, ?_⟩
            rw [List.eq_nil_of_length_eq_zero last] at read
            exact copiedSoFar.all read
          · simp only [if_neg last]
            intro world inv ⟨holds, read⟩
            have further : ∀ bytes, known i = some bytes → offset + piece.length ≤ bytes.length := by
              intro bytes same
              have inBytes := (read bytes same).isPrefix.length_le
              have bound := inside bytes same
              rw [List.length_drop] at inBytes
              omega
            have write := output.writeAll (absorbed ++ copied) piece
            refine Triple.attempt _ write (fun _ => .ret output.stable_failed fun _ _ failed =>
              failed) (fun _ => ?_) world inv holds
            have later := ih (offset + piece.length) (copied ++ piece) (by omega) further
              (copiedSoFar.append read)
            rw [← List.append_assoc, List.length_append] at later
            exact later

/-- What the loop over the parts leaves: the output is what has been hashed. -/
def Assembled (files : World → Fs FilePath) (receiver : FileReceiver) [Blake3]
    (done failed : World → Prop) (whole : Bytes → Prop) : Except IoError Bool → World → Prop
  | .ok same, world =>
    (∃ content, Holding files done receiver.finalPath content world ∧ whole content ∧
      same = decide (calcHash content = receiver.fullHash)) ∨ (same = false ∧ failed world)
  | .error _, world => failed world

/-- The contents that the remaining parts add, where they are known. -/
def Adds (known : Nat → Option Bytes) (left : List Nat) (absorbed content : Bytes) : Prop :=
  ∀ bytes : Nat → Bytes, (∀ i ∈ left, known i = some (bytes i)) →
    content = absorbed ++ (left.map bytes).flatten

variable [Blake3]

theorem Assembling.assembleParts
    (assembling : Assembling P files receiver reads before kept done failed known)
    (left : List Nat) (absorbed : Bytes) :
    Triple P (Holding files (kept left) receiver.finalPath absorbed)
      (receiver.assembleParts reads left absorbed.length ⟨absorbed⟩)
      (Assembled files receiver done failed (Adds known left absorbed)) := by
  have stops : ∀ error, Triple P failed (.ret (.error error))
      (Assembled files receiver done failed (Adds known left absorbed)) := fun error =>
    .ret (assembling.output left).stable_failed fun _ _ holds => holds
  induction left generalizing absorbed with
  | nil =>
      refine .step _ ((assembling.output []).stable_content _) (assembling.removeMeta absorbed)
        fun _ => ?_
      refine .ret (assembling.stable_done absorbed) fun world _ holds =>
        .inl ⟨absorbed, holds, fun bytes _ => ?_, rfl⟩
      exact (List.append_nil absorbed).symm
  | cons i rest ih =>
      have output := assembling.output (i :: rest)
      have missing : Triple P failed (.ret (.ok false))
          (Assembled files receiver done failed (Adds known (i :: rest) absorbed)) :=
        .ret output.stable_failed fun _ _ holds => .inr ⟨rfl, holds⟩
      refine .step _ (output.stable_content _) (assembling.exists_ i rest absorbed) fun answer => ?_
      cases answer with
      | error error => exact missing
      | ok found =>
          cases found with
          | false => exact missing
          | true =>
              refine .step _ (output.stable_content _) (assembling.openRead i rest absorbed) ?_
              intro opened
              cases opened with
              | error error => exact stops error
              | ok _ =>
                  have copy := assembling.copyPart i rest reads 0 absorbed [] le_rfl
                    (fun _ _ => Nat.zero_le _) fun _ _ => rfl
                  rw [List.append_nil] at copy
                  refine .attempt _ copy (fun error => stops error) fun (written, hasher) => ?_
                  intro world inv ⟨part, holds, sized, hashed, exact_⟩
                  subst sized hashed
                  refine Triple.step _ (output.stable_content _)
                    (assembling.removePart i rest (absorbed ++ part)) (fun removed => ?_)
                    world inv holds
                  cases removed with
                  | error error => exact stops error
                  | ok _ =>
                      refine (ih (absorbed ++ part) fun error =>
                        .ret output.stable_failed fun _ _ holds => holds).conseq
                          (fun _ _ holds => holds) ?_
                      intro result world _ assembled
                      cases result with
                      | error error => exact assembled
                      | ok same =>
                          refine assembled.imp_left ?_
                          rintro ⟨content, holds, adds, decided⟩
                          refine ⟨content, holds, fun bytes parts => ?_, decided⟩
                          rw [adds bytes fun j member => parts j (List.mem_cons_of_mem i member),
                            exact_ (bytes i) (parts i List.mem_cons_self), List.append_assoc]
                          rfl

/-- Whenever assembling succeeds, the output file has the expected hash; where the parts
are known, it is their concatenation. -/
theorem Assembling.assemble
    (assembling : Assembling P files receiver reads before kept done failed known) :
    Triple P before (receiver.assemble reads)
      (Assembled files receiver done failed
        (Adds known (List.range receiver.numChunks) [])) := by
  refine .step _ assembling.stable assembling.create fun answer => ?_
  cases answer with
  | error error => exact .ret (assembling.output []).stable_failed fun _ _ holds => holds
  | ok _ => exact assembling.assembleParts _ []

end BeeSync.Server.FileReceiver
