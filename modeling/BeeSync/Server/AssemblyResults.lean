import BeeSync.Server.AssemblyOutcome

/-!
# What assembling promises

Without failing calls the output is the concatenation of the parts. An assembly that comes
to nothing has harmed the transfer, unless it stopped before the first part was consumed and
the output already held the bytes it had written.
-/

set_option autoImplicit false

namespace BeeSync.Server.FileReceiver

open Encoding Interaction

variable {receiver : FileReceiver} {fs : Fs FilePath} {k : Nat}

theorem consuming_of_notMem (output : Bytes) (inRange : k ≤ receiver.numChunks) {path : FilePath}
    (outside : path ∉ insert receiver.finalPath receiver.purged) :
    receiver.consuming fs k output path = fs path := by
  rw [Set.mem_insert_iff, not_or] at outside
  rw [consuming, Function.update_of_ne outside.1]
  apply Fs.without_of_notMem
  rintro ⟨index, before, same⟩
  apply outside.2
  rw [← same]
  exact (receiver.partPath_mem_purged index).mpr (lt_of_lt_of_le before inRange)

theorem joined_prefix (later : 0 < k) :
    (receiver.partBytes fs 0).length ≤ (receiver.joined fs k).length := by
  obtain ⟨k, rfl⟩ := Nat.exists_eq_add_of_lt later
  rw [joined, List.range_succ_eq_map, List.map_cons, List.flatten_cons, List.length_append]
  exact Nat.le_add_right ..

/-- The assembly has come to the verdict, and the verdict is against it. -/
def FinalMismatch (receiver : FileReceiver) (fs : Fs FilePath) (result : Except IoError Bool)
    (failed : Option (FsOp FilePath)) : Prop :=
  result = .ok false ∧ receiver.HasParts fs receiver.numChunks ∧
    (failed = none ∨ failed = some (.remove receiver.metaPath))

/-- The output is as before, and unless the parts have proved useless so are the parts
and the metadata. -/
structure Intact (receiver : FileReceiver) (fs fs' : Fs FilePath) (useless : Prop) : Prop where
  output : fs' receiver.finalPath = fs receiver.finalPath
  resumable : ¬ useless → ∀ path ∈ receiver.purged, fs' path = fs path

/-- The call belongs to the first part. -/
def AtFirstPart (receiver : FileReceiver) (fs : Fs FilePath) : FsOp FilePath → Prop
  | .exists_ path | .openRead path | .readAt path _ _ | .remove path => path = receiver.partPath 0
  | .writeAt _ offset _ => offset < (receiver.partBytes fs 0).length
  | _ => False

/-- What has been copied of the first part when a call fails. -/
def copiedBefore (part : Bytes) : FsOp FilePath → Bytes
  | .readAt _ offset _ | .writeAt _ offset _ => part.take offset
  | .remove _ => part
  | _ => []

/-- Before the first part is gone only the output has changed. -/
theorem intact_consuming_zero {output : Bytes} {useless : Prop} :
    Intact receiver fs (receiver.consuming fs 0 output) useless ↔
      fs receiver.finalPath = some output := by
  rw [consuming_zero]
  constructor
  · intro intact
    rw [← intact.output, Function.update_self]
  · intro same
    have unchanged : Function.update fs receiver.finalPath (some output) = fs := by
      rw [← same, Function.update_eq_self]
    rw [unchanged]
    exact ⟨rfl, fun _ _ _ => rfl⟩

/-- Once the first part is gone the transfer cannot be resumed. -/
theorem not_intact_consuming (output : Bytes) {useless : Prop} (useful : ¬ useless)
    (inRange : k < receiver.numChunks) (later : 0 < k) (before : receiver.HasParts fs k) :
    ¬ Intact receiver fs (receiver.consuming fs k output) useless := by
  intro intact
  have member : receiver.partPath 0 ∈ receiver.purged :=
    (receiver.partPath_mem_purged 0).mpr (by omega)
  have same := intact.resumable useful _ member
  have found := before 0 later
  rw [← same, consuming_partPath_of_lt _ later] at found
  cases found

/-- A call that fails while a part is consumed is one of the first part just if no part has
been consumed before. -/
theorem Interrupts.atFirstPart {call : FsOp FilePath} {copied : Bytes}
    (interrupts : Interrupts receiver fs k call copied) :
    receiver.AtFirstPart fs call ↔ k = 0 := by
  have samePart : receiver.partPath k = receiver.partPath 0 ↔ k = 0 :=
    receiver.partPath_injective.eq_iff
  cases interrupts with
  | exists_ => exact samePart
  | openRead => exact samePart
  | readAt => exact samePart
  | remove => exact samePart
  | writeAt byte inside =>
      constructor
      · intro first
        by_contra later
        have longer : (receiver.partBytes fs 0).length ≤ (receiver.joined fs k).length :=
          joined_prefix (Nat.pos_of_ne_zero later)
        exact absurd (Nat.lt_of_le_of_lt (Nat.le_add_right _ _) first) (not_lt.mpr longer)
      · rintro rfl
        simpa [AtFirstPart, joined_zero] using inside

theorem Interrupts.copied_eq {call : FsOp FilePath} {copied : Bytes}
    (interrupts : Interrupts receiver fs 0 call copied) :
    copied = copiedBefore (receiver.partBytes fs 0) call := by
  cases interrupts with
  | writeAt _ inside => simp [copiedBefore, joined_zero]
  | _ => rfl

theorem Interrupts.ne_create {call : FsOp FilePath} {copied : Bytes}
    (interrupts : Interrupts receiver fs k call copied) : call ≠ .create receiver.finalPath := by
  cases interrupts <;> nofun

theorem Interrupts.ne_remove_meta {call : FsOp FilePath} {copied : Bytes}
    (interrupts : Interrupts receiver fs k call copied) : call ≠ .remove receiver.metaPath := by
  cases interrupts with
  | remove =>
      intro same
      injection same with same
      exact receiver.partPath_ne_metaPath k same
  | _ => nofun

variable [Blake3]

/-- Without failing calls, assembling succeeds just if all parts are there and their
concatenation has the announced hash. If they are there, the output is their concatenation
and they are gone with the metadata; in any case no other file changes. -/
theorem assemble_exact (receiver : FileReceiver) (fs : Fs FilePath) (reads : Nat)
    (enough : ∀ index < receiver.numChunks, (receiver.partBytes fs index).length < reads) :
    Ensures (FsOp.Sem False) (receiver.assemble reads) (fun result fs' =>
      (result = .ok true ↔ receiver.HasParts fs receiver.numChunks ∧
        calcHash (receiver.joined fs receiver.numChunks) = receiver.fullHash) ∧
      (receiver.HasParts fs receiver.numChunks →
        fs' = Function.update (fs.without receiver.purged) receiver.finalPath
          (some (receiver.joined fs receiver.numChunks))) ∧
      ∀ path ∉ insert receiver.finalPath receiver.purged, fs' path = fs path) fs := by
  refine (ensures_assemble enough).unwatched.mono fun result fs' ends => ?_
  cases ends with
  | missing inRange before absent =>
      have incomplete := not_hasParts inRange absent
      refine ⟨⟨nofun, fun ⟨all, _⟩ => absurd all incomplete⟩, fun all => absurd all incomplete, ?_⟩
      exact fun path outside => consuming_of_notMem _ inRange.le outside
  | finished all =>
      refine ⟨by simp [all], fun _ => rfl, fun path outside => ?_⟩
      rw [Set.mem_insert_iff, not_or] at outside
      rw [Function.update_of_ne outside.1, Fs.without_of_notMem outside.2]

/-- The verdict is in favour, or the output held the same bytes before. -/
def VerdictHarmless (receiver : FileReceiver) (fs : Fs FilePath) : Prop :=
  calcHash (receiver.joined fs receiver.numChunks) = receiver.fullHash ∨
    fs receiver.finalPath = some (receiver.joined fs receiver.numChunks)

/-- Where assembling does no harm, by the call that fails: it is the creation of the output,
or it comes before the first part is gone and the output held the bytes that had been copied. -/
def Harmless (receiver : FileReceiver) (fs : Fs FilePath) : Option (FsOp FilePath) → Prop
  | some call =>
      call = .create receiver.finalPath ∨
        (call = .remove receiver.metaPath ∧ receiver.VerdictHarmless fs) ∨
        (receiver.AtFirstPart fs call ∧
          fs receiver.finalPath = some (copiedBefore (receiver.partBytes fs 0) call))
  | none =>
      (receiver.HasParts fs receiver.numChunks ∧ receiver.VerdictHarmless fs) ∨
        (0 < receiver.numChunks ∧ fs (receiver.partPath 0) = none ∧
          fs receiver.finalPath = some [])

theorem intact_verdict {fs' : Fs FilePath} {failed : Option (FsOp FilePath)}
    (all : receiver.HasParts fs receiver.numChunks)
    (ended : failed = none ∨ failed = some (.remove receiver.metaPath))
    (output : fs' receiver.finalPath = some (receiver.joined fs receiver.numChunks))
    {result : Except IoError Bool}
    (verdict : result =
      .ok (decide (calcHash (receiver.joined fs receiver.numChunks) = receiver.fullHash))) :
    (result ≠ .ok true → Intact receiver fs fs' (FinalMismatch receiver fs result failed)) ↔
      receiver.VerdictHarmless fs := by
  unfold VerdictHarmless
  by_cases same : calcHash (receiver.joined fs receiver.numChunks) = receiver.fullHash
  · simp [verdict, same]
  · have mismatch : FinalMismatch receiver fs result failed := by
      refine ⟨?_, all, ended⟩
      rw [verdict, decide_eq_false same]
    have unfinished : result ≠ .ok true := by simp [mismatch.1]
    constructor
    · intro intact
      exact .inr ((intact unfinished).output.symm.trans output)
    · intro harmless _
      exact ⟨output.trans (harmless.resolve_left same).symm, fun useful => absurd mismatch useful⟩

/-- Whichever call fails, an assembly that does not succeed leaves the transfer intact just
where it does no harm. -/
theorem assemble_intact_iff (receiver : FileReceiver) (fs : Fs FilePath) (reads : Nat)
    (enough : ∀ index < receiver.numChunks, (receiver.partBytes fs index).length < reads) :
    Ensures FsOp.Watch (receiver.assemble reads) (fun result world =>
      (result ≠ .ok true → Intact receiver fs world.files
        (FinalMismatch receiver fs result world.failed)) ↔ receiver.Harmless fs world.failed)
      ⟨fs, none⟩ := by
  refine (ensures_assemble enough).mono fun result world ends => ?_
  cases ends with
  | refused error =>
      exact ⟨fun _ => .inl rfl, fun _ _ => ⟨rfl, fun _ _ _ => rfl⟩⟩
  | @missing k inRange before absent =>
      have incomplete := not_hasParts inRange absent
      have useful : ¬ FinalMismatch receiver fs (.ok false) none := fun ⟨_, all, _⟩ => incomplete all
      simp only [Harmless, incomplete, false_and, false_or]
      obtain rfl | later := Nat.eq_zero_or_pos k
      · simp [intact_consuming_zero, joined_zero, absent, inRange]
      · have found := before 0 later
        have broken := not_intact_consuming (receiver.joined fs k) useful inRange later before
        simp [broken, Option.isSome_iff_ne_none.mp found]
  | @interrupted k call copied result inRange before interrupts unfinished =>
      have useful : ¬ FinalMismatch receiver fs result (some call) := by
        intro ⟨_, _, ended⟩
        have isMeta : some call = some (.remove receiver.metaPath) := ended.resolve_left nofun
        exact interrupts.ne_remove_meta (Option.some.inj isMeta)
      simp only [Harmless, interrupts.ne_create, interrupts.ne_remove_meta, false_and, false_or,
        interrupts.atFirstPart]
      obtain rfl | later := Nat.eq_zero_or_pos k
      · simp [unfinished, intact_consuming_zero, joined_zero, interrupts.copied_eq]
      · have broken := not_intact_consuming (receiver.joined fs k ++ copied) useful inRange later
          before
        simp [unfinished, broken, later.ne']
  | finished all =>
      refine (intact_verdict all (.inl rfl) (Function.update_self ..) rfl).trans ?_
      constructor
      · exact fun harmless => .inl ⟨all, harmless⟩
      · intro harmless
        obtain ⟨_, harmless⟩ | ⟨inRange, absent, _⟩ := harmless
        · exact harmless
        · exact absurd all (not_hasParts inRange absent)
  | metaKept all =>
      refine (intact_verdict all (.inr rfl) (consuming_finalPath _) rfl).trans ?_
      have notFirst : ¬ receiver.AtFirstPart fs (.remove receiver.metaPath) :=
        fun same => receiver.partPath_ne_metaPath 0 same.symm
      simp [Harmless, notFirst]

end BeeSync.Server.FileReceiver

namespace BeeSync.Server.AssemblyResults

open Encoding Interaction

/-- The receiver of the one-byte file `f`. -/
def receiver : FileReceiver :=
  .new (ascii "f") 1 2097152 1 (Blake3.sample.hash [0x61]) (ascii "out") (ascii "parts")

/-- The receiver of the two-byte file `ab` in two parts. -/
def pairReceiver : FileReceiver :=
  .new (ascii "f") 2 1 2 (Blake3.samples.hash [0x61, 0x62]) (ascii "out") (ascii "parts")

def pairFiles : Fs FilePath :=
  Function.update (Function.update (fun _ => none) (pairReceiver.partPath 1) (some [0x62]))
    (pairReceiver.partPath 0) (some [0x61])

theorem pairFiles_partPath (idx : Nat) : pairFiles (pairReceiver.partPath idx) =
    if idx = 0 then some [0x61] else if idx = 1 then some [0x62] else none := by
  simp [pairFiles, Function.update_apply, pairReceiver.partPath_injective.eq_iff]

theorem pairFiles_enough :
    ∀ index < pairReceiver.numChunks, (pairReceiver.partBytes pairFiles index).length < 2 := by
  intro index inRange
  rw [FileReceiver.partBytes, pairFiles_partPath]
  split
  · decide
  · split <;> decide

theorem pairFiles_hasParts : pairReceiver.HasParts pairFiles pairReceiver.numChunks := by
  intro index inRange
  rw [pairFiles_partPath]
  have both : index = 0 ∨ index = 1 := by
    have few : index < 2 := inRange
    omega
  rcases both with first | second
  · simp [first]
  · simp [second]

theorem assemble_exact_two_parts :
    let _ := Blake3.samples
    Ensures (FsOp.Sem False) (pairReceiver.assemble 2) (fun result fs' => result = .ok true ∧
      fs' pairReceiver.finalPath = some [0x61, 0x62] ∧
      ∀ path ∉ insert pairReceiver.finalPath pairReceiver.purged, fs' path = pairFiles path)
      pairFiles := by
  intro _
  have joined : pairReceiver.joined pairFiles pairReceiver.numChunks = [0x61, 0x62] := by
    rw [show pairReceiver.numChunks = 2 from rfl, FileReceiver.joined_succ,
      FileReceiver.joined_succ, FileReceiver.joined_zero, FileReceiver.partBytes,
      FileReceiver.partBytes, pairFiles_partPath, pairFiles_partPath]
    rfl
  refine (pairReceiver.assemble_exact pairFiles 2 pairFiles_enough).mono fun result fs' exact_ => ?_
  obtain ⟨succeeds, left, others⟩ := exact_
  refine ⟨succeeds.mpr ⟨pairFiles_hasParts, ?_⟩, ?_, others⟩
  · rw [joined]
    rfl
  · rw [left pairFiles_hasParts, joined]
    exact Function.update_self ..

theorem assemble_intact_iff_two_parts :
    let _ := Blake3.samples
    Ensures FsOp.Watch (pairReceiver.assemble 2) (fun result world =>
      (result ≠ .ok true → FileReceiver.Intact pairReceiver pairFiles world.files
        (pairReceiver.FinalMismatch pairFiles result world.failed)) ↔
          pairReceiver.Harmless pairFiles world.failed) ⟨pairFiles, none⟩ := by
  intro _
  exact pairReceiver.assemble_intact_iff pairFiles 2 pairFiles_enough

/-- An earlier file of the name, and no part of the new one. -/
def earlierOutput : Fs FilePath :=
  Function.update (fun _ => none) receiver.finalPath (some [0x62])

/-- Where the only part is missing, the earlier file is emptied. -/
theorem failed_assembly_truncates :
    let _ := Blake3.sample
    ¬ ∀ (receiver : FileReceiver) (fs : Fs FilePath) (reads : Nat),
      (∀ index < receiver.numChunks, (receiver.partBytes fs index).length < reads) →
      Ensures FsOp.Watch (receiver.assemble reads) (fun result world =>
        result ≠ .ok true → FileReceiver.Intact receiver fs world.files
          (receiver.FinalMismatch fs result world.failed)) ⟨fs, none⟩ := by
  intro _ intact
  have missing : ∀ index, earlierOutput (receiver.partPath index) = none := fun index =>
    Function.update_of_ne (receiver.partPath_ne_finalPath index) ..
  have enough : ∀ index < receiver.numChunks,
      (receiver.partBytes earlierOutput index).length < 1 := by
    intro index _
    rw [FileReceiver.partBytes, missing]
    decide
  have ends := (intact receiver earlierOutput 1 enough).and (FileReceiver.ensures_assemble enough)
  obtain ⟨result, fs', _, intact, ended⟩ := ends.unwatched.returns
  cases ended with
  | @missing k _ before _ =>
      have same : some (receiver.joined earlierOutput k) = some [0x62] := calc
        _ = receiver.consuming earlierOutput k (receiver.joined earlierOutput k)
              receiver.finalPath := (FileReceiver.consuming_finalPath _).symm
        _ = earlierOutput receiver.finalPath := (intact nofun).output
        _ = some [0x62] := Function.update_self ..
      obtain rfl | later := Nat.eq_zero_or_pos k
      · cases same
      · exact absurd before (FileReceiver.not_hasParts later (missing 0))
  | finished all =>
      have first : 0 < receiver.numChunks := by decide
      exact absurd all (FileReceiver.not_hasParts first (missing 0))

end BeeSync.Server.AssemblyResults
