import BeeSync.Server.DerivedNames

/-!
# Lengths of the names of a transfer's files

The cap on a name applies to its bytes in the handshake. Decoding may lengthen them, and
the files of a transfer have names with something appended, up to `.bee-meta.tmp`.
-/

set_option autoImplicit false

namespace BeeSync.Server

open Encoding

/-- The bytes of the name in a handshake. -/
def rawName (data : Bytes) : Bytes :=
  field data Handshake.prefixSize (readBigEndian data 4 2)

/-- The bytes of a name denote a file name of at most 242 bytes, if any. -/
def LeavesRoom (raw : Bytes) : Prop :=
  ∀ name, fileName (fromUtf8Lossy raw) = some name → name.length ≤ 242

section Lengths

variable {numChunks : Nat} {suffix : Bytes}

theorem decimal_length_le {value width : Nat} (some_ : width ≠ 0) (fits : value < 10 ^ width) :
    (decimal value).length ≤ width := by
  rw [decimal, List.length_reverse, List.length_map, decimalDigits]
  split
  · rw [List.length_singleton]
    omega
  · exact Nat.digits_length_le_iff (by decide) value |>.mpr fits

/-- No suffix is longer than that of the temporary record. -/
theorem Suffix.length_le (kind : Suffix numChunks suffix) (few : numChunks ≤ maxChunks) :
    suffix.length ≤ 13 := by
  cases kind with
  | @part idx inRange =>
      have digits : (decimal idx).length ≤ 6 :=
        decimal_length_le (by decide) (lt_of_lt_of_le inRange few)
      have dots : (ascii ".part").length = 5 := by decide
      rw [List.length_append]
      omega
  | record => decide
  | recordTmp => decide

end Lengths

theorem name_of_owns {handshake : HandshakeData} {outputDir partsDir : Bytes} {path : FilePath}
    (owns : (handshake.receiver outputDir partsDir).Owns path) :
    path.name = handshake.safeName ∨ handshake.Derives path.name := by
  cases owns with
  | final => exact .inl rfl
  | part inRange => exact .inr ⟨_, .part inRange, List.append_assoc _ _ _⟩
  | record => exact .inr ⟨_, .record, rfl⟩
  | recordTmp => exact .inr ⟨_, .recordTmp, List.append_assoc _ _ _⟩

/-- All files of an accepted transfer have names within the limit exactly when the name in its
handshake leaves room. -/
theorem names_fit_iff {data : Bytes} {handshake : HandshakeData}
    (accepted : parseHandshake data = .ok handshake) (outputDir partsDir : Bytes) :
    (∀ path, (handshake.receiver outputDir partsDir).Owns path →
      path.name.length ≤ maxFilenameLen) ↔ LeavesRoom (rawName data) := by
  have read := parseHandshake_eq_ok_iff.mp accepted
  have named : fileName (fromUtf8Lossy (rawName data)) = some handshake.safeName := by
    rw [rawName, ← read.filename]
    exact handshake.safe
  constructor
  · intro fits name found
    cases named.symm.trans found
    have longest := fits _ .recordTmp
    have sized : (ascii ".bee-meta" ++ ascii ".tmp").length = 13 := by decide
    change (handshake.safeName ++ ascii ".bee-meta" ++ ascii ".tmp").length ≤ 255 at longest
    rw [List.append_assoc, List.length_append] at longest
    omega
  · intro room path owns
    have short := room _ named
    rcases name_of_owns owns with same | ⟨suffix, kind, same⟩
    · rw [same, maxFilenameLen]
      omega
    · have bound := kind.length_le handshake.numChunks_le
      rw [same, List.length_append, maxFilenameLen]
      omega

set_option maxRecDepth 8000 in
theorem names_fit_iff_one_byte :
    ∃ handshake, parseHandshake Control.sampleHandshake = .ok handshake ∧
      ((∀ path, (handshake.receiver (ascii "received") (ascii "received")).Owns path →
        path.name.length ≤ maxFilenameLen) ↔ LeavesRoom (rawName Control.sampleHandshake)) := by
  have accepted : ∃ handshake, parseHandshake Control.sampleHandshake = .ok handshake := ⟨_, rfl⟩
  obtain ⟨handshake, accepted⟩ := accepted
  exact ⟨handshake, accepted, names_fit_iff accepted _ _⟩

/-- A name of 255 letters is accepted, and the name of its record is longer than the cap. -/
theorem names_too_long :
    ¬ ∀ data handshake, parseHandshake data = .ok handshake → ∀ outputDir partsDir path,
      (handshake.receiver outputDir partsDir).Owns path → path.name.length ≤ maxFilenameLen := by
  intro fits
  let letters : Bytes := List.replicate 255 0x61
  have sized : letters.length = 255 := List.length_replicate
  have component : IsComponent letters := by
    refine ⟨?_, ?_, ?_, ?_⟩
    · exact ne_of_apply_ne List.length (by rw [sized]; decide)
    · exact fun member => absurd (List.eq_of_mem_replicate member) (by decide)
    · exact ne_of_apply_ne List.length (by rw [sized]; decide)
    · exact ne_of_apply_ne List.length (by rw [sized]; decide)
  have lossless : ∀ count, fromUtf8Lossy (List.replicate count 0x61) = List.replicate count 0x61 := by
    intro count
    induction count with
    | zero => rfl
    | succ count ih => rw [List.replicate_succ, fromUtf8Lossy_one (by decide), ih]
  obtain ⟨handshake, accepted, named⟩ :=
    accepted_named letters component (le_of_eq sized) (lossless 255)
  have long := fits _ handshake accepted [] [] _ .record
  change (handshake.safeName ++ ascii ".bee-meta").length ≤ 255 at long
  rw [named, List.length_append, sized] at long
  exact absurd long (by decide)

end BeeSync.Server
