import BeeSync.ChunkGeometry
import BeeSync.Encoding.NumberText
import BeeSync.HandshakeAgreement

/-!
# The chunk size that the arguments ask for

The client takes its chunk size from a number of chunks or from a text with a suffix, and
divides by it: for the log, to set up the transfer and to build the handshake.
-/

set_option autoImplicit false

namespace BeeSync.Client

open Encoding Arithmetic

/-- The tables of Unicode enter as a function. -/
class Unicode where
  /-- `str::to_lowercase`. -/
  toLowercase : List Char → List Char

/-- Lower case of a text of ASCII characters. -/
@[reducible] def Unicode.sample : Unicode where
  toLowercase text := text.map Char.toLower

/-- Errors of `parse_chunk_size`. -/
inductive ChunkSizeError where
  | empty
  | invalid (value : List Char)
  | tooLarge (value : List Char)
  deriving DecidableEq, Repr

def ChunkSizeError.message : ChunkSizeError → String
  | .empty => "Empty chunk size string"
  | .invalid value => "Invalid chunk size: " ++ String.ofList value
  | .tooLarge value =>
    "Chunk size too large: " ++ String.ofList value ++ " (max " ++ toString (2 ^ 64 - 1) ++ " bytes)"

/-- What a suffix multiplies by. -/
def multiplier : Char → Option Binary64
  | 'k' => some (.ofNat 1024)
  | 'm' => some (.ofNat (1024 * 1024))
  | 'g' => some (.ofNat (1024 * 1024 * 1024))
  | _ => none

/-- The arguments that decide about the chunk size. -/
structure ChunkArgs where
  chunkSize : Option String
  chunkCount : Option Nat

def defaultChunkSize : String := "2M"

/-- Why `run_client` ends before it starts. -/
inductive ArgumentError where
  | zeroCount
  | invalidChunkSize (error : ChunkSizeError)
  deriving DecidableEq, Repr

def ArgumentError.message : ArgumentError → String
  | .zeroCount => "Chunk count must be > 0"
  | .invalidChunkSize error => "Invalid chunk size: " ++ error.message

/-- `usize::div_ceil`: nothing stands for the panic of a division by zero. -/
def checkedDivCeil (total width : Nat) : Option Nat :=
  if width = 0 then none else some (divCeil total width)

/-- The number of chunks of `build_handshake` and `setup_transfer` with its division checked. -/
def checkedNumChunks (fileSize chunkSize : Nat) : Option Nat :=
  if fileSize > 0 then checkedDivCeil fileSize chunkSize else some 1

section Parsing

variable [Unicode]

/-- `parse_chunk_size`. -/
def parseChunkSize (text : String) : Except ChunkSizeError Nat :=
  let value := Unicode.toLowercase (trim text.toList)
  match value.getLast? with
  | none => .error .empty
  | some lastChar =>
    match multiplier lastChar with
    | some factor =>
      match parseFloat value.dropLast with
      | none => .error (.invalid value)
      | some num =>
        let bytes := num.mul factor
        if bytes.gt (.ofNat (2 ^ 64 - 1)) then .error (.tooLarge value) else .ok bytes.toWord
    | none =>
      match parseWord value with
      | none => .error (.invalid value)
      | some size => .ok size

/-- The chunk size that `run_client` computes. -/
def computeChunkSize (fileSize : Nat) (args : ChunkArgs) : Except ArgumentError Nat :=
  match args.chunkCount with
  | some count => if count = 0 then .error .zeroCount else .ok (divCeil fileSize count)
  | none =>
    match parseChunkSize (args.chunkSize.getD defaultChunkSize) with
    | .ok size => .ok size
    | .error error => .error (.invalidChunkSize error)

end Parsing

/-- The number of binary places that a suffix shifts by. -/
def suffixExponent : Char → Option Nat
  | 'k' => some 10
  | 'm' => some 20
  | 'g' => some 30
  | _ => none

/-- A text for a chunk size, trimmed and in lower case, is not negligible: a number behind which
a suffix stands comes to one byte when it is multiplied, up to rounding, and other numbers have
a digit other than zero. -/
def Substantial (value : List Char) : Prop :=
  match value.getLast?.bind suffixExponent with
  | some exponent => ∃ magnitude,
      FloatLiteral.parse value.dropLast = some (.number false magnitude) ∧
        1 - 2 ^ (-54 : ℤ) ≤ magnitude * 2 ^ exponent
  | none => ∃ digit ∈ value, digit.isDigit ∧ digit ≠ '0'

/-- The arguments give a chunk size other than zero to a file: one of some size is cut in a number
of chunks, or the text is not negligible. -/
def ChunkArgs.Sizeable [Unicode] (args : ChunkArgs) (fileSize : Nat) : Prop :=
  match args.chunkCount with
  | some _ => 0 < fileSize
  | none => Substantial
      (Unicode.toLowercase (trim (args.chunkSize.getD defaultChunkSize).toList))

theorem checkedNumChunks_eq (fileSize : Nat) {chunkSize : Nat} (positive : 0 < chunkSize) :
    checkedNumChunks fileSize chunkSize = some (numChunks fileSize chunkSize) := by
  rw [checkedNumChunks, checkedDivCeil, if_neg positive.ne', numChunks]
  split
  · rfl
  · rfl

section Suffixes

variable {suffix : Char} {exponent : Nat}

theorem multiplier_eq (suffix : Char) :
    multiplier suffix = (suffixExponent suffix).map fun exponent => .ofNat (2 ^ exponent) := by
  unfold multiplier suffixExponent
  split
  · rfl
  · rfl
  · rfl
  · rfl

theorem suffixExponent_le (known : suffixExponent suffix = some exponent) : exponent ≤ 30 := by
  unfold suffixExponent at known
  split at known
  all_goals cases known
  all_goals decide

theorem parseWord_pos_iff {value : List Char} {size : Nat} (parsed : parseWord value = some size) :
    0 < size ↔ ∃ digit ∈ value, digit.isDigit ∧ digit ≠ '0' := by
  -- a plus is no digit, so it makes no difference
  have counts : ∀ digits : List Char, digits.all Char.isDigit = true →
      (0 < digitsValue digits ↔ ∃ digit ∈ digits, digit.isDigit ∧ digit ≠ '0') := by
    intro digits digital
    rw [Nat.pos_iff_ne_zero, Ne, digitsValue_eq_zero digital]
    constructor
    · intro some_
      obtain ⟨digit, member, nonzero⟩ := by
        simpa only [not_forall, exists_prop] using some_
      exact ⟨digit, member, List.all_eq_true.mp digital digit member, nonzero⟩
    · rintro ⟨digit, member, _, nonzero⟩ zeros
      exact nonzero (zeros digit member)
  unfold parseWord at parsed
  dsimp only at parsed
  split at parsed
  case h_1 rest =>
    split_ifs at parsed
    rename_i digital _
    cases parsed
    rw [counts rest digital]
    constructor
    · rintro ⟨digit, member, facts⟩
      exact ⟨digit, List.mem_cons_of_mem _ member, facts⟩
    · rintro ⟨digit, member, single, nonzero⟩
      rcases List.mem_cons.mp member with rfl | member
      · exact absurd single (by decide)
      · exact ⟨digit, member, single, nonzero⟩
  case h_2 =>
    split_ifs at parsed
    rename_i digital _
    cases parsed
    exact counts _ digital

/-- The size of a number with a suffix, once it is not too large. -/
theorem toWord_literal_pos_iff {literal : FloatLiteral} (small : exponent ≤ 30)
    (accepted : (literal.toBinary64.mul (.ofNat (2 ^ exponent))).gt (.ofNat (2 ^ 64 - 1)) ≠ true) :
    0 < (literal.toBinary64.mul (.ofNat (2 ^ exponent))).toWord ↔
      ∃ magnitude, literal = .number false magnitude ∧
        1 - 2 ^ (-54 : ℤ) ≤ magnitude * 2 ^ exponent := by
  obtain ⟨shown, power⟩ := Binary64.ofNat_two_pow (show exponent < 1024 by omega)
  have scale : (2 : ℚ) ^ exponent ≠ 0 := pow_ne_zero _ (by norm_num)
  cases literal with
  | nan =>
      refine iff_of_false ?_ (by simp)
      rw [FloatLiteral.toBinary64, Binary64.mul, Binary64.toWord]
      exact lt_irrefl 0
  | infinity negative =>
      refine iff_of_false ?_ (by simp)
      rw [FloatLiteral.toBinary64, power, Binary64.mul, if_neg scale] at accepted ⊢
      cases negative with
      | true => decide
      | false =>
          obtain ⟨limit, shown', finite⟩ := Binary64.ofNat_finite (show 2 ^ 64 - 1 < 2 ^ 64 by decide)
          rw [finite] at accepted
          exact absurd rfl accepted
  | number negative magnitude =>
      rw [FloatLiteral.toBinary64]
      cases negative with
      | true =>
          rw [Binary64.toWord_mul_negative (by omega)]
          exact iff_of_false (lt_irrefl 0) (by simp)
      | false =>
          rw [Binary64.toWord_mul_pos_iff (by omega)]
          constructor
          · intro reached
            exact ⟨magnitude, rfl, reached⟩
          · rintro ⟨_, same, reached⟩
            cases same
            exact reached

end Suffixes

section Positive

variable [Unicode]

theorem parseChunkSize_pos_iff {text : String} {size : Nat}
    (parsed : parseChunkSize text = .ok size) :
    0 < size ↔ Substantial (Unicode.toLowercase (trim text.toList)) := by
  unfold parseChunkSize at parsed
  dsimp only at parsed
  generalize Unicode.toLowercase (trim text.toList) = value at parsed
  rw [Substantial]
  split at parsed
  · cases parsed
  rename_i lastChar last
  rw [last, Option.bind_some]
  rw [multiplier_eq] at parsed
  cases known : suffixExponent lastChar with
  | none =>
      simp only [known, Option.map_none] at parsed
      split at parsed
      · cases parsed
      · rename_i word
        cases parsed
        exact parseWord_pos_iff word
  | some exponent =>
      simp only [known, Option.map_some, parseFloat] at parsed
      cases literal : FloatLiteral.parse value.dropLast with
      | none => simp [literal] at parsed
      | some found =>
          simp only [literal, Option.map_some] at parsed
          split at parsed
          · cases parsed
          · rename_i accepted
            cases parsed
            rw [toWord_literal_pos_iff (suffixExponent_le known) accepted]
            simp only [Option.some.injEq]

theorem computeChunkSize_pos_iff {fileSize : Nat} {args : ChunkArgs} {chunkSize : Nat}
    (accepted : computeChunkSize fileSize args = .ok chunkSize) :
    0 < chunkSize ↔ args.Sizeable fileSize := by
  rw [ChunkArgs.Sizeable]
  unfold computeChunkSize at accepted
  split at accepted
  · rename_i count _
    split at accepted
    · cases accepted
    · rename_i some_
      cases accepted
      have positive : 0 < count := Nat.pos_of_ne_zero some_
      rw [lt_divCeil_iff positive, zero_mul]
  · split at accepted
    · rename_i parsed
      cases accepted
      exact parseChunkSize_pos_iff parsed
    · cases accepted

/-- The client comes through its divisions with the chunk size it has computed. -/
structure Divides (fileSize chunkSize : Nat) : Prop where
  positive : 0 < chunkSize
  logged : (checkedDivCeil fileSize chunkSize).isSome
  /-- The file may have another size when the transfer is set up and the handshake is built. -/
  counted : ∀ fileSize, (checkedNumChunks fileSize chunkSize).isSome

/-- With accepted arguments the client divides by a positive chunk size exactly when they give one
to the file. -/
theorem divides_iff {fileSize : Nat} {args : ChunkArgs} {chunkSize : Nat}
    (accepted : computeChunkSize fileSize args = .ok chunkSize) :
    Divides fileSize chunkSize ↔ args.Sizeable fileSize := by
  rw [← computeChunkSize_pos_iff accepted]
  constructor
  · exact Divides.positive
  · intro positive
    refine ⟨positive, ?_, fun fileSize => ?_⟩
    · rw [checkedDivCeil, if_neg positive.ne']
      rfl
    · rw [checkedNumChunks_eq fileSize positive]
      rfl

end Positive

theorem divides_iff_eight_chunks :
    Divides 20 3 ↔ @ChunkArgs.Sizeable .sample ⟨none, some 8⟩ 20 :=
  @divides_iff .sample 20 ⟨none, some 8⟩ 3 rfl

/-- An empty file that is to be cut in one chunk has the chunk size zero. -/
theorem divides_by_zero_empty_file :
    ¬ ∀ fileSize args chunkSize, @computeChunkSize .sample fileSize args = .ok chunkSize →
      Divides fileSize chunkSize := by
  intro divides
  exact absurd (divides 0 ⟨none, some 1⟩ 0 rfl).positive (by decide)

section Counts

variable {fileSize count : Nat}

/-- Cutting into pieces of the size for a number of pieces never gives more of them. -/
theorem divCeil_divCeil_le (some_ : 1 ≤ count) (enough : count ≤ fileSize) :
    divCeil fileSize (divCeil fileSize count) ≤ count := by
  have positive : 0 < divCeil fileSize count := divCeil_pos some_ (by omega)
  by_contra more
  have inside := (lt_divCeil_iff positive count).mp (not_le.mp more)
  have covered : fileSize ≤ divCeil fileSize count * count := le_divCeil_mul some_
  rw [Nat.mul_comm] at covered
  omega

theorem divCeil_divCeil_eq_iff (some_ : 1 ≤ count) (enough : count ≤ fileSize) :
    divCeil fileSize (divCeil fileSize count) = count ↔
      count ∣ fileSize ∨ count ≤ fileSize / count + fileSize % count := by
  have positive : 0 < divCeil fileSize count := divCeil_pos some_ (by omega)
  have most := divCeil_divCeil_le some_ enough
  -- the last piece is there when the pieces before it leave something
  have last : divCeil fileSize (divCeil fileSize count) = count ↔
      (count - 1) * divCeil fileSize count < fileSize := by
    rw [← lt_divCeil_iff positive]
    omega
  have split := Nat.div_add_mod fileSize count
  rw [last, Nat.dvd_iff_mod_eq_zero]
  obtain ⟨before, rfl⟩ : ∃ before, count = before + 1 := ⟨count - 1, by omega⟩
  rw [Nat.add_sub_cancel, divCeil]
  generalize fileSize / (before + 1) = quotient at split ⊢
  generalize fileSize % (before + 1) = remainder at split ⊢
  rw [Nat.add_mul, Nat.one_mul] at split
  split
  · rename_i tail
    rw [Nat.mul_add, Nat.mul_one]
    omega
  · rename_i exact_
    have whole : 0 < quotient := by
      by_contra none_
      have zero : quotient = 0 := by omega
      rw [zero, Nat.mul_zero] at split
      omega
    omega

/-- The client sends the number of chunks it is asked for, and says so in its handshake. -/
structure CutsInto (fileSize chunkSize count : Nat) : Prop where
  sent : numChunks fileSize chunkSize = count
  announced : ∀ (filename : Bytes) (fullHash : Digest),
    readBigEndian (encodeHandshake filename fileSize chunkSize fullHash)
      (Handshake.prefixSize + filename.length + 12) 4 = count

/-- A number of chunks is met exactly when it divides the file or the chunks of one more byte leave
something for the last one, and the handshake has room for it. -/
theorem cutsInto_iff [Unicode] {args : ChunkArgs} {chunkSize : Nat}
    (some_ : 1 ≤ count) (enough : count ≤ fileSize) (asked : args.chunkCount = some count)
    (computed : computeChunkSize fileSize args = .ok chunkSize) :
    CutsInto fileSize chunkSize count ↔
      (count ∣ fileSize ∨ count ≤ fileSize / count + fileSize % count) ∧ count < 2 ^ 32 := by
  have size : chunkSize = divCeil fileSize count := by
    rw [computeChunkSize, asked] at computed
    dsimp only at computed
    rw [if_neg (by omega)] at computed
    cases computed
    rfl
  rw [← divCeil_divCeil_eq_iff some_ enough, ← size]
  constructor
  · rintro ⟨sent, announced⟩
    rw [numChunks_of_pos (by omega)] at sent
    refine ⟨sent, ?_⟩
    rw [← announced [] ⟨List.replicate 32 0, rfl⟩, encodeHandshake_numChunks]
    exact Nat.mod_lt _ (by decide)
  · rintro ⟨sent, small⟩
    have counted : numChunks fileSize chunkSize = count := by
      rw [numChunks_of_pos (by omega), sent]
    refine ⟨counted, fun filename fullHash => ?_⟩
    rw [encodeHandshake_numChunks, counted, Nat.mod_eq_of_lt small]

end Counts

theorem cutsInto_iff_seven_chunks :
    CutsInto 20 3 7 ↔ (7 ∣ 20 ∨ 7 ≤ 20 / 7 + 20 % 7) ∧ 7 < 2 ^ 32 :=
  @cutsInto_iff 20 7 .sample ⟨none, some 7⟩ 3 (by decide) (by decide) rfl rfl

/-- Ten bytes in six chunks: with two bytes in each there are only five. -/
theorem cuts_into_fewer :
    ¬ ∀ fileSize count chunkSize, 1 ≤ count → count ≤ fileSize →
      @computeChunkSize .sample fileSize ⟨none, some count⟩ = .ok chunkSize →
        CutsInto fileSize chunkSize count := by
  intro cuts
  exact absurd (cuts 10 6 2 (by decide) (by decide) rfl).sent (by decide)

end BeeSync.Client
