import Mathlib.Algebra.Order.Ring.Nat
import Mathlib.Data.Fin.VecNotation
import Mathlib.Data.List.Induction
import Mathlib.Data.Nat.Bitwise
import Mathlib.Data.Nat.Prime.Basic
import Mathlib.Tactic.Linarith

/-! # Digests by their standard

`IsDigest` is SHA-512 as FIPS 180-4 describes it, without a program. Words are mixed bit by bit, the
constants are fraction bits of roots of primes, and numbers are bytes with a value. A message is padded to
blocks, a block has its schedule by a recurrence, and states are chained from block to block. None of it
says how a block is cut out or a schedule is kept, and still a message has one digest.
-/

namespace VenueGateway.Digest

/-! ## Words -/

/-- A bit of a word, counted from the last one and around. -/
def around (x : UInt64) (i : ℕ) : Bool := x.toNat.testBit (i % 64)

/-- A bit of a word, with zeros in front of the word. -/
def bit (x : UInt64) (i : ℕ) : Bool := x.toNat.testBit i

def ofBits (bits : ℕ → Bool) : UInt64 := .ofNat (Nat.ofBits fun i : Fin 64 => bits i)

/-- What the fifth word of a state adds to a round. -/
def bigSigma1 (x : UInt64) : UInt64 :=
  ofBits fun i => (around x (i + 14) ^^ around x (i + 18)) ^^ around x (i + 41)

/-- What the first word of a state adds to a round. -/
def bigSigma0 (x : UInt64) : UInt64 :=
  ofBits fun i => (around x (i + 28) ^^ around x (i + 34)) ^^ around x (i + 39)

def smallSigma1 (x : UInt64) : UInt64 :=
  ofBits fun i => (around x (i + 19) ^^ around x (i + 61)) ^^ bit x (i + 6)

def smallSigma0 (x : UInt64) : UInt64 :=
  ofBits fun i => (around x (i + 1) ^^ around x (i + 8)) ^^ bit x (i + 7)

/-- Each bit is taken from the second word or the third, as the first one says. -/
def choice (x y z : UInt64) : UInt64 := ofBits fun i => if bit x i then bit y i else bit z i

/-- Each bit is that of most of the three words. -/
def majority (x y z : UInt64) : UInt64 :=
  ofBits fun i => 2 ≤ [bit x i, bit y i, bit z i].count true

/-! ## Constants -/

/-- The primes below 410, of which there are eighty. -/
def primes : List ℕ := (List.range 410).filter Nat.Prime

/-- The first 64 bits behind the point of a root of a number. -/
def IsRoot (degree n : ℕ) (fraction : UInt64) : Prop :=
  ∃ whole, (whole * 2 ^ 64 + fraction.toNat) ^ degree ≤ n * 2 ^ (64 * degree) ∧
    n * 2 ^ (64 * degree) < (whole * 2 ^ 64 + fraction.toNat + 1) ^ degree

/-! ## Bytes -/

/-- The number that bytes write, the highest first. -/
def value (bytes : List UInt8) : ℕ := bytes.foldl (fun v b => v * 256 + b.toNat) 0

/-- The number that the eight bytes of a word write. -/
def wordValue (bytes : List UInt8) (t : ℕ) : ℕ := value ((bytes.drop (t * 8)).take 8)

/-- A message padded to whole blocks: a one bit, the fewest zeros that leave sixteen bytes of the last
block, and there the length of the message in bits. -/
structure IsPadded (message padded : List UInt8) : Prop where
  shape : ∃ zeros < 128, ∃ bits : List UInt8, bits.length = 16 ∧
    value bits = 8 * message.length % 2 ^ 128 ∧
    padded = message ++ 0x80 :: List.replicate zeros 0 ++ bits
  whole : 128 ∣ padded.length

/-! ## States -/

abbrev Words := Fin 8 → UInt64

/-- The eighty words that a block is hashed by: its own sixteen, and each further one out of four
before it. -/
structure IsSchedule (block : List UInt8) (words : ℕ → UInt64) : Prop where
  given : ∀ t < 16, (words t).toNat = wordValue block t
  mixed : ∀ t < 64, words (t + 16) =
    smallSigma1 (words (t + 14)) + words (t + 9) + smallSigma0 (words (t + 1)) + words t

/-- The state after a round, with the constant and the word of the schedule that it takes. -/
def round (constant scheduled : UInt64) (s : Words) : Words :=
  let first := s 7 + bigSigma1 (s 4) + choice (s 4) (s 5) (s 6) + constant + scheduled
  let second := bigSigma0 (s 0) + majority (s 0) (s 1) (s 2)
  ![first + second, s 0, s 1, s 2, s 3 + first, s 4, s 5, s 6]

/-- The first `count` rounds. -/
def rounds (constants words : ℕ → UInt64) (s : Words) : ℕ → Words
  | 0 => s
  | count + 1 => round (constants count) (words count) (rounds constants words s count)

/-- The states from one block to the next. -/
inductive Chains (constants : ℕ → UInt64) : Words → List (List UInt8) → Words → Prop
  | nil (s : Words) : Chains constants s [] s
  | cons {s last : Words} {block : List UInt8} {words : ℕ → UInt64} {rest : List (List UInt8)} :
    IsSchedule block words →
      Chains constants (fun i => s i + rounds constants words s 80 i) rest last →
      Chains constants s (block :: rest) last

/-- The digest of a message. -/
structure IsDigest (message digest : List UInt8) : Prop where
  length : digest.length = 64
  hashed : ∃ (constants : ℕ → UInt64) (initial last : Words) (blocks : List (List UInt8)),
    (∀ t < 80, IsRoot 3 (primes.getD t 0) (constants t)) ∧
    (∀ i : Fin 8, IsRoot 2 (primes.getD i 0) (initial i)) ∧
    IsPadded message blocks.flatten ∧ (∀ block ∈ blocks, block.length = 128) ∧
    Chains constants initial blocks last ∧
    ∀ i : Fin 8, (last i).toNat = wordValue digest i

/-! ## What is said once -/

theorem IsRoot.unique {degree n : ℕ} {fraction other : UInt64} (first : IsRoot degree n fraction)
    (second : IsRoot degree n other) : fraction = other := by
  obtain ⟨whole, below, above⟩ := first
  obtain ⟨whole', below', above'⟩ := second
  have upper := lt_of_pow_lt_pow_left₀ degree (Nat.zero_le _) (below.trans_lt above')
  have lower := lt_of_pow_lt_pow_left₀ degree (Nat.zero_le _) (below'.trans_lt above)
  have := fraction.toNat_lt
  have := other.toNat_lt
  apply UInt64.toNat_inj.mp
  omega

theorem value_concat (bytes : List UInt8) (b : UInt8) :
    value (bytes ++ [b]) = value bytes * 256 + b.toNat := by
  rw [value, value, List.foldl_append]
  rfl

/-- Bytes are known by how many they are and what they write. -/
theorem eq_of_value_eq {bytes others : List UInt8} (length : bytes.length = others.length)
    (same : value bytes = value others) : bytes = others := by
  induction bytes using List.reverseRecOn generalizing others with
  | nil => exact (List.length_eq_zero_iff.mp length.symm).symm
  | append_singleton bytes b ih =>
    obtain rfl | ⟨others, c, rfl⟩ := others.eq_nil_or_concat
    · simp at length
    · rw [List.concat_eq_append] at *
      rw [value_concat, value_concat] at same
      have := b.toNat_lt
      have := c.toNat_lt
      have front : bytes = others := ih (by simpa using length) (by omega)
      have back : b = c := UInt8.toNat_inj.mp (by omega)
      rw [front, back]

/-- There is one way to pad a message. -/
theorem IsPadded.unique {message padded other : List UInt8} (first : IsPadded message padded)
    (second : IsPadded message other) : padded = other := by
  obtain ⟨⟨zeros, few, bits, sixteen, told, rfl⟩, whole⟩ := first
  obtain ⟨⟨zeros', few', bits', sixteen', told', rfl⟩, whole'⟩ := second
  simp only [List.length_append, List.length_cons, List.length_replicate, sixteen, sixteen'] at whole whole'
  have same : zeros = zeros' := by omega
  have alike : bits = bits' := eq_of_value_eq (sixteen.trans sixteen'.symm) (told.trans told'.symm)
  rw [same, alike]

/-- A block has one schedule. -/
theorem IsSchedule.unique {block : List UInt8} {words others : ℕ → UInt64}
    (first : IsSchedule block words) (second : IsSchedule block others) :
    ∀ t < 80, words t = others t := by
  intro t
  induction t using Nat.strongRecOn with
  | ind t ih =>
    intro inside
    by_cases early : t < 16
    · exact UInt64.toNat_inj.mp ((first.given t early).trans (second.given t early).symm)
    · obtain ⟨s, rfl⟩ : ∃ s, t = s + 16 := ⟨t - 16, by omega⟩
      rw [first.mixed s (by omega), second.mixed s (by omega), ih (s + 14) (by omega) (by omega),
        ih (s + 9) (by omega) (by omega), ih (s + 1) (by omega) (by omega),
        ih s (by omega) (by omega)]

theorem rounds_congr {constants others words more : ℕ → UInt64} (s : Words) (count : ℕ)
    (constant : ∀ t < count, constants t = others t) (scheduled : ∀ t < count, words t = more t) :
    rounds constants words s count = rounds others more s count := by
  induction count with
  | zero => rfl
  | succ count ih =>
    rw [rounds, rounds, constant count (by omega), scheduled count (by omega),
      ih (fun t before => constant t (by omega)) (fun t before => scheduled t (by omega))]

theorem Chains.unique {constants others : ℕ → UInt64} (same : ∀ t < 80, constants t = others t)
    {s last other : Words} {blocks : List (List UInt8)} (first : Chains constants s blocks last)
    (second : Chains others s blocks other) : last = other := by
  induction first with
  | nil s =>
    cases second
    rfl
  | @cons s last block words rest schedule _ ih =>
    cases second with
    | cons schedule' tail =>
      apply ih
      rwa [rounds_congr s 80 same (schedule.unique schedule')]

/-- Blocks are known by what they make up together. -/
theorem flatten_injective {size : ℕ} (positive : 0 < size) {blocks others : List (List UInt8)}
    (blockLength : ∀ block ∈ blocks, block.length = size)
    (otherLength : ∀ block ∈ others, block.length = size)
    (same : blocks.flatten = others.flatten) : blocks = others := by
  induction blocks generalizing others with
  | nil =>
    cases others with
    | nil => rfl
    | cons other rest =>
      have lengths := congrArg List.length same
      have := otherLength other List.mem_cons_self
      simp only [List.flatten_nil, List.length_nil, List.flatten_cons, List.length_append] at lengths
      omega
  | cons block rest ih =>
    have here := blockLength block List.mem_cons_self
    cases others with
    | nil =>
      have lengths := congrArg List.length same
      simp only [List.flatten_nil, List.length_nil, List.flatten_cons, List.length_append] at lengths
      omega
    | cons other more =>
      have there := otherLength other List.mem_cons_self
      rw [List.flatten_cons, List.flatten_cons] at same
      obtain ⟨rfl, tails⟩ := List.append_inj same (here.trans there.symm)
      rw [ih (fun _ member => blockLength _ (List.mem_cons_of_mem _ member))
        (fun _ member => otherLength _ (List.mem_cons_of_mem _ member)) tails]

/-- Bytes of whole words are known by their words. -/
theorem eq_of_wordValue_eq {count : ℕ} {bytes others : List UInt8} (length : bytes.length = count * 8)
    (otherLength : others.length = count * 8)
    (same : ∀ t < count, wordValue bytes t = wordValue others t) : bytes = others := by
  induction count generalizing bytes others with
  | zero =>
    rw [Nat.zero_mul] at length otherLength
    rw [List.length_eq_zero_iff.mp length, List.length_eq_zero_iff.mp otherLength]
  | succ count ih =>
    have front : bytes.take 8 = others.take 8 := by
      apply eq_of_value_eq
      · rw [List.length_take, List.length_take, length, otherLength]
      · simpa [wordValue] using same 0 (by omega)
    have back : bytes.drop 8 = others.drop 8 := by
      apply ih
      · rw [List.length_drop]
        omega
      · rw [List.length_drop]
        omega
      · intro t inside
        have shifted := same (t + 1) (by omega)
        rw [wordValue, wordValue, Nat.succ_mul, Nat.add_comm] at shifted
        rwa [wordValue, wordValue, List.drop_drop, List.drop_drop]
    rw [← List.take_append_drop 8 bytes, front, back, List.take_append_drop]

theorem IsDigest.unique {message digest other : List UInt8} (first : IsDigest message digest)
    (second : IsDigest message other) : digest = other := by
  obtain ⟨length, constants, initial, last, blocks, roots, squares, padded, lengths, chains, words⟩ := first
  obtain ⟨length', constants', initial', last', blocks', roots', squares', padded', lengths', chains',
    words'⟩ := second
  obtain rfl := flatten_injective (by decide) lengths lengths' (padded.unique padded')
  obtain rfl : initial = initial' := funext fun i => (squares i).unique (squares' i)
  obtain rfl := chains.unique (fun t inside => (roots t inside).unique (roots' t inside)) chains'
  have words_count : digest.length = 8 * 8 := length
  apply eq_of_wordValue_eq words_count length'
  intro t inside
  exact (words ⟨t, inside⟩).symm.trans (words' ⟨t, inside⟩)

end VenueGateway.Digest
