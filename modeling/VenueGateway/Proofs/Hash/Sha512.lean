import VenueGateway.Hash.Sha512
import VenueGateway.Proofs.Hash.Digest
import Mathlib.Data.Fintype.Basic
import Mathlib.Data.List.GetD
import Mathlib.Tactic.FinCases

/-! # SHA-512 by its standard

The hash of a message is the one digest that the standard gives it. Words, constants and states of the
program are those of the standard; blocks that are cut out of a padded message are its blocks, and a
schedule that is kept backwards is its schedule.
-/

namespace VenueGateway.Sha512

open Digest

/-! ## Words -/

theorem eq_ofBits {x : UInt64} {bits : ℕ → Bool} (same : ∀ i < 64, bit x i = bits i) : x = ofBits bits := by
  apply UInt64.toNat_inj.mp
  have small : Nat.ofBits (fun i : Fin 64 => bits i) < 2 ^ 64 := Nat.ofBits_lt_two_pow _
  rw [ofBits, UInt64.toNat_ofNat', Nat.mod_eq_of_lt small]
  apply Nat.eq_of_testBit_eq
  intro i
  by_cases inside : i < 64
  · rw [Nat.testBit_ofBits_lt _ i inside]
    exact same i inside
  · have high : 2 ^ 64 ≤ 2 ^ i := Nat.pow_le_pow_right (by decide) (by omega)
    rw [Nat.testBit_lt_two_pow (x.toNat_lt.trans_le high), Nat.testBit_lt_two_pow (small.trans_le high)]

theorem bit_xor (x y : UInt64) (i : ℕ) : bit (x ^^^ y) i = (bit x i ^^ bit y i) := by
  rw [bit, UInt64.toNat_xor, Nat.testBit_xor]
  rfl

theorem bit_and (x y : UInt64) (i : ℕ) : bit (x &&& y) i = (bit x i && bit y i) := by
  rw [bit, UInt64.toNat_and, Nat.testBit_and]
  rfl

theorem bit_or (x y : UInt64) (i : ℕ) : bit (x ||| y) i = (bit x i || bit y i) := by
  rw [bit, UInt64.toNat_or, Nat.testBit_or]
  rfl

theorem bit_not (x : UInt64) {i : ℕ} (inside : i < 64) : bit (~~~x) i = !bit x i := by
  change (~~~x).toBitVec.getLsbD i = !x.toBitVec.getLsbD i
  rw [UInt64.toBitVec_not, BitVec.getLsbD_not, decide_eq_true inside, Bool.true_and]

theorem bit_eq_false {x : UInt64} {i : ℕ} (outside : 64 ≤ i) : bit x i = false := by
  have high : 2 ^ 64 ≤ 2 ^ i := Nat.pow_le_pow_right (by decide) outside
  exact Nat.testBit_lt_two_pow (x.toNat_lt.trans_le high)

theorem bit_shiftRight (x places : UInt64) (few : places.toNat < 64) (i : ℕ) :
    bit (x >>> places) i = bit x (i + places.toNat) := by
  rw [bit, UInt64.toNat_shiftRight, Nat.mod_eq_of_lt few, Nat.testBit_shiftRight, Nat.add_comm]
  rfl

theorem bit_shiftLeft (x places : UInt64) (few : places.toNat < 64) {i : ℕ} (inside : i < 64) :
    bit (x <<< places) i = (decide (places.toNat ≤ i) && bit x (i - places.toNat)) := by
  rw [bit, UInt64.toNat_shiftLeft, Nat.mod_eq_of_lt few, Nat.testBit_mod_two_pow, Nat.testBit_shiftLeft,
    decide_eq_true inside, Bool.true_and]
  rfl

/-- Two shifts that meet turn a word around. -/
theorem bit_rotate (x places : UInt64) (some_places : 0 < places.toNat) (few : places.toNat < 64) {i : ℕ}
    (inside : i < 64) : bit (rotate x places) i = around x (i + places.toNat) := by
  have rest : (64 - places).toNat = 64 - places.toNat := by
    rw [UInt64.toNat_sub_of_le _ _ (UInt64.le_iff_toNat_le.mpr (by change _ ≤ 64; omega))]
    rfl
  rw [rotate, bit_or, bit_shiftRight x places few, bit_shiftLeft x _ (by omega) inside, rest, around]
  by_cases low : i + places.toNat < 64
  · have before : ¬ 64 - places.toNat ≤ i := by omega
    rw [decide_eq_false before, Bool.false_and, Bool.or_false, Nat.mod_eq_of_lt low]
    rfl
  · have behind : 64 - places.toNat ≤ i := by omega
    have turned : (i + places.toNat) % 64 = i - (64 - places.toNat) := by omega
    rw [bit_eq_false (by omega), Bool.false_or, decide_eq_true behind, Bool.true_and, turned]
    rfl

theorem bigSigma0_eq (x : UInt64) : bigSigma0 x = Digest.bigSigma0 x := by
  apply eq_ofBits
  intro i inside
  rw [bigSigma0, bit_xor, bit_xor, bit_rotate x 28 (by decide) (by decide) inside,
    bit_rotate x 34 (by decide) (by decide) inside, bit_rotate x 39 (by decide) (by decide) inside]
  rfl

theorem bigSigma1_eq (x : UInt64) : bigSigma1 x = Digest.bigSigma1 x := by
  apply eq_ofBits
  intro i inside
  rw [bigSigma1, bit_xor, bit_xor, bit_rotate x 14 (by decide) (by decide) inside,
    bit_rotate x 18 (by decide) (by decide) inside, bit_rotate x 41 (by decide) (by decide) inside]
  rfl

theorem sigma0_eq (x : UInt64) : sigma0 x = smallSigma0 x := by
  apply eq_ofBits
  intro i inside
  rw [sigma0, bit_xor, bit_xor, bit_rotate x 1 (by decide) (by decide) inside,
    bit_rotate x 8 (by decide) (by decide) inside, bit_shiftRight x 7 (by decide)]
  rfl

theorem sigma1_eq (x : UInt64) : sigma1 x = smallSigma1 x := by
  apply eq_ofBits
  intro i inside
  rw [sigma1, bit_xor, bit_xor, bit_rotate x 19 (by decide) (by decide) inside,
    bit_rotate x 61 (by decide) (by decide) inside, bit_shiftRight x 6 (by decide)]
  rfl

theorem choose_eq (x y z : UInt64) : choose x y z = choice x y z := by
  apply eq_ofBits
  intro i inside
  rw [choose, bit_xor, bit_and, bit_and, bit_not x inside]
  cases bit x i with
  | true => simp
  | false => simp

theorem majority_eq (x y z : UInt64) : majority x y z = Digest.majority x y z := by
  apply eq_ofBits
  intro i _
  rw [majority, bit_xor, bit_xor, bit_and, bit_and, bit_and]
  have all : ∀ a b c : Bool, ((a && b ^^ (a && c)) ^^ (b && c)) = decide (2 ≤ [a, b, c].count true) := by
    decide
  exact all ..

/-! ## Constants -/

theorem primes_eq :
    primes = [2, 3, 5, 7, 11, 13, 17, 19, 23, 29, 31, 37, 41, 43, 47, 53, 59, 61, 67, 71, 73, 79, 83, 89,
      97, 101, 103, 107, 109, 113, 127, 131, 137, 139, 149, 151, 157, 163, 167, 173, 179, 181, 191, 193,
      197, 199, 211, 223, 227, 229, 233, 239, 241, 251, 257, 263, 269, 271, 277, 281, 283, 293, 307, 311,
      313, 317, 331, 337, 347, 349, 353, 359, 367, 373, 379, 383, 389, 397, 401, 409] := by
  have sieved : ∀ n ∈ List.range 410, decide n.Prime =
      decide (2 ≤ n ∧ ∀ d ∈ List.range 21, 2 ≤ d → d < n → n % d ≠ 0) := by
    intro n below
    rw [List.mem_range] at below
    rw [decide_eq_decide]
    constructor
    · intro prime
      refine ⟨prime.two_le, fun d _ large small divided => ?_⟩
      exact (Nat.prime_def_lt'.mp prime).2 d large small (Nat.dvd_of_mod_eq_zero divided)
    · rintro ⟨two, undivided⟩
      refine Nat.prime_def_le_sqrt.mpr ⟨two, fun d large root divides => ?_⟩
      have square : d * d ≤ n := Nat.le_sqrt.mp root
      have few : d < 21 := by nlinarith
      have less : d < n := by nlinarith
      exact undivided d (List.mem_range.mpr few) large less (Nat.mod_eq_zero_of_dvd divides)
  rw [primes, List.filter_congr sieved]
  decide +kernel

theorem isRoot_roundConstants : ∀ t < 80, IsRoot 3 (primes.getD t 0) (roundConstants.getD t 0) := by
  have found : ∀ t < 80, ∃ whole < 8,
      (whole * 2 ^ 64 + (roundConstants.getD t 0).toNat) ^ 3 ≤ primes.getD t 0 * 2 ^ (64 * 3) ∧
        primes.getD t 0 * 2 ^ (64 * 3) < (whole * 2 ^ 64 + (roundConstants.getD t 0).toNat + 1) ^ 3 := by
    rw [primes_eq]
    decide +kernel
  intro t inside
  obtain ⟨whole, -, bounds⟩ := found t inside
  exact ⟨whole, bounds⟩

/-! ## Bytes -/

theorem length_bigEndian (count n : ℕ) : (bigEndian count n).length = count := by
  induction count generalizing n with
  | zero => rfl
  | succ count ih => simp [bigEndian, ih]

theorem value_bigEndian (count n : ℕ) : value (bigEndian count n) = n % 256 ^ count := by
  induction count generalizing n with
  | zero => rw [Nat.pow_zero, Nat.mod_one, bigEndian, value, List.foldl_nil]
  | succ count ih =>
    have last : (UInt8.ofNat (n % 256)).toNat = n % 256 :=
      UInt8.toNat_ofNat_of_lt' (Nat.mod_lt _ (by decide))
    rw [bigEndian, value_concat, ih, last, Nat.pow_succ', Nat.mod_mul]
    omega

theorem value_lt (bytes : List UInt8) : value bytes < 256 ^ bytes.length := by
  induction bytes using List.reverseRecOn with
  | nil => decide
  | append_singleton bytes b ih =>
    have := b.toNat_lt
    rw [value_concat, List.length_append, List.length_singleton, Nat.pow_succ]
    omega

/-- A word of eight bytes has their value. -/
theorem toNat_word {bytes : List UInt8} (short : bytes.length ≤ 8) : (word bytes).toNat = value bytes := by
  induction bytes using List.reverseRecOn with
  | nil => rfl
  | append_singleton bytes b ih =>
    rw [List.length_append, List.length_singleton] at short
    have front := ih (by omega)
    have small : value bytes < 2 ^ 56 :=
      (value_lt bytes).trans_le (Nat.pow_le_pow_right (by decide) (by omega : bytes.length ≤ 7))
    have appended : word (bytes ++ [b]) = word bytes <<< 8 ||| b.toUInt64 := by
      rw [word, List.foldl_append]
      rfl
    have room : (word bytes).toNat <<< 8 < 2 ^ 64 := by
      rw [front, Nat.shiftLeft_eq]
      omega
    have shift : (word bytes <<< 8).toNat = (word bytes).toNat <<< 8 := by
      rw [UInt64.toNat_shiftLeft]
      exact Nat.mod_eq_of_lt room
    rw [appended, UInt64.toNat_or, shift, UInt8.toNat_toUInt64, value_concat, front,
      ← Nat.shiftLeft_add_eq_or_of_lt b.toNat_lt, Nat.shiftLeft_eq]

/-! ## Padding and blocks -/

theorem isPadded_pad (message : List UInt8) : IsPadded message (pad message) := by
  refine ⟨⟨(239 - message.length % 128) % 128, Nat.mod_lt _ (by decide), _, length_bigEndian _ _,
    value_bigEndian 16 _, rfl⟩, ?_⟩
  have length : (pad message).length =
      message.length + ((239 - message.length % 128) % 128 + 1) + 16 := by
    simp only [pad, List.length_append, List.length_cons, List.length_replicate, length_bigEndian]
  rw [length]
  omega

/-- The first pieces of a list make up its front. -/
theorem flatten_pieces_take {α : Type} (size : Nat) (xs : List α) (count : Nat) :
    ((List.range count).map fun i => (xs.drop (i * size)).take size).flatten =
      xs.take (count * size) := by
  induction count with
  | zero => simp
  | succ count ih =>
    rw [List.range_succ, List.map_append, List.flatten_append, ih, Nat.succ_mul, List.take_add]
    simp

/-- Nothing is lost of a list of whole pieces. -/
theorem flatten_pieces {α : Type} {size : Nat} {xs : List α} (whole : size ∣ xs.length) :
    (pieces size xs).flatten = xs := by
  rw [pieces, flatten_pieces_take, Nat.div_mul_cancel whole, List.take_length]

theorem length_of_mem_pieces {α : Type} {size : Nat} {xs piece : List α}
    (member : piece ∈ pieces size xs) : piece.length = size := by
  obtain ⟨i, inside, rfl⟩ := List.mem_map.mp member
  rw [List.mem_range] at inside
  have room : (i + 1) * size ≤ xs.length :=
    Nat.le_trans (Nat.mul_le_mul_right size inside) (Nat.div_mul_le_self xs.length size)
  rw [Nat.succ_mul] at room
  rw [List.length_take, List.length_drop]
  omega

/-! ## Schedules -/

/-- The word at a position of a schedule that is kept with its last word first. -/
def wordAt (done : List UInt64) (t : Nat) : UInt64 := done.reverse.getD t 0

theorem wordAt_cons_of_lt {done : List UInt64} {t : Nat} (inside : t < done.length) (next : UInt64) :
    wordAt (next :: done) t = wordAt done t := by
  rw [wordAt, wordAt, List.reverse_cons, List.getD_append _ _ _ _ (by simpa using inside)]

theorem wordAt_cons_length (done : List UInt64) (next : UInt64) :
    wordAt (next :: done) done.length = next := by
  rw [wordAt, List.reverse_cons, List.getD_append_right _ _ _ _ (by simp)]
  simp

/-- Counted from the front, a word of the kept list is counted from the back. -/
theorem getElem?_eq_wordAt {done : List UInt64} {i : Nat} (inside : i < done.length) :
    done[i]? = some (wordAt done (done.length - 1 - i)) := by
  have back : done.length - 1 - (done.length - 1 - i) = i := by omega
  rw [wordAt, List.getD_eq_getElem?_getD, List.getElem?_reverse (by omega), back,
    List.getElem?_eq_getElem inside]
  rfl

/-- The next word is mixed out of the words 2, 7, 15 and 16 before it. -/
theorem nextWord_eq {done : List UInt64} {t : Nat} (length : done.length = t + 16) :
    nextWord done = sigma1 (wordAt done (t + 14)) + wordAt done (t + 9) +
      sigma0 (wordAt done (t + 1)) + wordAt done t := by
  have at1 : done[1]? = some (wordAt done (t + 14)) := by
    rw [getElem?_eq_wordAt (by omega), length]
    rfl
  have at6 : done[6]? = some (wordAt done (t + 9)) := by
    rw [getElem?_eq_wordAt (by omega), length]
    rfl
  have at14 : done[14]? = some (wordAt done (t + 1)) := by
    rw [getElem?_eq_wordAt (by omega), length]
    rfl
  have at15 : done[15]? = some (wordAt done t) := by
    rw [getElem?_eq_wordAt (by omega), length]
    rfl
  rw [nextWord, at1, at6, at14, at15]

theorem length_extend (more : Nat) (done : List UInt64) :
    (extend more done).length = done.length + more := by
  induction more generalizing done with
  | zero => rfl
  | succ more ih =>
    rw [extend, ih, List.length_cons]
    omega

/-- Extending keeps the words that are there. -/
theorem wordAt_extend_of_lt (more : Nat) {done : List UInt64} {t : Nat} (inside : t < done.length) :
    wordAt (extend more done) t = wordAt done t := by
  induction more generalizing done with
  | zero => rfl
  | succ more ih =>
    rw [extend, ih (by simp only [List.length_cons]; omega), wordAt_cons_of_lt inside]

/-- Each added word obeys the recurrence. -/
theorem wordAt_extend (more : Nat) {done : List UInt64} {t : Nat} (long : 16 ≤ done.length)
    (old : done.length ≤ t + 16) (new : t + 16 < done.length + more) :
    wordAt (extend more done) (t + 16) =
      sigma1 (wordAt (extend more done) (t + 14)) + wordAt (extend more done) (t + 9) +
        sigma0 (wordAt (extend more done) (t + 1)) + wordAt (extend more done) t := by
  induction more generalizing done with
  | zero => omega
  | succ more ih =>
    rw [extend]
    by_cases first : done.length = t + 16
    · have keeps : ∀ s < t + 16, wordAt (extend more (nextWord done :: done)) s = wordAt done s := by
        intro s before
        rw [wordAt_extend_of_lt more (by simp only [List.length_cons]; omega),
          wordAt_cons_of_lt (by omega)]
      rw [keeps (t + 14) (by omega), keeps (t + 9) (by omega), keeps (t + 1) (by omega),
        keeps t (by omega), wordAt_extend_of_lt more (by simp only [List.length_cons]; omega), ← first,
        wordAt_cons_length]
      exact nextWord_eq first
    · apply ih
      · simp only [List.length_cons]
        omega
      · simp only [List.length_cons]
        omega
      · simp only [List.length_cons]
        omega

theorem length_pieces {α : Type} (size : Nat) (xs : List α) :
    (pieces size xs).length = xs.length / size := by
  rw [pieces, List.length_map, List.length_range]

theorem length_schedule {block : List UInt8} (length : block.length = 128) :
    (schedule block).length = 80 := by
  rw [schedule, List.length_reverse, length_extend, List.length_reverse, List.length_map,
    length_pieces, length]

/-- The schedule is that of the standard. -/
theorem isSchedule_schedule {block : List UInt8} (length : block.length = 128) :
    IsSchedule block fun t => (schedule block).getD t 0 := by
  have sixteen : ((pieces 8 block).map word).reverse.length = 16 := by
    rw [List.length_reverse, List.length_map, length_pieces, length]
  refine ⟨?given, ?mixed⟩
  case given =>
    intro t inside
    have piece : (pieces 8 block)[t]? = some ((block.drop (t * 8)).take 8) := by
      have within : t < block.length / 8 := by omega
      rw [pieces, List.getElem?_map, List.getElem?_range within]
      rfl
    change (wordAt (extend 64 _) t).toNat = _
    rw [wordAt_extend_of_lt 64 (by omega), wordAt, List.reverse_reverse, List.getD_eq_getElem?_getD,
      List.getElem?_map, piece]
    exact toNat_word (List.length_take_le _ _)
  case mixed =>
    intro t inside
    rw [← sigma0_eq, ← sigma1_eq]
    exact wordAt_extend 64 (by omega) (by omega) (by omega)

/-! ## Rounds and states -/

def State.asWords (s : State) : Words := ![s.a, s.b, s.c, s.d, s.e, s.f, s.g, s.h]

theorem isRoot_initial : ∀ i : Fin 8, IsRoot 2 (primes.getD i 0) (State.initial.asWords i) := by
  have found : ∀ i : Fin 8, ∃ whole < 5,
      (whole * 2 ^ 64 + (State.initial.asWords i).toNat) ^ 2 ≤ primes.getD i 0 * 2 ^ (64 * 2) ∧
        primes.getD i 0 * 2 ^ (64 * 2) < (whole * 2 ^ 64 + (State.initial.asWords i).toNat + 1) ^ 2 := by
    rw [primes_eq]
    decide +kernel
  intro i
  obtain ⟨whole, -, bounds⟩ := found i
  exact ⟨whole, bounds⟩

theorem asWords_round (s : State) (constant scheduled : UInt64) :
    (s.round constant scheduled).asWords = Digest.round constant scheduled s.asWords := by
  rw [State.round, bigSigma0_eq, bigSigma1_eq, choose_eq, majority_eq]
  rfl

theorem asWords_add (s t : State) : (s.add t).asWords = fun i => s.asWords i + t.asWords i := by
  funext i
  fin_cases i <;> rfl

/-- Rounds over two lists side by side are rounds by position. -/
theorem asWords_foldl_round {words : List UInt64} (length : words.length = roundConstants.length)
    (s : State) (count : ℕ) (inside : count ≤ roundConstants.length) :
    (((roundConstants.zip words).take count).foldl (fun s kw => s.round kw.1 kw.2) s).asWords =
      rounds (roundConstants.getD · 0) (words.getD · 0) s.asWords count := by
  induction count with
  | zero => rfl
  | succ count ih =>
    have before : count < roundConstants.length := inside
    have pair : (roundConstants.zip words)[count]? =
        some (roundConstants.getD count 0, words.getD count 0) := by
      rw [List.getElem?_zip_eq_some]
      constructor
      · simp [List.getElem?_eq_getElem before]
      · simp [List.getElem?_eq_getElem (length ▸ before)]
    rw [List.take_add_one, pair, List.foldl_append, rounds, ← ih (by omega), ← asWords_round]
    rfl

theorem asWords_compress (s : State) {block : List UInt8} (length : block.length = 128) :
    (s.compress block).asWords = fun i =>
      s.asWords i + rounds (roundConstants.getD · 0) ((schedule block).getD · 0) s.asWords 80 i := by
  have eighty : (schedule block).length = roundConstants.length := length_schedule length
  have all : (roundConstants.zip (schedule block)).take 80 = roundConstants.zip (schedule block) := by
    apply List.take_of_length_le
    rw [List.length_zip, eighty, Nat.min_self]
    decide
  rw [State.compress, asWords_add, ← asWords_foldl_round eighty s 80 (by decide), all]

theorem chains_foldl {blocks : List (List UInt8)} (lengths : ∀ block ∈ blocks, block.length = 128)
    (s : State) : Chains (roundConstants.getD · 0) s.asWords blocks
      (blocks.foldl State.compress s).asWords := by
  induction blocks generalizing s with
  | nil => exact .nil s.asWords
  | cons block rest ih =>
    have length := lengths block List.mem_cons_self
    have later := ih (fun _ member => lengths _ (List.mem_cons_of_mem _ member)) (s.compress block)
    rw [asWords_compress s length] at later
    exact .cons (isSchedule_schedule length) later

/-! ## Digests -/

theorem length_hash (message : List UInt8) : (hash message).length = 64 := by
  simp [hash, State.words, length_bigEndian]

theorem wordValue_flatMap {words : List UInt64} {t : ℕ} (inside : t < words.length) :
    wordValue (words.flatMap fun w => bigEndian 8 w.toNat) t = words[t].toNat := by
  induction words generalizing t with
  | nil => cases inside
  | cons w words ih =>
    have length : (bigEndian 8 w.toNat).length = 8 := length_bigEndian 8 _
    rw [wordValue, List.flatMap_cons]
    cases t with
    | zero =>
      rw [Nat.zero_mul, List.drop_zero, List.take_append_of_le_length length.ge, List.take_of_length_le length.le,
        value_bigEndian]
      exact Nat.mod_eq_of_lt w.toNat_lt
    | succ t =>
      have skip : (t + 1) * 8 = (bigEndian 8 w.toNat).length + t * 8 := by omega
      rw [skip, List.drop_length_add_append]
      exact ih (Nat.lt_of_succ_lt_succ inside)

/-- The bytes of a state write its words. -/
theorem wordValue_words (s : State) (i : Fin 8) :
    (s.asWords i).toNat = wordValue (s.words.flatMap fun w => bigEndian 8 w.toNat) i := by
  have listed : s.words[i] = s.asWords i := by
    fin_cases i <;> rfl
  have inside : (i : ℕ) < s.words.length := i.isLt
  rw [← listed]
  exact (wordValue_flatMap inside).symm

theorem isDigest_hash (message : List UInt8) : IsDigest message (hash message) := by
  have lengths : ∀ block ∈ pieces 128 (pad message), block.length = 128 :=
    fun _ member => length_of_mem_pieces member
  refine ⟨length_hash message, _, _, _, pieces 128 (pad message), isRoot_roundConstants, isRoot_initial,
    ?padded, lengths, chains_foldl lengths .initial, wordValue_words _⟩
  case padded =>
    rw [flatten_pieces (isPadded_pad message).whole]
    exact isPadded_pad message

/-- The hash of a message is its digest by the standard. -/
theorem isDigest_iff {message digest : List UInt8} : IsDigest message digest ↔ digest = hash message := by
  constructor
  · intro found
    exact found.unique (isDigest_hash message)
  · rintro rfl
    exact isDigest_hash message

end VenueGateway.Sha512
