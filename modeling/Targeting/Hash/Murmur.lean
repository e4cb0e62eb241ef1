/-!
# Murmur hashing

The third Murmur hash over bytes, in its 32-bit form and in its 128-bit form for 32-bit words. Both
read the input as little-endian words; the bytes after the last whole word form a last word filled
up with zeros, which is mixed into the hash without the round that a whole word gets.
-/

namespace Targeting.Murmur

/-- Rotate a word to the left. -/
def rotate (word amount : UInt32) : UInt32 :=
  (word <<< amount) ||| (word >>> (32 - amount))

/-- Bytes split into little-endian words, with the word of the remaining zero to three bytes. -/
structure Words where
  /-- The whole words in order. -/
  whole : List UInt32
  /-- The remaining bytes, filled up with zeros. -/
  last : UInt32

/-- The word of four bytes, least significant first. -/
def word (first second third fourth : UInt8) : UInt32 :=
  first.toUInt32 ||| (second.toUInt32 <<< 8) ||| (third.toUInt32 <<< 16) |||
    (fourth.toUInt32 <<< 24)

/-- Split bytes into words. -/
def Words.ofBytes : List UInt8 → Words
  | first :: second :: third :: fourth :: rest =>
      let words := Words.ofBytes rest
      { words with whole := word first second third fourth :: words.whole }
  | [first, second, third] => ⟨[], word first second third 0⟩
  | [first, second] => ⟨[], word first second 0 0⟩
  | [first] => ⟨[], word first 0 0 0⟩
  | [] => ⟨[], 0⟩

/-- Spread the bits of a word over all of its positions. -/
def avalanche (word : UInt32) : UInt32 :=
  let word := (word ^^^ (word >>> 16)) * 0x85ebca6b
  let word := (word ^^^ (word >>> 13)) * 0xc2b2ae35
  word ^^^ (word >>> 16)

/-- Scramble an input word between two multiplications. -/
def scramble (word before : UInt32) (amount : UInt32) (after : UInt32) : UInt32 :=
  rotate (word * before) amount * after

/-- Scramble an input word of the 32-bit form. -/
def scramble32 (word : UInt32) : UInt32 := scramble word 0xcc9e2d51 15 0x1b873593

/-- The round of one whole word in the 32-bit form. -/
def round32 (hash word : UInt32) : UInt32 :=
  rotate (hash ^^^ scramble32 word) 13 * 5 + 0xe6546b64

/-- The 32-bit hash of bytes. -/
def hash32 (bytes : List UInt8) (seed : UInt32) : UInt32 :=
  let words := Words.ofBytes bytes
  let body := words.whole.foldl round32 seed ^^^ scramble32 words.last
  avalanche (body ^^^ UInt32.ofNat bytes.length)

/-- Four words: the state and the result of the 128-bit form. -/
structure Lanes where
  first : UInt32
  second : UInt32
  third : UInt32
  fourth : UInt32
deriving DecidableEq, Repr

namespace Lanes

/-- Scramble four input words, each with constants of its own. -/
def scramble (block : Lanes) : Lanes where
  first := Murmur.scramble block.first 0x239b961b 15 0xab0e9789
  second := Murmur.scramble block.second 0xab0e9789 16 0x38b34ae5
  third := Murmur.scramble block.third 0x38b34ae5 17 0xa1e38b93
  fourth := Murmur.scramble block.fourth 0xa1e38b93 18 0x239b961b

/-- Combine two states lane by lane. -/
def xor (left right : Lanes) : Lanes :=
  ⟨left.first ^^^ right.first, left.second ^^^ right.second, left.third ^^^ right.third,
    left.fourth ^^^ right.fourth⟩

/-- The round of four whole words: each lane takes in its word and then the next lane. -/
def round (state block : Lanes) : Lanes :=
  let mixed := block.scramble
  let first := (rotate (state.first ^^^ mixed.first) 19 + state.second) * 5 + 0x561ccd1b
  let second := (rotate (state.second ^^^ mixed.second) 17 + state.third) * 5 + 0x0bcaa747
  let third := (rotate (state.third ^^^ mixed.third) 15 + state.fourth) * 5 + 0x96cd1c35
  let fourth := (rotate (state.fourth ^^^ mixed.fourth) 13 + first) * 5 + 0x32ac3b17
  ⟨first, second, third, fourth⟩

/-- Add every lane to the first, and then the first to every other. -/
def gather (state : Lanes) : Lanes :=
  let first := state.first + state.second + state.third + state.fourth
  ⟨first, state.second + first, state.third + first, state.fourth + first⟩

/-- Apply a function to every lane. -/
def map (change : UInt32 → UInt32) (state : Lanes) : Lanes :=
  ⟨change state.first, change state.second, change state.third, change state.fourth⟩

/-- Take in all words, four at a time; the last block is filled up with zeros. -/
def absorb (state : Lanes) (last : UInt32) : List UInt32 → Lanes
  | first :: second :: third :: fourth :: rest =>
      (state.round ⟨first, second, third, fourth⟩).absorb last rest
  | [first, second, third] => state.xor (scramble ⟨first, second, third, last⟩)
  | [first, second] => state.xor (scramble ⟨first, second, last, 0⟩)
  | [first] => state.xor (scramble ⟨first, last, 0, 0⟩)
  | [] => state.xor (scramble ⟨last, 0, 0, 0⟩)

/-- Four words as one number, the first word in its lowest bits. -/
def packed (lanes : Lanes) : BitVec 128 :=
  lanes.fourth.toBitVec ++ lanes.third.toBitVec ++ lanes.second.toBitVec ++ lanes.first.toBitVec

/-- The four words of one number, the first word in its lowest bits. -/
def ofPacked (number : BitVec 128) : Lanes where
  first := ⟨number.setWidth 32⟩
  second := ⟨(number >>> 32).setWidth 32⟩
  third := ⟨(number >>> 64).setWidth 32⟩
  fourth := ⟨(number >>> 96).setWidth 32⟩

theorem toNat_append_word {width : Nat} (high : BitVec width) (low : UInt32) :
    (high ++ low.toBitVec).toNat = high.toNat * (1 <<< 32) + low.toNat := by
  rw [BitVec.toNat_append, ← Nat.shiftLeft_add_eq_or_of_lt low.toBitVec.isLt, Nat.shiftLeft_eq]
  rfl

theorem toNat_packed (lanes : Lanes) :
    lanes.packed.toNat =
      ((lanes.fourth.toNat * (1 <<< 32) + lanes.third.toNat) * (1 <<< 32) + lanes.second.toNat) *
        (1 <<< 32) + lanes.first.toNat := by
  simp only [packed, toNat_append_word, UInt32.toNat_toBitVec]

@[simp]
theorem packed_ofPacked (number : BitVec 128) : (ofPacked number).packed = number := by
  apply BitVec.eq_of_toNat_eq
  have small := number.isLt
  simp only [toNat_packed, ofPacked, ← UInt32.toNat_toBitVec, BitVec.toNat_setWidth,
    BitVec.toNat_ushiftRight, Nat.shiftRight_eq_div_pow, Nat.reduceShiftLeft]
  omega

@[simp]
theorem ofPacked_packed (lanes : Lanes) : ofPacked lanes.packed = lanes := by
  have whole := lanes.toNat_packed
  have firstSmall := lanes.first.toNat_lt
  have secondSmall := lanes.second.toNat_lt
  have thirdSmall := lanes.third.toNat_lt
  have fourthSmall := lanes.fourth.toNat_lt
  have same : ∀ {bits : BitVec 32} {word : UInt32}, bits.toNat = word.toNat → ⟨bits⟩ = word :=
    fun equal => UInt32.toNat_inj.mp equal
  cases lanes
  simp only [ofPacked, mk.injEq]
  refine ⟨same ?_, same ?_, same ?_, same ?_⟩
  all_goals
    simp only [BitVec.toNat_setWidth, BitVec.toNat_ushiftRight, Nat.shiftRight_eq_div_pow, whole,
      Nat.reduceShiftLeft] at *
    omega

end Lanes

/-- The 128-bit hash of bytes, as one number. -/
def packedHash128 (bytes : List UInt8) (seed : UInt32) : BitVec 128 :=
  let words := Words.ofBytes bytes
  let body := Lanes.absorb ⟨seed, seed, seed, seed⟩ words.last words.whole
  (((body.map (· ^^^ UInt32.ofNat bytes.length)).gather).map avalanche).gather.packed

/-- The 128-bit hash of bytes, as four words. -/
def hash128 (bytes : List UInt8) (seed : UInt32) : Lanes := .ofPacked (packedHash128 bytes seed)

end Targeting.Murmur
