import Targeting.Hash.Bucket

/-!
# Hashes as words and as text

The 128-bit hash of a key is computed as one number. It is handed out in three forms: as the four
words of that number, as their hexadecimal text, and as the number that the first two words make.
The forms are made apart from one another, each with an order and a width of its own, and yet they
tell the same. The words can be read off the text, and the upper half of the hash is what the first
half of the text says.
-/

namespace Targeting

namespace Hex

/-- Eight characters of a text, the first eight being group zero. -/
def group (index : Nat) (text : List Char) : List Char := (text.drop (8 * index)).take 8

theorem group_zero_digits (number : Nat) (rest : List Char) :
    group 0 (digits 8 number ++ rest) = digits 8 number := by
  simp [group]

theorem group_succ_digits (index number : Nat) (rest : List Char) :
    group (index + 1) (digits 8 number ++ rest) = group index rest := by
  have full : 8 * (index + 1) = (digits 8 number).length + 8 * index := by
    rw [length_digits]
    omega
  rw [group, group, full, List.drop_append, List.drop_of_length_le (Nat.le_add_right _ _),
    Nat.add_sub_cancel_left, List.nil_append]

theorem digit_mem {value : Nat} (small : value < 16) :
    digit value ∈ "0123456789abcdef".toList := by
  revert value
  decide

theorem digits_subset (width number : Nat) : digits width number ⊆ "0123456789abcdef".toList := by
  induction width generalizing number with
  | zero => exact List.nil_subset _
  | succ width ih =>
      intro character written
      rcases List.mem_append.mp written with front | last
      · exact ih _ front
      · rw [List.mem_singleton.mp last]
        exact digit_mem (Nat.mod_lt _ (by decide))

/-- Eight digits are enough for a word. -/
theorem readFrom?_digits_word (seen : Nat) (word : UInt32) :
    readFrom? seen (digits 8 word.toNat) = some (seen * 4294967296 + word.toNat) := by
  have power : Nat.pow 16 8 = 4294967296 := by decide
  have small : word.toNat < 4294967296 := word.toNat_lt
  rw [readFrom?_digits, power, Nat.mod_eq_of_lt small]

theorem read?_digits_word (word : UInt32) : read? (digits 8 word.toNat) = some word.toNat := by
  simpa [read?] using readFrom?_digits_word 0 word

end Hex

/-- Two words side by side, the higher one shifted out of the way of the lower one. -/
theorem toNat_shiftLeft_or (high low : UInt32) :
    ((high.toUInt64 <<< 32) ||| low.toUInt64).toNat = high.toNat * 4294967296 + low.toNat := by
  have small : high.toNat < 4294967296 := high.toNat_lt
  have apart := Nat.shiftLeft_add_eq_or_of_lt low.toNat_lt high.toNat
  rw [UInt64.toNat_or, UInt64.toNat_shiftLeft, UInt32.toNat_toUInt64, UInt32.toNat_toUInt64]
  simp only [Nat.shiftLeft_eq, UInt64.reduceToNat, Nat.reduceMod, Nat.reducePow] at apart ⊢
  rw [Nat.mod_eq_of_lt (by omega), ← apart]

namespace Murmur.Lanes

/-- A text of thirty-two digits in lower case whose groups of eight say four words in order. -/
structure IsSpelled (lanes : Lanes) (text : String) : Prop where
  length_eq : text.length = 32
  lowerCase : text.toList ⊆ "0123456789abcdef".toList
  first : Hex.read? (Hex.group 0 text.toList) = some lanes.first.toNat
  second : Hex.read? (Hex.group 1 text.toList) = some lanes.second.toNat
  third : Hex.read? (Hex.group 2 text.toList) = some lanes.third.toNat
  fourth : Hex.read? (Hex.group 3 text.toList) = some lanes.fourth.toNat

variable {left right : Lanes} {text : String}

theorem toList_hex (lanes : Lanes) :
    lanes.hex.toList =
      Hex.digits 8 lanes.first.toNat ++ (Hex.digits 8 lanes.second.toNat ++
        (Hex.digits 8 lanes.third.toNat ++ (Hex.digits 8 lanes.fourth.toNat ++ []))) := by
  simp [hex]

theorem isSpelled_hex (lanes : Lanes) : lanes.IsSpelled lanes.hex := by
  constructor
  · rw [← String.length_toList, toList_hex]
    simp
  · rw [toList_hex]
    simp only [List.append_subset, List.nil_subset, and_true]
    exact ⟨Hex.digits_subset _ _, Hex.digits_subset _ _, Hex.digits_subset _ _,
      Hex.digits_subset _ _⟩
  all_goals
    simp only [toList_hex, Hex.group_succ_digits, Hex.group_zero_digits, Hex.read?_digits_word]

/-- Each group says one word only. -/
theorem IsSpelled.unique (spelled : left.IsSpelled text) (again : right.IsSpelled text) :
    left = right := by
  have same : ∀ {word other : UInt32} {digits : List Char},
      Hex.read? digits = some word.toNat → Hex.read? digits = some other.toNat → word = other := by
    intro word other digits stands alsoStands
    exact UInt32.toNat_inj.mp (Option.some.inj (stands.symm.trans alsoStands))
  cases left
  cases right
  simp only [mk.injEq]
  exact ⟨same spelled.first again.first, same spelled.second again.second,
    same spelled.third again.third, same spelled.fourth again.fourth⟩

theorem hex_eq_iff : left.hex = right.hex ↔ left = right := by
  constructor
  · intro same
    exact left.isSpelled_hex.unique (same ▸ right.isSpelled_hex)
  · exact congrArg hex

end Murmur.Lanes

theorem Murmur.hash128_eq_iff {bytes : List UInt8} {seed : UInt32} {lanes : Lanes} :
    hash128 bytes seed = lanes ↔ packedHash128 bytes seed = lanes.packed := by
  constructor
  · rintro rfl
    rw [hash128, Lanes.packed_ofPacked]
  · intro packed
    rw [hash128, packed, Lanes.ofPacked_packed]

theorem read?_take_keyHashHex (key : String) :
    Hex.read? ((keyHashHex key 0).toList.take 16) = some (keyHash64 key).toNat := by
  have half : (keyHashHex key 0).toList.take 16 =
      Hex.digits 8 (keyHash128 key 0).first.toNat ++
        Hex.digits 8 (keyHash128 key 0).second.toNat := by
    rw [keyHashHex, Murmur.Lanes.toList_hex, ← List.append_assoc]
    exact List.take_left' (by simp)
  rw [half, Hex.read?, Hex.readFrom?_append, Hex.readFrom?_digits_word, Option.bind_some,
    Hex.readFrom?_digits_word, keyHash64, toNat_shiftLeft_or, Nat.zero_mul, Nat.zero_add]

/-- The three forms of a hash tell the same. The words are those that the hash is packed of, the
first of them lowest; the text spells them, and no others; and the number that is made of the first
two words is the one written in the first sixteen digits. -/
theorem hash_forms_agree (key : String) (seed : UInt32) (lanes other : Murmur.Lanes) :
    (keyHash128 key seed = lanes ↔ Murmur.packedHash128 (hashedBytes key) seed = lanes.packed) ∧
      lanes.packed.toNat =
        ((lanes.fourth.toNat * 4294967296 + lanes.third.toNat) * 4294967296 +
          lanes.second.toNat) * 4294967296 + lanes.first.toNat ∧
      (keyHash128 key seed).IsSpelled (keyHashHex key seed) ∧
      (lanes.hex = other.hex ↔ lanes = other) ∧
      Hex.read? ((keyHashHex key 0).toList.take 16) = some (keyHash64 key).toNat := by
  refine ⟨Murmur.hash128_eq_iff, lanes.toNat_packed, ?_, Murmur.Lanes.hex_eq_iff, ?_⟩
  · exact (keyHash128 key seed).isSpelled_hex
  · exact read?_take_keyHashHex key

end Targeting
