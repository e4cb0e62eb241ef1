import Mathlib.Algebra.Ring.Nat
import Mathlib.Tactic.SplitIfs
import Targeting.Proofs.Spelling

/-!
# The order of texts and of numbers in them

Texts are ordered by their characters. That is the order of their bytes in UTF-8: of two characters,
the larger one never has the smaller first byte, and the bytes that follow a shared first byte carry
the rest of the code from its most significant bits down.

Numbers in canonical form are ordered by their length and then as texts. That is the order of their
values, because a longer number has a first digit other than zero and digits of equal number weigh
from the left.
-/

namespace Targeting

namespace Text

theorem compare_map {α β : Type} [Ord α] [Ord β] {view : α → β}
    (faithful : ∀ left right, compare (view left) (view right) = compare left right)
    (left right : List α) : compare (left.map view) (right.map view) = compare left right := by
  induction left generalizing right with
  | nil => cases right <;> rfl
  | cons first rest ih =>
      cases right with
      | nil => rfl
      | cons other others =>
          rw [List.map_cons, List.map_cons, List.compare_cons_cons, List.compare_cons_cons,
            faithful, ih]

theorem compare_append_left {α : Type} [Ord α] [Std.ReflOrd α] (shared left right : List α) :
    compare (shared ++ left) (shared ++ right) = compare left right := by
  induction shared with
  | nil => rfl
  | cons first rest ih =>
      have same : compare first first = .eq := Std.ReflCmp.compare_self
      rw [List.cons_append, List.cons_append, List.compare_cons_cons, same, ih]
      rfl

/-! ## Bytes -/

/-- The bytes of a text in UTF-8. -/
def bytes (text : List Char) : List UInt8 := text.flatMap String.utf8EncodeChar

theorem bytes_cons (character : Char) (rest : List Char) :
    bytes (character :: rest) = String.utf8EncodeChar character ++ bytes rest :=
  List.flatMap_cons

theorem exists_utf8EncodeChar (character : Char) :
    ∃ byte later, String.utf8EncodeChar character = byte :: later := by
  unfold String.utf8EncodeChar
  dsimp only
  split_ifs
  all_goals exact ⟨_, _, rfl⟩

theorem toNat_lt_of_char (character : Char) : character.toNat < 0x110000 := by
  have valid := character.valid
  simp only [UInt32.isValidChar, Nat.isValidChar, Char.toNat_val] at valid
  omega

/-- The bytes of a character as numbers. -/
theorem map_toNat_utf8EncodeChar (character : Char) :
    (String.utf8EncodeChar character).map UInt8.toNat =
      if character.toNat ≤ 0x7F then [character.toNat]
      else if character.toNat ≤ 0x7FF then
        [character.toNat / 64 + 192, character.toNat % 64 + 128]
      else if character.toNat ≤ 0xFFFF then
        [character.toNat / 4096 + 224, character.toNat / 64 % 64 + 128, character.toNat % 64 + 128]
      else
        [character.toNat / 262144 + 240, character.toNat / 4096 % 64 + 128,
          character.toNat / 64 % 64 + 128, character.toNat % 64 + 128] := by
  have valid := toNat_lt_of_char character
  simp only [String.utf8EncodeChar, Char.toNat_val]
  generalize character.toNat = code at valid
  split_ifs
  all_goals
    simp only [List.map_cons, List.map_nil, UInt8.toNat_ofNat', List.cons.injEq, and_true]
    omega

theorem compare_utf8EncodeChar_append {left right : Char} (less : left.toNat < right.toNat)
    (leftRest rightRest : List UInt8) :
    compare (String.utf8EncodeChar left ++ leftRest) (String.utf8EncodeChar right ++ rightRest) =
      .lt := by
  have faithful : ∀ left right : UInt8, compare left.toNat right.toNat = compare left right := by
    intro left right
    rcases Nat.lt_trichotomy left.toNat right.toNat with less | same | more
    · rw [Nat.compare_eq_lt.mpr less, Std.compare_eq_lt.mpr (UInt8.lt_iff_toNat_lt.mpr less)]
    · rw [Nat.compare_eq_eq.mpr same,
        Std.LawfulEqOrd.compare_eq_iff_eq.mpr (UInt8.toNat_inj.mp same)]
    · rw [Nat.compare_eq_gt.mpr more, Std.compare_eq_gt.mpr (UInt8.lt_iff_toNat_lt.mpr more)]
  have valid := toNat_lt_of_char right
  rw [← compare_map faithful, List.map_append, List.map_append, map_toNat_utf8EncodeChar,
    map_toNat_utf8EncodeChar]
  generalize left.toNat = first at less
  generalize right.toNat = second at less valid
  split_ifs
  all_goals
    simp only [List.cons_append, List.compare_cons_cons, Ordering.then_eq_lt, Nat.compare_eq_lt,
      Nat.compare_eq_eq]
    omega

end Text

/-! ## Digits -/

namespace Numeral

theorem foldl_value (digits : List Char) (start : Nat) :
    digits.foldl (fun value digit => value * 10 + (digit.toNat - 48)) start =
      start * 10 ^ digits.length + value digits := by
  induction digits generalizing start with
  | nil => simp [value]
  | cons digit rest ih =>
      rw [value, List.foldl_cons, List.foldl_cons, ih, ih, List.length_cons, Nat.pow_succ']
      simp only [Nat.zero_mul, Nat.zero_add, Nat.add_mul, Nat.mul_assoc, Nat.add_assoc]

@[simp]
theorem value_nil : value [] = 0 := rfl

theorem value_cons (digit : Char) (rest : List Char) :
    value (digit :: rest) = (digit.toNat - 48) * 10 ^ rest.length + value rest := by
  rw [value, List.foldl_cons, Nat.zero_mul, Nat.zero_add, foldl_value]

theorem value_lt {digits : List Char} (numeric : ∀ digit ∈ digits, isDigit digit = true) :
    value digits < 10 ^ digits.length := by
  induction digits with
  | nil => decide
  | cons digit rest ih =>
      rw [List.forall_mem_cons] at numeric
      have small := (isDigit_iff.mp numeric.1).2
      have weight : (digit.toNat - 48) * 10 ^ rest.length ≤ 9 * 10 ^ rest.length :=
        Nat.mul_le_mul_right _ (by omega)
      have later := ih numeric.2
      rw [value_cons, List.length_cons, Nat.pow_succ']
      omega

end Numeral

namespace Version

theorem compareText_eq_codes (left right : List Char) :
    compareText left right = compare (left.map Char.toNat) (right.map Char.toNat) := by
  induction left generalizing right with
  | nil => cases right <;> rfl
  | cons first rest ih =>
      cases right with
      | nil => rfl
      | cons other others =>
          rw [compareText, List.map_cons, List.map_cons, List.compare_cons_cons, ih]

instance : Std.TransCmp compareText where
  eq_swap {left right} := by
    rw [compareText_eq_codes, compareText_eq_codes]
    exact Std.OrientedCmp.eq_swap
  isLE_trans {first second third} := by
    rw [compareText_eq_codes, compareText_eq_codes, compareText_eq_codes]
    exact Std.TransCmp.isLE_trans

instance : Std.LawfulEqCmp compareText where
  compare_self {text} := by
    rw [compareText_eq_codes]
    exact Std.ReflCmp.compare_self
  eq_of_compare {left right} same := by
    rw [compareText_eq_codes] at same
    have codes := Std.LawfulEqCmp.eq_of_compare same
    exact (List.map_inj_right fun _ _ => Char.toNat_inj.mp).mp codes

/-- Texts are ordered as their bytes are. -/
theorem compareText_eq_bytes (left right : List Char) :
    compareText left right = compare (Text.bytes left) (Text.bytes right) := by
  induction left generalizing right with
  | nil =>
      cases right with
      | nil => rfl
      | cons other others =>
          rcases Text.exists_utf8EncodeChar other with ⟨byte, later, encoded⟩
          rw [Text.bytes_cons, encoded]
          rfl
  | cons first rest ih =>
      cases right with
      | nil =>
          rcases Text.exists_utf8EncodeChar first with ⟨byte, later, encoded⟩
          rw [Text.bytes_cons, encoded]
          rfl
      | cons other others =>
          rw [compareText, Text.bytes_cons, Text.bytes_cons]
          rcases Nat.lt_trichotomy first.toNat other.toNat with less | same | more
          · rw [Nat.compare_eq_lt.mpr less, Text.compare_utf8EncodeChar_append less]
            rfl
          · cases Char.toNat_inj.mp same
            rw [Text.compare_append_left, Nat.compare_eq_eq.mpr rfl, ih]
            rfl
          · rw [Nat.compare_eq_gt.mpr more, Std.OrientedOrd.eq_swap,
              Text.compare_utf8EncodeChar_append more]
            rfl

/-! ## Numbers -/

theorem value_lt_of_first_lt {first other : Char} {rest others : List Char}
    (digits : ∀ digit ∈ first :: rest, Numeral.isDigit digit = true)
    (same : rest.length = others.length) (less : first.toNat < other.toNat) :
    Numeral.value (first :: rest) < Numeral.value (other :: others) := by
  rw [List.forall_mem_cons] at digits
  have least := (Numeral.isDigit_iff.mp digits.1).1
  calc Numeral.value (first :: rest)
      = (first.toNat - 48) * 10 ^ rest.length + Numeral.value rest := Numeral.value_cons _ _
    _ < (first.toNat - 48) * 10 ^ rest.length + 10 ^ rest.length :=
        Nat.add_lt_add_left (Numeral.value_lt digits.2) _
    _ = (first.toNat - 48 + 1) * 10 ^ others.length := by rw [Nat.succ_mul, same]
    _ ≤ (other.toNat - 48) * 10 ^ others.length := Nat.mul_le_mul_right _ (by omega)
    _ ≤ Numeral.value (other :: others) := by
        rw [Numeral.value_cons]
        exact Nat.le_add_right _ _

/-- Digits of equal number are compared from the left. -/
theorem compareText_eq_compare_value {left right : List Char}
    (leftDigits : ∀ digit ∈ left, Numeral.isDigit digit = true)
    (rightDigits : ∀ digit ∈ right, Numeral.isDigit digit = true)
    (same : left.length = right.length) :
    compareText left right = compare (Numeral.value left) (Numeral.value right) := by
  induction left generalizing right with
  | nil =>
      cases right with
      | nil => rfl
      | cons other others => cases same
  | cons first rest ih =>
      cases right with
      | nil => cases same
      | cons other others =>
          have sameRest : rest.length = others.length := Nat.succ.inj same
          rw [compareText]
          rcases Nat.lt_trichotomy first.toNat other.toNat with less | equal | more
          · rw [Nat.compare_eq_lt.mpr less,
              Nat.compare_eq_lt.mpr (value_lt_of_first_lt leftDigits sameRest less)]
            rfl
          · cases Char.toNat_inj.mp equal
            rw [ih (List.forall_mem_cons.mp leftDigits).2 (List.forall_mem_cons.mp rightDigits).2
              sameRest, Nat.compare_eq_eq.mpr rfl, Numeral.value_cons, Numeral.value_cons, sameRest,
              Nat.compare_eq_ite_lt, Nat.compare_eq_ite_lt]
            simp only [Nat.add_lt_add_iff_left]
            rfl
          · rw [Nat.compare_eq_gt.mpr more,
              Nat.compare_eq_gt.mpr (value_lt_of_first_lt rightDigits sameRest.symm more)]
            rfl

/-- A canonical number with more digits is larger. -/
theorem value_lt_of_length_lt {left right : List Char} (leftNumeric : isNumeric left)
    (rightNumeric : isNumeric right) (canonical : stripZeros right = right)
    (shorter : left.length < right.length) : Numeral.value left < Numeral.value right := by
  rw [isNumeric_iff] at leftNumeric rightNumeric
  have nonempty : 0 < left.length := List.length_pos_iff.mpr leftNumeric.1
  rcases stripZeros_eq_zero_or right with zero | ⟨first, rest, same, nonzero⟩
  · rw [canonical] at zero
    rw [zero, List.length_singleton] at shorter
    omega
  · rw [canonical] at same
    subst same
    have digit := Numeral.isDigit_iff.mp (rightNumeric.2 first List.mem_cons_self)
    have positive : 1 ≤ first.toNat - 48 := by
      have other : first.toNat ≠ 48 := fun zero => nonzero (Char.toNat_inj.mp zero)
      omega
    calc Numeral.value left < 10 ^ left.length := Numeral.value_lt leftNumeric.2
      _ ≤ 10 ^ rest.length :=
          Nat.pow_le_pow_right (by decide) (Nat.le_of_lt_succ shorter)
      _ ≤ (first.toNat - 48) * 10 ^ rest.length := Nat.le_mul_of_pos_left _ positive
      _ ≤ Numeral.value (first :: rest) := by
          rw [Numeral.value_cons]
          exact Nat.le_add_right _ _

/-- Numbers in canonical form are ordered by their values. -/
theorem compare_length_then_compareText {left right : List Char} (leftNumeric : isNumeric left)
    (rightNumeric : isNumeric right) (leftCanonical : stripZeros left = left)
    (rightCanonical : stripZeros right = right) :
    (compare left.length right.length).then (compareText left right) =
      compare (Numeral.value left) (Numeral.value right) := by
  rcases Nat.lt_trichotomy left.length right.length with shorter | same | longer
  · rw [Nat.compare_eq_lt.mpr shorter, Nat.compare_eq_lt.mpr
      (value_lt_of_length_lt leftNumeric rightNumeric rightCanonical shorter)]
    rfl
  · rw [Nat.compare_eq_eq.mpr same, compareText_eq_compare_value (isNumeric_iff.mp leftNumeric).2
      (isNumeric_iff.mp rightNumeric).2 same]
    rfl
  · rw [Nat.compare_eq_gt.mpr longer, Nat.compare_eq_gt.mpr
      (value_lt_of_length_lt rightNumeric leftNumeric leftCanonical longer)]
    rfl

theorem value_dropWhile (digits : List Char) :
    Numeral.value (digits.dropWhile (· = '0')) = Numeral.value digits := by
  induction digits with
  | nil => rfl
  | cons digit rest ih =>
      by_cases zero : digit = '0'
      · rw [List.dropWhile_cons_of_pos (by simpa using zero), ih, Numeral.value_cons, zero]
        simp
      · rw [List.dropWhile_cons_of_neg (by simpa using zero)]

@[simp]
theorem value_stripZeros (digits : List Char) :
    Numeral.value (stripZeros digits) = Numeral.value digits := by
  have remaining := value_dropWhile digits
  unfold stripZeros
  split
  · next none => rw [← remaining, none]; rfl
  · exact remaining

end Version

end Targeting
