import Targeting.Hash.Murmur
import Targeting.Text.Hex

/-!
# Hashes of keys and percentage buckets

A key is hashed by the bytes of its UTF-8 form. Its bucket is a number from 1 to 100, so that a
share of the traffic given in percent is a range of buckets.
-/

namespace Targeting

/-- The bytes that stand for a text in every hash. -/
def hashedBytes (text : String) : List UInt8 := text.toUTF8.toList

/-- The 32-bit hash of a key under a signed seed, which is taken as its bit pattern. -/
def keyHash (key : String) (seed : Int32) : UInt32 :=
  Murmur.hash32 (hashedBytes key) seed.toUInt32

/-- The percentage bucket of a key under a seed. -/
def bucket (key : String) (seed : Int32) : Nat :=
  (keyHash key seed).toNat % 100 + 1

theorem bucket_pos (key : String) (seed : Int32) : 0 < bucket key seed := by
  simp [bucket]

theorem bucket_le (key : String) (seed : Int32) : bucket key seed ≤ 100 := by
  have := Nat.mod_lt (keyHash key seed).toNat (by decide : 0 < 100)
  simp only [bucket]
  omega

/-- The 128-bit hash of a key, as four words. -/
def keyHash128 (key : String) (seed : UInt32) : Murmur.Lanes :=
  Murmur.hash128 (hashedBytes key) seed

/-- Four words as text: eight hexadecimal digits for each. -/
def Murmur.Lanes.hex (lanes : Murmur.Lanes) : String :=
  String.ofList <|
    [lanes.first, lanes.second, lanes.third, lanes.fourth].flatMap fun word =>
      Hex.digits 8 word.toNat

/-- The 128-bit hash of a key as text. -/
def keyHashHex (key : String) (seed : UInt32) : String := (keyHash128 key seed).hex

/-- The upper half of the 128-bit hash of a key under the seed zero. -/
def keyHash64 (key : String) : UInt64 :=
  let hash := keyHash128 key 0
  (hash.first.toUInt64 <<< 32) ||| hash.second.toUInt64

end Targeting
