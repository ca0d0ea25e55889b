import Mathlib.Algebra.Group.Nat.Defs
import Mathlib.Tactic.ByContra
import Mathlib.Tactic.Lemma
import Mathlib.Tactic.SplitIfs
import PgOperator.Text

/-!
Texts are in the order of their bytes.

Texts compare by code points. The UTF-8 form of a character is a first byte, which tells how many
bytes follow it, and the digits of the code point in base 64. Of two characters the smaller one has
the smaller first byte, or else as many bytes and a smaller digit where they differ first. So the
forms of texts compare as the texts do (`bytes_lt_bytes_iff`).
-/

namespace PgOperator.Text

open String

/-! ### Characters -/

/-- How many bytes follow the first one of a character. -/
def followers (code : Nat) : Nat :=
  if code ≤ 0x7f then 0 else if code ≤ 0x7ff then 1 else if code ≤ 0xffff then 2 else 3

/-- The first byte of a character. -/
def firstByte (code : Nat) : Nat :=
  if code ≤ 0x7f then code
  else if code ≤ 0x7ff then code / 64 + 0xc0
  else if code ≤ 0xffff then code / 64 ^ 2 + 0xe0
  else code / 64 ^ 3 + 0xf0

/-- The bytes that follow it: the last digits of the code point. -/
def lastBytes : (count code : Nat) → List UInt8
  | 0, _ => []
  | count + 1, code => lastBytes count (code / 64) ++ [UInt8.ofNat (code % 64 + 0x80)]

lemma ofNat_lt_ofNat {m n : Nat} (h : m < n) (hn : n < 256) : UInt8.ofNat m < UInt8.ofNat n := by
  rw [UInt8.lt_iff_toNat_lt, UInt8.toNat_ofNat', UInt8.toNat_ofNat', Nat.mod_eq_of_lt hn,
    Nat.mod_eq_of_lt (Nat.lt_trans h hn)]
  exact h

lemma code_lt (c : Char) : c.toNat < 0x110000 := by
  have hvalid := c.valid
  unfold UInt32.isValidChar Nat.isValidChar at hvalid
  unfold Char.toNat
  omega

lemma firstByte_lt {code : Nat} (h : code < 0x110000) : firstByte code < 256 := by
  unfold firstByte
  split_ifs <;> omega

lemma utf8EncodeChar_eq (c : Char) : utf8EncodeChar c =
    UInt8.ofNat (firstByte c.toNat) :: lastBytes (followers c.toNat) c.toNat := by
  have hcode := code_lt c
  unfold utf8EncodeChar firstByte followers Char.toNat at *
  generalize c.val.toNat = code at *
  dsimp only
  split_ifs
  · rfl
  · rw [Nat.mod_eq_of_lt (by omega : code / 64 < 32)]
    rfl
  · rw [Nat.mod_eq_of_lt (by omega : code / 4096 < 16)]
    rfl
  · rw [Nat.mod_eq_of_lt (by omega : code / 262144 < 8)]
    simp only [lastBytes, Nat.div_div_eq_div_mul]
    rfl

lemma lastBytes_append_lt {count m n : Nat} (h : m < n) (hhead : m / 64 ^ count = n / 64 ^ count)
    (front back : List UInt8) : lastBytes count m ++ front < lastBytes count n ++ back := by
  induction count generalizing m n front back with
  | zero =>
    rw [Nat.pow_zero, Nat.div_one, Nat.div_one] at hhead
    exact absurd hhead (Nat.ne_of_lt h)
  | succ count ih =>
    simp only [lastBytes, List.append_assoc, List.singleton_append]
    by_cases hdigits : m / 64 = n / 64
    · have hlast : m % 64 < n % 64 := by omega
      rw [hdigits]
      refine List.append_left_lt (List.cons_lt_cons_iff.2 (.inl (ofNat_lt_ofNat ?_ ?_))) <;> omega
    · rw [Nat.pow_succ', ← Nat.div_div_eq_div_mul, ← Nat.div_div_eq_div_mul] at hhead
      exact ih (by omega) hhead _ _

/-- The first byte is smaller, or it is the same, and so are the number of bytes and the digits that
the first byte has. -/
lemma firstByte_lt_or {m n : Nat} (h : m < n) (hn : n < 0x110000) : firstByte m < firstByte n ∨
    firstByte m = firstByte n ∧ followers m = followers n ∧
      m / 64 ^ followers m = n / 64 ^ followers m := by
  unfold firstByte followers
  split_ifs <;> omega

/-- **The smaller character has the smaller bytes**, whatever follows them. -/
lemma utf8EncodeChar_append_lt {c d : Char} (h : c < d) (front back : List UInt8) :
    utf8EncodeChar c ++ front < utf8EncodeChar d ++ back := by
  have hlt : c.toNat < d.toNat := UInt32.lt_iff_toNat_lt.1 h
  rw [utf8EncodeChar_eq, utf8EncodeChar_eq, List.cons_append, List.cons_append]
  refine List.cons_lt_cons_iff.2 ?_
  rcases firstByte_lt_or hlt (code_lt d) with hfirst | ⟨hfirst, hcount, hhead⟩
  · exact .inl (ofNat_lt_ofNat hfirst (firstByte_lt (code_lt d)))
  · refine .inr ⟨congrArg UInt8.ofNat hfirst, ?_⟩
    rw [← hcount]
    exact lastBytes_append_lt hlt hhead front back

/-! ### Texts -/

lemma flatMap_utf8EncodeChar_lt {xs ys : List Char} (h : xs < ys) :
    xs.flatMap utf8EncodeChar < ys.flatMap utf8EncodeChar := by
  induction h with
  | @nil c rest =>
    rw [List.flatMap_cons, utf8EncodeChar_eq]
    exact .nil
  | rel h =>
    rw [List.flatMap_cons, List.flatMap_cons]
    exact utf8EncodeChar_append_lt h _ _
  | cons _ ih =>
    rw [List.flatMap_cons, List.flatMap_cons]
    exact List.append_left_lt ih

/-- **The order of texts is the order of their bytes.** -/
theorem bytes_lt_bytes_iff {s t : String} : bytes s < bytes t ↔ s < t := by
  refine ⟨fun h => ?_, fun h => flatMap_utf8EncodeChar_lt h⟩
  by_contra hnot
  by_cases heq : s = t
  · exact List.lt_irrefl _ (heq ▸ h)
  · have hgt : t < s := by
      by_contra hle
      exact heq (String.le_antisymm (String.not_lt.1 hle) (String.not_lt.1 hnot))
    exact List.lt_asymm h (flatMap_utf8EncodeChar_lt hgt)

end PgOperator.Text
