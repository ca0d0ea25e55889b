import Mathlib.Tactic.Lemma
import PgOperator.Instant
import PgOperator.Json.Patch
import PgOperator.Memory

/-!
Numbers and their decimal texts.

Indices of arrays and resource versions go through a text and back. The number that a text spells
is the one that was written, so a text that is written for a greater number is another text.
-/

namespace PgOperator

lemma toList_toString (n : Nat) : (toString n).toList = Nat.toDigits 10 n := Nat.toList_repr

/-! ### Digits -/

lemma isDigit_of_mem_toDigits {n : Nat} {c : Char} (h : c ∈ Nat.toDigits 10 n) : c.isDigit = true :=
  Nat.isDigit_of_mem_toDigits (by omega) (by omega) h

lemma all_isDigit_toDigits (n : Nat) : (Nat.toDigits 10 n).all Char.isDigit = true :=
  List.all_eq_true.2 fun _ => isDigit_of_mem_toDigits

lemma foldl_toDigits (n : Nat) :
    (Nat.toDigits 10 n).foldl (fun n c => 10 * n + (c.toNat - '0'.toNat)) 0 = n := by
  rw [← Nat.ofDigitChars_eq_foldl, Nat.ofDigitChars_ten_toDigits]

lemma toDigits_head {n : Nat} {c : Char} {rest : List Char} (h : Nat.toDigits 10 n = c :: rest)
    (hc : c = '0') : n = 0 := by
  induction n using Nat.strongRecOn generalizing rest with
  | ind n ih =>
    rw [Nat.toDigits_eq_if (by omega)] at h
    split at h
    · obtain ⟨hd, -⟩ := List.cons.inj h
      exact Nat.digitChar_eq_zero.1 (hd.trans hc)
    · rename_i hn
      cases hq : Nat.toDigits 10 (n / 10) with
      | nil => exact absurd hq Nat.toDigits_ne_nil
      | cons d ds =>
        rw [hq] at h
        obtain ⟨rfl, -⟩ := List.cons.inj h
        have := ih (n / 10) (by omega) hq
        omega

/-! ### Indices -/

@[simp] lemma index?_repr (n : Nat) : Json.Pointer.index? n.repr = some n := by
  unfold Json.Pointer.index?
  rw [Nat.toList_repr]
  split
  · rename_i h
    exact absurd h Nat.toDigits_ne_nil
  · rename_i h
    rw [toDigits_head h rfl]
  · rename_i rest hne h
    obtain rfl := toDigits_head h rfl
    exact absurd (List.cons.inj h).2.symm hne
  · rw [all_isDigit_toDigits, foldl_toDigits]
    rfl

lemma toString_ne_dash (n : Nat) : toString n ≠ "-" := by
  intro h
  have := isDigit_of_mem_toDigits (n := n) (c := '-') (by rw [← toList_toString, h]; decide)
  exact absurd this (by decide)

/-! ### Resource versions -/

lemma version?_toString {n : Nat} (h : n < UInt64.size) :
    Memory.version? (toString n) = some n := by
  have hplus : ∀ rest, Nat.toDigits 10 n ≠ '+' :: rest := fun rest heq =>
    absurd (isDigit_of_mem_toDigits (heq ▸ List.mem_cons_self)) (by decide)
  have hne : (Nat.toDigits 10 n).isEmpty = false := by
    rw [List.isEmpty_eq_false_iff]
    exact Nat.toDigits_ne_nil
  unfold Memory.version?
  rw [toList_toString]
  extract_lets digits value
  have hdigits : digits = Nat.toDigits 10 n := by
    unfold digits
    split
    · rename_i heq
      exact absurd heq (hplus _)
    · rfl
  have hvalue : value = n := by rw [← foldl_toDigits n, ← hdigits]
  rw [hdigits, hvalue, hne, all_isDigit_toDigits]
  exact if_pos h

end PgOperator
