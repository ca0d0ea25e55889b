import Mathlib.Algebra.Group.Nat.Defs
import Mathlib.Tactic.Lemma
import PgOperator.Proofs.Digits

/-!
Instants and their texts.

A text is written with whole seconds, so what is read back is the instant without its fraction
(`ofText?_text`); an instant without a fraction comes back as it was.
-/

namespace PgOperator.Instant

open Decimal

/-! ### Digits in front of something else -/

lemma toList_pushn (c : Char) (n : Nat) : ("".pushn c n).toList = List.replicate n c := by
  rw [String.pushn_eq_repeat_push]
  induction n with
  | zero => rfl
  | succ n ih => rw [Nat.repeat, String.toList_push, ih, List.replicate_succ']

lemma toList_padded (width n : Nat) : (padded width n).toList =
    List.replicate (width - (Nat.toDigits 10 n).length) '0' ++ Nat.toDigits 10 n := by
  have hlen : (toString n).length = (Nat.toDigits 10 n).length := by
    rw [← toList_toString, String.length_toList]
  rw [padded, String.toList_append, toList_pushn, toList_toString, hlen]

lemma isDigit_of_mem_padded {width n : Nat} {c : Char} (h : c ∈ (padded width n).toList) :
    c.isDigit = true := by
  rw [toList_padded] at h
  rcases List.mem_append.1 h with h | h
  · rw [(List.mem_replicate.1 h).2]
    rfl
  · exact isDigit_of_mem_toDigits h

lemma padded_ne_nil (width n : Nat) : (padded width n).toList ≠ [] := by
  rw [toList_padded]
  exact List.append_ne_nil_of_right_ne_nil _ Nat.toDigits_ne_nil

lemma natOfDigits_padded (width n : Nat) : natOfDigits (padded width n).toList = n := by
  rw [natOfDigits, ← Nat.ofDigitChars_eq_foldl, toList_padded, Nat.ofDigitChars_append,
    Nat.ofDigitChars_replicate_zero, Nat.mul_zero, Nat.ofDigitChars_ten_toDigits]

lemma length_padded (width n : Nat) (hw : 0 < width) (hn : n < 10 ^ width) :
    (padded width n).toList.length = width := by
  have := (Nat.length_toDigits_le_iff (b := 10) (by omega) hw).2 hn
  simp only [toList_padded, List.length_append, List.length_replicate]
  omega

lemma isBlank_of_isDigit {c : Char} (h : c.isDigit = true) : isBlank c = false := by
  have hlow : 48 ≤ c.toNat ∧ c.toNat ≤ 57 := by simpa [Char.isDigit, UInt32.le_iff_toNat_le] using h
  simp only [isBlank, Bool.or_eq_false_iff, Bool.and_eq_false_iff, decide_eq_false_iff_not,
    beq_eq_false_iff_ne]
  omega

lemma skipBlanks_cons {c : Char} (h : isBlank c = false) (cs : Rest) :
    skipBlanks (c :: cs) = c :: cs := by
  simp [skipBlanks, h]

lemma skipBlanks_padded (width n : Nat) (cs : Rest) :
    skipBlanks ((padded width n).toList ++ cs) = (padded width n).toList ++ cs := by
  obtain ⟨d, ds, hds⟩ := List.exists_cons_of_ne_nil (padded_ne_nil width n)
  have hd : d.isDigit = true := isDigit_of_mem_padded (hds ▸ List.mem_cons_self)
  rw [hds, List.cons_append, skipBlanks_cons (isBlank_of_isDigit hd)]

/-! ### The parts of a text -/

lemma digits_append {width : Nat} {ds : List Char} (hds : ∀ d ∈ ds, d.isDigit = true)
    (hne : ds ≠ []) (hlen : ds.length ≤ width) {c : Char} (hc : c.isDigit = false) (cs : Rest) :
    digits width (ds ++ c :: cs) = .ok (natOfDigits ds, c :: cs) := by
  have htake : ((ds ++ c :: cs).take width).takeWhile Char.isDigit = ds := by
    rw [List.take_append, List.take_of_length_le hlen, List.takeWhile_append_of_pos hds]
    cases width - ds.length <;> simp [hc]
  obtain ⟨d, rest, rfl⟩ := List.exists_cons_of_ne_nil hne
  unfold digits
  rw [htake]
  simp

lemma digits_padded (width least n : Nat) (hlen : (padded least n).toList.length ≤ width) {c : Char}
    (hc : c.isDigit = false) (cs : Rest) :
    digits width ((padded least n).toList ++ c :: cs) = .ok (n, c :: cs) := by
  rw [digits_append (fun _ => isDigit_of_mem_padded) (padded_ne_nil _ _) hlen hc,
    natOfDigits_padded]

lemma field_padded {least greatest n : Nat} (hn : least ≤ n ∧ n ≤ greatest) (hg : greatest < 100)
    {c : Char} (hc : c.isDigit = false) (cs : Rest) :
    field least greatest ((padded 2 n).toList ++ c :: cs) = .ok (n, c :: cs) := by
  have hlen := length_padded 2 n (by omega) (by omega)
  unfold field
  rw [skipBlanks_padded, digits_padded 2 2 n (by omega) hc]
  exact if_pos hn

lemma separator_cons {c : Char} (h : isBlank c = false) (cs : Rest) :
    separator c (c :: cs) = .ok cs := by
  simp [separator, skipBlanks_cons h]

lemma isDigit_ne {d : Char} (h : d.isDigit = true) : d ≠ '-' ∧ d ≠ '+' := by
  constructor <;> rintro rfl <;> exact absurd h (by decide)

lemma yearField_yearText {year : Int} (hy : -262143 ≤ year ∧ year ≤ 262142) {c : Char}
    (hc : c.isDigit = false) (cs : Rest) :
    yearField ((yearText year).toList ++ c :: cs) = .ok (year, c :: cs) := by
  have hlow : Int32.minValue.toInt ≤ year := by
    show -2147483648 ≤ year
    omega
  have hhigh : year ≤ Int32.maxValue.toInt := by
    show year ≤ 2147483647
    omega
  by_cases hsmall : 0 ≤ year ∧ year ≤ 9999
  · -- Four digits stand without a sign.
    have hlen := length_padded 4 year.toNat (by omega) (by omega)
    have hcast : ((year.toNat : Nat) : Int) = year := Int.toNat_of_nonneg hsmall.1
    have hskip : skipBlanks ((yearText year).toList ++ c :: cs) =
        (padded 4 year.toNat).toList ++ c :: cs := by
      rw [yearText, if_pos hsmall, skipBlanks_padded]
    have hread := digits_padded 4 4 year.toNat (by omega) hc cs
    obtain ⟨d, ds, hds⟩ := List.exists_cons_of_ne_nil (padded_ne_nil 4 year.toNat)
    obtain ⟨hminus, hplus⟩ := isDigit_ne (isDigit_of_mem_padded (hds ▸ List.mem_cons_self))
    rw [hds, List.cons_append] at hskip hread
    simp only [yearField, hskip]
    split
    · rename_i heq
      exact absurd (List.cons.inj heq).1 hminus
    · rename_i heq
      exact absurd (List.cons.inj heq).1 hplus
    · simp only [hread, Except.map, hcast, bind, Except.bind]
      exact if_pos ⟨hlow, hhigh⟩
  · -- Any other year has its sign in front, and the digits end where something else begins.
    have hread := digits_padded ((padded 4 year.natAbs).toList ++ c :: cs).length 4 year.natAbs
      (by simp) hc cs
    by_cases hneg : year < 0
    · have hcast : -((year.natAbs : Nat) : Int) = year := by omega
      have hskip : skipBlanks ((yearText year).toList ++ c :: cs) =
          '-' :: ((padded 4 year.natAbs).toList ++ c :: cs) := by
        rw [yearText, if_neg hsmall, if_pos hneg]
        simp [skipBlanks, isBlank]
      simp only [yearField, hskip, hread, Except.map, hcast, bind, Except.bind]
      exact if_pos ⟨hlow, hhigh⟩
    · have hcast : ((year.natAbs : Nat) : Int) = year := by omega
      have hskip : skipBlanks ((yearText year).toList ++ c :: cs) =
          '+' :: ((padded 4 year.natAbs).toList ++ c :: cs) := by
        rw [yearText, if_neg hsmall, if_neg hneg]
        simp [skipBlanks, isBlank]
      simp only [yearField, hskip, hread, Except.map, hcast, bind, Except.bind]
      exact if_pos ⟨hlow, hhigh⟩

lemma ofLocal_zero (t : Instant) (nanos : Nat) (h : nanos < 1000000000) :
    ofLocal t.year t.month t.day t.hour t.minute t.second nanos 0 =
      .ok { t with nanos, valid := by have := t.valid; omega } := by
  obtain ⟨year, month, day, hour, minute, second, old, hy, hm, hd, hh, hmin, hs, hn⟩ := t
  have hvalid : ofFields? year month day hour minute second nanos =
      some ⟨year, month, day, hour, minute, second, nanos, hy, hm, hd, hh, hmin, hs, h⟩ :=
    dif_pos _
  have hminutes : ((hour * 60 + minute - 0 : Int) % 1440).toNat = hour * 60 + minute := by omega
  have hhour : (hour * 60 + minute) / 60 = hour := by omega
  have hminute : (hour * 60 + minute) % 60 = minute := by omega
  have hlow : ¬ (hour * 60 + minute - 0 : Int) < 0 := by omega
  have hhigh : ¬ (1440 : Int) ≤ hour * 60 + minute - 0 := by omega
  rw [Int.sub_zero] at hminutes hlow hhigh
  simp only [ofLocal, hvalid, Int.sub_zero, if_neg hlow, if_neg hhigh, hminutes, hhour, hminute]
  rfl

lemma date_chars {year : Int} {month day : Nat} (hy : -262143 ≤ year ∧ year ≤ 262142)
    (hm : 1 ≤ month ∧ month ≤ 12) (hd : 1 ≤ day ∧ day ≤ 31) {c : Char} (hc : c.isDigit = false)
    (cs : Rest) :
    date ((yearText year).toList ++ '-' :: ((padded 2 month).toList ++
      '-' :: ((padded 2 day).toList ++ c :: cs))) = .ok ((year, month, day), c :: cs) := by
  have hsep : ∀ cs, separator '-' ('-' :: cs) = .ok cs := separator_cons (by decide)
  simp [date, yearField_yearText hy (show '-'.isDigit = false by decide), hsep,
    field_padded hm (by decide) (show '-'.isDigit = false by decide),
    field_padded hd (by decide) hc, bind, Except.bind, pure, Except.pure]

lemma timeOfDay_chars {hour minute second : Nat} (hh : hour < 24) (hm : minute < 60)
    (hs : second ≤ 60) :
    timeOfDay ((padded 2 hour).toList ++ ':' :: ((padded 2 minute).toList ++
      ':' :: ((padded 2 second).toList ++ ['Z']))) = .ok ((hour, minute, second, 0), ['Z']) := by
  have hsep : ∀ cs, separator ':' (':' :: cs) = .ok cs := separator_cons (by decide)
  have hcolon : ':'.isDigit = false := by decide
  have hhour : 0 ≤ hour ∧ hour ≤ 23 := by omega
  have hminute : 0 ≤ minute ∧ minute ≤ 59 := by omega
  have hsecond : 0 ≤ second ∧ second ≤ 60 := by omega
  have hskip : skipBlanks ['Z'] = ['Z'] := skipBlanks_cons (by decide) []
  simp [timeOfDay, field_padded hhour (by decide) hcolon, field_padded hminute (by decide) hcolon,
    field_padded hsecond (by decide) (show 'Z'.isDigit = false by decide), hsep, hskip, fraction,
    bind, Except.bind, pure, Except.pure]

lemma daysIn_le (year : Int) (month : Nat) : daysIn year month ≤ 31 := by
  unfold daysIn
  split
  · split <;> omega
  all_goals omega

/-- **Reading back a text**: it gives the instant without its fraction of a second. -/
theorem ofText?_text (t : Instant) :
    ofText? t.text = some { t with nanos := 0, valid := by have := t.valid; omega } := by
  obtain ⟨hy, hm, hd, hh, hmin, hs, -⟩ := t.valid
  have hchars : t.text.toList = (yearText t.year).toList ++ '-' :: ((padded 2 t.month).toList ++
      '-' :: ((padded 2 t.day).toList ++ 'T' :: ((padded 2 t.hour).toList ++
        ':' :: ((padded 2 t.minute).toList ++ ':' :: ((padded 2 t.second).toList ++ ['Z']))))) := by
    simp [text]
  have hdate := date_chars hy hm ⟨hd.1, Nat.le_trans hd.2 (daysIn_le _ _)⟩
    (show 'T'.isDigit = false by decide) ((padded 2 t.hour).toList ++
        ':' :: ((padded 2 t.minute).toList ++ ':' :: ((padded 2 t.second).toList ++ ['Z'])))
  have htime := timeOfDay_chars hh hmin hs
  have hzone : offset ['Z'] = .ok (0, []) := rfl
  have hrest : skipBlanks [] = [] := rfl
  have hlocal := ofLocal_zero t 0 (by decide)
  simp [ofText?, ofText, hchars, hdate, htime, hzone, hrest, hlocal, bind, Except.bind,
    Except.toOption]

end PgOperator.Instant
