import EnemyScript.Double.General
import EnemyScript.Numeral.Scientific
import EnemyScript.Proofs.Decimals
import EnemyScript.Proofs.PrintableText
import EnemyScript.Proofs.SixDigits
import Mathlib.Data.List.DropRight
import Mathlib.Tactic.Ring
import Mathlib.Tactic.Simps.Basic

/-!
# Digits with a point among them

Digits are written with a point after the first few and without the zeros at the end of the
fraction (`trimZeros`). Read back as a numeral they are `ScientificNumeral.ofPoint`
(`unsigned?_pointAfter`), whose number is that of all the digits, since a zero left out counts for
a place less (`value_ofPoint`). So the layout of a number only matters through the place of its
point.
-/

namespace EnemyScript

open Numeral

/-- Digits up to the last that is not zero. -/
def trimZeros (digits : List Char) : List Char := digits.rdropWhile (· = '0')

section TrimZeros

variable {digits : List Char}

theorem exists_trimZeros_append (digits : List Char) :
    ∃ k, digits = trimZeros digits ++ List.replicate k '0' := by
  have hzeros : ∀ c ∈ digits.rtakeWhile (· = '0'), c = '0' := fun c hc => by
    simpa using List.mem_rtakeWhile_imp hc
  refine ⟨(digits.rtakeWhile (· = '0')).length, ?_⟩
  rw [← List.eq_replicate_of_mem hzeros]
  exact List.rdropWhile_append_rtakeWhile.symm

theorem getLast?_trimZeros (digits : List Char) : (trimZeros digits).getLast? ≠ some '0' := by
  intro h
  have hne : trimZeros digits ≠ [] := fun hnil => by
    rw [hnil] at h
    cases h
  rw [List.getLast?_eq_some_getLast hne] at h
  exact List.rdropWhile_last_not (fun c => decide (c = '0')) digits hne
    (decide_eq_true (Option.some.inj h))

theorem mem_of_mem_trimZeros {c : Char} (h : c ∈ trimZeros digits) : c ∈ digits :=
  (List.rdropWhile_prefix _ _).subset h

theorem SixDigits.fraction_eq (digits : List Char) :
    fraction digits = if trimZeros digits = [] then [] else '.' :: trimZeros digits := by
  unfold fraction
  split
  · next hnil => exact (if_pos hnil).symm
  · next hne => exact (if_neg hne).symm

end TrimZeros

theorem ofDigitChars_append_zeros (digits : List Char) (k : Nat) :
    Nat.ofDigitChars 10 (digits ++ List.replicate k '0') 0 =
      10 ^ k * Nat.ofDigitChars 10 digits 0 := by
  rw [Nat.ofDigitChars_append, Nat.ofDigitChars_replicate_zero]

theorem ofDigitChars_zeros_append (k : Nat) (digits : List Char) :
    Nat.ofDigitChars 10 (List.replicate k '0' ++ digits) 0 = Nat.ofDigitChars 10 digits 0 := by
  rw [Nat.ofDigitChars_append, Nat.ofDigitChars_replicate_zero, Nat.mul_zero]

namespace ScientificNumeral

/-- What digits with a point after the first `whole` of them are read as. -/
@[simps]
def ofPoint (negative : Bool) (whole : Nat) (digits : List Char)
    (exponent : Option (Bool × List Char)) : ScientificNumeral where
  negative := negative
  whole := digits.take whole
  fraction := trimZeros (digits.drop whole)
  exponent := exponent

section Value

/-- The scale of a numeral as one power of ten. -/
theorem value_eq (n : ScientificNumeral) :
    n.value = (if n.negative then -1 else 1) *
      (Nat.ofDigitChars 10 (n.whole ++ n.fraction) 0 *
        (10 : Rat) ^ (n.power - n.fraction.length)) := by
  rw [value, Rat.mkRat_eq_div, ten_zpow_eq_div, Nat.pow_eq, Nat.pow_eq]
  generalize (n.power - n.fraction.length).toNat = up
  generalize (-(n.power - n.fraction.length)).toNat = down
  cases n.negative with
  | false =>
      simp only [Bool.false_eq_true, if_false]
      push_cast
      ring
  | true =>
      simp only [if_true]
      push_cast
      ring

theorem value_ofPoint {negative : Bool} {whole : Nat} {digits : List Char}
    {exponent : Option (Bool × List Char)} (hwhole : whole ≤ digits.length) :
    (ofPoint negative whole digits exponent).value = (if negative then -1 else 1) *
      (Nat.ofDigitChars 10 digits 0 *
        (10 : Rat) ^ ((ofPoint negative whole digits exponent).power -
          (digits.length - whole : Int))) := by
  obtain ⟨k, hk⟩ := exists_trimZeros_append (digits.drop whole)
  have hplaces := congrArg List.length hk
  rw [List.length_drop, List.length_append, List.length_replicate] at hplaces
  have hdigits : Nat.ofDigitChars 10 digits 0 =
      10 ^ k * Nat.ofDigitChars 10 (digits.take whole ++ trimZeros (digits.drop whole)) 0 := by
    rw [← ofDigitChars_append_zeros, List.append_assoc, ← hk, List.take_append_drop]
  have hscale (p : Int) : (10 : Rat) ^ (p - (trimZeros (digits.drop whole)).length) =
      10 ^ k * 10 ^ (p - (digits.length - whole : Int)) := by
    rw [← zpow_natCast, ← zpow_add₀ (by norm_num)]
    congr 1
    omega
  rw [value_eq, ofPoint_negative, ofPoint_whole, ofPoint_fraction, hscale, hdigits]
  push_cast
  ring

end Value

section Reading

variable {whole : Nat} {digits : List Char}

theorem digits?_of_isDigits {cs : List Char} (h : IsDigits cs) : digits? cs = some cs := by
  rw [digits?, if_pos ⟨h.1, List.all_eq_true.mpr h.2⟩]

theorem isDigits_take (h : IsDigits digits) (hwhole : 0 < whole) :
    IsDigits (digits.take whole) := by
  constructor
  · rw [Ne, List.take_eq_nil_iff]
    rintro (hzero | hnil)
    · exact absurd hzero (Nat.ne_of_gt hwhole)
    · exact h.1 hnil
  · exact fun c hc => h.2 c (List.mem_of_mem_take hc)

theorem isDigit_of_mem_trimZeros_drop (h : IsDigits digits) {c : Char}
    (hc : c ∈ trimZeros (digits.drop whole)) : c.isDigit :=
  h.2 c (List.mem_of_mem_drop (mem_of_mem_trimZeros hc))

theorem mantissa?_pointAfter (h : IsDigits digits) (hwhole : 0 < whole) :
    mantissa? (SixDigits.pointAfter whole digits) =
      some (digits.take whole, trimZeros (digits.drop whole)) := by
  have htake := isDigits_take h hwhole
  have hpoint : ∀ c ∈ digits.take whole, decide (c ≠ '.') := fun c hc =>
    decide_eq_true (ne_of_isDigit (htake.2 c hc) rfl)
  rw [mantissa?, SixDigits.pointAfter, List.dropWhile_append_of_pos hpoint,
    List.takeWhile_append_of_pos hpoint, SixDigits.fraction_eq]
  split_ifs with htrim
  · rw [htrim]
    simp [digits?_of_isDigits htake]
  · have hfraction : IsDigits (trimZeros (digits.drop whole)) :=
      ⟨htrim, fun c hc => isDigit_of_mem_trimZeros_drop h hc⟩
    simp [digits?_of_isDigits htake, digits?_of_isDigits hfraction]

theorem ne_e_of_mem_pointAfter (whole : Nat) (h : IsDigits digits) :
    ∀ c ∈ SixDigits.pointAfter whole digits, decide (c ≠ 'e') := by
  intro c hc
  apply decide_eq_true
  rcases SixDigits.mem_pointAfter hc with rfl | hmem
  · decide
  · exact ne_of_isDigit (h.2 c hmem) rfl

theorem unsigned?_pointAfter (negative : Bool) (h : IsDigits digits) (hwhole : 0 < whole) :
    unsigned? negative (SixDigits.pointAfter whole digits) =
      some (ofPoint negative whole digits none) := by
  have he := ne_e_of_mem_pointAfter whole h
  rw [unsigned?, List.takeWhile_eq_self_iff.mpr he, List.dropWhile_eq_nil_iff.mpr he,
    mantissa?_pointAfter h hwhole]
  rfl

theorem unsigned?_pointAfter_exponent (negative : Bool) (h : IsDigits digits) (hwhole : 0 < whole)
    {cs : List Char} {exponent : Bool × List Char} (hexponent : exponent? cs = some exponent) :
    unsigned? negative (SixDigits.pointAfter whole digits ++ 'e' :: cs) =
      some (ofPoint negative whole digits (some exponent)) := by
  have he := ne_e_of_mem_pointAfter whole h
  rw [unsigned?, List.takeWhile_append_of_pos he, List.dropWhile_append_of_pos he,
    List.takeWhile_cons_of_neg (by decide), List.dropWhile_cons_of_neg (by decide),
    List.append_nil, mantissa?_pointAfter h hwhole]
  simp [hexponent, ofPoint]

theorem ofChars?_signed (negative : Bool) {cs : List Char} (h : cs.head? ≠ some '-') :
    ofChars? (if negative then '-' :: cs else cs) = unsigned? negative cs := by
  cases negative with
  | true => rfl
  | false =>
      rw [if_neg Bool.false_ne_true]
      unfold ofChars?
      split
      · exact absurd rfl h
      · rfl

end Reading

end ScientificNumeral

end EnemyScript
