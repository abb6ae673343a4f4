import EnemyScript.Double.General
import Mathlib.Algebra.Order.Field.Basic
import Mathlib.Algebra.Order.Field.Power
import Mathlib.Algebra.Order.Field.Rat
import Mathlib.Tactic.Linarith

/-!
# Rounding to six significant digits

A positive number lies between two neighbouring powers of ten, and the number of digits of a
quotient of integers says which (`SixDigits.leadingExponent_bounds`), for small numbers through the
quotient turned round. Scaled by that power it is rounded to the nearest integer, exactly, since
numerator and denominator stay integers (`nearestEven_roundHalfEven`). The result has six digits, or
is the next power of ten and carries into the exponent (`SixDigits.rounds_round`).
-/

namespace EnemyScript

/-- No integer is nearer to `q` than `m`, and of two that are as near `m` is the even one. -/
structure NearestEven (q : Rat) (m : Nat) : Prop where
  near : |q - m| ≤ 1 / 2
  tie : |q - m| = 1 / 2 → m % 2 = 0

/-- These are the six digits and the exponent of `q`. The leading digit of `q` gives the exponent,
unless the digits are nines and are rounded up to the next power of ten. -/
inductive SixDigits.Rounds (q : Rat) : SixDigits → Prop
  | kept {lead : Int} {digits : Nat} : (10 : Rat) ^ lead ≤ q → q < (10 : Rat) ^ (lead + 1) →
      NearestEven (q / (10 : Rat) ^ (lead - 5)) digits → digits < 1000000 →
      Rounds q ⟨digits, lead⟩
  | carried {lead : Int} : (10 : Rat) ^ lead ≤ q → q < (10 : Rat) ^ (lead + 1) →
      NearestEven (q / (10 : Rat) ^ (lead - 5)) 1000000 → Rounds q ⟨100000, lead + 1⟩

namespace NearestEven

variable {q : Rat} {m m' : Nat}

/-- Rounding does not cross an integer. -/
theorem le_of_le (h : NearestEven q m) {a : Nat} (ha : a ≤ q) : a ≤ m := by
  have hnear := (abs_le.mp h.near).2
  have hlt : (a : Rat) < m + 1 := by linarith
  exact Nat.lt_succ_iff.mp (by exact_mod_cast hlt)

theorem le_of_ge (h : NearestEven q m) {a : Nat} (ha : q ≤ a) : m ≤ a := by
  have hnear := (abs_le.mp h.near).1
  have hlt : (m : Rat) < a + 1 := by linarith
  exact Nat.lt_succ_iff.mp (by exact_mod_cast hlt)

theorem le (h : NearestEven q m) (h' : NearestEven q m') : m ≤ m' := by
  by_contra! hlt
  -- Two integers can only be a half away if they are neighbours, and then one of them is odd.
  have hstep : (m' : Rat) + 1 ≤ m := by exact_mod_cast hlt
  have hlow := (abs_le.mp h.near).1
  have hhigh := (abs_le.mp h'.near).2
  have hbelow : q - m = -(1 / 2) := by linarith
  have habove : q - m' = 1 / 2 := by linarith
  have hcast : (m : Rat) = m' + 1 := by linarith
  have hsucc : m = m' + 1 := by exact_mod_cast hcast
  have heven := h.tie (by rw [hbelow, abs_neg, abs_of_pos (by norm_num)])
  have heven' := h'.tie (by rw [habove, abs_of_pos (by norm_num)])
  omega

theorem unique (h : NearestEven q m) (h' : NearestEven q m') : m = m' :=
  Nat.le_antisymm (h.le h') (h'.le h)

end NearestEven

/-- A power of ten as a quotient, one side of which is one. -/
theorem ten_zpow_eq_div (z : Int) : (10 : Rat) ^ z = 10 ^ z.toNat / 10 ^ (-z).toNat := by
  rw [← zpow_natCast, ← zpow_natCast, ← zpow_sub₀ (by norm_num)]
  congr 1
  omega

/-- The distance to an integer without fractions. -/
theorem nearestEven_div {num den m : Nat} (hden : 0 < den)
    (hlow : 2 * (m * den) ≤ 2 * num + den) (hhigh : 2 * num ≤ 2 * (m * den) + den)
    (htie : 2 * (m * den) = 2 * num + den ∨ 2 * num = 2 * (m * den) + den → m % 2 = 0) :
    NearestEven (num / den) m := by
  have hpos : (0 : Rat) < den := by exact_mod_cast hden
  have hdistance : |(num / den : Rat) - m| = |(num : Rat) - m * den| / den := by
    rw [div_sub' (ne_of_gt hpos), abs_div, abs_of_pos hpos, mul_comm]
  have hlow' : 2 * ((m : Rat) * den) ≤ 2 * num + den := by exact_mod_cast hlow
  have hhigh' : (2 : Rat) * num ≤ 2 * (m * den) + den := by exact_mod_cast hhigh
  constructor
  · rw [hdistance, div_le_iff₀ hpos, abs_le]
    constructor <;> linarith
  · intro h
    rw [hdistance, div_eq_iff (ne_of_gt hpos)] at h
    apply htie
    rcases abs_eq_abs.mp (h.trans (abs_of_pos (by linarith)).symm) with hplus | hminus
    · right
      have hcast : (2 : Rat) * num = 2 * (m * den) + den := by linarith
      exact_mod_cast hcast
    · left
      have hcast : 2 * ((m : Rat) * den) = 2 * num + den := by linarith
      exact_mod_cast hcast

theorem nearestEven_roundHalfEven (num : Nat) {den : Nat} (hden : 0 < den) :
    NearestEven (num / den) (roundHalfEven num den) := by
  have hdiv : num / den * den + num % den = num := Nat.div_add_mod' num den
  have hrest : num % den < den := Nat.mod_lt num hden
  unfold roundHalfEven
  dsimp only
  split
  · apply nearestEven_div hden <;> omega
  · apply nearestEven_div hden <;> rw [Nat.add_mul, Nat.one_mul] <;> omega

namespace SixDigits

theorem exists_digitCount_eq {n : Nat} (hn : 0 < n) :
    ∃ k, digitCount n = k + 1 ∧ 10 ^ k ≤ n ∧ n < 10 ^ (k + 1) := by
  obtain ⟨k, hk⟩ := Nat.exists_eq_succ_of_ne_zero (Nat.ne_of_gt (@Nat.length_toDigits_pos 10 n))
  refine ⟨k, hk, ?_, ?_⟩
  · cases k with
    | zero => exact hn
    | succ k =>
        have hmore := (Nat.length_toDigits_le_iff (n := n) (show 1 < 10 by omega)
          (Nat.succ_pos k)).not.mp (by omega)
        exact Nat.le_of_not_lt hmore
  · exact (Nat.length_toDigits_le_iff (by omega) (Nat.succ_pos k)).mp (Nat.le_of_eq hk)

theorem leadingExponent_bounds {num den : Nat} (hnum : 0 < num) (hden : 0 < den) :
    (10 : Rat) ^ leadingExponent num den ≤ num / den ∧
      (num / den : Rat) < (10 : Rat) ^ (leadingExponent num den + 1) := by
  have hnum' : (0 : Rat) < num := by exact_mod_cast hnum
  have hden' : (0 : Rat) < den := by exact_mod_cast hden
  unfold leadingExponent
  split
  · next hle =>
      obtain ⟨k, hk, hlow, hhigh⟩ := exists_digitCount_eq (Nat.div_pos hle hden)
      rw [Nat.le_div_iff_mul_le hden] at hlow
      rw [Nat.div_lt_iff_lt_mul hden] at hhigh
      rw [hk, show ((k + 1 : Nat) : Int) - 1 = (k : Nat) by omega,
        show ((k : Nat) : Int) + 1 = (k + 1 : Nat) by omega, zpow_natCast, zpow_natCast,
        le_div_iff₀ hden', div_lt_iff₀ hden']
      exact ⟨by exact_mod_cast hlow, by exact_mod_cast hhigh⟩
  · next hlt =>
      -- The denominator less one, so that a power of ten itself counts as the larger quotient.
      obtain ⟨k, hk, hlow, hhigh⟩ :=
        exists_digitCount_eq (Nat.div_pos (show num ≤ den - 1 by omega) hnum)
      rw [Nat.le_div_iff_mul_le hnum] at hlow
      rw [Nat.div_lt_iff_lt_mul hnum] at hhigh
      have hlow' : 10 ^ k * num < den := by omega
      have hhigh' : den ≤ 10 ^ (k + 1) * num := by omega
      rw [hk, show -((k + 1 : Nat) : Int) + 1 = -(k : Nat) by omega, zpow_neg, zpow_neg,
        zpow_natCast, zpow_natCast, inv_eq_one_div, inv_eq_one_div,
        div_le_div_iff₀ (by positivity) hden', div_lt_div_iff₀ hden' (by positivity), one_mul,
        mul_comm (num : Rat), mul_comm (num : Rat)]
      exact ⟨by exact_mod_cast hhigh', by exact_mod_cast hlow'⟩

theorem shiftDigits_div (num den : Nat) (e : Int) :
    (shiftDigits num (5 - e).toNat / shiftDigits den (e - 5).toNat : Rat) =
      num / den / (10 : Rat) ^ (e - 5) := by
  rw [ten_zpow_eq_div, neg_sub, shiftDigits, shiftDigits, Nat.pow_eq, Nat.pow_eq, div_div_div_eq]
  push_cast
  rfl

/-- Scaled by its leading digit a number has six digits before the point. -/
theorem scaled_bounds {q : Rat} {lead : Int} (hlow : (10 : Rat) ^ lead ≤ q)
    (hhigh : q < (10 : Rat) ^ (lead + 1)) :
    (100000 : Nat) ≤ q / (10 : Rat) ^ (lead - 5) ∧
      q / (10 : Rat) ^ (lead - 5) < (1000000 : Nat) := by
  have hscale : (0 : Rat) < 10 ^ (lead - 5) := zpow_pos (by norm_num) _
  have hsix : ((100000 : Nat) : Rat) * 10 ^ (lead - 5) = 10 ^ lead := by
    rw [show ((100000 : Nat) : Rat) = 10 ^ (5 : Int) by norm_num, ← zpow_add₀ (by norm_num),
      add_sub_cancel]
  have hseven : ((1000000 : Nat) : Rat) * 10 ^ (lead - 5) = 10 ^ (lead + 1) := by
    rw [zpow_add_one₀ (by norm_num), ← hsix]
    norm_num [mul_right_comm]
  rw [le_div_iff₀ hscale, div_lt_iff₀ hscale, hsix, hseven]
  exact ⟨hlow, hhigh⟩

theorem Rounds.digits_bounds {q : Rat} {n : SixDigits} (h : n.Rounds q) :
    100000 ≤ n.digits ∧ n.digits < 1000000 := by
  cases h with
  | kept hlow hhigh hnearest hlt => exact ⟨hnearest.le_of_le (scaled_bounds hlow hhigh).1, hlt⟩
  | carried => exact ⟨Nat.le_refl 100000, show 100000 < 1000000 by decide⟩

theorem lead_unique {q : Rat} {a b : Int} (ha : (10 : Rat) ^ a ≤ q) (ha' : q < (10 : Rat) ^ (a + 1))
    (hb : (10 : Rat) ^ b ≤ q) (hb' : q < (10 : Rat) ^ (b + 1)) : a = b := by
  have hab := (zpow_lt_zpow_iff_right₀ (by norm_num)).mp (ha.trans_lt hb')
  have hba := (zpow_lt_zpow_iff_right₀ (by norm_num)).mp (hb.trans_lt ha')
  omega

theorem Rounds.unique {q : Rat} {n n' : SixDigits} (h : n.Rounds q) (h' : n'.Rounds q) :
    n = n' := by
  cases h with
  | kept hlow hhigh hnearest hlt =>
      cases h' with
      | kept hlow' hhigh' hnearest' _ =>
          obtain rfl := lead_unique hlow hhigh hlow' hhigh'
          rw [hnearest.unique hnearest']
      | carried hlow' hhigh' hnearest' =>
          obtain rfl := lead_unique hlow hhigh hlow' hhigh'
          exact absurd (hnearest.unique hnearest') (Nat.ne_of_lt hlt)
  | carried hlow hhigh hnearest =>
      cases h' with
      | kept hlow' hhigh' hnearest' hlt =>
          obtain rfl := lead_unique hlow hhigh hlow' hhigh'
          exact absurd (hnearest'.unique hnearest) (Nat.ne_of_lt hlt)
      | carried hlow' hhigh' _ => rw [lead_unique hlow hhigh hlow' hhigh']

theorem rounds_round {num den : Nat} (hnum : 0 < num) (hden : 0 < den) :
    (round num den).Rounds (num / den) := by
  obtain ⟨hlow, hhigh⟩ := leadingExponent_bounds hnum hden
  have hshifted : 0 < shiftDigits den (leadingExponent num den - 5).toNat :=
    Nat.mul_pos hden (Nat.pow_pos (by omega))
  have hnearest := nearestEven_roundHalfEven
    (shiftDigits num (5 - leadingExponent num den).toNat) hshifted
  rw [shiftDigits_div] at hnearest
  have hle := hnearest.le_of_ge (le_of_lt (scaled_bounds hlow hhigh).2)
  unfold round
  dsimp only
  split
  · next hcarry =>
      rw [hcarry] at hnearest
      exact .carried hlow hhigh hnearest
  · next hne => exact .kept hlow hhigh hnearest (by omega)

end SixDigits

end EnemyScript
