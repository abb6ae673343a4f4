import EnemyScript.Proofs.RankText
import Mathlib.Data.Int.Bitwise

/-!
# Integers as rank masks

Integers of any size and sign are read in two's complement without end. Flag `i` of a rank is bit
`i + 8` of the integer it was taken from, so the rank knows the bits under the mask `0xFF00` and
nothing else (`Rank.land_eq_bits_ofInt`). Two ranks never have one text (`Rank.text_injective`): the
text names the difficulties, and its number can be read back. As a field an integer is a rank when
it has no bit outside the mask, which leaves the multiples of 256 from 0 to `0xFF00`
(`Rank.bits_ofInt_eq_iff`).
-/

namespace EnemyScript

namespace TwosComplement

/-- High enough up, no bit of two natural numbers is set, so the bits show the sign of an integer. -/
theorem exists_testBit_eq (a b : Nat) : ∃ i, a.testBit i = b.testBit i := by
  have ha : a.testBit (a + b) = false :=
    Nat.testBit_lt_two_pow (Nat.lt_of_le_of_lt (Nat.le_add_right a b) Nat.lt_two_pow_self)
  have hb : b.testBit (a + b) = false :=
    Nat.testBit_lt_two_pow (Nat.lt_of_le_of_lt (Nat.le_add_left b a) Nat.lt_two_pow_self)
  exact ⟨a + b, ha.trans hb.symm⟩

theorem eq_of_testBit_eq {m n : Int} (h : ∀ i, m.testBit i = n.testBit i) : m = n := by
  cases m with
  | ofNat a =>
      cases n with
      | ofNat b => exact congrArg Int.ofNat (Nat.eq_of_testBit_eq h)
      | negSucc b =>
          obtain ⟨i, hi⟩ := exists_testBit_eq a b
          exact absurd ((h i).symm.trans hi) (Bool.not_ne_self _)
  | negSucc a =>
      cases n with
      | ofNat b =>
          obtain ⟨i, hi⟩ := exists_testBit_eq b a
          exact absurd ((h i).trans hi) (Bool.not_ne_self _)
      | negSucc b =>
          apply congrArg Int.negSucc
          apply Nat.eq_of_testBit_eq
          intro i
          exact Bool.not_inj (h i)

theorem forall_testBit_eq_iff {m n : Int} : (∀ i, m.testBit i = n.testBit i) ↔ m = n := by
  constructor
  · exact eq_of_testBit_eq
  · rintro rfl i
    rfl

/-- An integer has no bit outside a mask when the mask leaves it as it is. -/
theorem land_lnot_eq_zero_iff {n mask : Int} : n.land mask.lnot = 0 ↔ n.land mask = n := by
  rw [← forall_testBit_eq_iff, ← forall_testBit_eq_iff]
  apply forall_congr'
  intro i
  have hzero : (0 : Int).testBit i = false := Nat.zero_testBit i
  rw [Int.testBit_land, Int.testBit_land, Int.testBit_lnot, hzero]
  cases n.testBit i <;> cases mask.testBit i <;> decide

end TwosComplement

namespace Difficulty

theorem exists_flag_eq {i : Nat} (h : i < 4) : ∃ d, flag d = i := by
  obtain rfl | rfl | rfl | rfl : i = 0 ∨ i = 1 ∨ i = 2 ∨ i = 3 := by omega
  · exact ⟨.easy, rfl⟩
  · exact ⟨.normal, rfl⟩
  · exact ⟨.hard, rfl⟩
  · exact ⟨.lunatic, rfl⟩

end Difficulty

namespace Rank

open Numeral TwosComplement

variable {r s : Rank}

section Bits

/-- The flags of an integer are its bits from 8 on. -/
theorem getLsbD_flags_ofInt (raw : Int) {i : Nat} (h : i < 8) :
    (ofInt raw).flags.getLsbD i = raw.testBit (i + 8) := by
  cases raw with
  | ofNat m =>
      have hquotient : (Int.ofNat m / 256 : Int) = ((m / 2 ^ 8 : Nat) : Int) := rfl
      have hbit : Int.testBit (Int.ofNat m) (i + 8) = m.testBit (i + 8) := rfl
      rw [ofInt, hquotient, BitVec.ofInt_natCast, BitVec.getLsbD_ofNat, Nat.testBit_div_two_pow,
        hbit, decide_eq_true h, Bool.true_and]
  | negSucc m =>
      have hquotient : (Int.negSucc m / 256 : Int) = Int.negSucc (m / 2 ^ 8) := rfl
      have hbit : Int.testBit (Int.negSucc m) (i + 8) = !m.testBit (i + 8) := rfl
      rw [ofInt, hquotient, BitVec.ofInt_negSucc_eq_not_ofNat, BitVec.getLsbD_not,
        BitVec.getLsbD_ofNat, Nat.testBit_div_two_pow, hbit, decide_eq_true h, Bool.true_and,
        Bool.true_and]

theorem testBit_bits (r : Rank) (i : Nat) :
    Int.testBit r.bits i = (decide (8 ≤ i) && r.flags.getLsbD (i - 8)) := by
  have hnat : Int.testBit r.bits i = r.bits.testBit i := rfl
  rw [hnat, bits, show 256 = 2 ^ 8 from rfl, Nat.testBit_mul_two_pow, BitVec.testBit_toNat]

/-- The rank of an integer is what a mask of the high byte leaves of it. -/
theorem land_eq_bits_ofInt (raw : Int) : raw.land 0xFF00 = (ofInt raw).bits := by
  apply eq_of_testBit_eq
  intro i
  have hmask : Int.testBit 0xFF00 i = (decide (8 ≤ i) && (0xFF#8).getLsbD (i - 8)) :=
    testBit_bits ⟨0xFF⟩ i
  rw [Int.testBit_land, testBit_bits, hmask]
  by_cases hlow : 8 ≤ i
  · by_cases hhigh : i - 8 < 8
    · have hones : (0xFF#8).getLsbD (i - 8) = true := by
        rw [show (0xFF#8) = BitVec.allOnes 8 from rfl, BitVec.getLsbD_allOnes]
        exact decide_eq_true hhigh
      rw [getLsbD_flags_ofInt raw hhigh, Nat.sub_add_cancel hlow, hones, Bool.and_true,
        Bool.and_comm]
    · rw [BitVec.getLsbD_of_ge _ _ (Nat.le_of_not_lt hhigh),
        BitVec.getLsbD_of_ge _ _ (Nat.le_of_not_lt hhigh), Bool.and_false, Bool.and_false]
  · rw [decide_eq_false hlow, Bool.false_and, Bool.false_and, Bool.and_false]

theorem ofInt_eq_iff (a b : Int) : ofInt a = ofInt b ↔ a.land 0xFF00 = b.land 0xFF00 := by
  rw [land_eq_bits_ofInt, land_eq_bits_ofInt, Int.natCast_inj, bits_inj]

end Bits

section Text

/-- A number is a part when it is the number of the unnamed flags. -/
theorem number_mem_parts_iff {n : Nat} :
    "0x" ++ hex 4 n ∈ r.parts ↔ r.unnamedBits ≠ 0 ∧ n = r.unnamedBits := by
  rw [mem_parts_iff]
  constructor
  · rintro (⟨d, -, hlabel⟩ | ⟨hzero, hnumber⟩)
    · exact absurd hlabel.symm (number_ne_label n d)
    · rw [← String.toList_inj, String.toList_append, String.toList_append,
        List.append_cancel_left_eq, String.toList_inj, hex_inj] at hnumber
      exact ⟨hzero, hnumber⟩
  · rintro ⟨hzero, rfl⟩
    exact .inr ⟨hzero, rfl⟩

theorem unnamedBits_eq_of_text_eq (hr : r.flags ≠ 0xFF) (hs : s.flags ≠ 0xFF)
    (h : r.text = s.text) : r.unnamedBits = s.unnamedBits := by
  have hparts (n : Nat) :
      r.unnamedBits ≠ 0 ∧ n = r.unnamedBits ↔ s.unnamedBits ≠ 0 ∧ n = s.unnamedBits := by
    have hdash : "0x" ++ hex 4 n ≠ "-" := number_ne n (by decide)
    rw [← number_mem_parts_iff, ← number_mem_parts_iff, ← mem_splitOn_text_iff hr hdash, h,
      mem_splitOn_text_iff hs hdash]
  have hleft := hparts r.unnamedBits
  have hright := hparts s.unnamedBits
  omega

/-- The named flags and the number of the others make up a rank. -/
theorem eq_of_unnamedBits_eq (hnamed : ∀ d, r.includes d = s.includes d)
    (hunnamed : r.unnamedBits = s.unnamedBits) : r = s := by
  have hhigh : r.flags &&& 0xF0 = s.flags &&& 0xF0 := by
    apply BitVec.eq_of_toNat_eq
    rw [unnamedBits, unnamedBits] at hunnamed
    omega
  have hmask : ∀ i < 8, 4 ≤ i → (0xF0 : BitVec 8).getLsbD i = true := by decide
  have hflags : r.flags = s.flags := by
    apply BitVec.eq_of_getLsbD_eq
    intro i hi
    by_cases hlow : i < 4
    · obtain ⟨d, rfl⟩ := Difficulty.exists_flag_eq hlow
      exact hnamed d
    · have hbit := congrArg (BitVec.getLsbD · i) hhigh
      simp only [BitVec.getLsbD_and] at hbit
      rwa [hmask i hi (by omega), Bool.and_true, Bool.and_true] at hbit
  cases r
  cases s
  exact congrArg mk hflags

/-- No two ranks read alike. -/
theorem text_injective (h : r.text = s.text) : r = s := by
  have hnamed (d : Difficulty) : r.includes d = s.includes d := by
    rw [Bool.eq_iff_iff, includes_iff_text, includes_iff_text, h]
  by_cases hr : r.flags = 0xFF
  · by_cases hs : s.flags = 0xFF
    · cases r
      cases s
      exact congrArg mk (hr.trans hs.symm)
    · exact absurd (h.symm.trans (if_pos hr)) (text_ne_all hs)
  · by_cases hs : s.flags = 0xFF
    · exact absurd (h.trans (if_pos hs)) (text_ne_all hr)
    · exact eq_of_unnamedBits_eq hnamed (unnamedBits_eq_of_text_eq hr hs h)

/-- Integers read alike as ranks when they agree under the mask of the high byte, whatever their
other bits and their signs are. -/
theorem text_ofInt_eq_iff (a b : Int) :
    (ofInt a).text = (ofInt b).text ↔ a.land 0xFF00 = b.land 0xFF00 := by
  rw [← ofInt_eq_iff]
  exact ⟨text_injective, congrArg text⟩

end Text

section Fields

theorem bits_ofInt_eq_iff {raw : Int} :
    ((ofInt raw).bits : Int) = raw ↔ (0 ≤ raw ∧ raw ≤ 0xFF00) ∧ 256 ∣ raw := by
  rw [bits_ofInt]
  omega

theorem exists_ofBits_eq_ok_iff {raw : Int} :
    (∃ r, ofBits raw = .ok r) ↔ ((ofInt raw).bits : Int) = raw := by
  constructor
  · rintro ⟨r, hr⟩
    rw [← ofBits_eq_ok_iff.mp hr, ofInt_bits]
  · intro h
    exact ⟨ofInt raw, ofBits_eq_ok_iff.mpr h⟩

/-- An integer is accepted as a rank field when it is a multiple of 256 from 0 to `0xFF00`, which
is when it has no bit outside the mask of the high byte, and then the rank keeps it whole. Any other
integer is refused with an error that carries it, and a negative one or one beyond 16 bits is
refused whatever its low byte is. -/
theorem ofBits_accepts_masks (raw : Int) :
    ((∃ r, ofBits raw = .ok r) ↔ (0 ≤ raw ∧ raw ≤ 0xFF00) ∧ 256 ∣ raw) ∧
      ((∃ r, ofBits raw = .ok r) ↔ raw.land (Int.lnot 0xFF00) = 0) ∧
      (∀ r, ofBits raw = .ok r ↔ (r.bits : Int) = raw) ∧
      (∀ e, ofBits raw = .error e ↔
        ¬ ((0 ≤ raw ∧ raw ≤ 0xFF00) ∧ 256 ∣ raw) ∧ e = .invalidRankBits raw) ∧
      (raw < 0 ∨ 65536 ≤ raw → ofBits raw = .error (.invalidRankBits raw)) := by
  refine ⟨exists_ofBits_eq_ok_iff.trans bits_ofInt_eq_iff, ?_, fun r => ofBits_eq_ok_iff,
    fun e => ?_, fun hrange => ?_⟩
  · rw [exists_ofBits_eq_ok_iff, land_lnot_eq_zero_iff, land_eq_bits_ofInt]
  · rw [ofBits_eq_error_iff, Ne, bits_ofInt_eq_iff]
  · rw [ofBits_eq_error_iff, Ne, bits_ofInt_eq_iff]
    exact ⟨by omega, rfl⟩

/-- The nearest integers with a clear low byte on either side of the range of 16 bits. -/
theorem ofBits_accepts_masks_clearLowByte :
    ((-256 : Int) < 0 ∨ (65536 : Int) ≤ -256) ∧ ((65536 : Int) < 0 ∨ (65536 : Int) ≤ 65536) ∧
      ofBits (-256) = .error (.invalidRankBits (-256)) ∧
      ofBits 65536 = .error (.invalidRankBits 65536) := by
  have hnegative : (-256 : Int) < 0 ∨ (65536 : Int) ≤ -256 := by decide
  have hbeyond : (65536 : Int) < 0 ∨ (65536 : Int) ≤ 65536 := by decide
  exact ⟨hnegative, hbeyond, (ofBits_accepts_masks (-256)).2.2.2.2 hnegative,
    (ofBits_accepts_masks 65536).2.2.2.2 hbeyond⟩

end Fields

end Rank

end EnemyScript
