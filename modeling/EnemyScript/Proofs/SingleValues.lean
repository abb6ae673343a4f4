import EnemyScript.Proofs.Widening
import EnemyScript.Value
import Mathlib.Algebra.Order.Field.Rat

/-!
# Singles that denote the same number

A widened single is compared by its exact value, which many pairs of a significand and an exponent
have. At one place the value fixes the significand, and the sign too unless the significand is zero
(`Datum.value?_eq_iff`). Written back, pairs of one value other than zero are one word
(`BinaryFormat.encode_eq_of_value?_eq`), so two words of one number can only be the two zeros
(`BinaryFormat.key?_datum_eq_iff`).
-/

namespace EnemyScript

open BinaryFormat

namespace Datum

variable {negative negative' : Bool} {significand significand' : Nat} {exponent exponent' : Int}

/-- What a double with this datum denotes. -/
def key? : Datum → Option Value.Key
  | .infinite negative => some (.infinity negative)
  | datum => datum.value?.map .number

theorem Same.key?_eq {d d' : Datum} (h : d.Same d') : d.key? = d'.key? := by
  obtain ⟨_, _, _, _, _, rfl, rfl, hvalue⟩ | ⟨_, rfl, rfl⟩ | ⟨rfl, rfl⟩ := h.cases
  · exact congrArg (Option.map Value.Key.number) hvalue
  · rfl
  · rfl

theorem key?_of_value? {d : Datum} {q : Rat} (h : d.value? = some q) :
    d.key? = some (.number q) := by
  cases d with
  | finite => exact congrArg (Option.map Value.Key.number) h
  | infinite => cases h
  | nan => cases h

theorem key?_eq_none_iff {d : Datum} : d.key? = none ↔ d = .nan := by
  cases d with
  | finite => simp [key?, value?]
  | infinite => simp [key?]
  | nan => simp [key?, value?]

theorem value?_finite (negative : Bool) (significand : Nat) (exponent : Int) :
    (finite negative significand exponent).value? = some ((if negative then -1 else 1) *
      ((quotient significand exponent).1 / (quotient significand exponent).2 : Rat)) := by
  cases negative with
  | false =>
      simp only [value?, Bool.false_eq_true, if_false, Rat.mkRat_eq_div, one_mul]
      rfl
  | true =>
      simp only [value?, if_true, Rat.mkRat_eq_div, neg_one_mul]
      push_cast
      rw [neg_div]

theorem signed_eq_iff {m n : Nat} :
    (if negative then -(m : Int) else m) = (if negative' then -(n : Int) else n) ↔
      m = n ∧ (negative = negative' ∨ m = 0) := by
  cases negative <;> cases negative' <;> simp <;> omega

theorem shiftLeft_inj {m n k : Nat} : m <<< k = n <<< k ↔ m = n := by
  rw [Nat.shiftLeft_eq, Nat.shiftLeft_eq, Nat.mul_left_inj (Nat.ne_of_gt (Nat.two_pow_pos k))]

/-- At one place a value has one significand, and zero is the only value with two signs. -/
theorem value?_eq_iff :
    (finite negative significand exponent).value? =
        (finite negative' significand' exponent).value? ↔
      significand = significand' ∧ (negative = negative' ∨ significand = 0) := by
  have hden : 1 <<< (-exponent).toNat ≠ 0 := by
    rw [Nat.one_shiftLeft]
    exact Nat.ne_of_gt (Nat.two_pow_pos _)
  simp only [value?, quotient, Option.some.injEq]
  rw [Rat.mkRat_eq_iff hden hden, Int.mul_eq_mul_right_iff (by omega), signed_eq_iff,
    shiftLeft_inj, Nat.shiftLeft_eq_zero_iff]

theorem value?_eq_zero_iff :
    (finite negative significand exponent).value? = some 0 ↔ significand = 0 := by
  constructor
  · intro h
    exact (value?_eq_iff.mp (h.trans (value?_zero false exponent).symm)).1
  · rintro rfl
    exact value?_zero negative exponent

end Datum

namespace BinaryFormat

variable (f : BinaryFormat)
variable {negative negative' : Bool} {significand significand' : Nat} {exponent exponent' : Int}

theorem encode_eq_of_value?_eq_of_le (h : significand ≠ 0) (hle : exponent' ≤ exponent)
    (hvalue : (Datum.finite negative significand exponent).value? =
      (Datum.finite negative' significand' exponent').value?) :
    f.encode (.finite negative significand exponent) =
      f.encode (.finite negative' significand' exponent') := by
  obtain ⟨k, rfl⟩ : ∃ k : Nat, exponent' = exponent - k := ⟨(exponent - exponent').toNat, by omega⟩
  rw [← Datum.value?_shiftLeft negative significand k] at hvalue
  obtain ⟨hmoved, hsign⟩ := Datum.value?_eq_iff.mp hvalue
  have hnonzero : significand <<< k ≠ 0 := mt Nat.shiftLeft_eq_zero_iff.mp h
  rw [← hmoved, ← hsign.resolve_right hnonzero, f.encode_shiftLeft negative h]

/-- Data of one value other than zero are written as one word. -/
theorem encode_eq_of_value?_eq (h : significand ≠ 0)
    (hvalue : (Datum.finite negative significand exponent).value? =
      (Datum.finite negative' significand' exponent').value?) :
    f.encode (.finite negative significand exponent) =
      f.encode (.finite negative' significand' exponent') := by
  rcases Int.le_total exponent' exponent with hle | hle
  · exact f.encode_eq_of_value?_eq_of_le h hle hvalue
  · refine (f.encode_eq_of_value?_eq_of_le (fun hzero => h ?_) hle hvalue.symm).symm
    rw [hzero, Datum.value?_zero] at hvalue
    exact Datum.value?_eq_zero_iff.mp hvalue

/-- Data that denote the same are written as one word, unless they are zeros. -/
theorem encode_eq_or_zero {d d' : Datum} (hnan : d ≠ .nan) (h : d.key? = d'.key?) :
    f.encode d = f.encode d' ∨ d.value? = some 0 ∧ d'.value? = some 0 := by
  cases d with
  | nan => exact absurd rfl hnan
  | infinite negative =>
      cases d' with
      | nan => cases h
      | infinite negative' =>
          obtain rfl := Value.Key.infinity.inj (Option.some.inj h)
          exact .inl rfl
      | finite => cases h
  | finite negative significand exponent =>
      cases d' with
      | nan => cases h
      | infinite => cases h
      | finite negative' significand' exponent' =>
          have hvalue : (Datum.finite negative significand exponent).value? =
              (Datum.finite negative' significand' exponent').value? :=
            congrArg some (Value.Key.number.inj (Option.some.inj h))
          by_cases hzero : significand = 0
          · subst hzero
            have hnone := Datum.value?_zero negative exponent
            exact .inr ⟨hnone, hvalue.symm.trans hnone⟩
          · exact .inl (f.encode_eq_of_value?_eq hzero hvalue)

/-- The words of the two zeros. -/
def singleZeros : List Nat := [0, 0x80000000]

theorem mem_singleZeros_iff {word : Nat} (hlt : word < 4294967296) :
    word ∈ singleZeros ↔ (single.datum word).value? = some 0 := by
  constructor
  · intro hmem
    have hboth : ∀ w ∈ singleZeros, (single.datum w).value? = some 0 := by decide
    exact hboth word hmem
  · intro hvalue
    cases hdatum : single.datum word with
    | nan => rw [hdatum] at hvalue; cases hvalue
    | infinite => rw [hdatum] at hvalue; cases hvalue
    | finite negative significand exponent =>
        have hword := single.encode_datum (by decide) hlt (by rw [hdatum]; exact Datum.noConfusion)
        rw [hdatum, Datum.value?_eq_zero_iff] at hvalue
        obtain ⟨-, -, hleast⟩ := Double.bounds_of_single_datum hdatum
        rw [hdatum, hleast hvalue, hvalue] at hword
        rw [← hword]
        cases negative <;> decide

/-- Two words denote the same when they are one word or both zeros, and only then. -/
theorem key?_datum_eq_iff {word word' : Nat} (hlt : word < 4294967296)
    (hlt' : word' < 4294967296) (hnan : single.datum word ≠ .nan)
    (hnan' : single.datum word' ≠ .nan) :
    (single.datum word).key? = (single.datum word').key? ↔
      word = word' ∨ word ∈ singleZeros ∧ word' ∈ singleZeros := by
  rw [mem_singleZeros_iff hlt, mem_singleZeros_iff hlt']
  constructor
  · intro h
    have hsame := single.encode_eq_or_zero hnan h
    rwa [single.encode_datum (by decide) hlt hnan,
      single.encode_datum (by decide) hlt' hnan'] at hsame
  · rintro (rfl | ⟨hzero, hzero'⟩)
    · rfl
    · rw [Datum.key?_of_value? hzero, Datum.key?_of_value? hzero']

end BinaryFormat

namespace Value

theorem key?_double (x : Double) : (Value.double x).key? = x.datum.key? := by
  rw [key?]
  cases x.datum <;> rfl

theorem key?_ofSingle (word : Nat) :
    (Value.double (.ofSingle word)).key? = (single.datum word).key? := by
  rw [key?_double, (Double.same_ofSingle word).key?_eq]

end Value

end EnemyScript
