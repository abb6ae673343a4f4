import EnemyScript.Kind
import EnemyScript.Proofs.Holds
import EnemyScript.Proofs.SingleValues
import Mathlib.Algebra.Order.Field.Power
import Mathlib.Tactic.FieldSimp

/-!
# Single-precision fields are widened exactly

The fields of a word say which class it belongs to (`BinaryFormat.wordClass`) and which number it
is (`BinaryFormat.number`): a sign, a leading bit that subnormal numbers lack, the fraction behind
the point and a power of two. What the word denotes says the same (`wordClass_eq`, `value?_datum`).
So the double that a single-precision field is read as has the class, the sign and the number of
the word in the field, except that subnormal numbers become normal ones (`Double.widens_ofSingle`).
-/

namespace EnemyScript

namespace Datum

theorem Same.negative?_eq {d d' : Datum} (h : d.Same d') : d.negative? = d'.negative? := by
  obtain ⟨negative, _, _, _, _, rfl, rfl, -⟩ | ⟨negative, rfl, rfl⟩ | ⟨rfl, rfl⟩ := h.cases
  · rfl
  · rfl
  · rfl

theorem Same.value?_eq {d d' : Datum} (h : d.Same d') : d.value? = d'.value? := by
  obtain ⟨negative, _, _, _, _, rfl, rfl, hvalue⟩ | ⟨negative, rfl, rfl⟩ | ⟨rfl, rfl⟩ := h.cases
  · exact hvalue
  · rfl
  · rfl

theorem value?_eq_zpow (negative : Bool) (significand : Nat) (exponent : Int) :
    (finite negative significand exponent).value? =
      some ((if negative then -1 else 1) * (significand * (2 : Rat) ^ exponent)) := by
  have hquotient : ((quotient significand exponent).1 / (quotient significand exponent).2 : Rat) =
      significand * (2 : Rat) ^ exponent := by
    obtain ⟨k, rfl | rfl⟩ := exponent.eq_nat_or_neg
    · simp [quotient, Nat.shiftLeft_eq]
    · simp [quotient, Nat.shiftLeft_eq, div_eq_mul_inv]
  rw [value?_finite, hquotient]

end Datum

namespace BinaryFormat

inductive WordClass where
  | zero
  | subnormal
  | normal
  | infinite
  | nan
  deriving DecidableEq, Repr

def wordClass (f : BinaryFormat) (word : Nat) : WordClass :=
  if f.exponentField word = f.reserved then
    if f.fractionField word = 0 then .infinite else .nan
  else if f.exponentField word = 0 then
    if f.fractionField word = 0 then .zero else .subnormal
  else .normal

/-- The number that a word is when its exponent field is not reserved. -/
def number (f : BinaryFormat) (word : Nat) : Rat :=
  let sign : Rat := if f.signField word then -1 else 1
  let fraction : Rat := f.fractionField word / 2 ^ f.fractionBits
  if f.exponentField word = 0 then sign * (fraction * (2 : Rat) ^ (1 - f.bias : Int))
  else sign * ((1 + fraction) * (2 : Rat) ^ (f.exponentField word - f.bias : Int))

/-- The class that the words of a datum belong to. Only normal words have a leading bit. -/
def classOf (f : BinaryFormat) : Datum → WordClass
  | .finite _ significand _ =>
      if significand = 0 then .zero
      else if significand < 1 <<< f.fractionBits then .subnormal
      else .normal
  | .infinite _ => .infinite
  | .nan => .nan

variable (f : BinaryFormat) (word : Nat)

theorem wordClass_eq : f.wordClass word = f.classOf (f.datum word) := by
  obtain ⟨hreserved, hfraction, hdatum⟩ | ⟨hreserved, hfraction, hdatum⟩ |
    ⟨hreserved, hexponent, hdatum⟩ | ⟨hreserved, hexponent, hdatum⟩ := f.datum_cases word
  · rw [wordClass, hdatum, if_pos hreserved, if_pos hfraction]
    rfl
  · rw [wordClass, hdatum, if_pos hreserved, if_neg hfraction]
    rfl
  · rw [wordClass, hdatum, if_neg hreserved, if_pos hexponent, classOf,
      if_pos (f.fractionField_lt word)]
  · have hunit : 0 < 1 <<< f.fractionBits := by
      rw [Nat.one_shiftLeft]
      exact Nat.two_pow_pos _
    rw [wordClass, hdatum, if_neg hreserved, if_neg hexponent, classOf, if_neg (by omega),
      if_neg (by omega)]

theorem datum_ne_nan (h : f.wordClass word ≠ .nan) : f.datum word ≠ .nan := by
  intro hdatum
  rw [wordClass_eq, hdatum] at h
  exact h rfl

/-- A word whose exponent field is not reserved denotes its number. -/
theorem value?_datum : (f.datum word).value? =
    if f.exponentField word = f.reserved then none else some (f.number word) := by
  have htwo : (2 : Rat) ≠ 0 := by norm_num
  obtain ⟨hreserved, -, hdatum⟩ | ⟨hreserved, -, hdatum⟩ | ⟨hreserved, hexponent, hdatum⟩ |
    ⟨hreserved, hexponent, hdatum⟩ := f.datum_cases word
  · rw [hdatum, if_pos hreserved]
    rfl
  · rw [hdatum, if_pos hreserved]
    rfl
  · rw [hdatum, if_neg hreserved, number, if_pos hexponent, Datum.value?_eq_zpow, leastExponent,
      zpow_sub₀ htwo, zpow_natCast, mul_div_assoc', div_mul_eq_mul_div]
  · have hplace : f.leastExponent + (f.exponentField word - 1 : Nat) =
        f.exponentField word - f.bias - f.fractionBits := by
      rw [leastExponent]
      omega
    rw [hdatum, if_neg hreserved, number, if_neg hexponent, Datum.value?_eq_zpow, hplace,
      zpow_sub₀ htwo, zpow_natCast, Nat.one_shiftLeft]
    push_cast
    field_simp

end BinaryFormat

namespace Double

open BinaryFormat

/-- The double has the class, the sign and the number of the word. Among doubles even the smallest
singles are normal numbers. -/
structure Widens (x : Double) (word : Nat) : Prop where
  class_eq : double.wordClass x.bits.toNat =
    if single.wordClass word = .subnormal then .normal else single.wordClass word
  sign_eq : single.wordClass word ≠ .nan →
    double.signField x.bits.toNat = single.signField word
  number_eq : single.exponentField word ≠ single.reserved →
    double.number x.bits.toNat = single.number word

theorem wordClass_ofSingle (word : Nat) : double.wordClass (ofSingle word).bits.toNat =
    if single.wordClass word = .subnormal then .normal else single.wordClass word := by
  rw [wordClass_eq, wordClass_eq, ← datum, ofSingle]
  cases hdatum : single.datum word with
  | nan => rfl
  | infinite negative =>
      dsimp only
      rw [datum_infinity]
      rfl
  | finite negative significand exponent =>
      obtain ⟨hbits, ⟨hlow, hhigh⟩, -⟩ := bounds_of_single_datum hdatum
      by_cases hzero : significand = 0
      · have hscaled : ofScaled negative significand exponent = zero negative := if_pos hzero
        dsimp only
        rw [hscaled, datum_zero, hzero]
        rfl
      · have hwide := datum_ofScaled negative hzero (by omega) (by omega)
          (show exponent + significand.log2 ≤ 1023 by omega)
        obtain ⟨-, hmoved⟩ := fraction_of_significand hzero (show significand.log2 ≤ 52 by omega)
        have hlead : 1 <<< double.fractionBits ≤ significand <<< (52 - significand.log2) := by
          rw [← hmoved]
          exact Nat.le_add_right _ _
        have hunit : 0 < 1 <<< double.fractionBits := by decide
        dsimp only
        rw [hwide, classOf, classOf, if_neg (Nat.ne_of_gt (hunit.trans_le hlead)),
          if_neg (Nat.not_lt.mpr hlead), if_neg hzero]
        by_cases hsub : significand < 1 <<< single.fractionBits
        · rw [if_pos hsub, if_pos rfl]
        · rw [if_neg hsub, if_neg (by decide)]

theorem widens_ofSingle (word : Nat) : (ofSingle word).Widens word where
  class_eq := wordClass_ofSingle word
  sign_eq := by
    intro hclass
    have hnan := single.datum_ne_nan word hclass
    have hsign := (same_ofSingle word).negative?_eq
    rw [single.negative?_datum, if_neg hnan, datum, double.negative?_datum] at hsign
    by_cases hnan' : double.datum (ofSingle word).bits.toNat = .nan
    · rw [if_pos hnan'] at hsign
      cases hsign
    · rw [if_neg hnan'] at hsign
      exact (Option.some.inj hsign).symm
  number_eq := by
    intro hreserved
    have hvalue := (same_ofSingle word).value?_eq
    rw [single.value?_datum, if_neg hreserved, datum, double.value?_datum] at hvalue
    by_cases hreserved' : double.exponentField (ofSingle word).bits.toNat = double.reserved
    · rw [if_pos hreserved'] at hvalue
      cases hvalue
    · rw [if_neg hreserved'] at hvalue
      exact (Option.some.inj hvalue).symm

/-- Two words that are numbers or infinities never become one double. -/
theorem word_eq_of_ofSingle_eq {word word' : Nat} (hlt : word < 4294967296)
    (hlt' : word' < 4294967296) (hclass : single.wordClass word ≠ .nan)
    (hclass' : single.wordClass word' ≠ .nan) (h : ofSingle word = ofSingle word') :
    word = word' := by
  have hback := toSingle_ofSingle hlt (single.datum_ne_nan word hclass)
  have hback' := toSingle_ofSingle hlt' (single.datum_ne_nan word' hclass')
  rw [← hback, h, hback']

end Double

namespace Kind

open BinaryFormat

theorem read_f32_eq_ok_iff {data : Bytes} {pos : Int} {x : Double} :
    Kind.f32.read data pos = .ok (.double x, pos + 4) ↔
      (0 ≤ pos ∧ pos + 4 ≤ data.size) ∧ x = .ofSingle (data.uint pos 4) := by
  rw [read_eq_ok_iff]
  apply and_congr_right
  intro _
  constructor
  · intro h
    exact Value.double.inj (Prod.mk.inj h).1
  · rintro rfl
    rfl

/-- A single-precision field that lies inside the data is read as the double of the same class,
sign and number. Fields that hold different words, neither of them a NaN, never read alike. -/
theorem read_f32_widens {data : Bytes} {pos : Int} (hpos : 0 ≤ pos)
    (hfit : pos + 4 ≤ data.size) :
    ∃ x : Double, Kind.f32.read data pos = .ok (.double x, pos + 4) ∧
      x.Widens (data.uint pos 4) ∧
      ∀ (data' : Bytes) (pos' : Int) (x' : Double),
        Kind.f32.read data' pos' = .ok (.double x', pos' + 4) →
        single.wordClass (data.uint pos 4) ≠ .nan →
        single.wordClass (data'.uint pos' 4) ≠ .nan →
        x'.bits = x.bits → data'.uint pos' 4 = data.uint pos 4 := by
  refine ⟨.ofSingle (data.uint pos 4), read_f32_eq_ok_iff.mpr ⟨⟨hpos, hfit⟩, rfl⟩,
    Double.widens_ofSingle _, ?_⟩
  intro data' pos' x' hread hclass hclass' hbits
  obtain ⟨hinside', rfl⟩ := read_f32_eq_ok_iff.mp hread
  have hlt := data.uint_lt (Bytes.require_eq_ok_iff.mpr ⟨hpos, hfit⟩)
  have hlt' := data'.uint_lt (Bytes.require_eq_ok_iff.mpr hinside')
  exact Double.word_eq_of_ofSingle_eq hlt' hlt hclass' hclass (congrArg Double.mk hbits)

/-- The smallest single is subnormal and becomes a normal double, and two fields that hold it hold
one word. -/
theorem read_f32_widens_leastSingle :
    let data : Bytes := #[7, 1, 0, 0, 0, 9]
    let least : Double := ⟨0x36A0000000000000⟩
    (0 : Int) ≤ 1 ∧ (1 : Int) + 4 ≤ data.size ∧
      Kind.f32.read data 1 = .ok (.double least, 1 + 4) ∧
      single.wordClass (data.uint 1 4) = .subnormal ∧
      double.wordClass least.bits.toNat = .normal ∧
      double.number least.bits.toNat = single.number (data.uint 1 4) ∧
      Kind.f32.read #[1, 0, 0, 0] 0 = .ok (.double least, 0 + 4) ∧
      Bytes.uint #[1, 0, 0, 0] 0 4 = data.uint 1 4 := by
  intro data least
  have hpos : (0 : Int) ≤ 1 := by decide
  have hfit : (1 : Int) + 4 ≤ data.size := by decide
  have hread : Kind.f32.read data 1 = .ok (.double least, 1 + 4) := by decide
  have hread' : Kind.f32.read #[1, 0, 0, 0] 0 = .ok (.double least, 0 + 4) := by decide
  have hclass : single.wordClass (data.uint 1 4) = .subnormal := by decide
  have hword : Bytes.uint #[1, 0, 0, 0] 0 4 = 1 := by decide
  obtain ⟨x, hx, hwidens, hinj⟩ := read_f32_widens hpos hfit
  obtain rfl : least = x := by
    rw [hread] at hx
    exact Value.double.inj (Prod.mk.inj (Except.ok.inj hx)).1
  refine ⟨hpos, hfit, hread, hclass, ?_, ?_, hread', ?_⟩
  · rw [hwidens.class_eq, if_pos hclass]
  · exact hwidens.number_eq (by decide)
  · exact hinj _ _ _ hread' (by rw [hclass]; decide) (by rw [hword]; decide) rfl

end Kind

end EnemyScript
