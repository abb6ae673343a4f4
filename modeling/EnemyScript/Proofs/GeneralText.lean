import EnemyScript.Proofs.PointedDigits
import EnemyScript.Proofs.SingleValues

/-!
# The text of a double, read back

A finite double that is not zero has its six digits and their exponent (`SixDigits.Rounds`). Plain
or scientific, the digits are written around a point in the place that the exponent gives it
(`text_eq_of_isPlain`, `text_eq_of_not_isPlain`), so that both notations are read back as the
rounded number. What else a text promises is in `SixDigits.WrittenAs`.
-/

namespace EnemyScript

open Numeral ScientificNumeral

/-- The text is read as `w`, which is the number of the six digits in the notation that their
exponent calls for. -/
structure SixDigits.WrittenAs (n : SixDigits) (negative : Bool) (text : List Char)
    (w : ScientificNumeral) : Prop where
  reads : ofChars? text = some w
  value : w.value = (if negative then -1 else 1) * (n.digits * (10 : Rat) ^ (n.exponent - 5))
  plain : w.exponent = none ↔ -4 ≤ n.exponent ∧ n.exponent < 6
  scientific : ∀ sign digits, w.exponent = some (sign, digits) →
    w.power = n.exponent ∧ 2 ≤ digits.length ∧ ∃ d, w.whole = [d] ∧ d ≠ '0'
  trimmed : w.fraction.getLast? ≠ some '0'
  point : '.' ∈ text → w.fraction ≠ []
  sign : text.head? = some '-' ↔ negative

namespace SixDigits

section Digits

theorem head?_toDigits {n : Nat} (hn : 0 < n) : (Nat.toDigits 10 n).head? ≠ some '0' := by
  induction n using Nat.strongRecOn with
  | ind n ih =>
      rw [Nat.toDigits_eq_if (by omega)]
      split
      · simpa using Nat.ne_of_gt hn
      · rw [List.head?_append_of_ne_nil _ Nat.toDigits_ne_nil]
        exact ih (n / 10) (by omega) (by omega)

variable {n : SixDigits}

theorem length_toDigits (hlow : 100000 ≤ n.digits) (hhigh : n.digits < 1000000) :
    (Nat.toDigits 10 n.digits).length = 6 := by
  have hle := (Nat.length_toDigits_le_iff (b := 10) (k := 6) (by omega) (by omega)).mpr hhigh
  have hlt := (Nat.length_toDigits_le_iff (b := 10) (k := 5) (n := n.digits) (by omega)
    (by omega)).not.mpr (by omega)
  omega

/-- The digits of a number in plain notation, with the zeros that stand before them. -/
def plainDigits (n : SixDigits) : List Char :=
  List.replicate (-n.exponent).toNat '0' ++ Nat.toDigits 10 n.digits

/-- How many of them stand before the point. -/
def plainWhole (n : SixDigits) : Nat := n.exponent.toNat + 1

/-- The sign and the digits of an exponent. -/
def exponentParts (e : Int) : Bool × List Char :=
  (decide (e < 0), (Nat.toDigits 10 e.natAbs).leftpad 2 '0')

theorem isDigits_zeros_append (k m : Nat) :
    IsDigits (List.replicate k '0' ++ Nat.toDigits 10 m) := by
  obtain ⟨hne, hall⟩ := isDigits_toDigits m
  refine ⟨List.append_ne_nil_of_right_ne_nil _ hne, fun c hc => ?_⟩
  rcases List.mem_append.mp hc with hzero | hmem
  · rw [List.eq_of_mem_replicate hzero]
    rfl
  · exact hall c hmem

theorem isDigits_plainDigits (n : SixDigits) : IsDigits n.plainDigits :=
  isDigits_zeros_append _ _

theorem isDigits_exponentParts (e : Int) : IsDigits (exponentParts e).2 :=
  isDigits_zeros_append _ _

theorem text_eq_of_isPlain (h : n.isPlain) : n.text = pointAfter n.plainWhole n.plainDigits := by
  unfold text
  rw [if_pos h]
  split
  · next hnonneg =>
      rw [plainDigits, show (-n.exponent).toNat = 0 by omega]
      rfl
  · next hneg =>
      rw [plainWhole, show n.exponent.toNat = 0 by omega]
      rfl

theorem text_eq_of_not_isPlain (h : ¬ n.isPlain) :
    n.text = pointAfter 1 (Nat.toDigits 10 n.digits) ++
      'e' :: (if n.exponent < 0 then '-' else '+') :: (exponentParts n.exponent).2 := by
  unfold text
  rw [if_neg h]
  rfl

theorem exponent?_exponentParts (e : Int) :
    exponent? ((if e < 0 then '-' else '+') :: (exponentParts e).2) = some (exponentParts e) := by
  have hdigits := digits?_of_isDigits (isDigits_exponentParts e)
  by_cases hneg : e < 0
  · rw [if_pos hneg, exponent?, hdigits]
    simp [exponentParts, hneg]
  · rw [if_neg hneg, exponent?, hdigits]
    simp [exponentParts, hneg]

theorem power_exponentParts {w : ScientificNumeral} {e : Int}
    (h : w.exponent = some (exponentParts e)) : w.power = e := by
  have hdigits : Nat.ofDigitChars 10 ((Nat.toDigits 10 e.natAbs).leftpad 2 '0') 0 = e.natAbs := by
    rw [List.leftpad, ofDigitChars_zeros_append, Nat.ofDigitChars_ten_toDigits]
  rw [power, h]
  simp only [exponentParts, hdigits, decide_eq_true_eq]
  split <;> omega

end Digits

section Written

variable {n : SixDigits} {negative : Bool} {whole : Nat} {digits : List Char}

theorem head?_pointAfter (h : digits ≠ []) (hwhole : 0 < whole) :
    (pointAfter whole digits).head? = digits.head? := by
  cases digits with
  | nil => exact absurd rfl h
  | cons d rest =>
      cases whole with
      | zero => exact absurd hwhole (Nat.lt_irrefl 0)
      | succ whole => rfl

theorem trimZeros_ne_nil_of_point (h : IsDigits digits) (hpoint : '.' ∈ pointAfter whole digits) :
    trimZeros (digits.drop whole) ≠ [] := by
  rw [pointAfter, fraction_eq, List.mem_append] at hpoint
  rcases hpoint with htake | hfraction
  · exact absurd (h.2 _ (List.mem_of_mem_take htake)) (by decide)
  · intro hnil
    rw [if_pos hnil] at hfraction
    cases hfraction

/-- What both notations have in common: digits around a point, and perhaps an exponent. -/
theorem writtenAs_ofPoint {exponent : Option (Bool × List Char)} {suffix : List Char}
    (htext : n.text = pointAfter whole digits ++ suffix) (hdigits : IsDigits digits)
    (hwhole : 0 < whole) (hlength : whole ≤ digits.length) (hsuffix : '.' ∉ suffix)
    (hreads : unsigned? negative n.text = some (ofPoint negative whole digits exponent))
    (hnumber : Nat.ofDigitChars 10 digits 0 = n.digits)
    (hplaces : (ofPoint negative whole digits exponent).power - (digits.length - whole : Int) =
      n.exponent - 5)
    (hplain : exponent = none ↔ -4 ≤ n.exponent ∧ n.exponent < 6)
    (hscientific : ∀ sign power, exponent = some (sign, power) →
      (ofPoint negative whole digits exponent).power = n.exponent ∧ 2 ≤ power.length ∧
        ∃ d, digits.take whole = [d] ∧ d ≠ '0') :
    n.WrittenAs negative (if negative then '-' :: n.text else n.text)
      (ofPoint negative whole digits exponent) := by
  have hhead : n.text.head? ≠ some '-' := by
    have hpoint := head?_pointAfter hdigits.1 hwhole
    obtain ⟨d, rest, hd⟩ := List.exists_cons_of_ne_nil hdigits.1
    rw [hd, List.head?_cons] at hpoint
    rw [htext, List.head?_append, hd, hpoint]
    intro heq
    have hdigit := hdigits.2 '-' (by rw [hd, ← Option.some.inj heq]; exact List.mem_cons_self)
    exact absurd hdigit (by decide)
  constructor
  case reads => rw [ofChars?_signed negative hhead, hreads]
  case value => rw [value_ofPoint hlength, hnumber, hplaces]
  case plain => exact hplain
  case scientific => exact hscientific
  case trimmed => exact getLast?_trimZeros _
  case point =>
    intro hmem
    have htextPoint : '.' ∈ n.text := by
      cases negative with
      | false => exact hmem
      | true => exact (List.mem_cons.mp hmem).resolve_left (by decide)
    rw [htext, List.mem_append] at htextPoint
    exact trimZeros_ne_nil_of_point hdigits (htextPoint.resolve_right hsuffix)
  case sign =>
    cases negative with
    | false => exact ⟨fun h => absurd h hhead, nofun⟩
    | true => exact ⟨fun _ => rfl, fun _ => rfl⟩

theorem exists_writtenAs_of_isPlain (hlow : 100000 ≤ n.digits) (hhigh : n.digits < 1000000)
    (h : n.isPlain) (negative : Bool) :
    ∃ w, n.WrittenAs negative (if negative then '-' :: n.text else n.text) w := by
  have hdigits := isDigits_plainDigits n
  have htext : n.text = pointAfter n.plainWhole n.plainDigits ++ [] := by
    rw [List.append_nil, text_eq_of_isPlain h]
  have hwhole : 0 < n.plainWhole := Nat.succ_pos _
  have hrange : -4 ≤ n.exponent ∧ n.exponent < 6 := of_decide_eq_true h
  have hlength : n.plainDigits.length = (-n.exponent).toNat + 6 := by
    rw [plainDigits, List.length_append, List.length_replicate, length_toDigits hlow hhigh]
  refine ⟨ofPoint negative n.plainWhole n.plainDigits none, writtenAs_ofPoint htext hdigits hwhole
    ?_ List.not_mem_nil ?_ ?_ ?_ ?_ nofun⟩
  · rw [hlength, plainWhole]
    omega
  · rw [text_eq_of_isPlain h, unsigned?_pointAfter negative hdigits hwhole]
  · rw [plainDigits, ofDigitChars_zeros_append, Nat.ofDigitChars_ten_toDigits]
  · change (0 : Int) - _ = _
    rw [hlength, plainWhole]
    omega
  · exact ⟨fun _ => hrange, fun _ => rfl⟩

theorem exists_writtenAs_of_not_isPlain (hlow : 100000 ≤ n.digits) (hhigh : n.digits < 1000000)
    (h : ¬ n.isPlain) (negative : Bool) :
    ∃ w, n.WrittenAs negative (if negative then '-' :: n.text else n.text) w := by
  have hdigits := isDigits_toDigits n.digits
  have htext := text_eq_of_not_isPlain h
  have hlength := length_toDigits hlow hhigh
  have hpower := power_exponentParts
    (w := ofPoint negative 1 (Nat.toDigits 10 n.digits) (some (exponentParts n.exponent))) rfl
  refine ⟨ofPoint negative 1 (Nat.toDigits 10 n.digits) (some (exponentParts n.exponent)),
    writtenAs_ofPoint htext hdigits Nat.one_pos ?_ ?_ ?_ Nat.ofDigitChars_ten_toDigits ?_ ?_ ?_⟩
  · omega
  · rw [List.mem_cons, List.mem_cons]
    rintro (he | hsign | hmem)
    · exact absurd he (by decide)
    · split at hsign <;> exact absurd hsign (by decide)
    · exact absurd ((isDigits_exponentParts n.exponent).2 _ hmem) (by decide)
  · rw [htext, unsigned?_pointAfter_exponent negative hdigits Nat.one_pos
      (exponent?_exponentParts n.exponent)]
  · rw [hpower, hlength]
    omega
  · exact ⟨nofun, fun hrange => absurd (decide_eq_true hrange) h⟩
  · intro sign power hsome
    obtain rfl : (exponentParts n.exponent).2 = power := congrArg Prod.snd (Option.some.inj hsome)
    refine ⟨hpower, ?_, ?_⟩
    · rw [exponentParts, List.length_leftpad]
      omega
    · have hhead := head?_toDigits (n := n.digits) (by omega)
      obtain ⟨d, rest, hd⟩ := List.exists_cons_of_ne_nil hdigits.1
      rw [hd] at hhead ⊢
      exact ⟨d, rfl, fun heq => hhead (congrArg some heq)⟩

theorem exists_writtenAs (hlow : 100000 ≤ n.digits) (hhigh : n.digits < 1000000)
    (negative : Bool) :
    ∃ w, n.WrittenAs negative (if negative then '-' :: n.text else n.text) w := by
  by_cases h : n.isPlain
  · exact exists_writtenAs_of_isPlain hlow hhigh h negative
  · exact exists_writtenAs_of_not_isPlain hlow hhigh h negative

end Written

end SixDigits

namespace Datum

theorem quotient_pos {significand : Nat} (h : significand ≠ 0) (exponent : Int) :
    0 < (quotient significand exponent).1 ∧ 0 < (quotient significand exponent).2 := by
  simp only [quotient, Nat.shiftLeft_eq, Nat.one_mul]
  exact ⟨Nat.mul_pos (Nat.pos_of_ne_zero h) (Nat.two_pow_pos _), Nat.two_pow_pos _⟩

end Datum

theorem abs_signed {q : Rat} (hq : 0 < q) (negative : Bool) :
    |(if negative then -1 else 1) * q| = q ∧
      decide ((if negative then -1 else 1) * q < 0) = negative := by
  cases negative with
  | false => simp [abs_of_pos hq, hq.le]
  | true => simp [abs_of_pos hq, hq]

namespace Double

theorem toList_signed (negative : Bool) (cs : List Char) :
    (generalText.signed negative (String.ofList cs)).toList =
      if negative then '-' :: cs else cs := by
  cases negative with
  | false => exact String.toList_ofList
  | true =>
      change ("-" ++ String.ofList cs).toList = '-' :: cs
      simp [String.toList_append]

variable {x : Double} {negative : Bool} {significand : Nat} {exponent : Int}

theorem msb_of_datum (h : x.datum = .finite negative significand exponent) :
    x.bits.msb = negative := by
  have hsign : BinaryFormat.double.signField x.bits.toNat = negative := by
    have hnegative := BinaryFormat.double.negative?_datum x.bits.toNat
    rw [← datum, h, if_neg Datum.noConfusion] at hnegative
    exact (Option.some.inj hnegative).symm
  rw [← hsign, BitVec.msb_eq_getLsbD_last]
  rfl

theorem generalText_zero (h : x.datum = .finite negative 0 exponent) :
    x.generalText = if negative then "-0" else "0" := by
  rw [generalText, h]
  cases negative <;> rfl

theorem toList_generalText (h : x.datum = .finite negative significand exponent)
    (hne : significand ≠ 0) :
    x.generalText.toList =
      let text := (SixDigits.round (Datum.quotient significand exponent).1
        (Datum.quotient significand exponent).2).text
      if negative then '-' :: text else text := by
  rw [generalText, h]
  simp only [if_neg hne]
  exact toList_signed negative _

/-- The text of a double is its exact value, rounded to six significant digits. -/
theorem format_correctlyRounded (x : Double) {v : Rat} (hv : x.datum.value? = some v) :
    (v ≠ 0 → ∃ n : SixDigits, (∀ m : SixDigits, m.Rounds |v| ↔ m = n) ∧
      100000 ≤ n.digits ∧ n.digits < 1000000 ∧
      ∃ w, n.WrittenAs (decide (v < 0)) (Value.double x).format.toList w) ∧
    (v = 0 → (Value.double x).format = if x.bits.msb then "-0" else "0") := by
  cases hdatum : x.datum with
  | infinite => rw [hdatum] at hv; cases hv
  | nan => rw [hdatum] at hv; cases hv
  | finite negative significand exponent =>
      rw [hdatum] at hv
      constructor
      · intro hne
        have hsignificand : significand ≠ 0 := fun hzero =>
          hne (Option.some.inj (hv.symm.trans (Datum.value?_eq_zero_iff.mpr hzero)))
        obtain ⟨hnum, hden⟩ := Datum.quotient_pos hsignificand exponent
        have hrounds := SixDigits.rounds_round hnum hden
        obtain ⟨hlow, hhigh⟩ := hrounds.digits_bounds
        have hquotient : (0 : Rat) < (Datum.quotient significand exponent).1 /
            (Datum.quotient significand exponent).2 :=
          div_pos (by exact_mod_cast hnum) (by exact_mod_cast hden)
        obtain ⟨habs, hsign⟩ := abs_signed hquotient negative
        obtain rfl := Option.some.inj ((Datum.value?_finite ..).symm.trans hv)
        rw [habs, hsign, Value.format, toList_generalText hdatum hsignificand]
        exact ⟨_, fun m => ⟨fun hm => hm.unique hrounds, fun hm => hm ▸ hrounds⟩, hlow, hhigh,
          SixDigits.exists_writtenAs hlow hhigh negative⟩
      · rintro rfl
        rw [Datum.value?_eq_zero_iff.mp hv] at hdatum
        rw [msb_of_datum hdatum]
        exact generalText_zero hdatum

/-- A tie that is rounded up to seven digits and takes the other notation. -/
theorem format_correctlyRounded_carriedTie :
    (⟨0xC12E847F00000000⟩ : Double).datum.value? = some (-1999999 / 2) ∧
      (-1999999 / 2 : Rat) ≠ 0 ∧
      (∃ n : SixDigits, (∀ m : SixDigits, m.Rounds |(-1999999 / 2 : Rat)| ↔ m = n) ∧
        100000 ≤ n.digits ∧ n.digits < 1000000 ∧
        ∃ w, n.WrittenAs true (Value.double ⟨0xC12E847F00000000⟩).format.toList w) ∧
      (Value.double ⟨0xC12E847F00000000⟩).format = "-1e+06" := by
  have hv : (⟨0xC12E847F00000000⟩ : Double).datum.value? = some (-1999999 / 2) := by
    decide +kernel
  have hne : (-1999999 / 2 : Rat) ≠ 0 := by norm_num
  have hneg : decide ((-1999999 / 2 : Rat) < 0) = true := by decide +kernel
  have hwritten := (format_correctlyRounded ⟨0xC12E847F00000000⟩ hv).1 hne
  rw [hneg] at hwritten
  exact ⟨hv, hne, hwritten, by decide +kernel⟩

end Double

end EnemyScript
