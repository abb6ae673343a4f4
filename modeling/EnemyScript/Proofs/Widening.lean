import EnemyScript.Double

/-!
# Singles widened to doubles and written back

`BinaryFormat.encode` writes what a word denotes back as a word; it undoes `BinaryFormat.datum` for
every word that is a number (`encode_datum`). Widening moves the significand up and the exponent
down by as much (`Double.datum_ofScaled`), which the encoding does not see (`encode_shiftLeft`).
So a widened single is written back as the word that it came from (`Double.toSingle_ofSingle`),
subnormal numbers and both zeros included, and no two words have the same double.
-/

namespace EnemyScript

/-- The sign of a datum that is a number or an infinity. -/
def Datum.negative? : Datum → Option Bool
  | .finite negative _ _ => some negative
  | .infinite negative => some negative
  | .nan => none

namespace BinaryFormat

variable (f : BinaryFormat)

/-- The word of a datum that the format can represent exactly. The exponent field is that of the
leading bit, and zero for subnormal numbers. -/
def encode : Datum → Nat
  | .finite negative significand exponent =>
      let field := (exponent + significand.log2 - f.leastExponent - f.fractionBits + 1).toNat
      let place := f.leastExponent + (field - 1 : Nat)
      let scaled := significand <<< (exponent - place).toNat >>> (place - exponent).toNat
      f.pack negative field (scaled % (1 <<< f.fractionBits))
  | .infinite negative => f.pack negative f.reserved 0
  | .nan => f.pack false f.reserved (1 <<< (f.fractionBits - 1))

/-- The four ways to read a word, by its fields. -/
theorem datum_cases (word : Nat) :
    (f.exponentField word = f.reserved ∧ f.fractionField word = 0 ∧
      f.datum word = .infinite (f.signField word)) ∨
    (f.exponentField word = f.reserved ∧ f.fractionField word ≠ 0 ∧ f.datum word = .nan) ∨
    (f.exponentField word ≠ f.reserved ∧ f.exponentField word = 0 ∧
      f.datum word = .finite (f.signField word) (f.fractionField word) f.leastExponent) ∨
    (f.exponentField word ≠ f.reserved ∧ f.exponentField word ≠ 0 ∧
      f.datum word = .finite (f.signField word) ((1 <<< f.fractionBits) + f.fractionField word)
        (f.leastExponent + (f.exponentField word - 1 : Nat))) := by
  rw [datum]
  by_cases hreserved : f.exponentField word = f.reserved
  · rw [if_pos hreserved]
    by_cases hfraction : f.fractionField word = 0
    · exact .inl ⟨hreserved, hfraction, if_pos hfraction⟩
    · exact .inr (.inl ⟨hreserved, hfraction, if_neg hfraction⟩)
  · rw [if_neg hreserved]
    by_cases hexponent : f.exponentField word = 0
    · exact .inr (.inr (.inl ⟨hreserved, hexponent, if_pos hexponent⟩))
    · exact .inr (.inr (.inr ⟨hreserved, hexponent, if_neg hexponent⟩))

theorem negative?_datum (word : Nat) : (f.datum word).negative? =
    if f.datum word = .nan then none else some (f.signField word) := by
  obtain ⟨-, -, hdatum⟩ | ⟨-, -, hdatum⟩ | ⟨-, -, hdatum⟩ | ⟨-, -, hdatum⟩ := f.datum_cases word
  · rw [hdatum, if_neg Datum.noConfusion, Datum.negative?]
  · rw [hdatum, if_pos rfl, Datum.negative?]
  · rw [hdatum, if_neg Datum.noConfusion, Datum.negative?]
  · rw [hdatum, if_neg Datum.noConfusion, Datum.negative?]

theorem fractionField_lt (word : Nat) : f.fractionField word < 1 <<< f.fractionBits := by
  apply Nat.mod_lt
  rw [Nat.one_shiftLeft]
  exact Nat.two_pow_pos f.fractionBits

theorem exponentField_lt (word : Nat) : f.exponentField word < 1 <<< f.exponentBits := by
  apply Nat.mod_lt
  rw [Nat.one_shiftLeft]
  exact Nat.two_pow_pos f.exponentBits

/-- A word is the word of its fields. -/
theorem pack_fields {word : Nat} (h : word < 1 <<< (1 + f.exponentBits + f.fractionBits)) :
    f.pack (f.signField word) (f.exponentField word) (f.fractionField word) = word := by
  have hsign : (f.signField word).toNat = word / 2 ^ f.fractionBits / 2 ^ f.exponentBits := by
    have hlt : word / 2 ^ (f.exponentBits + f.fractionBits) < 2 := by
      rw [Nat.div_lt_iff_lt_mul (Nat.two_pow_pos _), ← Nat.pow_succ', ← Nat.one_shiftLeft]
      rwa [Nat.add_assoc, Nat.add_comm] at h
    rw [signField, Nat.testBit_eq_decide_div_mod_eq, Nat.div_div_eq_div_mul, ← Nat.pow_add,
      Nat.add_comm f.fractionBits, Nat.mod_eq_of_lt hlt]
    generalize word / 2 ^ (f.exponentBits + f.fractionBits) = high at hlt
    obtain rfl | rfl : high = 0 ∨ high = 1 := by omega
    · rfl
    · rfl
  rw [pack, hsign, exponentField, fractionField, Nat.shiftLeft_eq, Nat.shiftLeft_eq,
    Nat.one_shiftLeft, Nat.one_shiftLeft, Nat.shiftRight_eq_div_pow, Nat.div_add_mod',
    Nat.div_add_mod']

theorem signField_pack (negative : Bool) {exponent fraction : Nat}
    (he : exponent < 1 <<< f.exponentBits) (hf : fraction < 1 <<< f.fractionBits) :
    f.signField (f.pack negative exponent fraction) = negative := by
  rw [Nat.one_shiftLeft] at he hf
  rw [signField, Nat.testBit_eq_decide_div_mod_eq, Nat.add_comm f.exponentBits, Nat.pow_add,
    ← Nat.div_div_eq_div_mul, pack, Nat.shiftLeft_eq, Nat.shiftLeft_eq, Nat.add_comm,
    Nat.add_mul_div_right _ _ (Nat.two_pow_pos _), Nat.div_eq_of_lt hf, Nat.zero_add,
    Nat.add_comm, Nat.add_mul_div_right _ _ (Nat.two_pow_pos _), Nat.div_eq_of_lt he]
  cases negative <;> rfl

theorem datum_pack (negative : Bool) {exponent fraction : Nat}
    (he : exponent < 1 <<< f.exponentBits) (hf : fraction < 1 <<< f.fractionBits) :
    f.datum (f.pack negative exponent fraction) =
      if exponent = f.reserved then
        if fraction = 0 then .infinite negative else .nan
      else if exponent = 0 then .finite negative fraction f.leastExponent
      else .finite negative ((1 <<< f.fractionBits) + fraction)
        (f.leastExponent + (exponent - 1 : Nat)) := by
  rw [datum, f.signField_pack negative he hf, f.exponentField_pack negative he hf,
    f.fractionField_pack negative hf]

theorem log2_shiftLeft {n : Nat} (h : n ≠ 0) (k : Nat) : (n <<< k).log2 = n.log2 + k := by
  have hpos : n * 2 ^ k ≠ 0 := Nat.mul_ne_zero h (Nat.ne_of_gt (Nat.two_pow_pos k))
  rw [Nat.shiftLeft_eq, Nat.log2_eq_iff hpos]
  constructor
  · rw [Nat.pow_add]
    exact Nat.mul_le_mul_right _ (Nat.log2_self_le h)
  · rw [Nat.add_right_comm, Nat.pow_add]
    exact Nat.mul_lt_mul_of_pos_right Nat.lt_log2_self (Nat.two_pow_pos k)

/-- A number brought to a place, and the same number with `k` zeros behind it. -/
theorem shiftLeft_to_place (n k : Nat) (exponent place : Int) :
    n <<< k <<< (exponent - k - place).toNat >>> (place - (exponent - k)).toNat =
      n <<< (exponent - place).toNat >>> (place - exponent).toNat := by
  rcases Int.le_total place (exponent - k) with hbelow | habove
  · have hleft : (exponent - place).toNat = k + (exponent - k - place).toNat := by omega
    have hnone : (place - (exponent - k)).toNat = 0 := by omega
    have hnone' : (place - exponent).toNat = 0 := by omega
    rw [hleft, hnone, hnone', Nat.shiftLeft_add]
  · have hnone : (exponent - k - place).toNat = 0 := by omega
    rw [hnone, Nat.shiftLeft_zero]
    rcases Int.le_total place exponent with hmid | hhigh
    · have hsplit : n <<< k =
          n <<< (exponent - place).toNat <<< (place - (exponent - k)).toNat := by
        rw [← Nat.shiftLeft_add]
        congr 1
        omega
      have hnone' : (place - exponent).toNat = 0 := by omega
      rw [hsplit, hnone', Nat.shiftLeft_shiftRight, Nat.shiftRight_zero]
    · have hright : (place - (exponent - k)).toNat = k + (place - exponent).toNat := by omega
      have hnone' : (exponent - place).toNat = 0 := by omega
      rw [hright, hnone', Nat.shiftLeft_zero, Nat.shiftRight_add, Nat.shiftLeft_shiftRight]

/-- Only the place of the leading bit and the bits below it matter, not how many zeros are written
behind them. -/
theorem encode_shiftLeft (negative : Bool) {significand : Nat} (h : significand ≠ 0) (k : Nat)
    (exponent : Int) :
    f.encode (.finite negative (significand <<< k) (exponent - k)) =
      f.encode (.finite negative significand exponent) := by
  have hlead : exponent - k + ((significand.log2 + k : Nat) : Int) =
      exponent + significand.log2 := by omega
  simp only [encode, log2_shiftLeft h, hlead, shiftLeft_to_place]

theorem encode_of_place (negative : Bool) {significand : Nat} {exponent : Int} (field : Nat)
    (hfield : (exponent + significand.log2 - f.leastExponent - f.fractionBits + 1).toNat = field)
    (hplace : f.leastExponent + (field - 1 : Nat) = exponent) :
    f.encode (.finite negative significand exponent) =
      f.pack negative field (significand % (1 <<< f.fractionBits)) := by
  simp only [encode, hfield, hplace]
  rw [Int.sub_self, Int.toNat_zero, Nat.shiftLeft_zero, Nat.shiftRight_zero]

/-- Encoding undoes reading for every word that is a number or an infinity. -/
theorem encode_datum (hbits : 0 < f.fractionBits) {word : Nat}
    (h : word < 1 <<< (1 + f.exponentBits + f.fractionBits)) (hnan : f.datum word ≠ .nan) :
    f.encode (f.datum word) = word := by
  have hpack := f.pack_fields h
  have hlt := f.fractionField_lt word
  obtain ⟨hreserved, hinf, hdatum⟩ | ⟨-, -, hdatum⟩ | ⟨-, hsub, hdatum⟩ | ⟨-, hnormal, hdatum⟩ :=
    f.datum_cases word
  · rw [hreserved, hinf] at hpack
    rw [hdatum]
    exact hpack
  · exact absurd hdatum hnan
  · have hlead : (f.fractionField word).log2 < f.fractionBits := by
      by_cases hzero : f.fractionField word = 0
      · rw [hzero]
        exact hbits
      · rwa [Nat.log2_lt hzero, ← Nat.one_shiftLeft]
    rw [hsub] at hpack
    rw [hdatum, f.encode_of_place (f.signField word) 0 (by omega) (by omega),
      Nat.mod_eq_of_lt hlt, hpack]
  · have hlead : ((1 <<< f.fractionBits) + f.fractionField word).log2 = f.fractionBits := by
      rw [Nat.log2_eq_iff (by omega), Nat.pow_succ, ← Nat.one_shiftLeft]
      omega
    rw [hdatum, f.encode_of_place (f.signField word) (f.exponentField word) (by omega) rfl,
      Nat.add_mod_left, Nat.mod_eq_of_lt hlt, hpack]

end BinaryFormat

namespace Double

open BinaryFormat

/-- The word of a single with the value of this double, when there is one. -/
def toSingle (x : Double) : Nat := single.encode x.datum

theorem datum_ofFields (negative : Bool) {exponent fraction : Nat} (he : exponent < 2048)
    (hf : fraction < 1 <<< 52) :
    (ofFields negative exponent fraction).datum =
      if exponent = 2047 then if fraction = 0 then .infinite negative else .nan
      else if exponent = 0 then .finite negative fraction (-1074)
      else .finite negative ((1 <<< 52) + fraction) (-1074 + (exponent - 1 : Nat)) := by
  have hlt : double.pack negative exponent fraction < 2 ^ 64 := by
    simp only [pack, double, Nat.shiftLeft_eq] at hf ⊢
    cases negative <;> simp only [Bool.toNat_true, Bool.toNat_false] <;> omega
  rw [datum, ofFields, BitVec.toNat_ofNat, Nat.mod_eq_of_lt hlt]
  exact double.datum_pack negative he hf

/-- The bits below the leading one, moved up to fill the fraction field. -/
theorem fraction_of_significand {n : Nat} (h : n ≠ 0) (hbits : n.log2 ≤ 52) :
    (n - (1 <<< n.log2)) <<< (52 - n.log2) < 1 <<< 52 ∧
      (1 <<< 52) + (n - (1 <<< n.log2)) <<< (52 - n.log2) = n <<< (52 - n.log2) := by
  have htop : 2 ^ n.log2 * 2 ^ (52 - n.log2) = 2 ^ 52 := by
    rw [← Nat.pow_add, Nat.add_sub_of_le hbits]
  have hlow : 2 ^ 52 ≤ n * 2 ^ (52 - n.log2) := by
    rw [← htop]
    exact Nat.mul_le_mul_right _ (Nat.log2_self_le h)
  have hhigh : n * 2 ^ (52 - n.log2) < 2 ^ 52 * 2 := by
    rw [← htop, Nat.mul_right_comm, ← Nat.pow_succ]
    exact Nat.mul_lt_mul_of_pos_right Nat.lt_log2_self (Nat.two_pow_pos _)
  simp only [Nat.shiftLeft_eq, Nat.sub_mul, Nat.one_mul, htop]
  omega

/-- A significand of at most 53 bits in the range of normal numbers is moved up until it has 53
bits. -/
theorem datum_ofScaled (negative : Bool) {significand : Nat} {exponent : Int}
    (h : significand ≠ 0) (hbits : significand.log2 ≤ 52)
    (hlow : -1022 ≤ exponent + significand.log2) (hhigh : exponent + significand.log2 ≤ 1023) :
    (ofScaled negative significand exponent).datum =
      .finite negative (significand <<< (52 - significand.log2))
        (exponent - (52 - significand.log2 : Nat)) := by
  obtain ⟨hfraction, hmoved⟩ := fraction_of_significand h hbits
  obtain ⟨field, hfield⟩ : ∃ field : Nat, exponent + significand.log2 + 1023 = field :=
    ⟨(exponent + significand.log2 + 1023).toNat, by omega⟩
  have hscaled : ofScaled negative significand exponent = ofFields negative field
      ((significand - (1 <<< significand.log2)) <<< (52 - significand.log2)) := by
    have hbias : (double.bias : Int) = 1023 := by decide
    rw [ofScaled, if_neg h]
    simp only [hbias, hfield, Int.toNat_natCast]
    rfl
  rw [hscaled, datum_ofFields negative (by omega) hfraction, if_neg (by omega),
    if_neg (by omega), hmoved]
  congr 1
  omega

theorem toSingle_zero (negative : Bool) :
    (zero negative).toSingle = single.encode (.finite negative 0 single.leastExponent) := by
  cases negative <;> decide

theorem toSingle_infinity (negative : Bool) :
    (infinity negative).toSingle = single.encode (.infinite negative) := by
  cases negative <;> decide

/-- A finite single has a significand of at most 24 bits, and a zero has the least exponent. -/
theorem bounds_of_single_datum {word : Nat} {negative : Bool} {significand : Nat} {exponent : Int}
    (h : single.datum word = .finite negative significand exponent) :
    significand.log2 ≤ 23 ∧ (-149 ≤ exponent ∧ exponent ≤ 104) ∧
      (significand = 0 → exponent = single.leastExponent) := by
  have hfraction : single.fractionField word < 2 ^ 23 := single.fractionField_lt word
  have hexponent : single.exponentField word < 256 := single.exponentField_lt word
  have hleast : single.leastExponent = -149 := by decide
  have hunit : 1 <<< single.fractionBits = 2 ^ 23 := by decide
  have hlead {n : Nat} (hn : n < 2 ^ 24) : n.log2 ≤ 23 := by
    by_cases hzero : n = 0
    · simp [hzero]
    · exact Nat.le_of_lt_succ ((Nat.log2_lt hzero).mpr hn)
  obtain ⟨-, -, hdatum⟩ | ⟨-, -, hdatum⟩ | ⟨-, -, hdatum⟩ | ⟨hfinite, -, hdatum⟩ :=
    single.datum_cases word
  · cases hdatum.symm.trans h
  · cases hdatum.symm.trans h
  · obtain ⟨rfl, rfl, rfl⟩ := Datum.finite.inj (hdatum.symm.trans h)
    exact ⟨hlead (by omega), by omega, fun _ => rfl⟩
  · have hreserved : single.reserved = 255 := by decide
    obtain ⟨rfl, rfl, rfl⟩ := Datum.finite.inj (hdatum.symm.trans h)
    exact ⟨hlead (by omega), by omega, by omega⟩

/-- A single that is no NaN is written back from its double. -/
theorem toSingle_ofSingle {word : Nat} (h : word < 4294967296) (hnan : single.datum word ≠ .nan) :
    (ofSingle word).toSingle = word := by
  have hword : single.encode (single.datum word) = word :=
    single.encode_datum (by decide) h hnan
  rw [ofSingle]
  cases hdatum : single.datum word with
  | nan => exact absurd hdatum hnan
  | infinite negative =>
      rw [hdatum] at hword
      exact (toSingle_infinity negative).trans hword
  | finite negative significand exponent =>
      obtain ⟨hbits, ⟨hlow, hhigh⟩, hleast⟩ := bounds_of_single_datum hdatum
      rw [hdatum] at hword
      by_cases hzero : significand = 0
      · rw [hzero, hleast hzero] at hword
        rw [hzero]
        exact (toSingle_zero negative).trans hword
      · have hwide := datum_ofScaled negative hzero (by omega) (by omega)
          (show exponent + significand.log2 ≤ 1023 by omega)
        dsimp only
        rw [toSingle, hwide, single.encode_shiftLeft negative hzero]
        exact hword

/-- Widening keeps which words are numbers. -/
theorem isNaN_ofSingle_iff {word : Nat} (h : word < 4294967296) :
    (ofSingle word).isNaN = true ↔ single.datum word = .nan := by
  rw [isNaN, decide_eq_true_eq]
  constructor
  · intro hwide
    by_cases hnan : single.datum word = .nan
    · exact hnan
    · have hword := toSingle_ofSingle h hnan
      rw [toSingle, hwide] at hword
      rw [← hword] at hnan
      exact absurd (by decide) hnan
  · intro hnan
    rw [ofSingle, hnan]
    decide

end Double

namespace Datum

/-- Both are no number, or the same infinity, or the same exact value under the same sign. -/
def Same : Datum → Datum → Prop
  | .finite negative significand exponent, .finite negative' significand' exponent' =>
      negative = negative' ∧
        (finite negative significand exponent).value? =
          (finite negative' significand' exponent').value?
  | .infinite negative, .infinite negative' => negative = negative'
  | .nan, .nan => True
  | _, _ => False

theorem Same.cases {d d' : Datum} (h : d.Same d') :
    (∃ negative significand exponent significand' exponent',
      d = finite negative significand exponent ∧ d' = finite negative significand' exponent' ∧
        d.value? = d'.value?) ∨
    (∃ negative, d = infinite negative ∧ d' = infinite negative) ∨ (d = nan ∧ d' = nan) := by
  cases d with
  | finite =>
      cases d' with
      | finite =>
          obtain ⟨rfl, hvalue⟩ := h
          exact .inl ⟨_, _, _, _, _, rfl, rfl, hvalue⟩
      | infinite => exact h.elim
      | nan => exact h.elim
  | infinite =>
      cases d' with
      | finite => exact h.elim
      | infinite => exact .inr (.inl ⟨_, rfl, congrArg infinite h.symm⟩)
      | nan => exact h.elim
  | nan =>
      cases d' with
      | finite => exact h.elim
      | infinite => exact h.elim
      | nan => exact .inr (.inr ⟨rfl, rfl⟩)

theorem value?_zero (negative : Bool) (exponent : Int) :
    (finite negative 0 exponent).value? = some 0 := by
  cases negative <;> simp [value?, quotient]

/-- Zeros behind the significand and a smaller exponent make up for one another. -/
theorem value?_shiftLeft (negative : Bool) (significand k : Nat) (exponent : Int) :
    (finite negative (significand <<< k) (exponent - k)).value? =
      (finite negative significand exponent).value? := by
  have hpow : 2 ^ k * 2 ^ (exponent - k).toNat * 2 ^ (-exponent).toNat =
      2 ^ exponent.toNat * 2 ^ (-(exponent - k)).toNat := by
    rw [← Nat.pow_add, ← Nat.pow_add, ← Nat.pow_add]
    congr 1
    omega
  have hnum : significand * 2 ^ k * 2 ^ (exponent - k).toNat * 2 ^ (-exponent).toNat =
      significand * 2 ^ exponent.toNat * 2 ^ (-(exponent - k)).toNat := by
    rw [Nat.mul_assoc significand, Nat.mul_assoc significand, hpow, Nat.mul_assoc significand]
  have hint := congrArg (Nat.cast : Nat → Int) hnum
  rw [Int.natCast_mul, Int.natCast_mul] at hint
  simp only [value?, quotient, Nat.shiftLeft_eq, Nat.one_mul, Option.some.injEq]
  rw [Rat.mkRat_eq_iff (Nat.ne_of_gt (Nat.two_pow_pos _)) (Nat.ne_of_gt (Nat.two_pow_pos _))]
  cases negative with
  | false => exact hint
  | true =>
      rw [if_pos rfl, if_pos rfl, Int.neg_mul, Int.neg_mul]
      exact congrArg Neg.neg hint

end Datum

namespace Double

open BinaryFormat

theorem datum_zero (negative : Bool) : (zero negative).datum = .finite negative 0 (-1074) := by
  cases negative <;> decide

theorem datum_infinity (negative : Bool) : (infinity negative).datum = .infinite negative := by
  cases negative <;> decide

/-- Widening changes nothing of what a word denotes. -/
theorem same_ofSingle (word : Nat) : (single.datum word).Same (ofSingle word).datum := by
  rw [ofSingle]
  cases hdatum : single.datum word with
  | nan => exact trivial
  | infinite negative =>
      dsimp only
      rw [datum_infinity]
      exact rfl
  | finite negative significand exponent =>
      obtain ⟨hbits, ⟨hlow, hhigh⟩, hleast⟩ := bounds_of_single_datum hdatum
      by_cases hzero : significand = 0
      · have hscaled : ofScaled negative significand exponent = zero negative := if_pos hzero
        dsimp only
        rw [hscaled, datum_zero, hzero]
        exact ⟨rfl, by rw [Datum.value?_zero, Datum.value?_zero]⟩
      · have hwide := datum_ofScaled negative hzero (by omega) (by omega)
          (show exponent + significand.log2 ≤ 1023 by omega)
        dsimp only
        rw [hwide]
        exact ⟨rfl, (Datum.value?_shiftLeft negative significand _ exponent).symm⟩

end Double

end EnemyScript
