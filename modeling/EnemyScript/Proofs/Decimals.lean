import EnemyScript.CommandLine.Group
import EnemyScript.CommandLine.Word
import EnemyScript.Proofs.Numerals
import Mathlib.Data.List.TakeWhile

/-!
# Plain decimal integers

An optional sign and ASCII digits, as a value on the command line is written. The reader accepts
much more; of these it returns the integer that the digits stand for (`ofText?_of_denotes`), the
writer writes nothing else (`denotes_decimal`), and the negative ones look negative.
-/

namespace EnemyScript

namespace Numeral

def IsDigits (cs : List Char) : Prop := cs ≠ [] ∧ ∀ c ∈ cs, c.isDigit

/-- What integer a sign and digits stand for. -/
inductive Denotes : List Char → Int → Prop where
  | unsigned {cs : List Char} (h : IsDigits cs) : Denotes cs (Nat.ofDigitChars 10 cs 0)
  | plus {cs : List Char} (h : IsDigits cs) : Denotes ('+' :: cs) (Nat.ofDigitChars 10 cs 0)
  | minus {cs : List Char} (h : IsDigits cs) : Denotes ('-' :: cs) (-Nat.ofDigitChars 10 cs 0)

theorem isDigits_toDigits (n : Nat) : IsDigits (Nat.toDigits 10 n) :=
  ⟨Nat.toDigits_ne_nil, fun _ hc => Nat.isDigit_of_mem_toDigits (by omega) (by omega) hc⟩

theorem toList_decimal (n : Int) :
    (decimal n).toList = (sign n).toList ++ Nat.toDigits 10 n.natAbs := by
  rw [decimal, String.toList_append, Nat.toList_repr]

theorem denotes_decimal (n : Int) : Denotes (decimal n).toList n := by
  have hdigits := isDigits_toDigits n.natAbs
  have hlist := toList_decimal n
  by_cases hneg : n < 0
  · have hvalue : -((Nat.ofDigitChars 10 (Nat.toDigits 10 n.natAbs) 0 : Nat) : Int) = n := by
      rw [Nat.ofDigitChars_ten_toDigits]
      omega
    have hminus := Denotes.minus hdigits
    rw [hvalue] at hminus
    rw [hlist, sign, if_pos hneg]
    exact hminus
  · have hvalue : ((Nat.ofDigitChars 10 (Nat.toDigits 10 n.natAbs) 0 : Nat) : Int) = n := by
      rw [Nat.ofDigitChars_ten_toDigits]
      omega
    have hunsigned := Denotes.unsigned hdigits
    rw [hvalue] at hunsigned
    rw [hlist, sign, if_neg hneg]
    exact hunsigned

theorem sign_inj {m n : Int} : sign m = sign n ↔ (m < 0 ↔ n < 0) := by
  by_cases hm : m < 0 <;> by_cases hn : n < 0 <;> simp [sign, hm, hn]

theorem head?_toDigits_append {n : Nat} {rest : List Char} :
    ∀ c ∈ (Nat.toDigits 10 n ++ rest).head?, c.isDigit := by
  obtain ⟨hne, hall⟩ := isDigits_toDigits n
  obtain ⟨d, digits, hdigits⟩ := List.exists_cons_of_ne_nil hne
  rw [hdigits] at hall ⊢
  rintro c ⟨⟩
  exact hall d List.mem_cons_self

/-- A decimal ends where something other than a digit begins. -/
theorem decimal_append_inj {m n : Int} {rest rest' : List Char}
    (hrest : ∀ c ∈ rest.head?, ¬ c.isDigit) (hrest' : ∀ c ∈ rest'.head?, ¬ c.isDigit)
    (h : (decimal m).toList ++ rest = (decimal n).toList ++ rest') : m = n ∧ rest = rest' := by
  have hminus (k : Int) : ∀ c ∈ (sign k).toList, decide (c = '-') = true :=
    fun c hc => decide_eq_true (eq_of_mem_sign hc)
  have hdigit {k : Nat} {tail : List Char} :
      ∀ c ∈ (Nat.toDigits 10 k ++ tail).head?, ¬ decide (c = '-') = true := by
    intro c hc hminus
    have hdigit := head?_toDigits_append c hc
    rw [of_decide_eq_true hminus] at hdigit
    cases hdigit
  rw [toList_decimal, toList_decimal, List.append_assoc, List.append_assoc] at h
  obtain ⟨hsign, hdigits⟩ := append_inj_of_runs (hminus m) (hminus n) hdigit hdigit h
  obtain ⟨hnumber, htail⟩ := append_inj_of_runs (isDigits_toDigits _).2 (isDigits_toDigits _).2
    hrest hrest' hdigits
  have habs := congrArg (Nat.ofDigitChars 10 · 0) hnumber
  simp only [Nat.ofDigitChars_ten_toDigits] at habs
  have hneg := sign_inj.mp (String.toList_inj.mp hsign)
  exact ⟨by omega, htail⟩

section Digits

variable {c : Char}

theorem digit?_of_isDigit (h : c.isDigit) : digit? c = some (c.toNat - '0'.toNat) := by
  obtain ⟨hlo, hhi⟩ := Char.isDigit_iff_toNat.mp h
  -- The run of the ASCII digits is the first one.
  have hrun : 0x30 ≤ c.toNat ∧ c.toNat < 0x30 + 10 := ⟨hlo, Nat.lt_succ_of_le hhi⟩
  rw [digit?, zeros, List.find?_cons_of_pos (by simpa using hrun)]
  rfl

theorem isDigit_of_isDigit (h : c.isDigit) : isDigit c := by
  rw [isDigit, digit?_of_isDigit h]
  rfl

theorem not_isBlank_of_isDigit (h : c.isDigit) : isBlank c = false := by
  obtain ⟨hlo, hhi⟩ := Char.isDigit_iff_toNat.mp h
  simp only [Char.reduceToNat] at hlo hhi
  simp [isBlank]
  omega

theorem ne_of_isDigit {d : Char} (h : c.isDigit) (hd : d.isDigit = false) : c ≠ d := by
  rintro rfl
  rw [h] at hd
  cases hd

end Digits

variable {cs : List Char} {n : Int}

theorem digitValues?_of_isDigits (h : IsDigits cs) :
    digitValues? cs = some (cs.map fun c => c.toNat - '0'.toNat) := by
  obtain ⟨hne, hall⟩ := h
  induction cs with
  | nil => exact absurd rfl hne
  | cons c rest ih =>
      have hc := digit?_of_isDigit (hall c List.mem_cons_self)
      cases rest with
      | nil => simp [digitValues?, hc]
      | cons d rest =>
          have hrest : ∀ e ∈ d :: rest, e.isDigit := fun e he => hall e (List.mem_cons_of_mem _ he)
          have hd : d ≠ '_' := ne_of_isDigit (hrest d List.mem_cons_self) rfl
          simp [digitValues?, hc, ih (by simp) hrest]

theorem unsigned?_of_isDigits (h : IsDigits cs) (hlen : cs.length ≤ digitLimit) :
    unsigned? cs = some (Nat.ofDigitChars 10 cs 0) := by
  simp [unsigned?, digitValues?_of_isDigits h, hlen, Nat.ofDigitChars_eq_foldl, List.foldl_map]

theorem trimBlanks_eq_self (hhead : ∀ c ∈ cs.head?, isBlank c = false)
    (hlast : ∀ c ∈ cs.getLast?, isBlank c = false) : trimBlanks cs = cs := by
  have hfront : ∀ l : List Char, (∀ c ∈ l.head?, isBlank c = false) → l.dropWhile isBlank = l := by
    intro l hl
    cases l with
    | nil => rfl
    | cons c rest => exact List.dropWhile_cons_of_neg (by simp [hl c rfl])
  rw [trimBlanks, hfront cs hhead, hfront cs.reverse (by simpa using hlast), List.reverse_reverse]

theorem Denotes.trimBlanks_eq (h : Denotes cs n) : trimBlanks cs = cs := by
  have hlast {digits : List Char} (hd : IsDigits digits) (c : Char)
      (hc : c ∈ digits.getLast?) : isBlank c = false :=
    not_isBlank_of_isDigit (hd.2 c (List.mem_of_getLast? hc))
  cases h with
  | unsigned hd =>
      exact trimBlanks_eq_self
        (fun c hc => not_isBlank_of_isDigit (hd.2 c (List.mem_of_head? hc))) (hlast hd)
  | plus hd | minus hd =>
      apply trimBlanks_eq_self
      · rintro c ⟨⟩
        decide
      · rw [List.getLast?_cons_of_ne_nil hd.1]
        exact hlast hd

/-- A plain decimal is read as what it stands for, if it is not too long. -/
theorem ofText?_of_denotes {text : String} (h : Denotes text.toList n)
    (hlen : text.length ≤ digitLimit) : ofText? text = some n := by
  rw [← String.length_toList] at hlen
  have htrim := h.trimBlanks_eq
  rw [ofText?, htrim]
  generalize text.toList = cs at h hlen
  cases h with
  | minus hd => simp [unsigned?_of_isDigits hd (Nat.le_of_succ_le hlen)]
  | plus hd => simp [unsigned?_of_isDigits hd (Nat.le_of_succ_le hlen)]
  | unsigned hd =>
      obtain ⟨hne, hall⟩ := hd
      cases cs with
      | nil => exact absurd rfl hne
      | cons c rest =>
          have hc := hall c List.mem_cons_self
          split
          · next heq => exact absurd (List.cons.inj heq).1 (ne_of_isDigit hc rfl)
          · next heq => exact absurd (List.cons.inj heq).1 (ne_of_isDigit hc rfl)
          · simp [unsigned?_of_isDigits ⟨hne, hall⟩ hlen]

theorem Denotes.exists_digits (h : Denotes cs n) (hhyphen : cs.head? = some '-') :
    ∃ digits, IsDigits digits ∧ cs = '-' :: digits := by
  cases h with
  | minus hd => exact ⟨_, hd, rfl⟩
  | plus hd => cases hhyphen
  | unsigned hd =>
      have hc := hd.2 '-' (List.mem_of_head? hhyphen)
      exact absurd hc (by decide)

/-- A hyphen and digits have the form of a negative number. -/
theorem looksNegative_of_isDigits {text : String} (htext : text.toList = '-' :: cs)
    (h : IsDigits cs) : looksNegative text := by
  obtain ⟨hne, hall⟩ := h
  have hdrop := List.dropWhile_eq_nil_iff.mpr fun c hc => isDigit_of_isDigit (hall c hc)
  simp [looksNegative, htext, isUnsigned, hdrop, hne]

end Numeral

namespace Group

open Numeral

/-- A value in decimal is a plain decimal of at most 4000 digits. -/
theorem exists_denotes_of_isDecimal {value : String} (h : isDecimal value) :
    (∃ n, Denotes value.toList n) ∧ value.length ≤ digitLimit := by
  rw [← String.length_toList]
  unfold isDecimal at h
  generalize value.toList = cs at h
  split at h
  all_goals
    simp only [decide_eq_true_eq, List.all_eq_true] at h
    obtain ⟨hne, hlen, hall⟩ := h
  · exact ⟨⟨_, .plus ⟨hne, hall⟩⟩, by rw [List.length_cons, digitLimit]; omega⟩
  · exact ⟨⟨_, .minus ⟨hne, hall⟩⟩, by rw [List.length_cons, digitLimit]; omega⟩
  · exact ⟨⟨_, .unsigned ⟨hne, hall⟩⟩, by rw [digitLimit]; omega⟩

end Group

end EnemyScript
