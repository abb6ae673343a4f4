import EnemyScript.Proofs.Numerals
import EnemyScript.Rank
import Mathlib.Data.List.Basic
import Mathlib.Data.Nat.Bitwise

/-!
# The rank column

Between its bars the text of a rank shows the names of the difficulties that the rank includes,
so a reader of the column finds out what a filter by difficulty does (`Rank.includes_iff_text`).
It has no blank at its start, and it is narrower than its column unless it has more than three
parts (`Rank.length_text_lt_iff`).
-/

namespace EnemyScript

open Numeral

namespace Difficulty

theorem mem_all (d : Difficulty) : d ∈ all := by cases d <;> decide

theorem toList_label (d : Difficulty) : d.label.toList = d.name.toList.map Char.toUpper := by
  cases d <;> rfl

theorem label_injective {d e : Difficulty} (h : d.label = e.label) : d = e := by
  cases d <;> cases e <;> first | rfl | exact absurd h (by decide)

end Difficulty

namespace Rank

/-- A difficulty is included when its bit is set in the field. -/
theorem includes_iff_land {r : Rank} {d : Difficulty} :
    r.includes d ↔ r.bits &&& (ofDifficulty d).bits ≠ 0 := by
  have hflag : d.flag < 8 := by cases d <;> decide
  have hpow : 2 ^ d.flag < 2 ^ 8 := Nat.pow_lt_pow_right (by omega) hflag
  have hbits : (ofDifficulty d).bits = 2 ^ (d.flag + 8) := by
    rw [bits, ofDifficulty, BitVec.toNat_twoPow, Nat.mod_eq_of_lt hpow, Nat.pow_add]
  have htest : r.bits.testBit (d.flag + 8) = r.includes d := by
    rw [bits, show 256 = 2 ^ 8 from rfl, Nat.testBit_mul_two_pow, Nat.add_sub_cancel,
      BitVec.testBit_toNat, includes]
    simp
  rw [hbits, Nat.and_two_pow, htest]
  cases r.includes d <;> simp

theorem mem_parts_iff {r : Rank} {part : String} :
    part ∈ r.parts ↔ (∃ d, r.includes d ∧ d.label = part) ∨
      r.unnamedBits ≠ 0 ∧ part = "0x" ++ hex 4 r.unnamedBits := by
  rw [parts, List.mem_append]
  apply or_congr
  · constructor
    · intro h
      obtain ⟨d, hd, rfl⟩ := List.mem_map.mp h
      exact ⟨d, (List.mem_filter.mp hd).2, rfl⟩
    · rintro ⟨d, hd, rfl⟩
      exact List.mem_map.mpr ⟨d, List.mem_filter.mpr ⟨d.mem_all, hd⟩, rfl⟩
  · by_cases hbits : r.unnamedBits = 0
    · simp [hbits]
    · simp [hbits]

theorem bar_notMem_of_mem_parts {r : Rank} {part : String} (h : part ∈ r.parts) :
    '|' ∉ part.toList := by
  rcases mem_parts_iff.mp h with ⟨d, -, rfl⟩ | ⟨-, rfl⟩
  · cases d <;> decide
  · have hdigits : ∀ d < 16, '|' ≠ (Nat.digitChar d).toUpper := by decide
    intro hmem
    rw [String.toList_append, List.mem_append] at hmem
    rcases hmem with hprefix | hhex
    · exact absurd hprefix (by decide)
    · rcases mem_hex hhex with hsign | ⟨d, hd, hdigit⟩
      · exact absurd hsign (by decide)
      · exact hdigits d hd hdigit

/-- A number starts with a zero. -/
theorem number_ne {part : String} (n : Nat) (h : part.toList.head? ≠ some '0') :
    "0x" ++ hex 4 n ≠ part := by
  rintro rfl
  rw [String.toList_append] at h
  exact h rfl

theorem number_ne_label (n : Nat) (d : Difficulty) : "0x" ++ hex 4 n ≠ d.label :=
  number_ne n (by cases d <;> decide)

/-- The label of a difficulty is a part exactly when the difficulty is included. -/
theorem label_mem_parts_iff {r : Rank} {d : Difficulty} :
    d.label ∈ r.parts ↔ r.includes d := by
  rw [mem_parts_iff]
  constructor
  · rintro (⟨e, he, hlabel⟩ | ⟨-, hhex⟩)
    · rwa [← Difficulty.label_injective hlabel]
    · exact absurd hhex.symm (number_ne_label _ d)
  · intro h
    exact .inl ⟨d, h, rfl⟩

theorem toList_text {r : Rank} (hall : r.flags ≠ 0xFF) (hne : r.parts ≠ []) :
    r.text.toList = ['|'].intercalate (r.parts.map String.toList) := by
  rw [text, if_neg hall, if_neg hne, String.toList_intercalate]
  rfl

theorem splitOn_text {r : Rank} (hall : r.flags ≠ 0xFF) (hne : r.parts ≠ []) :
    r.text.toList.splitOn '|' = r.parts.map String.toList := by
  rw [toList_text hall hne]
  apply List.splitOn_intercalate
  · intro part hpart
    obtain ⟨s, hs, rfl⟩ := List.mem_map.mp hpart
    exact bar_notMem_of_mem_parts hs
  · simpa using hne

/-- Between its bars the text shows the parts, or the dash that stands for none. -/
theorem mem_splitOn_text_iff {r : Rank} (hall : r.flags ≠ 0xFF) {part : String} (hdash : part ≠ "-") :
    part.toList ∈ r.text.toList.splitOn '|' ↔ part ∈ r.parts := by
  by_cases hne : r.parts = []
  · have hsplit : r.text.toList.splitOn '|' = ["-".toList] := by
      rw [text, if_neg hall, if_pos hne]
      decide
    rw [hsplit, hne, List.mem_singleton, String.toList_inj]
    exact iff_of_false hdash List.not_mem_nil
  · rw [splitOn_text hall hne, List.mem_map_of_injective fun _ _ => String.toList_injective]

/-- No other rank reads like the full one. -/
theorem text_ne_all {r : Rank} (hall : r.flags ≠ 0xFF) : r.text ≠ "ALL" := by
  intro htext
  have hall' : "ALL".toList ∈ r.text.toList.splitOn '|' := by
    rw [htext]
    decide
  rw [mem_splitOn_text_iff hall (by decide)] at hall'
  rcases mem_parts_iff.mp hall' with ⟨d, -, hlabel⟩ | ⟨-, hnumber⟩
  · cases d <;> exact absurd hlabel (by decide)
  · exact absurd hnumber.symm (number_ne _ (by decide))

/-- What the column shows tells whether a difficulty is included: by its name in upper case among
the parts between the bars, or by the word that stands for all flags. -/
theorem includes_iff_text {r : Rank} {d : Difficulty} :
    r.includes d ↔
      r.text = "ALL" ∨ d.name.toList.map Char.toUpper ∈ r.text.toList.splitOn '|' := by
  rw [← d.toList_label]
  by_cases hall : r.flags = 0xFF
  · have hincludes : r.includes d := by
      rw [includes, hall]
      cases d <;> decide
    exact iff_of_true hincludes (.inl (if_pos hall))
  · have hdash : d.label ≠ "-" := by cases d <;> decide
    rw [or_iff_right (text_ne_all hall), ← label_mem_parts_iff, mem_splitOn_text_iff hall hdash]

theorem unindented_text (r : Rank) : Unindented r.text.toList := by
  by_cases hall : r.flags = 0xFF
  · rw [text, if_pos hall]
    exact ⟨'A', rfl, by decide⟩
  · by_cases hne : r.parts = []
    · rw [text, if_neg hall, if_pos hne]
      exact ⟨'-', rfl, by decide⟩
    · obtain ⟨part, rest, hparts⟩ := List.exists_cons_of_ne_nil hne
      obtain ⟨tail, htail⟩ : ∃ tail, r.text.toList = part.toList ++ tail := by
        rw [toList_text hall hne, hparts, List.map_cons, intercalate_cons]
        exact ⟨_, rfl⟩
      have hmem : part ∈ r.parts := hparts ▸ List.mem_cons_self
      have hpart : Unindented part.toList := by
        rcases mem_parts_iff.mp hmem with ⟨d, -, rfl⟩ | ⟨-, rfl⟩
        · cases d <;> exact ⟨_, rfl, by decide⟩
        · exact ⟨'0', by simp [String.toList_append], by decide⟩
      rw [htail]
      exact hpart.append tail

section Width

/-- Behind each text a separator is counted, also behind the last, which has none. -/
theorem length_intercalate_succ {α : Type} (sep : α) {parts : List (List α)} (hne : parts ≠ []) :
    ([sep].intercalate parts).length + 1 = (parts.map (·.length + 1)).sum := by
  obtain ⟨part, rest, rfl⟩ := List.exists_cons_of_ne_nil hne
  have hbehind : (rest.map fun part => ([sep] ++ part).length) = rest.map (·.length + 1) :=
    List.map_congr_left fun part _ => List.length_cons
  rw [intercalate_cons, List.length_append, List.length_flatMap, hbehind, List.map_cons,
    List.sum_cons]
  omega

theorem sum_map_filter {α : Type} (p : α → Bool) (f : α → Nat) (as : List α) :
    ((as.filter p).map f).sum = (as.map fun a => (p a).toNat * f a).sum := by
  induction as with
  | nil => rfl
  | cons a as ih =>
      rw [List.map_cons, List.sum_cons, ← ih]
      cases hp : p a with
      | false =>
          rw [List.filter_cons_of_neg (by simp [hp]), Bool.toNat_false, Nat.zero_mul, Nat.zero_add]
      | true =>
          rw [List.filter_cons_of_pos hp, List.map_cons, List.sum_cons, Bool.toNat_true,
            Nat.one_mul]

/-- A measure of the parts, flag by flag and the unnamed flags together. -/
theorem sum_map_parts (r : Rank) (f : String → Nat) :
    (r.parts.map f).sum = (r.includes .easy).toNat * f "EASY" +
      (r.includes .normal).toNat * f "NORMAL" + (r.includes .hard).toNat * f "HARD" +
      (r.includes .lunatic).toNat * f "LUNATIC" +
      (decide (r.unnamedBits ≠ 0)).toNat * f ("0x" ++ hex 4 r.unnamedBits) := by
  have hunnamed : ((if r.unnamedBits = 0 then [] else ["0x" ++ hex 4 r.unnamedBits]).map f).sum =
      (decide (r.unnamedBits ≠ 0)).toNat * f ("0x" ++ hex 4 r.unnamedBits) := by
    by_cases hzero : r.unnamedBits = 0
    · simp [hzero]
    · simp [hzero]
  rw [parts, List.map_append, List.sum_append, List.map_map, sum_map_filter, hunnamed]
  simp only [Difficulty.all, List.map_cons, List.map_nil, List.sum_cons, List.sum_nil,
    Function.comp_apply, Difficulty.label]
  omega

theorem length_unnamed (r : Rank) : ("0x" ++ hex 4 r.unnamedBits).toList.length = 6 := by
  have hlt : r.unnamedBits < 65536 := by
    have hflags := (r.flags &&& 0xF0).isLt
    rw [unnamedBits]
    omega
  rw [String.toList_append, List.length_append, length_hex_four hlt]
  rfl

/-- The text of a rank has at most 21 characters exactly when it has at most three parts or stands
for all flags. -/
theorem length_text_lt_iff (r : Rank) :
    r.text.toList.length < 22 ↔ r.flags = 0xFF ∨ r.parts.length ≤ 3 := by
  by_cases hall : r.flags = 0xFF
  · rw [text, if_pos hall]
    exact iff_of_true (by decide) (.inl hall)
  · rw [or_iff_right hall]
    by_cases hne : r.parts = []
    · rw [text, if_neg hall, if_pos hne, hne]
      decide
    · have hne' : r.parts.map String.toList ≠ [] := List.map_eq_nil_iff.not.mpr hne
      have hlength := length_intercalate_succ '|' hne'
      rw [← toList_text hall hne, List.map_map, sum_map_parts] at hlength
      have hcount := sum_map_parts r fun _ => 1
      rw [List.map_const', List.sum_replicate_nat] at hcount
      -- Four parts have 23 characters at least, three 21 at most.
      have heasy := Bool.toNat_le (r.includes .easy)
      have hnormal := Bool.toNat_le (r.includes .normal)
      have hhard := Bool.toNat_le (r.includes .hard)
      have hlunatic := Bool.toNat_le (r.includes .lunatic)
      have hunnamed := Bool.toNat_le (decide (r.unnamedBits ≠ 0))
      simp only [Function.comp_apply, length_unnamed, show "EASY".toList.length = 4 from rfl,
        show "NORMAL".toList.length = 6 from rfl, show "HARD".toList.length = 4 from rfl,
        show "LUNATIC".toList.length = 7 from rfl] at hlength
      omega

end Width

end Rank

end EnemyScript
