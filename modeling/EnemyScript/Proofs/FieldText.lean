import EnemyScript.Text.CodePage
import Mathlib.Data.List.GetD
import Mathlib.Data.List.TakeWhile

/-!
# The characters of a text field

Every code unit takes at least one byte, so a text has at most as many characters as its field
has bytes (`length_fieldText_le`). All codes of the table and of the formulas are characters, so
only the byte zero is read as U+0000, and a text that ends before the first zero has none
(`nul_notMem_fieldText`).
-/

namespace EnemyScript.CodePage

theorem length_units_le (bs : List UInt8) : (units bs).length ≤ bs.length := by
  fun_induction units bs with
  | case1 => exact Nat.le_refl 0
  | case2 => exact Nat.le_refl 1
  | case3 b t rest h ih =>
      simp only [List.length_cons]
      omega
  | case4 b t rest h ih =>
      simp only [List.length_cons] at ih ⊢
      omega

theorem length_fieldText_le (field : List UInt8) :
    (fieldText field).toList.length ≤ field.length := by
  rw [fieldText, String.toList_ofList, decode, List.length_map]
  exact (length_units_le _).trans (List.takeWhile_prefix _).length_le

/-- A unit is a byte of the text or a pair that has a character. -/
theorem of_mem_units {bs : List UInt8} {u : CodeUnit} (h : u ∈ units bs) :
    (∃ b ∈ bs, u = .byte b) ∨ ∃ b t, (pair? b t).isSome ∧ u = .pair b t := by
  fun_induction units bs with
  | case1 => cases h
  | case2 b => exact .inl ⟨b, List.mem_cons_self, List.mem_singleton.mp h⟩
  | case3 b t rest hpair ih =>
      rcases List.mem_cons.mp h with rfl | hrest
      · exact .inr ⟨b, t, hpair, rfl⟩
      · rcases ih hrest with ⟨b', hmem, rfl⟩ | hpair'
        · exact .inl ⟨b', List.mem_cons_of_mem b (List.mem_cons_of_mem t hmem), rfl⟩
        · exact .inr hpair'
  | case4 b t rest hpair ih =>
      rcases List.mem_cons.mp h with rfl | hrest
      · exact .inl ⟨b, List.mem_cons_self, rfl⟩
      · rcases ih hrest with ⟨b', hmem, rfl⟩ | hpair'
        · exact .inl ⟨b', List.mem_cons_of_mem b hmem, rfl⟩
        · exact .inr hpair'

/-- The codes that pairs have: characters beyond the low half of ASCII, and not the replacement. -/
def isPairCode (code : Nat) : Bool :=
  0x40 ≤ code && code != 0xFFFD && (code < 0xD800 || 0xDFFF < code && code < 0x110000)

theorem isPairCode_iff {code : Nat} :
    isPairCode code = true ↔ 0x40 ≤ code ∧ code ≠ 0xFFFD ∧ code.isValidChar := by
  simp [isPairCode, Nat.isValidChar, and_assoc]

/-- A cell of the table that is not empty has a character. -/
theorem isPairCode_cell {lead index : Nat} (h : cell lead index ≠ 0) :
    isPairCode (cell lead index) := by
  have hrows : rows.all fun row => row.2.all fun number => (List.range 16).all fun place =>
      number >>> (16 * place) % 65536 == 0 ||
        isPairCode (number >>> (16 * place) % 65536) := by decide +kernel
  simp only [List.all_eq_true, List.mem_range, Bool.or_eq_true, beq_iff_eq] at hrows
  unfold cell at h ⊢
  cases hrow : rows.lookup lead with
  | none => simp [hrow] at h
  | some row =>
      rw [hrow] at h
      dsimp only at h ⊢
      by_cases hindex : index / 16 < row.length
      · have hmem : (lead, row) ∈ rows := by
          obtain ⟨l₁, l₂, heq, -⟩ := List.lookup_eq_some_iff.mp hrow
          rw [heq]
          exact List.mem_append_right l₁ List.mem_cons_self
        rw [List.getD_eq_getElem row 0 hindex] at h ⊢
        have hplace : 15 - index % 16 < 16 := by omega
        exact (hrows _ hmem _ (List.getElem_mem hindex) _ hplace).resolve_left h
      · rw [List.getD_eq_default row 0 (by omega), Nat.zero_shiftRight] at h
        exact absurd rfl h

theorem isPairCode_pairCode {lead index : Nat} (hindex : index < 188)
    (h : pairCode lead index ≠ 0) : isPairCode (pairCode lead index) := by
  unfold pairCode at h ⊢
  split
  · rw [isPairCode_iff, Nat.isValidChar]
    omega
  · next harea =>
      rw [if_neg harea] at h
      exact isPairCode_cell h

theorem toNat_ofNat {n : Nat} (h : n.isValidChar) : (Char.ofNat n).toNat = n := by
  rw [Char.ofNat, dif_pos h]
  rfl

theorem trailIndex?_lt {t : UInt8} {index : Nat} (h : trailIndex? t = some index) :
    index < 188 := by
  unfold trailIndex? at h
  have hlt := t.toNat_lt
  split at h
  · next hlow =>
      have hle := UInt8.le_iff_toNat_le.mp hlow.2
      obtain rfl := Option.some.inj h
      have h7E : (0x7E : UInt8).toNat = 0x7E := rfl
      omega
  · split at h
    · next hhigh =>
        have hle := UInt8.le_iff_toNat_le.mp hhigh.2
        obtain rfl := Option.some.inj h
        have hFC : (0xFC : UInt8).toNat = 0xFC := rfl
        omega
    · cases h

/-- A pair with a character has the character of its code, which is in the table or in the
user-defined area. -/
theorem pair?_eq_some_iff {b t : UInt8} {c : Char} :
    pair? b t = some c ↔ ∃ index, trailIndex? t = some index ∧ isLead b ∧
      pairCode b.toNat index ≠ 0 ∧ Char.ofNat (pairCode b.toNat index) = c := by
  unfold pair?
  cases htrail : trailIndex? t with
  | none => simp
  | some index => simp [and_assoc]

theorem isPairCode_of_pair? {b t : UInt8} {c : Char} (h : pair? b t = some c) :
    isPairCode c.toNat := by
  obtain ⟨index, hindex, -, hcode, rfl⟩ := pair?_eq_some_iff.mp h
  have hpair := isPairCode_pairCode (trailIndex?_lt hindex) hcode
  rwa [toNat_ofNat (isPairCode_iff.mp hpair).2.2]

theorem pair?_ne_nul {b t : UInt8} {c : Char} (h : pair? b t = some c) : c ≠ Char.ofNat 0 := by
  rintro rfl
  exact absurd (isPairCode_of_pair? h) (by decide)

theorem single_ne_nul {b : UInt8} (h : b ≠ 0) : single b ≠ Char.ofNat 0 := by
  have hall : ∀ n < 256, n ≠ 0 → single (UInt8.ofNat n) ≠ Char.ofNat 0 := by decide +kernel
  have hb := hall b.toNat b.toNat_lt fun hzero => h (UInt8.toNat_inj.mp hzero)
  rwa [UInt8.ofNat_toNat] at hb

theorem nul_notMem_decode {bs : List UInt8} (h : 0 ∉ bs) : Char.ofNat 0 ∉ decode bs := by
  intro hmem
  obtain ⟨u, hu, hchar⟩ := List.mem_map.mp hmem
  rcases of_mem_units hu with ⟨b, hb, rfl⟩ | ⟨b, t, hpair, rfl⟩
  · exact single_ne_nul (fun hzero => h (hzero ▸ hb)) hchar
  · obtain ⟨c, hc⟩ := Option.isSome_iff_exists.mp hpair
    rw [CodeUnit.char, hc] at hchar
    exact pair?_ne_nul hc hchar

theorem nul_notMem_fieldText (field : List UInt8) : Char.ofNat 0 ∉ (fieldText field).toList := by
  rw [fieldText, String.toList_ofList]
  apply nul_notMem_decode
  intro hzero
  simpa using List.mem_takeWhile_imp hzero

end EnemyScript.CodePage
