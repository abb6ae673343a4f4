import EnemyScript.Kind
import EnemyScript.Proofs.FieldText
import EnemyScript.Proofs.Holds
import EnemyScript.Proofs.Numerals

/-!
# Written text is read back

A text is written as one code unit for each of its characters. Lead bytes, second bytes and single
bytes overlap, so a byte alone does not tell what it is. But a written unit is the first unit of
whatever begins with its bytes (`CodeUnit.Writes.units_append`), so from the first boundary on all
of them are found again (`units_of_writes`). No written unit has the byte zero, which ends the text
in its field.
-/

namespace EnemyScript.CodePage

/-- The code page: which unit is written for the character of which code. -/
inductive CodeUnit.Writes : CodeUnit → Nat → Prop
  | low {b : UInt8} : 0x01 ≤ b → b ≤ 0x80 → Writes (.byte b) b.toNat
  | privateA0 : Writes (.byte 0xA0) 0xF8F0
  | katakana {b : UInt8} : 0xA1 ≤ b → b ≤ 0xDF → Writes (.byte b) (0xFF61 + (b.toNat - 0xA1))
  | privateLast {b : UInt8} : 0xFD ≤ b → Writes (.byte b) (0xF8F1 + (b.toNat - 0xFD))
  | userDefined {b t : UInt8} {index : Nat} : 0xF0 ≤ b → b ≤ 0xF9 → trailIndex? t = some index →
      Writes (.pair b t) (0xE000 + 188 * (b.toNat - 0xF0) + index)
  | table {b t : UInt8} {index : Nat} : isLead b → ¬ (0xF0 ≤ b ∧ b ≤ 0xF9) →
      trailIndex? t = some index → cell b.toNat index ≠ 0 →
      Writes (.pair b t) (cell b.toNat index)

theorem isLead_iff {b : UInt8} :
    isLead b = true ↔ 0x81 ≤ b ∧ b ≤ 0x9F ∨ 0xE0 ≤ b ∧ b ≤ 0xFC :=
  decide_eq_true_iff

/-- The conditions of the user-defined area on a byte and on its number agree. -/
theorem userDefined_iff {b : UInt8} :
    0xF0 ≤ b.toNat ∧ b.toNat ≤ 0xF9 ↔ 0xF0 ≤ b ∧ b ≤ 0xF9 := by
  rw [UInt8.le_iff_toNat_le, UInt8.le_iff_toNat_le]
  rfl

theorem pair?_of_index {b t : UInt8} {index : Nat} (hlead : isLead b)
    (hindex : trailIndex? t = some index) (hcode : pairCode b.toNat index ≠ 0) :
    ∃ c, pair? b t = some c ∧ c.toNat = pairCode b.toNat index := by
  have hpair := isPairCode_pairCode (trailIndex?_lt hindex) hcode
  exact ⟨_, pair?_eq_some_iff.mpr ⟨index, hindex, hlead, hcode, rfl⟩,
    toNat_ofNat (isPairCode_iff.mp hpair).2.2⟩

namespace CodeUnit.Writes

variable {u : CodeUnit} {code : Nat} {b t : UInt8}

theorem exists_pair? (h : Writes (.pair b t) code) :
    ∃ c, pair? b t = some c ∧ c.toNat = code := by
  cases h with
  | @userDefined _ _ index hlow hhigh hindex =>
      have hcode : pairCode b.toNat index = 0xE000 + 188 * (b.toNat - 0xF0) + index :=
        if_pos (userDefined_iff.mpr ⟨hlow, hhigh⟩)
      rw [← hcode]
      exact pair?_of_index (isLead_iff.mpr (by grind)) hindex (by omega)
  | @table _ _ index hlead harea hindex hcell =>
      have hcode : pairCode b.toNat index = cell b.toNat index :=
        if_neg (mt userDefined_iff.mp harea)
      rw [← hcode] at hcell ⊢
      exact pair?_of_index hlead hindex hcell

theorem not_isLead (h : Writes (.byte b) code) : ¬ isLead b := by
  rw [isLead_iff]
  cases h with
  | low hlow hhigh => grind
  | privateA0 => decide
  | katakana hlow hhigh => grind
  | privateLast hlow => grind

theorem toNat_single (h : Writes (.byte b) code) : (single b).toNat = code := by
  have hlead := h.not_isLead
  have hlt := b.toNat_lt
  cases h with
  | low hlow hhigh =>
      rw [single, if_neg hlead, if_pos hhigh, toNat_ofNat]
      exact .inl (by omega)
  | privateA0 => decide
  | katakana hlow hhigh =>
      rw [single, if_neg hlead, if_neg (by grind), if_neg (by grind), if_pos hhigh, toNat_ofNat]
      exact .inr (by omega)
  | privateLast hlow =>
      rw [single, if_neg hlead, if_neg (by grind), if_neg (by grind), if_neg (by grind),
        toNat_ofNat]
      exact .inr (by omega)

theorem toNat_char (h : u.Writes code) : u.char.toNat = code := by
  cases u with
  | byte b => exact h.toNat_single
  | pair b t =>
      obtain ⟨c, hc, hcode⟩ := h.exists_pair?
      rw [char, hc]
      exact hcode

/-- Whatever comes behind a written unit, the unit is found. -/
theorem units_append (h : u.Writes code) (bs : List UInt8) :
    units (u.bytes ++ bs) = u :: units bs := by
  cases u with
  | byte b => exact units_cons_of_not_isLead h.not_isLead bs
  | pair b t =>
      obtain ⟨c, hc, -⟩ := h.exists_pair?
      exact units_cons_of_pair? hc bs

theorem zero_notMem (h : u.Writes code) : 0 ∉ u.bytes := by
  intro hmem
  cases u with
  | byte b =>
      obtain rfl := List.mem_singleton.mp hmem
      cases h with
      | low hlow _ => exact absurd hlow (by decide)
      | katakana hlow _ => exact absurd hlow (by decide)
      | privateLast hlow => exact absurd hlow (by decide)
  | pair b t =>
      obtain ⟨c, hc, -⟩ := h.exists_pair?
      obtain ⟨index, hindex, hlead, -⟩ := pair?_eq_some_iff.mp hc
      rcases List.mem_cons.mp hmem with rfl | hmem
      · exact absurd hlead (by decide)
      · obtain rfl := List.mem_singleton.mp hmem
        cases hindex

end CodeUnit.Writes

variable {us : List CodeUnit} {codes : List Nat}

theorem units_of_writes (h : List.Forall₂ CodeUnit.Writes us codes) :
    units (us.flatMap CodeUnit.bytes) = us := by
  induction h with
  | nil => rfl
  | cons hu _ ih => rw [List.flatMap_cons, hu.units_append, ih]

theorem map_toNat_of_writes (h : List.Forall₂ CodeUnit.Writes us codes) :
    us.map (Char.toNat ∘ CodeUnit.char) = codes := by
  induction h with
  | nil => rfl
  | cons hu _ ih => rw [List.map_cons, ih, Function.comp_apply, hu.toNat_char]

theorem zero_notMem_of_writes (h : List.Forall₂ CodeUnit.Writes us codes) :
    0 ∉ us.flatMap CodeUnit.bytes := by
  induction h with
  | nil => exact List.not_mem_nil
  | cons hu _ ih =>
      rw [List.flatMap_cons, List.mem_append]
      exact not_or.mpr ⟨hu.zero_notMem, ih⟩

/-- What a text field holds before its first zero byte. -/
theorem takeWhile_of_zero_notMem {bs rest : List UInt8} (hbs : 0 ∉ bs)
    (hrest : ∀ b ∈ rest.head?, b = 0) : (bs ++ rest).takeWhile (· ≠ 0) = bs := by
  apply Numeral.takeWhile_append_of_run
  · intro b hmem
    rw [decide_eq_true_iff]
    rintro rfl
    exact hbs hmem
  · intro b hb
    rw [hrest b hb]
    decide

/-- Where the data hold a whole text field, its text is read, whatever it is made of. -/
theorem read_text_of_holds {field : List UInt8} (hlength : field.length = 34) {data : Bytes}
    {pos : Int} (hheld : data.Holds pos field) :
    Kind.str.read data pos = .ok (.text (fieldText field), pos + 34) := by
  have hslice : data.slice pos Kind.str.size = field := hheld.slice_eq hlength
  refine Kind.read_eq_ok_iff.mpr ⟨Bytes.require_eq_ok_iff.mp (hheld.require hlength), ?_⟩
  rw [hslice]
  rfl

/-- A text field that holds the units of a text, and a zero byte and anything else behind them if
there is room, is read as the characters that were written, and to its end. -/
theorem read_text_of_writes (h : List.Forall₂ CodeUnit.Writes us codes) {rest : List UInt8}
    (hlength : (us.flatMap CodeUnit.bytes ++ rest).length = 34)
    (hrest : ∀ b ∈ rest.head?, b = 0) {data : Bytes} {pos : Int}
    (hheld : data.Holds pos (us.flatMap CodeUnit.bytes ++ rest)) :
    ∃ text : String, Kind.str.read data pos = .ok (.text text, pos + 34) ∧
      text.toList.map Char.toNat = codes := by
  refine ⟨_, read_text_of_holds hlength hheld, ?_⟩
  rw [fieldText, takeWhile_of_zero_notMem (zero_notMem_of_writes h) hrest, String.toList_ofList,
    decode, units_of_writes h, List.map_map, map_toNat_of_writes h]

/-- Half-width and full-width letters, the second byte of one of them a lead byte, one of the
user-defined characters, and more behind the zero byte. -/
theorem read_text_of_writes_mixedWidths :
    let us : List CodeUnit := [.byte 0xB1, .pair 0x83 0x83, .byte 0x41, .pair 0xF0 0x41]
    let codes := [0xFF71, 0x30E3, 0x41, 0xE001]
    let rest : List UInt8 := 0 :: List.replicate 27 0x81
    let data : Bytes := (7 :: (us.flatMap CodeUnit.bytes ++ rest)).toArray
    List.Forall₂ CodeUnit.Writes us codes ∧
      (us.flatMap CodeUnit.bytes ++ rest).length = 34 ∧ (∀ b ∈ rest.head?, b = 0) ∧
      data.Holds 1 (us.flatMap CodeUnit.bytes ++ rest) ∧
      ∃ text : String, Kind.str.read data 1 = .ok (.text text, 35) ∧
        text.toList.map Char.toNat = codes := by
  intro us codes rest data
  have hus : List.Forall₂ CodeUnit.Writes us codes := by
    refine .cons ?_ (.cons ?_ (.cons ?_ (.cons ?_ .nil)))
    · exact @CodeUnit.Writes.katakana 0xB1 (by decide) (by decide)
    · exact @CodeUnit.Writes.table 0x83 0x83 66 (by decide) (by decide) rfl (by decide)
    · exact @CodeUnit.Writes.low 0x41 (by decide) (by decide)
    · exact @CodeUnit.Writes.userDefined 0xF0 0x41 1 (by decide) (by decide) rfl
  have hheld : data.Holds 1 (us.flatMap CodeUnit.bytes ++ rest) := by
    simpa using Bytes.holds_toArray [7] (us.flatMap CodeUnit.bytes ++ rest) []
  have hend : ∀ b ∈ rest.head?, b = 0 := by
    rintro b ⟨⟩
    rfl
  exact ⟨hus, rfl, hend, hheld, read_text_of_writes hus rfl hend hheld⟩

end EnemyScript.CodePage
