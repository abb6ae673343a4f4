import EnemyScript.Proofs.WrittenText

/-!
# Broken text is replaced byte by byte

Any bytes are cut into units from left to right (`Cuts`): two bytes are a unit when the pair has a
character, and otherwise the first of them is one alone. Only a lead byte that stays alone is
replaced, so the replacements count these bytes (`Cuts.count_replacement`), and a character below
U+0040 comes from a byte of that value and from nothing else, since pairs have no such character
and no such byte (`Cuts.filter_low`). A cut behind a byte that is no lead byte is a boundary between
units whatever comes behind it (`units_append`).
-/

namespace EnemyScript.CodePage

/-- Bytes and their units, cut from left to right. A byte stays alone only where it has no
character together with the byte behind it. -/
inductive Cuts : List UInt8 → List CodeUnit → Prop
  | nil : Cuts [] []
  | pair {b t : UInt8} {bs : List UInt8} {us : List CodeUnit} : (pair? b t).isSome → Cuts bs us →
      Cuts (b :: t :: bs) (.pair b t :: us)
  | byte {b : UInt8} {bs : List UInt8} {us : List CodeUnit} :
      (∀ t ∈ bs.head?, pair? b t = none) → Cuts bs us → Cuts (b :: bs) (.byte b :: us)

namespace CodeUnit

def isPair : CodeUnit → Bool
  | .byte _ => false
  | .pair _ _ => true

/-- A lead byte that is not part of a pair. -/
def isLoneLead : CodeUnit → Bool
  | .byte b => isLead b
  | .pair _ _ => false

end CodeUnit

theorem cuts_units (bs : List UInt8) : Cuts bs (units bs) := by
  fun_induction units bs with
  | case1 => exact .nil
  | case2 b => exact .byte (by simp) .nil
  | case3 b t rest h ih => exact .pair h ih
  | case4 b t rest h ih =>
      refine .byte (fun t' ht' => ?_) ih
      obtain rfl := Option.some.inj ht'
      exact Option.not_isSome_iff_eq_none.mp h

/-- A single byte is replaced when it is a lead byte, and only then. -/
theorem single_eq_replacement_iff (b : UInt8) : single b = replacement ↔ isLead b := by
  have hall : ∀ n < 256, single (UInt8.ofNat n) = replacement ↔ isLead (UInt8.ofNat n) := by
    decide +kernel
  simpa using hall b.toNat b.toNat_lt

/-- A single byte has a low character when it is low itself, and then its own. -/
theorem toNat_single_lt_iff (b : UInt8) : (single b).toNat < 0x40 ↔ b < 0x40 := by
  have hall : ∀ n < 256, (single (UInt8.ofNat n)).toNat < 0x40 ↔ UInt8.ofNat n < 0x40 := by
    decide +kernel
  simpa using hall b.toNat b.toNat_lt

theorem single_of_low {b : UInt8} (h : b < 0x40) : single b = Char.ofNat b.toNat := by
  rw [single, if_neg, if_pos]
  · grind
  · rw [isLead_iff]
    grind

section Pairs

variable {b t : UInt8} (h : (pair? b t).isSome)
include h

theorem isPairCode_char_pair : isPairCode (CodeUnit.pair b t).char.toNat := by
  obtain ⟨c, hc⟩ := Option.isSome_iff_exists.mp h
  rw [CodeUnit.char, hc]
  exact isPairCode_of_pair? hc

theorem char_pair_ne_replacement : (CodeUnit.pair b t).char ≠ replacement := by
  intro hchar
  have hcode := isPairCode_char_pair h
  rw [hchar] at hcode
  exact absurd hcode (by decide)

/-- Neither byte of a pair is low. -/
theorem not_low_of_pair : ¬ b < 0x40 ∧ ¬ t < 0x40 := by
  obtain ⟨c, hc⟩ := Option.isSome_iff_exists.mp h
  obtain ⟨index, hindex, hlead, -⟩ := pair?_eq_some_iff.mp hc
  rw [isLead_iff] at hlead
  constructor
  · grind
  · intro ht
    rw [trailIndex?, if_neg (by grind), if_neg (by grind)] at hindex
    cases hindex

end Pairs

namespace Cuts

variable {bs : List UInt8} {us : List CodeUnit}

theorem length_add_countP (h : Cuts bs us) :
    us.length + us.countP CodeUnit.isPair = bs.length := by
  induction h with
  | nil => rfl
  | pair _ _ ih =>
      rw [List.countP_cons_of_pos rfl, List.length_cons, List.length_cons, List.length_cons]
      omega
  | byte _ _ ih =>
      rw [List.countP_cons_of_neg Bool.false_ne_true, List.length_cons, List.length_cons]
      omega

theorem count_replacement (h : Cuts bs us) :
    (us.map CodeUnit.char).count replacement = us.countP CodeUnit.isLoneLead := by
  induction h with
  | nil => rfl
  | pair hpair _ ih =>
      rw [List.map_cons, List.count_cons_of_ne (char_pair_ne_replacement hpair), ih,
        List.countP_cons_of_neg Bool.false_ne_true]
  | @byte b _ _ _ _ ih =>
      rw [List.map_cons, CodeUnit.char]
      by_cases hlead : isLead b
      · have hlone : (CodeUnit.byte b).isLoneLead := hlead
        rw [(single_eq_replacement_iff b).mpr hlead, List.count_cons_self, ih,
          List.countP_cons_of_pos hlone]
      · have hlone : ¬ (CodeUnit.byte b).isLoneLead := hlead
        rw [List.count_cons_of_ne (mt (single_eq_replacement_iff b).mp hlead), ih,
          List.countP_cons_of_neg hlone]

/-- The low characters are the low bytes, one for one. -/
theorem filter_low (h : Cuts bs us) :
    (us.map CodeUnit.char).filter (·.toNat < 0x40) =
      (bs.filter (· < 0x40)).map fun b => Char.ofNat b.toNat := by
  induction h with
  | nil => rfl
  | pair hpair _ ih =>
      obtain ⟨hb, ht⟩ := not_low_of_pair hpair
      have hchar := (isPairCode_iff.mp (isPairCode_char_pair hpair)).1
      rw [List.map_cons, List.filter_cons_of_neg (by simpa using hchar), ih,
        List.filter_cons_of_neg (by simpa using hb), List.filter_cons_of_neg (by simpa using ht)]
  | @byte b _ _ _ _ ih =>
      rw [List.map_cons, CodeUnit.char]
      by_cases hlow : b < 0x40
      · have hchar := (toNat_single_lt_iff b).mpr hlow
        rw [List.filter_cons_of_pos (by simpa using hchar), ih,
          List.filter_cons_of_pos (by simpa using hlow), List.map_cons, single_of_low hlow]
      · have hchar := mt (toNat_single_lt_iff b).mp hlow
        rw [List.filter_cons_of_neg (by simpa using hchar), ih,
          List.filter_cons_of_neg (by simpa using hlow)]

end Cuts

/-- Behind a byte that is no lead byte the units begin anew. -/
theorem units_append {as : List UInt8} (h : ∀ b ∈ as.getLast?, ¬ isLead b) (bs : List UInt8) :
    units (as ++ bs) = units as ++ units bs := by
  fun_induction units as with
  | case1 => rfl
  | case2 b => exact units_cons_of_not_isLead (h b rfl) bs
  | case3 b t rest hpair ih =>
      obtain ⟨c, hc⟩ := Option.isSome_iff_exists.mp hpair
      have hrest : ∀ b ∈ rest.getLast?, ¬ isLead b := by
        cases rest with
        | nil => simp
        | cons => exact h
      rw [List.cons_append, List.cons_append, units_cons_of_pair? hc, ih hrest, List.cons_append]
  | case4 b t rest hpair ih =>
      have hrest : ∀ b ∈ (t :: rest).getLast?, ¬ isLead b := h
      rw [List.cons_append, List.cons_append, units, if_neg hpair, ← List.cons_append, ih hrest,
        List.cons_append]

theorem decode_append_of_not_isLead {as : List UInt8} (h : ∀ b ∈ as.getLast?, ¬ isLead b)
    (bs : List UInt8) : decode (as ++ bs) = decode as ++ decode bs := by
  rw [decode, units_append h, List.map_append]
  rfl

/-- The bytes of a text field before its first zero byte. -/
def textBytes (field : List UInt8) : List UInt8 := field.takeWhile (· ≠ 0)

theorem toList_fieldText (field : List UInt8) :
    (fieldText field).toList = decode (textBytes field) :=
  String.toList_ofList

/-- Whatever a text field holds, it is read, and as the text that the bytes before its first zero
have: a character for each of their units, a replacement for each lead byte that is not in a pair,
and the low bytes as they are. Behind a byte that is no lead byte the text comes apart. -/
theorem read_text_of_any {field : List UInt8} (hlength : field.length = 34) {data : Bytes}
    {pos : Int} (hheld : data.Holds pos field) :
    ∃ text : String, Kind.str.read data pos = .ok (.text text, pos + 34) ∧
      text.toList = decode (textBytes field) ∧
      ∃ us, Cuts (textBytes field) us ∧
        text.toList.length + us.countP CodeUnit.isPair = (textBytes field).length ∧
        text.toList.count replacement = us.countP CodeUnit.isLoneLead ∧
        text.toList.filter (·.toNat < 0x40) =
          ((textBytes field).filter (· < 0x40)).map (fun b => Char.ofNat b.toNat) ∧
        ∀ as bs, textBytes field = as ++ bs → (∀ b ∈ as.getLast?, ¬ isLead b) →
          text.toList = decode as ++ decode bs := by
  have hcuts := cuts_units (textBytes field)
  refine ⟨_, read_text_of_holds hlength hheld, toList_fieldText field, _, hcuts, ?_, ?_, ?_, ?_⟩
  · rw [toList_fieldText, decode, List.length_map]
    exact hcuts.length_add_countP
  · rw [toList_fieldText]
    exact hcuts.count_replacement
  · rw [toList_fieldText]
    exact hcuts.filter_low
  · intro as bs hsplit hlast
    rw [toList_fieldText, hsplit]
    exact decode_append_of_not_isLead hlast bs

/-- A lead byte before a digit, one before another lead byte and one before the zero byte, with two
pairs between them. -/
theorem read_text_of_any_loneLeads :
    let held : List UInt8 := [0x81, 0x30, 0x83, 0x65, 0x85, 0x82, 0xA0, 0x22, 0x81]
    let field : List UInt8 := held ++ 0 :: List.replicate 24 0x41
    field.length = 34 ∧ Bytes.Holds field.toArray 0 field ∧
      ∃ text : String, Kind.str.read field.toArray 0 = .ok (.text text, 34) ∧
        text.toList = ['\ufffd', '0', 'テ', '\ufffd', 'あ', '"', '\ufffd'] ∧
        text.toList = decode [0x81, 0x30] ++ decode [0x83, 0x65, 0x85, 0x82, 0xA0, 0x22, 0x81] ∧
        ∃ us, Cuts held us ∧ us.countP CodeUnit.isLoneLead = 3 ∧ us.countP CodeUnit.isPair = 2 := by
  intro held field
  have hlength : field.length = 34 := rfl
  have hheld : Bytes.Holds field.toArray 0 field := by
    simpa using Bytes.holds_toArray [] field []
  have hbytes : textBytes field = held := by decide
  obtain ⟨text, hread, htext, us, hcuts, hcount, hreplaced, -, hsplit⟩ :=
    read_text_of_any hlength hheld
  rw [hbytes] at htext hcuts hcount
  have hchars : text.toList = ['\ufffd', '0', 'テ', '\ufffd', 'あ', '"', '\ufffd'] :=
    htext.trans (by decide)
  rw [hchars] at hcount hreplaced
  have hlast : ∀ b ∈ List.getLast? [0x81, 0x30], ¬ isLead b := by
    rintro b ⟨⟩
    decide
  refine ⟨hlength, hheld, text, hread, hchars, hsplit _ _ hbytes hlast, us, hcuts, ?_, ?_⟩
  · exact hreplaced.symm.trans (by decide)
  · exact Nat.add_left_cancel (hcount.trans (by decide))

end EnemyScript.CodePage
