import EnemyScript.Listing.Statistics
import EnemyScript.Proofs.Numerals
import EnemyScript.Proofs.QuotedText
import EnemyScript.Rank

/-!
# Printable texts

Numbers, ranks and argument values are written in printable characters whatever they are. A text
may hold any character, but between its quotes only printable ones stand as they are
(`isLine_quoted`). So an instruction is written in printable characters as soon as its name and
the names of its fields are (`Instr.isLine_format`).
-/

namespace EnemyScript

open Numeral Printable

namespace Printable

/-- All characters of a text can stand within a line. -/
def IsLine (s : String) : Prop := ∀ c ∈ s.toList, isPrintable c

instance (s : String) : Decidable (IsLine s) :=
  List.decidableBAll (fun c => isPrintable c = true) s.toList

theorem isPrintable_of_le {c : Char} (hlow : 0x20 ≤ c.toNat) (hhigh : c.toNat ≤ 0x7E) :
    isPrintable c := by
  have hascii := isPrintable_of_ascii ⟨c.toNat, by omega⟩
  rw [Char.ofNat_toNat] at hascii
  rw [hascii]
  exact decide_eq_true ⟨hlow, hhigh⟩

theorem isPrintable_of_isDigit {c : Char} (h : c.isDigit) : isPrintable c := by
  obtain ⟨hlow, hhigh⟩ := Char.isDigit_iff_toNat.mp h
  simp only [Char.reduceToNat] at hlow hhigh
  exact isPrintable_of_le (by omega) (by omega)

theorem isLine_ofList_iff {cs : List Char} :
    IsLine (String.ofList cs) ↔ ∀ c ∈ cs, isPrintable c := by
  rw [IsLine, String.toList_ofList]

/-- A text is printable if its encoding is made of the bytes from space to tilde, which can be
checked without decoding it. -/
theorem isLine_of_bytes {s : String}
    (h : s.toByteArray.data.toList.all fun b => 0x20 ≤ b.toNat ∧ b.toNat ≤ 0x7E) : IsLine s := by
  intro c hc
  have hbytes : ∀ b ∈ String.utf8EncodeChar c, 0x20 ≤ b.toNat ∧ b.toNat ≤ 0x7E := by
    intro b hb
    rw [← String.utf8Encode_toList, List.utf8Encode, List.data_toByteArray] at h
    exact of_decide_eq_true (List.all_eq_true.mp h b (List.mem_flatMap.mpr ⟨c, hc, hb⟩))
  have hfirst {n : Nat} {rest : List UInt8}
      (hall : ∀ b ∈ UInt8.ofNat n :: rest, 0x20 ≤ b.toNat ∧ b.toNat ≤ 0x7E) :
      0x20 ≤ n % 256 ∧ n % 256 ≤ 0x7E := by
    have hn := hall _ List.mem_cons_self
    rwa [UInt8.toNat_ofNat'] at hn
  unfold String.utf8EncodeChar at hbytes
  dsimp only at hbytes
  -- The first byte of a longer encoding is above the range.
  split at hbytes
  · have hrange := hfirst hbytes
    have hcode : c.toNat = c.val.toNat := rfl
    exact isPrintable_of_le (by omega) (by omega)
  · split at hbytes
    · have hrange := hfirst hbytes
      omega
    · split at hbytes
      · have hrange := hfirst hbytes
        omega
      · have hrange := hfirst hbytes
        omega

theorem IsLine.append {s t : String} (hs : IsLine s) (ht : IsLine t) : IsLine (s ++ t) := by
  intro c hc
  rw [String.toList_append, List.mem_append] at hc
  exact hc.elim (hs c) (ht c)

theorem IsLine.alignRight {s : String} (h : IsLine s) (width : Nat) :
    IsLine (alignRight width s) := by
  intro c hc
  rw [toList_alignRight] at hc
  rcases eq_or_mem_of_mem_leftpad hc with rfl | hmem
  · decide
  · exact h c hmem

theorem IsLine.alignLeft {s : String} (h : IsLine s) (width : Nat) :
    IsLine (alignLeft width s) := by
  intro c hc
  rw [toList_alignLeft, List.rightpad, List.mem_append] at hc
  rcases hc with hmem | hfill
  · exact h c hmem
  · rw [List.eq_of_mem_replicate hfill]
    decide

theorem mem_intercalate {α : Type} {sep : List α} {parts : List (List α)} {a : α}
    (h : a ∈ sep.intercalate parts) : a ∈ sep ∨ ∃ part ∈ parts, a ∈ part := by
  cases parts with
  | nil => cases h
  | cons part rest =>
      rw [intercalate_cons, List.mem_append, List.mem_flatMap] at h
      rcases h with hpart | ⟨next, hnext, hmem⟩
      · exact .inr ⟨part, List.mem_cons_self, hpart⟩
      · exact (List.mem_append.mp hmem).imp_right fun ha =>
          ⟨next, List.mem_cons_of_mem part hnext, ha⟩

theorem IsLine.intercalate {sep : String} {parts : List String} (hsep : IsLine sep)
    (h : ∀ part ∈ parts, IsLine part) : IsLine (sep.intercalate parts) := by
  intro c hc
  rw [String.toList_intercalate] at hc
  rcases mem_intercalate hc with hsepc | ⟨part, hpart, hmem⟩
  · exact hsep c hsepc
  · obtain ⟨s, hs, rfl⟩ := List.mem_map.mp hpart
    exact h s hs c hmem

end Printable

section Numbers

theorem isPrintable_of_mem_decimalDigits {n : Nat} {c : Char} (h : c ∈ Nat.toDigits 10 n) :
    isPrintable c :=
  isPrintable_of_isDigit (Nat.isDigit_of_mem_toDigits (by omega) (by omega) h)

theorem isLine_repr (n : Nat) : IsLine (Nat.repr n) := by
  intro c hc
  rw [Nat.toList_repr] at hc
  exact isPrintable_of_mem_decimalDigits hc

theorem isLine_decimal (n : Int) : IsLine (decimal n) := by
  have hsign : IsLine (sign n) := by
    intro c hc
    rw [eq_of_mem_sign hc]
    decide
  exact hsign.append (isLine_repr n.natAbs)

theorem isLine_hex (width : Nat) (n : Int) : IsLine (hex width n) := by
  have hdigits : ∀ d < 16, isPrintable (Nat.digitChar d).toUpper := by decide
  intro c hc
  rcases mem_hex hc with rfl | ⟨d, hd, rfl⟩
  · decide
  · exact hdigits d hd

theorem isLine_grouped (n : Nat) : IsLine (grouped n) := by
  induction n using Nat.strongRecOn with
  | ind n ih =>
      rw [grouped]
      split
      · exact isLine_repr n
      · have hcomma : IsLine "," := by decide
        refine ((ih (n / 1000) (by omega)).append hcomma).append (isLine_ofList_iff.mpr ?_)
        intro c hc
        rcases eq_or_mem_of_mem_leftpad hc with rfl | hdigit
        · decide
        · exact isPrintable_of_mem_decimalDigits hdigit

namespace SixDigits

theorem mem_fraction {digits : List Char} {c : Char} (h : c ∈ fraction digits) :
    c = '.' ∨ c ∈ digits := by
  unfold fraction at h
  split at h
  · cases h
  · rcases List.mem_cons.mp h with rfl | hkept
    · exact .inl rfl
    · rw [List.mem_reverse] at hkept
      exact .inr (List.mem_reverse.mp ((List.dropWhile_suffix _).subset hkept))

theorem mem_pointAfter {whole : Nat} {digits : List Char} {c : Char}
    (h : c ∈ pointAfter whole digits) : c = '.' ∨ c ∈ digits := by
  rw [pointAfter, List.mem_append] at h
  rcases h with hwhole | hfraction
  · exact .inr (List.mem_of_mem_take hwhole)
  · exact (mem_fraction hfraction).imp_right List.mem_of_mem_drop

/-- Besides its digits a number has a point, the sign of an exponent and what announces it. -/
theorem isPrintable_of_mem_text {n : SixDigits} {c : Char} (h : c ∈ n.text) : isPrintable c := by
  have hdigits {whole : Nat} {m : Nat} (hc : c ∈ pointAfter whole (Nat.toDigits 10 m)) :
      isPrintable c := by
    rcases mem_pointAfter hc with rfl | hmem
    · decide
    · exact isPrintable_of_mem_decimalDigits hmem
  unfold text at h
  dsimp only at h
  split at h
  · split at h
    · exact hdigits h
    · rcases mem_pointAfter h with rfl | hmem
      · decide
      · rcases List.mem_append.mp hmem with hzero | hmem
        · rw [List.eq_of_mem_replicate hzero]
          decide
        · exact isPrintable_of_mem_decimalDigits hmem
  · rcases List.mem_append.mp h with hpoint | hexponent
    · exact hdigits hpoint
    · rcases List.mem_cons.mp hexponent with rfl | hexponent
      · decide
      · rcases List.mem_cons.mp hexponent with rfl | hmem
        · split <;> decide
        · rcases eq_or_mem_of_mem_leftpad hmem with rfl | hmem
          · decide
          · exact isPrintable_of_mem_decimalDigits hmem

end SixDigits

theorem Double.isLine_generalText (x : Double) : IsLine x.generalText := by
  have hsigned (negative : Bool) {s : String} (h : IsLine s) :
      IsLine (generalText.signed negative s) := by
    cases negative with
    | false => exact h
    | true =>
        have hminus : IsLine "-" := by decide
        exact hminus.append h
  unfold generalText
  split
  · decide
  · exact hsigned _ (by decide)
  · split
    · exact hsigned _ (by decide)
    · exact hsigned _ (isLine_ofList_iff.mpr fun c hc => SixDigits.isPrintable_of_mem_text hc)

end Numbers

theorem Rank.isLine_text (r : Rank) : IsLine r.text := by
  have hprefix : IsLine "0x" := by decide
  have hparts : ∀ part ∈ r.parts, IsLine part := by
    intro part hpart
    rcases List.mem_append.mp hpart with hnamed | hunnamed
    · obtain ⟨d, -, rfl⟩ := List.mem_map.mp hnamed
      cases d <;> decide
    · split at hunnamed
      · cases hunnamed
      · rw [List.mem_singleton.mp hunnamed]
        exact hprefix.append (isLine_hex 4 _)
  unfold text
  split
  · decide
  · split
    · decide
    · have hbar : IsLine "|" := by decide
      exact hbar.intercalate hparts

namespace Quoted

theorem isPrintable_of_mem_hexDigits {width n : Nat} {c : Char} (h : c ∈ hexDigits width n) :
    isPrintable c := by
  have hdigits : ∀ d < 16, isPrintable (Nat.digitChar d) := by decide
  obtain ⟨d, hd, rfl⟩ := mem_hexDigits h
  exact hdigits d hd

/-- A character that is not printable is not written as it is. -/
theorem Writes.isPrintable_of_mem {quote c d : Char} {cs : List Char} (h : Writes quote c cs)
    (hquote : isPrintable quote) (hd : d ∈ cs) : isPrintable d := by
  have hescape {letter : Char} {rest : List Char} (hletter : isPrintable letter)
      (hrest : ∀ e ∈ rest, isPrintable e) (hd : d ∈ '\\' :: letter :: rest) : isPrintable d := by
    rcases List.mem_cons.mp hd with rfl | hd
    · decide
    · rcases List.mem_cons.mp hd with rfl | hd
      · exact hletter
      · exact hrest d hd
  cases h with
  | plain _ _ hprintable => rwa [List.mem_singleton.mp hd]
  | backslashed hescaped =>
      rcases hescaped with rfl | rfl
      · exact hescape hquote (List.forall_mem_nil _) hd
      · exact hescape (by decide) (List.forall_mem_nil _) hd
  | @letter letter hletter =>
      have hletters : ∀ p ∈ [('\n', 'n'), ('\r', 'r'), ('\t', 't')], isPrintable p.2 := by decide
      exact hescape (hletters _ hletter) (List.forall_mem_nil _) hd
  | code hwidth _ =>
      have hletters : ∀ p ∈ [('x', 2), ('u', 4), ('U', 8)], isPrintable p.1 := by decide
      exact hescape (hletters _ hwidth) (fun _ => isPrintable_of_mem_hexDigits) hd

end Quoted

theorem isLine_quoted (s : String) : IsLine (quoted s) := by
  have hquote : isPrintable (Quoted.quoteFor s.toList) := by
    unfold Quoted.quoteFor
    split <;> decide
  apply isLine_ofList_iff.mpr
  intro c hc
  rcases List.mem_append.mp hc with hbody | hlast
  · rcases List.mem_cons.mp hbody with rfl | hbody
    · exact hquote
    · obtain ⟨d, -, hd⟩ := List.mem_flatMap.mp hbody
      exact (Quoted.writes_encodeChar _ d).isPrintable_of_mem hquote hd
  · rwa [List.mem_singleton.mp hlast]

theorem Value.isLine_format (v : Value) : IsLine v.format := by
  cases v with
  | int n => exact isLine_decimal n
  | double x => exact x.isLine_generalText
  | text s => exact isLine_quoted s

/-- The tables have printable names. -/
theorem Signature.isLine_names {dialect : Dialect} {s : Signature}
    (h : s ∈ dialect.signatures) : IsLine s.name ∧ ∀ f ∈ s.fields, IsLine f.name := by
  have hbytes : ∀ s ∈ dialect.signatures, ∀ name ∈ s.name :: s.fields.map Field.name,
      name.toByteArray.data.toList.all fun b => 0x20 ≤ b.toNat ∧ b.toNat ≤ 0x7E := by
    cases dialect <;> decide +kernel
  obtain ⟨hname, hfields⟩ := List.forall_mem_cons.mp (hbytes s h)
  refine ⟨isLine_of_bytes hname, ?_⟩
  intro f hf
  exact isLine_of_bytes (hfields f.name (List.mem_map_of_mem hf))

theorem Instr.isLine_format {dialect : Dialect} {i : Instr}
    (h : i.signature ∈ dialect.signatures) : IsLine i.format := by
  obtain ⟨hname, hfields⟩ := Signature.isLine_names h
  have hopen : IsLine "(" := by decide
  have hclose : IsLine ")" := by decide
  have hcomma : IsLine ", " := by decide
  have hequals : IsLine "=" := by decide
  refine ((hname.append hopen).append (hcomma.intercalate ?_)).append hclose
  intro part hpart
  obtain ⟨⟨name, value⟩, hmem, rfl⟩ := List.mem_map.mp hpart
  obtain ⟨f, hf, rfl⟩ := List.mem_map.mp (List.of_mem_zip hmem).1
  exact ((hfields f hf).append hequals).append value.isLine_format

end EnemyScript
