import EnemyScript.Text.Quoted
import Mathlib.Algebra.Group.Nat.Defs

/-!
# Quoted text is read back

Between its quotes a character stands for itself or is escaped, and whatever comes behind it, it is
read back as itself (`Quoted.Writes.unescape_append`). A quote never stands there by itself, so that
a reader who lets each backslash take the next character along finds the end of a text, whatever
comes behind it (`Quoted.quoted_append_inj`).
-/

namespace EnemyScript.Quoted

open Printable

/-- What is written between quotes for a character. -/
inductive Writes (quote : Char) : Char → List Char → Prop
  | plain {c : Char} (hquote : c ≠ quote) (hbackslash : c ≠ '\\') (hprintable : isPrintable c) :
      Writes quote c [c]
  | backslashed {c : Char} (h : c = quote ∨ c = '\\') : Writes quote c ['\\', c]
  | letter {c letter : Char} (h : (c, letter) ∈ [('\n', 'n'), ('\r', 'r'), ('\t', 't')]) :
      Writes quote c ['\\', letter]
  | code {c letter : Char} {width : Nat} (h : (letter, width) ∈ [('x', 2), ('u', 4), ('U', 8)])
      (hfits : c.toNat < 16 ^ width) : Writes quote c ('\\' :: letter :: hexDigits width c.toNat)

/-- What may stand between quotes: a backslash takes the next character along, and no other
character is the quote. -/
inductive Encloses (quote : Char) : List Char → Prop
  | nil : Encloses quote []
  | plain {c : Char} {cs : List Char} (hquote : c ≠ quote) (hbackslash : c ≠ '\\')
      (h : Encloses quote cs) : Encloses quote (c :: cs)
  | escaped (c : Char) {cs : List Char} (h : Encloses quote cs) : Encloses quote ('\\' :: c :: cs)

theorem quoteFor_eq (s : List Char) : quoteFor s = '\'' ∨ quoteFor s = '"' := by
  unfold quoteFor
  split
  · exact .inr rfl
  · exact .inl rfl

theorem writes_codeEscape (quote c : Char) : Writes quote c (codeEscape c) := by
  have hvalid : c.toNat < 0x110000 := by
    have hc := c.valid
    unfold UInt32.isValidChar Nat.isValidChar at hc
    change c.val.toNat < 0x110000
    omega
  unfold codeEscape
  split
  · next hbyte => exact .code (by decide) hbyte
  · split
    · next hshort => exact .code (by decide) hshort
    · exact .code (by decide) (by omega)

theorem writes_encodeChar (quote c : Char) : Writes quote c (encodeChar quote c) := by
  unfold encodeChar
  split
  · next hescaped => exact .backslashed hescaped
  · next hplain =>
      obtain ⟨hquote, hbackslash⟩ := not_or.mp hplain
      split
      · next hfeed =>
          subst hfeed
          exact .letter (by decide)
      · split
        · next hreturn =>
            subst hreturn
            exact .letter (by decide)
        · split
          · next htab =>
              subst htab
              exact .letter (by decide)
          · split
            · next hprintable => exact .plain hquote hbackslash hprintable
            · exact writes_codeEscape quote c

section Digits

theorem length_hexDigits (width n : Nat) : (hexDigits width n).length = width := by
  induction width generalizing n with
  | zero => rfl
  | succ width ih => rw [hexDigits, List.length_append, ih, List.length_singleton]

theorem mem_hexDigits {width n : Nat} {c : Char} (h : c ∈ hexDigits width n) :
    ∃ d < 16, c = Nat.digitChar d := by
  induction width generalizing n with
  | zero => cases h
  | succ width ih =>
      rcases List.mem_append.mp h with hfront | hlast
      · exact ih hfront
      · exact ⟨n % 16, Nat.mod_lt n (by omega), List.mem_singleton.mp hlast⟩

/-- The digits are read back as the end of the number that they can hold. -/
theorem exists_mapM_hexDigits (width n : Nat) :
    ∃ values, (hexDigits width n).mapM hexValue? = some values ∧
      values.foldl (fun n d => 16 * n + d) 0 = n % 16 ^ width := by
  have hdigits : ∀ d < 16, hexValue? (Nat.digitChar d) = some d := by decide
  induction width generalizing n with
  | zero => exact ⟨[], rfl, by rw [List.foldl_nil, Nat.pow_zero, Nat.mod_one]⟩
  | succ width ih =>
      obtain ⟨values, hvalues, hfold⟩ := ih (n / 16)
      refine ⟨values ++ [n % 16], ?_, ?_⟩
      · simp [hexDigits, List.mapM_append, hvalues, hdigits (n % 16) (Nat.mod_lt n (by omega))]
      · rw [List.foldl_append, hfold, List.foldl_cons, List.foldl_nil, Nat.pow_succ, Nat.mul_comm,
          Nat.mul_comm (16 ^ width), Nat.mod_mul]
        omega

theorem codeChar?_hexDigits {width : Nat} {c : Char} (h : c.toNat < 16 ^ width) :
    codeChar? width (hexDigits width c.toNat) = some c := by
  obtain ⟨values, hvalues, hfold⟩ := exists_mapM_hexDigits width c.toNat
  rw [Nat.mod_eq_of_lt h] at hfold
  have hguard : (guard ((hexDigits width c.toNat).length = width) : Option Unit) = some () :=
    if_pos (length_hexDigits width c.toNat)
  rw [codeChar?, hguard, hvalues]
  change some (Char.ofNat (values.foldl (fun n d => 16 * n + d) 0)) = some c
  rw [hfold, Char.ofNat_toNat]

end Digits

section Reading

variable {quote c : Char} {cs s rest : List Char}

theorem unescape_cons (h : c ≠ '\\') (rest : List Char) :
    unescape (c :: rest) = (c :: ·) <$> unescape rest := by
  rw [unescape.eq_def]
  split <;> simp_all

theorem unescape_backslashed (h : c = '\\' ∨ c = '\'' ∨ c = '"') (rest : List Char) :
    unescape ('\\' :: c :: rest) = (c :: ·) <$> unescape rest := by
  rcases h with rfl | rfl | rfl <;> simp [unescape]

theorem unescape_code {letter : Char} {width : Nat}
    (h : (letter, width) ∈ [('x', 2), ('u', 4), ('U', 8)]) (rest : List Char) :
    unescape ('\\' :: letter :: rest) = (do
      return (← codeChar? width (rest.take width)) :: (← unescape (rest.drop width))) := by
  simp only [List.mem_cons, Prod.mk.injEq, List.not_mem_nil, or_false] at h
  rcases h with ⟨rfl, rfl⟩ | ⟨rfl, rfl⟩ | ⟨rfl, rfl⟩ <;> rw [unescape]

/-- Whatever comes behind a written character, the character is read back. -/
theorem Writes.unescape_append (h : Writes quote c cs) (hquote : quote = '\'' ∨ quote = '"')
    (rest : List Char) : unescape (cs ++ rest) = (c :: ·) <$> unescape rest := by
  cases h with
  | plain _ hbackslash => exact unescape_cons hbackslash rest
  | backslashed hescaped =>
      refine unescape_backslashed ?_ rest
      rcases hescaped with rfl | rfl
      · exact .inr hquote
      · exact .inl rfl
  | letter hletter =>
      simp only [List.mem_cons, Prod.mk.injEq, List.not_mem_nil, or_false] at hletter
      rcases hletter with ⟨rfl, rfl⟩ | ⟨rfl, rfl⟩ | ⟨rfl, rfl⟩
      all_goals rw [List.cons_append, List.cons_append, List.nil_append, unescape]
  | @code letter width hwidth hfits =>
      have hlength := length_hexDigits width c.toNat
      rw [List.cons_append, List.cons_append, unescape_code hwidth, List.take_left' hlength,
        List.drop_left' hlength, codeChar?_hexDigits hfits]
      cases unescape rest <;> rfl

theorem unescape_flatMap (hquote : quote = '\'' ∨ quote = '"') (s : List Char) :
    unescape (s.flatMap (encodeChar quote)) = some s := by
  induction s with
  | nil => rw [List.flatMap_nil, unescape]
  | cons c s ih =>
      rw [List.flatMap_cons, (writes_encodeChar quote c).unescape_append hquote, ih]
      rfl

end Reading

section Enclosing

variable {quote c : Char} {cs ds rest rest' : List Char}

theorem encloses_of_forall (h : ∀ c ∈ cs, c ≠ quote ∧ c ≠ '\\') : Encloses quote cs := by
  induction cs with
  | nil => exact .nil
  | cons c cs ih =>
      obtain ⟨⟨hquote, hbackslash⟩, hrest⟩ := List.forall_mem_cons.mp h
      exact .plain hquote hbackslash (ih hrest)

theorem Encloses.append (hc : Encloses quote cs) (hd : Encloses quote ds) :
    Encloses quote (cs ++ ds) := by
  induction hc with
  | nil => exact hd
  | plain hquote hbackslash _ ih => exact .plain hquote hbackslash ih
  | escaped c _ ih => exact .escaped c ih

theorem Writes.encloses (h : Writes quote c cs) (hquote : quote = '\'' ∨ quote = '"') :
    Encloses quote cs := by
  have hdigits : ∀ d < 16, Nat.digitChar d ∉ ['\'', '"', '\\'] := by decide
  cases h with
  | plain hne hbackslash => exact .plain hne hbackslash .nil
  | backslashed => exact .escaped c .nil
  | letter => exact .escaped _ .nil
  | code =>
      refine .escaped _ (encloses_of_forall fun digit hmem => ?_)
      obtain ⟨d, hd, rfl⟩ := mem_hexDigits hmem
      have hplain := hdigits d hd
      simp only [List.mem_cons, List.not_mem_nil, or_false, not_or] at hplain
      rcases hquote with rfl | rfl
      · exact ⟨hplain.1, hplain.2.2⟩
      · exact ⟨hplain.2.1, hplain.2.2⟩

theorem encloses_flatMap (hquote : quote = '\'' ∨ quote = '"') (s : List Char) :
    Encloses quote (s.flatMap (encodeChar quote)) := by
  induction s with
  | nil => exact .nil
  | cons c s ih => exact ((writes_encodeChar quote c).encloses hquote).append ih

/-- The first quote that is not escaped is the end, so what is enclosed can be told from what comes
behind it. -/
theorem Encloses.append_inj (hc : Encloses quote cs) (hd : Encloses quote ds)
    (hquote : quote ≠ '\\') (h : cs ++ quote :: rest = ds ++ quote :: rest') :
    cs = ds ∧ rest = rest' := by
  induction hc generalizing ds with
  | nil =>
      cases hd with
      | nil => exact ⟨rfl, (List.cons.inj h).2⟩
      | plain hne => exact absurd (List.cons.inj h).1.symm hne
      | escaped d _ => exact absurd (List.cons.inj h).1 hquote
  | plain hne hbackslash _ ih =>
      cases hd with
      | nil => exact absurd (List.cons.inj h).1 hne
      | plain _ _ hd =>
          obtain ⟨rfl, htail⟩ := List.cons.inj h
          obtain ⟨rfl, hrest⟩ := ih hd htail
          exact ⟨rfl, hrest⟩
      | escaped d _ => exact absurd (List.cons.inj h).1 hbackslash
  | escaped c _ ih =>
      cases hd with
      | nil => exact absurd (List.cons.inj h).1.symm hquote
      | plain _ hbackslash => exact absurd (List.cons.inj h).1.symm hbackslash
      | escaped d hd =>
          simp only [List.cons_append, List.cons.injEq, true_and] at h
          obtain ⟨rfl, htail⟩ := h
          obtain ⟨rfl, hrest⟩ := ih hd htail
          exact ⟨rfl, hrest⟩

end Enclosing

theorem toList_quoted (s : String) : (quoted s).toList =
    quoteFor s.toList :: s.toList.flatMap (encodeChar (quoteFor s.toList)) ++
      [quoteFor s.toList] :=
  String.toList_ofList

/-- A quoted text can be told from what comes behind it. -/
theorem quoted_append_inj {s t : String} {rest rest' : List Char}
    (h : (quoted s).toList ++ rest = (quoted t).toList ++ rest') : s = t ∧ rest = rest' := by
  rw [toList_quoted, toList_quoted] at h
  simp only [List.cons_append, List.append_assoc, List.nil_append, List.cons.injEq] at h
  obtain ⟨hquote, hbody⟩ := h
  rw [← hquote] at hbody
  have heither := quoteFor_eq s.toList
  have hbackslash : quoteFor s.toList ≠ '\\' := by
    rcases heither with heq | heq <;> rw [heq] <;> decide
  obtain ⟨hsame, hrest⟩ := (encloses_flatMap heither s.toList).append_inj
    (encloses_flatMap heither t.toList) hbackslash hbody
  have hread := congrArg unescape hsame
  rw [unescape_flatMap heither, unescape_flatMap heither] at hread
  exact ⟨String.toList_inj.mp (Option.some.inj hread), hrest⟩

end EnemyScript.Quoted
