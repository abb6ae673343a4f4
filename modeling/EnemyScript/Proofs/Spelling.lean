import EnemyScript.Proofs.Decimals
import Mathlib.Data.List.Infix

/-!
# Spelled groups

How the words of a complete group are classified. A name is recognised alone and in front of an
equals sign, however it is abbreviated. A file that does not look like an option, a difficulty and
a decimal are operands, the negative decimals too.
-/

namespace EnemyScript

namespace Flag

variable {flag : Flag} {word : String}

theorem IsNamedBy.exists_spelling (h : flag.IsNamedBy word) :
    ∃ s ∈ spellings, s.2 = flag ∧ word.toList <+: s.1.toList := by
  rcases h with hmem | ⟨-, ⟨s, hs, hstarts⟩, hflag⟩
  · exact ⟨_, hmem, rfl, List.prefix_refl _⟩
  · exact ⟨s, hs, hflag s hs hstarts, hstarts⟩

/-- What the beginnings of the spellings are as words. One that names an option is none of the two
words that only look like one, and it is a spelling or begins a single one. -/
theorem isNamedBy_beginnings : ∀ s ∈ spellings, ∀ cs ∈ s.1.toList.inits,
    let word := String.ofList cs
    s.2.IsNamedBy word →
      word.toList.head? = some '-' ∧ word ≠ "-" ∧ word ≠ "--" ∧ '=' ∉ word.toList ∧
        (spellings.lookup word = some s.2 ∨
          spellings.lookup word = none ∧ "--".toList <+: word.toList ∧
            (Word.candidates word).map Prod.snd = [s.2]) := by
  decide +kernel

theorem IsNamedBy.cases (h : flag.IsNamedBy word) :
    word.toList.head? = some '-' ∧ word ≠ "-" ∧ word ≠ "--" ∧ '=' ∉ word.toList ∧
      (spellings.lookup word = some flag ∨
        spellings.lookup word = none ∧ "--".toList <+: word.toList ∧
          (Word.candidates word).map Prod.snd = [flag]) := by
  obtain ⟨s, hs, rfl, hstarts⟩ := h.exists_spelling
  have hword := isNamedBy_beginnings s hs word.toList (List.mem_inits _ _ |>.mpr hstarts)
  rw [String.ofList_toList] at hword
  exact hword h

theorem lookup_eq_none {c : Char} (hmem : c ∈ word.toList)
    (hforeign : ∀ s ∈ spellings, c ∉ s.1.toList) : spellings.lookup word = none := by
  rw [List.lookup_eq_none_iff]
  intro s hs
  rw [bne_iff_ne]
  rintro rfl
  exact hforeign s hs hmem

theorem lookup_eq_none_of_equals (h : '=' ∈ word.toList) : spellings.lookup word = none :=
  lookup_eq_none h (by decide)

theorem lookup_eq_none_of_digit {c : Char} (hmem : c ∈ word.toList) (hc : c.isDigit) :
    spellings.lookup word = none := by
  have hletters : ∀ s ∈ spellings, s.1.toList.any Char.isDigit = false := by decide
  exact lookup_eq_none hmem fun s hs hin => List.any_eq_false.mp (hletters s hs) c hin hc

end Flag

namespace Word

variable {stem word : String}

theorem ne_equals_of_plain (h : '=' ∉ stem.toList) :
    ∀ c ∈ stem.toList, decide (c ≠ '=') = true := by
  intro c hc
  rw [decide_eq_true_eq]
  rintro rfl
  exact h hc

theorem splitValue_plain (h : '=' ∉ stem.toList) : splitValue stem = (stem, none) := by
  have hstem : stem.toList.takeWhile (· ≠ '=') = stem.toList :=
    List.takeWhile_eq_self_iff.mpr (ne_equals_of_plain h)
  simp only [splitValue, hstem, List.drop_length]

theorem splitValue_joined (h : '=' ∉ stem.toList) (value : String) :
    splitValue (stem ++ "=" ++ value) = (stem, some value) := by
  have hlist : (stem ++ "=" ++ value).toList = stem.toList ++ '=' :: value.toList := by simp
  have hstem : (stem.toList ++ '=' :: value.toList).takeWhile (· ≠ '=') = stem.toList := by
    rw [List.takeWhile_append_of_pos (ne_equals_of_plain h)]
    simp
  simp only [splitValue, hlist, hstem, List.drop_left, String.ofList_toList]

theorem ofAbbreviation_of_candidates {flag : Flag} {value : Option String}
    (hlong : "--".toList <+: word.toList) (hsplit : splitValue word = (stem, value))
    (hcandidates : (candidates stem).map Prod.snd = [flag]) :
    ofAbbreviation word = .ok (ofFlag flag value) := by
  obtain ⟨rest, hrest⟩ := hlong
  obtain ⟨⟨name, _⟩, hone, rfl⟩ := List.map_eq_singleton_iff.mp hcandidates
  have hword : word.toList = '-' :: '-' :: rest := hrest.symm
  simp only [ofAbbreviation, hword, hsplit, hone]

theorem not_operand_of_hyphen (hhyphen : word.toList.head? = some '-') (hlone : word ≠ "-") :
    ¬ (word.toList.head? ≠ some '-' ∨ word = "-") :=
  not_or.mpr ⟨not_not.mpr hhyphen, hlone⟩

/-- A name is recognised. -/
theorem ofString_name {flag : Flag} (h : flag.IsNamedBy word) :
    ofString word = .ok (ofFlag flag none) := by
  obtain ⟨hhyphen, hlone, -, hplain, hspelled⟩ := h.cases
  have hsplit := splitValue_plain hplain
  rw [ofString, if_neg (not_operand_of_hyphen hhyphen hlone), hsplit]
  rcases hspelled with hlookup | ⟨hlookup, hlong, hcandidates⟩
  · rw [hlookup]
  · rw [hlookup]
    exact ofAbbreviation_of_candidates hlong hsplit hcandidates

/-- A name is recognised in front of an equals sign. -/
theorem ofString_joined {setting : Setting} (h : Flag.IsNamedBy (.setting setting) stem)
    (value : String) : ofString (stem ++ "=" ++ value) = .ok (.setting setting (some value)) := by
  obtain ⟨hhyphen, -, -, hplain, hspelled⟩ := h.cases
  have hsplit := splitValue_joined hplain value
  have hequals : '=' ∈ (stem ++ "=" ++ value).toList := by simp
  have hstart : (stem ++ "=" ++ value).toList.head? = some '-' := by
    simp [List.head?_append, hhyphen]
  have hlone : stem ++ "=" ++ value ≠ "-" := by
    intro heq
    rw [heq] at hequals
    exact absurd hequals (by decide)
  have hshort : stem ≠ "-h" := by
    rintro rfl
    rcases hspelled with hlookup | ⟨hlookup, -, -⟩
    · cases hlookup
    · cases hlookup
  -- The word as a whole is no spelling, so its stem is looked up, in full and then abbreviated.
  rw [ofString, if_neg (not_operand_of_hyphen hstart hlone), hsplit,
    Flag.lookup_eq_none_of_equals hequals]
  simp only [if_neg hshort]
  rcases hspelled with hlookup | ⟨hlookup, hlong, hcandidates⟩
  · rw [hlookup]
    rfl
  · rw [hlookup]
    have hlong' : "--".toList <+: (stem ++ "=" ++ value).toList := by
      rw [String.append_assoc, String.toList_append]
      exact hlong.trans (List.prefix_append _ _)
    exact ofAbbreviation_of_candidates hlong' hsplit hcandidates

theorem ofString_operand (h : word.toList.head? ≠ some '-') : ofString word = .ok (.operand word) :=
  if_pos (.inl h)

/-- Behind a hyphen a digit begins neither a long option nor the short one. -/
theorem ofAbbreviation_of_digit {c : Char} {rest : List Char}
    (hword : word.toList = '-' :: c :: rest) (hc : c.isDigit) :
    ofAbbreviation word = .ok (unspelled word) := by
  unfold ofAbbreviation
  rw [hword]
  split
  · next heq =>
      obtain ⟨-, hrest⟩ := List.cons.inj heq
      exact absurd (List.cons.inj hrest).1 (Numeral.ne_of_isDigit hc rfl)
  · next heq =>
      obtain ⟨-, hrest⟩ := List.cons.inj heq
      exact absurd (List.cons.inj hrest).1 (Numeral.ne_of_isDigit hc rfl)
  · rfl

/-- A decimal is an operand, also when it starts with a hyphen. -/
theorem ofString_of_denotes {n : Int} (h : Numeral.Denotes word.toList n) :
    ofString word = .ok (.operand word) := by
  by_cases hhyphen : word.toList.head? = some '-'
  · obtain ⟨digits, hdigits, hword⟩ := h.exists_digits hhyphen
    have hnegative := Numeral.looksNegative_of_isDigits hword hdigits
    obtain ⟨hne, hall⟩ := hdigits
    cases digits with
    | nil => exact absurd rfl hne
    | cons c rest =>
        have hc : c.isDigit := hall c List.mem_cons_self
        have hlone : word ≠ "-" := by
          rintro rfl
          cases hword
        have hplain : '=' ∉ word.toList := by
          rw [hword, List.mem_cons, not_or]
          exact ⟨by decide, fun hmem => absurd (hall _ hmem) (by decide)⟩
        have hmem : c ∈ word.toList := by simp [hword]
        have hlookup := Flag.lookup_eq_none_of_digit hmem hc
        rw [ofString, if_neg (not_operand_of_hyphen hhyphen hlone), splitValue_plain hplain,
          hlookup]
        simp only [ofAbbreviation_of_digit hword hc, unspelled, if_pos hnegative]
  · exact ofString_operand hhyphen

end Word

end EnemyScript
