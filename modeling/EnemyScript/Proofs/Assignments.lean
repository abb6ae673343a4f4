import EnemyScript.CommandLine.Scan
import EnemyScript.Proofs.Spelling

/-!
# Settings without a value

A setting is left without a value by a word that names it and assigns `--` behind an equals sign,
and in no other way (`Options.exists_word_of_isBare`): a word that is `--` by itself separates, so
it is no value of the setting before it.
-/

namespace EnemyScript

namespace Word

variable {word : String} {setting : Setting}

theorem not_of_drop_takeWhile {p : Char → Bool} {cs rest : List Char} {c : Char}
    (h : cs.drop (cs.takeWhile p).length = c :: rest) : p c = false := by
  induction cs with
  | nil => cases h
  | cons d ds ih =>
      cases hd : p d with
      | true =>
          rw [List.takeWhile_cons_of_pos hd, List.length_cons, List.drop_succ_cons] at h
          exact ih h
      | false =>
          rw [List.takeWhile_cons_of_neg (Bool.eq_false_iff.mp hd)] at h
          obtain ⟨rfl, -⟩ := List.cons.inj h
          exact hd

theorem splitValue_eq_some {stem value : String} (h : splitValue word = (stem, some value)) :
    word.toList = stem.toList ++ '=' :: value.toList ∧ '=' ∉ stem.toList := by
  have hparts := List.prefix_iff_eq_append.mp
    (List.takeWhile_prefix (fun c => decide (c ≠ '=')) : _ <+: word.toList)
  unfold splitValue at h
  dsimp only at h
  split at h
  · cases h
  · next c rest hrest =>
      obtain ⟨rfl, hvalue⟩ := Prod.mk.inj h
      obtain rfl := Option.some.inj hvalue
      have hc : c = '=' := by simpa using not_of_drop_takeWhile hrest
      subst hc
      rw [hrest] at hparts
      rw [String.toList_ofList, String.toList_ofList]
      refine ⟨hparts.symm, ?_⟩
      intro hmem
      exact absurd (List.mem_takeWhile_imp hmem) (by decide)

theorem exists_flag_of_ofFlag {flag : Flag} {value : Option String} {text : String}
    (h : ofFlag flag value = .setting setting (some text)) :
    flag = .setting setting ∧ value = some text := by
  cases flag with
  | switch s => cases h
  | setting s =>
      obtain ⟨rfl, rfl⟩ := Word.setting.inj h
      exact ⟨rfl, rfl⟩

theorem unspelled_cases (word : String) :
    unspelled word = .operand word ∨ unspelled word = .unknown word := by
  unfold unspelled
  split
  · exact .inl rfl
  · split
    · exact .inl rfl
    · exact .inr rfl

theorem mem_spellings_of_lookup {flag : Flag} (h : Flag.spellings.lookup word = some flag) :
    (word, flag) ∈ Flag.spellings := by
  obtain ⟨before, after, heq, -⟩ := List.lookup_eq_some_iff.mp h
  rw [heq]
  exact List.mem_append_right before List.mem_cons_self

/-- The stem of a long option that only one option has is a name of it. -/
theorem isNamedBy_of_candidates {stem name : String} {flag : Flag}
    (hlong : "--".toList <+: stem.toList) (h : candidates stem = [(name, flag)]) :
    flag.IsNamedBy stem := by
  have hmem (s : String × Flag) :
      s ∈ Flag.spellings ∧ stem.toList <+: s.1.toList ↔ s = (name, flag) := by
    rw [← List.mem_singleton, ← h, candidates, List.mem_filter, List.isPrefixOf_iff_prefix]
  obtain ⟨hspelling, hstem⟩ := (hmem (name, flag)).mpr rfl
  refine .inr ⟨hlong, ⟨_, hspelling, hstem⟩, ?_⟩
  intro s hs hstem'
  rw [(hmem s).mp ⟨hs, hstem'⟩]

/-- Two hyphens at the start of a word are in front of its first equals sign. -/
theorem hyphens_prefix {stem rest value : List Char}
    (h : '-' :: '-' :: rest = stem ++ '=' :: value) : "--".toList <+: stem := by
  cases stem with
  | nil => exact absurd (List.cons.inj h).1 (by decide)
  | cons c stem =>
      obtain ⟨rfl, htail⟩ := List.cons.inj h
      cases stem with
      | nil => exact absurd (List.cons.inj htail).1 (by decide)
      | cons d stem =>
          obtain ⟨rfl, -⟩ := List.cons.inj htail
          exact ⟨stem, rfl⟩

theorem exists_name_of_ofAbbreviation {value : String}
    (h : ofAbbreviation word = .ok (.setting setting (some value))) :
    ∃ name, Flag.IsNamedBy (.setting setting) name ∧ splitValue word = (name, some value) := by
  have hunspelled : unspelled word ≠ .setting setting (some value) := by
    rcases unspelled_cases word with heq | heq <;> simp [heq]
  unfold ofAbbreviation at h
  split at h
  · next rest hword =>
      dsimp only at h
      split at h
      · exact absurd (Except.ok.inj h) hunspelled
      · next name flag hone =>
          obtain ⟨rfl, hvalue⟩ := exists_flag_of_ofFlag (Except.ok.inj h)
          have hsplit : splitValue word = ((splitValue word).1, some value) := Prod.ext rfl hvalue
          have hparts := (splitValue_eq_some hsplit).1
          rw [hword] at hparts
          have hlong := hyphens_prefix hparts
          exact ⟨_, isNamedBy_of_candidates hlong hone, hsplit⟩
      · cases h
  · cases h
  · exact absurd (Except.ok.inj h) hunspelled

/-- A word that gives a setting a value names it in front of an equals sign. -/
theorem exists_name_of_ofString {value : String}
    (h : ofString word = .ok (.setting setting (some value))) :
    ∃ name, Flag.IsNamedBy (.setting setting) name ∧ word = name ++ "=" ++ value := by
  have hjoined {name : String} (hsplit : splitValue word = (name, some value)) :
      word = name ++ "=" ++ value := by
    apply String.toList_inj.mp
    rw [(splitValue_eq_some hsplit).1]
    simp
  unfold ofString at h
  split at h
  · cases h
  · split at h
    · next flag _ =>
        obtain ⟨-, hnone⟩ := exists_flag_of_ofFlag (Except.ok.inj h)
        cases hnone
    · next stem text hlookup hsplit =>
        split at h
        · cases h
        · split at h
          · next flag hstem =>
              obtain ⟨rfl, htext⟩ := exists_flag_of_ofFlag (Except.ok.inj h)
              rw [htext] at hsplit
              exact ⟨stem, .inl (mem_spellings_of_lookup hstem), hjoined hsplit⟩
          · obtain ⟨name, hname, hsplit'⟩ := exists_name_of_ofAbbreviation h
            exact ⟨name, hname, hjoined hsplit'⟩
    · obtain ⟨name, hname, hsplit⟩ := exists_name_of_ofAbbreviation h
      exact ⟨name, hname, hjoined hsplit⟩

theorem ofFlag_ne_operand {flag : Flag} {value : Option String} {text : String} :
    ofFlag flag value ≠ .operand text := by
  cases flag <;> exact Word.noConfusion

theorem eq_of_ofAbbreviation_operand {text : String}
    (h : ofAbbreviation word = .ok (.operand text)) : text = word := by
  have hunspelled (heq : unspelled word = .operand text) : text = word := by
    rcases unspelled_cases word with hword | hword
    · rw [hword] at heq
      exact (Word.operand.inj heq).symm
    · rw [hword] at heq
      cases heq
  unfold ofAbbreviation at h
  split at h
  · dsimp only at h
    split at h
    · exact hunspelled (Except.ok.inj h)
    · exact absurd (Except.ok.inj h) ofFlag_ne_operand
    · cases h
  · cases h
  · exact hunspelled (Except.ok.inj h)

/-- An operand is the whole word. -/
theorem eq_of_ofString_operand {text : String} (h : ofString word = .ok (.operand text)) :
    text = word := by
  unfold ofString at h
  split at h
  · exact (Word.operand.inj (Except.ok.inj h)).symm
  · split at h
    · exact absurd (Except.ok.inj h) ofFlag_ne_operand
    · split at h
      · cases h
      · split at h
        · exact absurd (Except.ok.inj h) ofFlag_ne_operand
        · exact eq_of_ofAbbreviation_operand h
    · exact eq_of_ofAbbreviation_operand h

section Words

variable {args : List String} {words : List Word}

/-- A command line is classified word by word up to its first separator. -/
theorem ofStrings_cons_cases (h : ofStrings (word :: args) = .ok words) :
    words = .separator :: args.map .operand ∨
      word ≠ "--" ∧ ∃ first rest, ofString word = .ok first ∧ ofStrings args = .ok rest ∧
        words = first :: rest := by
  rw [ofStrings] at h
  split at h
  · exact .inl (Except.ok.inj h).symm
  · next hne =>
      split at h
      · cases h
      · next first hfirst =>
          cases hargs : ofStrings args with
          | error e =>
              rw [hargs] at h
              cases h
          | ok rest =>
              rw [hargs] at h
              exact .inr ⟨hne, first, rest, hfirst, rfl, (Except.ok.inj h).symm⟩

/-- A value behind an equals sign is assigned to a name by one of the words. -/
theorem exists_name_of_mem_ofStrings {value : String} (h : ofStrings args = .ok words)
    (hmem : .setting setting (some value) ∈ words) :
    ∃ name, Flag.IsNamedBy (.setting setting) name ∧ name ++ "=" ++ value ∈ args := by
  induction args generalizing words with
  | nil =>
      obtain rfl := Except.ok.inj h
      cases hmem
  | cons word args ih =>
      obtain rfl | ⟨-, first, rest, hfirst, hrest, rfl⟩ := ofStrings_cons_cases h
      · rcases List.mem_cons.mp hmem with heq | hoperand
        · cases heq
        · obtain ⟨_, -, heq⟩ := List.mem_map.mp hoperand
          cases heq
      · rcases List.mem_cons.mp hmem with rfl | hmem
        · obtain ⟨name, hname, rfl⟩ := exists_name_of_ofString hfirst
          exact ⟨name, hname, List.mem_cons_self⟩
        · obtain ⟨name, hname, hargs⟩ := ih hrest hmem
          exact ⟨name, hname, List.mem_cons_of_mem word hargs⟩

/-- Two hyphens are an operand behind a separator only. -/
theorem head_ofStrings_ne (h : ofStrings args = .ok words) : words.head? ≠ some (.operand "--") := by
  cases args with
  | nil =>
      obtain rfl := Except.ok.inj h
      simp
  | cons word args =>
      obtain rfl | ⟨hne, first, rest, hfirst, -, rfl⟩ := ofStrings_cons_cases h
      · simp
      · intro hhead
        obtain rfl := Option.some.inj hhead
        exact hne (eq_of_ofString_operand hfirst).symm

/-- A setting is not followed by two hyphens as its value. -/
theorem not_infix_ofStrings (h : ofStrings args = .ok words) :
    ¬ [.setting setting none, .operand "--"] <:+: words := by
  induction args generalizing words with
  | nil =>
      obtain rfl := Except.ok.inj h
      simp
  | cons word args ih =>
      obtain rfl | ⟨-, first, rest, -, hrest, rfl⟩ := ofStrings_cons_cases h
      · intro hinfix
        have hmem : .setting setting none ∈ Word.separator :: args.map .operand :=
          hinfix.subset List.mem_cons_self
        simp at hmem
      · intro hinfix
        rcases List.infix_cons_iff.mp hinfix with hprefix | hinfix
        · obtain ⟨-, hhead⟩ := List.cons_prefix_cons.mp hprefix
          apply head_ofStrings_ne hrest
          obtain ⟨last, hlast⟩ := hhead
          rw [← hlast]
          rfl
        · exact ih hrest hinfix

end Words

end Word

namespace Options

/-- A setting is given without a value. -/
def IsBare (setting : Setting) (options : Options) : Prop :=
  match setting with
  | .sub => options.sub = some none
  | .rank => options.rank = some none

variable {options options' : Options} {setting : Setting}

theorem isBare_of_set {given : Setting} {text : String} (h : options.set given text = .ok options')
    (hbare : options'.IsBare setting) :
    options.IsBare setting ∨ given = setting ∧ text = "--" := by
  -- Both settings are given alike, and the other one stays as it is.
  cases given
  all_goals
    simp only [set] at h
    split at h
    · next hhyphens =>
        obtain rfl := Except.ok.inj h
        cases setting <;> first | exact .inr ⟨rfl, hhyphens⟩ | exact .inl hbare
    · split at h
      · obtain rfl := Except.ok.inj h
        cases setting <;> first | exact .inl hbare | cases hbare
      · cases h

theorem isBare_of_turnOn {switch : Switch} (h : options.turnOn switch = .ok options')
    (hbare : options'.IsBare setting) : options.IsBare setting := by
  cases switch with
  | help => cases h
  | _ =>
      obtain rfl := Except.ok.inj h
      cases setting <;> exact hbare

end Options

/-- Some words give a setting two hyphens as its value. -/
def Word.Bares (setting : Setting) (words : List Word) : Prop :=
  .setting setting (some "--") ∈ words ∨ [.setting setting none, .operand "--"] <:+: words

namespace Scan

variable {setting : Setting} {words : List Word} {scan scan' : Scan}

theorem bares_cons (h : Word.Bares setting words) (word : Word) :
    Word.Bares setting (word :: words) :=
  h.imp (List.mem_cons_of_mem word) fun hinfix => List.infix_cons_iff.mpr (.inr hinfix)

theorem isBare_operand {text : String} (h : (scan.operand text).options.IsBare setting) :
    scan.options.IsBare setting := by
  unfold operand at h
  split at h
  · exact h
  · cases setting <;> exact h

theorem isBare_separator (h : scan.separator.options.IsBare setting) :
    scan.options.IsBare setting := by
  unfold separator at h
  split at h
  · exact h
  · exact h

theorem isBare_of_set {given : Setting} {text : String} (h : scan.set given text = .ok scan')
    (hbare : scan'.options.IsBare setting) :
    scan.options.IsBare setting ∨ given = setting ∧ text = "--" := by
  unfold set at h
  split at h
  · next options hset =>
      obtain rfl := Except.ok.inj h
      exact Options.isBare_of_set hset hbare
  · cases h

theorem isBare_of_turnOn {switch : Switch} (h : scan.turnOn switch = .ok scan')
    (hbare : scan'.options.IsBare setting) : scan.options.IsBare setting := by
  unfold turnOn at h
  split at h
  · next options hturnOn =>
      obtain rfl := Except.ok.inj h
      exact Options.isBare_of_turnOn hturnOn hbare
  · cases h

/-- Reading words leaves a setting without a value only if they give it two hyphens. -/
theorem isBare_of_words (h : Scan.words words scan = .ok scan')
    (hbare : scan'.options.IsBare setting) :
    scan.options.IsBare setting ∨ Word.Bares setting words := by
  fun_induction Scan.words words scan with
  | case1 scan =>
      obtain rfl := Except.ok.inj h
      exact .inl hbare
  | case2 text rest scan hfile ih =>
      exact (ih h).imp_right fun hbares => bares_cons (bares_cons hbares _) _
  | case3 text rest scan hfile ih =>
      exact (ih h).imp isBare_operand fun hbares => bares_cons (bares_cons hbares _) _
  | case4 text rest scan hrest ih =>
      exact (ih h).imp isBare_operand fun hbares => bares_cons hbares _
  | case5 rest scan ih => exact (ih h).imp isBare_separator fun hbares => bares_cons hbares _
  | case7 switch rest scan scan₁ hturnOn ih =>
      exact (ih h).imp (isBare_of_turnOn hturnOn) fun hbares => bares_cons hbares _
  | case10 given value rest scan scan₁ hset ih =>
      rcases ih h with hbare₁ | hbares
      · rcases isBare_of_set hset hbare₁ with hbefore | ⟨rfl, rfl⟩
        · exact .inl hbefore
        · exact .inr (.inl List.mem_cons_self)
      · exact .inr (bares_cons hbares _)
  | case12 given value rest scan scan₁ hset ih =>
      rcases ih h with hbare₁ | hbares
      · rcases isBare_of_set hset hbare₁ with hbefore | ⟨rfl, rfl⟩
        · exact .inl hbefore
        · exact .inr (.inr ⟨[], rest, rfl⟩)
      · exact .inr (bares_cons (bares_cons hbares _) _)
  | case6 | case8 | case9 | case11 | case13 | case14 => cases h
  | case15 text rest scan ih => exact (ih h).imp_right fun hbares => bares_cons hbares _

end Scan

/-- Only a word that assigns two hyphens to a name of a setting leaves this setting without a
value. -/
theorem Options.exists_word_of_isBare {args : List String} {options : Options} {setting : Setting}
    (h : Options.ofArgs args = .ok options) (hbare : options.IsBare setting) :
    ∃ name, Flag.IsNamedBy (.setting setting) name ∧ name ++ "=--" ∈ args := by
  unfold ofArgs at h
  split at h
  · cases h
  · next words hwords =>
      split at h
      · cases h
      · next scan hscan =>
          split at h
          · obtain rfl := Except.ok.inj h
            rcases Scan.isBare_of_words hscan hbare with hempty | hassigned | hseparate
            · cases setting <;> cases hempty
            · obtain ⟨name, hname, hmem⟩ := Word.exists_name_of_mem_ofStrings hwords hassigned
              rw [String.append_assoc] at hmem
              exact ⟨name, hname, hmem⟩
            · exact absurd hseparate (Word.not_infix_ofStrings hwords)
          · cases h

end EnemyScript
