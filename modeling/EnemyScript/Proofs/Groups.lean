import EnemyScript.CommandLine.Scan
import EnemyScript.Proofs.Spelling

/-!
# Reading complete groups

What a command line of complete groups asks for depends on the groups alone
(`Options.ofArgs_of_spelled`): each group is read as its words are (`Scan.words_reads`), a group
that asks for help ends the reading, and of the groups for one setting the last counts
(`Options.foldl_give`).
-/

namespace EnemyScript

namespace Group

def file? : Group → Option String
  | .file name => some name
  | _ => none

theorem length_files_cons (group : Group) (groups : List Group) :
    ((group :: groups).filterMap file?).length =
      group.file?.toList.length + (groups.filterMap file?).length := by
  cases hfile : group.file? with
  | none => simp [List.filterMap_cons_none hfile]
  | some name =>
      rw [List.filterMap_cons_some hfile, List.length_cons]
      exact Nat.add_comm _ 1

def value? (setting : Setting) : Group → Option String
  | .setting s value => if s = setting then some value else none
  | _ => none

/-- The value that counts. -/
def last? (setting : Setting) (groups : List Group) : Option String :=
  (groups.filterMap (value? setting)).getLast?

theorem last?_cons (setting : Setting) (group : Group) (groups : List Group) :
    last? setting (group :: groups) = (last? setting groups).or (value? setting group) := by
  cases hvalue : value? setting group with
  | none => rw [last?, List.filterMap_cons_none hvalue, Option.or_none, last?]
  | some value =>
      rw [last?, List.filterMap_cons_some hvalue, List.getLast?_cons, last?]
      cases (groups.filterMap (value? setting)).getLast? <;> rfl

theorem value?_eq_some_iff {setting : Setting} {group : Group} {value : String} :
    group.value? setting = some value ↔ group = .setting setting value := by
  cases group with
  | setting s v =>
      by_cases heq : s = setting
      · simp [value?, heq]
      · simp [value?, heq]
  | _ => simp [value?]

/-- A command line as complete groups. A file may be called anything behind a separator, which
has to come last then. -/
inductive Spelled : List String → List Group → Prop where
  | nil : Spelled [] []
  | separated (name : String) : Spelled ["--", name] [.file name]
  | cons {part args : List String} {group : Group} {groups : List Group}
      (hpart : Spells part group) (hvalid : group.isValid) (hargs : Spelled args groups) :
      Spelled (part ++ args) (group :: groups)

/-- The value that counts is one that its setting takes. -/
theorem Spelled.isValid_last {args : List String} {groups : List Group} (h : Spelled args groups)
    {setting : Setting} {value : String} (hlast : last? setting groups = some value) :
    (Group.setting setting value).isValid := by
  induction h with
  | nil => cases hlast
  | separated name => cases hlast
  | cons hpart hvalid hargs ih =>
      rw [last?_cons, Option.or_eq_some_iff] at hlast
      rcases hlast with hlater | ⟨-, hvalue⟩
      · exact ih hlater
      · rwa [value?_eq_some_iff.mp hvalue] at hvalid

/-- The words of a group, classified. -/
inductive Reads : Group → List Word → Prop where
  | file (name : String) : Reads (.file name) [.operand name]
  | switch (switch : Switch) : Reads (.switch switch) [.switch switch none]
  | separate (setting : Setting) (value : String) :
      Reads (.setting setting value) [.setting setting none, .operand value]
  | joined (setting : Setting) (value : String) :
      Reads (.setting setting value) [.setting setting (some value)]

theorem isValid_sub {value : String} (h : (Group.setting .sub value).isValid) :
    ∃ n, Numeral.Denotes value.toList n ∧ Numeral.ofText? value = some n := by
  obtain ⟨⟨n, hn⟩, hlen⟩ := exists_denotes_of_isDecimal h
  exact ⟨n, hn, Numeral.ofText?_of_denotes hn hlen⟩

theorem isValid_rank {value : String} (h : (Group.setting .rank value).isValid) :
    ∃ d, Difficulty.ofName? value = some d ∧ d.name = value := by
  obtain ⟨d, hd⟩ := Option.isSome_iff_exists.mp h
  exact ⟨d, hd, Difficulty.ofName?_eq_some_iff.mp hd⟩

/-- A value in its own word is an operand. -/
theorem ofString_value {setting : Setting} {value : String}
    (h : (Group.setting setting value).isValid) : Word.ofString value = .ok (.operand value) := by
  cases setting with
  | sub =>
      obtain ⟨n, hn, -⟩ := isValid_sub h
      exact Word.ofString_of_denotes hn
  | rank =>
      obtain ⟨d, -, rfl⟩ := isValid_rank h
      cases d <;> rfl

theorem ne_separator_of_isValid {setting : Setting} {value : String}
    (h : (Group.setting setting value).isValid) : value ≠ "--" := by
  rintro rfl
  cases setting <;> exact absurd h (by decide)

end Group

theorem Word.ofStrings_cons {word : String} {first : Word} (hne : word ≠ "--")
    (h : ofString word = .ok first) (args : List String) :
    ofStrings (word :: args) = (first :: ·) <$> ofStrings args := by
  rw [ofStrings, if_neg hne, h]

/-- However a group is spelled, its words are classified as it is read. -/
theorem Group.Spells.exists_reads {part : List String} {group : Group} (h : Spells part group)
    (hvalid : group.isValid) :
    ∃ words, group.Reads words ∧
      ∀ args, Word.ofStrings (part ++ args) = (words ++ ·) <$> Word.ofStrings args := by
  cases h with
  | file name =>
      have hhead : name.toList.head? ≠ some '-' := by simpa [isValid] using hvalid
      have hne : name ≠ "--" := by
        rintro rfl
        exact hhead rfl
      exact ⟨_, .file name, Word.ofStrings_cons hne (Word.ofString_operand hhead)⟩
  | switch hname =>
      obtain ⟨-, -, hne, -⟩ := hname.cases
      exact ⟨_, .switch _, Word.ofStrings_cons hne (Word.ofString_name hname)⟩
  | separate value hname =>
      obtain ⟨-, -, hne, -⟩ := hname.cases
      refine ⟨_, .separate _ value, fun args => ?_⟩
      rw [List.cons_append, List.cons_append, List.nil_append,
        Word.ofStrings_cons hne (Word.ofString_name hname),
        Word.ofStrings_cons (ne_separator_of_isValid hvalid) (ofString_value hvalid)]
      cases Word.ofStrings args <;> rfl
  | @joined _ word value hname =>
      have hne : word ++ "=" ++ value ≠ "--" := by
        intro heq
        have hequals : '=' ∈ (word ++ "=" ++ value).toList := by simp
        rw [heq] at hequals
        exact absurd hequals (by decide)
      exact ⟨_, .joined _ value, Word.ofStrings_cons hne (Word.ofString_joined hname value)⟩

namespace Options

/-- What a group adds. -/
def give (options : Options) : Group → Options
  | .file name => { options with file := some name }
  | .switch .help => options
  | .switch .main => { options with main := true }
  | .switch .stats => { options with stats := true }
  | .switch .opcodes => { options with opcodes := true }
  | .setting .sub value => { options with sub := some (Numeral.ofText? value) }
  | .setting .rank value => { options with rank := some (Difficulty.ofName? value) }

theorem set_of_isValid {setting : Setting} {value : String}
    (h : (Group.setting setting value).isValid) (options : Options) :
    options.set setting value = .ok (options.give (.setting setting value)) := by
  have hne := Group.ne_separator_of_isValid h
  cases setting with
  | sub =>
      obtain ⟨n, -, hn⟩ := Group.isValid_sub h
      simp only [set, if_neg hne, hn, give]
  | rank =>
      obtain ⟨d, hd, -⟩ := Group.isValid_rank h
      simp only [set, if_neg hne, hd, give]

theorem turnOn_eq_give {switch : Switch} (h : switch ≠ .help) (options : Options) :
    options.turnOn switch = .ok (options.give (.switch switch)) := by
  cases switch with
  | help => exact absurd rfl h
  | _ => rfl

open EnemyScript.Group in
/-- Of the groups for one setting the last counts, and a switch stays on. -/
theorem foldl_give (groups : List Group) (options : Options) :
    groups.foldl give options =
      { file := (groups.filterMap file?).getLast?.or options.file
        sub := ((last? .sub groups).map Numeral.ofText?).or options.sub
        rank := ((last? .rank groups).map Difficulty.ofName?).or options.rank
        main := options.main || .switch .main ∈ groups
        stats := options.stats || .switch .stats ∈ groups
        opcodes := options.opcodes || .switch .opcodes ∈ groups } := by
  induction groups generalizing options with
  | nil => simp [last?]
  | cons group groups ih =>
      rw [List.foldl_cons, ih, last?_cons, last?_cons]
      cases group with
      | file name => simp [give, file?, value?, List.getLast?_cons]
      | switch switch => cases switch <;> simp [give, file?, value?]
      | setting setting value =>
          cases setting <;> simp [give, file?, value?]

theorem length_file_give (options : Options) (group : Group) :
    (options.give group).file.toList.length ≤
      options.file.toList.length + group.file?.toList.length := by
  cases group with
  | file name => simp [give, Group.file?]
  | switch switch => cases switch <;> simp [give]
  | setting setting value => cases setting <;> simp [give]

end Options

namespace Scan

variable {group : Group} {words : List Word} {scan : Scan}

/-- A group is read as its words are. A file has to be the first one, and no separator may stand
behind it. -/
theorem words_reads (hread : group.Reads words) (hvalid : group.isValid)
    (hhelp : group ≠ .switch .help) (rest : List Word)
    (hfile : group.file?.isSome → scan.options.file = none ∧ rest.head? ≠ some .separator) :
    Scan.words (words ++ rest) scan =
      Scan.words rest { scan with options := scan.options.give group } := by
  cases hread with
  | file name =>
      obtain ⟨hnone, hsep⟩ := hfile rfl
      have hoperand : scan.operand name =
          { scan with options := scan.options.give (.file name) } := by
        simp [operand, hnone, Options.give]
      rw [List.singleton_append, Scan.words.eq_3, hoperand]
      rintro rest' rfl
      exact hsep rfl
  | switch switch =>
      have hne : switch ≠ .help := fun heq => hhelp (congrArg Group.switch heq)
      simp only [List.singleton_append, Scan.words, turnOn, Options.turnOn_eq_give hne]
  | separate setting value =>
      simp only [List.cons_append, List.nil_append, Scan.words, set, Options.set_of_isValid hvalid]
  | joined setting value =>
      simp only [List.singleton_append, Scan.words, set, Options.set_of_isValid hvalid]

end Scan

/-- The words of a command line of complete groups, read in any state, do what the groups do in
their order, and a group that asks for help decides wherever it stands. -/
theorem Group.Spelled.exists_words {args : List String} {groups : List Group}
    (h : Spelled args groups) :
    ∃ words, Word.ofStrings args = .ok words ∧
      (groups.filterMap file? = [] → words.head? ≠ some .separator) ∧
      ∀ scan : Scan, scan.options.file.toList.length + (groups.filterMap file?).length ≤ 1 →
        Scan.words words scan =
          if .switch .help ∈ groups then .error .help
          else .ok { scan with options := groups.foldl Options.give scan.options } := by
  induction h with
  | nil => exact ⟨[], rfl, fun _ => by simp, fun _ _ => rfl⟩
  | separated name =>
      refine ⟨[.separator, .operand name], rfl, fun hfile => absurd hfile (by simp [file?]),
        fun scan hlen => ?_⟩
      have hnone : scan.options.file = none := by
        cases hfile : scan.options.file with
        | none => rfl
        | some first => simp [hfile, file?] at hlen
      simp [Scan.words, Scan.separator, Scan.operand, hnone, Options.give]
  | @cons part args group groups hpart hvalid hargs ih =>
      obtain ⟨words, hwords, hsep, hrun⟩ := ih
      obtain ⟨first, hread, hfirst⟩ := hpart.exists_reads hvalid
      refine ⟨first ++ words, ?_, ?_, fun scan hlen => ?_⟩
      · rw [hfirst, hwords]
        rfl
      · intro hfile
        cases hread <;> simp [file?] at hfile ⊢
      · by_cases hhelp : group = .switch .help
        · subst hhelp
          cases hread
          rw [if_pos List.mem_cons_self]
          rfl
        · rw [length_files_cons] at hlen
          have hgive := Options.length_file_give scan.options group
          have hlater : .switch .help ∈ group :: groups ↔ .switch .help ∈ groups := by
            rw [List.mem_cons, or_iff_right (Ne.symm hhelp)]
          rw [Scan.words_reads hread hvalid hhelp words ?_, hrun _ (by dsimp only; omega),
            List.foldl_cons]
          · simp only [hlater]
          · intro hfile
            obtain ⟨name, hname⟩ := Option.isSome_iff_exists.mp hfile
            simp only [hname, Option.toList_some, List.length_singleton] at hlen
            have hfirst : scan.options.file.toList = [] := List.eq_nil_of_length_eq_zero (by omega)
            have hlast : groups.filterMap file? = [] := List.eq_nil_of_length_eq_zero (by omega)
            exact ⟨Option.toList_eq_nil_iff.mp hfirst, hsep hlast⟩

/-- A command line of complete groups with at most one file asks for help if a group does, and for
what its groups do otherwise. -/
theorem Options.ofArgs_of_spelled {args : List String} {groups : List Group}
    (h : Group.Spelled args groups) (hfile : (groups.filterMap Group.file?).length ≤ 1) :
    Options.ofArgs args =
      if .switch .help ∈ groups then .error .help else .ok (groups.foldl give empty) := by
  obtain ⟨words, hwords, -, hrun⟩ := h.exists_words
  have hread := hrun .empty (by simpa [Scan.empty, empty] using hfile)
  by_cases hhelp : .switch .help ∈ groups
  · rw [if_pos hhelp] at hread ⊢
    simp only [Options.ofArgs, hwords, hread]
  · rw [if_neg hhelp] at hread ⊢
    simp only [Options.ofArgs, hwords, hread]
    rfl

end EnemyScript
