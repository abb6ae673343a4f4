import EnemyScript.CommandLine.Options

/-!
# Complete groups of words

A command line in good order consists of groups: the file, a switch, or a setting with its value.
A group can be spelled in several ways, since an option may be abbreviated and a value may follow
in a word of its own or behind an equals sign.
-/

namespace EnemyScript

/-- A word names an option if it is one of its spellings, or if it starts with two hyphens and
begins spellings of this option alone. -/
def Flag.IsNamedBy (flag : Flag) (word : String) : Prop :=
  (word, flag) ∈ Flag.spellings ∨
    "--".toList <+: word.toList ∧ (∃ s ∈ Flag.spellings, word.toList <+: s.1.toList) ∧
      ∀ s ∈ Flag.spellings, word.toList <+: s.1.toList → s.2 = flag

instance (flag : Flag) (word : String) : Decidable (flag.IsNamedBy word) := by
  unfold Flag.IsNamedBy
  infer_instance

inductive Group where
  | file (name : String)
  | switch (switch : Switch)
  | setting (setting : Setting) (value : String)
  deriving DecidableEq, Repr

namespace Group

/-- An optional sign and one to 4000 decimal digits. -/
def isDecimal (value : String) : Bool :=
  let digits :=
    match value.toList with
    | '+' :: digits | '-' :: digits => digits
    | digits => digits
  digits ≠ [] ∧ digits.length ≤ 4000 ∧ digits.all Char.isDigit

/-- A file does not look like an option, and a value is one that its setting takes. -/
def isValid : Group → Bool
  | .file name => name.toList.head? ≠ some '-'
  | .switch _ => true
  | .setting .sub value => isDecimal value
  | .setting .rank value => (Difficulty.ofName? value).isSome

inductive Spells : List String → Group → Prop where
  | file (name : String) : Spells [name] (.file name)
  | switch {switch : Switch} {word : String} (h : Flag.IsNamedBy (.switch switch) word) :
      Spells [word] (.switch switch)
  | separate {setting : Setting} {word : String} (value : String)
      (h : Flag.IsNamedBy (.setting setting) word) : Spells [word, value] (.setting setting value)
  | joined {setting : Setting} {word : String} (value : String)
      (h : Flag.IsNamedBy (.setting setting) word) :
      Spells [word ++ "=" ++ value] (.setting setting value)

end Group

example : Flag.IsNamedBy (.setting .sub) "--su" ∧ ¬ Flag.IsNamedBy (.setting .sub) "--s" ∧
    Flag.IsNamedBy (.switch .help) "-h" := by decide

end EnemyScript
