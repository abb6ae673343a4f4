import EnemyScript.CommandLine.Options
import EnemyScript.Numeral.Reader

/-!
# The words of a command line

Before anything is acted on, every word is classified by itself. A word that starts with a hyphen
is an option when it is spelled in full or, for the long ones, when only one option begins with
it; a value may follow an equals sign. Negative numbers, words with a space and the lone hyphen
are operands. The first `--` separates, and all words after it are operands.
-/

namespace EnemyScript

inductive Word where
  | operand (text : String)
  | separator
  | switch (switch : Switch) (value : Option String)
  /-- The short option for help with letters behind it, each a short option of its own. A first
  equals sign is not one of them. -/
  | shortHelp (letters : String)
  | setting (setting : Setting) (value : Option String)
  | unknown (text : String)
  deriving DecidableEq, Repr

namespace Word

def ofFlag (flag : Flag) (value : Option String) : Word :=
  match flag with
  | .switch s => .switch s value
  | .setting s => .setting s value

/-- The part of a word before its first equals sign, and the part after it if there is one. -/
def splitValue (word : String) : String × Option String :=
  let stem := word.toList.takeWhile (· ≠ '=')
  match word.toList.drop stem.length with
  | [] => (word, none)
  | _ :: value => (String.ofList stem, some (String.ofList value))

/-- The options whose spelling begins with a stem. -/
def candidates (stem : String) : List (String × Flag) :=
  Flag.spellings.filter fun spelling => stem.toList.isPrefixOf spelling.1.toList

/-- A word that is no option after all. -/
def unspelled (word : String) : Word :=
  if Numeral.looksNegative word then .operand word
  else if ' ' ∈ word.toList then .operand word
  else .unknown word

/-- A word of at least two characters that starts with a hyphen and spells no option in full. -/
def ofAbbreviation (word : String) : Except UsageError Word :=
  match word.toList with
  | '-' :: '-' :: _ =>
      let (stem, value) := splitValue word
      match candidates stem with
      | [] => .ok (unspelled word)
      | [(_, flag)] => .ok (ofFlag flag value)
      | several => .error (.ambiguous word (several.map Prod.fst))
  | '-' :: 'h' :: letters => .ok (.shortHelp (String.ofList letters))
  | _ => .ok (unspelled word)

def ofString (word : String) : Except UsageError Word :=
  if word.toList.head? ≠ some '-' ∨ word = "-" then .ok (.operand word)
  else
    match Flag.spellings.lookup word, splitValue word with
    | some flag, _ => .ok (ofFlag flag none)
    | none, (stem, some value) =>
        if stem = "-h" then .ok (.shortHelp value)
        else
          match Flag.spellings.lookup stem with
          | some flag => .ok (ofFlag flag (some value))
          | none => ofAbbreviation word
    | none, (_, none) => ofAbbreviation word

/-- The words of a command line. The first that is ambiguous makes it wrong. -/
def ofStrings : List String → Except UsageError (List Word)
  | [] => .ok []
  | word :: words =>
      if word = "--" then .ok (.separator :: words.map .operand)
      else
        match ofString word with
        | .error e => .error e
        | .ok first => (first :: ·) <$> ofStrings words

example : ofString "--s" = .error (.ambiguous "--s" ["--sub", "--stats"]) := rfl

example : ofString "--su=3" = .ok (.setting .sub (some "3")) := rfl

example : ofString "-1" = .ok (.operand "-1") ∧ ofString "-x" = .ok (.unknown "-x") ∧
    ofString "-hx" = .ok (.shortHelp "x") := ⟨rfl, rfl, rfl⟩

end Word

end EnemyScript
