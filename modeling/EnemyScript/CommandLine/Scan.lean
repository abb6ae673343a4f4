import EnemyScript.CommandLine.Word

/-!
# Reading a command line

Words are taken from left to right, and a value is checked when it is met. The first operand is
the file; a separator next to it belongs to it. What has no place is remembered and reported at
the end. Help, once met, ends the reading.
-/

namespace EnemyScript

/-- Why reading ended before its end. -/
inductive Stop where
  | help
  | usage (error : UsageError)
  deriving DecidableEq, Repr

namespace Options

/-- Gives a setting its value, in place of one given before; `--` leaves it without one. -/
def set (options : Options) (setting : Setting) (text : String) : Except UsageError Options :=
  match setting with
  | .sub =>
      if text = "--" then .ok { options with sub := some none }
      else
        match Numeral.ofText? text with
        | some n => .ok { options with sub := some (some n) }
        | none => .error (.badInteger text)
  | .rank =>
      if text = "--" then .ok { options with rank := some none }
      else
        match Difficulty.ofName? text with
        | some d => .ok { options with rank := some (some d) }
        | none => .error (.unknownRank text)

def turnOn (options : Options) : Switch → Except Stop Options
  | .help => .error .help
  | .main => .ok { options with main := true }
  | .stats => .ok { options with stats := true }
  | .opcodes => .ok { options with opcodes := true }

end Options

/-- What has been read so far, the words without a place last one first. -/
structure Scan where
  options : Options
  leftOver : List String
  deriving DecidableEq, Repr

namespace Scan

def empty : Scan := ⟨.empty, []⟩

def leave (scan : Scan) (word : String) : Scan := { scan with leftOver := word :: scan.leftOver }

/-- The first operand is the file, a later one has no place. -/
def operand (scan : Scan) (text : String) : Scan :=
  if scan.options.file.isSome then scan.leave text
  else { scan with options := { scan.options with file := some text } }

/-- A separator is dropped as long as there is no file. -/
def separator (scan : Scan) : Scan :=
  if scan.options.file.isSome then scan.leave "--" else scan

def turnOn (scan : Scan) (switch : Switch) : Except Stop Scan :=
  match scan.options.turnOn switch with
  | .ok options => .ok { scan with options }
  | .error stop => .error stop

def set (scan : Scan) (setting : Setting) (text : String) : Except Stop Scan :=
  match scan.options.set setting text with
  | .ok options => .ok { scan with options }
  | .error e => .error (.usage e)

/-- Help behind the short option, if the letters are there and ask for nothing else. -/
def shortHelp (letters : String) : Stop :=
  let rest := letters.toList.dropWhile (· = 'h')
  if letters ≠ "" ∧ rest = [] then .help
  else .usage (.ignoredValue .help (String.ofList rest))

def words : List Word → Scan → Except Stop Scan
  | [], scan => .ok scan
  | .operand text :: .separator :: rest, scan =>
      if scan.options.file.isSome then words rest ((scan.leave text).leave "--")
      else words rest (scan.operand text)
  | .operand text :: rest, scan => words rest (scan.operand text)
  | .separator :: rest, scan => words rest scan.separator
  | .switch switch (some value) :: _, _ => .error (.usage (.ignoredValue switch value))
  | .switch switch none :: rest, scan =>
      match scan.turnOn switch with
      | .ok scan => words rest scan
      | .error stop => .error stop
  | .shortHelp letters :: _, _ => .error (shortHelp letters)
  | .setting setting (some value) :: rest, scan =>
      match scan.set setting value with
      | .ok scan => words rest scan
      | .error stop => .error stop
  | .setting setting none :: .operand value :: rest, scan =>
      match scan.set setting value with
      | .ok scan => words rest scan
      | .error stop => .error stop
  | .setting setting none :: _, _ => .error (.usage (.missingValue setting))
  | .unknown text :: rest, scan => words rest (scan.leave text)

end Scan

/-- The options of a command line. -/
def Options.ofArgs (args : List String) : Except Stop Options :=
  match Word.ofStrings args with
  | .error e => .error (.usage e)
  | .ok words =>
      match Scan.words words .empty with
      | .error stop => .error stop
      | .ok scan =>
          if scan.leftOver = [] then .ok scan.options
          else .error (.usage (.unrecognized scan.leftOver.reverse))

end EnemyScript
