import EnemyScript.Rank
import EnemyScript.Text.Quoted

/-!
# Command-line options

The options of the program: switches, which are on or off, and settings, which take a value. The
texts that describe them and the ways in which a command line can be wrong stand beside them.
-/

namespace EnemyScript

inductive Switch where
  | help
  | main
  | stats
  | opcodes
  deriving DecidableEq, Repr

inductive Setting where
  | sub
  | rank
  deriving DecidableEq, Repr

inductive Flag where
  | switch (switch : Switch)
  | setting (setting : Setting)
  deriving DecidableEq, Repr

namespace Switch

def label : Switch → String
  | .help => "-h/--help"
  | .main => "--main"
  | .stats => "--stats"
  | .opcodes => "--opcodes"

end Switch

namespace Setting

def label : Setting → String
  | .sub => "--sub"
  | .rank => "--rank"

end Setting

namespace Flag

/-- The spellings of all options, in the order in which ambiguous ones are listed. -/
def spellings : List (String × Flag) :=
  [("-h", .switch .help), ("--help", .switch .help), ("--sub", .setting .sub),
    ("--main", .switch .main), ("--rank", .setting .rank), ("--stats", .switch .stats),
    ("--opcodes", .switch .opcodes)]

end Flag

/-- What a command line asks for. The value of a setting is itself optional: a setting may be
given without one, when `--` stands in its place. -/
structure Options where
  file : Option String
  sub : Option (Option Int)
  rank : Option (Option Difficulty)
  main : Bool
  stats : Bool
  opcodes : Bool
  deriving DecidableEq, Repr

inductive UsageError where
  | missingFile
  | missingValue (setting : Setting)
  | ignoredValue (switch : Switch) (value : String)
  | badInteger (text : String)
  | unknownRank (name : String)
  | ambiguous (word : String) (candidates : List String)
  | unrecognized (words : List String)
  deriving DecidableEq, Repr

namespace UsageError

def message : UsageError → String
  | .missingFile => "the following arguments are required: file"
  | .missingValue setting => "argument " ++ setting.label ++ ": expected one argument"
  | .ignoredValue switch value =>
      "argument " ++ switch.label ++ ": ignored explicit argument " ++ quoted value
  | .badInteger text =>
      "argument " ++ Setting.sub.label ++ ": invalid int value: " ++ quoted text
  | .unknownRank name =>
      "argument " ++ Setting.rank.label ++ ": " ++ Difficulty.unknownName name
  | .ambiguous word candidates =>
      "ambiguous option: " ++ word ++ " could match " ++ ", ".intercalate candidates
  | .unrecognized words => "unrecognized arguments: " ++ " ".intercalate words

end UsageError

namespace Options

def empty : Options := ⟨none, none, none, false, false, false⟩

def usageText : String :=
  "usage: ecl_decoder.py [-h] [--sub N] [--main] [--rank NAME] [--stats]\n" ++
  "                      [--opcodes]\n" ++
  "                      [file]\n"

def helpText : String :=
  usageText ++
  "\n" ++
  "ECL Enemy Script Decoder\n" ++
  "\n" ++
  "positional arguments:\n" ++
  "  file         ECL file\n" ++
  "\n" ++
  "options:\n" ++
  "  -h, --help   show this help message and exit\n" ++
  "  --sub N      Show single sub\n" ++
  "  --main       Show the main schedule only\n" ++
  "  --rank NAME  Only show sub calls active on easy/normal/hard/lunatic\n" ++
  "  --stats      Show statistics\n" ++
  "  --opcodes    List the opcode tables\n"

end Options

end EnemyScript
