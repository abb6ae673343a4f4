import EnemyScript.Script

/-!
# Listings

Scripts and schedules as lines of text, one line for each call under a line with its number and
length. A difficulty may be chosen: then the calls of a script that are not active on it are left
out, while the line above them still counts them. The listing of a file is its schedules followed
by its scripts, each script after an empty line.
-/

namespace EnemyScript

open Numeral

namespace SubCall

/-- The parameter as it ends a line; zero is not shown. -/
def paramText (c : SubCall) : String := if c.param = 0 then "" else " param=0x" ++ hex 4 c.param

def line (c : SubCall) : String :=
  "  " ++ alignRight 6 (decimal c.time) ++ "  " ++ alignLeft 22 c.rank.text ++ c.instr.format ++
    c.paramText

/-- A call is shown unless a difficulty is chosen that its rank leaves out. -/
def isShown (chosen : Option Difficulty) (c : SubCall) : Bool := chosen.all c.rank.includes

end SubCall

def MainCall.line (c : MainCall) : String :=
  "  " ++ alignRight 6 (decimal c.time) ++ "  sub " ++ alignRight 3 (decimal c.sub) ++ "  " ++
    c.instr.format

namespace Listing

/-- Lines as a text, each with a line feed at its end. -/
def text (lines : List String) : String := String.join (lines.map (· ++ "\n"))

def sub (chosen : Option Difficulty) (index : Nat) (calls : List SubCall) : List String :=
  ("Sub " ++ decimal index ++ ": " ++ decimal calls.length ++ " instructions") ::
    (calls.filter (·.isShown chosen)).map SubCall.line

def main (index : Nat) (calls : List MainCall) : List String :=
  ("Main " ++ decimal index ++ ": " ++ decimal calls.length ++ " calls") :: calls.map MainCall.line

def mains (script : Script) : List String :=
  script.mains.zipIdx.flatMap fun (calls, index) => main index calls

def subs (chosen : Option Difficulty) (script : Script) : List String :=
  script.subs.zipIdx.flatMap fun (calls, index) => "" :: sub chosen index calls

def all (chosen : Option Difficulty) (script : Script) : List String :=
  mains script ++ subs chosen script

end Listing

end EnemyScript
