import EnemyScript.CommandLine.Scan
import EnemyScript.Listing
import EnemyScript.Listing.Opcodes
import EnemyScript.Listing.Statistics

/-!
# The program

A command line is answered at once or asks for a view of a file. What a run prints and how it
exits depends on the command line and, for a view, on the bytes of that file alone. A run that
needs the value of a setting given without one breaks off.
-/

namespace EnemyScript

open Numeral

/-- The exit code of a run and its two texts. -/
structure Outcome where
  exit : Nat
  out : String
  err : String
  deriving DecidableEq, Repr

namespace Outcome

def success (lines : List String) : Outcome := ⟨0, Listing.text lines, ""⟩

def usage (e : UsageError) : Outcome :=
  ⟨2, "", Options.usageText ++ "ecl_decoder.py: error: " ++ e.message ++ "\n"⟩

def failure (printed : List String) (message : String) : Outcome :=
  ⟨1, Listing.text printed, Listing.text [message]⟩

end Outcome

inductive Request where
  | answer (outcome : Outcome)
  | view (options : Options) (file : String)
  deriving DecidableEq, Repr

def Request.ofArgs (args : List String) : Request :=
  match Options.ofArgs args with
  | .error .help => .answer ⟨0, Options.helpText, ""⟩
  | .error (.usage e) => .answer (.usage e)
  | .ok options =>
      if options.opcodes then .answer (.success Listing.opcodes)
      else
        match options.file with
        | none => .answer (.usage .missingFile)
        | some file => .view options file

namespace View

/-- The part of a path after its last slash. -/
def baseName (path : String) : String :=
  String.ofList ((path.toList.reverse.takeWhile (· ≠ '/')).reverse)

/-- What is said of a decoded file before its view. -/
def loaded (file : String) (size : Nat) (script : Script) : List String :=
  ["  Loaded " ++ baseName file ++ ": " ++ grouped size ++ " bytes, " ++
    decimal script.subs.length ++ " subs, " ++ decimal script.mains.length ++ " mains", ""]

/-- Why a decoded file has no view. -/
inductive Refusal where
  /-- The file has `count` scripts and none of this index. -/
  | noScript (index : Int) (count : Nat)
  /-- The value of a setting is needed that was given without one. -/
  | missingValue (setting : Setting)
  deriving DecidableEq, Repr

/-- The difficulty to choose among some calls. One that was asked for without saying which is
needed as soon as there is a call. -/
def chosen (options : Options) (calls : List SubCall) : Except Refusal (Option Difficulty) :=
  match options.rank with
  | none => .ok none
  | some (some d) => .ok (some d)
  | some none => if calls = [] then .ok none else .error (.missingValue .rank)

/-- One script. -/
def sub (options : Options) (script : Script) (index : Int) : Except Refusal (List String) :=
  if index < 0 then .error (.noScript index script.subs.length)
  else
    match script.subs[index.toNat]? with
    | none => .error (.noScript index script.subs.length)
    | some calls => do return Listing.sub (← chosen options calls) index.toNat calls

/-- The lines that the options select. One script goes before the schedules, these before the
statistics, and without any of them everything is listed. -/
def lines (options : Options) (script : Script) (size : Nat) : Except Refusal (List String) :=
  match options.sub with
  | some none => .error (.missingValue .sub)
  | some (some index) => sub options script index
  | none =>
      if options.main then .ok (Listing.mains script)
      else if options.stats then .ok (Listing.statistics script size)
      else do return Listing.all (← chosen options script.subs.flatten) script

/-- What is said of an index that no script has. -/
def outOfRange (index : Int) (count : Nat) : String :=
  "Error: sub " ++ decimal index ++ " out of range (0-" ++ decimal ((count : Int) - 1) ++ ")"

/-- The outcome of a view of a file with these bytes, `none` if it cannot be read. The error is
the setting whose missing value the run needs. -/
def outcome (options : Options) (file : String) (contents : Option Bytes) :
    Except Setting Outcome :=
  match contents with
  | none => .ok (.failure [] ("Cannot read " ++ file ++
      ": [Errno 2] No such file or directory: " ++ quoted file))
  | some data =>
      match Script.decode data with
      | .error e => .ok (.failure [] (file ++ ": " ++ e.message))
      | .ok script =>
          let head := loaded file data.size script
          match lines options script data.size with
          | .ok body => .ok (.success (head ++ body))
          | .error (.noScript index count) => .ok (.failure head (outOfRange index count))
          | .error (.missingValue setting) => .error setting

end View

/-- A whole run, for files given by their contents. -/
def run (args : List String) (files : String → Option Bytes) : Except Setting Outcome :=
  match Request.ofArgs args with
  | .answer outcome => .ok outcome
  | .view options file => View.outcome options file (files file)

end EnemyScript
