import EnemyScript.Script

/-!
# Statistics of a file

How often each opcode occurs, over all scripts and over all schedules. An opcode that does not
occur has no row; the most frequent opcode comes first, and of two that are equally frequent the
smaller one.
-/

namespace EnemyScript

open Numeral

/-- An opcode with the number of its occurrences. -/
structure Usage where
  signature : Signature
  count : Nat
  deriving DecidableEq, Repr

namespace Usage

/-- Counts a signature once more. One that was not counted before comes last. -/
def tally (s : Signature) : List Usage → List Usage
  | [] => [⟨s, 1⟩]
  | u :: usages => if u.signature = s then ⟨s, u.count + 1⟩ :: usages else u :: tally s usages

def precedes (a b : Usage) : Bool :=
  b.count < a.count ∨ a.count = b.count ∧ a.signature.opcode ≤ b.signature.opcode

/-- How often each opcode occurs among some instructions, in the order of the rows. -/
def ofInstrs (instrs : List Instr) : List Usage :=
  (instrs.foldl (fun usages i => tally i.signature usages) []).mergeSort precedes

def line (u : Usage) : String :=
  "    " ++ alignRight 3 (decimal u.signature.opcode) ++ " " ++ alignLeft 30 u.signature.name ++
    " " ++ alignRight 5 (decimal u.count)

end Usage

namespace Script

def subInstrs (s : Script) : List Instr := s.subs.flatten.map SubCall.instr

def mainInstrs (s : Script) : List Instr := s.mains.flatten.map MainCall.instr

def subUsage (s : Script) : List Usage := Usage.ofInstrs s.subInstrs

def mainUsage (s : Script) : List Usage := Usage.ofInstrs s.mainInstrs

end Script

def Listing.statistics (s : Script) (fileSize : Nat) : List String :=
  [
    "=== ECL Statistics ===",
    "  File size:          " ++ grouped fileSize ++ " bytes",
    "  Subs:               " ++ decimal s.subs.length,
    "  Mains:              " ++ decimal s.mains.length,
    "  Sub instructions:   " ++ decimal s.subInstrs.length,
    "  Main instructions:  " ++ decimal s.mainInstrs.length,
    "  Distinct sub ops:   " ++ decimal s.subUsage.length ++ " of " ++
      decimal Dialect.sub.signatures.length,
    "",
    "  Sub opcodes:"
  ] ++ s.subUsage.map Usage.line ++ ["", "  Main opcodes:"] ++ s.mainUsage.map Usage.line

end EnemyScript
