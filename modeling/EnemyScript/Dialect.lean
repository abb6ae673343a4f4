/-!
# The two instruction dialects

A file holds scripts that each drive one enemy, in the dialect `sub`, and schedules that spawn
enemies running those scripts, in the dialect `main`.
-/

namespace EnemyScript

inductive Dialect where
  | sub
  | main
  deriving DecidableEq, Repr

namespace Dialect

def name : Dialect → String
  | .sub => "sub"
  | .main => "main"

/-- Bytes of a record before its arguments. -/
def headerSize : Dialect → Nat
  | .sub => 12
  | .main => 8

end Dialect

end EnemyScript
