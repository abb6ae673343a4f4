import EnemyScript.Instr.Equality
import EnemyScript.Script

/-!
# Equal scripts

Two scripts are the same when they have the same calls in the same order, the instructions
compared by what their arguments denote.
-/

namespace EnemyScript

def SubCall.same (c d : SubCall) : Bool :=
  c.time = d.time && c.rank = d.rank && c.param = d.param && c.instr.same d.instr

def MainCall.same (c d : MainCall) : Bool :=
  c.time = d.time && c.sub = d.sub && c.instr.same d.instr

def Script.same (s t : Script) : Bool :=
  s.subs.isEqv t.subs (·.isEqv · SubCall.same) && s.mains.isEqv t.mains (·.isEqv · MainCall.same)

end EnemyScript
