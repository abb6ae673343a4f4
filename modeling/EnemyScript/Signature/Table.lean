import EnemyScript.Signature.MainDialect
import EnemyScript.Signature.SubDialect

/-!
# Signatures by opcode

The table of each dialect lists its signatures by ascending opcode, so an opcode has at most one.
-/

namespace EnemyScript

def Dialect.signatures : Dialect → List Signature
  | .sub => SubDialect.signatures
  | .main => MainDialect.signatures

/-- The signature of an opcode; callers may ask for any integer. -/
def Signature.find? (dialect : Dialect) (opcode : Int) : Option Signature :=
  dialect.signatures.find? fun s => s.opcode = opcode

/-- The signature of a name. Both dialects have the name `SpawnEnemy`, but each has it once. -/
def Signature.named? (dialect : Dialect) (name : String) : Option Signature :=
  dialect.signatures.find? fun s => s.name = name

namespace Dialect

theorem pairwise_signatures (dialect : Dialect) :
    dialect.signatures.Pairwise (fun s t => s.opcode < t.opcode) := by
  cases dialect <;> decide +kernel

theorem dialect_of_mem_signatures {dialect : Dialect} {s : Signature}
    (h : s ∈ dialect.signatures) : s.dialect = dialect := by
  revert s
  cases dialect <;> decide +kernel

example : Dialect.sub.signatures.length = 123 ∧ Dialect.main.signatures.length = 8 := by decide

end Dialect

namespace Signature

theorem mem_of_find? {dialect : Dialect} {opcode : Int} {s : Signature}
    (h : find? dialect opcode = some s) : s ∈ dialect.signatures ∧ (s.opcode : Int) = opcode :=
  ⟨List.mem_of_find?_eq_some h, by simpa using List.find?_some h⟩

end Signature

end EnemyScript
