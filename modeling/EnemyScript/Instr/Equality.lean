import EnemyScript.Instr

/-!
# Equal instructions

Two instructions are the same when they have the same opcode of the same dialect and their
arguments denote the same, field by field. An argument that is no number denotes nothing, so an
instruction that holds one is the same as no instruction, not even as a copy of itself; at one
place of a list it still is itself. A set looks instructions up by their hash, which is made of the
name and the opcode of the signature and the hashes of the arguments.
-/

namespace EnemyScript.Instr

/-- What the arguments denote, if each denotes something. -/
def keys? (i : Instr) : Option (List Value.Key) := i.args.mapM Value.key?

def same (i j : Instr) : Bool :=
  i.signature.dialect = j.signature.dialect && i.signature.opcode = j.signature.opcode &&
    match i.keys?, j.keys? with
    | some a, some b => a = b
    | _, _ => false

/-- Row by row, which instruction of a list equals which. -/
def equalities (is : List Instr) : List (List Bool) :=
  is.zipIdx.map fun a => is.zipIdx.map fun b => a.2 = b.2 || a.1.same b.1

/-- Row by row, which instruction of a list is different from which. -/
def inequalities (is : List Instr) : List (List Bool) := (equalities is).map (·.map not)

/-- The number of different instructions in a list. -/
def distinct (is : List Instr) : Nat := (is.eraseDupsBy same).length

theorem same_self (i : Instr) : i.same i = i.keys?.isSome := by
  unfold same
  cases i.keys? <;> simp

end EnemyScript.Instr
