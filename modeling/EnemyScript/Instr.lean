import EnemyScript.Signature.Table

/-!
# Instructions

An instruction is a signature with one argument for each of its fields. `Instr.read` takes the
arguments of an opcode from the data: an opcode without a signature is reported before any byte
is read.
-/

namespace EnemyScript

structure Instr where
  signature : Signature
  args : List Value
  length_args : args.length = signature.fields.length
  deriving DecidableEq, Repr

namespace Instr

/-- The instruction with these arguments, when their number is right. They are taken as they are,
whatever the kinds of the fields. -/
def ofArgs? (s : Signature) (args : List Value) : Option Instr :=
  if h : args.length = s.fields.length then some ⟨s, args, h⟩ else none

/-- Reads the arguments of an opcode. The second component is the position after them. -/
def read (dialect : Dialect) (opcode : Int) (data : Bytes) (pos : Int) :
    Except DecodeError (Instr × Int) :=
  match Signature.find? dialect opcode with
  | none => .error (.unknownOpcode dialect opcode)
  | some s =>
      match h : s.layout.read data pos with
      | .error e => .error e
      | .ok (args, next) =>
          .ok (⟨s, args, (Layout.read_bounds h).1.trans s.length_layout⟩, next)

/-- The arguments under the names of their fields. -/
def namedArgs (i : Instr) : List (String × Value) :=
  (i.signature.fields.map Field.name).zip i.args

def format (i : Instr) : String :=
  i.signature.name ++ "(" ++
    ", ".intercalate (i.namedArgs.map fun arg => arg.1 ++ "=" ++ arg.2.format) ++ ")"

theorem read_eq_ok_iff {dialect : Dialect} {opcode : Int} {data : Bytes} {pos next : Int}
    {i : Instr} :
    read dialect opcode data pos = .ok (i, next) ↔
      Signature.find? dialect opcode = some i.signature ∧
        i.signature.layout.read data pos = .ok (i.args, next) := by
  unfold read
  cases hs : Signature.find? dialect opcode with
  | none => simp
  | some s =>
      obtain ⟨signature, args, hlen⟩ := i
      dsimp only
      split
      · next h =>
          simp only [reduceCtorEq, Option.some.injEq, false_iff, not_and]
          rintro rfl
          simp [h]
      · next args' next' h =>
          simp only [Except.ok.injEq, Prod.mk.injEq, mk.injEq, Option.some.injEq]
          constructor
          · rintro ⟨⟨rfl, rfl⟩, rfl⟩
            exact ⟨rfl, h⟩
          · rintro ⟨rfl, h'⟩
            simpa [h] using h'

/-- An instruction that was read belongs to the table of its dialect and lies in the data. -/
theorem read_bounds {dialect : Dialect} {opcode : Int} {data : Bytes} {pos next : Int}
    {i : Instr} (h : read dialect opcode data pos = .ok (i, next)) :
    i.signature ∈ dialect.signatures ∧ (i.signature.opcode : Int) = opcode ∧
      next = pos + i.signature.argsSize ∧ 0 ≤ pos ∧ next ≤ data.size := by
  obtain ⟨hs, hl⟩ := read_eq_ok_iff.mp h
  obtain ⟨hmem, hop⟩ := Signature.mem_of_find? hs
  obtain ⟨-, hnext, hpos, hend⟩ := Layout.read_bounds hl
  exact ⟨hmem, hop, hnext, hpos, hend⟩

end Instr

end EnemyScript
