import EnemyScript.Layout

/-!
# Instruction signatures

An opcode of a dialect has a name and a list of named argument fields. The fields lie one after
the other without padding, so their sizes add up to the size of the arguments.
-/

namespace EnemyScript

structure Field where
  name : String
  kind : Kind
  deriving DecidableEq, Repr

namespace Field

def u8 (name : String) : Field := ⟨name, .u8⟩

def u32 (name : String) : Field := ⟨name, .u32⟩

def i16 (name : String) : Field := ⟨name, .i16⟩

def i32 (name : String) : Field := ⟨name, .i32⟩

def f32 (name : String) : Field := ⟨name, .f32⟩

def str (name : String) : Field := ⟨name, .str⟩

end Field

structure Signature where
  dialect : Dialect
  opcode : Nat
  name : String
  fields : List Field
  deriving DecidableEq, Repr

namespace Signature

def layout (s : Signature) : Layout := s.fields.map Field.kind

def argsSize (s : Signature) : Nat := s.layout.size

/-- The size of every record of this instruction, its header included. -/
def recordSize (s : Signature) : Nat := s.dialect.headerSize + s.argsSize

def text (s : Signature) : String :=
  s.name ++ "(" ++ ", ".intercalate (s.fields.map fun f => f.name ++ ": " ++ f.kind.name) ++ ")"

@[simp] theorem length_layout (s : Signature) : s.layout.length = s.fields.length := by
  simp [layout]

theorem recordSize_pos (s : Signature) : 0 < s.recordSize := by
  unfold recordSize
  cases s.dialect <;> simp only [Dialect.headerSize] <;> omega

end Signature

end EnemyScript
