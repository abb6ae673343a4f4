import EnemyScript.Call
import EnemyScript.Raw

/-!
# Calls as they are written

A call with raw arguments has one record: header and arguments without padding, the size stated
rightly. It stands for the call with the values of its arguments.
-/

namespace EnemyScript

open LittleEndian

structure RawInstr where
  signature : Signature
  args : List Raw
  length_args : args.length = signature.fields.length
  deriving DecidableEq, Repr

namespace RawInstr

/-- Each argument has the form and range of its field. -/
def fits (i : RawInstr) : Bool :=
  (i.signature.layout.zip i.args).all fun (kind, raw) => raw.fits kind

def bytes (i : RawInstr) : List UInt8 :=
  (i.signature.layout.zip i.args).flatMap fun (kind, raw) => raw.bytes kind

def instr (i : RawInstr) : Instr :=
  ⟨i.signature, i.args.map Raw.value, by simp [i.length_args]⟩

end RawInstr

structure RawSubCall where
  time : Int
  rank : Rank
  param : Nat
  instr : RawInstr
  deriving DecidableEq, Repr

namespace RawSubCall

def fits (c : RawSubCall) : Bool :=
  -2147483648 ≤ c.time ∧ c.time ≤ 2147483647 ∧ c.param < 65536 ∧
    c.instr.signature ∈ Dialect.sub.signatures ∧ c.instr.fits

def bytes (c : RawSubCall) : List UInt8 :=
  signedBytes 4 c.time ++ LittleEndian.bytes 2 c.instr.signature.opcode ++
    LittleEndian.bytes 2 c.instr.signature.recordSize ++ LittleEndian.bytes 2 c.rank.bits ++
    LittleEndian.bytes 2 c.param ++ c.instr.bytes

def call (c : RawSubCall) : SubCall := ⟨c.time, c.rank, c.param, c.instr.instr⟩

/-- The record that ends a script. Only its time and its opcode are ever read. -/
def terminator : List UInt8 :=
  signedBytes 4 (-1) ++ LittleEndian.bytes 2 0xFFFF ++ LittleEndian.bytes 2 12 ++
    LittleEndian.bytes 2 0xFF00 ++ LittleEndian.bytes 2 0

end RawSubCall

structure RawMainCall where
  time : Nat
  sub : Nat
  instr : RawInstr
  deriving DecidableEq, Repr

namespace RawMainCall

/-- The time and the script of a terminator are not those of a call. -/
def fits (c : RawMainCall) : Bool :=
  c.time < 65536 ∧ c.sub < 65536 ∧ ¬ (c.time = 0xFFFF ∧ c.sub = 4) ∧
    c.instr.signature ∈ Dialect.main.signatures ∧ c.instr.fits

def bytes (c : RawMainCall) : List UInt8 :=
  LittleEndian.bytes 2 c.time ++ LittleEndian.bytes 2 c.sub ++
    LittleEndian.bytes 2 c.instr.signature.opcode ++
    LittleEndian.bytes 2 c.instr.signature.recordSize ++ c.instr.bytes

def call (c : RawMainCall) : MainCall := ⟨c.time, c.sub, c.instr.instr⟩

/-- The record that ends a schedule. Only its time and its script are ever read. -/
def terminator : List UInt8 :=
  LittleEndian.bytes 2 0xFFFF ++ LittleEndian.bytes 2 4 ++ LittleEndian.bytes 2 0 ++
    LittleEndian.bytes 2 0

end RawMainCall

end EnemyScript
