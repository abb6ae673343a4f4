import EnemyScript.Dialect
import EnemyScript.Numeral

/-!
# Why a file does not decode

One constructor for each cause, with the numbers that describe it, and one function for the
wording. A truncated read keeps the signed distance to the end of the data; the wording shows
no negative distance.
-/

namespace EnemyScript

open Numeral

inductive DecodeError where
  /-- A read of `needed` bytes at `offset`, where `available` remain. -/
  | truncated (offset needed available : Int)
  /-- The header announces main blocks beyond the one that a file has. -/
  | unsupportedMainCount (count : Nat)
  | unknownOpcode (dialect : Dialect) (opcode : Int)
  /-- The record at `offset` states another size than its fields have. -/
  | sizeMismatch (offset declared actual : Int)
  | invalidRankBits (raw : Int)
  deriving DecidableEq, Repr

namespace DecodeError

def message : DecodeError → String
  | .truncated offset needed available =>
      "ECL: need " ++ decimal needed ++ " bytes at offset 0x" ++ hex 0 offset ++
        ", only " ++ decimal (max available 0) ++ " available"
  | .unsupportedMainCount count => "ECL: main_count must be 0, got " ++ decimal count
  | .unknownOpcode dialect opcode =>
      "ECL: unknown " ++ dialect.name ++ " opcode " ++ decimal opcode
  | .sizeMismatch offset declared actual =>
      "ECL: record at 0x" ++ hex 0 offset ++ " declares " ++ decimal declared ++
        " bytes, decoded " ++ decimal actual
  | .invalidRankBits raw => "ECL: invalid rank mask 0x" ++ hex 4 raw

variable {α β : Type}

@[simp] theorem ok_bind (a : α) (f : α → Except DecodeError β) : Except.ok a >>= f = f a := rfl

@[simp] theorem error_bind (e : DecodeError) (f : α → Except DecodeError β) :
    Except.error e >>= f = .error e := rfl

theorem bind_eq_ok_iff {x : Except DecodeError α} {f : α → Except DecodeError β} {b : β} :
    x >>= f = .ok b ↔ ∃ a, x = .ok a ∧ f a = .ok b := by
  cases x <;> simp [bind, Except.bind]

theorem bind_eq_error_iff {x : Except DecodeError α} {f : α → Except DecodeError β}
    {e : DecodeError} :
    x >>= f = .error e ↔ x = .error e ∨ ∃ a, x = .ok a ∧ f a = .error e := by
  cases x <;> simp [bind, Except.bind]

theorem pure_eq_ok_iff {a b : α} : (pure a : Except DecodeError α) = .ok b ↔ a = b := by
  simp [pure, Except.pure]

end DecodeError

end EnemyScript
