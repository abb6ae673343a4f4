import EnemyScript.Bytes

/-!
# The file header

A file begins with the number of scripts, a number of further main blocks that must be zero,
three offsets of schedules and the offset of each script. All numbers are unsigned and
little-endian, and offsets count from the start of the file.
-/

namespace EnemyScript

structure Header where
  mainOffsets : List Nat
  subOffsets : List Nat
  deriving DecidableEq, Repr

namespace Header

def mainSlots : Nat := 3

/-- The size of the header before the offsets of the scripts. -/
def fixedSize : Nat := 4 + 4 * mainSlots

/-- `count` offsets that lie one after the other from `start` on. -/
def offsets (data : Bytes) (start count : Nat) : List Nat :=
  (List.range count).map fun i => data.uint (start + 4 * i : Nat) 4

def read (data : Bytes) : Except DecodeError Header := do
  data.require 0 4
  let subCount := data.uint 0 2
  let mainCount := data.uint 2 2
  if mainCount ≠ 0 then
    throw (.unsupportedMainCount mainCount)
  else
    data.require 4 (4 * mainSlots)
    data.require fixedSize (4 * subCount)
    pure ⟨offsets data 4 mainSlots, offsets data fixedSize subCount⟩

/-- The offsets of the schedules in use: those before the first slot that holds zero. -/
def usedMainOffsets (header : Header) : List Nat := header.mainOffsets.takeWhile (· ≠ 0)

end Header

end EnemyScript
