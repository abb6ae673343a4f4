import EnemyScript.DecodeError

/-!
# Difficulty ranks

A call states the difficulties on which it is active as flags in the high byte of a 16-bit
field. The four low flags are the named difficulties; the other four are kept and printed as
they are. `Rank.ofInt` reads the flags out of any integer in two's complement, `Rank.ofBits`
accepts only integers that hold nothing else.
-/

namespace EnemyScript

open Numeral

inductive Difficulty where
  | easy
  | normal
  | hard
  | lunatic
  deriving DecidableEq, Repr

namespace Difficulty

def all : List Difficulty := [.easy, .normal, .hard, .lunatic]

def name : Difficulty → String
  | .easy => "easy"
  | .normal => "normal"
  | .hard => "hard"
  | .lunatic => "lunatic"

/-- The name as the rank column shows it. -/
def label : Difficulty → String
  | .easy => "EASY"
  | .normal => "NORMAL"
  | .hard => "HARD"
  | .lunatic => "LUNATIC"

/-- The flag of the difficulty, counted from the lowest. -/
def flag : Difficulty → Nat
  | .easy => 0
  | .normal => 1
  | .hard => 2
  | .lunatic => 3

def ofName? (name : String) : Option Difficulty := all.find? (·.name = name)

/-- What is said of a name that no difficulty has. -/
def unknownName (name : String) : String := "unknown rank " ++ name

theorem ofName?_eq_some_iff {name : String} {d : Difficulty} :
    ofName? name = some d ↔ d.name = name := by
  constructor
  · intro h
    simpa using List.find?_some h
  · rintro rfl
    cases d <;> decide

end Difficulty

structure Rank where
  flags : BitVec 8
  deriving DecidableEq, Repr

namespace Rank

/-- The field that holds these flags. -/
def bits (r : Rank) : Nat := r.flags.toNat * 256

def ofDifficulty (d : Difficulty) : Rank := ⟨BitVec.twoPow 8 d.flag⟩

/-- The flags in bits 8 to 15 of an integer, whatever its other bits are. -/
def ofInt (raw : Int) : Rank := ⟨BitVec.ofInt 8 (raw / 256)⟩

/-- The rank whose field is `raw`. -/
def ofBits (raw : Int) : Except DecodeError Rank :=
  if (ofInt raw).bits = raw then .ok (ofInt raw) else .error (.invalidRankBits raw)

def includes (r : Rank) (d : Difficulty) : Bool := r.flags.getLsbD d.flag

/-- The flags without a difficulty, in their place in the field. -/
def unnamedBits (r : Rank) : Nat := (r.flags &&& 0xF0).toNat * 256

/-- The names of the flags that are set, unnamed flags last and as one number. -/
def parts (r : Rank) : List String :=
  (Difficulty.all.filter r.includes).map Difficulty.label ++
    if r.unnamedBits = 0 then [] else ["0x" ++ hex 4 r.unnamedBits]

def text (r : Rank) : String :=
  if r.flags = 0xFF then "ALL"
  else if r.parts = [] then "-"
  else "|".intercalate r.parts

theorem bits_ofInt (raw : Int) : ((ofInt raw).bits : Int) = raw / 256 % 256 * 256 := by
  simp only [ofInt, bits, BitVec.toNat_ofInt]
  omega

theorem ofInt_bits (r : Rank) : ofInt r.bits = r := by
  obtain ⟨flags⟩ := r
  simp only [ofInt, bits, mk.injEq]
  apply BitVec.eq_of_toNat_eq
  have := flags.isLt
  rw [BitVec.toNat_ofInt]
  omega

theorem bits_inj {r r' : Rank} : r.bits = r'.bits ↔ r = r' := by
  constructor
  · intro h
    rw [← ofInt_bits r, h, ofInt_bits]
  · exact congrArg bits

theorem bits_lt (r : Rank) : r.bits < 65536 := by
  have hlt := r.flags.isLt
  rw [bits]
  omega

theorem ofBits_bits (r : Rank) : ofBits r.bits = .ok r := by simp [ofBits, ofInt_bits]

theorem ofBits_eq_ok_iff {raw : Int} {r : Rank} : ofBits raw = .ok r ↔ (r.bits : Int) = raw := by
  constructor
  · intro h
    unfold ofBits at h
    split at h
    · cases h
      assumption
    · cases h
  · rintro rfl
    exact ofBits_bits r

theorem ofBits_eq_error_iff {raw : Int} {e : DecodeError} :
    ofBits raw = .error e ↔ ((ofInt raw).bits : Int) ≠ raw ∧ e = .invalidRankBits raw := by
  unfold ofBits
  by_cases h : ((ofInt raw).bits : Int) = raw
  · simp [h]
  · simp [h, eq_comm]

theorem includes_ofDifficulty (d e : Difficulty) : (ofDifficulty d).includes e = (d == e) := by
  cases d <;> cases e <;> decide

example : (ofInt 0x3500).text = "EASY|HARD|0x3000" ∧ (ofInt (-1)).text = "ALL" ∧
    (ofInt 0x2FF).text = "NORMAL" ∧ (ofInt 255).text = "-" := by decide

end Rank

end EnemyScript
