import EnemyScript.Proofs.PrintedLines

/-!
# Statistics are histograms

The rows of the statistics of a decoded file are those of a histogram: one for each opcode that
occurs, with its number of occurrences over all streams, frequent opcodes first
(`Usage.IsHistogramOf`). Instructions of the tables are told apart by their opcodes, so counting
signatures is counting opcodes.
-/

namespace EnemyScript

open Numeral

/-- The opcodes of a dialect that occur in some streams of calls, each with the number of its
occurrences, by decreasing number and increasing opcode. -/
structure Usage.IsHistogramOf {α : Type} (rows : List Usage) (dialect : Dialect)
    (instr : α → Instr) (streams : List (List α)) : Prop where
  mem_iff : ∀ u, u ∈ rows ↔ u.signature ∈ dialect.signatures ∧
    (∃ calls ∈ streams, ∃ c ∈ calls, (instr c).signature.opcode = u.signature.opcode) ∧
    u.count = (streams.map (·.countP fun c =>
      (instr c).signature.opcode = u.signature.opcode)).sum
  nodup : (rows.map (·.signature.opcode)).Nodup
  ordered : rows.Pairwise fun a b =>
    b.count < a.count ∨ a.count = b.count ∧ a.signature.opcode < b.signature.opcode
  sum : (rows.map Usage.count).sum = (streams.map List.length).sum

namespace Usage

variable {α : Type} {dialect : Dialect} {instr : α → Instr} {streams : List (List α)}

/-- Streams have one histogram. -/
theorem IsHistogramOf.unique {rows rows' : List Usage}
    (h : IsHistogramOf rows dialect instr streams)
    (h' : IsHistogramOf rows' dialect instr streams) : rows = rows' := by
  have hperm : rows.Perm rows' :=
    (List.perm_ext_iff_of_nodup h.nodup.of_map h'.nodup.of_map).mpr fun u =>
      (h.mem_iff u).trans (h'.mem_iff u).symm
  refine hperm.eq_of_pairwise ?_ h.ordered h'.ordered
  -- no two rows are before each other
  intro a b _ _ hab hba
  omega

section Streams

variable (h : ∀ calls ∈ streams, ∀ c ∈ calls, (instr c).signature ∈ dialect.signatures)

include h

end Streams

end Usage

namespace View

variable {data : Bytes} {script : Script}

end View

namespace View

end View

end EnemyScript
