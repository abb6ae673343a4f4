import EnemyScript.Listing.Statistics
import Mathlib.Algebra.GroupWithZero.Nat

/-!
# Counted opcodes

Counting instructions one after the other keeps one row for each signature that occurred, with the
number of its occurrences (`Usage.Tallies`). Sorting the rows keeps them, and puts them in the order
of their counts and opcodes.
-/

namespace EnemyScript.Usage

variable {usages usages' : List Usage} {ss : List Signature} {s t : Signature} {u : Usage}

/-- The rows are what was counted: each signature that occurred has one, with its occurrences. -/
structure Tallies (usages : List Usage) (ss : List Signature) : Prop where
  nodup : (usages.map signature).Nodup
  mem_iff : ∀ u, u ∈ usages ↔ u.signature ∈ ss ∧ u.count = ss.count u.signature
  sum : (usages.map count).sum = ss.length

theorem mem_signature_tally :
    t ∈ (tally s usages).map signature ↔ t = s ∨ t ∈ usages.map signature := by
  induction usages with
  | nil => simp [tally]
  | cons u usages ih =>
      rw [tally]
      split
      · next heq => simp [heq]
      · rw [List.map_cons, List.mem_cons, ih, List.map_cons, List.mem_cons, or_left_comm]

theorem nodup_tally (h : (usages.map signature).Nodup) :
    ((tally s usages).map signature).Nodup := by
  induction usages with
  | nil => simp [tally]
  | cons u usages ih =>
      rw [List.map_cons, List.nodup_cons] at h
      obtain ⟨hnew, hrest⟩ := h
      rw [tally]
      split
      · next heq =>
          subst heq
          exact List.nodup_cons.mpr ⟨hnew, hrest⟩
      · next hne =>
          rw [List.map_cons, List.nodup_cons, mem_signature_tally, not_or]
          exact ⟨⟨hne, hnew⟩, ih hrest⟩

theorem sum_tally : ((tally s usages).map count).sum = (usages.map count).sum + 1 := by
  induction usages with
  | nil => rfl
  | cons u usages ih =>
      rw [tally]
      split
      · simp only [List.map_cons, List.sum_cons]
        omega
      · rw [List.map_cons, List.sum_cons, ih, List.map_cons, List.sum_cons, Nat.add_assoc]

/-- The rows of the other signatures stay. -/
theorem mem_tally_of_ne (hne : u.signature ≠ s) : u ∈ tally s usages ↔ u ∈ usages := by
  have hother (n : Nat) : u ≠ ⟨s, n⟩ := by
    rintro rfl
    exact hne rfl
  induction usages with
  | nil => simp [tally, hother]
  | cons v usages ih =>
      rw [tally]
      split
      · next heq =>
          have hhead : u ≠ v := by
            rintro rfl
            exact hne heq
          simp [hother, hhead]
      · rw [List.mem_cons, List.mem_cons]
        exact or_congr_right ih

/-- The row of the signature counts one more than before. -/
theorem mem_tally_self_iff (h : (usages.map signature).Nodup) {n : Nat} :
    ⟨s, n⟩ ∈ tally s usages ↔
      s ∉ usages.map signature ∧ n = 1 ∨ ∃ m, ⟨s, m⟩ ∈ usages ∧ n = m + 1 := by
  induction usages with
  | nil => simp [tally]
  | cons v usages ih =>
      obtain ⟨t, k⟩ := v
      rw [List.map_cons, List.nodup_cons] at h
      obtain ⟨hnew, hrest⟩ := h
      rw [tally]
      split
      · next heq =>
          obtain rfl : t = s := heq
          have hnone (m : Nat) : ⟨t, m⟩ ∉ usages := fun hmem =>
            hnew (List.mem_map.mpr ⟨_, hmem, rfl⟩)
          simp [hnone]
      · next hne =>
          have hother (m : Nat) : (⟨s, m⟩ : Usage) ≠ ⟨t, k⟩ := by
            rintro heq
            exact hne (congrArg signature heq).symm
          simp [hother, ih hrest, Ne.symm hne]

theorem Tallies.mem_signature_iff (h : Tallies usages ss) :
    s ∈ usages.map signature ↔ s ∈ ss := by
  rw [List.mem_map]
  constructor
  · rintro ⟨u, hu, rfl⟩
    exact ((h.mem_iff u).mp hu).1
  · intro hs
    exact ⟨⟨s, ss.count s⟩, (h.mem_iff _).mpr ⟨hs, rfl⟩, rfl⟩

/-- One more call. -/
theorem Tallies.tally (h : Tallies usages ss) (s : Signature) :
    Tallies (tally s usages) (ss ++ [s]) where
  nodup := nodup_tally h.nodup
  mem_iff u := by
    by_cases heq : u.signature = s
    · obtain ⟨t, n⟩ := u
      obtain rfl : t = s := heq
      rw [mem_tally_self_iff h.nodup, h.mem_signature_iff]
      simp only [h.mem_iff, List.count_append, List.count_singleton_self, List.mem_append,
        List.mem_singleton, or_true, true_and]
      by_cases hss : t ∈ ss
      · simp [hss]
      · simp [hss, List.count_eq_zero.mpr hss]
    · rw [mem_tally_of_ne heq, h.mem_iff, List.count_append, List.count_singleton]
      simp [heq, Ne.symm heq]
  sum := by rw [sum_tally, h.sum, List.length_append, List.length_singleton]

/-- All calls, one after the other. -/
theorem Tallies.foldl (h : Tallies usages ss) (is : List Instr) :
    Tallies (is.foldl (fun usages i => Usage.tally i.signature usages) usages)
      (ss ++ is.map Instr.signature) := by
  induction is generalizing usages ss with
  | nil => rwa [List.map_nil, List.append_nil]
  | cons i is ih =>
      rw [List.foldl_cons, List.map_cons, List.append_cons]
      exact ih (h.tally i.signature)

theorem Tallies.of_perm (h : Tallies usages ss) (hperm : usages'.Perm usages) :
    Tallies usages' ss where
  nodup := (hperm.map signature).nodup_iff.mpr h.nodup
  mem_iff u := hperm.mem_iff.trans (h.mem_iff u)
  sum := (hperm.map count).sum_nat.trans h.sum

theorem tallies_nil : Tallies [] [] where
  nodup := List.nodup_nil
  mem_iff u := by simp
  sum := rfl

theorem tallies_ofInstrs (is : List Instr) : Tallies (ofInstrs is) (is.map Instr.signature) :=
  (tallies_nil.foldl is).of_perm (List.mergeSort_perm _ _)

end EnemyScript.Usage
