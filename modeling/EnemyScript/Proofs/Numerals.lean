import EnemyScript.Numeral

/-!
# The characters of written numbers

A numeral consists of digits of its base (`Numeral.exists_digit_of_mem_toDigits`). What is put
around the digits, a sign, zeros in front or the blanks of a column, is known character by
character. So a text can be taken apart again where a run of characters of one class ends
(`Numeral.append_inj_of_runs`), and a hexadecimal numeral is read back whatever its width is
(`Numeral.hexValue_hex`).
-/

namespace EnemyScript.Numeral

/-- Starts with a character other than the blank. -/
def Unindented (cs : List Char) : Prop := ∃ c ∈ cs.head?, c ≠ ' '

theorem Unindented.append {cs : List Char} (h : Unindented cs) (ds : List Char) :
    Unindented (cs ++ ds) := by
  obtain ⟨c, hc, hne⟩ := h
  exact ⟨c, by rw [List.head?_append, hc]; rfl, hne⟩

section Runs

variable {α : Type} {p : α → Bool} {xs ys rest rest' : List α}

/-- A run of one class ends where something else begins. -/
theorem takeWhile_append_of_run (hrun : ∀ a ∈ xs, p a) (hrest : ∀ a ∈ rest.head?, ¬ p a) :
    (xs ++ rest).takeWhile p = xs := by
  rw [List.takeWhile_append_of_pos hrun]
  cases rest with
  | nil => rw [List.takeWhile_nil, List.append_nil]
  | cons a rest => rw [List.takeWhile_cons_of_neg (hrest a rfl), List.append_nil]

/-- So two runs can be told from what comes behind them. -/
theorem append_inj_of_runs (hx : ∀ a ∈ xs, p a) (hy : ∀ a ∈ ys, p a)
    (hrest : ∀ a ∈ rest.head?, ¬ p a) (hrest' : ∀ a ∈ rest'.head?, ¬ p a)
    (h : xs ++ rest = ys ++ rest') : xs = ys ∧ rest = rest' := by
  have hrun : xs = ys := by
    rw [← takeWhile_append_of_run hx hrest, h, takeWhile_append_of_run hy hrest']
  rw [hrun] at h
  exact ⟨hrun, List.append_cancel_left h⟩

end Runs

/-- A joined text starts with its first part, and each other part is behind a separator. -/
theorem intercalate_cons {α : Type} (sep xs : List α) (parts : List (List α)) :
    sep.intercalate (xs :: parts) = xs ++ parts.flatMap (sep ++ ·) := by
  induction parts generalizing xs with
  | nil => rw [List.intercalate_singleton, List.flatMap_nil, List.append_nil]
  | cons part parts ih =>
      rw [List.intercalate_cons_cons, ih, List.flatMap_cons, List.append_assoc, List.append_assoc]

/-- Blanks in front of unindented texts can be cancelled. -/
theorem Unindented.eq_of_replicate_append {m n : Nat} {xs ys : List Char} (hx : Unindented xs)
    (hy : Unindented ys) (h : List.replicate m ' ' ++ xs = List.replicate n ' ' ++ ys) :
    xs = ys := by
  have hblank {k : Nat} : ∀ c ∈ List.replicate k ' ', decide (c = ' ') = true :=
    fun c hc => decide_eq_true (List.eq_of_mem_replicate hc)
  have hstop {cs : List Char} (hcs : Unindented cs) :
      ∀ c ∈ cs.head?, ¬ decide (c = ' ') = true := by
    obtain ⟨d, hd, hne⟩ := hcs
    intro c hc
    rw [decide_eq_true_eq, Option.some.inj (hc.symm.trans hd)]
    exact hne
  exact (append_inj_of_runs hblank hblank (hstop hx) (hstop hy) h).2

/-- Every character of a numeral is the digit of a number below the base. -/
theorem exists_digit_of_mem_toDigits {base n : Nat} {c : Char} (hbase : 1 < base)
    (h : c ∈ Nat.toDigits base n) : ∃ d < base, c = Nat.digitChar d := by
  induction n using Nat.strongRecOn with
  | ind n ih =>
      by_cases hn : n < base
      · rw [Nat.toDigits_of_lt_base hn, List.mem_singleton] at h
        exact ⟨n, hn, h⟩
      · have hle : base ≤ n := Nat.le_of_not_lt hn
        rw [Nat.toDigits_of_base_le hbase hle, List.mem_append, List.mem_singleton] at h
        rcases h with hfront | hlast
        · exact ih (n / base) (Nat.div_lt_self (by omega) hbase) hfront
        · exact ⟨n % base, Nat.mod_lt n (by omega), hlast⟩

theorem eq_or_mem_of_mem_leftpad {c fill : Char} {width : Nat} {cs : List Char}
    (h : c ∈ cs.leftpad width fill) : c = fill ∨ c ∈ cs := by
  rw [List.leftpad, List.mem_append] at h
  exact h.imp_left List.eq_of_mem_replicate

theorem eq_of_mem_sign {n : Int} {c : Char} (h : c ∈ (sign n).toList) : c = '-' := by
  unfold sign at h
  split at h
  · exact List.mem_singleton.mp h
  · cases h

/-- A hexadecimal numeral has upper-case digits and perhaps a sign. The zeros in front are digits
too. -/
theorem mem_hex {width : Nat} {n : Int} {c : Char} (h : c ∈ (hex width n).toList) :
    c = '-' ∨ ∃ d < 16, c = (Nat.digitChar d).toUpper := by
  rw [hex, String.toList_append, String.toList_ofList, List.mem_append] at h
  rcases h with hsign | hdigits
  · exact .inl (eq_of_mem_sign hsign)
  · right
    rcases eq_or_mem_of_mem_leftpad hdigits with rfl | hdigit
    · exact ⟨0, by omega, rfl⟩
    · obtain ⟨digit, hmem, rfl⟩ := List.mem_map.mp hdigit
      obtain ⟨d, hd, rfl⟩ := exists_digit_of_mem_toDigits (by omega) hmem
      exact ⟨d, hd, rfl⟩

theorem length_hex_four {n : Nat} (h : n < 65536) : (hex 4 n).toList.length = 4 := by
  have hdigits : (Nat.toDigits 16 n).length ≤ 4 :=
    (Nat.length_toDigits_le_iff (by omega) (by omega)).mpr h
  have hsign : sign n = "" := if_neg (by omega)
  simp only [hex, hsign, String.length_empty, String.empty_append, String.toList_ofList,
    List.length_leftpad, List.length_map, Int.natAbs_natCast]
  omega

section Hexadecimal

/-- The number that an upper-case hexadecimal digit stands for. -/
def hexDigit (c : Char) : Nat := if c.isDigit then c.toNat - '0'.toNat else c.toNat - 'A'.toNat + 10

/-- The number that upper-case hexadecimal digits stand for. -/
def hexValue (cs : List Char) : Nat := cs.foldl (fun value c => 16 * value + hexDigit c) 0

theorem hexValue_concat (cs : List Char) (c : Char) :
    hexValue (cs ++ [c]) = 16 * hexValue cs + hexDigit c := by
  rw [hexValue, List.foldl_append]
  rfl

theorem hexValue_zeros_append (k : Nat) (cs : List Char) :
    hexValue (List.replicate k '0' ++ cs) = hexValue cs := by
  induction k with
  | zero => rfl
  | succ k ih => exact ih

theorem hexValue_toDigits (n : Nat) : hexValue ((Nat.toDigits 16 n).map Char.toUpper) = n := by
  have hdigit : ∀ d < 16, hexDigit (Nat.digitChar d).toUpper = d := by decide
  induction n using Nat.strongRecOn with
  | ind n ih =>
      by_cases hn : n < 16
      · rw [Nat.toDigits_of_lt_base hn, List.map_singleton, ← List.nil_append [_], hexValue_concat,
          hdigit n hn]
        exact Nat.zero_add n
      · rw [Nat.toDigits_of_base_le (by omega) (Nat.le_of_not_lt hn), List.map_append,
          List.map_singleton, hexValue_concat, ih (n / 16) (by omega),
          hdigit (n % 16) (Nat.mod_lt n (by omega))]
        exact Nat.div_add_mod n 16

/-- A hexadecimal numeral without a sign reads back, whatever its width. -/
theorem hexValue_hex (width n : Nat) : hexValue (hex width n).toList = n := by
  have hsign : sign n = "" := if_neg (by omega)
  rw [hex, hsign, String.empty_append, String.toList_ofList, List.leftpad, hexValue_zeros_append,
    Int.natAbs_natCast, hexValue_toDigits]

theorem hex_inj {width m n : Nat} : hex width m = hex width n ↔ m = n := by
  constructor
  · intro h
    rw [← hexValue_hex width m, h, hexValue_hex]
  · exact congrArg fun n : Nat => hex width n

end Hexadecimal

end EnemyScript.Numeral
