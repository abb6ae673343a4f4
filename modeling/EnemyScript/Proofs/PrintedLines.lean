import EnemyScript.Proofs.Entries
import EnemyScript.Proofs.PrintableText
import EnemyScript.Proofs.Tallies

/-!
# Lines of a listing

Every line of a listing is written in printable characters, since the instructions of a decoded
file have their names from the tables and texts stand between quotes. So a text field can neither
end a line nor begin one: the lines can be read back from what is printed
(`Listing.splitOn_text`), and there are as many of them as there are heads, calls and gaps between
scripts (`View.run_prints_lines`).
-/

namespace EnemyScript

open Numeral Printable

theorem Printable.IsLine.lineFeed_notMem {s : String} (h : IsLine s) : '\n' ∉ s.toList := by
  intro hmem
  exact absurd (h _ hmem) (by decide)

namespace Listing

variable {lines : List String}

/-- The lines can be read back from their text when none of them has a line feed. -/
theorem splitOn_text (h : ∀ line ∈ lines, IsLine line) :
    (text lines).toList.splitOn '\n' = lines.map String.toList ++ [[]] := by
  induction lines with
  | nil => rfl
  | cons line lines ih =>
      obtain ⟨hline, hrest⟩ := List.forall_mem_cons.mp h
      rw [toList_text_cons, List.splitOn_append_cons_self_of_not_mem hline.lineFeed_notMem,
        ih hrest, List.map_cons, List.cons_append]

theorem count_text (h : ∀ line ∈ lines, IsLine line) :
    (text lines).toList.count '\n' = lines.length := by
  induction lines with
  | nil => rfl
  | cons line lines ih =>
      obtain ⟨hline, hrest⟩ := List.forall_mem_cons.mp h
      rw [toList_text_cons, List.count_append, List.count_eq_zero.mpr hline.lineFeed_notMem,
        List.count_cons_self, ih hrest, Nat.zero_add, List.length_cons]

end Listing

section Calls

theorem SubCall.isLine_paramText (c : SubCall) : IsLine c.paramText := by
  unfold paramText
  split
  · decide
  · have hlabel : IsLine " param=0x" := by decide
    exact hlabel.append (isLine_hex 4 c.param)

theorem SubCall.isLine_line {c : SubCall} (h : c.instr.signature ∈ Dialect.sub.signatures) :
    IsLine c.line := by
  have hgap : IsLine "  " := by decide
  have htime := (isLine_decimal c.time).alignRight 6
  have hrank := c.rank.isLine_text.alignLeft 22
  exact ((((hgap.append htime).append hgap).append hrank).append (Instr.isLine_format h)).append
    c.isLine_paramText

theorem MainCall.isLine_line {c : MainCall} (h : c.instr.signature ∈ Dialect.main.signatures) :
    IsLine c.line := by
  have hgap : IsLine "  " := by decide
  have hlabel : IsLine "  sub " := by decide
  have htime := (isLine_decimal c.time).alignRight 6
  have hsub := (isLine_decimal c.sub).alignRight 3
  exact ((((hgap.append htime).append hlabel).append hsub).append hgap).append
    (Instr.isLine_format h)

end Calls

/-- The instructions of a script are those of the tables. -/
structure Script.FromTables (script : Script) : Prop where
  subs : ∀ calls ∈ script.subs, ∀ c ∈ calls, c.instr.signature ∈ Dialect.sub.signatures
  mains : ∀ calls ∈ script.mains, ∀ c ∈ calls, c.instr.signature ∈ Dialect.main.signatures

theorem Script.FromTables.subInstrs {script : Script} (h : script.FromTables) :
    ∀ i ∈ script.subInstrs, i.signature ∈ Dialect.sub.signatures := by
  rw [Script.subInstrs, List.forall_mem_map, List.forall_mem_flatten]
  exact h.subs

theorem Script.FromTables.mainInstrs {script : Script} (h : script.FromTables) :
    ∀ i ∈ script.mainInstrs, i.signature ∈ Dialect.main.signatures := by
  rw [Script.mainInstrs, List.forall_mem_map, List.forall_mem_flatten]
  exact h.mains

theorem Script.fromTables_of_decode {data : Bytes} {script : Script}
    (h : decode data = .ok script) : script.FromTables := by
  obtain ⟨header, -, hsubs, hmains⟩ := decode_eq_ok_iff.mp h
  constructor
  · intro calls hmem c hc
    obtain ⟨offset, -, hstream⟩ := DecodeError.exists_of_mem_of_mapM_eq_ok hsubs hmem
    have hformed := RawSubCall.encoding.forall_calls (fun _ => RawSubCall.wellFormed) hstream c hc
    exact hformed.instr.signature
  · intro calls hmem c hc
    obtain ⟨offset, -, hstream⟩ := DecodeError.exists_of_mem_of_mapM_eq_ok hmains hmem
    have hformed := RawMainCall.encoding.forall_calls (fun _ => RawMainCall.wellFormed) hstream c hc
    exact hformed.instr.signature

namespace Listing

variable {script : Script}

/-- What holds of the members of each numbered part holds of all members. -/
theorem forall_mem_flatMap_zipIdx {α β : Type} {P : β → Prop} {xs : List α} {f : α × Nat → List β}
    (h : ∀ x ∈ xs, ∀ index, ∀ y ∈ f (x, index), P y) : ∀ y ∈ xs.zipIdx.flatMap f, P y := by
  intro y hy
  obtain ⟨⟨x, index⟩, hmem, hy⟩ := List.mem_flatMap.mp hy
  exact h x (List.fst_mem_of_mem_zipIdx hmem) index y hy

/-- The line above the calls of a script or schedule. -/
theorem isLine_head {label unit : String} (hlabel : IsLine label) (hunit : IsLine unit)
    (index count : Nat) : IsLine (label ++ decimal index ++ ": " ++ decimal count ++ unit) := by
  have hcolon : IsLine ": " := by decide
  exact (((hlabel.append (isLine_decimal index)).append hcolon).append
    (isLine_decimal count)).append hunit

theorem isLine_of_mem_sub {calls : List SubCall} (chosen : Option Difficulty) (index : Nat)
    (h : ∀ c ∈ calls, c.instr.signature ∈ Dialect.sub.signatures) :
    ∀ line ∈ sub chosen index calls, IsLine line := by
  intro line hmem
  rcases List.mem_cons.mp hmem with rfl | hcall
  · exact isLine_head (by decide) (by decide) index calls.length
  · obtain ⟨c, hc, rfl⟩ := List.mem_map.mp hcall
    exact SubCall.isLine_line (h c (List.mem_of_mem_filter hc))

theorem isLine_of_mem_main {calls : List MainCall} (index : Nat)
    (h : ∀ c ∈ calls, c.instr.signature ∈ Dialect.main.signatures) :
    ∀ line ∈ main index calls, IsLine line := by
  intro line hmem
  rcases List.mem_cons.mp hmem with rfl | hcall
  · exact isLine_head (by decide) (by decide) index calls.length
  · obtain ⟨c, hc, rfl⟩ := List.mem_map.mp hcall
    exact MainCall.isLine_line (h c hc)

theorem isLine_of_mem_mains (h : script.FromTables) : ∀ line ∈ mains script, IsLine line := by
  apply forall_mem_flatMap_zipIdx
  intro calls hcalls index
  exact isLine_of_mem_main index (h.mains calls hcalls)

theorem isLine_of_mem_all (h : script.FromTables) (chosen : Option Difficulty) :
    ∀ line ∈ all chosen script, IsLine line := by
  have hsubs : ∀ line ∈ subs chosen script, IsLine line := by
    apply forall_mem_flatMap_zipIdx
    intro calls hcalls index
    have hblank : IsLine "" := by decide
    exact List.forall_mem_cons.mpr
      ⟨hblank, isLine_of_mem_sub chosen index (h.subs calls hcalls)⟩
  intro line hmem
  rcases List.mem_append.mp hmem with hmain | hsub
  · exact isLine_of_mem_mains h line hmain
  · exact hsubs line hsub

end Listing

namespace Usage

theorem isLine_line {u : Usage} {dialect : Dialect} (h : u.signature ∈ dialect.signatures) :
    IsLine u.line := by
  have hmargin : IsLine "    " := by decide
  have hgap : IsLine " " := by decide
  have hopcode := (isLine_decimal u.signature.opcode).alignRight 3
  have hname := (Signature.isLine_names h).1.alignLeft 30
  have hcount := (isLine_decimal u.count).alignRight 5
  exact ((((hmargin.append hopcode).append hgap).append hname).append hgap).append hcount

end Usage

namespace Listing

theorem isLine_of_mem_statistics (h : script.FromTables) (size : Nat) :
    ∀ line ∈ statistics script size, IsLine line := by
  have husage {dialect : Dialect} {is : List Instr}
      (his : ∀ i ∈ is, i.signature ∈ dialect.signatures) :
      ∀ line ∈ (Usage.ofInstrs is).map Usage.line, IsLine line := by
    intro line hmem
    obtain ⟨u, hu, rfl⟩ := List.mem_map.mp hmem
    obtain ⟨i, hi, heq⟩ := List.mem_map.mp (((Usage.tallies_ofInstrs is).mem_iff u).mp hu).1
    exact Usage.isLine_line (heq ▸ his i hi)
  have hcount {label : String} (hlabel : IsLine label) (n : Nat) : IsLine (label ++ decimal n) :=
    hlabel.append (isLine_decimal n)
  have hsize : IsLine ("  File size:          " ++ grouped size ++ " bytes") := by
    have hlabel : IsLine "  File size:          " := by decide
    have hunit : IsLine " bytes" := by decide
    exact (hlabel.append (isLine_grouped size)).append hunit
  have hdistinct : IsLine ("  Distinct sub ops:   " ++ decimal script.subUsage.length ++ " of " ++
      decimal Dialect.sub.signatures.length) := by
    have hof : IsLine " of " := by decide
    exact hcount ((hcount (by decide) _).append hof) _
  simp only [statistics, List.forall_mem_append, List.forall_mem_cons]
  refine ⟨⟨⟨⟨by decide, hsize, hcount (by decide) _, hcount (by decide) _, hcount (by decide) _,
    hcount (by decide) _, hdistinct, by decide, by decide, List.forall_mem_nil _⟩,
    husage h.subInstrs⟩, by decide, by decide, List.forall_mem_nil _⟩, husage h.mainInstrs⟩

theorem length_flatMap_zipIdx {α β : Type} {xs : List α} {f : α × Nat → List β} {size : α → Nat}
    (h : ∀ x index, (f (x, index)).length = size x) :
    (xs.zipIdx.flatMap f).length = (xs.map size).sum := by
  have hsize : (xs.zipIdx.map fun p => (f p).length) = (xs.zipIdx.map Prod.fst).map size := by
    rw [List.map_map]
    apply List.map_congr_left
    rintro ⟨x, index⟩ -
    exact h x index
  rw [List.length_flatMap, hsize, List.zipIdx_map_fst]

/-- A line for each head, call and gap between scripts. -/
theorem length_entries (script : Script) :
    (entries script).length = (script.mains.map fun calls => 1 + calls.length).sum +
      (script.subs.map fun calls => 2 + calls.length).sum := by
  rw [entries, List.length_append, scheduleEntries]
  congr 1
  · apply length_flatMap_zipIdx
    intro calls index
    change (mainEntries index calls).length = _
    rw [mainEntries, List.length_cons, List.length_map, Nat.add_comm]
  · apply length_flatMap_zipIdx
    intro calls index
    change (Entry.blank :: subEntries index calls).length = _
    rw [List.length_cons, subEntries, List.length_cons, List.length_map]
    omega

end Listing

namespace View

variable {options : Options} {data : Bytes} {script : Script} {size : Nat} {lines : List String}

/-- The lines of a view of a file. -/
inductive Lists (script : Script) (size : Nat) : List String → Prop
  | script (chosen : Option Difficulty) {index : Nat} {calls : List SubCall}
      (hcalls : script.subs[index]? = some calls) : Lists script size (Listing.sub chosen index calls)
  | schedules : Lists script size (Listing.mains script)
  | statistics : Lists script size (Listing.statistics script size)
  | everything (chosen : Option Difficulty) : Lists script size (Listing.all chosen script)

theorem Lists.isLine (h : Lists script size lines) (htables : script.FromTables) :
    ∀ line ∈ lines, IsLine line := by
  cases h with
  | script chosen hcalls =>
      exact Listing.isLine_of_mem_sub chosen _ (htables.subs _ (List.mem_of_getElem? hcalls))
  | schedules => exact Listing.isLine_of_mem_mains htables
  | statistics => exact Listing.isLine_of_mem_statistics htables size
  | everything chosen => exact Listing.isLine_of_mem_all htables chosen

theorem exists_chosen_of_eq_ok {calls : List SubCall} {list : Option Difficulty → List String}
    (h : (do return list (← View.chosen options calls)) = (.ok lines : Except Refusal _)) :
    ∃ chosen, list chosen = lines := by
  cases hchosen : View.chosen options calls with
  | error refusal =>
      rw [hchosen] at h
      cases h
  | ok chosen =>
      rw [hchosen] at h
      exact ⟨chosen, Except.ok.inj h⟩

/-- Nothing else is listed, whatever the options are. -/
theorem lists_of_lines_eq_ok (h : View.lines options script size = .ok lines) :
    Lists script size lines := by
  unfold View.lines at h
  split at h
  · cases h
  · next index _ =>
      unfold View.sub at h
      split at h
      · cases h
      · split at h
        · cases h
        · next calls hcalls =>
            obtain ⟨chosen, rfl⟩ := exists_chosen_of_eq_ok h
            exact .script chosen hcalls
  · split at h
    · obtain rfl := Except.ok.inj h
      exact .schedules
    · split at h
      · obtain rfl := Except.ok.inj h
        exact .statistics
      · obtain ⟨chosen, rfl⟩ := exists_chosen_of_eq_ok h
        exact .everything chosen

/-- Groups that ask for these lines. An index goes before the schedules, these before the
statistics, and without any of them everything is listed. -/
inductive Asks (groups : List Group) (chosen : Option Difficulty) (script : Script) (size : Nat) :
    List String → Prop
  | script {value : String} {index : Nat} {calls : List SubCall}
      (hlast : Group.last? .sub groups = some value) (hvalue : Denotes value.toList index)
      (hcalls : script.subs[index]? = some calls) :
      Asks groups chosen script size (Listing.sub chosen index calls)
  | schedules (hlast : Group.last? .sub groups = none) (hmain : .switch .main ∈ groups) :
      Asks groups chosen script size (Listing.mains script)
  | statistics (hlast : Group.last? .sub groups = none) (hnoMain : .switch .main ∉ groups)
      (hstats : .switch .stats ∈ groups) :
      Asks groups chosen script size (Listing.statistics script size)
  | everything (hlast : Group.last? .sub groups = none) (hnoMain : .switch .main ∉ groups)
      (hnoStats : .switch .stats ∉ groups) :
      Asks groups chosen script size (Listing.all chosen script)

theorem Asks.lists {groups : List Group} {chosen : Option Difficulty}
    (h : Asks groups chosen script size lines) : Lists script size lines := by
  cases h with
  | script _ _ hcalls => exact .script chosen hcalls
  | schedules => exact .schedules
  | statistics => exact .statistics
  | everything => exact .everything chosen

theorem lines_statistics (hsub : options.sub = none) (hmain : options.main = false)
    (hstats : options.stats = true) (script : Script) (size : Nat) :
    View.lines options script size = .ok (Listing.statistics script size) := by
  simp only [View.lines, hsub, hmain, hstats, Bool.false_eq_true, if_false, if_true]

section Run

variable {files : String → Option Bytes} {file : String} {args : List String}

theorem run_eq_of_asks {groups : List Group} {chosen : Option Difficulty}
    (hscript : Script.decode data = .ok script) (hdata : files file = some data)
    (hspelled : Group.Spelled args groups) (hasks : Group.AskFor groups file chosen)
    (hlines : Asks groups chosen script data.size lines) :
    run args files = .ok ⟨0, Listing.text (loaded file data.size script) ++
      Listing.text lines, ""⟩ := by
  cases hlines with
  | script hlast hvalue hcalls =>
      exact run_eq_script hscript hdata hspelled hasks hlast hvalue hcalls
  | schedules hlast hmain => exact run_eq_schedules hscript hdata hspelled hasks hlast hmain
  | statistics hlast hnoMain hstats =>
      obtain ⟨options, hrun, hsub, -, hmain, hon⟩ := exists_run_eq_outcome hdata hspelled hasks
      rw [hlast] at hsub
      have hlines := lines_statistics hsub (hmain.trans (decide_eq_false hnoMain))
        (hon.trans (decide_eq_true hstats)) script data.size
      rw [hrun, outcome_eq_success hscript hlines]
  | everything hlast hnoMain hnoStats =>
      exact run_eq_all hscript hdata hspelled hasks hlast hnoMain hnoStats

/-- What a view of a decoded file prints, if it does not break off. -/
theorem exists_lines_of_run_eq_ok {result : Outcome} (hscript : Script.decode data = .ok script)
    (hdata : files file = some data) (hview : Request.ofArgs args = .view options file)
    (hrun : run args files = .ok result) :
    ∃ lines, result.out = Listing.text (loaded file data.size script) ++ Listing.text lines ∧
      (lines = [] ∨ Lists script data.size lines) := by
  rw [run, hview] at hrun
  simp only [hdata, outcome, hscript, Outcome.success, Outcome.failure] at hrun
  split at hrun
  · next lines hlines =>
      obtain rfl := Except.ok.inj hrun
      refine ⟨lines, ?_, .inr (lists_of_lines_eq_ok hlines)⟩
      rw [Listing.text_append]
  · obtain rfl := Except.ok.inj hrun
    refine ⟨[], ?_, .inl rfl⟩
    exact String.append_empty.symm
  · cases hrun

end Run

end View

/-- What a result shows behind `head` are these lines, written in printable characters, and they
can be read back from it. -/
structure Outcome.PrintsLines (result : Outcome) (head : String) (lines : List String) : Prop where
  out : result.out = head ++ Listing.text lines
  printable : ∀ line ∈ lines, ∀ c ∈ line.toList, isPrintable c
  rows : (Listing.text lines).toList.splitOn '\n' = lines.map String.toList ++ [[]]

namespace View

variable {data : Bytes} {script : Script}

/-- Whatever a decoded file holds, each view of it prints lines of printable characters that end
where a line was ended. The whole listing without a difficulty has one line for each call, one for
each head, and one before each script. -/
theorem run_prints_lines (h : Script.decode data = .ok script) :
    (∀ {files : String → Option Bytes} {file : String} {args : List String} {options : Options}
      {result : Outcome}, files file = some data → Request.ofArgs args = .view options file →
      run args files = .ok result →
        ∃ lines, result.PrintsLines (Listing.text (loaded file data.size script)) lines) ∧
    (∀ {files : String → Option Bytes} {file : String} {args : List String} {groups : List Group}
      {chosen : Option Difficulty} {lines : List String}, files file = some data →
      Group.Spelled args groups → Group.AskFor groups file chosen →
      Asks groups chosen script data.size lines →
        ∃ result, run args files = .ok result ∧ result.exit = 0 ∧
          result.PrintsLines (Listing.text (loaded file data.size script)) lines) ∧
    (∀ {files : String → Option Bytes} {file : String} {args : List String},
      files file = some data →
      Request.ofArgs args = .view ⟨some file, none, none, false, false, false⟩ file →
        run args files = .ok ⟨0, Listing.text (loaded file data.size script) ++
          Listing.text (Listing.all none script), ""⟩) ∧
    Listing.all none script = (Listing.entries script).map Entry.line ∧
    (Listing.text (Listing.all none script)).toList.count '\n' =
      (script.mains.map fun calls => 1 + calls.length).sum +
        (script.subs.map fun calls => 2 + calls.length).sum := by
  have htables := Script.fromTables_of_decode h
  have hentries : Listing.all none script = (Listing.entries script).map Entry.line := by
    rw [← Listing.shownLines_entries, Listing.shownLines,
      List.filter_eq_self.mpr fun e _ => e.isShown_none]
  refine ⟨?_, ?_, ?_, hentries, ?_⟩
  · intro files file args options result hdata hview hrun
    obtain ⟨lines, hout, hlists⟩ := exists_lines_of_run_eq_ok h hdata hview hrun
    have hprintable : ∀ line ∈ lines, IsLine line := by
      rcases hlists with rfl | hlists
      · exact List.forall_mem_nil _
      · exact hlists.isLine htables
    exact ⟨lines, hout, hprintable, Listing.splitOn_text hprintable⟩
  · intro files file args groups chosen lines hdata hspelled hasks hlines
    have hrun := run_eq_of_asks h hdata hspelled hasks hlines
    have hprintable := hlines.lists.isLine htables
    refine ⟨⟨0, _, ""⟩, hrun, rfl, ?_⟩
    exact ⟨rfl, hprintable, Listing.splitOn_text hprintable⟩
  · intro files file args hdata hview
    have hnone : (none : Option (Option Difficulty)) = (none : Option Difficulty).map some := rfl
    rw [run, hview]
    simp only [hdata]
    exact outcome_eq_success h (lines_all rfl rfl rfl hnone script data.size) file
  · rw [Listing.count_text (Listing.isLine_of_mem_all htables none), hentries, List.length_map,
      Listing.length_entries]

end View

/-- Announces a spell card whose name starts with a line feed and goes on like the head of a
script. -/
def RawSubCall.misleading : RawSubCall :=
  ⟨0, ⟨0xFF⟩, 0, ⟨⟨.sub, 93, "SetSpellcard", [.i16 "face", .i16 "number", .str "name"]⟩,
    [.int 0, .int 0, .text ([10, 83, 117, 98, 32, 49, 58, 32, 48, 32, 105, 110, 115, 116, 114, 117,
      99, 116, 105, 111, 110, 115] ++ List.replicate 12 0)], rfl⟩⟩

namespace View

/-- The listing of a script with such a call, which has three lines, and the statistics. -/
theorem run_prints_lines_misleading :
    let files := fun name => if name = "f" then some (Bytes.ofCalls [.misleading]) else none
    let script : Script := ⟨[[RawSubCall.misleading.call]], []⟩
    let head := Listing.text (loaded "f" (Bytes.ofCalls [.misleading]).size script)
    (∃ result, run ["f"] files = .ok result ∧ result.exit = 0 ∧
        result.PrintsLines head (Listing.all none script)) ∧
      (∃ result, run ["f", "--stats"] files = .ok result ∧ result.exit = 0 ∧
        result.PrintsLines head (Listing.statistics script (Bytes.ofCalls [.misleading]).size)) ∧
      (Listing.text (Listing.all none script)).toList.count '\n' = 3 := by
  intro files script head
  have hdecode : Script.decode (Bytes.ofCalls [.misleading]) = .ok script :=
    Script.decode_ofCalls (by decide +kernel)
  have hfile : files "f" = some (Bytes.ofCalls [.misleading]) := rfl
  have hall : Group.Spelled ["f"] [.file "f"] := .cons (.file "f") rfl .nil
  have hstats : Group.Spelled ["f", "--stats"] [.file "f", .switch .stats] :=
    .cons (.file "f") rfl (.cons (.switch (by decide)) rfl .nil)
  obtain ⟨-, hgroups, -, -, hcount⟩ := run_prints_lines hdecode
  refine ⟨?_, ?_, hcount⟩
  · have hasks : Group.AskFor [.file "f"] "f" none := ⟨rfl, rfl, by decide, by decide⟩
    exact hgroups hfile hall hasks (.everything rfl (by decide) (by decide))
  · have hasks : Group.AskFor [.file "f", .switch .stats] "f" none :=
      ⟨rfl, rfl, by decide, by decide⟩
    exact hgroups hfile hstats hasks (.statistics rfl (by decide) (by decide))

end View

end EnemyScript
