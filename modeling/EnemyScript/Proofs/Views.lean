import EnemyScript.CommandLine
import EnemyScript.Proofs.Groups
import EnemyScript.Proofs.WellFormed

/-!
# The views of a file

Every view of a decoded file is put together from the same texts: the line that says what was
loaded, the schedules, and one text for each script (`View.run_composes`). A difficulty changes
the texts of the scripts only.
-/

namespace EnemyScript

open Numeral

namespace Listing

theorem text_cons (line : String) (lines : List String) :
    text (line :: lines) = line ++ "\n" ++ text lines := by
  rw [text, List.map_cons, String.join_cons, text]

theorem text_nil : text [] = "" := rfl

theorem text_singleton (line : String) : text [line] = line ++ "\n" := by
  rw [text_cons, text_nil, String.append_empty]

theorem toList_text_cons (line : String) (lines : List String) :
    (text (line :: lines)).toList = line.toList ++ '\n' :: (text lines).toList := by
  rw [text_cons, String.toList_append, String.toList_append, List.append_assoc]
  rfl

theorem text_append (xs ys : List String) : text (xs ++ ys) = text xs ++ text ys := by
  rw [text, List.map_append, String.join_append, text, text]

theorem text_flatMap {α : Type} (f : α → List String) (xs : List α) :
    text (xs.flatMap f) = String.join (xs.map fun x => text (f x)) := by
  induction xs with
  | nil => rfl
  | cons x xs ih => rw [List.flatMap_cons, text_append, ih, List.map_cons, String.join_cons]

/-- The texts of the scripts. -/
def scriptTexts (chosen : Option Difficulty) (script : Script) : List String :=
  script.subs.zipIdx.map fun (calls, index) => text (sub chosen index calls)

theorem length_scriptTexts (chosen : Option Difficulty) (script : Script) :
    (scriptTexts chosen script).length = script.subs.length := by
  rw [scriptTexts, List.length_map, List.length_zipIdx]

theorem getElem?_scriptTexts (chosen : Option Difficulty) (script : Script) (index : Nat) :
    (scriptTexts chosen script)[index]? =
      script.subs[index]?.map fun calls => text (sub chosen index calls) := by
  rw [scriptTexts, List.getElem?_map, List.getElem?_zipIdx, Option.map_map, Nat.zero_add]
  rfl

/-- The whole listing is the schedules followed by the scripts, each after an empty line. -/
theorem text_all (chosen : Option Difficulty) (script : Script) :
    text (all chosen script) =
      text (mains script) ++ String.join ((scriptTexts chosen script).map ("\n" ++ ·)) := by
  rw [all, text_append, subs, text_flatMap, scriptTexts, List.map_map]
  congr 2
  apply List.map_congr_left
  rintro ⟨calls, index⟩ -
  exact text_cons "" (sub chosen index calls)

end Listing

namespace View

variable {options : Options} {data : Bytes} {script : Script} {chosen : Option Difficulty}
variable {index : Int}

theorem run_eq_outcome {args : List String} {files : String → Option Bytes} {file : String}
    (hargs : Options.ofArgs args = .ok options) (hopcodes : options.opcodes = false)
    (hfile : options.file = some file) : run args files = outcome options file (files file) := by
  have hrequest : Request.ofArgs args = .view options file := by
    simp [Request.ofArgs, hargs, hopcodes, hfile]
  rw [run, hrequest]

theorem outcome_eq_success (hscript : Script.decode data = .ok script) {lines : List String}
    (hlines : View.lines options script data.size = .ok lines) (file : String) :
    outcome options file (some data) =
      .ok ⟨0, Listing.text (loaded file data.size script) ++ Listing.text lines, ""⟩ := by
  simp only [outcome, hscript, hlines, Outcome.success, Listing.text_append]

theorem outcome_eq_noScript (hscript : Script.decode data = .ok script) {count : Nat}
    (hlines : View.lines options script data.size = .error (.noScript index count))
    (file : String) :
    outcome options file (some data) =
      .ok ⟨1, Listing.text (loaded file data.size script),
        Listing.text [outOfRange index count]⟩ := by
  simp only [outcome, hscript, hlines, Outcome.failure]

theorem chosen_eq_ok (hrank : options.rank = chosen.map some) (calls : List SubCall) :
    View.chosen options calls = .ok chosen := by
  cases chosen <;> simp [View.chosen, hrank]

theorem sub_eq_ok (hrank : options.rank = chosen.map some) {index : Nat} {calls : List SubCall}
    (hcalls : script.subs[index]? = some calls) :
    sub options script index = .ok (Listing.sub chosen index calls) := by
  have hneg : ¬ (index : Int) < 0 := by omega
  simp only [sub, if_neg hneg, Int.toNat_natCast, hcalls, chosen_eq_ok hrank]
  rfl

theorem sub_eq_error (h : index < 0 ∨ script.subs.length ≤ index) :
    sub options script index = .error (.noScript index script.subs.length) := by
  by_cases hneg : index < 0
  · exact if_pos hneg
  · have hnone : script.subs[index.toNat]? = none := List.getElem?_eq_none (by omega)
    simp only [sub, if_neg hneg, hnone]

/-- An index goes before everything else. -/
theorem lines_sub (hsub : options.sub = some (some index)) (script : Script) (size : Nat) :
    lines options script size = sub options script index := by
  rw [lines, hsub]

theorem lines_main (hsub : options.sub = none) (hmain : options.main = true) (script : Script)
    (size : Nat) : lines options script size = .ok (Listing.mains script) := by
  simp only [lines, hsub, hmain, if_true]

theorem lines_all (hsub : options.sub = none) (hmain : options.main = false)
    (hstats : options.stats = false) (hrank : options.rank = chosen.map some) (script : Script)
    (size : Nat) : lines options script size = .ok (Listing.all chosen script) := by
  simp only [lines, hsub, hmain, hstats, Bool.false_eq_true, if_false, chosen_eq_ok hrank]
  rfl

end View

/-- Groups that ask for a view of a file with this choice of a difficulty. -/
structure Group.AskFor (groups : List Group) (file : String) (chosen : Option Difficulty) :
    Prop where
  file : groups.filterMap Group.file? = [file]
  rank : Group.last? .rank groups = chosen.map Difficulty.name
  help : .switch .help ∉ groups
  opcodes : .switch .opcodes ∉ groups

theorem Group.AskFor.exists_options {groups : List Group} {file : String}
    {chosen : Option Difficulty} (h : Group.AskFor groups file chosen) {args : List String}
    (hspelled : Group.Spelled args groups) :
    ∃ options, Options.ofArgs args = .ok options ∧ options.file = some file ∧
      options.sub = (Group.last? .sub groups).map ofText? ∧ options.rank = chosen.map some ∧
      options.main = decide (.switch .main ∈ groups) ∧
      options.stats = decide (.switch .stats ∈ groups) ∧ options.opcodes = false := by
  have hargs := Options.ofArgs_of_spelled hspelled (by rw [h.file]; rfl)
  rw [if_neg h.help] at hargs
  have hrank : (chosen.map Difficulty.name).map Difficulty.ofName? = chosen.map some := by
    cases chosen with
    | none => rfl
    | some d => exact congrArg some (Difficulty.ofName?_eq_some_iff.mpr rfl)
  rw [Options.foldl_give, h.file, h.rank, hrank] at hargs
  exact ⟨_, hargs, rfl, Option.or_none, Option.or_none, rfl, rfl, decide_eq_false h.opcodes⟩

namespace View

section Run

variable {data : Bytes} {script : Script} {chosen : Option Difficulty} {index : Int}
variable {files : String → Option Bytes} {file : String} {groups : List Group} {args : List String}

theorem exists_run_eq_outcome (hdata : files file = some data)
    (hspelled : Group.Spelled args groups) (hasks : Group.AskFor groups file chosen) :
    ∃ options, run args files = outcome options file (some data) ∧
      options.sub = (Group.last? .sub groups).map ofText? ∧ options.rank = chosen.map some ∧
      options.main = decide (.switch .main ∈ groups) ∧
      options.stats = decide (.switch .stats ∈ groups) := by
  obtain ⟨options, hargs, hfile, hsub, hrank, hmain, hstats, hopcodes⟩ :=
    hasks.exists_options hspelled
  have hrun : run args files = _ := run_eq_outcome hargs hopcodes hfile
  rw [hdata] at hrun
  exact ⟨options, hrun, hsub, hrank, hmain, hstats⟩

/-- The value that counts is read as the index that it denotes. -/
theorem map_last_sub (hspelled : Group.Spelled args groups) {value : String}
    (hlast : Group.last? .sub groups = some value) (hvalue : Denotes value.toList index) :
    (Group.last? .sub groups).map ofText? = some (some index) := by
  have hvalid := hspelled.isValid_last hlast
  have hlen := (Group.exists_denotes_of_isDecimal hvalid).2
  rw [hlast, Option.map_some, ofText?_of_denotes hvalue hlen]

variable (hscript : Script.decode data = .ok script) (hdata : files file = some data)
  (hspelled : Group.Spelled args groups) (hasks : Group.AskFor groups file chosen)

include hscript hdata hspelled hasks

theorem run_eq_schedules (hlast : Group.last? .sub groups = none)
    (hon : .switch .main ∈ groups) :
    run args files = .ok ⟨0, Listing.text (loaded file data.size script) ++
      Listing.text (Listing.mains script), ""⟩ := by
  obtain ⟨options, hrun, hsub, -, hmain, -⟩ := exists_run_eq_outcome hdata hspelled hasks
  rw [hlast] at hsub
  have hlines := lines_main hsub (hmain.trans (decide_eq_true hon)) script data.size
  rw [hrun, outcome_eq_success hscript hlines]

theorem run_eq_script {value : String} {index : Nat} {calls : List SubCall}
    (hlast : Group.last? .sub groups = some value) (hvalue : Denotes value.toList index)
    (hcalls : script.subs[index]? = some calls) :
    run args files = .ok ⟨0, Listing.text (loaded file data.size script) ++
      Listing.text (Listing.sub chosen index calls), ""⟩ := by
  obtain ⟨options, hrun, hsub, hrank, -, -⟩ := exists_run_eq_outcome hdata hspelled hasks
  rw [map_last_sub hspelled hlast hvalue] at hsub
  have hlines := (lines_sub hsub script data.size).trans (sub_eq_ok hrank hcalls)
  rw [hrun, outcome_eq_success hscript hlines]

theorem run_eq_outOfRange {value : String} (hlast : Group.last? .sub groups = some value)
    (hvalue : Denotes value.toList index) (houtside : index < 0 ∨ script.subs.length ≤ index) :
    run args files = .ok ⟨1, Listing.text (loaded file data.size script),
      Listing.text [outOfRange index script.subs.length]⟩ := by
  obtain ⟨options, hrun, hsub, -, -, -⟩ := exists_run_eq_outcome hdata hspelled hasks
  rw [map_last_sub hspelled hlast hvalue] at hsub
  have hlines := (lines_sub hsub script data.size).trans (sub_eq_error houtside)
  rw [hrun, outcome_eq_noScript hscript hlines]

theorem run_eq_all (hlast : Group.last? .sub groups = none) (hnoMain : .switch .main ∉ groups)
    (hnoStats : .switch .stats ∉ groups) :
    run args files = .ok ⟨0, Listing.text (loaded file data.size script) ++
      Listing.text (Listing.all chosen script), ""⟩ := by
  obtain ⟨options, hrun, hsub, hrank, hmain, hstats⟩ := exists_run_eq_outcome hdata hspelled hasks
  rw [hlast] at hsub
  have hlines := lines_all hsub (hmain.trans (decide_eq_false hnoMain))
    (hstats.trans (decide_eq_false hnoStats)) hrank script data.size
  rw [hrun, outcome_eq_success hscript hlines]

end Run

/-- A run prints what its groups ask for, put together from the start of every listing, the
schedules and the scripts as texts. The statistics are apart from it. -/
structure Composes (head schedules : String) (scripts : List String) (groups : List Group)
    (result : Except Setting Outcome) : Prop where
  main : Group.last? .sub groups = none → .switch .main ∈ groups →
    result = .ok ⟨0, head ++ schedules, ""⟩
  sub : ∀ {value : String} {index : Nat} {text : String}, Group.last? .sub groups = some value →
    Denotes value.toList index → scripts[index]? = some text →
      result = .ok ⟨0, head ++ text, ""⟩
  outside : ∀ {value : String} {index : Int}, Group.last? .sub groups = some value →
    Denotes value.toList index → index < 0 ∨ scripts.length ≤ index →
      result = .ok ⟨1, head, Listing.text [outOfRange index scripts.length]⟩
  all : Group.last? .sub groups = none → .switch .main ∉ groups → .switch .stats ∉ groups →
    result = .ok ⟨0, head ++ schedules ++ String.join (scripts.map ("\n" ++ ·)), ""⟩

/-- The views of a decoded file are pieces of one listing. A difficulty changes the texts of the
scripts only, and which pieces are printed does not depend on the rest of the command line. -/
theorem run_composes {data : Bytes} {script : Script} (h : Script.decode data = .ok script)
    (chosen : Option Difficulty) :
    (Listing.scriptTexts chosen script).length = script.subs.length ∧
      ∀ {files : String → Option Bytes} {file : String} {groups : List Group} {args : List String},
        files file = some data → Group.Spelled args groups → Group.AskFor groups file chosen →
          Composes (Listing.text (loaded file data.size script))
            (Listing.text (Listing.mains script)) (Listing.scriptTexts chosen script) groups
            (run args files) := by
  refine ⟨Listing.length_scriptTexts chosen script, ?_⟩
  intro files file groups args hdata hspelled hasks
  constructor
  · intro hlast hon
    exact run_eq_schedules h hdata hspelled hasks hlast hon
  · intro value index text hlast hvalue htext
    rw [Listing.getElem?_scriptTexts, Option.map_eq_some_iff] at htext
    obtain ⟨calls, hcalls, rfl⟩ := htext
    exact run_eq_script h hdata hspelled hasks hlast hvalue hcalls
  · intro value index hlast hvalue houtside
    rw [Listing.length_scriptTexts] at houtside ⊢
    exact run_eq_outOfRange h hdata hspelled hasks hlast hvalue houtside
  · intro hlast hnoMain hnoStats
    rw [run_eq_all h hdata hspelled hasks hlast hnoMain hnoStats, Listing.text_all,
      String.append_assoc]

/-- Four command lines for a file that has one script, called like an option. -/
theorem run_composes_halfNamedFile :
    let files := fun name => if name = "-f" then some Bytes.halfNamedFile else none
    let script : Script := ⟨[[RawSubCall.halfNamed.call]], [[]]⟩
    let head := Listing.text (loaded "-f" 80 script)
    let schedules := Listing.text (Listing.mains script)
    let text := Listing.text (Listing.sub (some .hard) 0 [RawSubCall.halfNamed.call])
    run ["--mai", "--stats", "--", "-f"] files = .ok ⟨0, head ++ schedules, ""⟩ ∧
      run ["--sub=+00", "--main", "--rank", "hard", "--", "-f"] files =
        .ok ⟨0, head ++ text, ""⟩ ∧
      run ["--rank=hard", "--", "-f"] files =
        .ok ⟨0, head ++ schedules ++ String.join ["\n" ++ text], ""⟩ ∧
      run ["--su", "-1", "--rank=hard", "--", "-f"] files =
        .ok ⟨1, head, Listing.text [outOfRange (-1) 1]⟩ := by
  intro files script head schedules text
  obtain ⟨-, hplain⟩ := run_composes Script.decode_halfNamedFile none
  obtain ⟨-, hhard⟩ := run_composes Script.decode_halfNamedFile (some .hard)
  have hfile : files "-f" = some Bytes.halfNamedFile := rfl
  have hsize : Bytes.halfNamedFile.size = 80 := by decide
  have hmain : Group.Spelled ["--mai", "--stats", "--", "-f"]
      [.switch .main, .switch .stats, .file "-f"] :=
    .cons (.switch (by decide)) rfl (.cons (.switch (by decide)) rfl (.separated "-f"))
  have hsub : Group.Spelled ["--sub=+00", "--main", "--rank", "hard", "--", "-f"]
      [.setting .sub "+00", .switch .main, .setting .rank "hard", .file "-f"] :=
    .cons (.joined "+00" (by decide : Flag.IsNamedBy (.setting .sub) "--sub")) rfl
      (.cons (.switch (by decide)) rfl (.cons (.separate "hard" (by decide)) rfl (.separated "-f")))
  have hall : Group.Spelled ["--rank=hard", "--", "-f"] [.setting .rank "hard", .file "-f"] :=
    .cons (.joined "hard" (by decide : Flag.IsNamedBy (.setting .rank) "--rank")) rfl
      (.separated "-f")
  have houtside : Group.Spelled ["--su", "-1", "--rank=hard", "--", "-f"]
      [.setting .sub "-1", .setting .rank "hard", .file "-f"] :=
    .cons (.separate "-1" (by decide)) rfl hall
  have hdigits : IsDigits ['0', '0'] := ⟨by simp, by simp⟩
  have hzero : Denotes "+00".toList (0 : Nat) := .plus hdigits
  have hminus : Denotes "-1".toList (-1) := by
    have hwritten : decimal (-1) = "-1" := by decide
    rw [← hwritten]
    exact denotes_decimal (-1)
  rw [hsize] at hplain hhard
  refine ⟨?_, ?_, ?_, ?_⟩
  · exact (hplain hfile hmain ⟨rfl, rfl, by decide, by decide⟩).main rfl (by decide)
  · exact (hhard hfile hsub ⟨rfl, rfl, by decide, by decide⟩).sub rfl hzero rfl
  · exact (hhard hfile hall ⟨rfl, rfl, by decide, by decide⟩).all rfl (by decide) (by decide)
  · exact (hhard hfile houtside ⟨rfl, rfl, by decide, by decide⟩).outside rfl
      hminus (.inl (by decide))

end View

end EnemyScript
