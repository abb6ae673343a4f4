import EnemyScript.Proofs.Entries

/-!
# The columns of a script

The line of a call pads its rank to a fixed width and puts the instruction right behind it. So the
columns can be told apart as long as the text of the rank is narrower than that width, which is
when the rank has at most three parts or stands for all flags (`SubCall.standsApart_line_iff`).
A rank with more parts fills its column and runs into the name of the instruction
(`View.run_crowds_rankedFile`).
-/

namespace EnemyScript

open Numeral

namespace Numeral

def blanks (count : Nat) : String := String.ofList (List.replicate count ' ')

theorem toList_blanks (count : Nat) : (blanks count).toList = List.replicate count ' ' :=
  String.toList_ofList

theorem alignRight_eq (width : Nat) (s : String) :
    alignRight width s = blanks (width - s.toList.length) ++ s := by
  rw [alignRight, List.leftpad, String.ofList_append, String.ofList_toList, blanks]

theorem alignLeft_eq (width : Nat) (s : String) :
    alignLeft width s = s ++ blanks (width - s.toList.length) := by
  rw [alignLeft, List.rightpad, String.ofList_append, String.ofList_toList, blanks]

theorem blanks_add (m n : Nat) : blanks (m + n) = blanks m ++ blanks n := by
  rw [blanks, ← List.replicate_append_replicate, String.ofList_append, blanks, blanks]

theorem Denotes.unindented {cs : List Char} {n : Int} (h : Denotes cs n) : Unindented cs := by
  cases h with
  | unsigned hd =>
      obtain ⟨c, rest, rfl⟩ := List.exists_cons_of_ne_nil hd.1
      exact ⟨c, rfl, ne_of_isDigit (hd.2 c List.mem_cons_self) rfl⟩
  | plus hd => exact ⟨'+', rfl, by decide⟩
  | minus hd => exact ⟨'-', rfl, by decide⟩

end Numeral

namespace SubCall

/-- Time, rank and instruction stand in a line in this order, the rank and the instruction each
behind at least one blank, and the parameter after them. -/
def StandsApart (c : SubCall) (line : String) : Prop :=
  ∃ margin gap gap' : Nat, 0 < gap ∧ 0 < gap' ∧
    line = blanks margin ++ decimal c.time ++ blanks gap ++ c.rank.text ++ blanks gap' ++
      c.instr.format ++ c.paramText

theorem line_eq (c : SubCall) :
    c.line = blanks (2 + (6 - (decimal c.time).toList.length)) ++ decimal c.time ++ blanks 2 ++
      c.rank.text ++ blanks (22 - c.rank.text.toList.length) ++ c.instr.format ++ c.paramText := by
  have htwo : blanks 2 = "  " := rfl
  rw [line, alignRight_eq, alignLeft_eq, blanks_add, htwo]
  simp only [String.append_assoc]

/-- The instruction is behind a blank exactly when the text of the rank leaves room in its
column. -/
theorem standsApart_line_iff_length (c : SubCall) :
    c.StandsApart c.line ↔ c.rank.text.toList.length < 22 := by
  rw [line_eq]
  constructor
  · rintro ⟨margin, gap, gap', hgap, hgap', hline⟩
    -- Time and rank do not start with a blank, so both lines have them at the same places.
    have htime := (denotes_decimal c.time).unindented
    have hrank := c.rank.unindented_text
    have hlist := congrArg String.toList hline
    simp only [String.append_assoc, String.toList_append, toList_blanks] at hlist
    have hafter := List.append_cancel_left
      (Unindented.eq_of_replicate_append (htime.append _) (htime.append _) hlist)
    have hbehind := List.append_cancel_left
      (Unindented.eq_of_replicate_append (hrank.append _) (hrank.append _) hafter)
    have hlength := congrArg List.length hbehind
    simp only [List.length_append, List.length_replicate] at hlength
    omega
  · intro hroom
    exact ⟨_, 2, _, by omega, by omega, rfl⟩

theorem standsApart_line_iff (c : SubCall) :
    c.StandsApart c.line ↔ c.rank.flags = 0xFF ∨ c.rank.parts.length ≤ 3 := by
  rw [standsApart_line_iff_length, Rank.length_text_lt_iff]

end SubCall

namespace View

variable {data : Bytes} {script : Script}

/-- Whichever part of a listing is printed, the columns of a call in it stand apart exactly when
its rank stands for all flags or has at most three parts. -/
theorem run_stands_apart (h : Script.decode data = .ok script) :
    ∀ {files : String → Option Bytes} {file : String} {chosen : Option Difficulty}
      {selection : Selection} {entries : List Entry} {groups : List Group} {args : List String},
      files file = some data → selection.entries? script = some entries →
      Group.Spelled args groups → Group.AskFor groups file chosen → selection.IsAskedBy groups →
        run args files = .ok ⟨0, Listing.text (loaded file data.size script) ++
          Listing.text ((entries.filter (·.isShown chosen)).map Entry.line), ""⟩ ∧
        ∀ c, Entry.subCall c ∈ entries.filter (·.isShown chosen) →
          (c.StandsApart (Entry.subCall c).line ↔
            c.rank.flags = 0xFF ∨ c.rank.parts.length ≤ 3) := by
  intro files file chosen selection entries groups args hdata hentries hspelled hasks hselects
  constructor
  · exact run_eq_selection h hdata hspelled hasks hselects hentries
  · intro c _
    exact c.standsApart_line_iff

/-- A script by itself, where one call has the names of four difficulties and one has one. -/
theorem run_stands_apart_rankedFile :
    let files := fun name => if name = "f" then some Bytes.rankedFile else none
    let calls := [RawSubCall.fourNamed.call, RawSubCall.easyOnly.call]
    run ["--sub=0", "f"] files = .ok ⟨0, Listing.text (loaded "f" 50 ⟨[calls], []⟩) ++
        Listing.text ((Listing.subEntries 0 calls).map Entry.line), ""⟩ ∧
      ¬ RawSubCall.fourNamed.call.StandsApart RawSubCall.fourNamed.call.line ∧
      RawSubCall.easyOnly.call.StandsApart RawSubCall.easyOnly.call.line := by
  intro files calls
  have hsize : Bytes.rankedFile.size = 50 := by decide
  have hfile : files "f" = some Bytes.rankedFile := rfl
  have hspelled : Group.Spelled ["--sub=0", "f"] [.setting .sub "0", .file "f"] :=
    .cons (.joined "0" (by decide : Flag.IsNamedBy (.setting .sub) "--sub")) rfl
      (.cons (.file "f") rfl .nil)
  have hasks : Group.AskFor [.setting .sub "0", .file "f"] "f" none :=
    ⟨rfl, rfl, by decide, by decide⟩
  have hzero : Denotes "0".toList (0 : Nat) := .unsigned ⟨by decide, by simp⟩
  have hscript : (Selection.script 0).entries? ⟨[calls], []⟩ =
      some (Listing.subEntries 0 calls) := rfl
  obtain ⟨hrun, hcolumns⟩ := run_stands_apart Script.decode_rankedFile hfile hscript hspelled hasks
    ⟨"0", rfl, hzero⟩
  rw [hsize] at hrun
  refine ⟨hrun, ?_, ?_⟩
  · intro hapart
    exact absurd ((hcolumns _ (by decide)).mp hapart) (by decide)
  · exact (hcolumns _ (by decide)).mpr (by decide)

/-- The rank of a call on all named difficulties runs into the name of its instruction. -/
theorem run_crowds_rankedFile :
    let files := fun name => if name = "f" then some Bytes.rankedFile else none
    let line := "       0  EASY|NORMAL|HARD|LUNATICNoop()"
    run ["f"] files = .ok ⟨0, "  Loaded f: 50 bytes, 1 subs, 0 mains\n\n" ++
        ("\nSub 0: 2 instructions\n" ++ line ++ "\n" ++
          "      60  EASY                  Noop() param=0x0007\n"), ""⟩ ∧
      RawSubCall.fourNamed.call.line = line ∧ ¬ RawSubCall.fourNamed.call.StandsApart line := by
  intro files line
  have hline : RawSubCall.fourNamed.call.line = line := by decide +kernel
  have hfile : files "f" = some Bytes.rankedFile := rfl
  have hspelled : Group.Spelled ["f"] [.file "f"] := .cons (.file "f") rfl .nil
  have hasks : Group.AskFor [.file "f"] "f" none := ⟨rfl, rfl, by decide, by decide⟩
  have hselects : Selection.everything.IsAskedBy [.file "f"] := ⟨rfl, by decide, by decide⟩
  have hrun := run_eq_selection Script.decode_rankedFile hfile hspelled hasks hselects rfl
  refine ⟨?_, hline, ?_⟩
  · rw [hrun]
    decide +kernel
  · rw [← hline, SubCall.standsApart_line_iff]
    decide

end View

end EnemyScript
