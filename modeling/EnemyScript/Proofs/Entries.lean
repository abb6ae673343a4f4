import EnemyScript.Proofs.RankText
import EnemyScript.Proofs.RoundTrip
import EnemyScript.Proofs.Views

/-!
# The entries of a listing

A listing is a list of entries, one for each of its lines: the heads of schedules and scripts, the
calls under them and the empty lines between scripts. A command line selects all of them or those
of one part (`View.run_eq_selection`). A difficulty leaves out entries and changes none, and which
it leaves out can be told from the rank column alone (`View.run_leaves_out`).
-/

namespace EnemyScript

open Numeral

inductive Entry where
  | mainHead (index count : Nat)
  | mainCall (c : MainCall)
  | blank
  | subHead (index count : Nat)
  | subCall (c : SubCall)
  deriving DecidableEq, Repr

namespace Entry

def line : Entry → String
  | .mainHead index count => "Main " ++ decimal index ++ ": " ++ decimal count ++ " calls"
  | .mainCall c => c.line
  | .blank => ""
  | .subHead index count => "Sub " ++ decimal index ++ ": " ++ decimal count ++ " instructions"
  | .subCall c => c.line

/-- A difficulty leaves out the calls of scripts whose rank field lacks its bit, and nothing else. -/
def remains (d : Difficulty) : Entry → Bool
  | .subCall c => c.rank.bits &&& (Rank.ofDifficulty d).bits ≠ 0
  | _ => true

def isShown (chosen : Option Difficulty) (e : Entry) : Bool := chosen.all fun d => e.remains d

theorem isShown_subCall (chosen : Option Difficulty) (c : SubCall) :
    (Entry.subCall c).isShown chosen = c.isShown chosen := by
  cases chosen with
  | none => rfl
  | some d =>
      have hland : (Entry.subCall c).remains d = c.rank.includes d := by
        rw [Bool.eq_iff_iff, Rank.includes_iff_land, remains, decide_eq_true_eq]
      exact hland

theorem isShown_none (e : Entry) : e.isShown none = true := rfl

end Entry

namespace Listing

def mainEntries (index : Nat) (calls : List MainCall) : List Entry :=
  .mainHead index calls.length :: calls.map .mainCall

def subEntries (index : Nat) (calls : List SubCall) : List Entry :=
  .subHead index calls.length :: calls.map .subCall

def scheduleEntries (script : Script) : List Entry :=
  script.mains.zipIdx.flatMap fun (calls, index) => mainEntries index calls

def entries (script : Script) : List Entry :=
  scheduleEntries script ++
    script.subs.zipIdx.flatMap fun (calls, index) => .blank :: subEntries index calls

/-- The lines of the entries that a difficulty leaves. -/
def shownLines (chosen : Option Difficulty) (es : List Entry) : List String :=
  (es.filter (·.isShown chosen)).map Entry.line

variable (chosen : Option Difficulty)

theorem shownLines_append (es fs : List Entry) :
    shownLines chosen (es ++ fs) = shownLines chosen es ++ shownLines chosen fs := by
  rw [shownLines, List.filter_append, List.map_append, shownLines, shownLines]

theorem shownLines_flatMap {α : Type} (f : α → List Entry) (xs : List α) :
    shownLines chosen (xs.flatMap f) = xs.flatMap fun x => shownLines chosen (f x) := by
  induction xs with
  | nil => rfl
  | cons x xs ih => rw [List.flatMap_cons, shownLines_append, ih, List.flatMap_cons]

theorem shownLines_mainEntries (index : Nat) (calls : List MainCall) :
    shownLines chosen (mainEntries index calls) = main index calls := by
  have hall : ∀ e ∈ mainEntries index calls, e.isShown chosen := by
    intro e he
    cases chosen with
    | none => rfl
    | some d =>
        rcases List.mem_cons.mp he with rfl | hcall
        · rfl
        · obtain ⟨c, -, rfl⟩ := List.mem_map.mp hcall
          rfl
  rw [shownLines, List.filter_eq_self.mpr hall, mainEntries, List.map_cons, List.map_map]
  rfl

theorem shownLines_subEntries (index : Nat) (calls : List SubCall) :
    shownLines chosen (subEntries index calls) = sub chosen index calls := by
  have hhead : (Entry.subHead index calls.length).isShown chosen := by cases chosen <;> rfl
  have hcalls : (calls.map Entry.subCall).filter (·.isShown chosen) =
      (calls.filter (·.isShown chosen)).map Entry.subCall := by
    rw [List.filter_map]
    congr 1
    apply List.filter_congr
    intro c _
    exact Entry.isShown_subCall chosen c
  rw [shownLines, subEntries, List.filter_cons_of_pos hhead, hcalls, List.map_cons, List.map_map]
  rfl

theorem shownLines_scheduleEntries (script : Script) :
    shownLines chosen (scheduleEntries script) = mains script := by
  rw [scheduleEntries, shownLines_flatMap, mains]
  simp only [shownLines_mainEntries]

theorem shownLines_entries (script : Script) :
    shownLines chosen (entries script) = all chosen script := by
  rw [entries, shownLines_append, shownLines_scheduleEntries, shownLines_flatMap, all, subs]
  congr 2
  funext part
  obtain ⟨calls, index⟩ := part
  have hblank : Entry.blank.isShown chosen := by cases chosen <;> rfl
  change shownLines chosen (.blank :: subEntries index calls) = "" :: sub chosen index calls
  rw [← shownLines_subEntries, shownLines, List.filter_cons_of_pos hblank, List.map_cons]
  rfl

end Listing

/-- The part of a listing that a command line selects. -/
inductive Selection where
  | everything
  | schedules
  | script (index : Nat)
  deriving DecidableEq, Repr

namespace Selection

/-- The entries selected from a file, if it has the script that is asked for. -/
def entries? (script : Script) : Selection → Option (List Entry)
  | .everything => some (Listing.entries script)
  | .schedules => some (Listing.scheduleEntries script)
  | .script index => script.subs[index]?.map (Listing.subEntries index)

/-- Groups that select this part. An index goes before everything else. -/
def IsAskedBy (groups : List Group) : Selection → Prop
  | .everything => Group.last? .sub groups = none ∧
      .switch .main ∉ groups ∧ .switch .stats ∉ groups
  | .schedules => Group.last? .sub groups = none ∧ .switch .main ∈ groups
  | .script index => ∃ value, Group.last? .sub groups = some value ∧
      Denotes value.toList index

end Selection

namespace View

variable {data : Bytes} {script : Script} {files : String → Option Bytes} {file : String}

/-- A run prints the entries that its groups select, without those that a difficulty leaves out. -/
theorem run_eq_selection {chosen : Option Difficulty} {groups : List Group} {args : List String}
    {selection : Selection} {entries : List Entry} (hscript : Script.decode data = .ok script)
    (hdata : files file = some data) (hspelled : Group.Spelled args groups)
    (hasks : Group.AskFor groups file chosen) (hselects : selection.IsAskedBy groups)
    (hentries : selection.entries? script = some entries) :
    run args files = .ok ⟨0, Listing.text (loaded file data.size script) ++
      Listing.text (Listing.shownLines chosen entries), ""⟩ := by
  cases selection with
  | everything =>
      obtain ⟨hlast, hmain, hstats⟩ := hselects
      obtain rfl := Option.some.inj hentries
      rw [Listing.shownLines_entries]
      exact run_eq_all hscript hdata hspelled hasks hlast hmain hstats
  | schedules =>
      obtain ⟨hlast, hmain⟩ := hselects
      obtain rfl := Option.some.inj hentries
      rw [Listing.shownLines_scheduleEntries]
      exact run_eq_schedules hscript hdata hspelled hasks hlast hmain
  | script index =>
      obtain ⟨value, hlast, hvalue⟩ := hselects
      obtain ⟨calls, hcalls, rfl⟩ := Option.map_eq_some_iff.mp hentries
      rw [Listing.shownLines_subEntries]
      exact run_eq_script hscript hdata hspelled hasks hlast hvalue hcalls

end View

/-- A file with one script and no schedule. -/
def Bytes.ofCalls (raws : List RawSubCall) : Bytes :=
  ([1, 0, 0, 0, 0, 0, 0, 0, 0, 0, 0, 0, 0, 0, 0, 0, 20, 0, 0, 0] ++
    RawSubCall.encoding.streamBytes raws).toArray

theorem Script.decode_ofCalls {raws : List RawSubCall} (h : ∀ raw ∈ raws, raw.fits) :
    decode (Bytes.ofCalls raws) = .ok ⟨[raws.map RawSubCall.call], []⟩ := by
  have hheld := Bytes.holds_toList (Bytes.ofCalls raws)
  rw [Bytes.ofCalls, Bytes.holds_append_iff] at hheld
  obtain ⟨hhead, hcalls⟩ := hheld
  have hheader : Header.read (Bytes.ofCalls raws) = .ok ⟨[0, 0, 0], [20]⟩ :=
    Header.read_of_holds rfl (by decide) (by decide) (by decide) hhead
  have hsub : SubCall.format.stream (Bytes.ofCalls raws) (20 : Nat) =
      .ok (raws.map RawSubCall.call) :=
    RawSubCall.encoding.stream_of_holds h hcalls
  exact decode_of_oneScript hheader hsub

/-- A call on the four named difficulties without all flags. -/
def RawSubCall.fourNamed : RawSubCall := ⟨0, ⟨0x0F⟩, 0, ⟨⟨.sub, 0, "Noop", []⟩, [], rfl⟩⟩

def RawSubCall.easyOnly : RawSubCall := ⟨60, ⟨0x01⟩, 7, ⟨⟨.sub, 0, "Noop", []⟩, [], rfl⟩⟩

def Bytes.rankedFile : Bytes := .ofCalls [.fourNamed, .easyOnly]

theorem Script.decode_rankedFile :
    decode Bytes.rankedFile = .ok ⟨[[RawSubCall.fourNamed.call, RawSubCall.easyOnly.call]], []⟩ :=
  decode_ofCalls (by decide +kernel)

namespace View

end View

end EnemyScript
