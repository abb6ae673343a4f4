import EnemyScript.Proofs.Decimals
import EnemyScript.Proofs.PrintableText
import EnemyScript.Proofs.Records
import Mathlib.Data.List.Nodup

/-!
# The text of an instruction

A text is written as a literal that reads back to it (`Value.format_text_reads_back`). Integers and
texts end where what comes behind them begins, whatever a text holds, and so do the names of fields
and instructions. So there is one way to read the text of an instruction, and since no two
signatures share a name and a number of fields, it says which instruction it is
(`Instr.format_identifies`). Doubles are another matter, as their texts are rounded.
-/

namespace EnemyScript

open Numeral Printable

/-- The text is `body` between two quotes, and a literal of `s`. -/
structure Quoted.IsLiteralOf (text : List Char) (quote : Char) (body s : List Char) : Prop where
  ends : text = quote :: body ++ [quote]
  quote_eq : quote = if '\'' ∈ s ∧ '"' ∉ s then '"' else '\''
  encloses : Encloses quote body
  printable : ∀ c ∈ text, isPrintable c
  reads : unescape body = some s
  decodes : decode text = some s

/-- Whatever a text holds, it is written as a literal of it, in printable characters and with no
quote among them but the escaped ones. -/
theorem Value.format_text_reads_back (s : String) :
    ∃ quote body, Quoted.IsLiteralOf (Value.text s).format.toList quote body s.toList := by
  have hquote := Quoted.quoteFor_eq s.toList
  have hread := Quoted.unescape_flatMap hquote s.toList
  refine ⟨Quoted.quoteFor s.toList, s.toList.flatMap (Quoted.encodeChar (Quoted.quoteFor s.toList)),
    ?_⟩
  constructor
  case ends => exact Quoted.toList_quoted s
  case quote_eq => rfl
  case encloses => exact Quoted.encloses_flatMap hquote s.toList
  case printable => exact isLine_quoted s
  case reads => exact hread
  case decodes =>
    change Quoted.decode (quoted s).toList = _
    rw [Quoted.toList_quoted, List.cons_append, Quoted.decode, List.getLast?_concat,
      if_pos ⟨hquote, rfl⟩, List.dropLast_concat, hread]

section Values

def Value.isDouble : Value → Bool
  | .double _ => true
  | _ => false

variable {rest rest' : List Char}

theorem decimal_append_ne_quoted_append (n : Int) (s : String) :
    (decimal n).toList ++ rest ≠ (quoted s).toList ++ rest' := by
  intro h
  have hhead : Quoted.quoteFor s.toList ∈ ((decimal n).toList ++ rest).head? := by
    rw [h, Quoted.toList_quoted]
    rfl
  have hminus : ∀ c ∈ ((decimal n).toList ++ rest).head?, c = '-' ∨ c.isDigit := by
    rw [toList_decimal, List.append_assoc]
    cases hsign : (sign n).toList with
    | nil => exact fun c hc => .inr (head?_toDigits_append c hc)
    | cons d _ =>
        rintro c ⟨⟩
        exact .inl (eq_of_mem_sign (hsign ▸ List.mem_cons_self))
  have hquote := hminus _ hhead
  rcases Quoted.quoteFor_eq s.toList with heq | heq
  · rw [heq] at hquote
    exact absurd hquote (by decide)
  · rw [heq] at hquote
    exact absurd hquote (by decide)

/-- Integers and texts can be told from what comes behind them, as long as this does not go on with
a digit. -/
theorem Value.format_append_inj {v w : Value} (hv : ¬ v.isDouble) (hw : ¬ w.isDouble)
    (hrest : ∀ c ∈ rest.head?, ¬ c.isDigit) (hrest' : ∀ c ∈ rest'.head?, ¬ c.isDigit)
    (h : v.format.toList ++ rest = w.format.toList ++ rest') : v = w ∧ rest = rest' := by
  cases v with
  | double => exact absurd rfl hv
  | int m =>
      cases w with
      | double => exact absurd rfl hw
      | int n => exact (decimal_append_inj hrest hrest' h).imp_left (congrArg Value.int)
      | text t => exact absurd h (decimal_append_ne_quoted_append m t)
  | text s =>
      cases w with
      | double => exact absurd rfl hw
      | int n => exact absurd h.symm (decimal_append_ne_quoted_append n s)
      | text t => exact (Quoted.quoted_append_inj h).imp_left (congrArg Value.text)

end Values

namespace Signature

/-- A sign of ASCII that is no byte of a text is not in it. -/
theorem notMem_of_bytes {s : String} {c : Char} (hascii : c.val.toNat ≤ 0x7F)
    (h : UInt8.ofNat c.val.toNat ∉ s.toByteArray.data.toList) : c ∉ s.toList := by
  intro hmem
  apply h
  rw [← String.utf8Encode_toList, List.utf8Encode, List.data_toByteArray]
  refine List.mem_flatMap.mpr ⟨c, hmem, ?_⟩
  unfold String.utf8EncodeChar
  dsimp only
  rw [if_pos hascii]
  exact List.mem_singleton_self _

/-- No name in the tables has a sign that ends it. -/
theorem plain_names {dialect : Dialect} {s : Signature} (h : s ∈ dialect.signatures) :
    '(' ∉ s.name.toList ∧ ∀ f ∈ s.fields, '=' ∉ f.name.toList ∧ ')' ∉ f.name.toList := by
  have hbytes : ∀ s ∈ dialect.signatures, ∀ name ∈ s.name :: s.fields.map Field.name,
      name.toByteArray.data.toList.all fun b => b ∉ [0x28, 0x29, 0x3D] := by
    cases dialect <;> decide +kernel
  have hplain {name : String} (hname : name ∈ s.name :: s.fields.map Field.name) {b : UInt8}
      (hb : b ∈ [0x28, 0x29, 0x3D]) : b ∉ name.toByteArray.data.toList := by
    intro hmem
    exact of_decide_eq_true (List.all_eq_true.mp (hbytes s h name hname) b hmem) hb
  refine ⟨notMem_of_bytes (by decide) (hplain List.mem_cons_self (by decide)), ?_⟩
  intro f hf
  have hname : f.name ∈ s.name :: s.fields.map Field.name :=
    List.mem_cons_of_mem _ (List.mem_map_of_mem hf)
  exact ⟨notMem_of_bytes (by decide) (hplain hname (by decide)),
    notMem_of_bytes (by decide) (hplain hname (by decide))⟩

/-- A number made of the name and the number of fields, which is compared faster than they are. -/
def fingerprint (s : Signature) : Nat :=
  s.name.toByteArray.data.toList.foldl (fun n b => 256 * n + b.toNat) s.fields.length

/-- The name and the number of fields tell all signatures apart, those of the other dialect
included. -/
theorem eq_of_name_eq {dialect dialect' : Dialect} {s t : Signature} (hs : s ∈ dialect.signatures)
    (ht : t ∈ dialect'.signatures) (hname : s.name = t.name)
    (hfields : s.fields.length = t.fields.length) : s = t := by
  have hnodup : ((Dialect.sub.signatures ++ Dialect.main.signatures).map fingerprint).Nodup := by
    decide +kernel
  have hmem {d : Dialect} {u : Signature} (hu : u ∈ d.signatures) :
      u ∈ Dialect.sub.signatures ++ Dialect.main.signatures := by
    cases d with
    | sub => exact List.mem_append_left _ hu
    | main => exact List.mem_append_right _ hu
  apply List.inj_on_of_nodup_map hnodup (hmem hs) (hmem ht)
  rw [fingerprint, fingerprint, hname, hfields]

end Signature

namespace Instr

section Arguments

variable {args args' : List (String × Value)} {rest rest' : List Char}

/-- An argument under its name. -/
def argumentText (arg : String × Value) : List Char := arg.1.toList ++ '=' :: arg.2.format.toList

/-- What is written after an argument for those that follow it. -/
def followingText (args : List (String × Value)) : List Char :=
  args.flatMap (fun arg => ',' :: ' ' :: argumentText arg) ++ [')']

def argumentsText : List (String × Value) → List Char
  | [] => [')']
  | arg :: args => argumentText arg ++ followingText args

/-- The name has no sign that ends it, and the value is written in full. -/
def IsPlainArgument (arg : String × Value) : Prop :=
  '=' ∉ arg.1.toList ∧ ')' ∉ arg.1.toList ∧ ¬ arg.2.isDouble

theorem head?_followingText (args : List (String × Value)) (rest : List Char) :
    ∀ c ∈ (followingText args ++ rest).head?, ¬ c.isDigit := by
  cases args with
  | nil =>
      rintro c ⟨⟩
      decide
  | cons arg args =>
      rintro c ⟨⟩
      decide

theorem followingText_cons (arg : String × Value) (args : List (String × Value)) :
    followingText (arg :: args) = ',' :: ' ' :: argumentText arg ++ followingText args := by
  rw [followingText, List.flatMap_cons, List.append_assoc, ← followingText]

theorem name_append_inj {c : Char} {xs ys : List Char} (hx : c ∉ xs) (hy : c ∉ ys)
    (h : xs ++ c :: rest = ys ++ c :: rest') : xs = ys ∧ rest = rest' := by
  have hne {zs : List Char} (hz : c ∉ zs) : ∀ d ∈ zs, decide (d ≠ c) = true :=
    fun d hd => decide_eq_true fun heq => hz (heq ▸ hd)
  have hstop {tail : List Char} : ∀ d ∈ (c :: tail).head?, ¬ decide (d ≠ c) = true := by
    rintro d ⟨⟩
    simp
  exact (append_inj_of_runs (hne hx) (hne hy) hstop hstop h).imp_right fun htail =>
    (List.cons.inj htail).2

theorem followingText_append_inj (hargs : ∀ arg ∈ args, IsPlainArgument arg)
    (hargs' : ∀ arg ∈ args', IsPlainArgument arg)
    (h : followingText args ++ rest = followingText args' ++ rest') :
    args = args' ∧ rest = rest' := by
  induction args generalizing args' with
  | nil =>
      cases args' with
      | nil => exact ⟨rfl, (List.cons.inj h).2⟩
      | cons => exact absurd (List.cons.inj h).1 (by decide)
  | cons arg args ih =>
      cases args' with
      | nil => exact absurd (List.cons.inj h).1 (by decide)
      | cons arg' args' =>
          obtain ⟨hplain, hrest⟩ := List.forall_mem_cons.mp hargs
          obtain ⟨hplain', hrest'⟩ := List.forall_mem_cons.mp hargs'
          simp only [followingText_cons, argumentText, List.cons_append, List.append_assoc,
            List.cons.injEq, true_and] at h
          obtain ⟨hname, hvalue⟩ := name_append_inj hplain.1 hplain'.1 h
          obtain ⟨hsame, htail⟩ := Value.format_append_inj hplain.2.2 hplain'.2.2
            (head?_followingText args rest) (head?_followingText args' rest') hvalue
          obtain ⟨rfl, heq⟩ := ih hrest hrest' htail
          exact ⟨by rw [Prod.ext (String.toList_inj.mp hname) hsame], heq⟩

/-- A list of arguments can be told from what comes behind its parenthesis. -/
theorem argumentsText_append_inj (hargs : ∀ arg ∈ args, IsPlainArgument arg)
    (hargs' : ∀ arg ∈ args', IsPlainArgument arg)
    (h : argumentsText args ++ rest = argumentsText args' ++ rest') :
    args = args' ∧ rest = rest' := by
  have hopen {arg : String × Value} {tail tail' : List Char} (harg : IsPlainArgument arg) :
      ')' :: tail ≠ argumentText arg ++ tail' := by
    intro heq
    rw [argumentText] at heq
    cases hname : arg.1.toList with
    | nil =>
        rw [hname] at heq
        cases heq
    | cons c cs =>
        rw [hname] at heq
        have hmem := harg.2.1
        rw [hname, (List.cons.inj heq).1] at hmem
        exact hmem List.mem_cons_self
  cases args with
  | nil =>
      cases args' with
      | nil => exact ⟨rfl, (List.cons.inj h).2⟩
      | cons arg' args' =>
          rw [argumentsText, argumentsText, List.append_assoc] at h
          exact absurd h (hopen (hargs' arg' List.mem_cons_self))
  | cons arg args =>
      cases args' with
      | nil =>
          rw [argumentsText, argumentsText, List.append_assoc] at h
          exact absurd h.symm (hopen (hargs arg List.mem_cons_self))
      | cons arg' args' =>
          apply followingText_append_inj hargs hargs'
          rw [followingText_cons, followingText_cons]
          exact congrArg (',' :: ' ' :: ·) h

end Arguments

theorem toList_intercalate_arguments (args : List (String × Value)) :
    (", ".intercalate (args.map fun arg => arg.1 ++ "=" ++ arg.2.format)).toList ++ [')'] =
      argumentsText args := by
  have htext (arg : String × Value) :
      (arg.1 ++ "=" ++ arg.2.format).toList = argumentText arg := by
    rw [String.toList_append, String.toList_append, List.append_assoc]
    rfl
  rw [String.toList_intercalate]
  cases args with
  | nil => rfl
  | cons arg args =>
      simp only [List.map_cons, List.map_map, Function.comp_def, htext, intercalate_cons,
        List.flatMap_map, List.append_assoc]
      rfl

theorem toList_format (i : Instr) :
    i.format.toList = i.signature.name.toList ++ '(' :: argumentsText i.namedArgs := by
  rw [format, String.toList_append, String.toList_append, String.toList_append, List.append_assoc,
    List.append_assoc]
  exact congrArg (i.signature.name.toList ++ '(' :: ·) (toList_intercalate_arguments i.namedArgs)

theorem isPlainArgument_of_mem {dialect : Dialect} {i : Instr}
    (h : i.signature ∈ dialect.signatures) (hargs : ∀ v ∈ i.args, ¬ v.isDouble) :
    ∀ arg ∈ i.namedArgs, IsPlainArgument arg := by
  intro arg hmem
  obtain ⟨hname, hvalue⟩ := List.of_mem_zip hmem
  obtain ⟨f, hf, heq⟩ := List.mem_map.mp hname
  obtain ⟨hequals, hclose⟩ := (Signature.plain_names h).2 f hf
  rw [heq] at hequals hclose
  exact ⟨hequals, hclose, hargs arg.2 hvalue⟩

theorem map_snd_namedArgs (i : Instr) : i.namedArgs.map Prod.snd = i.args := by
  apply List.map_snd_zip
  rw [List.length_map, i.length_args]

variable {dialect dialect' : Dialect} {i j : Instr}

theorem eq_of_signature_eq (hsignature : i.signature = j.signature) (hargs : i.args = j.args) :
    i = j := by
  obtain ⟨s, args, hlen⟩ := i
  obtain ⟨t, args', hlen'⟩ := j
  obtain rfl : s = t := hsignature
  obtain rfl : args = args' := hargs
  rfl

/-- The text of an instruction can be told from what comes behind it. -/
theorem format_append_inj (hi : i.signature ∈ dialect.signatures)
    (hj : j.signature ∈ dialect'.signatures) (hargs : ∀ v ∈ i.args, ¬ v.isDouble)
    (hargs' : ∀ v ∈ j.args, ¬ v.isDouble) {rest rest' : String}
    (h : i.format ++ rest = j.format ++ rest') : i = j ∧ rest = rest' := by
  have htext := congrArg String.toList h
  simp only [String.toList_append, toList_format, List.append_assoc, List.cons_append] at htext
  obtain ⟨hname, hlist⟩ := name_append_inj (Signature.plain_names hi).1
    (Signature.plain_names hj).1 htext
  obtain ⟨hnamed, hrest⟩ := argumentsText_append_inj (isPlainArgument_of_mem hi hargs)
    (isPlainArgument_of_mem hj hargs') hlist
  have hvalues : i.args = j.args := by
    rw [← i.map_snd_namedArgs, hnamed, j.map_snd_namedArgs]
  have hfields : i.signature.fields.length = j.signature.fields.length := by
    rw [← i.length_args, hvalues, j.length_args]
  have hsignature := Signature.eq_of_name_eq hi hj (String.toList_inj.mp hname) hfields
  exact ⟨eq_of_signature_eq hsignature hvalues, String.toList_inj.mp hrest⟩

/-- The texts of two instructions of the tables whose arguments are integers and texts are equal
exactly when dialect, opcode and arguments are, and neither text is the start of a longer one. -/
theorem format_identifies (hi : i.signature ∈ dialect.signatures)
    (hj : j.signature ∈ dialect'.signatures) (hargs : ∀ v ∈ i.args, ¬ v.isDouble)
    (hargs' : ∀ v ∈ j.args, ¬ v.isDouble) :
    (i.format = j.format ↔ i.signature.dialect = j.signature.dialect ∧
      i.signature.opcode = j.signature.opcode ∧ i.args = j.args) ∧
    ∀ {rest rest' : String}, i.format ++ rest = j.format ++ rest' → i = j ∧ rest = rest' := by
  refine ⟨?_, format_append_inj hi hj hargs hargs'⟩
  constructor
  · intro h
    have hsame : i = j := (format_append_inj hi hj hargs hargs' (congrArg (· ++ "") h)).1
    subst hsame
    exact ⟨rfl, rfl, rfl⟩
  · rintro ⟨hdialect, hopcode, hvalues⟩
    rw [Dialect.dialect_of_mem_signatures hi, Dialect.dialect_of_mem_signatures hj] at hdialect
    subst hdialect
    rw [eq_of_signature_eq (Signature.eq_of_opcode_eq hi hj hopcode) hvalues]

/-- A text that goes on like the field behind it, and one like the field before it. -/
theorem format_identifies_imitated :
    let s : Signature := ⟨.sub, 93, "SetSpellcard", [.i16 "face", .i16 "number", .str "name"]⟩
    let i : Instr := ⟨s, [.int 1, .text "2', name='3", .text "4"], rfl⟩
    let j : Instr := ⟨s, [.int 1, .text "2", .text "3', name='4"], rfl⟩
    i.signature ∈ Dialect.sub.signatures ∧ (∀ v ∈ i.args, ¬ v.isDouble) ∧
      (∀ v ∈ j.args, ¬ v.isDouble) ∧ i.format ≠ j.format := by
  intro s i j
  have hs : s ∈ Dialect.sub.signatures := by decide +kernel
  have hi : ∀ v ∈ i.args, ¬ v.isDouble := by decide
  have hj : ∀ v ∈ j.args, ¬ v.isDouble := by decide
  have hiff := (format_identifies (i := i) (j := j) hs hs hi hj).1
  exact ⟨hs, hi, hj, fun heq => absurd (hiff.mp heq).2.2 (by decide)⟩

end Instr

end EnemyScript
