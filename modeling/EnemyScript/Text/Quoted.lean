import EnemyScript.Text.Printable

/-!
# Quoted text

A text between quotes, as a literal that reads back to it. The quote is the double one exactly
when the text holds single quotes and no double quote. A backslash and the quote in use stand
behind a backslash, line feed, carriage return and tab have letters, and every other character
that is not printable is written by its code point. `decode` undoes the escapes.
-/

namespace EnemyScript

namespace Quoted

def quoteFor (s : List Char) : Char := if '\'' ∈ s ∧ '"' ∉ s then '"' else '\''

/-- The last `width` hexadecimal digits of a number, in lower case. -/
def hexDigits : Nat → Nat → List Char
  | 0, _ => []
  | width + 1, n => hexDigits width (n / 16) ++ [Nat.digitChar (n % 16)]

/-- A character by its code point, in two, four or eight digits. -/
def codeEscape (c : Char) : List Char :=
  if c.toNat < 0x100 then '\\' :: 'x' :: hexDigits 2 c.toNat
  else if c.toNat < 0x10000 then '\\' :: 'u' :: hexDigits 4 c.toNat
  else '\\' :: 'U' :: hexDigits 8 c.toNat

def encodeChar (quote c : Char) : List Char :=
  if c = quote ∨ c = '\\' then ['\\', c]
  else if c = '\n' then ['\\', 'n']
  else if c = '\r' then ['\\', 'r']
  else if c = '\t' then ['\\', 't']
  else if Printable.isPrintable c then [c]
  else codeEscape c

def encode (s : List Char) : List Char :=
  let quote := quoteFor s
  quote :: s.flatMap (encodeChar quote) ++ [quote]

def hexValue? (c : Char) : Option Nat :=
  if '0' ≤ c ∧ c ≤ '9' then some (c.toNat - '0'.toNat)
  else if 'a' ≤ c ∧ c ≤ 'f' then some (c.toNat - 'a'.toNat + 10)
  else none

/-- The character of a code point in exactly `width` digits. -/
def codeChar? (width : Nat) (digits : List Char) : Option Char := do
  guard (digits.length = width)
  let values ← digits.mapM hexValue?
  return Char.ofNat (values.foldl (fun n d => 16 * n + d) 0)

/-- Undoes the escapes of a text, from left to right. -/
def unescape : List Char → Option (List Char)
  | [] => some []
  | '\\' :: 'n' :: rest => ('\n' :: ·) <$> unescape rest
  | '\\' :: 'r' :: rest => ('\r' :: ·) <$> unescape rest
  | '\\' :: 't' :: rest => ('\t' :: ·) <$> unescape rest
  | '\\' :: 'x' :: rest => do return (← codeChar? 2 (rest.take 2)) :: (← unescape (rest.drop 2))
  | '\\' :: 'u' :: rest => do return (← codeChar? 4 (rest.take 4)) :: (← unescape (rest.drop 4))
  | '\\' :: 'U' :: rest => do return (← codeChar? 8 (rest.take 8)) :: (← unescape (rest.drop 8))
  | '\\' :: c :: rest =>
      if c = '\\' ∨ c = '\'' ∨ c = '"' then (c :: ·) <$> unescape rest else none
  | c :: rest => if c = '\\' then none else (c :: ·) <$> unescape rest
termination_by s => s.length

/-- The text of a literal: what stands between two equal quotes. -/
def decode : List Char → Option (List Char)
  | [] => none
  | quote :: rest =>
      if (quote = '\'' ∨ quote = '"') ∧ rest.getLast? = some quote then unescape rest.dropLast
      else none

end Quoted

def quoted (s : String) : String := String.ofList (Quoted.encode s.toList)

example : quoted "it's" = "\"it's\"" ∧ quoted "it's \"" = "'it\\'s \"'" ∧
    quoted "\\\n\x7f\u3000" = "'\\\\\\n\\x7f\\u3000'" := by decide +kernel

example : Quoted.decode (quoted "it's \"\\\n\x7f\u3000😀").toList =
    some "it's \"\\\n\x7f\u3000😀".toList := by decide +kernel

end EnemyScript
