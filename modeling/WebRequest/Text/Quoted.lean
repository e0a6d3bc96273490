-- Texts in double quotes, the way diagnostics show them. A quote or a backslash
-- inside has a backslash before it, the common controls have their letter, and
-- a character that cannot be seen stands as its number in braces.
import WebRequest.Text.Invisible

namespace WebRequest.Text

/-- The number of a character in small hexadecimal digits. -/
def hexNumber (c : Char) : List Char := Nat.toDigits 16 c.toNat

/-- What stands for one character between the quotes. -/
def quoteChar (c : Char) : List Char :=
  if c = '"' ∨ c = '\\' then ['\\', c]
  else if c = '\n' then ['\\', 'n']
  else if c = '\r' then ['\\', 'r']
  else if c = '\t' then ['\\', 't']
  else if c.toNat = 0 then ['\\', '0']
  else if ' ' ≤ c ∧ c ≤ '~' then [c]
  else if isInvisible c then "\\u\x7b".toList ++ hexNumber c ++ "\x7d".toList
  else [c]

def quoted (s : String) : String :=
  String.ofList (['"'] ++ s.toList.flatMap quoteChar ++ ['"'])

example : quoted "say \"hi\"" = "\"say \\\"hi\\\"\"" := by cbv

/-- Texts behind one another, parted by a comma and a space. -/
def commaList (xs : List String) : String := ", ".intercalate xs

/-- Names in backquotes, as the choice that they leave. -/
def alternatives (names : List String) : String :=
  let quote (name : String) := "`" ++ name ++ "`"
  match names with
  | [a, b] => quote a ++ " or " ++ quote b
  | [a] => quote a
  | _ => "one of " ++ commaList (names.map quote)

end WebRequest.Text
