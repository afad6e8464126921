import TestConductor.Text.Unicode
/-! # Quoted text for diagnostics

Diagnostic messages show a string in double quotes, with a backslash before a quote or a
backslash, the short escapes `\0`, `\t`, `\r` and `\n`, and `\u{h}` (lowercase hex, no leading
zeros) for every other character that does not show as itself: the characters that are not
printable, and those that extend a grapheme, which would join the character before them.
-/
namespace TestConductor

namespace Text

def hex (n : Nat) : String :=
  String.ofList (Nat.toDigits 16 n)

def escapeChar (c : Char) : String :=
  if c = '"' then "\\\""
  else if c = '\\' then "\\\\"
  else if c = '\n' then "\\n"
  else if c = '\r' then "\\r"
  else if c = '\t' then "\\t"
  else if c.toNat = 0 then "\\0"
  else if isGraphemeExtend c || !isPrintable c then "\\u\x7b" ++ hex c.toNat ++ "\x7d"
  else String.singleton c

def quoted (s : String) : String :=
  "\"" ++ String.join (s.toList.map escapeChar) ++ "\""

end Text

end TestConductor
