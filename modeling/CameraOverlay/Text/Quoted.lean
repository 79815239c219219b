import CameraOverlay.Text.Printable
/-!
# Quoted text

Text shown in double quotes, as messages show a text value. The quote and the backslash are
escaped with a backslash, and so are tab, line feed, carriage return and NUL (as `t`, `n`, `r`
and `0`). A character that is not printable, or that extends the character before it, is
written as its code point in lower-case hex between braces after `u`. Every other character
stands as it is.
-/

namespace CameraOverlay.Text

/-- A character written as its code point: a backslash, `u`, and the hex digits in braces. -/
def codeEscape (c : Char) : String :=
  "\\u" ++ "\x7b" ++ String.ofList (Nat.toDigits 16 c.toNat) ++ "\x7d"

/-- A character as it appears inside quoted text. -/
def quoteChar (c : Char) : String :=
  if c = '"' then "\\\""
  else if c = '\\' then "\\\\"
  else if c = '\n' then "\\n"
  else if c = '\r' then "\\r"
  else if c = '\t' then "\\t"
  else if c = '\x00' then "\\0"
  else if isGraphemeExtend c || !isPrintable c then codeEscape c
  else c.toString

/-- A text in double quotes, its characters escaped as `quoteChar` says. -/
def quoted (s : String) : String := "\"" ++ String.join (s.toList.map quoteChar) ++ "\""

end CameraOverlay.Text
