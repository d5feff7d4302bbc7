/-!
# Quoted text

How the characters of a string are written between double quotes.

## Main definitions

* `Text.escape` — the written form of a row of characters
* `Text.quote` — a string in double quotes, as values print
-/

namespace Lisp.Text

/-- The written form of one character: the quote, the backslash and the six control characters with
a letter of their own stand behind a backslash. -/
def escapeChar (c : Char) : List Char :=
  if c = '\n' then ['\\', 'n']
  else if c = '\t' then ['\\', 't']
  else if c = '\r' then ['\\', 'r']
  else if c = '\x0b' then ['\\', 'v']
  else if c = '\x08' then ['\\', 'b']
  else if c = '\x0c' then ['\\', 'f']
  else if c = '\\' then ['\\', '\\']
  else if c = '"' then ['\\', '"']
  else [c]

/-- The written form of a row of characters. -/
def escape (cs : List Char) : List Char :=
  cs.flatMap escapeChar

/-- A string in double quotes, as values print. -/
def quote (s : String) : String :=
  "\"" ++ String.ofList (escape s.toList) ++ "\""

end Lisp.Text
