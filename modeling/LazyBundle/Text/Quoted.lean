import LazyBundle.Text.Hex
import LazyBundle.Text.Visible

/-!
# Quoted text

A text between double quotes, for messages. Quotes and backslashes are escaped,
a hidden character is given by its code point.
-/

namespace LazyBundle.Text

def quoteChar (c : Char) : List Char :=
  if c = '\x00' then ['\\', '0']
  else if c = '\t' then ['\\', 't']
  else if c = '\n' then ['\\', 'n']
  else if c = '\r' then ['\\', 'r']
  else if c = '"' ∨ c = '\\' then ['\\', c]
  else if isVisible c then [c]
  else ['\\', 'u', '\x7b'] ++ (hexText c.toNat).toList ++ ['\x7d']

def quote (s : String) : String :=
  String.ofList ('"' :: s.toList.flatMap quoteChar ++ ['"'])

end LazyBundle.Text
