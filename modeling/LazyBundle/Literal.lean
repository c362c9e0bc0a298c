import LazyBundle.Json.Basic

/-!
# Literals in code

The text that stands for a value in the code of a bundle: the value itself while
it is short, and the parsing of a string literal when it takes more bytes than
the threshold.
-/

namespace LazyBundle

namespace Literal

def defaultThreshold : Nat := 10000

def openingText : String := "JSON.parse("

def closingText : String := ")"

def render (threshold : Nat) (value : Json) : String :=
  let text := value.sorted.text
  if threshold < text.utf8ByteSize then openingText ++ (Json.string text).text ++ closingText
  else text

end Literal

end LazyBundle
