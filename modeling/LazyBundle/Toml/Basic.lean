/-!
# Tables of settings

Values of the settings format. The entries of a table are listed with rising
keys, whatever their order in the text.
-/

namespace LazyBundle.Toml

inductive Value
  | string (value : String)
  /-- None when the text, once it is used, stands for no number. -/
  | integer (value : Option Int)
  /-- A number by its positional text; none when it is too large. -/
  | float (text : Option String)
  | bool (value : Bool)
  | datetime
  | list (items : List Value)
  | table (entries : List (String × Value))
deriving Repr, Inhabited, BEq

abbrev Table := List (String × Value)

end LazyBundle.Toml
