import LazyBundle.Text.Search

/-!
# Injection

The lazy bundle data take the place of the first placeholder in the code of a
core bundle. Without a placeholder the code stays as it is. When the data are
empty and the placeholder stands at an end of the code, the placeholder is cut
off and counts as missing.
-/

namespace LazyBundle

def placeholder : String := "[/*!__LAZY_BUNDLE_DATA__*/]"

inductive Injection
  | replaced (code : String)
  | missing (code : String)
deriving DecidableEq, Repr

def Injection.code : Injection → String
  | replaced code => code
  | missing code => code

def hasPlaceholder (code : String) : Bool :=
  Text.contains placeholder.toList code.toList

def inject (code data : String) : Injection :=
  match Text.splitFirst placeholder.toList code.toList with
  | none => .missing code
  | some (before, after) =>
    let result := String.ofList (before ++ data.toList ++ after)
    if data.isEmpty ∧ (before.isEmpty ∨ after.isEmpty) then .missing result else .replaced result

end LazyBundle
