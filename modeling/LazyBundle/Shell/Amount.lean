import LazyBundle.Shell.Options
import LazyBundle.Shell.World

/-!
# Amounts

Numbers that options take: digits with a letter behind them for a power of 1024,
or of 1000 with a further `B`. Also how options are gone through in order, so
that of two faults the first one counts.
-/

namespace LazyBundle.Shell

inductive AmountFault
  | malformed
  /-- No word can hold it. -/
  | tooLarge
  /-- It lies outside of what is asked for. -/
  | outside
deriving DecidableEq, Repr

def AmountFault.message : AmountFault → Bytes
  | malformed => []
  | tooLarge => ofText ": Value too large for defined data type"
  | outside => ofText ": Numerical result out of range"

def wordLimit : Nat := Nat.pow 2 64

def unitPowers : List (Char × Nat) := [
  ('k', 1), ('K', 1), ('m', 2), ('M', 2), ('G', 3), ('T', 4), ('P', 5), ('E', 6), ('Z', 7), ('Y', 8),
  ('R', 9), ('Q', 10)]

def unitFactor? (unit : Bytes) : Option Nat :=
  match unit with
  | [] => some 1
  | ['b'] => some 512
  | c :: rest =>
    (unitPowers.lookup c).bind fun power =>
      match rest with
      | [] | ['i', 'B'] => some (Nat.pow 1024 power)
      | ['B'] | ['D'] => some (Nat.pow 1000 power)
      | _ => none

/-- A number between two limits; a unit alone counts once. -/
def amount? (units : Bool) (least most : Nat) (text : Bytes) : Except AmountFault Nat :=
  let body := text.dropWhile isSpace
  let body := match body with
    | '+' :: cs => if (cs.head?.map Char.isDigit).getD false then cs else body
    | cs => cs
  let (n, unit) := takeNumber 10 body
  let n := if unit.length = body.length then 1 else n
  if body.isEmpty ∨ (unit.length = body.length ∧ !units) then .error .malformed
  else match unitFactor? unit with
    | none => .error .malformed
    | some factor =>
      if factor ≠ 1 ∧ !units then .error .malformed
      else if wordLimit ≤ n * factor then .error .tooLarge
      else if n * factor < least ∨ most < n * factor then
        .error (if Nat.pow 2 30 ≤ n * factor then .tooLarge else .outside)
      else .ok (n * factor)

/-! ## Refusals -/

/-- Why a program does not start its work; perhaps with a hint at the help. -/
structure Misuse where
  message : Bytes
  hinted : Bool := true
  /-- The status, if it is not the usual one. -/
  status : Option Nat := none

namespace Misuse

def plain (message : Bytes) : Misuse := { message := message, hinted := false }

def withHint (message : Bytes) : Misuse := { message := message }

end Misuse

def amountOr (what : String) (units : Bool) (least most : Nat) (text : Bytes) : Except Misuse Nat :=
  match amount? units least most text with
  | .ok n => .ok n
  | .error f => .error (.plain (ofText what ++ ofText ": " ++ quoted text ++ f.message))

/-- One of several words, which may be cut short. Words for the same thing stand in one row. -/
def choice {α : Type} (option : String) (rows : List (List String × α)) (text : Bytes) :
    Except Misuse α :=
  let exact := rows.filter fun r => r.1.any fun w => ofText w == text
  let found := if exact.isEmpty then rows.filter fun r => r.1.any fun w => text.isPrefixOf (ofText w)
    else exact
  match found with
  | [r] => .ok r.2
  | found =>
    let row (words : List String) : Bytes :=
      ofText "\n  - " ++ joinWith [',', ' '] (words.map fun w => quoted (ofText w))
    .error ⟨ofText (if found.isEmpty then "invalid" else "ambiguous") ++ ofText " argument " ++
      quoted text ++ ofText " for " ++ quoted (ofText option) ++ ofText "\nValid arguments are:" ++
      rows.flatMap fun r => row r.1, true, some 1⟩

def inOrder {σ : Type} (table : OptionTable) (misuse : Nat) (start : σ)
    (step : σ → Char → Bytes → Except Misuse σ) (act : σ → List Bytes → Program) : Program := do
  let chosen := table.readFrom false (← read).arguments
  let refuse (m : Misuse) : Program :=
    let status := m.status.getD misuse
    if m.hinted then Effect.misused status m.message else Effect.giveUp status m.message
  match chosen.options.foldlM (fun s o => step s o.1 o.2) start, chosen.fault with
  | .error m, _ => refuse m
  | .ok _, some f => refuse { message := f.message }
  | .ok s, none => act s chosen.operands

end LazyBundle.Shell
