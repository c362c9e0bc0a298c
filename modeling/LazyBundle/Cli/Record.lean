import LazyBundle.Regex.Strict
import LazyBundle.Text.Blank
import LazyBundle.Text.Terminal

/-!
# Records

What a run tells about itself, record by record, and the filter that decides
which records are shown. A filter is a list of rules: the last one, among those
with the longest names, whose name the source of a record begins with decides up
to which severity records are shown. A message of several lines is shown with
its later lines indented.
-/

namespace LazyBundle.Cli

inductive Severity
  | error
  | warn
  | info
  | debug
  | trace
deriving DecidableEq, Repr

namespace Severity

def all : List Severity := [error, warn, info, debug, trace]

def name : Severity → String
  | error => "ERROR"
  | warn => "WARN"
  | info => "INFO"
  | debug => "DEBUG"
  | trace => "TRACE"

def rank : Severity → Nat
  | error => 1
  | warn => 2
  | info => 3
  | debug => 4
  | trace => 5

end Severity

structure Record where
  severity : Severity
  source : String
  message : String
deriving DecidableEq, Repr

namespace Record

def indentation : String := "    "

/-- The message as it is shown: later lines are indented, and nothing in it steers a terminal. -/
def shownMessage (r : Record) : String :=
  Text.Terminal.plainText (String.ofList (r.message.toList.flatMap fun c =>
    if c = '\n' then c :: indentation.toList else [c]))

/-- The highest rank that is shown; zero shows nothing. -/
abbrev Limit := Nat

def limits : List (String × Limit) :=
  ("OFF", 0) :: Severity.all.map fun s => (s.name, s.rank)

def limit? (word : String) : Option Limit :=
  limits.lookup word.toUpper

structure Rule where
  name : Option String
  limit : Limit
deriving DecidableEq, Repr

structure Filter where
  rules : List Rule
  /-- What has to occur in a message. -/
  expression : Option Regex.Machine := none

namespace Filter

def upTo (limit : Limit) : Filter :=
  ⟨[⟨none, limit⟩], none⟩

def setRule (rule : Rule) : List Rule → List Rule
  | [] => [rule]
  | r :: rs => if r.name = rule.name then rule :: rs else r :: setRule rule rs

def rule? (text : List Char) : Option Rule :=
  let named (name : List Char) (limit : Limit) := Rule.mk (some (String.ofList name)) limit
  match text.splitOn '=' with
  | [word] => some (((limit? (String.ofList word)).map (Rule.mk none)).getD (named word 5))
  | [name, word] =>
    match Text.trim (String.ofList word) with
    | "" => some (named name 5)
    | word => (limit? word).map (named name)
  | _ => none

/-- Adds the rules of a text, which are separated by commas and may end with a slash and an
expression. What cannot be read is passed over. -/
def extend (f : Filter) (spec : String) : Filter :=
  match spec.toList.splitOn '/' with
  | names :: more =>
    if 1 < more.length then f
    else
      let texts := (names.splitOn ',').map fun t => (Text.trim (String.ofList t)).toList
      let rules := (texts.filter (· ≠ [])).filterMap rule?
      ⟨rules.foldl (fun rs r => setRule r rs) f.rules, more.head?.bind fun t => Regex.Strict.parse? (String.ofList t)⟩
  | [] => f

def deciding? (f : Filter) (source : String) : Option Rule :=
  let name (r : Rule) : String := r.name.getD ""
  let byLength := f.rules.mergeSort fun a b => (name a).utf8ByteSize ≤ (name b).utf8ByteSize
  byLength.reverse.find? fun r => (name r).toList.isPrefixOf source.toList

def shows (f : Filter) (r : Record) : Bool :=
  (match f.deciding? r.source with
    | some rule => r.severity.rank ≤ rule.limit
    | none => false) &&
  (match f.expression with
    | some machine => machine.occursIn r.message
    | none => true)

end Filter

end Record

end LazyBundle.Cli
