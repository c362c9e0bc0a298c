import LazyBundle.Regex.Machine
import LazyBundle.Regex.Posix
import LazyBundle.Sha256
import LazyBundle.Shell.Condition
import LazyBundle.Shell.Copy
import LazyBundle.Shell.Lines.Column
import LazyBundle.Shell.Lines.Count
import LazyBundle.Shell.Lines.Order
import LazyBundle.Shell.Lines.Repeat
import LazyBundle.Shell.Lines.Wrap
import LazyBundle.Shell.Match
import LazyBundle.Shell.Portion
import LazyBundle.Shell.Print
import LazyBundle.Shell.Series
import LazyBundle.Shell.Translate

/-!
# Programs

Small programs on names, numbers and files, and the table of all that run by
themselves.
-/

namespace LazyBundle.Shell.Programs

open Effect Copy

/-! ## Names -/

def withoutSlashes (cs : Bytes) : Bytes := (cs.reverse.dropWhile (· == '/')).reverse

/-- The last part of a path, without an ending. -/
def baseOf (path ending : Bytes) : Bytes :=
  let bare := withoutSlashes path
  if bare.isEmpty then path.take 1
  else
    let name := (bare.reverse.takeWhile (· != '/')).reverse
    if !ending.isEmpty ∧ ending.isSuffixOf name ∧ name ≠ ending then
      name.take (name.length - ending.length)
    else name

/-- The path without its last part. -/
def directoryOf (path : Bytes) : Bytes :=
  let bare := withoutSlashes path
  let front := withoutSlashes (bare.reverse.dropWhile (· != '/')).reverse
  if !front.isEmpty then front
  else if path.head? = some '/' then ['/']
  else ['.']

def basename : Program := withOptions {
    letters := [('a', .nothing), ('s', .argument), ('z', .nothing)]
    names := [("multiple", .nothing, 'a'), ("suffix", .argument, 's'), ("zero", .nothing, 'z')]
    anywhere := false } 1 fun chosen => do
  let mark := if chosen.has 'z' then '\x00' else '\n'
  let many := chosen.has 'a' || chosen.has 's'
  match chosen.operands with
  | [] => misused 1 (ofText "missing operand")
  | names =>
    if many then
      put (names.flatMap fun n => baseOf n ((chosen.last? 's').getD []) ++ [mark])
      pure 0
    else match names with
      | _ :: _ :: c :: _ => misused 1 (ofText "extra operand " ++ quoted c)
      | name :: rest =>
        put (baseOf name (rest.headD []) ++ [mark])
        pure 0
      | [] => pure 0

def dirname : Program := withOptions { letters := [('z', .nothing)] } 1 fun chosen => do
  let mark := if chosen.has 'z' then '\x00' else '\n'
  if chosen.operands.isEmpty then misused 1 (ofText "missing operand")
  else
    put (chosen.operands.flatMap fun p => directoryOf p ++ [mark])
    pure 0

def pwd : Program := withOptions { letters := [('L', .nothing), ('P', .nothing)] } 1 fun _ => do
  put (Place.text (← read).directory ++ ['\n'])
  pure 0

namespace Expr

inductive Fault
  | missing (after : Bytes)
  | unexpected (word : Bytes)
  | closing
  | unclosed (after : Bytes)
  | insteadOfClosing (word : Bytes)
  | notInteger
  | byZero
  | pattern (f : Regex.Posix.Fault)

def Fault.message : Fault → Bytes
  | missing after => ofText "syntax error: missing argument after " ++ quoted after
  | unexpected word => ofText "syntax error: unexpected argument " ++ quoted word
  | closing => ofText "syntax error: unexpected ')'"
  | unclosed after => ofText "syntax error: expecting ')' after " ++ quoted after
  | insteadOfClosing word => ofText "syntax error: expecting ')' instead of " ++ quoted word
  | notInteger => ofText "non-integer argument"
  | byZero => ofText "division by zero"
  | pattern f => ofText f.message

structure State where
  rest : List Bytes
  last : Bytes := []

abbrev Reader := StateT State (Except Fault)

def next? : Reader (Option Bytes) := do
  let s ← get
  match s.rest with
  | [] => pure none
  | w :: ws =>
    set { rest := ws, last := w : State }
    pure (some w)

def takes (words : List String) : Reader (Option String) := do
  let s ← get
  match s.rest with
  | [] => pure none
  | w :: ws =>
    match words.find? fun o => ofText o == w with
    | some o =>
      set { rest := ws, last := w : State }
      pure (some o)
    | none => pure none

def integer? (text : Bytes) : Option Int :=
  let (negative, digits) := match text with
    | '-' :: ds => (true, ds)
    | ds => (false, ds)
  (digits? digits).map fun n => if negative then -(n : Int) else n

def integer (text : Bytes) : Reader Int :=
  match integer? text with
  | some n => pure n
  | none => throw .notInteger

/-- Whether a value counts as nothing. -/
def isNull (text : Bytes) : Bool :=
  text.isEmpty || (let digits := if text.head? = some '-' then text.drop 1 else text
    !digits.isEmpty && digits.all (· == '0'))

def matchFront (text pattern : Bytes) : Reader Bytes := do
  match Regex.Posix.parse {} pattern with
  | .error f => throw (.pattern f)
  | .ok e =>
    let m := Regex.Machine.ofExpr (.seq (.edge .textStart) e) false
    let grouped := 0 < e.groupCount
    match m.search text.toArray 0 with
    | none => pure (if grouped then [] else ['0'])
    | some t =>
      if grouped then
        match t.group? 1 with
        | some (a, b) => pure ((text.drop a).take (b - a))
        | none => pure []
      else match t.group? 0 with
        | some (a, b) => pure (decimal (b - a))
        | none => pure ['0']

def boolText (b : Bool) : Bytes := if b then ['1'] else ['0']

/-! Words are read in full; what a part stands for is only worked out where it `counts`. -/

mutual

def disjunction (counts : Bool) : Nat → Reader Bytes
  | 0 => pure []
  | fuel + 1 => do
    let a ← conjunction counts fuel
    disjunctionFrom counts fuel a

def disjunctionFrom (counts : Bool) : Nat → Bytes → Reader Bytes
  | 0, a => pure a
  | fuel + 1, a => do
    match ← takes ["|"] with
    | none => pure a
    | some _ =>
      let b ← conjunction (counts && isNull a) fuel
      disjunctionFrom counts fuel (if !isNull a then a else if isNull b then ['0'] else b)

def conjunction (counts : Bool) : Nat → Reader Bytes
  | 0 => pure []
  | fuel + 1 => do
    let a ← comparison counts fuel
    conjunctionFrom counts fuel a

def conjunctionFrom (counts : Bool) : Nat → Bytes → Reader Bytes
  | 0, a => pure a
  | fuel + 1, a => do
    match ← takes ["&"] with
    | none => pure a
    | some _ =>
      let b ← comparison (counts && !isNull a) fuel
      conjunctionFrom counts fuel (if isNull a || isNull b then ['0'] else a)

def comparison (counts : Bool) : Nat → Reader Bytes
  | 0 => pure []
  | fuel + 1 => do
    let a ← sum counts fuel
    comparisonFrom counts fuel a

def comparisonFrom (counts : Bool) : Nat → Bytes → Reader Bytes
  | 0, a => pure a
  | fuel + 1, a => do
    match ← takes ["<", "<=", "=", "==", "!=", ">=", ">"] with
    | none => pure a
    | some o =>
      let b ← sum counts fuel
      let (less, equal) : Bool × Bool := match integer? a, integer? b with
        | some m, some n => (decide (m < n), m == n)
        | _, _ => (decide (a < b), a == b)
      comparisonFrom counts fuel (boolText (match o with
        | "<" => less
        | "<=" => less || equal
        | "=" | "==" => equal
        | "!=" => !equal
        | ">=" => !less
        | _ => !less && !equal))

def sum (counts : Bool) : Nat → Reader Bytes
  | 0 => pure []
  | fuel + 1 => do
    let a ← product counts fuel
    sumFrom counts fuel a

def sumFrom (counts : Bool) : Nat → Bytes → Reader Bytes
  | 0, a => pure a
  | fuel + 1, a => do
    match ← takes ["+", "-"] with
    | none => pure a
    | some o =>
      let b ← product counts fuel
      if counts then
        let m ← integer a
        let n ← integer b
        sumFrom counts fuel (decimalOf (if o = "+" then m + n else m - n))
      else sumFrom counts fuel a

def product (counts : Bool) : Nat → Reader Bytes
  | 0 => pure []
  | fuel + 1 => do
    let a ← matching counts fuel
    productFrom counts fuel a

def productFrom (counts : Bool) : Nat → Bytes → Reader Bytes
  | 0, a => pure a
  | fuel + 1, a => do
    match ← takes ["*", "/", "%"] with
    | none => pure a
    | some o =>
      let b ← matching counts fuel
      if counts then
        let m ← integer a
        let n ← integer b
        if o ≠ "*" ∧ n = 0 then throw .byZero
        productFrom counts fuel
          (decimalOf (if o = "*" then m * n else if o = "/" then m.tdiv n else m.tmod n))
      else productFrom counts fuel a

def matching (counts : Bool) : Nat → Reader Bytes
  | 0 => pure []
  | fuel + 1 => do
    let a ← operand counts fuel
    matchingFrom counts fuel a

def matchingFrom (counts : Bool) : Nat → Bytes → Reader Bytes
  | 0, a => pure a
  | fuel + 1, a => do
    match ← takes [":"] with
    | none => pure a
    | some _ =>
      let b ← operand counts fuel
      matchingFrom counts fuel (← if counts then matchFront a b else pure a)

def operand (counts : Bool) : Nat → Reader Bytes
  | 0 => pure []
  | fuel + 1 => do
    match ← next? with
    | none => throw (.missing (← get).last)
    | some ['+'] =>
      match ← next? with
      | some w => pure w
      | none => throw (.missing (← get).last)
    | some ['('] =>
      let a ← disjunction counts fuel
      match ← next? with
      | some [')'] => pure a
      | some w => throw (.insteadOfClosing w)
      | none => throw (.unclosed (← get).last)
    | some [')'] => throw .closing
    | some w =>
      match String.ofList w with
      | "length" => return decimal (← operand counts fuel).length
      | "match" =>
        let a ← operand counts fuel
        let b ← operand counts fuel
        if counts then matchFront a b else pure a
      | "index" =>
        let a ← operand counts fuel
        let b ← operand counts fuel
        pure (decimal ((a.findIdx? b.contains).elim 0 (· + 1)))
      | "substr" =>
        let a ← operand counts fuel
        let i ← operand counts fuel
        let n ← operand counts fuel
        match integer? i, integer? n with
        | some i, some n =>
          pure (if i ≤ 0 ∨ n ≤ 0 then [] else (a.drop (i.toNat - 1)).take n.toNat)
        | _, _ => pure []
      | _ => pure w

end

end Expr

def expr : Program := do
  let here ← read
  let args := match here.arguments with
    | ['-', '-'] :: rest => rest
    | args => args
  if args.isEmpty then misused 2 (ofText "missing operand")
  else
    let work : Expr.Reader Bytes := do
      let value ← Expr.disjunction true (16 * args.length + 16)
      match (← get).rest with
      | [] => pure value
      | w :: _ => throw (.unexpected w)
    match work.run { rest := args } with
    | .error f => giveUp 2 f.message
    | .ok (value, _) =>
      put (value ++ ['\n'])
      pure (if Expr.isNull value then 1 else 0)

/-! ## Files -/

def mkdir : Program := withOptions {
    letters := [('p', .nothing), ('v', .nothing), ('m', .argument)]
    names := [("parents", .nothing, 'p')] } 1 fun chosen => do
  if chosen.operands.isEmpty then misused 1 (ofText "missing operand")
  else
    let mut status := 0
    for path in chosen.operands do
      let place := Place.resolve (← read).directory path
      let w ← get
      if chosen.has 'p' then
        for n in List.range place.length do
          if ((← get).found? (place.take (n + 1))).isNone then
            modify (·.change (place.take (n + 1)) .directory)
      else
        let refusal : Option Refusal := match w.trouble? place, w.found? place with
          | some r, _ => some r
          | none, some _ => some .present
          | none, none => none
        match refusal with
        | some r =>
          complain (ofText "cannot create directory " ++ quoted path ++ [':', ' '] ++ r.message)
          status := 1
        | none => modify (·.change place .directory)
    pure status

def isBelow (place other : Place) : Bool := place.isPrefixOf other

def rm : Program := withOptions {
    letters := [('r', .nothing), ('R', .nothing), ('f', .nothing), ('d', .nothing), ('v', .nothing),
      ('i', .nothing)]
    names := [("recursive", .nothing, 'r'), ("force", .nothing, 'f')] } 1 fun chosen => do
  if chosen.operands.isEmpty then
    if chosen.has 'f' then pure 0 else misused 1 (ofText "missing operand")
  else
    let mut status := 0
    for path in chosen.operands do
      let place := Place.resolve (← read).directory path
      let refuse (r : Refusal) : Effect Unit :=
        complain (ofText "cannot remove " ++ quoted path ++ [':', ' '] ++ r.message)
      match (← get).place? place with
      | .error .noEntry =>
        if !chosen.has 'f' then
          refuse .noEntry
          status := 1
      | .error r =>
        refuse r
        status := 1
      | .ok .directory =>
        if chosen.has 'r' || chosen.has 'R' then
          modify fun w =>
            let inner := (w.changes.filter fun e => isBelow place e.1).map (·.1)
            (place :: inner).foldl (fun w p => w.change p .removed) w
        else
          refuse .isDirectory
          status := 1
      | .ok _ => modify (·.change place .removed)
    pure status

def rmdir : Program := withOptions { letters := [('p', .nothing), ('v', .nothing)] } 1 fun chosen => do
  if chosen.operands.isEmpty then misused 1 (ofText "missing operand")
  else
    let mut status := 0
    for path in chosen.operands do
      let place := Place.resolve (← read).directory path
      let w ← get
      let refusal : Option Refusal := match w.place? place with
        | .error r => some r
        | .ok .directory => if (w.namesIn place).isEmpty then none else some .notEmpty
        | .ok _ => some .notDirectory
      match refusal with
      | some r =>
        complain (ofText "failed to remove " ++ quoted path ++ [':', ' '] ++ r.message)
        status := 1
      | none => modify (·.change place .removed)
    pure status

def touch : Program := withOptions {
    letters := [('a', .nothing), ('c', .nothing), ('m', .nothing), ('d', .argument), ('r', .argument),
      ('t', .argument)] } 1 fun chosen => do
  if chosen.operands.isEmpty then misused 1 (ofText "missing file operand")
  else
    let mut status := 0
    for path in chosen.operands do
      let place := Place.resolve (← read).directory path
      match (← get).place? place with
      | .ok _ => pure ()
      | .error .noEntry =>
        if ((← get).trouble? place).isSome then
          complain (ofText "cannot touch " ++ quoted path ++ ofText ": No such file or directory")
          status := 1
        else if !chosen.has 'c' then modify (·.change place (.file []))
      | .error r =>
        complain (ofText "cannot touch " ++ quoted path ++ [':', ' '] ++ r.message)
        status := 1
    pure status

/-- Makes a file, or a directory, of a name that is not taken. -/
def mktemp : Program := withOptions {
    letters := [('d', .nothing), ('u', .nothing), ('q', .nothing), ('t', .nothing), ('p', .argument)]
    } 1 fun chosen => do
  let w ← get
  let name := ofText "/tmp/tmp.A" ++ padLeft '0' 9 (decimal w.changes.length)
  if !chosen.has 'u' then
    modify (·.change (Place.resolve [] name) (if chosen.has 'd' then .directory else .file []))
  put (name ++ ['\n'])
  pure 0

/-! ## Encodings -/

def sixtyFour : Bytes :=
  ofText "ABCDEFGHIJKLMNOPQRSTUVWXYZabcdefghijklmnopqrstuvwxyz0123456789+/"

def encode64 : Bytes → Bytes
  | a :: b :: c :: rest =>
    let n := a.toNat * 65536 + b.toNat * 256 + c.toNat
    letter n 262144 :: letter n 4096 :: letter n 64 :: letter n 1 :: encode64 rest
  | [a, b] =>
    let n := a.toNat * 65536 + b.toNat * 256
    [letter n 262144, letter n 4096, letter n 64, '=']
  | [a] =>
    let n := a.toNat * 65536
    [letter n 262144, letter n 4096, '=', '=']
  | [] => []
where
  letter (n unit : Nat) : Char := sixtyFour.getD ((n / unit) % 64) '='

def decode64 : Nat → Bytes → Bytes × Bool
  | 0, _ => ([], true)
  | _, [] => ([], true)
  | fuel + 1, cs =>
    let group := cs.take 4
    let digits := (group.takeWhile (· != '=')).filterMap fun c => sixtyFour.idxOf? c
    let filled := (group.dropWhile (· != '=')).length
    if group.length < 4 ∨ digits.length + filled ≠ 4 ∨ 2 < filled ∨
        !(group.dropWhile (· != '=')).all (· == '=') then ([], false)
    else
      let n := valueOf 64 (digits ++ List.replicate filled 0)
      let bytes := ([n / 65536, (n / 256) % 256, n % 256].take (3 - filled)).map Char.ofNat
      let (more, ok) := decode64 fuel (cs.drop 4)
      (bytes ++ more, ok)

def base64 : Program := withOptions {
    letters := [('d', .nothing), ('i', .nothing), ('w', .argument)]
    names := [("decode", .nothing, 'd'), ("wrap", .argument, 'w'), ("ignore-garbage", .nothing, 'i')]
    } 1 fun chosen => do
  let (cs, status) ← gather (sourcesOf chosen) 1
  if status ≠ 0 then pure status
  else if chosen.has 'd' then
    let letters := cs.filter (· != '\n')
    let (bytes, ok) := decode64 letters.length letters
    put bytes
    if ok then pure 0 else giveUp 1 (ofText "invalid input")
  else
    let width := ((chosen.last? 'w').bind digits?).getD 76
    let letters := encode64 cs
    if width = 0 then put letters
    else put ((pieces width letters.length letters).flatMap (· ++ ['\n']))
    pure 0
where
  pieces (width : Nat) : Nat → Bytes → List Bytes
    | 0, _ => []
    | _, [] => []
    | fuel + 1, cs => cs.take width :: pieces width fuel (cs.drop width)

def sha256sum : Program := withOptions { letters := [('b', .nothing), ('t', .nothing)] } 1 fun chosen =>
  overSources (sourcesOf chosen) 1 fun name cs =>
    put (ofText (Sha256.hexDigest (toByteArray cs).toList) ++ ' ' :: ' ' :: name ++ ['\n'])

/-! ## The table -/

/-- Says at the end that nothing could be written; an early program says so before anything else. -/
def checked (early : Bool) (program : Program) : Program := do
  let here ← read
  match ← outputTrouble? here.descriptors 1 with
  | none => program
  | some r =>
    if early ∧ r = .badDescriptor then giveUp 1 (ofText "standard output: " ++ r.message)
    else
      let number ← newChannel (.sink [])
      let status ← program { here with
        descriptors := (1, number) :: here.descriptors.filter (·.1 != 1) }
      if (← contentOf number).isEmpty then pure status
      else giveUp 1 (ofText "write error: " ++ r.message)

def always (status : Nat) : Program := pure status

def table : List (String × Program) := [
  ("cat", cat), ("tee", tee), ("head", Portion.head), ("tail", Portion.tail), ("tac", tac), ("rev", rev), ("yes", yes),
  ("wc", Lines.wc), ("sort", Lines.sort), ("uniq", Lines.uniq), ("cut", Lines.cut),
  ("paste", Lines.paste), ("fold", Lines.fold), ("nl", Lines.nl), ("tr", Translate.program),
  ("grep", Match.run "grep" .basic), ("egrep", Match.run "grep" .extended),
  ("fgrep", Match.run "grep" .literal), ("echo", Print.echo), ("printf", Print.printf),
  ("test", Condition.program false), ("[", Condition.program true), ("true", always 0),
  ("false", always 1), ("basename", basename), ("dirname", dirname), ("pwd", pwd), ("seq", Series.seq),
  ("expr", expr), ("mkdir", mkdir), ("rm", rm), ("rmdir", rmdir), ("touch", touch),
  ("mktemp", mktemp), ("base64", base64), ("sha256sum", sha256sum)]

end LazyBundle.Shell.Programs
