import LazyBundle.Shell.Script.Basic

/-!
# Reading scripts

Scripts are read one complete command at a time, so that a command runs before a
fault behind it is found. Words are read together with what is nested in them.
-/

namespace LazyBundle.Shell.Reading

inductive Token
  | stop
  | newline
  | semicolon
  | ampersand
  | and
  | or
  | bar
  | opening
  | closing
  | caseEnd
  | redirect
  | word
  | notWord
  | caseWord
  | doWord
  | doneWord
  | elifWord
  | elseWord
  | esacWord
  | fiWord
  | forWord
  | ifWord
  | inWord
  | thenWord
  | untilWord
  | whileWord
  | beginMark
  | endMark
deriving DecidableEq, Repr, Inhabited

def keywords : List (String × Token) := [
  ("!", .notWord), ("case", .caseWord), ("do", .doWord), ("done", .doneWord), ("elif", .elifWord), ("else", .elseWord),
  ("esac", .esacWord), ("fi", .fiWord), ("for", .forWord), ("if", .ifWord), ("in", .inWord), ("then", .thenWord),
  ("until", .untilWord), ("while", .whileWord), ("\x7b", .beginMark), ("\x7d", .endMark)]

namespace Token

def shown : Token → String
  | stop => "end of file"
  | newline => "newline"
  | semicolon => "\";\""
  | ampersand => "\"&\""
  | and => "\"&&\""
  | or => "\"||\""
  | bar => "\"|\""
  | opening => "\"(\""
  | closing => "\")\""
  | caseEnd => "\";;\""
  | redirect => "redirection"
  | word => "word"
  | t => match keywords.find? (·.2 == t) with
    | some (text, _) => "\"" ++ text ++ "\""
    | none => ""

def endsList : Token → Bool
  | stop | closing | caseEnd | doneWord | doWord | elifWord | elseWord | esacWord | fiWord | thenWord | endMark => true
  | _ => false

end Token

structure Fault where
  line : Nat
  message : Bytes
deriving Repr

inductive RedirectStart
  | file (descriptor : Nat) (stream : Stream)
  | copy (descriptor : Nat)
  | document (descriptor : Nat) (strip : Bool)
deriving Repr, Inhabited

structure Awaited where
  index : Nat
  mark : Bytes
  strip : Bool
  expands : Bool
deriving Repr, Inhabited

structure Reader where
  rest : Bytes
  line : Nat := 1
  /-- The last token, and whether it is to be read again. -/
  token : Token := .stop
  pushed : Bool := false
  word : Word := []
  quoted : Bool := false
  start : RedirectStart := .copy 0
  /-- What is asked of the next token. -/
  skipsNewlines : Bool := false
  findsKeywords : Bool := false
  awaited : List Awaited := []
  documents : Array Document := #[]
  findsAliases : Bool := false
  aliases : List (Bytes × Bytes) := []
  /-- The aliases that the text in front came from, each with what is left of the text behind it. -/
  opened : List (Bytes × Nat) := []
deriving Inhabited

abbrev Read := StateT Reader (Except Fault)

def fault {α : Type} (message : String) : Read α := do
  throw ⟨(← get).line, ofText ("Syntax error: " ++ message)⟩

def unexpected {α : Type} : Read α := do
  fault ((← get).token.shown ++ " unexpected")

def expecting {α : Type} (t : Token) : Read α := do
  fault ((← get).token.shown ++ " unexpected (expecting " ++ t.shown ++ ")")

/-! ## Characters -/

def raw? : Read (Option Char) := do
  let r ← get
  match r.rest with
  | [] => pure none
  | c :: cs =>
    set { r with rest := cs, line := if c = '\n' then r.line + 1 else r.line }
    pure (some c)

def joinLines : Bytes → Nat → Bytes × Nat
  | '\\' :: '\n' :: cs, n => joinLines cs (n + 1)
  | cs, n => (cs, n)

def next? : Read (Option Char) := do
  modify fun r =>
    let (rest, line) := joinLines r.rest r.line
    { r with rest := rest, line := line }
  raw?

def peek? : Read (Option Char) := do
  modify fun r =>
    let (rest, line) := joinLines r.rest r.line
    { r with rest := rest, line := line }
  pure (← get).rest.head?

def skip (n : Nat) : Read Unit := modify fun r => { r with rest := r.rest.drop n }

def takes (c : Char) : Read Bool := do
  if (← peek?) = some c then
    let _ ← next?
    pure true
  else pure false

def takeWhile (p : Char → Bool) : Nat → Read Bytes
  | 0 => pure []
  | fuel + 1 => do
    match ← peek? with
    | some c =>
      if p c then do
        let _ ← next?
        pure (c :: (← takeWhile p fuel))
      else pure []
    | none => pure []

/-! ## The surroundings of parts -/

inductive Frame
  | word
  /-- Behind the operator of a parameter, inside or outside of double quotes. -/
  | braces (quoted : Bool)
  | quotes
  /-- The text of a document. -/
  | document
  | sum
deriving DecidableEq, Repr

namespace Frame

def isQuoted : Frame → Bool
  | word | braces false => false
  | _ => true

def escapes (f : Frame) (c : Char) : Bool :=
  match f with
  | word | braces false => true
  | braces true => "\\\x60$\"\x7d".contains c
  | quotes => "\\\x60$\"".contains c
  | document => "\\\x60$".contains c
  | sum => "\\\x60$\"".contains c

end Frame

def endsWord (c : Char) : Bool := " \t\n<>();&|".contains c

def singleQuoted : Nat → Read Word
  | 0 => pure []
  | fuel + 1 => do
    match ← raw? with
    | none => fault "Unterminated quoted string"
    | some '\'' => pure []
    | some c => pure (.char c true :: (← singleQuoted fuel))

def backquoted (frameQuoted : Bool) : Nat → Read Bytes
  | 0 => pure []
  | fuel + 1 => do
    match ← next? with
    | none => fault "EOF in backquote substitution"
    | some '\x60' => pure []
    | some '\\' =>
      match ← raw? with
      | none => fault "EOF in backquote substitution"
      | some c =>
        let bare := c = '\\' ∨ c = '\x60' ∨ c = '$' ∨ (frameQuoted ∧ c = '"')
        let more ← backquoted frameQuoted fuel
        pure (if bare then c :: more else '\\' :: c :: more)
    | some c => pure (c :: (← backquoted frameQuoted fuel))

def operator : Read (Change × Bool) := do
  match ← next? with
  | some ':' =>
    match ← next? with
    | some '\x7d' => pure (.none, false)
    | some '-' => pure (.otherwise true, true)
    | some '+' => pure (.instead true, true)
    | some '?' => pure (.demand true, true)
    | some '=' => pure (.assign true, true)
    | _ => pure (.bad, true)
  | some '\x7d' => pure (.none, false)
  | some '-' => pure (.otherwise false, true)
  | some '+' => pure (.instead false, true)
  | some '?' => pure (.demand false, true)
  | some '=' => pure (.assign false, true)
  | some '#' => pure (.trimFront (← takes '#'), true)
  | some '%' => pure (.trimBack (← takes '%'), true)
  | _ => pure (.bad, true)

def braced : Read (Bytes × Change × Bool) := do
  let fuel := (← get).rest.length + 1
  let named (name : Bytes) : Read (Bytes × Change × Bool) := do
    let (change, more) ← operator
    pure (name, change, more)
  let measured (name : Bytes) : Read (Bytes × Change × Bool) := do
    if (← peek?) = some '\x7d' then pure (name, .length, true) else pure (name, .bad, true)
  match ← peek? with
  | none | some '\x7d' => pure ([], .bad, true)
  | some c =>
    if isNameStart c then named (← takeWhile isNameChar fuel)
    else if c.isDigit then named (← takeWhile Char.isDigit fuel)
    else
      let _ ← next?
      match c, ← peek? with
      | '#', some d =>
        if isNameStart d then measured (← takeWhile isNameChar fuel)
        else if d.isDigit then measured (← takeWhile Char.isDigit fuel)
        else
          -- A number sign may be the parameter itself or ask for the length of another one.
          let r ← get
          let _ ← next?
          if d ≠ '\x7d' ∧ (← peek?) = some '\x7d' then
            if isSpecial d then pure ([d], .length, true) else pure ([d], .bad, true)
          else
            set r
            named ['#']
      | c, _ => if isSpecial c then named [c] else pure ([c], .bad, true)

def atMark (mark : Bytes) (cs : Bytes) : Option Bytes :=
  match mark.isPrefixOf cs, cs.drop mark.length with
  | true, [] => some []
  | true, '\n' :: rest => some rest
  | _, _ => none

def documentLines (mark : Bytes) (strip joined : Bool) : Nat → Bytes → Bytes × Bytes × Nat
  | 0, cs => ([], cs, 0)
  | _, [] => ([], [], 0)
  | fuel + 1, cs =>
    let cs := if strip then cs.dropWhile (· == '\t') else cs
    match atMark mark cs with
    | some rest => ([], rest, 1)
    | none =>
      -- A line that a backslash joins to the next one hides the mark.
      let line := lineOf fuel cs
      let (more, rest, n) := documentLines mark strip joined fuel (cs.drop line.length)
      (line ++ more, rest, n + line.count '\n')
where
  lineOf : Nat → Bytes → Bytes
    | 0, _ => []
    | _, [] => []
    | _ + 1, '\n' :: _ => ['\n']
    | fuel + 1, '\\' :: c :: cs =>
      if joined then '\\' :: c :: lineOf fuel cs
      else if c = '\n' then ['\\', c] else '\\' :: c :: lineOf fuel cs
    | fuel + 1, c :: cs => c :: lineOf fuel cs

def startRedirect (c : Char) (digits : Bytes) : Read Unit := do
  let given := digits.head?.map digitValue
  if c = '>' then
    let d := given.getD 1
    let start ← if ← takes '>' then pure (RedirectStart.file d .append)
      else if ← takes '|' then pure (.file d .overwrite)
      else if ← takes '&' then pure (.copy d)
      else pure (.file d .write)
    modify fun r => { r with start := start }
  else
    let d := given.getD 0
    let start ← if ← takes '<' then
        if ← takes '-' then pure (RedirectStart.document d true) else pure (.document d false)
      else if ← takes '&' then pure (.copy d)
      else if ← takes '>' then pure (.file d .readWrite)
      else pure (.file d .read)
    modify fun r => { r with start := start }

def push : Read Unit := modify fun r => { r with pushed := true }

def ask (skipsNewlines findsKeywords : Bool) (findsAliases : Bool := findsKeywords) : Read Unit :=
  modify fun r => { r with
    skipsNewlines := skipsNewlines
    findsKeywords := findsKeywords
    findsAliases := findsAliases }

/-- Puts the text of an alias in front of what is left; not inside of its own text. -/
def openAlias (start : Nat) : Read Bool := do
  let r ← get
  match plainText? r.word with
  | none => pure false
  | some name =>
    match r.aliases.lookup name with
    | none => pure false
    | some text =>
      if r.opened.any fun o => o.1 == name && decide (o.2 < start) then pure false
      else
        set { r with rest := text ++ r.rest, opened := (name, r.rest.length) :: r.opened }
        pure true

def behindBlank (r : Reader) : Bool :=
  match r.opened with
  | (name, left) :: _ =>
    r.rest.length == left &&
      (((r.aliases.lookup name).bind List.getLast?).map fun c => c == ' ' || c == '\t').getD false
  | [] => false

/-- The text of a word without its quotes. -/
def bareText (w : Word) : Bytes :=
  w.filterMap fun p => match p with
    | .char c _ => some c
    | _ => none

def skipComment : Read Unit :=
  modify fun r => { r with rest := r.rest.dropWhile (· != '\n') }

mutual

/-- Parts up to what ends their surroundings; `depth` counts open parentheses in a sum, and
`inner` tells whether quotes are open inside of braces inside of quotes. -/
def parts : Nat → Frame → Nat → Bool → Bool → Read Word
  | 0, _, _, _, _ => fault "nested too deeply"
  | fuel + 1, f, depth, inner, ofMark => do
    match ← peek? with
    | none =>
      match f with
      | .word | .document => pure []
      | .sum => fault "Missing '))'"
      | .quotes => fault "Unterminated quoted string"
      | .braces true => fault (if ofMark then "Missing '\x7d'" else "Unterminated quoted string")
      | .braces false => fault "Missing '\x7d'"
    | some c =>
      if f = .word ∧ endsWord c then pure []
      else
        let _ ← next?
        match c with
        | '\\' =>
          match ← raw? with
          | none => pure [.char '\\' true]
          | some d =>
            modify fun r => { r with quoted := true }
            let here : Word :=
              if f.escapes d then [.char d true] else [.char '\\' true, .char d true]
            return here ++ (← parts fuel f depth inner ofMark)
        | '\'' =>
          if f.isQuoted then
            return .char c true :: (← parts fuel f depth inner ofMark)
          else
            modify fun r => { r with quoted := true }
            let text ← singleQuoted ((← get).rest.length + 1)
            return .mark :: text ++ .mark :: (← parts fuel f depth inner ofMark)
        | '"' =>
          match f with
          | .quotes => pure []
          | .document | .sum => return .char c true :: (← parts fuel f depth inner ofMark)
          | .braces true => return .mark :: (← parts fuel f depth (!inner) ofMark)
          | .word | .braces false =>
            modify fun r => { r with quoted := true }
            let text ← parts fuel .quotes 0 false ofMark
            modify fun r => { r with quoted := true }
            return .mark :: text ++ .mark :: (← parts fuel f depth inner ofMark)
        | '\x7d' =>
          match f with
          | .braces _ =>
            if inner then return .char c true :: (← parts fuel f depth inner ofMark) else pure []
          | f => return .char c f.isQuoted :: (← parts fuel f depth inner ofMark)
        | '$' =>
          let here ← dollar fuel f ofMark
          return here ++ (← parts fuel f depth inner ofMark)
        | '\x60' =>
          let here ← backquote fuel f
          return here ++ (← parts fuel f depth inner ofMark)
        | '(' =>
          if f = .sum then return .char c true :: (← parts fuel f (depth + 1) inner ofMark)
          else return .char c f.isQuoted :: (← parts fuel f depth inner ofMark)
        | ')' =>
          if f = .sum then
            if 0 < depth then return .char c true :: (← parts fuel f (depth - 1) inner ofMark)
            else if ← takes ')' then pure []
            else return .char c true :: (← parts fuel f depth inner ofMark)
          else return .char c f.isQuoted :: (← parts fuel f depth inner ofMark)
        | c => return .char c f.isQuoted :: (← parts fuel f depth inner ofMark)

def dollar : Nat → Frame → Bool → Read Word
  | 0, _, _ => fault "nested too deeply"
  | fuel + 1, f, ofMark => do
    match ← peek? with
    | some '(' =>
      let _ ← next?
      if ← takes '(' then
        pure [.sum (← parts fuel .sum 0 false ofMark) f.isQuoted]
      else
        let script ← nested fuel
        let r ← get
        if r.token ≠ .closing then expecting .closing
        pure [.output script f.isQuoted]
    | some '\x7b' =>
      let _ ← next?
      let (name, change, more) ← braced
      let word ← if more then
          let frame : Frame := match change with
            | .trimFront _ | .trimBack _ => .braces false
            | _ => .braces f.isQuoted
          parts fuel frame 0 false (ofMark || f == .document)
        else pure []
      pure [.parameter name change word f.isQuoted]
    | some c =>
      if isNameStart c then
        let name ← takeWhile isNameChar ((← get).rest.length + 1)
        pure [.parameter name .none [] f.isQuoted]
      else if isSpecial c then
        let _ ← next?
        pure [.parameter [c] .none [] f.isQuoted]
      else pure [.char '$' f.isQuoted]
    | none => pure [.char '$' f.isQuoted]

def nested : Nat → Read Script
  | 0 => fault "nested too deeply"
  | fuel + 1 => do
    let outer ← get
    set { outer with awaited := [], pushed := false, skipsNewlines := false, findsKeywords := false }
    let script ← list fuel false true
    let _ ← token fuel
    documents fuel
    modify fun r => { r with awaited := outer.awaited, quoted := outer.quoted, pushed := false }
    pure script

/-- A script between backquotes; what it leaves over does not count. -/
def backquote : Nat → Frame → Read Word
  | 0, _ => fault "nested too deeply"
  | fuel + 1, f => do
    let line := (← get).line
    let text ← backquoted f.isQuoted ((← get).rest.length + 1)
    let outer ← get
    set { outer with
      rest := text, line := line, awaited := [], pushed := false, skipsNewlines := false,
      findsKeywords := false }
    let script ← list fuel false true
    documents fuel
    modify fun r => { outer with documents := r.documents, pushed := false }
    pure [.output script f.isQuoted]

def token : Nat → Read Token
  | 0 => fault "nested too deeply"
  | fuel + 1 => do
    let r ← get
    let skipsNewlines := r.skipsNewlines
    let findsKeywords := r.findsKeywords
    let findsAliases := r.findsAliases || behindBlank r
    let start := r.rest.length
    set { r with skipsNewlines := false, findsKeywords := false, findsAliases := false }
    let wasPushed := r.pushed
    let t ← plainToken fuel
    let t ← if skipsNewlines && t == .newline then pastNewlines fuel else pure t
    let r ← get
    let t := if t = .word ∧ !r.quoted ∧ findsKeywords then
        match (plainText? r.word).bind fun text => keywords.lookup (String.ofList text) with
        | some keyword => keyword
        | none => t
      else t
    modify fun r => { r with token := t }
    if t = .word && !r.quoted && findsAliases && !wasPushed then
      if ← openAlias start then
        ask skipsNewlines findsKeywords findsAliases
        return ← token fuel
    pure t

def pastNewlines : Nat → Read Token
  | 0 => fault "nested too deeply"
  | fuel + 1 => do
    documents fuel
    let t ← plainToken fuel
    if t = .newline then pastNewlines fuel else pure t

def plainToken : Nat → Read Token
  | 0 => fault "nested too deeply"
  | fuel + 1 => do
    let r ← get
    if r.pushed then
      set { r with pushed := false }
      pure r.token
    else
      let found (t : Token) : Read Token := do
        modify fun r => { r with token := t }
        pure t
      match ← peek? with
      | none => found .stop
      | some c =>
        if c = ' ' ∨ c = '\t' then
          let _ ← next?
          plainToken fuel
        else match c with
          | '#' => skipComment; plainToken fuel
          | '\n' => let _ ← next?; found .newline
          | '&' => let _ ← next?; if ← takes '&' then found .and else found .ampersand
          | '|' => let _ ← next?; if ← takes '|' then found .or else found .bar
          | ';' => let _ ← next?; if ← takes ';' then found .caseEnd else found .semicolon
          | '(' => let _ ← next?; found .opening
          | ')' => let _ ← next?; found .closing
          | _ =>
            modify fun r => { r with quoted := false }
            let w ← parts fuel .word 0 false false
            let r ← get
            match r.rest with
            | d :: _ =>
              let digits := plainText? w
              let fits : Bool := match digits with
                | some [] => true
                | some [e] => e.isDigit
                | _ => false
              if (d == '<' || d == '>') && fits && !r.quoted then
                let _ ← next?
                startRedirect d (digits.getD [])
                found .redirect
              else
                modify fun r => { r with word := w }
                found .word
            | [] =>
              modify fun r => { r with word := w }
              found .word

def documents : Nat → Read Unit
  | 0 => fault "nested too deeply"
  | fuel + 1 => do
    match (← get).awaited with
    | [] => pure ()
    | a :: more =>
      let r ← get
      let (text, rest, lines) := documentLines a.mark a.strip a.expands (r.rest.length + 1) r.rest
      let body ← if a.expands then do
          set { r with rest := text, awaited := [] }
          let body ← parts fuel .document 0 false true
          modify fun s => { r with documents := s.documents }
          pure body
        else pure (text.map fun c => .char c true)
      modify fun s => { s with
        rest := rest
        line := r.line + lines
        awaited := more
        documents := s.documents.setIfInBounds a.index ⟨body⟩ }
      documents fuel

/-- Commands up to a token that ends the list; in a unit a line feed ends it too. -/
def list : Nat → Bool → Bool → Read Script
  | 0, _, _ => fault "nested too deeply"
  | fuel + 1, unit, mayBeEmpty => do
    ask (!unit) true
    let t ← token fuel
    match t with
    | .newline =>
      documents fuel
      pure .nothing
    | .stop =>
      push
      pure .nothing
    | t =>
      push
      if !unit && mayBeEmpty && t.endsList then pure .nothing
      else
        let first ← andOr fuel
        let t ← token fuel
        let first := if t = .ampersand then inBackground first else first
        match t with
        | .newline | .stop =>
          push
          more fuel unit first
        | .ampersand | .semicolon => more fuel unit first
        | _ =>
          if unit then unexpected
          push
          pure first

def more : Nat → Bool → Script → Read Script
  | 0, _, _ => fault "nested too deeply"
  | fuel + 1, unit, first => do
    let second ← list fuel unit true
    pure (match second with
      | .nothing => first
      | second => .sequence first second)

def andOr : Nat → Read Script
  | 0 => fault "nested too deeply"
  | fuel + 1 => do
    let first ← pipeline fuel
    andOrFrom fuel first

def andOrFrom : Nat → Script → Read Script
  | 0, _ => fault "nested too deeply"
  | fuel + 1, first => do
    match ← token fuel with
    | .and =>
      ask true true
      let second ← pipeline fuel
      andOrFrom fuel (.both first second)
    | .or =>
      ask true true
      let second ← pipeline fuel
      andOrFrom fuel (.either first second)
    | _ =>
      push
      pure first

def pipeline : Nat → Read Script
  | 0 => fault "nested too deeply"
  | fuel + 1 => do
    let negated ← if (← token fuel) = .notWord then do
        ask false true
        pure true
      else do
        push
        pure false
    let first ← command fuel
    let script ← if (← token fuel) = .bar then do
        let others ← stages fuel
        pure (.pipe (first :: others) false)
      else do
        push
        pure first
    pure (if negated then .negated script else script)

def stages : Nat → Read (List Script)
  | 0 => fault "nested too deeply"
  | fuel + 1 => do
    ask true true
    let stage ← command fuel
    if (← token fuel) = .bar then return stage :: (← stages fuel)
    else
      push
      pure [stage]

def command : Nat → Read Script
  | 0 => fault "nested too deeply"
  | fuel + 1 => do
    let line := (← get).line
    let close (t : Token) (body : Script) : Read Script := do
      if (← token fuel) ≠ t then expecting t
      let rs ← redirects fuel
      pure (withRedirects line body rs)
    match ← token fuel with
    | .ifWord =>
      let body ← conditions fuel
      close .fiWord body
    | .whileWord => loop fuel true close
    | .untilWord => loop fuel false close
    | .forWord =>
      let t ← token fuel
      let r ← get
      match t, plainText? r.word with
      | .word, some name =>
        if r.quoted ∨ !isName name then fault "Bad for loop variable"
        ask true true
        let words ← if (← token fuel) = .inWord then do
            let words ← wordsUpTo fuel
            let t := (← get).token
            if t ≠ .newline ∧ t ≠ .semicolon then unexpected
            pure words
          else do
            if (← get).token ≠ .semicolon then push
            pure [[.parameter ['@'] .none [] true]]
        ask true true
        if (← token fuel) ≠ .doWord then expecting .doWord
        let body ← list fuel false false
        close .doneWord (.forEach line name words body)
      | _, _ => fault "Bad for loop variable"
    | .caseWord =>
      if (← token fuel) ≠ .word then expecting .word
      let word := (← get).word
      ask true true
      if (← token fuel) ≠ .inWord then expecting .inWord
      ask true true false
      let t ← token fuel
      let arms ← arms fuel t
      let rs ← redirects fuel
      pure (withRedirects line (.select line word arms) rs)
    | .opening =>
      let body ← list fuel false false
      if (← token fuel) ≠ .closing then expecting .closing
      let rs ← redirects fuel
      pure (.subshell line body rs)
    | .beginMark =>
      let body ← list fuel false false
      close .endMark body
    | .word | .redirect =>
      push
      simple fuel
    | _ => unexpected

def conditions : Nat → Read Script
  | 0 => fault "nested too deeply"
  | fuel + 1 => do
    let condition ← list fuel false false
    if (← token fuel) ≠ .thenWord then expecting .thenWord
    let yes ← list fuel false false
    match ← token fuel with
    | .elifWord => pure (.choose condition yes (← conditions fuel))
    | .elseWord => pure (.choose condition yes (← list fuel false false))
    | _ =>
      push
      pure (.choose condition yes .nothing)

def loop : Nat → Bool → (Token → Script → Read Script) → Read Script
  | 0, _, _ => fault "nested too deeply"
  | fuel + 1, while_, close => do
    let condition ← list fuel false false
    if (← token fuel) ≠ .doWord then expecting .doWord
    let body ← list fuel false false
    close .doneWord (.loop while_ condition body)

def wordsUpTo : Nat → Read (List Word)
  | 0 => fault "nested too deeply"
  | fuel + 1 => do
    if (← token fuel) = .word then
      let w := (← get).word
      pure (w :: (← wordsUpTo fuel))
    else pure []

/-- The arms of a selection; a token that was read begins the first one. -/
def arms : Nat → Token → Read (List Arm)
  | 0, _ => fault "nested too deeply"
  | fuel + 1, t => do
    if t = .esacWord then pure []
    else
      if t = .opening then
        let _ ← token fuel
      let patterns ← alternatives fuel
      if (← get).token ≠ .closing then expecting .closing
      let body ← list fuel false true
      ask true true
      match ← token fuel with
      | .esacWord => pure [.mk patterns body]
      | .caseEnd =>
        ask true true false
        let t ← token fuel
        pure (.mk patterns body :: (← arms fuel t))
      | _ => expecting .caseEnd

/-- Patterns between bars; the token behind them is read too. -/
def alternatives : Nat → Read (List Word)
  | 0 => fault "nested too deeply"
  | fuel + 1 => do
    let w := (← get).word
    if (← token fuel) = .bar then
      let _ ← token fuel
      return w :: (← alternatives fuel)
    else pure [w]

def redirects : Nat → Read (List Redirect)
  | 0 => fault "nested too deeply"
  | fuel + 1 => do
    ask false true
    if (← token fuel) = .redirect then
      let r ← redirect fuel
      pure (r :: (← redirects fuel))
    else
      push
      pure []

def redirect : Nat → Read Redirect
  | 0 => fault "nested too deeply"
  | fuel + 1 => do
    let start := (← get).start
    match start with
    | .document d strip =>
      let (w, wasQuoted) ← markWord fuel
      let r ← get
      let index := r.documents.size
      set { r with
        documents := r.documents.push default
        awaited := r.awaited ++ [(⟨index, w, strip, !wasQuoted⟩ : Awaited)] }
      pure (.document d index)
    | .file d stream =>
      if (← token fuel) ≠ .word then unexpected
      pure (.file d stream (← get).word)
    | .copy d =>
      if (← token fuel) ≠ .word then unexpected
      pure (.copy d (← get).word)

/-- The mark of a document; nothing in it is expanded. -/
def markWord : Nat → Read (Bytes × Bool)
  | 0 => fault "nested too deeply"
  | fuel + 1 => do
    let _ ← takeWhile (fun c => c == ' ' || c == '\t') ((← get).rest.length + 1)
    match ← peek? with
    | none =>
      modify fun r => { r with token := .stop }
      unexpected
    | some c =>
      if endsWord c then
        let _ ← token fuel
        unexpected
      else markText fuel false

def markText : Nat → Bool → Read (Bytes × Bool)
  | 0, _ => fault "nested too deeply"
  | fuel + 1, wasQuoted => do
    match ← peek? with
    | none => pure ([], wasQuoted)
    | some c =>
      if endsWord c then pure ([], wasQuoted)
      else
        let _ ← next?
        match c with
        | '\\' =>
          match ← raw? with
          | none => pure (['\\'], true)
          | some d =>
            let (text, _) ← markText fuel true
            pure (d :: text, true)
        | '\'' =>
          let quoted ← singleQuoted ((← get).rest.length + 1)
          let (text, _) ← markText fuel true
          pure (bareText quoted ++ text, true)
        | '"' =>
          let quoted ← doubleMark fuel
          let (text, _) ← markText fuel true
          pure (quoted ++ text, true)
        | c =>
          let (text, q) ← markText fuel wasQuoted
          pure (c :: text, q)

def doubleMark : Nat → Read Bytes
  | 0 => fault "nested too deeply"
  | fuel + 1 => do
    match ← next? with
    | none => fault "Unterminated quoted string"
    | some '"' => pure []
    | some '\\' =>
      match ← raw? with
      | none => fault "Unterminated quoted string"
      | some d =>
        let more ← doubleMark fuel
        pure (if "\\\x60$\"".contains d then d :: more else '\\' :: d :: more)
    | some c => return c :: (← doubleMark fuel)

def simple : Nat → Read Script
  | 0 => fault "nested too deeply"
  | fuel + 1 => do
    let line := (← get).line
    simpleFrom fuel line [] [] []

def simpleFrom : Nat → Nat → List Word → List Word → List Redirect → Read Script
  | 0, _, _, _, _ => fault "nested too deeply"
  | fuel + 1, line, assignments, words, rs => do
    ask false false words.isEmpty
    match ← token fuel with
    | .word =>
      let w := (← get).word
      if words.isEmpty ∧ (assignment? w).isSome then
        simpleFrom fuel line (w :: assignments) words rs
      else simpleFrom fuel line assignments (w :: words) rs
    | .redirect =>
      let r ← redirect fuel
      simpleFrom fuel line assignments words (r :: rs)
    | .opening =>
      match assignments, words, rs with
      | [], [w], [] =>
        if (← token fuel) ≠ .closing then expecting .closing
        let name := (plainText? w).getD []
        if !isName name ∨ name ∈ specialNames then fault "Bad function name"
        ask true true
        let line := (← get).line
        let body ← command fuel
        pure (.define line name body)
      | _, _, _ =>
        push
        pure (.simple line assignments.reverse words.reverse rs.reverse)
    | _ =>
      push
      pure (.simple line assignments.reverse words.reverse rs.reverse)

def inBackground (s : Script) : Script :=
  match s with
  | .pipe stages _ => .pipe stages true
  | .redirected line body rs => .background line body rs
  | s => .background 0 s []

def withRedirects (line : Nat) (body : Script) (rs : List Redirect) : Script :=
  if rs.isEmpty then body else .redirected line body rs

end

/-- The fuel for a text of some length: nothing is nested deeper than the text is long. -/
def fuelFor (length : Nat) : Nat := 8 * length + 64

/-- Reads one complete command; none at the end of the text. -/
def readUnit : Read (Option Script) := do
  let fuel := fuelFor (← get).rest.length
  modify fun r => { r with pushed := false, skipsNewlines := false, findsKeywords := false, awaited := [] }
  let script ← list fuel true true
  let r ← get
  match script with
  | .nothing => if r.pushed && r.token == .stop then pure none else pure (some .nothing)
  | script => pure (some script)

def readText (text : Bytes) : Except Fault Word := do
  let (w, _) ← (parts (fuelFor text.length) .document 0 false true).run { rest := text }
  pure w

end LazyBundle.Shell.Reading
