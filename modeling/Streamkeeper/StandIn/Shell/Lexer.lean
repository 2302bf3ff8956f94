import Streamkeeper.StandIn.Shell.Reading

/-!
Tokens of a script.

A word is read character by character under a stack of contexts: what a character means depends on
the innermost one.  A context counts the braces that are open in it, and another one is opened where
the rules for quotes change.  Nested scripts are read by the reader of commands, which comes in as
`nested`.
-/

namespace Streamkeeper.StandIn.Shell

/-- The rules by which characters are read. -/
inductive Rules where
  | plain
  | doubleQuotes
  | singleQuotes
  | arithmetic
deriving Repr, DecidableEq

/-- A context of a word. -/
structure Context where
  rules : Rules
  /-- Is it closed by the last brace that is open in it? -/
  ofBraces : Bool
  doubleQuoted : Bool
  /-- The number of open braces, and of those among them that were opened between quotes. -/
  braces : Nat
  quotedBraces : Nat
  /-- Is a quote open inside the braces? -/
  innerQuotes : Bool
  /-- The number of open parentheses. -/
  parentheses : Nat

/-- The context of an unquoted word. -/
def Context.plain : Context := ⟨.plain, false, false, 0, 0, false, 0⟩

/-- The context between double quotes. -/
def Context.quoted : Context := { Context.plain with rules := .doubleQuotes, doubleQuoted := true }

/-- The context of an expression. -/
def Context.arithmetic : Context := { Context.plain with rules := .arithmetic, doubleQuoted := true }

/-- An expansion that is not closed yet. -/
inductive Unclosed where
  | parameter (name : String) (treatment : Treatment) (orEmpty : Bool)
  | arithmetic

/-- The part that an expansion becomes. -/
def Unclosed.close (u : Unclosed) (inner : Word) : Part :=
  match u with
  | .parameter name treatment orEmpty => .parameter name treatment orEmpty inner
  | .arithmetic => .arithmetic inner

/-- A word that is being read.  Parts are kept in reverse. -/
structure Draft where
  /-- Is it the text that follows a command? -/
  isDocument : Bool
  /-- Do dollar signs and accents stand for themselves? -/
  literalDollar : Bool
  /-- The innermost context, and those around it. -/
  context : Context
  outer : List Context
  /-- What is not closed yet, with the parts before it. -/
  unclosed : List (Unclosed × List Part)
  parts : List Part
  quoted : Bool

namespace Draft

/-- An empty word. -/
def ofWord (literalDollar : Bool) : Draft :=
  ⟨false, literalDollar, .plain, [], [], [], false⟩

/-- An empty text. -/
def ofDocument : Draft :=
  ⟨true, false, .quoted, [], [], [], false⟩

/-- Adds a part. -/
def add (d : Draft) (p : Part) : Draft :=
  { d with parts := p :: d.parts }

/-- Adds a character, quoted if the context says so. -/
def put (d : Draft) (c : Char) : Draft :=
  d.add (.char c (d.context.rules != .plain))

/-- Adds a quotation mark; texts that follow commands have none. -/
def putMark (d : Draft) : Draft :=
  if d.isDocument then d else d.add .mark

/-- Opens a context. -/
def enter (d : Draft) (c : Context) : Draft :=
  { d with context := c, outer := d.context :: d.outer }

/-- Closes the innermost context. -/
def leave (d : Draft) : Draft :=
  match d.outer with
  | c :: outer => { d with context := c, outer := outer }
  | [] => d

/-- Opens an expansion. -/
def openPart (d : Draft) (u : Unclosed) : Draft :=
  { d with unclosed := (u, d.parts) :: d.unclosed, parts := [] }

/-- Closes the innermost expansion. -/
def closePart (d : Draft) : Draft :=
  match d.unclosed with
  | (u, before) :: rest =>
    { d with unclosed := rest, parts := u.close d.parts.reverse :: before }
  | [] => d

/-- Notes that a quote opens or closes inside braces. -/
def toggleInner (d : Draft) : Draft :=
  if d.context.braces > 0 then
    { d with context := { d.context with innerQuotes := !d.context.innerQuotes } }
  else d

/-- Opens a single quote. -/
def openSingle (d : Draft) : Draft :=
  { d with context := { d.context with rules := .singleQuotes } }.putMark

/-- Opens a double quote. -/
def openDouble (d : Draft) : Draft :=
  { d with
    context := { d.context with rules := .doubleQuotes, doubleQuoted := true } }.toggleInner.putMark

/-- Meets a quote of the kind that is open. -/
def closeQuote (d : Draft) (c : Char) : Draft :=
  if d.isDocument && d.context.braces == 0 then d.put c
  else
    let d :=
      if d.context.quotedBraces = 0 then
        { d with context := { d.context with rules := .plain, doubleQuoted := false } }
      else d
    let d := { d with quoted := true }
    (if c = '"' then d.toggleInner else d).putMark

/-- Opens a parameter between braces. -/
def openBraces (d : Draft) (name : String) (treatment : Treatment) (orEmpty : Bool) : Draft :=
  let rules := match treatment with
    | .dropStart _ => .plain
    | .dropEnd _ => .plain
    | _ => if d.context.rules = .arithmetic then .doubleQuotes else d.context.rules
  let d :=
    if rules != d.context.rules || d.context.innerQuotes then
      d.enter { Context.plain with rules := rules, ofBraces := true, doubleQuoted := rules != .plain }
    else d
  let c := d.context
  { d with
    context :=
      { c with
        braces := c.braces + 1
        quotedBraces := if c.doubleQuoted then c.quotedBraces + 1 else c.quotedBraces }
    }.openPart (.parameter name treatment orEmpty)

/-- Meets a closing brace. -/
def closeBraces (d : Draft) : Draft :=
  let c := d.context
  if !c.innerQuotes && c.braces > 0 then
    let d :=
      if c.braces = 1 && c.ofBraces then d.leave
      else
        { d with context := { c with braces := c.braces - 1, quotedBraces := c.quotedBraces - 1 } }
    d.closePart
  else d.put closeBrace

end Draft

namespace Reader

/-- The treatment that follows the name of a parameter between braces, whether an empty value counts
as none, and whether the brace stays open. -/
def treatment : Reader (Treatment × Bool × Bool) := do
  let trim (c : Char) (longest short : Treatment) : Reader (Treatment × Bool × Bool) := do
    advance
    if ← takeIf c then return (longest, false, true) else return (short, false, true)
  let standIn (orEmpty : Bool) : Reader (Treatment × Bool × Bool) := do
    match ← peek with
    | some c =>
      advance
      if c = closeBrace then return (.plain, orEmpty, orEmpty)
      else
        match [('-', Treatment.default), ('+', .alternative), ('?', .demand), ('=', .assign)].lookup c
        with
        | some t => return (t, orEmpty, true)
        | none => return (.unknown, orEmpty, true)
    | none => return (.unknown, orEmpty, true)
  match ← peek with
  | some ':' =>
    advance
    standIn true
  | some '%' => trim '%' (.dropEnd true) (.dropEnd false)
  | some '#' => trim '#' (.dropStart true) (.dropStart false)
  | _ => standIn false

/-- A name or a number of any length. -/
def nameOrNumber (c : Char) : Reader (List Char) := do
  takeWhile (if c.isDigit then Char.isDigit else isNameChar) (← enough)

/-- A parameter after an opening brace. -/
def bracedParameter (d : Draft) : Reader Draft := do
  let bad : Reader Draft := return d.openBraces "" .unknown false
  let finish (name : List Char) : Reader Draft := do
    let (t, orEmpty, stays) ← treatment
    let name := String.ofList name
    if stays then return d.openBraces name t orEmpty else return d.add (.parameter name t orEmpty [])
  match ← peek with
  | none => bad
  | some c =>
    if startsName c || c.isDigit then finish (← nameOrNumber c)
    else if c = closeBrace then bad
    else if c = '#' then
      advance
      match ← peek with
      | none => finish ['#']
      | some x =>
        if isNameChar x then
          let name := String.ofList (← nameOrNumber x)
          return d.openBraces name .length false
        else if x = closeBrace then finish ['#']
        else
          let before ← get
          advance
          if (← peek) = some closeBrace then
            if isSpecial x then return d.openBraces (String.ofList [x]) .length false
            else return d.openBraces "" .unknown false
          else
            set before
            finish ['#']
    else
      advance
      if isSpecial c then finish [c] else bad

/-- A nested script between parentheses, after the opening one.  The token that ends it was put back. -/
def enclosed (nested : Reader (Option Command)) : Reader (Option Command) := do
  let awaited := (← get).awaited
  modify fun r => { r with awaited := [], putBack := false }
  let c ← nested
  let t := (← get).token
  if t.isOperator ")" then
    modify fun r =>
      { r with
        awaited := awaited
        putBack := false
        documents := r.documents ++ r.awaited.map fun a => (a.id, []) }
    return c
  else fail (t.text ++ " unexpected (expecting \")\")")

/-- The text between grave accents, after the opening one.  A backslash before an accent, a backslash
or a dollar sign goes away, and before a double quote if quotes are around. -/
def accented (doubleQuoted : Bool) : (fuel : Nat) → Reader (List Char)
  | 0 => fail "EOF in backquote substitution"
  | fuel + 1 => do
    match ← peek with
    | none => fail "EOF in backquote substitution"
    | some c =>
      if c = graveAccent then
        advance
        return []
      else if c = '\\' then
        advance
        match ← peekRaw with
        | none => fail "EOF in backquote substitution"
        | some e =>
          advance
          let rest ← accented doubleQuoted fuel
          if ['\\', graveAccent, '$'].contains e || (doubleQuoted && e == '"') then return e :: rest
          else return '\\' :: e :: rest
      else
        if c = '\n' then advanceLine else advance
        return c :: (← accented doubleQuoted fuel)

/-- What follows a dollar sign. -/
def dollar (nested : Reader (Option Command)) (d : Draft) : Reader Draft := do
  let c ← peek
  match if d.literalDollar then none else c with
  | none => return d.put '$'
  | some c =>
    if c = '(' then
      advance
      if ← takeIf '(' then return (d.openPart .arithmetic).enter .arithmetic
      else return d.add (.command (← enclosed nested))
    else if c = openBrace then
      advance
      bracedParameter d
    else if startsName c then
      let name := String.ofList (← takeWhile isNameChar (← enough))
      return d.add (.parameter name .plain false [])
    else if isSpecial c then
      advance
      return d.add (.parameter (String.ofList [c]) .plain false [])
    else return d.put '$'

/-- What follows a backslash. -/
def escaped (d : Draft) : Reader Draft := do
  match ← peekRaw with
  | none => return d.add (.char '\\' true)
  | some c =>
    advance
    let t := d.context
    let stays : Bool :=
      t.doubleQuoted && c != '\\' && c != graveAccent && c != '$' &&
        (c != '"' || (d.isDocument && t.braces == 0)) && (c != closeBrace || t.braces == 0)
    let d := if stays then d.add (.char '\\' true) else d
    return { d.add (.char c true) with quoted := true }

/-- A closing parenthesis in an expression: two of them close it. -/
def closeParenthesis (d : Draft) : Reader Draft := do
  let t := d.context
  if t.parentheses > 0 then
    return { d.put ')' with context := { t with parentheses := t.parentheses - 1 } }
  else if ← takeIf ')' then return d.leave.closePart
  else return d.put ')'

/-- The end of a word: nothing may be open. -/
def finishWord (d : Draft) : Reader Draft := do
  if d.context.rules = .arithmetic then fail "Missing '))'"
  else if d.context.rules != .plain && !d.isDocument then fail "Unterminated quoted string"
  else if d.context.braces != 0 then fail ("Missing '" ++ String.ofList [closeBrace] ++ "'")
  else return d

/-- The characters that end an unquoted word. -/
def endsWord (c : Char) : Bool :=
  ['<', '>', '(', ')', ';', '&', '|', ' ', '\t'].contains c

/-- Reads a word to its end. -/
def wordFrom (nested : Reader (Option Command)) :
    (fuel : Nat) → Draft → Reader Draft
  | 0, d => finishWord d
  | fuel + 1, d => do
    let rules := d.context.rules
    match ← if rules = .singleQuotes then peekRaw else peek with
    | none => finishWord d
    | some c =>
      let isOpen := d.context.braces > 0
      if c = '\n' then
        if rules = .plain && !isOpen then finishWord d
        else
          advanceLine
          wordFrom nested fuel (d.put c)
      else if rules = .plain && !isOpen && endsWord c then finishWord d
      else
        advance
        let d : Draft ← do
          if rules = .singleQuotes then
            if c = '\'' then pure (d.closeQuote c) else pure (d.put c)
          else if c = '\\' then escaped d
          else if c = '$' then dollar nested d
          else if c = closeBrace then pure d.closeBraces
          else if c = graveAccent then
            if d.literalDollar then pure (d.put c)
            else
              let text ← accented d.context.doubleQuoted (← enough)
              pure (d.add (.command (← within text 1 nested)))
          else
            match rules with
            | .arithmetic =>
              if c = '(' then
                let t := d.context
                pure { d.put c with context := { t with parentheses := t.parentheses + 1 } }
              else if c = ')' then closeParenthesis d
              else pure (d.put c)
            | .doubleQuotes => if c = '"' then pure (d.closeQuote c) else pure (d.put c)
            | _ =>
              if c = '\'' then pure d.openSingle
              else if c = '"' then pure d.openDouble
              else pure (d.put c)
        wordFrom nested fuel d

/-- The operator of a redirection. -/
def redirection (fd : Option Nat) : Reader Token := do
  let token (default : Nat) (o : Operator) : Token := .redirection (fd.getD default) o
  if ← takeIf '>' then
    if ← takeIf '>' then return token 1 (.file .append)
    else if ← takeIf '|' then return token 1 (.file .overwrite)
    else if ← takeIf '&' then return token 1 .duplicate
    else return token 1 (.file .output)
  else
    advance
    if ← takeIf '<' then return token 0 (.document (← takeIf '-'))
    else if ← takeIf '&' then return token 0 .duplicate
    else if ← takeIf '>' then return token 0 (.file .inputOutput)
    else return token 0 (.file .input)

/-- The descriptor that a word names if a redirection follows it. -/
def descriptor? (d : Draft) : Option (Option Nat) :=
  match d.parts with
  | [] => if d.quoted then none else some none
  | [.char c false] => if c.isDigit then some (some (c.toNat - '0'.toNat)) else none
  | _ => none

/-- A word, or the redirection that it turns out to be a part of. -/
def wordOrRedirection (nested : Reader (Option Command))
    (literalDollar : Bool) : Reader Token := do
  let d ← wordFrom nested (← enough) (.ofWord literalDollar)
  let c ← peek
  match if c = some '<' ∨ c = some '>' then descriptor? d else none with
  | some fd => redirection fd
  | none => return .word d.parts.reverse d.quoted

/-- An operator that may be written twice. -/
def doubled (c : Char) : Reader Token := do
  advance
  if ← takeIf c then return .operator (String.ofList [c, c]) else return .operator (String.ofList [c])

/-- The next token, where none was put back. -/
def freshToken (nested : Reader (Option Command)) (literalDollar : Bool) :
    (fuel : Nat) → Reader Token
  | 0 => return .finish
  | fuel + 1 => do
    match ← peek with
    | none => return .finish
    | some c =>
      if c = ' ' ∨ c = '\t' then
        advance
        freshToken nested literalDollar fuel
      else if c = '#' then
        modify fun r => { r with rest := r.rest.dropWhile (· != '\n') }
        freshToken nested literalDollar fuel
      else if c = '\n' then
        advanceLine
        return .newline
      else if c = '&' ∨ c = '|' ∨ c = ';' then doubled c
      else if c = '(' ∨ c = ')' then
        advance
        return .operator (String.ofList [c])
      else wordOrRedirection nested literalDollar

/-! ### Texts that follow commands -/

/-- Does a line end in a backslash that joins it to the next one? -/
def joinsNext (line : List Char) : Bool :=
  (line.reverse.takeWhile (· == '\\')).length % 2 == 1

/-- Splits before the line that is the delimiter: the text, what follows that line, and the number of
line ends on the way.  A line that is joined to the one before it is not looked at. -/
def splitDocument (a : Awaited) : (fuel : Nat) → (joined : Bool) → List Char →
    List Char × List Char × Nat
  | 0, _, cs => ([], cs, 0)
  | fuel + 1, joined, cs =>
    let cs := if a.stripTabs && !joined then cs.dropWhile (· == '\t') else cs
    let line := cs.takeWhile (· != '\n')
    let rest := cs.drop line.length
    if !joined && line == a.delimiter then ([], rest.tail, 1)
    else
      match rest with
      | [] => (line, [], 0)
      | _ :: rest =>
        let (text, after, n) := splitDocument a fuel (a.expands && joinsNext line) rest
        (line ++ '\n' :: text, after, n + 1)

/-- Reads the texts that are awaited. -/
def readDocuments (nested : Reader (Option Command)) : Reader Unit := do
  let awaited := (← get).awaited
  modify fun r => { r with awaited := [] }
  for a in awaited do
    let r ← get
    let (text, rest, lines) := splitDocument a (r.rest.length + 1) false r.rest
    let word : Word ←
      if a.expands then do
        let d ← within text r.line (do wordFrom nested (← enough) .ofDocument)
        pure d.parts.reverse
      else pure (Word.ofQuoted text)
    modify fun r =>
      { r with rest := rest, line := r.line + lines, documents := r.documents ++ [(a.id, word)] }

/-! ### Tokens where keywords count -/

/-- What is looked for at the next token: line ends to be skipped, keywords, and aliases. -/
structure Expecting where
  skipsLines : Bool
  keywords : Bool
  aliases : Bool

/-- Nothing in particular. -/
def Expecting.nothing : Expecting := ⟨false, false, false⟩

/-- The start of a command on this line. -/
def Expecting.command : Expecting := ⟨false, true, true⟩

/-- The start of a command on this line or a later one. -/
def Expecting.laterCommand : Expecting := ⟨true, true, true⟩

/-- The alias that a word is, unless it is being expanded. -/
def alias? (r : Reading) (name : String) : Option (List Char) :=
  if r.expanding.any fun e => e.1 == name && e.2 < r.rest.length then none
  else r.aliases.get? name

/-- The next token. -/
def tokenWith (nested : Reader (Option Command)) (literalDollar : Bool) :
    (fuel : Nat) → Expecting → Reader Token
  | 0, _ => return .finish
  | fuel + 1, e => do
    let r ← get
    let t ←
      if r.putBack then pure r.token
      else freshToken nested literalDollar (← enough)
    let done (t : Token) : Reader Token := do
      modify fun r => { r with token := t, putBack := false }
      return t
    match t with
    | .newline =>
      if e.skipsLines then
        modify fun r => { r with putBack := false }
        readDocuments nested
        tokenWith nested literalDollar fuel e
      else done t
    | .word w false =>
      match Word.plain? w with
      | none => done t
      | some cs =>
        let name := String.ofList cs
        if e.keywords && Token.keywords.contains name then done (.keyword name)
        else
          let found := alias? (← get) name
          match if e.aliases then found else none with
          | some value =>
            modify fun r =>
              { r with
                putBack := false
                rest := value ++ ' ' :: r.rest
                expanding := (name, r.rest.length) :: r.expanding }
            tokenWith nested literalDollar fuel e
          | none => done t
    | _ => done t

end Reader

end Streamkeeper.StandIn.Shell
