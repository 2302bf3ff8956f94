import Streamkeeper.StandIn.Shell.Lexer

/-!
Commands of a script.

A script is read one complete line at a time, so that the lines before a mistake run.  A keyword counts
only where a command may start, and only without quotes.  Every nested command takes one step of fuel,
and so does every command of a row.
-/

namespace Streamkeeper.StandIn.Shell

/-- Where a list of commands stands. -/
inductive ListKind where
  /-- On a line of its own. -/
  | line
  /-- In a compound command, which needs at least one command. -/
  | body
  /-- Where no command is needed. -/
  | optional
deriving Repr, DecidableEq

/-- The builtins that matter so much that no function can have their names. -/
def reservedBuiltins : List String :=
  ["break", ":", "continue", ".", "eval", "exec", "exit", "export", "local", "readonly", "return",
    "set", "shift", "times", "trap", "unset"]

/-- Runs a command without waiting for it. -/
def Command.inBackground : Command → Command
  | .pipeline _ cs => .pipeline true cs
  | .redirected line c rs => .background line c rs
  | c => .background 0 c []

/-- Puts a command after others. -/
def Command.after (c : Command) : Option Command → Command
  | none => c
  | some before => .sequence before c

/-- Puts redirections on a compound command. -/
def Command.withRedirections (c : Command) (line : Nat) (rs : List Redirection) : Command :=
  match c with
  | .subshell l c [] => .subshell l c rs
  | c => if rs.isEmpty then c else .redirected line c rs

/-- The parts of a simple command, in reverse. -/
structure SimpleDraft where
  line : Nat
  assignments : List (String × Word)
  words : List Word
  redirections : List Redirection

namespace Reader

/-- Puts the last token back. -/
def putBack : Reader Unit :=
  modify fun r => { r with putBack := true }

/-- Reports that the last token was not expected, and what was. -/
def unexpected {α : Type} (wanted : Option String) : Reader α := do
  let t := (← get).token.text
  match wanted with
  | some w => fail (t ++ " unexpected (expecting " ++ w ++ ")")
  | none => fail (t ++ " unexpected")

/-- A keyword or an operator between quotation marks. -/
def named (s : String) : String :=
  "\"" ++ s ++ "\""

/-- What reads tokens, given what reads nested scripts. -/
def token (nested : Reader (Option Command)) (e : Expecting) : Reader Token := do
  tokenWith nested false (← enough) e

/-- Takes a keyword. -/
def expectKeyword (nested : Reader (Option Command)) (e : Expecting) (s : String) : Reader Unit := do
  if (← token nested e).isKeyword s then return ()
  else unexpected (some (named s))

/-- What a redirection leads to, after its operator. -/
def redirectionTarget (nested : Reader (Option Command)) (fd : Nat) (o : Operator) :
    Reader Redirection := do
  let literalDollar : Bool := match o with
    | .document _ => true
    | _ => false
  match ← tokenWith nested literalDollar (← enough) .nothing with
  | .word w quoted =>
    match o with
    | .file opening => return .file fd opening w
    | .document stripTabs =>
      let r ← get
      let a : Awaited := ⟨r.nextDocument, Word.characters w, stripTabs, !quoted⟩
      set { r with awaited := r.awaited ++ [a], nextDocument := r.nextDocument + 1 }
      return .document fd a.id
    | .duplicate =>
      match Word.plain? w with
      | some ['-'] => return .duplicate fd none
      | some [c] =>
        if c.isDigit then return .duplicate fd (some (c.toNat - '0'.toNat))
        else return .duplicateNamed fd w
      | _ => return .duplicateNamed fd w
  | _ => unexpected none

/-- The redirections that follow a compound command. -/
def redirections (nested : Reader (Option Command)) :
    (fuel : Nat) → Expecting → Reader (List Redirection)
  | 0, _ => return []
  | fuel + 1, e => do
    match ← token nested e with
    | .redirection fd o =>
      let r ← redirectionTarget nested fd o
      return r :: (← redirections nested fuel .nothing)
    | _ =>
      putBack
      return []

/-- The words of a loop, up to the token after them. -/
def loopWords (nested : Reader (Option Command)) : (fuel : Nat) → Reader (List Word)
  | 0 => return []
  | fuel + 1 => do
    match ← token nested .nothing with
    | .word w _ => return w :: (← loopWords nested fuel)
    | .newline => return []
    | .operator ";" => return []
    | _ => unexpected none

/-- The word that a token is where patterns stand. -/
def patternOf : Token → Word
  | .word w _ => w
  | .keyword s => s.toList.map fun c => .char c false
  | _ => []

/-- The patterns of a branch, up to the closing parenthesis. -/
def patterns (nested : Reader (Option Command)) : (fuel : Nat) → Token → Reader (List Word)
  | 0, _ => return []
  | fuel + 1, t => do
    let next ← token nested .nothing
    if next.isOperator "|" then
      let t' ← token nested .nothing
      return patternOf t :: (← patterns nested fuel t')
    else if next.isOperator ")" then return [patternOf t]
    else unexpected (some (named ")"))

mutual

/-- Commands one after the other, after those in `before`. -/
def list : (fuel : Nat) → ListKind → (before : Option Command) → Reader (Option Command)
  | 0, _, _ => fail "out of memory"
  | fuel + 1, kind, before => do
    let nested := list fuel .optional none
    let atEnd : Reader Unit := do
      readDocuments nested
      modify fun r => { r with token := .finish, putBack := true }
    match ← token nested ⟨kind != .line, true, true⟩ with
    | .newline =>
      readDocuments nested
      return before
    | .finish =>
      atEnd
      return before
    | t =>
      putBack
      if t.endsList && (kind = .optional || (kind = .body && before.isSome)) then return before
      else
        let c ← chain fuel .nothing
        let t ← token nested .nothing
        let c := if t.isOperator "&" then c.inBackground else c
        let before := some (c.after before)
        match t with
        | .finish =>
          atEnd
          return before
        | .newline =>
          putBack
          list fuel kind before
        | t =>
          if t.isOperator "&" || t.isOperator ";" then list fuel kind before
          else if kind = .line then unexpected none
          else
            putBack
            return before

/-- Commands that depend on each other's outcome. -/
def chain : (fuel : Nat) → Expecting → Reader Command
  | 0, _ => fail "out of memory"
  | fuel + 1, e => do
    chainRest fuel (← pipeline fuel e)

/-- The rest of a chain that begins with a command. -/
def chainRest : (fuel : Nat) → Command → Reader Command
  | 0, _ => fail "out of memory"
  | fuel + 1, c => do
    let t ← token (list fuel .optional none) .nothing
    if t.isOperator "&&" then chainRest fuel (.both c (← pipeline fuel .laterCommand))
    else if t.isOperator "||" then chainRest fuel (.either c (← pipeline fuel .laterCommand))
    else
      putBack
      return c

/-- Commands joined by pipes. -/
def pipeline : (fuel : Nat) → Expecting → Reader Command
  | 0, _ => fail "out of memory"
  | fuel + 1, e => do
    let negated := (← token (list fuel .optional none) e).isKeyword "!"
    if !negated then putBack
    let c ← command fuel (if negated then .command else .nothing)
    let c : Command := match ← pipes fuel with
      | [] => c
      | cs => .pipeline false (c :: cs)
    return if negated then .not c else c

/-- The commands after the first one of a pipeline. -/
def pipes : (fuel : Nat) → Reader (List Command)
  | 0 => fail "out of memory"
  | fuel + 1 => do
    if (← token (list fuel .optional none) .nothing).isOperator "|" then
      let c ← command fuel .laterCommand
      return c :: (← pipes fuel)
    else
      putBack
      return []

/-- One command with its redirections. -/
def command : (fuel : Nat) → Expecting → Reader Command
  | 0, _ => fail "out of memory"
  | fuel + 1, e => do
    let nested := list fuel .optional none
    let line := (← get).line
    let redirected (c : Command) : Reader Command := do
      return c.withRedirections line (← redirections nested (← enough) .command)
    match ← token nested e with
    | .keyword "if" => redirected (← conditional fuel)
    | .keyword "while" => redirected (← repetition fuel true)
    | .keyword "until" => redirected (← repetition fuel false)
    | .keyword "for" => redirected (← iteration fuel line)
    | .keyword "case" =>
      match ← token nested .nothing with
      | .word w _ =>
        expectKeyword nested .laterCommand "in"
        redirected (.select line w (← branches fuel))
      | _ => unexpected (some "word")
    | .keyword "\x7b" =>
      let c ← body fuel
      expectKeyword nested .nothing "\x7d"
      redirected c
    | .operator "(" =>
      let c ← body fuel
      if (← token nested .nothing).isOperator ")" then redirected (.subshell line c [])
      else unexpected (some (named ")"))
    | .word _ _ =>
      putBack
      simple fuel ⟨(← get).line, [], [], []⟩
    | .redirection _ _ =>
      putBack
      simple fuel ⟨(← get).line, [], [], []⟩
    | _ => unexpected none

/-- A list that holds at least one command. -/
def body : (fuel : Nat) → Reader Command
  | 0 => fail "out of memory"
  | fuel + 1 => do
    return (← list fuel .body none).getD default

/-- A condition and its branches, after the word that begins them. -/
def conditional : (fuel : Nat) → Reader Command
  | 0 => fail "out of memory"
  | fuel + 1 => do
    let nested := list fuel .optional none
    let condition ← body fuel
    expectKeyword nested .nothing "then"
    let yes ← body fuel
    match ← token nested .nothing with
    | .keyword "elif" => return .branch condition yes (some (← conditional fuel))
    | .keyword "else" =>
      let no ← body fuel
      expectKeyword nested .nothing "fi"
      return .branch condition yes (some no)
    | .keyword "fi" => return .branch condition yes none
    | _ => unexpected (some (named "fi"))

/-- A loop, after the word that begins it. -/
def repetition : (fuel : Nat) → (wanted : Bool) → Reader Command
  | 0, _ => fail "out of memory"
  | fuel + 1, wanted => do
    let nested := list fuel .optional none
    let condition ← body fuel
    expectKeyword nested .nothing "do"
    let c ← body fuel
    expectKeyword nested .nothing "done"
    return .loop wanted condition c

/-- A loop over words, after the word that begins it. -/
def iteration : (fuel line : Nat) → Reader Command
  | 0, _ => fail "out of memory"
  | fuel + 1, line => do
    let nested := list fuel .optional none
    match ← token nested .nothing with
    | .word w false =>
      match (Word.plain? w).filter isName with
      | some name =>
        let t ← token nested .laterCommand
        let words : List Word ←
          if t.isKeyword "in" then loopWords nested (← enough)
          else do
            if !t.isOperator ";" then putBack
            pure [Word.allArguments]
        expectKeyword nested .laterCommand "do"
        let c ← body fuel
        expectKeyword nested .nothing "done"
        return .forEach line (String.ofList name) words c
      | none => fail "Bad for loop variable"
    | _ => fail "Bad for loop variable"

/-- The branches of a selection, up to its end. -/
def branches : (fuel : Nat) → Reader (List (List Word × Option Command))
  | 0 => fail "out of memory"
  | fuel + 1 => do
    let nested := list fuel .optional none
    let t ← token nested ⟨true, true, false⟩
    if t.isKeyword "esac" then return []
    else
      let t ← if t.isOperator "(" then token nested .nothing else pure t
      let ps ← patterns nested (← enough) t
      let c ← list fuel .optional none
      let t ← token nested ⟨true, true, false⟩
      if t.isKeyword "esac" then return [(ps, c)]
      else if t.isOperator ";;" then return (ps, c) :: (← branches fuel)
      else unexpected (some (named ";;"))

/-- A simple command, or the definition of a function. -/
def simple : (fuel : Nat) → SimpleDraft → Reader Command
  | 0, _ => fail "out of memory"
  | fuel + 1, d => do
    let nested := list fuel .optional none
    let finished : Reader Command := do
      putBack
      return .simple d.line d.assignments.reverse d.words.reverse d.redirections.reverse
    match ← token nested ⟨false, false, d.words.isEmpty⟩ with
    | .word w _ =>
      match if d.words.isEmpty then Word.assignment? w else none with
      | some a => simple fuel { d with assignments := a :: d.assignments }
      | none => simple fuel { d with words := w :: d.words }
    | .redirection fd o =>
      let r ← redirectionTarget nested fd o
      simple fuel { d with redirections := r :: d.redirections }
    | .operator "(" =>
      match d.words, d.assignments, d.redirections with
      | [w], [], [] =>
        if !(← token nested .nothing).isOperator ")" then unexpected (some (named ")"))
        else
          match (Word.plain? w).filter isName with
          | some name =>
            let name := String.ofList name
            if reservedBuiltins.contains name then fail "Bad function name"
            else
              return .function name (← command fuel .laterCommand)
          | none => fail "Bad function name"
      | _, _, _ => finished
    | _ => finished

end

/-- What a line of a script holds. -/
inductive Line where
  | finish
  | nothing
  /-- A command; `last` says whether the script ends with it. -/
  | command (c : Command) (last : Bool)

/-- Reads the next line of a script. -/
def nextLine : Reader Line := do
  modify fun r => { r with putBack := false }
  let c ← list (16 * (← enough) + 4096) .line none
  let r ← get
  let ended : Bool := r.putBack && (r.token matches .finish)
  match c with
  | some c => return .command c ended
  | none => return if ended then .finish else .nothing

end Reader

end Streamkeeper.StandIn.Shell
