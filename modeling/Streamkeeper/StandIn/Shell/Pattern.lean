import Streamkeeper.StandIn.Shell.Characters

/-!
Patterns over texts: a star stands for any text, a question mark for one character, and brackets for
one character of a set.  A quoted character, or one after a backslash, stands for itself.
-/

namespace Streamkeeper.StandIn.Shell

/-- A member of a set of characters. -/
inductive Member where
  | range (first last : Char)
  | named (name : String)
deriving Repr, DecidableEq

/-- An element of a pattern. -/
inductive Pattern where
  | char (c : Char)
  | one
  | many
  | oneOf (negated : Bool) (members : List Member)
deriving Repr, DecidableEq

namespace Pattern

/-- The sets that have a name. -/
def classes : List (String × (Char → Bool)) :=
  let isGraph (c : Char) : Bool := '!' ≤ c && c ≤ '~'
  [("alnum", Char.isAlphanum), ("alpha", Char.isAlpha), ("blank", fun c => c == ' ' || c == '\t'),
    ("cntrl", fun c => c < ' ' || c == '\x7f'), ("digit", Char.isDigit), ("graph", isGraph),
    ("lower", Char.isLower), ("print", fun c => c == ' ' || isGraph c),
    ("punct", fun c => isGraph c && !c.isAlphanum), ("space", isSpace), ("upper", Char.isUpper),
    ("xdigit", fun c => c.isDigit || ('a' ≤ c.toLower && c.toLower ≤ 'f'))]

/-- The name of a set between colons, after its bracket, and the characters after it. -/
def className? (cs : List (Char × Bool)) : Option (String × List (Char × Bool)) :=
  match cs with
  | (':', _) :: rest =>
    let name := rest.takeWhile fun c => c.1.isAlpha
    match rest.drop name.length with
    | (':', _) :: (']', _) :: after =>
      let name := String.ofList (name.map (·.1))
      if (classes.lookup name).isSome then some (name, after) else none
    | _ => none
  | _ => none

/-- A character of a set, which a backslash quotes. -/
def single : List (Char × Bool) → Option (Char × List (Char × Bool))
  | ('\\', false) :: (c, _) :: rest => some (c, rest)
  | (c, _) :: rest => some (c, rest)
  | [] => none

/-- The members of a set, up to the closing bracket. -/
def members : (fuel : Nat) → (first : Bool) → List (Char × Bool) →
    Option (List Member × List (Char × Bool))
  | 0, _, _ => none
  | fuel + 1, first, cs =>
    let more (m : Member) (rest : List (Char × Bool)) : Option (List Member × List (Char × Bool)) :=
      (members fuel false rest).map fun r => (m :: r.1, r.2)
    match cs with
    | (']', false) :: rest => if first then more (.range ']' ']') rest else some ([], rest)
    | _ =>
      match if cs.head? = some ('[', false) then className? cs.tail else none with
      | some (name, rest) => more (.named name) rest
      | none =>
        match single cs with
        | none => none
        | some (a, rest) =>
          match rest with
          | ('-', false) :: after =>
            if after.head? = some (']', false) then more (.range a a) rest
            else
              match single after with
              | some (b, rest) => more (.range a b) rest
              | none => none
          | _ => more (.range a a) rest

/-- The pattern that characters make up. -/
def ofChars : (fuel : Nat) → List (Char × Bool) → List Pattern
  | 0, _ => []
  | _, [] => []
  | fuel + 1, (c, true) :: cs => .char c :: ofChars fuel cs
  | fuel + 1, (c, false) :: cs =>
    match c with
    | '*' => .many :: ofChars fuel cs
    | '?' => .one :: ofChars fuel cs
    | '\\' =>
      match cs with
      | (d, _) :: rest => .char d :: ofChars fuel rest
      | [] => [.char c]
    | '[' =>
      let (negated, inner) := match cs with
        | ('!', false) :: rest => (true, rest)
        | ('^', false) :: rest => (true, rest)
        | _ => (false, cs)
      match members (inner.length + 1) true inner with
      | some (ms, rest) => .oneOf negated ms :: ofChars fuel rest
      | none => .char c :: ofChars fuel cs
    | _ => .char c :: ofChars fuel cs

/-- The pattern of a text. -/
def ofText (cs : List (Char × Bool)) : List Pattern :=
  ofChars (cs.length + 1) cs

/-- Is there anything in the text that may stand for other characters? -/
def isSpecial (cs : List (Char × Bool)) : Bool :=
  cs.any fun c => !c.2 && (c.1 == '*' || c.1 == '?' || c.1 == '[')

/-- Does the character belong to the member? -/
def Member.has (m : Member) (c : Char) : Bool :=
  match m with
  | .range a b => a ≤ c && c ≤ b
  | .named name => ((classes.lookup name).map fun p => p c).getD false

/-- Does the element stand for the character? -/
def accepts (p : Pattern) (c : Char) : Bool :=
  match p with
  | .char d => c == d
  | .one => true
  | .many => true
  | .oneOf negated ms => ms.any (Member.has · c) != negated

/-- For every end of a text, the text itself first, whether the pattern stands for it. -/
def row : List Pattern → List Char → List Bool
  | [], cs => List.replicate cs.length false ++ [true]
  | .many :: ps, cs => (row ps cs).foldr (fun b later => (b || later.headD false) :: later) []
  | p :: ps, cs => List.zipWith (fun c b => p.accepts c && b) cs (row ps cs).tail ++ [false]

/-- Does the pattern stand for the text?  Up to its first star it is compared character by character. -/
def fits : List Pattern → List Char → Bool
  | [], cs => cs.isEmpty
  | .many :: ps, cs => (row (.many :: ps) cs).headD false
  | _ :: _, [] => false
  | p :: ps, c :: cs => p.accepts c && fits ps cs

/-- The lengths of the ends of a text for which the pattern stands, the longest first. -/
def fittingEnds (ps : List Pattern) (cs : List Char) : List Nat :=
  (row ps cs).zipIdx.filterMap fun (fitting, k) => if fitting then some (cs.length - k) else none

/-- The length of the longest or the shortest end of a text for which the pattern stands. -/
def fittingEnd? (ps : List Pattern) (longest : Bool) (cs : List Char) : Option Nat :=
  if longest then (fittingEnds ps cs).head? else (fittingEnds ps cs).getLast?

/-- Drops a beginning that fits, the shortest or the longest. -/
def dropStart (ps : List Pattern) (longest : Bool) (cs : List Char) : List Char :=
  match fittingEnd? ps.reverse longest cs.reverse with
  | some n => cs.drop n
  | none => cs

/-- Drops an end that fits, the shortest or the longest. -/
def dropEnd (ps : List Pattern) (longest : Bool) (cs : List Char) : List Char :=
  match fittingEnd? ps longest cs with
  | some n => cs.take (cs.length - n)
  | none => cs

end Pattern

end Streamkeeper.StandIn.Shell
