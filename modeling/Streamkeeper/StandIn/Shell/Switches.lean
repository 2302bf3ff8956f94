import Streamkeeper.StandIn.Shell.Characters

/-!
The switches of the command language.

A switch has a letter, a name, or both.  Words that begin with a sign turn switches on and off, until a
word has no sign or ends them.
-/

namespace Streamkeeper.StandIn.Shell

/-- The switches: their letters and their names.  Two have letters that cannot be typed. -/
def switches : List (Char × String) :=
  [('e', "errexit"), ('f', "noglob"), ('I', "ignoreeof"), ('i', "interactive"), ('m', "monitor"),
    ('n', "noexec"), ('s', "stdin"), ('x', "xtrace"), ('v', "verbose"), ('V', "vi"), ('E', "emacs"),
    ('C', "noclobber"), ('a', "allexport"), ('b', "notify"), ('u', "nounset"), ('p', "privileged"),
    ('\x01', "nolog"), ('\x02', "debug")]

/-- What words with signs ask for. -/
structure Switches where
  on : List Char
  /-- Does a script come as an argument? -/
  takesScript : Bool
  /-- What is shown. -/
  listing : List Char
  /-- Do the words after them become the arguments even if there are none? -/
  resets : Bool
  rest : List (List Char)

namespace Switches

/-- Turns a switch on or off. -/
def turn (s : Switches) (letter : Char) (on : Bool) : Switches :=
  let others := s.on.filter (· != letter)
  { s with on := if on then letter :: others else others }

/-- The switches as a list to be read, or as commands. -/
def listingOf (on : List Char) (asList : Bool) : List Char :=
  let line (w : Char × String) : String :=
    if asList then
      let state := if on.contains w.1 then "on" else "off"
      w.2 ++ String.ofList (List.replicate (16 - w.2.length) ' ') ++ state ++ "\n"
    else
      let sign := if on.contains w.1 then "-o" else "+o"
      "set " ++ sign ++ " " ++ w.2 ++ "\n"
  let front := if asList then "Current option settings\n" else ""
  (front ++ String.join (switches.map line)).toList

/-- Goes through the letters of a word.  The error says what is not known. -/
def letters (atStart on : Bool) : List Char → Switches → Except String Switches
  | [], s => .ok s
  | c :: cs, s =>
    if c = 'o' then
      match s.rest with
      | [] =>
        -- No switch is decided about at the start, and all of them show as on.
        let shown := if atStart then switches.map (·.1) else s.on
        letters atStart on cs { s with listing := s.listing ++ listingOf shown on }
      | name :: rest =>
        match switches.find? fun w => w.2 == toName name with
        | some w => letters atStart on cs ({ s with rest := rest }.turn w.1 on)
        | none => .error s!"Illegal option -o {toName name}"
    else if atStart ∧ c = 'c' then letters atStart on cs { s with takesScript := true }
    else if atStart ∧ c = 'l' then letters atStart on cs s
    else if ' ' ≤ c ∧ (switches.lookup c).isSome then letters atStart on cs (s.turn c on)
    else .error s!"Illegal option -{toName [c]}"

/-- Goes through words as long as they have signs. -/
def words (atStart : Bool) : (fuel : Nat) → Switches → Except String Switches
  | 0, s => .ok s
  | fuel + 1, s =>
    match s.rest with
    | ['-'] :: rest =>
      let s := { s with rest := rest }
      .ok (if atStart then s else (s.turn 'x' false).turn 'v' false)
    | ['-', '-'] :: rest => .ok { s with rest := rest, resets := true }
    | ('-' :: cs) :: rest => do words atStart fuel (← letters atStart true cs { s with rest := rest })
    | ('+' :: cs) :: rest => do words atStart fuel (← letters atStart false cs { s with rest := rest })
    | _ => .ok s

/-- Reads switches at the beginning of words, from those that are on already. -/
def read (atStart : Bool) (on : List Char) (ws : List (List Char)) : Except String Switches :=
  words atStart (ws.length + 1) ⟨on, false, [], false, ws⟩

end Switches

end Streamkeeper.StandIn.Shell
