import Streamkeeper.StandIn.Shell.Tool.Editing
import Streamkeeper.StandIn.Shell.Tool.Exchange
import Streamkeeper.StandIn.Shell.Tool.Filing
import Streamkeeper.StandIn.Shell.Tool.Order
import Streamkeeper.StandIn.Shell.Tool.Selection

/-!
The tools by their names.
-/

namespace Streamkeeper.StandIn.Shell.Tool

/-- A tool with options that reads its standard input when no file is named. -/
def filter (name : String) (g : Grammar) (run : Invocation → Options → Reply) : Tool where
  appetite args := match options name g (args.length + 1) args with
    | .ok o => whenNoFiles o.operands
    | .error _ => .nothing
  octetwise? _ := none
  run := withOptions g (if name = "sort" then 2 else 1) run

/-- A tool with options that reads nothing. -/
def worker (name plain valued : String) (long : List (String × Char))
    (run : Invocation → Options → Reply) : String × Tool :=
  (name, silent (withOptions ⟨plain, valued, long⟩ 1 run))

/-- Gives the first word of a call the usual form of its flag. -/
def withUsualFlag (change : List (List Char) → List (List Char)) (t : Tool) : Tool where
  appetite args := t.appetite (change args)
  octetwise? _ := none
  run i := t.run { i with arguments := change i.arguments }

/-- The options of tools that have none. -/
def noOptions : Grammar := ⟨"", "", []⟩

/-- The tools. -/
def table : List (String × Tool) :=
  [("echo", silent echo), ("printf", silent printf),
    ("cat",
      { filter "cat" catGrammar cat with
        octetwise? := fun args => if args.isEmpty || args == [['-']] then some some else none }),
    ("head", { withUsualFlag withOldFlag (filter "head" extentGrammar head) with appetite := headAppetite }),
    ("tail", withUsualFlag (fun ws => withOldPlus (withOldFlag ws)) (filter "tail" extentGrammar tail)), ("seq", silent seq),
    ("tr", ⟨fun _ => .everything, trOctetwise, tr⟩), ("wc", filter "wc" countGrammar wc),
    worker "yes" "" "" [] yes, ("dd", ⟨ddAppetite blockSize?, fun _ => none, dd blockSize?⟩),
    ("sleep", silent sleep), ("test", silent test), ("[", silent test),
    ("true", silent fun i => .outcome i 0), ("false", silent fun i => .outcome i 1),
    ("tac", filter "tac" noOptions tac), ("rev", filter "rev" noOptions rev),
    ("cut", filter "cut" cutGrammar cut), ("sort", filter "sort" sortGrammar sort),
    ("uniq", filter "uniq" uniqGrammar uniq), worker "basename" "az" "s" [("multiple", 'a'), ("suffix", 's')] baseName,
    ("dirname", silent dirName), ("pwd", silent pwd), ("printenv", silent printEnvironment),
    ("whoami", silent userName), worker "mkdir" "pv" "m" [("parents", 'p'), ("mode", 'm')] mkdir,
    worker "rmdir" "pv" "" [] rmdir,
    worker "rm" "rRfdvi" "" [("recursive", 'r'), ("force", 'f'), ("dir", 'd')] rm,
    worker "touch" "acm" "drt" [("no-create", 'c')] touch, ("chmod", silent fun i => chmod i ⟨[], []⟩),
    worker "cp" "rRafpvdi" "" [("recursive", 'r'), ("archive", 'a')] cp,
    worker "mv" "fvin" "" [("force", 'f')] mv,
    worker "ln" "sfvn" "" [("symbolic", 's'), ("force", 'f')] ln,
    ("ls", silent (withOptions lsGrammar 2 ls)),
    ("grep", ⟨grepAppetite, fun _ => none, grepCall⟩),
    ("sed", ⟨sedAppetite, fun _ => none, withOptions sedGrammar 1 sed⟩),
    ("tee", greedy (withOptions ⟨"aip", "", [("append", 'a')]⟩ 1 tee))]

end Streamkeeper.StandIn.Shell.Tool
