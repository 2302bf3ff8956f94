import Streamkeeper.StandIn.CommandLine.Reading
import Streamkeeper.StandIn.Directories
import Streamkeeper.StandIn.Program
import Streamkeeper.StandIn.Setting
import Streamkeeper.StandIn.Standard

/-!
# Stand-ins — what the program meets on a host

The library is about a daemon, its clients, and what they say to each other.  Around them is a host
with programs of its own, and with rules for reading a command line and for where a user's files
lie.  None of that belongs to the library.  What it needs to know of it comes in as a parameter
(`Daemon.Setting`, `Host.Directories`, `CommandLine.Invocation`), and no theorem is about it.

The modules below this one play these parts, so that a whole command can be carried out on a host
that is kept in memory.  Only `Streamkeeper.Main` imports them.

* `StandIn.Shell` is a script interpreter with the tools that scripts call.  It plays the
  provisioning tool, and whatever else is started as a process.
* `StandIn.Standard` holds the files of a host, and `StandIn.Program` runs its programs.
* `StandIn.CommandLine` reads the words of a command line.
* `StandIn.Directories` finds the directories of a user by the environment variables.
* `StandIn.Setting` makes them the host of a daemon.
-/
