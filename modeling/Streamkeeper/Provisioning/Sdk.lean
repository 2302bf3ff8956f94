import Streamkeeper.Host.Environment

/-!
Where the provisioning tool lies.

With an SDK directory, given or named by the environment, the tool lies in its developer binaries;
without one it is looked up by its name.
-/

namespace Streamkeeper.Provisioning

/-- The variable that names the SDK directory. -/
def sdkVariable : String := "GGP_SDK_PATH"

/-- The file of the tool. -/
def toolFile : String := "ggp"

/-- The directory of the developer binaries, if an SDK directory is known. -/
def binDir? (env : Host.Environment) (sdkDir : Option String) : Option String :=
  (sdkDir.or (env.nonEmpty? sdkVariable)).map fun root =>
    Host.Path.join (Host.Path.join root "dev") "bin"

/-- The path of the tool. -/
def toolPath (env : Host.Environment) (sdkDir : Option String) : String :=
  match binDir? env sdkDir with
  | some dir => Host.Path.join dir toolFile
  | none => toolFile

end Streamkeeper.Provisioning
