import Streamkeeper.Json.Canonical
import Streamkeeper.Json.Printer

/-!
The settings that every streaming session gets.
-/

namespace Streamkeeper

/-- Settings of a streaming session.  The cache capacity counts octets. -/
structure SessionConfig where
  verbosity : Nat
  debug : Bool
  singlethreaded : Bool
  stats : Bool
  quiet : Bool
  check : Bool
  cacheCapacity : Nat
  cleanupTimeout : Nat
  accessIdleTimeout : Nat
  manifestUpdaterThreads : Nat
  fileChangeWait : Nat
deriving Repr, DecidableEq

namespace SessionConfig

/-- The settings without options. -/
def default : SessionConfig where
  verbosity := 2
  debug := false
  singlethreaded := false
  stats := false
  quiet := false
  check := false
  cacheCapacity := 150 * Nat.pow 2 30
  cleanupTimeout := 300
  accessIdleTimeout := 5
  manifestUpdaterThreads := 4
  fileChangeWait := 500

instance : Inhabited SessionConfig := ⟨default⟩

/-- Settings as a JSON object. -/
def toJson (c : SessionConfig) : Json :=
  .object
    [("verbosity", .nat c.verbosity), ("debug", .bool c.debug),
      ("singlethreaded", .bool c.singlethreaded), ("stats", .bool c.stats),
      ("quiet", .bool c.quiet), ("check", .bool c.check),
      ("cache_capacity", .nat c.cacheCapacity), ("cleanup_timeout_sec", .nat c.cleanupTimeout),
      ("access_idle_timeout_sec", .nat c.accessIdleTimeout),
      ("manifest_updater_threads", .nat c.manifestUpdaterThreads),
      ("file_change_wait_duration_ms", .nat c.fileChangeWait)]

end SessionConfig

end Streamkeeper
