import Streamkeeper.Proofs.Session.Run

/-!
# Sessions — the entries of a registry

`Registry.WellFormed` speaks of lookups, which see the first entry of a key only.  `Consistent` says
the same of the entries themselves, all of them, as they stand in the two levels of tables: each is
filed under its own key, no multi-session is empty, and no instance stands in two of them.  So
whichever entry a search through all directories meets first, there is no other that it could have
met.

`run_consistent`: every run of calls from an empty registry leads to a consistent one, whatever
the calls are and whether they succeed.
-/

namespace Streamkeeper.Registry

/-- What holds of the entries of a registry. -/
structure Consistent (r : Registry) : Prop where
  /-- Neither level has two entries of one key. -/
  distinct : r.directories.keys.Nodup ∧ ∀ e ∈ r.directories, e.2.sessions.keys.Nodup
  /-- A multi-session stands under its own directory. -/
  directory : ∀ e ∈ r.directories, e.1 = e.2.directory
  /-- A multi-session has a session. -/
  occupied : ∀ e ∈ r.directories, e.2.sessions ≠ []
  /-- A session stands under the instance of its own scope. -/
  instanceId : ∀ e ∈ r.directories, ∀ s ∈ e.2.sessions, s.1 = s.2.scope.instanceId
  /-- No instance stands in two multi-sessions. -/
  single : r.directories.Pairwise fun e e' => e.2.sessions.keys.Disjoint e'.2.sessions.keys

variable {r : Registry}

/-- While keys are distinct, lookups see every entry. -/
theorem WellFormed.consistent (h : r.WellFormed) : r.Consistent := by
  have lookup : ∀ e ∈ r.directories, r.multiSession? e.1 = some e.2 :=
    fun e he => (Table.mem_iff_get? h.distinct).mp he
  refine ⟨⟨h.distinct, fun e he => ?_⟩, fun e he => ?_, fun e he => ?_, fun e he s hs => ?_, ?_⟩
  · exact (h.multi (lookup e he)).distinct
  · exact (h.filed (lookup e he)).symm
  · exact (h.multi (lookup e he)).occupied
  · have hm := h.multi (lookup e he)
    have ht : e.2.session? s.1 = some s.2 := (Table.mem_iff_get? hm.distinct).mp hs
    exact (hm.filed ht).symm
  · -- a shared instance would be tracked in both, which lookups exclude
    refine (List.pairwise_map.mp h.pairwise_values).imp fun {e e'} hne i hi hi' => ?_
    have ht : e.2.tracks i = true := (Table.isSome_get?_iff _ _).mpr hi
    have ht' : e'.2.tracks i = true := (Table.isSome_get?_iff _ _).mpr hi'
    exact Bool.false_ne_true ((hne i ht).symm.trans ht')

/-- A run keeps what every call keeps. -/
theorem WellFormed.runCalls (h : r.WellFormed) (calls : List Call) :
    (runCalls Registry.call r calls).1.WellFormed := by
  induction calls generalizing r with
  | nil => exact h
  | cons c calls ih => exact ih (h.call c)

/-- **The entries stay consistent.**  After every run of starts, stops and shutdowns from an empty
registry, whether they succeed or fail, every multi-session stands under its own directory and has a
session, every session stands under its own instance, and no instance stands in two
multi-sessions. -/
theorem run_consistent (config : SessionConfig) (calls : List Call) :
    (runCalls Registry.call (empty config) calls).1.Consistent :=
  ((wellFormed_empty config).runCalls calls).consistent

end Streamkeeper.Registry
