import Streamkeeper.Proofs.Session.Flat
import Streamkeeper.Proofs.Text.Order

/-!
# Sessions — the status, read from the lookups

A status lists the sessions that are tracked, each once, in the order of the octets of their instance
ids (`WellFormed.listed`).  No two of them have one id, so the order leaves no choice: registries that
look up every instance alike have the same status (`WellFormed.status_congr`), however their tables
are filled.
-/

namespace Streamkeeper.Registry

variable {r r' : Registry}

/-- What a status lists. -/
structure Listed (r : Registry) : Prop where
  /-- The instance ids increase strictly, octet by octet. -/
  increasing : r.status.sessions.Pairwise fun s s' => octets s.instanceId < octets s'.instanceId
  /-- An instance is listed once if it is tracked, as what it is tracked as, and not at all
  otherwise. -/
  once : ∀ i, (r.status.sessions.filter fun s => s.instanceId = i) =
    ((r.session? i).map (Session.summary i)).toList
  /-- The list is as long as both counts say. -/
  count : r.status.sessionCount = r.status.sessions.length ∧
    r.status.sessionCount = r.sessionCount

/-- Registries that look up every instance alike have the same sessions. -/
theorem WellFormed.perm_sessions (h : r.WellFormed) (h' : r'.WellFormed)
    (hs : ∀ i, r.session? i = r'.session? i) : r.sessions.Perm r'.sessions := by
  refine (List.perm_ext_iff_of_nodup h.nodupKeys_sessions.nodup h'.nodupKeys_sessions.nodup).mpr ?_
  rintro ⟨i, s⟩
  rw [h.mem_sessions, h'.mem_sessions, hs]

/-- A report names the instance that the session is filed under. -/
theorem WellFormed.summaries_eq_map (h : r.WellFormed) :
    r.summaries = r.sessions.map fun e => e.2.summary e.1 := by
  rw [summaries_eq]
  refine List.map_congr_left fun e he => ?_
  have hi := h.instanceId_of_session? (h.mem_sessions.mp he)
  rw [summary, Session.summary, hi]

theorem perm_status (r : Registry) : r.status.sessions.Perm r.summaries :=
  List.mergeSort_perm _ _

/-! ### Sorted, and without repetition -/

theorem sorted_status (r : Registry) :
    r.status.sessions.Pairwise fun s s' => s.instanceId ≤ s'.instanceId := by
  have htrans : ∀ a b c : SessionSummary, decide (a.instanceId ≤ b.instanceId) →
      decide (b.instanceId ≤ c.instanceId) → decide (a.instanceId ≤ c.instanceId) := by
    intro a b c hab hbc
    exact decide_eq_true (String.le_trans (of_decide_eq_true hab) (of_decide_eq_true hbc))
  have htotal : ∀ a b : SessionSummary,
      decide (a.instanceId ≤ b.instanceId) || decide (b.instanceId ≤ a.instanceId) := by
    intro a b
    simpa using String.le_total a.instanceId b.instanceId
  have hsorted : r.status.sessions.Pairwise fun s s' => decide (s.instanceId ≤ s'.instanceId) :=
    List.pairwise_mergeSort htrans htotal r.summaries
  exact hsorted.imp of_decide_eq_true

theorem WellFormed.nodup_summaries (h : r.WellFormed) :
    (r.summaries.map (·.instanceId)).Nodup := by
  rw [h.summaries_eq_map, List.map_map]
  exact h.nodupKeys_sessions

theorem WellFormed.increasing_status (h : r.WellFormed) :
    r.status.sessions.Pairwise fun s s' => octets s.instanceId < octets s'.instanceId := by
  have hn : (r.status.sessions.map (·.instanceId)).Nodup :=
    ((perm_status r).map _).nodup_iff.mpr h.nodup_summaries
  exact (sorted_status r).imp₂
    (fun _ _ hle hne => octets_lt_octets_iff.mpr (Std.lt_of_le_of_ne hle hne))
    (List.pairwise_map.mp hn)

/-- The one report on an instance, among all. -/
theorem WellFormed.filter_status (h : r.WellFormed) (i : String) :
    (r.status.sessions.filter fun s => s.instanceId = i) =
      ((r.session? i).map (Session.summary i)).toList := by
  have hf : (r.summaries.filter fun s => s.instanceId = i) =
      ((r.session? i).map (Session.summary i)).toList := by
    rw [h.summaries_eq_map, List.filter_map]
    have hkey : ((fun s : SessionSummary => decide (s.instanceId = i)) ∘
        fun e : Sigma fun _ : String => Session => e.2.summary e.1) = fun e => decide (e.1 = i) := rfl
    rw [hkey, h.filter_sessions]
    cases r.session? i <;> rfl
  have hp := (perm_status r).filter fun s => s.instanceId = i
  rw [hf] at hp
  -- a list of at most one report is determined by what is in it
  cases hs : r.session? i with
  | none =>
      rw [hs] at hp
      exact List.perm_nil.mp hp
  | some s =>
      rw [hs] at hp
      exact List.perm_singleton.mp hp

theorem WellFormed.listed (h : r.WellFormed) : r.Listed where
  increasing := h.increasing_status
  once := h.filter_status
  count := by
    refine ⟨rfl, ?_⟩
    change r.status.sessions.length = r.sessionCount
    rw [(perm_status r).length_eq, summaries_eq, List.length_map, sessionCount_eq]

/-! ### Determined by the lookups -/

/-- The status follows from what the instances are tracked as. -/
theorem WellFormed.status_congr (h : r.WellFormed) (h' : r'.WellFormed)
    (hc : r.config = r'.config) (hs : ∀ i, r.session? i = r'.session? i) :
    r.status = r'.status := by
  have hsum : r.summaries.Perm r'.summaries := by
    rw [h.summaries_eq_map, h'.summaries_eq_map]
    exact (h.perm_sessions h' hs).map _
  have hperm : r.status.sessions.Perm r'.status.sessions :=
    (perm_status r).trans (hsum.trans (perm_status r').symm)
  have hlist : r.status.sessions = r'.status.sessions :=
    hperm.eq_of_pairwise (fun _ _ _ _ hlt hgt => absurd hgt (List.lt_asymm hlt))
      h.increasing_status h'.increasing_status
  have hcount : r.status.sessionCount = r'.status.sessionCount := congrArg List.length hlist
  have hconfig : r.status.config = r'.status.config :=
    congrArg (fun c : SessionConfig => c.toJson.canonical) hc
  calc r.status = ⟨r.status.sessionCount, r.status.sessions, r.status.config⟩ := rfl
    _ = ⟨r'.status.sessionCount, r'.status.sessions, r'.status.config⟩ := by
      rw [hlist, hcount, hconfig]
    _ = r'.status := rfl

end Streamkeeper.Registry
