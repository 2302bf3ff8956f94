import Mathlib.Data.List.Sigma
import Streamkeeper.Proofs.Table
import Streamkeeper.Session.Registry

/-!
# Sessions — the registry read by directory and instance

A registry is a table of tables, and every question it answers is a lookup in two steps: the
multi-session of a directory, and in it the session of an instance (`Registry.target?`).  A
*well-formed* registry files every multi-session under its directory and every session under its
instance, keeps no empty multi-session, and holds no instance twice (`Registry.WellFormed`).

In a well-formed registry the search for an instance through all directories finds the one that
holds it (`find?_eq_some_iff`), so an instance has at most one session
(`session?_eq_some_iff`), and the sessions listed directory by directory are exactly those
(`mem_sessions`), each once (`nodupKeys_sessions`); those of one directory are its multi-session
(`perm_sessionsIn`).
-/

namespace Streamkeeper

/-- A session with the directory that it streams. -/
structure Session where
  directory : String
  target : SessionTarget
deriving Repr, DecidableEq

/-- A multi-session has a session, and files each once, under its own instance. -/
structure MultiSession.WellFormed (m : MultiSession) : Prop where
  occupied : m.sessions ≠ []
  distinct : m.sessions.keys.Nodup
  filed : ∀ {i t}, m.session? i = some t → t.scope.instanceId = i

namespace Registry

/-- The session of an instance in a directory. -/
def target? (r : Registry) (directory instanceId : String) : Option SessionTarget :=
  (r.multiSession? directory).bind fun m => m.session? instanceId

/-- Every multi-session is well-formed and filed once, under its own directory, and no two
directories have a session of the same instance. -/
structure WellFormed (r : Registry) : Prop where
  distinct : r.directories.keys.Nodup
  filed : ∀ {d m}, r.multiSession? d = some m → m.directory = d
  multi : ∀ {d m}, r.multiSession? d = some m → m.WellFormed
  single : ∀ {d d' i t t'}, r.target? d i = some t → r.target? d' i = some t' → d = d'

/-- The session of an instance, with its directory. -/
def session? (r : Registry) (instanceId : String) : Option Session :=
  (r.tracked? instanceId).map fun (m, t) => ⟨m.directory, t⟩

/-- All sessions with their instances, directory by directory. -/
def sessions (r : Registry) : List (Sigma fun _ : String => Session) :=
  r.directories.values.flatMap fun m => m.sessions.map fun (i, t) => ⟨i, m.directory, t⟩

/-- The sessions that stream a directory. -/
def sessionsIn (r : Registry) (directory : String) : List (Sigma fun _ : String => Session) :=
  r.sessions.filter fun e => e.2.directory = directory

end Registry

theorem MultiSession.tracks_iff {m : MultiSession} {i : String} :
    m.tracks i = true ↔ ∃ t, m.session? i = some t :=
  Option.isSome_iff_exists

theorem MultiSession.tracks_of_session? {m : MultiSession} {i : String} {t : SessionTarget}
    (h : m.session? i = some t) : m.tracks i = true :=
  MultiSession.tracks_iff.mpr ⟨t, h⟩

namespace Registry

variable {r : Registry}

theorem target?_eq_some_iff {d i : String} {t : SessionTarget} :
    r.target? d i = some t ↔ ∃ m, r.multiSession? d = some m ∧ m.session? i = some t :=
  Option.bind_eq_some_iff

theorem target?_of_multiSession? {d : String} {m : MultiSession} (h : r.multiSession? d = some m)
    (i : String) : r.target? d i = m.session? i := by
  rw [target?, h, Option.bind_some]

/-- Two directories whose multi-sessions track the same instance are one directory. -/
theorem WellFormed.eq_of_tracks (h : r.WellFormed) {d d' i : String} {m m' : MultiSession}
    (hl : r.multiSession? d = some m) (hl' : r.multiSession? d' = some m')
    (ht : m.tracks i = true) (ht' : m'.tracks i = true) : d = d' := by
  obtain ⟨t, ht⟩ := MultiSession.tracks_iff.mp ht
  obtain ⟨t', ht'⟩ := MultiSession.tracks_iff.mp ht'
  exact h.single ((target?_of_multiSession? hl i).trans ht)
    ((target?_of_multiSession? hl' i).trans ht')

/-! ### The search through all directories -/

theorem WellFormed.mem_values_iff (h : r.WellFormed) {m : MultiSession} :
    m ∈ r.directories.values ↔ r.multiSession? m.directory = some m := by
  constructor
  · intro hm
    obtain ⟨⟨d, m'⟩, hd, rfl⟩ := List.mem_map.mp hm
    have hl : r.multiSession? d = some m' := (Table.mem_iff_get? h.distinct).mp hd
    rw [h.filed hl]
    exact hl
  · intro hm
    exact List.mem_map.mpr ⟨(m.directory, m), Table.mem_of_get? hm, rfl⟩

/-- A search for a multi-session of one instance finds the one that answers to it, whatever else
the search asks of it: there is no second one that tracks the instance. -/
theorem WellFormed.find?_values_eq_some_iff (h : r.WellFormed) {i : String}
    {asks : MultiSession → Bool} (hasks : ∀ m, asks m = true → m.tracks i = true)
    {m : MultiSession} :
    r.directories.values.find? asks = some m ↔
      r.multiSession? m.directory = some m ∧ asks m = true := by
  constructor
  · intro hf
    exact ⟨h.mem_values_iff.mp (List.mem_of_find?_eq_some hf), List.find?_some hf⟩
  · rintro ⟨hl, ha⟩
    cases hf : r.directories.values.find? asks with
    | none => exact absurd ha (List.find?_eq_none.mp hf m (h.mem_values_iff.mpr hl))
    | some m' =>
        have hl' := h.mem_values_iff.mp (List.mem_of_find?_eq_some hf)
        have hd : m'.directory = m.directory :=
          h.eq_of_tracks hl' hl (hasks m' (List.find?_some hf)) (hasks m ha)
        rw [hd, hl] at hl'
        exact hl'.symm

theorem WellFormed.find?_eq_some_iff (h : r.WellFormed) {i : String} {m : MultiSession} :
    r.find? i = some m ↔ r.multiSession? m.directory = some m ∧ m.tracks i = true :=
  h.find?_values_eq_some_iff fun _ hm => hm

theorem WellFormed.tracked?_eq_some_iff (h : r.WellFormed) {i : String} {m : MultiSession}
    {t : SessionTarget} :
    r.tracked? i = some (m, t) ↔
      r.multiSession? m.directory = some m ∧ m.session? i = some t := by
  unfold tracked?
  simp only [Option.bind_eq_some_iff, Option.map_eq_some_iff, Prod.mk.injEq]
  constructor
  · rintro ⟨m', hf, t', ht, rfl, rfl⟩
    exact ⟨(h.find?_eq_some_iff.mp hf).1, ht⟩
  · rintro ⟨hl, ht⟩
    exact ⟨m, h.find?_eq_some_iff.mpr ⟨hl, MultiSession.tracks_of_session? ht⟩, t, ht, rfl, rfl⟩

theorem WellFormed.session?_eq_some_iff (h : r.WellFormed) {i : String} {s : Session} :
    r.session? i = some s ↔ r.target? s.directory i = some s.target := by
  rw [target?_eq_some_iff]
  simp only [session?, Option.map_eq_some_iff, Prod.exists, h.tracked?_eq_some_iff]
  constructor
  · rintro ⟨m, t, ⟨hl, ht⟩, rfl⟩
    exact ⟨m, hl, ht⟩
  · rintro ⟨m, hl, ht⟩
    have hd := h.filed hl
    exact ⟨m, s.target, ⟨hd.symm ▸ hl, ht⟩, by rw [hd]⟩

/-- The multi-session that an instance is found in is the one of its session's directory. -/
theorem WellFormed.find?_eq (h : r.WellFormed) (i : String) :
    r.find? i = (r.session? i).bind fun s => r.multiSession? s.directory := by
  ext m
  rw [Option.bind_eq_some_iff, h.find?_eq_some_iff]
  constructor
  · rintro ⟨hl, ht⟩
    obtain ⟨t, ht⟩ := MultiSession.tracks_iff.mp ht
    exact ⟨⟨m.directory, t⟩, h.session?_eq_some_iff.mpr (target?_eq_some_iff.mpr ⟨m, hl, ht⟩), hl⟩
  · rintro ⟨s, hs, hl⟩
    obtain ⟨m', hl', ht⟩ := target?_eq_some_iff.mp (h.session?_eq_some_iff.mp hs)
    obtain rfl : m' = m := Option.some.inj (hl'.symm.trans hl)
    rw [h.filed hl]
    exact ⟨hl, MultiSession.tracks_of_session? ht⟩

theorem WellFormed.directory_find? (h : r.WellFormed) (i : String) :
    (r.find? i).map (·.directory) = (r.session? i).map (·.directory) := by
  rw [h.find?_eq]
  cases hs : r.session? i with
  | none => rfl
  | some s =>
      obtain ⟨m, hl, -⟩ := target?_eq_some_iff.mp (h.session?_eq_some_iff.mp hs)
      rw [Option.bind_some, hl, Option.map_some, Option.map_some, h.filed hl]

theorem WellFormed.isSome_find? (h : r.WellFormed) (i : String) :
    (r.find? i).isSome = (r.session? i).isSome := by
  have hd := congrArg Option.isSome (h.directory_find? i)
  rwa [Option.isSome_map, Option.isSome_map] at hd

/-- A session is filed under the instance of its own scope. -/
theorem WellFormed.instanceId_of_session? (h : r.WellFormed) {i : String} {s : Session}
    (hs : r.session? i = some s) : s.target.scope.instanceId = i := by
  obtain ⟨m, hl, ht⟩ := target?_eq_some_iff.mp (h.session?_eq_some_iff.mp hs)
  exact (h.multi hl).filed ht

/-! ### All sessions -/

theorem WellFormed.mem_sessions (h : r.WellFormed) {i : String} {s : Session} :
    ⟨i, s⟩ ∈ r.sessions ↔ r.session? i = some s := by
  rw [h.session?_eq_some_iff, target?_eq_some_iff]
  simp only [sessions, List.mem_flatMap, List.mem_map, Prod.exists, h.mem_values_iff]
  constructor
  · rintro ⟨m, hl, j, t, hm, he⟩
    cases he
    exact ⟨m, hl, (Table.mem_iff_get? (h.multi hl).distinct).mp hm⟩
  · rintro ⟨m, hl, ht⟩
    have hd := h.filed hl
    refine ⟨m, hd ▸ hl, i, s.target, Table.mem_of_get? ht, ?_⟩
    rw [hd]

theorem WellFormed.pairwise_values (h : r.WellFormed) :
    r.directories.values.Pairwise fun m m' => ∀ i, m.tracks i = true → m'.tracks i = false := by
  have hd : r.directories.Pairwise fun e e' => e.1 ≠ e'.1 := List.pairwise_map.mp h.distinct
  refine List.pairwise_map.mpr (hd.imp_of_mem fun {e e'} he he' hne i ht => ?_)
  have hl : r.multiSession? e.1 = some e.2 := (Table.mem_iff_get? h.distinct).mp he
  have hl' : r.multiSession? e'.1 = some e'.2 := (Table.mem_iff_get? h.distinct).mp he'
  by_contra ht'
  exact hne (h.eq_of_tracks hl hl' ht (by simpa using ht'))

/-- No instance is listed twice: neither in one directory nor in two. -/
theorem WellFormed.nodupKeys_sessions (h : r.WellFormed) : r.sessions.NodupKeys := by
  have hkeys : r.sessions.keys = r.directories.values.flatMap fun m => m.sessions.keys := by
    simp [sessions, List.keys, List.map_flatMap, Table.keys, Function.comp_def]
  unfold List.NodupKeys
  rw [hkeys, List.nodup_flatMap]
  constructor
  · intro m hm
    exact (h.multi (h.mem_values_iff.mp hm)).distinct
  · refine h.pairwise_values.imp fun {m m'} hne i hi hi' => ?_
    have ht : m.tracks i = true := (Table.isSome_get?_iff _ _).mpr hi
    have ht' : m'.tracks i = true := (Table.isSome_get?_iff _ _).mpr hi'
    rw [hne i ht] at ht'
    cases ht'

/-- The one session of an instance, among all. -/
theorem WellFormed.filter_sessions (h : r.WellFormed) (i : String) :
    (r.sessions.filter fun e => e.1 = i) = ((r.session? i).map fun s => ⟨i, s⟩).toList := by
  cases hs : r.session? i with
  | none =>
      refine List.filter_eq_nil_iff.mpr fun e he hi => ?_
      obtain rfl : e.1 = i := of_decide_eq_true hi
      rw [h.mem_sessions.mp he] at hs
      cases hs
  | some s =>
      have hn : (r.sessions.filter fun e => e.1 = i).Nodup := h.nodupKeys_sessions.nodup.filter _
      refine List.perm_singleton.mp ?_
      refine (List.perm_ext_iff_of_nodup hn (List.nodup_singleton _)).mpr ?_
      rintro ⟨j, s'⟩
      rw [List.mem_filter, h.mem_sessions, decide_eq_true_eq, List.mem_singleton]
      constructor
      · rintro ⟨hs', rfl⟩
        rw [Option.some.inj (hs.symm.trans hs')]
      · intro he
        cases he
        exact ⟨hs, rfl⟩

/-- The multi-session of a directory holds the sessions that stream it, each once. -/
theorem WellFormed.perm_sessionsIn (h : r.WellFormed) {d : String} {m : MultiSession}
    (hl : r.multiSession? d = some m) :
    (m.sessions.map fun e => (⟨e.1, d, e.2⟩ : Sigma fun _ : String => Session)).Perm
      (r.sessionsIn d) := by
  have hm := h.multi hl
  have hn : (m.sessions.map fun e => (⟨e.1, d, e.2⟩ : Sigma fun _ : String => Session)).Nodup :=
    List.Nodup.of_map Sigma.fst (by rw [List.map_map]; exact hm.distinct)
  have hn' : (r.sessionsIn d).Nodup := h.nodupKeys_sessions.nodup.filter _
  refine (List.perm_ext_iff_of_nodup hn hn').mpr ?_
  rintro ⟨i, s⟩
  rw [sessionsIn, List.mem_filter, h.mem_sessions, h.session?_eq_some_iff, decide_eq_true_eq]
  constructor
  · intro hmem
    obtain ⟨⟨j, t⟩, ht, he⟩ := List.mem_map.mp hmem
    cases he
    have ht := (Table.mem_iff_get? hm.distinct).mp ht
    exact ⟨(target?_of_multiSession? hl j).trans ht, rfl⟩
  · rintro ⟨ht, rfl⟩
    rw [target?_of_multiSession? hl] at ht
    exact List.mem_map.mpr ⟨(i, s.target), Table.mem_of_get? ht, rfl⟩

theorem WellFormed.length_sessionsIn (h : r.WellFormed) {d : String} {m : MultiSession}
    (hl : r.multiSession? d = some m) : (r.sessionsIn d).length = m.sessions.length := by
  rw [← (h.perm_sessionsIn hl).length_eq, List.length_map]

end Registry

end Streamkeeper
