import Streamkeeper.Proofs.Session.Independence

/-!
# Sessions — the order of the tables does not show

A table is a list here, and a search through all directories takes the first multi-session that
answers.  Another implementation of tables may go through their entries in another order, and in
another one at each call.  `Reordered` relates a registry to one that has the entries of either
level in any order, and a run may put such a registry in the place of its own whenever it likes
(`Enumerated`).

No instance has two sessions, so every search has one answer and every list is the same up to its
order; and the status is sorted by instance ids, of which no two are equal.  So the lookups are the
same (`Reordered.session?`), the registry represents the same flat map all along
(`Enumerated.represents`), and two runs of the same calls cannot be told apart
(`enumeration_unobservable`).
-/

namespace Streamkeeper

open Telemetry (StartStatus)

/-- The same multi-session, with its sessions in any order. -/
structure MultiSession.Reordered (m m' : MultiSession) : Prop where
  directory : m.directory = m'.directory
  serial : m.serial = m'.serial
  sessions : m.sessions.Perm m'.sessions

theorem MultiSession.Reordered.session? {m m' : MultiSession} (h : m.Reordered m')
    (hd : m.sessions.keys.Nodup) (i : String) : m.session? i = m'.session? i :=
  Table.get?_perm hd h.sessions i

theorem MultiSession.Reordered.wellFormed {m m' : MultiSession} (h : m.Reordered m')
    (hm : m.WellFormed) : m'.WellFormed where
  occupied := fun hn => hm.occupied (List.perm_nil.mp (hn ▸ h.sessions))
  distinct := (h.sessions.map Prod.fst).nodup hm.distinct
  filed := fun ht => hm.filed ((h.session? hm.distinct _).trans ht)

namespace Registry

/-- The same registry, with the directories in any order, and the sessions of each in any order. -/
structure Reordered (r r' : Registry) : Prop where
  config : r.config = r'.config
  nextSerial : r.nextSerial = r'.nextSerial
  directories : ∃ inner : MultiSession → MultiSession, (∀ m : MultiSession, m.Reordered (inner m)) ∧
    (r.directories.map fun e => (e.1, inner e.2)).Perm r'.directories

/-- The registries that calls lead to if the tables may be reordered at any time, with the answers
that were given. -/
inductive Enumerated (config : SessionConfig) : List Call → List Answer → Registry → Prop where
  | empty : Enumerated config [] [] (Registry.empty config)
  | call {cs as r} (h : Enumerated config cs as r) (c : Call) :
      Enumerated config (cs ++ [c]) (as ++ [(r.call c).2]) (r.call c).1
  | reorder {cs as r r'} (h : Enumerated config cs as r) (hr : r.Reordered r') :
      Enumerated config cs as r'

variable {r r' : Registry}

/-! ### Lookups in a reordered registry -/

namespace Reordered

theorem multiSession? {inner : MultiSession → MultiSession} (hw : r.WellFormed)
    (hp : (r.directories.map fun e => (e.1, inner e.2)).Perm r'.directories) (d : String) :
    r'.multiSession? d = (r.multiSession? d).map inner := by
  have hn := hw.distinct
  rw [← Table.keys_map inner] at hn
  rw [Registry.multiSession?, Registry.multiSession?, ← Table.get?_perm hn hp, Table.get?_map]

theorem target? (h : r.Reordered r') (hw : r.WellFormed) (d i : String) :
    r'.target? d i = r.target? d i := by
  obtain ⟨inner, hinner, hp⟩ := h.directories
  rw [Registry.target?, Registry.target?, multiSession? hw hp]
  cases hl : r.multiSession? d with
  | none => rfl
  | some m => exact ((hinner m).session? (hw.multi hl).distinct i).symm

/-- The entries are the same at either level, so what holds of all of them holds still. -/
theorem wellFormed (h : r.Reordered r') (hw : r.WellFormed) : r'.WellFormed := by
  obtain ⟨inner, hinner, hp⟩ := h.directories
  have hlookup : ∀ {d m'}, r'.multiSession? d = some m' →
      ∃ m, r.multiSession? d = some m ∧ inner m = m' := fun hl =>
    Option.map_eq_some_iff.mp ((multiSession? hw hp _).symm.trans hl)
  have hn := hw.distinct
  rw [← Table.keys_map inner] at hn
  refine ⟨(hp.map Prod.fst).nodup hn, fun hl' => ?_, fun hl' => ?_, fun {d d' i t t'} ht ht' => ?_⟩
  · obtain ⟨m, hl, rfl⟩ := hlookup hl'
    rw [← (hinner m).directory]
    exact hw.filed hl
  · obtain ⟨m, hl, rfl⟩ := hlookup hl'
    exact (hinner m).wellFormed (hw.multi hl)
  · rw [h.target? hw] at ht ht'
    exact hw.single ht ht'

theorem session? (h : r.Reordered r') (hw : r.WellFormed) (i : String) :
    r'.session? i = r.session? i :=
  hw.session?_congr (h.wellFormed hw) fun d => h.target? hw d i

end Reordered

/-! ### Runs -/

namespace Enumerated

variable {config : SessionConfig} {cs : List Call} {as as' : List Answer}

/-- Whatever the orders were, the calls have done to the registry what they do to the flat map, and
got its answers. -/
theorem represents (h : Enumerated config cs as r) :
    as = (runCalls Flat.call ∅ cs).2 ∧ r.Represents (runCalls Flat.call ∅ cs).1 := by
  induction h with
  | empty => exact ⟨rfl, represents_empty config⟩
  | call h c ih =>
      obtain ⟨ha, hr⟩ := ih
      obtain ⟨hanswer, hrep⟩ := hr.call c
      rw [runCalls_concat, ha, hanswer]
      exact ⟨rfl, hrep⟩
  | reorder h hr ih =>
      obtain ⟨ha, hrep⟩ := ih
      have hw := hrep.wellFormed
      exact ⟨ha, hr.wellFormed hw, fun i => (hrep.lookup i).trans (hr.session? hw i).symm⟩

theorem config_eq (h : Enumerated config cs as r) : r.config = config := by
  induction h with
  | empty => rfl
  | call h c ih => exact (config_call _ c).trans ih
  | reorder h hr ih => exact hr.config.symm.trans ih

end Enumerated

/-! ### What can be seen of a registry -/

/-- No question and no call tells two registries apart. -/
structure Indistinguishable (r r' : Registry) : Prop where
  status : r.status = r'.status
  /-- An instance is found in the same directory. -/
  find : ∀ i, (r.find? i).map (·.directory) = (r'.find? i).map (·.directory)
  /-- A stop picks the same session. -/
  tracked : ∀ i, (r.tracked? i).map (fun e => (e.1.directory, e.2)) =
    (r'.tracked? i).map fun e => (e.1.directory, e.2)
  /-- A start picks the same session to end elsewhere. -/
  moved : ∀ p, (r.moved? p).map (fun e => (e.1.directory, e.2)) =
    (r'.moved? p).map fun e => (e.1.directory, e.2)
  /-- Every call is answered alike. -/
  answer : ∀ c, (r.call c).2 = (r'.call c).2
  /-- A start and a stop record the same events. -/
  events : ∀ c i, c.instance? = some i → (r.journal c).events = (r'.journal c).events
  /-- A shutdown records the same events, each as often. -/
  shutdown : r.shutdown.2.events.Perm r'.shutdown.2.events

theorem Represents.indistinguishable {f : Flat} (h : r.Represents f) (h' : r'.Represents f)
    (hc : r.config = r'.config) : r.Indistinguishable r' := by
  have hw := h.wellFormed
  have hw' := h'.wellFormed
  have hs : ∀ i, r.session? i = r'.session? i := fun i => (h.lookup i).symm.trans (h'.lookup i)
  refine ⟨hw.status_congr hw' hc hs, fun i => ?_, fun i => ?_, fun p => ?_, fun c => ?_,
    fun c i hi => ?_, ?_⟩
  · rw [hw.directory_find?, hw'.directory_find?, hs]
  · have hp := congrArg (Option.map fun s : Session => (s.directory, s.target)) (hs i)
    simpa only [session?, Option.map_map, Function.comp_def] using hp
  · have hm : r.displaced? p = r'.displaced? p := by rw [displaced?, displaced?, hs]
    have hp := congrArg (Option.map fun s : Session => (s.directory, s.target)) hm
    simpa only [← hw.moved?_eq, ← hw'.moved?_eq, Option.map_map, Function.comp_def] using hp
  · rw [(h.call c).1, (h'.call c).1]
  · exact (hw.call_congr hw' hi (hs i)).2.1
  · rw [hw.events_shutdown, hw'.events_shutdown]
    exact (hw.perm_sessions hw' hs).map _

/-- **The order of the tables does not show.**  Two runs of the same calls from an empty registry,
in which the directories and the sessions of each are enumerated in any orders and in other orders
at any time, have the same answers and lead to registries that nothing tells apart.  Either has a
status that lists every tracked session once, in the strict order of the octets of the instance ids,
and both counts are the length of the list. -/
theorem enumeration_unobservable {config : SessionConfig} {cs : List Call} {as as' : List Answer}
    (h : Enumerated config cs as r) (h' : Enumerated config cs as' r') :
    as = as' ∧ r.Indistinguishable r' ∧ r.Listed ∧ r'.Listed := by
  obtain ⟨ha, hr⟩ := h.represents
  obtain ⟨ha', hr'⟩ := h'.represents
  exact ⟨ha.trans ha'.symm, hr.indistinguishable hr' (h.config_eq.trans h'.config_eq.symm),
    hr.wellFormed.listed, hr'.wellFormed.listed⟩

/-- The registry with both levels backwards. -/
def reversed (r : Registry) : Registry :=
  { r with
    directories :=
      (r.directories.map fun e => (e.1, { e.2 with sessions := e.2.sessions.reverse })).reverse }

theorem reordered_reversed (r : Registry) : r.Reordered r.reversed :=
  ⟨rfl, rfl, fun m => { m with sessions := m.sessions.reverse },
    fun m => ⟨rfl, rfl, (List.reverse_perm m.sessions).symm⟩, (List.reverse_perm _).symm⟩

/-- Two directories, one of them with two sessions. -/
theorem enumeration_unobservable_reversed :
    let start := fun instanceId directory => Call.start true 5
      ⟨⟨instanceId, "p", "o"⟩, ⟨"10.0.0.1", 22⟩, directory⟩
    let cs := [start "i" "/one", start "j" "/two", start "k" "/one"]
    let r := (runCalls Registry.call (empty .default) cs).1
    ∃ as, Enumerated .default cs as r ∧ Enumerated .default cs as r.reversed ∧ r ≠ r.reversed ∧
      r.Indistinguishable r.reversed ∧ r.Listed ∧ r.reversed.Listed := by
  intro start cs r
  have h₀ : Enumerated .default [] [] (empty .default) := .empty
  have h := ((h₀.call (start "i" "/one")).call (start "j" "/two")).call (start "k" "/one")
  have h' := h.reorder (reordered_reversed r)
  exact ⟨_, h, h', by decide, (enumeration_unobservable h h').2⟩

end Registry

end Streamkeeper
