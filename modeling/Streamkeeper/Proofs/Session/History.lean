import Streamkeeper.Proofs.Session.Event

/-!
# Sessions — the history of an instance

The recorded events of one instance are its *history*.  A history is *well-bracketed* if starts and
stops alternate up to restarts in place, and every stop belongs to the start before it
(`WellBracketed`).

`Chronicle i h s n` says that `h` is a history of the instance `i` that leaves it with the session
`s`, if any, and has `n` restarts in it.  Its rules are what can happen to a session: it starts,
starts again in the same directory, or ends.  Every chronicle is well-bracketed
(`Chronicle.wellBracketed`), and its starts are its stops, its restarts and the session that is
left (`Chronicle.balance`).
-/

namespace Streamkeeper

open Telemetry (Event Kind)

/-- Recorded events, in order. -/
abbrev Events := List (Kind × Event)

namespace Events

/-- The events of an instance. -/
def ofInstance (instanceId : String) (h : Events) : Events :=
  h.filter fun e => e.2.instanceId? = some instanceId

/-- The number of starts. -/
def starts (h : Events) : Nat :=
  h.countP fun e => e.1 = .sessionStart

/-- The number of stops. -/
def stops (h : Events) : Nat :=
  h.countP fun e => e.1 = .sessionStop

/-- The last start. -/
def lastStart? (h : Events) : Option Event :=
  (h.filter fun e => e.1 = .sessionStart).getLast?.map (·.2)

end Events

/-- Two events have the same directory, project and organization, all of them there. -/
def Telemetry.Event.SameSession (e e' : Event) : Prop :=
  ∃ d p o, (e.directory? = some d ∧ e.projectId = some p ∧ e.organizationId = some o) ∧
    e'.directory? = some d ∧ e'.projectId = some p ∧ e'.organizationId = some o

/-- The shape of a history. -/
structure WellBracketed (h : Events) : Prop where
  /-- The first event is a start. -/
  first : ∀ e after, h = e :: after → e.1 = .sessionStart
  /-- No stop follows a stop directly. -/
  stops : ∀ before e e' after, h = before ++ e :: e' :: after →
    ¬(e.1 = .sessionStop ∧ e'.1 = .sessionStop)
  /-- A stop is about the session of the last start before it. -/
  closes : ∀ before e after, h = before ++ e :: after → e.1 = .sessionStop →
    ∃ s, Events.lastStart? before = some s ∧ e.2.SameSession s
  /-- A start that follows a start directly is in the same directory. -/
  restarts : ∀ before e e' after, h = before ++ e :: e' :: after →
    e.1 = .sessionStart → e'.1 = .sessionStart → e'.2.directory? = e.2.directory?

/-- The history of an instance, with the session that it leaves and the number of restarts. -/
inductive Chronicle (i : String) : Events → Option Session → Nat → Prop where
  | nil : Chronicle i [] none 0
  | start {h n} (c : Chronicle i h none n) (s : Session) (origin : Origin) (count : Nat)
      (hp : s.target.scope.projectId ≠ "") (ho : s.target.scope.organizationId ≠ "") :
      Chronicle i (h ++ [(.sessionStart, s.startEvent i origin count)]) (some s) n
  | restart {h s n} (c : Chronicle i h (some s) n) (s' : Session) (origin : Origin) (count : Nat)
      (hp : s'.target.scope.projectId ≠ "") (ho : s'.target.scope.organizationId ≠ "")
      (hd : s'.directory = s.directory) :
      Chronicle i (h ++ [(.sessionStart, s'.startEvent i origin count)]) (some s') (n + 1)
  | stop {h s n} (c : Chronicle i h (some s) n) : Chronicle i (h ++ [s.stopped i]) none n

/-! ### The events of one instance -/

namespace Events

@[simp] theorem ofInstance_append (i : String) (h h' : Events) :
    ofInstance i (h ++ h') = ofInstance i h ++ ofInstance i h' :=
  List.filter_append h h'

theorem ofInstance_singleton {e : Kind × Event} {j : String} (he : e.2.instanceId? = some j)
    (i : String) : ofInstance i [e] = if j = i then [e] else [] := by
  by_cases hj : j = i
  · simp [ofInstance, he, hj]
  · simp [ofInstance, he, hj]

theorem ofInstance_stopped (i j : String) (s? : Option Session) :
    ofInstance i (s?.map (Session.stopped j)).toList =
      if j = i then (s?.map (Session.stopped j)).toList else [] := by
  cases s? with
  | none => exact (ite_self _).symm
  | some s => exact ofInstance_singleton rfl i

end Events

/-- A shutdown has one stop event for an instance that has a session. -/
theorem Registry.WellFormed.ofInstance_shutdown {r : Registry} (h : r.WellFormed) (i : String) :
    Events.ofInstance i r.shutdown.2.events =
      ((r.session? i).map (Session.stopped i)).toList := by
  have hf : ((fun e : Kind × Event => decide (e.2.instanceId? = some i)) ∘
      fun e : Sigma fun _ : String => Session => e.2.stopped e.1) = fun e => decide (e.1 = i) := by
    funext e
    exact decide_eq_decide.mpr Option.some_inj
  rw [h.events_shutdown, Events.ofInstance, List.filter_map, hf, h.filter_sessions]
  cases r.session? i <;> rfl

/-! ### One event more -/

namespace Events

@[simp] theorem lastStart?_start (h : Events) (e : Event) :
    lastStart? (h ++ [(.sessionStart, e)]) = some e := by
  simp [lastStart?]

@[simp] theorem starts_concat (h : Events) (e : Kind × Event) :
    starts (h ++ [e]) = starts h + if e.1 = .sessionStart then 1 else 0 := by
  simp [starts, List.countP_append, List.countP_cons]

@[simp] theorem stops_concat (h : Events) (e : Kind × Event) :
    stops (h ++ [e]) = stops h + if e.1 = .sessionStop then 1 else 0 := by
  simp [stops, List.countP_append, List.countP_cons]

/-- An event of a history with one event more is that event, or was there before. -/
theorem split_concat {h before after : Events} {x e : Kind × Event}
    (hs : h ++ [x] = before ++ e :: after) :
    (h = before ∧ x = e) ∨ ∃ after', h = before ++ e :: after' := by
  rcases List.eq_nil_or_concat' after with rfl | ⟨after', y, rfl⟩
  · exact Or.inl (List.append_singleton_inj.mp hs)
  · rw [← List.cons_append, ← List.append_assoc] at hs
    exact Or.inr ⟨after', (List.append_singleton_inj.mp hs).1⟩

/-- Two events in a row are the last one and the one more, or were there before. -/
theorem split_concat_pair {h before after : Events} {x e e' : Kind × Event}
    (hs : h ++ [x] = before ++ e :: e' :: after) :
    (h.getLast? = some e ∧ x = e') ∨ ∃ after', h = before ++ e :: e' :: after' := by
  rw [List.append_cons before] at hs
  rcases split_concat hs with ⟨rfl, rfl⟩ | ⟨after', ho⟩
  · exact Or.inl ⟨List.getLast?_concat, rfl⟩
  · rw [← List.append_cons] at ho
    exact Or.inr ⟨after', ho⟩

end Events

theorem wellBracketed_nil : WellBracketed [] where
  first := fun _ _ h => by cases h
  stops := fun before _ _ _ h => by cases before <;> cases h
  closes := fun before _ _ h => by cases before <;> cases h
  restarts := fun before _ _ _ h => by cases before <;> cases h

/-- An event more needs to fit the last event and the last start. -/
theorem WellBracketed.concat {h : Events} (w : WellBracketed h) {x : Kind × Event}
    (hfirst : h = [] → x.1 = .sessionStart)
    (hstops : ∀ e, h.getLast? = some e → ¬(e.1 = .sessionStop ∧ x.1 = .sessionStop))
    (hcloses : x.1 = .sessionStop → ∃ s, h.lastStart? = some s ∧ x.2.SameSession s)
    (hrestarts : ∀ e, h.getLast? = some e → e.1 = .sessionStart → x.1 = .sessionStart →
      x.2.directory? = e.2.directory?) :
    WellBracketed (h ++ [x]) where
  first := by
    intro e after hs
    have hs' : h ++ [x] = [] ++ e :: after := hs
    rcases Events.split_concat hs' with ⟨hn, rfl⟩ | ⟨after', ho⟩
    · exact hfirst hn
    · exact w.first e after' ho
  stops := by
    intro before e e' after hs
    rcases Events.split_concat_pair hs with ⟨hl, rfl⟩ | ⟨after', ho⟩
    · exact hstops e hl
    · exact w.stops before e e' after' ho
  closes := by
    intro before e after hs he
    rcases Events.split_concat hs with ⟨rfl, rfl⟩ | ⟨after', ho⟩
    · exact hcloses he
    · exact w.closes before e after' ho he
  restarts := by
    intro before e e' after hs
    rcases Events.split_concat_pair hs with ⟨hl, rfl⟩ | ⟨after', ho⟩
    · exact hrestarts e hl
    · exact w.restarts before e e' after' ho

/-! ### What a chronicle tells -/

namespace Chronicle

variable {i : String} {h : Events} {s : Session} {n : Nat}

/-- A stop ends the session of the start before it: a scope that was read has a project and an
organization, so its stop event has them too. -/
theorem sameSession_stopEvent (origin : Origin) (count : Nat)
    (hp : s.target.scope.projectId ≠ "") (ho : s.target.scope.organizationId ≠ "") :
    (s.stopEvent i).SameSession (s.startEvent i origin count) := by
  refine ⟨s.directory, s.target.scope.projectId, s.target.scope.organizationId, ?_, rfl, rfl, rfl⟩
  exact ⟨rfl, if_neg hp, if_neg ho⟩

/-- While the session is open, its start is the last event. -/
theorem getLast?_of_some (c : Chronicle i h (some s) n) :
    ∃ origin count, h.getLast? = some (.sessionStart, s.startEvent i origin count) ∧
      h.lastStart? = some (s.startEvent i origin count) ∧
      (s.stopEvent i).SameSession (s.startEvent i origin count) := by
  cases c with
  | start c s origin count hp ho =>
      exact ⟨origin, count, List.getLast?_concat, Events.lastStart?_start _ _,
        sameSession_stopEvent origin count hp ho⟩
  | restart c s origin count hp ho hd =>
      exact ⟨origin, count, List.getLast?_concat, Events.lastStart?_start _ _,
        sameSession_stopEvent origin count hp ho⟩

/-- Without an open session, the last event is a stop. -/
theorem getLast?_of_none (c : Chronicle i h none n) {e : Kind × Event}
    (he : h.getLast? = some e) : e.1 = .sessionStop := by
  cases c with
  | nil => cases he
  | stop c =>
      rw [List.getLast?_concat] at he
      cases he
      rfl

theorem wellBracketed {s? : Option Session} (c : Chronicle i h s? n) : WellBracketed h := by
  induction c with
  | nil => exact wellBracketed_nil
  | start c s origin count hp ho ih =>
      refine ih.concat (fun _ => rfl) (fun e _ hk => by cases hk.2) (fun hk => by cases hk)
        fun e he hk => ?_
      rw [c.getLast?_of_none he] at hk
      cases hk
  | restart c s' origin count hp ho hd ih =>
      obtain ⟨_, _, hl, -, -⟩ := c.getLast?_of_some
      refine ih.concat (fun _ => rfl) (fun e _ hk => by cases hk.2) (fun hk => by cases hk)
        fun e he _ _ => ?_
      rw [hl] at he
      cases he
      exact congrArg some hd
  | stop c ih =>
      obtain ⟨_, _, hl, hs, hsame⟩ := c.getLast?_of_some
      refine ih.concat (fun hn => ?_) (fun e he hk => ?_) (fun _ => ⟨_, hs, hsame⟩)
        fun e _ _ hk => by cases hk
      · rw [hn] at hl
        cases hl
      · rw [hl] at he
        cases he
        cases hk.1

/-- Starts are stops, restarts in place, and the session that is left. -/
theorem balance {s? : Option Session} (c : Chronicle i h s? n) :
    h.starts = h.stops + n + if s?.isSome then 1 else 0 := by
  induction c with
  | nil => rfl
  | start c s origin count hp ho ih => simp [ih]
  | restart c s' origin count hp ho hd ih =>
      simp [ih]
      omega
  | stop c ih => simp [ih, Session.stopped]; omega

/-- Whatever session is left may end. -/
theorem ended {s? : Option Session} (c : Chronicle i h s? n) :
    Chronicle i (h ++ (s?.map (Session.stopped i)).toList) none n := by
  cases s? with
  | none =>
      rw [Option.map_none, Option.toList_none, List.append_nil]
      exact c
  | some s => exact c.stop

end Chronicle

end Streamkeeper
