import Streamkeeper.Proofs.Session.Lookup

/-!
# Sessions — what a start, a stop and a shutdown do to the lookups

A start that is accepted takes the instance out of every other directory (`vacated`) and files the
multi-session of its own directory with the new session in it (`joined`).  So it changes the
lookups of that instance and no other (`target?_start`), and the same holds of a stop
(`target?_stop`).  All three calls keep a registry well-formed.
-/

namespace Streamkeeper

/-! ### One multi-session -/

namespace MultiSession

theorem session?_insert (m : MultiSession) (t : SessionTarget) (i : String) :
    (m.insert t).session? i = if i = t.scope.instanceId then some t else m.session? i :=
  Table.get?_set _ _ _ _

theorem session?_erase (m : MultiSession) (i j : String) :
    (m.erase i).session? j = if j = i then none else m.session? j :=
  Table.get?_remove _ _ _

theorem session?_of_sessions_eq_nil {m : MultiSession} (h : m.sessions = []) (i : String) :
    m.session? i = none := by
  rw [session?, h, Table.get?_nil]

theorem WellFormed.insert {m : MultiSession} (hd : m.sessions.keys.Nodup)
    (hf : ∀ {i t}, m.session? i = some t → t.scope.instanceId = i) (t : SessionTarget) :
    (m.insert t).WellFormed where
  occupied := Table.set_ne_nil _ _ _
  distinct := Table.nodup_keys_set hd _ _
  filed := by
    intro i u hu
    rw [session?_insert] at hu
    by_cases hi : i = t.scope.instanceId
    · rw [if_pos hi] at hu
      cases hu
      exact hi.symm
    · rw [if_neg hi] at hu
      exact hf hu

theorem WellFormed.erase {m : MultiSession} (h : m.WellFormed) {i : String}
    (ho : (m.erase i).sessions ≠ []) : (m.erase i).WellFormed where
  occupied := ho
  distinct := Table.nodup_keys_remove h.distinct i
  filed := by
    intro j t ht
    rw [session?_erase] at ht
    by_cases hj : j = i
    · rw [if_pos hj] at ht
      cases ht
    · rw [if_neg hj] at ht
      exact h.filed ht

end MultiSession

namespace Registry

variable {r : Registry}

/-! ### Filing and dropping a multi-session -/

/-- Files a multi-session under a directory. -/
def put (r : Registry) (directory : String) (m : MultiSession) : Registry :=
  { r with directories := r.directories.set directory m }

/-- Drops the multi-session of a directory. -/
def drop (r : Registry) (directory : String) : Registry :=
  { r with directories := r.directories.remove directory }

theorem multiSession?_put (r : Registry) (d : String) (m : MultiSession) (d' : String) :
    (r.put d m).multiSession? d' = if d' = d then some m else r.multiSession? d' :=
  Table.get?_set _ _ _ _

theorem multiSession?_drop (r : Registry) (d d' : String) :
    (r.drop d).multiSession? d' = if d' = d then none else r.multiSession? d' :=
  Table.get?_remove _ _ _

theorem target?_put (r : Registry) (d : String) (m : MultiSession) (d' i : String) :
    (r.put d m).target? d' i = if d' = d then m.session? i else r.target? d' i := by
  rw [target?, multiSession?_put]
  by_cases hd : d' = d
  · rw [if_pos hd, if_pos hd, Option.bind_some]
  · rw [if_neg hd, if_neg hd, target?]

theorem target?_drop (r : Registry) (d d' i : String) :
    (r.drop d).target? d' i = if d' = d then none else r.target? d' i := by
  rw [target?, multiSession?_drop]
  by_cases hd : d' = d
  · rw [if_pos hd, if_pos hd, Option.bind_none]
  · rw [if_neg hd, if_neg hd, target?]

theorem multiSession?_of_put {d d' : String} {m m' : MultiSession}
    (hl : (r.put d m).multiSession? d' = some m') :
    d' = d ∧ m' = m ∨ r.multiSession? d' = some m' := by
  rw [multiSession?_put] at hl
  by_cases hd : d' = d
  · rw [if_pos hd] at hl
    cases hl
    exact Or.inl ⟨hd, rfl⟩
  · rw [if_neg hd] at hl
    exact Or.inr hl

theorem multiSession?_of_drop {d d' : String} {m : MultiSession}
    (hl : (r.drop d).multiSession? d' = some m) : r.multiSession? d' = some m := by
  rw [multiSession?_drop] at hl
  by_cases hd : d' = d
  · rw [if_pos hd] at hl
    cases hl
  · rwa [if_neg hd] at hl

/-- A multi-session can be filed if no other directory has a session of one of its instances. -/
theorem WellFormed.put (h : r.WellFormed) {d : String} {m : MultiSession} (hm : m.WellFormed)
    (hd : m.directory = d)
    (hs : ∀ {d' i t t'}, r.target? d' i = some t → m.session? i = some t' → d' = d) :
    (r.put d m).WellFormed where
  distinct := Table.nodup_keys_set h.distinct _ _
  filed := by
    intro d' m' hl
    rcases multiSession?_of_put hl with ⟨rfl, rfl⟩ | hl
    · exact hd
    · exact h.filed hl
  multi := by
    intro d' m' hl
    rcases multiSession?_of_put hl with ⟨rfl, rfl⟩ | hl
    · exact hm
    · exact h.multi hl
  single := by
    intro d₁ d₂ i t₁ t₂ h₁ h₂
    obtain ⟨m₁, hl₁, ht₁⟩ := target?_eq_some_iff.mp h₁
    obtain ⟨m₂, hl₂, ht₂⟩ := target?_eq_some_iff.mp h₂
    rcases multiSession?_of_put hl₁ with ⟨rfl, rfl⟩ | hr₁ <;>
      rcases multiSession?_of_put hl₂ with ⟨rfl, rfl⟩ | hr₂
    · rfl
    · exact (hs (target?_eq_some_iff.mpr ⟨m₂, hr₂, ht₂⟩) ht₁).symm
    · exact hs (target?_eq_some_iff.mpr ⟨m₁, hr₁, ht₁⟩) ht₂
    · exact h.single (target?_eq_some_iff.mpr ⟨m₁, hr₁, ht₁⟩)
        (target?_eq_some_iff.mpr ⟨m₂, hr₂, ht₂⟩)

theorem WellFormed.drop (h : r.WellFormed) (d : String) : (r.drop d).WellFormed where
  distinct := Table.nodup_keys_remove h.distinct _
  filed := fun hl => h.filed (multiSession?_of_drop hl)
  multi := fun hl => h.multi (multiSession?_of_drop hl)
  single := by
    intro d₁ d₂ i t₁ t₂ h₁ h₂
    obtain ⟨m₁, hl₁, ht₁⟩ := target?_eq_some_iff.mp h₁
    obtain ⟨m₂, hl₂, ht₂⟩ := target?_eq_some_iff.mp h₂
    exact h.single (target?_eq_some_iff.mpr ⟨m₁, multiSession?_of_drop hl₁, ht₁⟩)
      (target?_eq_some_iff.mpr ⟨m₂, multiSession?_of_drop hl₂, ht₂⟩)

/-! ### Taking an instance out of a directory -/

theorem withdraw_eq (r : Registry) (m : MultiSession) (i : String) :
    r.withdraw m i =
      if (m.erase i).sessions = [] then r.drop m.directory else r.put m.directory (m.erase i) := by
  unfold withdraw
  by_cases ho : (m.erase i).sessions = []
  · simp only [ho, List.isEmpty_nil, if_true, drop]
  · simp only [List.isEmpty_iff, ho, if_false, put]

theorem WellFormed.withdraw (h : r.WellFormed) {m : MultiSession}
    (hl : r.multiSession? m.directory = some m) (i : String) : (r.withdraw m i).WellFormed := by
  rw [withdraw_eq]
  by_cases ho : (m.erase i).sessions = []
  · rw [if_pos ho]
    exact h.drop _
  · rw [if_neg ho]
    refine h.put ((h.multi hl).erase ho) rfl fun {d' j t t'} ht ht' => ?_
    rw [MultiSession.session?_erase] at ht'
    by_cases hj : j = i
    · rw [if_pos hj] at ht'
      cases ht'
    · rw [if_neg hj] at ht'
      exact h.single ht ((target?_of_multiSession? hl j).trans ht')

/-- The instance is gone from the directory, whether or not the directory was dropped. -/
theorem target?_withdraw {m : MultiSession} (hl : r.multiSession? m.directory = some m)
    (i d j : String) :
    (r.withdraw m i).target? d j = if d = m.directory ∧ j = i then none else r.target? d j := by
  rw [withdraw_eq]
  by_cases hd : d = m.directory
  · subst hd
    have hj : (if m.directory = m.directory ∧ j = i then none else r.target? m.directory j) =
        (m.erase i).session? j := by
      simp only [true_and, MultiSession.session?_erase, target?_of_multiSession? hl]
    rw [hj]
    by_cases ho : (m.erase i).sessions = []
    · rw [if_pos ho, target?_drop, if_pos rfl, MultiSession.session?_of_sessions_eq_nil ho]
    · rw [if_neg ho, target?_put, if_pos rfl]
  · have hn : ¬(d = m.directory ∧ j = i) := fun e => hd e.1
    rw [if_neg hn]
    by_cases ho : (m.erase i).sessions = []
    · rw [if_pos ho, target?_drop, if_neg hd]
    · rw [if_neg ho, target?_put, if_neg hd]

/-! ### Opening a directory -/

theorem session?_open? (r : Registry) (d i : String) :
    (r.open? d).1.session? i = r.target? d i := by
  rw [open?, target?]
  cases r.multiSession? d with
  | none => rfl
  | some m => rfl

theorem WellFormed.directory_open? (h : r.WellFormed) (d : String) :
    (r.open? d).1.directory = d := by
  rw [open?]
  cases hl : r.multiSession? d with
  | none => rfl
  | some m => exact h.filed hl

theorem WellFormed.distinct_open? (h : r.WellFormed) (d : String) :
    (r.open? d).1.sessions.keys.Nodup := by
  rw [open?]
  cases hl : r.multiSession? d with
  | none => exact List.nodup_nil
  | some m => exact (h.multi hl).distinct

theorem WellFormed.filed_open? (h : r.WellFormed) {d i : String} {t : SessionTarget}
    (ht : (r.open? d).1.session? i = some t) : t.scope.instanceId = i := by
  rw [session?_open?] at ht
  obtain ⟨m, hl, ht⟩ := target?_eq_some_iff.mp ht
  exact (h.multi hl).filed ht

/-! ### A start -/

/-- The multi-session of another directory that tracks an instance. -/
def holderElsewhere? (r : Registry) (directory i : String) : Option MultiSession :=
  r.directories.values.find? fun m => m.directory ≠ directory && m.tracks i

/-- The registry after an instance has left every directory but one. -/
def vacated (r : Registry) (directory i : String) : Registry :=
  match r.holderElsewhere? directory i with
  | some m => r.withdraw m i
  | none => r

/-- The multi-session that a start puts its session into, with the session. -/
def joined (r : Registry) (now : UInt64) (p : StartParams) : MultiSession :=
  ((r.vacated p.directory p.scope.instanceId).open? p.directory).1.insert ⟨p.scope, p.address, now⟩

/-- The registry after a start that was accepted. -/
def started (r : Registry) (now : UInt64) (p : StartParams) : Registry :=
  { (r.vacated p.directory p.scope.instanceId).put p.directory (r.joined now p) with
    nextSerial := ((r.vacated p.directory p.scope.instanceId).open? p.directory).2 }

theorem start_refused {isDirectory : Bool} {p : StartParams}
    (h : p.directory = "" ∨ isDirectory = false) (now : UInt64) :
    r.start isDirectory now p =
      { registry := r, result := .error (.badDirectory p.directory), status := .invalidDirectory
        handle := none, journal := [] } :=
  if_pos h

theorem start_accepted {isDirectory : Bool} {p : StartParams}
    (h : ¬(p.directory = "" ∨ isDirectory = false)) (now : UInt64) :
    (r.start isDirectory now p).registry = r.started now p ∧
      (r.start isDirectory now p).result = .ok () ∧
      (r.start isDirectory now p).status = .ok ∧
      (r.start isDirectory now p).handle = some (handle (r.joined now p)) := by
  rw [start, if_neg h]
  exact ⟨rfl, rfl, rfl, rfl⟩

theorem WellFormed.holderElsewhere?_eq_some_iff (h : r.WellFormed) {d i : String}
    {m : MultiSession} :
    r.holderElsewhere? d i = some m ↔
      r.multiSession? m.directory = some m ∧ m.directory ≠ d ∧ m.tracks i = true := by
  have hasks : ∀ m : MultiSession, (m.directory ≠ d && m.tracks i) = true → m.tracks i = true :=
    fun m hm => (Bool.and_eq_true_iff.mp hm).2
  rw [holderElsewhere?, h.find?_values_eq_some_iff hasks]
  simp

theorem WellFormed.vacated (h : r.WellFormed) (d i : String) : (r.vacated d i).WellFormed := by
  unfold Registry.vacated
  cases hm : r.holderElsewhere? d i with
  | none => exact h
  | some m => exact h.withdraw (h.holderElsewhere?_eq_some_iff.mp hm).1 i

theorem WellFormed.target?_vacated (h : r.WellFormed) (d i d' j : String) :
    (r.vacated d i).target? d' j = if d' ≠ d ∧ j = i then none else r.target? d' j := by
  unfold Registry.vacated
  cases hm : r.holderElsewhere? d i with
  | none =>
      by_cases hd : d' ≠ d ∧ j = i
      · obtain ⟨hd, rfl⟩ := hd
        rw [if_pos ⟨hd, rfl⟩]
        cases ht : r.target? d' j with
        | none => rfl
        | some t =>
            obtain ⟨m, hl, ht⟩ := target?_eq_some_iff.mp ht
            have hd' := h.filed hl
            have : r.holderElsewhere? d j = some m := h.holderElsewhere?_eq_some_iff.mpr
              ⟨hd' ▸ hl, hd' ▸ hd, MultiSession.tracks_of_session? ht⟩
            rw [hm] at this
            cases this
      · rw [if_neg hd]
  | some m =>
      obtain ⟨hl, hne, ht⟩ := h.holderElsewhere?_eq_some_iff.mp hm
      obtain ⟨t, ht⟩ := MultiSession.tracks_iff.mp ht
      simp only [target?_withdraw hl]
      by_cases hj : j = i
      · subst hj
        by_cases hd : d' = m.directory
        · subst hd
          rw [if_pos ⟨rfl, rfl⟩, if_pos ⟨hne, rfl⟩]
        · -- the instance is in the holder's directory, so it was nowhere else
          have hn : r.target? d' j = none := by
            cases ht' : r.target? d' j with
            | none => rfl
            | some t' => exact absurd (h.single ht' ((target?_of_multiSession? hl j).trans ht)) hd
          simp only [hd, hn, false_and, ite_self]
      · simp only [hj, and_false, if_false]

theorem WellFormed.session?_joined (h : r.WellFormed) (now : UInt64) (p : StartParams)
    (i : String) :
    (r.joined now p).session? i =
      if i = p.scope.instanceId then some ⟨p.scope, p.address, now⟩
      else r.target? p.directory i := by
  have hv := h.target?_vacated p.directory p.scope.instanceId p.directory i
  rw [if_neg (fun e => e.1 rfl)] at hv
  rw [joined, MultiSession.session?_insert]
  by_cases hi : i = p.scope.instanceId
  · rw [if_pos hi, if_pos hi]
  · rw [if_neg hi, if_neg hi, session?_open?, hv]

theorem WellFormed.session?_joined_self (h : r.WellFormed) (now : UInt64) (p : StartParams) :
    (r.joined now p).session? p.scope.instanceId = some ⟨p.scope, p.address, now⟩ := by
  rw [h.session?_joined, if_pos rfl]

theorem WellFormed.directory_joined (h : r.WellFormed) (now : UInt64) (p : StartParams) :
    (r.joined now p).directory = p.directory :=
  (h.vacated p.directory p.scope.instanceId).directory_open? p.directory

theorem WellFormed.joined (h : r.WellFormed) (now : UInt64) (p : StartParams) :
    (r.joined now p).WellFormed := by
  have hv := h.vacated p.directory p.scope.instanceId
  exact .insert (hv.distinct_open? _) hv.filed_open? _

/-- The serial number that is next plays no part in the lookups. -/
theorem WellFormed.withSerial (h : r.WellFormed) (n : Nat) :
    WellFormed { r with nextSerial := n } :=
  ⟨h.distinct, h.filed, h.multi, h.single⟩

theorem WellFormed.target?_started (h : r.WellFormed) (now : UInt64) (p : StartParams)
    (d i : String) :
    (r.started now p).target? d i =
      if i = p.scope.instanceId then
        if d = p.directory then some ⟨p.scope, p.address, now⟩ else none
      else r.target? d i := by
  have ht : (r.started now p).target? d i =
      if d = p.directory then (r.joined now p).session? i
      else (r.vacated p.directory p.scope.instanceId).target? d i := target?_put _ _ _ _ _
  rw [ht, h.session?_joined, h.target?_vacated]
  by_cases hd : d = p.directory
  · by_cases hi : i = p.scope.instanceId
    · simp only [hd, hi, if_true]
    · simp only [hd, hi, if_true, if_false]
  · by_cases hi : i = p.scope.instanceId
    · rw [if_neg hd, if_pos ⟨hd, hi⟩, if_pos hi, if_neg hd]
    · rw [if_neg hd, if_neg (fun e => hi e.2), if_neg hi]

theorem WellFormed.started (h : r.WellFormed) (now : UInt64) (p : StartParams) :
    (r.started now p).WellFormed := by
  have hv := h.vacated p.directory p.scope.instanceId
  refine WellFormed.withSerial (hv.put (h.joined now p) (h.directory_joined now p)
    fun {d i t t'} ht ht' => ?_) _
  rw [h.target?_vacated] at ht
  rw [h.session?_joined] at ht'
  by_cases hi : i = p.scope.instanceId
  · -- the new session's instance is left in its own directory only
    by_contra hd
    rw [if_pos ⟨hd, hi⟩] at ht
    cases ht
  · rw [if_neg (fun e => hi e.2)] at ht
    rw [if_neg hi] at ht'
    exact h.single ht ht'

theorem config_started (r : Registry) (now : UInt64) (p : StartParams) :
    (r.started now p).config = r.config := by
  change (r.vacated p.directory p.scope.instanceId).config = r.config
  unfold vacated
  cases r.holderElsewhere? p.directory p.scope.instanceId <;> rfl

theorem multiSession?_started (r : Registry) (now : UInt64) (p : StartParams) :
    (r.started now p).multiSession? p.directory = some (r.joined now p) :=
  (multiSession?_put _ _ _ _).trans (if_pos rfl)

/-- The handle of a start leads to the multi-session that has the new session. -/
theorem WellFormed.behind_handle_joined (h : r.WellFormed) (now : UInt64) (p : StartParams) :
    (r.started now p).behind (handle (r.joined now p)) = r.joined now p := by
  have hl : (r.started now p).multiSession? (r.joined now p).directory = some (r.joined now p) := by
    rw [h.directory_joined]
    exact multiSession?_started r now p
  simp only [behind, handle, hl, if_true]

/-! ### What each call does to the sessions -/

theorem WellFormed.session?_eq_none_iff (h : r.WellFormed) {i : String} :
    r.session? i = none ↔ ∀ d, r.target? d i = none := by
  constructor
  · intro hn d
    cases ht : r.target? d i with
    | none => rfl
    | some t =>
        have := h.session?_eq_some_iff (s := ⟨d, t⟩).mpr ht
        rw [hn] at this
        cases this
  · intro hn
    cases hs : r.session? i with
    | none => rfl
    | some s =>
        have := h.session?_eq_some_iff.mp hs
        rw [hn] at this
        cases this

theorem WellFormed.session?_congr {r' : Registry} (h : r.WellFormed) (h' : r'.WellFormed)
    {i : String} (ht : ∀ d, r'.target? d i = r.target? d i) : r'.session? i = r.session? i := by
  ext s
  rw [h'.session?_eq_some_iff, h.session?_eq_some_iff, ht]

theorem WellFormed.session?_started (h : r.WellFormed) (now : UInt64) (p : StartParams)
    (i : String) :
    (r.started now p).session? i =
      if i = p.scope.instanceId then some ⟨p.directory, p.scope, p.address, now⟩
      else r.session? i := by
  have h' := h.started now p
  by_cases hi : i = p.scope.instanceId
  · rw [if_pos hi, h'.session?_eq_some_iff, h.target?_started, if_pos hi, if_pos rfl]
  · rw [if_neg hi]
    refine h.session?_congr h' fun d => ?_
    rw [h.target?_started, if_neg hi]

/-- A stop of an instance without a session. -/
theorem stop_of_none {i : String} (hs : r.session? i = none) :
    r.stop i = { registry := r, result := .error (.noSession i), journal := [] } := by
  have ht : r.tracked? i = none := Option.map_eq_none_iff.mp hs
  rw [stop, ht]

/-- A stop of an instance with a session. -/
theorem result_stop_of_some {i : String} {s : Session} (hs : r.session? i = some s) :
    (r.stop i).result = .ok () := by
  obtain ⟨⟨m, t⟩, ht, -⟩ := Option.map_eq_some_iff.mp hs
  rw [stop, ht]

theorem WellFormed.stop (h : r.WellFormed) (i : String) : (r.stop i).registry.WellFormed := by
  cases ht : r.tracked? i with
  | none =>
      rw [Registry.stop, ht]
      exact h
  | some e =>
      obtain ⟨m, t⟩ := e
      rw [Registry.stop, ht]
      exact h.withdraw (h.tracked?_eq_some_iff.mp ht).1 i

theorem WellFormed.session?_stop (h : r.WellFormed) (i j : String) :
    (r.stop i).registry.session? j = if j = i then none else r.session? j := by
  have h' := h.stop i
  cases ht : r.tracked? i with
  | none =>
      have hs : r.session? i = none := by rw [session?, ht, Option.map_none]
      rw [stop_of_none hs]
      by_cases hj : j = i
      · rw [if_pos hj, hj, hs]
      · rw [if_neg hj]
  | some e =>
      obtain ⟨m, t⟩ := e
      obtain ⟨hl, hm⟩ := h.tracked?_eq_some_iff.mp ht
      have hr : (r.stop i).registry = r.withdraw m i := by rw [Registry.stop, ht]
      rw [hr] at h' ⊢
      by_cases hj : j = i
      · subst hj
        rw [if_pos rfl, h'.session?_eq_none_iff]
        intro d
        rw [target?_withdraw hl]
        by_cases hd : d = m.directory
        · rw [if_pos ⟨hd, rfl⟩]
        · rw [if_neg (fun e => hd e.1)]
          cases hd' : r.target? d j with
          | none => rfl
          | some t' => exact absurd (h.single hd' ((target?_of_multiSession? hl j).trans hm)) hd
      · rw [if_neg hj]
        refine h.session?_congr h' fun d => ?_
        rw [target?_withdraw hl, if_neg (fun e => hj e.2)]

theorem wellFormed_of_nil (h : r.directories = []) : r.WellFormed := by
  have hl : ∀ d, r.multiSession? d = none := fun d => by rw [multiSession?, h, Table.get?_nil]
  refine ⟨?_, fun {d m} hm => ?_, fun {d m} hm => ?_, fun {d d' i t t'} ht => ?_⟩
  · rw [h]
    exact List.nodup_nil
  · rw [hl] at hm
    cases hm
  · rw [hl] at hm
    cases hm
  · rw [target?, hl] at ht
    cases ht

theorem wellFormed_shutdown (r : Registry) : r.shutdown.1.WellFormed :=
  wellFormed_of_nil rfl

theorem wellFormed_empty (config : SessionConfig) : (empty config).WellFormed :=
  wellFormed_of_nil rfl

end Registry

end Streamkeeper
