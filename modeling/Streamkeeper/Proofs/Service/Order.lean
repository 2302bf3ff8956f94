import Streamkeeper.Proofs.Service.Delivery

/-!
# The service — the order of a start

A start reads the name, launches the tool, and asks the registry, and each step is taken only if the
one before it went well.  What can go wrong on the way, in each step by itself, is listed in
`checks`; the first failure of the list is the result of the start (`attempt_result`).

To see what a start asks of a registry, the registry is watched: it notes what it is asked for, and
otherwise does what it did (`Registrar.watched`).  `start_in_order` says which steps are taken, with
what, and what comes out.
-/

namespace Streamkeeper

variable {σ η : Type}

/-! ### The tool -/

namespace Provisioning

/-- Does an output report a field? -/
def hasField (output : String) : OutputField → Bool
  | .host => (value? output.toList ['H', 'o', 's', 't']).isSome
  | .port => (((value? output.toList ['P', 'o', 'r', 't']).map leadingInteger).bind port?).isSome

/-- What an output is read as: the address, or the first field that it does not report. -/
theorem address?_cases (output : String) :
    (hasField output .host = false ∧ address? output = .error .host) ∨
    (hasField output .host = true ∧ hasField output .port = false ∧
      address? output = .error .port) ∨
    (hasField output .host = true ∧ hasField output .port = true ∧
      ∃ address, address? output = .ok address) := by
  unfold hasField address?
  cases value? output.toList ['H', 'o', 's', 't'] with
  | none => exact .inl ⟨rfl, rfl⟩
  | some host =>
      cases ((value? output.toList ['P', 'o', 'r', 't']).map leadingInteger).bind port? with
      | none => exact .inr (.inl ⟨rfl, rfl, rfl⟩)
      | some port => exact .inr (.inr ⟨rfl, rfl, _, rfl⟩)

/-- What goes wrong with a run of the tool: its start, its run to the end, its exit code, and the
fields of its output, each by itself. -/
def failures (run : Execution.Behaviour) : List (Option Error) :=
  [run.startFailure.map (.processStart toolName), run.runFailure.map (.processRun toolName),
    if run.exitCode = 0 then none else some (.processExit toolName run.exitCode)] ++
  [OutputField.host, .port].map fun field =>
    if hasField (outputText run.chunks) field = true then none
    else some (.outputParse field (outputText run.chunks))

/-- The first thing that goes wrong is the error of the run. -/
theorem addressOf_eq_error_iff {run : Execution.Behaviour} {e : Error} :
    addressOf run = .error e ↔ (failures run).findSome? id = some e := by
  unfold addressOf report failures
  cases run.startFailure with
  | some cause => simp
  | none =>
    cases run.runFailure with
    | some cause => simp
    | none =>
      by_cases hc : run.exitCode = 0
      · rcases address?_cases (outputText run.chunks) with
          ⟨hh, ha⟩ | ⟨hh, hp, ha⟩ | ⟨hh, hp, _, ha⟩
        · simp [hc, hh, ha]
        · simp [hc, hh, hp, ha]
        · simp [hc, hh, hp, ha]
      · simp [hc]

end Provisioning

/-! ### Watching a registry -/

/-- An operation that is asked of a registry. -/
inductive Registrar.Operation where
  | start (params : StartParams)
  | stop (gameletId : String)
deriving Repr, DecidableEq

/-- A registry that notes what it is asked for, and adds nothing to the journal. -/
def Registrar.watched (registrar : Registrar σ η) : Registrar (σ × List Operation) η where
  start p s :=
    let (reply, s') := registrar.start p s.1
    ({ reply with journal := [] }, (s', s.2 ++ [.start p]))
  stop id s :=
    let (result, _, s') := registrar.stop id s.1
    (result, [], (s', s.2 ++ [.stop id]))
  sessionCount s h := registrar.sessionCount s.1 h
  tracks s h id := registrar.tracks s.1 h id
  recordSession _ _ _ _ _ := []
  recordMulti _ _ _ _ := []

namespace Service

/-! ### The steps of a start -/

/-- What the registry is asked to start, if it is asked. -/
def params? (tool : Provisioning.Tool) (request : StartRequest) : Option StartParams :=
  (Scope.parse? request.gameletName).bind fun scope =>
    (tool.resolve scope).toOption.map fun address =>
      ⟨scope, address, request.workstationDirectory⟩

theorem toOption_eq_some_iff {α : Type} {x : Except Error α} {a : α} :
    x.toOption = some a ↔ x = .ok a := by
  cases x <;> simp [Except.toOption]

theorem params?_eq_some_iff {tool : Provisioning.Tool} {request : StartRequest}
    {p : StartParams} :
    params? tool request = some p ↔ ∃ scope address,
      Scope.parse? request.gameletName = some scope ∧ tool.resolve scope = .ok address ∧
        ⟨scope, address, request.workstationDirectory⟩ = p := by
  simp only [params?, Option.bind_eq_some_iff, Option.map_eq_some_iff]
  constructor
  · rintro ⟨scope, hs, address, ha, hp⟩
    exact ⟨scope, address, hs, toOption_eq_some_iff.mp ha, hp⟩
  · rintro ⟨scope, address, hs, ha, hp⟩
    exact ⟨scope, hs, address, toOption_eq_some_iff.mpr ha, hp⟩

theorem reply?_eq (registrar : Registrar σ η) (tool : Provisioning.Tool) (request : StartRequest)
    (s : σ) :
    reply? registrar tool request s = (params? tool request).map (registrar.start · s) := by
  unfold reply? params?
  cases Scope.parse? request.gameletName with
  | none => rfl
  | some scope => simp [Function.comp_def]

/-- What goes wrong before the registry is asked. -/
def checks (tool : Provisioning.Tool) (request : StartRequest) : List (Option Error) :=
  match Scope.parse? request.gameletName with
  | none => [some (.badName request.gameletName)]
  | some scope => Provisioning.failures (tool.run (tool.launch scope))

/-- The registry is asked exactly if nothing goes wrong. -/
theorem params?_eq_none_iff {tool : Provisioning.Tool} {request : StartRequest} :
    params? tool request = none ↔ ∃ e, (checks tool request).findSome? id = some e := by
  unfold params? checks
  cases Scope.parse? request.gameletName with
  | none => simp
  | some scope =>
      simp only [← Provisioning.addressOf_eq_error_iff, Option.bind_some, Option.map_eq_none_iff,
        Provisioning.Tool.resolve]
      cases Provisioning.addressOf (tool.run (tool.launch scope)) with
      | error e => simp [Except.toOption]
      | ok address => simp [Except.toOption]

/-- The first failure is the result; without one, the result is the registry's. -/
theorem attempt_result (registrar : Registrar σ η) (tool : Provisioning.Tool)
    (request : StartRequest) (s : σ) :
    (∀ e, (checks tool request).findSome? id = some e →
      (attempt registrar tool request s).result = .error e) ∧
    ∀ p, params? tool request = some p →
      (attempt registrar tool request s).result = (registrar.start p s).1.result := by
  unfold attempt Scope.parse checks params?
  cases Scope.parse? request.gameletName with
  | none => simp
  | some scope =>
      simp only [← Provisioning.addressOf_eq_error_iff, Option.bind_some,
        Provisioning.Tool.resolve]
      cases Provisioning.addressOf (tool.run (tool.launch scope)) with
      | error e => simp [Except.toOption]
      | ok address => simp [Except.toOption]

/-- A start leaves the registry as it was asked to, and otherwise as it was. -/
theorem start_state (registrar : Registrar σ η) (tool : Provisioning.Tool)
    (request : StartRequest) (s : σ) :
    (start registrar tool request s).state =
      ((params? tool request).map fun p => (registrar.start p s).2).getD s := by
  have ha := congrArg Attempt.state (attempt_eq registrar tool request s)
  rw [reply?_eq] at ha
  refine ha.trans ?_
  cases params? tool request <;> rfl

/-- The tool matters to a start only in what its one launch does. -/
theorem start_congr (registrar : Registrar σ η) {tool : Provisioning.Tool} {request : StartRequest}
    {run : Provisioning.Launch → Execution.Behaviour}
    (hrun : ∀ scope, Scope.parse? request.gameletName = some scope →
      run (tool.launch scope) = tool.run (tool.launch scope)) (s : σ) :
    start registrar ⟨tool.path, run⟩ request s = start registrar tool request s := by
  have hattempt :
      attempt registrar ⟨tool.path, run⟩ request s = attempt registrar tool request s := by
    unfold attempt Scope.parse
    cases hs : Scope.parse? request.gameletName with
    | none => rfl
    | some scope =>
        have hlaunch : (Provisioning.Tool.mk tool.path run).launch scope = tool.launch scope := rfl
        have hresolve : (Provisioning.Tool.mk tool.path run).resolve scope = tool.resolve scope :=
          congrArg Provisioning.addressOf (hrun scope hs)
        simp only [hresolve, hlaunch]
  rw [start, hattempt, start]

/-- The launch for a name that can be read has all its flags. -/
theorem launch_of_parse? {name : String} {scope : Scope} (h : Scope.parse? name = some scope)
    (tool : Provisioning.Tool) :
    tool.launch scope =
      { program := tool.path
        args := ["ssh", "init", "--instance", scope.instanceId, "--project", scope.projectId,
          "--organization", scope.organizationId]
        name := "ggp ssh init"
        hasHandler := true
        forwardsOutput := true } := by
  obtain ⟨-, hproject, horganization⟩ := Scope.ne_empty_of_parse? h
  have hargs : Provisioning.Launch.sshInitArgs scope.instanceId scope.projectId
      scope.organizationId = ["ssh", "init", "--instance", scope.instanceId, "--project",
        scope.projectId, "--organization", scope.organizationId] := by
    rw [Provisioning.Launch.sshInitArgs, Provisioning.Launch.optional, if_neg hproject,
      Provisioning.Launch.optional, if_neg horganization]
    rfl
  rw [Provisioning.Tool.launch, Provisioning.Launch.sshInit, hargs]
  rfl

/-- Watching a registry does not change the result of a start. -/
theorem result_start_watched (registrar : Registrar σ η) (tool : Provisioning.Tool)
    (request : StartRequest) (s : σ) (asked : List Registrar.Operation) :
    (start registrar.watched tool request (s, asked)).result =
      (start registrar tool request s).result := by
  have hwatched := attempt_result registrar.watched tool request (s, asked)
  have hresult := attempt_result registrar tool request s
  cases hp : params? tool request with
  | some p => exact (hwatched.2 p hp).trans (hresult.2 p hp).symm
  | none =>
      obtain ⟨e, he⟩ := params?_eq_none_iff.mp hp
      exact (hwatched.1 e he).trans (hresult.1 e he).symm

/-- A watched registry is asked for one start, or for nothing. -/
theorem state_start_watched (registrar : Registrar σ η) (tool : Provisioning.Tool)
    (request : StartRequest) (s : σ) (asked : List Registrar.Operation) :
    (start registrar.watched tool request (s, asked)).state =
      ((start registrar tool request s).state,
        asked ++ ((params? tool request).map .start).toList) := by
  rw [start_state, start_state]
  cases params? tool request with
  | none => exact congrArg (s, ·) (List.append_nil asked).symm
  | some p => rfl

/-- A watched registry records no event. -/
theorem launches_deliver_watched (registrar : Registrar σ η) (sink : Sink η)
    (s : σ × List Registrar.Operation) (kind : Telemetry.Kind) (e : Telemetry.Event) :
    (sink.deliver registrar.watched s kind e).launches = [] := by
  cases sink <;> simp [Sink.deliver, Sink.record, Registrar.watched]

theorem launches_conclusion (operation : String) (result : Except Error Unit) :
    (conclusion operation result).launches = [] := by
  cases result <;> exact Journal.launches_note _ _ _

/-- With a watched registry, the launches of a start are its own. -/
theorem launches_start_watched (registrar : Registrar σ η) (tool : Provisioning.Tool)
    (request : StartRequest) (s : σ × List Registrar.Operation) :
    (start registrar.watched tool request s).journal.launches =
      ((Scope.parse? request.gameletName).map tool.launch).toList := by
  have hreply : ((reply? registrar.watched tool request s).map (·.1.journal)).getD [] = [] := by
    rw [reply?_eq]
    cases params? tool request <;> rfl
  have ha := congrArg Attempt.journal (attempt_eq registrar.watched tool request s)
  rw [hreply, List.append_nil] at ha
  rw [start_journal, ha]
  simp only [Journal.launches_append, Journal.launches_note, launches_deliver_watched,
    launches_conclusion, List.nil_append, List.append_nil, launches]
  cases Scope.parse? request.gameletName <;> simp

/-- **The steps of a start, in their order.**  Whatever the registry and the tool do:

* watching the registry changes neither the result nor what the registry comes to;
* the tool is launched once if the name can be read, with the flags of the parsed scope, and not at
  all otherwise; nothing else about the tool matters;
* the registry is asked once, to start the session of the parsed scope at the resolved address and
  with the request's directory, if the name can be read and its address resolved, and is not asked
  at all otherwise;
* the first failure on the way is the result, and without one the result is the registry's. -/
theorem start_in_order (registrar : Registrar σ η) (tool : Provisioning.Tool)
    (request : StartRequest) (s : σ) :
    let scope? := Scope.parse? request.gameletName
    let o := start registrar.watched tool request (s, [])
    (o.result = (start registrar tool request s).result ∧
      o.state.1 = (start registrar tool request s).state) ∧
    (o.journal.launches = (scope?.map fun scope =>
        { program := tool.path
          args := ["ssh", "init", "--instance", scope.instanceId, "--project", scope.projectId,
            "--organization", scope.organizationId]
          name := "ggp ssh init"
          hasHandler := true
          forwardsOutput := true }).toList ∧
      ∀ run, (∀ scope, scope? = some scope →
          run (tool.launch scope) = tool.run (tool.launch scope)) →
        start registrar ⟨tool.path, run⟩ request s = start registrar tool request s) ∧
    ((∀ scope address, scope? = some scope → tool.resolve scope = .ok address →
        o.state.2 = [.start ⟨scope, address, request.workstationDirectory⟩]) ∧
      ((¬∃ scope address, scope? = some scope ∧ tool.resolve scope = .ok address) →
        o.state = (s, []))) ∧
    (∀ e, (checks tool request).findSome? id = some e → o.result = .error e) ∧
    ((checks tool request).findSome? id = none →
      ∃ scope address, scope? = some scope ∧ tool.resolve scope = .ok address ∧
        o.result =
          (registrar.start ⟨scope, address, request.workstationDirectory⟩ s).1.result) := by
  intro scope? o
  have hresult := attempt_result registrar.watched tool request (s, [])
  have hstate : o.state = _ := state_start_watched registrar tool request s []
  refine ⟨⟨result_start_watched registrar tool request s [], congrArg Prod.fst hstate⟩,
    ⟨?_, fun run hrun => ?_⟩, ⟨?_, ?_⟩, hresult.1, ?_⟩
  · refine (launches_start_watched registrar tool request (s, [])).trans ?_
    refine congrArg Option.toList (Option.map_congr fun scope hs => ?_)
    exact launch_of_parse? hs tool
  · exact start_congr registrar hrun s
  · intro scope address hs ha
    rw [hstate, params?_eq_some_iff.mpr ⟨scope, address, hs, ha, rfl⟩]
    rfl
  · intro hnone
    cases hp : params? tool request with
    | none =>
        rw [hstate, start_state, hp]
        rfl
    | some p =>
        obtain ⟨scope, address, hs, ha, -⟩ := params?_eq_some_iff.mp hp
        exact absurd ⟨scope, address, hs, ha⟩ hnone
  · intro hchecks
    cases hp : params? tool request with
    | none =>
        obtain ⟨e, he⟩ := params?_eq_none_iff.mp hp
        rw [hchecks] at he
        cases he
    | some p =>
        obtain ⟨scope, address, hs, ha, rfl⟩ := params?_eq_some_iff.mp hp
        exact ⟨scope, address, hs, ha, hresult.2 _ hp⟩

end Service

end Streamkeeper
