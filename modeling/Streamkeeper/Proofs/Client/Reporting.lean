import Streamkeeper.Client.Command

/-!
# Client — what is reported, and what is not

A command reports its result by an envelope that says the same (`Outcome.Reports`).  Every command
does so if no daemon runs, and starting and stopping a session do so whatever response comes back
(`report_cases`).

Some failures are returned without an envelope (`Unreported`): the endpoint cannot be reached, the
connection breaks, the answer cannot be read, or the response is none that a status or a shutdown
can have.  `run_reports_iff` says that these are all.
-/

namespace Streamkeeper.Client

/-- An outcome prints an envelope of its result, and nothing else. -/
structure Outcome.Reports (o : Outcome) (command : String) (format : Format) (env : Envelope) :
    Prop where
  printed : o.printed = env.print format
  command : env.command = command
  /-- The envelope of a success has data and no error. -/
  success : o.result = .ok () ↔ env.ok = true ∧ env.data.isSome = true ∧ env.error = none
  /-- The envelope of a failure has the code and the sentence of the error, and no data. -/
  failure : ∀ e, o.result = .error e →
    env.ok = false ∧ env.data = none ∧ env.error = some ⟨e.code, e.message⟩

/-- A response that is none to the inquiry. -/
inductive Misfit : Inquiry → Response → Prop where
  | status {r : Response} (h : ∀ s, r ≠ .status s) : Misfit .status r
  | shutdown {r : Response} (h : r ≠ .ok) : Misfit .shutdown r

/-- A failure that is returned without an envelope. -/
inductive Unreported (i : Inquiry) : Meeting → CommandError → Prop where
  /-- The endpoint cannot be reached for another reason than that no daemon runs. -/
  | unreachable {cause : Host.IoError} (h : isNotRunning cause = false) :
      Unreported i (.failed cause) (.io cause)
  /-- The connection breaks before there is an answer. -/
  | broken {step : Step} : Unreported i (.broken step) (.exchange step.failure)
  /-- There is no answer, or it cannot be read. -/
  | unread {reply : Octets} {e : CommandError} (h : firstResponse reply = .error e) :
      Unreported i (.answered reply) e
  /-- The response is none to the inquiry. -/
  | misfit {reply : Octets} {r : Response} (h : firstResponse reply = .ok r) (hm : Misfit i r) :
      Unreported i (.answered reply) (unexpected r)

/-! ### Outcomes with and without an envelope -/

theorem reports_reported (command : String) (data : Json) (format : Format) (durationMs : Nat)
    (result : Except CommandError Unit) :
    (reported command data format durationMs result).Reports command format
      (envelope command data durationMs result) := by
  cases result with
  | ok u =>
      refine ⟨rfl, rfl, ⟨fun _ => ⟨rfl, rfl, rfl⟩, fun _ => rfl⟩, fun e he => ?_⟩
      cases he
  | error e =>
      refine ⟨rfl, rfl, ⟨fun h => ?_, fun h => ?_⟩, fun e' he => ?_⟩
      · cases h
      · cases h.1
      · cases he
        exact ⟨rfl, rfl, rfl⟩

/-- An envelope with an error is not printed as nothing. -/
theorem print_ne_empty {env : Envelope} (h : env.error.isSome = true) (format : Format) :
    env.print format ≠ "" := by
  obtain ⟨failure, hf⟩ := Option.isSome_iff_exists.mp h
  cases format with
  | json => simp [Envelope.print]
  | ndjson => simp [Envelope.print]
  | text => simp [Envelope.print, Envelope.textLines, hf]

/-- An outcome that fails and prints nothing reports nothing. -/
theorem not_reports_of_empty (e : CommandError) (command : String) (format : Format)
    (env : Envelope) : ¬(Outcome.mk (.error e) "").Reports command format env := by
  intro h
  have herror := (h.failure e rfl).2.2
  exact print_ne_empty (by rw [herror]; rfl) format h.printed.symm

/-! ### Commands -/

/-- The data and the result that a response to an inquiry is reported by. -/
inductive Account (endpoint : String) :
    Inquiry → Option Response → Json → Except CommandError Unit → Prop where
  | start (gameletName directory : String) (origin : Origin) (response : Option Response) :
      Account endpoint (.start gameletName directory origin) response
        (SessionData.mk gameletName (some directory)).toJson (sessionResult endpoint response)
  | stop (gameletId : String) (response : Option Response) :
      Account endpoint (.stop gameletId) response (SessionData.mk gameletId none).toJson
        (sessionResult endpoint response)
  | noStatus : Account endpoint .status none (StatusData.notRunning endpoint).toJson (.ok ())
  | status (s : ManagerStatus) : Account endpoint .status (some (.status s))
      (StatusData.ofStatus endpoint s).toJson (.ok ())
  | noShutdown : Account endpoint .shutdown none (ShutdownData.mk false endpoint).toJson (.ok ())
  | shutdown : Account endpoint .shutdown (some .ok) (ShutdownData.mk true endpoint).toJson (.ok ())

/-- A response is accounted for, unless it is none to the inquiry. -/
theorem account_cases (i : Inquiry) (endpoint : String) (response : Option Response) :
    (∃ data result, Account endpoint i response data result) ∨
      ∃ r, response = some r ∧ Misfit i r := by
  cases i with
  | start gameletName directory origin => exact .inl ⟨_, _, .start _ _ _ _⟩
  | stop id => exact .inl ⟨_, _, .stop _ _⟩
  | status =>
      match response with
      | none => exact .inl ⟨_, _, .noStatus⟩
      | some (.status s) => exact .inl ⟨_, _, .status s⟩
      | some .ok => exact .inr ⟨.ok, rfl, .status fun s => Response.noConfusion⟩
      | some (.error code message) =>
          exact .inr ⟨.error code message, rfl, .status fun s => Response.noConfusion⟩
  | shutdown =>
      match response with
      | none => exact .inl ⟨_, _, .noShutdown⟩
      | some .ok => exact .inl ⟨_, _, .shutdown⟩
      | some (.status s) => exact .inr ⟨.status s, rfl, .shutdown Response.noConfusion⟩
      | some (.error code message) =>
          exact .inr ⟨.error code message, rfl, .shutdown Response.noConfusion⟩

theorem Account.report_eq {endpoint : String} {i : Inquiry} {response : Option Response}
    {data : Json} {result : Except CommandError Unit} (h : Account endpoint i response data result)
    (format : Format) (durationMs : Nat) : report i endpoint format durationMs response =
      reported i.name data format durationMs result := by
  cases h <;> rfl

/-- A response is reported, unless it is none to the inquiry. -/
theorem report_cases (i : Inquiry) (endpoint : String) (format : Format) (durationMs : Nat)
    (response : Option Response) :
    (∃ env, (report i endpoint format durationMs response).Reports i.name format env) ∨
      ∃ r, response = some r ∧ Misfit i r := by
  refine (account_cases i endpoint response).imp_left ?_
  rintro ⟨data, result, h⟩
  rw [h.report_eq]
  exact ⟨_, reports_reported _ _ _ _ _⟩

/-- A response that is none to the inquiry is the command's error, and nothing is printed. -/
theorem report_of_misfit {i : Inquiry} {r : Response} (h : Misfit i r) (endpoint : String)
    (format : Format) (durationMs : Nat) :
    report i endpoint format durationMs (some r) = ⟨.error (unexpected r), ""⟩ := by
  cases h with
  | status h =>
      cases r with
      | status s => exact absurd rfl (h s)
      | ok => rfl
      | error code message => rfl
  | shutdown h =>
      cases r with
      | status s => rfl
      | ok => exact absurd rfl h
      | error code message => rfl

/-- What is unreported is the command's error, and nothing is printed. -/
theorem run_of_unreported {i : Inquiry} {m : Meeting} {e : CommandError} (h : Unreported i m e)
    (endpoint : String) (format : Format) (durationMs : Nat) :
    run i endpoint format durationMs m = ⟨.error e, ""⟩ := by
  cases h with
  | unreachable h => simp [run, exchange, h]
  | broken => rfl
  | unread h => simp [run, exchange, h, Except.map]
  | misfit h hm => simp [run, exchange, h, Except.map, report_of_misfit hm]

/-- An exchange comes to a response, or its failure is unreported. -/
theorem exchange_cases (m : Meeting) :
    (∃ response, exchange m = .ok response ∧ ∀ r, response = some r →
      ∃ reply, m = .answered reply ∧ firstResponse reply = .ok r) ∨
      ∃ err, ∀ i, Unreported i m err := by
  cases m with
  | failed cause =>
      cases hn : isNotRunning cause with
      | false => exact .inr ⟨_, fun _ => .unreachable hn⟩
      | true => exact .inl ⟨none, by simp [exchange, hn], fun _ hr => nomatch hr⟩
  | broken step => exact .inr ⟨_, fun _ => .broken⟩
  | answered reply =>
      cases hf : firstResponse reply with
      | error err => exact .inr ⟨err, fun _ => .unread hf⟩
      | ok r =>
          refine .inl ⟨some r, by simp [exchange, hf, Except.map], fun _ hr => ?_⟩
          exact ⟨reply, rfl, Option.some.inj hr ▸ hf⟩

/-- Whatever is met at the endpoint, the command reports it or it is unreported. -/
theorem run_cases (i : Inquiry) (endpoint : String) (format : Format) (durationMs : Nat)
    (m : Meeting) :
    (∃ env, (run i endpoint format durationMs m).Reports i.name format env) ∨
      ∃ e, Unreported i m e := by
  rcases exchange_cases m with ⟨response, hm, hreply⟩ | ⟨err, herr⟩
  · have hrun : run i endpoint format durationMs m =
        report i endpoint format durationMs response := by rw [run, hm]
    rw [hrun]
    rcases report_cases i endpoint format durationMs response with h | ⟨r, hr, hmisfit⟩
    · exact .inl h
    · obtain ⟨reply, rfl, hf⟩ := hreply r hr
      exact .inr ⟨_, .misfit hf hmisfit⟩
  · exact .inr ⟨err, herr i⟩

/-- **A command prints the envelope of its result unless its failure is unreported.**  Then nothing
is printed: the endpoint cannot be reached, the connection breaks, its answer cannot be read, or the
response is none that a status or a shutdown can have. -/
theorem run_reports_iff (i : Inquiry) (endpoint : String) (format : Format) (durationMs : Nat)
    (m : Meeting) :
    ((∃ env, (run i endpoint format durationMs m).Reports i.name format env) ↔
        ¬∃ e, Unreported i m e) ∧
      ∀ e, Unreported i m e → run i endpoint format durationMs m = ⟨.error e, ""⟩ := by
  refine ⟨⟨?_, fun h => ?_⟩, fun e h => run_of_unreported h endpoint format durationMs⟩
  · rintro ⟨env, henv⟩ ⟨e, he⟩
    rw [run_of_unreported he] at henv
    exact not_reports_of_empty e i.name format env henv
  · exact (run_cases i endpoint format durationMs m).resolve_right h

/-- A daemon that closes the connection without an answer leaves the command without an envelope. -/
theorem run_status_unanswered :
    (run .status "asm.sock" .ndjson 0 (.answered [])).result =
        .error (.context "daemon closed the connection without answering") ∧
      ¬∃ env, (run .status "asm.sock" .ndjson 0 (.answered [])).Reports "status" .ndjson env := by
  have hrun : run .status "asm.sock" .ndjson 0 (.answered []) =
      ⟨.error (.context "daemon closed the connection without answering"), ""⟩ := rfl
  rw [hrun]
  refine ⟨rfl, ?_⟩
  rintro ⟨env, henv⟩
  exact not_reports_of_empty _ _ _ env henv

end Streamkeeper.Client
