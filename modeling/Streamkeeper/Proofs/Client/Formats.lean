import Streamkeeper.Proofs.Client.Reporting
import Streamkeeper.Proofs.Json.Pretty
import Streamkeeper.Proofs.Table
import Streamkeeper.Proofs.Wire.RoundTrip

/-!
# Client — one envelope in three formats

A command has one envelope, whatever the format (`Prints`).  Its line is one line, its line and its
indented form are read as one value, and its text form shows the data of that value
(`Envelope.Agrees`).  In that value a part that is absent has no member, and of the data and the
error one has a member (`formats_agree`).
-/

namespace Streamkeeper

namespace Json

/-- The first member of an object with a key. -/
def get? (v : Json) (key : String) : Option Json :=
  match v with
  | .object ms => Table.get? ms key
  | _ => none

theorem get?_object (ms : List (String × Json)) (key : String) :
    get? (.object ms) key = Table.get? ms key := rfl

/-- A member that may be left out is found if it is not. -/
theorem get?_field? (key : String) (v : Option Json) (k : String) :
    Table.get? (field? key v) k = if key = k then v else none := by
  cases v with
  | none => exact (ite_self none).symm
  | some v => exact Table.get?_cons key v [] k

/-- What holds of the members that may be left out holds of their values. -/
theorem forall_mem_field? {p : String × Json → Prop} {key : String} {v : Option Json} :
    (∀ m ∈ field? key v, p m) ↔ ∀ x, v = some x → p (key, x) := by
  cases v <;> simp

theorem allNumbers_nat {n : Nat} (h : n < Nat.pow 2 64) : (Json.nat n).AllNumbers Number.IsWord :=
  (Writable.nat 0 h).numbers

end Json

open Json (Tells readWithin)

namespace Client

/-! ### Data of commands -/

/-- A value that a command has as its data: counts are words, and so are the numbers of the
configuration. -/
inductive Datum : Json → Prop where
  | session (d : SessionData) : Datum d.toJson
  | status {d : StatusData} (hcount : ∀ n, d.sessionCount = some n → n < Nat.pow 2 64)
      (hconfig : ∀ v, d.config = some v → v.AllNumbers Number.IsWord) : Datum d.toJson
  | shutdown (d : ShutdownData) : Datum d.toJson

theorem allNumbers_sessions (sessions : List SessionSummary) :
    (Json.array (sessions.map (·.toJson))).AllNumbers Number.IsWord :=
  .array (List.forall_mem_map.mpr fun s _ => (s.writable_toJson 0).numbers)

theorem Datum.numbers {v : Json} (h : Datum v) : v.AllNumbers Number.IsWord := by
  cases h with
  | session d =>
      refine .object (List.forall_mem_cons.mpr ⟨.string _, Json.forall_mem_field?.mpr ?_⟩)
      rintro x hx
      obtain ⟨dir, -, rfl⟩ := Option.map_eq_some_iff.mp hx
      exact .string dir
  | @status d hcount hconfig =>
      refine .object ?_
      simp only [List.forall_mem_append, List.forall_mem_cons, Json.forall_mem_field?]
      refine ⟨⟨⟨⟨.bool _, .string _, List.forall_mem_nil _⟩, ?_⟩, ?_⟩, hconfig⟩
      · rintro x hx
        obtain ⟨n, hn, rfl⟩ := Option.map_eq_some_iff.mp hx
        exact Json.allNumbers_nat (hcount n hn)
      · rintro x hx
        split at hx
        · cases hx
        · cases hx
          exact allNumbers_sessions d.sessions
  | shutdown d =>
      refine .object ?_
      simp only [List.forall_mem_cons]
      exact ⟨.bool _, .string _, List.forall_mem_nil _⟩

/-! ### The members of a value -/

theorem SessionData.get?_workstationDirectory (d : SessionData) :
    d.toJson.get? "workstationDirectory" = d.workstationDirectory.map .string := by
  simp [SessionData.toJson, Json.get?_object, Table.get?_cons, Json.get?_field?]

/-- What stands in the data of a status: no member is there for a part that is absent. -/
structure StatusData.Shown (d : StatusData) : Prop where
  sessionCount : d.toJson.get? "sessionCount" = d.sessionCount.map Json.nat
  sessions : d.toJson.get? "sessions" =
    if d.sessions = [] then none else some (.array (d.sessions.map (·.toJson)))
  config : d.toJson.get? "config" = d.config

theorem StatusData.shown (d : StatusData) : d.Shown := by
  constructor <;>
    simp [StatusData.toJson, Json.get?_object, Table.get?_cons, Table.get?_append, Json.get?_field?]

namespace Envelope

variable (e : Envelope)

theorem get?_data : e.toJson.get? "data" = e.data := by
  simp [toJson, Json.get?_object, Table.get?_cons, Table.get?_append, Json.get?_field?]

theorem get?_error : e.toJson.get? "error" = e.error.map (·.toJson) := by
  simp [toJson, Json.get?_object, Table.get?_cons, Table.get?_append, Json.get?_field?]

/-! ### Formats -/

/-- An envelope that a command can have: its data is data of a command, and its duration is a
word. -/
structure Printable : Prop where
  data : ∀ v, e.data = some v → Datum v
  duration : ∀ n, e.durationMs = some n → n < Nat.pow 2 64

/-- The end of the text form. -/
def completion : String :=
  match e.durationMs with
  | some n => s!"Completed in {n}ms" ++ "\n"
  | none => ""

/-- The formats of an envelope tell the same. -/
structure Agrees : Prop where
  /-- The form on one line is one line. -/
  line : ∃ line, e.print .ndjson = line ++ "\n" ∧ SingleLine line
  /-- It tells the value of the envelope, -/
  ndjson : Tells (e.print .ndjson) e.toJson
  /-- and so does the indented form. -/
  json : Tells (e.print .json) e.toJson
  /-- A reader reads the one as it reads the other. -/
  same : ∀ depth, (readWithin depth (e.print .ndjson)).toOption =
    (readWithin depth (e.print .json)).toOption
  /-- The text form of a success shows its data and then how long it took. -/
  text : e.error = none → ∀ d, e.data = some d →
    ∃ shown, e.print .text = shown ++ "\n" ++ e.completion ∧ Tells shown d
  /-- The data is a member of the value if there is data, -/
  data : e.toJson.get? "data" = e.data
  /-- and the error if there is an error. -/
  error : e.toJson.get? "error" = e.error.map (·.toJson)

variable {e}

theorem Printable.numbers (h : e.Printable) : e.toJson.AllNumbers Number.IsWord := by
  refine .object ?_
  simp only [List.forall_mem_append, List.forall_mem_cons, Json.forall_mem_field?]
  refine ⟨⟨⟨⟨?_, .bool _, .string _, List.forall_mem_nil _⟩, fun v hv => (h.data v hv).numbers⟩, ?_⟩,
    ?_⟩
  · exact Json.allNumbers_nat (by decide)
  · rintro x hx
    obtain ⟨f, -, rfl⟩ := Option.map_eq_some_iff.mp hx
    refine .object ?_
    simp only [List.forall_mem_cons]
    exact ⟨.string _, .string _, List.forall_mem_nil _⟩
  · rintro x hx
    obtain ⟨n, hn, rfl⟩ := Option.map_eq_some_iff.mp hx
    exact Json.allNumbers_nat (h.duration n hn)

/-- The text form of a success. -/
theorem print_text {d : Json} (herror : e.error = none) (hdata : e.data = some d) :
    e.print .text = d.pretty ++ "\n" ++ e.completion := by
  simp only [print, textLines, completion, herror, hdata]
  cases e.durationMs <;> simp

theorem Printable.agrees (h : e.Printable) : e.Agrees := by
  have ndjson : Tells (e.print .ndjson) e.toJson :=
    Json.tells_compact h.numbers Json.padding_lineFeed (Json.toList_line e.toJson)
  have json : Tells (e.print .json) e.toJson :=
    Json.tells_pretty h.numbers Json.padding_lineFeed (by
      rw [print, String.toList_append, Json.pretty, String.toList_ofList]
      rfl)
  refine ⟨⟨e.toJson.compact, rfl, singleLine_compact _⟩, ndjson, json,
    ndjson.readWithin_congr json, fun herror d hdata => ⟨d.pretty, print_text herror hdata, ?_⟩,
    e.get?_data, e.get?_error⟩
  exact Json.tells_pretty (h.data d hdata).numbers Json.padding_nil (by
    rw [Json.pretty, String.toList_ofList, List.append_nil])

end Envelope

/-! ### Commands -/

/-- What is printed is one envelope in every format. -/
structure Prints (printed : Format → String) (e : Envelope) : Prop where
  forms : ∀ format, printed format = e.print format
  /-- Of its data and its error exactly one has a member. -/
  one : (e.toJson.get? "data").isSome ↔ ¬(e.toJson.get? "error").isSome

theorem prints_envelope (command : String) (data : Json) (durationMs : Nat)
    (result : Except CommandError Unit) :
    Prints (envelope command data durationMs result).print
      (envelope command data durationMs result) := by
  refine ⟨fun _ => rfl, ?_⟩
  rw [Envelope.get?_data, Envelope.get?_error]
  cases result <;> simp [envelope, Envelope.success, Envelope.failure]

theorem printable_envelope (command : String) {data : Json} {durationMs : Nat} (hdata : Datum data)
    (hduration : durationMs < Nat.pow 2 64) (result : Except CommandError Unit) :
    (envelope command data durationMs result).Printable := by
  cases result with
  | ok _ =>
      refine ⟨?_, ?_⟩
      · rintro _ ⟨⟩
        exact hdata
      · rintro _ ⟨⟩
        exact hduration
  | error _ =>
      refine ⟨nofun, ?_⟩
      rintro _ ⟨⟩
      exact hduration

/-- A response that a daemon can send is reported with data of a command. -/
theorem Account.datum {endpoint : String} {i : Inquiry} {response : Option Response} {data : Json}
    {result : Except CommandError Unit} (h : Account endpoint i response data result)
    (hr : ∀ r, response = some r → r.Sendable) : Datum data := by
  cases h with
  | start gameletName directory => exact .session _
  | stop gameletId => exact .session _
  | noStatus => exact .status nofun nofun
  | status s =>
      have hs : s.Sendable := hr (.status s) rfl
      refine .status ?_ ?_
      · rintro _ ⟨⟩
        exact hs.count
      · rintro _ ⟨⟩
        exact hs.config.numbers
  | noShutdown | shutdown => exact .shutdown _

/-- No number of the response that is met is a double. -/
def Meeting.Integral : Meeting → Prop
  | .failed _ => True
  | .broken _ => True
  | .answered reply => ∀ r, firstResponse reply = .ok r → r.Integral

/-- A response that was received is one that a daemon can send, unless it holds a double. -/
theorem sendable_of_firstResponse {reply : Octets} {r : Response} (h : firstResponse reply = .ok r)
    (hi : r.Integral) : r.Sendable := by
  unfold firstResponse at h
  split at h
  · cases h
  · split at h
    · cases h
    · split at h
      next hread =>
        cases h
        exact Response.sendable_of_read? hread hi
      · cases h

/-- **A command prints one envelope in every format, unless its failure is unreported.** -/
theorem run_prints (i : Inquiry) (endpoint : String) (durationMs : Nat) (m : Meeting) :
    (∃ e, Prints (fun format => (run i endpoint format durationMs m).printed) e ∧
      (durationMs < Nat.pow 2 64 → m.Integral → e.Printable)) ∨ ∃ err, Unreported i m err := by
  rcases exchange_cases m with ⟨response, hm, hreply⟩ | ⟨err, herr⟩
  · have hrun : ∀ format, run i endpoint format durationMs m =
        report i endpoint format durationMs response := fun format => by rw [run, hm]
    rcases account_cases i endpoint response with ⟨data, result, h⟩ | ⟨r, hr, hmisfit⟩
    · have hprints := prints_envelope i.name data durationMs result
      refine .inl ⟨envelope i.name data durationMs result, ⟨fun format => ?_, hprints.one⟩,
        fun hd hi => printable_envelope _ (h.datum fun r hr => ?_) hd _⟩
      · rw [hrun, h.report_eq]
        rfl
      · obtain ⟨reply, rfl, hf⟩ := hreply r hr
        exact sendable_of_firstResponse hf (hi r hf)
    · obtain ⟨reply, rfl, hf⟩ := hreply r hr
      exact .inr ⟨_, .misfit hf hmisfit⟩
  · exact .inr ⟨err, herr i⟩

/-- **The formats agree.**  An envelope is printed on one line, its line is read as its indented form
is, and its text form shows its data.  What a command prints are the forms of one envelope with
either data or an error, unless the failure is unreported, and then nothing is printed.  What is
absent from the data of a session or of a status has no member. -/
theorem formats_agree :
    (∀ e : Envelope, e.Printable → e.Agrees) ∧
      (∀ (i : Inquiry) (endpoint : String) (durationMs : Nat) (m : Meeting),
        (∃ e, Prints (fun format => (run i endpoint format durationMs m).printed) e ∧
          (durationMs < Nat.pow 2 64 → m.Integral → e.Printable)) ∨
        ∃ err, Unreported i m err ∧
          ∀ format, run i endpoint format durationMs m = ⟨.error err, ""⟩) ∧
      (∀ d : SessionData,
        d.toJson.get? "workstationDirectory" = d.workstationDirectory.map .string) ∧
      ∀ d : StatusData, d.Shown := by
  refine ⟨fun e he => he.agrees, fun i endpoint durationMs m => ?_,
    fun d => d.get?_workstationDirectory, fun d => d.shown⟩
  refine (run_prints i endpoint durationMs m).imp_right ?_
  rintro ⟨err, herr⟩
  exact ⟨err, herr, fun format => run_of_unreported herr endpoint format durationMs⟩

/-- The formats agree on a configuration with an empty list and a line feed in it. -/
theorem formats_agree_nested :
    (Envelope.success "status" (StatusData.ofStatus "asm.sock"
      ⟨0, [], .object [("filters", .array []), ("note", .array [.string "a\n", .nat 7])]⟩).toJson
      12).Agrees := by
  refine formats_agree.1 _ (printable_envelope "status" (.status ?_ ?_) (by decide) (.ok ()))
  · rintro _ ⟨⟩
    decide
  · rintro _ ⟨⟩
    refine .object ?_
    simp only [List.forall_mem_cons]
    refine ⟨.array (List.forall_mem_nil _), .array ?_, List.forall_mem_nil _⟩
    simp only [List.forall_mem_cons]
    exact ⟨.string _, Json.allNumbers_nat (by decide), List.forall_mem_nil _⟩

end Client

end Streamkeeper
