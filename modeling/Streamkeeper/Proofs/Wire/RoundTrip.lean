import Streamkeeper.Proofs.Json.Line
import Streamkeeper.Proofs.Wire.Tagged
import Streamkeeper.Wire.Decode

/-!
# Messages — what is sent is received

A message is written on one line and read back from it, with or without the line feed that ends it
(`Wire.RoundTrips`).  Of requests this holds without exception.  Of responses it holds of those that
a daemon can hold (`Response.Sendable`): the objects of a configuration are in the order of their
keys, its numbers are integers of 64 bits, and it is not nested too deeply for a reader of messages.
Doubles are outside: one is printed with the fewest digits that name it and read by scaling, which
can miss it by its last bit (`Response.not_stable_double`).

Reading gives no other responses (`Response.sendable_of_read?`).  So whatever text a message came
from, the text that is written for it is read as the same message.
-/

namespace Streamkeeper

open Json (Mismatch ReadError Readable Writable)

/-! ### Values of fields -/

namespace Wire

theorem natural_nat {bound n : Nat} (h : n < bound) (kind : String) :
    natural bound kind (.nat n) = .ok n := by
  have hn : 0 ≤ (n : Int) ∧ (n : Int).toNat < bound := ⟨Int.natCast_nonneg n, h⟩
  rw [Json.nat, natural, if_pos hn, Int.toNat_natCast]

theorem lt_of_natural {bound n : Nat} {kind : String} {v : Json}
    (h : natural bound kind v = .ok n) : n < bound := by
  unfold natural at h
  split at h
  · split at h
    · rename_i hn
      cases h
      exact hn.2
    · cases h
  · cases h

@[simp] theorem word16_nat (n : UInt16) : word16 (.nat n.toNat) = .ok n := by
  rw [word16, natural_nat n.toNat_lt]
  exact congrArg Except.ok n.ofNat_toNat

@[simp] theorem word64_nat (n : UInt64) : word64 (.nat n.toNat) = .ok n := by
  rw [word64, natural_nat n.toNat_lt]
  exact congrArg Except.ok n.ofNat_toNat

/-- What is read from everything that is written is read from a list of it. -/
theorem listOf_map {α : Type} {read : Json → Except Mismatch α} {write : α → Json}
    (h : ∀ x, read (write x) = .ok x) (xs : List α) :
    listOf read (.array (xs.map write)) = .ok xs := by
  have hmap : ∀ xs : List α, (xs.map write).mapM read = .ok xs := by
    intro xs
    induction xs with
    | nil => rfl
    | cons x xs ih =>
        rw [List.map_cons, List.mapM_cons, h, ih]
        rfl
  exact hmap xs

theorem mem_of_member? {name : String} {ms : List (String × Json)} {v : Json}
    (h : member? name ms = some v) : (name, v) ∈ ms := by
  induction ms with
  | nil => cases h
  | cons m ms ih =>
      rw [member?] at h
      split at h
      · rename_i hk
        cases h
        exact hk ▸ List.mem_cons_self
      · exact List.mem_cons_of_mem _ (ih h)

theorem required_ok {α : Type} {read : Json → Except Mismatch α} {name : String}
    {ms : List (String × Json)} {x : α} (h : required read name ms = .ok x) :
    ∃ v, (name, v) ∈ ms ∧ read v = .ok x := by
  unfold required at h
  split at h
  · exact ⟨_, mem_of_member? ‹_›, h⟩
  · cases h

end Wire

theorem Origin.ofJson_toJson (o : Origin) : Origin.ofJson o.toJson = o := by
  cases o <;> decide

namespace SessionSummary

theorem ofJson?_toJson (s : SessionSummary) : ofJson? s.toJson = .ok s := by
  simp [ofJson?, toJson, shape, Wire.checkMembers, Wire.field, Wire.required, Wire.member?,
    Wire.string, Except.map, bind, Except.bind]

theorem writable_toJson (s : SessionSummary) (depth : Nat) : s.toJson.Writable (depth + 1) := by
  refine .object fun m hm => ?_
  simp only [List.mem_cons, List.not_mem_nil, or_false] at hm
  rcases hm with rfl | rfl | rfl | rfl | rfl
  · exact .string _ _
  · exact .string _ _
  · exact .string _ _
  · exact .nat _ (Nat.lt_trans s.port.toNat_lt (by decide))
  · exact .nat _ s.startedAt.toNat_lt

end SessionSummary

/-! ### Requests -/

namespace Request

/-- The kind of a request. -/
def kind : Request → Kind
  | .status => .status
  | .startSession _ => .startSession
  | .stopSession _ => .stopSession
  | .shutdown => .shutdown

theorem kindOf_tag (r : Request) : kindOf r.tag = .ok r.kind := by
  cases r <;> rfl

theorem ofContent_fields (r : Request) : ofContent r.kind (.members r.fields) = .ok r := by
  cases r with
  | status => rfl
  | shutdown => rfl
  | stopSession id =>
      simp [ofContent, kind, fields, stopId, Wire.checkMembers, Wire.field, Wire.required,
        Wire.member?, Wire.string, Except.map, bind, Except.bind]
  | startSession r =>
      simp [ofContent, kind, fields, StartRequest.ofContent, StartRequest.shape, Wire.checkMembers,
        Wire.field, Wire.required, Wire.member?, Wire.string, Origin.ofJson_toJson, Except.map,
        bind, Except.bind]

theorem carried_fields (r : Request) : Wire.Carried r.fields := by
  cases r with
  | status => exact ⟨by simp [fields], by simp [fields]⟩
  | shutdown => exact ⟨by simp [fields], by simp [fields]⟩
  | stopSession id => exact ⟨by simp [fields, Writable.string], by simp [fields, Wire.tagKey]⟩
  | startSession r =>
      exact ⟨by simp [fields, Origin.toJson, Writable.string], by simp [fields, Wire.tagKey]⟩

/-- A request is read from its line, whatever separators come after it. -/
theorem read?_of_render {r : Request} {text : String} {tail : List Char} (htail : Json.Padding tail)
    (h : text.toList = r.toJson.compactText ++ tail) : read? text = .ok r :=
  Wire.readTagged_text record (kindOf_tag r) (carried_fields r) (ofContent_fields r) htail h

end Request

/-! ### Responses -/

/-- A status that a daemon can hold. -/
structure ManagerStatus.Sendable (s : ManagerStatus) : Prop where
  /-- The count is a word. -/
  count : s.sessionCount < Nat.pow 2 64
  /-- The configuration has no numbers but integers of 64 bits, and fits inside a message. -/
  config : s.config.Writable (Json.depthLimit - 1)
  /-- The objects of the configuration are maps. -/
  ordered : s.config.Ordered

namespace Response

/-- A response that a daemon can send. -/
def Sendable : Response → Prop
  | .status s => s.Sendable
  | .ok => True
  | .error _ _ => True

/-- No number of a response is a double. -/
def Integral : Response → Prop
  | .status s => s.config.AllNumbers Number.IsInteger
  | .ok => True
  | .error _ _ => True

/-- The kind of a response. -/
def kind : Response → Kind
  | .status _ => .status
  | .ok => .ok
  | .error _ _ => .error

theorem kindOf_tag (r : Response) : kindOf r.tag = .ok r.kind := by
  cases r <;> rfl

theorem ofContent_fields {r : Response} (h : r.Sendable) :
    ofContent r.kind (.members r.fields) = .ok r := by
  cases r with
  | ok => rfl
  | error code message =>
      simp [ofContent, kind, fields, errorContent, Wire.checkMembers, Wire.field, Wire.required,
        Wire.member?, Wire.string, Wire.statusCode, Wire.statusName, Wire.oneOf, Except.map, bind,
        Except.bind]
  | status s =>
      have hsessions : ManagerStatus.sessionList (.array (s.sessions.map (·.toJson))) =
          .ok s.sessions := Wire.listOf_map SessionSummary.ofJson?_toJson s.sessions
      have hcount : Wire.count (.nat s.sessionCount) = .ok s.sessionCount :=
        Wire.natural_nat h.count _
      simp [ofContent, kind, fields, ManagerStatus.fields, ManagerStatus.ofContent,
        ManagerStatus.shape, ManagerStatus.configValue, Wire.checkMembers, Wire.field,
        Wire.required, Wire.member?, hcount, hsessions, h.ordered.canonical_eq, Except.map, bind,
        Except.bind]

theorem carried_fields {r : Response} (h : r.Sendable) : Wire.Carried r.fields := by
  cases r with
  | ok => exact ⟨by simp [fields], by simp [fields]⟩
  | error code message => exact ⟨by simp [fields, Writable.string], by simp [fields, Wire.tagKey]⟩
  | status s =>
      refine ⟨fun m hm => ?_, by simp [fields, ManagerStatus.fields, Wire.tagKey]⟩
      simp only [fields, ManagerStatus.fields, List.mem_cons, List.not_mem_nil, or_false] at hm
      rcases hm with rfl | rfl | rfl
      · exact .nat _ h.count
      · exact .array (List.forall_mem_map.mpr fun s _ => s.writable_toJson _)
      · exact h.config

/-- A response is read from its line, whatever separators come after it. -/
theorem read?_of_render {r : Response} (hr : r.Sendable) {text : String} {tail : List Char}
    (htail : Json.Padding tail) (h : text.toList = r.toJson.compactText ++ tail) :
    read? text = .ok r :=
  Wire.readTagged_text record (kindOf_tag r) (carried_fields hr) (ofContent_fields hr) htail h

end Response

/-! ### Responses that were read -/

/-- The parts of a status that was read from values. -/
theorem ManagerStatus.ofContent_ok {content : Wire.Content} {s : ManagerStatus}
    {P : Json → Prop} (h : ofContent content = .ok s) (hP : content.All P) :
    s.sessionCount < Nat.pow 2 64 ∧ ∃ v, P v ∧ s.config = v.canonical := by
  cases content with
  | members ms =>
      obtain ⟨_, -, h⟩ := Except.bind_eq_ok h
      obtain ⟨count, hcount, h⟩ := Except.bind_eq_ok h
      obtain ⟨sessions, -, h⟩ := Except.bind_eq_ok h
      obtain ⟨config, hconfig, h⟩ := Except.bind_eq_ok h
      cases h
      obtain ⟨_, -, hcount⟩ := Wire.required_ok hcount
      obtain ⟨v, hv, hconfig⟩ := Wire.required_ok hconfig
      cases hconfig
      exact ⟨Wire.lt_of_natural hcount, v, hP _ hv, rfl⟩
  | elements xs =>
      -- fewer than three elements leave a field without a value
      match xs, h with
      | [], h => cases h
      | [_], h =>
        obtain ⟨_, -, h⟩ := Except.bind_eq_ok h
        cases h
      | [_, _], h =>
        obtain ⟨_, -, h⟩ := Except.bind_eq_ok h
        obtain ⟨_, -, h⟩ := Except.bind_eq_ok h
        cases h
      | _ :: _ :: config :: rest, h =>
        obtain ⟨count, hcount, h⟩ := Except.bind_eq_ok h
        obtain ⟨sessions, -, h⟩ := Except.bind_eq_ok h
        obtain ⟨_, -, h⟩ := Except.bind_eq_ok h
        cases h
        exact ⟨Wire.lt_of_natural hcount, config, hP config (by simp), rfl⟩

/-- A response that was read is one that a daemon can send, unless it holds a double. -/
theorem Response.sendable_of_read? {text : String} {r : Response} (h : read? text = .ok r)
    (hi : r.Integral) : r.Sendable := by
  obtain ⟨kind, content, hcontent, h⟩ := Wire.readTagged_ok h
  cases r with
  | ok => trivial
  | error => trivial
  | status s =>
      -- no other kind gives a status
      have hs : ManagerStatus.ofContent content = .ok s := by
        cases kind with
        | status =>
            cases hs : ManagerStatus.ofContent content with
            | error => simp [ofContent, hs, Except.map] at h
            | ok s' => simpa [ofContent, hs, Except.map] using h
        | ok => cases hn : Request.noFields content <;> simp [ofContent, hn, Except.map] at h
        | error => cases he : errorContent content <;> simp [ofContent, he, Except.map] at h
      obtain ⟨hcount, v, hv, hconfig⟩ := ManagerStatus.ofContent_ok hs hcontent
      have hi : s.config.AllNumbers Number.IsInteger := hi
      rw [hconfig] at hi
      refine ⟨hcount, ⟨?_, ?_⟩, ?_⟩
      · rw [hconfig]
        exact hv.within.canonical
      · rw [hconfig]
        exact hv.numbers.canonical.imp₂ (fun _ => Number.InRange.isWord) hi
      · rw [hconfig]
        exact Json.ordered_canonical v

/-! ### Lines -/

/-- What a way to write messages and a way to read them owe each other.  `Sendable` are the messages
that can be sent, `Integral` those without doubles. -/
structure Wire.RoundTrips {α : Type} (render : α → String) (read? : String → Except ReadError α)
    (Sendable Integral : α → Prop) : Prop where
  /-- A message is written on a single line. -/
  framed : ∀ m, SingleLine (render m)
  /-- A message is read from its text. -/
  reads : ∀ m, Sendable m → read? (render m) = .ok m
  /-- A message is read from its text with a line feed after it. -/
  readsLine : ∀ m, Sendable m → read? (render m ++ "\n") = .ok m
  /-- Different messages have different texts. -/
  distinct : ∀ m m', Sendable m → Sendable m' → render m = render m' → m = m'
  /-- A message that was read, from any text, is read again from its own text unless it holds a
  double. -/
  stable : ∀ text m, read? text = .ok m → Integral m → read? (render m) = .ok m

/-- Reading back gives the rest. -/
theorem Wire.RoundTrips.of_reads {α : Type} {toJson : α → Json}
    {read? : String → Except ReadError α} {Sendable Integral : α → Prop}
    (hread : ∀ {m text tail}, Sendable m → Json.Padding tail →
      text.toList = (toJson m).compactText ++ tail → read? text = .ok m)
    (hsendable : ∀ {text m}, read? text = .ok m → Integral m → Sendable m) :
    RoundTrips (fun m => (toJson m).compact) read? Sendable Integral := by
  have reads : ∀ m, Sendable m → read? (toJson m).compact = .ok m := fun m hm =>
    hread hm Json.padding_nil (by rw [Json.toList_compact, List.append_nil])
  refine ⟨fun m => singleLine_compact _, reads, fun m hm => ?_, fun m m' hm hm' h => ?_, ?_⟩
  · exact hread hm Json.padding_lineFeed (Json.toList_line _)
  · have h' : read? (toJson m').compact = .ok m := h ▸ reads m hm
    exact Except.ok.inj (h'.symm.trans (reads m' hm'))
  · exact fun text m h hi => reads m (hsendable h hi)

/-- **What is sent is received.**  Every request, and every response that a daemon can send, is
written on a single line and read back from it.  A configuration is made of null, booleans, texts,
integers of 64 bits, lists and objects here; doubles are outside. -/
theorem messages_round_trip :
    Wire.RoundTrips Request.render Request.read? (fun _ => True) (fun _ => True) ∧
    Wire.RoundTrips Response.render Response.read? Response.Sendable Response.Integral :=
  ⟨.of_reads (fun _ => Request.read?_of_render) fun _ _ => trivial,
    .of_reads (fun h => Response.read?_of_render h) Response.sendable_of_read?⟩

/-- A status with a list in its configuration is received as it is sent. -/
theorem messages_round_trip_status :
    let config := Json.object [("names", .array [.string "a\n", .null])]
    let r := Response.status ⟨1, [⟨"a/b/c", "/src", "10.0.0.1", 22, 7⟩], config⟩
    SingleLine r.render ∧ Response.read? (r.render ++ "\n") = .ok r := by
  intro config r
  have hnull : Writable 0 .null := ⟨.null 0, .null⟩
  have hnames : Writable 1 (.array [.string "a\n", .null]) :=
    .array (by simp [Writable.string, hnull])
  have hconfig : Writable 2 config := .object (by simp [hnames])
  have hordered : config.Ordered := by
    refine .object (List.pairwise_singleton _ _) (List.forall_mem_singleton.mpr (.array ?_))
    exact List.forall_mem_cons.mpr ⟨.string _, List.forall_mem_singleton.mpr .null⟩
  exact ⟨messages_round_trip.2.framed r, messages_round_trip.2.readsLine r
    ⟨by decide, hconfig.mono (by decide), hordered⟩⟩

theorem Response.exists_of_render {text sent : String}
    (h : (Response.read? text).toOption.map Response.render = some sent) :
    ∃ r, Response.read? text = .ok r ∧ r.render = sent := by
  cases hr : Response.read? text with
  | error e =>
      rw [hr] at h
      cases h
  | ok r =>
      rw [hr] at h
      exact ⟨r, rfl, Option.some.inj h⟩

/-- With a double in its configuration, a status may be received as another one: this one is sent
with 9.019691576156013, from which the double below is read. -/
theorem Response.not_stable_double :
    let status (config : String) :=
      "\x7b\"type\":\"status\",\"session_count\":0,\"sessions\":[],\"config\":" ++ config ++ "\x7d"
    ∃ r, Response.read? (status "9.019691576156014") = .ok r ∧
      r.render = status "9.019691576156013" ∧ Response.read? r.render ≠ .ok r := by
  intro status
  obtain ⟨r, hr, hsent⟩ : ∃ r, Response.read? (status "9.019691576156014") = .ok r ∧
      r.render = status "9.019691576156013" := Response.exists_of_render (by decide +kernel)
  obtain ⟨r', hr', hback⟩ : ∃ r, Response.read? (status "9.019691576156013") = .ok r ∧
      r.render = status "9.019691576156012" := Response.exists_of_render (by decide +kernel)
  refine ⟨r, hr, hsent, fun h => ?_⟩
  obtain rfl : r' = r := Except.ok.inj (hr'.symm.trans (hsent ▸ h))
  exact absurd (hsent.symm.trans hback) (by decide +kernel)

end Streamkeeper
