import Streamkeeper.Proofs.Wire.Lockstep
import Streamkeeper.Proofs.Wire.RoundTrip

/-!
# Requests — which texts are requests

What an object is as a request is read off the values of its members (`Request.ofValues`): the value
of the tag names a kind, and the values of the kind's fields make the request.  So it is for every
text with such an object, in whatever order its members stand (`IsObject.toOption_read?`), and an
array of the same values comes to the same (`toOption_read?_array`).

`acceptance_of_isObject` lists what follows of order, foreign members, origins, refusals and arrays.
-/

namespace Streamkeeper

open Json (Mismatch)

/-! ### Fields -/

namespace Wire

/-- A value that is a text. -/
def text? : Option Json → Option String
  | some (.string s) => some s
  | _ => none

theorem string_toOption (v : Json) : (string v).toOption = text? (some v) := by
  cases v <;> rfl

theorem required_string (name : String) (ms : List (String × Json)) :
    (required string name ms).toOption = text? (Table.get? ms name) := by
  rw [required, member?_eq_get?]
  rcases Table.get? ms name with _ | v
  · rfl
  · exact string_toOption v

/-- Members with distinct names are checked one by one, so right values pass. -/
theorem checkMembers_ok {fields : List Field} {seen : List String} {ms : List (String × Json)}
    (h : (Table.keys ms).Nodup) (hseen : ∀ k ∈ Table.keys ms, k ∉ seen)
    (hcheck : ∀ f ∈ fields, ∀ v, Table.get? ms f.name = some v → f.check v = .ok ()) :
    checkMembers fields seen ms = .ok () := by
  induction ms generalizing seen with
  | nil => rfl
  | cons m ms ih =>
      obtain ⟨k, v⟩ := m
      obtain ⟨hk, hms⟩ := List.nodup_cons.mp h
      have hrest : ∀ f ∈ fields, ∀ v, Table.get? ms f.name = some v → f.check v = .ok () := by
        intro f hf v' hv'
        have hkey : f.name ∈ Table.keys ms := by
          rw [← Table.isSome_get?_iff, hv']
          rfl
        have hne : k ≠ f.name := fun heq => hk (heq ▸ hkey)
        exact hcheck f hf v' (by rw [Table.get?_cons, if_neg hne, hv'])
      rcases hf : fields.find? fun f => f.name == k with _ | f
      · simp only [checkMembers, hf]
        exact ih hms (fun k' hk' => hseen k' (List.mem_cons_of_mem _ hk')) hrest
      · have hname : f.name = k := by simpa using List.find?_some hf
        have hv : f.check v = .ok () :=
          hcheck f (List.mem_of_find?_eq_some hf) v (by rw [Table.get?_cons, if_pos hname.symm])
        simp only [checkMembers, hf, if_neg (hseen k List.mem_cons_self), hv, bind, Except.bind]
        refine ih hms (fun k' hk' hmem => ?_) hrest
        rcases List.mem_cons.mp hmem with rfl | hmem
        · exact hk hk'
        · exact hseen k' (List.mem_cons_of_mem _ hk') hmem

/-- Where a result needs right values, checking the members first makes no difference to it. -/
theorem checkMembers_bind {α : Type} {fields : List Field} {ms : List (String × Json)}
    (h : (Table.keys ms).Nodup) {r : Except Mismatch α}
    (hr : ∀ x, r = .ok x →
      ∀ f ∈ fields, ∀ v, Table.get? ms f.name = some v → f.check v = .ok ()) :
    (checkMembers fields [] ms >>= fun _ => r).toOption = r.toOption := by
  rw [Except.toOption_bind]
  cases r with
  | error m => cases (checkMembers fields [] ms).toOption <;> rfl
  | ok x => rw [checkMembers_ok h (fun _ _ => List.not_mem_nil) (hr x rfl)]; rfl

/-- A field that has been read as a text passes its check. -/
theorem check_of_required {name s : String} {ms : List (String × Json)}
    (h : required string name ms = .ok s) {v : Json} (hv : Table.get? ms name = some v) :
    (field name string).check v = .ok () := by
  have hread : string v = .ok s := by
    rwa [required, member?_eq_get?, hv] at h
  simp only [field, hread, Except.map]

end Wire

/-! ### What the members of a request mean -/

namespace Request

open Wire (text?)

/-- The names of the fields of a kind of request, in their order. -/
def Kind.fields : Kind → List String
  | .status | .shutdown => []
  | .startSession => ["gamelet_name", "workstation_directory", "origin"]
  | .stopSession => ["gamelet_id"]

/-- The fields that have to be there, with texts for values. -/
def Kind.required : Kind → List String
  | .status | .shutdown => []
  | .startSession => ["gamelet_name", "workstation_directory"]
  | .stopSession => ["gamelet_id"]

/-- The request of a kind whose fields have values. -/
def ofFields (value : String → Option Json) : Kind → Option Request
  | .status => some .status
  | .shutdown => some .shutdown
  | .startSession => do
    let name ← text? (value "gamelet_name")
    let directory ← text? (value "workstation_directory")
    some (.startSession ⟨name, directory, ((value "origin").map Origin.ofJson).getD .unknown⟩)
  | .stopSession => (text? (value "gamelet_id")).map .stopSession

/-- Members with distinct names are a request by the values of its fields alone. -/
theorem ofContent_members {ms : List (String × Json)} (h : (Table.keys ms).Nodup) (kind : Kind) :
    (ofContent kind (.members ms)).toOption = ofFields (Table.get? ms) kind := by
  cases kind with
  | status => rfl
  | shutdown => rfl
  | startSession =>
      rw [ofContent, Except.toOption_map, StartRequest.ofContent, Wire.checkMembers_bind h,
        Except.toOption_bind, Wire.required_string, ofFields]
      · simp only [Except.toOption_bind, Wire.required_string, Wire.member?_eq_get?]
        rcases text? (Table.get? ms "gamelet_name") with _ | name
        · rfl
        · rcases text? (Table.get? ms "workstation_directory") with _ | directory <;> rfl
      · intro r hr
        obtain ⟨name, hn, hr⟩ := Except.bind_eq_ok hr
        obtain ⟨directory, hd, -⟩ := Except.bind_eq_ok hr
        simp only [StartRequest.shape, List.forall_mem_cons]
        exact ⟨fun _ => Wire.check_of_required hn, fun _ => Wire.check_of_required hd,
          fun _ _ => trivial, fun _ hf => by cases hf⟩
  | stopSession =>
      rw [ofContent, Except.toOption_map, stopId, Wire.checkMembers_bind h, Wire.required_string,
        ofFields]
      intro id hid
      simp only [List.forall_mem_cons]
      exact ⟨fun _ => Wire.check_of_required hid, fun _ hf => by cases hf⟩

theorem ofFields_congr {value value' : String → Option Json} {kind : Kind}
    (h : ∀ name ∈ kind.fields, value name = value' name) :
    ofFields value kind = ofFields value' kind := by
  cases kind with
  | status => rfl
  | shutdown => rfl
  | startSession =>
      simp only [ofFields, h "gamelet_name" (by decide), h "workstation_directory" (by decide),
        h "origin" (by decide)]
  | stopSession => simp only [ofFields, h "gamelet_id" (by decide)]

theorem tagKey_not_mem_fields (kind : Kind) : Wire.tagKey ∉ kind.fields := by
  cases kind <;> decide

/-- The kind that the tag of a request names. -/
def kindIn (value : String → Option Json) : Option Kind :=
  (value Wire.tagKey).bind (Wire.tagOf kindOf)

/-- The request whose members have values. -/
def ofValues (value : String → Option Json) : Option Request :=
  (kindIn value).bind (ofFields value)

theorem ofValues_congr {value value' : String → Option Json}
    (htag : value Wire.tagKey = value' Wire.tagKey)
    (h : ∀ kind, kindIn value' = some kind → ∀ name ∈ kind.fields, value name = value' name) :
    ofValues value = ofValues value' := by
  have hkind : kindIn value = kindIn value' := by rw [kindIn, kindIn, htag]
  rw [ofValues, ofValues, hkind]
  rcases hk : kindIn value' with _ | kind
  · rfl
  · exact ofFields_congr (h kind hk)

/-- Elements in the order of the fields are a request as members with the fields' names are. -/
theorem ofContent_elements (kind : Kind) {values : List Json}
    (h : values.length ≤ kind.fields.length) :
    (ofContent kind (.elements values)).toOption =
      ofFields (Table.get? (kind.fields.zip values)) kind := by
  cases kind with
  | status =>
      obtain rfl := List.length_eq_zero_iff.mp (Nat.le_zero.mp h)
      rfl
  | shutdown =>
      obtain rfl := List.length_eq_zero_iff.mp (Nat.le_zero.mp h)
      rfl
  | startSession =>
      match values with
      | [] => rfl
      | [name] => cases name <;> rfl
      | [name, directory] => cases name <;> cases directory <;> rfl
      | [name, directory, origin] => cases name <;> cases directory <;> rfl
      | _ :: _ :: _ :: _ :: _ =>
          simp only [Kind.fields, List.length_cons, List.length_nil] at h
          omega
  | stopSession =>
      match values with
      | [] => rfl
      | [id] => cases id <;> rfl
      | _ :: _ :: _ =>
          simp only [Kind.fields, List.length_cons, List.length_nil] at h
          omega

/-! ### Texts -/

/-- A text is an object whose members have distinct names. -/
structure IsObject (text : String) (ms : List (String × Json)) : Prop where
  reads : Json.read? text = .ok (.object ms)
  distinct : (Table.keys ms).Nodup

/-- Two texts are the same request, or neither is one. -/
def Agree (text text' : String) : Prop :=
  (read? text).toOption = (read? text').toOption

theorem read?_eq_ok_iff {text : String} {r : Request} :
    read? text = .ok r ↔ (read? text).toOption = some r := by
  cases read? text <;> simp [Except.toOption]

theorem exists_error_iff {text : String} :
    (∃ e, read? text = .error e) ↔ (read? text).toOption = none := by
  cases read? text <;> simp [Except.toOption]

/-- An object is a request by the values of its members alone. -/
theorem IsObject.toOption_read? {text : String} {ms : List (String × Json)}
    (h : IsObject text ms) : (read? text).toOption = ofValues (Table.get? ms) := by
  have hremove : ms.filter (fun m => m.1 != Wire.tagKey) = Table.remove ms Wire.tagKey :=
    List.filter_congr fun m _ => by simp [bne, beq_eq_decide]
  rw [read?, Wire.readTagged_of_read? kindOf record ofContent h.reads h.distinct,
    Wire.taggedValue_toOption, Wire.contentOf, hremove, ofValues, kindIn, Option.bind_assoc,
    Option.bind_assoc]
  refine Option.bind_congr fun v _ => ?_
  rw [Option.bind_map]
  refine Option.bind_congr fun kind _ => ?_
  refine (ofContent_members (Table.nodup_keys_remove h.distinct _) kind).trans ?_
  refine ofFields_congr fun name hname => ?_
  rw [Table.get?_remove, if_neg]
  rintro rfl
  exact tagKey_not_mem_fields kind hname

/-- An array that begins with a tag is a request by the elements after it. -/
theorem toOption_read?_array {text tag : String} {kind : Kind} {values : List Json}
    (hkind : kindOf tag = .ok kind) (hlen : values.length ≤ kind.fields.length)
    (h : Json.read? text = .ok (.array (.string tag :: values))) :
    (read? text).toOption = ofFields (Table.get? (kind.fields.zip values)) kind := by
  rw [read?, Wire.readTagged_of_read? kindOf record ofContent h trivial, Wire.taggedValue_toOption,
    Wire.contentOf, Wire.tagOf, hkind]
  exact ofContent_elements kind hlen

/-- A name that plays no part in a request with the members `ms`: neither the tag nor a field of the
kind that the tag names. -/
def Foreign (ms : List (String × Json)) (name : String) : Prop :=
  name ≠ Wire.tagKey ∧ ∀ kind, kindIn (Table.get? ms) = some kind → name ∉ kind.fields

theorem kindIn_of_tag {value : String → Option Json} {tag : String} {kind : Kind}
    (htag : value Wire.tagKey = some (.string tag)) (hkind : kindOf tag = .ok kind) :
    kindIn value = some kind := by
  rw [kindIn, htag, Option.bind_some, Wire.tagOf, hkind]
  rfl

theorem tag_of_kindIn {value : String → Option Json} {kind : Kind} (h : kindIn value = some kind) :
    ∃ tag, value Wire.tagKey = some (.string tag) ∧ kindOf tag = .ok kind := by
  obtain ⟨v, hv, htag⟩ := Option.bind_eq_some_iff.mp h
  cases v with
  | string tag =>
      refine ⟨tag, hv, ?_⟩
      rw [Wire.tagOf] at htag
      rcases hk : kindOf tag with e | kind' <;> rw [hk] at htag <;> cases htag
      rfl
  | _ => cases htag

end Request

/-- The origin that the value of a member names, or that is meant without one. -/
inductive Origin.Named : Option Json → Origin → Prop
  | absent : Named none .unknown
  | tag (s : String) : Named (some (.string s)) (.ofTag s)
  | one : Named (some (.nat 1)) .cli
  | two : Named (some (.nat 2)) .partnerPortal
  | other {v : Json} (htag : ∀ s, v ≠ .string s) (hone : v ≠ .nat 1) (htwo : v ≠ .nat 2) :
      Named (some v) .unknown

theorem Origin.ofJson_number (n : Number) :
    ofJson (.number n) = ((Json.number n).asNat?.map ofNumber).getD .unknown := by
  rw [ofJson]
  cases (Json.number n).asNat? <;> rfl

theorem Origin.ofJson_nat {n : Nat} (h : n < 2 ^ 64) : ofJson (.nat n) = ofNumber n := by
  have hn : (Json.number (.int n)).asNat? = some n := Json.asNat?_eq_some_iff.mpr ⟨rfl, h⟩
  rw [Json.nat, ofJson_number, hn]
  rfl

/-- What is neither a tag nor one of the numbers 1 and 2 names no origin. -/
theorem Origin.ofJson_other {v : Json} (htag : ∀ s, v ≠ .string s) (hone : v ≠ .nat 1)
    (htwo : v ≠ .nat 2) : ofJson v = .unknown := by
  cases v with
  | string s => exact absurd rfl (htag s)
  | number n =>
      rw [ofJson_number]
      rcases hn : (Json.number n).asNat? with _ | k
      · rfl
      · obtain ⟨hv, -⟩ := Json.asNat?_eq_some_iff.mp hn
        rw [Option.map_some, Option.getD_some, ofNumber, if_neg, if_neg]
        · rintro rfl
          exact htwo hv
        · rintro rfl
          exact hone hv
  | _ => rfl

/-- Every value names an origin. -/
theorem Origin.named_ofJson (v : Option Json) : Named v ((v.map ofJson).getD .unknown) := by
  rcases v with _ | v
  · exact .absent
  rw [Option.map_some, Option.getD_some]
  by_cases htag : ∃ s, v = .string s
  · obtain ⟨s, rfl⟩ := htag
    exact .tag s
  by_cases hone : v = .nat 1
  · rw [hone, ofJson_nat (by decide)]
    exact .one
  by_cases htwo : v = .nat 2
  · rw [htwo, ofJson_nat (by decide)]
    exact .two
  · rw [ofJson_other (fun s h => htag ⟨s, h⟩) hone htwo]
    exact .other (fun s h => htag ⟨s, h⟩) hone htwo

namespace Request

open Wire (text?)

/-! ### Acceptance -/

/-- Which requests a text with the members `ms` is. -/
structure Acceptance (text : String) (ms : List (String × Json)) : Prop where
  /-- The order of the members makes no difference. -/
  order : ∀ text' ms', IsObject text' ms' → ms'.Perm ms → Agree text' text
  /-- Members that the request has no field for make no difference. -/
  extra : ∀ text' ms' more, IsObject text' ms' → ms'.Perm (ms ++ more) →
    (∀ m ∈ more, Foreign ms m.1) → Agree text' text
  /-- A start with texts for the gamelet and the directory is accepted, whatever its origin is. -/
  start : ∀ name directory, Table.get? ms Wire.tagKey = some (.string "start_session") →
    Table.get? ms "gamelet_name" = some (.string name) →
    Table.get? ms "workstation_directory" = some (.string directory) →
    ∃ origin, Origin.Named (Table.get? ms "origin") origin ∧
      read? text = .ok (.startSession ⟨name, directory, origin⟩)
  /-- A stop with a text for the gamelet is accepted. -/
  stop : ∀ id, Table.get? ms Wire.tagKey = some (.string "stop_session") →
    Table.get? ms "gamelet_id" = some (.string id) → read? text = .ok (.stopSession id)
  /-- A tag, with texts for all fields that its kind requires, is accepted. -/
  accepted : ∀ kind, kindIn (Table.get? ms) = some kind →
    (∀ name ∈ kind.required, ∃ s, Table.get? ms name = some (.string s)) →
    ∃ r : Request, read? text = .ok r ∧ r.kind = kind
  /-- The tag has to be there and to name a kind of request. -/
  tagged : (∀ tag ∈ kinds.map Prod.fst, Table.get? ms Wire.tagKey ≠ some (.string tag)) →
    ∃ e, read? text = .error e
  /-- Every field that has to be there has to be a text. -/
  required : ∀ kind, kindIn (Table.get? ms) = some kind → ∀ name ∈ kind.required,
    (∀ s, Table.get? ms name ≠ some (.string s)) → ∃ e, read? text = .error e
  /-- The tag and the values of the fields in their order, as an array, are the same request. -/
  array : ∀ text' tag kind values, kindOf tag = .ok kind → values.length ≤ kind.fields.length →
    ms.Perm ((Wire.tagKey, .string tag) :: kind.fields.zip values) →
    Json.read? text' = .ok (.array (.string tag :: values)) → Agree text' text
  /-- The object itself is the same request as its text. -/
  value : (ofJson? (.object ms)).toOption = (read? text).toOption

theorem mem_kinds_of_kindOf {tag : String} {kind : Kind} (h : kindOf tag = .ok kind) :
    tag ∈ kinds.map Prod.fst := by
  unfold kindOf Wire.oneOf at h
  split at h
  next k hk =>
    obtain ⟨l, l', hkinds, -⟩ := List.lookup_eq_some_iff.mp hk
    rw [hkinds]
    simp
  next => cases h

theorem text?_eq_none {v : Option Json} (h : ∀ s, v ≠ some (.string s)) : text? v = none := by
  rcases v with _ | v
  · rfl
  · cases v with
    | string s => exact absurd rfl (h s)
    | _ => rfl

/-- A field that has to be there and is no text is fatal. -/
theorem ofFields_eq_none {value : String → Option Json} {kind : Kind} {name : String}
    (hname : name ∈ kind.required) (h : text? (value name) = none) :
    ofFields value kind = none := by
  cases kind with
  | status => cases hname
  | shutdown => cases hname
  | startSession =>
      rcases List.mem_cons.mp hname with rfl | hname
      · rw [ofFields, h]
        rfl
      · obtain rfl := List.mem_singleton.mp hname
        rw [ofFields, h]
        cases text? (value "gamelet_name") <;> rfl
  | stopSession =>
      obtain rfl := List.mem_singleton.mp hname
      rw [ofFields, h]
      rfl

/-- Texts for all fields that have to be there are enough. -/
theorem exists_ofFields {value : String → Option Json} {kind : Kind}
    (h : ∀ name ∈ kind.required, ∃ s, value name = some (.string s)) :
    ∃ r : Request, ofFields value kind = some r ∧ r.kind = kind := by
  cases kind with
  | status => exact ⟨.status, rfl, rfl⟩
  | shutdown => exact ⟨.shutdown, rfl, rfl⟩
  | startSession =>
      obtain ⟨name, hname⟩ := h "gamelet_name" (by decide)
      obtain ⟨directory, hdirectory⟩ := h "workstation_directory" (by decide)
      simp only [ofFields, hname, hdirectory, text?]
      exact ⟨_, rfl, rfl⟩
  | stopSession =>
      obtain ⟨id, hid⟩ := h "gamelet_id" (by decide)
      rw [ofFields, hid]
      exact ⟨.stopSession id, rfl, rfl⟩

/-- **Which texts are requests.**  Of an object whose members have distinct names only the tag and
the fields of the kind that it names count, wherever they stand.  A start is accepted with any
origin or none; an object without a tag that names a kind, or without a text in a field that has to
be there, is refused; and an array of the tag and the fields in their order is the same request as
the object, whose value and whose text are the same request too. -/
theorem acceptance_of_isObject {text : String} {ms : List (String × Json)} (h : IsObject text ms) :
    Acceptance text ms where
  order text' ms' h' hp := by
    rw [Agree, h.toOption_read?, h'.toOption_read?]
    exact congrArg ofValues (funext (Table.get?_perm h'.distinct hp))
  extra text' ms' more h' hp hmore := by
    have hget : ∀ name, name ∉ Table.keys more → Table.get? ms' name = Table.get? ms name := by
      intro name hname
      rw [Table.get?_perm h'.distinct hp, Table.get?_append, Table.get?_eq_none hname,
        Option.or_none]
    rw [Agree, h.toOption_read?, h'.toOption_read?]
    refine ofValues_congr (hget _ fun hm => ?_) fun kind hkind name hname => hget _ fun hm => ?_
    · obtain ⟨m, hm, heq⟩ := List.mem_map.mp hm
      exact (hmore m hm).1 heq
    · obtain ⟨m, hm, heq⟩ := List.mem_map.mp hm
      exact (hmore m hm).2 kind hkind (heq ▸ hname)
  start name directory htag hname hdirectory := by
    have hkind : kindOf "start_session" = .ok .startSession := rfl
    refine ⟨_, Origin.named_ofJson _, read?_eq_ok_iff.mpr ?_⟩
    rw [h.toOption_read?, ofValues, kindIn_of_tag htag hkind]
    simp only [Option.bind_some, ofFields, hname, hdirectory, text?]
    rfl
  stop id htag hid := by
    have hkind : kindOf "stop_session" = .ok .stopSession := rfl
    rw [read?_eq_ok_iff, h.toOption_read?, ofValues, kindIn_of_tag htag hkind, Option.bind_some,
      ofFields, hid]
    rfl
  accepted kind hkind hrequired := by
    obtain ⟨r, hr, hk⟩ := exists_ofFields hrequired
    exact ⟨r, read?_eq_ok_iff.mpr (by rw [h.toOption_read?, ofValues, hkind]; exact hr), hk⟩
  tagged htag := by
    have hkind : kindIn (Table.get? ms) = none := by
      rcases hk : kindIn (Table.get? ms) with _ | kind
      · rfl
      · obtain ⟨tag, hv, hkind⟩ := tag_of_kindIn hk
        exact absurd hv (htag tag (mem_kinds_of_kindOf hkind))
    rw [exists_error_iff, h.toOption_read?, ofValues, hkind]
    rfl
  required kind hkind name hname hnot := by
    rw [exists_error_iff, h.toOption_read?, ofValues, hkind]
    exact ofFields_eq_none hname (text?_eq_none hnot)
  array text' tag kind values hkind hlen hp harray := by
    have hget : Table.get? ms = Table.get? ((Wire.tagKey, .string tag) :: kind.fields.zip values) :=
      funext (Table.get?_perm h.distinct hp)
    rw [Agree, h.toOption_read?, toOption_read?_array hkind hlen harray, hget, ofValues,
      kindIn_of_tag (Table.get?_cons _ _ _ _) hkind]
    refine ofFields_congr fun name hname => ?_
    rw [Table.get?_cons, if_neg]
    rintro rfl
    exact tagKey_not_mem_fields kind hname
  value := by
    rw [ofJson?, Except.toOption_bind, read?,
      Wire.readTagged_of_read? kindOf record ofContent h.reads h.distinct]

/-- The tag may come late, and an origin may be anything. -/
theorem acceptance_late_tag :
    let text :=
      "\x7b\"origin\":[7],\"workstation_directory\":\"/d\",\"type\":\"start_session\",\"gamelet_name\":\"g\"\x7d"
    let ms := [("origin", .array [.nat 7]), ("workstation_directory", .string "/d"),
      ("type", .string "start_session"), ("gamelet_name", .string "g")]
    IsObject text ms ∧ Acceptance text ms ∧ ∃ origin,
      Origin.Named (some (.array [.nat 7])) origin ∧
        read? text = .ok (.startSession ⟨"g", "/d", origin⟩) := by
  intro text ms
  have h : IsObject text ms := ⟨by unfold text ms; rfl, by decide⟩
  have ha := acceptance_of_isObject h
  exact ⟨h, ha, ha.start "g" "/d" rfl rfl rfl⟩

end Request

end Streamkeeper
