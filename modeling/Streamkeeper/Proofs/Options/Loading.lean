import Mathlib.Data.List.Dedup
import Streamkeeper.Proofs.Json.Bounds
import Streamkeeper.Proofs.Json.Members
import Streamkeeper.Proofs.Options.Values
import Streamkeeper.Proofs.Text.Valid

/-!
# Options — loading a file

A file either holds an object or gives nothing (`members_eq_ok_iff`).  What counts of an object is
the last member of every name, and its effect is its own: it sets the option of that name, or leaves
a reason (`applyMember_applied`), so whatever depends on one name alone is changed by one member
(`observe_applyMembers`).  The options, the names read and the reasons are three such things.

`load_loading` says what loading a file does: a file without an object changes nothing, and in any
other every name is taken on its own, whatever the order of the members.
-/

namespace Streamkeeper.Options

/-! ### Names -/

theorem Key.ofName?_name (key : Key) : Key.ofName? key.name = some key := by
  cases key <;> decide

theorem Key.ofName?_eq_some_iff {name : String} {key : Key} :
    Key.ofName? name = some key ↔ key.name = name := by
  refine ⟨fun h => ?_, fun h => h ▸ key.ofName?_name⟩
  simpa using List.find?_some h

theorem Key.name_inj {key key' : Key} : key.name = key'.name ↔ key = key' := by
  rw [← Key.ofName?_eq_some_iff, Key.ofName?_name, Option.some.injEq, eq_comm]

/-- Reads a value of the option with a name. -/
def readNamed (name : String) (v : Json) : Except ValueError Value :=
  match Key.ofName? name with
  | some key => key.kind.read v
  | none => .error .unknown

theorem readNamed_name (key : Key) (v : Json) : readNamed key.name v = key.kind.read v := by
  rw [readNamed, key.ofName?_name]

/-- A name and a value that set an option. -/
def Readable (name : String) (v : Json) : Prop :=
  ∃ key a, key.name = name ∧ Kind.Denotes (Key.kind key) v a

theorem readable_iff {name : String} {v : Json} :
    Readable name v ↔ ∃ a, readNamed name v = .ok a := by
  constructor
  · rintro ⟨key, a, rfl, h⟩
    exact ⟨a, (readNamed_name key v).trans (Kind.read_eq_ok_iff.mpr h)⟩
  · rintro ⟨a, h⟩
    rw [readNamed] at h
    split at h
    · next key hk => exact ⟨key, a, Key.ofName?_eq_some_iff.mp hk, Kind.read_eq_ok_iff.mp h⟩
    · cases h

/-! ### The names read and the reasons -/

theorem insertName_perm {name : String} {names : List String} (h : name ∉ names) :
    (insertName name names).Perm (name :: names) := by
  induction names with
  | nil => exact .refl _
  | cons n rest ih =>
      have hn : name ≠ n := List.ne_of_not_mem_cons h
      have hrest : name ∉ rest := List.not_mem_of_not_mem_cons h
      rw [insertName]
      by_cases hlt : name < n
      · rw [if_pos hlt]
      · rw [if_neg hlt, if_neg hn]
        exact ((ih hrest).cons n).trans (.swap name n rest)

theorem mem_insertName {name n : String} {names : List String} :
    n ∈ insertName name names ↔ n = name ∨ n ∈ names := by
  induction names with
  | nil => simp [insertName]
  | cons n₀ rest ih =>
      rw [insertName]
      by_cases hlt : name < n₀
      · rw [if_pos hlt, List.mem_cons]
      rw [if_neg hlt]
      by_cases heq : name = n₀
      · subst heq
        simp
      · rw [if_neg heq, List.mem_cons, ih, List.mem_cons]
        exact or_left_comm

theorem get?_insertReason (name reason : String) (t : Table String String) (n : String) :
    Table.get? (insertReason name reason t) n =
      if name = n then some reason else Table.get? t n := by
  induction t with
  | nil => rfl
  | cons e rest ih =>
      obtain ⟨n₀, r₀⟩ := e
      rw [insertReason]
      by_cases hlt : name < n₀
      · rw [if_pos hlt, Table.get?_cons]
      rw [if_neg hlt]
      by_cases heq : name = n₀
      · subst heq
        rw [if_pos rfl, Table.get?_cons, Table.get?_cons]
        split <;> rfl
      · rw [if_neg heq, Table.get?_cons, Table.get?_cons, ih]
        by_cases hn : n₀ = n
        · rw [if_pos hn, if_neg (hn ▸ heq), if_pos hn]
        · rw [if_neg hn, if_neg hn]

/-- The names of the reasons are added to as names are. -/
theorem keys_insertReason (name reason : String) (t : Table String String) :
    Table.keys (insertReason name reason t) = insertName name (Table.keys t) := by
  induction t with
  | nil => rfl
  | cons e rest ih =>
      obtain ⟨n, r⟩ := e
      have hk : Table.keys ((n, r) :: rest) = n :: Table.keys rest := rfl
      rw [insertReason, hk, insertName, ← ih]
      by_cases hlt : name < n
      · rw [if_pos hlt, if_pos hlt]
        rfl
      rw [if_neg hlt, if_neg hlt]
      by_cases heq : name = n
      · rw [if_pos heq, if_pos heq, heq]
        rfl
      · rw [if_neg heq, if_neg heq]
        rfl

/-! ### One member -/

/-- What a member with a name makes of options, by what its value is read as. -/
inductive Applied (name : String) (o : Options) : Except ValueError Value → Options → Prop
  | read {a : Value} {o' : Options}
      (get : ∀ key, o'.get key = if key.name = name then a else o.get key)
      (readFlags : o'.readFlags = insertName name o.readFlags)
      (readErrors : o'.readErrors = o.readErrors) : Applied name o (.ok a) o'
  | refused {e : ValueError} {o' : Options} (get : ∀ key, o'.get key = o.get key)
      (readFlags : o'.readFlags = o.readFlags)
      (readErrors : o'.readErrors = insertReason name e.message o.readErrors) :
      Applied name o (.error e) o'

/-- A member sets the option of its name, or leaves a reason. -/
theorem applyMember_applied (o : Options) (name : String) (v : Json) :
    Applied name o (readNamed name v) (o.applyMember (name, v)) := by
  have refused (e : ValueError) (h : o.setNamed name v = .error e) :
      Applied name o (.error e) (o.applyMember (name, v)) := by
    have happly : o.applyMember (name, v) =
        { o with readErrors := insertReason name e.message o.readErrors } := by
      simp only [applyMember, h]
    rw [happly]
    exact .refused (fun _ => rfl) rfl rfl
  rcases hk : Key.ofName? name with _ | key
  · have hread : readNamed name v = .error .unknown := by rw [readNamed, hk]
    rw [hread]
    exact refused .unknown (by rw [setNamed, hk])
  · obtain rfl : key.name = name := Key.ofName?_eq_some_iff.mp hk
    have hset : o.setNamed key.name v = o.set key v := by rw [setNamed, hk]
    have hr := o.set_reads key v
    rw [readNamed_name]
    generalize hs : o.set key v = s at hr
    generalize key.kind.read v = r at hr
    cases hr with
    | error e => exact refused e (hset.trans hs)
    | @ok a o' h =>
        have happly : o.applyMember (key.name, v) =
            { o' with readFlags := insertName key.name o'.readFlags } := by
          simp only [applyMember, hset, hs]
        rw [happly]
        refine .read (fun k => ?_) (congrArg (insertName key.name) h.readFlags) h.readErrors
        simp only [Key.name_inj]
        exact h.get k

section Member

variable (o : Options) (n : String) (v : Json)

theorem get_applyMember (key : Key) :
    (o.applyMember (n, v)).get key =
      if key.name = n then (readNamed n v).toOption.getD (o.get key) else o.get key := by
  have h := applyMember_applied o n v
  generalize readNamed n v = r at h ⊢
  cases h with
  | read get => exact get key
  | refused get => exact (get key).trans (ite_self _).symm

theorem mem_readFlags_applyMember (name : String) :
    name ∈ (o.applyMember (n, v)).readFlags ↔ name ∈ o.readFlags ∨ name = n ∧ Readable n v := by
  rw [readable_iff]
  have h := applyMember_applied o n v
  generalize readNamed n v = r at h ⊢
  cases h with
  | read get readFlags => simp [readFlags, mem_insertName, or_comm]
  | refused get readFlags => simp [readFlags]

theorem get?_readErrors_applyMember (name : String) :
    Table.get? (o.applyMember (n, v)).readErrors name =
      if n = name then
        match readNamed n v with
        | .ok _ => Table.get? o.readErrors name
        | .error e => some e.message
      else Table.get? o.readErrors name := by
  have h := applyMember_applied o n v
  generalize readNamed n v = r at h ⊢
  cases h with
  | read get readFlags readErrors => simp [readErrors]
  | refused get readFlags readErrors => rw [readErrors, get?_insertReason]

end Member

/-! ### Members with distinct names -/

section Members

variable {t : Table String Json}

theorem applyMembers_cons (o : Options) (m : String × Json) (ms : List (String × Json)) :
    o.applyMembers (m :: ms) = (o.applyMember m).applyMembers ms :=
  rfl

/-- Whatever only the members of one name change is changed by the one member that has it. -/
theorem observe_applyMembers {β : Type} {f : Options → β} {name : String} {g : Json → β → β}
    (same : ∀ o v, f (o.applyMember (name, v)) = g v (f o))
    (other : ∀ o n v, n ≠ name → f (o.applyMember (n, v)) = f o)
    (h : (Table.keys t).Nodup) (o : Options) :
    f (o.applyMembers t) = ((Table.get? t name).map fun v => g v (f o)).getD (f o) := by
  induction t generalizing o with
  | nil => rfl
  | cons m t ih =>
      obtain ⟨n, v⟩ := m
      obtain ⟨hn, ht⟩ := List.nodup_cons.mp h
      rw [applyMembers_cons, ih ht, Table.get?_cons]
      by_cases heq : n = name
      · subst heq
        rw [if_pos rfl, Table.get?_eq_none hn, same]
        rfl
      · rw [if_neg heq, other o n v heq]

theorem get_applyMembers (h : (Table.keys t).Nodup) (o : Options) (key : Key) :
    (o.applyMembers t).get key =
      ((Table.get? t key.name).map fun v => (readNamed key.name v).toOption.getD (o.get key)).getD
        (o.get key) := by
  refine observe_applyMembers (f := (get · key))
    (g := fun v a => (readNamed key.name v).toOption.getD a) (fun o v => ?_) (fun o n v hn => ?_) h o
  · rw [get_applyMember, if_pos rfl]
  · rw [get_applyMember, if_neg (Ne.symm hn)]

theorem mem_readFlags_applyMembers (h : (Table.keys t).Nodup) (o : Options) (name : String) :
    name ∈ (o.applyMembers t).readFlags ↔
      ((Table.get? t name).map fun v => name ∈ o.readFlags ∨ Readable name v).getD
        (name ∈ o.readFlags) := by
  refine iff_of_eq (observe_applyMembers (f := (name ∈ readFlags ·))
    (g := fun v p => p ∨ Readable name v) (fun o v => propext ?_) (fun o n v hn => propext ?_) h o)
  · rw [mem_readFlags_applyMember, and_iff_right rfl]
  · rw [mem_readFlags_applyMember]
    exact or_iff_left fun hm => hn hm.1.symm

theorem get?_readErrors_applyMembers (h : (Table.keys t).Nodup) (o : Options) (name : String) :
    Table.get? (o.applyMembers t).readErrors name =
      ((Table.get? t name).map fun v => match readNamed name v with
        | .ok _ => Table.get? o.readErrors name
        | .error e => some e.message).getD (Table.get? o.readErrors name) := by
  refine observe_applyMembers (f := fun o => Table.get? o.readErrors name)
    (g := fun v reason => match readNamed name v with
      | .ok _ => reason
      | .error e => some e.message) (fun o v => ?_) (fun o n v hn => ?_) h o
  · rw [get?_readErrors_applyMember, if_pos rfl]
  · rw [get?_readErrors_applyMember, if_neg hn]

/-- The names that were read, and those that could not be. -/
def names (o : Options) : List String :=
  o.readFlags ++ Table.keys o.readErrors

/-- A new name is either read or gets a reason. -/
theorem names_applyMember {o : Options} {n : String} (hn : n ∉ o.names) (v : Json) :
    (o.applyMember (n, v)).names.Perm (n :: o.names) := by
  have hflags : n ∉ o.readFlags := fun hm => hn (List.mem_append_left _ hm)
  have hreasons : n ∉ Table.keys o.readErrors := fun hm => hn (List.mem_append_right _ hm)
  rw [names]
  have h := applyMember_applied o n v
  generalize readNamed n v = r at h
  cases h with
  | read get readFlags readErrors =>
      rw [readFlags, readErrors]
      exact (insertName_perm hflags).append_right _
  | refused get readFlags readErrors =>
      rw [readFlags, readErrors, keys_insertReason]
      exact ((insertName_perm hreasons).append_left _).trans List.perm_middle

theorem names_applyMembers (h : (Table.keys t).Nodup) {o : Options}
    (hd : ∀ n ∈ Table.keys t, n ∉ o.names) :
    (o.applyMembers t).names.Perm (Table.keys t ++ o.names) := by
  induction t generalizing o with
  | nil => exact .refl _
  | cons m t ih =>
      obtain ⟨n, v⟩ := m
      obtain ⟨hn, ht⟩ := List.nodup_cons.mp h
      have hp := names_applyMember (hd n List.mem_cons_self) v
      rw [applyMembers_cons]
      refine (ih ht fun n' hn' hm => ?_).trans ((hp.append_left _).trans List.perm_middle)
      rcases List.mem_cons.mp (hp.subset hm) with rfl | hm
      · exact hn hn'
      · exact hd n' (List.mem_cons_of_mem _ hn') hm

end Members

/-! ### Files -/

/-- The content of a file, as it was read, is the text of an object with the members `ms`. -/
def Holds (content : Except Host.IoError Octets) (ms : List (String × Json)) : Prop :=
  ∃ cs, content = .ok (Text.Utf8.encode cs) ∧ Json.read? (String.ofList cs) = .ok (.object ms)

/-- The members of an object that take effect: the last one of every name. -/
def effective (ms : List (String × Json)) : List (String × Json) :=
  Json.sortMembers (ms.map fun m => (m.1, m.2.canonical))

theorem fileText_eq_ok_iff {path text : String} {content : Except Host.IoError Octets} :
    fileText path content = .ok text ↔
      ∃ cs, content = .ok (Text.Utf8.encode cs) ∧ text = String.ofList cs := by
  rcases content with e | bytes
  · rw [fileText]
    split <;> simp
  · have hiff : fileText path (.ok bytes) = .ok text ↔
        ∃ cs, Text.Utf8.decode? bytes = .ok cs ∧ text = String.ofList cs := by
      rw [fileText]
      rcases Text.Utf8.decode? bytes with flaw | cs <;> simp [eq_comm]
    simp only [hiff, Text.Utf8.decode?_eq_ok_iff, Except.ok.injEq]

theorem fileMembers_eq_ok_iff {path text : String} {t : List (String × Json)} :
    fileMembers path text = .ok t ↔
      ∃ ms, Json.read? text = .ok (.object ms) ∧ t = effective ms := by
  rw [fileMembers]
  rcases Json.read? text with e | v
  · simp
  · cases v with
    | object ms => simp [Json.canonical_object, effective, eq_comm]
    | array items => simp [Json.canonical_array]
    | _ => simp [Json.canonical]

/-- A file gives members exactly if it holds an object. -/
theorem members_eq_ok_iff {path : String} {content : Except Host.IoError Octets}
    {t : List (String × Json)} :
    members path content = .ok t ↔ ∃ ms, Holds content ms ∧ t = effective ms := by
  constructor
  · intro h
    obtain ⟨text, ht, hm⟩ := Except.bind_eq_ok h
    obtain ⟨cs, rfl, rfl⟩ := fileText_eq_ok_iff.mp ht
    obtain ⟨ms, hr, rfl⟩ := fileMembers_eq_ok_iff.mp hm
    exact ⟨ms, ⟨cs, rfl, hr⟩, rfl⟩
  · rintro ⟨ms, ⟨cs, rfl, hr⟩, rfl⟩
    rw [members, fileText_eq_ok_iff.mpr ⟨cs, rfl, rfl⟩]
    exact fileMembers_eq_ok_iff.mpr ⟨ms, hr, rfl⟩

theorem load_of_holds {o : Options} {path : String} {content : Except Host.IoError Octets}
    {ms : List (String × Json)} (h : Holds content ms) :
    o.load path content = (.ok (), o.applyMembers (effective ms)) := by
  rw [load, members_eq_ok_iff.mpr ⟨ms, h, rfl⟩]

theorem nodup_keys_effective (ms : List (String × Json)) :
    (Table.keys (effective ms)).Nodup :=
  (Json.increasing_sortMembers _).nodup_keys

theorem get?_effective (ms : List (String × Json)) (name : String) :
    Table.get? (effective ms) name = (Json.last ms name).map Json.canonical := by
  rw [effective, Json.get?_sortMembers, Json.last_map]

/-- The names that are taken are the names of the members. -/
theorem keys_effective (ms : List (String × Json)) :
    (Table.keys (effective ms)).Perm (ms.map Prod.fst).dedup := by
  refine (List.perm_ext_iff_of_nodup (nodup_keys_effective ms) (List.nodup_dedup _)).mpr
    fun name => ?_
  rw [← Table.isSome_get?_iff, get?_effective, Option.isSome_map, Json.last,
    Table.isSome_get?_iff, List.mem_dedup, Table.keys, List.map_reverse, List.mem_reverse]

/-- What a file with the members `ms` makes of the options `o`.  Of every name only the last value
counts, and it counts for that name alone. -/
structure Taken (ms : List (String × Json)) (o o' : Options) : Prop where
  /-- An option is set to what its value denotes. -/
  set : ∀ key v a, Json.last ms (Key.name key) = some v → Kind.Denotes (Key.kind key) v a →
    o'.get key = a
  /-- An option without a value, or whose value denotes none, stays as it is. -/
  kept : ∀ key, (∀ v a, Json.last ms (Key.name key) = some v → ¬ Kind.Denotes (Key.kind key) v a) →
    o'.get key = o.get key
  /-- The names that set an option are noted as read. -/
  readFlags : ∀ name, name ∈ o'.readFlags ↔
    name ∈ o.readFlags ∨ ∃ v, Json.last ms name = some v ∧ Readable name v
  /-- Every other name of the file gets the reason why it cannot be read. -/
  noted : ∀ name v, Json.last ms name = some v → ¬ Readable name v →
    ∃ e, readNamed name v.canonical = .error e ∧ Table.get? o'.readErrors name = some e.message
  unnoted : ∀ name, (∀ v, Json.last ms name = some v → Readable name v) →
    Table.get? o'.readErrors name = Table.get? o.readErrors name

theorem readable_canonical {name : String} {v : Json} :
    Readable name v.canonical ↔ Readable name v := by
  simp only [Readable, Kind.denotes_canonical]

/-- A value that sets nothing is refused. -/
theorem refused_of_not_readable {name : String} {v : Json} (h : ¬ Readable name v) :
    ∃ e, readNamed name v.canonical = .error e := by
  rcases hr : readNamed name v.canonical with e | a
  · exact ⟨e, rfl⟩
  · exact absurd (readable_canonical.mp (readable_iff.mpr ⟨a, hr⟩)) h

theorem taken_applyMembers (ms : List (String × Json)) (o : Options) :
    Taken ms o (o.applyMembers (effective ms)) := by
  have hn := nodup_keys_effective ms
  constructor
  case set =>
    intro key v a hv hd
    have hr : readNamed key.name v.canonical = .ok a :=
      (readNamed_name key _).trans (Kind.read_eq_ok_iff.mpr (Kind.denotes_canonical.mpr hd))
    rw [get_applyMembers hn, get?_effective, hv, Option.map_some, Option.map_some, hr]
    rfl
  case kept =>
    intro key h
    rw [get_applyMembers hn, get?_effective]
    rcases hv : Json.last ms key.name with _ | v
    · rfl
    · have hnot : ¬ Readable key.name v := by
        rintro ⟨key', a, hk, hd⟩
        exact h v a hv (Key.name_inj.mp hk ▸ hd)
      obtain ⟨e, he⟩ := refused_of_not_readable hnot
      rw [Option.map_some, Option.map_some, he]
      rfl
  case readFlags =>
    intro name
    rw [mem_readFlags_applyMembers hn, get?_effective]
    rcases Json.last ms name with _ | v
    · simp
    · simp [readable_canonical]
  case noted =>
    intro name v hv hd
    obtain ⟨e, he⟩ := refused_of_not_readable hd
    refine ⟨e, he, ?_⟩
    rw [get?_readErrors_applyMembers hn, get?_effective, hv, Option.map_some,
      Option.map_some, he]
    rfl
  case unnoted =>
    intro name h
    rw [get?_readErrors_applyMembers hn, get?_effective]
    rcases hv : Json.last ms name with _ | v
    · rfl
    · obtain ⟨a, ha⟩ := readable_iff.mp (readable_canonical.mpr (h v hv))
      rw [Option.map_some, Option.map_some, ha]
      rfl

/-- What loading the file at `path` does to the options `o`. -/
structure Loading (o : Options) (path : String) (content : Except Host.IoError Octets) :
    Prop where
  /-- A file that holds no object is refused, and everything stays as it is. -/
  refused : (∀ ms, ¬ Holds content ms) → ∃ e, o.load path content = (.error e, o)
  /-- A file that holds an object is taken. -/
  taken : ∀ ms, Holds content ms →
    ∃ o', o.load path content = (.ok (), o') ∧ Taken ms o o'
  /-- Neither the order of the members nor a value that another one replaces makes a difference. -/
  order : ∀ ms ms' content', Holds content ms → Holds content' ms' →
    (∀ name, Json.last ms name = Json.last ms' name) →
      o.load path content = o.load path content'
  /-- If nothing was noted before, every name of the file is noted once: as read, or with a
  reason. -/
  partition : ∀ ms, Holds content ms → o.readFlags = [] → o.readErrors = [] →
    ((o.load path content).2.readFlags ++ Table.keys (o.load path content).2.readErrors).Perm
      (ms.map Prod.fst).dedup

/-- **Loading options from a file.**  A file that is not there, cannot be read, is no text, no JSON
or no object is refused and changes nothing.  Any other file is taken name by name, whatever the
order of its members: a value that its option can have sets that option and no other, and the name
is noted as read; any other value, and any other name, changes no option and is noted with a
reason. -/
theorem load_loading (o : Options) (path : String) (content : Except Host.IoError Octets) :
    Loading o path content where
  refused h := by
    rcases hm : members path content with e | t
    · exact ⟨e, by rw [load, hm]⟩
    · obtain ⟨ms, hms, -⟩ := members_eq_ok_iff.mp hm
      exact absurd hms (h ms)
  taken ms h := ⟨_, load_of_holds h, taken_applyMembers ms o⟩
  order ms ms' content' h h' hlast := by
    have hms : effective ms = effective ms' :=
      Json.sortMembers_congr fun name => by rw [Json.last_map, Json.last_map, hlast]
    rw [load_of_holds h, load_of_holds h', hms]
  partition ms h hflags hreasons := by
    have hnames : o.names = [] := by rw [names, hflags, hreasons]; rfl
    have hp := names_applyMembers (nodup_keys_effective ms) (o := o)
      fun n _ hn => by rw [hnames] at hn; cases hn
    rw [hnames, List.append_nil] at hp
    rw [load_of_holds h]
    exact hp.trans (keys_effective ms)

/-- The last of two values counts, and a count that is out of range sets nothing. -/
example :
    let text := "\x7b\"quiet\":0,\"instance_port\":70000,\"hue\":1,\"quiet\":true\x7d"
    let loaded := Options.default.load "f" (.ok (Text.Utf8.encode text.toList))
    loaded.2.session.quiet = true ∧ loaded.2.instancePort = 0 ∧ loaded.2.flagsText = "quiet" ∧
      Table.keys loaded.2.readErrors = ["hue", "instance_port"] := by
  decide +kernel

end Streamkeeper.Options
