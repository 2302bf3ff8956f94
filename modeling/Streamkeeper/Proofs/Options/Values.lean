import Streamkeeper.Options.Options
import Streamkeeper.Proofs.Json.Value

/-!
# Options — what a value makes of an option

Options are read by name as `Value`s (`get`), and two that agree on every option, on the names read
and on the reasons are the same (`ext_get`).  What a JSON value says about an option depends on the
option's kind alone, and `Kind.Denotes` is the table of it; no other value can be read
(`Kind.read_eq_ok_iff`).  A text is a size exactly if its digits and unit denote one below 2^64
(`parseSize_eq_ok_iff`), so none is wrapped around.

Setting an option to a value that can be read gives that option the value and changes no other
(`set_reads`).
-/

namespace Streamkeeper.Options

/-- The value of an option. -/
inductive Value where
  | text (s : String)
  | path (p : Option String)
  | flag (b : Bool)
  | number (n : Nat)
deriving Repr, DecidableEq

/-- What kind of value an option has; a count has at most 64 bits. -/
inductive Kind where
  | text
  | path
  | flag
  | count (bits : Nat) (bounded : bits ≤ 64)
  | size

/-- The kind of an option. -/
def Key.kind : Key → Kind
  | .sourceDir | .instanceIp => .text
  | .sdkDir => .path
  | .logToStdout | .debug | .singlethreaded | .stats | .quiet | .check => .flag
  | .instancePort => .count 16 (by decide)
  | .verbosity | .manifestUpdaterThreads => .count 32 (by decide)
  | .cleanupTimeout | .accessIdleTimeout | .fileChangeWait => .count 64 (by decide)
  | .cacheCapacity => .size

/-- The value of an option by its key. -/
def get (o : Options) : Key → Value
  | .sourceDir => .text o.sourceDir
  | .instanceIp => .text o.instanceIp
  | .instancePort => .number o.instancePort.toNat
  | .sdkDir => .path o.sdkDir
  | .logToStdout => .flag o.logToStdout
  | .verbosity => .number o.session.verbosity
  | .debug => .flag o.session.debug
  | .singlethreaded => .flag o.session.singlethreaded
  | .stats => .flag o.session.stats
  | .quiet => .flag o.session.quiet
  | .check => .flag o.session.check
  | .cacheCapacity => .number o.session.cacheCapacity
  | .cleanupTimeout => .number o.session.cleanupTimeout
  | .accessIdleTimeout => .number o.session.accessIdleTimeout
  | .manifestUpdaterThreads => .number o.session.manifestUpdaterThreads
  | .fileChangeWait => .number o.session.fileChangeWait

/-- Options are their values, the names read, and the reasons. -/
theorem ext_get {o o' : Options} (h : ∀ key, o.get key = o'.get key)
    (hf : o.readFlags = o'.readFlags) (he : o.readErrors = o'.readErrors) : o = o' := by
  obtain ⟨_, _, _, ⟨⟩, _, _, _, _⟩ := o
  obtain ⟨_, _, _, ⟨⟩, _, _, _, _⟩ := o'
  have hall : ∀ key ∈ Key.all, get _ key = get _ key := fun key _ => h key
  simp only [Key.all, List.forall_mem_cons, get, Value.text.injEq, Value.number.injEq,
    Value.flag.injEq, Value.path.injEq, UInt16.toNat_inj] at hall
  simp_all

/-! ### Sizes -/

/-- A text that denotes a size: digits and a unit, with blanks around both. -/
def SizeText (s : String) (n : Nat) : Prop :=
  ∃ digits unit shift, Decimal.split (Text.trim Text.isBlank s.toList) = (digits, unit) ∧
    digits ≠ [] ∧ unitShift? unit = some shift ∧ n = Decimal.value digits * 2 ^ shift

/-- A text is read as the size that it denotes, and only if that is below the bound. -/
theorem parseSize_eq_ok_iff {s : String} {n : Nat} :
    parseSize s = .ok n ↔ SizeText s n ∧ n < 2 ^ 64 := by
  rcases hs : Decimal.split (Text.trim Text.isBlank s.toList) with ⟨digits, unit⟩
  have hb : sizeBound = 2 ^ 64 := rfl
  have hiff : SizeText s n ↔ digits ≠ [] ∧
      ∃ shift, unitShift? unit = some shift ∧ n = Decimal.value digits * 2 ^ shift := by
    simp only [SizeText, hs, Prod.mk.injEq]
    constructor
    · rintro ⟨_, _, shift, ⟨rfl, rfl⟩, hne, hu, hn⟩
      exact ⟨hne, shift, hu, hn⟩
    · rintro ⟨hne, shift, hu, hn⟩
      exact ⟨digits, unit, shift, ⟨rfl, rfl⟩, hne, hu, hn⟩
  simp only [parseSize, hs, hiff]
  by_cases hd : digits = []
  · simp [hd]
  rcases hu : unitShift? unit with _ | shift
  · by_cases hbig : digits = [] ∨ sizeBound ≤ Decimal.value digits <;> simp [hbig]
  -- digits that are out of range leave the size out of range, whatever the unit
  have hle : Decimal.value digits ≤ Decimal.value digits * 2 ^ shift :=
    Nat.le_mul_of_pos_right _ (Nat.two_pow_pos shift)
  simp only [hd, false_or, hb, Option.some.injEq, exists_eq_left', ne_eq, not_false_eq_true,
    true_and, Nat.pow_eq]
  split
  · simp only [reduceCtorEq, false_iff]
    omega
  · split
    · simp only [Except.ok.injEq]
      omega
    · simp only [reduceCtorEq, false_iff]
      omega

/-! ### Values that denote one of an option -/

/-- What a JSON value denotes as a value of an option of a kind. -/
inductive Kind.Denotes : Kind → Json → Value → Prop
  | text (s : String) : Denotes .text (.string s) (.text s)
  | path {s : String} (h : s ≠ "") : Denotes .path (.string s) (.path (some s))
  | noPath : Denotes .path (.string "") (.path none)
  | flag (b : Bool) : Denotes .flag (.bool b) (.flag b)
  | zero : Denotes .flag (.number (.int 0)) (.flag false)
  | one : Denotes .flag (.number (.int 1)) (.flag true)
  | count {bits : Nat} {bounded : bits ≤ 64} {n : Nat} (h : n < 2 ^ bits) :
      Denotes (.count bits bounded) (.nat n) (.number n)
  | size {n : Nat} (h : n < 2 ^ 64) : Denotes .size (.nat n) (.number n)
  | sizeText {s : String} {n : Nat} (h : SizeText s n) (bound : n < 2 ^ 64) :
      Denotes .size (.string s) (.number n)

/-- Reads a value of an option of a kind. -/
def Kind.read : Kind → Json → Except ValueError Value
  | .text, v => (readString v).map .text
  | .path, v => (readString v).map fun s => .path (if s = "" then none else some s)
  | .flag, v => (readBool v).map .flag
  | .count bits _, v => (readNat bits v).map .number
  | .size, v => (readSize v).map .number

theorem map_eq_ok {α β : Type} {r : Except ValueError α} {f : α → β} {b : β} :
    r.map f = .ok b ↔ ∃ a, r = .ok a ∧ f a = b := by
  cases r <;> simp [Except.map]

theorem readNat_eq_ok_iff {bits : Nat} (hb : bits ≤ 64) {v : Json} {n : Nat} :
    readNat bits v = .ok n ↔ v = .nat n ∧ n < 2 ^ bits := by
  have hle : 2 ^ bits ≤ 2 ^ 64 := Nat.pow_le_pow_right (by decide) hb
  have hv : v = .nat n ∧ n < 2 ^ bits ↔ v.asNat? = some n ∧ n < 2 ^ bits := by
    rw [Json.asNat?_eq_some_iff, and_assoc]
    exact and_congr_right fun _ => ⟨fun h => ⟨Nat.lt_of_lt_of_le h hle, h⟩, And.right⟩
  rw [hv, readNat]
  rcases v.asNat? with _ | m
  · simp
  · by_cases hm : m < 2 ^ bits
    · simp only [Nat.pow_eq, if_pos hm, Except.ok.injEq, Option.some.injEq]
      exact ⟨fun h => ⟨h, h ▸ hm⟩, And.left⟩
    · simp only [Nat.pow_eq, if_neg hm, reduceCtorEq, Option.some.injEq, false_iff]
      exact fun h => hm (h.1 ▸ h.2)

theorem readString_eq_ok_iff {v : Json} {s : String} : readString v = .ok s ↔ v = .string s := by
  cases v <;> simp [readString]

theorem readBool_eq_ok_iff {v : Json} {b : Bool} :
    readBool v = .ok b ↔ v = .bool b ∨ v = .number (.int b.toNat) := by
  unfold readBool
  split <;> cases b <;> simp_all

theorem readSize_eq_ok_iff {v : Json} {n : Nat} :
    readSize v = .ok n ↔
      (v = .nat n ∨ ∃ s, v = .string s ∧ SizeText s n) ∧ n < 2 ^ 64 := by
  rcases v with _ | _ | i | s | _ | _
  case number =>
    rw [readSize, readNat_eq_ok_iff (by decide)]
    simp
  case string =>
    have hm : (parseSize s).mapError ValueError.size = .ok n ↔ parseSize s = .ok n := by
      cases parseSize s <;> simp [Except.mapError]
    rw [readSize, hm, parseSize_eq_ok_iff]
    simp [Json.nat]
  all_goals simp [readSize, Json.nat]

/-- A value is read as what it denotes, and a value that denotes nothing is not read. -/
theorem Kind.read_eq_ok_iff {kind : Kind} {v : Json} {a : Value} :
    kind.read v = .ok a ↔ kind.Denotes v a := by
  cases kind with
  | text =>
      rw [read, map_eq_ok]
      constructor
      · rintro ⟨s, h, rfl⟩
        obtain rfl := readString_eq_ok_iff.mp h
        exact .text s
      · rintro ⟨s⟩
        exact ⟨s, rfl, rfl⟩
  | path =>
      rw [read, map_eq_ok]
      constructor
      · rintro ⟨s, h, rfl⟩
        obtain rfl := readString_eq_ok_iff.mp h
        by_cases hs : s = ""
        · rw [if_pos hs, hs]
          exact .noPath
        · rw [if_neg hs]
          exact .path hs
      · intro h
        cases h with
        | path hs => exact ⟨_, rfl, by rw [if_neg hs]⟩
        | noPath => exact ⟨"", rfl, rfl⟩
  | flag =>
      rw [read, map_eq_ok]
      constructor
      · rintro ⟨b, h, rfl⟩
        rcases readBool_eq_ok_iff.mp h with rfl | rfl
        · exact .flag b
        · cases b
          · exact .zero
          · exact .one
      · intro h
        cases h with
        | flag b => exact ⟨b, rfl, rfl⟩
        | zero => exact ⟨false, rfl, rfl⟩
        | one => exact ⟨true, rfl, rfl⟩
  | count bits bounded =>
      rw [read, map_eq_ok]
      constructor
      · rintro ⟨n, h, rfl⟩
        obtain ⟨rfl, hn⟩ := (readNat_eq_ok_iff bounded).mp h
        exact .count hn
      · rintro ⟨⟩
        exact ⟨_, (readNat_eq_ok_iff bounded).mpr ⟨rfl, ‹_›⟩, rfl⟩
  | size =>
      rw [read, map_eq_ok]
      constructor
      · rintro ⟨n, h, rfl⟩
        obtain ⟨rfl | ⟨s, rfl, hs⟩, hn⟩ := readSize_eq_ok_iff.mp h
        · exact .size hn
        · exact .sizeText hs hn
      · intro h
        cases h with
        | size hn => exact ⟨_, readSize_eq_ok_iff.mpr ⟨.inl rfl, hn⟩, rfl⟩
        | sizeText hs hn => exact ⟨_, readSize_eq_ok_iff.mpr ⟨.inr ⟨_, rfl, hs⟩, hn⟩, rfl⟩

/-- The members of a container denote nothing, so their order does not matter. -/
theorem Kind.denotes_canonical {kind : Kind} {v : Json} {a : Value} :
    kind.Denotes v.canonical a ↔ kind.Denotes v a := by
  cases v with
  | array items =>
      rw [Json.canonical]
      exact iff_of_false (fun h => by cases h) fun h => by cases h
  | object members =>
      rw [Json.canonical]
      exact iff_of_false (fun h => by cases h) fun h => by cases h
  | _ => exact Iff.rfl

/-! ### Setting an option -/

/-- `o'` is `o` with the option `key` set to `a`. -/
structure Sets (o : Options) (key : Key) (a : Value) (o' : Options) : Prop where
  get : ∀ k, o'.get k = if k = key then a else o.get k
  readFlags : o'.readFlags = o.readFlags
  readErrors : o'.readErrors = o.readErrors

/-- A value as it is read, and what setting an option to it gives. -/
inductive Reads (o : Options) (key : Key) :
    Except ValueError Value → Except ValueError Options → Prop
  | ok {a : Value} {o' : Options} (h : Sets o key a o') : Reads o key (.ok a) (.ok o')
  | error (e : ValueError) : Reads o key (.error e) (.error e)

theorem reads_map {α : Type} {o : Options} {key : Key} {f : α → Value} {put : α → Options}
    {r : Except ValueError α} (h : ∀ x, r = .ok x → Sets o key (f x) (put x)) :
    Reads o key (r.map f) (r.map put) := by
  cases r with
  | error e => exact .error e
  | ok x => exact .ok (h x rfl)

/-- Every option is set to the value that is read, and no other option changes. -/
theorem set_reads (o : Options) (key : Key) (v : Json) :
    Reads o key (key.kind.read v) (o.set key v) := by
  cases key with
  | instancePort =>
      refine reads_map fun n hn => ⟨fun k => ?_, rfl, rfl⟩
      have hlt : n < UInt16.size := ((readNat_eq_ok_iff (by decide)).mp hn).2
      cases k with
      | instancePort => exact congrArg Value.number (UInt16.toNat_ofNat_of_lt hlt)
      | _ => rfl
  | _ => exact reads_map fun _ _ => ⟨fun k => by cases k <;> rfl, rfl, rfl⟩

end Streamkeeper.Options
