import Streamkeeper.Daemon.Startup
import Streamkeeper.Proofs.Options.Loading

/-!
# Startup — the layers of the options

The options in effect come from three places: the file of options, the flags of the command line,
and the defaults.  The file is the one that is named, or the usual one, if the host has a place for
it and it is there (`Chosen`).  It says something about an option if the last member with its name
has a value that the option can take (`InFile`).

`options_layered` says that starting fails exactly if the chosen file holds no object, and that
every option has the value of the first place that says something about it.
-/

namespace Streamkeeper.Daemon.Startup

open CommandLine (ServeArgs)
open Host (Directories FileSystem)
open Options (Key Value Kind Holds)

variable {dirs : Directories} {fs : FileSystem} {args : ServeArgs}

/-! ### The flags -/

/-- The value that a flag gives to an option.  A switch gives one only if it is there. -/
def flag? (args : ServeArgs) : Key → Option Value
  | .sourceDir => args.srcDir.map .text
  | .instanceIp => args.instanceIp.map .text
  | .instancePort => args.instancePort.map fun port => .number port.toNat
  | .sdkDir => args.sdkDir.map fun dir => .path (some dir)
  | .logToStdout => if args.logToStdout = true then some (.flag true) else none
  | _ => none

/-- After the flags, an option has the value of its flag, or its default. -/
theorem get_afterFlags (args : ServeArgs) (key : Key) :
    (afterFlags args).get key = (flag? args key).getD (Options.default.get key) := by
  obtain ⟨config, srcDir, instanceIp, instancePort, sdkDir, logToStdout⟩ := args
  cases key with
  | sourceDir => cases srcDir <;> rfl
  | instanceIp => cases instanceIp <;> rfl
  | instancePort => cases instancePort <;> rfl
  | sdkDir => cases sdkDir <;> rfl
  | logToStdout => cases logToStdout <;> rfl
  | _ => rfl

/-! ### The file -/

/-- The file of options that is read: the one that is named, or else the usual one, if it is
there. -/
inductive Chosen (dirs : Directories) (fs : FileSystem) (args : ServeArgs) : String → Prop
  | named {path : String} (h : args.config = some path) : Chosen dirs fs args path
  | usual {path : String} (unnamed : args.config = none) (place : defaultOptions? dirs = some path)
      (there : fs.isThere path = true) : Chosen dirs fs args path

theorem optionsFile?_eq_some_iff {path : String} :
    optionsFile? dirs fs args = some path ↔ Chosen dirs fs args path := by
  rw [optionsFile?]
  constructor
  · intro h
    cases hconfig : args.config with
    | some named =>
        rw [hconfig, Option.some_or] at h
        exact .named (hconfig.trans h)
    | none =>
        rw [hconfig, Option.none_or, Option.filter_eq_some_iff] at h
        exact .usual hconfig h.1 h.2
  · rintro (hconfig | ⟨hconfig, hplace, hthere⟩)
    · rw [hconfig, Option.some_or]
    · rw [hconfig, Option.none_or, Option.filter_eq_some_iff]
      exact ⟨hplace, hthere⟩

/-- The chosen file gives an option the value `a`: of the object that it holds, the last member with
the option's name denotes it. -/
def InFile (dirs : Directories) (fs : FileSystem) (args : ServeArgs) (key : Key) (a : Value) :
    Prop :=
  ∃ path ms v, Chosen dirs fs args path ∧ Holds (fs.read path) ms ∧
    Json.last ms key.name = some v ∧ Kind.Denotes key.kind v a

/-! ### The options in effect -/

/-- A file without an object is refused. -/
theorem load_of_not_holds {o : Options} {path : String} {content : Except Host.IoError Octets}
    (h : ∀ ms, ¬ Holds content ms) : ∃ e, (o.load path content).1 = .error e := by
  rcases hm : Options.members path content with e | t
  · exact ⟨e, by rw [Options.load, hm]⟩
  · obtain ⟨ms, hms, -⟩ := Options.members_eq_ok_iff.mp hm
    exact absurd hms (h ms)

theorem options_of_chosen {path : String} (h : Chosen dirs fs args path) :
    options dirs fs args =
      ((afterFlags args).load path (fs.read path)).1.map
        fun _ => ((afterFlags args).load path (fs.read path)).2 := by
  rw [options, optionsFile?_eq_some_iff.mpr h]

theorem options_of_not_chosen (h : ∀ path, ¬ Chosen dirs fs args path) :
    options dirs fs args = .ok (afterFlags args) := by
  have hnone : optionsFile? dirs fs args = none :=
    Option.eq_none_iff_forall_ne_some.mpr fun path hp => h path (optionsFile?_eq_some_iff.mp hp)
  rw [options, hnone]

theorem options_of_holds {path : String} {ms : List (String × Json)}
    (h : Chosen dirs fs args path) (hms : Holds (fs.read path) ms) :
    options dirs fs args = .ok ((afterFlags args).applyMembers (Options.effective ms)) := by
  rw [options_of_chosen h, Options.load_of_holds hms]
  rfl

/-- Starting fails exactly if the chosen file holds no object. -/
theorem options_error_iff :
    (∃ e, options dirs fs args = .error e) ↔
      ∃ path, Chosen dirs fs args path ∧ ∀ ms, ¬ Holds (fs.read path) ms := by
  constructor
  · rintro ⟨e, he⟩
    by_contra hnone
    by_cases hchosen : ∃ path, Chosen dirs fs args path
    · obtain ⟨path, hpath⟩ := hchosen
      obtain ⟨ms, hms⟩ : ∃ ms, Holds (fs.read path) ms := by
        by_contra hno
        exact hnone ⟨path, hpath, not_exists.mp hno⟩
      rw [options_of_holds hpath hms] at he
      cases he
    · rw [options_of_not_chosen (not_exists.mp hchosen)] at he
      cases he
  · rintro ⟨path, hpath, hno⟩
    obtain ⟨e, he⟩ : ∃ e, ((afterFlags args).load path (fs.read path)).1 = .error e :=
      load_of_not_holds hno
    refine ⟨e, ?_⟩
    rw [options_of_chosen hpath, he]
    rfl

/-- Where the file says nothing, the flags and the defaults stand. -/
theorem get_of_not_inFile {o : Options} (ho : options dirs fs args = .ok o) {key : Key}
    (h : ∀ b, ¬ InFile dirs fs args key b) : o.get key = (afterFlags args).get key := by
  by_cases hchosen : ∃ path, Chosen dirs fs args path
  · obtain ⟨path, hpath⟩ := hchosen
    obtain ⟨ms, hms⟩ : ∃ ms, Holds (fs.read path) ms := by
      by_contra hno
      obtain ⟨e, he⟩ := options_error_iff.mpr ⟨path, hpath, not_exists.mp hno⟩
      rw [he] at ho
      cases ho
    rw [options_of_holds hpath hms] at ho
    cases ho
    -- A member that denotes no value leaves what was there before it.
    refine (Options.taken_applyMembers ms (afterFlags args)).kept key fun v a hv hd => ?_
    exact h a ⟨path, ms, v, hpath, hms, hv, hd⟩
  · rw [options_of_not_chosen (not_exists.mp hchosen)] at ho
    cases ho
    rfl

theorem get_of_inFile {o : Options} (ho : options dirs fs args = .ok o) {key : Key} {a : Value}
    (h : InFile dirs fs args key a) : o.get key = a := by
  obtain ⟨path, ms, v, hpath, hms, hv, hd⟩ := h
  rw [options_of_holds hpath hms] at ho
  cases ho
  exact (Options.taken_applyMembers ms (afterFlags args)).set key v a hv hd

/-- A path that leads nowhere leads to no object. -/
theorem not_holds_of_isThere_eq_false {path : String} (h : fs.isThere path = false) :
    ∀ ms, ¬ Holds (fs.read path) ms := by
  rintro ms ⟨cs, hread, -⟩
  rw [FileSystem.isThere] at h
  rw [FileSystem.read] at hread
  cases hstat : fs.stat path with
  | error e =>
      rw [hstat] at hread
      cases hread
  | ok node =>
      rw [hstat] at h
      cases h

/-- Every option has the value of the first place that says something about it. -/
structure Layered (dirs : Directories) (fs : FileSystem) (args : ServeArgs) (o : Options) :
    Prop where
  /-- The file comes first. -/
  file : ∀ key a, InFile dirs fs args key a → o.get key = a
  /-- A flag counts where the file has no value that can be read. -/
  flag : ∀ key a, (∀ b, ¬ InFile dirs fs args key b) → flag? args key = some a → o.get key = a
  /-- The default counts where neither the file nor a flag gives a value. -/
  fallback : ∀ key, (∀ b, ¬ InFile dirs fs args key b) → flag? args key = none →
    o.get key = Options.default.get key
  /-- A switch in the file is turned both ways, whatever the flag says. -/
  logToStdout : ∀ b, InFile dirs fs args .logToStdout (.flag b) → o.logToStdout = b
  /-- An empty directory in the file takes that of the flag away. -/
  sdkDir : ∀ path ms, Chosen dirs fs args path → Holds (fs.read path) ms →
    Json.last ms "sdk_dir" = some (.string "") → o.sdkDir = none

/-- **The layers of the options.**  The options come about unless the file that is chosen holds no
object; a file that is not there is an error if it was named, and is passed over if it is the usual
one, for which there may also be no place.  Every option then has the value that the file has for
it, if that can be read, or else that of its flag, if it is given, or else its default. -/
theorem options_layered (dirs : Directories) (fs : FileSystem) (args : ServeArgs) :
    ((∃ e, options dirs fs args = .error e) ↔
      ∃ path, Chosen dirs fs args path ∧ ∀ ms, ¬ Holds (fs.read path) ms) ∧
      (∀ path, args.config = some path → fs.isThere path = false →
        ∃ e, options dirs fs args = .error e) ∧
      (args.config = none → (∀ path, defaultOptions? dirs = some path → fs.isThere path = false) →
        options dirs fs args = .ok (afterFlags args)) ∧
      ∀ o, options dirs fs args = .ok o → Layered dirs fs args o := by
  refine ⟨options_error_iff, ?_, ?_, fun o ho => ⟨?_, ?_, ?_, ?_, ?_⟩⟩
  · intro path hconfig hgone
    exact options_error_iff.mpr ⟨path, .named hconfig, not_holds_of_isThere_eq_false hgone⟩
  · intro hconfig hgone
    refine options_of_not_chosen ?_
    rintro path (hnamed | ⟨-, hplace, hthere⟩)
    · cases hconfig.symm.trans hnamed
    · cases (hgone path hplace).symm.trans hthere
  · exact fun key a h => get_of_inFile ho h
  · intro key a hfile hflag
    rw [get_of_not_inFile ho hfile, get_afterFlags, hflag, Option.getD_some]
  · intro key hfile hflag
    rw [get_of_not_inFile ho hfile, get_afterFlags, hflag, Option.getD_none]
  · intro b h
    exact Value.flag.inj (get_of_inFile ho h)
  · intro path ms hpath hms hv
    have hfile : InFile dirs fs args .sdkDir (.path none) :=
      ⟨path, ms, _, hpath, hms, hv, .noPath⟩
    exact Value.path.inj (get_of_inFile ho hfile)

end Streamkeeper.Daemon.Startup
