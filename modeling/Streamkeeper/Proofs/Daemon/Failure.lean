import Streamkeeper.Daemon.Run
import Streamkeeper.Proofs.Host.Files
import Streamkeeper.Proofs.Session.Lookup

/-!
# The daemon — what a failed start leaves

A daemon frees the name of its socket before it listens and again at its end, also when it never
listened.  Whatever kept it from listening, the end is the same: the socket path is unlinked once,
after the directories above it were made as far as that went (`files_of_error`).  So of all that was
there before, a failed start takes away the one node that the socket path unlinks, if it unlinks one,
and keeps everything else (`run_failed`).  Every session is stopped.
-/

namespace Streamkeeper.Daemon

open Host (FileSystem IoError Node)

variable {fs fs' : FileSystem} {socket : String} {e : IoError}

/-- The files once the directories above the socket were made, as far as that goes. -/
def prepared (fs : FileSystem) (socket : String) : FileSystem :=
  match Host.Path.parent? socket with
  | some parent => (fs.makeDirectories parent).1
  | none => fs

theorem keeps_prepared (fs : FileSystem) (socket : String) : fs.Keeps (prepared fs socket) := by
  rw [prepared]
  split
  · exact FileSystem.keeps_makeDirectories _ _
  · exact .refl fs

/-! ### Listening -/

theorem prepared_eq {made : Except IoError Unit}
    (h : (match Host.Path.parent? socket with
      | some parent => fs.makeDirectories parent
      | none => (fs, .ok ())) = (fs', made)) : prepared fs socket = fs' := by
  rw [prepared]
  split <;> simp_all

/-- A daemon that cannot listen has freed the name of its socket, or has not come so far. -/
theorem listen_error (h : listen fs socket = (fs', .error e)) :
    fs' = prepared fs socket ∨ fs' = (prepared fs socket).unlinkAnyway socket := by
  unfold listen at h
  split at h
  split at h
  next hmade =>
    cases h
    exact .inl (prepared_eq hmade).symm
  next hmade =>
    -- the address is refused when the name is free already, if it was taken
    simp only at h
    split at h
    · cases h
    · obtain ⟨rfl, -⟩ := Prod.mk.inj h
      rw [prepared_eq hmade]
      split
      · exact .inr rfl
      · exact .inl rfl

/-! ### Runs that fail -/

variable {tool : Provisioning.Tool} {now : UInt64} {connections : List Octets} {registry : Registry}

/-- A run fails only if it does not listen, and then it comes to its end at once. -/
theorem run_error (h : (run tool now socket connections registry fs).result = .error e) :
    ∃ fs', listen fs socket = (fs', .error e) ∧
      run tool now socket connections registry fs =
        { result := .error e, replies := unanswered connections, journal := []
          ending := registry.shutdown.2 ++ Journal.note .info .daemon "daemon stopped"
          registry := registry.shutdown.1, files := fs'.unlinkAnyway socket } := by
  unfold run at h ⊢
  split at h
  next fs' e' hl =>
    cases h
    exact ⟨fs', hl, rfl⟩
  · cases h

/-- After a start that failed the socket path is unlinked, and that is all. -/
theorem files_of_error (h : (run tool now socket connections registry fs).result = .error e) :
    (run tool now socket connections registry fs).files =
      (prepared fs socket).unlinkAnyway socket := by
  obtain ⟨fs', hl, hrun⟩ := run_error h
  rw [hrun]
  rcases listen_error hl with rfl | rfl
  · rfl
  · exact FileSystem.unlinkAnyway_unlinkAnyway _ socket

/-- What a start that failed leaves behind. -/
structure Abandoned (registry : Registry) (fs : FileSystem) (socket : String)
    (connections : List Octets) (r : Run) : Prop where
  /-- Nobody listened. -/
  unheard : r.replies = unanswered connections ∧ r.journal = []
  /-- Every session is stopped, -/
  stopped : r.registry.sessions = []
  /-- and recorded as the sessions of a shutdown are. -/
  recorded : r.ending = registry.shutdown.2 ++ Journal.note .info .daemon "daemon stopped"
  /-- What was there is there, unless the socket path unlinks it. -/
  files : ∀ place node, fs.node? place = some node →
    (r.files.node? place = some node ↔ ¬(prepared fs socket).Unlinks socket place node)

/-- **A failed start stops every session and keeps every file but the one that the socket path
unlinks.** -/
theorem run_failed (tool : Provisioning.Tool) (now : UInt64) (socket : String)
    (connections : List Octets) (registry : Registry) (fs : FileSystem) {e : IoError}
    (h : (run tool now socket connections registry fs).result = .error e) :
    Abandoned registry fs socket connections (run tool now socket connections registry fs) := by
  have hfiles := files_of_error h
  obtain ⟨fs', -, hrun⟩ := run_error h
  refine ⟨?_, ?_, ?_, fun place node hn => ?_⟩
  · rw [hrun]
    exact ⟨rfl, rfl⟩
  · rw [hrun]
    rfl
  · rw [hrun]
  · rw [hfiles]
    exact FileSystem.node?_unlinkAnyway socket ((keeps_prepared fs socket).node place node hn)

/-- A tool that prints nothing. -/
def silentTool : Provisioning.Tool :=
  ⟨"ggp", fun _ => ⟨none, [], none, 0⟩⟩

/-- A daemon whose socket would lie under a file fails, and the file is kept. -/
theorem run_failed_under_file :
    let files : FileSystem := ⟨[(["f"], .file [120] false)], []⟩
    let r := run silentTool 0 "f/asm.sock" [] (.empty default) files
    r.result = .error (.os .fileExists) ∧ r.files.node? ["f"] = some (.file [120] false) := by
  intro files r
  have h : r.result = .error (.os .fileExists) := by decide +kernel
  refine ⟨h, ((run_failed silentTool 0 "f/asm.sock" [] _ files h).files ["f"] _ rfl).mpr ?_⟩
  rintro ⟨hl, -⟩
  exact absurd hl (by decide +kernel)

/-- A daemon whose socket path does not fit into an address fails, and the file at the path is
lost. -/
theorem run_long_path :
    let name := String.ofList (List.replicate 108 's')
    let files : FileSystem := ⟨[([name], .file [120] false)], []⟩
    let r := run silentTool 0 name [] (.empty default) files
    r.result = .error .addressTooLong ∧ files.node? [name] = some (.file [120] false) ∧
      r.files.node? [name] = none := by
  decide +kernel

/-- A link that leads nowhere is not freed before the daemon listens, and is lost at its end. -/
example :
    let files : FileSystem := ⟨[(["l"], .link "nowhere")], []⟩
    let r := run silentTool 0 "l" [] (.empty default) files
    r.result = .error (.os .addressInUse) ∧ r.files.node? ["l"] = none := by
  decide +kernel

end Streamkeeper.Daemon
