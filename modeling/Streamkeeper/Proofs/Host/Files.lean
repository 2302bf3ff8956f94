import Streamkeeper.Host.Files
import Streamkeeper.Proofs.Table

/-!
# File systems — what a change keeps

A file system keeps another one if every node of the other lies where it lay (`Keeps`).  A path that
leads to a node leads to it in every file system that keeps the one it was followed in
(`Keeps.locate`).

Making directories puts them at free names only, so everything is kept (`keeps_makeDirectories`).
Unlinking a path takes away the node that the path leads to and keeps the rest
(`node?_unlinkAnyway`).  As what is left leads nowhere else, unlinking the path again changes nothing
(`unlinkAnyway_unlinkAnyway`).
-/

namespace Streamkeeper.Host.FileSystem

variable {fs fs' fs'' : FileSystem} {place place' : Place} {node : Node} {path : String}

/-- Every node lies where it lay, and relative paths start where they started. -/
structure Keeps (fs fs' : FileSystem) : Prop where
  node : ∀ place node, fs.node? place = some node → fs'.node? place = some node
  workingDirectory : fs'.workingDirectory = fs.workingDirectory

theorem Keeps.refl (fs : FileSystem) : Keeps fs fs :=
  ⟨fun _ _ h => h, rfl⟩

theorem Keeps.trans (h : Keeps fs fs') (h' : Keeps fs' fs'') : Keeps fs fs'' :=
  ⟨fun place node hn => h'.node place node (h.node place node hn),
    h'.workingDirectory.trans h.workingDirectory⟩

/-! ### Nodes -/

theorem node?_nil (fs : FileSystem) : fs.node? [] = some .directory := rfl

theorem node?_of_ne_nil (h : place ≠ []) (fs : FileSystem) :
    fs.node? place = fs.nodes.get? place := by
  cases place with
  | nil => exact absurd rfl h
  | cons => rfl

theorem ne_nil_of_node?_eq_none (h : fs.node? place = none) : place ≠ [] := by
  rintro rfl
  cases h

/-- What lies at a place once a node was put at another. -/
theorem node?_put (h : place ≠ []) (node : Node) (q : Place) :
    (fs.put place node).node? q = if q = place then some node else fs.node? q := by
  by_cases hq : q = []
  · subst hq
    rw [if_neg h.symm, node?_nil, node?_nil]
  · rw [node?_of_ne_nil hq, node?_of_ne_nil hq, put, Table.get?_set]

/-- What lies at a place once another was cleared. -/
theorem node?_clear (h : place ≠ []) (q : Place) :
    (fs.clear place).node? q = if q = place then none else fs.node? q := by
  by_cases hq : q = []
  · subst hq
    rw [if_neg h.symm, node?_nil, node?_nil]
  · rw [node?_of_ne_nil hq, node?_of_ne_nil hq, clear, Table.get?_remove]

/-- A node at a free place takes nothing away. -/
theorem keeps_put (h : fs.node? place = none) (node : Node) : Keeps fs (fs.put place node) := by
  refine ⟨fun q m hq => ?_, rfl⟩
  rw [node?_put (ne_nil_of_node?_eq_none h), if_neg, hq]
  rintro rfl
  rw [h] at hq
  cases hq

theorem clear_keeps (h : place ≠ []) (fs : FileSystem) : Keeps (fs.clear place) fs := by
  refine ⟨fun q m hq => ?_, rfl⟩
  rw [node?_clear h] at hq
  split at hq
  · cases hq
  · exact hq

/-! ### Following paths -/

/-- A walk over names that ends at a spot or at a link; every directory that it goes through lies
where it is looked for. -/
inductive Walks (fs : FileSystem) (last : Bool) : Place → List String → Walk → Prop where
  | here {here : Place} {node : Node} (hn : fs.node? here = some node) :
      Walks fs last here [] (.done (.taken here node))
  | up {here : Place} {rest : List String} {w : Walk} (hdir : fs.node? here = some .directory)
      (hw : Walks fs last here.dropLast rest w) : Walks fs last here (".." :: rest) w
  | down {here : Place} {name : String} {rest : List String} {node : Node} {w : Walk}
      (hdir : fs.node? here = some .directory) (hup : name ≠ "..")
      (hlong : ¬nameLimit < octetCount name) (hn : fs.node? (here ++ [name]) = some node)
      (hlink : ∀ target, node ≠ .link target) (hw : Walks fs last (here ++ [name]) rest w) :
      Walks fs last here (name :: rest) w
  | free {here : Place} {name : String} (hdir : fs.node? here = some .directory) (hup : name ≠ "..")
      (hlong : ¬nameLimit < octetCount name) (hn : fs.node? (here ++ [name]) = none) :
      Walks fs last here [name] (.done (.free (here ++ [name])))
  | lastLink {here : Place} {name target : String} (hdir : fs.node? here = some .directory)
      (hup : name ≠ "..") (hlong : ¬nameLimit < octetCount name)
      (hn : fs.node? (here ++ [name]) = some (.link target)) (hlast : last = false) :
      Walks fs last here [name] (.done (.taken (here ++ [name]) (.link target)))
  | link {here : Place} {name target : String} {rest : List String}
      (hdir : fs.node? here = some .directory) (hup : name ≠ "..")
      (hlong : ¬nameLimit < octetCount name)
      (hn : fs.node? (here ++ [name]) = some (.link target))
      (hmore : ¬(rest.isEmpty && !last) = true) :
      Walks fs last here (name :: rest) (.link here target rest)

theorem walk_eq_ok_iff {last : Bool} {here : Place} {names : List String} {w : Walk} :
    fs.walk last here names = .ok w ↔ Walks fs last here names w := by
  constructor
  · fun_induction FileSystem.walk fs last here names with
    | case1 here node hn =>
        rintro ⟨⟩
        exact .here hn
    | case2 | case3 | case5 | case7 => rintro ⟨⟩
    | case4 here rest hdir ih => exact fun hw => .up (not_not.mp hdir) (ih hw)
    | case6 here name rest hdir hup hlong next hn hrest =>
        rintro ⟨⟩
        obtain rfl := List.isEmpty_iff.mp hrest
        exact .free (not_not.mp hdir) hup hlong hn
    | case8 here name rest hdir hup hlong next target hn hend =>
        rintro ⟨⟩
        obtain ⟨hrest, hlast⟩ := Bool.and_eq_true_iff.mp hend
        obtain rfl := List.isEmpty_iff.mp hrest
        exact .lastLink (not_not.mp hdir) hup hlong hn (Bool.not_eq_true' last ▸ hlast)
    | case9 here name rest hdir hup hlong next target hn hmore =>
        rintro ⟨⟩
        exact .link (not_not.mp hdir) hup hlong hn hmore
    | case10 here name rest hdir hup hlong next node hlink hn ih =>
        exact fun hw => .down (not_not.mp hdir) hup hlong hn hlink (ih hw)
  · intro hw
    induction hw with
    | here hn => rw [walk, hn]
    | up hdir _ ih => rw [walk, if_neg (not_not.mpr hdir), if_pos rfl, ih]
    | @down _ _ _ node _ hdir hup hlong hn hlink _ ih =>
        rw [walk, if_neg (not_not.mpr hdir), if_neg hup, if_neg hlong]
        cases node with
        | link target => exact absurd rfl (hlink target)
        | _ => simpa [hn] using ih
    | free hdir hup hlong hn => simp [walk, hdir, hup, hlong, hn]
    | lastLink hdir hup hlong hn hlast => simp [walk, hdir, hup, hlong, hn, hlast]
    | link hdir hup hlong hn hmore => simp [walk, hdir, hup, hlong, hn, hmore]

/-- A walk that does not end at a free name goes the same way where everything is kept. -/
theorem Keeps.walks (h : Keeps fs fs') {last : Bool} {here : Place} {names : List String} {w : Walk}
    (hw : Walks fs last here names w) (hfree : ∀ place, w ≠ .done (.free place)) :
    Walks fs' last here names w := by
  induction hw with
  | here hn => exact .here (h.node _ _ hn)
  | up hdir _ ih => exact .up (h.node _ _ hdir) (ih hfree)
  | down hdir hup hlong hn hlink _ ih =>
      exact .down (h.node _ _ hdir) hup hlong (h.node _ _ hn) hlink (ih hfree)
  | free => exact absurd rfl (hfree _)
  | lastLink hdir hup hlong hn hlast =>
      exact .lastLink (h.node _ _ hdir) hup hlong (h.node _ _ hn) hlast
  | link hdir hup hlong hn hmore => exact .link (h.node _ _ hdir) hup hlong (h.node _ _ hn) hmore

/-- Where a walk ends, the node lies. -/
theorem Walks.node? {last : Bool} {here : Place} {names : List String} {w : Walk}
    (hw : Walks fs last here names w) (h : w = .done (.taken place node)) :
    fs.node? place = some node := by
  induction hw with
  | here hn | lastLink _ _ _ hn =>
      cases h
      exact hn
  | up _ _ ih | down _ _ _ _ _ _ ih => exact ih h
  | free | link => cases h

variable {last : Bool} {links : Nat} {here : Place} {names : List String} {spot : Spot}

theorem follow_of_done (hw : Walks fs last here names (.done spot)) :
    fs.follow last links here names = .ok spot := by
  cases links <;> rw [follow, walk_eq_ok_iff.mpr hw]

theorem follow_of_link {directory : Place} {target : String} {rest : List String}
    (hw : Walks fs last here names (.link directory target rest)) :
    fs.follow last (links + 1) here names =
      fs.follow last links (startOf directory target) (Path.names target ++ rest) := by
  rw [follow, walk_eq_ok_iff.mpr hw]

/-- A path is followed by one walk, or by a walk up to a link and by following the link. -/
theorem follow_cases (hf : fs.follow last links here names = .ok spot) :
    Walks fs last here names (.done spot) ∨ ∃ fewer directory target rest, links = fewer + 1 ∧
      Walks fs last here names (.link directory target rest) ∧
      fs.follow last fewer (startOf directory target) (Path.names target ++ rest) = .ok spot := by
  cases hw : fs.walk last here names with
  | error e => cases links <;> simp [follow, hw] at hf
  | ok w =>
      have hwalks := walk_eq_ok_iff.mp hw
      cases w with
      | done spot' =>
          cases (follow_of_done hwalks).symm.trans hf
          exact .inl hwalks
      | link directory target rest =>
          cases links with
          | zero => simp [follow, hw] at hf
          | succ fewer =>
              exact .inr ⟨fewer, _, _, _, rfl, hwalks, (follow_of_link hwalks).symm.trans hf⟩

/-- A path that leads to a node leads to it where everything is kept. -/
theorem Keeps.follow (hk : Keeps fs fs')
    (hf : fs.follow last links here names = .ok (.taken place node)) :
    fs'.follow last links here names = .ok (.taken place node) := by
  induction links generalizing here names with
  | zero =>
      rcases follow_cases hf with hw | ⟨_, _, _, _, h, _⟩
      · exact follow_of_done (hk.walks hw nofun)
      · cases h
  | succ links ih =>
      rcases follow_cases hf with hw | ⟨_, _, _, _, ⟨⟩, hw, hf⟩
      · exact follow_of_done (hk.walks hw nofun)
      · rw [follow_of_link (hk.walks hw nofun)]
        exact ih hf

/-- Where a path leads to a node, the node lies. -/
theorem node?_of_follow (hf : fs.follow last links here names = .ok (.taken place node)) :
    fs.node? place = some node := by
  induction links generalizing here names with
  | zero =>
      rcases follow_cases hf with hw | ⟨_, _, _, _, h, _⟩
      · exact hw.node? rfl
      · cases h
  | succ links ih =>
      rcases follow_cases hf with hw | ⟨_, _, _, _, ⟨⟩, -, hf⟩
      · exact hw.node? rfl
      · exact ih hf

/-- A path is followed to a node, which is a directory if the end of the path says so. -/
structure Leads (fs : FileSystem) (last : Bool) (path : String) (place : Place) (node : Node) :
    Prop where
  nul : ¬path.toList.contains '\x00' = true
  empty : path ≠ ""
  long : ¬pathLimit < octetCount path
  follow : fs.follow (last || wantsDirectory path) linkLimit (startOf fs.workingDirectory path)
    (Path.names path) = .ok (.taken place node)
  directory : ¬(wantsDirectory path && node != .directory) = true

theorem locate_taken_iff :
    fs.locate last path = .ok (.taken place node) ↔ Leads fs last path place node := by
  constructor
  · intro h
    rw [locate] at h
    split at h
    · cases h
    split at h
    · cases h
    split at h
    · cases h
    simp only at h
    split at h
    · cases h
    next hf =>
      split at h
      · cases h
      · cases h
        exact ⟨‹_›, ‹_›, ‹_›, hf, ‹_›⟩
    next hspot hf =>
      cases h
      exact absurd rfl (hspot place node)
  · rintro ⟨hnul, hempty, hlong, hf, hd⟩
    rw [locate, if_neg hnul, if_neg hempty, if_neg hlong]
    simp only [hf]
    rw [if_neg hd]

theorem Keeps.locate (hk : Keeps fs fs') (h : fs.locate last path = .ok (.taken place node)) :
    fs'.locate last path = .ok (.taken place node) := by
  obtain ⟨hnul, hempty, hlong, hf, hd⟩ := locate_taken_iff.mp h
  have hf' := hk.follow hf
  rw [← hk.workingDirectory] at hf'
  exact locate_taken_iff.mpr ⟨hnul, hempty, hlong, hf', hd⟩

theorem node?_of_locate (h : fs.locate last path = .ok (.taken place node)) :
    fs.node? place = some node :=
  node?_of_follow (locate_taken_iff.mp h).follow

/-! ### Unlinking -/

/-- A path leads to a node that can be unlinked: a link at its end stands for itself, and a directory
stays. -/
structure Unlinks (fs : FileSystem) (path : String) (place : Place) (node : Node) : Prop where
  locate : fs.locate false path = .ok (.taken place node)
  directory : node ≠ .directory

theorem Unlinks.node? (h : fs.Unlinks path place node) : fs.node? place = some node :=
  node?_of_locate h.locate

theorem Unlinks.ne_nil (h : fs.Unlinks path place node) : place ≠ [] := by
  rintro rfl
  exact h.directory (Option.some.inj h.node?).symm

theorem Keeps.unlinks (hk : Keeps fs fs') (h : fs.Unlinks path place node) :
    fs'.Unlinks path place node :=
  ⟨hk.locate h.locate, h.directory⟩

/-- A path has one node at most that it unlinks. -/
theorem Unlinks.unique {node' : Node} (h : fs.Unlinks path place node)
    (h' : fs.Unlinks path place' node') : place = place' ∧ node = node' := by
  cases h.locate.symm.trans h'.locate
  exact ⟨rfl, rfl⟩

/-- What a path unlinks is cleared, and otherwise nothing is done. -/
theorem unlinkAnyway_cases (fs : FileSystem) (path : String) :
    (∃ place node, fs.Unlinks path place node ∧ fs.unlinkAnyway path = fs.clear place) ∨
      (∀ place node, ¬fs.Unlinks path place node) ∧ fs.unlinkAnyway path = fs := by
  rw [unlinkAnyway, unlink]
  split
  next fs' h =>
    split at h
    · cases h
    · cases h
    · cases h
    next place node hnode hl =>
      cases h
      exact .inl ⟨place, node, ⟨hl, hnode⟩, rfl⟩
  next e h =>
    refine .inr ⟨fun place node hu => ?_, rfl⟩
    rw [hu.locate] at h
    cases node with
    | directory => exact hu.directory rfl
    | _ => cases h

/-- **Unlinking takes away what the path unlinks, and nothing else.** -/
theorem node?_unlinkAnyway (path : String) (h : fs.node? place = some node) :
    (fs.unlinkAnyway path).node? place = some node ↔ ¬fs.Unlinks path place node := by
  rcases unlinkAnyway_cases fs path with ⟨q, m, hu, he⟩ | ⟨hno, he⟩
  · rw [he, node?_clear hu.ne_nil]
    by_cases hq : place = q
    · subst hq
      obtain rfl : m = node := Option.some.inj (hu.node?.symm.trans h)
      simp [hu]
    · rw [if_neg hq]
      exact ⟨fun _ hu' => hq (hu'.unique hu).1, fun _ => h⟩
  · rw [he]
    exact ⟨fun _ => hno place node, fun _ => h⟩

theorem unlinkAnyway_keeps (fs : FileSystem) (path : String) : Keeps (fs.unlinkAnyway path) fs := by
  rcases unlinkAnyway_cases fs path with ⟨place, _, hu, he⟩ | ⟨-, he⟩
  · rw [he]
    exact clear_keeps hu.ne_nil fs
  · rw [he]
    exact .refl fs

/-- **Unlinking a path again changes nothing.** -/
theorem unlinkAnyway_unlinkAnyway (fs : FileSystem) (path : String) :
    (fs.unlinkAnyway path).unlinkAnyway path = fs.unlinkAnyway path := by
  rcases unlinkAnyway_cases (fs.unlinkAnyway path) path with ⟨place, node, hu, -⟩ | ⟨-, he⟩
  · -- what is unlinked the second time would have been unlinked the first time
    have hfirst := (unlinkAnyway_keeps fs path).unlinks hu
    exact absurd hfirst ((node?_unlinkAnyway path hfirst.node?).mp hu.node?)
  · exact he

/-! ### Making directories -/

theorem node?_of_spotIn {directory : Place} {name : String}
    (h : fs.spotIn directory name = .ok (.free place)) : fs.node? place = none := by
  rw [spotIn] at h
  split at h
  · cases h
  split at h
  · cases h
  simp only at h
  split at h
  · cases h
  next hn =>
    cases h
    exact hn

/-- The name of a new entry is free. -/
theorem node?_of_spotOfNew (h : fs.spotOfNew path = .ok (.free place)) : fs.node? place = none := by
  rw [spotOfNew] at h
  split at h
  · cases h
  split at h
  · cases h
  split at h
  · cases h
  split at h
  · cases h
  simp only at h
  split at h
  · cases h
  · exact node?_of_spotIn h
  · cases h
  · cases h

theorem keeps_makeDirectory (h : fs.makeDirectory path = .ok fs') : Keeps fs fs' := by
  rw [makeDirectory] at h
  split at h
  · cases h
  · cases h
  next hfree =>
    cases h
    exact keeps_put (node?_of_spotOfNew hfree) .directory

theorem keeps_ensureDirectory (h : fs.ensureDirectory path = .ok fs') : Keeps fs fs' := by
  rw [ensureDirectory] at h
  split at h
  next hmade =>
    cases h
    exact keeps_makeDirectory hmade
  · split at h
    · cases h
      exact .refl fs
    · cases h

/-- Making directories one after the other keeps everything, as far as it goes. -/
theorem keeps_ensureAll (fs : FileSystem) (paths : List String) :
    Keeps fs (fs.ensureAll paths).1 := by
  induction paths generalizing fs with
  | nil => exact .refl fs
  | cons path rest ih =>
      rw [ensureAll]
      cases h : fs.ensureDirectory path with
      | error e => exact .refl fs
      | ok fs' => exact (keeps_ensureDirectory h).trans (ih fs')

/-- **Making directories keeps everything.** -/
theorem keeps_makeDirectories (fs : FileSystem) (path : String) :
    Keeps fs (fs.makeDirectories path).1 := by
  rw [makeDirectories]
  cases fs.missingDirectories (path.length + 1) path with
  | error e => exact .refl fs
  | ok paths => exact keeps_ensureAll fs paths.reverse

end Streamkeeper.Host.FileSystem
