import Mathlib.Logic.ExistsUnique
import Streamkeeper.Scope

/-!
# Gamelet names — the names that can be read

A name has ten segments.  Four are fixed words and six are its own (`Name`): an organization, a
project and a pool, and the three of which the instance id is made.  A name is its segments with
slashes between them, and segments have no slash in them, so the text of a name gives the segments
back (`segments_text`), and what is made of the segments of a text is the text again
(`join_segments`).  Reading is therefore the inverse of writing: exactly the texts of names are read
(`parse?_eq_some_iff`), and each is the text of one name (`text_injective`).

So the scope that a name denotes has a project and an organization that are segments, and an
instance id that is made of three (`named_of_parse?`); no part of it is empty.  `parse_names` says
what the reader of names makes of every text.
-/

namespace Streamkeeper.Scope

/-! ### Segments -/

/-- A text that can stand between the slashes of a name. -/
def IsSegment (s : String) : Prop :=
  s ≠ "" ∧ '/' ∉ s.toList

theorem not_mem_of_mem_splitOn {c : Char} {cs : List Char} :
    ∀ piece ∈ cs.splitOn c, c ∉ piece := by
  induction cs with
  | nil => simp
  | cons d cs ih =>
      obtain ⟨first, rest, hs⟩ := List.exists_cons_of_ne_nil (List.splitOn_ne_nil c cs)
      rw [hs, List.forall_mem_cons] at ih
      rw [List.splitOn_cons_eq_if_modifyHead, hs]
      split
      · exact List.forall_mem_cons.mpr ⟨List.not_mem_nil, List.forall_mem_cons.mpr ih⟩
      · rename_i hd
        have hcd : c ≠ d := fun e => hd (beq_iff_eq.mpr e.symm)
        exact List.forall_mem_cons.mpr ⟨List.not_mem_cons_of_ne_of_not_mem hcd ih.1, ih.2⟩

/-- No segment of a text has a slash in it. -/
theorem not_mem_of_mem_segments {name s : String} (h : s ∈ segments name) : '/' ∉ s.toList := by
  obtain ⟨piece, hp, rfl⟩ := List.mem_map.mp h
  rw [String.toList_ofList]
  exact not_mem_of_mem_splitOn piece hp

/-- Segments without slashes are the segments of what they are joined to. -/
theorem segments_join {ss : List String} (hs : ∀ s ∈ ss, '/' ∉ s.toList) (hne : ss ≠ []) :
    segments (join ss) = ss := by
  have hslash : "/".toList = ['/'] := rfl
  have hpieces : (join ss).toList.splitOn '/' = ss.map String.toList := by
    rw [join, String.toList_intercalate, hslash]
    refine List.splitOn_intercalate '/' (List.forall_mem_map.mpr hs) fun he => hne ?_
    exact List.map_eq_nil_iff.mp he
  rw [segments, hpieces, List.map_map]
  exact (List.map_congr_left fun s _ => String.ofList_toList).trans (List.map_id ss)

/-- A text is what its segments are joined to. -/
theorem join_segments (text : String) : join (segments text) = text := by
  have hslash : "/".toList = ['/'] := rfl
  have hlist : (join (segments text)).toList = text.toList := by
    rw [join, segments, String.toList_intercalate, hslash, List.map_map]
    have hpieces : (text.toList.splitOn '/').map (String.toList ∘ String.ofList) =
        text.toList.splitOn '/' :=
      (List.map_congr_left fun _ _ => String.toList_ofList).trans (List.map_id _)
    rw [hpieces]
    exact List.intercalate_splitOn '/'
  exact String.toList_inj.mp hlist

theorem join_three (a b c : String) : join [a, b, c] = a ++ "/" ++ b ++ "/" ++ c := by
  simp only [join, String.intercalate_cons_cons, String.intercalate_singleton, String.append_assoc]

/-- The slashes of an instance id alone make it non-empty. -/
theorem join_ne_empty (a b c : String) : join [a, b, c] ≠ "" := by
  intro h
  have hl := congrArg String.length h
  rw [join, String.intercalate_cons_cons, String.length_append, String.length_append] at hl
  have h1 : "/".length = 1 := rfl
  have h0 : "".length = 0 := rfl
  omega

/-! ### Names -/

/-- A segment of a name. -/
abbrev Segment := { s : String // IsSegment s }

/-- The segments of a gamelet's name that are its own. -/
@[ext]
structure Name where
  organization : Segment
  project : Segment
  pool : Segment
  a : Segment
  b : Segment
  c : Segment

namespace Name

/-- A name as it is written. -/
def text (n : Name) : String :=
  "organizations/" ++ n.organization ++ "/projects/" ++ n.project ++ "/pools/" ++ n.pool ++
    "/gamelets/" ++ n.a ++ "/" ++ n.b ++ "/" ++ n.c

/-- What a name stands for; the pool is left out. -/
def scope (n : Name) : Scope where
  instanceId := n.a ++ "/" ++ n.b ++ "/" ++ n.c
  projectId := n.project
  organizationId := n.organization

/-- All ten segments of a name. -/
def parts (n : Name) : List String :=
  ["organizations", n.organization, "projects", n.project, "pools", n.pool, "gamelets", n.a, n.b,
    n.c]

theorem text_eq_join (n : Name) : n.text = join n.parts := by
  have horganizations : "organizations/" = "organizations" ++ "/" := by simp
  have hprojects : "/projects/" = "/" ++ "projects" ++ "/" := by simp
  have hpools : "/pools/" = "/" ++ "pools" ++ "/" := by simp
  have hgamelets : "/gamelets/" = "/" ++ "gamelets" ++ "/" := by simp
  change "organizations/" ++ n.organization.1 ++ "/projects/" ++ n.project ++ "/pools/" ++
    n.pool ++ "/gamelets/" ++ n.a ++ "/" ++ n.b ++ "/" ++ n.c = _
  rw [horganizations, hprojects, hpools, hgamelets]
  simp only [parts, join, String.intercalate_cons_cons, String.intercalate_singleton,
    String.append_assoc]

/-- No segment of a name has a slash in it. -/
theorem not_mem_of_mem_parts (n : Name) : ∀ s ∈ n.parts, '/' ∉ s.toList := by
  have word (s : String) (h : s.toList.contains '/' = false) : '/' ∉ s.toList := by
    simpa using h
  simp only [parts, List.forall_mem_cons]
  exact ⟨word _ rfl, n.organization.2.2, word _ rfl, n.project.2.2, word _ rfl, n.pool.2.2,
    word _ rfl, n.a.2.2, n.b.2.2, n.c.2.2, fun _ h => nomatch h⟩

/-- The segments of a name's text are those of the name. -/
theorem segments_text (n : Name) : segments n.text = n.parts := by
  rw [text_eq_join]
  exact segments_join n.not_mem_of_mem_parts (List.cons_ne_nil _ _)

/-- No two names have the same text. -/
theorem text_injective : Function.Injective text := by
  intro n m h
  have hparts : n.parts = m.parts := by
    rw [← segments_text, ← segments_text, h]
  simp only [parts, List.cons.injEq, true_and, and_true, ← Subtype.ext_iff] at hparts
  obtain ⟨horg, hproject, hpool, ha, hb, hc⟩ := hparts
  exact Name.ext horg hproject hpool ha hb hc

theorem instanceId_eq_join (n : Name) : n.scope.instanceId = join [n.a.1, n.b.1, n.c.1] :=
  (join_three _ _ _).symm

/-- The segments of a name's instance id are its last three. -/
theorem segments_instanceId (n : Name) : segments n.scope.instanceId = [n.a.1, n.b.1, n.c.1] := by
  rw [instanceId_eq_join]
  refine segments_join (fun s hs => n.not_mem_of_mem_parts s ?_) (List.cons_ne_nil _ _)
  exact List.mem_of_mem_drop (i := 7) hs

/-- Names that stand for the same differ in their pools alone. -/
theorem eq_of_scope_eq {n m : Name} (h : n.scope = m.scope) : m = { n with pool := m.pool } := by
  -- An instance id has the three segments in it, so one id is never made of two triples.
  have htail : [n.a.1, n.b.1, n.c.1] = [m.a.1, m.b.1, m.c.1] := by
    rw [← segments_instanceId, h, segments_instanceId]
  simp only [List.cons.injEq, and_true, ← Subtype.ext_iff] at htail
  obtain ⟨ha, hb, hc⟩ := htail
  have hproject : n.project = m.project := Subtype.ext (congrArg projectId h)
  have horg : n.organization = m.organization := Subtype.ext (congrArg organizationId h)
  exact Name.ext horg.symm hproject.symm rfl ha.symm hb.symm hc.symm

end Name

/-- The text of a name is read as what the name stands for. -/
theorem parse?_text (n : Name) : parse? n.text = some n.scope := by
  rw [parse?, n.segments_text]
  simp only [Name.parts, n.organization.2.1, n.project.2.1, n.pool.2.1, n.a.2.1, n.b.2.1,
    n.c.2.1, ne_eq, not_false_eq_true, and_self, if_true, join_three]
  rfl

/-- A text that is read is the text of a name: its ten segments are those of one. -/
theorem exists_name_of_parse? {text : String} {scope : Scope} (h : parse? text = some scope) :
    ∃ n : Name, n.text = text ∧ n.scope = scope := by
  have hslash : ∀ s ∈ segments text, '/' ∉ s.toList := fun _ => not_mem_of_mem_segments
  have hjoin := join_segments text
  unfold parse? at h
  split at h
  · next hseg =>
      split at h
      · next hc =>
          obtain ⟨rfl, rfl, rfl, rfl, horg, hproject, hpool, ha, hb, hc⟩ := hc
          simp only [hseg, List.forall_mem_cons] at hslash
          obtain ⟨-, hsorg, -, hsproject, -, hspool, -, hsa, hsb, hsc, -⟩ := hslash
          refine ⟨⟨⟨_, horg, hsorg⟩, ⟨_, hproject, hsproject⟩, ⟨_, hpool, hspool⟩, ⟨_, ha, hsa⟩,
            ⟨_, hb, hsb⟩, ⟨_, hc, hsc⟩⟩, ?_, ?_⟩
          · rw [Name.text_eq_join, ← hjoin, hseg]
            rfl
          · rw [← Option.some.inj h, join_three]
            rfl
      · cases h
  · cases h

/-- Exactly the texts of names are read, each as what its name stands for. -/
theorem parse?_eq_some_iff {text : String} {scope : Scope} :
    parse? text = some scope ↔ ∃ n : Name, n.text = text ∧ n.scope = scope := by
  refine ⟨exists_name_of_parse?, ?_⟩
  rintro ⟨n, rfl, rfl⟩
  exact parse?_text n

theorem parse_eq_ok_iff {text : String} {scope : Scope} :
    parse text = .ok scope ↔ ∃ n : Name, n.text = text ∧ n.scope = scope := by
  rw [← parse?_eq_some_iff, parse]
  cases parse? text <;> simp

/-! ### The scope that a name denotes -/

/-- A scope as names denote it. -/
structure Named (scope : Scope) : Prop where
  project : IsSegment scope.projectId
  organization : IsSegment scope.organizationId
  /-- The instance id is made of three segments. -/
  instanceId : ∃ a b c, segments scope.instanceId = [a, b, c] ∧
    IsSegment a ∧ IsSegment b ∧ IsSegment c

theorem named_of_parse? {name : String} {scope : Scope} (h : parse? name = some scope) :
    scope.Named := by
  obtain ⟨n, -, rfl⟩ := parse?_eq_some_iff.mp h
  exact ⟨n.project.2, n.organization.2, n.a, n.b, n.c, n.segments_instanceId, n.a.2, n.b.2, n.c.2⟩

theorem ne_empty_of_parse? {name : String} {scope : Scope} (h : parse? name = some scope) :
    scope.instanceId ≠ "" ∧ scope.projectId ≠ "" ∧ scope.organizationId ≠ "" := by
  obtain ⟨n, -, rfl⟩ := parse?_eq_some_iff.mp h
  exact ⟨n.instanceId_eq_join ▸ join_ne_empty n.a n.b n.c, n.project.2.1, n.organization.2.1⟩

/-- **Names are read as they are written.**  The text of a name is read as its scope.  Every text
that is read is the text of one name and of no other, and every text that is not is refused with an
error that shows it.  Names with one scope differ in their pools alone. -/
theorem parse_names :
    (∀ n : Name, parse n.text = .ok n.scope) ∧
      (∀ text scope, parse text = .ok scope → ∃! n : Name, n.text = text) ∧
      (∀ text, (∀ n : Name, n.text ≠ text) →
        parse text = .error (.invalidArgument s!"Failed to parse instance name '{text}'")) ∧
      ∀ text text' scope, parse text = .ok scope → parse text' = .ok scope →
        ∃ (n : Name) (pool : Segment), n.text = text ∧ { n with pool := pool }.text = text' := by
  refine ⟨fun n => parse_eq_ok_iff.mpr ⟨n, rfl, rfl⟩, ?_, ?_, ?_⟩
  · intro text scope h
    obtain ⟨n, rfl, -⟩ := parse_eq_ok_iff.mp h
    exact ⟨n, rfl, fun m hm => Name.text_injective hm⟩
  · intro text h
    have hnone : parse? text = none := by
      rw [Option.eq_none_iff_forall_ne_some]
      intro scope hs
      obtain ⟨n, hn, -⟩ := parse?_eq_some_iff.mp hs
      exact h n hn
    rw [parse, hnone]
    rfl
  · intro text text' scope h h'
    obtain ⟨n, rfl, hn⟩ := parse_eq_ok_iff.mp h
    obtain ⟨m, rfl, hm⟩ := parse_eq_ok_iff.mp h'
    -- `m` is `n` with a pool of its own
    exact ⟨n, m.pool, rfl, congrArg Name.text (Name.eq_of_scope_eq (hn.trans hm.symm)).symm⟩

end Streamkeeper.Scope
