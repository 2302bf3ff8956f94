import Streamkeeper.Proofs.Json.Bounds
import Streamkeeper.Proofs.Json.Reading
import Streamkeeper.Wire.Tagged

/-!
# Tagged records — what is written with its tag in front is read back

The text of a tagged object is read as its tag and its other members, in their order
(`readTagged_text`), whatever separators follow it.  Conversely, every value that is kept of a
tagged record is readable at the depth that is left inside it (`readable_of_tagged`).
-/

namespace Streamkeeper.Wire

open Json (Fault Mismatch Reads Takes WrittenMember Padding Readable)

/-! ### Reading what is written -/

section Text

variable {τ : Type} {ofName : String → Except Mismatch τ}
  {read : List Char → Except Fault (Json × List Char)}

/-- The tag of a record that has none yet. -/
theorem reads_tag {name : String} {t : τ} (h : ofName name = .ok t) (ms : List (String × Json)) :
    Reads (taggedMember ofName read (none, ms) tagKey) (':' :: Json.stringText name)
      (some t, ms) := by
  intro rest _
  have hname : nameIn ofName (Json.stringText name ++ rest) = .ok (t, rest) := by
    have hskip : Json.skip (Json.stringText name ++ rest) =
        '"' :: (name.toList.flatMap Json.escapeChar ++ '"' :: rest) := by
      rw [Json.stringText, List.cons_append, List.append_assoc]
      exact Json.skip_cons (by decide) _
    simp only [nameIn, hskip, if_true, Json.stringRest_text, bind, Except.bind, h]
  have hcolon : Json.colon (':' :: (Json.stringText name ++ rest)) =
      .ok (Json.stringText name ++ rest) := rfl
  refine ⟨rest, ?_, rfl⟩
  simp only [taggedMember, if_true, List.cons_append, hcolon, bind, Except.bind, hname]

/-- A member that is not the tag. -/
theorem reads_member {e : WrittenMember} (h : Reads read e.text e.value) (hk : e.key ≠ tagKey)
    (s : Option τ × List (String × Json)) :
    Reads (taggedMember ofName read s e.key) (':' :: e.text) (s.1, e.member :: s.2) := by
  intro rest hr
  obtain ⟨rest', hv, hrest'⟩ := h rest hr
  have hcolon : Json.colon (':' :: (e.text ++ rest)) = .ok (e.text ++ rest) := rfl
  refine ⟨rest', ?_, hrest'⟩
  simp only [taggedMember, if_neg hk, List.cons_append, hcolon, bind, Except.bind, hv]
  rfl

theorem takes_members {es : List WrittenMember} (h : ∀ e ∈ es, Reads read e.text e.value)
    (hk : ∀ e ∈ es, e.key ≠ tagKey) (s : Option τ × List (String × Json)) :
    Takes (taggedMember ofName read) s es (s.1, (es.map WrittenMember.member).reverse ++ s.2) := by
  induction es generalizing s with
  | nil => exact .nil s
  | cons e es ih =>
      obtain ⟨he, hes⟩ := List.forall_mem_cons.mp h
      obtain ⟨hke, hkes⟩ := List.forall_mem_cons.mp hk
      have hs : ((e :: es).map WrittenMember.member).reverse ++ s.2 =
          (es.map WrittenMember.member).reverse ++ e.member :: s.2 := by simp
      rw [hs]
      exact .cons (reads_member he hke s) (ih hes hkes _)

end Text

/-- Members that can stand in a tagged record: their values can be read back at the depth that is
left inside it, and none has the key of the tag. -/
structure Carried (ms : List (String × Json)) : Prop where
  writable : ∀ m ∈ ms, m.2.Writable (Json.depthLimit - 1)
  keys : ∀ m ∈ ms, m.1 ≠ tagKey

/-- The line of a tagged record is read as its tag and its members. -/
theorem tagged_text {τ : Type} (record : String) {ofName : String → Except Mismatch τ}
    {name : String} {t : τ} (h : ofName name = .ok t) {ms : List (String × Json)} (hms : Carried ms)
    (rest : List Char) :
    tagged record ofName ((Json.object ((tagKey, .string name) :: ms)).compactText ++ rest) =
      .ok ((t, .members ms), rest) := by
  have hread : ∀ e ∈ ms.map WrittenMember.ofMember,
      Reads (Json.value (Json.depthLimit - 1)) e.text e.value :=
    List.forall_mem_map.mpr fun m hm => Json.reads_compactText (hms.writable m hm)
  have htag : WrittenMember.ofMember (tagKey, .string name) =
      ⟨tagKey, .string name, [], Json.stringText name⟩ := by
    rw [WrittenMember.ofMember, Json.compactText]
  have htakes : Takes (taggedMember ofName (Json.value (Json.depthLimit - 1))) (none, [])
      (((tagKey, .string name) :: ms).map WrittenMember.ofMember) (some t, ms.reverse) := by
    -- the tag is in front, so it is taken while there is none yet
    rw [List.map_cons, htag]
    refine .cons (reads_tag h []) ?_
    have := @takes_members τ ofName _ _ hread (List.forall_mem_map.mpr hms.keys) (some t, [])
    simpa [Function.comp_def, WrittenMember.member, WrittenMember.ofMember] using this
  have hmembers := Json.members_object htakes
    (List.forall_mem_map.mpr fun _ _ => Json.padding_nil) Json.padding_nil rest
  rw [List.map_map, List.nil_append] at hmembers
  simp only [Function.comp_def] at hmembers
  have hbrace : Json.isSeparator '\x7b' = false := by decide
  rw [Json.compactText, Json.compactMembers_eq, List.cons_append, List.append_assoc,
    List.singleton_append]
  simp only [tagged, Json.skip_cons hbrace, if_true, hmembers, bind, Except.bind,
    List.reverse_reverse]

/-- **A tagged record is read back from its line,** with separators after it or without. -/
theorem readTagged_text {τ α : Type} (record : String) {ofName : String → Except Mismatch τ}
    {meaning : τ → Content → Except Mismatch α} {name : String} {t : τ} (h : ofName name = .ok t)
    {ms : List (String × Json)} (hms : Carried ms) {x : α} (hx : meaning t (.members ms) = .ok x)
    {text : String} {tail : List Char} (htail : Padding tail)
    (htext : text.toList = (Json.object ((tagKey, .string name) :: ms)).compactText ++ tail) :
    readTagged record ofName meaning text = .ok x := by
  have hfinish : Json.finish tail = .ok () := by
    have hskip : Json.skip tail = [] := List.dropWhile_eq_nil_iff.mpr htail
    rw [Json.finish, hskip]
  simp only [readTagged, htext, tagged_text record h hms tail, hx, hfinish]

/-! ### What reading keeps -/

/-- All values in a content satisfy `P`. -/
def Content.All (P : Json → Prop) : Content → Prop
  | .members ms => ∀ m ∈ ms, P m.2
  | .elements xs => ∀ x ∈ xs, P x

theorem taggedMember_keep {τ : Type} {ofName : String → Except Mismatch τ}
    {read : List Char → Except Fault (Json × List Char)} {P : Json → Prop}
    (hread : ∀ cs x rest, read cs = .ok (x, rest) → P x) (s : Option τ × List (String × Json))
    (key : String) (cs : List Char) (s' : Option τ × List (String × Json)) (rest : List Char)
    (h : taggedMember ofName read s key cs = .ok (s', rest)) (hs : ∀ m ∈ s.2, P m.2) :
    ∀ m ∈ s'.2, P m.2 := by
  unfold taggedMember at h
  split at h
  · split at h
    · cases h
    · obtain ⟨_, -, h⟩ := Except.bind_eq_ok h
      obtain ⟨_, -, h⟩ := Except.bind_eq_ok h
      cases h
      exact hs
  · obtain ⟨_, -, h⟩ := Except.bind_eq_ok h
    obtain ⟨⟨v, rest'⟩, hv, h⟩ := Except.bind_eq_ok h
    cases h
    exact List.forall_mem_cons.mpr ⟨hread _ _ _ hv, hs⟩

/-- Every value that a tagged record keeps is readable at the depth that is left inside it. -/
theorem readable_of_tagged {τ : Type} {record : String} {ofName : String → Except Mismatch τ}
    {cs rest : List Char} {t : τ} {content : Content}
    (h : tagged record ofName cs = .ok ((t, content), rest)) :
    content.All (Readable (Json.depthLimit - 1)) := by
  unfold tagged at h
  simp only at h
  split at h
  · cases h
  · split at h
    · obtain ⟨⟨⟨t', ms⟩, rest'⟩, hms, h⟩ := Except.bind_eq_ok h
      have hall := Json.members_keep (P := fun s : Option τ × List (String × Json) =>
          ∀ m ∈ s.2, Readable (Json.depthLimit - 1) m.2)
        (taggedMember_keep fun _ _ _ => Json.readable_of_value) hms fun _ h =>
          absurd h List.not_mem_nil
      cases t' with
      | none => cases h
      | some t' =>
          cases h
          exact fun m hm => hall m (List.mem_reverse.mp hm)
    · split at h
      · split at h
        · cases h
        · split at h
          · cases h
          · obtain ⟨_, -, h⟩ := Except.bind_eq_ok h
            obtain ⟨⟨xs, rest'⟩, hxs, h⟩ := Except.bind_eq_ok h
            cases h
            exact Json.forall_mem_elements (fun _ _ _ => Json.readable_of_value) hxs
      · cases h

/-- What reads as a tagged record is a tag and readable values with a meaning. -/
theorem readTagged_ok {τ α : Type} {record : String} {ofName : String → Except Mismatch τ}
    {meaning : τ → Content → Except Mismatch α} {text : String} {x : α}
    (h : readTagged record ofName meaning text = .ok x) :
    ∃ t content, content.All (Readable (Json.depthLimit - 1)) ∧ meaning t content = .ok x := by
  unfold readTagged at h
  simp only at h
  split at h
  · cases h
  · rename_i t content rest htagged
    split at h
    · cases h
    · rename_i y hy
      split at h
      · cases h
      · cases h
        exact ⟨t, content, readable_of_tagged htagged, hy⟩

end Streamkeeper.Wire
