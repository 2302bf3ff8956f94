import Streamkeeper.Proofs.Json.Depth
import Streamkeeper.Proofs.Json.Line

/-!
# JSON over several lines — the printer's indentation is a way to write the value

Each element and each member begins on a line of its own, and the indentation before it is
separators (`padding_newline`).  So the indented text is a way to write the value at whatever level
it stands (`spells_prettyText`), as the single line is.

Both forms of a value tell the value (`tells_compact`, `tells_pretty`), with the line feed that is
printed after them or without it.
-/

namespace Streamkeeper.Json

theorem padding_space : Padding [' '] :=
  List.forall_mem_singleton.mpr (by decide)

/-- The beginning of a line is separators. -/
theorem padding_newline (level : Nat) : Padding (newline level) := by
  intro c hc
  rcases List.mem_cons.mp hc with rfl | hc
  · decide
  · rw [List.eq_of_mem_replicate hc]
    decide

/-- A value after separators. -/
theorem Spells.indented {depth : Nat} {v : Json} {cs before : List Char} (h : Spells depth v cs)
    (hb : Padding before) : Spells depth v (before ++ cs) := by
  simpa using h.padded hb padding_nil

/-! ### Elements and members on their lines -/

/-- An element of an array at `level`, on its line. -/
def prettyItem (level : Nat) (v : Json) : List Char :=
  newline (level + 1) ++ prettyText (level + 1) v

theorem prettyItems_eq (level : Nat) (items : List Json) :
    prettyItems level items =
      commaed (items.map (prettyItem level)) ++ (newline level ++ [']']) := by
  match items with
  | [] => simp [prettyItems, commaed]
  | [v] => simp [prettyItems, commaed, prettyItem]
  | v :: w :: rest =>
    rw [prettyItems, prettyItems_eq level (w :: rest)]
    simp [commaed, prettyItem]

/-- A member of an object at `level`, on its line. -/
def WrittenMember.indented (level : Nat) (m : String × Json) : WrittenMember :=
  ⟨m.1, m.2, newline (level + 1), ' ' :: prettyText (level + 1) m.2⟩

theorem prettyMembers_eq (level : Nat) (ms : List (String × Json)) :
    prettyMembers level ms =
      commaed (ms.map fun m => (WrittenMember.indented level m).chars) ++
        (newline level ++ ['\x7d']) := by
  match ms with
  | [] => simp [prettyMembers, commaed]
  | [(k, v)] => simp [prettyMembers, commaed, WrittenMember.chars, WrittenMember.indented]
  | (k, v) :: m :: rest =>
    rw [prettyMembers, prettyMembers_eq level (m :: rest)]
    simp [commaed, WrittenMember.chars, WrittenMember.indented]

/-! ### Empty brackets -/

theorem spells_array_nil (depth : Nat) : Spells (depth + 1) (.array []) ['[', ']'] :=
  @Spells.array depth [] [] (List.forall_mem_nil _) padding_nil

theorem spells_object_nil (depth : Nat) : Spells (depth + 1) (.object []) ['\x7b', '\x7d'] :=
  @Spells.object depth [] [] (List.forall_mem_nil _) (List.forall_mem_nil _) padding_nil

/-! ### The printer's lines -/

/-- **The printer's lines write the value.** -/
theorem spells_prettyText {v : Json} {depth : Nat} (hd : v.Within depth)
    (hn : v.AllNumbers Number.IsWord) (level : Nat) : Spells depth v (prettyText level v) := by
  induction hd generalizing level with
  | null depth => rw [prettyText]; exact .null depth
  | bool depth b => rw [prettyText]; exact .bool depth b
  | number depth n =>
      cases hn with
      | number h =>
          cases n with
          | int n => rw [prettyText]; exact .int depth h
          | real => exact h.elim
  | string depth s => rw [prettyText]; exact .string depth s
  | @array depth items _ ih =>
      cases hn with
      | array hn =>
          -- an empty array is written without a line of its own
          match items with
          | [] => rw [prettyText]; exact spells_array_nil depth
          | v :: rest =>
            have element : ∀ w ∈ v :: rest, Spells depth w (prettyItem level w) := fun w hw =>
              (ih w hw (hn w hw) (level + 1)).indented (padding_newline _)
            have hs := @Spells.array depth ((v :: rest).map fun w => (w, prettyItem level w)) _
              (List.forall_mem_map.mpr element) (padding_newline level)
            rw [prettyText, prettyItems_eq]
            simpa [Function.comp_def] using hs
  | @object depth ms _ ih =>
      cases hn with
      | object hn =>
          match ms with
          | [] => rw [prettyText]; exact spells_object_nil depth
          | m :: rest =>
            have value : ∀ m' ∈ m :: rest,
                Spells depth m'.2 (WrittenMember.indented level m').text := fun m' hm =>
              (ih m' hm (hn m' hm) (level + 1)).indented padding_space
            have hs := @Spells.object depth ((m :: rest).map (WrittenMember.indented level)) _
              (List.forall_mem_map.mpr value)
              (List.forall_mem_map.mpr fun _ _ => padding_newline _) (padding_newline level)
            rw [prettyText, prettyMembers_eq]
            simpa [Function.comp_def, WrittenMember.indented, WrittenMember.member] using hs

/-! ### What the two forms tell -/

/-- A printed value and the separators after it tell the value. -/
theorem tells_of_text {v : Json} {cs tail : List Char} {text : String}
    (h : ∀ depth, v.Within depth → Spells depth v cs) (htail : Padding tail)
    (htext : text.toList = cs ++ tail) : Tells text v := by
  rw [← String.ofList_toList (s := text), htext]
  exact tells_of_spells fun depth hd => (h depth hd).padded padding_nil htail

variable {v : Json} (hn : v.AllNumbers Number.IsWord)
include hn

theorem tells_compact {text : String} {tail : List Char} (htail : Padding tail)
    (htext : text.toList = v.compactText ++ tail) : Tells text v :=
  tells_of_text (fun _ hd => spells_compactText hd hn) htail htext

theorem tells_pretty {text : String} {tail : List Char} (htail : Padding tail)
    (htext : text.toList = prettyText 0 v ++ tail) : Tells text v :=
  tells_of_text (fun _ hd => spells_prettyText hd hn 0) htail htext

end Streamkeeper.Json
