import Streamkeeper.Json.Reader
import Streamkeeper.Proofs.Json.Value

/-!
# JSON spellings — how a value may be written

`Spells depth v cs`: the text `cs` is a way to write `v`, in which at most `depth` brackets are open
at a time.  Separators may stand around every value and before every key; strings and numbers are
written as the printer writes them, and a number is an integer of 64 bits.

The line that the printer gives is such a text (`spells_compactText`).
-/

namespace Streamkeeper.Json

/-- Separators only. -/
def Padding (cs : List Char) : Prop :=
  ∀ c ∈ cs, isSeparator c = true

theorem padding_nil : Padding [] :=
  fun _ h => absurd h List.not_mem_nil

theorem padding_lineFeed : Padding ['\n'] :=
  List.forall_mem_singleton.mpr (by decide)

/-- Texts with commas between them. -/
def commaed : List (List Char) → List Char
  | [] => []
  | t :: ts => t ++ ts.flatMap (',' :: ·)

/-- A member as it is written: its key and its value, the separators before the key, and the text of
the value after the colon. -/
structure WrittenMember where
  key : String
  value : Json
  before : List Char
  text : List Char

/-- The characters of a member. -/
def WrittenMember.chars (e : WrittenMember) : List Char :=
  e.before ++ (stringText e.key ++ ':' :: e.text)

/-- The member that an entry writes. -/
def WrittenMember.member (e : WrittenMember) : String × Json :=
  (e.key, e.value)

/-- The ways to write a value. -/
inductive Spells : (depth : Nat) → Json → List Char → Prop where
  | null (depth : Nat) : Spells depth .null ['n', 'u', 'l', 'l']
  | bool (depth : Nat) (b : Bool) : Spells depth (.bool b) (boolText b)
  | int (depth : Nat) {n : Int} (h : (Number.int n).IsWord) :
      Spells depth (.number (.int n)) (numberText (.int n))
  | string (depth : Nat) (s : String) : Spells depth (.string s) (stringText s)
  | array {depth : Nat} {es : List (Json × List Char)} {blank : List Char}
      (h : ∀ e ∈ es, Spells depth e.1 e.2) (hb : Padding blank) :
      Spells (depth + 1) (.array (es.map Prod.fst))
        ('[' :: (commaed (es.map Prod.snd) ++ (blank ++ [']'])))
  | object {depth : Nat} {es : List WrittenMember} {blank : List Char}
      (h : ∀ e ∈ es, Spells depth e.value e.text) (hp : ∀ e ∈ es, Padding e.before)
      (hb : Padding blank) :
      Spells (depth + 1) (.object (es.map WrittenMember.member))
        ('\x7b' :: (commaed (es.map WrittenMember.chars) ++ (blank ++ ['\x7d'])))
  | padded {depth : Nat} {v : Json} {cs before after : List Char} (h : Spells depth v cs)
      (hb : Padding before) (ha : Padding after) : Spells depth v (before ++ (cs ++ after))

/-! ### The printer's line -/

theorem compactItems_eq (items : List Json) :
    compactItems items = commaed (items.map compactText) ++ [']'] := by
  match items with
  | [] => rfl
  | [v] => simp [compactItems, commaed]
  | v :: w :: rest =>
    rw [compactItems, compactItems_eq (w :: rest)]
    simp [commaed]

/-- A member as the printer writes it. -/
def WrittenMember.ofMember (m : String × Json) : WrittenMember :=
  ⟨m.1, m.2, [], compactText m.2⟩

theorem compactMembers_eq (ms : List (String × Json)) :
    compactMembers ms = commaed (ms.map fun m => (WrittenMember.ofMember m).chars) ++ ['\x7d'] := by
  match ms with
  | [] => rfl
  | [(k, v)] => simp [compactMembers, commaed, WrittenMember.chars, WrittenMember.ofMember]
  | (k, v) :: m :: rest =>
    rw [compactMembers, compactMembers_eq (m :: rest)]
    simp [commaed, WrittenMember.chars, WrittenMember.ofMember]

/-- The printer's line writes the value. -/
theorem spells_compactText {v : Json} {depth : Nat} (hd : v.Within depth)
    (hn : v.AllNumbers Number.IsWord) : Spells depth v v.compactText := by
  induction hd with
  | null depth => exact .null depth
  | bool depth b => exact .bool depth b
  | number depth n =>
      cases hn with
      | number h =>
          cases n with
          | int n => exact .int depth h
          | real => exact h.elim
  | string depth s => exact .string depth s
  | @array depth items _ ih =>
      cases hn with
      | array hn =>
          have hs := @Spells.array depth (items.map fun v => (v, v.compactText)) []
            (List.forall_mem_map.mpr fun v hv => ih v hv (hn v hv)) padding_nil
          rw [compactText, compactItems_eq]
          simpa [Function.comp_def] using hs
  | @object depth ms _ ih =>
      cases hn with
      | object hn =>
          have hs := @Spells.object depth (ms.map WrittenMember.ofMember) []
            (List.forall_mem_map.mpr fun m hm => ih m hm (hn m hm))
            (List.forall_mem_map.mpr fun _ _ => padding_nil) padding_nil
          rw [compactText, compactMembers_eq]
          simpa [Function.comp_def, WrittenMember.ofMember, WrittenMember.member] using hs

end Streamkeeper.Json
