import Mathlib.Data.String.Basic
import Streamkeeper.Json.Canonical

/-!
# JSON values — their numbers, their depth and the order of their members

Three properties of a value and of everything inside it: all its numbers satisfy a condition
(`AllNumbers`), so many brackets are open at a time (`Within`), and the members of every object
stand in strictly increasing order of their keys (`Ordered`).

The canonical form is ordered (`ordered_canonical`), has no other numbers and is no deeper
(`AllNumbers.canonical`, `Within.canonical`), and an ordered value is its own canonical form
(`Ordered.canonical_eq`).
-/

namespace Streamkeeper

/-- An integer that a word of 64 bits holds, with or without a sign. -/
def Number.IsWord : Number → Prop
  | .int n => -(Nat.pow 2 63 : Int) ≤ n ∧ n < (Nat.pow 2 64 : Int)
  | .real _ => False

/-- No double. -/
def Number.IsInteger : Number → Prop
  | .int _ => True
  | .real _ => False

theorem Number.isWord_int_iff {n : Int} : (Number.int n).IsWord ↔
    -9223372036854775808 ≤ n ∧ n < 18446744073709551616 := by
  have h : Nat.pow 2 63 = 9223372036854775808 ∧ Nat.pow 2 64 = 18446744073709551616 := by decide
  rw [IsWord, h.1, h.2]
  rfl

namespace Json

/-- A property holds of all values if it holds of the scalars, and of arrays and objects when it
holds of what stands in them. -/
@[elab_as_elim]
theorem induction {motive : Json → Prop} (null : motive .null) (bool : ∀ b, motive (.bool b))
    (number : ∀ n, motive (.number n)) (string : ∀ s, motive (.string s))
    (array : ∀ items, (∀ v ∈ items, motive v) → motive (.array items))
    (object : ∀ ms, (∀ m ∈ ms, motive m.2) → motive (.object ms)) (v : Json) : motive v := by
  -- the lists of elements and of members, and a single member, have motives of their own
  refine @Json.rec motive (fun items => ∀ v ∈ items, motive v) (fun ms => ∀ m ∈ ms, motive m.2)
    (fun m => motive m.2) null bool number string array object
    (fun _ h => absurd h List.not_mem_nil) ?_ (fun _ h => absurd h List.not_mem_nil) ?_
    (fun _ _ h => h) v
  · intro v items hv hitems
    exact List.forall_mem_cons.mpr ⟨hv, hitems⟩
  · intro m ms hm hms
    exact List.forall_mem_cons.mpr ⟨hm, hms⟩

/-- The values that are natural numbers of 64 bits. -/
theorem asNat?_eq_some_iff {v : Json} {n : Nat} :
    v.asNat? = some n ↔ v = .nat n ∧ n < 2 ^ 64 := by
  rcases v with _ | _ | ⟨i | _⟩ | _ | _ | _
  case number.int =>
    simp only [asNat?, nat, Option.ite_none_right_eq_some, Option.some.injEq,
      number.injEq, Number.int.injEq, Nat.pow_eq]
    omega
  all_goals simp [asNat?, nat]

/-! ### Properties of a value and of everything inside it -/

/-- All numbers of a value satisfy `P`. -/
inductive AllNumbers (P : Number → Prop) : Json → Prop where
  | null : AllNumbers P .null
  | bool (b : Bool) : AllNumbers P (.bool b)
  | number {n : Number} (h : P n) : AllNumbers P (.number n)
  | string (s : String) : AllNumbers P (.string s)
  | array {items : List Json} (h : ∀ v ∈ items, AllNumbers P v) : AllNumbers P (.array items)
  | object {ms : List (String × Json)} (h : ∀ m ∈ ms, AllNumbers P m.2) : AllNumbers P (.object ms)

/-- At most `depth` brackets of a value are open at a time. -/
inductive Within : (depth : Nat) → Json → Prop where
  | null (depth : Nat) : Within depth .null
  | bool (depth : Nat) (b : Bool) : Within depth (.bool b)
  | number (depth : Nat) (n : Number) : Within depth (.number n)
  | string (depth : Nat) (s : String) : Within depth (.string s)
  | array {depth : Nat} {items : List Json} (h : ∀ v ∈ items, Within depth v) :
      Within (depth + 1) (.array items)
  | object {depth : Nat} {ms : List (String × Json)} (h : ∀ m ∈ ms, Within depth m.2) :
      Within (depth + 1) (.object ms)

/-- Members in strictly increasing order of their keys. -/
def Increasing (ms : List (String × Json)) : Prop :=
  ms.Pairwise fun m m' => m.1 < m'.1

/-- The members of every object of a value stand in strictly increasing order of their keys. -/
inductive Ordered : Json → Prop where
  | null : Ordered .null
  | bool (b : Bool) : Ordered (.bool b)
  | number (n : Number) : Ordered (.number n)
  | string (s : String) : Ordered (.string s)
  | array {items : List Json} (h : ∀ v ∈ items, Ordered v) : Ordered (.array items)
  | object {ms : List (String × Json)} (hi : Increasing ms) (h : ∀ m ∈ ms, Ordered m.2) :
      Ordered (.object ms)

theorem AllNumbers.imp₂ {P Q R : Number → Prop} (hPQR : ∀ n, P n → Q n → R n) {v : Json}
    (hP : v.AllNumbers P) (hQ : v.AllNumbers Q) : v.AllNumbers R := by
  induction hP with
  | null => exact .null
  | bool b => exact .bool b
  | number h =>
      cases hQ with
      | number h' => exact .number (hPQR _ h h')
  | string s => exact .string s
  | array _ ih =>
      cases hQ with
      | array h' => exact .array fun v hv => ih v hv (h' v hv)
  | object _ ih =>
      cases hQ with
      | object h' => exact .object fun m hm => ih m hm (h' m hm)

theorem Within.mono {v : Json} {depth depth' : Nat} (h : v.Within depth) (hd : depth ≤ depth') :
    v.Within depth' := by
  induction h generalizing depth' with
  | null => exact .null _
  | bool => exact .bool _ _
  | number => exact .number _ _
  | string => exact .string _ _
  | array _ ih =>
      obtain ⟨d, rfl⟩ : ∃ d, depth' = d + 1 := ⟨depth' - 1, by omega⟩
      exact .array fun v hv => ih v hv (by omega)
  | object _ ih =>
      obtain ⟨d, rfl⟩ : ∃ d, depth' = d + 1 := ⟨depth' - 1, by omega⟩
      exact .object fun m hm => ih m hm (by omega)

/-- A value that can be read back at a depth from what is written for it. -/
structure Writable (depth : Nat) (v : Json) : Prop where
  within : v.Within depth
  numbers : v.AllNumbers Number.IsWord

namespace Writable

theorem string (depth : Nat) (s : String) : Writable depth (.string s) :=
  ⟨.string depth s, .string s⟩

theorem nat (depth : Nat) {n : Nat} (h : n < Nat.pow 2 64) : Writable depth (.nat n) := by
  have hlow : -(Nat.pow 2 63 : Int) ≤ 0 := Int.neg_nonpos_of_nonneg (Int.natCast_nonneg _)
  exact ⟨.number depth _, .number ⟨Int.le_trans hlow (Int.natCast_nonneg n), Int.ofNat_lt.mpr h⟩⟩

theorem array {depth : Nat} {items : List Json} (h : ∀ v ∈ items, Writable depth v) :
    Writable (depth + 1) (.array items) :=
  ⟨.array fun v hv => (h v hv).within, .array fun v hv => (h v hv).numbers⟩

theorem object {depth : Nat} {ms : List (String × Json)} (h : ∀ m ∈ ms, Writable depth m.2) :
    Writable (depth + 1) (.object ms) :=
  ⟨.object fun m hm => (h m hm).within, .object fun m hm => (h m hm).numbers⟩

theorem mono {depth depth' : Nat} {v : Json} (h : Writable depth v) (hd : depth ≤ depth') :
    Writable depth' v :=
  ⟨h.within.mono hd, h.numbers⟩

end Writable

/-! ### Sorting members -/

theorem mem_insertMember {m : String × Json} {key : String} {value : Json}
    {ms : List (String × Json)} (h : m ∈ insertMember key value ms) :
    m = (key, value) ∨ m ∈ ms := by
  induction ms with
  | nil => exact Or.inl (List.mem_singleton.mp h)
  | cons e rest ih =>
      rw [insertMember] at h
      split at h
      · exact List.mem_cons.mp h
      · split at h
        · exact (List.mem_cons.mp h).imp_right (List.mem_cons_of_mem _)
        · rcases List.mem_cons.mp h with h | h
          · exact Or.inr (h ▸ List.mem_cons_self)
          · exact (ih h).imp_right (List.mem_cons_of_mem _)

theorem Increasing.insertMember {ms : List (String × Json)} (h : Increasing ms) (key : String)
    (value : Json) : Increasing (insertMember key value ms) := by
  induction ms with
  | nil => exact List.pairwise_singleton _ _
  | cons e rest ih =>
      obtain ⟨hrest, hi⟩ := List.pairwise_cons.mp h
      rw [Json.insertMember]
      split
      · rename_i hlt
        refine List.pairwise_cons.mpr ⟨List.forall_mem_cons.mpr ⟨hlt, fun m hm => ?_⟩, h⟩
        exact hlt.trans (hrest m hm)
      · rename_i hlt
        split
        · rename_i heq
          exact List.pairwise_cons.mpr ⟨fun m hm => heq ▸ hrest m hm, hi⟩
        · rename_i hne
          have hgt : e.1 < key := lt_of_le_of_ne (not_lt.mp hlt) (Ne.symm hne)
          refine List.pairwise_cons.mpr ⟨fun m hm => ?_, ih hi⟩
          rcases mem_insertMember hm with rfl | hm
          · exact hgt
          · exact hrest m hm

/-- A key above all others goes to the end. -/
theorem insertMember_last {ms : List (String × Json)} {key : String} (value : Json)
    (h : ∀ m ∈ ms, m.1 < key) : insertMember key value ms = ms ++ [(key, value)] := by
  induction ms with
  | nil => rfl
  | cons e rest ih =>
      obtain ⟨he, hrest⟩ := List.forall_mem_cons.mp h
      rw [insertMember, if_neg (lt_asymm he), if_neg (ne_of_gt he), ih hrest]
      rfl

/-- Sorting members into sorted ones that stand already. -/
theorem foldl_insertMember (sorted ms : List (String × Json)) (h : Increasing (sorted ++ ms)) :
    ms.foldl (fun sorted m => insertMember m.1 m.2 sorted) sorted = sorted ++ ms := by
  induction ms generalizing sorted with
  | nil => rw [List.append_nil]; rfl
  | cons m ms ih =>
      have hlast : ∀ e ∈ sorted, e.1 < m.1 :=
        fun e he => (List.pairwise_append.mp h).2.2 e he m List.mem_cons_self
      rw [List.append_cons] at h ⊢
      rw [List.foldl_cons, insertMember_last m.2 hlast]
      exact ih _ h

theorem Increasing.sortMembers_eq {ms : List (String × Json)} (h : Increasing ms) :
    sortMembers ms = ms :=
  foldl_insertMember [] ms h

/-- Every write keeps what holds of the members that stand and of the one that comes. -/
theorem sortMembers_induction {P : List (String × Json) → Prop} {ms : List (String × Json)}
    (nil : P []) (insert : ∀ sorted, ∀ m ∈ ms, P sorted → P (insertMember m.1 m.2 sorted)) :
    P (sortMembers ms) := by
  have run : ∀ (l : List (String × Json)), (∀ m ∈ l, m ∈ ms) → ∀ sorted, P sorted →
      P (l.foldl (fun sorted m => Json.insertMember m.1 m.2 sorted) sorted) := by
    intro l
    induction l with
    | nil => exact fun _ _ h => h
    | cons m l ih =>
        intro hl sorted h
        obtain ⟨hm, hl⟩ := List.forall_mem_cons.mp hl
        exact ih hl _ (insert sorted m hm h)
  exact run ms (fun _ h => h) [] nil

theorem increasing_sortMembers (ms : List (String × Json)) : Increasing (sortMembers ms) :=
  sortMembers_induction .nil fun _ m _ h => h.insertMember m.1 m.2

theorem mem_of_mem_sortMembers {ms : List (String × Json)} : ∀ m ∈ sortMembers ms, m ∈ ms := by
  refine sortMembers_induction (P := fun sorted => ∀ m ∈ sorted, m ∈ ms)
    (fun _ h => absurd h List.not_mem_nil) fun sorted m hm h e he => ?_
  rcases mem_insertMember he with rfl | he
  · exact hm
  · exact h e he

/-! ### The canonical form -/

theorem canonicalItems_eq_map (items : List Json) : canonicalItems items = items.map canonical := by
  induction items with
  | nil => rfl
  | cons v items ih => rw [canonicalItems, ih, List.map_cons]

theorem canonicalMembers_eq_map (ms : List (String × Json)) :
    canonicalMembers ms = ms.map fun m => (m.1, m.2.canonical) := by
  induction ms with
  | nil => rfl
  | cons m ms ih => rw [canonicalMembers, ih, List.map_cons]

theorem canonical_array (items : List Json) :
    (Json.array items).canonical = .array (items.map canonical) := by
  rw [canonical, canonicalItems_eq_map]

theorem canonical_object (ms : List (String × Json)) :
    (Json.object ms).canonical = .object (sortMembers (ms.map fun m => (m.1, m.2.canonical))) := by
  rw [canonical, canonicalMembers_eq_map]

/-- What holds of the canonical forms of all members holds of all members of the canonical form. -/
theorem forall_canonical_members {P : Json → Prop} {ms : List (String × Json)}
    (h : ∀ m ∈ ms, P m.2.canonical) :
    ∀ m ∈ sortMembers (ms.map fun m => (m.1, m.2.canonical)), P m.2 := by
  intro m hm
  obtain ⟨e, he, rfl⟩ := List.mem_map.mp (mem_of_mem_sortMembers m hm)
  exact h e he

theorem ordered_canonical (v : Json) : v.canonical.Ordered := by
  induction v using Json.induction with
  | null => exact .null
  | bool b => exact .bool b
  | number n => exact .number n
  | string s => exact .string s
  | array items ih =>
      rw [canonical_array]
      exact .array (List.forall_mem_map.mpr ih)
  | object ms ih =>
      rw [canonical_object]
      exact .object (increasing_sortMembers _) (forall_canonical_members ih)

theorem AllNumbers.canonical {P : Number → Prop} {v : Json} (h : v.AllNumbers P) :
    v.canonical.AllNumbers P := by
  induction h with
  | null => exact .null
  | bool b => exact .bool b
  | number h => exact .number h
  | string s => exact .string s
  | array _ ih =>
      rw [canonical_array]
      exact .array (List.forall_mem_map.mpr ih)
  | object _ ih =>
      rw [canonical_object]
      exact .object (forall_canonical_members ih)

theorem Within.canonical {depth : Nat} {v : Json} (h : v.Within depth) :
    v.canonical.Within depth := by
  induction h with
  | null => exact .null _
  | bool => exact .bool _ _
  | number => exact .number _ _
  | string => exact .string _ _
  | array _ ih =>
      rw [canonical_array]
      exact .array (List.forall_mem_map.mpr ih)
  | object _ ih =>
      rw [canonical_object]
      exact .object (forall_canonical_members ih)

theorem Ordered.canonical_eq {v : Json} (h : v.Ordered) : v.canonical = v := by
  induction h with
  | null => rfl
  | bool => rfl
  | number => rfl
  | string => rfl
  | array _ ih => rw [canonical_array, List.map_congr_left ih, List.map_id']
  | @object ms hi _ ih =>
      have hms : ∀ m ∈ ms, (m.1, m.2.canonical) = m := fun m hm => Prod.ext rfl (ih m hm)
      rw [canonical_object, List.map_congr_left hms, List.map_id', hi.sortMembers_eq]

end Json

end Streamkeeper
