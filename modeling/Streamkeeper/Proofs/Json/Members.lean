import Streamkeeper.Proofs.Json.Value
import Streamkeeper.Proofs.Table

/-!
# JSON — the members of a canonical object

The members of an object in canonical form are sorted, and of a repeated key the last member stands:
a lookup finds the value of the last member with the name (`get?_sortMembers`).  Sorted members are
determined by their lookups (`Increasing.ext`), so two objects whose last members agree have one
canonical form (`sortMembers_congr`).
-/

namespace Streamkeeper

namespace Json

theorem get?_insertMember (key : String) (value : Json) (ms : List (String × Json))
    (name : String) :
    Table.get? (insertMember key value ms) name =
      if key = name then some value else Table.get? ms name := by
  induction ms with
  | nil => rfl
  | cons e rest ih =>
      obtain ⟨k, v⟩ := e
      rw [insertMember]
      by_cases hlt : key < k
      · rw [if_pos hlt, Table.get?_cons]
      rw [if_neg hlt]
      by_cases heq : key = k
      · subst heq
        rw [if_pos rfl, Table.get?_cons, Table.get?_cons]
        split <;> rfl
      · rw [if_neg heq, Table.get?_cons, Table.get?_cons, ih]
        by_cases hk : k = name
        · rw [if_pos hk, if_neg (hk ▸ heq), if_pos hk]
        · rw [if_neg hk, if_neg hk]

/-- The value of the last member with a name. -/
def last (ms : List (String × Json)) (name : String) : Option Json :=
  Table.get? ms.reverse name

theorem get?_foldl_insertMember (sorted ms : List (String × Json)) (name : String) :
    Table.get? (ms.foldl (fun sorted m => insertMember m.1 m.2 sorted) sorted) name =
      (last ms name).or (Table.get? sorted name) := by
  induction ms generalizing sorted with
  | nil => rfl
  | cons m ms ih =>
      rw [List.foldl_cons, ih, get?_insertMember, last, last, List.reverse_cons, Table.get?_append,
        Option.or_assoc]
      congr 1
      by_cases hm : m.1 = name
      · rw [if_pos hm, Table.get?_cons, if_pos hm, Option.some_or]
      · rw [if_neg hm, Table.get?_cons, if_neg hm, Table.get?_nil, Option.none_or]

/-- Of repeated members the last one stands. -/
theorem get?_sortMembers (ms : List (String × Json)) (name : String) :
    Table.get? (sortMembers ms) name = last ms name := by
  rw [sortMembers, get?_foldl_insertMember]
  exact Option.or_none

theorem last_map (f : Json → Json) (ms : List (String × Json)) (name : String) :
    last (ms.map fun m => (m.1, f m.2)) name = (last ms name).map f := by
  rw [last, ← List.map_reverse, Table.get?_map]
  rfl

theorem Increasing.nodup_keys {ms : List (String × Json)} (h : Increasing ms) :
    (Table.keys ms).Nodup :=
  List.pairwise_map.mpr (h.imp fun hlt => ne_of_lt hlt)

/-- Increasing members are what a lookup finds. -/
theorem Increasing.ext {ms ms' : List (String × Json)} (h : Increasing ms) (h' : Increasing ms')
    (hget : ∀ name, Table.get? ms name = Table.get? ms' name) : ms = ms' := by
  have hmem : ∀ m, m ∈ ms ↔ m ∈ ms' := fun m => by
    rw [Table.mem_iff_get? h.nodup_keys, hget, ← Table.mem_iff_get? h'.nodup_keys]
  have hperm : ms.Perm ms' :=
    (List.perm_ext_iff_of_nodup h.nodup_keys.of_map h'.nodup_keys.of_map).mpr hmem
  exact hperm.eq_of_pairwise (fun _ _ _ _ hlt hgt => absurd hgt (lt_asymm hlt)) h h'

/-- Members whose last values agree are sorted to the same. -/
theorem sortMembers_congr {ms ms' : List (String × Json)}
    (h : ∀ name, last ms name = last ms' name) : sortMembers ms = sortMembers ms' :=
  (increasing_sortMembers ms).ext (increasing_sortMembers ms') fun name => by
    rw [get?_sortMembers, get?_sortMembers, h]

end Json

end Streamkeeper
