import Mathlib.Data.List.Nodup
import Streamkeeper.Table

/-!
# Tables — looking up what was written

A table is read through `get?` alone: `get?_set` and `get?_remove` say what a write does to every
lookup, with no premise.  The keys of a table stay distinct under both writes
(`nodup_keys_set`, `nodup_keys_remove`), and while they are distinct the entries are exactly the
lookups that succeed (`mem_iff_get?`).
-/

namespace Streamkeeper.Table

variable {κ α : Type}

theorem keys_map {β : Type} (f : α → β) (t : Table κ α) :
    keys (t.map fun e => (e.1, f e.2)) = keys t :=
  List.map_map

variable [DecidableEq κ]

/-! ### Lookups after a write -/

@[simp] theorem get?_nil (key : κ) : get? ([] : Table κ α) key = none := rfl

theorem get?_cons (k : κ) (a : α) (t : Table κ α) (key : κ) :
    get? ((k, a) :: t) key = if k = key then some a else get? t key := rfl

theorem get?_set (t : Table κ α) (key : κ) (value : α) (k : κ) :
    get? (set t key value) k = if k = key then some value else get? t k := by
  induction t with
  | nil => simp only [set, get?_cons, get?_nil, eq_comm]
  | cons e rest ih =>
      obtain ⟨k₀, a⟩ := e
      by_cases h : k₀ = key
      · subst h
        rw [set, if_pos rfl, get?_cons, get?_cons]
        by_cases hk : k = k₀
        · rw [if_pos hk.symm, if_pos hk]
        · rw [if_neg (Ne.symm hk), if_neg hk, if_neg (Ne.symm hk)]
      · rw [set, if_neg h, get?_cons, get?_cons, ih]
        by_cases hk : k₀ = k
        · rw [if_pos hk, if_pos hk, if_neg (hk ▸ h)]
        · rw [if_neg hk, if_neg hk]

@[simp] theorem get?_set_self (t : Table κ α) (key : κ) (value : α) :
    get? (set t key value) key = some value := by
  rw [get?_set, if_pos rfl]

theorem get?_remove (t : Table κ α) (key k : κ) :
    get? (remove t key) k = if k = key then none else get? t k := by
  induction t with
  | nil => simp [remove]
  | cons e rest ih =>
      obtain ⟨k₀, a⟩ := e
      by_cases h : k₀ = key
      · have hr : remove ((k₀, a) :: rest) key = remove rest key := by simp [remove, h]
        rw [hr, ih, get?_cons]
        by_cases hk : k = key
        · rw [if_pos hk, if_pos hk]
        · rw [if_neg hk, if_neg hk, if_neg (fun e => hk (e.symm.trans h))]
      · have hr : remove ((k₀, a) :: rest) key = (k₀, a) :: remove rest key := by
          simp [remove, h]
        rw [hr, get?_cons, get?_cons, ih]
        by_cases hk : k₀ = k
        · rw [if_pos hk, if_pos hk, if_neg (hk ▸ h)]
        · rw [if_neg hk, if_neg hk]

theorem get?_append (t t' : Table κ α) (key : κ) :
    get? (t ++ t') key = (get? t key).or (get? t' key) := by
  induction t with
  | nil => rfl
  | cons e rest ih =>
      obtain ⟨k₀, a⟩ := e
      rw [List.cons_append, get?_cons, get?_cons, ih]
      split <;> rfl

theorem get?_map {β : Type} (f : α → β) (t : Table κ α) (key : κ) :
    get? (t.map fun e => (e.1, f e.2)) key = (get? t key).map f := by
  induction t with
  | nil => rfl
  | cons e rest ih =>
      obtain ⟨k₀, a⟩ := e
      rw [List.map_cons, get?_cons, get?_cons, ih]
      split <;> rfl

/-! ### Keys and entries -/

theorem mem_of_get? {t : Table κ α} {key : κ} {a : α} (h : get? t key = some a) :
    (key, a) ∈ t := by
  induction t with
  | nil => simp at h
  | cons e rest ih =>
      obtain ⟨k₀, a₀⟩ := e
      rw [get?_cons] at h
      by_cases hk : k₀ = key
      · rw [if_pos hk] at h
        cases h
        subst hk
        exact List.mem_cons_self
      · rw [if_neg hk] at h
        exact List.mem_cons_of_mem _ (ih h)

theorem isSome_get?_iff (t : Table κ α) (key : κ) : (get? t key).isSome ↔ key ∈ keys t := by
  induction t with
  | nil => simp [keys]
  | cons e rest ih =>
      obtain ⟨k₀, a₀⟩ := e
      rw [get?_cons]
      by_cases hk : k₀ = key
      · simp [hk, keys]
      · rw [if_neg hk, ih]
        simp [keys, Ne.symm hk]

theorem get?_eq_none {t : Table κ α} {key : κ} (h : key ∉ keys t) : get? t key = none :=
  Option.not_isSome_iff_eq_none.mp ((isSome_get?_iff t key).not.mpr h)

/-- While the keys are distinct, the entries are the lookups that succeed. -/
theorem mem_iff_get? {t : Table κ α} (h : (keys t).Nodup) {key : κ} {a : α} :
    (key, a) ∈ t ↔ get? t key = some a := by
  refine ⟨fun hm => ?_, mem_of_get?⟩
  induction t with
  | nil => cases hm
  | cons e rest ih =>
      obtain ⟨k₀, a₀⟩ := e
      obtain ⟨hn, hr⟩ := List.nodup_cons.mp h
      rcases List.mem_cons.mp hm with heq | hrest
      · cases heq
        rw [get?_cons, if_pos rfl]
      · have hkey : key ∈ keys rest := List.mem_map_of_mem hrest
        have hne : k₀ ≠ key := fun e => hn (e ▸ hkey)
        rw [get?_cons, if_neg hne]
        exact ih hr hrest

/-- While the keys are distinct, the order of the entries does not matter. -/
theorem get?_perm {t t' : Table κ α} (h : (keys t).Nodup) (hp : t.Perm t') (key : κ) :
    get? t key = get? t' key := by
  have h' : (keys t').Nodup := (hp.map Prod.fst).nodup h
  refine Option.ext fun a => ?_
  rw [← mem_iff_get? h, ← mem_iff_get? h', hp.mem_iff]

/-- A write keeps the place of a key that is there, and puts a new key at the end. -/
theorem keys_set (t : Table κ α) (key : κ) (value : α) :
    keys (set t key value) = if key ∈ keys t then keys t else keys t ++ [key] := by
  induction t with
  | nil => simp [set, keys]
  | cons e rest ih =>
      obtain ⟨k₀, a⟩ := e
      by_cases h : k₀ = key
      · simp [set, keys, h]
      · have hs : keys (set ((k₀, a) :: rest) key value) = k₀ :: keys (set rest key value) := by
          rw [set, if_neg h]
          rfl
        have hk : keys ((k₀, a) :: rest) = k₀ :: keys rest := rfl
        rw [hs, hk, ih]
        by_cases hm : key ∈ keys rest
        · rw [if_pos hm, if_pos (List.mem_cons_of_mem _ hm)]
        · rw [if_neg hm, if_neg (by simp [hm, Ne.symm h]), List.cons_append]

theorem nodup_keys_set {t : Table κ α} (h : (keys t).Nodup) (key : κ) (value : α) :
    (keys (set t key value)).Nodup := by
  rw [keys_set]
  by_cases hm : key ∈ keys t
  · rwa [if_pos hm]
  · rw [if_neg hm]
    exact List.Nodup.append h (List.nodup_singleton key) (by simpa using hm)

theorem nodup_keys_remove {t : Table κ α} (h : (keys t).Nodup) (key : κ) :
    (keys (remove t key)).Nodup :=
  (List.Sublist.map Prod.fst List.filter_sublist).nodup h

theorem set_ne_nil (t : Table κ α) (key : κ) (value : α) : set t key value ≠ [] := by
  intro h
  have := get?_set_self t key value
  rw [h] at this
  cases this

end Streamkeeper.Table
