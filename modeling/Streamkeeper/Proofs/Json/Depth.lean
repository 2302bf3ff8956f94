import Streamkeeper.Proofs.Json.Bounds
import Streamkeeper.Proofs.Json.Reading
import Streamkeeper.Proofs.Json.Rounds

/-!
# JSON depth — a limit refuses what is too deep and changes nothing else

A reader that allows more brackets to be open reads whatever one that allows fewer does, and reads
it as the same value (`value_mono`): the loops over elements and members take the same rounds with
both (`elements_extends`, `members_extends`).

So a text that is a way to write a value has one meaning for all limits (`Tells`): readers that
allow the brackets of the value read the value, and the others read nothing (`tells_of_spells`).
-/

namespace Streamkeeper.Json

/-! ### Readers that read more -/

/-- Whatever the first reader takes, the second one takes too. -/
def Extends {α : Type} (read read' : List Char → Except Fault (α × List Char)) : Prop :=
  ∀ cs p, read cs = .ok p → read' cs = .ok p

theorem bind_eq_ok_of {ε α β : Type} {x y : Except ε α} {f g : α → Except ε β} {b : β}
    (h : (x >>= f) = .ok b) (hx : ∀ a, x = .ok a → y = .ok a)
    (hf : ∀ a, x = .ok a → f a = .ok b → g a = .ok b) : (y >>= g) = .ok b := by
  obtain ⟨a, ha, hb⟩ := Except.bind_eq_ok h
  rw [hx a ha]
  exact hf a ha hb

/-- Elements are taken by a reader of more elements. -/
theorem elements_extends {read read' : List Char → Except Fault (Json × List Char)}
    (h : Extends read read') (fuel : Nat) (isFirst : Bool) :
    Extends (elements read fuel isFirst) (elements read' fuel isFirst) := by
  induction fuel generalizing isFirst with
  | zero => exact fun _ _ hp => nomatch hp
  | succ fuel ih =>
      intro cs p hp
      rw [elements_succ] at hp ⊢
      refine bind_eq_ok_of hp (fun _ hi => hi) fun item _ hp => ?_
      cases item with
      | close rest => exact hp
      | element cs' =>
          refine bind_eq_ok_of hp (fun _ hx => h _ _ hx) fun x _ hp => ?_
          exact bind_eq_ok_of hp (fun _ hxs => ih false _ _ hxs) fun _ _ hp => hp

/-- Members are taken by what takes more of a member. -/
theorem members_extends {σ : Type}
    {member member' : σ → String → List Char → Except Fault (σ × List Char)}
    (h : ∀ s key, Extends (member s key) (member' s key)) (fuel : Nat) (isFirst : Bool) (s : σ) :
    Extends (members member fuel isFirst s) (members member' fuel isFirst s) := by
  induction fuel generalizing isFirst s with
  | zero => exact fun _ _ hp => nomatch hp
  | succ fuel ih =>
      intro cs p hp
      rw [members_succ] at hp ⊢
      refine bind_eq_ok_of hp (fun _ he => he) fun entry _ hp => ?_
      cases entry with
      | close rest => exact hp
      | key name rest =>
          exact bind_eq_ok_of hp (fun _ hm => h s name _ _ hm) fun q _ hp => ih false q.1 _ _ hp

theorem plainMember_extends {read read' : List Char → Except Fault (Json × List Char)}
    (h : Extends read read') (sofar : List (String × Json)) (key : String) :
    Extends (plainMember read sofar key) (plainMember read' sofar key) := fun _ _ hp =>
  bind_eq_ok_of hp (fun _ hc => hc) fun _ _ hp =>
    bind_eq_ok_of hp (fun _ hv => h _ _ hv) fun _ _ hp => hp

theorem ite_eq_ok_of {ε β : Type} {p : Prop} [Decidable p] {x x' y y' : Except ε β} {b : β}
    (h : (if p then x else y) = .ok b) (hx : x = .ok b → x' = .ok b) (hy : y = .ok b → y' = .ok b) :
    (if p then x' else y') = .ok b := by
  split at h
  · rw [if_pos ‹p›]
    exact hx h
  · rw [if_neg ‹¬p›]
    exact hy h

/-- A value is taken if the values inside it are. -/
theorem valueWith_extends {nested nested' : Option (List Char → Except Fault (Json × List Char))}
    (h : ∀ read, nested = some read → ∃ read', nested' = some read' ∧ Extends read read') :
    Extends (valueWith nested) (valueWith nested') := by
  intro cs p hp
  unfold valueWith at hp ⊢
  split at hp
  · cases hp
  · -- only the last two characters, the brackets, have values inside
    iterate 6 refine ite_eq_ok_of hp (fun hp => hp) fun hp => ?_
    refine ite_eq_ok_of hp (fun hp => ?_) fun hp => ite_eq_ok_of hp (fun hp => ?_) fun hp => hp
    · cases nested with
      | none => cases hp
      | some read =>
          obtain ⟨read', rfl, hread⟩ := h read rfl
          exact bind_eq_ok_of hp (fun _ hxs => elements_extends hread _ _ _ _ hxs) fun _ _ hp => hp
    · cases nested with
      | none => cases hp
      | some read =>
          obtain ⟨read', rfl, hread⟩ := h read rfl
          exact bind_eq_ok_of hp
            (fun _ hms => members_extends (plainMember_extends hread) _ _ _ _ _ hms) fun _ _ hp => hp

/-- **A reader that allows more open brackets reads the same.** -/
theorem value_mono {depth depth' : Nat} (h : depth ≤ depth') :
    Extends (value depth) (value depth') := by
  induction depth generalizing depth' with
  | zero =>
      cases depth' with
      | zero => exact fun _ _ hp => hp
      | succ depth' => exact valueWith_extends fun read hread => nomatch hread
  | succ depth ih =>
      obtain ⟨depth', rfl⟩ : ∃ d, depth' = d + 1 := ⟨depth' - 1, by omega⟩
      refine valueWith_extends fun read hread => ⟨value depth', rfl, ?_⟩
      cases hread
      exact ih (Nat.le_of_succ_le_succ h)

/-! ### What a text tells -/

/-- What holds of every element from some depth on holds of all of them from some depth on. -/
theorem exists_within_all {α : Type} {f : α → Json} {xs : List α}
    (h : ∀ x ∈ xs, ∃ depth, (f x).Within depth) : ∃ depth, ∀ x ∈ xs, (f x).Within depth := by
  induction xs with
  | nil => exact ⟨0, List.forall_mem_nil _⟩
  | cons x xs ih =>
      obtain ⟨⟨depth, hx⟩, hxs⟩ := List.forall_mem_cons.mp h
      obtain ⟨depth', hxs⟩ := ih hxs
      exact ⟨max depth depth', List.forall_mem_cons.mpr ⟨hx.mono (Nat.le_max_left _ _),
        fun y hy => (hxs y hy).mono (Nat.le_max_right _ _)⟩⟩

/-- Every value is as deep as it is. -/
theorem exists_within (v : Json) : ∃ depth, v.Within depth := by
  induction v using Json.induction with
  | null => exact ⟨0, .null 0⟩
  | bool b => exact ⟨0, .bool 0 b⟩
  | number n => exact ⟨0, .number 0 n⟩
  | string s => exact ⟨0, .string 0 s⟩
  | array items ih =>
      obtain ⟨depth, h⟩ := exists_within_all (f := id) ih
      exact ⟨depth + 1, .array h⟩
  | object ms ih =>
      obtain ⟨depth, h⟩ := exists_within_all (f := Prod.snd) ih
      exact ⟨depth + 1, .object h⟩

/-- The value that a text denotes for a reader that allows so many open brackets. -/
def readWithin (depth : Nat) (text : String) : Except ReadError Json :=
  readAll (value depth) text.toList

example (text : String) : readWithin depthLimit text = read? text := rfl

/-- A text tells a value: a reader that allows its brackets reads the value, and no other value is
ever read. -/
def Tells (text : String) (v : Json) : Prop :=
  ∀ depth w, readWithin depth text = .ok w ↔ w = v ∧ v.Within depth

theorem readWithin_eq_ok_iff {depth : Nat} {text : String} {v : Json} :
    readWithin depth text = .ok v ↔
      ∃ rest, value depth text.toList = .ok (v, rest) ∧ finish rest = .ok () := by
  rw [readWithin, readAll]
  rcases value depth text.toList with f | ⟨w, rest⟩
  · simp [bind, Except.bind, Except.mapError]
  · rcases hfinish : finish rest with f | u <;> simp [bind, Except.bind, Except.mapError, hfinish]

/-- What a text is read as from end to end. -/
theorem Reads.readWithin_eq {depth : Nat} {cs : List Char} {v : Json}
    (h : Reads (value depth) cs v) : readWithin depth (String.ofList cs) = .ok v := by
  obtain ⟨rest, hv, hrest⟩ := h [] fun _ hc => nomatch hc
  rw [List.append_nil] at hv
  have hfinish : finish rest = .ok () := by rw [finish, hrest]; rfl
  exact readWithin_eq_ok_iff.mpr ⟨rest, by rw [String.toList_ofList, hv], hfinish⟩

/-- **A way to write a value tells the value.** -/
theorem tells_of_spells {v : Json} {cs : List Char}
    (h : ∀ depth, v.Within depth → Spells depth v cs) : Tells (String.ofList cs) v := by
  intro depth w
  constructor
  · intro hw
    obtain ⟨rest, hread, hfinish⟩ := readWithin_eq_ok_iff.mp hw
    obtain ⟨enough, hv⟩ := exists_within v
    -- a reader that allows enough brackets reads both
    have hmax := Reads.readWithin_eq (h _ (hv.mono (Nat.le_max_right depth enough))).reads
    have hmore : readWithin (max depth enough) (String.ofList cs) = .ok w :=
      readWithin_eq_ok_iff.mpr ⟨rest, value_mono (Nat.le_max_left depth enough) _ _ hread, hfinish⟩
    obtain rfl : w = v := Except.ok.inj (hmore.symm.trans hmax)
    exact ⟨rfl, (readable_of_value hread).within⟩
  · rintro ⟨rfl, hw⟩
    exact (h depth hw).reads.readWithin_eq

/-- Two texts that tell one value are alike to every reader. -/
theorem Tells.readWithin_congr {text text' : String} {v : Json} (h : Tells text v)
    (h' : Tells text' v) (depth : Nat) :
    (readWithin depth text).toOption = (readWithin depth text').toOption := by
  refine Option.ext fun w => ?_
  have hiff : readWithin depth text = .ok w ↔ readWithin depth text' = .ok w :=
    (h depth w).trans (h' depth w).symm
  rcases ht : readWithin depth text <;> rcases ht' : readWithin depth text' <;>
    simp_all [Except.toOption]

end Streamkeeper.Json
