import Mathlib.Data.List.DropRight
import Streamkeeper.Proofs.Json.Scalar
import Streamkeeper.Proofs.Json.Spelling

/-!
# JSON reading — a value is read back from every way to write it

`Reads read cs x`: from texts that begin with `cs`, the reader takes `x` and leaves what follows, up
to separators.  The loops over elements and members take one entry after the other up to the closing
bracket (`elements_text`, `members_text`), whatever reads an entry.  So a value is read back from
whatever writes it (`Spells.reads`), in particular from its line (`reads_compactText`).
-/

namespace Streamkeeper.Json

/-! ### Separators -/

theorem skip_padding {cs : List Char} (h : Padding cs) (rest : List Char) :
    skip (cs ++ rest) = skip rest :=
  List.dropWhile_append_of_pos h

theorem skip_cons {c : Char} (h : isSeparator c = false) (rest : List Char) :
    skip (c :: rest) = c :: rest :=
  List.dropWhile_cons_of_neg (by rw [h]; exact Bool.false_ne_true)

@[simp] theorem skip_skip (cs : List Char) : skip (skip cs) = skip cs :=
  List.dropWhile_idempotent _ cs

theorem delimited_cons {c : Char} (h : c.isDigit = false ∧ c ≠ '.' ∧ c ≠ 'e' ∧ c ≠ 'E')
    (rest : List Char) : Delimited (c :: rest) := by
  rintro d ⟨⟩
  exact h

theorem delimited_padding {cs rest : List Char} (h : Padding cs) (hr : Delimited rest) :
    Delimited (cs ++ rest) := by
  cases cs with
  | nil => exact hr
  | cons c cs =>
      have hc : isSeparator c = true := h c List.mem_cons_self
      refine delimited_cons ?_ _
      simp only [isSeparator, Bool.or_eq_true, beq_iff_eq] at hc
      rcases hc with ((rfl | rfl) | rfl) | rfl <;> decide

/-- Texts that follow a comma each leave nothing to a number before them. -/
theorem delimited_following {ts : List (List Char)} {close : List Char} (h : Delimited close) :
    Delimited (ts.flatMap (',' :: ·) ++ close) := by
  cases ts with
  | nil => exact h
  | cons t ts => exact delimited_cons (by decide) _

/-! ### Readers and what they take -/

/-- From texts that begin with `cs`, `read` takes `x`. -/
def Reads {α : Type} (read : List Char → Except Fault (α × List Char)) (cs : List Char) (x : α) :
    Prop :=
  ∀ rest, Delimited rest → ∃ rest', read (cs ++ rest) = .ok (x, rest') ∧ skip rest' = skip rest

/-- Something stands in front that closes no array. -/
def Opens (cs : List Char) : Prop :=
  ∃ c rest, skip cs = c :: rest ∧ c ≠ ']'

theorem Opens.append {cs : List Char} (h : Opens cs) (rest : List Char) : Opens (cs ++ rest) := by
  obtain ⟨c, cs', hs, hc⟩ := h
  refine ⟨c, cs' ++ rest, ?_, hc⟩
  unfold skip at hs ⊢
  rw [List.dropWhile_append, if_neg (by rw [hs]; exact Bool.false_ne_true), hs, List.cons_append]

theorem Opens.ne_nil {cs : List Char} (h : Opens cs) : cs ≠ [] := by
  rintro rfl
  obtain ⟨c, rest, hs, -⟩ := h
  cases hs

/-- There are at least as many characters as texts. -/
theorem length_le_length_commaed {ts : List (List Char)} (h : ∀ t ∈ ts, t ≠ []) :
    ts.length ≤ (commaed ts).length := by
  cases ts with
  | nil => exact Nat.le_refl 0
  | cons t ts =>
      have ht : 0 < t.length := List.length_pos_iff.mpr (h t List.mem_cons_self)
      have hts : ts.length ≤ (ts.flatMap (',' :: ·)).length := by
        clear h
        induction ts with
        | nil => exact Nat.le_refl 0
        | cons t ts ih =>
            rw [List.flatMap_cons, List.length_append, List.length_cons, List.length_cons]
            omega
      rw [commaed, List.length_append, List.length_cons]
      omega

/-! ### Elements -/

section Elements

variable {read : List Char → Except Fault (Json × List Char)}

theorem elements_close {cs rest : List Char} (h : skip cs = ']' :: rest) (fuel : Nat)
    (isFirst : Bool) : elements read (fuel + 1) isFirst cs = .ok ([], rest) := by
  simp only [elements, h]
  rfl

theorem elements_first {cs cs' rest : List Char} {c : Char} {x : Json} (h : skip cs = c :: cs')
    (hc : c ≠ ']') (hx : read (c :: cs') = .ok (x, rest)) (fuel : Nat) :
    elements read (fuel + 1) true cs =
      (elements read fuel false rest).map fun r => (x :: r.1, r.2) := by
  simp only [elements, h, if_neg hc, if_true, hx, bind, Except.bind]
  cases elements read fuel false rest <;> rfl

theorem elements_next {cs cs' cs'' rest : List Char} {c : Char} {x : Json}
    (h : skip cs = ',' :: cs') (h' : skip cs' = c :: cs'') (hc : c ≠ ']')
    (hx : read (c :: cs'') = .ok (x, rest)) (fuel : Nat) :
    elements read (fuel + 1) false cs =
      (elements read fuel false rest).map fun r => (x :: r.1, r.2) := by
  have hcomma : ',' ≠ ']' := by decide
  simp only [elements, h, if_neg hcomma, Bool.false_eq_true, if_false, if_true, h', if_neg hc, hx,
    bind, Except.bind]
  cases elements read fuel false rest <;> rfl

variable (hskip : ∀ cs, read (skip cs) = read cs)
include hskip

/-- An element is read from where it begins. -/
theorem Reads.opened {cs rest : List Char} {x : Json} (h : Reads read cs x) (ho : Opens cs)
    (hr : Delimited rest) : ∃ c cs' rest', skip (cs ++ rest) = c :: cs' ∧ c ≠ ']' ∧
      read (c :: cs') = .ok (x, rest') ∧ skip rest' = skip rest := by
  obtain ⟨c, cs', hs, hc⟩ := ho.append rest
  obtain ⟨rest', hx, hrest'⟩ := h rest hr
  exact ⟨c, cs', rest', hs, hc, by rw [← hs, hskip, hx], hrest'⟩

variable {close rest : List Char} (hclose : skip close = ']' :: rest) (hd : Delimited close)
include hclose hd

/-- The elements after the first one. -/
theorem elements_following {es : List (Json × List Char)} (hr : ∀ e ∈ es, Reads read e.2 e.1)
    (ho : ∀ e ∈ es, Opens e.2) {fuel : Nat} (hf : es.length < fuel) {cs : List Char}
    (hcs : skip cs = skip ((es.map Prod.snd).flatMap (',' :: ·) ++ close)) :
    elements read fuel false cs = .ok (es.map Prod.fst, rest) := by
  -- over any `cs`: an element leaves separators in front of the comma after it
  induction es generalizing fuel cs with
  | nil =>
      obtain ⟨fuel, rfl⟩ : ∃ k, fuel = k + 1 := ⟨fuel - 1, by omega⟩
      exact elements_close (hcs.trans hclose) fuel false
  | cons e es ih =>
      obtain ⟨fuel, rfl⟩ : ∃ k, fuel = k + 1 := ⟨fuel - 1, by omega⟩
      obtain ⟨hre, hr⟩ := List.forall_mem_cons.mp hr
      obtain ⟨hoe, ho⟩ := List.forall_mem_cons.mp ho
      obtain ⟨c, cs', rest', hs, hc, hx, hrest'⟩ := hre.opened hskip hoe (delimited_following hd)
      have hcomma : skip cs = ',' :: (e.2 ++ ((es.map Prod.snd).flatMap (',' :: ·) ++ close)) := by
        rw [hcs, List.map_cons, List.flatMap_cons, List.append_assoc]
        exact skip_cons (by decide) _
      rw [elements_next hcomma hs hc hx, ih hr ho (Nat.lt_of_succ_lt_succ hf) hrest']
      rfl

/-- Elements with commas between them, up to the closing bracket. -/
theorem elements_text {es : List (Json × List Char)} (hr : ∀ e ∈ es, Reads read e.2 e.1)
    (ho : ∀ e ∈ es, Opens e.2) {fuel : Nat} (hf : es.length < fuel) :
    elements read fuel true (commaed (es.map Prod.snd) ++ close) =
      .ok (es.map Prod.fst, rest) := by
  obtain ⟨fuel, rfl⟩ : ∃ k, fuel = k + 1 := ⟨fuel - 1, by omega⟩
  cases es with
  | nil => exact elements_close hclose fuel true
  | cons e es =>
      obtain ⟨hre, hr⟩ := List.forall_mem_cons.mp hr
      obtain ⟨hoe, ho⟩ := List.forall_mem_cons.mp ho
      obtain ⟨c, cs', rest', hs, hc, hx, hrest'⟩ := hre.opened hskip hoe (delimited_following hd)
      rw [List.map_cons, commaed, List.append_assoc, elements_first hs hc hx,
        elements_following hskip hclose hd hr ho (Nat.lt_of_succ_lt_succ hf) hrest']
      rfl

end Elements

/-! ### Members -/

section Members

variable {σ : Type} {member : σ → String → List Char → Except Fault (σ × List Char)}

theorem members_close {cs rest : List Char} (h : skip cs = '\x7d' :: rest) (fuel : Nat)
    (isFirst : Bool) (s : σ) : members member (fuel + 1) isFirst s cs = .ok (s, rest) := by
  simp only [members, h]
  rfl

theorem members_first {cs cs' cs'' rest : List Char} {key : String} {s s' : σ}
    (h : skip cs = '"' :: cs') (hk : stringRest cs' = .ok (key, cs''))
    (hm : member s key cs'' = .ok (s', rest)) (fuel : Nat) :
    members member (fuel + 1) true s cs = members member fuel false s' rest := by
  have hquote : '"' ≠ '\x7d' := by decide
  simp only [members, h, if_neg hquote, if_true, hk, bind, Except.bind, hm]

theorem members_next {cs cs' cs'' cs''' rest : List Char} {key : String} {s s' : σ}
    (h : skip cs = ',' :: cs') (h' : skip cs' = '"' :: cs'')
    (hk : stringRest cs'' = .ok (key, cs''')) (hm : member s key cs''' = .ok (s', rest))
    (fuel : Nat) : members member (fuel + 1) false s cs = members member fuel false s' rest := by
  have hquote : '"' ≠ '\x7d' := by decide
  have hcomma : ',' ≠ '\x7d' := by decide
  simp only [members, h, h', if_neg hquote, if_neg hcomma, Bool.false_eq_true, if_false, if_true,
    hk, bind, Except.bind, hm]

/-- Entry by entry, `member` takes what stands after the key, and goes from one state to the
next. -/
inductive Takes (member : σ → String → List Char → Except Fault (σ × List Char)) :
    σ → List WrittenMember → σ → Prop where
  | nil (s : σ) : Takes member s [] s
  | cons {s s' s'' : σ} {e : WrittenMember} {es : List WrittenMember}
      (h : Reads (member s e.key) (':' :: e.text) s') (t : Takes member s' es s'') :
      Takes member s (e :: es) s''

/-- The key of an entry, and what `member` takes after it. -/
theorem Reads.keyed {e : WrittenMember} {s s' : σ} (h : Reads (member s e.key) (':' :: e.text) s')
    (hp : Padding e.before) {rest : List Char} (hr : Delimited rest) :
    ∃ cs cs' rest', skip (e.chars ++ rest) = '"' :: cs ∧ stringRest cs = .ok (e.key, cs') ∧
      member s e.key cs' = .ok (s', rest') ∧ skip rest' = skip rest := by
  obtain ⟨rest', hm, hrest'⟩ := h rest hr
  refine ⟨_, _, rest', ?_, stringRest_text e.key (':' :: e.text ++ rest), hm, hrest'⟩
  rw [WrittenMember.chars, List.append_assoc, skip_padding hp]
  simp only [stringText, List.append_assoc, List.cons_append, List.nil_append]
  exact skip_cons (by decide) _

variable {close rest : List Char} (hclose : skip close = '\x7d' :: rest) (hd : Delimited close)
include hclose hd

/-- The members after the first one. -/
theorem members_following {s s' : σ} {es : List WrittenMember} (ht : Takes member s es s')
    (hp : ∀ e ∈ es, Padding e.before) {fuel : Nat} (hf : es.length < fuel) {cs : List Char}
    (hcs : skip cs = skip ((es.map WrittenMember.chars).flatMap (',' :: ·) ++ close)) :
    members member fuel false s cs = .ok (s', rest) := by
  -- the state that a member leaves is the one that the members after it start from
  induction ht generalizing fuel cs with
  | nil s =>
      obtain ⟨fuel, rfl⟩ : ∃ k, fuel = k + 1 := ⟨fuel - 1, by omega⟩
      exact members_close (hcs.trans hclose) fuel false s
  | @cons s s' s'' e es he _ ih =>
      obtain ⟨fuel, rfl⟩ : ∃ k, fuel = k + 1 := ⟨fuel - 1, by omega⟩
      obtain ⟨hpe, hp⟩ := List.forall_mem_cons.mp hp
      obtain ⟨cs', cs'', rest', hs, hk, hm, hrest'⟩ := he.keyed hpe (delimited_following hd)
      have hcomma : skip cs =
          ',' :: (e.chars ++ ((es.map WrittenMember.chars).flatMap (',' :: ·) ++ close)) := by
        rw [hcs, List.map_cons, List.flatMap_cons, List.append_assoc]
        exact skip_cons (by decide) _
      rw [members_next hcomma hs hk hm, ih hp (Nat.lt_of_succ_lt_succ hf) hrest']

/-- Members with commas between them, up to the closing bracket. -/
theorem members_text {s s' : σ} {es : List WrittenMember} (ht : Takes member s es s')
    (hp : ∀ e ∈ es, Padding e.before) {fuel : Nat} (hf : es.length < fuel) :
    members member fuel true s (commaed (es.map WrittenMember.chars) ++ close) =
      .ok (s', rest) := by
  obtain ⟨fuel, rfl⟩ : ∃ k, fuel = k + 1 := ⟨fuel - 1, by omega⟩
  cases ht with
  | nil s => exact members_close hclose fuel true s
  | @cons s s' s'' e es he ht =>
      obtain ⟨hpe, hp⟩ := List.forall_mem_cons.mp hp
      obtain ⟨cs', cs'', rest', hs, hk, hm, hrest'⟩ := he.keyed hpe (delimited_following hd)
      rw [List.map_cons, commaed, List.append_assoc, members_first hs hk hm,
        members_following hclose hd ht hp (Nat.lt_of_succ_lt_succ hf) hrest']

end Members

theorem WrittenMember.chars_ne_nil (e : WrittenMember) : e.chars ≠ [] := by
  simp [WrittenMember.chars, stringText]

/-- The text of an object, read by any `member`. -/
theorem members_object {σ : Type} {member : σ → String → List Char → Except Fault (σ × List Char)}
    {s s' : σ} {es : List WrittenMember} (ht : Takes member s es s')
    (hp : ∀ e ∈ es, Padding e.before) {blank : List Char} (hb : Padding blank)
    (rest : List Char) :
    members member
      ((commaed (es.map WrittenMember.chars) ++ (blank ++ '\x7d' :: rest)).length + 1) true s
      (commaed (es.map WrittenMember.chars) ++ (blank ++ '\x7d' :: rest)) = .ok (s', rest) := by
  have hclose : skip (blank ++ '\x7d' :: rest) = '\x7d' :: rest :=
    (skip_padding hb _).trans (skip_cons (by decide) rest)
  have hd : Delimited (blank ++ '\x7d' :: rest) :=
    delimited_padding hb (delimited_cons (by decide) rest)
  have hl : es.length ≤ (commaed (es.map WrittenMember.chars)).length := by
    have := @length_le_length_commaed (es.map WrittenMember.chars)
      (List.forall_mem_map.mpr fun e _ => e.chars_ne_nil)
    rwa [List.length_map] at this
  refine members_text hclose hd ht hp ?_
  rw [List.length_append]
  omega

/-- The text of an array. -/
theorem elements_array {read : List Char → Except Fault (Json × List Char)}
    (hskip : ∀ cs, read (skip cs) = read cs) {es : List (Json × List Char)}
    (hr : ∀ e ∈ es, Reads read e.2 e.1) (ho : ∀ e ∈ es, Opens e.2) {blank : List Char}
    (hb : Padding blank) (rest : List Char) :
    elements read ((commaed (es.map Prod.snd) ++ (blank ++ ']' :: rest)).length + 1) true
      (commaed (es.map Prod.snd) ++ (blank ++ ']' :: rest)) = .ok (es.map Prod.fst, rest) := by
  have hclose : skip (blank ++ ']' :: rest) = ']' :: rest :=
    (skip_padding hb _).trans (skip_cons (by decide) rest)
  have hd : Delimited (blank ++ ']' :: rest) :=
    delimited_padding hb (delimited_cons (by decide) rest)
  have hl : es.length ≤ (commaed (es.map Prod.snd)).length := by
    have := @length_le_length_commaed (es.map Prod.snd)
      (List.forall_mem_map.mpr fun e he => (ho e he).ne_nil)
    rwa [List.length_map] at this
  refine elements_text hskip hclose hd hr ho ?_
  rw [List.length_append]
  omega

/-! ### Values -/

variable (nested : Option (List Char → Except Fault (Json × List Char)))

theorem valueWith_skip (cs : List Char) : valueWith nested (skip cs) = valueWith nested cs := by
  simp only [valueWith, skip_skip]

theorem value_skip (depth : Nat) (cs : List Char) : value depth (skip cs) = value depth cs := by
  cases depth <;> exact valueWith_skip _ cs

theorem value_eq (depth : Nat) : ∃ nested, value depth = valueWith nested := by
  cases depth with
  | zero => exact ⟨none, rfl⟩
  | succ depth => exact ⟨some (value depth), rfl⟩

theorem valueWith_string (s : String) (rest : List Char) :
    valueWith nested (stringText s ++ rest) = .ok (.string s, rest) := by
  have h : valueWith nested (stringText s ++ rest) =
      stringRest (s.toList.flatMap escapeChar ++ ['"'] ++ rest) >>= fun p =>
        .ok (.string p.1, p.2) := rfl
  rw [h, List.append_assoc, List.singleton_append, stringRest_text]
  rfl

theorem digits_cons (n : Nat) : ∃ d ds, Decimal.digits n = d :: ds ∧ d.isDigit = true := by
  cases h : Decimal.digits n with
  | nil => exact absurd h (Decimal.digits_ne_nil n)
  | cons d ds => exact ⟨d, ds, rfl, Decimal.isDigit_of_mem_digits (h ▸ List.mem_cons_self)⟩

/-- A digit is none of the characters that begin other values or that are passed over. -/
theorem ne_of_isDigit {c d : Char} (hc : c.isDigit = true) (hd : d.isDigit = false) : c ≠ d := by
  rintro rfl
  exact Bool.false_ne_true (hd.symm.trans hc)

theorem isSeparator_of_isDigit {c : Char} (hc : c.isDigit = true) : isSeparator c = false := by
  simp only [isSeparator, Bool.or_eq_false_iff, beq_eq_false_iff_ne]
  exact ⟨⟨⟨ne_of_isDigit hc rfl, ne_of_isDigit hc rfl⟩, ne_of_isDigit hc rfl⟩, ne_of_isDigit hc rfl⟩

theorem valueWith_digit {c : Char} (hc : c.isDigit = true) (cs : List Char) :
    valueWith nested (c :: cs) =
      numberRest false (c :: cs) >>= fun p => .ok (.number p.1, p.2) := by
  have ne : ∀ {d : Char}, d.isDigit = false → c ≠ d := ne_of_isDigit hc
  unfold valueWith
  rw [skip_cons (isSeparator_of_isDigit hc)]
  simp only [if_neg (ne (d := 'n') rfl), if_neg (ne (d := 't') rfl), if_neg (ne (d := 'f') rfl),
    if_neg (ne (d := '"') rfl), if_neg (ne (d := '-') rfl), if_pos hc]

theorem natAbs_lt_of_isWord {n : Int} (h : (Number.int n).IsWord) : n.natAbs < Nat.pow 2 64 := by
  have hpow : Nat.pow 2 64 = 18446744073709551616 := by decide
  rw [Number.isWord_int_iff] at h
  rw [hpow]
  omega

/-- The sign and the digits of an integer of 64 bits make the integer. -/
theorem integer_natAbs {n : Int} (h : (Number.int n).IsWord) :
    integer (decide (n < 0)) n.natAbs = .int n := by
  rw [Number.isWord_int_iff] at h
  unfold integer
  by_cases hneg : n < 0
  · have hpow : Nat.pow 2 63 = 9223372036854775808 := by decide
    have hrange : ¬(n.natAbs = 0 ∨ Nat.pow 2 63 < n.natAbs) := by
      rw [hpow]
      omega
    have hback : -(n.natAbs : Int) = n := by omega
    rw [if_neg (by simp [hneg]), if_neg hrange, hback]
  · rw [if_pos (by simp [hneg]), Int.natAbs_of_nonneg (Int.not_lt.mp hneg)]

theorem valueWith_int {n : Int} (h : (Number.int n).IsWord) {rest : List Char}
    (hr : Delimited rest) :
    valueWith nested (numberText (.int n) ++ rest) = .ok (.number (.int n), rest) := by
  have hread := numberRest_digits (decide (n < 0)) (natAbs_lt_of_isWord h) hr
  rw [integer_natAbs h] at hread
  by_cases hneg : n < 0
  · have hv : valueWith nested ('-' :: (Decimal.digits n.natAbs ++ rest)) =
        numberRest true (Decimal.digits n.natAbs ++ rest) >>= fun p =>
          .ok (.number p.1, p.2) := rfl
    rw [decide_eq_true hneg] at hread
    rw [numberText, if_pos hneg, List.cons_append, hv, hread]
    rfl
  · obtain ⟨d, ds, hd, hdigit⟩ := digits_cons n.natAbs
    have hv := valueWith_digit nested hdigit (ds ++ rest)
    rw [decide_eq_false hneg] at hread
    rw [← List.cons_append, ← hd, hread] at hv
    rw [numberText, if_neg hneg, hv]
    rfl

/-! ### Spellings -/

theorem Spells.opens {depth : Nat} {v : Json} {cs : List Char} (h : Spells depth v cs) :
    Opens cs := by
  induction h with
  | null => exact ⟨'n', _, rfl, by decide⟩
  | bool depth b =>
      cases b with
      | false => exact ⟨'f', _, rfl, by decide⟩
      | true => exact ⟨'t', _, rfl, by decide⟩
  | @int depth n h =>
      rw [numberText]
      split
      · exact ⟨'-', _, rfl, by decide⟩
      · obtain ⟨d, ds, hd, hdigit⟩ := digits_cons n.natAbs
        rw [hd]
        exact ⟨d, ds, skip_cons (isSeparator_of_isDigit hdigit) ds, ne_of_isDigit hdigit rfl⟩
  | string => exact ⟨'"', _, rfl, by decide⟩
  | array => exact ⟨'[', _, rfl, by decide⟩
  | object => exact ⟨'\x7b', _, rfl, by decide⟩
  | padded _ hb _ ih =>
      obtain ⟨c, rest, hs, hc⟩ := ih.append _
      exact ⟨c, rest, (skip_padding hb _).trans hs, hc⟩

/-- Plain members are taken as they are written. -/
theorem takes_plainMember {read : List Char → Except Fault (Json × List Char)}
    {es : List WrittenMember} (h : ∀ e ∈ es, Reads read e.text e.value)
    (sofar : List (String × Json)) :
    Takes (plainMember read) sofar es ((es.map WrittenMember.member).reverse ++ sofar) := by
  induction es generalizing sofar with
  | nil => exact .nil sofar
  | cons e es ih =>
      obtain ⟨he, hes⟩ := List.forall_mem_cons.mp h
      have hs : ((e :: es).map WrittenMember.member).reverse ++ sofar =
          (es.map WrittenMember.member).reverse ++ e.member :: sofar := by simp
      rw [hs]
      refine .cons (fun rest hr => ?_) (ih hes _)
      obtain ⟨rest', hv, hrest'⟩ := he rest hr
      have hcolon : colon (':' :: (e.text ++ rest)) = .ok (e.text ++ rest) := rfl
      refine ⟨rest', ?_, hrest'⟩
      rw [plainMember, List.cons_append, hcolon]
      simp only [bind, Except.bind, hv]
      rfl

/-- **A value is read back from whatever writes it.** -/
theorem Spells.reads {depth : Nat} {v : Json} {cs : List Char} (h : Spells depth v cs) :
    Reads (value depth) cs v := by
  induction h with
  | null depth =>
      obtain ⟨nested, hv⟩ := value_eq depth
      exact fun rest _ => ⟨rest, by rw [hv]; rfl, rfl⟩
  | bool depth b =>
      obtain ⟨nested, hv⟩ := value_eq depth
      exact fun rest _ => ⟨rest, by rw [hv]; cases b <;> rfl, rfl⟩
  | int depth h =>
      obtain ⟨nested, hv⟩ := value_eq depth
      exact fun rest hr => ⟨rest, by rw [hv, valueWith_int nested h hr], rfl⟩
  | string depth s =>
      obtain ⟨nested, hv⟩ := value_eq depth
      exact fun rest _ => ⟨rest, by rw [hv, valueWith_string nested s], rfl⟩
  | @array depth es blank h hb ih =>
      intro rest _
      have hes := elements_array (value_skip depth) ih (fun e he => (h e he).opens) hb rest
      refine ⟨rest, ?_, rfl⟩
      have hv : ∀ cs, value (depth + 1) ('[' :: cs) =
          elements (value depth) (cs.length + 1) true cs >>= fun p => .ok (.array p.1, p.2) :=
        fun _ => rfl
      simp only [List.cons_append, List.append_assoc, List.nil_append, hv, hes]
      rfl
  | @object depth es blank h hp hb ih =>
      intro rest _
      have hes := members_object (takes_plainMember ih []) hp hb rest
      refine ⟨rest, ?_, rfl⟩
      have hv : ∀ cs, value (depth + 1) ('\x7b' :: cs) =
          members (plainMember (value depth)) (cs.length + 1) true [] cs >>= fun p =>
            .ok (.object p.1.reverse, p.2) := fun _ => rfl
      simp only [List.cons_append, List.append_assoc, List.nil_append, hv, hes, bind, Except.bind,
        List.append_nil, List.reverse_reverse]
  | @padded depth v cs before after h hb ha ih =>
      intro rest hr
      -- a separator ends a number as well, so `after` may stand where `rest` stood
      obtain ⟨rest', hv, hrest'⟩ := ih (after ++ rest) (delimited_padding ha hr)
      refine ⟨rest', ?_, hrest'.trans (skip_padding ha rest)⟩
      rw [List.append_assoc, ← value_skip, skip_padding hb, value_skip, List.append_assoc, hv]

theorem reads_compactText {v : Json} {depth : Nat} (h : Writable depth v) :
    Reads (value depth) v.compactText v :=
  (spells_compactText h.within h.numbers).reads

end Streamkeeper.Json
