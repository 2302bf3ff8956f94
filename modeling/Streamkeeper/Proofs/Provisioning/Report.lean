import Mathlib.Data.List.Basic
import Mathlib.Logic.ExistsUnique
import Streamkeeper.Proofs.Decimal
import Streamkeeper.Provisioning.Resolve

/-!
# Reports — the address that an output names

The tool writes lines, and of the lines that start with a key and a colon the first one counts
(`FirstLine`).  What its rest is worth as a number is said in unbounded arithmetic by `Denotes`: a
text denotes one number by the blanks, the sign and the digits at its front, however many they are.
Reading is in 64 bits, and a step that leaves their range ends at its bound, so a number that fits
is read as it is and any other one is read as a bound (`toInt_leadingInteger`); a bound is no port.

`report_reads` says which outputs report an address, which one that is, and what is missing from
the others.
-/

namespace Streamkeeper

namespace Provisioning

/-! ### The number that a text begins with -/

/-- A character that a number can stand right behind. -/
def isLead (c : Char) : Bool :=
  Text.isBlank c || c == '-' || c == '+'

/-- The number that a text denotes by its front: blanks, at most one sign, and digits, however many
they are. -/
inductive Denotes : List Char → Int → Prop
  | blank {c : Char} {cs : List Char} {n : Int} (h : Text.isBlank c = true)
      (behind : Denotes cs n) : Denotes (c :: cs) n
  | minus {cs ds rest : List Char} (h : Decimal.Run cs ds rest) :
      Denotes ('-' :: cs) (-Decimal.value ds)
  | plus {cs ds rest : List Char} (h : Decimal.Run cs ds rest) :
      Denotes ('+' :: cs) (Decimal.value ds)
  | unsigned {cs ds rest : List Char} (lead : ∀ c ∈ cs.head?, isLead c = false)
      (h : Decimal.Run cs ds rest) : Denotes cs (Decimal.value ds)

theorem exists_denotes (cs : List Char) : ∃ n, Denotes cs n := by
  induction cs with
  | nil => exact ⟨_, .unsigned (fun _ h => nomatch h) (Decimal.run_split [])⟩
  | cons c cs ih =>
      by_cases hlead : isLead c = true
      · simp only [isLead, Bool.or_eq_true, beq_iff_eq] at hlead
        rcases hlead with (hblank | rfl) | rfl
        · obtain ⟨n, hn⟩ := ih
          exact ⟨n, .blank hblank hn⟩
        · exact ⟨_, .minus (Decimal.run_split cs)⟩
        · exact ⟨_, .plus (Decimal.run_split cs)⟩
      · refine ⟨_, .unsigned (fun d hd => ?_) (Decimal.run_split (c :: cs))⟩
        obtain rfl := Option.some.inj hd
        exact Bool.eq_false_iff.mpr hlead

theorem Denotes.unique {cs : List Char} {n m : Int} (h : Denotes cs n) (h' : Denotes cs m) :
    n = m := by
  induction h with
  | blank hblank _ ih =>
      cases h' with
      | blank _ behind => exact ih behind
      | minus => cases hblank
      | plus => cases hblank
      | unsigned lead => simp [isLead, hblank] at lead
  | minus hrun =>
      cases h' with
      | blank hblank => cases hblank
      | minus hrun' => rw [← hrun.takeWhile_eq, hrun'.takeWhile_eq]
      | unsigned lead => cases lead _ rfl
  | plus hrun =>
      cases h' with
      | blank hblank => cases hblank
      | plus hrun' => rw [← hrun.takeWhile_eq, hrun'.takeWhile_eq]
      | unsigned lead => cases lead _ rfl
  | unsigned lead hrun =>
      cases h' with
      | blank hblank => simp [isLead, hblank] at lead
      | minus => cases lead _ rfl
      | plus => cases lead _ rfl
      | unsigned _ hrun' => rw [← hrun.takeWhile_eq, hrun'.takeWhile_eq]

/-- Every text denotes one number. -/
theorem existsUnique_denotes (cs : List Char) : ∃! n, Denotes cs n :=
  let ⟨n, hn⟩ := exists_denotes cs
  ⟨n, hn, fun _ hm => hm.unique hn⟩

/-- The number that a text denotes is read, cut off at the bounds of 64 bits. -/
theorem toInt_leadingInteger {cs : List Char} {n : Int} (h : Denotes cs n) :
    (leadingInteger cs).toInt = max (-Decimal.limit) (min n Decimal.limit) := by
  have hlimit : 0 ≤ Decimal.limit := by decide
  -- The induction is on how the text denotes its number.  Behind a sign there are digits only, so
  -- the hypothesis serves for blanks alone.
  induction h with
  | @blank c cs n hc _ ih =>
      have htrim : Text.trimStart Text.isBlank (c :: cs) = Text.trimStart Text.isBlank cs :=
        List.dropWhile_cons_of_pos hc
      rw [leadingInteger, htrim]
      exact ih
  | @minus cs ds rest h =>
      have hread : leadingInteger ('-' :: cs) = -Decimal.saturated ds := by
        rw [← h.takeWhile_eq]
        rfl
      rw [hread, Decimal.toInt_neg_saturated]
      omega
  | @plus cs ds rest h =>
      have hread : leadingInteger ('+' :: cs) = Decimal.saturated ds := by
        rw [← h.takeWhile_eq]
        rfl
      rw [hread, Decimal.toInt_saturated]
      omega
  | @unsigned cs ds rest lead h =>
      have hread : leadingInteger cs = Decimal.saturated ds := by
        rw [← h.takeWhile_eq]
        cases cs with
        | nil => rfl
        | cons c cs =>
            have hc := lead c rfl
            simp only [isLead, Bool.or_eq_false_iff, beq_eq_false_iff_ne] at hc
            obtain ⟨⟨hblank, hminus⟩, hplus⟩ := hc
            have htrim : Text.trimStart Text.isBlank (c :: cs) = c :: cs :=
              List.dropWhile_cons_of_neg (by simp [hblank])
            rw [leadingInteger, htrim]
            split
            · next heq => exact absurd (List.cons.inj heq).1 hminus
            · next heq => exact absurd (List.cons.inj heq).1 hplus
            · rfl
      rw [hread, Decimal.toInt_saturated]
      omega

/-- A number is a port exactly if it is from 1 up to 65535. -/
theorem port?_eq_some_iff {n : Int64} {port : UInt16} :
    port? n = some port ↔ 1 ≤ n.toInt ∧ n.toInt ≤ 65535 ∧ n.toInt = port.toNat := by
  have hsize : port.toNat < 65536 := port.toNat_lt
  unfold port?
  split
  · next hn =>
      have hlt : n.toInt.toNat < UInt16.size := by
        rw [UInt16.size]
        omega
      have hport : n.toInt.toNat.toUInt16.toNat = n.toInt.toNat := UInt16.toNat_ofNat_of_lt hlt
      rw [Option.some.injEq, ← UInt16.toNat_inj, hport]
      omega
  · next hn =>
      simp only [reduceCtorEq, false_iff]
      exact fun h => hn ⟨h.1, h.2.1⟩

/-- A text is read as a port exactly if the number that it denotes is the port. -/
theorem port?_leadingInteger_iff {cs : List Char} {n : Int} (h : Denotes cs n) {port : UInt16} :
    port? (leadingInteger cs) = some port ↔ 1 ≤ n ∧ n ≤ 65535 ∧ n = port.toNat := by
  have hlimit : Decimal.limit = 9223372036854775807 := rfl
  -- The limit is no port, nor is its negative, so cutting off makes no port of a number.
  rw [port?_eq_some_iff, toInt_leadingInteger h]
  omega

/-! ### Lines -/

/-- What follows a key and a colon on the first line of an output that starts with them. -/
def FirstLine (output key rest : List Char) : Prop :=
  ∃ before after, lines output = before ++ (key ++ ':' :: rest) :: after ∧
    ∀ line ∈ before, ¬ key ++ [':'] <+: line

theorem afterKey?_eq_some_iff {key line rest : List Char} :
    afterKey? key line = some rest ↔ line = key ++ ':' :: rest := by
  rw [afterKey?, List.isPrefixOf?_eq_some_iff_append_eq, List.append_assoc, eq_comm]
  rfl

theorem afterKey?_eq_none_iff {key line : List Char} :
    afterKey? key line = none ↔ ¬ key ++ [':'] <+: line := by
  rw [Option.eq_none_iff_forall_not_mem, List.prefix_iff_exists_append_eq, not_exists]
  refine forall_congr' fun rest => not_congr ?_
  rw [Option.mem_def, afterKey?, List.isPrefixOf?_eq_some_iff_append_eq]

/-- The value of a key is what its first line says, without the spaces around it. -/
theorem value?_eq_some_iff {output key value : List Char} :
    value? output key = some value ↔
      ∃ rest, FirstLine output key rest ∧ value = Text.trim Text.isOutputSpace rest := by
  simp only [value?, Option.map_eq_some_iff, List.findSome?_eq_some_iff, FirstLine,
    afterKey?_eq_some_iff, afterKey?_eq_none_iff]
  constructor
  · rintro ⟨rest, ⟨before, _, after, hlines, rfl, hbefore⟩, rfl⟩
    exact ⟨rest, ⟨before, after, hlines, hbefore⟩, rfl⟩
  · rintro ⟨rest, ⟨before, after, hlines, hbefore⟩, rfl⟩
    exact ⟨rest, ⟨before, _, after, hlines, rfl, hbefore⟩, rfl⟩

theorem value?_eq_none_iff {output key : List Char} :
    value? output key = none ↔ ∀ rest, ¬ FirstLine output key rest := by
  constructor
  · intro h rest hfirst
    rw [value?_eq_some_iff.mpr ⟨rest, hfirst, rfl⟩] at h
    cases h
  · intro h
    rw [Option.eq_none_iff_forall_ne_some]
    intro value hvalue
    obtain ⟨rest, hfirst, -⟩ := value?_eq_some_iff.mp hvalue
    exact h rest hfirst

/-! ### Addresses -/

/-- An output reports an address: its `Host` line gives the host, and the number on its `Port` line
is the port. -/
structure Reports (output : String) (a : Address) : Prop where
  host : ∃ rest, FirstLine output.toList "Host".toList rest ∧
    a.host = String.ofList (Text.trim Text.isOutputSpace rest)
  port : ∃ rest n, FirstLine output.toList "Port".toList rest ∧
    Denotes (Text.trim Text.isOutputSpace rest) n ∧ 1 ≤ n ∧ n ≤ 65535 ∧ n = a.port.toNat

/-- The port that an output reports. -/
def portOf? (output : List Char) : Option UInt16 :=
  ((value? output "Port".toList).map leadingInteger).bind port?

theorem portOf?_eq_some_iff {output : List Char} {port : UInt16} :
    portOf? output = some port ↔ ∃ rest n, FirstLine output "Port".toList rest ∧
      Denotes (Text.trim Text.isOutputSpace rest) n ∧ 1 ≤ n ∧ n ≤ 65535 ∧ n = port.toNat := by
  simp only [portOf?, Option.bind_eq_some_iff, Option.map_eq_some_iff, value?_eq_some_iff]
  constructor
  · rintro ⟨_, ⟨_, ⟨rest, hfirst, rfl⟩, rfl⟩, hport⟩
    obtain ⟨n, hn, -⟩ := existsUnique_denotes (Text.trim Text.isOutputSpace rest)
    exact ⟨rest, n, hfirst, hn, (port?_leadingInteger_iff hn).mp hport⟩
  · rintro ⟨rest, n, hfirst, hn, hport⟩
    exact ⟨_, ⟨_, ⟨rest, hfirst, rfl⟩, rfl⟩, (port?_leadingInteger_iff hn).mpr hport⟩

/-- An output is read field by field, the host first. -/
theorem report_eq (output : String) :
    report output =
      match value? output.toList "Host".toList, portOf? output.toList with
      | none, _ => .error (.outputParse .host output)
      | some _, none => .error (.outputParse .port output)
      | some host, some port => .ok ⟨String.ofList host, port⟩ := by
  have hhost : "Host".toList = ['H', 'o', 's', 't'] := rfl
  have hport : "Port".toList = ['P', 'o', 'r', 't'] := rfl
  rw [report, address?, portOf?, hhost, hport]
  cases value? output.toList ['H', 'o', 's', 't'] with
  | none => rfl
  | some host =>
      simp only
      cases ((value? output.toList ['P', 'o', 'r', 't']).map leadingInteger).bind port? <;> rfl

theorem report_eq_ok_iff {output : String} {a : Address} :
    report output = .ok a ↔ Reports output a := by
  have hiff : report output = .ok a ↔ ∃ host, value? output.toList "Host".toList = some host ∧
      portOf? output.toList = some a.port ∧ a.host = String.ofList host := by
    rw [report_eq]
    rcases value? output.toList "Host".toList with _ | host
    · simp
    · rcases portOf? output.toList with _ | port
      · simp
      · obtain ⟨h, p⟩ := a
        simp [Except.ok.injEq, Address.mk.injEq, and_comm, eq_comm]
  rw [hiff]
  constructor
  · rintro ⟨host, hhost, hport, ha⟩
    obtain ⟨rest, hfirst, rfl⟩ := value?_eq_some_iff.mp hhost
    exact ⟨⟨rest, hfirst, ha⟩, portOf?_eq_some_iff.mp hport⟩
  · rintro ⟨⟨rest, hfirst, ha⟩, hport⟩
    exact ⟨_, value?_eq_some_iff.mpr ⟨rest, hfirst, rfl⟩, portOf?_eq_some_iff.mpr hport, ha⟩

/-- **Reading a report.**  An output is read as an address exactly if it has a `Host` line and a
`Port` line and the number that the first `Port` line denotes is a port; the host is what the first
`Host` line says, and the port is that number.  Any other output is refused as a whole, for the host
if it has no `Host` line and for the port otherwise.  Digits are worth their number however many
they are: a number that is no port is never read as one. -/
theorem report_reads (output : String) :
    (∀ a, report output = .ok a ↔ Reports output a) ∧
      ((∀ rest, ¬ FirstLine output.toList "Host".toList rest) →
        report output = .error (.outputParse .host output)) ∧
      (∀ rest, FirstLine output.toList "Host".toList rest → (∀ a, ¬ Reports output a) →
        report output = .error (.outputParse .port output)) ∧
      ∀ rest n, FirstLine output.toList "Port".toList rest →
        Denotes (Text.trim Text.isOutputSpace rest) n → n < 1 ∨ 65535 < n →
          ∃ field, report output = .error (.outputParse field output) := by
  refine ⟨fun a => report_eq_ok_iff, ?_, ?_, ?_⟩
  · intro h
    rw [report_eq, value?_eq_none_iff.mpr h]
  · intro rest hfirst h
    have hhost : value? output.toList "Host".toList = _ :=
      value?_eq_some_iff.mpr ⟨rest, hfirst, rfl⟩
    rcases hport : portOf? output.toList with _ | port
    · rw [report_eq, hhost, hport]
    · exact absurd ⟨⟨rest, hfirst, rfl⟩, portOf?_eq_some_iff.mp hport⟩
        (h ⟨String.ofList (Text.trim Text.isOutputSpace rest), port⟩)
  · intro rest n hfirst hn hout
    have hport : portOf? output.toList = none := by
      rw [portOf?, value?_eq_some_iff.mpr ⟨rest, hfirst, rfl⟩, Option.map_some, Option.bind_some,
        Option.eq_none_iff_forall_ne_some]
      intro port h
      have hbounds := (port?_leadingInteger_iff hn).mp h
      omega
    rcases hhost : value? output.toList "Host".toList with _ | host
    · exact ⟨.host, by rw [report_eq, hhost]⟩
    · exact ⟨.port, by rw [report_eq, hhost, hport]⟩

/-- The number 2^64 + 22 is not taken for 22. -/
example : report "Host: h\nPort: 18446744073709551638\n" =
    .error (.outputParse .port "Host: h\nPort: 18446744073709551638\n") := by
  decide +kernel

end Provisioning

end Streamkeeper
