import Mathlib.Data.List.TakeWhile
import Streamkeeper.Decimal.Digits

/-!
# Decimal digits — runs of digits, and their numbers in 64 bits

A text is split into the run of digits at its front and a rest that no digit starts (`Run`), and
that is the only way to split it so (`split_eq_iff`).  The number of a run has no bound; read in 64
bits, it is cut off at the largest number, also if the run goes on (`toInt_saturated`).
-/

namespace Streamkeeper.Decimal

theorem toNat_of_isDigit {c : Char} (h : c.isDigit = true) : 48 ≤ c.toNat ∧ c.toNat ≤ 57 := by
  simp only [Char.isDigit, Bool.and_eq_true, decide_eq_true_eq] at h
  exact ⟨UInt32.le_iff_toNat_le.mp h.1, UInt32.le_iff_toNat_le.mp h.2⟩

/-! ### Runs -/

/-- `cs` is the digits `ds` and a rest that no digit starts. -/
structure Run (cs ds rest : List Char) : Prop where
  text : cs = ds ++ rest
  digits : ∀ c ∈ ds, c.isDigit = true
  stop : ∀ c ∈ rest.head?, c.isDigit = false

/-- A text is split at the end of its run of digits. -/
theorem split_eq_iff {cs ds rest : List Char} : split cs = (ds, rest) ↔ Run cs ds rest := by
  rw [split, Prod.mk.injEq]
  constructor
  · rintro ⟨rfl, rfl⟩
    refine ⟨List.takeWhile_append_dropWhile.symm, fun c hc => List.mem_takeWhile_imp hc, ?_⟩
    intro c hc
    have h := List.head?_dropWhile_not Char.isDigit cs
    rw [Option.mem_def.mp hc] at h
    exact h
  · rintro ⟨rfl, hds, hrest⟩
    rw [List.takeWhile_append_of_pos hds, List.dropWhile_append_of_pos hds]
    cases rest with
    | nil => simp
    | cons c rest => simp [hrest c rfl]

theorem run_split (cs : List Char) : Run cs (split cs).1 (split cs).2 :=
  split_eq_iff.mp rfl

theorem Run.takeWhile_eq {cs ds rest : List Char} (h : Run cs ds rest) :
    cs.takeWhile Char.isDigit = ds :=
  congrArg Prod.fst (split_eq_iff.mpr h)

/-! ### Digits in 64 bits -/

/-- The largest number of 64 bits, 2^63 - 1. -/
def limit : Int := 9223372036854775807

theorem toInt_ofIntClamp_of_nonneg {n : Int} (h : 0 ≤ n) :
    (Int64.ofIntClamp n).toInt = min n limit := by
  have hmax : Int64.maxValue.toInt = limit := Int64.toInt_maxValue
  have hmin : Int64.minValue.toInt ≤ n := by
    rw [Int64.toInt_minValue]
    omega
  by_cases hn : n ≤ limit
  · rw [Int64.toInt_ofIntClamp hmin (hmax ▸ hn), Int.min_eq_left hn]
  · have hbound : Int64.ofIntClamp n = Int64.maxValue := by
      rw [Int64.ofIntClamp, dif_pos hmin, dif_neg (hmax ▸ hn)]
    rw [hbound, hmax, Int.min_eq_right (by omega)]

/-- A digit is put behind the number that was cut off as behind the number itself. -/
theorem toInt_push {acc : Int64} {n : Nat} (h : acc.toInt = min (n : Int) limit) (digit : Char) :
    (push acc digit).toInt = min ((10 * n + (digit.toNat - '0'.toNat) : Nat) : Int) limit := by
  have hlimit : 0 ≤ limit := by decide
  -- Each of the two operations is cut off on its own.  Nothing here is negative, so a number that
  -- was cut off once stays at the limit.
  have htens : (Int64.ofIntClamp (acc.toInt * 10)).toInt = min (acc.toInt * 10) limit :=
    toInt_ofIntClamp_of_nonneg (by omega)
  generalize hd : digit.toNat - '0'.toNat = d
  have hsum : (push acc digit).toInt = min (min (acc.toInt * 10) limit + d) limit := by
    rw [push, htens, hd]
    exact toInt_ofIntClamp_of_nonneg (by omega)
  rw [hsum, h]
  omega

theorem toInt_foldl_push {acc : Int64} {n : Nat} (h : acc.toInt = min (n : Int) limit)
    (cs : List Char) :
    (cs.foldl push acc).toInt = min (Nat.ofDigitChars 10 cs n : Int) limit := by
  induction cs generalizing acc n with
  | nil => exact h
  | cons c cs ih =>
      rw [List.foldl_cons, Nat.ofDigitChars_cons]
      exact ih (toInt_push h c)

/-- A run of digits is read as its number, or as the largest one. -/
theorem toInt_saturated (cs : List Char) : (saturated cs).toInt = min (value cs : Int) limit :=
  toInt_foldl_push (n := 0) (by decide) cs

theorem toInt_neg_saturated (cs : List Char) :
    (-saturated cs).toInt = -min (value cs : Int) limit := by
  have hlimit : limit = 9223372036854775807 := rfl
  rw [Int64.toInt_neg, toInt_saturated]
  exact Int.bmod_eq_of_le (by omega) (by omega)

end Streamkeeper.Decimal
