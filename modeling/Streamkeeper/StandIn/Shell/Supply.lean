import Streamkeeper.StandIn.Shell.Characters

/-!
Octets to be read, of which there may be no end.

An endless supply repeats a period, so that beginnings of it can be taken and every octet of it can be
changed.
-/

namespace Streamkeeper.StandIn.Shell

/-- Octets to be read: some at first, then others over and over. -/
structure Supply where
  octets : Octets
  endless : Octets
deriving Repr, DecidableEq, Inhabited

namespace Supply

/-- Nothing to read. -/
def empty : Supply := ⟨[], []⟩

/-- These octets and no more. -/
def ofOctets (bs : Octets) : Supply := ⟨bs, []⟩

/-- The octets of a text of a script. -/
def ofChars (cs : List Char) : Supply := ⟨toOctets cs, []⟩

/-- The octets of a message. -/
def ofString (s : String) : Supply := ⟨Streamkeeper.octets s, []⟩

/-- Is there nothing to read? -/
def isEmpty (s : Supply) : Bool :=
  s.octets.isEmpty && s.endless.isEmpty

/-- Does it go on for ever? -/
def isEndless (s : Supply) : Bool :=
  !s.endless.isEmpty

/-- Puts octets behind those that are there; nothing comes after endless ones. -/
def append (a b : Supply) : Supply :=
  if a.isEndless then a else ⟨a.octets ++ b.octets, b.endless⟩

/-- Puts supplies behind each other. -/
def join (ss : List Supply) : Supply :=
  let front := ss.takeWhile fun s => !s.isEndless
  let last := (ss[front.length]?).getD .empty
  ⟨(front.map octets).flatten ++ last.octets, last.endless⟩

/-- A number of octets out of a period that repeats. -/
def cycle (period : Octets) (n : Nat) : Octets :=
  ((List.replicate (n / period.length + 1) period).flatten).take n

/-- The first octets. -/
def take (s : Supply) (n : Nat) : Octets :=
  if !s.isEndless || n ≤ s.octets.length then s.octets.take n
  else s.octets ++ cycle s.endless (n - s.octets.length)

/-- What comes after the first octets. -/
def drop (s : Supply) (n : Nat) : Supply :=
  if !s.isEndless || n ≤ s.octets.length then ⟨s.octets.drop n, s.endless⟩
  else
    let k := (n - s.octets.length) % s.endless.length
    ⟨if k = 0 then [] else s.endless.drop k, s.endless⟩

/-- Changes every octet, and may drop it. -/
def filterMap (f : UInt8 → Option UInt8) (s : Supply) : Supply :=
  ⟨s.octets.filterMap f, s.endless.filterMap f⟩

end Supply

end Streamkeeper.StandIn.Shell
