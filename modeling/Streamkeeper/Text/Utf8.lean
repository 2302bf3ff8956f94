/-!
UTF-8.

`encode` writes characters as octets.  `next` reads one character, or says how many octets belong to
the longest beginning that no character has (`flawed`), or that the octets end inside a character
(`cut`).  Strict reading (`decode?`) stops at the first flaw and says where it lies; lossy reading
(`decodeLossy`) puts one replacement character for each flaw.
-/

namespace Streamkeeper

/-- A sequence of octets, such as the output of a process or the content of a file. -/
abbrev Octets := List UInt8

namespace Text.Utf8

/-- The octets of a text. -/
def encode (cs : List Char) : Octets :=
  cs.flatMap String.utf8EncodeChar

/-- What a sequence of octets begins with. -/
inductive Head where
  /-- A character, then the octets after it. -/
  | char (c : Char) (rest : Octets)
  /-- `size` octets that begin no character, then the octets after them. -/
  | flawed (size : Nat) (rest : Octets)
  /-- The octets end inside a character. -/
  | cut

/-- A continuation octet: `10xxxxxx`. -/
def isTail (b : UInt8) : Bool :=
  0x80 ≤ b && b ≤ 0xBF

/-- The six bits that a continuation octet carries. -/
def tailBits (b : UInt8) : Nat :=
  b.toNat % 64

/-- May `b` follow the first octet `a` of a character of three octets?  The shorter ranges keep out
characters that fit two octets and surrogates. -/
def isSecondOfThree (a b : UInt8) : Bool :=
  if a == 0xE0 then 0xA0 ≤ b && b ≤ 0xBF
  else if a == 0xED then 0x80 ≤ b && b ≤ 0x9F
  else isTail b

/-- May `b` follow the first octet `a` of a character of four octets?  The shorter ranges keep out
characters that fit three octets and numbers above 0x10FFFF. -/
def isSecondOfFour (a b : UInt8) : Bool :=
  if a == 0xF0 then 0x90 ≤ b && b ≤ 0xBF
  else if a == 0xF4 then 0x80 ≤ b && b ≤ 0x8F
  else isTail b

/-- Reads one character after its first octet `a`. -/
def next (a : UInt8) (bs : Octets) : Head :=
  if a < 0x80 then .char (Char.ofNat a.toNat) bs
  else if 0xC2 ≤ a && a ≤ 0xDF then
    match bs with
    | [] => .cut
    | b :: rest =>
      if isTail b then .char (Char.ofNat ((a.toNat - 0xC0) * 64 + tailBits b)) rest
      else .flawed 1 (b :: rest)
  else if 0xE0 ≤ a && a ≤ 0xEF then
    match bs with
    | [] => .cut
    | b :: rest =>
      if isSecondOfThree a b then
        match rest with
        | [] => .cut
        | c :: rest' =>
          if isTail c then
            .char (Char.ofNat ((a.toNat - 0xE0) * 4096 + tailBits b * 64 + tailBits c)) rest'
          else .flawed 2 (c :: rest')
      else .flawed 1 (b :: rest)
  else if 0xF0 ≤ a && a ≤ 0xF4 then
    match bs with
    | [] => .cut
    | b :: rest =>
      if isSecondOfFour a b then
        match rest with
        | [] => .cut
        | c :: rest' =>
          if isTail c then
            match rest' with
            | [] => .cut
            | d :: rest'' =>
              if isTail d then
                .char (Char.ofNat ((a.toNat - 0xF0) * 262144 + tailBits b * 4096 +
                  tailBits c * 64 + tailBits d)) rest''
              else .flawed 3 (d :: rest'')
          else .flawed 2 (c :: rest')
      else .flawed 1 (b :: rest)
  else .flawed 1 bs

/-- Why octets are no text: the flaw lies at `index`, and is `size` octets long unless the octets
end inside a character. -/
structure Flaw where
  index : Nat
  size : Option Nat
deriving Repr, DecidableEq

/-- The sentence that reports a flaw. -/
def Flaw.message (f : Flaw) : String :=
  match f.size with
  | some n => s!"invalid utf-8 sequence of {n} bytes from index {f.index}"
  | none => s!"incomplete utf-8 byte sequence from index {f.index}"

/-- Reads from octet `index` on; every round takes at least one octet, so `fuel` octets suffice. -/
def decodeFrom : (fuel index : Nat) → Octets → Except Flaw (List Char)
  | 0, _, _ => .ok []
  | _, _, [] => .ok []
  | fuel + 1, index, a :: bs =>
    match next a bs with
    | .char c rest => (decodeFrom fuel (index + c.utf8Size) rest).map (c :: ·)
    | .flawed n _ => .error ⟨index, some n⟩
    | .cut => .error ⟨index, none⟩

/-- The text of octets that are UTF-8 from end to end. -/
def decode? (bs : Octets) : Except Flaw (List Char) :=
  decodeFrom bs.length 0 bs

/-- The character that stands for octets which are no text. -/
def replacement : Char := '\uFFFD'

/-- Lossy reading with a bound on the number of rounds. -/
def decodeLossyFrom : (fuel : Nat) → Octets → List Char
  | 0, _ => []
  | _, [] => []
  | fuel + 1, a :: bs =>
    match next a bs with
    | .char c rest => c :: decodeLossyFrom fuel rest
    | .flawed _ rest => replacement :: decodeLossyFrom fuel rest
    | .cut => [replacement]

/-- The text of any octets: every longest beginning that no character has becomes one
replacement character. -/
def decodeLossy (bs : Octets) : List Char :=
  decodeLossyFrom bs.length bs

end Text.Utf8

/-- The octets of a string. -/
def octets (s : String) : Octets :=
  Text.Utf8.encode s.toList

/-- The number of octets of a string. -/
def octetCount (s : String) : Nat :=
  s.toList.foldl (fun n c => n + c.utf8Size) 0

end Streamkeeper
