/-!
# UTF-8

Bytes are read by an automaton whose state says which bytes may come next. `units` gives what it
finds, in order: a character, or `none` for a maximal part that belongs to no character, which is a
lead byte with the continuation bytes that could have followed it, or one byte that can start
nothing. The strict and the lossy reading differ only in what they make of `none`.
-/

namespace BrokerPool.Text.Utf8

/-- A character that has begun: the continuation bytes still needed, the bits read so far, and the
    range of the next byte. Only the second byte of a character has a range narrower than
    `0x80` to `0xBF`. -/
structure Pending where
  needed : Nat
  bits : Nat
  low : Nat
  high : Nat
deriving DecidableEq, Repr

/-- What a byte does where a character may begin. -/
inductive Lead
  | complete (c : Char)
  | begins (p : Pending)
  | stray
deriving DecidableEq, Repr

/-- The role of a byte where a character may begin. Overlong forms, surrogates and code points
    above `0x10FFFF` are excluded by the ranges of the second byte. -/
def lead (b : UInt8) : Lead :=
  let n := b.toNat
  if n < 0x80 then .complete (Char.ofNat n)
  else if n < 0xC2 then .stray
  else if n < 0xE0 then .begins ⟨1, n - 0xC0, 0x80, 0xBF⟩
  else if n = 0xE0 then .begins ⟨2, 0, 0xA0, 0xBF⟩
  else if n = 0xED then .begins ⟨2, 0x0D, 0x80, 0x9F⟩
  else if n < 0xF0 then .begins ⟨2, n - 0xE0, 0x80, 0xBF⟩
  else if n = 0xF0 then .begins ⟨3, 0, 0x90, 0xBF⟩
  else if n < 0xF4 then .begins ⟨3, n - 0xF0, 0x80, 0xBF⟩
  else if n = 0xF4 then .begins ⟨3, 4, 0x80, 0x8F⟩
  else .stray

/-- Enters a byte where a character may begin: what is found at once, and the character begun. -/
def enter (b : UInt8) : List (Option Char) × Option Pending :=
  match lead b with
  | .complete c => ([some c], none)
  | .begins p => ([], some p)
  | .stray => ([none], none)

/-- The characters and the maximal invalid parts of some bytes, after a character begun. -/
def unitsFrom : Option Pending → List UInt8 → List (Option Char)
  | none, [] => []
  | some _, [] => [none]
  | none, b :: rest =>
    let (found, state) := enter b
    found ++ unitsFrom state rest
  | some p, b :: rest =>
    if p.low ≤ b.toNat ∧ b.toNat ≤ p.high then
      let bits := p.bits * 64 + (b.toNat - 0x80)
      if p.needed ≤ 1 then some (Char.ofNat bits) :: unitsFrom none rest
      else unitsFrom (some ⟨p.needed - 1, bits, 0x80, 0xBF⟩) rest
    else
      let (found, state) := enter b
      none :: (found ++ unitsFrom state rest)

/-- The characters and the maximal invalid parts of some bytes. -/
def units (bytes : List UInt8) : List (Option Char) := unitsFrom none bytes

/-- The text that bytes encode, if every byte belongs to a character. -/
def decode? (bytes : List UInt8) : Option String :=
  ((units bytes).mapM id).map String.ofList

/-- The character that stands for an invalid part. -/
def replacement : Char := '\ufffd'

/-- The text of bytes, with one replacement character for each maximal invalid part. -/
def decodeLossy (bytes : List UInt8) : String :=
  String.ofList ((units bytes).map (·.getD replacement))

/-- The bytes of a character. -/
def encodeChar (c : Char) : List UInt8 :=
  let n := c.toNat
  let continuation (k : Nat) : UInt8 := UInt8.ofNat (0x80 + k % 64)
  if n < 0x80 then [UInt8.ofNat n]
  else if n < 0x800 then [UInt8.ofNat (0xC0 + n / 64), continuation n]
  else if n < 0x10000 then
    [UInt8.ofNat (0xE0 + n / 4096), continuation (n / 64), continuation n]
  else
    [UInt8.ofNat (0xF0 + n / 262144), continuation (n / 4096), continuation (n / 64),
      continuation n]

/-- The bytes of a text. -/
def encode (s : String) : List UInt8 := s.toList.flatMap encodeChar

/-- The number of bytes of a character. -/
def width (c : Char) : Nat := (encodeChar c).length

/-- The number of bytes of some characters. -/
def size (cs : List Char) : Nat := cs.foldl (fun n c => n + width c) 0

end BrokerPool.Text.Utf8
