import BrokerPool.Number.Literal
import BrokerPool.Number.Notation
import BrokerPool.Text.Utf8

/-!
# Identifiers

An identifier has 128 bits, written as thirty-two hexadecimal digits in five groups. When one is
read the groups may be left out, or the whole may stand in braces or behind the name of its kind. A
text that is none of these is refused with the reason that a reader would name first.
-/

namespace BrokerPool.Message

/-- An identifier. -/
structure Uuid where
  bits : BitVec 128
deriving DecidableEq, Repr

namespace Uuid

/-- The lengths of the groups. -/
def groups : List Nat := [8, 4, 4, 4, 12]

/-- The hexadecimal digits of an identifier. -/
def digits (u : Uuid) : List Char :=
  let ds := Nat.toDigits 16 u.bits.toNat
  List.replicate (32 - ds.length) '0' ++ ds

/-- Cuts a list into pieces of given lengths. -/
def cut {α : Type} : List Nat → List α → List (List α)
  | [], _ => []
  | n :: lengths, cs => cs.take n :: cut lengths (cs.drop n)

/-- The groups of digits with hyphens between. -/
def text (u : Uuid) : String :=
  String.ofList ((cut groups u.digits).intersperse ['-']).flatten

/-- The version of an identifier. -/
def version (u : Uuid) : Nat := (u.bits >>> 76).toNat % 16

/-- An identifier from random bits, of which six are overwritten to say so. -/
def ofRandom (bits : BitVec 128) : Uuid :=
  let kept := ~~~((0xF : BitVec 128) <<< 76 ||| (0x3 : BitVec 128) <<< 62)
  ⟨(bits &&& kept) ||| (0x4 : BitVec 128) <<< 76 ||| (0x2 : BitVec 128) <<< 62⟩

/-- Why a text is no identifier. -/
inductive Error
  | character (c : Char) (index : Nat)
  | length (count : Nat)
  | groupCount (count : Nat)
  | groupLength (group expected count : Nat)
deriving DecidableEq, Repr

def Error.message : Error → String
  | .character c index =>
    "invalid character: expected an optional prefix of `urn:uuid:` followed by [0-9a-fA-F-], found `"
      ++ String.singleton c ++ "` at " ++ Number.digitText index
  | .length count =>
    "invalid length: expected length 32 for simple format, found " ++ Number.digitText count
  | .groupCount count => "invalid group count: expected 5, found " ++ Number.digitText count
  | .groupLength group expected count =>
    "invalid group length in group " ++ Number.digitText group ++ ": expected "
      ++ Number.digitText expected ++ ", found " ++ Number.digitText count

/-- The identifier of thirty-two digits. -/
def ofDigits? (cs : List Char) : Option Uuid :=
  if cs.length = 32 then (Number.digits? 16 cs).map fun n => ⟨BitVec.ofNat 128 n⟩ else none

/-- The identifier of five groups of digits. -/
def ofGroups? (cs : List Char) : Option Uuid :=
  if cs.length = 36 ∧ [8, 13, 18, 23].all fun i => cs[i]? = some '-' then
    ofDigits? (cs.take 8 ++ (cs.drop 9).take 4 ++ (cs.drop 14).take 4 ++ (cs.drop 19).take 4
      ++ cs.drop 24)
  else none

/-- The name of the kind of identifier, as it may stand before one. -/
def kindName : List Char := "urn:uuid:".toList

/-- The text inside braces or behind the name of the kind, and where it begins. -/
def unwrap (cs : List Char) : Option (List Char × Nat) :=
  if kindName.isPrefixOf cs then some (cs.drop kindName.length, kindName.length)
  else if cs.head? = some '\x7b' ∧ cs.getLast? = some '\x7d' ∧ 2 ≤ cs.length then
    some ((cs.drop 1).dropLast, 1)
  else none

/-- The first character that is neither a digit nor a hyphen, and its position in bytes. -/
def badCharacter? (index : Nat) : List Char → Option (Char × Nat)
  | [] => none
  | c :: rest =>
    if c = '-' ∨ (Number.digitValue? 16 c).isSome then
      badCharacter? (index + Text.Utf8.width c) rest
    else some (c, index)

/-- The first group that does not have its length. The last group counts all that follows. -/
def badGroup (count : Nat) : Nat → List Nat → List (List Char) → Error
  | group, expected :: lengths, g :: rest =>
    if lengths.isEmpty ∨ g.length ≠ expected then
      .groupLength group expected (if lengths.isEmpty then count - 24 else g.length)
    else badGroup count (group + 1) lengths rest
  | group, _, _ => .groupCount group

/-- Why a text is refused. -/
def diagnose (cs : List Char) : Error :=
  let (inner, offset) := (unwrap cs).getD (cs, 0)
  match badCharacter? 0 inner with
  | some (c, index) => .character c (index + offset + 1)
  | none =>
    let gs := inner.splitOn '-'
    if gs.length = 1 ∧ (unwrap cs).isNone then .length (Text.Utf8.size cs)
    else if gs.length ≠ 5 then .groupCount gs.length
    else badGroup (Text.Utf8.size cs) 0 groups gs

/-- The identifier that a text denotes. -/
def parse (s : String) : Except Error Uuid :=
  let cs := s.toList
  let found := if Text.Utf8.size cs = 32 then ofDigits? cs else
    match unwrap cs with
    | some (inner, _) => ofGroups? inner
    | none => ofGroups? cs
  match found with
  | some u => .ok u
  | none => .error (diagnose cs)

end Uuid

end BrokerPool.Message
