import BrokerPool.Json.Reader
import Mathlib.Data.Int.Notation
import Mathlib.Order.Nat

/-!
# The grammar of JSON

Which texts are JSON, and what they denote, said without reference to any reader. Every rule relates
a text, what stands at its beginning, and the rest of the text behind that. Blanks may stand around
every value and every mark.

A string is a sequence of pieces, each of which is a character or a sixteen bit unit. Whether the
units of a string are characters matters only to those who read it, and the same holds for the size
of a number.

Results:
* `Denotes`: a text begins with a value.
* `JsonText`: a whole text that is JSON, and its value.
* `Denotes.sound`: what a text denotes is nowhere broken.
* `Denotes.shorter`: every value takes something off the text.
-/

namespace BrokerPool.Json

/-- Blanks, as many as one likes. -/
inductive Blanks : List Char → List Char → Prop
  | none (cs : List Char) : Blanks cs cs
  | some {c : Char} {cs rest : List Char} (h : isSpace c = true) (more : Blanks cs rest) :
    Blanks (c :: cs) rest

/-! ## Strings -/

/-- A piece of a string: a character, or one sixteen bit unit. -/
inductive Piece
  | char (c : Char)
  | unit (n : ℕ)

/-- The letters that stand for characters behind a backslash. -/
inductive Letter : Char → Char → Prop
  | quote : Letter '"' '"'
  | backslash : Letter '\\' '\\'
  | slash : Letter '/' '/'
  | backspace : Letter 'b' '\x08'
  | formFeed : Letter 'f' '\x0c'
  | lineFeed : Letter 'n' '\n'
  | carriageReturn : Letter 'r' '\r'
  | tab : Letter 't' '\t'

inductive PieceText : List Char → Piece → List Char → Prop
  | plain {c : Char} {rest : List Char} (quote : c ≠ '"') (backslash : c ≠ '\\')
    (control : ¬ c < ' ') : PieceText (c :: rest) (.char c) rest
  | letter {l c : Char} {rest : List Char} (h : Letter l c) :
    PieceText ('\\' :: l :: rest) (.char c) rest
  | unit {ds rest : List Char} {n : ℕ} (four : ds.length = 4) (h : Number.digits? 16 ds = some n) :
    PieceText ('\\' :: 'u' :: (ds ++ rest)) (.unit n) rest

/-- The pieces of a string behind its opening quote, up to the closing one. -/
inductive BodyText : List Char → List Piece → List Char → Prop
  | close (rest : List Char) : BodyText ('"' :: rest) [] rest
  | piece {cs more rest : List Char} {p : Piece} {ps : List Piece} (head : PieceText cs p more)
    (tail : BodyText more ps rest) : BodyText cs (p :: ps) rest

namespace Piece

/-- The first unit of a pair. -/
def isHigh (n : ℕ) : Bool := 0xD800 ≤ n && n < 0xDC00

/-- The second unit of a pair. -/
def isLow (n : ℕ) : Bool := 0xDC00 ≤ n && n < 0xE000

/-- The character of a pair of units. -/
def pair (high low : ℕ) : Char := Char.ofNat (0x10000 + (high - 0xD800) * 0x400 + (low - 0xDC00))

/-- The characters of a string. There are none if one unit of a pair stands without the other. -/
def chars? : List Piece → Option (List Char)
  | [] => some []
  | .char c :: rest => (chars? rest).map (c :: ·)
  | .unit n :: rest =>
    if isHigh n then
      match rest with
      | .unit m :: rest => if isLow m then (chars? rest).map (pair n m :: ·) else none
      | _ => none
    else if isLow n then none
    else (chars? rest).map (Char.ofNat n :: ·)

/-- The text of a string, if it is one. -/
def text? (ps : List Piece) : Option String := (chars? ps).map String.ofList

end Piece

/-! ## Numbers -/

/-- One or more digits. -/
def Digits (cs ds rest : List Char) : Prop :=
  cs = ds ++ rest ∧ ds ≠ [] ∧ ∀ c ∈ ds, Number.isDigit c = true

/-- Only a minus is written. -/
inductive Sign : List Char → Bool → List Char → Prop
  | none (cs : List Char) : Sign cs false cs
  | minus (rest : List Char) : Sign ('-' :: rest) true rest

/-- The digits before the point. Only the number zero starts with a zero. -/
inductive Whole : List Char → List Char → List Char → Prop
  | zero (rest : List Char) : Whole ('0' :: rest) ['0'] rest
  | digits {cs ds rest : List Char} (h : Digits cs ds rest) (first : ds.head? ≠ some '0') :
    Whole cs ds rest

inductive Fraction : List Char → Option (List Char) → List Char → Prop
  | none (cs : List Char) : Fraction cs none cs
  | some {cs ds rest : List Char} (h : Digits cs ds rest) : Fraction ('.' :: cs) (some ds) rest

inductive Exponent : List Char → Option ℤ → List Char → Prop
  | none (cs : List Char) : Exponent cs none cs
  | bare {e : Char} {cs ds rest : List Char} (mark : e = 'e' ∨ e = 'E') (h : Digits cs ds rest) :
    Exponent (e :: cs) (some (Number.decimalValue ds)) rest
  | plus {e : Char} {cs ds rest : List Char} (mark : e = 'e' ∨ e = 'E') (h : Digits cs ds rest) :
    Exponent (e :: '+' :: cs) (some (Number.decimalValue ds)) rest
  | minus {e : Char} {cs ds rest : List Char} (mark : e = 'e' ∨ e = 'E') (h : Digits cs ds rest) :
    Exponent (e :: '-' :: cs) (some (-(Number.decimalValue ds : ℤ))) rest

inductive NumberText : List Char → Option Numeral → List Char → Prop
  | parts {cs unsigned tail power rest whole : List Char} {negative : Bool}
    {fraction : Option (List Char)} {exponent : Option ℤ} (sign : Sign cs negative unsigned)
    (digits : Whole unsigned whole tail) (point : Fraction tail fraction power)
    (mark : Exponent power exponent rest) :
    NumberText cs (numeral? negative whole fraction exponent) rest

/-! ## Values -/

mutual

inductive Denotes : List Char → Tree → List Char → Prop
  | null (rest : List Char) : Denotes ('n' :: 'u' :: 'l' :: 'l' :: rest) .null rest
  | yes (rest : List Char) : Denotes ('t' :: 'r' :: 'u' :: 'e' :: rest) (.bool true) rest
  | no (rest : List Char) : Denotes ('f' :: 'a' :: 'l' :: 's' :: 'e' :: rest) (.bool false) rest
  | number {cs rest : List Char} {n : Option Numeral} (h : NumberText cs n rest) :
    Denotes cs (.number n) rest
  | string {cs rest : List Char} {ps : List Piece} (h : BodyText cs ps rest) :
    Denotes ('"' :: cs) (.string (Piece.text? ps)) rest
  | emptyArray {cs rest : List Char} (h : Blanks cs (']' :: rest)) :
    Denotes ('[' :: cs) (.array .done) rest
  | array {cs rest : List Char} {items : Items} (h : ItemsText cs items rest) :
    Denotes ('[' :: cs) (.array items) rest
  | emptyObject {cs rest : List Char} (h : Blanks cs ('\x7d' :: rest)) :
    Denotes ('\x7b' :: cs) (.object .done) rest
  | object {cs rest : List Char} {members : Members} (h : MembersText cs members rest) :
    Denotes ('\x7b' :: cs) (.object members) rest

/-- One or more items, up to the end of their array. -/
inductive ItemsText : List Char → Items → List Char → Prop
  | item {cs cs' more rest : List Char} {t : Tree} {items : Items} (before : Blanks cs cs')
    (value : Denotes cs' t more) (tail : ItemsRest more items rest) :
    ItemsText cs (.cons t items) rest

/-- What may stand behind an item. -/
inductive ItemsRest : List Char → Items → List Char → Prop
  | close {cs rest : List Char} (h : Blanks cs (']' :: rest)) : ItemsRest cs .done rest
  | comma {cs more rest : List Char} {items : Items} (h : Blanks cs (',' :: more))
    (tail : ItemsText more items rest) : ItemsRest cs items rest

/-- One or more members, up to the end of their object. -/
inductive MembersText : List Char → Members → List Char → Prop
  | member {cs body behind value value' more rest : List Char} {ps : List Piece} {t : Tree}
    {members : Members} (before : Blanks cs ('"' :: body)) (key : BodyText body ps behind)
    (colon : Blanks behind (':' :: value)) (after : Blanks value value')
    (denotes : Denotes value' t more) (tail : MembersRest more members rest) :
    MembersText cs (.cons (Piece.text? ps) t members) rest

/-- What may stand behind a member. -/
inductive MembersRest : List Char → Members → List Char → Prop
  | close {cs rest : List Char} (h : Blanks cs ('\x7d' :: rest)) : MembersRest cs .done rest
  | comma {cs more rest : List Char} {members : Members} (h : Blanks cs (',' :: more))
    (tail : MembersText more members rest) : MembersRest cs members rest

end

/-- A text that is one value with blanks around it. -/
inductive JsonText (s : String) (t : Tree) : Prop
  | whole {cs rest : List Char} (before : Blanks s.toList cs) (value : Denotes cs t rest)
    (after : Blanks rest [])

/-! ## What is denoted is not broken -/

mutual

theorem Denotes.sound {cs rest : List Char} {t : Tree} : Denotes cs t rest → t.skipFlaw? = none
  | .null _ | .yes _ | .no _ | .number _ | .string _ | .emptyArray _ | .emptyObject _ => rfl
  | .array h => ItemsText.sound h
  | .object h => MembersText.sound h

theorem ItemsText.sound {cs rest : List Char} {items : Items} :
    ItemsText cs items rest → items.skipFlaw? = none
  | .item _ value tail => by
    rw [Items.skipFlaw?, Denotes.sound value, ItemsRest.sound tail]
    rfl

theorem ItemsRest.sound {cs rest : List Char} {items : Items} :
    ItemsRest cs items rest → items.skipFlaw? = none
  | .close _ => rfl
  | .comma _ tail => ItemsText.sound tail

theorem MembersText.sound {cs rest : List Char} {members : Members} :
    MembersText cs members rest → members.skipFlaw? = none
  | .member _ _ _ _ value tail => by
    rw [Members.skipFlaw?, Denotes.sound value, MembersRest.sound tail]
    rfl

theorem MembersRest.sound {cs rest : List Char} {members : Members} :
    MembersRest cs members rest → members.skipFlaw? = none
  | .close _ => rfl
  | .comma _ tail => MembersText.sound tail

end

/-! ## Lengths -/

theorem Blanks.length_le {cs rest : List Char} (h : Blanks cs rest) :
    rest.length ≤ cs.length := by
  induction h with
  | none => exact le_rfl
  | some _ _ ih => exact ih.trans (Nat.le_succ _)

theorem PieceText.shorter {cs rest : List Char} {p : Piece} (h : PieceText cs p rest) :
    rest.length < cs.length := by
  cases h with
  | plain => exact Nat.lt_succ_self _
  | letter => simp only [List.length_cons]; omega
  | unit => simp only [List.length_cons, List.length_append]; omega

theorem BodyText.shorter {cs rest : List Char} {ps : List Piece} (h : BodyText cs ps rest) :
    rest.length < cs.length := by
  induction h with
  | close => exact Nat.lt_succ_self _
  | piece head _ ih => exact ih.trans head.shorter

theorem Digits.shorter {cs ds rest : List Char} (h : Digits cs ds rest) :
    rest.length < cs.length := by
  obtain ⟨rfl, some_, -⟩ := h
  simpa using List.length_pos_iff.mpr some_

theorem Sign.length_le {cs rest : List Char} {negative : Bool} (h : Sign cs negative rest) :
    rest.length ≤ cs.length := by
  cases h <;> simp

theorem Whole.shorter {cs ds rest : List Char} (h : Whole cs ds rest) :
    rest.length < cs.length := by
  cases h with
  | zero => exact Nat.lt_succ_self _
  | digits h => exact h.shorter

theorem Fraction.length_le {cs rest : List Char} {f : Option (List Char)}
    (h : Fraction cs f rest) : rest.length ≤ cs.length := by
  cases h with
  | none => exact le_rfl
  | some h => exact h.shorter.le.trans (Nat.le_succ _)

theorem Exponent.length_le {cs rest : List Char} {e : Option ℤ} (h : Exponent cs e rest) :
    rest.length ≤ cs.length := by
  cases h with
  | none => exact le_rfl
  | bare _ h | plus _ h | minus _ h =>
    have := h.shorter
    simp only [List.length_cons]
    omega

theorem NumberText.shorter {cs rest : List Char} {n : Option Numeral}
    (h : NumberText cs n rest) : rest.length < cs.length := by
  obtain ⟨sign, digits, point, mark⟩ := h
  exact (mark.length_le.trans point.length_le).trans_lt (digits.shorter.trans_le sign.length_le)

mutual

theorem Denotes.shorter {cs rest : List Char} {t : Tree} :
    Denotes cs t rest → rest.length < cs.length
  | .null _ | .yes _ | .no _ => by
    simp only [List.length_cons]
    omega
  | .number h => h.shorter
  | .string h => h.shorter.trans (Nat.lt_succ_self _)
  | .emptyArray h | .emptyObject h => (Nat.lt_of_succ_le h.length_le).trans (Nat.lt_succ_self _)
  | .array h => (ItemsText.shorter h).trans (Nat.lt_succ_self _)
  | .object h => (MembersText.shorter h).trans (Nat.lt_succ_self _)

theorem ItemsText.shorter {cs rest : List Char} {items : Items} :
    ItemsText cs items rest → rest.length < cs.length
  | .item before value tail =>
    (ItemsRest.shorter tail).trans (value.shorter.trans_le before.length_le)

theorem ItemsRest.shorter {cs rest : List Char} {items : Items} :
    ItemsRest cs items rest → rest.length < cs.length
  | .close h => Nat.lt_of_succ_le h.length_le
  | .comma h tail => (ItemsText.shorter tail).trans (Nat.lt_of_succ_le h.length_le)

theorem MembersText.shorter {cs rest : List Char} {members : Members} :
    MembersText cs members rest → rest.length < cs.length
  | .member before key colon after value tail => by
    have := MembersRest.shorter tail
    have := Denotes.shorter value
    have := after.length_le
    have := colon.length_le
    have := key.shorter
    have := before.length_le
    simp only [List.length_cons] at *
    omega

theorem MembersRest.shorter {cs rest : List Char} {members : Members} :
    MembersRest cs members rest → rest.length < cs.length
  | .close h => Nat.lt_of_succ_le h.length_le
  | .comma h tail => (MembersText.shorter tail).trans (Nat.lt_of_succ_le h.length_le)

end

end BrokerPool.Json
