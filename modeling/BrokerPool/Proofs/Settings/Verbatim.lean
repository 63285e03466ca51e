import BrokerPool.Settings.Sources
import Mathlib.Data.Char
import Mathlib.Tactic.SplitIfs

/-!
# Variables as texts

A variable whose text is a truth value or a number in any spelling becomes that truth value or
number. Where a text is wanted it is written again, and not always as it was: leading zeros, a plus
sign, an exponent and capital letters are lost.

Results:
* `signed?_integerText`: the text of an integer is read as the integer.
* `text_ofVariable`: what a variable is where a text is wanted.
* `written_ofVariable_iff`: which variables keep their texts (`Verbatim`).
-/

namespace BrokerPool

/-! ## Texts of integers -/

namespace Number

theorem digitValue?_of_isDigit {c : Char} (h : c.isDigit) :
    digitValue? 10 c = some (c.toNat - '0'.toNat) := by
  have hc : '0' ≤ c ∧ c ≤ '9' := by simpa [Char.isDigit, Char.le_def] using h
  have hn : c.toNat ≤ 57 := hc.2
  simp only [digitValue?, if_pos hc]
  rw [Option.filter_some, if_pos]
  simp only [decide_eq_true_eq]
  change c.toNat - 48 < 10
  omega

/-- Decimal digits denote a number, whatever was read before. -/
theorem digitsFrom?_of_isDigit {cs : List Char} (h : ∀ c ∈ cs, c.isDigit) (acc : ℕ) :
    digitsFrom? 10 acc cs = some (Nat.ofDigitChars 10 cs acc) := by
  induction cs generalizing acc with
  | nil => rfl
  | cons c cs ih =>
    rw [List.forall_mem_cons] at h
    rw [digitsFrom?, digitValue?_of_isDigit h.1, Option.bind_some, ih h.2,
      Nat.ofDigitChars_cons, Nat.mul_comm]

theorem isDigit_of_mem_digitText {n : ℕ} {c : Char} (h : c ∈ (digitText n).toList) : c.isDigit := by
  rw [digitText, String.toList_ofList] at h
  exact Nat.isDigit_of_mem_toDigits (by decide) (by decide) h

theorem digits?_digitText (n : ℕ) : digits? 10 (digitText n).toList = some n := by
  have hd : ∀ c ∈ Nat.toDigits 10 n, c.isDigit := fun c =>
    Nat.isDigit_of_mem_toDigits (by decide) (by decide)
  rw [digitText, String.toList_ofList, digits?, digitsFrom?_of_isDigit hd,
    Nat.ofDigitChars_ten_toDigits]
  exact Nat.toDigits_ne_nil

/-- Digits alone have no sign. -/
theorem splitSign_digitText (n : ℕ) :
    splitSign (digitText n).toList = (false, (digitText n).toList) := by
  have hd : ∀ c ∈ (digitText n).toList, c.isDigit := fun c => isDigit_of_mem_digitText
  unfold splitSign
  split
  · rename_i rest h
    simpa using hd '-' (by simp [h])
  · rename_i rest h
    simpa using hd '+' (by simp [h])
  · rfl

theorem integerText_toList (i : ℤ) : (integerText i).toList =
    if i < 0 then '-' :: (digitText i.natAbs).toList else (digitText i.natAbs).toList := by
  unfold integerText
  split_ifs <;> simp

/-- The text of an integer is read as the integer. -/
theorem signed?_integerText {i : ℤ} (h : inInt64 i) :
    signed? 10 (integerText i).toList = some i := by
  rw [integerText_toList]
  split_ifs with hi
  · have he : -(i.natAbs : ℤ) = i := by omega
    simp only [signed?, splitSign, digits?_digitText, Option.bind_some, ite_true, he, h]
  · have he : (i.natAbs : ℤ) = i := by omega
    simp only [signed?, splitSign_digitText, digits?_digitText, Option.bind_some,
      Bool.false_eq_true, ite_false, he, h, ite_true]

theorem inInt64_of_signed? {base : ℕ} {cs : List Char} {i : ℤ} (h : signed? base cs = some i) :
    inInt64 i := by
  obtain ⟨n, -, hn⟩ := Option.bind_eq_some_iff.mp h
  simp only [Option.ite_none_right_eq_some, Option.some.injEq] at hn
  obtain ⟨range, he⟩ := hn
  rwa [he] at range

end Number

/-! ## Texts in lower case -/

namespace Text

/-- A character of ASCII that is no capital letter. -/
def IsPlain (c : Char) : Prop := c.toNat < 128 ∧ ¬('A' ≤ c ∧ c ≤ 'Z')

instance (c : Char) : Decidable (IsPlain c) := inferInstanceAs (Decidable (_ ∧ _))

theorem isPlain_of_isDigit {c : Char} (h : c.isDigit) : IsPlain c := by
  have hc : '0' ≤ c ∧ c ≤ '9' := by simpa [Char.isDigit, Char.le_def] using h
  have hn : c.toNat ≤ 57 := hc.2
  refine ⟨by omega, fun hu => ?_⟩
  have : 65 ≤ c.toNat := hu.1
  omega

theorem lowerFrom_of_isPlain {cs : List Char} (h : ∀ c ∈ cs, IsPlain c) (before : List Char) :
    lowerFrom before cs = cs := by
  induction cs generalizing before with
  | nil => rfl
  | cons c cs ih =>
    obtain ⟨⟨ascii, small⟩, rest⟩ := List.forall_mem_cons.mp h
    have sigma : c ≠ 'Σ' := by rintro rfl; simp at ascii
    have dotted : c ≠ 'İ' := by rintro rfl; simp at ascii
    rw [lowerFrom, if_neg sigma, if_neg dotted, lowerChar, if_pos ascii, if_neg small, ih rest]
    rfl

theorem lower_of_isPlain {s : String} (h : ∀ c ∈ s.toList, IsPlain c) : lower s = s := by
  rw [lower, lowerFrom_of_isPlain h, String.ofList_toList]

end Text

namespace Settings

/-! ## Values as texts -/

/-- How a value is written where a text is wanted. -/
def Leaf.written : Leaf → String
  | .absent => ""
  | .bool b => Text.ofBool b
  | .integer i => Number.integerText i
  | .float x => Number.Notation.plain.render .double x
  | .text s => s

theorem Leaf.ofVariable_ne_absent (v : String) : Leaf.ofVariable v ≠ .absent := by
  simp only [ofVariable]
  split_ifs
  · simp
  · simp
  · split
    · simp
    · split <;> simp

/-- What a variable is where a text is wanted. -/
theorem text_ofVariable (v : String) (origin : Option String) :
    text (.leaf (.ofVariable v) origin) = .ok (Leaf.ofVariable v).written := by
  cases h : Leaf.ofVariable v with
  | absent => exact absurd h (Leaf.ofVariable_ne_absent v)
  | _ => rfl

/-- The text is kept as it is: it is the usual text of a truth value or of an integer, or the plain
    text of another number, or it is no truth value and no number at all. -/
inductive Verbatim : String → Prop
  | bool (b : Bool) : Verbatim (Text.ofBool b)
  | integer (i : ℤ) (range : Number.inInt64 i) : Verbatim (Number.integerText i)
  | float {v : String} {x : Number.Binary} (no_bool : Text.lower v ∉ ["true", "false"])
    (no_integer : Number.signed? 10 v.toList = none)
    (float : Number.binary? .double v.toList = some x)
    (written : Number.Notation.plain.render .double x = v) : Verbatim v
  | text {v : String} (no_bool : Text.lower v ∉ ["true", "false"])
    (no_integer : Number.signed? 10 v.toList = none)
    (no_float : Number.binary? .double v.toList = none) : Verbatim v

theorem lower_ofBool (b : Bool) : Text.lower (Text.ofBool b) = Text.ofBool b := by
  cases b <;> decide +kernel

theorem ofVariable_of_bool {v : String} {b : Bool} (h : Text.lower v = Text.ofBool b) :
    Leaf.ofVariable v = .bool b := by
  cases b <;> simp [Leaf.ofVariable, h, Text.ofBool]

theorem ofVariable_of_integer {v : String} {i : ℤ} (no_bool : Text.lower v ∉ ["true", "false"])
    (h : Number.signed? 10 v.toList = some i) : Leaf.ofVariable v = .integer i := by
  simp only [List.mem_cons, List.not_mem_nil, or_false, not_or] at no_bool
  simp [Leaf.ofVariable, no_bool, h]

theorem ofVariable_of_float {v : String} {x : Number.Binary}
    (no_bool : Text.lower v ∉ ["true", "false"]) (no_integer : Number.signed? 10 v.toList = none)
    (h : Number.binary? .double v.toList = some x) : Leaf.ofVariable v = .float x := by
  simp only [List.mem_cons, List.not_mem_nil, or_false, not_or] at no_bool
  simp [Leaf.ofVariable, no_bool, no_integer, h]

theorem ofVariable_of_text {v : String} (no_bool : Text.lower v ∉ ["true", "false"])
    (no_integer : Number.signed? 10 v.toList = none)
    (no_float : Number.binary? .double v.toList = none) : Leaf.ofVariable v = .text v := by
  simp only [List.mem_cons, List.not_mem_nil, or_false, not_or] at no_bool
  simp [Leaf.ofVariable, no_bool, no_integer, no_float]

/-- The text of an integer is no truth value. -/
theorem lower_integerText (i : ℤ) : Text.lower (Number.integerText i) ∉ ["true", "false"] := by
  have plain : ∀ c ∈ (Number.integerText i).toList, c = '-' ∨ c.isDigit := by
    rw [Number.integerText_toList]
    intro c hc
    split_ifs at hc
    · rcases List.mem_cons.mp hc with hc | hc
      · exact .inl hc
      · exact .inr (Number.isDigit_of_mem_digitText hc)
    · exact .inr (Number.isDigit_of_mem_digitText hc)
  have lower : Text.lower (Number.integerText i) = Number.integerText i := by
    refine Text.lower_of_isPlain fun c hc => ?_
    rcases plain c hc with rfl | hd
    · exact ⟨by decide, by decide⟩
    · exact Text.isPlain_of_isDigit hd
  rw [lower]
  simp only [List.mem_cons, List.not_mem_nil, or_false, not_or]
  constructor <;> intro he <;> rw [he] at plain
  · simpa using plain 'e' (by decide)
  · simpa using plain 'e' (by decide)

/-- Exactly these variables keep their texts where a text is wanted. -/
theorem written_ofVariable_iff (v : String) : (Leaf.ofVariable v).written = v ↔ Verbatim v := by
  constructor
  · intro h
    by_cases hb : Text.lower v ∈ ["true", "false"]
    · obtain ⟨b, hb⟩ : ∃ b, Text.lower v = Text.ofBool b := by
        simp only [List.mem_cons, List.not_mem_nil, or_false] at hb
        rcases hb with hb | hb
        · exact ⟨true, hb⟩
        · exact ⟨false, hb⟩
      rw [ofVariable_of_bool hb] at h
      exact h ▸ .bool b
    cases hi : Number.signed? 10 v.toList with
    | some i =>
      rw [ofVariable_of_integer hb hi] at h
      exact h ▸ .integer i (Number.inInt64_of_signed? hi)
    | none =>
      cases hf : Number.binary? .double v.toList with
      | some x =>
        rw [ofVariable_of_float hb hi hf] at h
        exact .float hb hi hf h
      | none => exact .text hb hi hf
  · intro h
    cases h with
    | bool b => rw [ofVariable_of_bool (lower_ofBool b)]; rfl
    | integer i range =>
      rw [ofVariable_of_integer (lower_integerText i) (Number.signed?_integerText range)]
      rfl
    | float no_bool no_integer float written =>
      rw [ofVariable_of_float no_bool no_integer float]
      exact written
    | text no_bool no_integer no_float =>
      rw [ofVariable_of_text no_bool no_integer no_float]
      rfl

end Settings

end BrokerPool
