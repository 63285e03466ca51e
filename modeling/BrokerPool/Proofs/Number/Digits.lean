import BrokerPool.Calendar
import BrokerPool.Number.Literal
import Mathlib.Algebra.Group.Nat.Defs

/-!
# Numbers of a fixed number of digits

Digits are put in front of a number until it has as many as it shall have, and the number stays what
it is.

Results:
* `digitsFrom?_filled`: digits that were filled up with zeros denote the number.
* `length_filled`: how many digits there are.
* `decimalValue_lt`: a number has no more digits than it is written with.
-/

namespace BrokerPool.Number

/-! ## Single digits -/

theorem digitValue?_digitChar {base d : ℕ} (hb : base ≤ 16) (hd : d < base) :
    digitValue? base (Nat.digitChar d) = some d := by
  have all : ∀ d < 16, ∀ base < 17, d < base → digitValue? base (Nat.digitChar d) = some d := by
    decide
  exact all d (by omega) base (by omega) hd

theorem digitValue?_ten {c : Char} (h : isDigit c = true) :
    ∃ d < 10, digitValue? 10 c = some d := by
  have bounds : '0' ≤ c ∧ c ≤ '9' := by simpa [isDigit] using h
  have upper : c.toNat ≤ 57 := bounds.2
  have small : c.toNat - '0'.toNat < 10 := by
    change c.toNat - 48 < 10
    omega
  refine ⟨c.toNat - '0'.toNat, small, ?_⟩
  rw [digitValue?, if_pos bounds, Option.filter_some, if_pos (by simpa using small)]

/-- Digits are characters of ASCII. -/
theorem toNat_lt_of_digitValue? {base : ℕ} {c : Char} (h : (digitValue? base c).isSome) :
    c.toNat < 128 := by
  have range : '0' ≤ c ∧ c ≤ '9' ∨ 'a' ≤ c ∧ c ≤ 'f' ∨ 'A' ≤ c ∧ c ≤ 'F' := by
    refine Classical.byContradiction fun none_ => ?_
    simp only [not_or] at none_
    simp [digitValue?, none_] at h
  rcases range with ⟨-, upper⟩ | ⟨-, upper⟩ | ⟨-, upper⟩
  · exact Nat.lt_of_le_of_lt (show c.toNat ≤ 57 from upper) (by decide)
  · exact Nat.lt_of_le_of_lt (show c.toNat ≤ 102 from upper) (by decide)
  · exact Nat.lt_of_le_of_lt (show c.toNat ≤ 70 from upper) (by decide)

/-! ## Sequences of digits -/

section Digits

variable {base : ℕ}

/-- Only digits denote a number. -/
theorem forall_of_digitsFrom? {acc n : ℕ} {cs : List Char} (h : digitsFrom? base acc cs = some n) :
    ∀ c ∈ cs, (digitValue? base c).isSome := by
  induction cs generalizing acc with
  | nil => exact List.forall_mem_nil _
  | cons c cs ih =>
    rw [digitsFrom?] at h
    obtain ⟨d, hd, h⟩ := Option.bind_eq_some_iff.mp h
    exact List.forall_mem_cons.mpr ⟨by rw [hd]; rfl, ih h⟩

theorem digitsFrom?_append (acc : ℕ) (cs ds : List Char) : digitsFrom? base acc (cs ++ ds) =
    (digitsFrom? base acc cs).bind fun n => digitsFrom? base n ds := by
  induction cs generalizing acc with
  | nil => rfl
  | cons c cs ih =>
    rw [List.cons_append, digitsFrom?, digitsFrom?, Option.bind_assoc]
    simp only [ih]

theorem digitsFrom?_toDigits (hb : 1 < base) (hb' : base ≤ 16) (n : ℕ) :
    digitsFrom? base 0 (Nat.toDigits base n) = some n := by
  induction n using Nat.strongRecOn with
  | _ n ih =>
    have last (acc d : ℕ) (hd : d < base) :
        digitsFrom? base acc [Nat.digitChar d] = some (acc * base + d) := by
      rw [digitsFrom?, digitValue?_digitChar hb' hd]
      rfl
    by_cases small : n < base
    · rw [Nat.toDigits_of_lt_base small, last 0 n small, Nat.zero_mul, Nat.zero_add]
    · have smaller : n / base < n := Nat.div_lt_self (by omega) hb
      rw [Nat.toDigits_of_base_le hb (by omega), digitsFrom?_append, ih _ smaller,
        Option.bind_some, last _ _ (Nat.mod_lt n (by omega)), Nat.div_add_mod']

theorem digitsFrom?_zeros (hb : 0 < base) (hb' : base ≤ 16) (k : ℕ) (cs : List Char) :
    digitsFrom? base 0 (List.replicate k '0' ++ cs) = digitsFrom? base 0 cs := by
  have zero : digitValue? base '0' = some 0 := digitValue?_digitChar hb' hb
  induction k with
  | zero => rfl
  | succ k ih =>
    rw [List.replicate_succ, List.cons_append, digitsFrom?, zero, Option.bind_some, Nat.zero_mul]
    exact ih

/-- The digits of a number, filled up with zeros. -/
def filled (base width n : ℕ) : List Char :=
  let ds := Nat.toDigits base n
  List.replicate (width - ds.length) '0' ++ ds

theorem digitsFrom?_filled (hb : 1 < base) (hb' : base ≤ 16) (width n : ℕ) :
    digitsFrom? base 0 (filled base width n) = some n := by
  rw [filled, digitsFrom?_zeros (by omega) hb', digitsFrom?_toDigits hb hb']

theorem length_filled (hb : 1 < base) {width n : ℕ} (some_ : 0 < width) (h : n < base ^ width) :
    (filled base width n).length = width := by
  have := (Nat.length_toDigits_le_iff hb some_).mpr h
  rw [filled, List.length_append, List.length_replicate]
  omega

end Digits

/-! ## Decimal digits -/

theorem padded_eq (width n : ℕ) : padded width n = filled 10 width n := rfl

theorem decimalValue_padded (width n : ℕ) : decimalValue (padded width n) = n := by
  rw [decimalValue, padded_eq, digitsFrom?_filled (by decide) (by decide)]
  rfl

theorem length_padded {width n : ℕ} (some_ : 0 < width) (h : n < 10 ^ width) :
    (padded width n).length = width :=
  length_filled (by decide) some_ h

theorem padded_ne_nil (width n : ℕ) : padded width n ≠ [] := fun h =>
  Nat.toDigits_ne_nil (List.append_eq_nil_iff.mp h).2

theorem isDigit_of_mem_padded {width n : ℕ} {c : Char} (h : c ∈ padded width n) :
    isDigit c = true := by
  rcases List.mem_append.mp h with h | h
  · rw [List.eq_of_mem_replicate h]
    rfl
  · have : c.isDigit := Nat.isDigit_of_mem_toDigits (by decide) (by decide) h
    simpa [isDigit, Char.isDigit, Char.le_def] using this

/-- A number has no more digits than it is written with. -/
theorem decimalValue_lt {ds : List Char} (h : ∀ c ∈ ds, isDigit c = true) :
    decimalValue ds < 10 ^ ds.length := by
  have step (ds : List Char) (h : ∀ c ∈ ds, isDigit c = true) (acc : ℕ) :
      ∃ n < (acc + 1) * 10 ^ ds.length, digitsFrom? 10 acc ds = some n := by
    induction ds generalizing acc with
    | nil => exact ⟨acc, by simp, rfl⟩
    | cons c ds ih =>
      rw [List.forall_mem_cons] at h
      obtain ⟨d, hd, value⟩ := digitValue?_ten h.1
      obtain ⟨n, hn, read⟩ := ih h.2 (acc * 10 + d)
      refine ⟨n, Nat.lt_of_lt_of_le hn ?_, by rw [digitsFrom?, value, Option.bind_some, read]⟩
      rw [List.length_cons, Nat.pow_succ', ← Nat.mul_assoc]
      exact Nat.mul_le_mul_right _ (by omega)
  obtain ⟨n, hn, read⟩ := step ds h 0
  rw [decimalValue, read]
  simpa using hn

end BrokerPool.Number
