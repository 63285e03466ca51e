import BrokerPool.Proofs.Settings.Verbatim
import BrokerPool.Settings.Conversion

/-!
# Ports in texts

The port of the platform is read as a number at once, and a port in a variable only later, when its
setting is converted. Both readings agree wherever the first one has success.

Results:
* `ofVariable_of_port`: a port is an integer when it is a variable.
* `word16_of_integer`: and the integer is the port.
-/

namespace BrokerPool

namespace Number

theorem isDigit_of_digitValue? {c : Char} {v : ℕ} (h : digitValue? 10 c = some v) :
    c.isDigit := by
  unfold digitValue? at h
  obtain ⟨h, small⟩ := Option.filter_eq_some_iff.mp h
  split_ifs at h with digit
  · simpa [Char.isDigit, Char.le_def] using digit
  all_goals
    simp only [Option.some.injEq] at h
    simp only [decide_eq_true_eq] at small
    omega

theorem isDigit_of_digitsFrom? {cs : List Char} {acc n : ℕ}
    (h : digitsFrom? 10 acc cs = some n) : ∀ c ∈ cs, c.isDigit := by
  induction cs generalizing acc with
  | nil => simp
  | cons c cs ih =>
    obtain ⟨v, hv, h⟩ := Option.bind_eq_some_iff.mp h
    exact List.forall_mem_cons.mpr ⟨isDigit_of_digitValue? hv, ih h⟩

theorem isDigit_of_digits? {cs : List Char} {n : ℕ} (h : digits? 10 cs = some n) :
    ∀ c ∈ cs, c.isDigit := by
  cases cs with
  | nil => simp
  | cons c cs => exact isDigit_of_digitsFrom? h

/-- An unsigned integer is a signed one, of digits behind at most a plus. -/
theorem signed?_of_unsigned? {cs : List Char} {n : ℕ} (h : unsigned? 65535 cs = some n) :
    signed? 10 cs = some n ∧ n ≤ 65535 ∧ ∀ c ∈ cs, c = '+' ∨ c.isDigit := by
  have within {n : ℕ} (hn : n ≤ 65535) : inInt64 (n : ℤ) = true := by
    simp only [inInt64, Bool.and_eq_true, decide_eq_true_eq]
    omega
  unfold unsigned? at h
  obtain ⟨digits, small⟩ := Option.filter_eq_some_iff.mp h
  have hn : n ≤ 65535 := by simpa using small
  split at digits
  case h_1 rest =>
    refine ⟨by simp [signed?, splitSign, digits, within hn], hn, ?_⟩
    exact List.forall_mem_cons.mpr
      ⟨.inl rfl, fun c hc => .inr (isDigit_of_digits? digits c hc)⟩
  case h_2 plain =>
    have all := isDigit_of_digits? digits
    have sign : splitSign cs = (false, cs) := by
      unfold splitSign
      split
      · exact absurd (all _ List.mem_cons_self) (by decide)
      · exact absurd (all _ List.mem_cons_self) (by decide)
      · rfl
    exact ⟨by simp [signed?, sign, digits, within hn], hn, fun c hc => .inr (all c hc)⟩

end Number

namespace Settings

/-- The number in a text, if it is a port. -/
def port? (text : String) : Option ℕ := Number.unsigned? 65535 text.toList

/-- A port is an integer when it is a variable. -/
theorem ofVariable_of_port {text : String} {n : ℕ} (h : port? text = some n) :
    Leaf.ofVariable text = .integer n := by
  obtain ⟨signed, -, chars⟩ := Number.signed?_of_unsigned? h
  have plain : ∀ c ∈ text.toList, Text.IsPlain c := by
    intro c hc
    rcases chars c hc with rfl | digit
    · exact ⟨by decide, by decide⟩
    · exact Text.isPlain_of_isDigit digit
  refine ofVariable_of_integer ?_ signed
  rw [Text.lower_of_isPlain plain]
  intro word
  have no_port : ∀ w ∈ ["true", "false"], port? w = none := by decide
  rw [no_port _ word] at h
  cases h

theorem word16_of_integer {n : ℕ} (h : n ≤ 65535) (origin : Option String) :
    word16 (.leaf (.integer n) origin) = .ok (UInt16.ofNat n) := by
  simp [word16, unsigned, h, bind, Except.bind, pure, Except.pure]

end Settings

end BrokerPool
