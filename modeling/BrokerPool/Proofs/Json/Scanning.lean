import BrokerPool.Proofs.Json.Grammar
import Mathlib.Data.List.TakeWhile
import Mathlib.Tactic.SplitIfs

/-!
# Scanning strings and numbers

The reader takes strings in character by character and remembers a unit that waits for another one.
It accepts what the grammar calls a string, and reads what its pieces denote. Numbers are scanned by
runs of digits, and a run takes in every digit there is; so a number is told from what stands behind
it if that does not go on like a number.

Results:
* `scanString_of_body`, `body_of_scanString`: strings are scanned as the grammar says.
* `close_feed`: what a scanned string denotes.
* `scanNumber_of_text`, `text_of_scanNumber`: the same for numbers.
-/

namespace BrokerPool.Json

open Number (isDigit)

/-! ## Blanks -/

theorem skipSpace_of_blanks {cs rest : List Char} (h : Blanks cs rest) :
    skipSpace (cs.map some) = skipSpace (rest.map some) := by
  induction h with
  | none => rfl
  | some blank _ ih => rw [List.map_cons, skipSpace, if_pos blank, ih]

theorem skipSpace_cons {c : Char} {rest : List Symbol} (h : isSpace c = false) :
    skipSpace (some c :: rest) = some c :: rest := by
  rw [skipSpace, if_neg (by simp [h])]

/-- All blanks at the beginning are skipped, and nothing else. -/
theorem blanks_skipSpace (cs : List Char) : ∃ rest, Blanks cs rest ∧
    skipSpace (cs.map some) = rest.map some ∧ ∀ c ∈ rest.head?, isSpace c = false := by
  induction cs with
  | nil => exact ⟨[], .none [], rfl, by simp⟩
  | cons c cs ih =>
    cases h : isSpace c with
    | true =>
      obtain ⟨rest, blanks, skipped, head⟩ := ih
      exact ⟨rest, .some h blanks, by rw [List.map_cons, skipSpace, if_pos h, skipped], head⟩
    | false => exact ⟨c :: cs, .none _, skipSpace_cons h, by simpa using h⟩

/-! ## Strings -/

theorem letter?_eq_some_iff {l c : Char} : Scan.letter? l = some c ↔ Letter l c := by
  constructor
  · intro h
    unfold Scan.letter? at h
    split at h <;> cases h <;> constructor
  · rintro ⟨⟩ <;> rfl

namespace Scan

/-- The scan behind a piece. -/
def feed (s : Scan) : Piece → Scan
  | .char c => s.settle.push c
  | .unit n => s.unit n

/-- A complete piece leaves the scan where it was before, whatever the way there. -/
theorem push_settle_position (s : Scan) (p : Position) (c : Char) :
    ({ s with position := p } : Scan).settle.push c = s.settle.push c := by
  unfold settle
  split <;> rfl

theorem unit_of_high {s : Scan} {h : ℕ} (high : s.high = some h) (n : ℕ) :
    s.unit n = if Piece.isLow n then ({ s with high := none } : Scan).push (Piece.pair h n)
      else if Piece.isHigh n then { s.settle with high := some n, position := .plain }
      else s.settle.push (Char.ofNat n) := by
  simp only [unit, high]
  rfl

theorem unit_of_none {s : Scan} (high : s.high = none) (n : ℕ) :
    s.unit n = if Piece.isLow n then { s.blame .malformed with position := .plain }
      else if Piece.isHigh n then { s with high := some n, position := .plain }
      else s.push (Char.ofNat n) := by
  simp only [unit, high]
  rfl

theorem unit_position (s : Scan) (p : Position) (n : ℕ) :
    ({ s with position := p } : Scan).unit n = s.unit n := by
  obtain ⟨text, position, high, flaw, stray⟩ := s
  cases high with
  | none =>
    rw [unit_of_none rfl, unit_of_none rfl]
    rfl
  | some h =>
    rw [unit_of_high rfl, unit_of_high rfl]
    rfl

theorem feed_position (s : Scan) (p : Piece) : (s.feed p).position = .plain := by
  cases p with
  | char c => rfl
  | unit n =>
    rw [feed]
    cases high : s.high with
    | none => rw [unit_of_none high]; split_ifs <;> rfl
    | some h => rw [unit_of_high high]; split_ifs <;> rfl

end Scan

theorem digits?_eq_digitsFrom? {base : ℕ} {ds : List Char} (h : ds ≠ []) :
    Number.digits? base ds = Number.digitsFrom? base 0 ds := by
  cases ds with
  | nil => exact absurd rfl h
  | cons d ds => rfl

/-- The digits of a unit. -/
theorem scanString_digits {s : Scan} {ds rest : List Char} {value n : ℕ} (some_ : ds ≠ [])
    (h : Number.digitsFrom? 16 value ds = some n) :
    scanString { s with position := .unicode ds.length value } ((ds ++ rest).map some) =
      scanString (s.unit n) (rest.map some) := by
  induction ds generalizing value with
  | nil => exact absurd rfl some_
  | cons d ds ih =>
    obtain ⟨v, digit, more⟩ := Option.bind_eq_some_iff.mp h
    rw [List.cons_append, List.map_cons, scanString]
    simp only [digit]
    cases ds with
    | nil =>
      obtain rfl : value * 16 + v = n := Option.some.inj more
      simp [Scan.unit_position]
    | cons d' ds => simpa using ih (List.cons_ne_nil _ _) more

theorem scanString_piece {s : Scan} {cs rest : List Char} {p : Piece} (plain : s.position = .plain)
    (h : PieceText cs p rest) :
    scanString s (cs.map some) = scanString (s.feed p) (rest.map some) := by
  cases h with
  | plain quote backslash control =>
    rw [List.map_cons, scanString]
    simp [plain, quote, backslash, control, Scan.feed]
  | @letter l c rest h =>
    have notUnit : l ≠ 'u' := by rintro rfl; cases h
    rw [List.map_cons, List.map_cons, scanString]
    simp only [plain, Char.reduceEq, ite_false, ite_true]
    rw [scanString]
    simp only [notUnit, ite_false, letter?_eq_some_iff.mpr h, Scan.push_settle_position, Scan.feed]
  | @unit ds rest n four h =>
    have some_ : ds ≠ [] := by
      rintro rfl
      cases four
    rw [digits?_eq_digitsFrom? some_] at h
    rw [List.map_cons, List.map_cons, scanString]
    simp only [plain, Char.reduceEq, ite_false, ite_true]
    rw [scanString]
    simp only [ite_true]
    rw [← four]
    exact scanString_digits (s := s) some_ h

/-- A string is scanned up to its closing quote, piece by piece. -/
theorem scanString_of_body {cs rest : List Char} {ps : List Piece} (h : BodyText cs ps rest)
    {s : Scan} (plain : s.position = .plain) :
    scanString s (cs.map some) = ⟨(ps.foldl Scan.feed s).close, .ok (rest.map some)⟩ := by
  induction h generalizing s with
  | close rest =>
    rw [List.map_cons, scanString]
    simp [plain]
  | piece head _ ih => rw [scanString_piece plain head, ih (s.feed_position _), List.foldl_cons]

/-- What is scanned as a unit is one. -/
theorem digits_of_scanString {s : Scan} {cs : List Char} {k value : ℕ} {after : List Symbol}
    (h : (scanString { s with position := .unicode (k + 1) value } (cs.map some)).rest =
      .ok after) :
    ∃ ds rest n, cs = ds ++ rest ∧ ds.length = k + 1 ∧ Number.digitsFrom? 16 value ds = some n := by
  induction k generalizing cs value with
  | zero =>
    cases cs with
    | nil => cases h
    | cons c cs =>
      rw [List.map_cons, scanString] at h
      cases digit : Number.digitValue? 16 c with
      | none => simp [digit, Scan.fail] at h
      | some v =>
        exact ⟨[c], cs, value * 16 + v, rfl, rfl, by simp [Number.digitsFrom?, digit]⟩
  | succ k ih =>
    cases cs with
    | nil => cases h
    | cons c cs =>
      rw [List.map_cons, scanString] at h
      cases digit : Number.digitValue? 16 c with
      | none => simp [digit, Scan.fail] at h
      | some v =>
        simp only [digit, show ¬ k + 1 + 1 ≤ 1 by omega, ite_false, Nat.add_sub_cancel] at h
        obtain ⟨ds, rest, n, rfl, four, hn⟩ := ih h
        exact ⟨c :: ds, rest, n, rfl, by simp [four], by simp [Number.digitsFrom?, digit, hn]⟩

/-- What is scanned as a string is one. -/
theorem body_of_scanString {cs : List Char} {s : Scan} {after : List Symbol}
    (plain : s.position = .plain) (h : (scanString s (cs.map some)).rest = .ok after) :
    ∃ ps rest, BodyText cs ps rest ∧ after = rest.map some := by
  induction hn : cs.length using Nat.strong_induction_on generalizing cs s with
  | _ n ih =>
    subst hn
    -- A piece at the beginning is scanned, and the rest is shorter.
    have go {p : Piece} {rest : List Char} (piece : PieceText cs p rest) :
        ∃ ps rest, BodyText cs ps rest ∧ after = rest.map some := by
      rw [scanString_piece plain piece] at h
      obtain ⟨ps, rest', body, rfl⟩ := ih _ piece.shorter (s.feed_position p) h rfl
      exact ⟨p :: ps, rest', .piece piece body, rfl⟩
    cases cs with
    | nil => cases h
    | cons c cs =>
      rw [List.map_cons, scanString] at h
      simp only [plain] at h
      split_ifs at h with quote backslash control
      · subst quote
        exact ⟨[], cs, .close cs, (Except.ok.inj h).symm⟩
      · subst backslash
        cases cs with
        | nil => cases h
        | cons l cs =>
          rw [List.map_cons, scanString] at h
          simp only at h
          split_ifs at h with unit
          · subst unit
            obtain ⟨ds, rest, n, rfl, four, hn⟩ := digits_of_scanString (s := s) h
            have some_ : ds ≠ [] := by
              rintro rfl
              cases four
            exact go (.unit four (by rwa [digits?_eq_digitsFrom? some_]))
          · cases letter : Scan.letter? l with
            | none => simp [letter, Scan.fail] at h
            | some x => exact go (.letter (letter?_eq_some_iff.mp letter))
      · cases h
      · exact go (.plain quote backslash control)

namespace Scan

variable (s : Scan)

@[simp] theorem settle_high : s.settle.high = none := by
  cases h : s.high <;> simp [settle, h]

@[simp] theorem settle_text : s.settle.text = s.text := by
  cases h : s.high <;> simp [settle, blame, h]

@[simp] theorem settle_stray : s.settle.stray = s.stray := by
  cases h : s.high <;> simp [settle, blame, h]

/-- A unit that waits in vain spoils the string. -/
@[simp] theorem settle_flaw : s.settle.flaw.isSome = (s.flaw.isSome || s.high.isSome) := by
  cases h : s.high <;> cases hf : s.flaw <;> simp [settle, blame, h, hf]

@[simp] theorem blame_flaw (flaw : Flaw) : (s.blame flaw).flaw.isSome = true := by
  cases hf : s.flaw <;> simp [blame, hf]

end Scan

theorem Piece.chars?_unit (n : ℕ) (ps : List Piece) : Piece.chars? (.unit n :: ps) =
    if isHigh n then
      match ps with
      | .unit m :: rest => if isLow m then (chars? rest).map (pair n m :: ·) else none
      | _ => none
    else if isLow n then none
    else (chars? ps).map (Char.ofNat n :: ·) := by
  rcases ps with _ | ⟨_ | _, _⟩ <;> simp only [chars?]

theorem Piece.not_isHigh_of_isLow {n : ℕ} (h : isLow n = true) : isHigh n = false := by
  simp only [isLow, isHigh, Bool.and_eq_true, decide_eq_true_eq, Bool.and_eq_false_iff,
    decide_eq_false_iff_not] at *
  omega

/-- What a scan denotes when its string is closed behind some more pieces. -/
theorem close_feed (ps : List Piece) {s : Scan} (stray : s.stray = false)
    (high : ∀ n ∈ s.high, Piece.isHigh n = true) :
    (ps.foldl Scan.feed s).close.toOption = if s.flaw.isSome then none else
      (Piece.chars? ((s.high.map Piece.unit).toList ++ ps)).map fun cs =>
        String.ofList (s.text.reverse ++ cs) := by
  induction ps generalizing s with
  | nil =>
    cases hh : s.high with
    | none => cases flaw : s.flaw <;> simp [Scan.close, Scan.settle, hh, flaw, stray, Piece.chars?,
        Except.toOption]
    | some h =>
      have := high h hh
      cases flaw : s.flaw <;>
        simp [Scan.close, Scan.settle, Scan.blame, hh, flaw, Piece.chars?, this, Except.toOption]
  | cons p ps ih =>
    rw [List.foldl_cons]
    cases p with
    | char c =>
      rw [Scan.feed, ih (by simpa [Scan.push] using stray) (by simp [Scan.push])]
      cases hh : s.high with
      | none => simp [Scan.push, hh, Piece.chars?, Function.comp_def]
      | some h => simp [Scan.push, hh, Piece.chars?_unit, high h hh]
    | unit n =>
      rw [Scan.feed]
      cases hh : s.high with
      | none =>
        rw [Scan.unit_of_none hh]
        cases low : Piece.isLow n with
        | true =>
          rw [if_pos rfl, ih (by simpa [Scan.blame] using stray) (by simp [Scan.blame, hh])]
          simp [Piece.chars?_unit, low, Piece.not_isHigh_of_isLow low]
        | false =>
          rw [if_neg (by simp)]
          cases first : Piece.isHigh n with
          | true =>
            rw [if_pos rfl, ih (by simpa using stray) (by simpa using first)]
            simp
          | false =>
            rw [if_neg (by simp), ih (by simpa [Scan.push] using stray) (by simp [Scan.push, hh])]
            simp [Scan.push, hh, Piece.chars?_unit, low, first, Function.comp_def]
      | some h =>
        have waits := high h hh
        rw [Scan.unit_of_high hh]
        cases low : Piece.isLow n with
        | true =>
          rw [if_pos rfl, ih (by simpa [Scan.push] using stray) (by simp [Scan.push])]
          simp [Scan.push, Piece.chars?_unit, waits, low, Function.comp_def]
        | false =>
          -- The unit that waited has no partner, and so the string is no text.
          have alone : Piece.chars? (.unit h :: .unit n :: ps) = none := by
            simp [Piece.chars?_unit, waits, low]
          rw [if_neg (by simp)]
          cases first : Piece.isHigh n with
          | true =>
            rw [if_pos rfl, ih (by simpa using stray) (by simpa using first)]
            simp [hh, alone]
          | false =>
            rw [if_neg (by simp), ih (by simpa [Scan.push] using stray) (by simp [Scan.push])]
            simp [Scan.push, hh, alone]

/-- What a scanned string denotes. -/
theorem close_start (ps : List Piece) :
    (ps.foldl Scan.feed Scan.start).close.toOption = Piece.text? ps := by
  rw [close_feed ps rfl (by simp [Scan.start])]
  rfl

/-! ## Runs of digits -/

theorem digitRun_map (cs : List Char) :
    digitRun (cs.map some) = (cs.takeWhile isDigit, (cs.dropWhile isDigit).map some) := by
  have same : isDigitSymbol ∘ some = isDigit := rfl
  rw [digitRun, List.takeWhile_map, List.dropWhile_map, same, List.filterMap_map]
  simp

/-- The digits at the beginning of a text. -/
theorem digits_takeWhile {cs : List Char} (h : cs.takeWhile isDigit ≠ []) :
    Digits cs (cs.takeWhile isDigit) (cs.dropWhile isDigit) :=
  ⟨List.takeWhile_append_dropWhile.symm, h, fun _ => List.mem_takeWhile_imp⟩

theorem digitRun_cases (cs : List Char) : (∃ rest, digitRun (cs.map some) = ([], rest)) ∨
    ∃ ds rest, Digits cs ds rest ∧ digitRun (cs.map some) = (ds, rest.map some) := by
  rw [digitRun_map]
  by_cases h : cs.takeWhile isDigit = []
  · exact .inl ⟨_, by rw [h]⟩
  · exact .inr ⟨_, _, digits_takeWhile h, rfl⟩

/-- Digits are a run if no other digit follows. -/
theorem Digits.run {cs ds rest : List Char} (h : Digits cs ds rest)
    (stop : ∀ c ∈ rest.head?, isDigit c = false) :
    digitRun (cs.map some) = (ds, rest.map some) := by
  obtain ⟨rfl, -, digits⟩ := h
  have none_ : rest.takeWhile isDigit = [] ∧ rest.dropWhile isDigit = rest := by
    cases rest with
    | nil => exact ⟨rfl, rfl⟩
    | cons c rest => simp [stop c rfl]
  rw [digitRun_map, List.takeWhile_append_of_pos digits, List.dropWhile_append_of_pos digits,
    none_.1, none_.2, List.append_nil]

theorem Digits.head {cs ds rest : List Char} (h : Digits cs ds rest) :
    ∃ c more, cs = c :: more ∧ isDigit c = true := by
  obtain ⟨rfl, some_, digits⟩ := h
  cases ds with
  | nil => exact absurd rfl some_
  | cons d ds => exact ⟨d, _, rfl, digits d List.mem_cons_self⟩

theorem map_some_ne {c : Char} {cs : List Char} (h : cs.head? ≠ some c) (more : List Symbol) :
    cs.map some ≠ some c :: more := by
  cases cs with
  | nil => simp
  | cons d cs => simpa using fun he => absurd he (by simpa using h)

/-! ## Numbers -/

/-- The text does not go on like a number. -/
def NoNumber (rest : List Char) : Prop :=
  ∀ c ∈ rest.head?, isDigit c = false ∧ c ≠ '.' ∧ c ≠ 'e' ∧ c ≠ 'E'

/-- Takes a sign off a power: whether it was a minus, and the rest. -/
def powerSign (cs : List Symbol) : Bool × List Symbol :=
  match cs with
  | some '-' :: r => (true, r)
  | some '+' :: r => (false, r)
  | r => (false, r)

theorem powerSign_minus (cs : List Symbol) : powerSign (some '-' :: cs) = (true, cs) := rfl

theorem powerSign_plus (cs : List Symbol) : powerSign (some '+' :: cs) = (false, cs) := rfl

/-- The scan of what may follow the digits before and behind the point. -/
def scanExponent (negative : Bool) (whole : List Char) (fraction : Option (List Char))
    (cs : List Symbol) : ScannedNumber :=
  match cs with
  | some c :: rest =>
    if c = 'e' ∨ c = 'E' then
      let (minus, rest) := powerSign rest
      let (ds, after) := digitRun rest
      if ds.isEmpty then missingDigit rest
      else
        let e : ℤ := Number.decimalValue ds
        ⟨.ok (numeral? negative whole fraction (some (if minus then -e else e))), .ok after⟩
    else ⟨.ok (numeral? negative whole fraction none), .ok cs⟩
  | _ => ⟨.ok (numeral? negative whole fraction none), .ok cs⟩

theorem scanTail_eq (negative : Bool) (whole : List Char) (cs : List Symbol) :
    scanTail negative whole cs = match cs with
      | some '.' :: rest =>
        let (ds, after) := digitRun rest
        if ds.isEmpty then missingDigit rest
        else scanExponent negative whole (some ds) after
      | _ => scanExponent negative whole none cs := by
  unfold scanTail scanExponent
  rfl

section Numbers

variable {negative : Bool} {cs ds rest whole : List Char} {fraction : Option (List Char)}
  {exponent : Option ℤ} {after : List Symbol}

theorem digit_ne (h : isDigit c = true) :
    c ≠ '-' ∧ c ≠ '+' ∧ c ≠ '.' ∧ c ≠ 'e' ∧ c ≠ 'E' := by
  refine ⟨?_, ?_, ?_, ?_, ?_⟩ <;>
  · rintro rfl
    revert h
    decide

theorem Whole.head (h : Whole cs whole rest) : ∃ c more, cs = c :: more ∧ isDigit c = true := by
  cases h with
  | zero => exact ⟨'0', rest, rfl, rfl⟩
  | digits h => exact h.head

/-- What follows digits is not another digit. -/
theorem Exponent.stop (h : Exponent cs exponent rest) (ends : NoNumber rest) :
    ∀ c ∈ cs.head?, isDigit c = false ∧ c ≠ '.' := by
  cases h with
  | none => exact fun c hc => ⟨(ends c hc).1, (ends c hc).2.1⟩
  | bare mark | plus mark | minus mark =>
    rintro c ⟨⟩
    obtain rfl | rfl := mark <;> decide

theorem Fraction.stop {power : List Char} (h : Fraction cs fraction power)
    (mark : Exponent power exponent rest) (ends : NoNumber rest) :
    ∀ c ∈ cs.head?, isDigit c = false := by
  cases h with
  | none => exact fun c hc => (mark.stop ends c hc).1
  | some h =>
    rintro c ⟨⟩
    decide

theorem powerSign_cases (cs : List Char) :
    (∃ more, cs = '-' :: more ∧ powerSign (cs.map some) = (true, more.map some)) ∨
    (∃ more, cs = '+' :: more ∧ powerSign (cs.map some) = (false, more.map some)) ∨
    powerSign (cs.map some) = (false, cs.map some) := by
  cases cs with
  | nil => exact .inr (.inr rfl)
  | cons c cs =>
    by_cases minus : c = '-'
    · exact .inl ⟨cs, by rw [minus], by rw [minus]; rfl⟩
    · by_cases plus : c = '+'
      · exact .inr (.inl ⟨cs, by rw [plus], by rw [plus]; rfl⟩)
      · exact .inr (.inr (by simp [powerSign, minus, plus]))

theorem powerSign_digits (h : Digits cs ds rest) :
    powerSign (cs.map some) = (false, cs.map some) := by
  obtain ⟨c, more, rfl, digit⟩ := h.head
  obtain ⟨minus, plus, -⟩ := digit_ne digit
  obtain ⟨more', he, -⟩ | ⟨more', he, -⟩ | unsigned := powerSign_cases (c :: more)
  · exact absurd (List.cons.inj he).1 minus
  · exact absurd (List.cons.inj he).1 plus
  · exact unsigned

theorem scanExponent_mark {e : Char} {minus : Bool} {cs unsigned : List Symbol}
    (mark : e = 'e' ∨ e = 'E') (sign : powerSign cs = (minus, unsigned))
    (run : digitRun unsigned = (ds, after)) :
    scanExponent negative whole fraction (some e :: cs) =
      if ds.isEmpty then missingDigit unsigned
      else ⟨.ok (numeral? negative whole fraction
        (some (if minus then -Number.decimalValue ds else Number.decimalValue ds))),
        .ok after⟩ := by
  simp only [scanExponent, if_pos mark, sign, run]

theorem scanExponent_of_text (h : Exponent cs exponent rest) (ends : NoNumber rest) :
    scanExponent negative whole fraction (cs.map some) =
      ⟨.ok (numeral? negative whole fraction exponent), .ok (rest.map some)⟩ := by
  have stop : ∀ c ∈ rest.head?, isDigit c = false := fun c hc => (ends c hc).1
  cases h with
  | none =>
    cases cs with
    | nil => rfl
    | cons c cs =>
      obtain ⟨-, -, lower, upper⟩ := ends c rfl
      simp [scanExponent, lower, upper]
  | bare mark h =>
    rw [List.map_cons, scanExponent_mark mark (powerSign_digits h) (h.run stop)]
    simp [h.2.1]
  | plus mark h =>
    rw [List.map_cons, List.map_cons, scanExponent_mark mark (powerSign_plus _) (h.run stop)]
    simp [h.2.1]
  | minus mark h =>
    rw [List.map_cons, List.map_cons, scanExponent_mark mark (powerSign_minus _) (h.run stop)]
    simp [h.2.1]

theorem text_of_scanExponent
    (h : (scanExponent negative whole fraction (cs.map some)).rest = .ok after) :
    ∃ exponent rest, Exponent cs exponent rest ∧
      scanExponent negative whole fraction (cs.map some) =
        ⟨.ok (numeral? negative whole fraction exponent), .ok (rest.map some)⟩ := by
  cases cs with
  | nil => exact ⟨none, [], .none [], rfl⟩
  | cons e cs =>
    by_cases mark : e = 'e' ∨ e = 'E'
    · rw [List.map_cons] at h ⊢
      obtain ⟨cs, rfl, sign⟩ | ⟨cs, rfl, sign⟩ | sign := powerSign_cases cs
      all_goals
        obtain ⟨more, run⟩ | ⟨ds, rest, digits, run⟩ := digitRun_cases cs
        case inl =>
          rw [scanExponent_mark mark sign run] at h
          cases h
        rw [scanExponent_mark mark sign run]
      case inl.inr => exact ⟨_, rest, .minus mark digits, by simp [digits.2.1]⟩
      case inr.inl.inr => exact ⟨_, rest, .plus mark digits, by simp [digits.2.1]⟩
      case inr.inr.inr => exact ⟨_, rest, .bare mark digits, by simp [digits.2.1]⟩
    · exact ⟨none, e :: cs, .none _, by simp [scanExponent, not_or.mp mark]⟩

/-- A number is scanned up to its end if the text does not go on like a number. -/
theorem scanTail_of_text {tail power : List Char} (point : Fraction tail fraction power)
    (mark : Exponent power exponent rest) (ends : NoNumber rest) :
    scanTail negative whole (tail.map some) =
      ⟨.ok (numeral? negative whole fraction exponent), .ok (rest.map some)⟩ := by
  have scanned (fraction : Option (List Char)) :
      scanExponent negative whole fraction (power.map some) =
        ⟨.ok (numeral? negative whole fraction exponent), .ok (rest.map some)⟩ :=
    scanExponent_of_text mark ends
  rw [scanTail_eq]
  cases point with
  | none =>
    cases tail with
    | nil => exact scanned none
    | cons c cs =>
      have point : c ≠ '.' := (mark.stop ends c rfl).2
      rw [List.map_cons] at *
      split
      · simp_all
      · exact scanned none
  | some h =>
    have run := h.run fun c hc => (mark.stop ends c hc).1
    simp [run, h.2.1, scanned]

theorem text_of_scanTail {tail : List Char}
    (h : (scanTail negative whole (tail.map some)).rest = .ok after) :
    ∃ fraction power exponent rest, Fraction tail fraction power ∧ Exponent power exponent rest ∧
      scanTail negative whole (tail.map some) =
        ⟨.ok (numeral? negative whole fraction exponent), .ok (rest.map some)⟩ := by
  rw [scanTail_eq] at h ⊢
  by_cases point : tail.head? = some '.'
  · obtain ⟨cs, rfl⟩ : ∃ more, tail = '.' :: more := List.head?_eq_some_iff.mp point
    obtain ⟨more, run⟩ | ⟨ds, power, digits, run⟩ := digitRun_cases cs
    · simp [run, missingDigit] at h
    · simp only [List.map_cons, run, List.isEmpty_iff, digits.2.1, ite_false] at h ⊢
      obtain ⟨exponent, rest, mark, scanned⟩ := text_of_scanExponent h
      exact ⟨some ds, power, exponent, rest, .some digits, mark, scanned⟩
  · split at h
    · exact absurd ‹_› (map_some_ne point _)
    · obtain ⟨exponent, rest, mark, scanned⟩ := text_of_scanExponent h
      exact ⟨none, tail, exponent, rest, .none _, mark, scanned⟩

/-- The scan of a number behind its sign. -/
def scanUnsigned (negative : Bool) (cs : List Symbol) : ScannedNumber :=
  let (ds, after) := digitRun cs
  match ds with
  | [] => missingDigit cs
  | '0' :: _ :: _ => ⟨.error .malformed, .error .malformed⟩
  | ds => scanTail negative ds after

theorem scanNumber_of_ne {cs : List Symbol} (h : ∀ more, cs ≠ some '-' :: more) :
    scanNumber cs = scanUnsigned false cs := by
  unfold scanNumber
  split
  · rename_i he
    split at he
    · exact absurd rfl (h _)
    · obtain ⟨rfl, rfl⟩ := Prod.mk.inj he
      rfl

theorem scanUnsigned_of_text {tail power : List Char} (digits : Whole cs whole tail)
    (point : Fraction tail fraction power) (mark : Exponent power exponent rest)
    (ends : NoNumber rest) :
    scanUnsigned negative (cs.map some) =
      ⟨.ok (numeral? negative whole fraction exponent), .ok (rest.map some)⟩ := by
  have stop := point.stop mark ends
  have scanned : scanTail negative whole (tail.map some) =
      ⟨.ok (numeral? negative whole fraction exponent), .ok (rest.map some)⟩ :=
    scanTail_of_text point mark ends
  cases digits with
  | zero =>
    have zero : Digits ('0' :: tail) ['0'] tail :=
      ⟨rfl, List.cons_ne_nil _ _, List.forall_mem_singleton.mpr rfl⟩
    simp only [scanUnsigned, zero.run stop, scanned]
  | digits h first =>
    simp only [scanUnsigned, h.run stop]
    split
    · exact absurd rfl h.2.1
    · simp at first
    · exact scanned

/-- A number is scanned up to its end if the text does not go on like a number. -/
theorem scanNumber_of_text {n : Option Numeral} (h : NumberText cs n rest)
    (ends : NoNumber rest) : scanNumber (cs.map some) = ⟨.ok n, .ok (rest.map some)⟩ := by
  obtain ⟨sign, digits, point, mark⟩ := h
  cases sign with
  | minus => exact scanUnsigned_of_text digits point mark ends
  | none =>
    obtain ⟨c, more, rfl, digit⟩ := digits.head
    rw [scanNumber_of_ne (map_some_ne (by simpa using (digit_ne digit).1)),
      scanUnsigned_of_text digits point mark ends]

/-- What is scanned as a number is one. -/
theorem text_of_scanUnsigned (h : (scanUnsigned negative (cs.map some)).rest = .ok after) :
    ∃ whole tail fraction power exponent rest, Whole cs whole tail ∧
      Fraction tail fraction power ∧ Exponent power exponent rest ∧
      scanUnsigned negative (cs.map some) =
        ⟨.ok (numeral? negative whole fraction exponent), .ok (rest.map some)⟩ := by
  obtain ⟨more, run⟩ | ⟨ds, tail, digits, run⟩ := digitRun_cases cs
  · simp [scanUnsigned, run, missingDigit] at h
  · simp only [scanUnsigned, run] at h ⊢
    split at h
    · cases h
    · cases h
    · obtain ⟨fraction, power, exponent, rest, point, mark, scanned⟩ := text_of_scanTail h
      refine ⟨ds, tail, fraction, power, exponent, rest, ?_, point, mark, scanned⟩
      by_cases zero : ds = ['0']
      · obtain ⟨rfl, -⟩ := digits
        rw [zero]
        exact .zero tail
      · refine .digits digits fun first => ?_
        obtain ⟨more, rfl⟩ : ∃ more, ds = '0' :: more := List.head?_eq_some_iff.mp first
        cases more <;> simp_all

theorem text_of_scanNumber (h : (scanNumber (cs.map some)).rest = .ok after) :
    ∃ n rest, NumberText cs n rest ∧
      scanNumber (cs.map some) = ⟨.ok n, .ok (rest.map some)⟩ := by
  by_cases minus : cs.head? = some '-'
  · obtain ⟨cs, rfl⟩ : ∃ more, cs = '-' :: more := List.head?_eq_some_iff.mp minus
    obtain ⟨whole, tail, fraction, power, exponent, rest, digits, point, mark, scanned⟩ :=
      text_of_scanUnsigned h
    exact ⟨_, rest, .parts (.minus cs) digits point mark, scanned⟩
  · rw [scanNumber_of_ne (map_some_ne minus)] at h ⊢
    obtain ⟨whole, tail, fraction, power, exponent, rest, digits, point, mark, scanned⟩ :=
      text_of_scanUnsigned h
    exact ⟨_, rest, .parts (.none cs) digits point mark, scanned⟩

end Numbers

end BrokerPool.Json
