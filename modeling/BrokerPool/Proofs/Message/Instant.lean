import BrokerPool.Message.Instant
import BrokerPool.Proofs.Calendar
import BrokerPool.Proofs.Number.Digits
import BrokerPool.Proofs.Text.Utf8
import Mathlib.Data.List.TakeWhile
import Mathlib.Tactic.Positivity

/-!
# Points in time and their texts

A clock shows a date and a time of day, and it is ahead of universal time or behind it. What it
shows is read as the point in time it denotes, and a point in time is written as a clock shows it
that runs in universal time.

Results:
* `parse_clock`: what a clock shows is read.
* `valid_of_parse`: what is read is a point in time.
* `parse_text`: a point in time is told by its text.
-/

namespace BrokerPool.Message.Instant

open Number (isDigit decimalValue)

/-! ## Readers -/

section Readers

variable {α β : Type} {r : Reader α} {f : α → Reader β} {a : α} {cs mid : List Char}

/-- What is read first, and then the rest. -/
theorem run_bind_of_ok (h : r.run cs = .ok (a, mid)) (f : α → Reader β) :
    (r >>= f).run cs = (f a).run mid := by
  rw [StateT.run_bind, h]
  rfl

theorem exists_of_run_bind {b : β} {rest : List Char} (h : (r >>= f).run cs = .ok (b, rest)) :
    ∃ a mid, r.run cs = .ok (a, mid) ∧ (f a).run mid = .ok (b, rest) := by
  rw [StateT.run_bind] at h
  cases ha : r.run cs with
  | error e => simp [ha, Bind.bind, Except.bind] at h
  | ok read =>
    rw [ha] at h
    exact ⟨read.1, read.2, rfl, h⟩

/-- Whatever is read has a property. -/
def Ensures (r : Reader α) (P : α → Prop) : Prop :=
  ∀ cs a rest, r.run cs = .ok (a, rest) → P a

theorem ensures_true (r : Reader α) : Ensures r fun _ => True := fun _ _ _ _ => trivial

theorem ensures_throw (e : Error) (P : α → Prop) : Ensures (throw e) P := fun _ _ _ h => by cases h

theorem ensures_throw_bind (e : Error) (f : α → Reader β) (P : β → Prop) :
    Ensures (throw e >>= f) P := fun _ _ _ h => by cases h

theorem ensures_pure {P : α → Prop} (h : P a) : Ensures (pure a) P := fun _ _ _ he => by
  cases he
  exact h

theorem Ensures.bind {P : α → Prop} {Q : β → Prop} (h : Ensures r P)
    (next : ∀ a, P a → Ensures (f a) Q) : Ensures (r >>= f) Q := by
  intro cs b rest hb
  obtain ⟨a, mid, ha, hb⟩ := exists_of_run_bind hb
  exact next a (h cs a mid ha) mid b rest hb

end Readers

/-! ## Numbers -/

/-- Digits that end where they must, or where there are no more. -/
theorem takeWhile_take_append {ds rest : List Char} {most : ℕ}
    (digits : ∀ c ∈ ds, isDigit c = true) (short : ds.length ≤ most)
    (ends : ds.length = most ∨ ∀ c ∈ rest.head?, isDigit c = false) :
    ((ds ++ rest).take most).takeWhile isDigit = ds := by
  rw [List.take_append, List.take_of_length_le short,
    List.takeWhile_append_of_pos digits]
  rcases ends with full | stops
  · simp [full]
  · cases rest with
    | nil => simp
    | cons c rest =>
      cases h : most - ds.length with
      | zero => simp
      | succ k => simp [List.take_succ_cons, stops c rfl]

theorem digits_run {ds rest : List Char} {most : ℕ} (some_ : ds ≠ [])
    (digits : ∀ c ∈ ds, isDigit c = true) (short : ds.length ≤ most)
    (ends : ds.length = most ∨ ∀ c ∈ rest.head?, isDigit c = false)
    (small : decimalValue ds ≤ 9223372036854775807) :
    (Instant.digits most).run (ds ++ rest) = .ok (↑(decimalValue ds), rest) := by
  have kept := takeWhile_take_append digits short ends
  unfold Instant.digits
  rw [run_bind_of_ok (StateT.run_get _)]
  simp [kept, some_, small]
  rfl

theorem isBlank_of_isDigit {c : Char} (h : isDigit c = true) : Text.isBlank c = false := by
  have bounds : '0' ≤ c ∧ c ≤ '9' := by simpa [isDigit] using h
  have lower : 48 ≤ c.toNat := bounds.1
  have upper : c.toNat ≤ 57 := bounds.2
  simp only [Text.isBlank, Text.inRanges, Text.blanks, List.any_cons, List.any_nil, Bool.or_false,
    Bool.or_eq_false_iff, Bool.and_eq_false_iff, decide_eq_false_iff_not, not_le]
  omega

theorem skipBlanks_run {cs : List Char} (h : ∀ c ∈ cs.head?, Text.isBlank c = false) :
    skipBlanks.run cs = .ok ((), cs) := by
  have kept : cs.dropWhile Text.isBlank = cs := by
    cases cs with
    | nil => rfl
    | cons c cs => rw [List.dropWhile_cons, h c rfl, if_neg (by decide)]
  unfold skipBlanks
  rw [StateT.run_modify, kept]
  rfl

theorem mark_run {c : Char} (h : Text.isBlank c = false) (rest : List Char) :
    (mark c).run (c :: rest) = .ok ((), rest) := by
  have stays : ∀ d ∈ (c :: rest).head?, Text.isBlank d = false := by
    rintro d ⟨⟩
    exact h
  unfold mark
  rw [run_bind_of_ok (skipBlanks_run stays), run_bind_of_ok (StateT.run_get _)]
  simp only [if_true]
  rfl

theorem head?_padded_append {width n : ℕ} {rest : List Char} :
    ∀ c ∈ (padded width n ++ rest).head?, isDigit c = true := by
  intro c hc
  cases h : padded width n with
  | nil => exact absurd h (Number.padded_ne_nil width n)
  | cons d ds =>
    rw [h] at hc
    obtain rfl : d = c := by simpa using hc
    exact Number.isDigit_of_mem_padded (h ▸ List.mem_cons_self)

theorem skipBlanks_padded (width n : ℕ) (rest : List Char) :
    skipBlanks.run (padded width n ++ rest) = .ok ((), padded width n ++ rest) :=
  skipBlanks_run fun c hc => isBlank_of_isDigit (head?_padded_append c hc)

theorem digits_padded {width n : ℕ} {rest : List Char} (some_ : 0 < width)
    (fits : n < 10 ^ width) (small : n ≤ 9223372036854775807) :
    (Instant.digits width).run (padded width n ++ rest) = .ok (↑n, rest) := by
  have length := Number.length_padded some_ fits
  have value := Number.decimalValue_padded width n
  have run := digits_run (Number.padded_ne_nil width n) (fun c => Number.isDigit_of_mem_padded)
    length.le (.inl length : _ ∨ ∀ c ∈ rest.head?, isDigit c = false) (by rwa [value])
  rwa [value] at run

theorem bounded_run {low high : ℤ} {n : ℕ} (fits : n < 100) (lower : low ≤ n) (upper : n ≤ high)
    (rest : List Char) : (bounded low high).run (padded 2 n ++ rest) = .ok (n, rest) := by
  unfold bounded
  rw [run_bind_of_ok (skipBlanks_padded 2 n rest),
    run_bind_of_ok (digits_padded (by decide) fits (by omega)),
    if_pos ⟨lower, upper⟩]
  rfl

/-! ## Dates -/

/-- A year with a sign may have any number of digits. -/
theorem digits_signedYear {n : ℕ} (fits : n ≤ 2147483647) (rest : List Char) :
    (Instant.digits (padded 4 n ++ '-' :: rest).length).run (padded 4 n ++ '-' :: rest) =
      .ok (↑n, '-' :: rest) := by
  have short : (padded 4 n).length ≤ (padded 4 n ++ '-' :: rest).length := by
    rw [List.length_append]
    omega
  have value := Number.decimalValue_padded 4 n
  have stops : ∀ c ∈ ('-' :: rest).head?, isDigit c = false := by
    rintro c ⟨⟩
    rfl
  have run := digits_run (Number.padded_ne_nil 4 n) (fun c => Number.isDigit_of_mem_padded) short
    (.inr stops) (by omega)
  rwa [value] at run

/-- A year in range is read as it is. -/
def yearInRange (y : ℤ) : Reader ℤ :=
  if -2147483648 ≤ y ∧ y ≤ 2147483647 then pure y else throw .outOfRange

theorem year_minus (cs : List Char) : year.run ('-' :: cs) =
    (Instant.digits cs.length >>= fun n => yearInRange (-n)).run cs := rfl

theorem year_plus (cs : List Char) : year.run ('+' :: cs) =
    (Instant.digits cs.length >>= yearInRange).run cs := rfl

theorem year_unsigned {cs : List Char} (h : ∀ c ∈ cs.head?, isDigit c = true) :
    year.run cs = (Instant.digits 4 >>= yearInRange).run cs := by
  unfold year
  rw [run_bind_of_ok (skipBlanks_run fun c hc => isBlank_of_isDigit (h c hc)),
    run_bind_of_ok (StateT.run_get _)]
  -- No sign stands where a digit does.
  split
  · exact absurd (h '-' rfl) (by decide)
  · exact absurd (h '+' rfl) (by decide)
  · rfl

theorem year_run {y : ℤ} (fits : y.natAbs ≤ 2147483647) (rest : List Char) :
    year.run (yearChars y ++ '-' :: rest) = .ok (y, '-' :: rest) := by
  have range : (yearInRange y).run ('-' :: rest) = .ok (y, '-' :: rest) := by
    rw [yearInRange, if_pos (by omega)]
    rfl
  have signed := digits_signedYear fits rest
  unfold yearChars
  split
  · rename_i plain
    have run : (Instant.digits 4).run (padded 4 y.toNat ++ '-' :: rest) =
        .ok (↑y.toNat, '-' :: rest) := digits_padded (by decide) (by omega) (by omega)
    rw [year_unsigned head?_padded_append, run_bind_of_ok run, Int.toNat_of_nonneg plain.1, range]
  · split
    · have value : -(y.natAbs : ℤ) = y := by omega
      rw [List.cons_append, year_minus, run_bind_of_ok signed, value, range]
    · have value : (y.natAbs : ℤ) = y := by omega
      rw [List.cons_append, year_plus, run_bind_of_ok signed, value, range]

/-! ## Times -/

/-- The nanoseconds of a fraction. -/
def fractionValue (ds : List Char) : ℕ := decimalValue (ds.take 9) * 10 ^ (9 - (ds.take 9).length)

/-- A fraction as it is written. -/
def fractionText (ds : List Char) : List Char := if ds = [] then [] else '.' :: ds

theorem fraction_point (cs : List Char) : fraction.run ('.' :: cs) =
    (Instant.digits 9 >>= fun n => modify (fun cs => cs.dropWhile isDigit) >>= fun _ =>
      pure (n.toNat * 10 ^ (9 - ((cs.take 9).takeWhile isDigit).length))).run cs := rfl

theorem fraction_run {ds rest : List Char} (digits : ∀ c ∈ ds, isDigit c = true)
    (ends : ∀ c ∈ rest.head?, isDigit c = false ∧ c ≠ '.') :
    fraction.run (fractionText ds ++ rest) = .ok (fractionValue ds, rest) := by
  unfold fractionText
  split
  · rename_i none_
    rw [none_, List.nil_append, fraction, run_bind_of_ok (StateT.run_get _)]
    split
    · exact absurd rfl (ends '.' rfl).2
    · rfl
  · rename_i some_
    have kept : ∀ c ∈ ds.take 9, isDigit c = true := fun c hc => digits c (List.mem_of_mem_take hc)
    have stops : (ds.take 9).length = 9 ∨
        ∀ c ∈ (ds.drop 9 ++ rest).head?, isDigit c = false := by
      by_cases long : 9 ≤ ds.length
      · exact .inl (List.length_take_of_le long)
      · rw [List.drop_of_length_le (by omega), List.nil_append]
        exact .inr fun c hc => (ends c hc).1
    have short : (ds.take 9).length ≤ 9 := List.length_take_le 9 ds
    have few : ds.take 9 ≠ [] := by simpa using some_
    have small := Number.decimalValue_lt kept
    have bound : 10 ^ (ds.take 9).length ≤ 10 ^ 9 := Nat.pow_le_pow_right (by decide) short
    have whole : ds ++ rest = ds.take 9 ++ (ds.drop 9 ++ rest) := by
      rw [← List.append_assoc, List.take_append_drop]
    have run := digits_run few kept short stops (by omega)
    have taken := takeWhile_take_append kept short stops
    rw [← whole] at run taken
    have dropped : (ds.drop 9 ++ rest).dropWhile isDigit = rest := by
      rw [List.dropWhile_append_of_pos fun c hc => digits c (List.mem_of_mem_drop hc)]
      cases rest with
      | nil => rfl
      | cons c rest => rw [List.dropWhile_cons, (ends c rfl).1, if_neg (by decide)]
    rw [List.cons_append, fraction_point, run_bind_of_ok run,
      run_bind_of_ok (StateT.run_modify _ _), dropped, taken]
    rfl

theorem twoDigits_run {n : ℕ} (fits : n < 100) (rest : List Char) :
    twoDigits.run (padded 2 n ++ rest) = .ok (n, rest) := by
  have length : (padded 2 n).length = 2 := Number.length_padded (by decide) fits
  have kept : ((padded 2 n ++ rest).take 2).takeWhile isDigit = padded 2 n :=
    takeWhile_take_append (fun c => Number.isDigit_of_mem_padded) length.le (.inl length)
  have dropped : (padded 2 n ++ rest).drop 2 = rest := List.drop_left' length
  have value := Number.decimalValue_padded 2 n
  have large : ¬ Text.Utf8.size (padded 2 n ++ rest) < 2 := by
    obtain ⟨a, b, he⟩ := List.length_eq_two.mp length
    have := Text.Utf8.width_pos a
    have := Text.Utf8.width_pos b
    rw [he, List.cons_append, List.cons_append, Text.Utf8.size_cons, Text.Utf8.size_cons]
    omega
  unfold twoDigits
  rw [run_bind_of_ok (StateT.run_get _)]
  dsimp only
  rw [if_neg large, kept, if_neg (by omega), run_bind_of_ok (StateT.run_set _ _), dropped, value]
  rfl

/-! ## Clocks -/

/-- How far a clock is ahead of universal time or behind it. -/
inductive Zone
  | universal
  | offset (behind : Bool) (hours minutes : ℕ)

namespace Zone

def chars : Zone → List Char
  | universal => ['Z']
  | offset behind hours minutes =>
    (if behind then '-' else '+') :: (padded 2 hours ++ ':' :: padded 2 minutes)

/-- The minutes that a clock is ahead. -/
def ahead : Zone → ℤ
  | universal => 0
  | offset behind hours minutes => if behind then -(hours * 60 + minutes) else hours * 60 + minutes

def Fits : Zone → Prop
  | universal => True
  | offset _ hours minutes => hours < 100 ∧ minutes < 60

end Zone

/-- What a clock shows. -/
structure Clock where
  date : Date
  hour : ℕ
  minute : ℕ
  /-- The sixtieth second is a leap second. -/
  second : ℕ
  /-- The digits of the fraction, as many as there are. -/
  fraction : List Char
  zone : Zone

namespace Clock

def chars (c : Clock) : List Char :=
  yearChars c.date.year ++ '-' :: (padded 2 c.date.month ++ '-' :: (padded 2 c.date.day ++ 'T' ::
    (padded 2 c.hour ++ ':' :: (padded 2 c.minute ++ ':' :: (padded 2 c.second ++
      (fractionText c.fraction ++ c.zone.chars))))))

/-- The second of the day. A leap second counts as the one before it. -/
def secondOfDay (c : Clock) : ℕ :=
  c.hour * 3600 + c.minute * 60 + if c.second = 60 then 59 else c.second

def nanosecond (c : Clock) : ℕ :=
  if c.second = 60 then fractionValue c.fraction + billion else fractionValue c.fraction

/-- A clock shows numbers of their usual sizes. -/
structure Fits (c : Clock) : Prop where
  year : c.date.year.natAbs ≤ 2147483647
  month : 1 ≤ c.date.month ∧ c.date.month ≤ 12
  day : 1 ≤ c.date.day ∧ c.date.day ≤ 31
  hour : c.hour ≤ 23
  minute : c.minute ≤ 59
  second : c.second ≤ 60
  fraction : ∀ d ∈ c.fraction, isDigit d = true
  zone : c.zone.Fits

end Clock

/-- The minutes of an offset behind its sign. -/
def offsetMinutes (sign : ℤ → ℤ) : Reader ℤ := do
  let hours ← twoDigits
  modify fun cs => cs.dropWhile fun d => d = ':' || Text.isBlank d
  let minutes ← twoDigits
  if 60 ≤ minutes then throw .outOfRange
  return sign (hours * 60 + minutes)

theorem offset_plus (cs : List Char) : offset.run ('+' :: cs) = (offsetMinutes id).run cs := rfl

theorem offset_minus (cs : List Char) :
    offset.run ('-' :: cs) = (offsetMinutes fun n => -n).run cs := rfl

theorem offset_universal (cs : List Char) : offset.run ('Z' :: cs) = .ok (0, cs) := rfl

theorem offsetMinutes_run (sign : ℤ → ℤ) {hours minutes : ℕ} (fits : hours < 100 ∧ minutes < 60)
    (rest : List Char) :
    (offsetMinutes sign).run (padded 2 hours ++ ':' :: (padded 2 minutes ++ rest)) =
      .ok (sign (hours * 60 + minutes), rest) := by
  have dropped : (':' :: (padded 2 minutes ++ rest)).dropWhile
      (fun d => d = ':' || Text.isBlank d) = padded 2 minutes ++ rest := by
    rw [List.dropWhile_cons_of_pos (by decide)]
    cases he : padded 2 minutes ++ rest with
    | nil => rfl
    | cons c cs =>
      have digit : isDigit c = true := head?_padded_append c (by rw [he]; rfl)
      have colon : c ≠ ':' := by
        rintro rfl
        exact absurd digit (by decide)
      rw [List.dropWhile_cons_of_neg]
      simp [colon, isBlank_of_isDigit digit]
  unfold offsetMinutes
  rw [run_bind_of_ok (twoDigits_run fits.1 _), run_bind_of_ok (StateT.run_modify _ _), dropped,
    run_bind_of_ok (twoDigits_run (by omega) _)]
  dsimp only
  rw [if_neg (by omega)]
  rfl

theorem offset_run {zone : Zone} (fits : zone.Fits) (rest : List Char) :
    offset.run (zone.chars ++ rest) = .ok (zone.ahead, rest) := by
  cases zone with
  | universal => exact offset_universal rest
  | offset behind hours minutes =>
    rw [Zone.chars, List.cons_append, List.append_assoc, List.cons_append]
    cases behind with
    | false => exact (offset_plus _).trans (offsetMinutes_run id fits rest)
    | true => exact (offset_minus _).trans (offsetMinutes_run (fun n => -n) fits rest)

theorem read_run {c : Clock} (h : c.Fits) : read.run c.chars =
    (ofClock c.date c.secondOfDay c.nanosecond c.zone.ahead).map fun t => (t, []) := by
  obtain ⟨year, month, day, hour, minute, second, fraction, zone⟩ := h
  have number {low high : ℤ} {n : ℕ} (fits : n < 100) (range : low ≤ n ∧ n ≤ high)
      (rest : List Char) := bounded_run fits range.1 range.2 rest
  have colon (rest : List Char) : (mark ':').run (':' :: rest) = .ok ((), rest) :=
    mark_run (by decide) rest
  have hyphen (rest : List Char) : (mark '-').run ('-' :: rest) = .ok ((), rest) :=
    mark_run (by decide) rest
  have ends : ∀ d ∈ c.zone.chars.head?, isDigit d = false ∧ d ≠ '.' ∧ Text.isBlank d = false := by
    cases c.zone with
    | universal => rintro d ⟨⟩; decide
    | offset behind => cases behind <;> (rintro d ⟨⟩; decide)
  have zoned := offset_run zone []
  rw [List.append_nil] at zoned
  unfold read Clock.chars
  rw [run_bind_of_ok (year_run year _), run_bind_of_ok (hyphen _),
    run_bind_of_ok (number (by omega) (by omega) _), run_bind_of_ok (hyphen _),
    run_bind_of_ok (number (by omega) (by omega) _), run_bind_of_ok (StateT.run_get _)]
  dsimp only
  rw [if_pos (.inr (.inl rfl)), run_bind_of_ok (StateT.run_set _ _),
    run_bind_of_ok (number (by omega) (by omega) _), run_bind_of_ok (colon _),
    run_bind_of_ok (number (by omega) (by omega) _), run_bind_of_ok (colon _),
    run_bind_of_ok (number (by omega) (by omega) _),
    run_bind_of_ok (fraction_run fraction fun d hd => ⟨(ends d hd).1, (ends d hd).2.1⟩),
    run_bind_of_ok (skipBlanks_run fun d hd => (ends d hd).2.2), run_bind_of_ok zoned,
    run_bind_of_ok (skipBlanks_run (by rintro d ⟨⟩)), run_bind_of_ok (StateT.run_get _)]
  rw [if_neg (by decide)]
  have moment : ofClock ⟨c.date.year, c.date.month, c.date.day⟩
      (c.hour * 3600 + c.minute * 60 + if c.second = 60 then 59 else c.second)
      (if c.second = 60 then fractionValue c.fraction + billion else fractionValue c.fraction)
      c.zone.ahead = ofClock c.date c.secondOfDay c.nanosecond c.zone.ahead := rfl
  rw [moment]
  cases ofClock c.date c.secondOfDay c.nanosecond c.zone.ahead <;> rfl

/-- What a clock shows is read. -/
theorem parse_clock {c : Clock} (h : c.Fits) : parse (String.ofList c.chars) =
    ofClock c.date c.secondOfDay c.nanosecond c.zone.ahead := by
  rw [parse, String.toList_ofList, read_run h]
  cases ofClock c.date c.secondOfDay c.nanosecond c.zone.ahead <;> rfl

/-! ## Points in time -/

/-- The years whose days can be counted. -/
def InRange (year : ℤ) : Prop := yearRange.1 ≤ year ∧ year ≤ yearRange.2

/-- A point in time, in the years from 0 to 9999 or in one of many before and after them. Only the
    last second of a minute may be followed by a leap second. -/
structure Valid (t : Instant) : Prop where
  second : t.second < 86400
  nanosecond : t.nanosecond < billion ∨ t.nanosecond < 2 * billion ∧ t.second % 60 = 59
  year : InRange (Date.ofDays t.day).year

/-- The seconds before a point in time, counted from the first of January 1970. -/
def seconds (t : Instant) : ℤ := t.day * 86400 + t.second

theorem ofClock_ok_iff {d : Date} {second nanosecond : ℕ} {ahead : ℤ} {t : Instant} :
    ofClock d second nanosecond ahead = .ok t ↔
      d.isValid = true ∧ InRange d.year ∧ ahead.natAbs < 1440 ∧
      InRange (Date.ofDays t.day).year ∧ t.second < 86400 ∧ t.nanosecond = nanosecond ∧
      t.seconds = d.toDays * 86400 + second - ahead * 60 := by
  obtain ⟨total, ht⟩ : ∃ total, total = d.toDays * 86400 + second - ahead * 60 := ⟨_, rfl⟩
  have parts : t = ⟨total / 86400, (total % 86400).toNat, nanosecond⟩ ↔
      t.second < 86400 ∧ t.nanosecond = nanosecond ∧ t.seconds = total := by
    obtain ⟨day, s, n⟩ := t
    simp only [Instant.seconds, mk.injEq]
    omega
  unfold ofClock
  rw [← ht]
  constructor
  · intro h
    dsimp only at h
    split at h
    · cases h
    rename_i date
    split at h
    · cases h
    rename_i zone
    split at h
    · cases h
    rename_i year
    obtain rfl := Except.ok.inj h
    simp only [not_or, Bool.not_eq_true, Bool.not_eq_false', not_lt] at date year
    exact ⟨date.1, ⟨date.2.1, date.2.2⟩, by omega, ⟨year.1, year.2⟩, parts.mp rfl⟩
  · rintro ⟨date, ⟨low, high⟩, zone, ⟨low', high'⟩, same⟩
    obtain rfl := parts.mpr same
    have valid : ¬ ((!d.isValid) = true ∨ d.year < yearRange.1 ∨ yearRange.2 < d.year) := by
      rw [date]
      rintro (h | h | h)
      · cases h
      · exact absurd low (not_le.mpr h)
      · exact absurd high (not_le.mpr h)
    have year : ¬ ((Date.ofDays (total / 86400)).year < yearRange.1 ∨
        yearRange.2 < (Date.ofDays (total / 86400)).year) :=
      not_or.mpr ⟨not_lt.mpr low', not_lt.mpr high'⟩
    dsimp only
    rw [if_neg valid, if_neg (by omega), if_neg year]
    rfl

/-- A point in time that some clock shows. -/
def Shown (t : Instant) : Prop := ∃ d second nanosecond ahead,
  ofClock d second nanosecond ahead = .ok t ∧
    (nanosecond < billion ∨ nanosecond < 2 * billion ∧ second % 60 = 59)

theorem Shown.valid {t : Instant} (h : t.Shown) : t.Valid := by
  obtain ⟨d, second, nanosecond, ahead, shown, range⟩ := h
  obtain ⟨-, -, -, year, small, rfl, seconds⟩ := ofClock_ok_iff.mp shown
  refine ⟨small, range.imp_right fun leap => ⟨leap.1, ?_⟩, year⟩
  unfold Instant.seconds at seconds
  omega

theorem value_of_digits_run {most : ℕ} {cs rest : List Char} {n : ℤ}
    (h : (Instant.digits most).run cs = .ok (n, rest)) :
    n = decimalValue ((cs.take most).takeWhile isDigit) := by
  unfold Instant.digits at h
  rw [run_bind_of_ok (StateT.run_get _)] at h
  dsimp only at h
  split at h
  · cases h
  split at h
  · cases h
  rw [run_bind_of_ok (StateT.run_set _ _)] at h
  split at h
  · cases h; rfl
  · cases h

theorem ensures_fraction : Ensures fraction (· < billion) := by
  intro cs n rest h
  rw [fraction, run_bind_of_ok (StateT.run_get _)] at h
  split at h
  · rename_i cs
    rw [run_bind_of_ok (StateT.run_set _ _)] at h
    obtain ⟨value, mid, read, h⟩ := exists_of_run_bind h
    obtain rfl := value_of_digits_run read
    obtain ⟨_, _, -, h⟩ := exists_of_run_bind h
    cases h
    generalize hd : (cs.take 9).takeWhile isDigit = ds
    have digits : ∀ c ∈ ds, isDigit c = true := by
      rw [← hd]
      exact fun c => List.mem_takeWhile_imp
    have short : ds.length ≤ 9 := by
      rw [← hd]
      exact (List.takeWhile_prefix _).length_le.trans (List.length_take_le 9 cs)
    calc decimalValue ds * 10 ^ (9 - ds.length)
        < 10 ^ ds.length * 10 ^ (9 - ds.length) :=
          Nat.mul_lt_mul_of_pos_right (Number.decimalValue_lt digits) (by positivity)
      _ = billion := by rw [← Nat.pow_add, Nat.add_sub_cancel' short]; rfl
  · cases h
    decide

theorem ensures_read : Ensures read Shown := by
  unfold read
  refine (ensures_true _).bind fun y _ => ?_
  refine (ensures_true _).bind fun _ _ => ?_
  refine (ensures_true _).bind fun month _ => ?_
  refine (ensures_true _).bind fun _ _ => ?_
  refine (ensures_true _).bind fun day _ => ?_
  refine (ensures_true _).bind fun cs _ => ?_
  dsimp only
  split
  · exact ensures_throw_bind _ _ _
  split
  · refine (ensures_true _).bind fun _ _ => ?_
    refine (ensures_true _).bind fun hour _ => ?_
    refine (ensures_true _).bind fun _ _ => ?_
    refine (ensures_true _).bind fun minute _ => ?_
    refine (ensures_true _).bind fun _ _ => ?_
    refine (ensures_true _).bind fun second _ => ?_
    refine ensures_fraction.bind fun nanosecond small => ?_
    refine (ensures_true _).bind fun _ _ => ?_
    refine (ensures_true _).bind fun ahead _ => ?_
    refine (ensures_true _).bind fun _ _ => ?_
    refine (ensures_true _).bind fun rest _ => ?_
    split
    · exact ensures_throw_bind _ _ _
    split
    · rename_i t shown
      refine ensures_pure ⟨_, _, _, _, shown, ?_⟩
      split
      · exact .inr ⟨by omega, by omega⟩
      · exact .inl small
    · exact ensures_throw _ _
  · exact ensures_throw_bind _ _ _

/-- What is read is a point in time. -/
theorem valid_of_parse {s : String} {t : Instant} (h : parse s = .ok t) : t.Valid := by
  unfold parse at h
  cases hr : read.run s.toList with
  | error e => simp [hr, Except.map] at h
  | ok result =>
    obtain ⟨t', rest⟩ := result
    obtain rfl : t' = t := by simpa [hr, Except.map] using h
    exact (ensures_read _ _ _ hr).valid

/-! ## Writing -/

/-- The digits of a fraction, in groups of three. -/
def fractionDigits (nanosecond : ℕ) : List Char :=
  if nanosecond = 0 then []
  else if nanosecond % 1000000 = 0 then padded 3 (nanosecond / 1000000)
  else if nanosecond % 1000 = 0 then padded 6 (nanosecond / 1000)
  else padded 9 nanosecond

theorem fractionChars_eq (nanosecond : ℕ) :
    fractionChars nanosecond = fractionText (fractionDigits nanosecond) := by
  unfold fractionChars fractionText fractionDigits
  split
  · rfl
  · repeat' split
    all_goals first | rfl | exact absurd ‹_› (Number.padded_ne_nil _ _)

theorem isDigit_of_mem_fractionDigits {nanosecond : ℕ} :
    ∀ c ∈ fractionDigits nanosecond, isDigit c = true := by
  intro c hc
  unfold fractionDigits at hc
  split at hc
  · cases hc
  · repeat' split at hc
    all_goals exact Number.isDigit_of_mem_padded hc

theorem fractionValue_padded {width n : ℕ} (some_ : 0 < width) (short : width ≤ 9)
    (fits : n < 10 ^ width) : fractionValue (padded width n) = n * 10 ^ (9 - width) := by
  have length := Number.length_padded some_ fits
  rw [fractionValue, List.take_of_length_le (by omega), Number.decimalValue_padded, length]

theorem fractionValue_fractionDigits {nanosecond : ℕ} (h : nanosecond < billion) :
    fractionValue (fractionDigits nanosecond) = nanosecond := by
  have bound : nanosecond < 1000000000 := h
  unfold fractionDigits
  split
  · rename_i zero
    rw [zero]
    rfl
  split
  · rw [fractionValue_padded (by decide) (by decide) (by omega)]
    omega
  split
  · rw [fractionValue_padded (by decide) (by decide) (by omega)]
    omega
  · rw [fractionValue_padded (by decide) (by decide) (by omega)]
    omega

/-- What a clock shows in universal time. -/
def clock (t : Instant) : Clock where
  date := Date.ofDays t.day
  hour := t.second / 3600
  minute := t.second / 60 % 60
  second := t.second % 60 + if billion ≤ t.nanosecond then 1 else 0
  fraction :=
    fractionDigits (if billion ≤ t.nanosecond then t.nanosecond - billion else t.nanosecond)
  zone := .universal

theorem text_eq (t : Instant) : t.text = String.ofList t.clock.chars := by
  simp [text, clock, Clock.chars, fractionChars_eq, Zone.chars]

section Valid

variable {t : Instant} (h : t.Valid)
include h

/-- A leap second is the sixtieth. -/
theorem Valid.second_clock : t.clock.second = 60 ↔ billion ≤ t.nanosecond := by
  have leap := h.nanosecond
  change t.second % 60 + (if billion ≤ t.nanosecond then 1 else 0) = 60 ↔ _
  split <;> omega

theorem Valid.fits : t.clock.Fits := by
  have date := Date.bounds_of_isValid (Date.isValid_ofDays t.day)
  have second := h.second
  have year : -262143 ≤ (Date.ofDays t.day).year ∧ (Date.ofDays t.day).year ≤ 262142 := h.year
  constructor
  case year => change (Date.ofDays t.day).year.natAbs ≤ 2147483647; omega
  case month => exact date.1
  case day => exact date.2
  case hour => change t.second / 3600 ≤ 23; omega
  case minute => change t.second / 60 % 60 ≤ 59; omega
  case second =>
    change t.second % 60 + (if billion ≤ t.nanosecond then 1 else 0) ≤ 60
    split <;> omega
  case fraction => exact isDigit_of_mem_fractionDigits
  case zone => exact trivial

theorem Valid.secondOfDay_clock : t.clock.secondOfDay = t.second := by
  have leap := h.nanosecond
  rw [Clock.secondOfDay]
  simp only [h.second_clock]
  change t.second / 3600 * 3600 + t.second / 60 % 60 * 60 + (if billion ≤ t.nanosecond then 59
    else t.second % 60 + (if billion ≤ t.nanosecond then 1 else 0)) = t.second
  split <;> omega

theorem Valid.nanosecond_clock : t.clock.nanosecond = t.nanosecond := by
  have leap := h.nanosecond
  have fraction : t.clock.fraction = fractionDigits
      (if billion ≤ t.nanosecond then t.nanosecond - billion else t.nanosecond) := rfl
  rw [Clock.nanosecond, fraction]
  simp only [h.second_clock]
  split
  · rw [fractionValue_fractionDigits (by omega)]
    omega
  · rw [fractionValue_fractionDigits (by omega)]

/-- A point in time is told by its text. -/
theorem Valid.parse_text : parse t.text = .ok t := by
  have universal : t.clock.zone.ahead = 0 := rfl
  rw [text_eq, parse_clock h.fits, h.secondOfDay_clock, h.nanosecond_clock, universal]
  refine ofClock_ok_iff.mpr
    ⟨Date.isValid_ofDays t.day, h.year, by decide, h.year, h.second, rfl, ?_⟩
  change t.day * 86400 + t.second = (Date.ofDays t.day).toDays * 86400 + t.second - 0 * 60
  rw [Date.toDays_ofDays]
  omega

end Valid

end BrokerPool.Message.Instant
