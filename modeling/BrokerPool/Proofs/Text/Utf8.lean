import BrokerPool.Text.Utf8
import Mathlib.Data.String.Basic
import Mathlib.Data.Char

/-!
# Texts as bytes and back

The bytes of a text are read as that text again, whatever follows them, and the order of texts is
the order of their bytes.

Results:
* `unitsFrom_encodeChar`: the bytes of a character are read as the character.
* `decode?_encode`, `decodeLossy_encode`: the bytes of a text are read as the text, by the strict
  and by the lossy reading.
* `encode_lt_encode_iff`: a text comes before another if its bytes do.
-/

namespace BrokerPool.Text.Utf8

/-! ## Reading -/

theorem toNat_byte {n : ℕ} (h : n < 256) : (UInt8.ofNat n).toNat = n := by
  rw [UInt8.toNat_ofNat', Nat.mod_eq_of_lt h]

/-- A byte that ends a character. -/
theorem unitsFrom_last {bits low high k : ℕ} (hk : low ≤ 0x80 + k ∧ 0x80 + k ≤ high) (hb : k < 64)
    (rest : List UInt8) : unitsFrom (some ⟨1, bits, low, high⟩) (UInt8.ofNat (0x80 + k) :: rest) =
      some (Char.ofNat (bits * 64 + k)) :: unitsFrom none rest := by
  rw [unitsFrom, toNat_byte (by omega), if_pos hk, Nat.add_sub_cancel_left]
  rfl

/-- A byte inside a character. -/
theorem unitsFrom_inner {needed bits low high k : ℕ} (hk : low ≤ 0x80 + k ∧ 0x80 + k ≤ high)
    (hb : k < 64) (hn : 1 < needed) (rest : List UInt8) :
    unitsFrom (some ⟨needed, bits, low, high⟩) (UInt8.ofNat (0x80 + k) :: rest) =
      unitsFrom (some ⟨needed - 1, bits * 64 + k, 0x80, 0xBF⟩) rest := by
  rw [unitsFrom, toNat_byte (by omega), if_pos hk, Nat.add_sub_cancel_left]
  exact if_neg (not_le.mpr hn)

/-- A byte that begins a character. -/
theorem unitsFrom_first {b : UInt8} {p : Pending} (h : lead b = .begins p) (rest : List UInt8) :
    unitsFrom none (b :: rest) = unitsFrom (some p) rest := by
  rw [unitsFrom, enter, h]
  rfl

theorem unitsFrom_ascii {n : ℕ} (h : n < 0x80) (rest : List UInt8) :
    unitsFrom none (UInt8.ofNat n :: rest) = some (Char.ofNat n) :: unitsFrom none rest := by
  rw [unitsFrom, enter, lead, toNat_byte (by omega), if_pos h]
  rfl

/-- The bytes of a character by the size of its code point. -/
theorem encodeChar_eq (c : Char) : encodeChar c =
    if c.toNat < 0x80 then [UInt8.ofNat c.toNat]
    else if c.toNat < 0x800 then
      [UInt8.ofNat (0xC0 + c.toNat / 64), UInt8.ofNat (0x80 + c.toNat % 64)]
    else if c.toNat < 0x10000 then
      [UInt8.ofNat (0xE0 + c.toNat / 4096), UInt8.ofNat (0x80 + c.toNat / 64 % 64),
        UInt8.ofNat (0x80 + c.toNat % 64)]
    else
      [UInt8.ofNat (0xF0 + c.toNat / 262144), UInt8.ofNat (0x80 + c.toNat / 4096 % 64),
        UInt8.ofNat (0x80 + c.toNat / 64 % 64), UInt8.ofNat (0x80 + c.toNat % 64)] := rfl

/-- A code point of a character is no surrogate. -/
theorem toNat_valid (c : Char) :
    c.toNat < 0xD800 ∨ 0xDFFF < c.toNat ∧ c.toNat < 0x110000 := c.valid

/-- The first byte of a character of two bytes. -/
theorem lead_two {k : ℕ} (low : 2 ≤ k) (high : k < 32) :
    lead (UInt8.ofNat (0xC0 + k)) = .begins ⟨1, k, 0x80, 0xBF⟩ := by
  revert k
  decide

/-- The first byte of a character of three bytes, and the range of the second one. -/
theorem lead_three {k : ℕ} (high : k < 16) : lead (UInt8.ofNat (0xE0 + k)) =
    .begins ⟨2, k, if k = 0 then 0xA0 else 0x80, if k = 0xD then 0x9F else 0xBF⟩ := by
  revert k
  decide

/-- The first byte of a character of four bytes, and the range of the second one. -/
theorem lead_four {k : ℕ} (high : k < 5) : lead (UInt8.ofNat (0xF0 + k)) =
    .begins ⟨3, k, if k = 0 then 0x90 else 0x80, if k = 4 then 0x8F else 0xBF⟩ := by
  revert k
  decide

/-- The bytes of a character are read as the character. -/
theorem unitsFrom_encodeChar (c : Char) (rest : List UInt8) :
    unitsFrom none (encodeChar c ++ rest) = some c :: unitsFrom none rest := by
  have valid := toNat_valid c
  have back : Char.ofNat c.toNat = c := Char.ofNat_toNat c
  rw [encodeChar_eq]
  generalize c.toNat = n at valid back
  subst back
  have continuation : n % 64 < 64 := Nat.mod_lt _ (by decide)
  split_ifs with one two three
  case pos => exact unitsFrom_ascii one rest
  case pos =>
    have value : n / 64 * 64 + n % 64 = n := by omega
    simp only [List.cons_append, List.nil_append]
    rw [unitsFrom_first (lead_two (by omega) (by omega)), unitsFrom_last (by omega) continuation,
      value]
  case pos =>
    have value : (n / 4096 * 64 + n / 64 % 64) * 64 + n % 64 = n := by omega
    simp only [List.cons_append, List.nil_append]
    rw [unitsFrom_first (lead_three (by omega)), unitsFrom_inner _ (by omega) (by decide),
      unitsFrom_last (by omega) continuation, value]
    -- The second byte excludes overlong forms and surrogates.
    split_ifs <;> omega
  case neg =>
    have value : ((n / 262144 * 64 + n / 4096 % 64) * 64 + n / 64 % 64) * 64 + n % 64 = n := by
      omega
    simp only [List.cons_append, List.nil_append]
    rw [unitsFrom_first (lead_four (by omega)), unitsFrom_inner _ (by omega) (by decide),
      unitsFrom_inner (by omega) (by omega) (by decide), unitsFrom_last (by omega) continuation,
      value]
    -- The second byte excludes overlong forms and code points that are too great.
    split_ifs <;> omega

theorem units_encode (s : String) : units (encode s) = s.toList.map some := by
  rw [units, encode]
  induction s.toList with
  | nil => rfl
  | cons c cs ih => rw [List.flatMap_cons, unitsFrom_encodeChar, ih, List.map_cons]

/-- The bytes of a text are read as the text. -/
theorem decode?_encode (s : String) : decode? (encode s) = some s := by
  have all (cs : List Char) : (cs.map some).mapM id = some cs := by
    induction cs with
    | nil => rfl
    | cons c cs ih => simp [ih]
  rw [decode?, units_encode, all, Option.map_some, String.ofList_toList]

/-- The bytes of a text are read as the text, and nothing is replaced. -/
theorem decodeLossy_encode (s : String) : decodeLossy (encode s) = s := by
  rw [decodeLossy, units_encode, List.map_map]
  exact (congrArg String.ofList (List.map_id _)).trans String.ofList_toList

/-! ## Order -/

/-- A character comes before another one if its bytes do, whatever follows them. -/
theorem encodeChar_append_lt {c d : Char} (h : c < d) (xs ys : List UInt8) :
    encodeChar c ++ xs < encodeChar d ++ ys := by
  have lt : c.toNat < d.toNat := h
  have valid := toNat_valid d
  rw [encodeChar_eq, encodeChar_eq]
  generalize c.toNat = m at lt
  generalize d.toNat = n at lt valid
  split_ifs <;>
    simp (disch := omega) only [List.cons_append, List.nil_append, List.cons_lt_cons_iff,
      UInt8.lt_iff_toNat_lt, ← UInt8.toNat_inj, toNat_byte] <;>
    omega

theorem encodeChar_ne_nil (c : Char) : encodeChar c ≠ [] := by
  rw [encodeChar_eq]
  split_ifs <;> simp

theorem width_pos (c : Char) : 0 < width c := List.length_pos_of_ne_nil (encodeChar_ne_nil c)

theorem size_cons (c : Char) (cs : List Char) : size (c :: cs) = width c + size cs := by
  have from_ (cs : List Char) (n : ℕ) :
      cs.foldl (fun n c => n + width c) n = n + size cs := by
    induction cs generalizing n with
    | nil => rfl
    | cons c cs ih => rw [size, List.foldl_cons, List.foldl_cons, ih, ih (0 + width c)]; omega
  rw [size, List.foldl_cons, from_, Nat.zero_add]

/-- A character of ASCII is one byte. -/
theorem size_of_ascii {cs : List Char} (h : ∀ c ∈ cs, c.toNat < 128) : size cs = cs.length := by
  induction cs with
  | nil => rfl
  | cons c cs ih =>
    rw [List.forall_mem_cons] at h
    have single : width c = 1 := by simp [width, encodeChar, h.1]
    rw [size_cons, single, ih h.2, List.length_cons, Nat.add_comm]

theorem flatMap_encodeChar_lt {cs ds : List Char} (h : cs < ds) :
    cs.flatMap encodeChar < ds.flatMap encodeChar := by
  induction cs generalizing ds with
  | nil =>
    cases ds with
    | nil => simp at h
    | cons d ds =>
      obtain ⟨b, bytes, hd⟩ := List.exists_cons_of_ne_nil (encodeChar_ne_nil d)
      rw [List.flatMap_nil, List.flatMap_cons, hd, List.cons_append]
      exact List.nil_lt_cons b _
  | cons c cs ih =>
    cases ds with
    | nil => simp at h
    | cons d ds =>
      rw [List.flatMap_cons, List.flatMap_cons]
      rcases List.cons_lt_cons_iff.mp h with hlt | ⟨rfl, hlt⟩
      · exact encodeChar_append_lt hlt _ _
      · exact List.append_left_lt (ih hlt)

/-- A text comes before another one if its bytes do. -/
theorem encode_lt_encode_iff (s t : String) : encode s < encode t ↔ s < t := by
  have forward {s t : String} (h : s < t) : encode s < encode t :=
    flatMap_encodeChar_lt (String.lt_iff_toList_lt.mp h)
  refine ⟨fun h => ?_, forward⟩
  rcases lt_trichotomy s t with hlt | rfl | hgt
  · exact hlt
  · exact absurd h (List.lt_irrefl _)
  · exact absurd h (List.lt_asymm (forward hgt))

end BrokerPool.Text.Utf8
