import BrokerPool.Message.Uuid
import BrokerPool.Proofs.Number.Digits
import BrokerPool.Proofs.Text.Utf8

/-!
# Identifiers and their texts

An identifier is written in one way and read in four.

Results:
* `parse_ok_iff`: the texts of an identifier.
* `parse_text`: an identifier is told by its text.
-/

namespace BrokerPool.Message.Uuid

open Number (digitValue? digits? filled)

/-- Digits in groups with hyphens between. -/
def grouped (ds : List Char) : List Char := ((cut groups ds).intersperse ['-']).flatten

/-- The ways to write thirty-two digits. -/
inductive Spelling (ds : List Char) : List Char → Prop
  | simple : Spelling ds ds
  | hyphenated : Spelling ds (grouped ds)
  | braced : Spelling ds ('\x7b' :: (grouped ds ++ ['\x7d']))
  | named : Spelling ds (kindName ++ grouped ds)

/-! ## Groups -/

section Groups

variable {a b c d e : List Char}

/-- Five groups. -/
def hyphenate (a b c d e : List Char) : List Char :=
  a ++ '-' :: (b ++ '-' :: (c ++ '-' :: (d ++ '-' :: e)))

theorem grouped_append (ha : a.length = 8) (hb : b.length = 4) (hc : c.length = 4)
    (hd : d.length = 4) (he : e.length = 12) :
    grouped (a ++ (b ++ (c ++ (d ++ e)))) = hyphenate a b c d e := by
  simp [grouped, groups, cut, hyphenate, List.take_left', List.drop_left', ha, hb, hc, hd,
    List.take_of_length_le he.le]

theorem exists_append (n : ℕ) (cs : List Char) (h : n ≤ cs.length) :
    ∃ a r, a.length = n ∧ cs = a ++ r :=
  ⟨cs.take n, cs.drop n, List.length_take_of_le h, (List.take_append_drop n cs).symm⟩

theorem exists_append_cons {cs : List Char} {n : ℕ} {x : Char} (h : cs[n]? = some x) :
    ∃ a r, a.length = n ∧ cs = a ++ x :: r := by
  obtain ⟨short, rfl⟩ := List.getElem?_eq_some_iff.mp h
  refine ⟨cs.take n, cs.drop (n + 1), List.length_take_of_le short.le, ?_⟩
  rw [← List.drop_eq_getElem_cons, List.take_append_drop]

theorem getElem?_behind {a r : List Char} {x : Char} {n : ℕ} (h : a.length = n) (k : ℕ) :
    (a ++ x :: r)[n + 1 + k]? = r[k]? := by
  subst h
  rw [Nat.add_assoc, List.getElem?_append_right (Nat.le_add_right _ _), Nat.add_sub_cancel_left,
    Nat.add_comm 1, List.getElem?_cons_succ]

/-- What thirty-two digits consist of. -/
theorem exists_groups {ds : List Char} (h : ds.length = 32) : ∃ a b c d e,
    a.length = 8 ∧ b.length = 4 ∧ c.length = 4 ∧ d.length = 4 ∧ e.length = 12 ∧
      ds = a ++ (b ++ (c ++ (d ++ e))) := by
  obtain ⟨a, r, ha, rfl⟩ := exists_append 8 ds (by omega)
  rw [List.length_append] at h
  obtain ⟨b, r, hb, rfl⟩ := exists_append 4 r (by omega)
  rw [List.length_append] at h
  obtain ⟨c, r, hc, rfl⟩ := exists_append 4 r (by omega)
  rw [List.length_append] at h
  obtain ⟨d, e, hd, rfl⟩ := exists_append 4 r (by omega)
  rw [List.length_append] at h
  exact ⟨a, b, c, d, e, ha, hb, hc, hd, by omega, rfl⟩

theorem ofGroups?_hyphenate (ha : a.length = 8) (hb : b.length = 4) (hc : c.length = 4)
    (hd : d.length = 4) (he : e.length = 12) :
    ofGroups? (hyphenate a b c d e) = ofDigits? (a ++ (b ++ (c ++ (d ++ e)))) := by
  simp [ofGroups?, hyphenate, List.getElem?_append, List.drop_append, List.drop_of_length_le, ha,
    hb, hc, hd, he]

/-- What is read as five groups is hyphenated. -/
theorem ofGroups?_eq_some_iff {cs : List Char} {u : Uuid} :
    ofGroups? cs = some u ↔ ∃ ds, cs = grouped ds ∧ ofDigits? ds = some u := by
  constructor
  · intro h
    have form : cs.length = 36 ∧ [8, 13, 18, 23].all (fun i => cs[i]? = some '-') := by
      unfold ofGroups? at h
      split at h
      · assumption
      · cases h
    obtain ⟨length, marks⟩ := form
    simp only [List.all_cons, List.all_nil, Bool.and_true, Bool.and_eq_true, decide_eq_true_eq]
      at marks
    obtain ⟨first, second, third, fourth⟩ := marks
    obtain ⟨a, r, ha, rfl⟩ := exists_append_cons first
    rw [getElem?_behind ha 4] at second
    rw [getElem?_behind ha 9] at third
    rw [getElem?_behind ha 14] at fourth
    obtain ⟨b, r, hb, rfl⟩ := exists_append_cons second
    rw [getElem?_behind hb 4] at third
    rw [getElem?_behind hb 9] at fourth
    obtain ⟨c, r, hc, rfl⟩ := exists_append_cons third
    rw [getElem?_behind hc 4] at fourth
    obtain ⟨d, e, hd, rfl⟩ := exists_append_cons fourth
    have he : e.length = 12 := by
      simp only [List.length_append, List.length_cons] at length
      omega
    refine ⟨_, (grouped_append ha hb hc hd he).symm, ?_⟩
    rw [← ofGroups?_hyphenate ha hb hc hd he]
    exact h
  · rintro ⟨ds, rfl, h⟩
    have length : ds.length = 32 := by
      unfold ofDigits? at h
      split at h
      · assumption
      · cases h
    obtain ⟨a, b, c, d, e, ha, hb, hc, hd, he, rfl⟩ := exists_groups length
    rw [grouped_append ha hb hc hd he, ofGroups?_hyphenate ha hb hc hd he, h]

end Groups

theorem ofDigits?_eq_some_iff {cs : List Char} {u : Uuid} : ofDigits? cs = some u ↔
    cs.length = 32 ∧ ∃ n, digits? 16 cs = some n ∧ u = ⟨BitVec.ofNat 128 n⟩ := by
  unfold ofDigits?
  by_cases length : cs.length = 32
  · rw [if_pos length, Option.map_eq_some_iff]
    simp only [length, true_and, eq_comm (b := u)]
  · simp [length]

/-! ## Texts -/

/-- What stands in digits and groups of digits. -/
def Plain (c : Char) : Prop := c = '-' ∨ (digitValue? 16 c).isSome

theorem Plain.ascii {c : Char} (h : Plain c) : c.toNat < 128 := by
  rcases h with rfl | h
  · decide
  · exact Number.toNat_lt_of_digitValue? h

theorem not_plain_u : ¬ Plain 'u' := by
  simp [Plain, digitValue?]

theorem not_plain_brace : ¬ Plain '\x7b' := by
  simp [Plain, digitValue?]

theorem plain_of_digits? {cs : List Char} {n : ℕ} (h : digits? 16 cs = some n) :
    ∀ c ∈ cs, Plain c := by
  intro c hc
  have some_ : cs ≠ [] := List.ne_nil_of_mem hc
  have h : Number.digitsFrom? 16 0 cs = some n := by
    cases cs with
    | nil => exact absurd rfl some_
    | cons => exact h
  exact .inr (Number.forall_of_digitsFrom? h c hc)

theorem plain_of_mem_grouped {ds : List Char} (length : ds.length = 32) (h : ∀ c ∈ ds, Plain c) :
    ∀ c ∈ grouped ds, Plain c := by
  obtain ⟨a, b, c, d, e, ha, hb, hc, hd, he, rfl⟩ := exists_groups length
  rw [grouped_append ha hb hc hd he]
  intro x hx
  by_cases mark : x = '-'
  · exact .inl mark
  · refine h x ?_
    simpa [hyphenate, mark] using hx

theorem length_grouped {ds : List Char} (length : ds.length = 32) : (grouped ds).length = 36 := by
  obtain ⟨a, b, c, d, e, ha, hb, hc, hd, he, rfl⟩ := exists_groups length
  rw [grouped_append ha hb hc hd he]
  simp [hyphenate, ha, hb, hc, hd, he]

/-- What is inside of a text. -/
theorem unwrap_eq_some {cs inner : List Char} {index : ℕ} (h : unwrap cs = some (inner, index)) :
    cs = kindName ++ inner ∨ cs = '\x7b' :: (inner ++ ['\x7d']) := by
  unfold unwrap at h
  split at h
  · rename_i kind
    obtain ⟨rest, rfl⟩ := List.isPrefixOf_iff_prefix.mp kind
    obtain ⟨rfl, -⟩ := Prod.mk.inj (Option.some.inj h)
    exact .inl (by rw [List.drop_left])
  · split at h
    · rename_i braces
      obtain ⟨first, last, length⟩ := braces
      obtain ⟨rfl, -⟩ := Prod.mk.inj (Option.some.inj h)
      obtain ⟨c, rest, rfl⟩ := List.exists_cons_of_length_pos (l := cs) (by omega)
      obtain rfl : c = '\x7b' := by simpa using first
      have some_ : rest ≠ [] := by
        rintro rfl
        simp at length
      have last : rest.getLast some_ = '\x7d' := by
        rw [List.getLast?_cons_of_ne_nil some_, List.getLast?_eq_some_getLast some_] at last
        exact Option.some.inj last
      refine .inr ?_
      rw [List.drop_one, List.tail_cons, ← last, List.dropLast_concat_getLast]
    · cases h

theorem not_kindName_cons {c : Char} (h : c ≠ 'u') (cs : List Char) :
    kindName.isPrefixOf (c :: cs) = false := by
  have first : kindName = 'u' :: "rn:uuid:".toList := rfl
  rw [first, List.isPrefixOf, beq_eq_false_iff_ne.mpr (Ne.symm h), Bool.false_and]

theorem unwrap_named (inner : List Char) : unwrap (kindName ++ inner) = some (inner, 9) := by
  have kind : kindName.isPrefixOf (kindName ++ inner) = true :=
    List.isPrefixOf_iff_prefix.mpr (List.prefix_append _ _)
  rw [unwrap, if_pos kind, List.drop_left]
  rfl

theorem unwrap_braced (inner : List Char) :
    unwrap ('\x7b' :: (inner ++ ['\x7d'])) = some (inner, 1) := by
  have kind := not_kindName_cons (c := '\x7b') (by decide) (inner ++ ['\x7d'])
  have last : ('\x7b' :: (inner ++ ['\x7d'])).getLast? = some '\x7d' := by
    rw [← List.cons_append, List.getLast?_concat]
  rw [unwrap, kind, if_neg (by decide), if_pos ⟨rfl, last, by simp⟩, List.drop_one, List.tail_cons,
    List.dropLast_concat]

theorem unwrap_plain {cs : List Char} (h : ∀ c ∈ cs, Plain c) : unwrap cs = none := by
  cases cs with
  | nil => rfl
  | cons c cs =>
    have plain := h c List.mem_cons_self
    have u : c ≠ 'u' := fun same => not_plain_u (same ▸ plain)
    have brace : c ≠ '\x7b' := fun same => not_plain_brace (same ▸ plain)
    rw [unwrap, not_kindName_cons u, if_neg (by decide), if_neg]
    exact fun h => brace (Option.some.inj h.1)

/-! ## Reading -/

section Reading

variable {s : String} {u : Uuid} {ds : List Char} {n : ℕ}

theorem exists_grouped {cs : List Char} (h : ofGroups? cs = some u) : ∃ ds n,
    cs = grouped ds ∧ ds.length = 32 ∧ digits? 16 ds = some n ∧ u = ⟨BitVec.ofNat 128 n⟩ := by
  obtain ⟨ds, he, h⟩ := ofGroups?_eq_some_iff.mp h
  obtain ⟨length, n, hn, hu⟩ := ofDigits?_eq_some_iff.mp h
  exact ⟨ds, n, he, length, hn, hu⟩

/-- Whatever is read is one of the spellings. -/
theorem spelling_of_parse (h : parse s = .ok u) : ∃ ds n, Spelling ds s.toList ∧
    ds.length = 32 ∧ digits? 16 ds = some n ∧ u = ⟨BitVec.ofNat 128 n⟩ := by
  dsimp only [parse] at h
  split at h
  case h_2 => cases h
  rename_i found
  obtain rfl := Except.ok.inj h
  split at found
  · obtain ⟨length, n, hn, he⟩ := ofDigits?_eq_some_iff.mp found
    exact ⟨_, n, .simple, length, hn, he⟩
  · split at found
    · rename_i inner index wrapped
      obtain ⟨ds, n, rfl, rest⟩ := exists_grouped found
      rcases unwrap_eq_some wrapped with text | text
      · exact ⟨ds, n, text ▸ .named, rest⟩
      · exact ⟨ds, n, text ▸ .braced, rest⟩
    · obtain ⟨ds, n, text, rest⟩ := exists_grouped found
      exact ⟨ds, n, text ▸ .hyphenated, rest⟩

/-- Only a simple spelling has thirty-two bytes, since all spellings are in ASCII. -/
theorem Spelling.size {cs : List Char} (spelling : Spelling ds cs) (length : ds.length = 32)
    (plain : ∀ c ∈ ds, Plain c) : cs = ds ∨ Text.Utf8.size cs ≠ 32 := by
  have plain' := plain_of_mem_grouped length plain
  have length' := length_grouped length
  have size {cs : List Char} (h : ∀ c ∈ cs, c.toNat < 128) (longer : cs.length ≠ 32) :
      Text.Utf8.size cs ≠ 32 := by rwa [Text.Utf8.size_of_ascii h]
  cases spelling with
  | simple => exact .inl rfl
  | hyphenated => exact .inr (size (fun c hc => (plain' c hc).ascii) (by omega))
  | braced =>
    have ascii : ∀ c ∈ '\x7b' :: (grouped ds ++ ['\x7d']), c.toNat < 128 :=
      List.forall_mem_cons.mpr ⟨by decide, List.forall_mem_append.mpr
        ⟨fun c hc => (plain' c hc).ascii, List.forall_mem_singleton.mpr (by decide)⟩⟩
    exact .inr (size ascii (by simp [length']))
  | named =>
    have kind : kindName.all (fun c => c.toNat < 128) = true := rfl
    have ascii : ∀ c ∈ kindName ++ grouped ds, c.toNat < 128 :=
      List.forall_mem_append.mpr ⟨by simpa using kind, fun c hc => (plain' c hc).ascii⟩
    have longer : (kindName ++ grouped ds).length ≠ 32 := by
      rw [List.length_append, length']
      decide
    exact .inr (size ascii longer)

/-- Every spelling is read. -/
theorem Spelling.parse (spelling : Spelling ds s.toList) (length : ds.length = 32)
    (hn : digits? 16 ds = some n) : parse s = .ok ⟨BitVec.ofNat 128 n⟩ := by
  have found := ofDigits?_eq_some_iff.mpr ⟨length, n, hn, rfl⟩
  have inside := ofGroups?_eq_some_iff.mpr ⟨ds, rfl, found⟩
  have plain := plain_of_digits? hn
  have size := spelling.size length plain
  generalize hs : s.toList = cs at spelling size
  dsimp only [Uuid.parse]
  rw [hs]
  rcases size with rfl | longer
  · have ascii : ∀ c ∈ cs, c.toNat < 128 := fun c hc => (plain c hc).ascii
    rw [if_pos (by rw [Text.Utf8.size_of_ascii ascii, length]), found]
  · rw [if_neg longer]
    cases spelling with
    | simple => exact absurd (Text.Utf8.size_of_ascii fun c hc => (plain c hc).ascii) (by omega)
    | hyphenated => rw [unwrap_plain (plain_of_mem_grouped length plain), inside]
    | braced =>
      rw [unwrap_braced]
      simp only [inside]
    | named =>
      rw [unwrap_named]
      simp only [inside]

/-- The texts of an identifier. -/
theorem parse_ok_iff : parse s = .ok u ↔ ∃ ds n, Spelling ds s.toList ∧
    ds.length = 32 ∧ digits? 16 ds = some n ∧ u = ⟨BitVec.ofNat 128 n⟩ := by
  refine ⟨spelling_of_parse, ?_⟩
  rintro ⟨ds, n, spelling, length, hn, rfl⟩
  exact spelling.parse length hn

end Reading

/-! ## Writing -/

/-- An identifier is told by its text. -/
theorem parse_text (u : Uuid) : parse u.text = .ok u := by
  have length : u.digits.length = 32 := Number.length_filled (by decide) (by decide) u.bits.isLt
  have value : Number.digitsFrom? 16 0 u.digits = some u.bits.toNat :=
    Number.digitsFrom?_filled (by decide) (by decide) 32 _
  refine parse_ok_iff.mpr ⟨u.digits, u.bits.toNat, ?_, length, ?_, ?_⟩
  · rw [text, String.toList_ofList]
    exact .hyphenated
  · obtain ⟨c, rest, he⟩ := List.exists_cons_of_length_pos (l := u.digits) (by omega)
    rw [he] at value ⊢
    exact value
  · rw [BitVec.ofNat_toNat, BitVec.setWidth_eq]

end BrokerPool.Message.Uuid
