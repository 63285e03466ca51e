import BrokerPool.Proofs.Json.Scanning

/-!
# The reader accepts JSON

The reader descends into a text with as much fuel as the text is long. It reads every text of the
grammar, and what it gives back is what the grammar says; and whatever it has read without meeting a
flaw is a text of the grammar. So a text denotes at most one value.

Results:
* `ofString_of_jsonText`: every text of the grammar is read.
* `jsonText_of_ofString`: whatever is read without a flaw is a text of the grammar.
* `JsonText.unique`: a text denotes at most one value.
-/

namespace BrokerPool.Json

open Number (isDigit)

/-! ## Texts of the grammar are read -/

theorem Denotes.head {cs rest : List Char} {t : Tree} (h : Denotes cs t rest) :
    ∃ c more, cs = c :: more ∧ isSpace c = false ∧ c ≠ ']' := by
  cases h with
  | number h =>
    obtain ⟨sign, digits, -, -⟩ := h
    cases sign with
    | minus => exact ⟨_, _, rfl, by decide, by decide⟩
    | none =>
      obtain ⟨c, more, rfl, digit⟩ := digits.head
      refine ⟨c, more, rfl, ?_, ?_⟩
      · cases hs : isSpace c with
        | false => rfl
        | true =>
          simp only [isSpace, Bool.or_eq_true, decide_eq_true_eq] at hs
          rcases hs with ((rfl | rfl) | rfl) | rfl <;> revert digit <;> decide
      · rintro rfl
        revert digit
        decide
  | _ => exact ⟨_, _, rfl, by decide, by decide⟩

theorem skipSpace_of_head {cs cs' rest : List Char} {c : Char} (h : Blanks cs cs')
    (he : cs' = c :: rest) (head : isSpace c = false) :
    skipSpace (cs.map some) = some c :: rest.map some := by
  rw [skipSpace_of_blanks h, he, List.map_cons, skipSpace_cons head]

/-- Behind a value there is a blank, a comma or a bracket, and so it is no longer a number. -/
theorem Blanks.noNumber {cs rest : List Char} (h : Blanks cs rest) (ends : NoNumber rest) :
    NoNumber cs := by
  cases h with
  | none => exact ends
  | some blank _ =>
    rintro c ⟨⟩
    simp only [isSpace, Bool.or_eq_true, decide_eq_true_eq] at blank
    rcases blank with ((rfl | rfl) | rfl) | rfl <;> decide

theorem ItemsRest.noNumber {cs rest : List Char} {items : Items} (h : ItemsRest cs items rest) :
    NoNumber cs := by
  cases h with
  | close h | comma h => exact h.noNumber (by rintro c ⟨⟩; decide)

theorem MembersRest.noNumber {cs rest : List Char} {members : Members}
    (h : MembersRest cs members rest) : NoNumber cs := by
  cases h with
  | close h | comma h => exact h.noNumber (by rintro c ⟨⟩; decide)

/-- Only what stands behind the blanks at the beginning is read. -/
theorem readValue_of_blanks {cs rest : List Char} (h : Blanks cs rest) (fuel : ℕ) :
    readValue fuel (cs.map some) = readValue fuel (rest.map some) := by
  cases fuel with
  | zero => rfl
  | succ fuel => rw [readValue, readValue, skipSpace_of_blanks h]

theorem scanned_string {cs rest : List Char} {ps : List Piece} (h : BodyText cs ps rest) :
    (scanString Scan.start (cs.map some)).rest = .ok (rest.map some) ∧
      (scanString Scan.start (cs.map some)).content.toOption = Piece.text? ps := by
  have start : Scan.start.position = .plain := rfl
  rw [scanString_of_body h start]
  exact ⟨rfl, close_start ps⟩

/-- A number is read by its first character. -/
theorem readValue_number {cs rest : List Char} {n : Option Numeral} (h : NumberText cs n rest)
    (ends : NoNumber rest) (fuel : ℕ) :
    readValue (fuel + 1) (cs.map some) = (.number n, some (rest.map some)) := by
  have scanned := scanNumber_of_text h ends
  obtain ⟨c, more, rfl, blank, -⟩ := (Denotes.number h).head
  have first : c = '-' ∨ isDigit c = true := by
    obtain ⟨sign, digits, -, -⟩ := h
    cases sign with
    | minus => exact .inl rfl
    | none =>
      obtain ⟨d, _, he, digit⟩ := digits.head
      exact .inr ((List.cons.inj he).1 ▸ digit)
  have others : c ≠ 'n' ∧ c ≠ 't' ∧ c ≠ 'f' ∧ c ≠ '"' := by
    refine ⟨?_, ?_, ?_, ?_⟩ <;>
    · rintro rfl
      revert first
      decide
  rw [List.map_cons] at scanned ⊢
  rw [readValue, skipSpace_cons blank]
  simp only [others, ite_false, if_pos first, scanned]

theorem readItems_close {cs rest : List Char} (h : Blanks cs (']' :: rest)) (fuel : ℕ)
    (first : Bool) : readItems (fuel + 1) first (cs.map some) = (.done, some (rest.map some)) := by
  rw [readItems, skipSpace_of_head h rfl (by decide)]
  rfl

theorem readMembers_close {cs rest : List Char} (h : Blanks cs ('\x7d' :: rest)) (fuel : ℕ)
    (first : Bool) :
    readMembers (fuel + 1) first (cs.map some) = (.done, some (rest.map some)) := by
  rw [readMembers, skipSpace_of_head h rfl (by decide)]
  rfl

/-- Arrays and objects are read from behind their brackets. -/
theorem readValue_array (fuel : ℕ) (cs : List Symbol) :
    readValue (fuel + 1) (some '[' :: cs) =
      (.array (readItems fuel true cs).1, (readItems fuel true cs).2) := by
  rw [readValue, skipSpace_cons (by decide)]
  rfl

theorem readValue_object (fuel : ℕ) (cs : List Symbol) :
    readValue (fuel + 1) (some '\x7b' :: cs) =
      (.object (readMembers fuel true cs).1, (readMembers fuel true cs).2) := by
  rw [readValue, skipSpace_cons (by decide)]
  rfl

mutual

theorem readValue_of_denotes {cs rest : List Char} {t : Tree} :
    Denotes cs t rest → NoNumber rest → ∀ fuel, 4 * cs.length ≤ fuel →
      readValue fuel (cs.map some) = (t, some (rest.map some))
  | h, _, 0, enough => by
    obtain ⟨c, more, rfl, -⟩ := h.head
    simp at enough
  | .null _, _, fuel + 1, _ => by
    rw [List.map_cons, readValue, skipSpace_cons (by decide)]
    exact if_pos rfl
  | .yes _, _, fuel + 1, _ => by
    rw [List.map_cons, readValue, skipSpace_cons (by decide)]
    rfl
  | .no _, _, fuel + 1, _ => by
    rw [List.map_cons, readValue, skipSpace_cons (by decide)]
    rfl
  | .number h, ends, fuel + 1, _ => readValue_number h ends fuel
  | .string h, _, fuel + 1, _ => by
    obtain ⟨after, content⟩ := scanned_string h
    rw [List.map_cons, readValue, skipSpace_cons (by decide)]
    simp only [Char.reduceEq, ite_false, ite_true, after, content]
  | .emptyArray h, _, fuel + 1, enough => by
    obtain ⟨fuel, rfl⟩ : ∃ n, fuel = n + 1 := ⟨fuel - 1, by simp at enough; omega⟩
    rw [List.map_cons, readValue_array, readItems_close h]
  | .array h, _, fuel + 1, enough => by
    obtain ⟨fuel, rfl⟩ : ∃ n, fuel = n + 1 := ⟨fuel - 1, by simp at enough; omega⟩
    obtain ⟨c, more, skipped, head, read⟩ := readItem_of_text h fuel (by simp at enough; omega)
    rw [List.map_cons, readValue_array, readItems, skipped]
    simp [head, read]
  | .emptyObject h, _, fuel + 1, enough => by
    obtain ⟨fuel, rfl⟩ : ∃ n, fuel = n + 1 := ⟨fuel - 1, by simp at enough; omega⟩
    rw [List.map_cons, readValue_object, readMembers_close h]
  | .object h, _, fuel + 1, enough => by
    obtain ⟨fuel, rfl⟩ : ∃ n, fuel = n + 1 := ⟨fuel - 1, by simp at enough; omega⟩
    obtain ⟨more, skipped, read⟩ := readMember_of_text h fuel (by simp at enough; omega)
    rw [List.map_cons, readValue_object, readMembers, skipped]
    simp [read]

theorem readItem_of_text {cs rest : List Char} {items : Items} :
    ItemsText cs items rest → ∀ fuel, 4 * cs.length + 2 ≤ fuel →
      ∃ c more, skipSpace (cs.map some) = some c :: more ∧ c ≠ ']' ∧
        readItem fuel (some c :: more) = (items, some (rest.map some))
  | .item before value tail, 0, enough => by simp at enough
  | .item before value tail, fuel + 1, enough => by
    have := before.length_le
    have := value.shorter
    have read := readValue_of_denotes value tail.noNumber fuel (by omega)
    have others := readItems_of_rest tail fuel (by omega)
    obtain ⟨c, more, rfl, blank, bracket⟩ := value.head
    refine ⟨c, more.map some, skipSpace_of_head before rfl blank, bracket, ?_⟩
    rw [List.map_cons] at read
    rw [readItem, read]
    simp only [others]

theorem readItems_of_rest {cs rest : List Char} {items : Items} :
    ItemsRest cs items rest → ∀ fuel, 4 * cs.length + 3 ≤ fuel →
      readItems fuel false (cs.map some) = (items, some (rest.map some))
  | .close h, 0, enough | .comma h tail, 0, enough => by simp at enough
  | .close h, fuel + 1, _ => readItems_close h fuel false
  | .comma h tail, fuel + 1, enough => by
    have := h.length_le
    obtain ⟨c, more, skipped, head, read⟩ :=
      readItem_of_text tail fuel (by simp at this; omega)
    rw [readItems, skipSpace_of_head h rfl (by decide)]
    simp [skipped, head, read]

theorem readMember_of_text {cs rest : List Char} {members : Members} :
    MembersText cs members rest → ∀ fuel, 4 * cs.length + 2 ≤ fuel →
      ∃ more, skipSpace (cs.map some) = some '"' :: more ∧
        readMember fuel (some '"' :: more) = (members, some (rest.map some))
  | .member before key colon after value tail, 0, enough => by simp at enough
  | .member before key colon after value tail, fuel + 1, enough => by
    have := before.length_le
    have := key.shorter
    have := colon.length_le
    have := after.length_le
    have := value.shorter
    simp only [List.length_cons] at *
    have read := readValue_of_denotes value tail.noNumber fuel (by omega)
    have others := readMembers_of_rest tail fuel (by omega)
    obtain ⟨scanned, content⟩ := scanned_string key
    refine ⟨_, skipSpace_of_head before rfl (by decide), ?_⟩
    rw [readMember]
    simp only [scanned, content, skipSpace_of_head colon rfl (by decide : isSpace ':' = false),
      readValue_of_blanks after, read, others]

theorem readMembers_of_rest {cs rest : List Char} {members : Members} :
    MembersRest cs members rest → ∀ fuel, 4 * cs.length + 3 ≤ fuel →
      readMembers fuel false (cs.map some) = (members, some (rest.map some))
  | .close h, 0, enough | .comma h tail, 0, enough => by simp at enough
  | .close h, fuel + 1, _ => readMembers_close h fuel false
  | .comma h tail, fuel + 1, enough => by
    have := h.length_le
    obtain ⟨more, skipped, read⟩ := readMember_of_text tail fuel (by simp at this; omega)
    rw [readMembers, skipSpace_of_head h rfl (by decide)]
    simp [skipped, read]

end

/-! ## What is read is a text of the grammar -/

/-- What has been read stands at the beginning of the text, or else it is broken. -/
def Found {α : Type} (flaw? : α → Option Flaw) (text : α → List Char → Prop) :
    α × Option (List Symbol) → Prop
  | (a, none) => (flaw? a).isSome
  | (a, some after) => ∃ rest, after = rest.map some ∧ text a rest

theorem Found.lift {α β : Type} {flaw? : α → Option Flaw} {flaw'? : β → Option Flaw}
    {text : α → List Char → Prop} {text' : β → List Char → Prop}
    {r : α × Option (List Symbol)} (h : Found flaw? text r) (f : α → β)
    (flaws : ∀ a, (flaw? a).isSome → (flaw'? (f a)).isSome)
    (texts : ∀ a rest, text a rest → text' (f a) rest) : Found flaw'? text' (f r.1, r.2) := by
  obtain ⟨a, _ | after⟩ := r
  · exact flaws a h
  · obtain ⟨rest, ha, found⟩ := h
    exact ⟨rest, ha, texts a rest found⟩

theorem Found.imp {α : Type} {flaw? : α → Option Flaw} {text text' : α → List Char → Prop}
    {r : α × Option (List Symbol)} (h : Found flaw? text r)
    (texts : ∀ a rest, text a rest → text' a rest) : Found flaw? text' r :=
  h.lift id (fun _ => id) texts

/-- What the reader finds with some fuel, whatever the text. -/
structure Finds (fuel : ℕ) : Prop where
  value : ∀ cs, Found Tree.skipFlaw? (fun t rest => ∃ cs', Blanks cs cs' ∧ Denotes cs' t rest)
    (readValue fuel (cs.map some))
  items : ∀ cs, Found Items.skipFlaw?
    (fun items rest => Blanks cs (']' :: rest) ∧ items = .done ∨ ItemsText cs items rest)
    (readItems fuel true (cs.map some))
  itemsRest : ∀ cs, Found Items.skipFlaw? (ItemsRest cs) (readItems fuel false (cs.map some))
  item : ∀ cs, Found Items.skipFlaw? (ItemsText cs) (readItem fuel (cs.map some))
  members : ∀ cs, Found Members.skipFlaw?
    (fun members rest => Blanks cs ('\x7d' :: rest) ∧ members = .done ∨ MembersText cs members rest)
    (readMembers fuel true (cs.map some))
  membersRest : ∀ cs, Found Members.skipFlaw? (MembersRest cs)
    (readMembers fuel false (cs.map some))
  member : ∀ cs, Found Members.skipFlaw? (MembersText cs) (readMember fuel (cs.map some))

theorem word_eq_ok {w cs : List Char} {after : List Symbol} (h : word w (cs.map some) = .ok after) :
    ∃ rest, cs = w ++ rest ∧ after = rest.map some := by
  induction w generalizing cs with
  | nil => exact ⟨cs, rfl, (Except.ok.inj h).symm⟩
  | cons c w ih =>
    cases cs with
    | nil => cases h
    | cons d cs =>
      rw [List.map_cons, word] at h
      split_ifs at h with same
      obtain ⟨rest, rfl, rfl⟩ := ih h
      exact ⟨rest, by rw [Option.some.inj same]; rfl, rfl⟩

theorem found_wordValue {t : Tree} {w : String} {cs : List Char} {text : Tree → List Char → Prop}
    (h : ∀ rest, cs = w.toList ++ rest → text t rest) :
    Found Tree.skipFlaw? text (wordValue t w (cs.map some)) := by
  unfold wordValue
  cases hw : word w.toList (cs.map some) with
  | error flaw => exact rfl
  | ok after =>
    obtain ⟨rest, he, rfl⟩ := word_eq_ok hw
    exact ⟨rest, rfl, h rest he⟩

theorem Blanks.trans {cs cs' rest : List Char} (h : Blanks cs cs') (h' : Blanks cs' rest) :
    Blanks cs rest := by
  induction h with
  | none => exact h'
  | some blank _ ih => exact .some blank (ih h')

/-- Blanks before an item belong to it. -/
theorem ItemsText.blanks {cs cs' rest : List Char} {items : Items}
    (text : ItemsText cs' items rest) (h : Blanks cs cs') : ItemsText cs items rest := by
  obtain ⟨before, value, tail⟩ := text
  exact .item (h.trans before) value tail

theorem MembersText.blanks {cs cs' rest : List Char} {members : Members}
    (text : MembersText cs' members rest) (h : Blanks cs cs') : MembersText cs members rest := by
  obtain ⟨before, key, colon, after, value, tail⟩ := text
  exact .member (h.trans before) key colon after value tail

theorem scanString_cases (cs : List Char) :
    (∃ flaw, (scanString Scan.start (cs.map some)).rest = .error flaw) ∨
    ∃ ps rest, BodyText cs ps rest ∧
      (scanString Scan.start (cs.map some)).rest = .ok (rest.map some) ∧
      (scanString Scan.start (cs.map some)).content.toOption = Piece.text? ps := by
  cases hs : (scanString Scan.start (cs.map some)).rest with
  | error flaw => exact .inl ⟨flaw, rfl⟩
  | ok after =>
    have start : Scan.start.position = .plain := rfl
    obtain ⟨ps, rest, body, rfl⟩ := body_of_scanString start hs
    exact .inr ⟨ps, rest, body, rfl, (scanned_string body).2⟩

section Steps

variable {fuel : ℕ} (ih : Finds fuel) (cs : List Char)
include ih

theorem Finds.value_succ : Found Tree.skipFlaw?
    (fun t rest => ∃ cs', Blanks cs cs' ∧ Denotes cs' t rest)
    (readValue (fuel + 1) (cs.map some)) := by
  obtain ⟨cs', before, skipped, head⟩ := blanks_skipSpace cs
  suffices found : Found Tree.skipFlaw? (Denotes cs') (readValue (fuel + 1) (cs.map some)) from
    found.imp fun t rest denotes => ⟨cs', before, denotes⟩
  rw [readValue, skipped]
  cases cs' with
  | nil => exact rfl
  | cons c more =>
    simp only [List.map_cons]
    split_ifs with null yes no string number array object
    · subst null
      exact found_wordValue fun rest he => he ▸ .null rest
    · subst yes
      exact found_wordValue fun rest he => he ▸ .yes rest
    · subst no
      exact found_wordValue fun rest he => he ▸ .no rest
    · subst string
      obtain ⟨flaw, scanned⟩ | ⟨ps, rest, body, scanned, content⟩ := scanString_cases more
      · rw [scanned]
        exact rfl
      · rw [scanned, content]
        exact ⟨rest, rfl, .string body⟩
    · cases scanned : (scanNumber ((c :: more).map some)).rest with
      | error flaw =>
        rw [List.map_cons] at scanned
        rw [scanned]
        exact rfl
      | ok after =>
        obtain ⟨n, rest, text, all⟩ := text_of_scanNumber scanned
        rw [List.map_cons] at all
        rw [all]
        exact ⟨rest, rfl, .number text⟩
    · subst array
      refine (ih.items more).lift Tree.array (fun _ => id) fun items rest found => ?_
      obtain ⟨close, rfl⟩ | text := found
      · exact .emptyArray close
      · exact .array text
    · subst object
      refine (ih.members more).lift Tree.object (fun _ => id) fun members rest found => ?_
      obtain ⟨close, rfl⟩ | text := found
      · exact .emptyObject close
      · exact .object text
    · exact rfl

theorem Finds.item_succ : Found Items.skipFlaw? (ItemsText cs)
    (readItem (fuel + 1) (cs.map some)) := by
  have value := ih.value cs
  rw [readItem]
  generalize readValue fuel (cs.map some) = r at value
  obtain ⟨t, _ | after⟩ := r
  · obtain ⟨flaw, hf⟩ := Option.isSome_iff_exists.mp value
    simp [Found, Items.skipFlaw?, hf]
  · obtain ⟨more, rfl, cs', before, denotes⟩ := value
    have flawless := denotes.sound
    refine (ih.itemsRest more).lift (Items.cons t) (fun items flaw => ?_) fun items rest tail => ?_
    · rwa [Items.skipFlaw?, flawless]
    · exact .item before denotes tail

theorem Finds.items_succ : Found Items.skipFlaw?
    (fun items rest => Blanks cs (']' :: rest) ∧ items = .done ∨ ItemsText cs items rest)
    (readItems (fuel + 1) true (cs.map some)) := by
  obtain ⟨cs', before, skipped, -⟩ := blanks_skipSpace cs
  rw [readItems, skipped]
  rcases cs' with _ | ⟨c, more⟩
  · exact rfl
  · by_cases close : c = ']'
    · subst close
      exact ⟨more, rfl, .inl ⟨before, rfl⟩⟩
    · have found := ih.item (c :: more)
      rw [List.map_cons] at found ⊢
      split
      · simp_all
      · simp_all
      · rename_i x rest' open_ he
        obtain ⟨rfl, rfl⟩ := List.cons.inj he
        exact found.imp fun items rest text => .inr (text.blanks before)

theorem Finds.itemsRest_succ : Found Items.skipFlaw? (ItemsRest cs)
    (readItems (fuel + 1) false (cs.map some)) := by
  obtain ⟨cs', before, skipped, -⟩ := blanks_skipSpace cs
  rw [readItems, skipped]
  rcases cs' with _ | ⟨c, more⟩
  · exact rfl
  · by_cases close : c = ']'
    · subst close
      exact ⟨more, rfl, .close before⟩
    · rw [List.map_cons]
      split
      · simp_all
      · simp_all
      · rename_i x rest' open_ he
        obtain ⟨rfl, rfl⟩ := List.cons.inj he
        rw [if_neg (by simp)]
        split_ifs with comma
        · obtain rfl : c = ',' := Option.some.inj comma
          obtain ⟨more', behind, skipped', -⟩ := blanks_skipSpace more
          rw [skipped']
          split
          · exact rfl
          · exact (ih.item more').imp fun items rest text => .comma before (text.blanks behind)
        · exact rfl

theorem Finds.members_succ : Found Members.skipFlaw?
    (fun members rest => Blanks cs ('\x7d' :: rest) ∧ members = .done ∨ MembersText cs members rest)
    (readMembers (fuel + 1) true (cs.map some)) := by
  obtain ⟨cs', before, skipped, -⟩ := blanks_skipSpace cs
  rw [readMembers, skipped]
  rcases cs' with _ | ⟨c, more⟩
  · exact rfl
  · by_cases close : c = '\x7d'
    · subst close
      exact ⟨more, rfl, .inl ⟨before, rfl⟩⟩
    · have found := ih.member (c :: more)
      rw [List.map_cons] at found ⊢
      split
      · simp_all
      · simp_all
      · rename_i x rest' open_ he
        obtain ⟨rfl, rfl⟩ := List.cons.inj he
        exact found.imp fun members rest text => .inr (text.blanks before)

theorem Finds.membersRest_succ : Found Members.skipFlaw? (MembersRest cs)
    (readMembers (fuel + 1) false (cs.map some)) := by
  obtain ⟨cs', before, skipped, -⟩ := blanks_skipSpace cs
  rw [readMembers, skipped]
  rcases cs' with _ | ⟨c, more⟩
  · exact rfl
  · by_cases close : c = '\x7d'
    · subst close
      exact ⟨more, rfl, .close before⟩
    · rw [List.map_cons]
      split
      · simp_all
      · simp_all
      · rename_i x rest' open_ he
        obtain ⟨rfl, rfl⟩ := List.cons.inj he
        rw [if_neg (by simp)]
        split_ifs with comma
        · obtain rfl : c = ',' := Option.some.inj comma
          obtain ⟨more', behind, skipped', -⟩ := blanks_skipSpace more
          rw [skipped']
          exact (ih.member more').imp fun members rest text => .comma before (text.blanks behind)
        · exact rfl

theorem Finds.member_succ : Found Members.skipFlaw? (MembersText cs)
    (readMember (fuel + 1) (cs.map some)) := by
  rcases cs with _ | ⟨c, body⟩
  · exact rfl
  · by_cases quote : c = '"'
    · subst quote
      rw [List.map_cons, readMember]
      obtain ⟨flaw, scanned⟩ | ⟨ps, behind, key, scanned, content⟩ := scanString_cases body
      · rw [scanned]
        exact rfl
      · obtain ⟨behind', colon, skipped, -⟩ := blanks_skipSpace behind
        simp only [scanned, content, skipped]
        rcases behind' with _ | ⟨d, value⟩
        · exact rfl
        · by_cases mark : d = ':'
          · subst mark
            have found := ih.value value
            simp only [List.map_cons]
            generalize readValue fuel (value.map some) = r at found
            obtain ⟨t, _ | after⟩ := r
            · obtain ⟨flaw, hf⟩ := Option.isSome_iff_exists.mp found
              simp [Found, Members.skipFlaw?, hf]
            · obtain ⟨more, rfl, value', blanks, denotes⟩ := found
              have flawless := denotes.sound
              refine (ih.membersRest more).lift (Members.cons (Piece.text? ps) t)
                (fun members flaw => ?_) fun members rest tail => ?_
              · rwa [Members.skipFlaw?, flawless]
              · exact .member (.none _) key colon blanks denotes tail
          · rw [List.map_cons]
            split
            · simp_all
            · simp_all
            · exact rfl
    · rw [List.map_cons, readMember]
      · exact rfl
      · simpa using fun h => absurd h quote

end Steps

/-- Whatever is read without a flaw is a text of the grammar. -/
theorem finds (fuel : ℕ) : Finds fuel := by
  induction fuel with
  | zero => constructor <;> intro cs <;> exact rfl
  | succ fuel ih =>
    exact ⟨ih.value_succ, ih.items_succ, ih.itemsRest_succ, ih.item_succ, ih.members_succ,
      ih.membersRest_succ, ih.member_succ⟩

/-! ## Whole texts -/

variable {s : String} {t : Tree}

/-- Every text of the grammar is read. -/
theorem ofString_of_jsonText (h : JsonText s t) : Document.ofString s = ⟨t, false⟩ := by
  obtain ⟨before, value, after⟩ := h
  have ends : NoNumber _ := after.noNumber (by rintro c ⟨⟩)
  have := before.length_le
  have read := readValue_of_denotes value ends (4 * s.toList.length + 4) (by omega)
  rw [Document.ofString, Document.ofSymbols, List.length_map, readValue_of_blanks before, read]
  have skipped : skipSpace (_ : List Symbol) = [] := skipSpace_of_blanks after
  simp [skipped]

/-- Whatever is read without a flaw is a text of the grammar. -/
theorem jsonText_of_ofString (h : Document.ofString s = ⟨t, false⟩) (sound : t.skipFlaw? = none) :
    JsonText s t := by
  have found := (finds (4 * s.toList.length + 4)).value s.toList
  rw [Document.ofString, Document.ofSymbols, List.length_map] at h
  generalize readValue (4 * s.toList.length + 4) (s.toList.map some) = r at found h
  obtain ⟨t', _ | after⟩ := r
  · obtain rfl : t' = t := (Document.mk.inj h).1
    simp [Found, sound] at found
  · obtain ⟨rest, rfl, cs, before, value⟩ := found
    obtain ⟨rfl, trailing⟩ := Document.mk.inj h
    obtain ⟨rest', blanks, skipped, -⟩ := blanks_skipSpace rest
    rw [skipped] at trailing
    obtain rfl : rest' = [] := by simpa using trailing
    exact .whole before value blanks

/-- A text denotes one value at most. -/
theorem JsonText.unique {t' : Tree} (h : JsonText s t) (h' : JsonText s t') : t = t' := by
  have same := (ofString_of_jsonText h).symm.trans (ofString_of_jsonText h')
  exact (Document.mk.inj same).1

theorem JsonText.sound (h : JsonText s t) : t.skipFlaw? = none := by
  obtain ⟨-, value, -⟩ := h
  exact value.sound

end BrokerPool.Json
