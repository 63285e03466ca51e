import BrokerPool.Json.Value
import BrokerPool.Proofs.Json.Reading

/-!
# Printed values are JSON

The compact text of a value is a text of the grammar that denotes the value. So it is read back,
and the value is told by its text.

Results:
* `prints_string`, `prints_object`, …: how the text of a value is put together.
* `Value.Prints.jsonText`: the printed text is JSON.
-/

namespace BrokerPool.Json

/-- The characters of a value denote it, whatever stands behind them. -/
def Value.Prints (v : Value) : Prop := ∀ rest, Denotes (v.chars ++ rest) v.toTree rest

/-! ## Strings -/

/-- A character stands in a printed string as one piece. -/
theorem pieceText_escape (c : Char) (rest : List Char) : ∃ p, PieceText (escape c ++ rest) p rest ∧
    ∀ ps, Piece.chars? (p :: ps) = (Piece.chars? ps).map (c :: ·) := by
  have letter {l : Char} (h : Letter l c) (he : escape c = ['\\', l]) :
      ∃ p, PieceText (escape c ++ rest) p rest ∧
        ∀ ps, Piece.chars? (p :: ps) = (Piece.chars? ps).map (c :: ·) :=
    ⟨.char c, he ▸ .letter h, fun ps => by rw [Piece.chars?]⟩
  by_cases quote : c = '"'
  · subst quote; exact letter .quote rfl
  by_cases backslash : c = '\\'
  · subst backslash; exact letter .backslash rfl
  by_cases backspace : c = '\x08'
  · subst backspace; exact letter .backspace rfl
  by_cases formFeed : c = '\x0c'
  · subst formFeed; exact letter .formFeed rfl
  by_cases lineFeed : c = '\n'
  · subst lineFeed; exact letter .lineFeed rfl
  by_cases carriageReturn : c = '\r'
  · subst carriageReturn; exact letter .carriageReturn rfl
  by_cases tab : c = '\t'
  · subst tab; exact letter .tab rfl
  rw [escape, if_neg quote, if_neg backslash, if_neg backspace, if_neg formFeed, if_neg lineFeed,
    if_neg carriageReturn, if_neg tab]
  by_cases control : c < ' '
  · -- The other control characters stand as units, which no pair has.
    have small : c.toNat < 32 := control
    have digits : ∀ n < 32, Number.digits? 16
        ['0', '0', Nat.digitChar (n / 16), Nat.digitChar (n % 16)] = some n := by decide
    have alone : ∀ n < 32, Piece.isHigh n = false ∧ Piece.isLow n = false := by decide
    rw [if_pos control]
    refine ⟨.unit c.toNat, .unit rfl (digits _ small), fun ps => ?_⟩
    rw [Piece.chars?_unit, (alone _ small).1, (alone _ small).2, Char.ofNat_toNat]
    rfl
  · rw [if_neg control]
    exact ⟨.char c, .plain quote backslash control, fun ps => by rw [Piece.chars?]⟩

theorem bodyText_escape (cs rest : List Char) : ∃ ps,
    BodyText (cs.flatMap escape ++ '"' :: rest) ps rest ∧ Piece.chars? ps = some cs := by
  induction cs with
  | nil => exact ⟨[], .close rest, rfl⟩
  | cons c cs ih =>
    obtain ⟨ps, body, chars⟩ := ih
    obtain ⟨p, head, piece⟩ := pieceText_escape c (cs.flatMap escape ++ '"' :: rest)
    refine ⟨p :: ps, ?_, by rw [piece, chars]; rfl⟩
    rw [List.flatMap_cons, List.append_assoc]
    exact .piece head body

/-- A printed text is a string that denotes it. -/
theorem bodyText_quote (s : String) (rest : List Char) : ∃ body ps,
    quote s ++ rest = '"' :: body ∧ BodyText body ps rest ∧ Piece.text? ps = some s := by
  obtain ⟨ps, body, chars⟩ := bodyText_escape s.toList rest
  refine ⟨s.toList.flatMap escape ++ '"' :: rest, ps, ?_, body, ?_⟩
  · simp [quote]
  · rw [Piece.text?, chars, Option.map_some, String.ofList_toList]

/-! ## Values -/

theorem prints_null : Value.Prints .null := fun rest => .null rest

theorem prints_string (s : String) : Value.Prints (.string s) := fun rest => by
  obtain ⟨body, ps, he, text, hs⟩ := bodyText_quote s rest
  rw [Value.chars, he, Value.toTree, ← hs]
  exact .string text

theorem prints_ofText? (s : Option String) : Value.Prints (.ofText? s) := by
  cases s with
  | none => exact prints_null
  | some s => exact prints_string s

section Objects

variable {members : List (String × Value)} {rest : List Char}

theorem memberChars_false_cons (m : String × Value) (members : List (String × Value)) :
    memberChars false (m :: members) = ',' :: memberChars true (m :: members) := by
  simp [memberChars]

/-- The first member, in front of the others. -/
theorem membersText_cons {k : String} {v : Value} (first : v.Prints)
    (others : MembersRest (memberChars false members ++ rest) (Members.ofList members) rest) :
    MembersText (memberChars true ((k, v) :: members) ++ rest)
      (Members.ofList ((k, v) :: members)) rest := by
  obtain ⟨body, ps, he, text, hs⟩ :=
    bodyText_quote k (':' :: (v.chars ++ (memberChars false members ++ rest)))
  have whole : memberChars true ((k, v) :: members) ++ rest = '"' :: body := by
    rw [← he]
    simp [memberChars]
  rw [whole, Members.ofList, ← hs]
  exact .member (.none _) text (.none _) (.none _) (first _) others

theorem membersRest_memberChars (h : ∀ m ∈ members, m.2.Prints) :
    MembersRest (memberChars false members ++ rest) (Members.ofList members) rest := by
  induction members with
  | nil => exact .close (.none _)
  | cons m members ih =>
    rw [List.forall_mem_cons] at h
    rw [memberChars_false_cons]
    exact .comma (.none _) (membersText_cons h.1 (ih h.2))

theorem prints_object (h : ∀ m ∈ members, m.2.Prints) : Value.Prints (.object members) := by
  intro rest
  cases members with
  | nil => exact .emptyObject (.none _)
  | cons m members =>
    rw [List.forall_mem_cons] at h
    exact .object (membersText_cons h.1 (membersRest_memberChars h.2))

end Objects

/-- A printed value is JSON that denotes the value. -/
theorem Value.Prints.jsonText {v : Value} (h : v.Prints) : JsonText v.print v.toTree := by
  have text := h []
  rw [List.append_nil] at text
  refine .whole ?_ text (.none [])
  rw [Value.print, String.toList_ofList]
  exact .none v.chars

end BrokerPool.Json
