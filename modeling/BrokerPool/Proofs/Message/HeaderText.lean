import BrokerPool.Proofs.Message.Transit

/-!
# What the text of headers tells

Whoever takes a message sees its headers as one text: for every header its key, an equals sign and
its value, with commas between them. Nothing is escaped. Headers that keep the separators to
themselves can be told by their text, and others cannot: a single header can have the text of
several.

Results:
* `readHeaders_headersText`: headers are read back from their text exactly if they are plain.
* `headersText_single`: a single header with the text of several.
* `headers_told`: plain headers are told by their attribute, and apart from all other plain ones.
* `header_forged`: a header that is taken for two.
-/

namespace BrokerPool.Message

/-- No key has an equals sign in it, and no value a comma. -/
def Plain (headers : Keyed String) : Prop :=
  ∀ e ∈ headers, '=' ∉ e.1.toList ∧ ',' ∉ e.2.toList

instance (headers : Keyed String) : Decidable (Plain headers) :=
  inferInstanceAs (Decidable (∀ e ∈ headers, '=' ∉ e.1.toList ∧ ',' ∉ e.2.toList))

theorem plain_cons {key value : String} {headers : Keyed String} :
    Plain ((key, value) :: headers) ↔
      ('=' ∉ key.toList ∧ ',' ∉ value.toList) ∧ Plain headers :=
  List.forall_mem_cons

/-! ## Reading -/

mutual

/-- Reads a key as far as the first equals sign, and then its value. -/
def readKey (key : List Char) : List Char → Keyed String
  | [] => []
  | c :: cs => if c = '=' then readValue key [] cs else readKey (key ++ [c]) cs

/-- Reads a value as far as the next comma, and then the headers behind it. -/
def readValue (key value : List Char) : List Char → Keyed String
  | [] => [(String.ofList key, String.ofList value)]
  | c :: cs =>
    if c = ',' then (String.ofList key, String.ofList value) :: readKey [] cs
    else readValue key (value ++ [c]) cs

end

/-- Reads headers from a text, cutting at the separators. -/
def readHeaders (text : String) : Keyed String := readKey [] text.toList

section Reading

variable {key value cs ks vs : List Char}

theorem readKey_append (h : '=' ∉ ks) (key cs : List Char) :
    readKey key (ks ++ cs) = readKey (key ++ ks) cs := by
  induction ks generalizing key with
  | nil => rw [List.nil_append, List.append_nil]
  | cons c ks ih =>
    obtain ⟨first, rest⟩ := not_or.mp (List.mem_cons.not.mp h)
    rw [List.cons_append, readKey, if_neg (Ne.symm first), ih rest, List.append_assoc,
      List.singleton_append]

theorem readValue_append (h : ',' ∉ vs) (key value cs : List Char) :
    readValue key value (vs ++ cs) = readValue key (value ++ vs) cs := by
  induction vs generalizing value with
  | nil => rw [List.nil_append, List.append_nil]
  | cons c vs ih =>
    obtain ⟨first, rest⟩ := not_or.mp (List.mem_cons.not.mp h)
    rw [List.cons_append, readValue, if_neg (Ne.symm first), ih rest, List.append_assoc,
      List.singleton_append]

/-- What is read is plain, whatever the text. -/
theorem plain_read (cs : List Char) : (∀ key, '=' ∉ key → Plain (readKey key cs)) ∧
    ∀ key value, '=' ∉ key → ',' ∉ value → Plain (readValue key value cs) := by
  have nothing : Plain [] := fun e he => absurd he List.not_mem_nil
  have more {c d : Char} {cs : List Char} (h : d ∉ cs) (ne : c ≠ d) : d ∉ cs ++ [c] := by
    simp [h, Ne.symm ne]
  induction cs with
  | nil =>
    refine ⟨fun key _ => nothing, fun key value hk hv => plain_cons.mpr ⟨?_, nothing⟩⟩
    simp [hk, hv]
  | cons c cs ih =>
    obtain ⟨fromKey, fromValue⟩ := ih
    constructor
    · intro key hk
      rw [readKey]
      split_ifs with equals
      · exact fromValue key [] hk List.not_mem_nil
      · exact fromKey _ (more hk equals)
    · intro key value hk hv
      rw [readValue]
      split_ifs with comma
      · exact plain_cons.mpr ⟨by simp [hk, hv], fromKey [] List.not_mem_nil⟩
      · exact fromValue key _ hk (more hv comma)

end Reading

/-! ## Writing -/

/-- The text of headers. -/
def headersText (headers : Keyed String) : String :=
  ",".intercalate (headers.map fun (k, v) => k ++ "=" ++ v)

section Writing

variable {key value : String} {headers : Keyed String}

theorem headersText_cons (there : headers ≠ []) :
    headersText ((key, value) :: headers) = key ++ "=" ++ value ++ "," ++ headersText headers :=
  String.intercalate_cons_of_ne_nil (List.map_eq_nil_iff.not.mpr there)

/-- Headers are read back from their text exactly if they are plain. -/
theorem readHeaders_headersText : readHeaders (headersText headers) = headers ↔ Plain headers := by
  constructor
  · intro same
    exact same ▸ (plain_read _).1 [] List.not_mem_nil
  · intro plain
    induction headers with
    | nil => rfl
    | cons e headers ih =>
      obtain ⟨key, value⟩ := e
      obtain ⟨⟨hk, hv⟩, rest⟩ := plain_cons.mp plain
      by_cases last : headers = []
      · subst last
        have text : (headersText [(key, value)]).toList =
            key.toList ++ '=' :: (value.toList ++ []) := by
          simp [headersText]
        rw [readHeaders, text, readKey_append hk, readKey, if_pos rfl, readValue_append hv]
        simp [readValue]
      · have text : (headersText ((key, value) :: headers)).toList =
            key.toList ++ '=' :: (value.toList ++ ',' :: (headersText headers).toList) := by
          simp [headersText_cons last]
        have others := ih rest
        rw [readHeaders] at others
        rw [readHeaders, text, readKey_append hk, readKey, if_pos rfl, readValue_append hv,
          readValue, if_pos rfl, others]
        simp

/-- A single header with the text of several. -/
theorem headersText_single (there : headers ≠ []) :
    headersText [(key, value ++ "," ++ headersText headers)] =
      headersText ((key, value) :: headers) := by
  rw [headersText_cons there]
  simp [headersText, String.append_assoc]

end Writing

/-! ## Messages -/

/-- The attribute for the headers of a message that is handed over as it was published. -/
def headersAttribute? (s : Config.Publishing) (m : Outbound) (redelivered : Bool) : Option String :=
  ((Broker.publication s m).delivery redelivered).attributes.lookup "amqp$headers"

theorem headersAttribute?_eq (s : Config.Publishing) (m : Outbound) (redelivered : Bool) :
    headersAttribute? s m redelivered =
      if m.headers = [] then none else some (headersText m.headers) := by
  have text : m.headerText = headersText m.headers := rfl
  rw [headersAttribute?, attributes_delivery, text]
  cases m.contentType <;> by_cases bare : m.headers = [] <;> simp [List.lookup_cons, bare]

/-- Plain headers are told by their attribute, and apart from all other plain headers. -/
theorem headers_told {m : Outbound} (there : m.headers ≠ []) (plain : Plain m.headers)
    (s : Config.Publishing) (redelivered : Bool) :
    (headersAttribute? s m redelivered).map readHeaders = some m.headers ∧
      ∀ m' : Outbound, Plain m'.headers → m'.headers ≠ m.headers → ∀ s' redelivered',
        headersAttribute? s' m' redelivered' ≠ headersAttribute? s m redelivered := by
  have told : (headersAttribute? s m redelivered).map readHeaders = some m.headers := by
    rw [headersAttribute?_eq, if_neg there, Option.map_some, readHeaders_headersText.mpr plain]
  refine ⟨told, fun m' plain' differ s' redelivered' same => differ ?_⟩
  rw [← same, headersAttribute?_eq] at told
  split_ifs at told with bare
  · cases told
  · rw [Option.map_some, readHeaders_headersText.mpr plain'] at told
    exact Option.some.inj told

/-- A message whose headers have separators in them, and can be told all the same. -/
def separated : Outbound where
  payload := ""
  headers := Keyed.ofList [("a,b", "1=2"), ("c", "=")]

theorem headers_told_separated : separated.headers ≠ [] ∧ Plain separated.headers ∧
    (headersAttribute? {} separated true).map readHeaders = some separated.headers ∧
    ∀ m' : Outbound, Plain m'.headers → m'.headers ≠ separated.headers → ∀ s' redelivered',
      headersAttribute? s' m' redelivered' ≠ headersAttribute? {} separated true := by
  have there : separated.headers ≠ [] := by decide +kernel
  have plain : Plain separated.headers := by decide +kernel
  exact ⟨there, plain, headers_told there plain {} true⟩

/-- A message with one header. -/
def forging : Outbound := ({ payload := "" } : Outbound).withHeader "a" "1,b=2"

/-- A message with two headers. -/
def forged : Outbound := (({ payload := "" } : Outbound).withHeader "a" "1").withHeader "b" "2"

/-- A header that is taken for two. -/
theorem header_forged : forging.headers ≠ [] ∧ forged.headers ≠ [] ∧
    forging.headers ≠ forged.headers ∧
    headersAttribute? {} forging false = headersAttribute? {} forged false := by
  decide +kernel

end BrokerPool.Message
