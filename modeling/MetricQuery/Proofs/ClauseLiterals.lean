import MetricQuery.Proofs.ClauseScope

/-!
# Literals of the clause language read back

A literal without doubles, dates and moments is read off the front of a text as it was, wherever a
comma, a closing parenthesis or a blank stands behind it, or nothing.  So no two of them are written
alike.

* `Literal.IsReadable`        : nulls, truth values, integers, texts, and lists of these;
* `ClauseText.literal`        : the reader, from left to right;
* `ClauseText.EndsLiteral`    : what may stand behind a literal;
* `splitQuoted?_escapeSingle`   : the reader undoes each escape;
* `escapesNext_of_quote`      : a quote within a text is escaped;
* `literalWithin_clauseText`  : a literal reads back, one case for each kind of it;
* `Literal.clauseText_reads`  : what the reader makes of literals, and where their texts end.
-/

set_option autoImplicit false

namespace MetricQuery

/-- Literals in which there is no double, no date and no moment. -/
inductive Literal.IsReadable : Literal → Prop where
  | null : IsReadable .null
  | bool (b : Bool) : IsReadable (.bool b)
  | int (n : Int64) : IsReadable (.int n)
  | string (s : String) : IsReadable (.string s)
  | array {items : List Literal} (h : ∀ v ∈ items, IsReadable v) : IsReadable (.array items)
  | tuple {items : List Literal} (h : ∀ v ∈ items, IsReadable v) : IsReadable (.tuple items)

namespace ClauseText

open Scanner

/-! ## The reader -/

/-- The rest of a quoted text, up to and with the quote that ends it.  A backslash in front of an
`n` is a line break; any other character behind a backslash stands for itself. -/
def splitQuoted? : List Char → Option (List Char × List Char)
  | [] => none
  | '\x27' :: rest => some ([], rest)
  | ['\\'] => none
  | '\\' :: c :: rest =>
    (splitQuoted? rest).map fun (cs, rest) => ((if c = 'n' then '\n' else c) :: cs, rest)
  | c :: rest => (splitQuoted? rest).map fun (cs, rest) => (c :: cs, rest)

/-- The rest of a quoted text, up to and with the quote that ends it. -/
def quotedRest : Scanner (List Char) := ofOption splitQuoted?

theorem quotedRest_apply (s : List Char) : quotedRest s = splitQuoted? s := ofOption_apply _ s

/-- A text between quotes. -/
def quotedText : Scanner String := do
  char '\x27'
  let cs ← quotedRest
  pure (String.ofList cs)

/-- Digits, behind a minus if there is one. -/
def integer : Scanner Int := do
  let negative ← flag '-'
  let digits ← takeSome Char.isDigit
  pure (if negative then -(valueOf digits : Int) else valueOf digits)

/-- Items in parentheses, with a comma and a blank between them. -/
def items (item : Scanner Literal) : Scanner (List Literal) := do
  char '('
  let found ← attempt (sepBy item (word ", "))
  char ')'
  pure (found.getD [])

/-- A literal whose items are read by `nested`. -/
def literalOver (nested : Scanner Literal) : Scanner Literal :=
  firstOf
    [do word "NULL"; pure .null,
     do word "TRUE"; pure (.bool true),
     do word "FALSE"; pure (.bool false),
     do let n ← integer; pure (.int (.ofInt n)),
     do let s ← quotedText; pure (.string s),
     do word "array"; let vs ← items nested; pure (.array vs),
     do word "tuple"; let vs ← items nested; pure (.tuple vs)]

/-- A literal with items nested less than `depth` deep. -/
def literalWithin : Nat → Scanner Literal
  | 0 => fail
  | depth + 1 => literalOver (literalWithin depth)

/-- A literal.  Its items are nested no deeper than the text is long. -/
def literal : Scanner Literal := bounded literalWithin

/-- What may stand behind a literal: nothing, or a comma, a closing parenthesis or a blank. -/
def EndsLiteral (r : List Char) : Prop := r = [] ∨ ∃ c t, r = c :: t ∧ c ∈ [',', ')', ' ']

theorem EndsLiteral.stops {r : List Char} (h : EndsLiteral r) : Stops Char.isDigit r := by
  obtain rfl | ⟨c, t, rfl, hc⟩ := h
  · exact stops_nil _
  · have hdigits : [',', ')', ' '].all (fun x => !x.isDigit) = true := by decide
    simpa using List.all_eq_true.1 hdigits c hc

/-! ## Texts -/

/-- **The reader undoes each escape.** -/
theorem splitQuoted?_escape (c : Char) (s : List Char) :
    splitQuoted? (Text.escapeSingle c ++ s) =
      (splitQuoted? s).map fun found => (c :: found.1, found.2) := by
  unfold Text.escapeSingle
  split_ifs with hslash hquote hbreak
  · subst hslash; rfl
  · subst hquote; rfl
  · subst hbreak; rfl
  · -- any other character stands for itself
    rw [List.singleton_append, splitQuoted?]
    · exact hquote
    · exact fun h => absurd h hslash
    · exact fun _ _ h => absurd h hslash

/-- A text is read up to the quote that ends it. -/
theorem splitQuoted?_escapeSingle (cs r : List Char) :
    splitQuoted? (cs.flatMap Text.escapeSingle ++ '\x27' :: r) = some (cs, r) := by
  induction cs with
  | nil => rfl
  | cons c cs ih =>
    rw [List.flatMap_cons, List.append_assoc, splitQuoted?_escape, ih]
    rfl

/-- **A text between quotes reads back.** -/
theorem quotedText_quoteSingle (s : String) (r : List Char) :
    quotedText ((Text.quoteSingle s).toList ++ r) = some (s, r) := by
  rw [Text.toList_quoteSingle, List.cons_append, List.append_assoc, List.singleton_append]
  have hrest := (quotedRest_apply _).trans (splitQuoted?_escapeSingle s.toList r)
  unfold quotedText
  rw [bind_of_some _ (char_cons_self _ _), bind_of_some _ hrest]
  simp

theorem quotedText_eq_none {s : List Char} (h : s.head? ≠ some '\x27') : quotedText s = none :=
  bind_of_none _ (char_eq_none h)

/-- Whether a text ends in a backslash that escapes what comes next, and is not itself escaped. -/
def escapesNext (w : List Char) : Bool :=
  w.foldl (fun escaped c => !escaped && c == '\\') false

theorem escapesNext_append_escape (c : Char) (w : List Char) :
    escapesNext (Text.escapeSingle c ++ w) = escapesNext w := by
  obtain ⟨x, hx⟩ | ⟨hc, hslash, -⟩ := escapeSingle_cases c
  · simp [escapesNext, hx]
  · have hslash : (c == '\\') = false := beq_eq_false_iff_ne.2 hslash
    simp [escapesNext, hc, hslash]

/-- No escape is left open at the end of a text. -/
theorem escapesNext_escapeSingle (cs : List Char) :
    escapesNext (cs.flatMap Text.escapeSingle) = false := by
  induction cs with
  | nil => rfl
  | cons c cs ih => rw [List.flatMap_cons, escapesNext_append_escape, ih]

/-- **A quote within a text is escaped.** -/
theorem escapesNext_of_quote {cs before after : List Char}
    (h : cs.flatMap Text.escapeSingle = before ++ '\x27' :: after) : escapesNext before = true := by
  induction cs generalizing before with
  | nil => simp at h
  | cons c cs ih =>
    rw [List.flatMap_cons] at h
    -- the quote stands behind what is written for the first character, or is part of it
    obtain ⟨mid, rfl, hmid⟩ | ⟨mid, hescape, hmid⟩ := List.append_eq_append_iff.1 h
    · rw [escapesNext_append_escape]
      exact ih hmid
    · cases mid with
      | nil =>
        rw [List.append_nil] at hescape
        have hempty : escapesNext [] = true := ih hmid.symm
        cases hempty
      | cons x mid =>
        obtain ⟨rfl, -⟩ := List.cons.inj hmid
        obtain ⟨y, hy⟩ | ⟨hc, -, hquote⟩ := escapeSingle_cases c
        · rw [hy] at hescape
          cases before with
          | nil => cases hescape
          | cons z before =>
            obtain ⟨rfl, hrest⟩ := List.cons.inj hescape
            cases before with
            | nil => rfl
            | cons z' before => simp at hrest
        · rw [hc] at hescape
          cases before with
          | nil =>
            cases hescape
            exact absurd rfl hquote
          | cons z before => simp at hescape

/-! ## Integers -/

theorem integer_digits {negative : Bool} {s r : List Char} (n : Nat)
    (hflag : flag '-' s = some (negative, Nat.toDigits 10 n ++ r)) (hr : Stops Char.isDigit r) :
    integer s = some (if negative then -(n : Int) else n, r) := by
  obtain ⟨hne, hall⟩ := isNumeral_toDigits n
  unfold integer
  rw [bind_of_some _ hflag, bind_of_some _ (takeSome_of_stops hne hall hr), pure_apply,
    valueOf_toDigits]

/-- **An integer reads back.** -/
theorem integer_integerText (n : Int) {r : List Char} (hr : Stops Char.isDigit r) :
    integer ((integerText n).toList ++ r) = some (n, r) := by
  cases n with
  | ofNat n =>
    have hhead : (Nat.toDigits 10 n ++ r).head? ≠ some '-' :=
      head?_append_ne (isNumeral_toDigits n).1 (isNumeral_toDigits n).2 (by decide) r
    rw [integerText, toList_digitsOf]
    exact integer_digits n (flag_of_ne hhead) hr
  | negSucc n =>
    rw [toList_integerText_negSucc, List.cons_append]
    exact integer_digits (n + 1) (flag_cons_self _ _) hr

theorem integer_eq_none {s : List Char} (hminus : s.head? ≠ some '-')
    (hdigit : Stops Char.isDigit s) : integer s = none := by
  unfold integer
  rw [bind_of_some _ (flag_of_ne hminus), bind_of_none _ (takeSome_eq_none hdigit)]

/-! ## Items -/

/-- **Items in parentheses are read up to the parenthesis that closes them.** -/
theorem items_join {item : Scanner Literal} {texts : List String} {vs : List Literal}
    (hnone : ∀ r, item (')' :: r) = none)
    (h : List.Forall₂ (fun t v => ∀ r, EndsLiteral r → item (t.toList ++ r) = some (v, r))
      texts vs) (r : List Char) :
    items item ('(' :: ((Text.join ", " texts).toList ++ ')' :: r)) = some (vs, r) := by
  obtain ⟨found, hread, hfound⟩ := attempt_sepBy_join EndsLiteral (by decide)
    (h.imp fun t v ht r hr => ⟨ht r hr, word_append ", " _⟩)
    (fun _ _ _ => .inr ⟨',', _, rfl, by decide⟩) (.inr ⟨')', r, rfl, by decide⟩)
    (word_eq_none (c := ',') rfl (by simp)) (hnone r)
  unfold items
  rw [bind_of_some _ (char_cons_self _ _), bind_of_some _ hread,
    bind_of_some _ (char_cons_self _ _), pure_apply, hfound]

/-! ## Literals -/

section

variable {nested : Scanner Literal} {s r : List Char} {vs : List Literal}

/-- Where none of the words in capitals starts, a literal is an integer, a text, an array or a
tuple. -/
theorem literalOver_of_head? (hn : s.head? ≠ some 'N') (ht : s.head? ≠ some 'T')
    (hf : s.head? ≠ some 'F') :
    literalOver nested s = firstOf
      [do let n ← integer; pure (.int (.ofInt n)),
       do let s ← quotedText; pure (.string s),
       do word "array"; let vs ← items nested; pure (.array vs),
       do word "tuple"; let vs ← items nested; pure (.tuple vs)] s := by
  unfold literalOver
  rw [firstOf_of_none _ (bind_of_none _ (word_eq_none (w := "NULL") rfl hn)),
    firstOf_of_none _ (bind_of_none _ (word_eq_none (w := "TRUE") rfl ht)),
    firstOf_of_none _ (bind_of_none _ (word_eq_none (w := "FALSE") rfl hf))]

theorem literalOver_int (n : Int64) (hr : EndsLiteral r) :
    literalOver nested ((integerText n.toInt).toList ++ r) = some (.int n, r) := by
  rw [literalOver_of_head? (head?_integerText_ne (by decide) (by decide) _ r)
    (head?_integerText_ne (by decide) (by decide) _ r)
    (head?_integerText_ne (by decide) (by decide) _ r)]
  refine firstOf_of_some _ ?_
  rw [bind_of_some _ (integer_integerText _ hr.stops), pure_apply, Int64.ofInt_toInt]

theorem literalOver_string (t : String) :
    literalOver nested ((Text.quoteSingle t).toList ++ r) = some (.string t, r) := by
  have hread := quotedText_quoteSingle t r
  rw [Text.toList_quoteSingle, List.cons_append] at hread ⊢
  rw [literalOver_of_head? (by simp) (by simp) (by simp),
    firstOf_of_none _ (bind_of_none _ (integer_eq_none (by simp) (stops_cons.2 (by decide))))]
  refine firstOf_of_some _ ?_
  rw [bind_of_some _ hread, pure_apply]

/-- Where neither a word in capitals, nor an integer, nor a text starts, a literal is an array or
a tuple. -/
theorem literalOver_of_cons {c : Char} (hword : c ∉ ['N', 'T', 'F', '-', '\x27'])
    (hdigit : c.isDigit = false) :
    literalOver nested (c :: s) = firstOf
      [do word "array"; let vs ← items nested; pure (.array vs),
       do word "tuple"; let vs ← items nested; pure (.tuple vs)] (c :: s) := by
  simp only [List.mem_cons, List.not_mem_nil, or_false, not_or] at hword
  obtain ⟨hn, ht, hf, hminus, hquote⟩ := hword
  rw [literalOver_of_head? (by simpa using hn) (by simpa using ht) (by simpa using hf),
    firstOf_of_none _ (bind_of_none _ (integer_eq_none (by simpa using hminus)
      (stops_cons.2 hdigit))),
    firstOf_of_none _ (bind_of_none _ (quotedText_eq_none (by simpa using hquote)))]

/-- No literal starts with a closing parenthesis. -/
theorem literalOver_close : literalOver nested (')' :: s) = none := by
  rw [literalOver_of_cons (by decide) (by decide),
    firstOf_of_none _ (bind_of_none _ (word_eq_none (w := "array") (c := 'a') rfl (by simp))),
    firstOf_of_none _ (bind_of_none _ (word_eq_none (w := "tuple") (c := 't') rfl (by simp))),
    firstOf_nil]

theorem literalOver_array (h : items nested s = some (vs, r)) :
    literalOver nested ("array".toList ++ s) = some (.array vs, r) := by
  have hword := word_append "array" s
  simp only [String.reduceToList, List.cons_append] at hword ⊢
  rw [literalOver_of_cons (by decide) (by decide)]
  refine firstOf_of_some _ ?_
  rw [bind_of_some _ hword, bind_of_some _ h, pure_apply]

theorem literalOver_tuple (h : items nested s = some (vs, r)) :
    literalOver nested ("tuple".toList ++ s) = some (.tuple vs, r) := by
  have hword := word_append "tuple" s
  simp only [String.reduceToList, List.cons_append] at hword ⊢
  rw [literalOver_of_cons (by decide) (by decide),
    firstOf_of_none _ (bind_of_none _ (word_eq_none (w := "array") (c := 'a') rfl (by simp)))]
  refine firstOf_of_some _ ?_
  rw [bind_of_some _ hword, bind_of_some _ h, pure_apply]

end

/-- A list of literals in parentheses, behind the word that says what kind of list it is. -/
def listText (kind : String) (vs : List Literal) : List Char :=
  kind.toList ++ '(' :: ((Text.join ", " (Literal.clauseTexts vs)).toList ++ [')'])

theorem lt_of_listText {text kind : String} {vs : List Literal} {depth : Nat}
    (h : text.toList = listText kind vs) (hdepth : text.length ≤ depth) :
    (Text.join ", " (Literal.clauseTexts vs)).length < depth := by
  have hlength := congrArg List.length h
  simp only [listText, List.length_append, List.length_cons, String.length_toList] at hlength
  omega

/-- The literal is read off the front of a text by a reader that may go as deep as the text of the
literal is long. -/
def ReadsBack (v : Literal) : Prop :=
  ∀ depth, v.clauseText.length ≤ depth → ∀ r, EndsLiteral r →
    literalWithin (depth + 1) (v.clauseText.toList ++ r) = some (v, r)

/-- The items of a list have shorter texts than the list, so that one level less is deep enough
for them. -/
theorem items_clauseTexts {vs : List Literal} (h : ∀ v ∈ vs, ReadsBack v) {depth : Nat}
    (hdepth : (Text.join ", " (Literal.clauseTexts vs)).length < depth) (r : List Char) :
    items (literalWithin depth)
      ('(' :: ((Text.join ", " (Literal.clauseTexts vs)).toList ++ ')' :: r)) = some (vs, r) := by
  obtain ⟨depth, rfl⟩ : ∃ d, depth = d + 1 := ⟨depth - 1, by omega⟩
  rw [Literal.clauseTexts_eq] at hdepth ⊢
  refine items_join (fun _ => literalOver_close) ?_ r
  rw [List.forall₂_map_left_iff, List.forall₂_same]
  intro v hv r hr
  have hshort := length_le_join ", " (List.mem_map_of_mem (f := Literal.clauseText) hv)
  exact h v hv depth (by omega) r hr

/-- **A literal reads back**, one case for each kind of it. -/
theorem literalWithin_clauseText {v : Literal} (h : v.IsReadable) : ReadsBack v := by
  induction h with
  | null =>
    intro depth _ r _
    rw [literalWithin, literalOver]
    exact firstOf_of_some _ (bind_of_some _ (word_append "NULL" r))
  | bool b =>
    intro depth _ r _
    rw [literalWithin, literalOver,
      firstOf_of_none _ (bind_of_none _ (word_eq_none (w := "NULL") (c := 'N') rfl
        (by cases b <;> simp [Literal.clauseText])))]
    cases b with
    | true => exact firstOf_of_some _ (bind_of_some _ (word_append "TRUE" r))
    | false =>
      rw [firstOf_of_none _ (bind_of_none _ (word_eq_none (w := "TRUE") (c := 'T') rfl
        (by simp [Literal.clauseText])))]
      exact firstOf_of_some _ (bind_of_some _ (word_append "FALSE" r))
  | int n =>
    intro depth _ r hr
    exact literalOver_int n hr
  | string s =>
    intro depth _ r _
    exact literalOver_string s
  | @array vs _ ih =>
    intro depth hdepth r _
    have htext : (Literal.array vs).clauseText.toList = listText "array" vs := by
      simp [Literal.clauseText, listText]
    rw [htext, listText, List.append_assoc, List.cons_append, List.append_assoc]
    exact literalOver_array (items_clauseTexts ih (lt_of_listText htext hdepth) r)
  | @tuple vs _ ih =>
    intro depth hdepth r _
    have htext : (Literal.tuple vs).clauseText.toList = listText "tuple" vs := by
      simp [Literal.clauseText, listText]
    rw [htext, listText, List.append_assoc, List.cons_append, List.append_assoc]
    exact literalOver_tuple (items_clauseTexts ih (lt_of_listText htext hdepth) r)

theorem literal_clauseText {v : Literal} (h : v.IsReadable) {r : List Char} (hr : EndsLiteral r) :
    literal (v.clauseText.toList ++ r) = some (v, r) :=
  (bounded_apply _ _).trans (literalWithin_clauseText h _ (by simp [String.length_toList]) r hr)

end ClauseText

open ClauseText in
/-- **A literal reads back off any text that it starts, no two literals are written alike, and a
quoted text ends at its first quote that is not escaped.** -/
theorem Literal.clauseText_reads :
    (∀ v : Literal, v.IsReadable → ∀ r, EndsLiteral r →
      literal (v.clauseText.toList ++ r) = some (v, r)) ∧
    (∀ v w : Literal, v.IsReadable → w.IsReadable → v.clauseText = w.clauseText → v = w) ∧
    ∀ s : String, ∃ body, (Literal.string s).clauseText.toList = '\x27' :: (body ++ ['\x27']) ∧
      escapesNext body = false ∧
      ∀ before after, body = before ++ '\x27' :: after → escapesNext before = true := by
  refine ⟨fun v hv r hr => literal_clauseText hv hr, fun v w hv hw htext => ?_, fun s => ?_⟩
  · have hread := literal_clauseText hv (r := []) (.inl rfl)
    rw [htext, literal_clauseText hw (.inl rfl)] at hread
    cases hread
    rfl
  · exact ⟨_, Text.toList_quoteSingle s, escapesNext_escapeSingle _, fun _ _ => escapesNext_of_quote⟩

theorem Literal.clauseText_reads_nested :
    (Literal.array [.string "it's, (", .tuple [.null, .int (-5), .array []]]).clauseText =
        "array('it\\'s, (', tuple(NULL, -5, array()))" ∧
      ClauseText.literal "array('it\\'s, (', tuple(NULL, -5, array())) AND".toList =
        some (.array [.string "it's, (", .tuple [.null, .int (-5), .array []]], " AND".toList) := by
  have htext : (Literal.array [.string "it's, (", .tuple [.null, .int (-5), .array []]]).clauseText =
      "array('it\\'s, (', tuple(NULL, -5, array()))" := by decide +kernel
  have hreadable :
      (Literal.array [.string "it's, (", .tuple [.null, .int (-5), .array []]]).IsReadable := by
    refine .array fun v hv => ?_
    simp only [List.mem_cons, List.not_mem_nil, or_false] at hv
    obtain rfl | rfl := hv
    · exact .string _
    · refine .tuple fun w hw => ?_
      simp only [List.mem_cons, List.not_mem_nil, or_false] at hw
      obtain rfl | rfl | rfl := hw
      · exact .null
      · exact .int _
      · exact .array (by simp)
  have hread := Literal.clauseText_reads.1 _ hreadable " AND".toList
    (.inr ⟨' ', _, rfl, by decide⟩)
  rw [htext] at hread
  exact ⟨htext, hread⟩

end MetricQuery
