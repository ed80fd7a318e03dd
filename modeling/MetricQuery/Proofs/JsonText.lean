import MetricQuery.Json.Reader
import MetricQuery.Proofs.NumberText

/-!
# JSON values in a text

A value may be spelled in several ways, since a character of a string may be escaped.  A value whose
numbers are whole is read back from each of its spellings without blanks, wherever nothing follows
that a number could go on with.  A string is read back character by character.

* `Json.IsRegular`          : the values that every library knows;
* `Json.Spells`             : the spellings of a value without blanks;
* `Json.spells_compact`     : what is written is a spelling;
* `Json.number_integerText` : a whole number;
* `Json.valueWithin_spells` : a value, one case for each kind of it;
* `Json.read?_spells`       : a spelling of a value stands for it.
-/

set_option autoImplicit false

namespace MetricQuery.Json

open Scanner

/-! ## Spellings -/

/-- The numbers in the value are whole and of 64 bits, with or without a sign, no object has two
fields of one name, and arrays and objects stand no more than `depth` deep within each other. -/
inductive IsRegular : Json → Nat → Prop where
  | null {depth : Nat} : IsRegular .null depth
  | bool (b : Bool) {depth : Nat} : IsRegular (.bool b) depth
  | int {n : Int} (hleast : Int64.minValue.toInt ≤ n) (hgreatest : n < UInt64.size) {depth : Nat} :
      IsRegular (.int n) depth
  | string (s : String) {depth : Nat} : IsRegular (.string s) depth
  | array {items : List Json} {depth : Nat} (h : ∀ v ∈ items, IsRegular v depth) :
      IsRegular (.array items) (depth + 1)
  | object {fields : List (String × Json)} {depth : Nat} (hnames : (fields.map Prod.fst).Nodup)
      (h : ∀ f ∈ fields, IsRegular f.2 depth) : IsRegular (.object fields) (depth + 1)

/-- A character of a string is spelled by itself, by a letter behind a backslash, or by its number in
four hexadecimal digits. -/
inductive SpellsChar (c : Char) : List Char → Prop where
  | itself (hcontrol : 0x20 ≤ c.toNat) (hquote : c ≠ '"') (hslash : c ≠ '\\') : SpellsChar c [c]
  | letter {l : Char} (h : escapedBy? l = some c) : SpellsChar c ['\\', l]
  | number {w x y z : Char} (h : hexNumber? w x y z = some c.toNat) :
      SpellsChar c ['\\', 'u', w, x, y, z]

/-- A string is spelled character by character between quotes. -/
def SpellsString (s text : String) : Prop :=
  ∃ parts, List.Forall₂ SpellsChar s.toList parts ∧ text.toList = '"' :: (parts.flatten ++ ['"'])

/-- A field, and how its name and its value are spelled. -/
structure SpelledField where
  name : String
  nameText : String
  value : Json
  valueText : String

namespace SpelledField

/-- The name and the value. -/
def field (f : SpelledField) : String × Json := (f.name, f.value)

/-- The spelling of the field. -/
def text (f : SpelledField) : String := f.nameText ++ ":" ++ f.valueText

end SpelledField

/-- The spellings of a value without blanks. -/
inductive Spells : Json → String → Prop where
  | null : Spells .null "null"
  | bool (b : Bool) : Spells (.bool b) (if b then "true" else "false")
  | int (n : Int) : Spells (.int n) (integerText n)
  | string {s text : String} (h : SpellsString s text) : Spells (.string s) text
  | array (items : List (Json × String)) (h : ∀ e ∈ items, Spells e.1 e.2) :
      Spells (.array (items.map Prod.fst)) ("[" ++ Text.join "," (items.map Prod.snd) ++ "]")
  | object (fields : List SpelledField) (hname : ∀ f ∈ fields, SpellsString f.name f.nameText)
      (hvalue : ∀ f ∈ fields, Spells f.value f.valueText) :
      Spells (.object (fields.map SpelledField.field))
        ("\x7b" ++ Text.join "," (fields.map SpelledField.text) ++ "\x7d")

/-! ## What is written -/

theorem compactItems_eq (items : List Json) : compactItems items = items.map compact := by
  induction items with
  | nil => rfl
  | cons v items ih => rw [compactItems, ih, List.map_cons]

theorem compactFields_eq (fields : List (String × Json)) :
    compactFields fields = fields.map fun f => quoted f.1 ++ ":" ++ f.2.compact := by
  induction fields with
  | nil => rfl
  | cons f fields ih => rw [compactFields, ih, List.map_cons]

/-- A code of two digits that is written in hexadecimal is read back. -/
theorem hexNumber?_digits (n : Nat) (h : n < 32) :
    hexNumber? '0' '0' (Nat.digitChar (n / 16)) (Nat.digitChar (n % 16)) = some n := by
  decide +revert

/-- Each character is written as one of its spellings. -/
theorem spellsChar_escape (c : Char) : SpellsChar c (escape c) := by
  unfold escape
  split_ifs with hquote hslash hfeed hreturn htab hback hform hcontrol
  · exact .letter (by rw [hquote]; rfl)
  · exact .letter (by rw [hslash]; rfl)
  · exact .letter (by rw [hfeed]; rfl)
  · exact .letter (by rw [hreturn]; rfl)
  · exact .letter (by rw [htab]; rfl)
  · exact .letter (by rw [hback]; rfl)
  · exact .letter (by rw [hform]; rfl)
  · exact .number (hexNumber?_digits _ hcontrol)
  · exact .itself (Nat.not_lt.1 hcontrol) hquote hslash

theorem spellsString_quoted (s : String) : SpellsString s (quoted s) := by
  refine ⟨s.toList.map escape, ?_, by simp [quoted, List.flatMap]⟩
  rw [List.forall₂_map_right_iff, List.forall₂_same]
  exact fun c _ => spellsChar_escape c

/-- **What is written of a value is one of its spellings.** -/
theorem spells_compact {v : Json} {depth : Nat} (h : v.IsRegular depth) :
    v.Spells v.compact := by
  induction h with
  | null => exact .null
  | bool b => exact .bool b
  | int => exact .int _
  | string s => exact .string (spellsString_quoted s)
  | @array items _ _ ih =>
    have hspells := Spells.array (items.map fun v => (v, v.compact)) (List.forall_mem_map.2 ih)
    rw [List.map_map, List.map_map] at hspells
    rw [compact, compactItems_eq]
    simpa [Function.comp_def] using hspells
  | @object fields _ _ _ ih =>
    have hspells := Spells.object
      (fields.map fun f => ⟨f.1, quoted f.1, f.2, f.2.compact⟩)
      (List.forall_mem_map.2 fun f _ => spellsString_quoted f.1) (List.forall_mem_map.2 ih)
    rw [List.map_map, List.map_map] at hspells
    rw [compact, compactFields_eq]
    simpa [Function.comp_def, SpelledField.field, SpelledField.text] using hspells

/-! ## Strings -/

/-- **The reader undoes each spelling of a character.** -/
theorem splitString?_spelled {c : Char} {t : List Char} (h : SpellsChar c t) (s : List Char) :
    splitString? (t ++ s) =
      (splitString? s).map fun found => (c.toNat :: found.1, found.2) := by
  cases h with
  | itself hcontrol hquote hslash =>
    rw [List.singleton_append, splitString?]
    · rw [if_neg (by simp [Nat.not_lt.2 hcontrol, hslash])]
    · exact hquote
    · exact fun _ _ _ _ _ h => absurd h hslash
    · exact fun _ _ h => absurd h hslash
  | @letter l h =>
    have hne : l ≠ 'u' := by
      rintro rfl
      cases h
    show splitString? ('\\' :: l :: s) = _
    rw [splitString?, h]
    exact fun _ _ _ _ _ e _ => absurd e hne
  | number h =>
    show splitString? ('\\' :: 'u' :: _ :: _ :: _ :: _ :: s) = _
    rw [splitString?, h]

theorem stringRest_apply (s : List Char) : stringRest s = splitString? s := ofOption_apply _ s

/-- A string is read up to the quote that ends it. -/
theorem splitString?_parts {cs : List Char} {parts : List (List Char)}
    (h : List.Forall₂ SpellsChar cs parts) (r : List Char) :
    splitString? (parts.flatten ++ '"' :: r) = some (cs.map Char.toNat, r) := by
  induction h with
  | nil => rfl
  | cons hc _ ih =>
    rw [List.flatten_cons, List.append_assoc, splitString?_spelled hc, ih]
    rfl

/-- No character is half of another. -/
theorem isHalf_toNat (c : Char) : isFirstHalf c.toNat = false ∧ isSecondHalf c.toNat = false := by
  have hvalid := c.valid
  have hnat : c.toNat = c.val.toNat := rfl
  simp only [UInt32.isValidChar, Nat.isValidChar, ← hnat] at hvalid
  simp only [isFirstHalf, isSecondHalf, Bool.and_eq_false_iff, decide_eq_false_iff_not]
  omega

theorem joinHalves?_toNat (cs : List Char) : joinHalves? (cs.map Char.toNat) = some cs := by
  induction cs with
  | nil => rfl
  | cons c cs ih =>
    obtain ⟨hfirst, hsecond⟩ := isHalf_toNat c
    cases cs with
    | nil => simp [joinHalves?, hfirst, hsecond]
    | cons d cs =>
      rw [List.map_cons] at ih
      simp [joinHalves?, hfirst, hsecond, ih]

/-- **A string reads back from each of its spellings.** -/
theorem stringText_spelled {s text : String} (h : SpellsString s text) (r : List Char) :
    stringText (text.toList ++ r) = some (s, r) := by
  obtain ⟨parts, hparts, htext⟩ := h
  rw [htext, List.cons_append, List.append_assoc]
  unfold stringText
  rw [bind_of_some _ (char_cons_self _ _), List.singleton_append,
    bind_of_some _ ((stringRest_apply _).trans (splitString?_parts hparts _)), joinHalves?_toNat]
  simp

/-- A string starts with a quote. -/
theorem SpellsString.cons {s text : String} (h : SpellsString s text) :
    ∃ w, text.toList = '"' :: w := by
  obtain ⟨parts, -, htext⟩ := h
  exact ⟨_, htext⟩

theorem stringText_eq_none {s : List Char} (h : s.head? ≠ some '"') : stringText s = none :=
  bind_of_none _ (char_eq_none h)

/-! ## Numbers -/

/-- Whether a number can go on with the character. -/
def goesOn (c : Char) : Bool := c.isDigit || c == '.' || c == 'e' || c == 'E'

theorem goesOn_of_isDigit {c : Char} (h : c.isDigit = true) : goesOn c = true := by
  simp [goesOn, h]

/-- Digits of a number that is not zero do not start with a zero. -/
theorem head?_toDigits_ne {n : Nat} (h : 0 < n) (s : List Char) :
    (Nat.toDigits 10 n ++ s).head? ≠ some '0' := by
  induction n using Nat.strongRecOn generalizing s with
  | _ n ih =>
    by_cases hlt : n < 10
    · rw [Nat.toDigits_of_lt_base hlt]
      have hdigit : ∀ m < 10, 0 < m → Nat.digitChar m ≠ '0' := by decide
      simpa using hdigit n hlt h
    · rw [Nat.toDigits_of_base_le (by decide) (Nat.not_lt.1 hlt), List.append_assoc]
      exact ih _ (by omega) (by omega) _

theorem wholePart_toDigits (n : Nat) {r : List Char} (hr : Stops Char.isDigit r) :
    wholePart (Nat.toDigits 10 n ++ r) = some (Nat.toDigits 10 n, r) := by
  rcases Nat.eq_zero_or_pos n with rfl | hpos
  · rfl
  · obtain ⟨hne, hall⟩ := isNumeral_toDigits n
    have hhead := head?_toDigits_ne hpos r
    have hrun := takeSome_of_stops hne hall hr
    rw [wholePart, ofOption_apply]
    split
    · rename_i hzero
      rw [hzero] at hhead
      exact absurd rfl hhead
    · exact hrun

/-- Digits that nothing goes on are a whole number. -/
theorem number_digits {negative : Bool} {s : List Char} (n : Nat) {r : List Char}
    (hflag : flag '-' s = some (negative, Nat.toDigits 10 n ++ r)) (hr : Stops goesOn r)
    (hzero : (negative && n == 0) = false) :
    number s = some (.int (if negative then -(n : Int) else n), r) := by
  have hdigit : Stops Char.isDigit r := hr.mono fun _ => goesOn_of_isDigit
  have hpoint : ∀ {c : Char}, goesOn c = true → r.head? ≠ some c := by
    intro c hc hhead
    have := hr c hhead
    rw [hc] at this
    cases this
  have hfraction : fractionPart r = none := bind_of_none _ (char_eq_none (hpoint (by decide)))
  have hexponent : exponentPart r = none := by
    refine bind_of_none _ ?_
    rw [firstOf_of_none _ (char_eq_none (hpoint (by decide))),
      firstOf_of_none _ (char_eq_none (hpoint (by decide))), firstOf_nil]
  unfold number
  rw [bind_of_some _ hflag, bind_of_some _ (wholePart_toDigits n hdigit),
    bind_of_some _ (attempt_of_none hfraction), bind_of_some _ (attempt_of_none hexponent),
    valueOf_toDigits, hzero]
  rfl

/-- **A whole number reads back.** -/
theorem number_integerText (n : Int) {r : List Char} (hr : Stops goesOn r) :
    number ((integerText n).toList ++ r) = some (.int n, r) := by
  cases n with
  | ofNat n =>
    have hhead : (Nat.toDigits 10 n ++ r).head? ≠ some '-' :=
      head?_append_ne (isNumeral_toDigits n).1 (isNumeral_toDigits n).2 (by decide) r
    rw [integerText, toList_digitsOf]
    exact number_digits n (flag_of_ne hhead) hr rfl
  | negSucc n =>
    rw [toList_integerText_negSucc, List.cons_append]
    exact number_digits (n + 1) (flag_cons_self _ _) hr (by simp)

theorem number_eq_none {s : List Char} (hminus : s.head? ≠ some '-')
    (hdigit : Stops Char.isDigit s) : number s = none := by
  have hwhole : wholePart s = none := by
    rw [wholePart, ofOption_apply]
    split
    · exact absurd (stops_cons.1 hdigit) (by decide)
    · exact takeSome_eq_none hdigit
  unfold number
  rw [bind_of_some _ (flag_of_ne hminus), bind_of_none _ hwhole]

/-! ## Values -/

/-- What a value can start with: no blank. -/
theorem Spells.stops_isSpace {v : Json} {text : String} (h : Spells v text) (s : List Char) :
    Stops isSpace (text.toList ++ s) := by
  cases h with
  | null => exact stops_cons.2 (by decide)
  | bool b => cases b <;> exact stops_cons.2 (by decide)
  | int n =>
    cases n with
    | ofNat n =>
      rw [integerText, toList_digitsOf]
      exact stops_append (isNumeral_toDigits n).1 (isNumeral_toDigits n).2
        (fun c hc => by
          have hne : ∀ x, x.isDigit = false → c ≠ x := by
            rintro x hx rfl
            rw [hc] at hx
            cases hx
          simp [isSpace, hne ' ' (by decide), hne '\n' (by decide), hne '\r' (by decide),
            hne '\t' (by decide)]) s
    | negSucc n =>
      rw [integerText, String.toList_append, List.append_assoc]
      exact stops_cons.2 (by decide)
  | string h =>
    obtain ⟨w, hw⟩ := h.cons
    rw [hw, List.cons_append]
    exact stops_cons.2 (by decide)
  | array _ =>
    rw [String.toList_append, String.toList_append, List.append_assoc, List.append_assoc]
    exact stops_cons.2 (by decide)
  | object _ =>
    rw [String.toList_append, String.toList_append, List.append_assoc, List.append_assoc]
    exact stops_cons.2 (by decide)

theorem spaces_of_stops {s : List Char} (h : Stops isSpace s) : spaces s = some ((), s) := by
  have hnone : s.takeWhile isSpace = [] := takeWhile_append_of_stops (w := []) (by simp) h
  have hrest : s.dropWhile isSpace = s := dropWhile_append_of_stops (w := []) (by simp) h
  show (takeWhile isSpace >>= fun _ => pure ()) s = _
  have hread : takeWhile isSpace s = some ([], s) := by rw [takeWhile_apply, hnone, hrest]
  rw [bind_of_some _ hread, pure_apply]

theorem comma_append {s : List Char} (h : Stops isSpace s) : comma (',' :: s) = some ((), s) := by
  unfold comma
  rw [bind_of_some _ (spaces_of_stops (stops_cons.2 (by decide))),
    bind_of_some _ (char_cons_self _ _), spaces_of_stops h]

theorem comma_eq_none {c : Char} (hblank : isSpace c = false) (hc : c ≠ ',') (s : List Char) :
    comma (c :: s) = none := by
  unfold comma
  rw [bind_of_some _ (spaces_of_stops (stops_cons.2 hblank)), bind_of_none _ (char_cons_ne hc _)]

/-- **Items with commas between them are read up to the sign that closes them.** -/
theorem listOf_join {α : Type} {item : Scanner α} {closing : Char} {texts : List String}
    {as : List α} (hclosing : isSpace closing = false) (hcomma : closing ≠ ',')
    (hgoesOn : goesOn closing = false) (hnone : ∀ r, item (closing :: r) = none)
    (hspace : ∀ t ∈ texts, ∀ r, Stops isSpace (t.toList ++ r))
    (h : List.Forall₂ (fun t a => ∀ r, Stops goesOn r → item (t.toList ++ r) = some (a, r))
      texts as) (r : List Char) :
    listOf item closing ((Text.join "," texts).toList ++ closing :: r) = some (as, r) := by
  have hend : spaces (closing :: r) = some ((), closing :: r) :=
    spaces_of_stops (stops_cons.2 hclosing)
  have hall : List.Forall₂ (fun (t : String) a => ∀ r, Stops goesOn r →
      item (t.toList ++ r) = some (a, r) ∧
        comma (",".toList ++ (t.toList ++ r)) = some ((), t.toList ++ r)) texts as := by
    refine ((List.forall₂_and_left _ _).2 ⟨hspace, h⟩).imp ?_
    rintro t a ⟨ht, hread⟩ r hr
    exact ⟨hread r hr, comma_append (ht r)⟩
  obtain ⟨found, hread, hfound⟩ := attempt_sepBy_join (Stops goesOn) (by decide) hall
    (fun _ _ _ => stops_cons.2 (by decide)) (stops_cons.2 hgoesOn)
    (comma_eq_none hclosing hcomma r) (hnone r)
  have hstart : Stops isSpace ((Text.join "," texts).toList ++ closing :: r) := by
    cases texts with
    | nil => exact stops_cons.2 hclosing
    | cons t texts =>
      rw [toList_join_cons, List.append_assoc]
      exact hspace t (by simp) _
  unfold listOf
  rw [bind_of_some _ (spaces_of_stops hstart), bind_of_some _ hread, bind_of_some _ hend,
    bind_of_some _ (char_cons_self _ _), pure_apply, hfound]

/-- A field is read when its value is. -/
theorem field_spelled {nested : Scanner Json} {f : SpelledField} {r : List Char}
    (hname : SpellsString f.name f.nameText) (hspace : Stops isSpace (f.valueText.toList ++ r))
    (h : nested (f.valueText.toList ++ r) = some (f.value, r)) :
    Json.field nested (f.text.toList ++ r) = some (f.field, r) := by
  have htext : f.text.toList ++ r = f.nameText.toList ++ ':' :: (f.valueText.toList ++ r) := by
    simp [SpelledField.text]
  rw [htext]
  unfold Json.field
  rw [bind_of_some _ (stringText_spelled hname _),
    bind_of_some _ (spaces_of_stops (stops_cons.2 (by decide))),
    bind_of_some _ (char_cons_self _ _), bind_of_some _ (spaces_of_stops hspace),
    bind_of_some _ h, pure_apply]
  rfl

section

variable {nested : Scanner Json} {c : Char} {s : List Char}

/-- Where neither a word nor a number starts, a value is a string, an array or an object. -/
theorem valueOver_sign (hword : c ≠ 'n' ∧ c ≠ 't' ∧ c ≠ 'f') (hminus : c ≠ '-')
    (hdigit : c.isDigit = false) :
    valueOver nested (c :: s) = firstOf
      [do let s ← stringText; pure (.string s),
       do
        char '['
        let items ← listOf nested ']'
        pure (.array items),
       do
        char '\x7b'
        let fields ← listOf (field nested) '\x7d'
        pure (.object fields)] (c :: s) := by
  unfold valueOver
  rw [firstOf_of_none _ (bind_of_none _ (word_eq_none (w := "null") (c := 'n') rfl
        (by simp [hword.1]))),
    firstOf_of_none _ (bind_of_none _ (word_eq_none (w := "true") (c := 't') rfl
        (by simp [hword.2.1]))),
    firstOf_of_none _ (bind_of_none _ (word_eq_none (w := "false") (c := 'f') rfl
        (by simp [hword.2.2]))),
    firstOf_of_none _ (number_eq_none (by simp [hminus]) (stops_cons.2 hdigit))]

/-- No value starts with a sign that closes one. -/
theorem valueOver_eq_none (hword : c ≠ 'n' ∧ c ≠ 't' ∧ c ≠ 'f') (hminus : c ≠ '-')
    (hdigit : c.isDigit = false) (hsign : c ≠ '"' ∧ c ≠ '[' ∧ c ≠ '\x7b') :
    valueOver nested (c :: s) = none := by
  rw [valueOver_sign hword hminus hdigit,
    firstOf_of_none _ (bind_of_none _ (stringText_eq_none (by simp [hsign.1]))),
    firstOf_of_none _ (bind_of_none _ (char_cons_ne hsign.2.1 _)),
    firstOf_of_none _ (bind_of_none _ (char_cons_ne hsign.2.2 _)), firstOf_nil]

theorem valueOver_null (r : List Char) :
    valueOver nested ("null".toList ++ r) = some (.null, r) := by
  unfold valueOver
  refine firstOf_of_some _ ?_
  rw [bind_of_some _ (word_append "null" r), pure_apply]

theorem valueOver_true (r : List Char) :
    valueOver nested ("true".toList ++ r) = some (.bool true, r) := by
  unfold valueOver
  rw [firstOf_of_none _ (bind_of_none _ (word_eq_none (w := "null") (c := 'n') rfl (by simp)))]
  refine firstOf_of_some _ ?_
  rw [bind_of_some _ (word_append "true" r), pure_apply]

theorem valueOver_false (r : List Char) :
    valueOver nested ("false".toList ++ r) = some (.bool false, r) := by
  unfold valueOver
  rw [firstOf_of_none _ (bind_of_none _ (word_eq_none (w := "null") (c := 'n') rfl (by simp))),
    firstOf_of_none _ (bind_of_none _ (word_eq_none (w := "true") (c := 't') rfl (by simp)))]
  refine firstOf_of_some _ ?_
  rw [bind_of_some _ (word_append "false" r), pure_apply]

theorem valueOver_int (n : Int) {r : List Char} (hr : Stops goesOn r) :
    valueOver nested ((integerText n).toList ++ r) = some (.int n, r) := by
  unfold valueOver
  rw [firstOf_of_none _ (bind_of_none _
      (word_eq_none (w := "null") rfl (head?_integerText_ne (by decide) (by decide) n r))),
    firstOf_of_none _ (bind_of_none _
      (word_eq_none (w := "true") rfl (head?_integerText_ne (by decide) (by decide) n r))),
    firstOf_of_none _ (bind_of_none _
      (word_eq_none (w := "false") rfl (head?_integerText_ne (by decide) (by decide) n r)))]
  exact firstOf_of_some _ (number_integerText n hr)

theorem valueOver_string {t text : String} (h : SpellsString t text) (r : List Char) :
    valueOver nested (text.toList ++ r) = some (.string t, r) := by
  have hread := stringText_spelled h r
  obtain ⟨w, hw⟩ := h.cons
  rw [hw, List.cons_append] at hread ⊢
  rw [valueOver_sign (by decide) (by decide) (by decide)]
  refine firstOf_of_some _ ?_
  rw [bind_of_some _ hread, pure_apply]

theorem valueOver_array {items : List Json} {r : List Char}
    (h : listOf nested ']' s = some (items, r)) :
    valueOver nested ('[' :: s) = some (.array items, r) := by
  rw [valueOver_sign (by decide) (by decide) (by decide),
    firstOf_of_none _ (bind_of_none _ (stringText_eq_none (by simp)))]
  refine firstOf_of_some _ ?_
  rw [bind_of_some _ (char_cons_self _ _), bind_of_some _ h, pure_apply]

theorem valueOver_object {fields : List (String × Json)} {r : List Char}
    (h : listOf (field nested) '\x7d' s = some (fields, r)) :
    valueOver nested ('\x7b' :: s) = some (.object fields, r) := by
  rw [valueOver_sign (by decide) (by decide) (by decide),
    firstOf_of_none _ (bind_of_none _ (stringText_eq_none (by simp))),
    firstOf_of_none _ (bind_of_none _ (char_cons_ne (by decide) _)), firstOf_singleton,
    bind_of_some _ (char_cons_self _ _), bind_of_some _ h, pure_apply]

/-- Values that read back, read back as an array. -/
theorem valueOver_items {items : List (Json × String)} (hitems : ∀ e ∈ items, Spells e.1 e.2)
    (hread : ∀ e ∈ items, ∀ r, Stops goesOn r → nested (e.2.toList ++ r) = some (e.1, r))
    (hnone : ∀ r, nested (']' :: r) = none) (r : List Char) :
    valueOver nested (("[" ++ Text.join "," (items.map Prod.snd) ++ "]").toList ++ r) =
      some (.array (items.map Prod.fst), r) := by
  have hall : List.Forall₂ (fun (t : String) v => ∀ r, Stops goesOn r →
      nested (t.toList ++ r) = some (v, r)) (items.map Prod.snd) (items.map Prod.fst) := by
    rw [List.forall₂_map_left_iff, List.forall₂_map_right_iff, List.forall₂_same]
    exact hread
  have hspace : ∀ t ∈ items.map Prod.snd, ∀ r, Stops isSpace (t.toList ++ r) := by
    intro t ht
    obtain ⟨e, he, rfl⟩ := List.mem_map.1 ht
    exact (hitems e he).stops_isSpace
  have htext : ("[" ++ Text.join "," (items.map Prod.snd) ++ "]").toList ++ r =
      '[' :: ((Text.join "," (items.map Prod.snd)).toList ++ ']' :: r) := by simp
  rw [htext]
  exact valueOver_array (listOf_join (by decide) (by decide) (by decide) hnone hspace hall r)

/-- Fields whose values read back, read back as an object. -/
theorem valueOver_fields {fields : List SpelledField}
    (hname : ∀ f ∈ fields, SpellsString f.name f.nameText)
    (hvalue : ∀ f ∈ fields, Spells f.value f.valueText)
    (hread : ∀ f ∈ fields, ∀ r, Stops goesOn r →
      nested (f.valueText.toList ++ r) = some (f.value, r)) (r : List Char) :
    valueOver nested
        (("\x7b" ++ Text.join "," (fields.map SpelledField.text) ++ "\x7d").toList ++ r) =
      some (.object (fields.map SpelledField.field), r) := by
  have hall : List.Forall₂ (fun (t : String) f => ∀ r, Stops goesOn r →
      Json.field nested (t.toList ++ r) = some (f, r)) (fields.map SpelledField.text)
      (fields.map SpelledField.field) := by
    rw [List.forall₂_map_left_iff, List.forall₂_map_right_iff, List.forall₂_same]
    exact fun f hf r hr =>
      field_spelled (hname f hf) ((hvalue f hf).stops_isSpace r) (hread f hf r hr)
  have hspace : ∀ t ∈ fields.map SpelledField.text, ∀ r, Stops isSpace (t.toList ++ r) := by
    intro t ht r
    obtain ⟨f, hf, rfl⟩ := List.mem_map.1 ht
    obtain ⟨w, hw⟩ := (hname f hf).cons
    rw [SpelledField.text, String.toList_append, String.toList_append, hw]
    exact stops_cons.2 (by decide)
  have hnone : ∀ r, Json.field nested ('\x7d' :: r) = none := fun r =>
    bind_of_none _ (stringText_eq_none (by simp))
  have htext : ("\x7b" ++ Text.join "," (fields.map SpelledField.text) ++ "\x7d").toList ++ r =
      '\x7b' :: ((Text.join "," (fields.map SpelledField.text)).toList ++ '\x7d' :: r) := by simp
  rw [htext]
  exact valueOver_object (listOf_join (by decide) (by decide) (by decide) hnone hspace hall r)

end

theorem length_bracketed (opening closing : String) (ho : opening.length = 1)
    (hc : closing.length = 1) (body : String) :
    (opening ++ body ++ closing).length = body.length + 2 := by
  rw [String.length_append, String.length_append, ho, hc]
  omega

/-- **A value reads back from each of its spellings**, if the reader may go as deep as the text is
long.  Each part has a shorter text than the whole, so that one level less is deep enough for it. -/
theorem valueWithin_spells {v : Json} {text : String} (h : Spells v text) :
    ∀ {depth : Nat}, text.length ≤ depth → ∀ {r : List Char}, Stops goesOn r →
      valueWithin (depth + 1) (text.toList ++ r) = some (v, r) := by
  induction h with
  | null => exact fun _ _ _ => valueOver_null _
  | bool b =>
    intro depth _ r _
    cases b with
    | true => exact valueOver_true r
    | false => exact valueOver_false r
  | int n => exact fun _ _ hr => valueOver_int n hr
  | string h => exact fun _ _ _ => valueOver_string h _
  | array items hitems ih =>
    intro depth hdepth r _
    rw [length_bracketed _ _ rfl rfl] at hdepth
    obtain ⟨depth, rfl⟩ : ∃ d, depth = d + 1 := ⟨depth - 1, by omega⟩
    refine valueOver_items hitems (fun e he r hr => ih e he ?_ hr) (fun r => ?_) r
    · have := length_le_join "," (List.mem_map_of_mem (f := Prod.snd) he)
      omega
    · exact valueOver_eq_none (by decide) (by decide) (by decide) (by decide)
  | object fields hname hvalue ih =>
    intro depth hdepth r _
    rw [length_bracketed _ _ rfl rfl] at hdepth
    obtain ⟨depth, rfl⟩ : ∃ d, depth = d + 1 := ⟨depth - 1, by omega⟩
    refine valueOver_fields hname hvalue (fun f hf r hr => ih f hf ?_ hr) r
    have hfield := length_le_join "," (List.mem_map_of_mem (f := SpelledField.text) hf)
    have hlength : f.valueText.length ≤ f.text.length := by
      simp [SpelledField.text, String.length_append]
    omega

/-- **A spelling of a value stands for it.** -/
theorem read?_spells {v : Json} {text : String} (h : Spells v text) : read? text = some v := by
  have hblank := h.stops_isSpace []
  have hvalue : value (text.toList ++ []) = some (v, []) :=
    (bounded_apply _ _).trans (valueWithin_spells h (by simp [String.length_toList]) (stops_nil _))
  rw [List.append_nil] at hblank hvalue
  have hread : (do spaces; let v ← value; spaces; pure v : Scanner Json) text.toList =
      some (v, []) := by
    rw [bind_of_some _ (spaces_of_stops hblank), bind_of_some _ hvalue,
      bind_of_some _ (spaces_of_stops (stops_nil _)), pure_apply]
  rw [read?, whole?, hread]

end MetricQuery.Json
