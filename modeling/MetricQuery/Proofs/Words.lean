import MetricQuery.Grammar.Expression
import MetricQuery.Text.Quoted
import MetricQuery.Proofs.Identifiers
import MetricQuery.Proofs.NumberText
import MetricQuery.Proofs.Written

/-!
# Words read back

Each word that the printer writes is read back by its scanner, where nothing follows that would be
taken for a part of it.

* `quoted_quote`       : a quoted text;
* `intNumeral_toDigits`, `floatNumeral_fraction` : numbers without a sign;
* `param_text`         : a parameter, or its text;
* `metric_text`        : a metric in parentheses;
* `groupBy_text`       : a grouping.
-/

set_option autoImplicit false

namespace MetricQuery

namespace Grammar

open Scanner Surface

/-! ## Punctuation -/

section

variable {α : Type} {p : Scanner α} {s r : List Char} {a : α}

theorem parens_of_some (hs : Stops Text.isBlank s) (h : p s = some (a, ')' :: r)) :
    parens p ('(' :: s) = some (a, r) := by
  refine between_of_some (t := s) (u := ')' :: r) ?_ h ?_
  · rw [bind_of_some _ (char_cons_self _ _), blanks_apply, trimStart_of_stops hs]
  · have hclose : Text.trimStart (')' :: r) = ')' :: r := trimStart_of_stops (by simp; decide)
    rw [bind_of_some _ (blanks_apply _), hclose, char_cons_self]

/-- Where no parenthesis opens, there are none. -/
theorem parens_eq_none (h : s.head? ≠ some '(') : parens p s = none :=
  bind_of_none _ (bind_of_none _ (char_eq_none h))

/-- Parentheses that are read open, and close behind what stands in them. -/
theorem parens_eq_some (h : parens p s = some (a, r)) :
    ∃ t u, s = '(' :: t ∧ p (Text.trimStart t) = some (a, u) ∧ Text.trimStart u = ')' :: r := by
  obtain ⟨_, t', hopen, h⟩ := bind_eq_some_iff.1 h
  obtain ⟨_, t, hchar, hblanks⟩ := bind_eq_some_iff.1 hopen
  obtain ⟨a', u, hbody, h⟩ := bind_eq_some_iff.1 h
  obtain ⟨_, v, hclose, h⟩ := bind_eq_some_iff.1 h
  obtain ⟨_, w, hblanks', hclose⟩ := bind_eq_some_iff.1 hclose
  cases h
  cases hblanks
  cases hblanks'
  exact ⟨t, u, char_eq_some_iff.1 hchar, hbody, char_eq_some_iff.1 hclose⟩

end

theorem comma_space {s : List Char} (hs : Stops Text.isBlank s) :
    comma (", ".toList ++ s) = some ((), s) := by
  have hcomma : Text.trimStart (',' :: ' ' :: s) = ',' :: ' ' :: s :=
    trimStart_of_stops (by simp; decide)
  show comma (',' :: ' ' :: s) = some ((), s)
  unfold comma
  rw [bind_of_some _ (blanks_apply _), hcomma, bind_of_some _ (char_cons_self _ _), blanks_apply,
    trimStart_space, trimStart_of_stops hs]

theorem comma_eq_some {s r : List Char} {u : Unit} (h : comma s = some (u, r)) :
    ∃ t, Text.trimStart s = ',' :: t ∧ r = Text.trimStart t := by
  obtain ⟨_, s1, hblanks, hrest⟩ := bind_eq_some_iff.1 h
  obtain ⟨_, t, hchar, hend⟩ := bind_eq_some_iff.1 hrest
  cases hblanks
  cases hend
  exact ⟨t, char_eq_some_iff.1 hchar, rfl⟩

theorem comma_eq_none {s : List Char} (h : (Text.trimStart s).head? ≠ some ',') :
    comma s = none := by
  unfold comma
  rw [bind_of_some _ (blanks_apply _), bind_of_none _ (char_eq_none h)]

/-! ## Quoted texts -/

theorem splitQuoted?_escape (cs r : List Char) :
    splitQuoted? (cs.flatMap Text.escape ++ '"' :: r) = some (cs, r) := by
  induction cs with
  | nil => rfl
  | cons c cs ih =>
    rw [List.flatMap_cons, List.append_assoc]
    by_cases hquote : c = '"'
    · subst hquote
      show splitQuoted? ('\\' :: '"' :: (cs.flatMap Text.escape ++ '"' :: r)) = _
      rw [splitQuoted?, ih]
      rfl
    by_cases hslash : c = '\\'
    · subst hslash
      show splitQuoted? ('\\' :: '\\' :: (cs.flatMap Text.escape ++ '"' :: r)) = _
      rw [splitQuoted?, ih]
      rfl
    · -- any other character stands for itself
      have hescape : Text.escape c = [c] := by simp [Text.escape, hquote, hslash]
      rw [hescape, List.singleton_append, splitQuoted?, ih]
      · rfl
      · exact hquote
      · exact fun h => absurd h hslash
      · exact fun _ _ h => absurd h hslash

/-- **A quoted text reads back.** -/
theorem quoted_quote (s : String) (r : List Char) :
    quoted ((Text.quote s).toList ++ r) = some (s, r) := by
  rw [Text.toList_quote, List.cons_append, List.append_assoc]
  unfold quoted
  rw [bind_of_some _ (char_cons_self _ _), List.singleton_append,
    bind_of_some _ ((quotedRest_apply _).trans (splitQuoted?_escape _ _)), pure_apply,
    String.ofList_toList]

theorem quoted_eq_none {s : List Char} (h : s.head? ≠ some '"') : quoted s = none :=
  bind_of_none _ (char_eq_none h)

/-! ## Numbers -/

theorem intNumeral_eq_none {s : List Char} (h : Stops Char.isDigit s) : intNumeral s = none := by
  rw [intNumeral_eq_none_iff, takeSome_eq_none h]
  rintro _ _ ⟨⟩

theorem floatNumeral_eq_none {s : List Char} (h : Stops Char.isDigit s) : floatNumeral s = none :=
  bind_of_none _ (takeSome_eq_none h)

theorem intNumeral_toDigits {n : Nat} {r : List Char} (h : n < integerBound)
    (hr : Stops Char.isDigit r) :
    intNumeral (Nat.toDigits 10 n ++ r) = some (Int64.ofNat n, r) := by
  obtain ⟨hne, hall⟩ := isNumeral_toDigits n
  have hvalue := valueOf_toDigits n
  exact intNumeral_eq_some_iff.2
    ⟨_, takeSome_of_stops hne hall hr, by rw [hvalue]; exact h, by rw [hvalue]⟩

/-- Digits without a point behind them are no number with a fraction. -/
theorem floatNumeral_digits {ds r : List Char} (hds : IsNumeral ds) (hr : Stops Char.isDigit r)
    (hpoint : r.head? ≠ some '.') : floatNumeral (ds ++ r) = none := by
  unfold floatNumeral
  rw [bind_of_some _ (takeSome_of_stops hds.1 hds.2 hr), bind_of_none _ (char_eq_none hpoint)]

theorem floatNumeral_fraction {whole fraction r : List Char} (hwhole : IsNumeral whole)
    (hfraction : IsNumeral fraction) (hr : Stops Char.isDigit r) :
    floatNumeral (whole ++ '.' :: (fraction ++ r)) =
      some (Double.ofDigits whole fraction, r) := by
  unfold floatNumeral
  rw [bind_of_some _ (takeSome_of_stops hwhole.1 hwhole.2 (by simp)),
    bind_of_some _ (char_cons_self _ _),
    bind_of_some _ (takeSome_of_stops hfraction.1 hfraction.2 hr), pure_apply]

end Grammar

/-! ## Integers -/

/-- An integer without a sign is written with digits. -/
theorem exists_digits_of_nonneg {n : Int64} (h : 0 ≤ n) :
    ∃ m, m < integerBound ∧ n = Int64.ofNat m ∧
      (integerText n.toInt).toList = Nat.toDigits 10 m := by
  rw [Int64.le_iff_toInt_le] at h
  have hlt := n.toInt_lt
  obtain ⟨m, hm⟩ := Int.eq_ofNat_of_zero_le h
  have hbound : m < integerBound := by
    unfold integerBound
    omega
  refine ⟨m, hbound, ?_, ?_⟩
  · rw [← Int64.toInt_inj, Int64.toInt_ofNat_of_lt hbound, hm]
  · rw [hm]
    exact toList_digitsOf m

/-- An integer with a sign is written with a minus and digits, unless it is the least of all. -/
theorem exists_digits_of_neg {n : Int64} (hmin : Int64.minValue < n) (h : ¬ 0 ≤ n) :
    ∃ m, m < integerBound ∧ n = -Int64.ofNat m ∧
      (integerText n.toInt).toList = '-' :: Nat.toDigits 10 m := by
  rw [Int64.le_iff_toInt_le] at h
  rw [Int64.lt_iff_toInt_lt, Int64.toInt_minValue] at hmin
  obtain ⟨k, hk⟩ := Int.eq_negSucc_of_lt_zero (a := n.toInt) (by simpa using h)
  have hbound : k + 1 < integerBound := by
    unfold integerBound
    omega
  refine ⟨k + 1, hbound, ?_, ?_⟩
  · rw [← Int64.toInt_inj, Int64.toInt_neg, Int64.toInt_ofNat_of_lt hbound, hk,
      Int.bmod_eq_of_le (by omega) (by omega)]
    omega
  · rw [hk]
    exact toList_integerText_negSucc k

/-! ## Parameters -/

/-- How a parameter is read back: there is neither a minus nor a word for a number in the grammar of
parameters, so that the text of a number with one of them is taken for a text without quotes. -/
def Literal.reread : Literal → Literal
  | .int n => if 0 ≤ n then .int n else .string (integerText n.toInt)
  | .float (.finite false x) => .float (.finite false x)
  | .float x => .string x.literal
  | other => other

/-- A finite number without a minus, or no number at all. -/
def Literal.IsPlain : Literal → Prop
  | .int n => 0 ≤ n
  | .float x => x.isFinite = true ∧ x.isUnsigned = true
  | _ => True

/-- **Plain parameters, and only these, are read as they are.** -/
theorem Literal.reread_eq_self_iff {p : Literal} : p.reread = p ↔ p.IsPlain := by
  cases p with
  | int n =>
    rw [Literal.reread, Literal.IsPlain]
    split <;> simp [*]
  | float x =>
    cases x with
    | nan => simp [Literal.reread, Literal.IsPlain, Double.isFinite]
    | infinite negative => simp [Literal.reread, Literal.IsPlain, Double.isFinite]
    | finite negative m =>
      cases negative <;> simp [Literal.reread, Literal.IsPlain, Double.isUnsigned]
  | _ => simp [Literal.reread, Literal.IsPlain]

theorem map_reread_eq_self_iff {ps : List Literal} :
    ps.map Literal.reread = ps ↔ ∀ p ∈ ps, p.IsPlain := by
  conv_lhs => rhs; rw [← List.map_id ps]
  rw [List.map_inj_left]
  exact forall₂_congr fun p _ => Literal.reread_eq_self_iff

theorem isUnquoted_of_digit {c : Char} (h : c.isDigit = true) : Grammar.isUnquoted c = true :=
  Grammar.isUnquoted_of_isNameChar (Grammar.isNameChar_of_isFunctionChar
    (Grammar.isFunctionChar_of_isDigit h))

/-- What parameters are read back as texts look like. -/
structure IsBareText (w : List Char) : Prop where
  nonempty : w ≠ []
  chars : ∀ c ∈ w, Grammar.isUnquoted c = true
  start : Scanner.Stops Char.isDigit w

theorem isBareText_of_letters {w : List Char} (hne : w ≠ []) (hall : w.all Grammar.isUnquoted = true)
    (hstart : w.head?.all (fun c => !c.isDigit) = true) : IsBareText w := by
  refine ⟨hne, List.all_eq_true.1 hall, fun c hc => ?_⟩
  rw [Option.mem_def.1 hc] at hstart
  simpa using hstart

theorem isBareText_minus {ds : List Char} (h : ∀ c ∈ ds, c.isDigit = true ∨ c = '.') :
    IsBareText ('-' :: ds) := by
  refine ⟨by simp, List.forall_mem_cons.2 ⟨by decide, fun c hc => ?_⟩, by simp⟩
  rcases h c hc with hd | rfl
  · exact isUnquoted_of_digit hd
  · decide

/-- The texts that parameters have: digits, digits with a point, what is quoted, and what is read
back as a text without quotes. -/
inductive Literal.IsSpelledAs : Literal → String → Prop
  | int {m : Nat} {text : String} (hsame : (int (Int64.ofNat m)).reread = .int (Int64.ofNat m))
      (hm : m < integerBound) (htext : text.toList = Nat.toDigits 10 m) :
      IsSpelledAs (.int (Int64.ofNat m)) text
  | float {whole fraction : List Char} {text : String}
      (hsame : (float (Double.ofDigits whole fraction)).reread =
        .float (Double.ofDigits whole fraction))
      (htext : text.toList = whole ++ '.' :: fraction) (hwhole : IsNumeral whole)
      (hfraction : IsNumeral fraction) : IsSpelledAs (.float (Double.ofDigits whole fraction)) text
  | quoted (s : String) : IsSpelledAs (.string s) (Text.quote s)
  | bare {p : Literal} {text : String} (hreread : p.reread = .string text)
      (hbare : IsBareText text.toList) : IsSpelledAs p text

theorem Literal.isSpelledAs_int (n : Int64) : (int n).IsSpelledAs (integerText n.toInt) := by
  by_cases hn : 0 ≤ n
  · obtain ⟨m, hm, rfl, htext⟩ := exists_digits_of_nonneg hn
    exact .int (by rw [reread, if_pos hn]) hm htext
  · refine .bare (by rw [reread, if_neg hn]) ?_
    rw [Int64.le_iff_toInt_le] at hn
    obtain ⟨k, hk⟩ := Int.eq_negSucc_of_lt_zero (a := n.toInt) (by simpa using hn)
    rw [hk, toList_integerText_negSucc]
    exact isBareText_minus fun c hc => .inl ((isNumeral_toDigits _).2 c hc)

theorem Literal.isSpelledAs_float (x : Double) : (float x).IsSpelledAs x.literal := by
  cases x with
  | nan => exact .bare rfl (isBareText_of_letters (by decide) (by decide) (by decide))
  | infinite negative =>
    cases negative <;> exact .bare rfl (isBareText_of_letters (by decide) (by decide) (by decide))
  | finite negative x =>
    obtain ⟨whole, fraction, htext, hw, hf, hx⟩ := Double.exists_literal negative x
    cases negative with
    | false =>
      rw [← hx] at htext ⊢
      exact .float (by rw [hx]; rfl) (by simpa [Double.signText] using htext) hw hf
    | true =>
      refine .bare rfl ?_
      rw [htext]
      refine @isBareText_minus (whole ++ '.' :: fraction) fun c hc => ?_
      rcases List.mem_append.1 hc with hc | hc
      · exact .inl (hw.2 c hc)
      · rcases List.mem_cons.1 hc with rfl | hc
        · exact .inr rfl
        · exact .inl (hf.2 c hc)

/-- What is written of a parameter is one of these. -/
theorem Literal.isSpelledAs_of_parameterText {p : Literal} {text : String}
    (ht : p.parameterText = .ok text) : p.IsSpelledAs text := by
  cases p with
  | int n =>
    cases ht
    exact isSpelledAs_int n
  | float x =>
    cases ht
    exact isSpelledAs_float x
  | string s =>
    cases ht
    exact .quoted s
  | _ => cases ht

namespace Grammar

open Scanner Surface

/-- A comma or a closing parenthesis comes next. -/
def Closes (r : List Char) : Prop := r.head? = some ',' ∨ r.head? = some ')'

theorem Closes.stops {r : List Char} (h : Closes r) {p : Char → Bool} (hcomma : p ',' = false)
    (hparen : p ')' = false) : Stops p r :=
  h.elim (fun h => stops_of_head? h hcomma) fun h => stops_of_head? h hparen

theorem Closes.head?_ne {r : List Char} (h : Closes r) {c : Char} (hcomma : c ≠ ',')
    (hparen : c ≠ ')') : r.head? ≠ some c := by
  rcases h with h | h <;> rw [h] <;> simpa using Ne.symm ‹_›

theorem param_int {m : Nat} {r : List Char} (hm : m < integerBound) (hr : Closes r) :
    param (Nat.toDigits 10 m ++ r) = some (.int (Int64.ofNat m), r) := by
  have hdigit : Stops Char.isDigit r := hr.stops (by decide) (by decide)
  have hfloat := floatNumeral_digits (isNumeral_toDigits m) hdigit
    (hr.head?_ne (by decide) (by decide))
  unfold param
  rw [firstOf_of_none _ (bind_of_none _ hfloat)]
  refine firstOf_of_some _ ?_
  rw [bind_of_some _ (intNumeral_toDigits hm hdigit), pure_apply]

theorem param_float {whole fraction r : List Char} (hwhole : IsNumeral whole)
    (hfraction : IsNumeral fraction) (hr : Closes r) :
    param (whole ++ '.' :: fraction ++ r) = some (.float (Double.ofDigits whole fraction), r) := by
  have hdigit : Stops Char.isDigit r := hr.stops (by decide) (by decide)
  refine firstOf_of_some _ ?_
  rw [List.append_assoc, List.cons_append,
    bind_of_some _ (floatNumeral_fraction hwhole hfraction hdigit), pure_apply]

theorem param_quoted (s : String) (r : List Char) :
    param ((Text.quote s).toList ++ r) = some (.string s, r) := by
  have hdigit : Stops Char.isDigit ((Text.quote s).toList ++ r) := by
    rw [Text.toList_quote]
    simp
  unfold param
  rw [firstOf_of_none _ (bind_of_none _ (floatNumeral_eq_none hdigit)),
    firstOf_of_none _ (bind_of_none _ (intNumeral_eq_none hdigit))]
  refine firstOf_of_some _ ?_
  rw [bind_of_some _ (quoted_quote s r), pure_apply]

/-- Letters that are no number are read as a text. -/
theorem param_unquoted {w r : List Char} (hne : w ≠ []) (hw : ∀ c ∈ w, isUnquoted c = true)
    (hr : Stops isUnquoted r) (hfloat : floatNumeral (w ++ r) = none)
    (hint : intNumeral (w ++ r) = none) : param (w ++ r) = some (.string (String.ofList w), r) := by
  have hquote : quoted (w ++ r) = none :=
    quoted_eq_none (head?_append_ne hne hw (by decide) r)
  have hread : unquoted (w ++ r) = some (String.ofList w, r) := by
    unfold unquoted
    rw [bind_of_some _ (takeSome_of_stops hne hw hr), pure_apply]
  unfold param
  rw [firstOf_of_none _ (bind_of_none _ hfloat), firstOf_of_none _ (bind_of_none _ hint),
    firstOf_of_none _ (bind_of_none _ hquote)]
  refine firstOf_of_some _ ?_
  rw [bind_of_some _ hread, pure_apply]

/-- **A parameter reads back**, or else its text does. -/
theorem param_text {p : Literal} {text : String} (ht : p.parameterText = .ok text) :
    ∃ q, q.toLiteral = p.reread ∧ ∀ r, Closes r → param (text.toList ++ r) = some (q, r) := by
  cases Literal.isSpelledAs_of_parameterText ht with
  | @int m _ hsame hm htext =>
    refine ⟨.int (Int64.ofNat m), hsame.symm, fun r hr => ?_⟩
    rw [htext]
    exact param_int hm hr
  | @float whole fraction _ hsame htext hw hf =>
    refine ⟨.float (Double.ofDigits whole fraction), hsame.symm, fun r hr => ?_⟩
    rw [htext]
    exact param_float hw hf hr
  | quoted s => exact ⟨.string s, rfl, fun r _ => param_quoted s r⟩
  | bare hreread hbare =>
    refine ⟨.string text, hreread.symm, fun r hr => ?_⟩
    have hdigit : Stops Char.isDigit (text.toList ++ r) := by
      obtain ⟨c, w, hcw⟩ := List.exists_cons_of_ne_nil hbare.nonempty
      have hstart := hbare.start
      rw [hcw] at hstart ⊢
      exact stops_cons.2 (stops_cons.1 hstart)
    have hread := param_unquoted hbare.nonempty hbare.chars (hr.stops (by decide) (by decide))
      (floatNumeral_eq_none hdigit) (intNumeral_eq_none hdigit)
    rw [String.ofList_toList] at hread
    exact hread

/-! ## Metrics -/

/-- Where a run of characters is not followed by a colon, no resource identifier starts. -/
theorem bareMri_eq_none {w r : List Char} (hw : ∀ x ∈ w, (isMriChar x && x != ':') = true)
    (hr : Stops (fun x => isMriChar x && x != ':') r) (hcolon : r.head? ≠ some ':') :
    bareMri (w ++ r) = none := by
  unfold bareMri Mri.segments
  by_cases hne : w = []
  · subst hne
    exact bind_of_none _ (takeSome_eq_none hr)
  · rw [bind_of_some _ (takeSome_of_stops hne hw hr), bind_of_none _ (char_eq_none hcolon)]

theorem stops_isPublicChar_parts {r : List Char} (hr : Stops isPublicChar r)
    (parts : List (List Char)) :
    Stops isPublicChar (parts.flatMap (fun part => '.' :: part) ++ r) := by
  cases parts with
  | nil => exact hr
  | cons part parts => simp; decide

/-- Parts with points in front of them are read one by one. -/
theorem many_parts {parts : List (List Char)} {r : List Char}
    (h : ∀ part ∈ parts, part ≠ [] ∧ ∀ c ∈ part, isPublicChar c = true)
    (hr : Stops isPublicChar r) (hpoint : r.head? ≠ some '.') :
    many (do
      char '.'
      let part ← takeSome isPublicChar
      pure ('.' :: part)) (parts.flatMap (fun part => '.' :: part) ++ r) =
      some (parts.map fun part => '.' :: part, r) := by
  induction parts with
  | nil => exact many_nil (bind_of_none _ (char_eq_none hpoint))
  | cons part parts ih =>
    obtain ⟨hne, hall⟩ := h part (by simp)
    rw [List.flatMap_cons, List.append_assoc, List.map_cons]
    refine many_cons ?_ ?_ (ih fun x hx => h x (by simp [hx]))
    · rw [List.cons_append, bind_of_some _ (char_cons_self _ _),
        bind_of_some _ (takeSome_of_stops hne hall (stops_isPublicChar_parts hr parts)), pure_apply]
    · simp only [List.cons_append, List.length_cons, List.length_append]
      omega

/-- **A public name reads back** where no character of one follows. -/
theorem publicName_append {n r : List Char} (hn : IsPublicName n) (hr : Stops isPublicChar r)
    (hpoint : r.head? ≠ some '.') : publicName (n ++ r) = some (n, r) := by
  obtain ⟨first, rest, rfl, hparts⟩ := hn
  obtain ⟨⟨hne, hall⟩, hrest⟩ := List.forall_mem_cons.1 hparts
  unfold publicName
  rw [List.append_assoc,
    bind_of_some _ (takeSome_of_stops hne hall (stops_isPublicChar_parts hr rest)),
    bind_of_some _ (many_parts hrest hr hpoint), pure_apply, List.flatMap_def]

theorem reduce_of_valid {ref : MetricRef} (h : ref.toMetric.validate = .ok ()) :
    ref.reduce = .ok ref.toMetric := by
  unfold MetricRef.reduce
  rw [h]
  rfl

/-- Where neither a back quote nor a resource identifier starts, a metric is a public name. -/
theorem metric_eq_publicName {s : List Char} (hquote : s.head? ≠ some backQuote)
    (hbare : bareMri s = none) :
    metric s = (publicName s).map fun found => (.publicName (String.ofList found.1), found.2) := by
  unfold metric backQuoted between
  rw [firstOf_of_none _ (bind_of_none _ (bind_of_none _ (char_eq_none hquote))),
    firstOf_of_none _ (bind_of_none _ hbare),
    firstOf_of_none _ (bind_of_none _ (bind_of_none _ (char_eq_none hquote))), firstOf_singleton]
  cases hname : publicName s with
  | none => exact bind_of_none _ hname
  | some found => rw [bind_of_some _ hname, pure_apply, Option.map_some]

theorem metric_publicName {n : String} (h : IsPublicName n.toList) (r : List Char) :
    metric (n.toList ++ ')' :: r) = some (.publicName n, ')' :: r) := by
  have hmri : ∀ x ∈ n.toList, (isMriChar x && x != ':') = true := by
    intro x hx
    have hx' := h.isNameChar x hx
    rw [isMriChar_of_isNameChar hx', Bool.true_and]
    simpa using ne_of_class (x := ':') hx' (by decide)
  have hquote : (n.toList ++ ')' :: r).head? ≠ some backQuote :=
    head?_append_ne h.ne_nil hmri (by decide) _
  have hbare : bareMri (n.toList ++ ')' :: r) = none :=
    bareMri_eq_none hmri (by simp; decide) (by simp)
  have hread : publicName (n.toList ++ ')' :: r) = some (n.toList, ')' :: r) :=
    publicName_append h (by simp; decide) (by simp)
  rw [metric_eq_publicName hquote hbare, hread, Option.map_some, String.ofList_toList]

/-- **A metric in parentheses reads back.** -/
theorem metric_text {m : Metric} {text : String} (hm : m.IsNamed) (ht : m.print = .ok text) :
    ∃ ref : MetricRef, ref.reduce = .ok m ∧
      ∀ r, metric (text.toList ++ ')' :: r) = some (ref, ')' :: r) := by
  have hvalid := hm.validate_eq
  cases hm with
  | publicName h =>
    cases ht
    exact ⟨.publicName text, reduce_of_valid hvalid, metric_publicName h⟩
  | @mri mri h =>
    cases ht
    exact ⟨.mri mri, reduce_of_valid hvalid, fun r => metric_mriText h (by simp; decide)⟩

/-! ## Names and groupings -/

theorem name_append {n : String} {r : List Char} (hn : isName n.toList = true)
    (hr : Stops isNameChar r) : name (n.toList ++ r) = some (n, r) := by
  obtain ⟨hne, hall⟩ := Bool.and_eq_true_iff.1 hn
  unfold name
  rw [bind_of_some _ (takeSome_of_stops (by simpa using hne) (List.all_eq_true.1 hall) hr),
    pure_apply, String.ofList_toList]

theorem name_eq_none {s : List Char} (h : Stops isNameChar s) : name s = none :=
  bind_of_none _ (takeSome_eq_none h)

theorem stops_isBlank_of_isName {n : String} (hn : isName n.toList = true) (s : List Char) :
    Stops Text.isBlank (n.toList ++ s) := by
  obtain ⟨hne, hall⟩ := Bool.and_eq_true_iff.1 hn
  obtain ⟨c, w, hcw⟩ := List.exists_cons_of_ne_nil (l := n.toList) (by simpa using hne)
  rw [hcw]
  simpa using isBlank_of_isNameChar (List.all_eq_true.1 hall c (by rw [hcw]; simp))

theorem mapM_print_eq {cs : List Column} (h : ∀ c ∈ cs, c.IsWritable) (role : NameRole) :
    Column.printAll role cs = .ok (cs.map Column.name) := by
  induction cs with
  | nil => rfl
  | cons c cs ih =>
    rw [Column.printAll, (h c (by simp)).print_eq, ih fun x hx => h x (by simp [hx])]
    rfl

theorem columns_names {cs : List Column} (h : ∀ c ∈ cs, c.IsWritable) :
    columns (cs.map Column.name) = .ok cs := by
  induction cs with
  | nil => rfl
  | cons c cs ih =>
    have hcolumn : column c.name = .ok c := by
      unfold column
      rw [(h c (by simp)).valid]
      rfl
    rw [List.map_cons, columns, hcolumn, ih fun x hx => h x (by simp [hx])]
    rfl

/-- Names with commas between them are read up to a parenthesis. -/
theorem sepBy_names {ns : List String} (hne : ns ≠ []) (h : ∀ n ∈ ns, isName n.toList = true)
    (r : List Char) :
    sepBy name comma ((Text.join ", " ns).toList ++ ')' :: r) = some (ns, ')' :: r) := by
  refine sepBy_join (Stops isNameChar) hne (by decide) ?_ (fun _ _ _ => by simp; decide)
    (by simp; decide) (comma_eq_none ?_)
  · rw [List.forall₂_same]
    exact fun n hn t ht => ⟨name_append (h n hn) ht,
      comma_space (stops_isBlank_of_isName (h n hn) t)⟩
  · rw [trimStart_of_stops (by simp; decide)]
    simp

/-- Behind the word for groupings, what stands in parentheses is read. -/
theorem groupBy_paren {s r : List Char} {ns : List String}
    (h : parens (sepBy name comma) ('(' :: s) = some (ns, r)) :
    groupBy (" by (".toList ++ s) = some (ns, r) := by
  show groupBy (' ' :: 'b' :: 'y' :: ' ' :: '(' :: s) = _
  have hword : ∀ s, word "by" ('b' :: 'y' :: s) = some ((), s) := word_append "by"
  have hblank : ∀ (c : Char) s, Text.isBlank c = false → Text.trimStart (' ' :: c :: s) = c :: s :=
    fun c s hc => by rw [trimStart_space, trimStart_of_stops (by simpa using hc)]
  unfold groupBy
  rw [bind_of_some _ (blanks_apply _), hblank 'b' _ (by decide), bind_of_some _ (hword _),
    bind_of_some _ (blanks_apply _), hblank '(' _ (by decide),
    firstOf_of_none _ (bind_of_none _ (name_eq_none (by simp; decide)))]
  exact firstOf_of_some _ h

theorem groupByText_eq {cs : List Column} {text : String} (hne : cs ≠ [])
    (h : ∀ c ∈ cs, c.IsWritable) (ht : groupByText cs = .ok text) :
    text = " by (" ++ Text.join ", " (cs.map Column.name) ++ ")" := by
  unfold groupByText at ht
  split at ht
  · exact absurd rfl hne
  · rw [mapM_print_eq h] at ht
    cases ht
    rfl

/-- **A grouping reads back.** -/
theorem groupBy_text {cs : List Column} {text : String} (hne : cs ≠ [])
    (h : ∀ c ∈ cs, c.IsWritable) (ht : groupByText cs = .ok text) (r : List Char) :
    groupBy (text.toList ++ r) = some (cs.map Column.name, r) := by
  have hnames : ∀ n ∈ cs.map Column.name, isName n.toList = true :=
    List.forall_mem_map.2 fun c hc => (h c hc).isName
  have hstart : Stops Text.isBlank ((Text.join ", " (cs.map Column.name)).toList ++ ')' :: r) := by
    obtain ⟨c, cs', rfl⟩ := List.exists_cons_of_ne_nil hne
    rw [List.map_cons, toList_join_cons, List.append_assoc]
    exact stops_isBlank_of_isName (hnames c.name (by simp)) _
  have htext : text.toList ++ r =
      " by (".toList ++ ((Text.join ", " (cs.map Column.name)).toList ++ ')' :: r) := by
    rw [groupByText_eq hne h ht]
    simp
  rw [htext]
  exact groupBy_paren (parens_of_some hstart (sepBy_names (by simpa using hne) hnames r))

theorem groupBy_eq_none {r : List Char} (h : (Text.trimStart r).head? ≠ some 'b') :
    groupBy r = none := by
  unfold groupBy
  rw [bind_of_some _ (blanks_apply _), bind_of_none _ (word_eq_none (w := "by") rfl h)]

end Grammar

end MetricQuery
