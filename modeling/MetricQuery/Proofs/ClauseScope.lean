import MetricQuery.Proofs.Checks
import MetricQuery.Proofs.ClauseParts
import MetricQuery.Proofs.NumberText
import MetricQuery.Proofs.Outputs

/-!
# Terms of clauses

A reader of clauses stands behind each term where it stood in front of it, whatever texts and names
the term holds.  A filter is not cut at a connective, unless it is a comparison with a column that is
itself called so.

* `Literal.closed_clauseText`, `Expr.closed_clauseText`, `Filter.closed_clauseText` : terms leave a
  reader of clauses where it stood;
* `Filter.IsTorn`              : a comparison with a column that has the name of a connective;
* `Filter.whole_or_torn`       : every other filter is whole;
* `Filter.exists_cutsInto`     : into which parts a filter is cut behind a torn one.
-/

set_option autoImplicit false

namespace MetricQuery

open ClauseText Outcome

/-! ## Figures -/

/-- The characters of numbers and times. -/
def isFigure (c : Char) : Bool := c.isDigit || "-+.:TinfNa".toList.contains c

/-- Texts of numbers and times. -/
def AreFigures (s : String) : Prop := ∀ c ∈ s.toList, isFigure c = true

namespace AreFigures

variable {s t : String}

theorem append (hs : AreFigures s) (ht : AreFigures t) : AreFigures (s ++ t) := by
  intro c hc
  rw [String.toList_append, List.mem_append] at hc
  exact hc.elim (hs c) (ht c)

theorem of_all (h : s.toList.all isFigure = true) : AreFigures s := List.all_eq_true.1 h

theorem of_digits {cs : List Char} (h : ∀ c ∈ cs, c.isDigit = true) :
    AreFigures (String.ofList cs) := by
  intro c hc
  rw [String.toList_ofList] at hc
  simp [isFigure, h c hc]

theorem digitsOf (n : Nat) : AreFigures (digitsOf n) := of_digits (isNumeral_toDigits n).2

theorem integerText (n : Int) : AreFigures (integerText n) := by
  cases n with
  | ofNat n => exact digitsOf n
  | negSucc n => exact append (s := "-") (of_all (by decide)) (digitsOf (n + 1))

theorem positional (d : Decimal) : AreFigures d.positional := by
  have htext : ∀ c ∈ d.text, c.isDigit = true := (isNumeral_toDigits d.digits).2
  have hzeros : ∀ n, ∀ c ∈ List.replicate n '0', c.isDigit = true := by
    intro n c hc
    rw [List.eq_of_mem_replicate hc]
    decide
  unfold Decimal.positional
  dsimp only
  split
  · refine of_digits fun c hc => ?_
    exact (List.mem_append.1 hc).elim (htext c) (hzeros _ c)
  · split
    · refine append (append (of_digits fun c hc => htext c (List.mem_of_mem_take hc)) ?_)
        (of_digits fun c hc => htext c (List.mem_of_mem_drop hc))
      exact of_all (by decide)
    · refine append (s := "0.") (of_all (by decide)) (of_digits fun c hc => ?_)
      exact (List.mem_append.1 hc).elim (hzeros _ c) (htext c)

theorem signText (negative : Bool) : AreFigures (Double.signText negative) := by
  cases negative <;> exact of_all (by decide)

theorem plain (x : Double) : AreFigures x.plain := by
  cases x with
  | nan => exact of_all (by decide)
  | infinite negative =>
    exact append (t := "inf") (signText negative) (of_all (by decide))
  | finite negative x => exact append (signText negative) (positional x.digits)

theorem literal (x : Double) : AreFigures x.literal := by
  cases x with
  | nan => exact plain .nan
  | infinite negative => exact plain (.infinite negative)
  | finite negative x =>
    unfold Double.literal
    dsimp only
    split
    · exact append (t := ".0") (append (signText negative) (digitsOf x.floor))
        (of_all (by decide))
    · exact plain (.finite negative x)

theorem padded (width n : Nat) : AreFigures (padded width n) := by
  refine of_digits fun c hc => ?_
  rcases List.mem_append.1 hc with hc | hc
  · rw [List.eq_of_mem_replicate hc]
    decide
  · exact (isNumeral_toDigits n).2 c hc

theorem yearText (year : Int) : AreFigures (yearText year) := by
  have hsign : AreFigures (if year < 0 then "-" else "+") := by
    split <;> exact of_all (by decide)
  unfold MetricQuery.yearText
  split
  · exact padded 4 year.toNat
  · exact append hsign (padded 4 year.natAbs)

theorem date (d : Date) : AreFigures d.text := by
  have hdash : AreFigures "-" := of_all (by decide)
  exact append (append (append (append (yearText _) hdash) (padded 2 _)) hdash) (padded 2 _)

theorem bound (t : Instant) : AreFigures t.bound := by
  have hcolon : AreFigures ":" := of_all (by decide)
  have hclock : AreFigures t.clock :=
    append (append (append (append (padded 2 _) hcolon) (padded 2 _)) hcolon) (padded 2 _)
  refine append (append (append (date t.date) ?_) hclock) ?_
  · exact of_all (by decide)
  · split
    · exact of_all (by decide)
    · exact append (s := ".") (of_all (by decide)) (padded 6 _)

end AreFigures

namespace ClauseText

variable {spaced : Bool} {c : Char} {p : Char → Bool}

/-- A class of characters that has none of those a reader minds is plain. -/
theorem isPlain_of_class (h : p c = true) (hmarks : marks.all (fun x => !p x) = true) :
    isPlain c = true := by
  rw [isPlain, Bool.not_eq_true', ← Bool.not_eq_true]
  intro hc
  have hnot := List.all_eq_true.1 hmarks c (List.contains_iff_mem.1 hc)
  rw [h] at hnot
  cases hnot

theorem Closed.of_class {w : List Char} (h : ∀ c ∈ w, p c = true)
    (hmarks : marks.all (fun x => !p x) = true) : Closed spaced w :=
  .of_plain fun c hc => isPlain_of_class (h c hc) hmarks

theorem Closed.figures {s : String} (h : AreFigures s) : Closed spaced s.toList :=
  .of_class h (by decide)

/-- A text between parentheses. -/
theorem Closed.inParens {inner : List Char} (h : Closed true inner) (spaced : Bool) :
    Closed spaced ('(' :: (inner ++ [')'])) :=
  .parens h .nil

theorem Closed.quoteSingle (s : String) : Closed spaced (Text.quoteSingle s).toList := by
  have hquoted : Closed spaced ('\x27' :: (s.toList.flatMap Text.escapeSingle ++ ['\x27'])) :=
    .quoted s.toList .nil
  simpa [Text.toList_quoteSingle] using hquoted

theorem Closed.join {sep : String} {texts : List String} (hsep : Closed true sep.toList)
    (h : ∀ t ∈ texts, Closed true t.toList) : Closed true (Text.join sep texts).toList := by
  induction texts with
  | nil => exact .nil
  | cons t texts ih =>
    have ht := h t (by simp)
    have hrest := ih fun u hu => h u (by simp [hu])
    cases texts with
    | nil => exact ht
    | cons u texts =>
      rw [Text.join, String.toList_append, String.toList_append]
      exact (ht.append hsep).append hrest

theorem Closed.comma : Closed true ", ".toList :=
  .plain (by decide) (.blank .nil)

end ClauseText

/-! ## Literals -/

theorem Literal.clauseTexts_eq (vs : List Literal) : clauseTexts vs = vs.map clauseText := by
  induction vs with
  | nil => rfl
  | cons v vs ih => rw [clauseTexts, ih, List.map_cons]

/-- A time is quoted as it is. -/
theorem timeText_eq {s : String} (h : AreFigures s) :
    timeText s = "toDateTime(" ++ Text.quoteSingle s ++ ")" := by
  have hescape : s.toList.flatMap Text.escapeSingle = s.toList := by
    have hsame : ∀ c ∈ s.toList, Text.escapeSingle c = [c] := by
      intro c hc
      have hne : ∀ x, isFigure x = false → c ≠ x := by
        rintro x hx rfl
        rw [h c hc] at hx
        cases hx
      simp [Text.escapeSingle, hne '\\' (by decide), hne '\x27' (by decide), hne '\n' (by decide)]
    rw [List.flatMap_congr hsame]
    simp
  rw [timeText, ← String.toList_inj]
  simp [Text.toList_quoteSingle, hescape]

theorem closed_timeText {s : String} (h : AreFigures s) : Closed false (timeText s).toList := by
  rw [timeText_eq h]
  have hword : Closed false "toDateTime".toList := .of_all (by decide)
  have hclosed := hword.append ((Closed.quoteSingle s).inParens false)
  simpa using hclosed

mutual

/-- **A literal leaves a reader of clauses where it stood**, and has no blank in the open. -/
theorem Literal.closed_clauseText : ∀ v : Literal, Closed false v.clauseText.toList
  | .null => .of_all (by decide)
  | .bool true => .of_all (by decide)
  | .bool false => .of_all (by decide)
  | .int n => .figures (.integerText n.toInt)
  | .float x => .figures (.literal x)
  | .string s => .quoteSingle s
  | .date d => closed_timeText (.date d)
  | .moment m => closed_timeText (.bound m.instant)
  | .array items => by
    have hword : Closed false "array".toList := .of_all (by decide)
    have hitems := Closed.join .comma (Literal.closed_clauseTexts items)
    rw [Literal.clauseText]
    simpa using hword.append (hitems.inParens false)
  | .tuple items => by
    have hword : Closed false "tuple".toList := .of_all (by decide)
    have hitems := Closed.join .comma (Literal.closed_clauseTexts items)
    rw [Literal.clauseText]
    simpa using hword.append (hitems.inParens false)

/-- So do literals, one by one. -/
theorem Literal.closed_clauseTexts : ∀ vs : List Literal,
    ∀ t ∈ Literal.clauseTexts vs, Closed true t.toList
  | [], t, ht => by
    rw [Literal.clauseTexts] at ht
    cases ht
  | v :: rest, t, ht => by
    rw [Literal.clauseTexts] at ht
    rcases List.mem_cons.1 ht with rfl | ht
    · exact (Literal.closed_clauseText v).toSpaced
    · exact Literal.closed_clauseTexts rest t ht

end

/-! ## Columns and names -/

/-- A column that passes its check leaves a reader where it stood: what its brackets hold is
passed over. -/
theorem Column.closed_name {c : Column} (h : c.validate = .ok ()) :
    Closed false c.name.toList := by
  have hname : Column.isName c.name.toList = true := by
    unfold Column.validate at h
    split at h
    · assumption
    · cases h
  generalize c.name.toList = s at hname
  cases s with
  | nil => exact .nil
  | cons c rest =>
    obtain ⟨hstart, hsuffix⟩ := Bool.and_eq_true_iff.1 hname
    have hparts : Closed false (rest.takeWhile Column.isPart) :=
      .of_class (List.all_eq_true.1 List.all_takeWhile) (by decide)
    have hbrackets : Closed false (rest.dropWhile Column.isPart) := by
      generalize rest.dropWhile Column.isPart = suffix at hsuffix
      unfold Column.isSuffix at hsuffix
      split at hsuffix
      · exact .nil
      · rename_i inner
        have hdrop := beq_iff_eq.1 hsuffix
        rw [← List.takeWhile_append_dropWhile (p := fun c => c != '[' && c != ']') (l := inner),
          hdrop]
        refine .bracketed (fun x hx => ?_) .nil
        have hx' := List.all_eq_true.1 List.all_takeWhile x hx
        simp at hx'
        exact hx'.2
      · cases hsuffix
    rw [← List.takeWhile_append_dropWhile (p := Column.isPart) (l := rest)]
    exact .plain (isPlain_of_class hstart (by decide)) (hparts.append hbrackets)

theorem closed_functionName {s : List Char} (h : Expr.isFunctionName s = true) :
    Closed false s := by
  cases s with
  | nil => exact .nil
  | cons c rest =>
    obtain ⟨hstart, hrest⟩ := Bool.and_eq_true_iff.1 h
    exact .plain (isPlain_of_class hstart (by decide))
      (.of_class (List.all_eq_true.1 hrest) (by decide))

theorem closed_alias {s : List Char} (h : Expr.isAlias s = true) : Closed false s := by
  cases s with
  | nil => exact .nil
  | cons c rest =>
    obtain ⟨hstart, hrest⟩ := Bool.and_eq_true_iff.1 h
    exact .plain (isPlain_of_class hstart (by decide))
      (.of_class (List.all_eq_true.1 hrest) (by decide))

/-! ## Expressions -/

namespace Expr

/-- An expression without its alias. -/
def unlabelled : Expr → String
  | column c => c.name
  | literal v => v.clauseText
  | call function initializers parameters _ =>
    function ++ initializersText initializers ++
      "(" ++ Text.join ", " (Expr.clauseTexts parameters) ++ ")"

/-- The alias of an expression, if it is a call and has one. -/
def label? : Expr → Option String
  | call _ _ _ label => label
  | _ => none

theorem clauseText_eq (e : Expr) : e.clauseText = e.unlabelled ++ aliasText e.label? := by
  cases e with
  | column c => rw [clauseText]; exact String.append_empty.symm
  | literal v => rw [clauseText]; exact String.append_empty.symm
  | call function initializers parameters label => rw [clauseText, unlabelled, label?]

theorem closed_initializersText (initializers : Option (List Literal)) :
    Closed false (initializersText initializers).toList := by
  cases initializers with
  | none => exact .nil
  | some vs =>
    have hitems := Closed.join .comma (Literal.closed_clauseTexts vs)
    simpa [initializersText] using hitems.inParens false

/-- An alias is two words behind its call. -/
theorem aliasText_eq (label : Option String) :
    (aliasText label).toList = (label.toList.flatMap fun name =>
      ["AS".toList, '\x60' :: (name.toList ++ ['\x60'])]).flatMap (' ' :: ·) := by
  cases label with
  | none => rfl
  | some name => simp [aliasText]

theorem closed_labelWord {name : String} (h : isAlias name.toList = true) :
    Closed false ('\x60' :: (name.toList ++ ['\x60'])) :=
  .plain (by decide) ((closed_alias h).append (.plain (by decide) .nil))

theorem closed_aliasText {label : Option String}
    (h : ∀ name ∈ label, isAlias name.toList = true) : Closed true (aliasText label).toList := by
  rw [aliasText_eq]
  cases label with
  | none => exact .nil
  | some name =>
    have hword : Closed true "AS".toList := .of_all (by decide)
    have hname := (closed_labelWord (h name rfl)).toSpaced
    simpa using (Closed.blank hword).append (Closed.blank hname)

theorem closed_of_parts {e : Expr} (h : Closed false e.unlabelled.toList)
    (hlabel : ∀ name ∈ e.label?, isAlias name.toList = true) :
    Closed true e.clauseText.toList := by
  rw [clauseText_eq, String.toList_append]
  exact h.toSpaced.append (closed_aliasText hlabel)

theorem isAlias_of_validate {e : Expr} (h : e.validate = .ok ()) :
    ∀ name ∈ e.label?, isAlias name.toList = true := by
  cases e with
  | column c => rintro name ⟨⟩
  | literal v => rintro name ⟨⟩
  | call function initializers parameters label => exact (validate_call_eq_ok.1 h).2.1

mutual

/-- An expression without its alias is one word. -/
theorem closed_unlabelled : ∀ e : Expr, e.validate = .ok () →
    Closed false e.unlabelled.toList
  | .column c, h => by
    rw [validate] at h
    exact c.closed_name h
  | .literal v, _ => v.closed_clauseText
  | .call function initializers parameters label, h => by
    obtain ⟨hname, -, -, hparameters⟩ := validate_call_eq_ok.1 h
    have hall := Closed.join .comma (closed_clauseTexts parameters hparameters)
    have hhead := (closed_functionName hname).append (closed_initializersText initializers)
    rw [unlabelled]
    simpa using hhead.append (hall.inParens false)

/-- Expressions leave a reader where it stood. -/
theorem closed_clauseTexts : ∀ es : List Expr, (∀ e ∈ es, e.validate = .ok ()) →
    ∀ t ∈ Expr.clauseTexts es, Closed true t.toList
  | [], _, t, ht => by
    rw [Expr.clauseTexts] at ht
    cases ht
  | e :: rest, h, t, ht => by
    obtain ⟨he, hrest⟩ := List.forall_mem_cons.1 h
    rw [Expr.clauseTexts] at ht
    rcases List.mem_cons.1 ht with rfl | ht
    · exact closed_of_parts (closed_unlabelled e he) (isAlias_of_validate he)
    · exact closed_clauseTexts rest hrest t ht

end

/-- **An expression that passes its check leaves a reader of clauses where it stood.** -/
theorem closed_clauseText {e : Expr} (h : e.validate = .ok ()) : Closed true e.clauseText.toList :=
  closed_of_parts (closed_unlabelled e h) (isAlias_of_validate h)

end Expr

/-! ## Words that are no connective -/

section

variable {op : Connective} {u w : List Char}

/-- A word with a letter that no connective has is none. -/
theorem ne_connective {c : Char} (hc : c ∈ w) (h : c ∉ "ANDOR".toList) : w ≠ op.text.toList := by
  have hletters : op.text.toList.all ("ANDOR".toList.contains ·) = true := by
    cases op <;> decide
  rintro rfl
  exact h (List.contains_iff_mem.1 (List.all_eq_true.1 hletters c hc))

theorem ne_connective_of_figures {s : String} (h : AreFigures s) : s.toList ≠ op.text.toList := by
  have hletter : op.text.toList.any (fun x => !isFigure x) = true := by
    cases op <;> decide
  obtain ⟨x, hx, hfigure⟩ := List.any_eq_true.1 hletter
  intro heq
  rw [h x (heq ▸ hx)] at hfigure
  cases hfigure

theorem Literal.clauseText_ne (v : Literal) : v.clauseText.toList ≠ op.text.toList := by
  cases v with
  | null => cases op <;> decide
  | bool b => cases b <;> cases op <;> decide
  | int n => exact ne_connective_of_figures (.integerText n.toInt)
  | float x => exact ne_connective_of_figures (.literal x)
  | string s =>
    exact ne_connective (c := '\x27') (by simp [clauseText, Text.toList_quoteSingle]) (by decide)
  | date d => exact ne_connective (c := '(') (by simp [clauseText, timeText]) (by decide)
  | moment m => exact ne_connective (c := '(') (by simp [clauseText, timeText]) (by decide)
  | array items => exact ne_connective (c := '(') (by simp [clauseText]) (by decide)
  | tuple items => exact ne_connective (c := '(') (by simp [clauseText]) (by decide)

/-- Only a column can have the name of a connective. -/
theorem Expr.unlabelled_ne {e : Expr} (h : e ≠ .column ⟨op.text⟩) :
    e.unlabelled.toList ≠ op.text.toList := by
  cases e with
  | column c =>
    intro heq
    refine h ?_
    rw [← String.toList_inj.1 heq]
    rfl
  | literal v => exact v.clauseText_ne
  | call function initializers parameters label =>
    exact ne_connective (c := '(') (by simp [unlabelled]) (by decide)

/-! ## Conditions -/

/-- An alias does not tear a text. -/
theorem ClauseText.Whole.addAlias (hu : Whole op u) {label : Option String}
    (h : ∀ name ∈ label, Expr.isAlias name.toList = true) :
    Whole op (u ++ (aliasText label).toList) := by
  rw [Expr.aliasText_eq]
  refine hu.words fun x hx => ?_
  cases label with
  | none => cases hx
  | some name =>
    have hword : "AS".toList ≠ op.text.toList := by cases op <;> decide
    have hname := Expr.closed_labelWord (h name rfl)
    have hmem : x = "AS".toList ∨ x = '\x60' :: (name.toList ++ ['\x60']) := by simpa using hx
    rcases hmem with rfl | rfl
    · exact ⟨.of_all (by decide), hword⟩
    · exact ⟨hname, ne_connective (c := '\x60') (by simp) (by decide)⟩

theorem Expr.whole {e : Expr} (h : e.validate = .ok ()) : Whole op e.clauseText.toList := by
  rw [clauseText_eq, String.toList_append]
  exact (closed_unlabelled e h).whole.addAlias (isAlias_of_validate h)

/-- An expression goes on a text that is whole, unless it is a column that has the name of the
connective. -/
theorem ClauseText.Whole.addExpr (hu : Whole op u) {e : Expr} (he : e.validate = .ok ())
    (hne : e ≠ .column ⟨op.text⟩) : Whole op (u ++ ' ' :: e.clauseText.toList) := by
  have hword := hu.blank (Expr.closed_unlabelled e he) (Expr.unlabelled_ne hne)
  rw [Expr.clauseText_eq, String.toList_append]
  simpa using hword.addAlias (Expr.isAlias_of_validate he)

/-- The words of an operator do not tear a text. -/
theorem ClauseText.Whole.addComparison (hu : Whole op u) (c : Comparison) :
    Whole op (u ++ ' ' :: c.text.toList) := by
  have hwords : ∃ ws : List (List Char), ' ' :: c.text.toList = ws.flatMap (' ' :: ·) ∧
      ws.all (fun x => x.all isPlain && x != op.text.toList) = true := by
    refine ⟨c.text.toList.splitOn ' ', ?_⟩
    cases c <;> cases op <;> decide
  obtain ⟨ws, heq, hws⟩ := hwords
  rw [heq]
  refine hu.words fun x hx => ?_
  obtain ⟨hplain, hne⟩ := Bool.and_eq_true_iff.1 (List.all_eq_true.1 hws x hx)
  exact ⟨.of_all hplain, bne_iff_ne.1 hne⟩

end

/-- The words of an operator are whole. -/
theorem Comparison.whole_text {op : Connective} (c : Comparison) : Whole op c.text.toList := by
  have hwords : ∃ w ws, c.text.toList = w ++ List.flatMap (' ' :: ·) ws ∧ w.all isPlain = true ∧
      ws.all (fun x => x.all isPlain && x != op.text.toList) = true := by
    refine ⟨(c.text.toList.splitOn ' ').headD [], (c.text.toList.splitOn ' ').tail, ?_⟩
    cases c <;> cases op <;> decide
  obtain ⟨w, ws, heq, hw, hws⟩ := hwords
  have hfirst : Whole op w := (Closed.of_all hw).whole
  rw [heq]
  refine hfirst.words fun x hx => ?_
  obtain ⟨hplain, hne⟩ := Bool.and_eq_true_iff.1 (List.all_eq_true.1 hws x hx)
  exact ⟨.of_all hplain, bne_iff_ne.1 hne⟩

theorem Comparison.closed_text (c : Comparison) : Closed true c.text.toList := by
  have hall : c.text.toList.all (fun x => x == ' ' || isPlain x) = true := by
    cases c <;> decide
  have hplain : ∀ x ∈ c.text.toList, x ≠ ' ' → isPlain x = true := by
    intro x hx hne
    have hx' := List.all_eq_true.1 hall x hx
    simpa [hne] using hx'
  generalize c.text.toList = s at hplain
  induction s with
  | nil => exact .nil
  | cons x s ih =>
    have hrest := ih fun y hy => hplain y (by simp [hy])
    by_cases hx : x = ' '
    · rw [hx]
      exact .blank hrest
    · exact .plain (hplain x (by simp) hx) hrest

namespace Condition

/-- A condition up to its right-hand side. -/
def head (c : Condition) : List Char := c.lhs.clauseText.toList ++ ' ' :: c.op.text.toList

/-- The right-hand side of a condition, behind its operator. -/
def tail (c : Condition) : List Char := c.rhs.toList.flatMap (' ' :: ·.clauseText.toList)

theorem toList_clauseText (c : Condition) : c.clauseText.toList = c.head ++ c.tail := by
  obtain ⟨lhs, op, rhs⟩ := c
  cases rhs <;> simp [clauseText, head, tail]

variable {op : Connective} {c : Condition} {u : List Char}

theorem whole_head (h : c.validate = .ok ()) : Whole op c.head :=
  (Expr.whole (validate_eq_ok.1 h).2.1).addComparison c.op

/-- The right-hand side goes on a text that is whole, unless it is a column that has the name of the
connective. -/
theorem whole_or_torn_tail (hu : Whole op u) (h : c.validate = .ok ()) :
    c.rhs ≠ some (.column ⟨op.text⟩) ∧ Whole op (u ++ c.tail) ∨
      c.rhs = some (.column ⟨op.text⟩) ∧ u ++ c.tail = u ++ ' ' :: op.text.toList := by
  unfold tail
  cases hrhs : c.rhs with
  | none => exact .inl ⟨by simp, by simpa using hu⟩
  | some rhs =>
    have hvalid := (validate_eq_ok.1 h).2.2.2 rhs hrhs
    by_cases hcolumn : rhs = .column ⟨op.text⟩
    · exact .inr ⟨congrArg some hcolumn, by simp [hcolumn, Expr.clauseText]⟩
    · exact .inl ⟨fun e => hcolumn (Option.some.inj e), by simpa using hu.addExpr hvalid hcolumn⟩

/-- A condition is whole, unless it compares with a column that has the name of the
connective. -/
theorem whole_clauseText (h : c.validate = .ok ()) (hne : c.rhs ≠ some (.column ⟨op.text⟩)) :
    Whole op c.clauseText.toList := by
  rw [toList_clauseText]
  rcases whole_or_torn_tail (whole_head h) h with ⟨-, hwhole⟩ | ⟨hrhs, -⟩
  · exact hwhole
  · exact absurd hrhs hne

/-- A comparison with a column that has the name of the connective ends in it. -/
theorem torn_clauseText (h : c.validate = .ok ()) (hrhs : c.rhs = some (.column ⟨op.text⟩)) :
    Torn op c.clauseText.toList := by
  rw [toList_clauseText]
  rcases whole_or_torn_tail (whole_head h) h with ⟨hne, -⟩ | ⟨-, htorn⟩
  · exact absurd hrhs hne
  · exact ⟨c.head, whole_head h, htorn⟩

/-- The last word of a condition may be the connective. -/
theorem uncut_tail (hu : Whole op u) (h : c.validate = .ok ()) : Uncut op (u ++ c.tail) := by
  rcases whole_or_torn_tail hu h with ⟨-, hwhole⟩ | ⟨-, htorn⟩
  · exact hwhole.cut_eq
  · rw [htorn]
    exact hu.cut_last (.of_plain (isPlain_of_connective op))

theorem closed_clauseText (h : c.validate = .ok ()) : Closed true c.clauseText.toList := by
  obtain ⟨-, hlhs, -, hrhs⟩ := validate_eq_ok.1 h
  have hhead : Closed true c.head :=
    (Expr.closed_clauseText hlhs).append (.blank c.op.closed_text)
  rw [toList_clauseText, tail]
  cases heq : c.rhs with
  | none => simpa using hhead
  | some rhs =>
    simpa using hhead.append (.blank (Expr.closed_clauseText (hrhs rhs heq)))

section

variable {name : String} {comparison : Comparison} {v : Literal}

/-- The comparison of a column with a literal is whole. -/
theorem whole_ofColumn (h : Column.validate ⟨name⟩ = .ok ()) :
    Whole op (ofColumn name comparison v).clauseText.toList := by
  have hname : Whole op name.toList := (Column.closed_name h).whole
  have hhead := hname.addComparison comparison
  simpa [ofColumn, toList_clauseText, head, tail, Expr.clauseText] using
    hhead.blank v.closed_clauseText v.clauseText_ne

theorem closed_ofColumn (h : Column.validate ⟨name⟩ = .ok ()) :
    Closed true (ofColumn name comparison v).clauseText.toList := by
  have hname : Closed true name.toList := (Column.closed_name h).toSpaced
  have hhead := hname.append (.blank comparison.closed_text)
  simpa [ofColumn, toList_clauseText, head, tail, Expr.clauseText] using
    hhead.append (.blank v.closed_clauseText.toSpaced)

end

/-! ### Behind a torn condition -/

section

variable {before : Bool} {w : List Char}

/-- The left-hand side goes on what is carried over, unless it is a column that has the name of the
connective. -/
theorem whole_carried_head (h : c.validate = .ok ())
    (hne : before = true → c.lhs ≠ .column ⟨op.text⟩) : Whole op (carried before ++ c.head) := by
  have hvalid := (validate_eq_ok.1 h).2.1
  have hlhs : Whole op (carried before ++ c.lhs.clauseText.toList) := by
    rw [Expr.clauseText_eq, String.toList_append, ← List.append_assoc]
    exact (whole_carried (Expr.closed_unlabelled _ hvalid) fun hbefore =>
      Expr.unlabelled_ne (hne hbefore)).addAlias (Expr.isAlias_of_validate hvalid)
  simpa [head] using hlhs.addComparison c.op

/-- A text that is whole up to the right-hand side of a condition is one part, of the whole text or
without that side. -/
theorem exists_cutsInto_tail (hu : Whole .and u) (hw : carried before ++ w = u ++ c.tail)
    (h : c.validate = .ok ()) :
    ∃ p after, CutsInto before w [p] after ∧
      (after = true ↔ c.rhs = some (.column ⟨Connective.and.text⟩)) ∧ (p = u ∨ p = u ++ c.tail) := by
  rcases whole_or_torn_tail hu h with ⟨hne, hwhole⟩ | ⟨heq, htorn⟩
  · rw [← hw] at hwhole
    exact ⟨_, false, hwhole.cutsInto, by simp [hne], .inr hw⟩
  · exact ⟨u, true, hu.cutsInto_torn (hw.trans htorn), by simp [heq], .inl rfl⟩

/-- Behind a torn condition, one on a column `AND` is cut behind that name. -/
theorem exists_cutsInto_connective (h : c.validate = .ok ())
    (hlhs : c.lhs = .column ⟨Connective.and.text⟩) :
    ∃ p after, CutsInto true c.clauseText.toList [Connective.and.text.toList, p] after ∧
      (after = true ↔ c.rhs = some (.column ⟨Connective.and.text⟩)) ∧ Uncut .or p := by
  have htext : c.clauseText.toList =
      Connective.and.text.toList ++ ' ' :: (c.op.text.toList ++ c.tail) := by
    rw [toList_clauseText, head, hlhs, Expr.clauseText]
    simp
  have hw : carried false ++ (c.op.text.toList ++ c.tail) = c.op.text.toList ++ c.tail := rfl
  obtain ⟨p, after, hcut, hafter, hp⟩ := exists_cutsInto_tail c.op.whole_text hw h
  refine ⟨p, after, htext ▸ hcut.connective, hafter, ?_⟩
  rcases hp with rfl | rfl
  · exact c.op.whole_text.cut_eq
  · exact uncut_tail c.op.whole_text h

/-- The connective that is carried over stands in front of an `OR` in the open exactly if the
condition is about a column of that name. -/
theorem uncut_carried_iff (h : c.validate = .ok ()) {p : List Char}
    (hp : p = carried before ++ c.head ∨ p = carried before ++ c.head ++ c.tail) :
    Uncut .or p ↔ ¬ (before = true ∧ c.lhs = .column ⟨Connective.or.text⟩) := by
  by_cases hor : before = true ∧ c.lhs = .column ⟨Connective.or.text⟩
  · refine iff_of_false ?_ (not_not_intro hor)
    obtain ⟨rfl, hlhs⟩ := hor
    have hword := whole_connective .or .and
    have hhead : carried true ++ c.head =
        Connective.and.text.toList ++ (separator .or ++ c.op.text.toList) := by
      rw [head, hlhs, Expr.clauseText]
      simp [carried, separator, Connective.text]
    rcases hp with rfl | rfl
    · rw [hhead]
      exact hword.not_uncut _
    · rw [hhead, List.append_assoc, List.append_assoc]
      exact hword.not_uncut _
  · refine iff_of_true ?_ hor
    have hwhole : Whole .or (carried before ++ c.head) :=
      whole_carried_head h fun hbefore hlhs => hor ⟨hbefore, hlhs⟩
    rcases hp with rfl | rfl
    · exact hwhole.cut_eq
    · exact uncut_tail hwhole h

/-- **Into which parts a condition is cut.**  Only behind a torn condition, and only if it is about
a column `OR`, one of the parts has an `OR` in the open. -/
theorem exists_cutsInto (h : c.validate = .ok ()) (before : Bool) :
    ∃ ps after, CutsInto before c.clauseText.toList ps after ∧
      (after = true ↔ c.rhs = some (.column ⟨Connective.and.text⟩)) ∧
      ((∀ p ∈ ps, Uncut .or p) ↔
        ¬ (before = true ∧ c.lhs = .column ⟨Connective.or.text⟩)) := by
  by_cases hand : before = true ∧ c.lhs = .column ⟨Connective.and.text⟩
  · obtain ⟨rfl, hlhs⟩ := hand
    obtain ⟨p, after, hcut, hafter, hp⟩ := exists_cutsInto_connective h hlhs
    refine ⟨_, after, hcut, hafter, iff_of_true ?_ ?_⟩
    · have hword := whole_connective .or .and
      exact List.forall_mem_cons.2 ⟨hword.cut_eq, List.forall_mem_singleton.2 hp⟩
    · rintro ⟨-, hor⟩
      rw [hlhs] at hor
      exact absurd hor (by simp [Connective.text])
  · have hwhole : Whole .and (carried before ++ c.head) :=
      whole_carried_head h fun hbefore hlhs => hand ⟨hbefore, hlhs⟩
    have hw : carried before ++ c.clauseText.toList = carried before ++ c.head ++ c.tail := by
      rw [toList_clauseText, List.append_assoc]
    obtain ⟨p, after, hcut, hafter, hp⟩ := exists_cutsInto_tail hwhole hw h
    refine ⟨[p], after, hcut, hafter, ?_⟩
    rw [List.forall_mem_singleton]
    exact uncut_carried_iff h hp

end

end Condition

/-! ## Filters -/

namespace Filter

theorem clauseTexts_eq (fs : List Filter) : clauseTexts fs = fs.map clauseText := by
  induction fs with
  | nil => rw [clauseTexts]; rfl
  | cons f fs ih => rw [clauseTexts, ih, List.map_cons]

/-- A group is in parentheses. -/
theorem closed_group {op : Connective} {members : List Filter}
    (h : ∀ f ∈ members, Closed true f.clauseText.toList) :
    Closed false (group op members).clauseText.toList := by
  have hseparator : Closed true (" " ++ op.text ++ " ").toList := by
    have hword : Closed true op.text.toList := .of_plain (isPlain_of_connective op)
    simpa using Closed.blank (hword.append (.blank .nil))
  have htexts : ∀ t ∈ members.map clauseText, Closed true t.toList := by
    intro t ht
    obtain ⟨f, hf, rfl⟩ := List.mem_map.1 ht
    exact h f hf
  have hjoined := Closed.join hseparator htexts
  rw [clauseText, clauseTexts_eq]
  simpa using hjoined.inParens false

/-- **A filter that passes its check leaves a reader of clauses where it stood**, at every depth of
groups. -/
theorem closed_clauseText {f : Filter} (h : f.validate = .ok ()) :
    Closed true f.clauseText.toList := by
  induction f using Filter.induction with
  | condition c =>
    rw [validate] at h
    rw [clauseText]
    exact c.closed_clauseText h
  | group op members ih =>
    have hmembers := (validate_group_eq_ok.1 h).2
    exact (closed_group fun f hf => ih f hf (hmembers f hf)).toSpaced

/-- A comparison with a column that has the name of the connective. -/
def IsTorn (op : Connective) (f : Filter) : Prop :=
  ∃ c : Condition, f = .condition c ∧ c.rhs = some (.column ⟨op.text⟩)

/-- **A filter is whole, unless it is a comparison with a column that has the name of the
connective.** -/
theorem whole_or_torn (op : Connective) {f : Filter} (h : f.validate = .ok ()) :
    ¬ f.IsTorn op ∧ Whole op f.clauseText.toList ∨ f.IsTorn op ∧ Torn op f.clauseText.toList := by
  cases f with
  | condition c =>
    rw [validate] at h
    rw [clauseText]
    by_cases hrhs : c.rhs = some (.column ⟨op.text⟩)
    · exact .inr ⟨⟨c, rfl, hrhs⟩, c.torn_clauseText h hrhs⟩
    · refine .inl ⟨?_, c.whole_clauseText h hrhs⟩
      rintro ⟨_, ⟨⟩, hcolumn⟩
      exact hrhs hcolumn
  | group connective members =>
    have hmembers := (validate_group_eq_ok.1 h).2
    refine .inl ⟨?_, (closed_group fun f hf => closed_clauseText (hmembers f hf)).whole⟩
    rintro ⟨_, h, -⟩
    cases h

/-- A condition on a column that has the name of the connective. -/
def IsAbout (op : Connective) (f : Filter) : Prop :=
  ∃ c : Condition, f = .condition c ∧ c.lhs = .column ⟨op.text⟩

/-- **Into which parts a filter is cut.**  Only behind a torn filter, and only if it is a condition
on a column `OR`, one of the parts has an `OR` in the open. -/
theorem exists_cutsInto {f : Filter} (h : f.validate = .ok ()) (before : Bool) :
    ∃ ps after, CutsInto before f.clauseText.toList ps after ∧ (after = true ↔ f.IsTorn .and) ∧
      ((∀ p ∈ ps, Uncut .or p) ↔ ¬ (before = true ∧ f.IsAbout .or)) := by
  cases f with
  | condition c =>
    rw [validate] at h
    rw [clauseText]
    obtain ⟨ps, after, hcut, hafter, huncut⟩ := c.exists_cutsInto h before
    exact ⟨ps, after, hcut, by simpa [IsTorn] using hafter, by simpa [IsAbout] using huncut⟩
  | group op members =>
    have hmembers := (validate_group_eq_ok.1 h).2
    have hwhole (op' : Connective) :
        Whole op' (carried before ++ (group op members).clauseText.toList) :=
      whole_carried (closed_group fun f hf => closed_clauseText (hmembers f hf)) fun _ =>
        ne_connective (c := '(') (by simp [clauseText]) (by decide)
    refine ⟨_, false, (hwhole .and).cutsInto, by simp [IsTorn], iff_of_true ?_ (by simp [IsAbout])⟩
    exact List.forall_mem_singleton.2 (hwhole .or).cut_eq

theorem whole_iff {op : Connective} {f : Filter} (h : f.validate = .ok ()) :
    Whole op f.clauseText.toList ↔ ¬ f.IsTorn op := by
  rcases whole_or_torn op h with ⟨hnot, hwhole⟩ | ⟨htorn, hend⟩
  · exact iff_of_true hwhole hnot
  · exact iff_of_false hend.not_whole (not_not_intro htorn)

end Filter

theorem Scope.closed_conditions (s : Scope) :
    ∀ c ∈ s.conditions, Closed true c.clauseText.toList := by
  intro c hc
  rcases List.mem_append.1 hc with hc | hc
  · rcases List.mem_pair.1 hc with rfl | rfl
    · exact Condition.closed_ofColumn rfl
    · exact Condition.closed_ofColumn rfl
  · split at hc
    · rw [List.mem_singleton.1 hc]
      exact Condition.closed_ofColumn rfl
    · cases hc

/-- The filter of a scope is whole, even behind a connective that is carried over: it is in
parentheses. -/
theorem Scope.whole_carried_filter (s : Scope) (op : Connective) (before : Bool) :
    Whole op (carried before ++ s.filter.clauseText.toList) := by
  refine whole_carried (Filter.closed_group fun f hf => ?_) fun _ =>
    ne_connective (c := '(') (by simp [filter, Filter.clauseText]) (by decide)
  obtain ⟨c, hc, rfl⟩ := List.mem_map.1 hf
  rw [Filter.clauseText]
  exact s.closed_conditions c hc

end MetricQuery
