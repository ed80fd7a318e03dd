import Mathlib.Data.List.Induction
import MetricQuery.Parse
import MetricQuery.Proofs.ExpressionText

/-!
# Where a fault is

A text that is no query is at fault in one place: behind the expression that it starts with and the
blanks that follow, or else where its first coefficient should be.  The place is behind a part of the
trimmed text, and is given by the bytes, the lines and the characters in that part.

* `SyntaxFault.PointsBehind`  : what the place behind a part of a text is;
* `SyntaxFault.locate_append` : the walk over a text ends at that place;
* `Text.exists_visible`       : what is left of a trimmed text holds more than blanks;
* `scan_expression_error`     : an expression that fails stops behind its sign, with nothing to say;
* `parse_fault`               : which faults are found in which texts.
-/

set_option autoImplicit false

namespace MetricQuery

open Grammar Scanner Surface

/-! ## Places -/

/-- The fault at the place behind `before`. -/
def SyntaxFault.after (cause : SyntaxCause) (before : List Char) : SyntaxFault where
  cause := cause
  offset := byteLength before
  line := 1 + before.count '\n'
  column := 1 + (before.reverse.takeWhile (· != '\n')).length

/-- The fault is at the place behind `p`: so many bytes from the start, in the line behind the line
feeds of `p`, and in the column behind what `p` has in that line. -/
structure SyntaxFault.PointsBehind (fault : SyntaxFault) (p : List Char) : Prop where
  offset : fault.offset = (String.ofList p).utf8ByteSize
  line : fault.line = 1 + p.count '\n'
  column : ∃ front last, p = front ++ last ∧ (front = [] ∨ front.getLast? = some '\n') ∧
    '\n' ∉ last ∧ fault.column = 1 + last.length

theorem byteLength_eq (cs : List Char) : byteLength cs = (String.ofList cs).utf8ByteSize := by
  induction cs with
  | nil => rfl
  | cons c cs ih =>
    rw [byteLength, ih, ← List.singleton_append, String.ofList_append, String.utf8ByteSize_append,
      ← String.singleton_eq_ofList, String.utf8ByteSize_singleton]

/-- The last line of a text is what ends behind its last line feed. -/
theorem length_lastLine {front last : List Char} (hfront : front = [] ∨ front.getLast? = some '\n')
    (hlast : '\n' ∉ last) :
    ((front ++ last).reverse.takeWhile (· != '\n')).length = last.length := by
  have hrun : ∀ c ∈ last.reverse, (c != '\n') = true := by
    intro c hc
    rw [List.mem_reverse] at hc
    simpa using fun e : c = '\n' => hlast (e ▸ hc)
  have hstop : Stops (· != '\n') front.reverse := by
    rcases hfront with rfl | hfront
    · exact stops_nil _
    · exact stops_of_head? (by rw [List.head?_reverse, hfront]) (by decide)
  rw [List.reverse_append, takeWhile_append_of_stops hrun hstop, List.length_reverse]

/-- Every text has a last line. -/
theorem exists_lastLine (p : List Char) :
    ∃ front last, p = front ++ last ∧ (front = [] ∨ front.getLast? = some '\n') ∧ '\n' ∉ last := by
  refine ⟨(p.reverse.dropWhile (· != '\n')).reverse, (p.reverse.takeWhile (· != '\n')).reverse,
    ?_, ?_, fun hmem => ?_⟩
  · rw [← List.reverse_append, List.takeWhile_append_dropWhile, List.reverse_reverse]
  · have hstop := stops_dropWhile (· != '\n') p.reverse
    cases hrest : p.reverse.dropWhile (· != '\n') with
    | nil => exact .inl rfl
    | cons c rest =>
      rw [hrest] at hstop
      have hc : c = '\n' := by simpa using hstop
      exact .inr (by rw [List.getLast?_reverse, hc]; rfl)
  · have hrun := List.all_eq_true.1 (List.all_takeWhile (p := (· != '\n')) (l := p.reverse))
    simpa using hrun '\n' (List.mem_reverse.1 hmem)

/-- **The place behind a part of a text is one place.** -/
theorem SyntaxFault.pointsBehind_iff {fault : SyntaxFault} {p : List Char} :
    fault.PointsBehind p ↔ fault = .after fault.cause p := by
  constructor
  · rintro ⟨hoffset, hline, front, last, rfl, hfront, hlast, hcolumn⟩
    obtain ⟨cause, offset, line, column⟩ := fault
    rw [SyntaxFault.after, byteLength_eq, length_lastLine hfront hlast]
    dsimp only at hoffset hline hcolumn
    rw [hoffset, hline, hcolumn]
  · intro h
    rw [h]
    obtain ⟨front, last, rfl, hfront, hlast⟩ := exists_lastLine p
    exact ⟨byteLength_eq _, rfl, front, last, rfl, hfront, hlast, by
      rw [SyntaxFault.after, length_lastLine hfront hlast]⟩

/-- The place behind the front of a text is between two characters of the text. -/
theorem SyntaxFault.PointsBehind.isValid {fault : SyntaxFault} {p r : List Char}
    (h : fault.PointsBehind p) :
    (⟨fault.offset⟩ : String.Pos.Raw).IsValid (String.ofList (p ++ r)) := by
  rw [String.Pos.Raw.isValid_iff_exists_append]
  exact ⟨String.ofList p, String.ofList r, String.ofList_append, String.Pos.Raw.ext h.offset⟩

theorem byteLength_append (p r : List Char) :
    byteLength (p ++ r) = byteLength p + byteLength r := by
  induction p with
  | nil => simp [byteLength]
  | cons c p ih => rw [List.cons_append, byteLength, byteLength, ih, Nat.add_assoc]

/-- As many bytes as a text starts with make up that start. -/
theorem takeBytes_byteLength (p r : List Char) : takeBytes (byteLength p) (p ++ r) = p := by
  induction p with
  | nil =>
    cases r with
    | nil => rfl
    | cons c r => exact if_neg (Nat.not_le.2 c.utf8Size_pos)
  | cons c p ih =>
    rw [byteLength, List.cons_append, takeBytes, if_pos (Nat.le_add_right _ _),
      Nat.add_sub_cancel_left, ih]

/-- The walk over a text counts its lines, and the characters of its last line. -/
theorem foldl_passCharacter (p : List Char) :
    p.foldl passCharacter (1, 1) =
      (1 + p.count '\n', 1 + (p.reverse.takeWhile (· != '\n')).length) := by
  induction p using List.reverseRecOn with
  | nil => rfl
  | append_singleton p c ih =>
    rw [List.foldl_append, ih, List.reverse_append, List.count_append]
    by_cases hc : c = '\n'
    · subst hc
      simp [passCharacter, Nat.add_assoc]
    · simp [passCharacter, hc, Nat.add_comm]

/-- **The walk over the bytes in front of a place ends there.** -/
theorem SyntaxFault.locate_append (cause : SyntaxCause) (p r : List Char) :
    SyntaxFault.locate cause (p ++ r) (byteLength p) = .after cause p := by
  have hmin : min (byteLength p) (byteLength (p ++ r)) = byteLength p := by
    rw [byteLength_append]
    exact Nat.min_eq_left (Nat.le_add_right _ _)
  rw [locate, lineAndColumn, hmin, takeBytes_byteLength, foldl_passCharacter]
  rfl

/-- The end of a text stands behind what is in front of it. -/
theorem byteLength_sub (p r : List Char) :
    byteLength (p ++ r) - byteLength r = byteLength p := by
  rw [byteLength_append, Nat.add_sub_cancel]

theorem firstVisible?_append {w r : List Char} (hw : ∀ c ∈ w, Text.isBlank c = true)
    (hr : ∃ c ∈ r.head?, Text.isBlank c = false) :
    firstVisible? (w ++ r) = some (byteLength w) := by
  induction w with
  | nil =>
    obtain ⟨c, hc, hblank⟩ := hr
    obtain ⟨r, rfl⟩ := List.head?_eq_some_iff.1 hc
    rw [List.nil_append, firstVisible?, if_neg (by rw [hblank]; decide)]
    rfl
  | cons c w ih =>
    obtain ⟨hc, hw⟩ := List.forall_mem_cons.1 hw
    rw [List.cons_append, firstVisible?, if_pos hc, ih hw]
    rfl

/-! ## Ends of a trimmed text -/

/-- Each end of a trimmed text holds more than blanks. -/
theorem Text.exists_visible {s q rest : List Char} (h : Text.trim s = q ++ rest) (hne : rest ≠ []) :
    ∃ c ∈ (Text.trimStart rest).head?, Text.isBlank c = false := by
  have hstop := stops_dropWhile Text.isBlank rest
  cases hrest : Text.trimStart rest with
  | cons c r =>
    rw [Text.trimStart] at hrest
    rw [hrest] at hstop
    exact ⟨c, rfl, hstop c rfl⟩
  | nil =>
    -- the last character would be a blank
    exfalso
    obtain ⟨b, hb, hblank⟩ := trimStart_eq rest
    rw [hrest, List.append_nil] at hb
    obtain ⟨front, c, rfl⟩ := (List.eq_nil_or_concat rest).resolve_left hne
    have hreverse : Text.trimStart (Text.trimStart s).reverse = (q ++ front.concat c).reverse := by
      rw [← h, Text.trim, Text.trimEnd, List.reverse_reverse]
    have hend : Stops Text.isBlank (Text.trimStart (Text.trimStart s).reverse) :=
      stops_dropWhile _ _
    rw [hreverse] at hend
    have hc := hend c (by simp)
    rw [hblank c (by rw [← hb]; simp)] at hc
    cases hc

namespace Grammar

/-! ## What can be missing -/

/-- The minus that a text starts with, if it starts with one. -/
def signOf (s : List Char) : List Char := if s.head? = some '-' then ['-'] else []

theorem flag_signOf (s : List Char) :
    ∃ b rest, s = signOf s ++ rest ∧ flag '-' s = some (b, rest) := by
  unfold signOf
  split
  · rename_i h
    obtain ⟨rest, rfl⟩ := List.head?_eq_some_iff.1 h
    exact ⟨true, rest, rfl, flag_cons_self _ _⟩
  · rename_i h
    exact ⟨false, s, rfl, flag_of_ne h⟩

/-- An expression goes on for as long as it can, and so does a term: each of them is there if its
first coefficient is. -/
theorem expression_eq_none_iff {s : List Char} :
    expression s = none ↔ unary expression s = none := by
  constructor
  · intro h
    cases hu : unary expression s with
    | none => rfl
    | some found =>
      obtain ⟨u, r⟩ := found
      obtain ⟨us, r', hus⟩ := many_isSome furtherUnary r
      obtain ⟨ts, r'', hts⟩ := many_isSome furtherSummand r'
      have hterm : term expression s = some (.ofList u us, r') := by
        rw [term_eq, bind_of_some _ hu, bind_of_some _ hus, pure_apply]
      rw [expression_eq_steps, bind_of_some _ hterm, bind_of_some _ hts, pure_apply] at h
      cases h
  · intro h
    have hterm : term expression s = none := bind_of_none _ h
    rw [expression_eq_steps, bind_of_none _ hterm]

/-- A signed coefficient is missing where there is none behind the sign. -/
theorem unary_eq_none_iff {s rest : List Char} {b : Bool} (h : flag '-' s = some (b, rest)) :
    unary expression s = none ↔ coefficient expression rest = none := by
  unfold unary
  rw [bind_of_some _ h]
  constructor
  · intro hnone
    cases hc : coefficient expression rest with
    | none => rfl
    | some found =>
      rw [bind_of_some _ hc] at hnone
      cases hnone
  · exact fun hc => bind_of_none _ hc

/-! ## Where an expression fails -/

/-- The scanner has nothing to say about its failures. -/
def FailsPlainly {α : Type} (p : Scanner α) : Prop :=
  ∀ s failure, p.scan s = .error failure → failure.error = {}

namespace FailsPlainly

variable {α β : Type}

theorem ofOption (f : List Char → Option (α × List Char)) : FailsPlainly (Scanner.ofOption f) := by
  intro s failure h
  unfold Scanner.ofOption at h
  dsimp only at h
  split at h <;> cases h
  rfl

theorem bind {p : Scanner α} {f : α → Scanner β} (hp : FailsPlainly p)
    (hf : ∀ a, FailsPlainly (f a)) : FailsPlainly (p >>= f) := by
  intro s failure h
  rcases scan_bind_eq_error_iff.1 h with h | ⟨a, r, -, h⟩
  · exact hp s failure h
  · exact hf a r failure h

theorem pure (a : α) : FailsPlainly (Pure.pure a : Scanner α) := by
  intro s failure h
  cases h

theorem many (p : Scanner α) : FailsPlainly (Scanner.many p) := by
  intro s failure h
  cases h

theorem attempt (p : Scanner α) : FailsPlainly (Scanner.attempt p) := by
  intro s failure h
  obtain ⟨a, rest, hsome⟩ := attempt_isSome p s
  rw [read?_eq_some_iff.1 hsome] at h
  cases h

/-- A choice says what its last alternative says. -/
theorem firstOf (ps : List (Scanner α)) {p : Scanner α} (hp : FailsPlainly p) :
    FailsPlainly (Scanner.firstOf (ps ++ [p])) := by
  intro s failure h
  obtain ⟨last, hlast, hfailure⟩ := scan_firstOf_eq_error ps p h
  rw [hfailure]
  exact hp s last hlast

end FailsPlainly

/-- A metric ends in the first part of a public name, and nothing is said where that is missing. -/
theorem failsPlainly_metric : FailsPlainly metric :=
  .firstOf [_, _, _] (.bind (.bind (.ofOption _) fun _ => .bind (.many _) fun _ => .pure _)
    fun _ => .pure _)

theorem failsPlainly_optionalBraces : FailsPlainly optionalBraces :=
  .bind (.attempt _) fun _ => .pure _

theorem failsPlainly_unary (nested : Scanner Expression) : FailsPlainly (unary nested) :=
  .bind (.bind (.attempt _) fun _ => .pure _) fun _ =>
    .bind
      (.firstOf [_, _, _]
        (.bind (.firstOf [_, _, _] (.bind failsPlainly_metric fun _ => .pure _)) fun _ =>
          .bind failsPlainly_optionalBraces fun _ => .bind (.attempt _) fun _ => .pure _))
      fun _ => .pure _

/-- A signed coefficient that fails stops behind its sign. -/
theorem scan_unary_error {nested : Scanner Expression} {s : List Char} {failure : Failure}
    (h : (unary nested).scan s = .error failure) : s = signOf s ++ failure.rest := by
  obtain ⟨b, rest, hs, hflag⟩ := flag_signOf s
  unfold unary at h
  rw [scan_bind_of_ok _ (read?_eq_some_iff.1 hflag)] at h
  rcases scan_bind_eq_error_iff.1 h with h | ⟨c, r, -, h⟩
  · obtain ⟨last, -, hfailure⟩ := scan_firstOf_eq_error [_, _, _] _ h
    rw [hfailure]
    exact hs
  · cases h

/-- A term fails where its first factor does. -/
theorem scan_term_error {nested : Scanner Expression} {s : List Char} {failure : Failure}
    (h : (term nested).scan s = .error failure) : (unary nested).scan s = .error failure := by
  rcases scan_bind_eq_error_iff.1 h with h | ⟨u, r, -, h⟩
  · exact h
  · rcases scan_bind_eq_error_iff.1 h with h | ⟨us, r', -, h⟩ <;> cases h

/-- An expression fails where its first factor does. -/
theorem scan_expressionOver_error {nested : Scanner Expression} {s : List Char}
    {failure : Failure} (h : (expressionOver nested).scan s = .error failure) :
    (unary nested).scan s = .error failure := by
  rcases scan_bind_eq_error_iff.1 h with h | ⟨t, r, -, h⟩
  · exact scan_term_error h
  · rcases scan_bind_eq_error_iff.1 h with h | ⟨ts, r', -, h⟩ <;> cases h

/-- **An expression that fails stops right behind its sign, with nothing to say.** -/
theorem scan_expression_error {s : List Char} {failure : Failure}
    (h : expression.scan s = .error failure) :
    failure.error = {} ∧ s = signOf s ++ failure.rest := by
  have hunary : (unary (expressionWithin s.length)).scan s = .error failure :=
    scan_expressionOver_error h
  exact ⟨failsPlainly_unary _ s failure hunary, scan_unary_error hunary⟩

end Grammar

/-! ## Faults -/

/-- There is no expression where there should be one. -/
def SyntaxCause.noExpression : SyntaxCause := .failed (.backtrack { labels := ["MQL expression"] })

theorem parseTrimmed_of_none {t : List Char} (h : expression t = none) :
    parseTrimmed t = .error (.after .noExpression (signOf t)) := by
  obtain ⟨failure, hfailure⟩ := read?_eq_none_iff.1 h
  obtain ⟨hplain, hrest⟩ := scan_expression_error hfailure
  have hoffset : byteLength t - byteLength failure.rest = byteLength (signOf t) := by
    nth_rewrite 1 [hrest]
    exact byteLength_sub _ _
  have hlocate := SyntaxFault.locate_append .noExpression (signOf t) failure.rest
  rw [← hrest] at hlocate
  unfold parseTrimmed
  rw [scan_labelled, hfailure]
  dsimp only [Except.mapError]
  rw [hplain, hoffset]
  exact congrArg Except.error hlocate

/-- Text is left over behind an expression: first `w`, which is blank, and then `r`, which is not. -/
structure LeftOver (t p w r : List Char) : Prop where
  split : t = p ++ (w ++ r)
  read : ∃ e, expression t = some (e, w ++ r)
  blank : ∀ c ∈ w, Text.isBlank c = true
  visible : ∃ c ∈ r.head?, Text.isBlank c = false

/-- The fault of a text with something left over is in front of the first character left over that is
no blank. -/
theorem LeftOver.parseTrimmed_eq {t p w r : List Char} (h : LeftOver t p w r) :
    parseTrimmed t = .error (.after .trailing (p ++ w)) := by
  obtain ⟨e, he⟩ := h.read
  have hne : w ++ r ≠ [] := by
    obtain ⟨c, hc, -⟩ := h.visible
    intro hnil
    rw [(List.append_eq_nil_iff.1 hnil).2] at hc
    cases hc
  have hoffset : trailingOffset t (w ++ r) = byteLength (p ++ w) := by
    rw [trailingOffset, h.split, byteLength_sub, firstVisible?_append h.blank h.visible,
      byteLength_append]
    rfl
  have hlocate := SyntaxFault.locate_append .trailing (p ++ w) r
  rw [List.append_assoc, ← h.split] at hlocate
  unfold parseTrimmed
  rw [scan_labelled, read?_eq_some_iff.1 he]
  obtain ⟨c, rest, hrest⟩ := List.exists_cons_of_ne_nil hne
  rw [hrest] at hoffset ⊢
  dsimp only [Except.mapError]
  rw [hoffset]
  exact congrArg Except.error hlocate

/-- What an expression at the start of a trimmed text does not take is left over. -/
theorem exists_leftOver {s rest : List Char} {e : Expression}
    (h : expression (Text.trim s) = some (e, rest)) (hne : rest ≠ []) :
    ∃ p w r, LeftOver (Text.trim s) p w r := by
  obtain ⟨p, hp⟩ := Shrinks.suffix h
  obtain ⟨w, hw, hblank⟩ := trimStart_eq rest
  refine ⟨p, w, Text.trimStart rest, ?_, ⟨e, ?_⟩, hblank, Text.exists_visible hp.symm hne⟩
  · rw [← hw, hp]
  · rw [← hw, h]

/-- **Which faults are found in a trimmed text.** -/
theorem parseTrimmed_eq_error_iff {s : List Char} {fault : SyntaxFault} :
    parseTrimmed (Text.trim s) = .error fault ↔
      (∃ p w r, LeftOver (Text.trim s) p w r ∧ fault = .after .trailing (p ++ w)) ∨
        expression (Text.trim s) = none ∧ fault = .after .noExpression (signOf (Text.trim s)) := by
  constructor
  · intro h
    cases he : expression (Text.trim s) with
    | none =>
      rw [parseTrimmed_of_none he] at h
      cases h
      exact .inr ⟨rfl, rfl⟩
    | some found =>
      obtain ⟨e, rest⟩ := found
      by_cases hne : rest = []
      · subst hne
        rw [parseTrimmed_eq_ok.2 he] at h
        cases h
      · obtain ⟨p, w, r, hleft⟩ := exists_leftOver he hne
        rw [hleft.parseTrimmed_eq] at h
        cases h
        exact .inl ⟨p, w, r, hleft, rfl⟩
  · rintro (⟨p, w, r, hleft, rfl⟩ | ⟨he, rfl⟩)
    · exact hleft.parseTrimmed_eq
    · exact parseTrimmed_of_none he

theorem SyntaxFault.eq_after_iff {fault : SyntaxFault} {cause : SyntaxCause} {p : List Char} :
    fault = .after cause p ↔ fault.cause = cause ∧ fault.PointsBehind p := by
  rw [pointsBehind_iff]
  constructor
  · intro h
    rw [h]
    exact ⟨rfl, rfl⟩
  · rintro ⟨rfl, h⟩
    exact h

/-- A fault that is found in a text is at a place in it. -/
theorem exists_place {s : List Char} {fault : SyntaxFault}
    (h : parseTrimmed (Text.trim s) = .error fault) :
    ∃ p r, Text.trim s = p ++ r ∧ fault.PointsBehind p := by
  rcases parseTrimmed_eq_error_iff.1 h with ⟨p, w, r, hleft, hfault⟩ | ⟨-, hfault⟩
  · exact ⟨p ++ w, r, by rw [List.append_assoc]; exact hleft.split,
      (SyntaxFault.eq_after_iff.1 hfault).2⟩
  · obtain ⟨_, rest, hrest, -⟩ := flag_signOf (Text.trim s)
    exact ⟨_, rest, hrest, (SyntaxFault.eq_after_iff.1 hfault).2⟩

/-- The fault that reading stopped at, if it stopped. -/
def fault? {α : Type} : Except SyntaxFault α → Option SyntaxFault
  | .error fault => some fault
  | .ok _ => none

theorem eq_error_of_fault? {α : Type} {x : Except SyntaxFault α} {fault : SyntaxFault}
    (h : fault? x = some fault) : x = .error fault := by
  cases x with
  | error found => exact congrArg Except.error (Option.some.inj h)
  | ok a => cases h

/-- An error that says no more than that there is no expression, in words. -/
theorem SyntaxFault.causeText_noExpression {render : ScanError → String}
    (hrender : ∀ name, render ⟨[name], none⟩ = "invalid " ++ name) {fault : SyntaxFault}
    (h : fault.cause = .noExpression) : fault.causeText render = "invalid MQL expression" := by
  have htext : render { labels := ["MQL expression"] } = "invalid MQL expression" := hrender _
  rw [causeText, h]
  dsimp only [SyntaxCause.noExpression, ErrorMode.describe]
  rw [htext]
  decide

theorem SyntaxFault.causeText_trailing (render : ScanError → String) {fault : SyntaxFault}
    (h : fault.cause = .trailing) : fault.causeText render = "unexpected trailing input" := by
  rw [causeText, h]

/-- **Faults point at the right place.**  Let an error with one name and no reason be put into words
as the name being invalid.  A text without the blanks around it has a fault for one of two reasons.
Either an expression is read off its front, and behind that and blanks there is more; the fault is
then in front of the first character that is no blank.  Or there is no expression, which is so if
there is no coefficient behind the minus that the text may start with; the fault is then where that
coefficient should be.  The fault names the reason, and its place is one between two characters of
the text. -/
theorem parse_fault (render : ScanError → String)
    (hrender : ∀ name, render ⟨[name], none⟩ = "invalid " ++ name) (text : String)
    (fault : SyntaxFault) :
    let t := Text.trim text.toList
    (parse text = .error fault ↔
      (fault.cause = .trailing ∧ fault.causeText render = "unexpected trailing input" ∧
        ∃ p w r, LeftOver t p w r ∧ fault.PointsBehind (p ++ w)) ∨
      (fault.cause = .noExpression ∧ fault.causeText render = "invalid MQL expression" ∧
        expression t = none ∧ fault.PointsBehind (signOf t) ∧
        (fault.offset = if t.head? = some '-' then 1 else 0) ∧
        ∃ rest, t = signOf t ++ rest ∧ coefficient expression rest = none)) ∧
    (parse text = .error fault → fault.offset ≤ (String.ofList t).utf8ByteSize ∧
      (⟨fault.offset⟩ : String.Pos.Raw).IsValid (String.ofList t)) := by
  intro t
  constructor
  · unfold parse
    rw [parseTrimmed_eq_error_iff]
    simp only [SyntaxFault.eq_after_iff]
    constructor
    · rintro (⟨p, w, r, hleft, hcause, hplace⟩ | ⟨he, hcause, hplace⟩)
      · exact .inl ⟨hcause, SyntaxFault.causeText_trailing render hcause, p, w, r, hleft, hplace⟩
      · obtain ⟨b, rest, hrest, hflag⟩ := flag_signOf t
        refine .inr ⟨hcause, SyntaxFault.causeText_noExpression hrender hcause, he, hplace, ?_,
          rest, hrest, ?_⟩
        · rw [hplace.offset]
          unfold signOf
          split <;> rfl
        · exact (unary_eq_none_iff hflag).1 (expression_eq_none_iff.1 he)
    · rintro (⟨hcause, -, p, w, r, hleft, hplace⟩ | ⟨hcause, -, he, hplace, -⟩)
      · exact .inl ⟨p, w, r, hleft, hcause, hplace⟩
      · exact .inr ⟨he, hcause, hplace⟩
  · intro h
    obtain ⟨p, r, hsplit, hplace⟩ := exists_place h
    have hvalid := hplace.isValid (r := r)
    rw [← hsplit] at hvalid
    exact ⟨String.Pos.Raw.le_iff.1 hvalid.le_rawEndPos, hvalid⟩

/-- What is left over in the second line, behind a blank. -/
theorem parse_fault_second_line :
    (∀ name, ScanError.text ⟨[name], none⟩ = "invalid " ++ name) ∧
    parse "  sum(foo)\n \x7ba:\"ö\"\x7d " = .error ⟨.trailing, 10, 2, 2⟩ ∧
    10 ≤ (String.ofList (Text.trim "  sum(foo)\n \x7ba:\"ö\"\x7d ".toList)).utf8ByteSize ∧
    (⟨10⟩ : String.Pos.Raw).IsValid
      (String.ofList (Text.trim "  sum(foo)\n \x7ba:\"ö\"\x7d ".toList)) := by
  have hrender : ∀ name, ScanError.text ⟨[name], none⟩ = "invalid " ++ name := fun _ => rfl
  have hparse : parse "  sum(foo)\n \x7ba:\"ö\"\x7d " = .error ⟨.trailing, 10, 2, 2⟩ :=
    eq_error_of_fault? (by decide +kernel)
  exact ⟨hrender, hparse, (parse_fault ScanError.text hrender _ _).2 hparse⟩

end MetricQuery
