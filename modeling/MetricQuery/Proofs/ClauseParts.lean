import MetricQuery.Clause
import MetricQuery.Proofs.Characters
import MetricQuery.Proofs.Scanning

/-!
# Cutting clauses at their connectives

A clause is cut at a connective only where the connective stands in the open: not in a quoted
literal, not in the brackets of a column, and not in parentheses.

* `ClauseText.Place`, `Place.next` : where a reader of a clause stands, and how one character
  moves it;
* `ClauseText.parts`    : the parts between the connectives in the open;
* `ClauseText.Closed`   : texts that leave the reader where it stood;
* `Closed.cut_append`   : such a text is not cut, if it has no blank in the open;
* `ClauseText.Whole`    : texts that are not cut whatever comes next;
* `ClauseText.parts_join_iff` : when texts are the parts of what they are joined to;
* `ClauseText.CutsInto`       : into which parts a text is cut behind one that is cut short.
-/

set_option autoImplicit false

namespace MetricQuery.ClauseText

/-! ## Places -/

/-- Where a reader of a clause stands, inside some number of parentheses. -/
inductive Place where
  /-- In the open, but for the parentheses. -/
  | plain (depth : Nat)
  /-- In a quoted literal. -/
  | quoted (depth : Nat)
  /-- In a quoted literal, behind a backslash. -/
  | escaped (depth : Nat)
  /-- In the brackets of a column. -/
  | bracketed (depth : Nat)
  deriving DecidableEq, Repr

/-- Outside of everything. -/
def Place.top : Place := .plain 0

/-- Where one character takes the reader. -/
def Place.next : Place → Char → Place
  | plain depth, c =>
    if c = '(' then plain (depth + 1)
    else if c = ')' then plain (depth - 1)
    else if c = '\x27' then quoted depth
    else if c = '[' then bracketed depth
    else plain depth
  | quoted depth, c =>
    if c = '\\' then escaped depth else if c = '\x27' then plain depth else quoted depth
  | escaped depth, _ => quoted depth
  | bracketed depth, c => if c = ']' then plain depth else bracketed depth

/-! ## Parts -/

/-- Parts with a text in front of the first of them. -/
def prepend (w : List Char) (parts : List (List Char)) : List (List Char) :=
  parts.modifyHead (w ++ ·)

/-- The parts of a text between the places outside of everything where `sep` stands, from left to
right.  The first `skip` characters belong to a separator. -/
def cut (sep : List Char) : Place → Nat → List Char → List (List Char)
  | _, _, [] => [[]]
  | place, skip + 1, _ :: rest => cut sep place skip rest
  | place, 0, c :: rest =>
    if place = .top ∧ sep.isPrefixOf (c :: rest) then [] :: cut sep place (sep.length - 1) rest
    else prepend [c] (cut sep (place.next c) 0 rest)

/-- A connective between blanks. -/
def separator (op : Connective) : List Char := ' ' :: (op.text.toList ++ [' '])

/-- The parts of a clause between its connectives in the open. -/
def parts (op : Connective) (text : String) : List String :=
  (cut (separator op) .top 0 text.toList).map String.ofList

section

variable {u v w : List Char} {ps : List (List Char)}

@[simp] theorem prepend_nil (ps : List (List Char)) : prepend [] ps = ps := by
  cases ps <;> rfl

@[simp] theorem prepend_cons (w p : List Char) (ps : List (List Char)) :
    prepend w (p :: ps) = (w ++ p) :: ps := rfl

theorem prepend_append (u v : List Char) (ps : List (List Char)) :
    prepend (u ++ v) ps = prepend u (prepend v ps) := by
  cases ps with
  | nil => rfl
  | cons p ps => simp

end

section

variable {sep r : List Char} {place : Place}

/-- What is left of a separator is passed over. -/
theorem cut_skip (sep : List Char) (place : Place) (w r : List Char) :
    cut sep place w.length (w ++ r) = cut sep place 0 r := by
  induction w with
  | nil => rfl
  | cons c w ih => exact ih

/-- A part ends at a separator. -/
theorem cut_separator (op : Connective) (r : List Char) :
    cut (separator op) .top 0 (separator op ++ r) = [] :: cut (separator op) .top 0 r := by
  have hprefix : (separator op).isPrefixOf (separator op ++ r) = true :=
    List.isPrefixOf_iff_prefix.2 (List.prefix_append _ _)
  have hskip := cut_skip (separator op) .top (op.text.toList ++ [' ']) r
  rw [separator, List.cons_append] at hprefix ⊢
  rw [cut, if_pos ⟨rfl, hprefix⟩]
  rw [separator] at hskip
  exact congrArg _ hskip

/-- A part goes on where no separator stands. -/
theorem cut_next {c : Char} (h : place = .top → ¬ sep <+: c :: r) :
    cut sep place 0 (c :: r) = prepend [c] (cut sep (place.next c) 0 r) := by
  rw [cut, if_neg]
  rintro ⟨hplace, hprefix⟩
  exact h hplace (List.isPrefixOf_iff_prefix.1 hprefix)

/-- A part goes on inside of everything that a connective can be inside of. -/
theorem cut_inside {c : Char} (h : place ≠ .top) :
    cut sep place 0 (c :: r) = prepend [c] (cut sep (place.next c) 0 r) :=
  cut_next fun hplace => absurd hplace h

end

/-! ## Closed texts -/

/-- The characters that a reader in the open minds. -/
def marks : List Char := [' ', '(', ')', '[', '\x27']

/-- Characters that leave a reader in the open where it stands. -/
def isPlain (c : Char) : Bool := !marks.contains c

/-- Texts that leave a reader where it stood: parentheses, quotes and brackets are closed.  There
are blanks in the open only if the text may be spaced. -/
inductive Closed : Bool → List Char → Prop
  | nil {spaced : Bool} : Closed spaced []
  | plain {spaced : Bool} {c : Char} {w : List Char} :
    isPlain c = true → Closed spaced w → Closed spaced (c :: w)
  | blank {w : List Char} : Closed true w → Closed true (' ' :: w)
  | parens {spaced : Bool} {inner w : List Char} :
    Closed true inner → Closed spaced w → Closed spaced ('(' :: (inner ++ ')' :: w))
  | quoted {spaced : Bool} {w : List Char} (s : List Char) :
    Closed spaced w → Closed spaced ('\x27' :: (s.flatMap Text.escapeSingle ++ '\x27' :: w))
  | bracketed {spaced : Bool} {inner w : List Char} :
    (∀ c ∈ inner, c ≠ ']') → Closed spaced w → Closed spaced ('[' :: (inner ++ ']' :: w))

namespace Closed

variable {spaced : Bool} {u v w : List Char}

theorem append (hu : Closed spaced u) (hv : Closed spaced v) : Closed spaced (u ++ v) := by
  induction hu with
  | nil => exact hv
  | plain hc _ ih => exact .plain hc (ih hv)
  | blank _ ih => exact .blank (ih hv)
  | parens hinner _ _ ih => simpa using Closed.parens hinner (ih hv)
  | quoted s _ ih => simpa using Closed.quoted s (ih hv)
  | bracketed hinner _ ih => simpa using Closed.bracketed hinner (ih hv)

theorem toSpaced (hu : Closed spaced u) : Closed true u := by
  induction hu with
  | nil => exact .nil
  | plain hc _ ih => exact .plain hc ih
  | blank _ ih => exact .blank ih
  | parens hinner _ _ ih => exact .parens hinner ih
  | quoted s _ ih => exact .quoted s ih
  | bracketed hinner _ ih => exact .bracketed hinner ih

theorem of_plain (h : ∀ c ∈ w, isPlain c = true) : Closed spaced w := by
  induction w with
  | nil => exact .nil
  | cons c w ih => exact .plain (h c (by simp)) (ih fun x hx => h x (by simp [hx]))

theorem of_all (h : w.all isPlain = true) : Closed spaced w := .of_plain (List.all_eq_true.1 h)

theorem of_cons {c : Char} (hc : isPlain c = true) (h : Closed spaced (c :: w)) :
    Closed spaced w := by
  generalize hs : c :: w = s at h
  cases h with
  | nil => cases hs
  | plain _ h => cases hs; exact h
  | blank h => cases hs; exact h
  | parens => cases hs; exact absurd hc (by decide)
  | quoted => cases hs; exact absurd hc (by decide)
  | bracketed => cases hs; exact absurd hc (by decide)

/-- A text without a blank in the open does not begin with a plain word and a blank. -/
theorem not_word_blank (hw : ∀ c ∈ w, isPlain c = true) : ¬ Closed false (w ++ ' ' :: v) := by
  induction w with
  | nil =>
    intro h
    cases h with
    | plain hc _ => exact absurd hc (by decide)
  | cons c w ih =>
    intro h
    exact ih (fun x hx => hw x (by simp [hx])) (h.of_cons (hw c (by simp)))

end Closed

theorem isPlain_ne {c x : Char} (h : isPlain c = true) (hx : x ∈ marks) : c ≠ x := by
  rintro rfl
  rw [isPlain, List.contains_iff_mem.2 hx] at h
  cases h

theorem next_of_isPlain {c : Char} (h : isPlain c = true) (depth : Nat) :
    (Place.plain depth).next c = .plain depth := by
  have hne : ∀ x ∈ marks, c ≠ x := fun x hx => isPlain_ne h hx
  simp [Place.next, hne '(' (by decide), hne ')' (by decide), hne '[' (by decide),
    hne '\x27' (by decide)]

section

variable {sep r : List Char}

/-- A character of a literal is written behind a backslash, or is neither a backslash nor a
quote. -/
theorem escapeSingle_cases (c : Char) :
    (∃ x, Text.escapeSingle c = ['\\', x]) ∨
      Text.escapeSingle c = [c] ∧ c ≠ '\\' ∧ c ≠ '\x27' := by
  unfold Text.escapeSingle
  split
  · exact .inl ⟨_, rfl⟩
  split
  · exact .inl ⟨_, rfl⟩
  split
  · exact .inl ⟨_, rfl⟩
  · exact .inr ⟨rfl, ‹_›, ‹_›⟩

/-- A quoted literal is not cut, and does not end before its quote. -/
theorem cut_quoted (s : List Char) (depth : Nat) :
    cut sep (.quoted depth) 0 (s.flatMap Text.escapeSingle ++ r) =
      prepend (s.flatMap Text.escapeSingle) (cut sep (.quoted depth) 0 r) := by
  induction s with
  | nil => simp
  | cons c s ih =>
    have hplace : Place.quoted depth ≠ .top := by simp [Place.top]
    have hescaped : Place.escaped depth ≠ .top := by simp [Place.top]
    rw [List.flatMap_cons, List.append_assoc]
    rcases escapeSingle_cases c with ⟨x, hx⟩ | ⟨hc, hslash, hquote⟩
    · rw [hx, List.cons_append, cut_inside hplace, List.cons_append, List.nil_append,
        show (Place.quoted depth).next '\\' = .escaped depth from rfl, cut_inside hescaped,
        show (Place.escaped depth).next x = .quoted depth from rfl, ih, ← prepend_append,
        ← prepend_append]
      rfl
    · have hnext : (Place.quoted depth).next c = .quoted depth := by
        simp [Place.next, hslash, hquote]
      rw [hc, List.cons_append, List.nil_append, cut_inside hplace, hnext, ih, ← prepend_append]

/-- What is in brackets is not cut. -/
theorem cut_bracketed {inner : List Char} (h : ∀ c ∈ inner, c ≠ ']') (depth : Nat) :
    cut sep (.bracketed depth) 0 (inner ++ r) =
      prepend inner (cut sep (.bracketed depth) 0 r) := by
  induction inner with
  | nil => simp
  | cons c inner ih =>
    have hplace : Place.bracketed depth ≠ .top := by simp [Place.top]
    have hnext : (Place.bracketed depth).next c = .bracketed depth := by
      simp [Place.next, h c (by simp)]
    rw [List.cons_append, cut_inside hplace, hnext, ih fun x hx => h x (by simp [hx]),
      ← prepend_append]
    rfl

end

section

variable {op : Connective} {spaced : Bool} {w r : List Char}

/-- A part goes on at every character but a blank. -/
theorem cut_visible {c : Char} (hc : c ≠ ' ') (place : Place) (r : List Char) :
    cut (separator op) place 0 (c :: r) =
      prepend [c] (cut (separator op) (place.next c) 0 r) :=
  cut_next fun _ hprefix => hc (List.cons_prefix_cons.1 hprefix).1.symm

/-- A text is not cut where it is enclosed: one character takes the reader inside of something that
a connective can be inside of, and another one back. -/
theorem cut_enclosed {place inside : Place} {opening closing : Char} {inner : List Char}
    (hopening : opening ≠ ' ') (hinside : inside ≠ .top) (hin : place.next opening = inside)
    (hout : inside.next closing = place)
    (hinner : ∀ r, cut (separator op) inside 0 (inner ++ r) =
      prepend inner (cut (separator op) inside 0 r))
    (hw : cut (separator op) place 0 (w ++ r) = prepend w (cut (separator op) place 0 r)) :
    cut (separator op) place 0 (opening :: (inner ++ closing :: w) ++ r) =
      prepend (opening :: (inner ++ closing :: w)) (cut (separator op) place 0 r) := by
  rw [List.cons_append, cut_visible hopening, hin, List.append_assoc, hinner, List.cons_append,
    cut_inside hinside, hout, hw, ← prepend_append, ← prepend_append, ← prepend_append]
  simp

/-- **A closed text is not cut**, if it has no blank in the open or stands in parentheses; and it
leaves the reader at the depth where it stood. -/
theorem Closed.cut_append (h : Closed spaced w) {depth : Nat} (hdepth : spaced = true → depth ≠ 0)
    (r : List Char) :
    cut (separator op) (.plain depth) 0 (w ++ r) =
      prepend w (cut (separator op) (.plain depth) 0 r) := by
  induction h generalizing depth r with
  | nil => simp
  | @plain spaced c w hc _ ih =>
    rw [List.cons_append, cut_visible (isPlain_ne hc (by decide)), next_of_isPlain hc, ih hdepth r,
      ← prepend_append]
    rfl
  | @blank w _ ih =>
    have hplace : Place.plain depth ≠ .top := by simpa [Place.top] using hdepth rfl
    rw [List.cons_append, cut_inside hplace,
      show (Place.plain depth).next ' ' = .plain depth from rfl, ih hdepth r, ← prepend_append]
    rfl
  | @parens spaced inner w hinner _ ihinner ih =>
    have hplace : Place.plain (depth + 1) ≠ .top := by simp [Place.top]
    exact cut_enclosed (by decide) hplace rfl rfl (ihinner (by simp)) (ih hdepth r)
  | @quoted spaced w s _ ih =>
    have hplace : Place.quoted depth ≠ .top := by simp [Place.top]
    exact cut_enclosed (by decide) hplace rfl rfl (fun _ => cut_quoted s depth) (ih hdepth r)
  | @bracketed spaced inner w hinner _ ih =>
    have hplace : Place.bracketed depth ≠ .top := by simp [Place.top]
    exact cut_enclosed (by decide) hplace rfl rfl (fun _ => cut_bracketed hinner depth)
      (ih hdepth r)

end

/-! ## Whole texts -/

/-- The end of a text, or a blank. -/
def Ends (r : List Char) : Prop := r = [] ∨ r.head? = some ' '

/-- Texts that are not cut, whatever stands behind them and a blank. -/
def Whole (op : Connective) (w : List Char) : Prop :=
  ∀ r, Ends r → cut (separator op) .top 0 (w ++ r) = prepend w (cut (separator op) .top 0 r)

theorem isPlain_of_connective (op : Connective) : ∀ c ∈ op.text.toList, isPlain c = true := by
  cases op <;> exact List.all_eq_true.1 (by decide)

section

variable {op : Connective} {u w x r : List Char}

theorem Closed.whole (h : Closed false w) : Whole op w :=
  fun r _ => h.cut_append (by simp) r

/-- A connective by itself is no separator, since no blanks are around it. -/
theorem whole_connective (op word : Connective) : Whole op word.text.toList :=
  (Closed.of_plain (isPlain_of_connective word)).whole

/-- A word that is not the connective, or that nothing follows, is no separator. -/
theorem not_separator (hx : Closed false x) (hr : Ends r)
    (h : x = op.text.toList → r = []) : ¬ separator op <+: ' ' :: (x ++ r) := by
  intro hprefix
  have hword := isPlain_of_connective op
  obtain ⟨t, ht⟩ := (List.cons_prefix_cons.1 hprefix).2
  rw [List.append_assoc, List.cons_append, List.nil_append] at ht
  cases r with
  | nil =>
    rw [List.append_nil] at ht
    exact Closed.not_word_blank hword (ht ▸ hx)
  | cons c s =>
    obtain rfl : c = ' ' := by simpa [Ends] using hr
    rcases List.append_eq_append_iff.1 ht with ⟨a, rfl, ha⟩ | ⟨a, hop, ha⟩
    · cases a with
      | nil => exact absurd (h (by simp)) (by simp)
      | cons c a =>
        cases ha
        exact Closed.not_word_blank hword hx
    · cases a with
      | nil => exact absurd (h (by simpa using hop.symm)) (by simp)
      | cons c a =>
        cases ha
        exact absurd (hword ' ' (by simp [hop])) (by decide)

/-- A word goes on a text that is whole, unless it is the connective in front of a blank. -/
theorem Whole.cut_blank (hu : Whole op u) (hx : Closed false x) (hr : Ends r)
    (h : x = op.text.toList → r = []) :
    cut (separator op) .top 0 (u ++ ' ' :: x ++ r) =
      prepend (u ++ ' ' :: x) (cut (separator op) .top 0 r) := by
  have hnext : Place.top.next ' ' = .top := rfl
  rw [List.append_assoc, List.cons_append, hu _ (.inr rfl),
    cut_next fun _ => not_separator hx hr h, hnext, hx.whole r hr, ← prepend_append,
    ← prepend_append]
  simp

/-- A text that is whole stays so with one more word that is not the connective. -/
theorem Whole.blank (hu : Whole op u) (hx : Closed false x) (hne : x ≠ op.text.toList) :
    Whole op (u ++ ' ' :: x) :=
  fun _ hr => hu.cut_blank hx hr fun h => absurd h hne

theorem Whole.words (hu : Whole op u) {ws : List (List Char)}
    (h : ∀ x ∈ ws, Closed false x ∧ x ≠ op.text.toList) :
    Whole op (u ++ ws.flatMap (' ' :: ·)) := by
  induction ws generalizing u with
  | nil => simpa using hu
  | cons x ws ih =>
    obtain ⟨hx, hne⟩ := h x (by simp)
    have hrest := ih (hu.blank hx hne) fun y hy => h y (by simp [hy])
    simpa using hrest

/-- What is whole is one part. -/
theorem Whole.cut_eq (h : Whole op w) : cut (separator op) .top 0 w = [w] := by
  have hend := h [] (.inl rfl)
  simpa [cut] using hend

/-- The last word of a part may be the connective. -/
theorem Whole.cut_last (hu : Whole op u) (hx : Closed false x) :
    cut (separator op) .top 0 (u ++ ' ' :: x) = [u ++ ' ' :: x] := by
  have hend := hu.cut_blank hx (.inl rfl) fun _ => rfl
  simpa [cut] using hend

/-- A part ends behind what is whole, where a separator stands. -/
theorem Whole.cut_separator (h : Whole op w) (r : List Char) :
    cut (separator op) .top 0 (w ++ (separator op ++ r)) =
      w :: cut (separator op) .top 0 r := by
  rw [h _ (.inr rfl), ClauseText.cut_separator, prepend_cons, List.append_nil]

/-! ## Joined parts -/

/-- Texts that end in the connective as a word of its own. -/
def Torn (op : Connective) (w : List Char) : Prop :=
  ∃ u, Whole op u ∧ w = u ++ ' ' :: op.text.toList

/-- A text that ends in the connective is cut in front of it, if a separator stands behind. -/
theorem Torn.cut_separator_ne (h : Torn op w) (r : List Char) (ps : List (List Char)) :
    cut (separator op) .top 0 (w ++ (separator op ++ r)) ≠ w :: ps := by
  obtain ⟨u, hu, rfl⟩ := h
  have hmoved : u ++ ' ' :: op.text.toList ++ (separator op ++ r) =
      u ++ (separator op ++ (op.text.toList ++ ' ' :: r)) := by
    simp [separator]
  rw [hmoved, hu.cut_separator]
  intro heq
  have hlength := congrArg List.length (List.cons.inj heq).1
  simp at hlength

example : parts .and "k = AND AND (org_id IN array(1))" = ["k =", "AND (org_id IN array(1))"] := by
  decide +kernel

/-- Where nothing follows, such a text is one part. -/
theorem Torn.cut_eq (h : Torn op w) : cut (separator op) .top 0 w = [w] := by
  obtain ⟨u, hu, rfl⟩ := h
  exact hu.cut_last (.of_plain (isPlain_of_connective op))

theorem Torn.not_whole (h : Torn op w) : ¬ Whole op w :=
  fun hw => h.cut_separator_ne [] _ (hw.cut_separator [])

end

/-- Texts that are joined, with the separator behind each but the last. -/
theorem toList_join_concat (op : Connective) (ps : List String) (z : String) :
    (Text.join (" " ++ op.text ++ " ") (ps ++ [z])).toList =
      ps.flatMap (fun p => p.toList ++ separator op) ++ z.toList := by
  rw [Scanner.toList_join_middle]
  simp [separator, Scanner.joinedTail]

/-- **Texts are the parts of what they are joined to, exactly if none but the last ends in the
connective.** -/
theorem parts_join_iff {op : Connective} {ps : List String} {z : String}
    (hps : ∀ p ∈ ps, Whole op p.toList ∨ Torn op p.toList) (hz : Whole op z.toList) :
    parts op (Text.join (" " ++ op.text ++ " ") (ps ++ [z])) = ps ++ [z] ↔
      ∀ p ∈ ps, Whole op p.toList := by
  have hlists : parts op (Text.join (" " ++ op.text ++ " ") (ps ++ [z])) = ps ++ [z] ↔
      cut (separator op) .top 0 (ps.flatMap (fun p => p.toList ++ separator op) ++ z.toList) =
        (ps ++ [z]).map String.toList := by
    rw [parts, toList_join_concat]
    constructor
    · intro h
      have hmap := congrArg (List.map String.toList) h
      simpa [Function.comp_def] using hmap
    · intro h
      rw [h]
      simp [Function.comp_def]
  rw [hlists]
  clear hlists
  induction ps with
  | nil => simpa using hz.cut_eq
  | cons p ps ih =>
    rw [List.flatMap_cons, List.append_assoc, List.append_assoc, List.cons_append, List.map_cons,
      List.forall_mem_cons]
    rcases hps p (by simp) with hp | hp
    · have hrest := ih fun q hq => hps q (by simp [hq])
      rw [hp.cut_separator, List.cons_inj_right]
      exact hrest.trans ⟨fun h => ⟨hp, h⟩, And.right⟩
    · constructor
      · intro h
        exact absurd h (hp.cut_separator_ne _ _)
      · rintro ⟨hwhole, -⟩
        exact absurd hwhole hp.not_whole

/-- Texts that are one part. -/
def Uncut (op : Connective) (w : List Char) : Prop := cut (separator op) .top 0 w = [w]

theorem parts_eq_singleton_iff {op : Connective} {w : List Char} :
    parts op (String.ofList w) = [String.ofList w] ↔ Uncut op w := by
  unfold parts Uncut
  rw [String.toList_ofList]
  constructor
  · intro h
    have hmap := congrArg (List.map String.toList) h
    simpa [Function.comp_def] using hmap
  · intro h
    rw [h]
    rfl

/-- The parts at one connective are not cut at another. -/
theorem forall_parts_iff {op op' : Connective} {text : String} :
    (∀ part ∈ parts op text, parts op' part = [part]) ↔
      ∀ p ∈ cut (separator op) .top 0 text.toList, Uncut op' p :=
  List.forall_mem_map.trans (forall₂_congr fun _ _ => parts_eq_singleton_iff)

/-- A text with a separator behind what is whole is more than one part. -/
theorem Whole.not_uncut {op : Connective} {w : List Char} (h : Whole op w) (r : List Char) :
    ¬ Uncut op (w ++ (separator op ++ r)) := by
  unfold Uncut
  rw [h.cut_separator]
  intro heq
  have hlength := congrArg List.length (List.cons.inj heq).1
  simp [separator] at hlength

/-! ## What is carried over -/

/-- What a torn text leaves in front of the next one. -/
def carried (torn : Bool) : List Char := if torn then "AND ".toList else []

/-- Behind a text that may be torn, the text `w` in front of a separator is cut into the parts `ps`,
and may be torn itself. -/
def CutsInto (before : Bool) (w : List Char) (ps : List (List Char)) (after : Bool) : Prop :=
  ∀ r, cut (separator .and) .top 0 (carried before ++ (w ++ (separator .and ++ r))) =
    ps ++ cut (separator .and) .top 0 (carried after ++ r)

section

variable {before after : Bool} {u w : List Char} {ps : List (List Char)}

theorem Whole.cutsInto (h : Whole .and (carried before ++ w)) :
    CutsInto before w [carried before ++ w] false := by
  intro r
  rw [← List.append_assoc, h.cut_separator]
  rfl

/-- A torn text is cut in front of the connective that it ends in. -/
theorem Whole.cutsInto_torn (hu : Whole .and u)
    (h : carried before ++ w = u ++ ' ' :: Connective.and.text.toList) :
    CutsInto before w [u] true := by
  intro r
  have hmoved : u ++ ' ' :: Connective.and.text.toList ++ (separator .and ++ r) =
      u ++ (separator .and ++ (carried true ++ r)) := by
    simp [separator, carried, Connective.text]
  rw [← List.append_assoc, h, hmoved, hu.cut_separator]
  rfl

/-- A connective that is carried over is a part of its own in front of another one. -/
theorem CutsInto.connective (h : CutsInto false w ps after) :
    CutsInto true (Connective.and.text.toList ++ ' ' :: w) (Connective.and.text.toList :: ps)
      after := by
  intro r
  have hmoved : carried true ++ (Connective.and.text.toList ++ ' ' :: w ++ (separator .and ++ r)) =
      Connective.and.text.toList ++ (separator .and ++ (w ++ (separator .and ++ r))) := by
    simp [separator, carried, Connective.text]
  rw [hmoved, (whole_connective .and .and).cut_separator, List.cons_append, ← h r]
  rfl

/-- A word goes on what is carried over, unless it is the connective. -/
theorem whole_carried {op : Connective} {x : List Char} (hx : Closed false x)
    (hne : before = true → x ≠ op.text.toList) : Whole op (carried before ++ x) := by
  cases before with
  | false => exact hx.whole
  | true => exact (whole_connective op .and).blank hx (hne rfl)

end

end MetricQuery.ClauseText
