import Mathlib.Data.List.Forall2
import MetricQuery.Text.Scanner
import MetricQuery.Text.Join

/-!
# What scanners read

Laws of the scanners, from which what a whole grammar reads is put together.

* `Stops p s`        : no character with the property `p` comes next in `s`;
* `takeSome_append`  : a run is read whole, and `takeSome_eq_some_iff` says what any run is;
* `many_cons`, `many_nil`, `many_keeps` : how repetition goes on, stops, and what it preserves;
* `sepBy_join`, `attempt_sepBy_join` : items that were joined by a separator are read one by one.
-/

set_option autoImplicit false

namespace MetricQuery

namespace Scanner

variable {α β : Type}

/-! ## Sequences and choices -/

@[simp] theorem pure_apply (a : α) (s : List Char) : (pure a : Scanner α) s = some (a, s) := rfl

@[simp] theorem fail_apply (s : List Char) : (fail : Scanner α) s = none := rfl

theorem scan_bind_of_ok {p : Scanner α} {s rest : List Char} {a : α} (f : α → Scanner β)
    (h : p.scan s = .ok (a, rest)) : (p >>= f).scan s = (f a).scan rest := by
  show ((p.scan s).bind fun found => (f found.1).scan found.2) = (f a).scan rest
  rw [h]
  rfl

theorem scan_bind_of_error {p : Scanner α} {s : List Char} {failure : Failure}
    (f : α → Scanner β) (h : p.scan s = .error failure) :
    (p >>= f).scan s = .error failure := by
  show ((p.scan s).bind fun found => (f found.1).scan found.2) = .error failure
  rw [h]
  rfl

/-- A sequence fails where its first or its second part does. -/
theorem scan_bind_eq_error_iff {p : Scanner α} {f : α → Scanner β} {s : List Char}
    {failure : Failure} :
    (p >>= f).scan s = .error failure ↔
      p.scan s = .error failure ∨ ∃ a r, p.scan s = .ok (a, r) ∧ (f a).scan r = .error failure := by
  cases h : p.scan s with
  | error first => rw [scan_bind_of_error f h]; simp
  | ok found =>
    obtain ⟨a, r⟩ := found
    rw [scan_bind_of_ok f h]
    simp

theorem bind_of_some {p : Scanner α} {s rest : List Char} {a : α} (f : α → Scanner β)
    (h : p s = some (a, rest)) : (p >>= f) s = f a rest :=
  congrArg Except.toOption (scan_bind_of_ok f (read?_eq_some_iff.1 h))

theorem bind_of_none {p : Scanner α} {s : List Char} (f : α → Scanner β) (h : p s = none) :
    (p >>= f) s = none := by
  obtain ⟨failure, hfailure⟩ := read?_eq_none_iff.1 h
  exact congrArg Except.toOption (scan_bind_of_error f hfailure)

/-- A sequence reads what its first part and then its second part read. -/
theorem bind_eq_some_iff {p : Scanner α} {f : α → Scanner β} {s t : List Char} {b : β} :
    (p >>= f) s = some (b, t) ↔ ∃ a r, p s = some (a, r) ∧ f a r = some (b, t) := by
  constructor
  · intro h
    cases hp : p s with
    | none => rw [bind_of_none f hp] at h; cases h
    | some found =>
      obtain ⟨a, r⟩ := found
      rw [bind_of_some f hp] at h
      exact ⟨a, r, rfl, h⟩
  · rintro ⟨a, r, hp, hf⟩
    rw [bind_of_some f hp, hf]

@[simp] theorem firstOf_nil (s : List Char) : firstOf ([] : List (Scanner α)) s = none := rfl

theorem firstOf_singleton (p : Scanner α) (s : List Char) : firstOf [p] s = p s :=
  rewinding_apply p s

/-- A choice reads what its first alternative reads, or else what the others do. -/
theorem firstOf_cons (p : Scanner α) (ps : List (Scanner α)) (s : List Char) :
    firstOf (p :: ps) s = (p s).or (firstOf ps s) := by
  cases ps with
  | nil => rw [firstOf_singleton, firstOf_nil, Option.or_none]
  | cons q qs => exact orElse_apply p _ s

theorem firstOf_of_some {p : Scanner α} {s : List Char} {found : α × List Char}
    (ps : List (Scanner α)) (h : p s = some found) : firstOf (p :: ps) s = some found := by
  rw [firstOf_cons, h, Option.some_or]

theorem firstOf_of_none {p : Scanner α} {s : List Char} (ps : List (Scanner α))
    (h : p s = none) : firstOf (p :: ps) s = firstOf ps s := by
  rw [firstOf_cons, h, Option.none_or]

/-- A choice reads what its first alternative reads, or fails there and goes on. -/
theorem firstOf_cons_eq_some_iff {p : Scanner α} {ps : List (Scanner α)} {s : List Char}
    {found : α × List Char} :
    firstOf (p :: ps) s = some found ↔
      p s = some found ∨ p s = none ∧ firstOf ps s = some found := by
  cases h : p s with
  | none => simp [firstOf_of_none ps h]
  | some found' => simp [firstOf_of_some ps h]

/-- A choice that fails leaves the text as it was, with the error of its last alternative. -/
theorem scan_firstOf_eq_error (ps : List (Scanner α)) (p : Scanner α) {s : List Char}
    {failure : Failure} (h : (firstOf (ps ++ [p])).scan s = .error failure) :
    ∃ last, p.scan s = .error last ∧ failure = { last with rest := s } := by
  induction ps with
  | nil =>
    change (rewinding p).scan s = .error failure at h
    rw [scan_rewinding] at h
    cases hp : p.scan s with
    | ok found => rw [hp] at h; cases h
    | error last =>
      rw [hp] at h
      cases h
      exact ⟨last, rfl, rfl⟩
  | cons q ps ih =>
    have hcons : firstOf (q :: ps ++ [p]) = orElse q (firstOf (ps ++ [p])) := by
      cases ps <;> rfl
    rw [hcons, scan_orElse] at h
    split at h
    · cases h
    · exact ih h

/-! ## Single characters -/

@[simp] theorem char_cons_self (c : Char) (s : List Char) : char c (c :: s) = some ((), s) := by
  simp [char]

theorem char_cons_ne {c x : Char} (h : x ≠ c) (s : List Char) : char c (x :: s) = none := by
  simp [char, h]

@[simp] theorem char_nil (c : Char) : char c [] = none := rfl

theorem char_eq_some_iff {c : Char} {s rest : List Char} {u : Unit} :
    char c s = some (u, rest) ↔ s = c :: rest := by
  cases s with
  | nil => simp
  | cons x s =>
    by_cases h : x = c
    · subst h; simp
    · simp [char_cons_ne h, h]

theorem char_eq_none {c : Char} {s : List Char} (h : s.head? ≠ some c) : char c s = none := by
  cases s with
  | nil => rfl
  | cons x s => exact char_cons_ne (fun e => h (by simp [e])) s

theorem letters_append (w s : List Char) : letters w (w ++ s) = some ((), s) := by
  induction w with
  | nil => rfl
  | cons c w ih =>
    rw [letters, List.cons_append, bind_of_some _ (char_cons_self c _), ih]

theorem letters_eq_none {c : Char} {w s : List Char} (h : s.head? ≠ some c) :
    letters (c :: w) s = none := bind_of_none _ (char_eq_none h)

theorem word_apply (w : String) (s : List Char) : word w s = letters w.toList s :=
  rewinding_apply _ s

theorem word_append (w : String) (s : List Char) : word w (w.toList ++ s) = some ((), s) := by
  rw [word_apply, letters_append]

/-- A word is not there where its first character is not. -/
theorem word_eq_none {w : String} {c : Char} {cs s : List Char} (hw : w.toList = c :: cs)
    (h : s.head? ≠ some c) : word w s = none := by
  rw [word_apply, hw, letters_eq_none h]

/-! ## Runs of characters -/

/-- No character with the property `p` comes next. -/
def Stops (p : Char → Bool) (s : List Char) : Prop := ∀ c ∈ s.head?, p c = false

@[simp] theorem stops_nil (p : Char → Bool) : Stops p [] := by simp [Stops]

@[simp] theorem stops_cons {p : Char → Bool} {c : Char} {s : List Char} :
    Stops p (c :: s) ↔ p c = false := by simp [Stops]

/-- A text that starts with characters of a class does not start with what is not in it. -/
theorem head?_append_ne {p : Char → Bool} {w : List Char} {x : Char} (hne : w ≠ [])
    (hw : ∀ c ∈ w, p c = true) (hx : p x = false) (s : List Char) : (w ++ s).head? ≠ some x := by
  cases w with
  | nil => exact absurd rfl hne
  | cons c w =>
    intro h
    cases h
    rw [hw x (by simp)] at hx
    cases hx

theorem stops_append {p q : Char → Bool} {w : List Char} (hne : w ≠ [])
    (hw : ∀ c ∈ w, p c = true) (h : ∀ c, p c = true → q c = false) (s : List Char) :
    Stops q (w ++ s) := by
  cases w with
  | nil => exact absurd rfl hne
  | cons c w => simpa using h c (hw c (by simp))

theorem stops_of_head? {p : Char → Bool} {c : Char} {s : List Char} (h : s.head? = some c)
    (hc : p c = false) : Stops p s := by
  intro x hx
  rw [h] at hx
  cases hx
  exact hc

/-- Where a wider class stops, a narrower one does. -/
theorem Stops.mono {p q : Char → Bool} {s : List Char} (hs : Stops q s)
    (h : ∀ c, p c = true → q c = true) : Stops p s := by
  intro c hc
  rw [← Bool.not_eq_true]
  intro hp
  have hq := hs c hc
  rw [h c hp] at hq
  cases hq

/-- What stands behind the end of a run does not count. -/
theorem takeWhile_append_stops {p : Char → Bool} {w s : List Char} (hs : Stops p s) :
    (w ++ s).takeWhile p = w.takeWhile p := by
  rw [List.takeWhile_append]
  split
  · rename_i hlen
    have hnil : s.takeWhile p = [] := by
      cases s with
      | nil => rfl
      | cons c s => simp_all
    rw [hnil, List.append_nil]
    exact ((List.takeWhile_prefix p).eq_of_length hlen).symm
  · rfl

theorem takeWhile_append_of_stops {p : Char → Bool} {w s : List Char}
    (hw : ∀ c ∈ w, p c = true) (hs : Stops p s) : (w ++ s).takeWhile p = w := by
  induction w with
  | nil => cases s <;> simp_all
  | cons c w ih =>
    rw [List.cons_append, List.takeWhile_cons_of_pos (hw c (by simp)),
      ih fun x hx => hw x (by simp [hx])]

theorem dropWhile_append_of_stops {p : Char → Bool} {w s : List Char}
    (hw : ∀ c ∈ w, p c = true) (hs : Stops p s) : (w ++ s).dropWhile p = s := by
  have h := List.takeWhile_append_dropWhile (p := p) (l := w ++ s)
  rw [takeWhile_append_of_stops hw hs] at h
  exact List.append_cancel_left h

theorem stops_dropWhile (p : Char → Bool) (s : List Char) : Stops p (s.dropWhile p) := by
  induction s with
  | nil => simp
  | cons c s ih => by_cases h : p c = true <;> simp_all

theorem takeSome_eq_none {p : Char → Bool} {s : List Char} (h : Stops p s) :
    takeSome p s = none := by
  cases s with
  | nil => rfl
  | cons c s => simp_all [takeSome_apply]

/-- **What a run is**: a text that is not empty, of characters with the property, as long as it can
be. -/
theorem takeSome_eq_some_iff {p : Char → Bool} {s w rest : List Char} :
    takeSome p s = some (w, rest) ↔
      s = w ++ rest ∧ w ≠ [] ∧ (∀ c ∈ w, p c = true) ∧ Stops p rest := by
  constructor
  · intro h
    have happ := takeSome_append h
    rw [takeSome_apply] at h
    split at h
    · cases h
    · rename_i c cs run
      cases h
      refine ⟨happ.symm, by simp, fun x hx => ?_, stops_dropWhile p s⟩
      exact List.all_eq_true.1 (List.all_takeWhile (p := p) (l := s)) x (run ▸ hx)
  · rintro ⟨rfl, hne, hw, hs⟩
    rw [takeSome_apply, takeWhile_append_of_stops hw hs, dropWhile_append_of_stops hw hs]
    cases w with
    | nil => exact absurd rfl hne
    | cons c cs => rfl

/-- A run starts a text that does not start with its end. -/
theorem takeSome_of_ne_nil {p : Char → Bool} {s : List Char} (h : s.takeWhile p ≠ []) :
    takeSome p s = some (s.takeWhile p, s.dropWhile p) := by
  rw [takeSome_apply]
  split
  · rename_i hnil
    exact absurd hnil h
  · rename_i hcons
    rw [hcons]

/-- A run is read whole where no character of its kind follows. -/
theorem takeSome_of_stops {p : Char → Bool} {w s : List Char} (hne : w ≠ [])
    (hw : ∀ c ∈ w, p c = true) (hs : Stops p s) : takeSome p (w ++ s) = some (w, s) :=
  takeSome_eq_some_iff.2 ⟨rfl, hne, hw, hs⟩

/-! ## Blanks -/

theorem blanks_apply (s : List Char) : blanks s = some ((), Text.trimStart s) := rfl

theorem trimStart_of_stops {s : List Char} (h : Stops Text.isBlank s) : Text.trimStart s = s :=
  dropWhile_append_of_stops (w := []) (by simp) h

theorem head?_trimStart_ne {c x : Char} (hc : Text.isBlank c = false) (h : c ≠ x)
    (s : List Char) : (Text.trimStart (c :: s)).head? ≠ some x := by
  rw [trimStart_of_stops (stops_cons.2 hc)]
  simpa using h

@[simp] theorem trimStart_space (s : List Char) :
    Text.trimStart (' ' :: s) = Text.trimStart s := by
  simp [Text.trimStart, show Text.isBlank ' ' = true by decide]

/-- What blanks are taken off is blank. -/
theorem trimStart_eq (s : List Char) :
    ∃ b, s = b ++ Text.trimStart s ∧ ∀ c ∈ b, Text.isBlank c = true :=
  ⟨s.takeWhile Text.isBlank, List.takeWhile_append_dropWhile.symm,
    fun c hc => List.all_eq_true.1 (List.all_takeWhile (p := Text.isBlank) (l := s)) c hc⟩

/-! ## Optional parts -/

theorem attempt_of_some {p : Scanner α} {s rest : List Char} {a : α} (h : p s = some (a, rest)) :
    attempt p s = some (some a, rest) := by
  rw [read?_eq_some_iff, attempt]
  dsimp only
  rw [read?_eq_some_iff.1 h]

theorem attempt_of_none {p : Scanner α} {s : List Char} (h : p s = none) :
    attempt p s = some (none, s) := by
  obtain ⟨failure, hfailure⟩ := read?_eq_none_iff.1 h
  rw [read?_eq_some_iff, attempt]
  dsimp only
  rw [hfailure]

theorem attempt_eq_some_iff {p : Scanner α} {s rest : List Char} {a : Option α} :
    attempt p s = some (a, rest) ↔
      (∃ x, a = some x ∧ p s = some (x, rest)) ∨ a = none ∧ rest = s ∧ p s = none := by
  cases h : p s with
  | none => rw [attempt_of_none h]; simp [eq_comm]
  | some found =>
    obtain ⟨x, r⟩ := found
    rw [attempt_of_some h]
    constructor
    · intro e
      cases e
      exact .inl ⟨x, rfl, rfl⟩
    · rintro (⟨y, rfl, e⟩ | ⟨-, -, e⟩)
      · cases e; rfl
      · cases e

theorem attempt_isSome (p : Scanner α) (s : List Char) :
    ∃ found rest, attempt p s = some (found, rest) := by
  cases h : p s with
  | none => exact ⟨_, _, attempt_of_none h⟩
  | some found => exact ⟨_, _, attempt_of_some h⟩

theorem flag_cons_self (c : Char) (s : List Char) : flag c (c :: s) = some (true, s) := by
  rw [flag, bind_of_some _ (attempt_of_some (char_cons_self c s)), pure_apply, Option.isSome_some]

theorem flag_of_ne {c : Char} {s : List Char} (h : s.head? ≠ some c) :
    flag c s = some (false, s) := by
  rw [flag, bind_of_some _ (attempt_of_none (char_eq_none h)), pure_apply, Option.isSome_none]

theorem flag_eq_some_iff {c : Char} {s rest : List Char} {b : Bool} :
    flag c s = some (b, rest) ↔
      b = true ∧ s = c :: rest ∨ b = false ∧ s = rest ∧ s.head? ≠ some c := by
  by_cases h : s.head? = some c
  · obtain ⟨t, rfl⟩ := List.head?_eq_some_iff.1 h
    rw [flag_cons_self]
    simp [eq_comm]
  · rw [flag_of_ne h]
    constructor
    · intro e
      cases e
      exact .inr ⟨rfl, rfl, h⟩
    · rintro (⟨-, rfl⟩ | ⟨rfl, rfl, -⟩)
      · simp at h
      · rfl

/-- A text is converted where it is read and has a value. -/
theorem convert_eq_some_iff {p : Scanner α} {f : α → Except String β} {s rest : List Char} {b : β} :
    convert p f s = some (b, rest) ↔ ∃ a, p s = some (a, rest) ∧ f a = .ok b := by
  simp only [read?_eq_some_iff, convert]
  cases p.scan s with
  | error failure => simp
  | ok found =>
    obtain ⟨a, r⟩ := found
    cases hf : f a with
    | error cause => simp [hf]
    | ok b' => aesop

theorem between_of_some {opening closing : Scanner Unit} {body : Scanner α} {a : α}
    {s t u v : List Char} (ho : opening s = some ((), t)) (hb : body t = some (a, u))
    (hc : closing u = some ((), v)) : between opening body closing s = some (a, v) := by
  unfold between
  rw [bind_of_some _ ho, bind_of_some _ hb, bind_of_some _ hc, pure_apply]

/-! ## Repetition -/

theorem many_nil {p : Scanner α} {s : List Char} (h : p s = none) :
    many p s = some ([], s) := by
  rw [many_eq, h]

theorem many_cons {p : Scanner α} {s r t : List Char} {a : α} {as : List α}
    (h : p s = some (a, r)) (hlt : r.length < s.length) (hr : many p r = some (as, t)) :
    many p s = some (a :: as, t) := by
  rw [many_eq, h]
  simp [hlt, hr]

/-- Repetition goes on behind a separator that is read along with the item. -/
theorem many_cons_append {p : Scanner α} {sep s r t : List Char} {a : α} {as : List α}
    (hsep : sep ≠ []) (h : p (sep ++ s) = some (a, r)) (hle : r.length ≤ s.length)
    (hr : many p r = some (as, t)) : many p (sep ++ s) = some (a :: as, t) := by
  refine many_cons h ?_ hr
  have hpos := List.length_pos_iff.2 hsep
  rw [List.length_append]
  omega

/-- Repetition never fails, and so is known by what it reads. -/
theorem scan_many_eq {p q : Scanner α} {s : List Char} (h : many p s = many q s) :
    (many p).scan s = (many q).scan s :=
  congrArg Except.ok (Option.some.inj h)

/-- Repetition always reads something, if only nothing. -/
theorem many_isSome (p : Scanner α) (s : List Char) : ∃ as r, many p s = some (as, r) :=
  ⟨_, _, rfl⟩

/-- Repetition goes on behind an item. -/
theorem many_eq_some_of_step {p : Scanner α} {s t r : List Char} {a : α} {as : List α}
    (hp : p s = some (a, t)) (hlt : t.length < s.length) (h : many p s = some (as, r)) :
    ∃ as', as = a :: as' ∧ many p t = some (as', r) := by
  obtain ⟨as', r', hmany⟩ := many_isSome p t
  rw [many_cons hp hlt hmany] at h
  cases h
  exact ⟨as', rfl, hmany⟩

/-- Repetition starts with an item, or leaves the text as it is. -/
theorem many_eq_some {p : Scanner α} {s r : List Char} {as : List α}
    (h : many p s = some (as, r)) :
    as = [] ∧ r = s ∨ ∃ a t as', p s = some (a, t) ∧ as = a :: as' := by
  rw [many_eq] at h
  split at h
  · cases h
    exact .inl ⟨rfl, rfl⟩
  · rename_i a t ht
    split at h
    · obtain ⟨found, -, heq⟩ := Option.map_eq_some_iff.1 h
      cases heq
      exact .inr ⟨a, t, found.1, ht, rfl⟩
    · cases h
      exact .inl ⟨rfl, rfl⟩

/-- What a step keeps of the rest of the text, repetition keeps, and each item was read by a
step. -/
theorem many_keeps {p : Scanner α} (inv : List Char → Prop) (good : α → Prop)
    (hstep : ∀ s a r, inv s → p s = some (a, r) → inv r ∧ good a) :
    ∀ {s as r}, inv s → many p s = some (as, r) → inv r ∧ ∀ a ∈ as, good a := by
  intro s
  induction hn : s.length using Nat.strongRecOn generalizing s with
  | _ n ih =>
    intro as r hs h
    rw [many_eq] at h
    split at h
    · cases h; exact ⟨hs, by simp⟩
    · rename_i a t ht
      obtain ⟨hinv, hgood⟩ := hstep _ _ _ hs ht
      split at h
      · rename_i hlt
        obtain ⟨⟨as', r'⟩, hmany, heq⟩ := Option.map_eq_some_iff.1 h
        cases heq
        obtain ⟨hr, has⟩ := ih _ (hn ▸ hlt) rfl hinv hmany
        exact ⟨hr, by simpa [hgood] using has⟩
      · cases h; exact ⟨hs, by simp⟩

/-! ## Joined texts -/

/-- What is behind the first of the texts that were joined. -/
def joinedTail (sep : String) (texts : List String) : List Char :=
  texts.flatMap fun t => sep.toList ++ t.toList

theorem joinedTail_nil (sep : String) : joinedTail sep [] = [] := rfl

theorem toList_join_cons (sep t : String) (texts : List String) :
    (Text.join sep (t :: texts)).toList = t.toList ++ joinedTail sep texts := by
  induction texts generalizing t with
  | nil => simp [Text.join, joinedTail]
  | cons u texts ih =>
    simp only [Text.join, String.toList_append, ih u, joinedTail, List.flatMap_cons,
      List.append_assoc]

/-- A joined text is one of its parts with what stands in front of it and behind it. -/
theorem toList_join_middle (sep : String) (front : List String) (t : String)
    (back : List String) :
    (Text.join sep (front ++ t :: back)).toList =
      front.flatMap (fun u => u.toList ++ sep.toList) ++ (t.toList ++ joinedTail sep back) := by
  induction front with
  | nil => exact toList_join_cons sep t back
  | cons u front ih =>
    have hjoin : Text.join sep (u :: (front ++ t :: back)) =
        u ++ sep ++ Text.join sep (front ++ t :: back) := by
      cases front <;> rfl
    rw [List.cons_append, hjoin, String.toList_append, ih, List.flatMap_cons]
    simp

/-- A text that was joined is no shorter than any of its parts. -/
theorem length_le_join (sep : String) {t : String} {texts : List String} (h : t ∈ texts) :
    t.length ≤ (Text.join sep texts).length := by
  induction texts with
  | nil => cases h
  | cons u texts ih =>
    cases texts with
    | nil => simp [List.mem_singleton.1 h, Text.join]
    | cons v texts =>
      rw [Text.join, String.length_append, String.length_append]
      rcases List.mem_cons.1 h with rfl | h
      · omega
      · have := ih h
        omega

/-- Behind an item comes a separator with the next item, or what follows the last of them. -/
theorem joinedTail_follows {sep : String} (ok : List Char → Prop) {rest : List Char}
    {texts : List String} (hok : ∀ t ∈ texts, ∀ r, ok (sep.toList ++ (t.toList ++ r)))
    (hrest : ok rest) : ok (joinedTail sep texts ++ rest) := by
  cases texts with
  | nil => exact hrest
  | cons t texts =>
    simp only [joinedTail, List.flatMap_cons, List.append_assoc]
    exact hok t (by simp) _

/-- Repetition reads one item after the other, if each text with the separator in front is read as
its item where more of them, or the end, follow. -/
theorem many_joinedTail {step : Scanner α} {sep : String} (ok : List Char → Prop)
    {texts : List String} {as : List α} {rest : List Char} (hsep : sep.toList ≠ [])
    (h : List.Forall₂ (fun t a => ∀ r, ok r →
      step (sep.toList ++ (t.toList ++ r)) = some (a, r)) texts as)
    (hok : ∀ t ∈ texts, ∀ r, ok (sep.toList ++ (t.toList ++ r))) (hrest : ok rest)
    (hstop : step rest = none) :
    many step (joinedTail sep texts ++ rest) = some (as, rest) := by
  induction h with
  | nil => exact many_nil hstop
  | @cons t a texts as ht _ ih =>
    have htail : ∀ u ∈ texts, ∀ r, ok (sep.toList ++ (u.toList ++ r)) :=
      fun u hu => hok u (by simp [hu])
    have hread := ht _ (joinedTail_follows ok htail hrest)
    have hrec := ih htail
    simp only [joinedTail, List.flatMap_cons, List.append_assoc] at hread hrec ⊢
    exact many_cons_append hsep hread (by simp) hrec

/-- **Joined items are read one by one.** -/
theorem sepBy_join {item : Scanner α} {separator : Scanner Unit} {sep : String}
    (ok : List Char → Prop) {texts : List String} {as : List α} {rest : List Char}
    (hne : texts ≠ []) (hsep : sep.toList ≠ [])
    (h : List.Forall₂ (fun t a => ∀ r, ok r → item (t.toList ++ r) = some (a, r) ∧
      separator (sep.toList ++ (t.toList ++ r)) = some ((), t.toList ++ r)) texts as)
    (hok : ∀ t ∈ texts, ∀ r, ok (sep.toList ++ (t.toList ++ r))) (hrest : ok rest)
    (hstop : separator rest = none) :
    sepBy item separator ((Text.join sep texts).toList ++ rest) = some (as, rest) := by
  cases h with
  | nil => exact absurd rfl hne
  | @cons t a texts as ht hts =>
    have htail : ∀ u ∈ texts, ∀ r, ok (sep.toList ++ (u.toList ++ r)) :=
      fun u hu => hok u (by simp [hu])
    have hmany : many (do separator; item) (joinedTail sep texts ++ rest) = some (as, rest) := by
      refine many_joinedTail ok hsep (hts.imp fun u b hu r hr => ?_) htail hrest
        (bind_of_none _ hstop)
      rw [bind_of_some _ (hu r hr).2, (hu r hr).1]
    have hnext := joinedTail_follows ok htail hrest
    rw [toList_join_cons, List.append_assoc]
    unfold sepBy
    rw [bind_of_some _ (ht _ hnext).1, bind_of_some _ hmany, pure_apply]

/-- Joined items are read where none of them is a text as well. -/
theorem attempt_sepBy_join {item : Scanner α} {separator : Scanner Unit} {sep : String}
    (ok : List Char → Prop) {texts : List String} {as : List α} {rest : List Char}
    (hsep : sep.toList ≠ [])
    (h : List.Forall₂ (fun t a => ∀ r, ok r → item (t.toList ++ r) = some (a, r) ∧
      separator (sep.toList ++ (t.toList ++ r)) = some ((), t.toList ++ r)) texts as)
    (hok : ∀ t ∈ texts, ∀ r, ok (sep.toList ++ (t.toList ++ r))) (hrest : ok rest)
    (hstop : separator rest = none) (hnone : item rest = none) :
    ∃ found, attempt (sepBy item separator) ((Text.join sep texts).toList ++ rest) =
      some (found, rest) ∧ found.getD [] = as := by
  by_cases hnil : texts = []
  · subst hnil
    cases h
    exact ⟨none, attempt_of_none (bind_of_none _ hnone), rfl⟩
  · exact ⟨some as, attempt_of_some (sepBy_join ok hnil hsep h hok hrest hstop), rfl⟩

end Scanner

end MetricQuery
