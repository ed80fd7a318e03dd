import MetricQuery.Text.Blank
import MetricQuery.Text.Join

/-!
# Scanners

A scanner reads a value off the front of a text and leaves the rest, or fails somewhere in the text
with an error.  Alternatives are ordered: the first that succeeds is taken and never given up, and
where all of them fail, the text is again where the first of them began.

* `Scanner.scan`, `Scanner.read?`          : what comes of a text, with the failure and without it;
* `char`, `word`, `takeWhile`, `takeSome`  : one character, a fixed word, a run of characters;
* `attempt`, `many`, `sepBy`               : nothing or one, any number, one or more with separators;
* `convert`, `labelled`                    : a value of what was read, a name for what is read;
* `many_eq`                                : how `many` goes on after each item.
-/

set_option autoImplicit false

namespace MetricQuery

/-- What is known of an error. -/
structure ScanError where
  /-- The names of what was being read, the innermost first. -/
  labels : List String := []
  /-- Why a text that was read has no value. -/
  cause : Option String := none
  deriving DecidableEq, Repr

/-- The error in words: the innermost name, and on a line of its own the reason. -/
def ScanError.text (e : ScanError) : String :=
  Text.join "\n" ((e.labels.head?.map ("invalid " ++ ·)).toList ++ e.cause.toList)

/-- A failure: the error, and the text from the place where the scanner stopped. -/
structure Failure where
  error : ScanError := {}
  rest : List Char

/-- Reads a value off the front of a text. -/
@[ext]
structure Scanner (α : Type) where
  /-- The value and the text behind it, or the failure. -/
  scan : List Char → Except Failure (α × List Char)

namespace Scanner

variable {α β : Type}

/-- The value and the text behind it, if the scanner does not fail. -/
def read? (p : Scanner α) (s : List Char) : Option (α × List Char) := (p.scan s).toOption

/-- Where it does not matter how a scanner fails, it is applied like a function. -/
instance : CoeFun (Scanner α) fun _ => List Char → Option (α × List Char) := ⟨read?⟩

/-- Scanners one after the other.  Where one of them fails, the text is left as it is there. -/
instance : Monad Scanner where
  pure a := ⟨fun s => .ok (a, s)⟩
  bind p f := ⟨fun s => (p.scan s).bind fun found => (f found.1).scan found.2⟩

/-- Always fails. -/
def fail : Scanner α := ⟨fun s => .error { rest := s }⟩

/-- Reads what `f` finds, and else fails in front of the text. -/
def ofOption (f : List Char → Option (α × List Char)) : Scanner α := ⟨fun s =>
  match f s with
  | some found => .ok found
  | none => .error { rest := s }⟩

/-- Reads like `p`, but fails in front of the text. -/
def rewinding (p : Scanner α) : Scanner α := ⟨fun s =>
  (p.scan s).mapError fun failure => { failure with rest := s }⟩

/-- The character `c`. -/
def char (c : Char) : Scanner Unit := ofOption fun
  | x :: rest => if x = c then some ((), rest) else none
  | [] => none

/-- The characters of `w`, in order. -/
def letters : List Char → Scanner Unit
  | [] => pure ()
  | c :: w => do char c; letters w

/-- The word `w`. -/
def word (w : String) : Scanner Unit := rewinding (letters w.toList)

/-- The longest run of characters with the property `p`, which may be empty. -/
def takeWhile (p : Char → Bool) : Scanner (List Char) := ⟨fun s =>
  .ok (s.takeWhile p, s.dropWhile p)⟩

/-- The longest run of characters with the property `p`, which is not empty. -/
def takeSome (p : Char → Bool) : Scanner (List Char) := ofOption fun s =>
  match s.takeWhile p with
  | [] => none
  | c :: cs => some (c :: cs, s.dropWhile p)

/-- Blanks, if there are any. -/
def blanks : Scanner Unit := ⟨fun s => .ok ((), Text.trimStart s)⟩

/-- What `f` makes of what `p` reads.  Where that is nothing, the error says why, and the text is
left as it was. -/
def convert (p : Scanner α) (f : α → Except String β) : Scanner β := ⟨fun s =>
  match p.scan s with
  | .ok (a, rest) =>
    match f a with
    | .ok b => .ok (b, rest)
    | .error cause => .error { error := { cause := some cause }, rest := s }
  | .error failure => .error failure⟩

/-- Reads like `p`, with a name for what is read. -/
def labelled (name : String) (p : Scanner α) : Scanner α := ⟨fun s =>
  (p.scan s).mapError fun failure =>
    { failure with error := { failure.error with labels := failure.error.labels ++ [name] } }⟩

/-- The first of two scanners that succeeds. -/
def orElse (p q : Scanner α) : Scanner α := ⟨fun s =>
  match p.scan s with
  | .ok found => .ok found
  | .error _ => q.scan s⟩

/-- The first scanner of a list that succeeds.  Where none does, the error is that of the last, and
the text is left as it was. -/
def firstOf : List (Scanner α) → Scanner α
  | [] => fail
  | [p] => rewinding p
  | p :: ps => orElse p (firstOf ps)

/-- What `p` reads, or nothing where it fails. -/
def attempt (p : Scanner α) : Scanner (Option α) := ⟨fun s =>
  match p.scan s with
  | .ok (a, rest) => .ok (some a, rest)
  | .error _ => .ok (none, s)⟩

/-- Whether `c` comes next; it is read if it does. -/
def flag (c : Char) : Scanner Bool := do
  let found ← attempt (char c)
  pure found.isSome

/-- Reads nothing, and fails where the next character has the property `p`. -/
def notNext (p : Char → Bool) : Scanner Unit := ofOption fun s =>
  match s with
  | c :: _ => if p c then none else some ((), s)
  | [] => some ((), s)

/-- What `p` reads again and again, until it fails or reads nothing off. -/
def manyFrom (p : Scanner α) (s : List Char) : List α × List Char :=
  match p s with
  | none => ([], s)
  | some (a, rest) =>
    if rest.length < s.length then
      let found := manyFrom p rest
      (a :: found.1, found.2)
    else ([], s)
termination_by s.length

/-- What `p` reads again and again, until it fails.  What it read when it failed is left. -/
def many (p : Scanner α) : Scanner (List α) := ⟨fun s => .ok (manyFrom p s)⟩

/-- One or more items with separators between them.  A separator with no item behind it is left
in place. -/
def sepBy (item : Scanner α) (separator : Scanner Unit) : Scanner (List α) := do
  let first ← item
  let rest ← many (do separator; item)
  pure (first :: rest)

/-- What stands between an opening and a closing part. -/
def between (opening : Scanner Unit) (body : Scanner α) (closing : Scanner Unit) : Scanner α := do
  opening
  let a ← body
  closing
  pure a

/-- Reads like `p` with a number above the length of the text. -/
def bounded (p : Nat → Scanner α) : Scanner α := ⟨fun s => (p (s.length + 1)).scan s⟩

/-- The value that `p` reads off the whole text. -/
def whole? (p : Scanner α) (s : List Char) : Option α :=
  match p s with
  | some (a, []) => some a
  | _ => none

/-! ## What comes of a text -/

theorem scan_bounded (p : Nat → Scanner α) (s : List Char) :
    (bounded p).scan s = (p (s.length + 1)).scan s := rfl

theorem scan_rewinding (p : Scanner α) (s : List Char) :
    (rewinding p).scan s = (p.scan s).mapError fun failure => { failure with rest := s } := rfl

theorem scan_orElse (p q : Scanner α) (s : List Char) :
    (orElse p q).scan s =
      match p.scan s with
      | .ok found => .ok found
      | .error _ => q.scan s := rfl

theorem scan_labelled (name : String) (p : Scanner α) (s : List Char) :
    (labelled name p).scan s = (p.scan s).mapError fun failure =>
      { failure with error := { failure.error with labels := failure.error.labels ++ [name] } } :=
  rfl

theorem read?_eq_some_iff {p : Scanner α} {s : List Char} {found : α × List Char} :
    p s = some found ↔ p.scan s = .ok found := by
  unfold read?
  cases p.scan s <;> simp [Except.toOption]

theorem read?_eq_none_iff {p : Scanner α} {s : List Char} :
    p s = none ↔ ∃ failure, p.scan s = .error failure := by
  unfold read?
  cases p.scan s <;> simp [Except.toOption]

@[simp] theorem ofOption_apply (f : List Char → Option (α × List Char)) (s : List Char) :
    ofOption f s = f s := by
  unfold read? ofOption
  dsimp only
  cases f s <;> rfl

@[simp] theorem rewinding_apply (p : Scanner α) (s : List Char) : rewinding p s = p s := by
  rw [read?, scan_rewinding, read?]
  cases p.scan s <;> rfl

@[simp] theorem labelled_apply (name : String) (p : Scanner α) (s : List Char) :
    labelled name p s = p s := by
  rw [read?, scan_labelled, read?]
  cases p.scan s <;> rfl

theorem bounded_apply (p : Nat → Scanner α) (s : List Char) :
    bounded p s = p (s.length + 1) s := rfl

theorem orElse_apply (p q : Scanner α) (s : List Char) : orElse p q s = (p s).or (q s) := by
  rw [read?, scan_orElse, read?, read?]
  cases p.scan s <;> rfl

/-- How `many` goes on: not at all where `p` fails or reads nothing off, else from the rest. -/
theorem many_eq (p : Scanner α) (s : List Char) :
    many p s =
      match p s with
      | none => some ([], s)
      | some (a, rest) =>
        if rest.length < s.length then
          (many p rest).map fun found => (a :: found.1, found.2)
        else some ([], s) := by
  show some (manyFrom p s) = _
  rw [manyFrom]
  split
  · rfl
  · split <;> rfl

theorem takeWhile_apply (p : Char → Bool) (s : List Char) :
    takeWhile p s = some (s.takeWhile p, s.dropWhile p) := rfl

theorem takeSome_apply (p : Char → Bool) (s : List Char) :
    takeSome p s =
      match s.takeWhile p with
      | [] => none
      | c :: cs => some (c :: cs, s.dropWhile p) :=
  ofOption_apply _ s

/-- A run that is taken and the rest make up the text. -/
theorem takeSome_append {p : Char → Bool} {s w rest : List Char}
    (h : takeSome p s = some (w, rest)) : w ++ rest = s := by
  rw [takeSome_apply] at h
  split at h
  · cases h
  · next c cs run =>
    cases h
    rw [← run]
    exact List.takeWhile_append_dropWhile

end Scanner

end MetricQuery
