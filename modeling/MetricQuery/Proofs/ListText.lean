import MetricQuery.Proofs.Contents
import MetricQuery.Proofs.FaultPlace
import MetricQuery.Proofs.QueryText

/-!
# Lists in filters

The language has one form for lists, which is not empty.  A tuple is written as a list like an
array, and reads back as an array; a list without items is written, but is read nowhere.

* `Condition.HasEmptyList`     : a comparison with a list without items;
* `Filter.listed`              : the filter with arrays in place of tuples;
* `Grammar.IsStuck`            : the text of a factor that is never read;
* `Filter.listed_or_stuck`     : what is written of a valid filter reads back with arrays, or is stuck;
* `Filter.parse_print_summed`  : which filters of a series come back as they were.
-/

set_option autoImplicit false

namespace MetricQuery

open Grammar Scanner Surface Outcome

/-! ## Lists -/

/-- An array, where there is a tuple of the same items. -/
def Literal.listed : Literal → Literal
  | .tuple items => .array items
  | v => v

/-- The right-hand side with an array in place of a tuple. -/
def Expr.listed : Expr → Expr
  | .literal v => .literal v.listed
  | e => e

namespace Condition

/-- The condition with an array in place of a tuple. -/
def listed (c : Condition) : Condition := { c with rhs := c.rhs.map Expr.listed }

/-- A comparison with a list without items. -/
def HasEmptyList (c : Condition) : Prop :=
  c.rhs = some (.literal (.array [])) ∨ c.rhs = some (.literal (.tuple []))

/-- A comparison with a tuple. -/
def HasTuple (c : Condition) : Prop := ∃ items, c.rhs = some (.literal (.tuple items))

theorem listed_eq_self_iff {c : Condition} : c.listed = c ↔ ¬ c.HasTuple := by
  obtain ⟨lhs, op, rhs⟩ := c
  unfold listed HasTuple
  match rhs with
  | none => simp
  | some (.column _) => simp [Expr.listed]
  | some (.call ..) => simp [Expr.listed]
  | some (.literal v) => cases v <;> simp [Expr.listed, Literal.listed]

end Condition

namespace Filter

mutual

/-- The filter with arrays in place of tuples. -/
def listed : Filter → Filter
  | .condition c => .condition c.listed
  | .group op members => .group op (listedAll members)

/-- The filters with arrays in place of tuples. -/
def listedAll : List Filter → List Filter
  | [] => []
  | f :: rest => f.listed :: listedAll rest

end

theorem listedAll_eq (fs : List Filter) : listedAll fs = fs.map listed := by
  induction fs with
  | nil => rfl
  | cons f fs ih => rw [listedAll, ih, List.map_cons]

/-- Only tuples are written as something else. -/
theorem listed_eq_self_iff {f : Filter} : f.listed = f ↔ ∀ c ∈ f.conditions, ¬ c.HasTuple := by
  induction f using Filter.induction with
  | condition c => simp [listed, conditions, Condition.listed_eq_self_iff]
  | group op members ih =>
    have hmap : members.map listed = members ↔ ∀ f ∈ members, f.listed = f := by
      conv_lhs => rhs; rw [← List.map_id members]
      exact List.map_inj_left
    rw [listed, listedAll_eq, conditions, Filter.group.injEq, hmap]
    constructor
    · rintro ⟨-, hall⟩ c hc
      obtain ⟨f, hf, hc⟩ := mem_conditionsAll.1 hc
      exact (ih f hf).1 (hall f hf) c hc
    · exact fun h => ⟨rfl, fun f hf => (ih f hf).2 fun c hc => h c (mem_conditionsAll.2 ⟨f, hf, hc⟩)⟩

end Filter

/-! ## What is written of a condition -/

/-- Only texts are written as the items of a list. -/
theorem Literal.exists_tagStrings {items : List Literal} {texts : List String}
    (h : tagStrings items = .ok texts) :
    ∃ strings : List String, items = strings.map .string ∧ texts = strings.map Text.quote := by
  induction items generalizing texts with
  | nil =>
    cases pure_eq_ok.1 h
    exact ⟨[], rfl, rfl⟩
  | cons item items ih =>
    obtain ⟨s, hs, h⟩ := bind_eq_ok.1 h
    obtain ⟨others, hothers, h⟩ := bind_eq_ok.1 h
    cases pure_eq_ok.1 h
    obtain ⟨strings, rfl, rfl⟩ := ih hothers
    cases item with
    | string t =>
      cases hs
      exact ⟨s :: strings, rfl, rfl⟩
    | _ => cases hs

theorem Literal.exists_tagString {value : Literal} {s : String} (h : value.tagString = .ok s) :
    value = .string s := by
  cases value with
  | string t => cases h; rfl
  | _ => cases h

/-- What is written as a list is an array of texts, or a tuple of them. -/
theorem Literal.exists_tagList {value : Literal} {text : String} (h : value.tagList = .ok text) :
    ∃ strings : List String, (value = .ofStrings strings ∨ value = .tuple (strings.map .string)) ∧
      text = "[" ++ Text.join ", " (strings.map Text.quote) ++ "]" := by
  cases value with
  | array items =>
    obtain ⟨texts, htexts, h⟩ := bind_eq_ok.1 h
    cases pure_eq_ok.1 h
    obtain ⟨strings, rfl, rfl⟩ := exists_tagStrings htexts
    exact ⟨strings, .inl rfl, rfl⟩
  | tuple items =>
    obtain ⟨texts, htexts, h⟩ := bind_eq_ok.1 h
    cases pure_eq_ok.1 h
    obtain ⟨strings, rfl, rfl⟩ := exists_tagStrings htexts
    exact ⟨strings, .inr rfl, rfl⟩
  | _ => cases h

theorem Literal.exists_exactValue {value : Literal} {text : String}
    (h : value.exactValue = .ok text) :
    ∃ s, value = .string s ∧ isPrefixPattern s.toList = false := by
  obtain ⟨s, hs, h⟩ := bind_eq_ok.1 h
  refine ⟨s, exists_tagString hs, ?_⟩
  split at h
  · cases h
  · rename_i hs
    simpa using hs

theorem Literal.exists_wildcardValue {value : Literal} {text : String}
    (h : value.wildcardValue = .ok text) :
    ∃ s, value = .string s ∧ isPrefixPattern s.toList = true := by
  obtain ⟨s, hs, h⟩ := bind_eq_ok.1 h
  refine ⟨s, exists_tagString hs, ?_⟩
  split at h
  · assumption
  · cases h

/-- A value that is written is a list without items, or one that the operator takes once there is an
array in place of a tuple. -/
theorem Comparison.takes_or_empty {op : Comparison} {value : Literal} {negated : Bool}
    {text : String} (h : op.valueText value = .ok (negated, text)) :
    op.Takes value.listed ∧ op.valueText value.listed = .ok (negated, text) ∨
      (value = .array [] ∨ value = .tuple []) ∧ text = "[]" := by
  have hlist : ∀ {text}, value.tagList = .ok text → op = .isIn ∨ op = .notIn →
      op.Takes value.listed ∧ value.listed.tagList = .ok text ∨
        (value = .array [] ∨ value = .tuple []) ∧ text = "[]" := by
    intro text h hop
    obtain ⟨strings, hvalue, rfl⟩ := Literal.exists_tagList h
    have hlisted : value.listed = .ofStrings strings := by
      rcases hvalue with rfl | rfl <;> rfl
    cases strings with
    | nil => exact .inr ⟨hvalue, rfl⟩
    | cons s strings =>
      rw [hlisted]
      exact .inl ⟨.list hop (by simp), Literal.tagList_ofStrings _⟩
  cases op with
  | eq | neq =>
    obtain ⟨found, hfound, -⟩ := bind_eq_ok.1 h
    obtain ⟨s, rfl, hs⟩ := Literal.exists_exactValue hfound
    exact .inl ⟨.exact (by simp) hs, h⟩
  | like | notLike =>
    obtain ⟨found, hfound, -⟩ := bind_eq_ok.1 h
    obtain ⟨s, rfl, hs⟩ := Literal.exists_wildcardValue hfound
    exact .inl ⟨.pattern (by simp) hs, h⟩
  | isIn | notIn =>
    obtain ⟨found, hfound, h⟩ := bind_eq_ok.1 h
    cases pure_eq_ok.1 h
    rcases hlist hfound (by simp) with ⟨htakes, htext⟩ | hempty
    · refine .inl ⟨htakes, ?_⟩
      rw [valueText, bind_of_ok _ htext]
      rfl
    · exact .inr hempty
  | _ => cases h

theorem Comparison.Takes.ne_empty {op : Comparison} {value : Literal} (h : op.Takes value) :
    value ≠ .array [] := by
  cases h with
  | exact => simp
  | pattern => simp
  | list _ hne => simpa [Literal.ofStrings] using hne

/-- The left-hand side of a valid condition is valid. -/
theorem Condition.validate_lhs {c : Condition} (h : c.validate = .ok ()) :
    c.lhs.validate = .ok () := by
  obtain ⟨lhs, op, rhs⟩ := c
  match lhs with
  | .column _ => exact (bind_eq_ok.1 h).elim fun _ h => h.1
  | .call .. => exact (bind_eq_ok.1 h).elim fun _ h => h.1
  | .literal _ => cases h

/-- What is written of a condition on a valid key is the key and a value. -/
theorem Condition.exists_column {c : Condition} {text : String}
    (hlhs : c.lhs.validate = .ok ()) (h : c.print = .ok text) :
    ∃ name op value negated found, c = .ofColumn name op value ∧ Column.IsWritable ⟨name⟩ ∧
      op.valueText value = .ok (negated, found) ∧
      text = (if negated then "!" else "") ++ name ++ ":" ++ found := by
  obtain ⟨lhs, op, rhs⟩ := c
  match lhs, rhs with
  | .column ⟨name⟩, some (.literal value) =>
    obtain ⟨key, hkey, h⟩ := bind_eq_ok.1 h
    obtain ⟨⟨negated, found⟩, hfound, h⟩ := bind_eq_ok.1 h
    cases pure_eq_ok.1 h
    have hname : isName name.toList = true ∧ key = name := by
      unfold Column.print at hkey
      split at hkey
      · cases hkey
        exact ⟨‹_›, rfl⟩
      · cases hkey
    obtain ⟨hname, rfl⟩ := hname
    exact ⟨key, op, value, negated, found, rfl, ⟨hname, hlhs⟩, hfound, rfl⟩
  | .column _, none => cases h
  | .column _, some (.column _) => cases h
  | .column _, some (.call ..) => cases h
  | .literal _, _ => cases h
  | .call .., _ => cases h

/-! ## Factors that are not read -/

namespace Grammar

/-- The text of a factor that is not read, whatever follows it. -/
structure IsStuck (text : String) : Prop where
  starts : StartsFactor text
  unread : ∀ r, tagFactor tagFilter (text.toList ++ r) = none

/-- Brackets with nothing between them are no list, and nothing else. -/
theorem tagValue_brackets (r : List Char) : tagValue ('[' :: ']' :: r) = none := by
  have hpattern : between (char '"') pattern (char '"') ('[' :: ']' :: r) = none :=
    bind_of_none _ (char_cons_ne (by decide) _)
  have hopen : (do char '['; blanks : Scanner Unit) ('[' :: ']' :: r) = some ((), ']' :: r) := by
    rw [bind_of_some _ (char_cons_self _ _), blanks_apply,
      trimStart_of_stops (stops_cons.2 (by decide))]
  have hitems : sepBy (firstOf [quoted, unquoted]) comma (']' :: r) = none := by
    refine bind_of_none _ ?_
    rw [firstOf_of_none _ (quoted_eq_none (by simp)),
      firstOf_of_none _ (unquoted_eq_none (by simp; decide)), firstOf_nil]
  have hlist : stringList ('[' :: ']' :: r) = none :=
    (bind_of_some _ hopen).trans (bind_of_none _ hitems)
  unfold tagValue
  rw [firstOf_of_none _ (bind_of_none _ hpattern),
    firstOf_of_none _ (bind_of_none _ (pattern_eq_none (by simp; decide))),
    firstOf_of_none _ (bind_of_none _ (quoted_eq_none (by simp))),
    firstOf_of_none _ (bind_of_none _ (unquoted_eq_none (by simp; decide))),
    firstOf_of_none _ (bind_of_none _ hlist),
    firstOf_of_none _ (bind_of_none _ (variableName_eq_none (by simp))), firstOf_nil]

/-- A comparison with brackets that hold nothing is stuck. -/
theorem isStuck_brackets {n : String} (hn : isName n.toList = true) (negated : Bool) :
    IsStuck ((if negated then "!" else "") ++ n ++ ":" ++ "[]") := by
  refine ⟨startsFactor_condition hn _, fun r => ?_⟩
  rw [toList_condition]
  refine tagFactor_eq_none ?_ ?_
  · rw [condition_key hn (by simp; decide)]
    exact bind_of_none _ (tagValue_brackets r)
  · cases negated with
    | true => simp
    | false => exact head?_name_ne hn (by decide) _

section

variable {t : String}

/-- A term ends in front of a stuck factor. -/
theorem furtherFactor_stuck (h : IsStuck t) (r : List Char) :
    furtherFactor tagFilter (" AND ".toList ++ (t.toList ++ r)) = none :=
  (furtherFactor_and h.starts r).trans (h.unread r)

/-- So does a filter. -/
theorem furtherTerm_stuck (h : IsStuck t) (r : List Char) :
    furtherTerm tagFilter (" OR ".toList ++ (t.toList ++ r)) = none :=
  (furtherTerm_or h.starts r).trans (bind_of_none _ (h.unread r))

theorem trimStart_and (s : List Char) :
    Text.trimStart (" AND ".toList ++ s) = "AND".toList ++ ' ' :: s := by
  show Text.trimStart (' ' :: 'A' :: 'N' :: 'D' :: ' ' :: s) = _
  rw [trimStart_space, trimStart_of_stops (by simp; decide)]
  rfl

theorem trimStart_or (s : List Char) :
    Text.trimStart (" OR ".toList ++ s) = "OR".toList ++ ' ' :: s := by
  show Text.trimStart (' ' :: 'O' :: 'R' :: ' ' :: s) = _
  rw [trimStart_space, trimStart_of_stops (by simp; decide)]
  rfl

theorem furtherTerm_and (s : List Char) : furtherTerm tagFilter (" AND ".toList ++ s) = none := by
  unfold furtherTerm
  rw [bind_of_some _ (blanks_apply _), trimStart_and,
    bind_of_none _ (keyword_eq_none (c := 'O') (d := 'o') "OR" "or" rfl rfl (by simp) (by simp))]

/-- A filter does not start with a factor that is stuck. -/
theorem tagFilter_stuck_first (ht : IsStuck t) (r : List Char) :
    tagFilter (t.toList ++ r) = none := by
  rw [tagFilter_eq, tagFilterOver_eq]
  exact bind_of_none _ (bind_of_none _ (ht.unread r))

/-- A filter of one factor and more ends in front of a factor that is stuck. -/
theorem tagFilter_stuck (op : Connective) {u : String} {us : List String} {a : TagFactor}
    {as : List TagFactor} (hu : FactorReads tagFilter u a)
    (hus : List.Forall₂ (FactorReads tagFilter) us as) (ht : IsStuck t) (r : List Char) :
    tagFilter (u.toList ++ (joinedTail (" " ++ op.text ++ " ") us ++
      ((" " ++ op.text ++ " ").toList ++ (t.toList ++ r)))) =
        some (termsOf op (a :: as), (" " ++ op.text ++ " ").toList ++ (t.toList ++ r)) := by
  cases op with
  | and => exact tagFilter_connective .and hu hus (furtherFactor_stuck ht r) (furtherTerm_and _)
  | or =>
    exact tagFilter_connective .or hu hus (furtherFactor_or ht.starts r) (furtherTerm_stuck ht r)

theorem head?_connective_ne (op : Connective) (s : List Char) :
    (Text.trimStart ((" " ++ op.text ++ " ").toList ++ s)).head? ≠ some ')' := by
  cases op with
  | and =>
    rw [show (" " ++ Connective.and.text ++ " ") = " AND " from rfl, trimStart_and]
    simp
  | or =>
    rw [show (" " ++ Connective.or.text ++ " ") = " OR " from rfl, trimStart_or]
    simp

/-- **What is read of members with a stuck one among them** is nothing, or it ends in front of a
connective: never where a parenthesis closes. -/
theorem tagFilter_join_stuck (op : Connective) {front back : List String} {as : List TagFactor}
    (hfront : List.Forall₂ (FactorReads tagFilter) front as) (ht : IsStuck t) {r v : List Char}
    {terms : TagFilter}
    (h : tagFilter ((Text.join (" " ++ op.text ++ " ") (front ++ t :: back)).toList ++ r) =
      some (terms, v)) :
    (Text.trimStart v).head? ≠ some ')' := by
  cases hfront with
  | nil =>
    rw [List.nil_append, toList_join_cons, List.append_assoc, tagFilter_stuck_first ht] at h
    cases h
  | @cons u a us as hu hus =>
    have htail : (Text.join (" " ++ op.text ++ " ") (u :: us ++ t :: back)).toList ++ r =
        u.toList ++ (joinedTail (" " ++ op.text ++ " ") us ++
          ((" " ++ op.text ++ " ").toList ++ (t.toList ++
            (joinedTail (" " ++ op.text ++ " ") back ++ r)))) := by
      rw [List.cons_append, toList_join_cons]
      simp [joinedTail]
    rw [htail, tagFilter_stuck op hu hus ht] at h
    cases h
    exact head?_connective_ne op _

theorem stops_isBlank_join_stuck {sep : String} {front back : List String} {as : List TagFactor}
    (hfront : List.Forall₂ (FactorReads tagFilter) front as) (ht : IsStuck t) (r : List Char) :
    Stops Text.isBlank ((Text.join sep (front ++ t :: back)).toList ++ r) := by
  cases hfront with
  | nil =>
    rw [List.nil_append, toList_join_cons, List.append_assoc]
    exact ht.starts.stops_isBlank _
  | cons hu _ =>
    rw [List.cons_append, toList_join_cons, List.append_assoc]
    exact hu.1.stops_isBlank _

end

/-- **A group with a stuck member is stuck**: its parenthesis is never reached. -/
theorem isStuck_group (op : Connective) {front back : List String} {as : List TagFactor}
    {t : String} (hfront : List.Forall₂ (FactorReads tagFilter) front as) (ht : IsStuck t) :
    IsStuck ("(" ++ Text.join (" " ++ op.text ++ " ") (front ++ t :: back) ++ ")") := by
  have htext : ∀ r, ("(" ++ Text.join (" " ++ op.text ++ " ") (front ++ t :: back) ++ ")").toList ++
      r = '(' :: ((Text.join (" " ++ op.text ++ " ") (front ++ t :: back)).toList ++ ')' :: r) := by
    intro r
    simp
  refine ⟨⟨'(', _, (List.append_nil _).symm.trans (htext []), .inr (.inl rfl)⟩, fun r => ?_⟩
  rw [htext, tagFactor_paren]
  refine bind_of_none _ ?_
  cases hread : parens tagFilter ('(' :: ((Text.join (" " ++ op.text ++ " ")
      (front ++ t :: back)).toList ++ ')' :: r)) with
  | none => rfl
  | some found =>
    obtain ⟨terms, w⟩ := found
    obtain ⟨s, v, hs, hbody, hclose⟩ := parens_eq_some hread
    cases hs
    rw [trimStart_of_stops (stops_isBlank_join_stuck hfront ht _)] at hbody
    refine absurd ?_ (tagFilter_join_stuck op hfront ht hbody)
    rw [hclose]
    rfl

/-- Braces around a stuck factor are left over. -/
theorem optionalBraces_stuck {t : String} (ht : IsStuck t) (r : List Char) :
    optionalBraces ('\x7b' :: (t.toList ++ r)) = some (none, '\x7b' :: (t.toList ++ r)) := by
  have hbody : between blanks tagFilter blanks (t.toList ++ r) = none := by
    unfold between
    rw [bind_of_some _ (blanks_apply _), trimStart_of_stops (ht.starts.stops_isBlank r)]
    exact bind_of_none _ (tagFilter_stuck_first ht r)
  have hclose : char '\x7d' (t.toList ++ r) = none := by
    obtain ⟨c, w, hcw, hc⟩ := ht.starts
    rw [hcw]
    refine char_cons_ne ?_ _
    rcases hc with rfl | rfl | hc
    · decide
    · decide
    · exact ne_of_class hc (by decide)
  have hbraces : braces ('\x7b' :: (t.toList ++ r)) = none :=
    (bind_of_some _ (char_cons_self _ _)).trans
      ((bind_of_some _ (attempt_of_none hbody)).trans (bind_of_none _ hclose))
  unfold optionalBraces
  rw [bind_of_some _ (attempt_of_none hbraces), pure_apply]
  rfl

end Grammar

/-! ## Filters -/

namespace Filter

/-- The filter holds no list without items, and its text reads back with arrays. -/
structure IsListed (f : Filter) (text : String) : Prop where
  filled : ∀ c ∈ f.conditions, ¬ c.HasEmptyList
  normal : f.listed.IsNormal
  print_eq : f.listed.print = .ok text

/-- The filter holds a list without items, and its text is stuck. -/
structure IsUnlisted (f : Filter) (text : String) : Prop where
  empty : ∃ c ∈ f.conditions, c.HasEmptyList
  stuck : IsStuck text

theorem print_listedAll {fs : List Filter} {texts : List String}
    (h : List.Forall₂ IsListed fs texts) : (fs.map listed).mapM print = .ok texts := by
  rw [mapM_eq_ok, List.forall₂_map_left_iff]
  exact h.imp fun _ _ => IsListed.print_eq

/-- What holds of all filters and texts, one by one, holds of the filters. -/
theorem forall_of_isListed {p : Filter → Prop} {fs : List Filter} {texts : List String}
    (h : List.Forall₂ IsListed fs texts) (hp : ∀ f t, IsListed f t → p f) : ∀ f ∈ fs, p f :=
  ((List.forall₂_and_left _ _).1 (h.imp fun f t hf => ⟨hp f t hf, hf⟩)).1

theorem isNormal_listedAll {fs : List Filter} {texts : List String}
    (h : List.Forall₂ IsListed fs texts) : ∀ f ∈ fs.map listed, f.IsNormal :=
  List.forall_mem_map.2 (forall_of_isListed h fun _ _ hf => hf.normal)

theorem exists_factors_listed {fs : List Filter} {texts : List String}
    (h : List.Forall₂ IsListed fs texts) :
    ∃ as, List.Forall₂ (FactorReads tagFilter) texts as := by
  obtain ⟨as, -, hreads⟩ :=
    exists_factors (print_listedAll h) fun f hf => (isNormal_listedAll h f hf).read
  exact ⟨as, hreads⟩

/-- Either all texts read, or one of them is the first that is stuck. -/
theorem exists_first_stuck {fs : List Filter} {texts : List String}
    (h : List.Forall₂ (fun f t => f.IsListed t ∨ f.IsUnlisted t) fs texts) :
    List.Forall₂ IsListed fs texts ∨
      ∃ f ∈ fs, ∃ fs' front t back, texts = front ++ t :: back ∧
        List.Forall₂ IsListed fs' front ∧ f.IsUnlisted t := by
  induction h with
  | nil => exact .inl .nil
  | @cons f t fs texts hf _ ih =>
    rcases hf with hf | hf
    · rcases ih with ih | ⟨g, hg, fs', front, u, back, rfl, hfront, hu⟩
      · exact .inl (.cons hf ih)
      · exact .inr ⟨g, by simp [hg], f :: fs', t :: front, u, back, rfl, .cons hf hfront, hu⟩
    · exact .inr ⟨f, by simp, [], [], t, texts, rfl, .nil, hf⟩

theorem isListed_condition {name text : String} {op : Comparison} {value : Literal}
    {negated : Bool} (hname : Column.IsWritable ⟨name⟩) (htakes : op.Takes value.listed)
    (hlisted : op.valueText value.listed = .ok (negated, text)) :
    IsListed (.condition (.ofColumn name op value))
      ((if negated then "!" else "") ++ name ++ ":" ++ text) where
  filled c hc hempty := by
    rw [conditions, List.mem_singleton] at hc
    subst hc
    have hvalue : value.listed = .array [] := by
      rcases hempty with h | h <;> cases h <;> rfl
    rw [hvalue] at htakes
    exact htakes.ne_empty rfl
  normal := .condition (.mk hname htakes)
  print_eq := by
    show Condition.print (.ofColumn name op value.listed) = _
    unfold Condition.print Condition.ofColumn
    dsimp only
    rw [bind_of_ok _ (hname.print_eq .tag), bind_of_ok _ hlisted]
    rfl

theorem isListed_group {op : Connective} {members : List Filter} {texts : List String}
    (hlen : 2 ≤ members.length) (h : List.Forall₂ IsListed members texts) :
    IsListed (.group op members) ("(" ++ Text.join (" " ++ op.text ++ " ") texts ++ ")") where
  filled c hc := by
    rw [conditions] at hc
    obtain ⟨f, hf, hc⟩ := mem_conditionsAll.1 hc
    exact forall_of_isListed h (fun _ _ hf => hf.filled) f hf c hc
  normal := by
    rw [listed, listedAll_eq]
    exact .group (by rwa [List.length_map]) (isNormal_listedAll h)
  print_eq := by
    rw [listed, listedAll_eq, print, printAll_eq, bind_of_ok _ (print_listedAll h)]
    rfl

/-- What is written of a condition on a valid key reads back with an array, or is stuck. -/
theorem condition_listed_or_stuck {c : Condition} (hlhs : c.lhs.validate = .ok ()) {text : String}
    (ht : c.print = .ok text) :
    (Filter.condition c).IsListed text ∨ (Filter.condition c).IsUnlisted text := by
  obtain ⟨name, op, value, negated, found, rfl, hname, hfound, rfl⟩ := c.exists_column hlhs ht
  rcases op.takes_or_empty hfound with ⟨htakes, hlisted⟩ | ⟨hempty, rfl⟩
  · exact .inl (isListed_condition hname htakes hlisted)
  · refine .inr ⟨⟨_, by rw [conditions]; exact List.mem_singleton.2 rfl, ?_⟩,
      isStuck_brackets hname.isName negated⟩
    rcases hempty with rfl | rfl
    · exact .inl rfl
    · exact .inr rfl

/-- **What is written of a valid filter reads back with arrays, or is stuck**: it is stuck exactly if
there is a list without items in it. -/
theorem listed_or_stuck {f : Filter} (hvalid : f.validate = .ok ()) {text : String}
    (ht : f.print = .ok text) : f.IsListed text ∨ f.IsUnlisted text := by
  induction f using Filter.induction generalizing text with
  | condition c =>
    rw [validate] at hvalid
    rw [print] at ht
    exact condition_listed_or_stuck (Condition.validate_lhs hvalid) ht
  | group op members ih =>
    rw [validate] at hvalid
    have hlen : ¬ members.length < 2 := fun hshort => by
      rw [if_pos hshort] at hvalid
      cases hvalid
    rw [if_neg hlen] at hvalid
    rw [print, printAll_eq] at ht
    obtain ⟨texts, htexts, ht⟩ := bind_eq_ok.1 ht
    cases pure_eq_ok.1 ht
    have hall : ∀ f ∈ members, ∀ t, f.print = .ok t → f.IsListed t ∨ f.IsUnlisted t :=
      fun f hf t ht => ih f hf (validateAll_eq_ok.1 hvalid f hf) ht
    have hmembers : List.Forall₂ (fun f t => f.IsListed t ∨ f.IsUnlisted t) members texts :=
      ((List.forall₂_and_left _ _).2 ⟨hall, mapM_eq_ok.1 htexts⟩).imp fun f t h => h.1 t h.2
    rcases exists_first_stuck hmembers with hall | ⟨f, hf, fs, front, t, back, rfl, hfront, ht⟩
    · exact .inl (isListed_group (Nat.not_lt.1 hlen) hall)
    · obtain ⟨as, hreads⟩ := exists_factors_listed hfront
      obtain ⟨c, hc, hempty⟩ := ht.empty
      refine .inr ⟨⟨c, ?_, hempty⟩, isStuck_group op hreads ht.stuck⟩
      rw [conditions]
      exact mem_conditionsAll.2 ⟨f, hf, hc⟩

end Filter

/-! ## Filters of a series -/

namespace Grammar

/-- A call with what selects from it is an expression up to what does not go on with it. -/
theorem expression_call {n : String} {s t r : List Char} {c : Call} {filters : Option TagFilter}
    (hn : IsCallName n.toList) (hc : call expression (n.toList ++ '(' :: s) = some (c, t))
    (hgroup : groupBy t = none) (hbraces : optionalBraces t = some (filters, r))
    (hgroup' : groupBy r = none)
    (hsign : ∀ x ∈ ['*', '/', '+', '-'], (Text.trimStart r).head? ≠ some x) :
    expression (n.toList ++ '(' :: s) =
      some (.term (.unary (.mk false (.filtered (.call c none) filters none))), r) := by
  have hcoefficient : coefficient expression (n.toList ++ '(' :: s) =
      some (.filtered (.call c none) filters none, r) :=
    (coefficient_call hn).trans (filteredTarget_of_some (target_call hn hc (attempt_of_none hgroup))
      hbraces (attempt_of_none hgroup'))
  have hunary := unary_of_coefficient (head?_call_ne hn (by decide) _) hcoefficient
  exact expression_of_term
    (term_of_unary hunary (furtherUnary_eq_none (hsign _ (by simp)) (hsign _ (by simp))))
    (furtherSummand_eq_none (hsign _ (by simp)) (hsign _ (by simp)))

end Grammar

namespace Query

/-- The sum of `foo` where the filter holds. -/
def summed (f : Filter) : Query :=
  .timeseries { Timeseries.new (.ofPublicName "foo") "sum" with filters := some [f] }

theorem print_summed {f : Filter} {text : String} :
    (summed f).print = .ok text ↔
      ∃ t, f.print = .ok t ∧ text = "sum(foo)" ++ ("\x7b" ++ t ++ "\x7d") := by
  have hprint : (summed f).print = (do
      let t ← f.print
      pure ("sum(foo)" ++ ("\x7b" ++ t ++ "\x7d"))) := by
    have hbraces : bracesText [f] = (do
        let t ← f.print
        pure ("\x7b" ++ t ++ "\x7d")) := by
      rw [bracesText, Filter.printAll_eq]
      · rw [List.mapM_cons, List.mapM_nil]
        cases f.print <;> rfl
      · simp
    show (do
      let head ← (pure "sum(foo)" : Except Refusal String)
      let selection ← selectionText (some [f]) none
      pure (head ++ selection)) = _
    rw [selectionText, Option.getD_some, hbraces]
    cases f.print with
    | error cause => rfl
    | ok t =>
      show Except.ok ("sum(foo)" ++ ("\x7b" ++ t ++ "\x7d" ++ "")) = _
      rw [String.append_empty]
      rfl
  rw [hprint, bind_eq_ok]
  exact exists_congr fun t => and_congr_right fun _ => pure_eq_ok.trans eq_comm

theorem isNamed_foo : (Metric.ofPublicName "foo").IsNamed :=
  .publicName ⟨"foo".toList, [], by simp,
    List.forall_mem_singleton.2 ⟨by decide, List.all_eq_true.1 (by decide)⟩⟩

theorem isCallName_sum : IsCallName "sum".toList := isCallName_of_isFunctionName (by decide)

/-- A sum over a normal filter reads back. -/
theorem parse_summed {f : Filter} (h : f.IsNormal) {text : String}
    (ht : (summed f).print = .ok text) : Query.parse text = .ok (summed f) := by
  have hform : Timeseries.IsNormal
      { Timeseries.new (.ofPublicName "foo") "sum" with filters := some [f] } :=
    ⟨isNamed_foo, isCallName_sum, by simp [AreUnsigned, Timeseries.new],
      by simp, by simpa using h, by simp [Timeseries.new], by simp [Timeseries.new]⟩
  have hnodes : (summed f).toOperand.nodes = [(summed f).toOperand] := by
    simp [summed, toOperand, Operand.nodes]
  have hprintable : ∀ n ∈ (summed f).toOperand.nodes, n.IsPrintable := by
    rw [hnodes, List.forall_mem_singleton]
    exact ⟨hform, rfl, by simp [summed, toOperand, Operand.IsRegular, AreFinite, Timeseries.new],
      fun mri hmri => by cases hmri⟩
  obtain ⟨text', ht', hread⟩ := IsPrintable.parse_eq hprintable
  rw [ht] at ht'
  cases ht'
  exact hread

/-- In front of braces, the sum of `foo` is read as a call. -/
theorem call_foo (s : List Char) :
    ∃ ref : MetricRef, ref.reduce = .ok (.ofPublicName "foo") ∧
      call expression ("sum".toList ++ '(' :: ("foo".toList ++ ')' :: '\x7b' :: s)) =
        some (.aggregate "sum" none ⟨ref, none, none⟩, '\x7b' :: s) :=
  call_metric isCallName_sum isNamed_foo rfl
    (not_isCaptured_of_guarded (.of_notMem (by decide) (by decide))
      (fun _ => stops_cons.2 (by decide)) (by decide) (by simp))

theorem toList_braces (t : String) :
    ("sum(foo)" ++ ("\x7b" ++ t ++ "\x7d")).toList =
      "sum".toList ++ '(' :: ("foo".toList ++ ')' :: '\x7b' :: (t.toList ++ ['\x7d'])) := by
  have hbraces : ("\x7b" ++ t ++ "\x7d").toList = '\x7b' :: (t.toList ++ ['\x7d']) := by simp
  rw [String.toList_append, hbraces]
  rfl

theorem trim_braces (t : String) :
    Text.trim ("sum(foo)" ++ ("\x7b" ++ t ++ "\x7d")).toList =
      ("sum(foo)" ++ ("\x7b" ++ t ++ "\x7d")).toList := by
  refine trim_of_stops (w := "sum(foo)".toList ++ '\x7b' :: t.toList) (c := '\x7d') ?_ ?_
    (by decide)
  · simp
  · rw [toList_braces]
    exact stops_cons.2 (by decide)

/-- Braces that are stuck are left over. -/
theorem parse_stuck {t : String} (ht : IsStuck t) :
    Query.parse ("sum(foo)" ++ ("\x7b" ++ t ++ "\x7d")) =
      .error (.badSyntax (.after .trailing "sum(foo)".toList)) := by
  have hgroup : groupBy ('\x7b' :: (t.toList ++ ['\x7d'])) = none :=
    groupBy_eq_none (head?_trimStart_ne (by decide) (by decide) _)
  obtain ⟨ref, -, hcall⟩ := call_foo (t.toList ++ ['\x7d'])
  have he := expression_call isCallName_sum hcall hgroup (optionalBraces_stuck ht _) hgroup
    (by
      simp only [List.forall_mem_cons, List.not_mem_nil, false_imp_iff, implies_true, and_true]
      exact ⟨head?_trimStart_ne (by decide) (by decide) _,
        head?_trimStart_ne (by decide) (by decide) _, head?_trimStart_ne (by decide) (by decide) _,
        head?_trimStart_ne (by decide) (by decide) _⟩)
  have hleft : LeftOver (Text.trim ("sum(foo)" ++ ("\x7b" ++ t ++ "\x7d")).toList)
      "sum(foo)".toList [] ('\x7b' :: (t.toList ++ ['\x7d'])) := by
    rw [trim_braces, toList_braces]
    exact ⟨rfl, ⟨_, he⟩, by simp, '\x7b', rfl, by decide⟩
  unfold Query.parse MetricQuery.parse
  rw [hleft.parseTrimmed_eq, List.append_nil]

end Query

/-- **Which filters of a series come back.**  What is written of a sum over a valid filter cannot be
read, from its braces on, if there is a list without items in the filter; otherwise it is read as the
sum over the filter with arrays in place of tuples.  So the filter comes back as it was if and only if
every list in it is an array that is not empty. -/
theorem Filter.parse_print_summed {f : Filter} (hvalid : f.validate = .ok ()) {text : String}
    (hprint : (Query.summed f).print = .ok text) :
    ((∃ c ∈ f.conditions, c.HasEmptyList) →
      Query.parse text = .error (.badSyntax (.after .trailing "sum(foo)".toList))) ∧
    ((∀ c ∈ f.conditions, ¬ c.HasEmptyList) → Query.parse text = .ok (.summed f.listed)) ∧
    ((∃ q, Query.parse text = .ok q ∧ q.filters = some [f]) ↔
      ∀ c ∈ f.conditions, ¬ c.HasEmptyList ∧ ¬ c.HasTuple) := by
  obtain ⟨t, ht, rfl⟩ := Query.print_summed.1 hprint
  rcases listed_or_stuck hvalid ht with hlisted | hunlisted
  · have hparse : Query.parse ("sum(foo)" ++ ("\x7b" ++ t ++ "\x7d")) =
        .ok (.summed f.listed) :=
      Query.parse_summed hlisted.normal (Query.print_summed.2 ⟨t, hlisted.print_eq, rfl⟩)
    refine ⟨fun ⟨c, hc, hempty⟩ => absurd hempty (hlisted.filled c hc), fun _ => hparse, ?_⟩
    rw [hparse]
    constructor
    · rintro ⟨q, hq, hfilters⟩ c hc
      cases hq
      have hsame : f.listed = f := by
        simpa [Query.summed, Query.filters] using hfilters
      exact ⟨hlisted.filled c hc, listed_eq_self_iff.1 hsame c hc⟩
    · intro h
      exact ⟨_, rfl, by rw [listed_eq_self_iff.2 fun c hc => (h c hc).2]; rfl⟩
  · have hparse := Query.parse_stuck hunlisted.stuck
    obtain ⟨c, hc, hempty⟩ := hunlisted.empty
    refine ⟨fun _ => hparse, fun h => absurd hempty (h c hc), ?_⟩
    constructor
    · rintro ⟨q, hq, -⟩
      rw [hparse] at hq
      cases hq
    · exact fun h => absurd hempty (h c hc).1

/-- A tuple of two, or no list at all. -/
theorem Filter.parse_print_summed_pair :
    let f : Filter := .group .or
      [.condition (.ofColumn "k" .isIn (.tuple [.string "a", .string "b"])),
       .condition (.ofColumn "l" .notIn (.array []))]
    f.validate = .ok () ∧
    (Query.summed f).print = .ok "sum(foo)\x7b(k:[\"a\", \"b\"] OR !l:[])\x7d" ∧
    ((∃ q, Query.parse "sum(foo)\x7b(k:[\"a\", \"b\"] OR !l:[])\x7d" = .ok q ∧
        q.filters = some [f]) ↔
      ∀ c ∈ f.conditions, ¬ c.HasEmptyList ∧ ¬ c.HasTuple) := by
  intro f
  have hvalid : f.validate = .ok () := by decide +kernel
  have hprint : (Query.summed f).print = .ok "sum(foo)\x7b(k:[\"a\", \"b\"] OR !l:[])\x7d" :=
    eq_ok_of_toOption (by decide +kernel)
  exact ⟨hvalid, hprint, (Filter.parse_print_summed hvalid hprint).2.2⟩

end MetricQuery
