import MetricQuery.Proofs.CollapseMeaning
import MetricQuery.Proofs.Outcome

/-!
# Filters mean what is written

A filter as it is written says something about the tags of a row: alternatives of lists of factors,
with an exclamation mark for negation.  The filter that it is reduced to says the same, though lists
of one are unwrapped, and has a group for every other list.

* `Tags`                          : the tags of a row, and what patterns match;
* `Surface.TagFactor.holds`       : the truth of what is written;
* `Interpretation.ofTags`         : the meaning of conditions on tags;
* `Filter.skeleton`               : the groups of a filter, each with the number of its members;
* `Surface.TagFactor.induction`   : induction over what is written;
* `Surface.TagFilter.reduce_means` : reducing keeps truth, and groups are as long as lists were.
-/

set_option autoImplicit false

namespace MetricQuery

open Outcome

/-! ## Truth -/

/-- The text of every tag of a row, and which texts a pattern matches. -/
structure Tags where
  text : String → String
  likes : (pattern text : String) → Prop

/-- The meaning of conditions on the tags of a row.  Each negated operator says the contrary of the
operator that it negates; nothing else is true. -/
def Interpretation.ofTags (tags : Tags) : Interpretation where
  holds
    | ⟨.column c, .eq, some (.literal v)⟩ => v = .string (tags.text c.name)
    | ⟨.column c, .neq, some (.literal v)⟩ => ¬ v = .string (tags.text c.name)
    | ⟨.column c, .isIn, some (.literal (.array values))⟩ => .string (tags.text c.name) ∈ values
    | ⟨.column c, .notIn, some (.literal (.array values))⟩ => ¬ .string (tags.text c.name) ∈ values
    | ⟨.column c, .like, some (.literal (.string p))⟩ => tags.likes p (tags.text c.name)
    | ⟨.column c, .notLike, some (.literal (.string p))⟩ => ¬ tags.likes p (tags.text c.name)
    | _ => False
  holds_same {lhs lhs'} op rhs h := by
    cases lhs <;> cases lhs' <;> simp [Expr.same] at h
    · rw [h]
    · rfl
    · rfl
  holds_isIn lhs values := by
    cases lhs <;> simp

namespace Surface

/-- Whether a text is what a tag is compared with.  A variable is not compared with anything. -/
def TagValue.holds (tags : Tags) (text : String) : TagValue → Prop
  | .string s => text = s
  | .list items => text ∈ items
  | .wildcard pattern => tags.likes pattern text
  | .variable _ => False

mutual

/-- The truth of a factor: an exclamation mark negates its condition. -/
def TagFactor.holds (tags : Tags) : TagFactor → Prop
  | .condition false (.name k) value => value.holds tags (tags.text k)
  | .condition true (.name k) value => ¬ value.holds tags (tags.text k)
  | .condition _ (.variable _) _ => False
  | .nested terms => someTermHolds tags terms

/-- Whether all factors of a term are true. -/
def allFactorsHold (tags : Tags) : List TagFactor → Prop
  | [] => True
  | factor :: rest => factor.holds tags ∧ allFactorsHold tags rest

/-- Whether some term of a filter is true. -/
def someTermHolds (tags : Tags) : List (List TagFactor) → Prop
  | [] => False
  | term :: rest => allFactorsHold tags term ∨ someTermHolds tags rest

end

/-- The truth of a filter: one of its terms is true, and with it all factors of that. -/
def TagFilter.holds (tags : Tags) (terms : TagFilter) : Prop := someTermHolds tags terms

end Surface

/-! ## Groups -/

mutual

/-- The nodes of a filter, each in front of what is below it: the connective of a group and the
number of its members, or nothing for a condition. -/
def Filter.skeleton : Filter → List (Option (Connective × Nat))
  | .condition _ => [none]
  | .group op members => some (op, members.length) :: Filter.skeletonAll members

/-- The nodes of filters, one filter after the other. -/
def Filter.skeletonAll : List Filter → List (Option (Connective × Nat))
  | [] => []
  | f :: rest => f.skeleton ++ Filter.skeletonAll rest

end

namespace Surface

/-- What a list of so many items is over the nodes below it: a list of one is nothing by itself. -/
def listNode (op : Connective) (count : Nat) (below : List (Option (Connective × Nat))) :
    List (Option (Connective × Nat)) :=
  if count = 1 then below else some (op, count) :: below

mutual

/-- The lists that are written in a factor, each in front of what is in it. -/
def TagFactor.skeleton : TagFactor → List (Option (Connective × Nat))
  | .condition .. => [none]
  | .nested terms => listNode .or terms.length (termsSkeleton terms)

/-- The lists that are written in factors. -/
def factorsSkeleton : List TagFactor → List (Option (Connective × Nat))
  | [] => []
  | factor :: rest => factor.skeleton ++ factorsSkeleton rest

/-- The lists that are written in terms, each of which is a list of factors. -/
def termsSkeleton : List (List TagFactor) → List (Option (Connective × Nat))
  | [] => []
  | term :: rest => listNode .and term.length (factorsSkeleton term) ++ termsSkeleton rest

end

/-- The lists that are written in a filter, which is itself a list of terms. -/
def TagFilter.skeleton (terms : TagFilter) : List (Option (Connective × Nat)) :=
  listNode .or terms.length (termsSkeleton terms)

/-- No list in the factor is empty. -/
inductive TagFactor.IsFilled : TagFactor → Prop
  | condition (negated : Bool) (key : TagKey) (value : TagValue) :
      IsFilled (.condition negated key value)
  | nested {terms : List (List TagFactor)} (hne : terms ≠ []) (hterms : ∀ term ∈ terms, term ≠ [])
      (hfactors : ∀ term ∈ terms, ∀ factor ∈ term, factor.IsFilled) : IsFilled (.nested terms)

/-- No list in the filter is empty. -/
def TagFilter.IsFilled (terms : TagFilter) : Prop := TagFactor.IsFilled (.nested terms)

/-- Induction over factors: parentheses have what all factors in them have. -/
theorem TagFactor.induction {motive : TagFactor → Prop}
    (condition : ∀ negated key value, motive (.condition negated key value))
    (nested : ∀ terms, (∀ term ∈ terms, ∀ factor ∈ term, motive factor) → motive (.nested terms))
    (factor : TagFactor) : motive factor := by
  match factor with
  | .condition negated key value => exact condition negated key value
  | .nested terms =>
    refine nested terms fun term hterm factor hfactor => ?_
    have := List.sizeOf_lt_of_mem hterm
    have := List.sizeOf_lt_of_mem hfactor
    exact induction condition nested factor
termination_by sizeOf factor
decreasing_by
  simp_wf
  omega

end Surface

open Surface

/-! ## Truth is kept -/

section

variable {tags : Tags}

theorem allFactorsHold_iff {factors : List TagFactor} :
    allFactorsHold tags factors ↔ ∀ factor ∈ factors, factor.holds tags := by
  induction factors with
  | nil => simp [allFactorsHold]
  | cons factor factors ih => simp [allFactorsHold, ih]

theorem someTermHolds_iff {terms : List TagTerm} :
    someTermHolds tags terms ↔ ∃ term ∈ terms, ∀ factor ∈ term, factor.holds tags := by
  induction terms with
  | nil => simp [someTermHolds]
  | cons term terms ih => simp [someTermHolds, allFactorsHold_iff, ih]

/-- Unwrapping one member does not matter to a conjunction. -/
theorem holds_joined_and (I : Interpretation) (fs : List Filter) :
    (joined .and fs).holds I ↔ ∀ f ∈ fs, f.holds I := by
  match fs with
  | [] => rw [joined, Filter.holds, Filter.allHold_iff]; simp
  | [f] => simp [joined]
  | f :: g :: rest => rw [joined, Filter.holds, Filter.allHold_iff]; simp

/-- Nor does it to a disjunction. -/
theorem holds_joined_or (I : Interpretation) (fs : List Filter) :
    (joined .or fs).holds I ↔ ∃ f ∈ fs, f.holds I := by
  match fs with
  | [] => rw [joined, Filter.holds, Filter.someHolds_iff]; simp
  | [f] => simp [joined]
  | f :: g :: rest => rw [joined, Filter.holds, Filter.someHolds_iff]; simp

/-- Members that match hold together. -/
theorem forall_mem_iff_of_forall₂ {α β : Type} {p : α → Prop} {q : β → Prop} {as : List α}
    {bs : List β} (h : List.Forall₂ (fun a b => q b ↔ p a) as bs) :
    (∀ b ∈ bs, q b) ↔ ∀ a ∈ as, p a := by
  induction h with
  | nil => simp
  | cons hab _ ih => simp [hab, ih]

/-- Where members match, one of them holds if its match does. -/
theorem exists_mem_iff_of_forall₂ {α β : Type} {p : α → Prop} {q : β → Prop} {as : List α}
    {bs : List β} (h : List.Forall₂ (fun a b => q b ↔ p a) as bs) :
    (∃ b ∈ bs, q b) ↔ ∃ a ∈ as, p a := by
  induction h with
  | nil => simp
  | cons hab _ ih => simp [hab, ih]

/-- **A condition means what is written**, negated or not. -/
theorem holds_tagCondition {negated : Bool} {key : TagKey} {value : TagValue} {c : Condition}
    (h : tagCondition negated key value = .ok c) :
    (Interpretation.ofTags tags).holds c ↔ (TagFactor.condition negated key value).holds tags := by
  cases key with
  | «variable» v => cases h
  | name k =>
    obtain ⟨lhs, hlhs, h⟩ := bind_eq_ok.1 h
    obtain ⟨⟨op, rhs⟩, hrhs, h⟩ := bind_eq_ok.1 h
    cases pure_eq_ok.1 h
    obtain ⟨_, -, hlhs⟩ := bind_eq_ok.1 hlhs
    cases pure_eq_ok.1 hlhs
    cases value with
    | «variable» v => cases hrhs
    | wildcard pattern =>
      cases negated <;> cases hrhs <;> exact Iff.rfl
    | string s =>
      cases negated <;> cases hrhs <;>
        simp [Interpretation.ofTags, TagFactor.holds, TagValue.holds, eq_comm]
    | list items =>
      cases negated <;> cases hrhs <;>
        simp [Interpretation.ofTags, TagFactor.holds, TagValue.holds, Literal.ofStrings]

/-- **A factor means what is written.** -/
theorem holds_factor {factor : TagFactor} {f : Filter} (h : factor.reduce = .ok f) :
    f.holds (.ofTags tags) ↔ factor.holds tags := by
  induction factor using TagFactor.induction generalizing f with
  | condition negated key value =>
    rw [TagFactor.reduce] at h
    obtain ⟨c, hc, h⟩ := bind_eq_ok.1 h
    cases pure_eq_ok.1 h
    rw [Filter.holds]
    exact holds_tagCondition hc
  | nested terms ih =>
    rw [TagFactor.reduce, reduceTerms_eq] at h
    obtain ⟨members, hmembers, h⟩ := bind_eq_ok.1 h
    cases pure_eq_ok.1 h
    rw [holds_joined_or, TagFactor.holds, someTermHolds_iff]
    have hterms := (List.forall₂_and_left _ _).2 ⟨ih, mapM_eq_ok.1 hmembers⟩
    refine exists_mem_iff_of_forall₂ (hterms.imp fun term m hterm => ?_)
    -- a term is the conjunction of its factors
    obtain ⟨fs, hfs, hm⟩ := bind_eq_ok.1 hterm.2
    cases pure_eq_ok.1 hm
    rw [reduceFactors_eq] at hfs
    rw [holds_joined_and]
    have hfactors := (List.forall₂_and_left _ _).2 ⟨hterm.1, mapM_eq_ok.1 hfs⟩
    exact forall_mem_iff_of_forall₂ (hfactors.imp fun factor f hfactor => hfactor.1 hfactor.2)

end

/-! ## Groups are lists -/

theorem skeletonAll_eq (fs : List Filter) : Filter.skeletonAll fs = fs.flatMap Filter.skeleton := by
  induction fs with
  | nil => rfl
  | cons f fs ih => rw [Filter.skeletonAll, ih, List.flatMap_cons]

theorem factorsSkeleton_eq (factors : List TagFactor) :
    factorsSkeleton factors = factors.flatMap TagFactor.skeleton := by
  induction factors with
  | nil => rfl
  | cons factor factors ih => rw [factorsSkeleton, ih, List.flatMap_cons]

/-- The lists that are written in a term, which is itself a list of factors. -/
def TagTerm.skeleton (term : TagTerm) : List (Option (Connective × Nat)) :=
  listNode .and term.length (term.flatMap TagFactor.skeleton)

theorem termsSkeleton_eq (terms : List TagTerm) :
    termsSkeleton terms = terms.flatMap TagTerm.skeleton := by
  induction terms with
  | nil => rfl
  | cons term terms ih =>
    rw [termsSkeleton, ih, factorsSkeleton_eq, List.flatMap_cons, TagTerm.skeleton]

/-- Joining makes a group of every list but those of one member. -/
theorem skeleton_joined (op : Connective) (fs : List Filter) :
    (joined op fs).skeleton = listNode op fs.length (fs.flatMap Filter.skeleton) := by
  match fs with
  | [] => rfl
  | [f] => simp [joined, listNode]
  | f :: g :: rest => simp [joined, listNode, Filter.skeleton, skeletonAll_eq]

theorem flatMap_eq_of_forall₂ {α β γ : Type} {f : α → List γ} {g : β → List γ} {as : List α}
    {bs : List β} (h : List.Forall₂ (fun a b => g b = f a) as bs) :
    bs.flatMap g = as.flatMap f := by
  induction h with
  | nil => rfl
  | cons hab _ ih => rw [List.flatMap_cons, List.flatMap_cons, hab, ih]

/-- Lists whose items match one by one are written alike. -/
theorem skeleton_joined_of_forall₂ {α : Type} {op : Connective}
    {skeleton : α → List (Option (Connective × Nat))} {as : List α} {fs : List Filter}
    (h : List.Forall₂ (fun a f => f.skeleton = skeleton a) as fs) :
    (joined op fs).skeleton = listNode op as.length (as.flatMap skeleton) := by
  rw [skeleton_joined, h.length_eq, flatMap_eq_of_forall₂ h]

/-- **The groups of a filter are the lists that are written**, those of one item apart. -/
theorem skeleton_factor {factor : TagFactor} {f : Filter} (h : factor.reduce = .ok f) :
    f.skeleton = factor.skeleton := by
  induction factor using TagFactor.induction generalizing f with
  | condition negated key value =>
    rw [TagFactor.reduce] at h
    obtain ⟨c, -, h⟩ := bind_eq_ok.1 h
    cases pure_eq_ok.1 h
    rfl
  | nested terms ih =>
    rw [TagFactor.reduce, reduceTerms_eq] at h
    obtain ⟨members, hmembers, h⟩ := bind_eq_ok.1 h
    cases pure_eq_ok.1 h
    have hterms := (List.forall₂_and_left _ _).2 ⟨ih, mapM_eq_ok.1 hmembers⟩
    rw [TagFactor.skeleton, termsSkeleton_eq]
    refine skeleton_joined_of_forall₂ (hterms.imp fun term m hterm => ?_)
    obtain ⟨fs, hfs, hm⟩ := bind_eq_ok.1 hterm.2
    cases pure_eq_ok.1 hm
    rw [reduceFactors_eq] at hfs
    have hfactors := (List.forall₂_and_left _ _).2 ⟨hterm.1, mapM_eq_ok.1 hfs⟩
    exact skeleton_joined_of_forall₂ (hfactors.imp fun factor f hfactor => hfactor.1 hfactor.2)

theorem two_le_of_mem_listNode {op op' : Connective} {count n : Nat}
    {below : List (Option (Connective × Nat))} (hcount : count ≠ 0)
    (hbelow : some (op', n) ∈ below → 2 ≤ n) (h : some (op', n) ∈ listNode op count below) :
    2 ≤ n := by
  unfold listNode at h
  split at h
  · exact hbelow h
  · rcases List.mem_cons.1 h with h | h
    · cases h
      omega
    · exact hbelow h

/-- Where no list is empty, every list that is not unwrapped has two items and more. -/
theorem two_le_of_mem_skeleton {factor : TagFactor} (h : factor.IsFilled) {op : Connective}
    {n : Nat} (hn : some (op, n) ∈ factor.skeleton) : 2 ≤ n := by
  induction h with
  | condition negated key value => simp [TagFactor.skeleton] at hn
  | @nested terms hne hterms hfactors ih =>
    rw [TagFactor.skeleton, termsSkeleton_eq] at hn
    refine two_le_of_mem_listNode (by simpa using hne) (fun hn => ?_) hn
    obtain ⟨term, hterm, hn⟩ := List.mem_flatMap.1 hn
    refine two_le_of_mem_listNode (by simpa using hterms term hterm) (fun hn => ?_) hn
    obtain ⟨factor, hfactor, hn⟩ := List.mem_flatMap.1 hn
    exact ih term hterm factor hfactor hn

namespace Surface

/-- **A filter means what is written, and has its groups.**  It is true of a row exactly if what is
written is, whatever the tags of the row are and whatever patterns match.  Its groups are the lists
that are written, in their order and with as many members, those of one item apart; so there is none
with less than two members, if no list is empty. -/
theorem TagFilter.reduce_means {terms : TagFilter} {f : Filter}
    (h : TagFilter.reduce terms = .ok f) :
    (∀ tags : Tags, f.holds (.ofTags tags) ↔ TagFilter.holds tags terms) ∧
      f.skeleton = TagFilter.skeleton terms ∧
      (TagFilter.IsFilled terms → ∀ op n, some (op, n) ∈ f.skeleton → 2 ≤ n) := by
  have hfactor : (TagFactor.nested terms).reduce = .ok f := by
    rw [TagFactor.reduce]
    exact h
  have hskeleton := skeleton_factor hfactor
  refine ⟨fun tags => (holds_factor hfactor).trans ?_, hskeleton.trans ?_, fun hfilled op n hn => ?_⟩
  · rw [TagFactor.holds, TagFilter.holds]
  · rw [TagFactor.skeleton, TagFilter.skeleton]
  · exact two_le_of_mem_skeleton hfilled (hskeleton ▸ hn)

/-- A negated equality, and a pattern or a list in parentheses behind it. -/
theorem TagFilter.reduce_means_nested :
    let terms : TagFilter := [[.condition true (.name "a") (.string "x"),
      .nested [[.condition false (.name "b") (.wildcard "y*")],
        [.condition false (.name "c") (.list ["u", "v"])]]]]
    let f : Filter := .group .and [.condition (.ofColumn "a" .neq (.string "x")),
      .group .or [.condition (.ofColumn "b" .like (.string "y*")),
        .condition (.ofColumn "c" .isIn (.ofStrings ["u", "v"]))]]
    TagFilter.reduce terms = .ok f ∧ TagFilter.IsFilled terms ∧
      f.skeleton = [some (.and, 2), none, some (.or, 2), none, none] ∧
      (∀ tags : Tags, f.holds (.ofTags tags) ↔ TagFilter.holds tags terms) ∧
      f.skeleton = TagFilter.skeleton terms ∧ ∀ op n, some (op, n) ∈ f.skeleton → 2 ≤ n := by
  intro terms f
  have hf : TagFilter.reduce terms = .ok f := rfl
  have hfilled : TagFilter.IsFilled terms := by
    refine .nested (by simp [terms]) (by simp [terms]) ?_
    simp only [terms, List.forall_mem_cons, List.not_mem_nil, false_imp_iff, implies_true, and_true]
    refine ⟨.condition .., .nested (by simp) (by simp) ?_⟩
    simp only [List.forall_mem_cons, List.not_mem_nil, false_imp_iff, implies_true, and_true]
    exact ⟨.condition .., .condition ..⟩
  obtain ⟨hmeans, hskeleton, hlong⟩ := TagFilter.reduce_means hf
  exact ⟨hf, hfilled, rfl, hmeans, hskeleton, hlong hfilled⟩

end Surface

end MetricQuery
