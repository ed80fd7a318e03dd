import MetricQuery.Proofs.FilterText

/-!
# Values of tags

A text is written as a value, with escapes, or as a pattern, without them; several texts are written
as a list.  The grammar looks for a pattern between the quotes first, while escapes still stand there,
so that an escaped text must not have the form of a pattern unless the text itself has.

* `Surface.TagValue.ReadsFrom`         : a text from which a value is read, whatever stands behind it;
* `Literal.exactValue_or_wildcardValue` : a text is written in one of the two ways, and in one only;
* `Literal.tagValues_return`           : whichever way it is, the text is read as it was.
-/

set_option autoImplicit false

namespace MetricQuery

open Grammar Surface

/-- The value is read from the front of every text that starts with `text`, and no more is read. -/
def Surface.TagValue.ReadsFrom (v : TagValue) (text : String) : Prop :=
  ∀ r, tagValue (text.toList ++ r) = some (v, r)

namespace Literal

/-- **A text is a value or a pattern**: the printer writes it in one of the two ways, and refuses it
in the other. -/
theorem exactValue_or_wildcardValue (s : String) :
    isPrefixPattern s.toList = false ∧ (string s).exactValue = .ok (Text.quote s) ∧
        (string s).wildcardValue = .error (.otherPattern s) ∨
      isPrefixPattern s.toList = true ∧ (string s).wildcardValue = .ok ("\"" ++ s ++ "\"") ∧
        (string s).exactValue = .error (.exactWildcard s) := by
  have htext : (string s).tagString = .ok s := rfl
  cases h : isPrefixPattern s.toList with
  | false =>
    refine .inl ⟨rfl, exactValue_string h, ?_⟩
    rw [wildcardValue, Outcome.bind_of_ok _ htext, h, if_neg Bool.false_ne_true]
  | true =>
    refine .inr ⟨rfl, wildcardValue_string h, ?_⟩
    rw [exactValue, Outcome.bind_of_ok _ htext, h, if_pos rfl]

/-- Arrays and tuples are written alike. -/
theorem tagList_of_items {items : List String} {value : Literal}
    (h : value = ofStrings items ∨ value = tuple (items.map string)) :
    value.tagList = .ok ("[" ++ Text.join ", " (items.map Text.quote) ++ "]") := by
  rcases h with rfl | rfl
  · exact tagList_ofStrings items
  · exact Outcome.bind_of_ok _ (tagStrings_ofStrings items)

/-- **Values of tags come back.**  Every text is written either as a value or as a pattern, refused
the other way, and read back as what it was written as, up to the end of what was written.  So are
several texts that are written as a list. -/
theorem tagValues_return :
    (∀ s : String,
      (∃ text, (string s).exactValue = .ok text ∧ (TagValue.string s).ReadsFrom text) ∧
          (string s).wildcardValue = .error (.otherPattern s) ∨
        (∃ text, (string s).wildcardValue = .ok text ∧ (TagValue.wildcard s).ReadsFrom text) ∧
          (string s).exactValue = .error (.exactWildcard s)) ∧
    ∀ items : List String, items ≠ [] →
      ∀ value, value = ofStrings items ∨ value = tuple (items.map string) →
        ∃ text, value.tagList = .ok text ∧ (TagValue.list items).ReadsFrom text := by
  constructor
  · intro s
    rcases exactValue_or_wildcardValue s with ⟨hplain, hexact, hrefused⟩ | ⟨hpattern, hwild, hrefused⟩
    · exact .inl ⟨⟨_, hexact, tagValue_quote hplain⟩, hrefused⟩
    · exact .inr ⟨⟨_, hwild, tagValue_pattern hpattern⟩, hrefused⟩
  · intro items hne value hvalue
    exact ⟨_, tagList_of_items hvalue, tagValue_list hne⟩

/-- A star behind a quote and a backslash, a backslash alone and nothing. -/
theorem tagValues_return_escapes :
    let items := ["a\"\\*", "\\", ""]
    items ≠ [] ∧ ∃ text, (tuple (items.map string)).tagList = .ok text ∧
      (TagValue.list items).ReadsFrom text :=
  ⟨by decide, tagValues_return.2 _ (by decide) _ (.inr rfl)⟩

end Literal

end MetricQuery
