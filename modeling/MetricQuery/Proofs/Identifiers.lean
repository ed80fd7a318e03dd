import MetricQuery.Grammar.Token
import MetricQuery.Proofs.Normal

/-!
# Resource identifiers

The shape `type:namespace/name@unit` is asked for in three places: by the check of a metric, of a
whole text, and by the grammar, of the front of a text, bare or between back quotes.  Each place has
classes of characters of its own.  All of them cut a text at the same characters, since no segment but
the last holds the one that ends it, so that they differ in nothing but what they let through.

* `Mri.IsCut`, `Mri.HasSegments`  : four segments, and the texts that can be cut into them;
* `Mri.segments_eq_some_iff`      : what is read with any four classes;
* `Mri.isShaped_iff`, `Grammar.quotedMri_eq_some_iff`, `Grammar.bareMri_eq_some_iff` : what each of
  the three places asks;
* `Grammar.metric_eq_mri_iff`     : when a metric is read as a resource identifier;
* `Grammar.identifiers_agree`     : what passes the check is read, and what is read passes the check.
-/

set_option autoImplicit false

namespace MetricQuery

open Scanner

/-! ## Cutting a text into segments -/

namespace Mri

/-- Four segments that are not empty, of which the first three do not hold the character that stands
behind them. -/
structure IsCut (a b c d : List Char) : Prop where
  kind : a ≠ [] ∧ ':' ∉ a
  space : b ≠ [] ∧ '/' ∉ b
  name : c ≠ [] ∧ '@' ∉ c
  unit : d ≠ []

/-- A text that can be cut into four segments, whatever is in them. -/
def HasSegments (m : List Char) : Prop :=
  ∃ a b c d, m = a ++ ':' :: (b ++ '/' :: (c ++ '@' :: d)) ∧ IsCut a b c d

/-- The part of a resource identifier behind the at-sign that ends the name segment. -/
def unitSegment (s : List Char) : List Char :=
  ((((s.dropWhile (· != ':')).dropWhile (· != '/')).drop 1).dropWhile (· != '@')).drop 1

section

variable {a b c d m r s : List Char}

theorem HasSegments.ne_nil (h : HasSegments m) : m ≠ [] := by
  obtain ⟨a, b, c, d, rfl, -⟩ := h
  simp

/-- The first of each delimiter is the one at which the text is cut. -/
theorem IsCut.behind_slash (h : IsCut a b c d) :
    ((a ++ ':' :: (b ++ '/' :: (c ++ '@' :: d))).dropWhile (· != ':')).dropWhile (· != '/') =
      '/' :: (c ++ '@' :: d) := by
  have hcolon : (a ++ ':' :: (b ++ '/' :: (c ++ '@' :: d))).dropWhile (· != ':') =
      ':' :: (b ++ '/' :: (c ++ '@' :: d)) :=
    dropWhile_append_of_stops (by simpa using List.forall_mem_ne'.2 h.kind.2) (by simp)
  rw [hcolon]
  exact dropWhile_append_of_stops (w := ':' :: b)
    (by simpa using List.forall_mem_ne'.2 h.space.2) (by simp)

theorem IsCut.nameSegment_eq (h : IsCut a b c d) :
    nameSegment (a ++ ':' :: (b ++ '/' :: (c ++ '@' :: d))) = c := by
  rw [nameSegment, h.behind_slash, List.drop_one, List.tail_cons]
  exact takeWhile_append_of_stops (by simpa using List.forall_mem_ne'.2 h.name.2) (by simp)

theorem IsCut.unitSegment_eq (h : IsCut a b c d) :
    unitSegment (a ++ ':' :: (b ++ '/' :: (c ++ '@' :: d))) = d := by
  have hat : (c ++ '@' :: d).dropWhile (· != '@') = '@' :: d :=
    dropWhile_append_of_stops (by simpa using List.forall_mem_ne'.2 h.name.2) (by simp)
  simp only [unitSegment, h.behind_slash, List.drop_one, List.tail_cons, hat]

theorem nameSegment_subset (s : List Char) : nameSegment s ⊆ s := fun _ hx =>
  (List.dropWhile_sublist _).subset ((List.dropWhile_sublist _).subset
    (List.mem_of_mem_drop ((List.takeWhile_sublist _).subset hx)))

theorem unitSegment_subset (s : List Char) : unitSegment s ⊆ s := fun _ hx =>
  (List.dropWhile_sublist _).subset ((List.dropWhile_sublist _).subset
    (List.mem_of_mem_drop ((List.dropWhile_sublist _).subset (List.mem_of_mem_drop hx))))

/-- What is read of a resource identifier, segment by segment. -/
theorem segments_eq_some {kind space name unit : Char → Bool}
    (h : segments kind space name unit s = some (m, r)) :
    ∃ a b c d, s = m ++ r ∧ m = a ++ ':' :: (b ++ '/' :: (c ++ '@' :: d)) ∧
      (a ≠ [] ∧ ∀ x ∈ a, kind x = true) ∧ (b ≠ [] ∧ ∀ x ∈ b, space x = true) ∧
      (c ≠ [] ∧ ∀ x ∈ c, name x = true) ∧ (d ≠ [] ∧ ∀ x ∈ d, unit x = true) ∧
      Stops unit r := by
  obtain ⟨a, s1, ha, h⟩ := bind_eq_some_iff.1 h
  obtain ⟨_, s2, hcolon, h⟩ := bind_eq_some_iff.1 h
  obtain ⟨b, s3, hb, h⟩ := bind_eq_some_iff.1 h
  obtain ⟨_, s4, hslash, h⟩ := bind_eq_some_iff.1 h
  obtain ⟨c, s5, hc, h⟩ := bind_eq_some_iff.1 h
  obtain ⟨_, s6, hat, h⟩ := bind_eq_some_iff.1 h
  obtain ⟨d, s7, hd, h⟩ := bind_eq_some_iff.1 h
  cases h
  rw [takeSome_eq_some_iff] at ha hb hc hd
  rw [char_eq_some_iff] at hcolon hslash hat
  obtain ⟨rfl, ha, ha', -⟩ := ha
  obtain ⟨rfl, hb, hb', -⟩ := hb
  obtain ⟨rfl, hc, hc', -⟩ := hc
  obtain ⟨rfl, hd, hd', hr⟩ := hd
  subst hcolon hslash hat
  exact ⟨a, b, c, d, by simp, by simp, ⟨ha, ha'⟩, ⟨hb, hb'⟩, ⟨hc, hc'⟩, ⟨hd, hd'⟩, hr⟩

/-- Segments are read one after the other. -/
theorem segments_append {kind space name unit : Char → Bool}
    (hcolon : kind ':' = false) (hslash : space '/' = false) (hat : name '@' = false)
    (ha : a ≠ [] ∧ ∀ x ∈ a, kind x = true) (hb : b ≠ [] ∧ ∀ x ∈ b, space x = true)
    (hc : c ≠ [] ∧ ∀ x ∈ c, name x = true) (hd : d ≠ [] ∧ ∀ x ∈ d, unit x = true)
    (hr : Stops unit r) :
    segments kind space name unit (a ++ ':' :: (b ++ '/' :: (c ++ '@' :: d)) ++ r) =
      some (a ++ ':' :: (b ++ '/' :: (c ++ '@' :: d)), r) := by
  simp only [List.append_assoc, List.cons_append]
  unfold segments
  rw [bind_of_some _ (takeSome_of_stops ha.1 ha.2 (by simpa using hcolon)),
    bind_of_some _ (char_cons_self _ _),
    bind_of_some _ (takeSome_of_stops hb.1 hb.2 (by simpa using hslash)),
    bind_of_some _ (char_cons_self _ _),
    bind_of_some _ (takeSome_of_stops hc.1 hc.2 (by simpa using hat)),
    bind_of_some _ (char_cons_self _ _),
    bind_of_some _ (takeSome_of_stops hd.1 hd.2 hr), pure_apply]
  simp

/-- **What is read with four classes.**  Each of the first three leaves out the character that ends
its segment; `p` says of a whole text that its segments are of their classes. -/
theorem segments_eq_some_iff {kind space name unit : Char → Bool} {p : List Char → Prop}
    (hcolon : kind ':' = false) (hslash : space '/' = false) (hat : name '@' = false)
    (hp : ∀ a b c d, IsCut a b c d →
      (p (a ++ ':' :: (b ++ '/' :: (c ++ '@' :: d))) ↔ (∀ x ∈ a, kind x = true) ∧
        (∀ x ∈ b, space x = true) ∧ (∀ x ∈ c, name x = true) ∧ ∀ x ∈ d, unit x = true)) :
    segments kind space name unit s = some (m, r) ↔
      s = m ++ r ∧ HasSegments m ∧ p m ∧ Stops unit r := by
  constructor
  · intro h
    obtain ⟨a, b, c, d, hs, hm, ⟨hane, ha⟩, ⟨hbne, hb⟩, ⟨hcne, hc⟩, ⟨hdne, hd⟩, hr⟩ :=
      segments_eq_some h
    have hcut : IsCut a b c d :=
      ⟨⟨hane, fun hmem => Grammar.ne_of_class (ha _ hmem) hcolon rfl⟩,
        ⟨hbne, fun hmem => Grammar.ne_of_class (hb _ hmem) hslash rfl⟩,
        ⟨hcne, fun hmem => Grammar.ne_of_class (hc _ hmem) hat rfl⟩, hdne⟩
    exact ⟨hs, ⟨a, b, c, d, hm, hcut⟩, hm ▸ (hp a b c d hcut).2 ⟨ha, hb, hc, hd⟩, hr⟩
  · rintro ⟨rfl, ⟨a, b, c, d, rfl, hcut⟩, hclasses, hr⟩
    obtain ⟨ha, hb, hc, hd⟩ := (hp a b c d hcut).1 hclasses
    exact segments_append hcolon hslash hat ⟨hcut.kind.1, ha⟩ ⟨hcut.space.1, hb⟩
      ⟨hcut.name.1, hc⟩ ⟨hcut.unit, hd⟩ hr

/-- **The check asks for four segments, with no line break in the last.** -/
theorem isShaped_iff : isShaped s = true ↔ HasSegments s ∧ '\n' ∉ unitSegment s := by
  have hread : ∀ m r, segments (· != ':') (· != '/') (· != '@') (· != '\n') s = some (m, r) ↔
      s = m ++ r ∧ HasSegments m ∧ '\n' ∉ unitSegment m ∧ Stops (· != '\n') r := by
    intro m r
    refine segments_eq_some_iff (p := fun m => '\n' ∉ unitSegment m)
      (by decide) (by decide) (by decide) fun a b c d hcut => ?_
    rw [hcut.unitSegment_eq]
    simp only [bne_iff_ne, ne_eq, List.forall_mem_ne', hcut.kind.2, hcut.space.2, hcut.name.2,
      not_false_eq_true, true_and]
  have hnil : Stops (· != '\n') [] := by simp
  unfold isShaped whole?
  constructor
  · intro h
    split at h
    · rename_i m hm
      obtain ⟨hs, hsegments, hbreak, -⟩ := (hread m []).1 hm
      rw [hs, List.append_nil]
      exact ⟨hsegments, hbreak⟩
    · cases h
  · rintro ⟨hsegments, hbreak⟩
    rw [(hread s []).2 ⟨by simp, hsegments, hbreak, hnil⟩]
    rfl

end

end Mri

namespace Grammar

open Surface

variable {m r s : List Char}

/-! ## The grammar -/

/-- **Between back quotes four segments are read up to a back quote**, with no comma in the name
segment. -/
theorem quotedMri_eq_some_iff :
    quotedMri s = some (m, r) ↔
      s = m ++ r ∧ Mri.HasSegments m ∧ (backQuote ∉ m ∧ ',' ∉ Mri.nameSegment m) ∧
        Stops (· != backQuote) r := by
  unfold quotedMri
  refine Mri.segments_eq_some_iff (p := fun m => backQuote ∉ m ∧ ',' ∉ Mri.nameSegment m)
    (by decide) (by decide) (by decide) fun a b c d hcut => ?_
  have hcolon := hcut.kind.2
  have hslash := hcut.space.2
  have hat := hcut.name.2
  have hdelimiters : backQuote ≠ ':' ∧ backQuote ≠ '/' ∧ backQuote ≠ '@' := by decide
  rw [hcut.nameSegment_eq]
  simp only [List.mem_append, List.mem_cons, not_or, Bool.and_eq_true, bne_iff_ne, ne_eq,
    forall₂_and, List.forall_mem_ne'] at hdelimiters ⊢
  tauto

/-- **A bare identifier is of four segments, and goes on as long as it can.** -/
theorem bareMri_eq_some_iff :
    bareMri s = some (m, r) ↔
      s = m ++ r ∧ Mri.HasSegments m ∧ isBareMri m = true ∧ Stops isMriChar r := by
  unfold bareMri
  refine Mri.segments_eq_some_iff (p := fun m => isBareMri m = true)
    (by decide) (by decide) (by decide) fun a b c d hcut => ?_
  have hcolon := hcut.kind.2
  have hslash := hcut.space.2
  have hat := hcut.name.2
  have hdelimiters : isMriChar ':' = true ∧ isMriChar '/' = true ∧ isMriChar '@' = true := by decide
  rw [isBareMri, List.all_eq_true]
  simp only [List.forall_mem_append, List.forall_mem_cons, Bool.and_eq_true, bne_iff_ne, ne_eq,
    forall₂_and, List.forall_mem_ne']
  tauto

theorem not_mem_of_isBareMri {x : Char} (h : isBareMri m = true) (hx : isMriChar x = false) :
    x ∉ m :=
  fun hmem => ne_of_class (List.all_eq_true.1 h x hmem) hx rfl

/-- What is read as a resource identifier is its text. -/
theorem mri_eq_some_iff {p : Scanner (List Char)} {mri : String} :
    (do let cs ← p; pure (.mri (String.ofList cs)) : Scanner MetricRef) s = some (.mri mri, r) ↔
      p s = some (mri.toList, r) := by
  rw [bind_eq_some_iff]
  constructor
  · rintro ⟨cs, t, hread, h⟩
    cases h
    rw [hread, String.toList_ofList]
  · intro h
    exact ⟨mri.toList, r, h, by rw [String.ofList_toList, pure_apply]⟩

/-- Names are read as names only. -/
theorem publicName_ne_mri {p : Scanner (List Char)} {mri : String} :
    (do let cs ← p; pure (.publicName (String.ofList cs)) : Scanner MetricRef) s ≠
      some (.mri mri, r) := by
  intro h
  obtain ⟨cs, t, -, h⟩ := bind_eq_some_iff.1 h
  cases h

/-- What stands between back quotes is read up to the next of them. -/
theorem backQuoted_quotedMri_iff :
    backQuoted quotedMri s = some (m, r) ↔
      s = backQuote :: (m ++ backQuote :: r) ∧ Mri.HasSegments m ∧ backQuote ∉ m ∧
        ',' ∉ Mri.nameSegment m := by
  constructor
  · intro h
    obtain ⟨_, t, hopen, h⟩ := bind_eq_some_iff.1 h
    obtain ⟨m', u, hread, h⟩ := bind_eq_some_iff.1 h
    obtain ⟨_, v, hclose, h⟩ := bind_eq_some_iff.1 h
    cases h
    obtain ⟨rfl, hsegments, hclasses, -⟩ := quotedMri_eq_some_iff.1 hread
    rw [char_eq_some_iff] at hopen hclose
    exact ⟨by rw [hopen, hclose], hsegments, hclasses⟩
  · rintro ⟨rfl, hsegments, hclasses⟩
    have hread : quotedMri (m ++ backQuote :: r) = some (m, backQuote :: r) :=
      quotedMri_eq_some_iff.2 ⟨rfl, hsegments, hclasses, by simp⟩
    exact between_of_some (char_cons_self _ _) hread (char_cons_self _ _)

/-- **When a metric is read as a resource identifier**: between back quotes, or bare. -/
theorem metric_eq_mri_iff {mri : String} :
    metric s = some (.mri mri, r) ↔
      s = backQuote :: (mri.toList ++ backQuote :: r) ∧ Mri.HasSegments mri.toList ∧
          backQuote ∉ mri.toList ∧ ',' ∉ Mri.nameSegment mri.toList ∨
        s = mri.toList ++ r ∧ Mri.HasSegments mri.toList ∧ isBareMri mri.toList = true ∧
          Stops isMriChar r := by
  rw [← backQuoted_quotedMri_iff, ← bareMri_eq_some_iff]
  unfold metric
  simp only [firstOf_cons_eq_some_iff, mri_eq_some_iff, publicName_ne_mri, firstOf_nil, and_false,
    or_false, reduceCtorEq]
  refine or_congr_right (and_iff_right_of_imp fun hbare => ?_)
  -- a bare identifier does not start with a back quote
  obtain ⟨rfl, hsegments, hall, -⟩ := bareMri_eq_some_iff.1 hbare
  have hhead : (mri.toList ++ r).head? ≠ some backQuote :=
    head?_append_ne hsegments.ne_nil (List.all_eq_true.1 hall) (by decide) r
  exact bind_of_none _ (bind_of_none _ (char_eq_none hhead))

/-- **A resource identifier that can be written reads back**, bare or between back quotes. -/
theorem metric_mriText {mri : String} (h : Mri.IsWritable mri.toList) (hr : Stops isMriChar r) :
    metric ((mriText mri).toList ++ r) = some (.mri mri, r) := by
  have hsegments := (Mri.isShaped_iff.1 h.shaped).1
  rw [metric_eq_mri_iff, mriText]
  split
  · rename_i hbare
    exact .inr ⟨rfl, hsegments, hbare, hr⟩
  · exact .inl ⟨by simp [backQuote], hsegments, h.noBackQuote, h.noComma⟩

end Grammar

/-! ## Check and grammar -/

theorem Metric.validate_ofMri_iff {mri : String} :
    (Metric.ofMri mri).validate = .ok () ↔
      Mri.HasSegments mri.toList ∧ '\n' ∉ Mri.unitSegment mri.toList :=
  validate_ofMri.trans Mri.isShaped_iff

namespace Grammar

open Surface

/-- **The check of a resource identifier and its two spellings in the grammar agree.**  An identifier
that passes the check and has neither a back quote nor a comma in its name segment is written, and
what is written is read as it, up to a character that no bare identifier holds; so is it bare, where
its characters allow that, and between back quotes, whatever follows.  The other way round, what is
read as an identifier is bare and passes the check, or stands between back quotes and passes the check
exactly if there is no line break in its unit segment. -/
theorem identifiers_agree (mri : String) :
    ((Metric.ofMri mri).validate = .ok () → backQuote ∉ mri.toList →
      ',' ∉ Mri.nameSegment mri.toList →
        (∃ text, (Metric.ofMri mri).print = .ok text ∧
          ∀ r, Stops isMriChar r → metric (text.toList ++ r) = some (.mri mri, r)) ∧
        (isBareMri mri.toList = true →
          ∀ r, Stops isMriChar r → metric (mri.toList ++ r) = some (.mri mri, r)) ∧
        ∀ r, metric (backQuote :: (mri.toList ++ backQuote :: r)) = some (.mri mri, r)) ∧
    ∀ s r, metric s = some (.mri mri, r) →
      s = mri.toList ++ r ∧ (Metric.ofMri mri).validate = .ok () ∨
        s = backQuote :: (mri.toList ++ backQuote :: r) ∧
          ((Metric.ofMri mri).validate = .ok () ↔ '\n' ∉ Mri.unitSegment mri.toList) := by
  constructor
  · intro hvalid hquote hcomma
    obtain ⟨hsegments, hbreak⟩ := Metric.validate_ofMri_iff.1 hvalid
    have hwritable : Mri.IsWritable mri.toList :=
      ⟨Mri.isShaped_iff.2 ⟨hsegments, hbreak⟩, hquote, hcomma⟩
    exact ⟨⟨mriText mri, rfl, fun r hr => metric_mriText hwritable hr⟩,
      fun hbare r hr => metric_eq_mri_iff.2 (.inr ⟨rfl, hsegments, hbare, hr⟩),
      fun r => metric_eq_mri_iff.2 (.inl ⟨rfl, hsegments, hquote, hcomma⟩)⟩
  · intro s r hread
    rw [Metric.validate_ofMri_iff]
    rcases metric_eq_mri_iff.1 hread with ⟨hs, hsegments, -⟩ | ⟨hs, hsegments, hbare, -⟩
    · exact .inr ⟨hs, and_iff_right hsegments⟩
    · refine .inl ⟨hs, hsegments, fun hbreak => ?_⟩
      exact not_mem_of_isBareMri hbare (by decide) (Mri.unitSegment_subset _ hbreak)

/-- Every delimiter in the segments in which it may stand, and a line break in the unit segment. -/
theorem identifiers_agree_delimiters :
    let mri := "a@b/c:d:e@f/g:h/i@j:k/l@m"
    let broken := "a:b/c@d\ne"
    (Metric.ofMri mri).validate = .ok () ∧
      metric (mri ++ ") + 1").toList = some (.mri mri, ") + 1".toList) ∧
      metric ("\x60" ++ broken ++ "\x60").toList = some (.mri broken, []) ∧
      (Metric.ofMri broken).validate ≠ .ok () := by
  intro mri broken
  have hvalid : (Metric.ofMri mri).validate = .ok () := by decide +kernel
  obtain ⟨-, hbare, -⟩ := (identifiers_agree mri).1 hvalid (by decide) (by decide)
  have hread : metric ("\x60" ++ broken ++ "\x60").toList = some (.mri broken, []) := by
    decide +kernel
  refine ⟨hvalid, ?_, hread, fun hbroken => ?_⟩
  · rw [String.toList_append]
    exact hbare (by decide) _ (stops_cons.2 (by decide))
  · rcases (identifiers_agree broken).2 _ _ hread with ⟨hs, -⟩ | ⟨-, hiff⟩
    · exact absurd hs (by decide)
    · exact hiff.1 hbroken (by decide)

end Grammar

end MetricQuery
