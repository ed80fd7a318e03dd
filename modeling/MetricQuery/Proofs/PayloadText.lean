import MetricQuery.Payload.Json
import MetricQuery.Proofs.JsonLaws

/-!
# Payloads read back

A record is read from the fields of an object by their names, in whatever order they stand, so that
neither the order of writing nor that of the names keeps a payload from being read.  Only a table
shows in which order its bindings were written.  All this holds for every library that does what
libraries are known to do.

* `Table.SameBindings`                     : two tables as maps;
* `JsonLibrary.IsDocumented.record?_moved` : the fields of a record are found in any order;
* `JsonLibrary.IsCode`                     : data of one shape is read back from what is written;
* `Payload.read?_texts`                    : both texts of a payload are read back.
-/

set_option autoImplicit false

namespace MetricQuery

/-! ## Tables -/

namespace Table

variable {β : Type}

/-- The tables bind the same keys to the same values, in whatever order. -/
def SameBindings (t u : Table β) : Prop :=
  ∀ key value, (key, value) ∈ t.entries ↔ (key, value) ∈ u.entries

@[ext] theorem ext {t u : Table β} (h : t.entries = u.entries) : t = u := by
  cases t
  cases u
  cases h
  rfl

end Table

open Json

/-! ## Fields by their names -/

/-- In which order the fields stand does not matter. -/
theorem lookup_of_perm {fields fields' : List (String × Json)} (hperm : fields.Perm fields')
    (h : (fields'.map Prod.fst).Nodup) (name : String) :
    fields.lookup name = fields'.lookup name := by
  induction hperm with
  | nil => rfl
  | cons f _ ih =>
    rw [List.lookup_cons, List.lookup_cons, ih (List.nodup_cons.1 h).2]
  | swap f g fields =>
    obtain ⟨first, v⟩ := f
    obtain ⟨second, w⟩ := g
    -- the name is not that of both fields
    have hne : first ≠ second := fun e => (List.nodup_cons.1 h).1 (by simp [e])
    by_cases hf : name = first
    · simp [List.lookup_cons, hf, beq_eq_false_iff_ne.2 hne]
    · simp [List.lookup_cons, beq_eq_false_iff_ne.2 hf]
  | trans hfirst hsecond ih ih' =>
    exact (ih ((hsecond.map Prod.fst).symm.nodup h)).trans (ih' h)

/-- Each field is found by its name. -/
theorem map_lookup {fields : List (String × Json)} (h : (fields.map Prod.fst).Nodup) :
    ((fields.map Prod.fst).map fun name => fields.lookup name) = fields.map fun f => some f.2 := by
  rw [List.map_map]
  refine List.map_congr_left fun f hf => ?_
  obtain ⟨front, back, rfl⟩ := List.append_of_mem hf
  show List.lookup f.1 (front ++ f :: back) = some f.2
  rw [lookup_of_perm List.perm_middle ((List.perm_middle.map Prod.fst).nodup h),
    List.lookup_cons, beq_self_eq_true]

namespace JsonLibrary.IsDocumented

variable {L : JsonLibrary} (hL : L.IsDocumented)
include hL

/-- **The fields of a record are found in any order.** -/
theorem record?_moved {moved fields : List (String × Json)} (hperm : moved.Perm fields)
    (h : (fields.map Prod.fst).Nodup) :
    L.record? (fields.map Prod.fst) (object moved) = some (fields.map fun f => some f.2) := by
  have hlookup : (fun name => moved.lookup name) = fun name => fields.lookup name :=
    funext (lookup_of_perm hperm h)
  rw [hL.record?_object _ _ h ((hperm.map Prod.fst).symm.nodup h), hlookup, map_lookup h]

section

variable {fields : List (String × Json)} {names : List String}

theorem record?_fields (hnames : fields.map Prod.fst = names) (h : names.Nodup) :
    L.record? names (object fields) = some (fields.map fun f => some f.2) := by
  subst hnames
  exact hL.record?_moved (.refl _) h

/-- A record is found in the order of its names, with its parts in order. -/
theorem record?_sorted (hnames : fields.map Prod.fst = names) (h : names.Nodup) :
    L.record? names (L.sorted (object fields)) =
      some (fields.map fun f => some (L.sorted f.2)) := by
  obtain ⟨moved, hsorted, hperm, -⟩ := hL.sorted_object fields (hnames ▸ h)
  have hfirst : (fields.map fun f => (f.1, L.sorted f.2)).map Prod.fst = names := by
    rw [List.map_map, ← hnames]
    rfl
  have hrecord := hL.record?_moved hperm (hfirst ▸ h)
  rw [hfirst, List.map_map] at hrecord
  rw [hsorted]
  exact hrecord

end

/-- Putting fields in order keeps a value regular. -/
theorem isRegular_sorted {v : Json} {depth : Nat} (h : v.IsRegular depth) :
    (L.sorted v).IsRegular depth := by
  have hleaf : ∀ {v : Json} {depth : Nat}, (∀ items, v ≠ .array items) →
      (∀ fields, v ≠ .object fields) → v.IsRegular depth → (L.sorted v).IsRegular depth := by
    intro v depth harray hobject h
    rwa [hL.sorted_leaf v harray hobject]
  induction h with
  | null => exact hleaf (by simp) (by simp) .null
  | bool b => exact hleaf (by simp) (by simp) (.bool b)
  | int hleast hgreatest => exact hleaf (by simp) (by simp) (.int hleast hgreatest)
  | string s => exact hleaf (by simp) (by simp) (.string s)
  | array _ ih =>
    rw [hL.sorted_array]
    exact .array (List.forall_mem_map.2 ih)
  | @object fields _ hnames _ ih =>
    obtain ⟨moved, hsorted, hperm, -⟩ := hL.sorted_object fields hnames
    have hmoved : (moved.map Prod.fst).Perm (fields.map Prod.fst) := by
      refine (hperm.map Prod.fst).trans (.of_eq ?_)
      rw [List.map_map]
      rfl
    rw [hsorted]
    refine .object (hmoved.symm.nodup hnames) fun f hf => ?_
    obtain ⟨g, hg, rfl⟩ := List.mem_map.1 (hperm.mem_iff.1 hf)
    exact ih g hg

end JsonLibrary.IsDocumented

/-! ## Parts without fields -/

/-- What is written is read back, is never confused with an absent value, and has no fields that
could be put in order. -/
structure JsonLibrary.IsCode (L : JsonLibrary) {α : Type} (encode : α → Json)
    (decode : Json → Option α) : Prop where
  decode_encode : ∀ a, decode (encode a) = some a
  ne_null : ∀ a, encode a ≠ .null
  sorted : ∀ a, L.sorted (encode a) = encode a

section

variable {depth : Nat}

theorem Json.isRegular_ofOption {α : Type} {encode : α → Json}
    (h : ∀ a, (encode a).IsRegular depth) (o : Option α) :
    (ofOption encode o).IsRegular depth := by
  cases o with
  | none => exact .null
  | some a => exact h a

theorem Json.isRegular_ofNat {n : Nat} (h : n < UInt64.size) : (Json.int n).IsRegular depth :=
  .int (le_trans (by decide) (Int.natCast_nonneg n)) (Int.ofNat_lt.2 h)

theorem Json.isRegular_ofUInt64 (n : UInt64) : (ofUInt64 n).IsRegular depth :=
  isRegular_ofNat n.toNat_lt_size

theorem Json.isRegular_ofUInt32 (n : UInt32) : (ofUInt32 n).IsRegular depth :=
  isRegular_ofNat (n.toNat_lt_size.trans (by decide))

theorem Mapping.isRegular_toJson : ∀ m : Mapping, m.toJson.IsRegular depth
  | .string _ => .string _
  | .int n => .int n.minValue_le_toInt (n.toInt_le.trans_lt (by decide))

end

namespace JsonLibrary.IsDocumented

variable {L : JsonLibrary} (hL : L.IsDocumented)

section

variable {α : Type} {encode : α → Json} {decode : Json → Option α}

include hL in
theorem optional?_ofOption (h : L.IsCode encode decode) (o : Option α) :
    L.optional? decode (some (ofOption encode o)) = some o := by
  cases o with
  | none => exact hL.optional?_null decode
  | some a =>
    show L.optional? decode (some (encode a)) = _
    rw [hL.optional?_some decode _ (h.ne_null a), h.decode_encode, Option.map_some]

include hL in
theorem sorted_ofOption (h : L.IsCode encode decode) (o : Option α) :
    L.sorted (ofOption encode o) = ofOption encode o := by
  cases o with
  | none => exact hL.sorted_leaf _ (fun _ => Json.noConfusion) fun _ => Json.noConfusion
  | some a => exact h.sorted a

include hL in
theorem isCode_list (h : L.IsCode encode decode) :
    L.IsCode (fun as => array (as.map encode)) (L.list? decode) where
  decode_encode as := by
    rw [hL.list?_array]
    induction as with
    | nil => rfl
    | cons a as ih => rw [List.map_cons, List.mapM_cons, h.decode_encode, ih]; rfl
  ne_null _ := Json.noConfusion
  sorted as := by
    simp only [hL.sorted_array, List.map_map, Function.comp_def, h.sorted]

end

include hL

theorem isCode_string : L.IsCode .string L.string? where
  decode_encode := hL.string?_string
  ne_null _ := Json.noConfusion
  sorted _ := hL.sorted_leaf _ (fun _ => Json.noConfusion) fun _ => Json.noConfusion

theorem isCode_uint32 : L.IsCode ofUInt32 L.uint32? where
  decode_encode := hL.uint32?_int
  ne_null _ := Json.noConfusion
  sorted _ := hL.sorted_leaf _ (fun _ => Json.noConfusion) fun _ => Json.noConfusion

theorem isCode_uint64 : L.IsCode ofUInt64 L.uint64? where
  decode_encode := hL.uint64?_int
  ne_null _ := Json.noConfusion
  sorted _ := hL.sorted_leaf _ (fun _ => Json.noConfusion) fun _ => Json.noConfusion

/-- The directions have different names, in capital letters too. -/
theorem isCode_direction : L.IsCode Direction.toJson (Direction.decode L) where
  decode_encode d := by
    rw [Direction.decode, Direction.toJson, hL.variant?_string]
    cases d <;> decide +kernel
  ne_null _ := Json.noConfusion
  sorted _ := hL.sorted_leaf _ (fun _ => Json.noConfusion) fun _ => Json.noConfusion

/-- A number is not taken for a text, which is what comes first. -/
theorem isCode_mapping : L.IsCode Mapping.toJson (Mapping.decode L) where
  decode_encode
    | .string s => by
      simp only [Mapping.decode, Mapping.toJson, hL.untagged?_eq, List.findSome?_cons,
        hL.string?_string, Option.map_some]
    | .int n => by
      simp only [Mapping.decode, Mapping.toJson, hL.untagged?_eq, List.findSome?_cons,
        hL.string?_int, hL.int64?_int, Option.map_some, Option.map_none]
  ne_null
    | .string _ => Json.noConfusion
    | .int _ => Json.noConfusion
  sorted
    | .string _ => hL.sorted_leaf _ (fun _ => Json.noConfusion) fun _ => Json.noConfusion
    | .int _ => hL.sorted_leaf _ (fun _ => Json.noConfusion) fun _ => Json.noConfusion

end JsonLibrary.IsDocumented

/-! ## Records

Each record is read from its fields, whether they stand in the order of writing or in that of their
names. -/

section

variable {L : JsonLibrary} (hL : L.IsDocumented)

namespace RollupContext

variable {v : Json} (r : RollupContext)

include hL in
theorem decode_of_record
    (h : L.record? ["orderby", "granularity", "interval", "with_totals"] v = some
      [some (ofOption Direction.toJson r.orderby), some (ofOption ofUInt32 r.granularity),
       some (ofOption ofUInt32 r.interval), some (ofOption .string r.withTotals)]) :
    decode L v = some r := by
  unfold decode
  rw [h]
  simp only [hL.optional?_ofOption hL.isCode_direction, hL.optional?_ofOption hL.isCode_uint32,
    hL.optional?_ofOption hL.isCode_string]
  rfl

include hL in
theorem decode_toJson : decode L r.toJson = some r :=
  decode_of_record hL r (hL.record?_fields rfl (by decide))

include hL in
theorem decode_sorted : decode L (L.sorted r.toJson) = some r := by
  refine decode_of_record hL r (Eq.trans (hL.record?_sorted rfl (by decide)) ?_)
  simp only [List.map_cons, List.map_nil, hL.sorted_ofOption hL.isCode_direction,
    hL.sorted_ofOption hL.isCode_uint32, hL.sorted_ofOption hL.isCode_string]

theorem isRegular_toJson (depth : Nat) : r.toJson.IsRegular (depth + 1) :=
  .object (by simp) fun f hf => by
    simp only [List.mem_cons, List.not_mem_nil, or_false] at hf
    rcases hf with rfl | rfl | rfl | rfl
    · exact isRegular_ofOption (fun _ => .string _) _
    · exact isRegular_ofOption isRegular_ofUInt32 _
    · exact isRegular_ofOption isRegular_ofUInt32 _
    · exact isRegular_ofOption (fun _ => .string _) _

end RollupContext

namespace Scope

variable {v : Json} (s : Scope)

include hL in
theorem decode_of_record
    (h : L.record? ["org_ids", "project_ids", "use_case_id"] v = some
      [some (.array (s.orgIds.map ofUInt64)), some (.array (s.projectIds.map ofUInt64)),
       some (ofOption .string s.useCaseId)]) :
    decode L v = some s := by
  have hids := (hL.isCode_list hL.isCode_uint64).decode_encode
  unfold decode
  rw [h]
  simp only [hL.needed?_some, hids, hL.optional?_ofOption hL.isCode_string]
  rfl

include hL in
theorem decode_toJson : decode L s.toJson = some s :=
  decode_of_record hL s (hL.record?_fields rfl (by decide))

include hL in
theorem decode_sorted : decode L (L.sorted s.toJson) = some s := by
  have hids := (hL.isCode_list hL.isCode_uint64).sorted
  refine decode_of_record hL s (Eq.trans (hL.record?_sorted rfl (by decide)) ?_)
  simp only [List.map_cons, List.map_nil, hids, hL.sorted_ofOption hL.isCode_string]

theorem isRegular_toJson (depth : Nat) : s.toJson.IsRegular (depth + 2) :=
  .object (by simp) fun f hf => by
    simp only [List.mem_cons, List.not_mem_nil, or_false] at hf
    rcases hf with rfl | rfl | rfl
    · exact .array (List.forall_mem_map.2 fun n _ => isRegular_ofUInt64 n)
    · exact .array (List.forall_mem_map.2 fun n _ => isRegular_ofUInt64 n)
    · exact isRegular_ofOption (fun _ => .string _) _

end Scope

namespace Table

/-- The fields of a table. -/
def fields (t : Table Mapping) : List (String × Json) := t.entries.map fun e => (e.1, e.2.toJson)

theorem map_fst_fields (t : Table Mapping) : t.fields.map Prod.fst = t.entries.map Prod.fst := by
  rw [fields, List.map_map]
  rfl

include hL in
/-- Fields that stand for bindings are decoded as a table of them, in their order. -/
theorem decode_fields {moved : List (String × Json)} {entries : List (String × Mapping)}
    (h : List.Forall₂ (fun f e => f = (e.1, e.2.toJson)) moved entries)
    (hnames : (moved.map Prod.fst).Nodup) :
    ∃ u : Table Mapping, L.table? (Mapping.decode L) (object moved) = some u ∧
      u.entries = entries := by
  refine hL.table?_object _ _ _ hnames (h.imp ?_)
  rintro f e rfl
  exact ⟨rfl, hL.isCode_mapping.decode_encode e.2⟩

theorem forall₂_fields (t : Table Mapping) :
    List.Forall₂ (fun f e => f = (e.1, e.2.toJson)) t.fields t.entries := by
  rw [fields, List.forall₂_map_left_iff, List.forall₂_same]
  exact fun _ _ => rfl

include hL in
theorem decode_toJson (t : Table Mapping) :
    L.table? (Mapping.decode L) t.toJson = some t := by
  obtain ⟨u, hu, hentries⟩ := decode_fields hL (forall₂_fields t) (t.map_fst_fields ▸ t.nodup)
  exact hu.trans (congrArg some (Table.ext hentries))

include hL in
/-- **Only the order of a table is lost** when its names are put in order. -/
theorem decode_sorted (t : Table Mapping) :
    ∃ u : Table Mapping, L.table? (Mapping.decode L) (L.sorted t.toJson) = some u ∧
      u.SameBindings t := by
  have hnames : (t.fields.map Prod.fst).Nodup := t.map_fst_fields ▸ t.nodup
  obtain ⟨moved, hsorted, hperm, -⟩ := hL.sorted_object _ hnames
  have hfields : (t.fields.map fun f => (f.1, L.sorted f.2)) = t.fields := by
    simp [fields, hL.isCode_mapping.sorted]
  rw [hfields] at hperm
  -- the fields that were moved stand for the bindings moved in the same way
  obtain ⟨entries, hread, hmoved⟩ := List.perm_comp_forall₂ hperm (forall₂_fields t)
  obtain ⟨u, hu, hentries⟩ :=
    decode_fields hL hread ((hperm.map Prod.fst).symm.nodup hnames)
  refine ⟨u, ?_, fun key value => ?_⟩
  · show L.table? _ (L.sorted (object t.fields)) = _
    rw [hsorted, hu]
  · rw [hentries]
    exact hmoved.mem_iff

theorem isRegular_toJson (t : Table Mapping) (depth : Nat) : t.toJson.IsRegular (depth + 1) := by
  refine .object (t.map_fst_fields ▸ t.nodup) fun f hf => ?_
  obtain ⟨e, -, rfl⟩ := List.mem_map.1 hf
  exact e.2.isRegular_toJson

end Table

namespace Context

variable (c : Context)

include hL in
/-- A context is read from its fields, its parts being read by themselves. -/
theorem decode_of_record {v rollup scope mappings : Json} {u : Table Mapping}
    (hrollup : RollupContext.decode L rollup = some c.rollup)
    (hscope : Scope.decode L scope = some c.scope)
    (hmappings : L.table? (Mapping.decode L) mappings = some u)
    (h : L.record?
        ["entity", "start", "end", "rollup", "scope", "limit", "offset", "indexer_mappings"] v =
      some
        [some (ofOption .string c.entity), some (.string c.start), some (.string c.ending),
         some rollup, some scope, some (ofOption ofUInt32 c.limit),
         some (ofOption ofUInt64 c.offset), some mappings]) :
    decode L v = some { c with mappings := u } := by
  unfold decode
  rw [h]
  simp only [hL.needed?_some, hrollup, hscope, hmappings, hL.string?_string,
    hL.optional?_ofOption hL.isCode_string, hL.optional?_ofOption hL.isCode_uint32,
    hL.optional?_ofOption hL.isCode_uint64]
  rfl

include hL in
theorem decode_toJson : decode L c.toJson = some c :=
  decode_of_record hL c (c.rollup.decode_toJson hL) (c.scope.decode_toJson hL)
    (c.mappings.decode_toJson hL) (hL.record?_fields rfl (by decide))

include hL in
theorem decode_sorted :
    ∃ u : Table Mapping, u.SameBindings c.mappings ∧
      decode L (L.sorted c.toJson) = some { c with mappings := u } := by
  obtain ⟨u, hu, hsame⟩ := c.mappings.decode_sorted hL
  refine ⟨u, hsame, decode_of_record hL c (c.rollup.decode_sorted hL) (c.scope.decode_sorted hL) hu
    (Eq.trans (hL.record?_sorted rfl (by decide)) ?_)⟩
  simp only [List.map_cons, List.map_nil, hL.isCode_string.sorted,
    hL.sorted_ofOption hL.isCode_string, hL.sorted_ofOption hL.isCode_uint32,
    hL.sorted_ofOption hL.isCode_uint64]

theorem isRegular_toJson (depth : Nat) : c.toJson.IsRegular (depth + 3) :=
  .object (by simp) fun f hf => by
    simp only [List.mem_cons, List.not_mem_nil, or_false] at hf
    rcases hf with rfl | rfl | rfl | rfl | rfl | rfl | rfl | rfl
    · exact isRegular_ofOption (fun _ => .string _) _
    · exact .string _
    · exact .string _
    · exact c.rollup.isRegular_toJson (depth + 1)
    · exact c.scope.isRegular_toJson depth
    · exact isRegular_ofOption isRegular_ofUInt32 _
    · exact isRegular_ofOption isRegular_ofUInt64 _
    · exact c.mappings.isRegular_toJson (depth + 1)

end Context

namespace Payload

include hL in
theorem decode_of_record {v context : Json} {c : Context} (mql : String)
    (hcontext : Context.decode L context = some c)
    (h : L.record? ["mql", "mql_context"] v = some [some (.string mql), some context]) :
    decode L v = some ⟨mql, c⟩ := by
  unfold decode
  rw [h]
  simp only [hL.needed?_some, hcontext, hL.string?_string]
  rfl

/-- A payload does not go deeper than its identifiers, which is four levels. -/
theorem isRegular_toJson (p : Payload) : p.toJson.IsRegular JsonLibrary.depthLimit :=
  .object (by simp) fun f hf => by
    simp only [List.mem_cons, List.not_mem_nil, or_false] at hf
    rcases hf with rfl | rfl
    · exact .string _
    · exact p.context.isRegular_toJson 123

include hL in
/-- A text that was written is read as the value that it is the text of. -/
theorem read?_write {v : Json} (h : v.IsRegular JsonLibrary.depthLimit) :
    read? L (L.write v) = decode L v := by
  rw [read?, hL.read?_spells v _ h (hL.write_spells v _ h)]
  rfl

end Payload

end

/-- **Both texts of a payload are read back** by every library that does what libraries do.  The text
with its fields in order is read as the payload itself.  The text with all fields in the order of
their names is read as the payload too, except that its mappings may come in another order. -/
theorem Payload.read?_texts (L : JsonLibrary) (hL : L.IsDocumented) (p : Payload) :
    read? L (L.write p.toJson) = some p ∧
      ∃ mappings : Table Mapping, mappings.SameBindings p.context.mappings ∧
        read? L (L.write (L.sorted p.toJson)) =
          some { p with context := { p.context with mappings := mappings } } := by
  constructor
  · rw [read?_write hL p.isRegular_toJson]
    exact decode_of_record hL p.mql (p.context.decode_toJson hL)
      (hL.record?_fields rfl (by decide))
  · obtain ⟨u, hsame, hcontext⟩ := p.context.decode_sorted hL
    refine ⟨u, hsame, ?_⟩
    rw [read?_write hL (hL.isRegular_sorted p.isRegular_toJson)]
    refine decode_of_record hL p.mql hcontext (Eq.trans (hL.record?_sorted rfl (by decide)) ?_)
    simp only [List.map_cons, List.map_nil, hL.isCode_string.sorted]

/-- Mappings that are not in the order of their names, the greatest identifiers and a text with a
control character are read back by the library that runs. -/
theorem Payload.read?_texts_standard :
    let scope : Scope := ⟨[18446744073709551615], [0], none⟩
    let mappings : Table Mapping := ⟨[("b", .int (-1)), ("a", .string "1")], by decide⟩
    let p : Payload :=
      ⟨"sum(foo)\x7bk:\"\x01\"\x7d",
        { entity := some "e", start := "s", ending := "t",
          rollup := ⟨some .descending, none, some 60, none⟩, scope := scope, limit := none,
          offset := some 18446744073709551615, mappings := mappings }⟩
    JsonLibrary.standard.IsDocumented ∧
      read? .standard p.text = some p ∧
        ∃ sorted : Table Mapping, sorted.SameBindings mappings ∧
          read? .standard p.sortedText =
            some { p with context := { p.context with mappings := sorted } } :=
  ⟨JsonLibrary.isDocumented_standard,
    Payload.read?_texts .standard JsonLibrary.isDocumented_standard _⟩

end MetricQuery
