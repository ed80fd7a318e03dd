import Mathlib.Data.List.Perm.Basic
import Mathlib.Data.String.Basic
import MetricQuery.Json.Library
import MetricQuery.Proofs.JsonText

/-!
# What is known of a library for JSON

What libraries have in common is that each text they write spells its value, that they read each
spelling, and that they decode data by its shape.  Nothing is asked about which of the spellings is
written, about values of other shapes, about objects in which two fields have one name, about numbers
of more than 64 bits, or about values that go deeper than readers do.

* `JsonLibrary.depthLimit`            : how deep readers go;
* `JsonLibrary.IsDocumented`          : what every library does;
* `Json.canonicalFields_perm`         : sorting fields by their names moves them, and does nothing else;
* `Json.field?_of_nodup`              : the fields of a record are found by their names;
* `JsonLibrary.isDocumented_standard` : the library that runs does so.
-/

set_option autoImplicit false

namespace MetricQuery

/-- How deep arrays and objects may stand within each other in a text that is read. -/
def JsonLibrary.depthLimit : Nat := 127

/-- What every library does. -/
structure JsonLibrary.IsDocumented (L : JsonLibrary) : Prop where
  /-- A value is written in one of its spellings. -/
  write_spells : ∀ (v : Json) (depth : Nat), v.IsRegular depth → v.Spells (L.write v)
  /-- A value is read from each of its spellings. -/
  read?_spells : ∀ (v : Json) (text : String), v.IsRegular depthLimit → v.Spells text →
    L.read? text = some v
  /-- A value without parts is in order. -/
  sorted_leaf : ∀ v : Json, (∀ items, v ≠ .array items) → (∀ fields, v ≠ .object fields) →
    L.sorted v = v
  /-- An array stays in order, and its items are put in order. -/
  sorted_array : ∀ items, L.sorted (.array items) = .array (items.map L.sorted)
  /-- The fields of an object are moved to the order of their names, and put in order. -/
  sorted_object : ∀ fields : List (String × Json), (fields.map Prod.fst).Nodup →
    ∃ moved, L.sorted (.object fields) = .object moved ∧
      moved.Perm (fields.map fun f => (f.1, L.sorted f.2)) ∧
      (moved.map Prod.fst).Pairwise (· < ·)
  /-- A string is a text. -/
  string?_string : ∀ s, L.string? (.string s) = some s
  /-- A number is no text. -/
  string?_int : ∀ n, L.string? (.int n) = none
  /-- A number of 32 bits is one. -/
  uint32?_int : ∀ n : UInt32, L.uint32? (.int n.toNat) = some n
  /-- A number of 64 bits is one. -/
  uint64?_int : ∀ n : UInt64, L.uint64? (.int n.toNat) = some n
  /-- A number of 64 bits with a sign is one. -/
  int64?_int : ∀ n : Int64, L.int64? (.int n.toInt) = some n
  /-- An array is decoded item by item. -/
  list?_array : ∀ {α : Type} (decode : Json → Option α) (items : List Json),
    L.list? decode (.array items) = items.mapM decode
  /-- A string is the variant of that name. -/
  variant?_string : ∀ {α : Type} (variants : List (String × α)) (name : String),
    L.variant? variants (.string name) = variants.lookup name
  /-- Data without a tag has the first shape that does not refuse it. -/
  untagged?_eq : ∀ {α : Type} (decoders : List (Json → Option α)) (v : Json),
    L.untagged? decoders v = decoders.findSome? fun decode => decode v
  /-- The fields of an object fill a table in their order. -/
  table?_object : ∀ {β : Type} (decode : Json → Option β) (fields : List (String × Json))
    (entries : List (String × β)), (fields.map Prod.fst).Nodup →
    List.Forall₂ (fun f e => e.1 = f.1 ∧ decode f.2 = some e.2) fields entries →
    ∃ t : Table β, L.table? decode (.object fields) = some t ∧ t.entries = entries
  /-- The fields of a record are found by their names. -/
  record?_object : ∀ (names : List String) (fields : List (String × Json)), names.Nodup →
    (fields.map Prod.fst).Nodup →
    L.record? names (.object fields) = some (names.map fun name => fields.lookup name)
  /-- A field that is there is decoded. -/
  needed?_some : ∀ {α : Type} (decode : Json → Option α) (v : Json),
    L.needed? decode (some v) = decode v
  /-- A field that is null is absent. -/
  optional?_null : ∀ {α : Type} (decode : Json → Option α),
    L.optional? decode (some .null) = some none
  /-- Any other field that is there is decoded. -/
  optional?_some : ∀ {α : Type} (decode : Json → Option α) (v : Json), v ≠ .null →
    L.optional? decode (some v) = (decode v).map some

/-! ## Tables -/

/-- A key that is not bound yet comes last. -/
theorem rebind_of_notMem {β : Type} {key : String} {value : β} {entries : List (String × β)}
    (h : key ∉ entries.map Prod.fst) : rebind key value entries = entries ++ [(key, value)] := by
  induction entries with
  | nil => rfl
  | cons entry entries ih =>
    obtain ⟨hne, hrest⟩ := not_or.1 (mt List.mem_cons.2 h)
    rw [rebind, if_neg fun e => hne e.symm, ih hrest, List.cons_append]

namespace Table

variable {β : Type}

theorem entries_foldl_insert (entries : List (String × β)) (t : Table β)
    (h : ((t.entries ++ entries).map Prod.fst).Nodup) :
    (entries.foldl (fun t entry => t.insert entry.1 entry.2) t).entries = t.entries ++ entries := by
  induction entries generalizing t with
  | nil => rw [List.foldl_nil, List.append_nil]
  | cons entry entries ih =>
    have hfresh : entry.1 ∉ t.entries.map Prod.fst := by
      rw [List.map_append, List.map_cons, List.nodup_append] at h
      exact fun hmem => h.2.2 _ hmem _ (by simp) rfl
    have hinsert : (t.insert entry.1 entry.2).entries = t.entries ++ [entry] :=
      rebind_of_notMem hfresh
    rw [List.foldl_cons, ih, hinsert, List.append_assoc, List.singleton_append]
    rw [hinsert, List.append_assoc]
    exact h

/-- Bindings of different keys are the table, in their order. -/
theorem entries_ofList {entries : List (String × β)} (h : (entries.map Prod.fst).Nodup) :
    (ofList entries).entries = entries :=
  entries_foldl_insert entries empty h

end Table

namespace Json

/-! ## Fields by their names -/

theorem valuesOf_of_notMem {name : String} {fields : List (String × Json)}
    (h : name ∉ fields.map Prod.fst) : valuesOf name fields = [] := by
  induction fields with
  | nil => rfl
  | cons f fields ih =>
    obtain ⟨hne, hrest⟩ := not_or.1 (mt List.mem_cons.2 h)
    rw [valuesOf, if_neg fun e => hne e.symm, ih hrest]

/-- A name that only one field may have has at most one value. -/
theorem valuesOf_of_nodup (name : String) {fields : List (String × Json)}
    (h : (fields.map Prod.fst).Nodup) : valuesOf name fields = (fields.lookup name).toList := by
  induction fields with
  | nil => rfl
  | cons f fields ih =>
    obtain ⟨hfresh, hrest⟩ := List.nodup_cons.1 h
    rw [valuesOf, List.lookup_cons]
    by_cases hname : f.1 = name
    · rw [if_pos hname, valuesOf_of_notMem (hname ▸ hfresh), hname, beq_self_eq_true]
      rfl
    · rw [if_neg hname, ih hrest, beq_eq_false_iff_ne.2 fun e => hname e.symm]

/-- **The fields of a record are found by their names.** -/
theorem field?_of_nodup (name : String) {fields : List (String × Json)}
    (h : (fields.map Prod.fst).Nodup) : field? name fields = some (fields.lookup name) := by
  rw [field?, valuesOf_of_nodup name h]
  cases fields.lookup name <;> rfl

theorem record?_of_nodup (names : List String) {fields : List (String × Json)}
    (h : (fields.map Prod.fst).Nodup) :
    (object fields).record? names = some (names.map fun name => fields.lookup name) := by
  have hfields : (fun name => field? name fields) = fun name => some (fields.lookup name) :=
    funext fun name => field?_of_nodup name h
  show names.mapM (fun name => field? name fields) = _
  rw [hfields]
  exact List.mapM_pure

theorem table?_of_forall {β : Type} {decode : Json → Option β} {fields : List (String × Json)}
    {entries : List (String × β)} (hnames : (fields.map Prod.fst).Nodup)
    (h : List.Forall₂ (fun f e => e.1 = f.1 ∧ decode f.2 = some e.2) fields entries) :
    table? decode (object fields) = some (.ofList entries) ∧
      (Table.ofList entries).entries = entries := by
  have hread : (fields.mapM fun f => (decode f.2).map fun value => (f.1, value)) = some entries ∧
      entries.map Prod.fst = fields.map Prod.fst := by
    clear hnames
    induction h with
    | nil => exact ⟨rfl, rfl⟩
    | cons hfirst _ ih =>
      obtain ⟨hname, hvalue⟩ := hfirst
      rw [List.mapM_cons, hvalue, ih.1, ← hname]
      exact ⟨rfl, by rw [List.map_cons, List.map_cons, ih.2, hname]⟩
  obtain ⟨hmap, hkeys⟩ := hread
  refine ⟨?_, Table.entries_ofList (hkeys ▸ hnames)⟩
  show (fields.mapM fun f => (decode f.2).map fun value => (f.1, value)).map Table.ofList = _
  rw [hmap]
  rfl

/-! ## The order of names -/

theorem canonicalItems_eq (items : List Json) : canonicalItems items = items.map canonical := by
  induction items with
  | nil => rfl
  | cons v items ih => rw [canonicalItems, ih, List.map_cons]

theorem insertField_perm {name : String} {v : Json} {fields : List (String × Json)}
    (h : name ∉ fields.map Prod.fst) :
    (insertField name v fields).Perm ((name, v) :: fields) := by
  induction fields with
  | nil => exact .refl _
  | cons f fields ih =>
    obtain ⟨hne, hrest⟩ := not_or.1 (mt List.mem_cons.2 h)
    rw [insertField, if_neg hne]
    split
    · exact .refl _
    · exact ((ih hrest).cons _).trans (.swap _ _ _)

/-- **Fields of different names are only moved when they are put in order.** -/
theorem canonicalFields_perm {done fields : List (String × Json)}
    (h : ((done ++ fields).map Prod.fst).Nodup) :
    (canonicalFields done fields).Perm (done ++ fields.map fun f => (f.1, f.2.canonical)) := by
  induction fields generalizing done with
  | nil => rw [canonicalFields, List.map_nil, List.append_nil]
  | cons f fields ih =>
    have hfresh : f.1 ∉ done.map Prod.fst := by
      rw [List.map_append, List.map_cons, List.nodup_append] at h
      exact fun hmem => h.2.2 _ hmem _ (by simp) rfl
    have hinsert := insertField_perm (v := f.2.canonical) hfresh
    have hnames : ((insertField f.1 f.2.canonical done ++ fields).map Prod.fst).Perm
        ((done ++ f :: fields).map Prod.fst) := by
      rw [List.map_append, List.map_append, List.map_cons]
      refine ((hinsert.map Prod.fst).append_right _).trans ?_
      exact List.perm_middle.symm
    rw [canonicalFields]
    refine (ih (hnames.symm.nodup h)).trans ?_
    rw [List.map_cons]
    exact (hinsert.append_right _).trans List.perm_middle.symm

/-- A name is put behind all smaller names and in front of all greater ones. -/
theorem pairwise_insertField {name : String} {v : Json} {fields : List (String × Json)}
    (h : (fields.map Prod.fst).Pairwise (· < ·)) :
    ((insertField name v fields).map Prod.fst).Pairwise (· < ·) ∧
      ∀ other ∈ (insertField name v fields).map Prod.fst,
        other = name ∨ other ∈ fields.map Prod.fst := by
  induction fields with
  | nil => exact ⟨List.pairwise_singleton _ _, by simp [insertField]⟩
  | cons f fields ih =>
    obtain ⟨hfirst, hrest⟩ := List.pairwise_cons.1 h
    obtain ⟨hsorted, hnames⟩ := ih hrest
    rw [insertField]
    split_ifs with hlt heq
    · refine ⟨List.pairwise_cons.2 ⟨fun other hother => ?_, h⟩, fun other hother => ?_⟩
      · rcases List.mem_cons.1 hother with rfl | hother
        · exact hlt
        · exact lt_trans hlt (hfirst other hother)
      · exact List.mem_cons.1 hother
    · exact ⟨List.pairwise_cons.2 ⟨heq ▸ hfirst, hrest⟩, fun other hother =>
        (List.mem_cons.1 hother).imp_right fun hmem => List.mem_cons_of_mem _ hmem⟩
    · have hgt : f.1 < name := lt_of_le_of_ne (not_lt.1 hlt) fun e => heq e.symm
      refine ⟨List.pairwise_cons.2 ⟨fun other hother => ?_, hsorted⟩, fun other hother => ?_⟩
      · rcases hnames other hother with rfl | hother
        · exact hgt
        · exact hfirst other hother
      · rcases List.mem_cons.1 hother with rfl | hother
        · exact .inr List.mem_cons_self
        · exact (hnames other hother).imp_right (List.mem_cons_of_mem _)

theorem pairwise_canonicalFields {done : List (String × Json)}
    (h : (done.map Prod.fst).Pairwise (· < ·)) (fields : List (String × Json)) :
    ((canonicalFields done fields).map Prod.fst).Pairwise (· < ·) := by
  induction fields generalizing done with
  | nil => exact h
  | cons f fields ih => exact ih (pairwise_insertField h).1

end Json

/-! ## The library that runs -/

/-- **The library that runs does what every library does.** -/
theorem JsonLibrary.isDocumented_standard : JsonLibrary.standard.IsDocumented where
  write_spells _ _ := Json.spells_compact
  read?_spells _ _ _ := Json.read?_spells
  sorted_leaf v harray hobject := by
    cases v with
    | array items => exact absurd rfl (harray items)
    | object fields => exact absurd rfl (hobject fields)
    | _ => rfl
  sorted_array items := congrArg Json.array (Json.canonicalItems_eq items)
  sorted_object fields h :=
    ⟨_, rfl, Json.canonicalFields_perm h, Json.pairwise_canonicalFields .nil fields⟩
  string?_string _ := rfl
  string?_int _ := rfl
  uint32?_int n := by
    show (if n.toNat < UInt32.size then some n.toNat else none).map UInt32.ofNat = _
    rw [if_pos n.toNat_lt_size, Option.map_some, UInt32.ofNat_toNat]
  uint64?_int n := by
    show (if n.toNat < UInt64.size then some n.toNat else none).map UInt64.ofNat = _
    rw [if_pos n.toNat_lt_size, Option.map_some, UInt64.ofNat_toNat]
  int64?_int n := by
    show (if Int64.minValue.toInt ≤ n.toInt ∧ n.toInt ≤ Int64.maxValue.toInt then
      some (Int64.ofInt n.toInt) else none) = _
    rw [if_pos ⟨n.minValue_le_toInt, n.toInt_le⟩, Int64.ofInt_toInt]
  list?_array _ _ := rfl
  variant?_string _ _ := rfl
  untagged?_eq _ _ := rfl
  table?_object _ _ _ hnames h := ⟨_, Json.table?_of_forall hnames h⟩
  record?_object names _ _ := Json.record?_of_nodup names
  needed?_some _ _ := rfl
  optional?_null _ := rfl
  optional?_some decode v h := by
    cases v with
    | null => exact absurd rfl h
    | _ => rfl

end MetricQuery
