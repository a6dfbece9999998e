import FunctionSearch.Document.Json
import Mathlib.Data.List.Nodup

/-!
# Records with some of their fields

A record is read by the names of its fields, so neither their order nor the fields that are left out
matter to the others.

* `columns?_named`: the columns of a record that holds, in any order, the fields that have a value.
* `withDefault_ite`, `withDefault_optional`: a field that may be left out.
* `layout?_record`, `naturalBelow?_natural`, `texts?_array`: what is written as JSON is read back.
-/

namespace FunctionSearch.Document

variable {δ α ι : Type}

/-! ## Columns -/

theorem fieldNamed?_eq_none {fields : List (String × δ)} {name : String}
    (h : name ∉ fields.map Prod.fst) : fieldNamed? fields name = some none := by
  have hfilter : fields.filter (·.1 == name) = [] := by
    refine List.filter_eq_nil_iff.mpr fun field hfield hname => h ?_
    exact List.mem_map.mpr ⟨field, hfield, eq_of_beq hname⟩
  rw [fieldNamed?, hfilter]

theorem fieldNamed?_eq_some {fields : List (String × δ)} (hnodup : (fields.map Prod.fst).Nodup)
    {name : String} {value : δ} (h : (name, value) ∈ fields) :
    fieldNamed? fields name = some (some value) := by
  have hfilter : fields.filter (·.1 == name) = [(name, value)] := by
    induction fields with
    | nil => cases h
    | cons field fields ih =>
      rw [List.map_cons, List.nodup_cons] at hnodup
      rcases List.mem_cons.mp h with rfl | h
      · have hrest : fields.filter (·.1 == name) = [] := by
          refine List.filter_eq_nil_iff.mpr fun field hfield hname => hnodup.1 ?_
          exact List.mem_map.mpr ⟨field, hfield, eq_of_beq hname⟩
        rw [List.filter_cons_of_pos (by simp), hrest]
      · have hname : field.1 ≠ name := fun hname =>
          hnodup.1 (hname ▸ List.mem_map_of_mem h)
        rw [List.filter_cons_of_neg (by simp [hname]), ih hnodup.2 h]
  rw [fieldNamed?, hfilter]

/-- The fields of a record with these names, those that have a value. -/
def present (name : ι → String) (value? : ι → Option δ) (columns : List ι) : List (String × δ) :=
  columns.filterMap fun column => (value? column).map (name column, ·)

theorem present_nil (name : ι → String) (value? : ι → Option δ) : present name value? [] = [] := rfl

theorem present_cons (name : ι → String) (value? : ι → Option δ) (column : ι) (columns : List ι) :
    present name value? (column :: columns) =
      ((value? column).map (name column, ·)).toList ++ present name value? columns := by
  rw [present, List.filterMap_cons]
  cases (value? column).map (name column, ·) <;> rfl

theorem mem_present_iff {name : ι → String} {value? : ι → Option δ} {columns : List ι}
    {field : String × δ} : field ∈ present name value? columns ↔
      ∃ column ∈ columns, value? column = some field.2 ∧ name column = field.1 := by
  simp only [present, List.mem_filterMap, Option.map_eq_some_iff, Prod.ext_iff]
  constructor
  · rintro ⟨column, hcolumn, value, hvalue, hname, rfl⟩
    exact ⟨column, hcolumn, hvalue, hname⟩
  · rintro ⟨column, hcolumn, hvalue, hname⟩
    exact ⟨column, hcolumn, field.2, hvalue, hname, rfl⟩

theorem map_fst_present_sublist (name : ι → String) (value? : ι → Option δ) (columns : List ι) :
    ((present name value? columns).map Prod.fst).Sublist (columns.map name) := by
  induction columns with
  | nil => exact .slnil
  | cons column columns ih =>
    cases hvalue : value? column with
    | none =>
      rw [present, List.filterMap_cons_none (by rw [hvalue, Option.map_none])]
      exact ih.cons _
    | some value =>
      rw [present, List.filterMap_cons_some (by rw [hvalue, Option.map_some])]
      exact ih.cons_cons _

/-- **A record with the fields that have a value, in any order, has these values and no others.** -/
theorem columns?_named {name : ι → String} {value? : ι → Option δ} {columns : List ι}
    (hnodup : (columns.map name).Nodup) {fields : List (String × δ)}
    (h : fields.Perm (present name value? columns)) :
    columns? (columns.map name) (.named fields) = some (columns.map value?) := by
  have hnodupFields : (fields.map Prod.fst).Nodup :=
    (h.map Prod.fst).nodup_iff.mpr (hnodup.sublist (map_fst_present_sublist name value? columns))
  have hcolumn : ∀ column ∈ columns, fieldNamed? fields (name column) = some (value? column) := by
    intro column hmem
    cases hvalue : value? column with
    | some value =>
      exact fieldNamed?_eq_some hnodupFields
        (h.mem_iff.mpr (mem_present_iff.mpr ⟨column, hmem, hvalue, rfl⟩))
    | none =>
      refine fieldNamed?_eq_none fun hname => ?_
      obtain ⟨field, hfield, hfst⟩ := List.mem_map.mp hname
      obtain ⟨other, hother, hsome, heq⟩ := mem_present_iff.mp (h.mem_iff.mp hfield)
      rw [List.inj_on_of_nodup_map hnodup hother hmem (heq.trans hfst), hvalue] at hsome
      cases hsome
  clear h hnodup
  rw [columns?]
  induction columns with
  | nil => rfl
  | cons column columns ih =>
    have hrest := ih fun column hmem => hcolumn column (List.mem_cons_of_mem _ hmem)
    rw [List.map_cons, List.mapM_cons, hcolumn column List.mem_cons_self, hrest]
    rfl

/-! ## Readings -/

/-- A field that is read as its value, or as the default if it was left out. -/
theorem withDefault_ite {fallback value : α} {read : δ → Option α} {written : Option δ}
    (h : withDefault fallback read written = some value) (chosen : Bool) :
    withDefault fallback read (if chosen then written else none) =
      some (if chosen then value else fallback) := by
  cases chosen with
  | true => exact h
  | false => rfl

theorem withDefault_some {fallback value : α} {read : δ → Option α} {written : δ}
    (h : read written = some value) : withDefault fallback read (some written) = some value :=
  h

/-- A field that is left out when there is no value, and read back when there is one. -/
theorem withDefault_optional [Document δ] {read : δ → Option α} {write : α → δ} {value? : Option α}
    (h : ∀ value ∈ value?, unset? (write value) = some false ∧ read (write value) = some value) :
    withDefault none (optional read) (value?.map write) = some value? := by
  cases value? with
  | none => rfl
  | some value =>
    obtain ⟨hset, hread⟩ := h value rfl
    simp [withDefault, optional, hset, hread]

/-! ## JSON -/

theorem text?_text (s : String) : text? (Json.text s) = some s := rfl

theorem unset?_text (s : String) : unset? (Json.text s) = some false := rfl

theorem unset?_natural (n : Nat) : unset? (Json.natural n) = some false := rfl

theorem naturalBelow?_natural {bound n : Nat} (h : n < bound) :
    naturalBelow? bound (Json.natural n) = some n := by
  have hread : natural? (Json.natural n) = some n := by
    change Number.natural? (String.ofList (Number.numeral n)).toList = some n
    rw [String.toList_ofList, Number.natural?_numeral]
  simp [naturalBelow?, hread, h]

theorem texts?_array (texts : List String) :
    texts? (Json.array (texts.map Json.text)) = some texts := by
  change (texts.map Json.text).mapM text? = some texts
  induction texts with
  | nil => rfl
  | cons text texts ih =>
    rw [List.map_cons, List.mapM_cons, ih]
    rfl

theorem layout?_record (members : List (String × Json)) :
    layout? (Json.record members) = some (.named members) := by
  have hnames : Json.namedMembers? (members.map fun member => (some member.1, member.2)) =
      some members := by
    rw [Json.namedMembers?]
    induction members with
    | nil => rfl
    | cons member members ih =>
      rw [List.map_cons, List.mapM_cons, ih]
      rfl
  exact congrArg (Option.map Layout.named) hnames

end FunctionSearch.Document
