import Mathlib.Data.List.Nodup
import Mathlib.Data.Option.Basic
import FilterBook.Proofs.RoundTrip

/-!
Records read field by field. While a record is read, each of its fields has a place, which is free
until the field comes. A reader that fills free places only, and knows no other names, ends where no
field came twice, and then each place holds what the value of its field is.
-/

namespace FilterBook

open Json Outcome

theorem lookup_eq_none_iff_not_mem {α : Type} {name : String} {entries : List (String × α)} :
    entries.lookup name = none ↔ name ∉ entries.map Prod.fst := by
  rw [List.lookup_eq_none_iff, List.mem_map]
  constructor
  · rintro h ⟨entry, hentry, rfl⟩
    simpa using h entry hentry
  · intro h entry hentry
    have hne : name ≠ entry.1 := by
      rintro rfl
      exact h ⟨entry, hentry, rfl⟩
    simpa using hne

/-- Where the value of a field is kept while a record is read, and what values go there. -/
structure FieldPlace (State : Type) where
  name : String
  Value : Type
  get : State → Option Value
  put : State → Value → State
  ofJson? : Json → Option Value

/-- The places of a record, each apart from the others. Nothing else is kept while it is read. -/
structure Layout (record : Record) (State : Type) where
  start : State
  places : List (FieldPlace State)
  names : places.map FieldPlace.name = record.fields
  distinct : record.fields.Nodup
  get_start : ∀ place ∈ places, place.get start = none
  get_put : ∀ place ∈ places, ∀ read value, place.get (place.put read value) = some value
  get_put_of_ne : ∀ place ∈ places, ∀ other ∈ places, other.name ≠ place.name →
    ∀ read value, other.get (place.put read value) = other.get read
  ext : ∀ read last, (∀ place ∈ places, place.get read = place.get last) → read = last

namespace Layout

variable {record : Record} {State : Type}

/-- A field is taken: its place was free, and is filled with what its value is. -/
def Takes (layout : Layout record State) (read : State) (name : String) (j : Json)
    (next : State) : Prop :=
  ∃ place ∈ layout.places, place.name = name ∧ place.get read = none ∧
    ∃ value, place.ofJson? j = some value ∧ next = place.put read value

/-- Fields are taken one after the other. -/
inductive Runs (layout : Layout record State) : State → List (String × Json) → State → Prop
  | nil (read : State) : Runs layout read [] read
  | cons {read next last : State} {field : String × Json} {fields : List (String × Json)}
      (h : layout.Takes read field.1 field.2 next) (hrest : Runs layout next fields last) :
      Runs layout read (field :: fields) last

/-- Each place holds what the value of its field is, and is free where there is no such field. -/
def Holds (layout : Layout record State) (fields : List (String × Json)) (read : State) : Prop :=
  ∀ place ∈ layout.places,
    (fields.lookup place.name).map place.ofJson? = (place.get read).map some

variable {layout : Layout record State} {seen fields : List (String × Json)}
variable {read next last : State} {name : String} {j : Json}

@[simp]
theorem runs_nil_iff : layout.Runs read [] last ↔ read = last := by
  constructor
  · intro hruns
    cases hruns
    rfl
  · rintro rfl
    exact .nil read

@[simp]
theorem runs_cons_iff {field : String × Json} :
    layout.Runs read (field :: fields) last ↔
      ∃ next, layout.Takes read field.1 field.2 next ∧ layout.Runs next fields last := by
  constructor
  · intro hruns
    cases hruns with
    | cons h hrest => exact ⟨_, h, hrest⟩
  · rintro ⟨next, h, hrest⟩
    exact .cons h hrest

theorem holds_start (layout : Layout record State) : layout.Holds [] layout.start := by
  intro place hplace
  rw [layout.get_start place hplace]
  rfl

theorem Holds.unique (h : layout.Holds fields read) (hlast : layout.Holds fields last) :
    read = last := by
  apply layout.ext
  intro place hplace
  have heq := (h place hplace).symm.trans (hlast place hplace)
  exact Option.map_injective (Option.some_injective _) heq

theorem eq_of_name_eq {place other : FieldPlace State} (hplace : place ∈ layout.places)
    (hother : other ∈ layout.places) (h : other.name = place.name) : other = place := by
  have hnodup : (layout.places.map FieldPlace.name).Nodup := by
    rw [layout.names]
    exact layout.distinct
  exact List.inj_on_of_nodup_map hnodup hother hplace h

/-- A place is free just where its field has not been seen. -/
theorem Holds.get_eq_none_iff (h : layout.Holds seen read) {place : FieldPlace State}
    (hplace : place ∈ layout.places) :
    place.get read = none ↔ place.name ∉ seen.map Prod.fst := by
  rw [← lookup_eq_none_iff_not_mem, ← Option.map_eq_none_iff (f := place.ofJson?),
    h place hplace, Option.map_eq_none_iff]

theorem Holds.put (h : layout.Holds seen read) {place : FieldPlace State}
    (hplace : place ∈ layout.places) (hfree : place.get read = none) {value : place.Value}
    (hvalue : place.ofJson? j = some value) :
    layout.Holds (seen ++ [(place.name, j)]) (place.put read value) := by
  intro other hother
  rw [List.lookup_append]
  by_cases hname : other.name = place.name
  · obtain rfl := eq_of_name_eq hplace hother hname
    have hunseen := lookup_eq_none_iff_not_mem.mpr ((h.get_eq_none_iff hplace).mp hfree)
    rw [layout.get_put other hplace, hunseen, Option.none_or, List.lookup_cons_self,
      Option.map_some, hvalue, Option.map_some]
  · have hlast : List.lookup other.name [(place.name, j)] = none := by
      rw [lookup_eq_none_iff_not_mem, List.map_singleton, List.mem_singleton]
      exact hname
    rw [layout.get_put_of_ne place hplace other hother hname, hlast, Option.or_none,
      h other hother]

/-- What is held tells of each field that it has a place, and a value that goes there. -/
theorem Holds.exists_value (h : layout.Holds (seen ++ (name, j) :: fields) last)
    (hknown : name ∈ record.fields) (hnew : name ∉ seen.map Prod.fst) :
    ∃ place ∈ layout.places, place.name = name ∧ ∃ value, place.ofJson? j = some value := by
  rw [← layout.names] at hknown
  obtain ⟨place, hplace, rfl⟩ := List.mem_map.mp hknown
  have hheld := h place hplace
  rw [List.lookup_append, lookup_eq_none_iff_not_mem.mpr hnew, Option.none_or,
    List.lookup_cons_self, Option.map_some] at hheld
  obtain ⟨value, -, hvalue⟩ := Option.map_eq_some_iff.mp hheld.symm
  exact ⟨place, hplace, rfl, value, hvalue.symm⟩

/-- A field is taken if its name is known and new, and its place then holds what it is. -/
theorem Holds.takes_iff (h : layout.Holds seen read) :
    layout.Takes read name j next ↔
      (name ∈ record.fields ∧ name ∉ seen.map Prod.fst) ∧
        layout.Holds (seen ++ [(name, j)]) next := by
  constructor
  · rintro ⟨place, hplace, rfl, hfree, value, hvalue, rfl⟩
    have hknown : place.name ∈ record.fields := by
      rw [← layout.names]
      exact List.mem_map_of_mem hplace
    exact ⟨⟨hknown, (h.get_eq_none_iff hplace).mp hfree⟩, h.put hplace hfree hvalue⟩
  · rintro ⟨⟨hknown, hnew⟩, hnext⟩
    obtain ⟨place, hplace, rfl, value, hvalue⟩ := hnext.exists_value hknown hnew
    have hfree := (h.get_eq_none_iff hplace).mpr hnew
    exact ⟨place, hplace, rfl, hfree, value, hvalue, hnext.unique (h.put hplace hfree hvalue)⟩

/-- Fields are taken one after the other if their names are known, new and distinct, and in the end
each place holds what its field is. -/
theorem Holds.runs_iff (h : layout.Holds seen read) :
    layout.Runs read fields last ↔
      (∀ name ∈ fields.map Prod.fst, name ∈ record.fields ∧ name ∉ seen.map Prod.fst) ∧
        (fields.map Prod.fst).Nodup ∧ layout.Holds (seen ++ fields) last := by
  induction fields generalizing seen read with
  | nil =>
      rw [runs_nil_iff, List.append_nil]
      constructor
      · rintro rfl
        exact ⟨List.forall_mem_nil _, List.nodup_nil, h⟩
      · rintro ⟨-, -, hlast⟩
        exact h.unique hlast
  | cons field fields ih =>
      obtain ⟨name, j⟩ := field
      have hsplit : seen ++ (name, j) :: fields = seen ++ [(name, j)] ++ fields := by
        rw [List.append_assoc, List.singleton_append]
      have hnames : (seen ++ [(name, j)]).map Prod.fst = seen.map Prod.fst ++ [name] :=
        List.map_append
      rw [runs_cons_iff, List.map_cons, List.forall_mem_cons, List.nodup_cons]
      constructor
      · rintro ⟨next, htakes, hrest⟩
        obtain ⟨hfield, hnext⟩ := h.takes_iff.mp htakes
        obtain ⟨hknown, hnodup, hlast⟩ := (ih hnext).mp hrest
        rw [hnames] at hknown
        rw [hsplit]
        refine ⟨⟨hfield, fun other hother => ?_⟩, ⟨fun hmem => ?_, hnodup⟩, hlast⟩
        · obtain ⟨hmem, hnew⟩ := hknown other hother
          exact ⟨hmem, fun hseen => hnew (List.mem_append_left _ hseen)⟩
        · exact (hknown name hmem).2 (List.mem_append_right _ List.mem_cons_self)
      · rintro ⟨⟨hfield, hknown⟩, ⟨hdistinct, hnodup⟩, hlast⟩
        obtain ⟨place, hplace, rfl, value, hvalue⟩ := hlast.exists_value hfield.1 hfield.2
        have hnext := h.put hplace ((h.get_eq_none_iff hplace).mpr hfield.2) hvalue
        have hothers : ∀ other ∈ fields.map Prod.fst, other ∈ record.fields ∧
            other ∉ (seen ++ [(place.name, j)]).map Prod.fst := by
          intro other hother
          obtain ⟨hmem, hnew⟩ := hknown other hother
          rw [hnames, List.mem_append, List.mem_singleton, not_or]
          exact ⟨hmem, hnew, fun heq => hdistinct (heq ▸ hother)⟩
        rw [hsplit] at hlast
        exact ⟨_, h.takes_iff.mpr ⟨hfield, hnext⟩, (ih hnext).mpr ⟨hothers, hnodup, hlast⟩⟩

end Layout

/-- The fields that a document lists for a record: those of an object in their order, or the items
of an array in the order of declaration. -/
inductive Json.Record.Lists (record : Record) : Json → List (String × Json) → Prop
  | object (fields : List (String × Json)) : Lists record (.object fields) fields
  | array {items : List Json} (h : items.length ≤ record.fields.length) :
      Lists record (.array items) (record.fields.zip items)

namespace Json.Record

variable {record : Record} {fields : List (String × Json)}

@[simp]
theorem lists_object_iff {own : List (String × Json)} :
    record.Lists (.object own) fields ↔ fields = own := by
  constructor
  · intro h
    cases h
    rfl
  · rintro rfl
    exact .object fields

@[simp]
theorem lists_array_iff {items : List Json} :
    record.Lists (.array items) fields ↔
      items.length ≤ record.fields.length ∧ fields = record.fields.zip items := by
  constructor
  · intro h
    cases h with
    | array h => exact ⟨h, rfl⟩
  · rintro ⟨h, rfl⟩
    exact .array h

end Json.Record

/-- The fields that a document gives to a record: known ones, and none of them twice. -/
structure Json.Record.Gives (record : Record) (j : Json) (fields : List (String × Json)) :
    Prop where
  lists : record.Lists j fields
  known : ∀ name ∈ fields.map Prod.fst, name ∈ record.fields
  nodup : (fields.map Prod.fst).Nodup

namespace Layout

variable {record : Record} {State : Type} {layout : Layout record State} {j : Json}
variable {read last : State} {fields : List (String × Json)}

theorem runs_start_iff :
    layout.Runs layout.start fields last ↔
      ((∀ name ∈ fields.map Prod.fst, name ∈ record.fields) ∧ (fields.map Prod.fst).Nodup) ∧
        layout.Holds fields last := by
  rw [layout.holds_start.runs_iff, List.nil_append, and_assoc]
  simp only [List.map_nil, List.not_mem_nil, not_false_eq_true, and_true]

theorem exists_runs_iff {P : State → Prop} :
    (∃ fields last, record.Lists j fields ∧ layout.Runs layout.start fields last ∧ P last) ↔
      ∃ fields last, record.Gives j fields ∧ layout.Holds fields last ∧ P last := by
  constructor
  · rintro ⟨fields, last, hlists, hruns, hlast⟩
    obtain ⟨⟨hknown, hnodup⟩, hholds⟩ := runs_start_iff.mp hruns
    exact ⟨fields, last, ⟨hlists, hknown, hnodup⟩, hholds, hlast⟩
  · rintro ⟨fields, last, hgives, hholds, hlast⟩
    have hruns := runs_start_iff.mpr ⟨⟨hgives.known, hgives.nodup⟩, hholds⟩
    exact ⟨fields, last, hgives.lists, hruns, hlast⟩

section Reading

variable {take : State → String → Reading → Except Fault State}
variable (htake : ∀ read name j next, take read name (.ofJson j) = .ok next ↔
  layout.Takes read name j next)
include htake

theorem takeFields_eq_ok_iff :
    takeFields take read (Reading.ofFields fields) none = .ok last ↔
      layout.Runs read fields last := by
  have hfold : takeFields take read (Reading.ofFields fields) none =
      (Reading.ofFields fields).foldlM (fun read field => take read field.1 field.2) read := by
    unfold takeFields
    exact bind_pure _
  rw [hfold]
  clear hfold
  induction fields generalizing read with
  | nil => rw [Reading.ofFields, List.foldlM_nil, pure_eq_ok, Except.ok.injEq, runs_nil_iff]
  | cons field fields ih =>
      rw [Reading.ofFields, List.foldlM_cons, bind_eq_ok_iff, runs_cons_iff]
      simp only [htake, ih]

/-- The items of an array are the fields of their names, as far as there are names. -/
theorem takeItems_eq_ok_iff {names : List String} {items : List Json} {rest : List Reading} :
    takeItems take names read (Reading.ofItems items) = .ok (last, rest) ↔
      layout.Runs read (names.zip items) last ∧
        Reading.ofItems (items.drop names.length) = rest := by
  induction names generalizing read items with
  | nil =>
      have hstop : takeItems take [] read (Reading.ofItems items) =
          .ok (read, Reading.ofItems items) := by
        simp only [takeItems]
      rw [hstop, Except.ok.injEq, Prod.mk.injEq, List.zip_nil_left, runs_nil_iff, List.length_nil,
        List.drop_zero]
  | cons name names ih =>
      cases items with
      | nil =>
          have hstop : takeItems take (name :: names) read [] = .ok (read, []) := rfl
          rw [Reading.ofItems, hstop, Except.ok.injEq, Prod.mk.injEq, List.zip_nil_right,
            runs_nil_iff, List.drop_nil, Reading.ofItems]
      | cons item items =>
          rw [Reading.ofItems, takeItems, bind_eq_ok_iff, List.zip_cons_cons, runs_cons_iff,
            List.length_cons, List.drop_succ_cons]
          simp only [htake, ih, exists_and_right, ← and_assoc]

/-- An array must not have more items than the record has fields. -/
theorem takeArray_eq_ok_iff {β : Type} {finish : Option Nat → State → Except Fault β}
    {Done : State → β → Prop}
    (hfinish : ∀ length read value, finish length read = .ok value ↔ Done read value)
    {items : List Json} {value : β} :
    takeRecord record take layout.start finish (.ofJson (.array items)) = .ok value ↔
      items.length ≤ record.fields.length ∧
        ∃ last, layout.Runs layout.start (record.fields.zip items) last ∧ Done last value := by
  have hlength : (Reading.ofItems items).length = items.length := by
    induction items with
    | nil => rfl
    | cons item items ih => rw [Reading.ofItems, List.length_cons, List.length_cons, ih]
  rw [Reading.ofJson, takeRecord, bind_eq_ok_iff]
  simp only [Prod.exists, takeItems_eq_ok_iff htake, hlength]
  by_cases hshort : items.length < record.fields.length
  · simp only [if_pos hshort, hfinish, Nat.le_of_lt hshort, true_and]
    constructor
    · rintro ⟨last, -, ⟨hruns, -⟩, hdone⟩
      exact ⟨last, hruns, hdone⟩
    · rintro ⟨last, hruns, hdone⟩
      exact ⟨last, _, ⟨hruns, rfl⟩, hdone⟩
  · simp only [if_neg hshort, bind_eq_ok_iff, hfinish, pure_eq_ok, Except.ok.injEq]
    constructor
    · rintro ⟨last, rest, ⟨hruns, rfl⟩, value, hdone, _, hend, rfl⟩
      refine ⟨?_, last, hruns, hdone⟩
      rw [← List.drop_eq_nil_iff]
      cases hrest : items.drop record.fields.length with
      | nil => rfl
      | cons item more =>
          rw [hrest] at hend
          cases hend
    · rintro ⟨hle, last, hruns, hdone⟩
      refine ⟨last, [], ⟨hruns, ?_⟩, value, hdone, (), rfl, rfl⟩
      rw [List.drop_eq_nil_iff.mpr hle, Reading.ofItems]

/-- A record is taken from a document that gives it known fields, each once, if what its places hold
then is enough. -/
theorem takeRecord_eq_ok_iff {β : Type} {finish : Option Nat → State → Except Fault β}
    {Done : State → β → Prop}
    (hfinish : ∀ length read value, finish length read = .ok value ↔ Done read value) {value : β} :
    takeRecord record take layout.start finish (.ofJson j) = .ok value ↔
      ∃ fields last, record.Gives j fields ∧ layout.Holds fields last ∧ Done last value := by
  rw [← exists_runs_iff]
  cases j with
  | object fields =>
      rw [Reading.ofJson, takeRecord, bind_eq_ok_iff]
      simp only [takeFields_eq_ok_iff htake, hfinish, Record.lists_object_iff, exists_and_left,
        exists_eq_left]
  | array items =>
      rw [takeArray_eq_ok_iff htake hfinish]
      simp only [Record.lists_array_iff, exists_and_left, and_assoc, exists_eq_left]
  | _ =>
      constructor
      · intro h
        cases h
      · rintro ⟨_, _, hlists, -⟩
        cases hlists

end Reading

end Layout

end FilterBook
