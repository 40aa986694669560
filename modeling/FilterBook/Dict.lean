/-!
Dictionaries that remember the order in which their names first came. Binding a name again replaces
its value and keeps its place; a new name goes to the end. Names never repeat, and the type carries
that fact.
-/

namespace FilterBook

namespace Dict

/-- Binds a name in a list of bindings, in place where the name is bound already. -/
def place {α : Type} (name : String) (value : α) : List (String × α) → List (String × α)
  | [] => [(name, value)]
  | (other, old) :: rest =>
      if other = name then (name, value) :: rest else (other, old) :: place name value rest

attribute [local simp] place

theorem mem_names_place {α : Type} {name x : String} {value : α} {entries : List (String × α)} :
    x ∈ (place name value entries).map Prod.fst ↔ x = name ∨ x ∈ entries.map Prod.fst := by
  induction entries with
  | nil => simp
  | cons entry rest ih =>
      obtain ⟨other, old⟩ := entry
      by_cases h : other = name
      · subst h
        simp
      · simp only [place, if_neg h, List.map_cons, List.mem_cons, ih]
        exact or_left_comm

theorem nodup_names_place {α : Type} {name : String} {value : α} {entries : List (String × α)}
    (h : (entries.map Prod.fst).Nodup) : ((place name value entries).map Prod.fst).Nodup := by
  induction entries with
  | nil => simp
  | cons entry rest ih =>
      obtain ⟨other, old⟩ := entry
      rw [List.map_cons, List.nodup_cons] at h
      by_cases hname : other = name
      · subst hname
        simpa using h
      · simp only [place, if_neg hname, List.map_cons, List.nodup_cons, mem_names_place, not_or]
        exact ⟨⟨hname, h.1⟩, ih h.2⟩

/-- A new name goes to the end; a name that is there keeps its place. -/
theorem names_place {α : Type} {name : String} {value : α} {entries : List (String × α)} :
    (place name value entries).map Prod.fst =
      if name ∈ entries.map Prod.fst then entries.map Prod.fst
      else entries.map Prod.fst ++ [name] := by
  induction entries with
  | nil => rfl
  | cons entry rest ih =>
      obtain ⟨other, old⟩ := entry
      by_cases hname : other = name
      · subst hname
        simp
      · have hne : name ≠ other := Ne.symm hname
        simp only [place, if_neg hname, List.map_cons, ih, List.mem_cons, hne, false_or]
        split <;> rfl

theorem place_of_not_mem {α : Type} {name : String} {value : α} {entries : List (String × α)}
    (h : name ∉ entries.map Prod.fst) : place name value entries = entries ++ [(name, value)] := by
  induction entries with
  | nil => rfl
  | cons entry rest ih =>
      obtain ⟨other, old⟩ := entry
      rw [List.map_cons, List.mem_cons, not_or] at h
      rw [place, if_neg (Ne.symm h.1), ih h.2, List.cons_append]

/-- Placing a binding drops the old one of its name, and keeps all others. -/
theorem mem_place {α : Type} {name x : String} {value v : α} {entries : List (String × α)}
    (h : (entries.map Prod.fst).Nodup) :
    (x, v) ∈ place name value entries ↔ (x = name ∧ v = value) ∨ (x ≠ name ∧ (x, v) ∈ entries) := by
  induction entries with
  | nil => simp
  | cons entry rest ih =>
      obtain ⟨other, old⟩ := entry
      rw [List.map_cons, List.nodup_cons] at h
      by_cases hname : other = name
      · subst hname
        have hrest : (x, v) ∈ rest → x ≠ other := by
          rintro hmem rfl
          exact h.1 (List.mem_map.mpr ⟨_, hmem, rfl⟩)
        simp only [place, if_true, List.mem_cons, Prod.mk.injEq]
        constructor
        · rintro (heq | hmem)
          · exact Or.inl heq
          · exact Or.inr ⟨hrest hmem, Or.inr hmem⟩
        · rintro (heq | ⟨hne, heq | hmem⟩)
          · exact Or.inl heq
          · exact absurd heq.1 hne
          · exact Or.inr hmem
      · simp only [place, if_neg hname, List.mem_cons, Prod.mk.injEq, ih h.2]
        constructor
        · rintro (⟨rfl, rfl⟩ | heq | ⟨hne, hmem⟩)
          · exact Or.inr ⟨hname, Or.inl ⟨rfl, rfl⟩⟩
          · exact Or.inl heq
          · exact Or.inr ⟨hne, Or.inr hmem⟩
        · rintro (heq | ⟨hne, heq | hmem⟩)
          · exact Or.inr (Or.inl heq)
          · exact Or.inl heq
          · exact Or.inr (Or.inr ⟨hne, hmem⟩)

/-- Among bindings of distinct names, the one that is looked up is the one that is there. -/
theorem lookup_eq_some_iff_mem {α : Type} {name : String} {value : α}
    {entries : List (String × α)} (h : (entries.map Prod.fst).Nodup) :
    entries.lookup name = some value ↔ (name, value) ∈ entries := by
  induction entries with
  | nil => simp
  | cons entry rest ih =>
      obtain ⟨other, old⟩ := entry
      rw [List.map_cons, List.nodup_cons] at h
      by_cases hname : name = other
      · subst hname
        have hrest : (name, value) ∉ rest := fun hmem => h.1 (List.mem_map.mpr ⟨_, hmem, rfl⟩)
        simp [hrest, eq_comm]
      · have hbeq : (name == other) = false := beq_false_of_ne hname
        simp [List.lookup_cons, hbeq, hname, ih h.2]

end Dict

/-- Values bound to distinct names, in the order in which the names came. -/
structure Dict (α : Type) where
  entries : List (String × α)
  nodup : (entries.map Prod.fst).Nodup

namespace Dict

variable {α : Type}

def empty : Dict α where
  entries := []
  nodup := List.nodup_nil

instance : Inhabited (Dict α) := ⟨empty⟩

def names (d : Dict α) : List String :=
  d.entries.map Prod.fst

def isEmpty (d : Dict α) : Bool :=
  d.entries.isEmpty

def get? (d : Dict α) (name : String) : Option α :=
  d.entries.lookup name

def contains (d : Dict α) (name : String) : Bool :=
  (d.get? name).isSome

def insert (d : Dict α) (name : String) (value : α) : Dict α where
  entries := place name value d.entries
  nodup := nodup_names_place d.nodup

def singleton (name : String) (value : α) : Dict α :=
  empty.insert name value

/-- Binds the given names one after the other, so the last of two bindings of a name holds. -/
def insertAll (d : Dict α) (bindings : List (String × α)) : Dict α :=
  bindings.foldl (fun d binding => d.insert binding.1 binding.2) d

def ofList (bindings : List (String × α)) : Dict α :=
  empty.insertAll bindings

theorem entries_singleton (name : String) (value : α) :
    (singleton name value).entries = [(name, value)] := rfl

theorem mem_entries_insert {d : Dict α} {name x : String} {value v : α} :
    (x, v) ∈ (d.insert name value).entries ↔
      (x = name ∧ v = value) ∨ (x ≠ name ∧ (x, v) ∈ d.entries) :=
  mem_place d.nodup

theorem names_insert {d : Dict α} {name : String} {value : α} :
    (d.insert name value).names = if name ∈ d.names then d.names else d.names ++ [name] :=
  names_place

/-- The names that come in are added in order, each where it comes first. -/
theorem names_insertAll {d : Dict α} {bindings : List (String × α)} :
    (d.insertAll bindings).names =
      d.names ++ ((bindings.map Prod.fst).removeAll d.names).eraseDups := by
  induction bindings generalizing d with
  | nil => simp [insertAll]
  | cons binding bindings ih =>
      obtain ⟨name, value⟩ := binding
      have hstep : d.insertAll ((name, value) :: bindings) =
          (d.insert name value).insertAll bindings := rfl
      rw [hstep, ih, names_insert, List.map_cons, List.cons_removeAll]
      by_cases hname : name ∈ d.names
      · simp [hname]
      · have hrest : (bindings.map Prod.fst).removeAll (d.names ++ [name]) =
            ((bindings.map Prod.fst).removeAll d.names).filter fun x => !x == name := by
          simp only [List.removeAll, List.filter_filter]
          congr 1
          funext x
          simp [Bool.beq_eq_decide_eq, Bool.and_comm]
        simp [hname, hrest, List.eraseDups_cons]

theorem insertAll_append (d : Dict α) (bindings others : List (String × α)) :
    d.insertAll (bindings ++ others) = (d.insertAll bindings).insertAll others :=
  List.foldl_append

/-- New names are added as they come. -/
theorem entries_insertAll_of_nodup {d : Dict α} {bindings : List (String × α)}
    (h : ((d.entries ++ bindings).map Prod.fst).Nodup) :
    (d.insertAll bindings).entries = d.entries ++ bindings := by
  induction bindings generalizing d with
  | nil => simp [insertAll]
  | cons binding bindings ih =>
      have hnew : binding.1 ∉ d.entries.map Prod.fst := by
        intro hmem
        rw [List.map_append, List.map_cons, List.nodup_append] at h
        exact h.2.2 _ hmem _ List.mem_cons_self rfl
      have hinsert : (d.insert binding.1 binding.2).entries = d.entries ++ [binding] :=
        place_of_not_mem hnew
      have hstep : d.insertAll (binding :: bindings) =
          (d.insert binding.1 binding.2).insertAll bindings := rfl
      have hsplit : d.entries ++ binding :: bindings = d.entries ++ [binding] ++ bindings := by
        simp
      rw [hsplit, ← hinsert] at h
      rw [hstep, ih h, hinsert, hsplit]

theorem get?_eq_some_iff {d : Dict α} {name : String} {value : α} :
    d.get? name = some value ↔ (name, value) ∈ d.entries :=
  lookup_eq_some_iff_mem d.nodup

theorem contains_iff_mem_names {d : Dict α} {name : String} :
    d.contains name = true ↔ name ∈ d.names := by
  simp [contains, get?, names]

theorem exists_get?_of_mem_names {d : Dict α} {name : String} (h : name ∈ d.names) :
    ∃ value, d.get? name = some value :=
  Option.isSome_iff_exists.mp (contains_iff_mem_names.mpr h)

theorem mem_entries_of_get? {d : Dict α} {name : String} {value : α}
    (h : d.get? name = some value) : (name, value) ∈ d.entries :=
  get?_eq_some_iff.mp h

@[ext]
theorem ext {d e : Dict α} (h : d.entries = e.entries) : d = e := by
  cases d
  cases e
  cases h
  rfl

theorem get?_insert (d : Dict α) (name other : String) (value : α) :
    (d.insert name value).get? other = if other = name then some value else d.get? other := by
  ext found
  rw [get?_eq_some_iff, mem_entries_insert, ← get?_eq_some_iff]
  by_cases hname : other = name
  · simp [hname, eq_comm]
  · simp [hname]

/-- Of the values that a name is given the last one holds. -/
theorem get?_insertAll (d : Dict α) (entries : List (String × α)) (name : String) :
    (d.insertAll entries).get? name = (entries.reverse.lookup name).or (d.get? name) := by
  induction entries generalizing d with
  | nil => rfl
  | cons entry entries ih =>
      have hstep : d.insertAll (entry :: entries) =
          (d.insert entry.1 entry.2).insertAll entries := rfl
      have hlast : (List.lookup name [entry]).or (d.get? name) =
          (d.insert entry.1 entry.2).get? name := by
        rw [get?_insert]
        by_cases hname : name = entry.1
        · rw [if_pos hname, hname, List.lookup_cons_self, Option.some_or]
        · rw [if_neg hname, List.lookup_cons, beq_false_of_ne hname, List.lookup_nil,
            Option.none_or]
      rw [hstep, ih, List.reverse_cons, List.lookup_append, Option.or_assoc, hlast]

/-- A dictionary is made of its entries. -/
theorem ofList_entries (d : Dict α) : ofList d.entries = d := by
  apply ext
  rw [ofList, entries_insertAll_of_nodup]
  · rfl
  · exact d.nodup

end Dict

end FilterBook
