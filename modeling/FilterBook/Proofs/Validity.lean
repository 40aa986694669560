import FilterBook.Schema

/-!
What a JSON Schema says of a document, as draft 7 has it. A schema is a document itself: an object
whose keywords each say something, or a boolean. References are followed to some depth, and a schema
admits a document if it does so from some depth on.
-/

namespace FilterBook.Schema

def Kind.of : Json → Kind
  | .null => .null
  | .bool _ => .boolean
  | .number _ => .number
  | .string _ => .string
  | .array _ => .array
  | .object _ => .object

/-- The schema that a reference leads to, among those that have names in the whole. -/
def referenced? (root : Json) (reference : String) : Option Json :=
  match root with
  | .object keywords =>
      match keywords.lookup "definitions" with
      | some (.object schemas) =>
          (schemas.find? fun schema => "#/definitions/" ++ schema.1 == reference).map Prod.snd
      | _ => none
  | _ => none

/-- The fields that are described one by one. -/
def describedNames (keywords : List (String × Json)) : List String :=
  match keywords.lookup "properties" with
  | some (.object fields) => fields.map Prod.fst
  | _ => []

/-- What a keyword says of a document, given what the schemas in it admit and which fields are
described beside it. A keyword that is not listed says nothing: it is there for the reader. -/
def Says (admits : Json → Json → Prop) (described : List String) (keyword : String)
    (value j : Json) : Prop :=
  if keyword = "type" then
    value = .string (Kind.of j).name ∨
      ∃ kinds, value = .array kinds ∧ .string (Kind.of j).name ∈ kinds
  else if keyword = "enum" then
    ∃ documents, value = .array documents ∧ j ∈ documents
  else if keyword = "anyOf" then
    ∃ schemas, value = .array schemas ∧ ∃ schema ∈ schemas, admits schema j
  else if keyword = "oneOf" then
    ∃ before schema after, value = .array (before ++ schema :: after) ∧ admits schema j ∧
      ∀ other ∈ before ++ after, ¬ admits other j
  else if keyword = "items" then
    ∀ items, j = .array items → ∀ item ∈ items, admits value item
  else if keyword = "required" then
    ∃ names, value = .array names ∧
      ∀ fields, j = .object fields → ∀ name, .string name ∈ names → name ∈ fields.map Prod.fst
  else if keyword = "properties" then
    ∃ schemas, value = .object schemas ∧
      ∀ fields, j = .object fields → ∀ field ∈ fields, ∀ schema,
        schemas.lookup field.1 = some schema → admits schema field.2
  else if keyword = "additionalProperties" then
    ∀ fields, j = .object fields → ∀ field ∈ fields, field.1 ∉ described → admits value field.2
  else True

/-- Whether a schema admits a document, if no more than so many schemas within each other are looked
into. Beside a reference no keyword counts. -/
def Admits (root : Json) : (depth : Nat) → (schema j : Json) → Prop
  | 0, _, _ => False
  | depth + 1, schema, j =>
      match schema with
      | .bool value => value = true
      | .object keywords =>
          match keywords.lookup "$ref" with
          | some (.string reference) =>
              ∃ target, referenced? root reference = some target ∧ Admits root depth target j
          | _ =>
              ∀ keyword ∈ keywords,
                Says (Admits root depth) (describedNames keywords) keyword.1 keyword.2 j
      | _ => False

/-- Whether a document is valid against a schema. -/
def Valid (root j : Json) : Prop :=
  ∃ enough, ∀ depth, enough ≤ depth → Admits root depth root j

def toJson (schema : Schema) : Json :=
  .object (Keyword.keywordFields schema)

namespace Keyword

/-- What a keyword of one's own says. -/
def Means (admits : Json → Json → Prop) (described : List String) : Keyword → Json → Prop
  | description _, _ => True
  | absent _, _ => True
  | kind k, j => Kind.of j = k
  | oneString texts, j => ∃ text ∈ texts, j = .string text
  | anyOf schemas, j => ∃ schema ∈ schemas, admits (toJson schema) j
  | oneOf schemas, j =>
      ∃ before schema after, schemas = before ++ schema :: after ∧ admits (toJson schema) j ∧
        ∀ other ∈ before ++ after, ¬ admits (toJson other) j
  | items schema, j => ∀ items, j = .array items → ∀ item ∈ items, admits (toJson schema) item
  | required names, j =>
      ∀ fields, j = .object fields → ∀ name ∈ names, name ∈ fields.map Prod.fst
  | properties schemas, j =>
      ∀ fields, j = .object fields → ∀ field ∈ fields, ∀ schema,
        schemas.lookup field.1 = some schema → admits (toJson schema) field.2
  | otherFields schema, j =>
      ∀ fields, j = .object fields → ∀ field ∈ fields, field.1 ∉ described →
        admits (toJson schema) field.2
  | noOtherFields, j =>
      ∀ fields, j = .object fields → ∀ field ∈ fields, field.1 ∉ described →
        admits (.bool false) field.2
  | reference _, _ => True

theorem schemaItems_eq_map (schemas : List Schema) : schemaItems schemas = schemas.map toJson := by
  induction schemas with
  | nil => rfl
  | cons schema schemas ih =>
      rw [schemaItems, ih]
      rfl

theorem propertyFields_eq_map (fields : List (String × Schema)) :
    propertyFields fields = fields.map fun field => (field.1, toJson field.2) := by
  induction fields with
  | nil => rfl
  | cons field fields ih =>
      rw [propertyFields, ih]
      rfl

theorem lookup_propertyFields (fields : List (String × Schema)) (name : String) :
    (propertyFields fields).lookup name = (fields.lookup name).map toJson := by
  induction fields with
  | nil => rfl
  | cons field fields ih =>
      obtain ⟨other, schema⟩ := field
      rw [propertyFields, List.lookup_cons, List.lookup_cons, ih]
      cases name == other with
      | false => rfl
      | true => rfl

section Means

variable {admits : Json → Json → Prop} {described : List String} {j : Json}

attribute [local simp] Says name value Means

theorem says_kind (k : Kind) :
    Says admits described (kind k).name (kind k).value j ↔ (kind k).Means admits described j := by
  have hname : ∀ k other : Kind, k.name = other.name ↔ other = k := by
    intro k other
    cases k <;> cases other <;> decide
  simp [hname]

theorem says_oneString (texts : List String) :
    Says admits described (oneString texts).name (oneString texts).value j ↔
      (oneString texts).Means admits described j := by
  simp [strings, eq_comm (a := j)]

theorem says_anyOf (schemas : List Schema) :
    Says admits described (anyOf schemas).name (anyOf schemas).value j ↔
      (anyOf schemas).Means admits described j := by
  have hmeant : Says admits described (anyOf schemas).name (anyOf schemas).value j ↔
      ∃ schema ∈ schemas.map toJson, admits schema j := by
    simp [schemaItems_eq_map]
  rw [hmeant]
  constructor
  · rintro ⟨_, hmem, hadmits⟩
    obtain ⟨schema, hschema, rfl⟩ := List.mem_map.mp hmem
    exact ⟨schema, hschema, hadmits⟩
  · rintro ⟨schema, hschema, hadmits⟩
    exact ⟨_, List.mem_map_of_mem hschema, hadmits⟩

theorem says_oneOf (schemas : List Schema) :
    Says admits described (oneOf schemas).name (oneOf schemas).value j ↔
      (oneOf schemas).Means admits described j := by
  have hmeant : Says admits described (oneOf schemas).name (oneOf schemas).value j ↔
      ∃ before schema after, schemas.map toJson = before ++ schema :: after ∧ admits schema j ∧
        ∀ other ∈ before ++ after, ¬ admits other j := by
    simp [schemaItems_eq_map]
  rw [hmeant]
  constructor
  · rintro ⟨before, _, after, hschemas, hadmits, hothers⟩
    obtain ⟨front, back, rfl, rfl, hback⟩ := List.map_eq_append_iff.mp hschemas
    obtain ⟨schema, rest, rfl, rfl, rfl⟩ := List.map_eq_cons_iff.mp hback
    rw [← List.map_append, List.forall_mem_map] at hothers
    exact ⟨front, schema, rest, rfl, hadmits, hothers⟩
  · rintro ⟨front, schema, rest, rfl, hadmits, hothers⟩
    refine ⟨front.map toJson, toJson schema, rest.map toJson, by simp, hadmits, ?_⟩
    rw [← List.map_append, List.forall_mem_map]
    exact hothers

theorem says_items (schema : Schema) :
    Says admits described (items schema).name (items schema).value j ↔
      (items schema).Means admits described j := by
  simp [toJson]

theorem says_required (names : List String) :
    Says admits described (required names).name (required names).value j ↔
      (required names).Means admits described j := by
  simp [strings]

theorem says_properties (schemas : List (String × Schema)) :
    Says admits described (properties schemas).name (properties schemas).value j ↔
      (properties schemas).Means admits described j := by
  simp [lookup_propertyFields]

/-- What the keywords of the typed schemas are told to say is what they say. -/
theorem says_iff_means (keyword : Keyword) :
    Says admits described keyword.name keyword.value j ↔ keyword.Means admits described j := by
  cases keyword with
  | description text => simp
  | absent value => simp
  | kind k => exact says_kind k
  | oneString texts => exact says_oneString texts
  | anyOf schemas => exact says_anyOf schemas
  | oneOf schemas => exact says_oneOf schemas
  | items schema => exact says_items schema
  | required names => exact says_required names
  | properties schemas => exact says_properties schemas
  | otherFields schema => simp [toJson]
  | noOtherFields => simp
  | reference name => simp

end Means

theorem keywordFields_eq_map (schema : Schema) :
    keywordFields schema = schema.map fun keyword => (keyword.name, keyword.value) := by
  induction schema with
  | nil => rfl
  | cons keyword schema ih => rw [keywordFields, ih, List.map_cons]

theorem lookup_keywordFields {schema : Schema} {name : String}
    (h : ∀ keyword ∈ schema, keyword.name ≠ name) : (keywordFields schema).lookup name = none := by
  rw [keywordFields_eq_map, List.lookup_eq_none_iff]
  intro field hfield
  obtain ⟨keyword, hkeyword, rfl⟩ := List.mem_map.mp hfield
  exact bne_iff_ne.mpr (Ne.symm (h keyword hkeyword))

end Keyword

open Keyword

variable {root : Json} {depth : Nat} {j : Json}

/-- A schema without a reference admits what all of its keywords say. -/
theorem admits_object {keywords : List (String × Json)} (h : keywords.lookup "$ref" = none) :
    Admits root (depth + 1) (.object keywords) j ↔
      ∀ keyword ∈ keywords,
        Says (Admits root depth) (describedNames keywords) keyword.1 keyword.2 j := by
  rw [Admits]
  simp only [h]

/-- The fields that the keywords of a schema describe one by one. -/
def describes (schema : Schema) : List String :=
  describedNames (keywordFields schema)

theorem admits_toJson {schema : Schema} (h : ∀ keyword ∈ schema, keyword.name ≠ "$ref") :
    Admits root (depth + 1) (toJson schema) j ↔
      ∀ keyword ∈ schema, keyword.Means (Admits root depth) schema.describes j := by
  rw [toJson, admits_object (lookup_keywordFields h)]
  simp only [keywordFields_eq_map schema, List.forall_mem_map, ← says_iff_means, describes]

/-- The keywords of the whole. -/
def rootKeywords (b : SchemaBook) : List (String × Json) :=
  [("$schema", Json.string "http://json-schema.org/draft-07/schema#"),
    ("title", .string b.title)] ++
    keywordFields b.root ++ [("definitions", .object (propertyFields b.definitions))]

theorem toJson_eq (b : SchemaBook) : b.toJson = .object (rootKeywords b) := rfl

theorem lookup_rootKeywords (b : SchemaBook) {name : String} (hschema : name ≠ "$schema")
    (htitle : name ≠ "title") :
    (rootKeywords b).lookup name = ((keywordFields b.root).lookup name).or
      (if name = "definitions" then some (Json.object (propertyFields b.definitions))
        else none) := by
  rw [rootKeywords, List.lookup_append, List.lookup_append]
  simp only [List.lookup_cons, beq_false_of_ne hschema, beq_false_of_ne htitle, List.lookup_nil,
    Option.none_or]
  by_cases hname : name = "definitions"
  · simp [hname]
  · simp [hname, beq_false_of_ne hname]

/-- A reference leads to the schema of its name. -/
theorem referenced?_toJson {b : SchemaBook}
    (h : ∀ keyword ∈ b.root, keyword.name ≠ "definitions") (name : String) :
    referenced? b.toJson ("#/definitions/" ++ name) = (b.definitions.lookup name).map toJson := by
  have hfind (schemas : List (String × Schema)) :
      ((propertyFields schemas).find? fun schema =>
        "#/definitions/" ++ schema.1 == "#/definitions/" ++ name).map Prod.snd =
        (schemas.lookup name).map toJson := by
    induction schemas with
    | nil => rfl
    | cons entry schemas ih =>
        obtain ⟨other, schema⟩ := entry
        rw [propertyFields, List.find?_cons, List.lookup_cons]
        by_cases hname : name = other
        · simp [hname, toJson]
        · have hother : ("#/definitions/" ++ other == "#/definitions/" ++ name) = false := by
            simpa using Ne.symm hname
          rw [hother, beq_false_of_ne hname]
          exact ih
  have hlookup := lookup_rootKeywords b (by decide : "definitions" ≠ "$schema") (by decide)
  rw [lookup_keywordFields h, if_pos rfl, Option.none_or] at hlookup
  rw [toJson_eq, referenced?]
  simp only [hlookup, hfind]

theorem admits_reference {b : SchemaBook} (h : ∀ keyword ∈ b.root, keyword.name ≠ "definitions")
    (name : String) :
    Admits b.toJson (depth + 1) (toJson [.reference name]) j ↔
      ∃ schema, b.definitions.lookup name = some schema ∧
        Admits b.toJson depth (toJson schema) j := by
  have hlookup : (keywordFields [.reference name]).lookup "$ref" =
      some (.string ("#/definitions/" ++ name)) := rfl
  rw [toJson, Admits]
  simp only [hlookup, referenced?_toJson h, Option.map_eq_some_iff]
  constructor
  · rintro ⟨_, ⟨schema, hschema, rfl⟩, hadmits⟩
    exact ⟨schema, hschema, hadmits⟩
  · rintro ⟨schema, hschema, hadmits⟩
    exact ⟨_, ⟨schema, hschema, rfl⟩, hadmits⟩

/-- The whole admits what its root schema does: the title and the schemas with names say nothing. -/
theorem admits_root {b : SchemaBook}
    (h : ∀ keyword ∈ b.root, keyword.name ≠ "$ref") :
    Admits b.toJson (depth + 1) b.toJson j ↔
      ∀ keyword ∈ b.root, keyword.Means (Admits b.toJson depth) b.root.describes j := by
  have href := lookup_rootKeywords b (by decide : "$ref" ≠ "$schema") (by decide)
  have hproperties := lookup_rootKeywords b (by decide : "properties" ≠ "$schema") (by decide)
  rw [lookup_keywordFields h, if_neg (by decide), Option.or_none] at href
  rw [if_neg (by decide), Option.or_none] at hproperties
  have hdescribes : describedNames (rootKeywords b) = b.root.describes := by
    rw [describes, describedNames, hproperties]
    rfl
  have hschema (value : Json) :
      Says (Admits b.toJson depth) b.root.describes "$schema" value j := by
    simp [Says]
  have htitle (value : Json) : Says (Admits b.toJson depth) b.root.describes "title" value j := by
    simp [Says]
  have hdefinitions (value : Json) :
      Says (Admits b.toJson depth) b.root.describes "definitions" value j := by
    simp [Says]
  rw [toJson_eq, admits_object href, hdescribes, ← toJson_eq, rootKeywords]
  simp only [List.cons_append, List.nil_append, List.forall_mem_cons, List.forall_mem_append,
    List.not_mem_nil, false_implies, implies_true, and_true, hschema, htitle, hdefinitions,
    true_and, keywordFields_eq_map, List.forall_mem_map, says_iff_means]

end FilterBook.Schema
