import ProfileFilter.Api.Endpoint
import ProfileFilter.Proofs.Json.Indented
import ProfileFilter.Proofs.Validate.Source

/-!
# Attributes as records

An attribute is written as a record in two ways: for files without the fields that have nothing to
tell, and for answers with all of them. The check for attributes takes both for the attribute they
were made of.

Main statements: `Check.profileAttribute_attributeRecord`, `Check.profileAttribute_answerRecord`.
-/

namespace ProfileFilter

namespace AttributeType

/-- The name of a type means the type. -/
theorem ofValue_toValue (type : AttributeType) : ofValue type.toValue = type := by
  cases type <;> decide

end AttributeType

namespace Check

variable {α : Type} {check : Value → Validated α}

/-- The name of a type is read as the type. -/
theorem attributeType_toValue (type : AttributeType) :
    attributeType type.toValue = .valid type := by
  rw [attributeType, AttributeType.ofValue_toValue]
  exact if_pos rfl

/-- A label that was read from JSON is taken for a type, whatever it is. -/
theorem attributeType_of_isJson {v : Value} (h : v.isJson = true) :
    attributeType v = .valid (Directory.typeLabel v) :=
  if_pos (Value.isShowable_of_isJson h)

/-- A list of values that pass passes. -/
theorem list_of_forall {values : List α} {write : α → Value}
    (h : ∀ a ∈ values, check (write a) = .valid a) :
    list check (.list (values.map write)) = .valid values := by
  rw [← Validated.value?_eq_some, value?_list]
  induction values with
  | nil => rfl
  | cons a rest ih =>
    obtain ⟨ha, hrest⟩ := List.forall_mem_cons.mp h
    rw [List.map_cons, List.mapM_cons, ih hrest, ha]
    rfl

/-- A mapping from texts to values that pass passes. -/
theorem mapping_of_forall {fields : List (Text × α)} (write : α → Value)
    (h : ∀ field ∈ fields, check (write field.2) = .valid field.2) :
    mapping check (.record (fields.map fun field => (field.1, write field.2))) =
      .valid fields := by
  simp only [Value.record, mapping, List.map_map]
  induction fields with
  | nil => rfl
  | cons field rest ih =>
    obtain ⟨hfield, hrest⟩ := List.forall_mem_cons.mp h
    rw [List.map_cons, Validated.collect, ih hrest]
    simp only [Function.comp_apply, hfield]
    rfl

theorem optional_of_findField? {keys : List Text} {entries : Entries} (key : Text) {v : Value}
    {default a : α} (hfind : findField? keys entries = some (key, v)) (h : check v = .valid a) :
    optional keys default check entries = .valid a := by
  rw [optional, hfind]
  exact Validated.under_eq_valid.mpr h

/-- A field that is left out when there is nothing to tell. -/
theorem optional_of_told {keys : List Text} {entries : Entries} (key : Text) {wrap : α → Value}
    {check : Value → Validated (Option α)} (h : ∀ a, check (wrap a) = .valid (some a))
    {o : Option α} (hfind : findField? keys entries = o.map fun a => (key, wrap a)) :
    optional keys none check entries = .valid o := by
  cases o with
  | none => rw [optional, hfind, Option.map_none]
  | some a => exact optional_of_findField? key hfind (h a)

/-- A field that is null when there is nothing to tell. -/
theorem nullable_ofOption {wrap : α → Value}
    (h : ∀ a, nullable check (wrap a) = .valid (some a)) (o : Option α) :
    nullable check (.ofOption wrap o) = .valid o := by
  cases o with
  | none => rfl
  | some a => exact h a

/-! ## The fields of attributes -/

theorem nullable_text (t : Text) : nullable text (.text t) = .valid (some t) := rfl

theorem nullable_textList (texts : List Text) :
    nullable (list text) (Format.textList texts) = .valid (some texts) :=
  Validated.map_eq_valid.mpr ⟨texts, list_of_forall fun _ _ => rfl, rfl⟩

theorem schemaField_record (source : Source) (type : AttributeType) :
    schemaField source (.record [("type", type.toValue)]) = .valid type := by
  show optional ["type"] .string attributeType [(.text "type", type.toValue)] = _
  exact optional_of_findField? "type" rfl (attributeType_toValue type)

theorem schema_schemaRecord (source : Source) (fields : Schema) :
    schema source (Format.schemaRecord fields) = .valid (some fields) :=
  Validated.map_eq_valid.mpr
    ⟨fields, mapping_of_forall (fun type => .record [("type", type.toValue)])
      fun field _ => schemaField_record source field.2, rfl⟩

variable {source : Source} {entries : Entries} {a : Attribute}

/-- An attribute is read field by field. -/
theorem profileAttribute_of_fields (hname : Value.lookup? "name" entries = some (.text a.name))
    (htype : findField? ["type"] entries = some (("type" : Text), a.type.toValue))
    (hcustom : findField? ["isCustom", "is_custom"] entries =
      some (("isCustom" : Text), .bool a.isCustom))
    (hdisplay : optional ["displayName", "display_name"] none (nullable text) entries =
      .valid a.displayName)
    (henum : optional ["enumValues", "enum_values"] none (nullable (list text)) entries =
      .valid a.enumValues)
    (hschema : optional ["schema", "list_schema"] none (schema source) entries =
      .valid a.schema) :
    profileAttribute source (.mapping entries) = .valid a := by
  have hrequired : required "name" text entries = .valid a.name := by
    rw [required, hname]
    rfl
  have hflag : boolean (.bool a.isCustom) = .valid a.isCustom := rfl
  rw [profileAttribute, record, hrequired, optional_of_findField? _ htype (attributeType_toValue _),
    optional_of_findField? _ hcustom hflag, hdisplay, henum, hschema]
  rfl

/-- **The record in a file is read as the attribute it was made of.** -/
theorem profileAttribute_attributeRecord (source : Source) (a : Attribute) :
    profileAttribute source (Format.attributeRecord a) = .valid a := by
  obtain ⟨name, type, isCustom, displayName, enumValues, fields⟩ := a
  refine profileAttribute_of_fields ?_ ?_ ?_
    (optional_of_told "displayName" nullable_text ?_)
    (optional_of_told "enumValues" nullable_textList ?_)
    (optional_of_told "schema" (schema_schemaRecord source) ?_)
  all_goals cases displayName <;> cases enumValues <;> cases fields <;> rfl

/-- **The record in an answer is read as the attribute it was made of.** -/
theorem profileAttribute_answerRecord (source : Source) (a : Attribute) :
    profileAttribute source (Api.attributeRecord a) = .valid a :=
  profileAttribute_of_fields rfl rfl rfl
    (optional_of_findField? "displayName" rfl (nullable_ofOption nullable_text _))
    (optional_of_findField? "enumValues" rfl (nullable_ofOption nullable_textList _))
    (optional_of_findField? "schema" rfl (nullable_ofOption (schema_schemaRecord source) _))

end Check

end ProfileFilter
