import ProfileFilter.Proofs.Api.Query
import ProfileFilter.Proofs.Attribute.Record
import ProfileFilter.Proofs.Command.Files
import ProfileFilter.Proofs.Command.Filter
import ProfileFilter.Proofs.EntryPoints
import ProfileFilter.Proofs.Json.Portable

/-!
# Saved attributes

The command that loads attributes prints them as JSON, and what it prints can be saved and used by
other commands; the endpoint that loads them answers with records that can be sent back. Both give
the attributes that were loaded (`saved_attributes_load_back`).

The printed text is JSON for the record of the attributes, whatever is in it. But a file is read as
YAML, and a text may hold code points that JSON carries as they stand and YAML refuses. What is
known of the reader is `Document.Reads`.
-/

namespace ProfileFilter

/-! ## The texts of attributes -/

namespace Attribute

/-- The texts that are told about an attribute, apart from the names in its schema. -/
def values (a : Attribute) : List Text := a.name :: (a.displayName.toList ++ a.enumValues.getD [])

/-- The names in its schema. -/
def fieldNames (a : Attribute) : List Text := (a.schema.getD []).map Prod.fst

end Attribute

namespace Format

/-- The names in the record of an attribute. -/
def recordNames : List Text := ["name", "type", "isCustom", "displayName", "enumValues", "schema"]

/-- The fields of the record of an attribute. -/
def attributeFields (a : Attribute) : List (Text × Value) :=
  let fields : List (Text × Value) :=
    [("name", .text a.name), ("type", a.type.toValue), ("isCustom", .bool a.isCustom)]
  fields ++ told "displayName" .text a.displayName ++ told "enumValues" textList a.enumValues ++
    told "schema" schemaRecord a.schema

theorem attributeRecord_eq (a : Attribute) : attributeRecord a = .record (attributeFields a) := rfl

theorem forall_mem_told {α : Type} {key : Text} {wrap : α → Value} {o : Option α}
    {Q : Text × Value → Prop} :
    (∀ field ∈ told key wrap o, Q field) ↔ ∀ a, o = some a → Q (key, wrap a) := by
  cases o <;> simp [told]

theorem told_sublist {α : Type} (key : Text) (wrap : α → Value) (o : Option α) :
    ((told key wrap o).map Prod.fst).Sublist [key] := by
  cases o with
  | none => exact List.nil_sublist _
  | some a => exact List.Sublist.refl _

/-- Fields may be left out, and that is all. -/
theorem attributeFields_sublist (a : Attribute) :
    ((attributeFields a).map Prod.fst).Sublist recordNames := by
  simp only [attributeFields, List.map_append]
  exact (((List.Sublist.refl [("name" : Text), "type", "isCustom"]).append
    (told_sublist _ _ _)).append (told_sublist _ _ _)).append (told_sublist _ _ _)

/-- What all fields of an attribute have. -/
theorem forall_mem_attributeFields {a : Attribute} {Q : Text × Value → Prop} :
    (∀ field ∈ attributeFields a, Q field) ↔
      Q ("name", .text a.name) ∧ Q ("type", a.type.toValue) ∧ Q ("isCustom", .bool a.isCustom) ∧
        (∀ t, a.displayName = some t → Q ("displayName", .text t)) ∧
        (∀ texts, a.enumValues = some texts → Q ("enumValues", textList texts)) ∧
        ∀ schema, a.schema = some schema → Q ("schema", schemaRecord schema) := by
  simp only [attributeFields, List.forall_mem_append, List.forall_mem_cons, forall_mem_told,
    List.not_mem_nil, false_imp_iff, implies_true, and_true, and_assoc]

section Simple

variable {P K : Text → Prop} (hP : ∀ type : AttributeType, P (Text.ofString type.name))
  (hK : ∀ name ∈ ("attributes" : Text) :: "warnings" :: recordNames, K name)

theorem isSimple_textList {n : Nat} {texts : List Text} (h : ∀ t ∈ texts, P t) :
    (textList texts).IsSimple P K (n + 1) :=
  .list <| List.forall_mem_map.mpr fun t ht => .text (h t ht)

include hP hK

theorem isSimple_schemaRecord {n : Nat} {schema : Schema} (hnames : (schema.map Prod.fst).Nodup)
    (h : ∀ name ∈ schema.map Prod.fst, K name) :
    (schemaRecord schema).IsSimple P K (n + 2) := by
  refine .record ?_ ?_ ?_
  · rwa [List.map_map]
  · exact List.forall_mem_map.mpr fun field hfield => h _ (List.mem_map_of_mem hfield)
  · refine List.forall_mem_map.mpr fun field _ => .record (List.nodup_singleton _) ?_ ?_
    · exact List.forall_mem_singleton.mpr (hK "type" (by decide))
    · exact List.forall_mem_singleton.mpr (.text (hP field.2))

theorem isSimple_attributeRecord {a : Attribute} (hnodup : a.fieldNames.Nodup)
    (hvalues : ∀ t ∈ a.values, P t) (hnames : ∀ t ∈ a.fieldNames, K t) :
    (attributeRecord a).IsSimple P K 3 := by
  have hsublist := attributeFields_sublist a
  obtain ⟨hname, hothers⟩ := List.forall_mem_cons.mp hvalues
  obtain ⟨hdisplay, henum⟩ := List.forall_mem_append.mp hothers
  rw [attributeRecord_eq]
  refine .record (hsublist.nodup (by decide)) (fun field hfield => hK _ (List.mem_cons_of_mem _
    (List.mem_cons_of_mem _ (hsublist.subset (List.mem_map_of_mem hfield))))) ?_
  refine forall_mem_attributeFields.mpr ⟨.text hname, .text (hP a.type), .bool _, ?_, ?_, ?_⟩
  · rintro t ht
    exact .text (hdisplay t (by rw [ht]; exact List.mem_singleton_self t))
  · rintro texts htexts
    exact isSimple_textList fun t ht => henum t (by rw [htexts]; exact ht)
  · rintro schema hschema
    simp only [Attribute.fieldNames, hschema, Option.getD_some] at hnodup hnames
    exact isSimple_schemaRecord hP hK hnodup hnames

end Simple

theorem allPoints_textList (p : CodePoint → Bool) (texts : List Text) :
    (textList texts).allPoints p = texts.all (·.all p) := by
  rw [textList, Value.allPoints, Value.allPointsOf_eq, List.all_map]
  rfl

/-- The code points of an attribute stand in its record. -/
theorem all_of_allPoints_attributeRecord {p : CodePoint → Bool} {a : Attribute}
    (h : (attributeRecord a).allPoints p = true) :
    ∀ t ∈ a.values ++ a.fieldNames, t.all p = true := by
  have hfields : ∀ field ∈ attributeFields a, field.2.allPoints p = true := by
    rw [attributeRecord_eq, Value.allPoints_record, List.all_eq_true] at h
    exact fun field hfield => (Bool.and_eq_true_iff.mp (h field hfield)).2
  obtain ⟨hname, -, -, hdisplay, henum, hschema⟩ := forall_mem_attributeFields.mp hfields
  refine List.forall_mem_append.mpr ⟨List.forall_mem_cons.mpr ⟨hname,
    List.forall_mem_append.mpr ⟨fun t ht => ?_, fun t ht => ?_⟩⟩, fun t ht => ?_⟩
  · exact hdisplay t (Option.mem_toList.mp ht)
  · cases htexts : a.enumValues with
    | none =>
      rw [htexts] at ht
      exact absurd ht List.not_mem_nil
    | some texts =>
      rw [htexts] at ht
      have hlist := henum texts htexts
      rw [allPoints_textList, List.all_eq_true] at hlist
      exact hlist t ht
  · rw [Attribute.fieldNames] at ht
    cases hfound : a.schema with
    | none =>
      rw [hfound] at ht
      exact absurd ht List.not_mem_nil
    | some schema =>
      rw [hfound] at ht
      have hrecord := hschema schema hfound
      rw [schemaRecord, Value.allPoints_record, List.all_map, List.all_eq_true] at hrecord
      obtain ⟨field, hfield, rfl⟩ := List.mem_map.mp ht
      exact (Bool.and_eq_true_iff.mp (hrecord field hfield)).1

end Format

namespace Directory.Load

/-- The texts that are told of a load, apart from the names in schemas. -/
def values (load : Load) : List Text := load.attributes.flatMap Attribute.values ++ load.warnings

/-- The names in the schemas. -/
def fieldNames (load : Load) : List Text := load.attributes.flatMap Attribute.fieldNames

/-- No schema has a name twice. -/
def HasDistinctNames (load : Load) : Prop := ∀ a ∈ load.attributes, a.fieldNames.Nodup

/-- The record that is printed. -/
def record (load : Load) : Value :=
  .record [("attributes", .list (load.attributes.map Format.attributeRecord)),
    ("warnings", Format.textList load.warnings)]

theorem attributes_eq (load : Load) : Format.attributes true load = Format.json load.record := rfl

variable {load : Load}

theorem isSimple_record {P K : Text → Prop}
    (hP : ∀ type : AttributeType, P (Text.ofString type.name))
    (hK : ∀ name ∈ ("attributes" : Text) :: "warnings" :: Format.recordNames, K name)
    (hdistinct : load.HasDistinctNames) (hvalues : ∀ t ∈ load.values, P t)
    (hnames : ∀ t ∈ load.fieldNames, K t) : load.record.IsSimple P K 5 := by
  obtain ⟨hattributes, hwarnings⟩ := List.forall_mem_append.mp hvalues
  refine .record (show [("attributes" : Text), "warnings"].Nodup by decide) ?_
    (List.forall_mem_cons.mpr ⟨?_, List.forall_mem_singleton.mpr ?_⟩)
  · exact List.forall_mem_cons.mpr ⟨hK "attributes" (by decide),
      List.forall_mem_singleton.mpr (hK "warnings" (by decide))⟩
  · refine .list (List.forall_mem_map.mpr fun a ha => ?_)
    exact Format.isSimple_attributeRecord hP hK (hdistinct a ha)
      (fun t ht => hattributes t (List.mem_flatMap.mpr ⟨a, ha, ht⟩))
      fun t ht => hnames t (List.mem_flatMap.mpr ⟨a, ha, ht⟩)
  · exact Format.isSimple_textList hwarnings

/-- The code points of the texts stand in the record. -/
theorem all_of_allPoints_record {p : CodePoint → Bool} (h : load.record.allPoints p = true) :
    ∀ t ∈ load.values ++ load.fieldNames, t.all p = true := by
  rw [record, Value.allPoints_record, List.all_eq_true] at h
  obtain ⟨hlist, hrest⟩ := List.forall_mem_cons.mp fun field hfield =>
    (Bool.and_eq_true_iff.mp (h field hfield)).2
  have hwarnings := List.forall_mem_singleton.mp hrest
  rw [Format.allPoints_textList, List.all_eq_true] at hwarnings
  simp only [Value.allPoints, Value.allPointsOf_eq, List.all_map, List.all_eq_true] at hlist
  have hattribute : ∀ a ∈ load.attributes, ∀ t ∈ a.values ++ a.fieldNames, t.all p = true :=
    fun a ha => Format.all_of_allPoints_attributeRecord (hlist a ha)
  refine List.forall_mem_append.mpr ⟨List.forall_mem_append.mpr ⟨?_, ?_⟩, ?_⟩
  · intro t ht
    obtain ⟨a, ha, ht⟩ := List.mem_flatMap.mp ht
    exact hattribute a ha t (List.mem_append_left _ ht)
  · exact hwarnings
  · intro t ht
    obtain ⟨a, ha, ht⟩ := List.mem_flatMap.mp ht
    exact hattribute a ha t (List.mem_append_right _ ht)

/-! ## The printed text -/

/-- The record is simple, whatever its texts and names are. -/
theorem isSimple_of_hasDistinctNames (hdistinct : load.HasDistinctNames) :
    load.record.IsSimple (fun _ => True) (fun _ => True) 5 :=
  isSimple_record (fun _ => trivial) (fun _ _ => trivial) hdistinct (fun _ _ => trivial)
    fun _ _ => trivial

/-- The record is laid out, as a text that reads back as the record. -/
theorem exists_indented_record (hdistinct : load.HasDistinctNames) :
    ∃ s, Json.indented load.record = .ok s ∧ Json.Denotes .distinct s load.record ∧
      load.record.isJson = true := by
  obtain ⟨s, hs, hdenotes⟩ := (isSimple_of_hasDistinctNames hdistinct).isFaithful 0
  exact ⟨s, hs, hdenotes, Json.isReadInvariant_isJson.of_parse (Json.parse_of_denotes hdenotes)⟩

/-- A laid-out record ends in a brace. -/
theorem exists_eq_append_brace {fields : List (Text × Value)} {s : Text}
    (h : Json.indented (.record fields) = .ok s) : ∃ t, s = t ++ [0x7D] := by
  obtain ⟨texts, -, rfl⟩ := Json.indentedAt_mapping_eq_ok.mp h
  obtain ⟨w₀, w, w', -, -, -, hblock⟩ := Json.exists_block_eq "\x7b" "\x7d" 0 texts
  rw [hblock, ← List.append_assoc, ← List.append_assoc, ← List.append_assoc]
  exact ⟨_, rfl⟩

/-- What the command prints: the text and a line break. -/
theorem stdout_eq {s : Text} (h : Json.indented load.record = .ok s)
    (hencodable : s.isEncodable = true) (requests : List Request) :
    (Outcome.shown 0 requests (Format.attributes true load)).stdout = s ++ "\n" := by
  obtain ⟨t, rfl⟩ := exists_eq_append_brace h
  have hdrop : Text.dropTrailing 0x0A (t ++ [0x7D]) = t ++ [0x7D] := by
    rw [Text.dropTrailing, List.reverse_append, List.reverse_singleton, List.singleton_append,
      List.dropWhile_cons_of_neg (by decide), List.reverse_cons, List.reverse_reverse]
  rw [attributes_eq, Format.json, h]
  show (Outcome.shown 0 requests (.ok (Output.ofText (t ++ [0x7D])))).stdout = _
  rw [Outcome.shown_ofText, if_pos hencodable]
  show Text.dropTrailing 0x0A (t ++ [0x7D]) ++ ("\n" : Text) = _
  rw [hdrop]

/-- The record is read as the attributes it was made of. -/
theorem attributesOf_record (load : Load) (path : Text) :
    ProfileFilter.attributesOf path load.record = .ok load.attributes :=
  checkAttributes_of_list (Check.list_of_forall fun a _ =>
    Check.profileAttribute_attributeRecord .document a) path

/-! ## Files -/

/-- All texts of the load are kept by a reader of documents. -/
structure IsPortable (load : Load) : Prop where
  /-- the texts apart from the names in schemas -/
  values : ∀ t ∈ load.values, Document.IsPortable t
  /-- the names in schemas -/
  names : ∀ t ∈ load.fieldNames, Document.IsPortableName t

/-- A file gives the attributes of the load, and filters compile with it as they do with them. -/
structure ReadsBack (load : Load) (world : World) (known : Text) : Prop where
  /-- the file gives the attributes -/
  attributes : ProfileFilter.loadAttributes world.files known = .ok load.attributes
  /-- filters are compiled with the attributes -/
  compile {file : Text} {filter : FilterSet} : loadFilter world.files file = .ok filter →
    ∀ (config baseUrl : Option Text) (asJson : Bool),
      Command.run world config (.compile file (some known) baseUrl asJson) =
        match compileFilter load.attributes filter with
        | .error why => .interrupted (.unprintable why)
        | .ok compiled =>
          .shown 0 [] (Format.compiled asJson compiled (Preview.requestPath compiled.encoded)
            (Preview.curl compiled.encoded baseUrl none))

theorem readsBack_of_loadAttributes {world : World} {known : Text}
    (h : ProfileFilter.loadAttributes world.files known = .ok load.attributes) :
    load.ReadsBack world known where
  attributes := h
  compile {file filter} hfilter config baseUrl asJson := by
    have hfile : Command.optionalFilter world.files (some file) = .ok filter := hfilter
    have hknown : Command.optionalAttributes world.files (some known) = .ok load.attributes := h
    rw [Command.run, Command.runCompile]
    exact Command.withFilter_of_ok hfile hknown _

theorem isEncodable_of_isPortable {t : Text} (h : Document.IsPortable t) : t.isEncodable = true := by
  refine Text.isEncodable_iff.mpr fun c hc => ?_
  have hkept := List.all_eq_true.mp h c hc
  rw [CodePoint.isSurrogate_eq_false_iff]
  simp only [Document.isKept, Document.mayStand, Bool.or_eq_true, Bool.and_eq_true, beq_iff_eq,
    decide_eq_true_eq, bne_iff_ne] at hkept
  omega

/-- The names in records are kept, and so are those of types. -/
theorem isPortableName_names : ∀ name ∈ ("attributes" : Text) :: "warnings" :: Format.recordNames,
    Document.IsPortableName name := by
  have hall : ∀ name ∈ ("attributes" : Text) :: "warnings" :: Format.recordNames,
      name.all Document.isKept = true ∧ (Json.string name).length ≤ Document.maxNameLength := by
    decide
  exact hall

theorem isPortable_typeName (type : AttributeType) :
    Document.IsPortable (Text.ofString type.name) := by
  have hall : ∀ type ∈ AttributeType.all,
      (Text.ofString type.name).all Document.isKept = true := by decide
  exact hall type (by cases type <;> decide)

section Saved

variable {read : Text → FileState} {world : World} {known : Text} {requests : List Request}
  (hdistinct : load.HasDistinctNames) (hread : Document.Reads read)
  (hfile : world.files (.working known) =
    read (Outcome.shown 0 requests (Format.attributes true load)).stdout)
include hdistinct hread hfile

/-- **Portable attributes read back.** -/
theorem readsBack_of_isPortable (h : load.IsPortable) : load.ReadsBack world known := by
  have hsimple := isSimple_record isPortable_typeName isPortableName_names hdistinct h.values h.names
  obtain ⟨s, hs, -, hjson⟩ := exists_indented_record hdistinct
  have hencodable : s.isEncodable = true :=
    (Json.isEncodable_indentedAt hjson hs).trans (hsimple.allPoints
      (fun _ ht => isEncodable_of_isPortable ht) fun _ ht => isEncodable_of_isPortable ht.1)
  refine readsBack_of_loadAttributes ?_
  rw [ProfileFilter.loadAttributes, readDocument, hfile, stdout_eq hs hencodable,
    hread.json hs hsimple]
  exact attributesOf_record load known

/-- **A code point that may not stand in a document spoils the file.** -/
theorem loadAttributes_of_not_mayStand
    (hencodable : ∀ t ∈ load.values ++ load.fieldNames, t.isEncodable = true)
    (h : ∃ t ∈ load.values ++ load.fieldNames, ∃ c ∈ t,
      0x20 ≤ c.val ∧ Document.mayStand c = false) :
    ∃ reason, ProfileFilter.loadAttributes world.files known =
      .error (.unreadable known ("invalid YAML/JSON (" ++ reason ++ ")")) := by
  obtain ⟨hvalues, hnames⟩ := List.forall_mem_append.mp hencodable
  have hsimple := isSimple_record (fun _ => Text.isEncodable_ofString _) (by decide) hdistinct
    hvalues hnames
  obtain ⟨s, hs, -, hjson⟩ := exists_indented_record hdistinct
  have hsenc : s.isEncodable = true :=
    (Json.isEncodable_indentedAt hjson hs).trans (hsimple.allPoints (fun _ ht => ht) fun _ ht => ht)
  have hspoilt : s.all Document.mayStand = false := by
    rw [Document.passesAscii_mayStand.all_indentedAt hjson hs, Bool.eq_false_iff]
    intro hall
    obtain ⟨t, ht, c, hc, hpoint, hbad⟩ := h
    have hgood := List.all_eq_true.mp (all_of_allPoints_record hall t ht) c hc
    rw [hbad, decide_eq_false (Nat.not_lt.mpr hpoint)] at hgood
    cases hgood
  obtain ⟨reason, hreason⟩ := hread.refuses (s := s ++ "\n")
    (by rw [Text.isEncodable_append, hsenc]; rfl) (by rw [List.all_append, hspoilt]; rfl)
  refine ⟨reason, ?_⟩
  rw [ProfileFilter.loadAttributes, readDocument, hfile, stdout_eq hs hsenc, hreason]
  rfl

end Saved

end Directory.Load

/-! ## Both ways back -/

/-- **Attributes that were loaded can be used again.** Whatever was loaded:

* The command prints JSON for its record, and the record is read as the attributes, in a file of any
  name.
* If a reader of documents reads a file that holds what was printed, then it depends on the texts
  what comes of it. If all are portable, the file gives the attributes, and filters are compiled
  with it as with them. If a code point other than a control character may not stand in a document,
  the file is refused.
* The attributes in the answer of the endpoint are checked and found to be the same, and filters
  are compiled with them as with these. -/
theorem saved_attributes_load_back (load : Directory.Load) (hdistinct : load.HasDistinctNames) :
    (∃ text, Format.attributes true load = .ok (.ofText text) ∧
      Json.parse text = .ok load.record ∧
      ∀ path, attributesOf path load.record = .ok load.attributes) ∧
    (∀ (read : Text → FileState) (requests : List Request) (world : World) (known : Text),
      Document.Reads read →
      world.files (.working known) =
        read (Outcome.shown 0 requests (Format.attributes true load)).stdout →
      (load.IsPortable → load.ReadsBack world known) ∧
        ((∀ t ∈ load.values ++ load.fieldNames, t.isEncodable = true) →
          (∃ t ∈ load.values ++ load.fieldNames, ∃ c ∈ t,
            0x20 ≤ c.val ∧ Document.mayStand c = false) →
          ∃ reason, loadAttributes world.files known =
            .error (.unreadable known ("invalid YAML/JSON (" ++ reason ++ ")")))) ∧
    (∃ answered, Api.loadRecord load = .mapping answered ∧
      Value.get "attributes" answered = .list (load.attributes.map Api.attributeRecord) ∧
      Api.knownAttributes (Value.get "attributes" answered) = .valid (some load.attributes)) ∧
    ∀ (host : Api.Host) (call : Api.Call) (entries document : Entries) (filter : FilterSet)
        (compiled : CompiledFilter) (baseUrl : Option Text),
      call.method = "POST" → call.path = "/api/v1/filters/compile" →
      Api.Orders call entries document (load.attributes.map Api.attributeRecord) →
      Check.filterSet .body (.mapping document) = .valid filter →
      Check.optional ["base_url"] none (Check.nullable Check.text) entries = .valid baseUrl →
      compileFilter load.attributes filter = .ok compiled →
      Api.dispatch host call = .ok { answer := .body 200 (Api.compiledRecord compiled baseUrl) } := by
  have hlist (source : Check.Source) : Check.list (Check.profileAttribute source)
      (.list (load.attributes.map Api.attributeRecord)) = .valid load.attributes :=
    Check.list_of_forall fun a _ => Check.profileAttribute_answerRecord source a
  refine ⟨?_, fun read requests world known hread hfile => ⟨?_, ?_⟩, ?_, ?_⟩
  · obtain ⟨s, hs, hdenotes, -⟩ := Directory.Load.exists_indented_record hdistinct
    refine ⟨s, ?_, Json.parse_of_denotes hdenotes, load.attributesOf_record⟩
    rw [load.attributes_eq, Format.json, hs]
    rfl
  · exact Directory.Load.readsBack_of_isPortable hdistinct hread hfile
  · exact Directory.Load.loadAttributes_of_not_mayStand hdistinct hread hfile
  · exact ⟨_, rfl, rfl, Validated.map_eq_valid.mpr ⟨_, hlist .body, rfl⟩⟩
  · intro host call entries document filter compiled baseUrl hmethod hpath horders hfilter hbase
      hcompiled
    exact Api.dispatch_compile_order horders
      ((Check.agree_filterSet .body .document).valid_iff.mp hfilter) (hlist .document) hcompiled
      hmethod hpath hbase

/-- A load with a list, a set of admissible values, and a name to show. -/
def sampleLoad : Directory.Load where
  attributes := [
    { name := "a", displayName := some "A", enumValues := some ["x", []] },
    { name := "b", type := .list, isCustom := true, schema := some [("c", .integer)] }]
  warnings := ["w"]

/-- A load with a character that JSON does not escape and no document may hold. -/
def deleteLoad : Directory.Load where
  attributes := [{ name := [0x61, 0x7F], type := .integer }]

/-- A world with a filter, and what was printed of a load. -/
def savedWorld (load : Directory.Load) : World :=
  { sampleWorld with
    files := fun
      | .working path =>
        if path = "filter.json" then .document (.mapping sampleDocument)
        else Document.readJson (Outcome.shown 0 [] (Format.attributes true load)).stdout
      | .home _ => .missing }

theorem files_savedWorld (load : Directory.Load) {known : Text} (h : known ≠ "filter.json") :
    (savedWorld load).files (.working known) =
      Document.readJson (Outcome.shown 0 [] (Format.attributes true load)).stdout :=
  if_neg h

/-- The body of a call with a filter, and with the answered attributes of a load. -/
def answeredBody (load : Directory.Load) : Entries :=
  [(.text "filter", .mapping sampleDocument),
    (.text "attributes", .list (load.attributes.map Api.attributeRecord))]

/-- A call with that body. -/
def answeredCall (load : Directory.Load) : Api.Call where
  method := "POST"
  path := "/api/v1/filters/compile"
  body := Directory.spelled (.mapping (answeredBody load))

theorem saved_attributes_load_back_sample :
    sampleLoad.ReadsBack (savedWorld sampleLoad) "attributes.json" ∧
    ∃ compiled : CompiledFilter, compiled.raw = "\x7b\"a\":\"ok\"\x7d" ∧
      Api.dispatch sampleHost (answeredCall sampleLoad) =
        .ok { answer := .body 200 (Api.compiledRecord compiled none) } := by
  have hdistinct : sampleLoad.HasDistinctNames :=
    show ∀ a ∈ sampleLoad.attributes, a.fieldNames.Nodup by decide
  obtain ⟨-, hfiles, -, hcalls⟩ := saved_attributes_load_back sampleLoad hdistinct
  constructor
  · refine (hfiles Document.readJson [] (savedWorld sampleLoad) "attributes.json"
      Document.reads_readJson (files_savedWorld sampleLoad (by decide))).1 ⟨?_, ?_⟩
    · exact show ∀ t ∈ sampleLoad.values, t.all Document.isKept = true by decide
    · exact show ∀ t ∈ sampleLoad.fieldNames, t.all Document.isKept = true ∧
        (Json.string t).length ≤ Document.maxNameLength by decide
  · have hread : (Check.filterSet .body (.mapping sampleDocument)).value?.bind (fun filter =>
        (compileFilter sampleLoad.attributes filter).toOption.map CompiledFilter.raw) =
          some ("\x7b\"a\":\"ok\"\x7d" : Text) := by
      decide +kernel
    obtain ⟨filter, hfilter, hread⟩ := Option.bind_eq_some_iff.mp hread
    obtain ⟨compiled, hcompiled, hraw⟩ := exists_of_map_toOption hread
    have hcontent : (answeredCall sampleLoad).content = .json (.mapping (answeredBody sampleLoad)) :=
      Api.content_of_parseBytes
        (show (Directory.spelled (.mapping (answeredBody sampleLoad))).isEmpty = false
          by decide +kernel) rfl
        (show Json.parseBytes? (Directory.spelled (.mapping (answeredBody sampleLoad))) = _
          by decide +kernel)
    exact ⟨compiled, hraw, hcalls sampleHost (answeredCall sampleLoad) (answeredBody sampleLoad)
      sampleDocument filter compiled none rfl rfl ⟨hcontent, rfl, rfl⟩
      (Validated.value?_eq_some.mp hfilter) rfl hcompiled⟩

/-- **A name with the character U+007F can be printed, and what was printed is not read**: not in the
world above, and with no other reader of documents. -/
theorem loadAttributes_delete :
    (∃ text, Format.attributes true deleteLoad = .ok text) ∧
    loadAttributes (savedWorld deleteLoad).files "attributes.json" ≠ .ok deleteLoad.attributes ∧
    ¬ ∃ (read : Text → FileState) (world : World) (known : Text), Document.Reads read ∧
      world.files (.working known) =
        read (Outcome.shown 0 [] (Format.attributes true deleteLoad)).stdout ∧
      loadAttributes world.files known = .ok deleteLoad.attributes := by
  have hdistinct : deleteLoad.HasDistinctNames :=
    show ∀ a ∈ deleteLoad.attributes, a.fieldNames.Nodup by decide
  have hrefused : ¬ ∃ (read : Text → FileState) (world : World) (known : Text),
      Document.Reads read ∧
      world.files (.working known) =
        read (Outcome.shown 0 [] (Format.attributes true deleteLoad)).stdout ∧
      loadAttributes world.files known = .ok deleteLoad.attributes := by
    rintro ⟨read, world, known, hread, hfile, hload⟩
    obtain ⟨reason, hreason⟩ := Directory.Load.loadAttributes_of_not_mayStand hdistinct hread hfile
      (by decide) ⟨_, List.mem_cons_self, 0x7F, by decide, by decide⟩
    rw [hreason] at hload
    cases hload
  obtain ⟨s, hs, -, -⟩ := Directory.Load.exists_indented_record hdistinct
  refine ⟨⟨.ofText s, ?_⟩, fun hload => hrefused ⟨Document.readJson, savedWorld deleteLoad,
    "attributes.json", Document.reads_readJson, files_savedWorld deleteLoad (by decide), hload⟩,
    hrefused⟩
  rw [deleteLoad.attributes_eq, Format.json, hs]
  rfl

end ProfileFilter
