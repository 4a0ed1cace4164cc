import ProfileFilter.Proofs.Attribute.Saved
import ProfileFilter.Proofs.Command.Result
import ProfileFilter.Proofs.Json.Strict

/-!
# Formats for programs

What the formats write as JSON is strict, and it is read back as the record that was formatted, if
all numbers in the record are finite. Compiled filters and attributes hold no others. But the time
limit in settings may be infinite, and so may a number in the body of a query result: the word for
it is read as if it was JSON, and written as it was read. Then the text is no JSON.

Main statement: `Format.strict_or_spoilt`.
-/

namespace ProfileFilter

/-! ## Results -/

/-- The body of a result was read from JSON, or it is a text or nothing. -/
theorem isExact_bodyValue (bytes : List UInt8) : (bodyValue bytes).IsExact := by
  have hsays := says_bodyValue bytes
  generalize bodyValue bytes = body at hsays
  cases hsays with
  | json hread => exact Json.isReadInvariant_isExact.of_parseBytes? hread
  | text _ _ => exact .text _
  | nothing _ _ => exact .null

theorem QueryResult.ofReply_eq_ok {elapsed : Int} {reply : Reply} {result : QueryResult}
    (h : ofReply elapsed reply = .ok result) :
    result.body.IsExact ∧ result.elapsedMs = elapsed := by
  cases reply with
  | answer status bytes =>
    obtain rfl := Except.ok.inj h
    unfold ofAnswer
    simp only
    split_ifs <;> exact ⟨isExact_bodyValue bytes, rfl⟩
  | failure f =>
    rw [ofReply] at h
    split_ifs at h
    obtain rfl := Except.ok.inj h
    exact ⟨.null, rfl⟩

/-- What is known of a result, whatever the service did. -/
theorem Connection.isExact_of_execute {connection : Connection} {service : Service}
    {started finished : Binary64} {encoded : Text} {requests : List Request} {result : QueryResult}
    (h : connection.execute service started finished encoded = ⟨requests, .ok result⟩) :
    result.body.IsExact ∧ Value.isWritableInt result.elapsedMs = true := by
  unfold execute at h
  split at h
  · cases h
  · injection h with _ hreply
    obtain ⟨hbody, helapsed⟩ := QueryResult.ofReply_eq_ok hreply
    exact ⟨hbody, helapsed ▸ isWritableInt_elapsedMs started finished⟩

namespace Format

/-! ## Records -/

/-- The settings as a record, the key masked. -/
def settingsRecord (settings : Settings) : Value :=
  .record ((settingSections settings).map fun s => (s.1, .record s.2))

theorem isExact_compiledRecord {compiled : CompiledFilter}
    (h : Value.isWritableInt compiled.conditionCount = true) (requestPath curl : Text) :
    (compiledRecord compiled requestPath curl).IsExact := by
  refine .record (show [("raw" : Text), "encoded", "explanation", "condition_count",
    "request_path", "curl"].Nodup by decide) ?_
  simp only [List.forall_mem_cons]
  exact ⟨.text _, .text _, .text _, .int h, .text _, .text _, List.forall_mem_nil _⟩

theorem isExact_settingsRecord {settings : Settings}
    (htimeout : settings.connection.timeoutSeconds.IsCanonical)
    (hlimit : Value.isWritableInt settings.connection.pageLimit = true)
    (hport : Value.isWritableInt settings.server.port = true) :
    (settingsRecord settings).IsExact := by
  refine .record (show [("connection" : Text), "server"].Nodup by decide) ?_
  simp only [settingSections, List.map_cons, List.map_nil, List.forall_mem_cons]
  refine ⟨.record (show [("base_url" : Text), "api_key", "timeout_seconds", "page_limit"].Nodup
    by decide) ?_, .record (show [("host" : Text), "port", "log_level"].Nodup by decide) ?_,
    List.forall_mem_nil _⟩
  · simp only [List.forall_mem_cons]
    exact ⟨.text _, .text _, .float htimeout, .int hlimit, List.forall_mem_nil _⟩
  · simp only [List.forall_mem_cons]
    exact ⟨.text _, .int hport, .text _, List.forall_mem_nil _⟩

theorem isExact_queryRecord {result : QueryResult} (hbody : result.body.IsExact)
    (hstatus : Value.isWritableInt result.status = true)
    (helapsed : Value.isWritableInt result.elapsedMs = true) (requestPath : Text)
    (summary : Option Text) : (queryRecord result requestPath summary).IsExact := by
  have htext : ∀ o, (optionalText o).IsExact := Value.isExact_ofOption .text
  refine .record (show [("success" : Text), "status", "status_text", "body", "elapsed_ms", "error",
    "error_kind", "error_code", "remediation", "request_path", "summary"].Nodup by decide) ?_
  simp only [queryFields, List.cons_append, List.nil_append, List.forall_mem_cons]
  exact ⟨.bool _, .int hstatus, .text _, hbody, .int helapsed, htext _,
    Value.isExact_ofOption (fun _ => .text _) _, htext _, htext _, .text _, htext _,
    List.forall_mem_nil _⟩

theorem allFinite_optionalText (o : Option Text) : (optionalText o).allFinite = true := by
  cases o <;> rfl

theorem allFinite_queryRecord (result : QueryResult) (requestPath : Text) (summary : Option Text) :
    (queryRecord result requestPath summary).allFinite = result.body.allFinite := by
  have hkind : ∀ o : Option ErrorKind, (Value.ofOption (fun kind =>
      .text (Text.ofString kind.name)) o).allFinite = true := fun o => by cases o <;> rfl
  simp [queryRecord, queryFields, Value.allFinite_record, allFinite_optionalText, hkind,
    Value.allFinite]

/-! ## What is written -/

/-- What becomes of a record that is written as JSON, if its integers may be written or not, and its
numbers are finite or not. -/
structure Written (record : Value) (writable finite : Bool)
    (printed : Except Json.Unprintable Output) : Prop where
  /-- integers with too many digits are refused, and nothing is written -/
  refused : writable = false → ∃ why, printed = .error why
  /-- if all numbers are finite, what is written is strict JSON for the record -/
  strict : writable = true → finite = true →
    ∃ s, printed = .ok (.ofText s) ∧ Json.IsStrictFor s record
  /-- otherwise it is no JSON -/
  spoilt : writable = true → finite = false → ∃ s, printed = .ok (.ofText s) ∧ Json.IsSpoilt s

theorem written_json {v : Value} {writable : Bool}
    (hrefused : writable = false → ∀ s, Json.indented v ≠ .ok s)
    (hexact : writable = true → v.IsExact) : Written v writable v.allFinite (json v) where
  refused hwritable := by
    cases h : Json.indented v with
    | ok s => exact absurd h (hrefused hwritable s)
    | error why => exact ⟨why, by rw [json, h]; rfl⟩
  strict hwritable hfinite := by
    obtain ⟨s, hs, hstrict, -⟩ := Json.exists_indented_of_isExact (hexact hwritable)
    exact ⟨s, by rw [json, hs]; rfl, hstrict hfinite⟩
  spoilt hwritable hfinite := by
    obtain ⟨s, hs, -, hspoilt⟩ := Json.exists_indented_of_isExact (hexact hwritable)
    exact ⟨s, by rw [json, hs]; rfl, hspoilt hfinite⟩

theorem written_compiled (compiled : CompiledFilter) (requestPath curl : Text) :
    Written (compiledRecord compiled requestPath curl)
      (Value.isWritableInt compiled.conditionCount) true
      (Format.compiled true compiled requestPath curl) := by
  refine written_json (fun hlong s hs => ?_) (isExact_compiledRecord · requestPath curl)
  obtain ⟨t, ht⟩ := Json.exists_indentedAt_of_mem hs
    ("condition_count", .int compiled.conditionCount) (by simp)
  rw [Json.isWritableInt_of_indentedAt ht] at hlong
  cases hlong

theorem written_attributes {load : Directory.Load} (hdistinct : load.HasDistinctNames) :
    Written load.record true true (Format.attributes true load) := by
  have hsimple := Directory.Load.isSimple_of_hasDistinctNames hdistinct
  have hwritten : Written load.record true load.record.allFinite (json load.record) :=
    written_json nofun fun _ => hsimple.isExact
  rwa [hsimple.allFinite] at hwritten

theorem written_settings {settings : Settings}
    (htimeout : settings.connection.timeoutSeconds.IsCanonical) :
    Written (settingsRecord settings)
      (Value.isWritableInt settings.connection.pageLimit &&
        Value.isWritableInt settings.server.port)
      settings.connection.timeoutSeconds.isFinite (Format.settings true settings) := by
  have hfinite : (settingsRecord settings).allFinite =
      settings.connection.timeoutSeconds.isFinite := by
    simp [settingsRecord, settingSections, Value.allFinite_record, Value.allFinite]
  rw [← hfinite]
  refine written_json (fun hlong s hs => ?_) fun hwritable => ?_
  · have hsections := Json.exists_indentedAt_of_mem hs
    simp only [settingSections, List.map_cons, List.map_nil, List.forall_mem_cons] at hsections
    obtain ⟨⟨connection, hconnection⟩, ⟨server, hserver⟩, -⟩ := hsections
    obtain ⟨limit, hlimit⟩ := Json.exists_indentedAt_of_mem hconnection
      ("page_limit", .int settings.connection.pageLimit) (by simp)
    obtain ⟨port, hport⟩ := Json.exists_indentedAt_of_mem hserver
      ("port", .int settings.server.port) (by simp)
    rw [Json.isWritableInt_of_indentedAt hlimit, Json.isWritableInt_of_indentedAt hport] at hlong
    cases hlong
  · obtain ⟨hlimit, hport⟩ := Bool.and_eq_true_iff.mp hwritable
    exact isExact_settingsRecord htimeout hlimit hport

theorem written_query {result : QueryResult} (hbody : result.body.IsExact)
    (helapsed : Value.isWritableInt result.elapsedMs = true) (requestPath : Text)
    (summary : Option Text) :
    Written (queryRecord result requestPath summary) (Value.isWritableInt result.status)
      result.body.allFinite (Format.query true result requestPath summary) := by
  rw [← allFinite_queryRecord result requestPath summary]
  refine written_json (fun hlong s hs => ?_) fun hstatus =>
    isExact_queryRecord hbody hstatus helapsed requestPath summary
  obtain ⟨status, hstatus⟩ := Json.exists_indentedAt_of_mem hs ("status", .int result.status)
    (by simp [queryFields])
  rw [Json.isWritableInt_of_indentedAt hstatus] at hlong
  cases hlong

/-- **JSON for programs is strict if the numbers in it are finite, and no JSON otherwise.** Nothing
is written of integers with too many digits; else

* what is written of a compiled filter, and of attributes, is strict JSON that is read back as the
  record that was formatted;
* so is what is written of settings, unless the time limit is infinite or not a number;
* so is what is written of a query result, whatever the service answered, unless a number in the
  body of the answer is not finite.

In the last two cases the word for the number stands in the text, and no reader of JSON takes it. -/
theorem strict_or_spoilt (requestPath : Text) :
    (∀ (compiled : CompiledFilter) (curl : Text),
      Written (compiledRecord compiled requestPath curl)
        (Value.isWritableInt compiled.conditionCount) true
        (Format.compiled true compiled requestPath curl)) ∧
    (∀ load : Directory.Load, load.HasDistinctNames →
      Written load.record true true (Format.attributes true load)) ∧
    (∀ settings : Settings, settings.connection.timeoutSeconds.IsCanonical →
      Written (settingsRecord settings)
        (Value.isWritableInt settings.connection.pageLimit &&
          Value.isWritableInt settings.server.port)
        settings.connection.timeoutSeconds.isFinite (Format.settings true settings)) ∧
    ∀ (connection : Connection) (service : Service) (started finished : Binary64)
        (encoded : Text) (requests : List Request) (result : QueryResult)
        (summary : Option Text),
      connection.execute service started finished encoded = ⟨requests, .ok result⟩ →
      Written (queryRecord result requestPath summary) (Value.isWritableInt result.status)
        result.body.allFinite (Format.query true result requestPath summary) := by
  refine ⟨fun compiled => written_compiled compiled requestPath, fun _ => written_attributes,
    fun _ => written_settings, ?_⟩
  intro connection service started finished encoded requests result summary hexecute
  obtain ⟨hbody, helapsed⟩ := connection.isExact_of_execute hexecute
  exact written_query hbody helapsed requestPath summary

/-- A service that answers every request with the same bytes. -/
def answering (bytes : List UInt8) : Service := fun _ _ => .answer 200 bytes

/-- An object with the number one and a half. -/
def finiteBytes : List UInt8 := [123, 34, 97, 34, 58, 32, 49, 46, 53, 125]

/-- An object with a number that is none. -/
def nanBytes : List UInt8 := [123, 34, 97, 34, 58, 32, 78, 97, 78, 125]

/-- A service that answers is told of. -/
theorem exists_execute_answering (bytes : List UInt8) : ∃ request,
    Directory.plainConnection.execute (answering bytes) .zero .zero Connection.emptyFilter =
      ⟨[request], .ok (QueryResult.ofAnswer 200 bytes (elapsedMs .zero .zero))⟩ := by
  obtain ⟨bare, hbare⟩ := Connection.exists_requestTo_personsPath
  obtain ⟨request, hrequest⟩ := Connection.exists_requestTo_of_isSpelling hbare
    (Percent.isSpelling_encode "\x7b\x7d") Connection.length_emptyFilter
  exact ⟨request, Connection.execute_of_requestTo hrequest⟩

theorem strict_or_spoilt_sample :
    (∃ s, Format.attributes true sampleLoad = .ok (.ofText s) ∧
      Json.IsStrictFor s sampleLoad.record) ∧
    (∃ s, Format.settings true {} = .ok (.ofText s) ∧ Json.IsStrictFor s (settingsRecord {})) ∧
    ∃ request result s, Directory.plainConnection.execute (answering finiteBytes) .zero .zero
        Connection.emptyFilter = ⟨[request], .ok result⟩ ∧
      Format.query true result Preview.personsPath none = .ok (.ofText s) ∧
      Json.IsStrictFor s (queryRecord result Preview.personsPath none) := by
  obtain ⟨-, hattributes, hsettings, hquery⟩ := strict_or_spoilt Preview.personsPath
  have hdistinct : sampleLoad.HasDistinctNames :=
    show ∀ a ∈ sampleLoad.attributes, a.fieldNames.Nodup by decide
  have hcanonical : (Binary64.ofInt 30).IsCanonical := Binary64.isCanonical_ofRatio _ Nat.one_pos
  obtain ⟨request, hexecute⟩ := exists_execute_answering finiteBytes
  obtain ⟨s, hs, hstrict⟩ := (hquery _ _ _ _ _ _ _ none hexecute).strict
    (by decide +kernel) (by decide +kernel)
  exact ⟨(hattributes sampleLoad hdistinct).strict rfl rfl,
    (hsettings {} hcanonical).strict (by decide +kernel) (by decide +kernel),
    request, _, s, hexecute, hs, hstrict⟩

/-- **What is written of a query result need not be JSON**: the service answers with an object that
holds `NaN`. -/
theorem query_nan : ∃ request result s,
    Directory.plainConnection.execute (answering nanBytes) .zero .zero Connection.emptyFilter =
      ⟨[request], .ok result⟩ ∧
    result.body = .mapping [(.text "a", .float .nan)] ∧
    Format.query true result Preview.personsPath none = .ok (.ofText s) ∧
    Json.HasNumberWord s ∧ ¬ ∃ keys v, Json.Denotes keys s v := by
  obtain ⟨request, hexecute⟩ := exists_execute_answering nanBytes
  obtain ⟨hbody, helapsed⟩ := Connection.isExact_of_execute hexecute
  obtain ⟨s, hs, hspoilt⟩ := (written_query hbody helapsed Preview.personsPath none).spoilt
    (by decide +kernel) (by decide +kernel)
  exact ⟨request, _, s, hexecute, by decide +kernel, hs, hspoilt.word,
    fun ⟨keys, v, hdenotes⟩ => hspoilt.refused keys v hdenotes⟩

end Format

end ProfileFilter
