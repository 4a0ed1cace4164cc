import ProfileFilter.Proofs.Fault.ErrorBody
import ProfileFilter.Proofs.Service.Listing
import ProfileFilter.Proofs.Service.Resolution

/-!
# Results of filters

What is told of a filter that was run. Whatever the service answers, and also if it does not answer,
the fields of the result agree with each other and with the reply (`QueryResult.Tells`): there is
either a success and nothing to tell, or a failure with a kind, a code, a message and what to do.

A result is told of answers and of missing answers only. An answer that came but could not be taken
stops the run, and so does a path that is too long (`Connection.execute_of_isSpelling`).

Main statements: `Connection.execute_tells`, `Connection.execute_of_isSpelling`.
-/

namespace ProfileFilter

/-! ## What a result tells -/

/-- An exchange that ended with an answer or without one. No status is zero. -/
def Reply.IsOutcome : Reply → Prop
  | .answer status _ => status ≠ 0
  | .failure f => f.kind = .transport

/-- What the bytes of a body say. -/
inductive Says (bytes : List UInt8) : Value → Prop where
  /-- the value they spell as JSON -/
  | json {v : Value} : Json.parseBytes? bytes = some v → Says bytes v
  /-- the text, if they are no JSON -/
  | text : Json.parseBytes? bytes = none → Utf8.decodeReplacing bytes ≠ [] →
      Says bytes (.text (Utf8.decodeReplacing bytes))
  /-- nothing, if there is no text either -/
  | nothing : Json.parseBytes? bytes = none → Utf8.decodeReplacing bytes = [] → Says bytes .null

theorem says_bodyValue (bytes : List UInt8) : Says bytes (bodyValue bytes) := by
  unfold bodyValue
  split
  next v hv => exact .json hv
  next hnone =>
    split
    next hempty => exact .nothing hnone hempty
    next hfilled => exact .text hnone hfilled

namespace QueryResult

/-- The fields of a result agree with each other and with the reply. -/
structure Tells (reply : Reply) (result : QueryResult) : Prop where
  /-- the statuses of a success -/
  success_iff : result.success = true ↔ 200 ≤ result.status ∧ result.status ≤ 299
  /-- of a success nothing else is told -/
  success_iff_none : result.success = true ↔ result.error = none ∧ result.errorKind = none ∧
    result.errorCode = none ∧ result.remediation = none
  /-- without an answer there is no status -/
  network_iff : result.errorKind = some .network ↔ result.status = 0
  /-- which has a code of its own -/
  network_iff_code : result.errorKind = some .network ↔ result.errorCode = some "E-2001"
  /-- and no body -/
  network_body : result.errorKind = some .network → result.body = .null
  /-- the service refuses with any status that is no success -/
  http_iff : result.errorKind = some .http ↔
    ∃ status bytes, reply = .answer status bytes ∧ ¬ (200 ≤ status ∧ status ≤ 299)
  /-- two statuses refuse the credentials -/
  http_code : result.errorKind = some .http → result.errorCode =
    some (if result.status = 401 ∨ result.status = 403 then "E-3002" else "E-3001")
  /-- of a failure it is told what went wrong and what to do -/
  failure : result.success = false → (∃ error, result.error = some error ∧ error ≠ []) ∧
    ∃ remediation, result.remediation = some remediation ∧ remediation ≠ []
  /-- the status of an answer, and what its body says -/
  answer : ∀ status bytes, reply = .answer status bytes →
    result.status = status ∧ Says bytes result.body

/-! ## The results of the replies -/

/-- Every fault says what to do about it. -/
theorem remediation_ne_nil (fault : Fault) : Text.ofString fault.remediation ≠ [] := by
  cases fault <;> decide

/-- A request that got no answer. -/
theorem tells_ofFailure (f : Failure) (elapsed : Int) :
    (ofFailure f elapsed).Tells (.failure f) where
  success_iff := ⟨nofun, fun h => by
    have hzero : (200 : Int) ≤ 0 := h.1
    exact absurd hzero (by decide)⟩
  success_iff_none := ⟨nofun, fun h => absurd h.1 nofun⟩
  network_iff := ⟨fun _ => rfl, fun _ => rfl⟩
  network_iff_code := ⟨fun _ => rfl, fun _ => rfl⟩
  network_body := fun _ => rfl
  http_iff := ⟨nofun, fun ⟨_, _, h, _⟩ => absurd h nofun⟩
  http_code := nofun
  failure := fun _ =>
    ⟨⟨_, rfl, fun h => by
      have hwords : Text.ofString "Network error: " ≠ [] := by decide
      exact hwords (List.append_eq_nil_iff.mp h).1⟩, _, rfl, remediation_ne_nil .network⟩
  answer := nofun

theorem isSuccess_iff {status : Nat} :
    Status.isSuccess status = true ↔ 200 ≤ status ∧ status ≤ 299 := by
  rw [Status.isSuccess, Bool.and_eq_true, decide_eq_true_eq, decide_eq_true_eq]

theorem success_ofAnswer (status : Nat) (bytes : List UInt8) (elapsed : Int) :
    (ofAnswer status bytes elapsed).success = Status.isSuccess status := by
  unfold ofAnswer
  simp only
  split <;> rfl

/-- The service accepted the filter. -/
theorem tells_ofAnswer_of_isSuccess {status : Nat} (bytes : List UInt8) (elapsed : Int)
    (h : Status.isSuccess status = true) :
    (ofAnswer status bytes elapsed).Tells (.answer status bytes) := by
  have hrange := isSuccess_iff.mp h
  have hstatus : status ≠ 0 := Nat.ne_of_gt (Nat.lt_of_lt_of_le (by decide) hrange.1)
  have htold : ofAnswer status bytes elapsed =
      { success := true, status, statusText := Status.phrase status, body := bodyValue bytes
        elapsedMs := elapsed } := by
    simp only [ofAnswer, h, if_true]
  rw [htold]
  exact {
    success_iff := ⟨fun _ => ⟨Int.ofNat_le.mpr hrange.1, Int.ofNat_le.mpr hrange.2⟩, fun _ => rfl⟩
    success_iff_none := ⟨fun _ => ⟨rfl, rfl, rfl, rfl⟩, fun _ => rfl⟩
    network_iff := ⟨nofun, fun hzero => absurd (Int.ofNat_eq_zero.mp hzero) hstatus⟩
    network_iff_code := ⟨nofun, nofun⟩
    network_body := nofun
    http_iff := ⟨nofun, fun ⟨_, _, hreply, hrefused⟩ => by
      cases hreply
      exact absurd hrange hrefused⟩
    http_code := nofun
    failure := nofun
    answer := fun _ _ hreply => by
      cases hreply
      exact ⟨rfl, says_bodyValue bytes⟩ }

/-- The code of a refusal tells whether the credentials were refused. -/
theorem code_report (status : Nat) (body : Value) : (ErrorBody.report status body).code =
    if (status : Int) = 401 ∨ (status : Int) = 403 then "E-3002" else "E-3001" := by
  simp only [ErrorBody.report, Report.ofFault, ErrorBody.faultOfStatus, Bool.or_eq_true,
    beq_iff_eq]
  split <;> rfl

/-- The service refused the filter. -/
theorem tells_ofAnswer_of_not_isSuccess {status : Nat} (bytes : List UInt8) (elapsed : Int)
    (h : ¬ Status.isSuccess status = true) (hstatus : status ≠ 0) :
    (ofAnswer status bytes elapsed).Tells (.answer status bytes) := by
  have hrange := mt isSuccess_iff.mpr h
  have hcode := code_report status (bodyValue bytes)
  have htold : ofAnswer status bytes elapsed =
      { success := false, status, statusText := Status.phrase status, body := bodyValue bytes
        elapsedMs := elapsed, error := some (ErrorBody.message (bodyValue bytes))
        errorKind := some .http, errorCode := some (ErrorBody.report status (bodyValue bytes)).code
        remediation := some (ErrorBody.report status (bodyValue bytes)).remediation } := by
    simp only [ofAnswer, h]
    rfl
  -- the codes of refusals are not the one of a missing answer
  have hown : (ErrorBody.report status (bodyValue bytes)).code ≠ "E-2001" := by
    rw [hcode]
    split <;> decide
  rw [htold]
  exact {
    success_iff := ⟨nofun, fun hsuccess =>
      absurd ⟨Int.ofNat_le.mp hsuccess.1, Int.ofNat_le.mp hsuccess.2⟩ hrange⟩
    success_iff_none := ⟨nofun, fun hnone => absurd hnone.1 nofun⟩
    network_iff := ⟨nofun, fun hzero => absurd (Int.ofNat_eq_zero.mp hzero) hstatus⟩
    network_iff_code := ⟨nofun, fun heq => absurd (Option.some.inj heq) hown⟩
    network_body := nofun
    http_iff := ⟨fun _ => ⟨status, bytes, rfl, hrange⟩, fun _ => rfl⟩
    http_code := fun _ => congrArg some hcode
    failure := fun _ =>
      ⟨⟨_, rfl, ErrorBody.message_ne_nil _⟩, _, rfl, remediation_ne_nil _⟩
    answer := fun _ _ hreply => by
      cases hreply
      exact ⟨rfl, says_bodyValue bytes⟩ }

/-- **The result of an exchange tells how it ended.** -/
theorem exists_tells_of_isOutcome {reply : Reply} (elapsed : Int) (h : reply.IsOutcome) :
    ∃ result, ofReply elapsed reply = .ok result ∧ result.Tells reply := by
  cases reply with
  | answer status bytes =>
    refine ⟨_, rfl, ?_⟩
    cases hsuccess : Status.isSuccess status with
    | true => exact tells_ofAnswer_of_isSuccess bytes elapsed hsuccess
    | false =>
      exact tells_ofAnswer_of_not_isSuccess bytes elapsed (Bool.eq_false_iff.mp hsuccess) h
  | failure f => exact ⟨_, if_pos h, tells_ofFailure f elapsed⟩

end QueryResult

/-! ## Running a filter -/

namespace Connection

section Execute

variable {connection : Connection} {service : Service} {started finished : Binary64}
  {encoded : Text} {request : Request}

/-- A filter whose path can be requested is sent, once. -/
theorem execute_of_requestTo
    (h : connection.requestTo (Preview.requestPath encoded) = .ok request) :
    connection.execute service started finished encoded =
      ⟨[request], QueryResult.ofReply (elapsedMs started finished) (service request 0)⟩ := by
  rw [execute, h]

/-- A percent-encoded filter can be sent if the bare path can, unless it is too long. -/
theorem exists_requestTo_of_isSpelling {bare : Request} {bytes : List UInt8}
    (hbare : connection.requestTo Preview.personsPath = .ok bare)
    (h : Percent.IsSpelling encoded bytes)
    (hlength : (Preview.requestPath encoded).length ≤ Url.maxLength) :
    ∃ request, connection.requestTo (Preview.requestPath encoded) = .ok request :=
  exists_requestTo_requestPath hbare (Url.isLiteral_of_mem_query h) hlength

end Execute

/-- A service that refuses the credentials, and says so in a text. -/
def refusingService : Service := fun _ _ => .answer 401 [78, 111]

/-- A filter without conditions, encoded. -/
def emptyFilter : Text := Percent.encode "\x7b\x7d"

theorem exists_requestTo_personsPath :
    ∃ bare, Directory.plainConnection.requestTo Preview.personsPath = .ok bare :=
  ⟨_, rfl⟩

theorem length_emptyFilter : (Preview.requestPath emptyFilter).length ≤ Url.maxLength := by
  decide +kernel

/-- **What becomes of a percent-encoded filter.** One that is too long is refused. Any other is
sent, and told of if an answer is taken or no answer comes; the failure of an answer that cannot be
taken, and any that has nothing to do with the exchange, stops the run instead. -/
theorem execute_of_isSpelling {connection : Connection} {bare : Request} {encoded : Text}
    {bytes : List UInt8} (hbare : connection.requestTo Preview.personsPath = .ok bare)
    (h : Percent.IsSpelling encoded bytes) (service : Service) (started finished : Binary64) :
    (Url.maxLength < (Preview.requestPath encoded).length →
      connection.execute service started finished encoded = .stopped (.url .malformed)) ∧
    ((Preview.requestPath encoded).length ≤ Url.maxLength →
      ∃ request, connection.requestTo (Preview.requestPath encoded) = .ok request ∧
        (∀ status body, service request 0 = .answer status body →
          ∃ result, connection.execute service started finished encoded =
            ⟨[request], .ok result⟩ ∧ (result.success = true ↔ 200 ≤ status ∧ status ≤ 299)) ∧
        (∀ f, service request 0 = .failure f → f.kind = .transport →
          ∃ result, connection.execute service started finished encoded =
            ⟨[request], .ok result⟩ ∧ result.success = false) ∧
        ∀ f, service request 0 = .failure f → f.kind ≠ .transport →
          connection.execute service started finished encoded =
            ⟨[request], .error (.failure f)⟩) := by
  constructor
  · intro hlength
    rw [execute, requestTo_of_length_gt hlength]
  · intro hlength
    obtain ⟨request, hrequest⟩ := exists_requestTo_of_isSpelling hbare h hlength
    refine ⟨request, hrequest, ?_, ?_, ?_⟩
    · intro status body hreply
      refine ⟨QueryResult.ofAnswer status body (elapsedMs started finished), ?_, ?_⟩
      · rw [execute_of_requestTo hrequest, hreply]
        rfl
      · rw [QueryResult.success_ofAnswer, QueryResult.isSuccess_iff]
    · intro f hreply hkind
      refine ⟨QueryResult.ofFailure f (elapsedMs started finished), ?_, rfl⟩
      rw [execute_of_requestTo hrequest, hreply, QueryResult.ofReply, if_pos hkind]
    · intro f hreply hkind
      rw [execute_of_requestTo hrequest, hreply, QueryResult.ofReply, if_neg hkind]

theorem execute_of_isSpelling_timeout : ∃ request result, Directory.plainConnection.execute
    (fun _ _ => .failure ⟨.transport, "ReadTimeout", []⟩) .zero .zero emptyFilter =
      ⟨[request], .ok result⟩ ∧ result.success = false := by
  obtain ⟨bare, hbare⟩ := exists_requestTo_personsPath
  obtain ⟨-, hsent⟩ := execute_of_isSpelling hbare (Percent.isSpelling_encode "\x7b\x7d")
    (fun _ _ => .failure ⟨.transport, "ReadTimeout", []⟩) .zero .zero
  obtain ⟨request, -, -, hunanswered, -⟩ := hsent length_emptyFilter
  obtain ⟨result, hresult, hfailed⟩ := hunanswered _ rfl rfl
  exact ⟨request, result, hresult, hfailed⟩

/-- An answer that arrives but cannot be decoded has no result. -/
theorem execute_undecodable : ∃ request, Directory.plainConnection.execute
    (fun _ _ => .failure ⟨.exchange, "DecodingError", "bad gzip"⟩) .zero .zero emptyFilter =
      ⟨[request], .error (.failure ⟨.exchange, "DecodingError", "bad gzip"⟩)⟩ := by
  obtain ⟨bare, hbare⟩ := exists_requestTo_personsPath
  obtain ⟨request, hrequest⟩ := exists_requestTo_of_isSpelling hbare
    (Percent.isSpelling_encode "\x7b\x7d") length_emptyFilter
  refine ⟨request, ?_⟩
  rw [emptyFilter, execute_of_requestTo hrequest]
  rfl

end Connection

end ProfileFilter
