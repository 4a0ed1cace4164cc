import ProfileFilter.Proofs.Service.Listing

/-!
# What the service tells about the key

The key goes into the authorization of the requests and nowhere else. A request without its
authorization is *anonymous*; what two connections to the same base do is the same once their
requests are made anonymous, if the service does not look at the authorization.

Main statements: `Connection.execute_anonymous`, `Directory.load_anonymous`.
-/

namespace ProfileFilter

/-- The request without its authorization. -/
def Request.anonymous (request : Request) : Request := { request with authorization := [] }

/-- The run with anonymous requests. -/
def Run.anonymous {α : Type} (run : Run α) : Run α :=
  { run with requests := run.requests.map Request.anonymous }

/-- The service replies the same whatever the authorization is. -/
def Service.IgnoresKey (service : Service) : Prop :=
  ∀ request earlier, service request earlier = service request.anonymous earlier

/-! ## Single requests -/

theorem Service.IgnoresKey.reply_eq {service : Service} (hservice : service.IgnoresKey)
    {request request' : Request} (h : request.anonymous = request'.anonymous) (earlier : Nat) :
    service request earlier = service request' earlier := by
  rw [hservice request, hservice request', h]

/-- The reply to a single request does not tell who asked. -/
theorem Service.IgnoresKey.anonymous_eq {service : Service} (hservice : service.IgnoresKey)
    {α : Type} {request request' : Request} (h : request.anonymous = request'.anonymous)
    (read : Reply → Except Stop α) :
    Run.anonymous ⟨[request], read (service request 0)⟩ =
      Run.anonymous ⟨[request'], read (service request' 0)⟩ := by
  rw [hservice.reply_eq h]
  exact congrArg (fun sent => Run.mk [sent] _) h

/-- Two requests, or two failures to make one, that are the same without authorization. -/
def SameRequest (made made' : Except UrlError Request) : Prop :=
  made.map Request.anonymous = made'.map Request.anonymous

namespace SameRequest

variable {made made' : Except UrlError Request}

/-- Both were made, or neither, for the same reason. -/
theorem cases (h : SameRequest made made') :
    (∃ e, made = .error e ∧ made' = .error e) ∨
      ∃ request request', made = .ok request ∧ made' = .ok request' ∧
        request.anonymous = request'.anonymous := by
  cases made with
  | error e =>
    cases made' with
    | error e' => exact .inl ⟨e, rfl, congrArg _ (Except.error.inj h).symm⟩
    | ok request' => cases h
  | ok request =>
    cases made' with
    | error e' => cases h
    | ok request' => exact .inr ⟨request, request', rfl, rfl, Except.ok.inj h⟩

end SameRequest

/-! ## Connections -/

variable {connection connection' : Connection} {service : Service}

namespace Connection

/-- A connection makes the same requests as any other to its base. -/
theorem requestTo_sameRequest (h : connection.base = connection'.base) (path : Text) :
    SameRequest (connection.requestTo path) (connection'.requestTo path) := by
  rw [SameRequest, requestTo, requestTo, h]
  cases Url.parse path with
  | error e => rfl
  | ok url =>
    cases hresolve : connection'.base.resolve url with
    | error e => simp only [bind, Except.bind, hresolve]
    | ok resolved =>
      simp only [bind, Except.bind, hresolve]
      rfl

theorem requestWith_sameRequest (h : connection.base = connection'.base) (path : Text)
    (parameters : List (Text × Text)) :
    SameRequest (connection.requestWith path parameters)
      (connection'.requestWith path parameters) := by
  rw [requestWith, requestWith]
  obtain ⟨e, hto, hto'⟩ | ⟨request, request', hto, hto', hsame⟩ :=
    (requestTo_sameRequest h path).cases
  · rw [hto, hto']
    rfl
  · have hurl : request.url = request'.url := by
      show request.anonymous.url = request'.anonymous.url
      rw [hsame]
    rw [hto, hto']
    simp only [bind, Except.bind, hurl]
    split <;> rfl

variable (hservice : service.IgnoresKey) (h : connection.base = connection'.base)
include hservice h

/-- **Running a filter does not tell the key.** -/
theorem execute_anonymous (started finished : Binary64) (encoded : Text) :
    (connection.execute service started finished encoded).anonymous =
      (connection'.execute service started finished encoded).anonymous := by
  rw [execute, execute]
  obtain ⟨e, hto, hto'⟩ | ⟨request, request', hto, hto', hsame⟩ :=
    (requestTo_sameRequest h (Preview.requestPath encoded)).cases
  · rw [hto, hto']
  · rw [hto, hto']
    exact hservice.anonymous_eq hsame _

end Connection

/-! ## The directory -/

namespace Directory

variable (hservice : service.IgnoresKey) (h : connection.base = connection'.base)
include hservice h

theorem pageAt_eq (limit : Int) (listing : Listing) (number : Nat) :
    pageAt connection service limit listing number =
      pageAt connection' service limit listing number := by
  rw [pageAt, pageAt]
  obtain ⟨e, hmade, hmade'⟩ | ⟨request, request', hmade, hmade', hsame⟩ :=
    (Connection.requestWith_sameRequest h listing.path (pageParameters limit number)).cases
  · rw [hmade, hmade']
  · simp only [hmade, hmade']
    rw [hservice.reply_eq hsame]

/-- Every page is the same, so the same pages are requested. -/
theorem list_anonymous (limit : Int) (listing : Listing) :
    (list connection service limit listing).anonymous =
      (list connection' service limit listing).anonymous := by
  have hpages : pageAt connection service limit listing = pageAt connection' service limit listing :=
    funext (pageAt_eq hservice h limit listing)
  have hmade : ∀ number,
      (connection.requestWith listing.path (pageParameters limit number)).toOption.map
        Request.anonymous =
      (connection'.requestWith listing.path (pageParameters limit number)).toOption.map
        Request.anonymous := by
    intro number
    obtain ⟨e, hmade, hmade'⟩ | ⟨request, request', hmade, hmade', hsame⟩ :=
      (Connection.requestWith_sameRequest h listing.path (pageParameters limit number)).cases
    · rw [hmade, hmade']
    · rw [hmade, hmade']
      exact congrArg some hsame
  simp only [Run.anonymous, list_outcome, list_requests, hpages, List.map_filterMap, hmade]

theorem fetchStandard_anonymous :
    (fetchStandard connection service).anonymous =
      (fetchStandard connection' service).anonymous := by
  rw [fetchStandard, fetchStandard]
  obtain ⟨e, hmade, hmade'⟩ | ⟨request, request', hmade, hmade', hsame⟩ :=
    (Connection.requestWith_sameRequest h Preview.personsPath [("limit", "1")]).cases
  · rw [hmade, hmade']
  · simp only [hmade, hmade', hservice.reply_eq hsame 0]
    exact congrArg (fun sent => Run.mk [sent] _) hsame

theorem fetchCustom_anonymous (limit : Int) :
    (fetchCustom connection service limit).anonymous =
      (fetchCustom connection' service limit).anonymous := by
  have hlist := list_anonymous hservice h limit .custom
  simp only [Run.anonymous, Run.mk.injEq] at hlist ⊢
  simp only [fetchCustom, hlist, and_self]

theorem fetchLists_anonymous (limit : Int) :
    (fetchLists connection service limit).anonymous =
      (fetchLists connection' service limit).anonymous := by
  have hlist := list_anonymous hservice h limit .lists
  simp only [Run.anonymous, Run.mk.injEq] at hlist ⊢
  simp only [fetchLists, hlist, and_self]

/-- **Loading attributes does not tell the key.** -/
theorem load_anonymous (limit : Int) :
    (load connection service limit).anonymous = (load connection' service limit).anonymous := by
  have hstandard := fetchStandard_anonymous hservice h
  have hcustom := fetchCustom_anonymous hservice h limit
  have hlists := fetchLists_anonymous hservice h limit
  simp only [Run.anonymous, Run.mk.injEq] at hstandard hcustom hlists ⊢
  simp only [load, gather, List.map_append, hstandard, hcustom, hlists, and_self]

end Directory

end ProfileFilter
