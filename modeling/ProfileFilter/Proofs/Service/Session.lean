import ProfileFilter.Proofs.Service.Merging
import ProfileFilter.Proofs.Service.Resolution
import ProfileFilter.Service.Session

/-!
# Sessions

What stays true in a session, whatever steps are taken and whatever the service replies. It is open
if the last step that opened or closed it opened it (`isOpenAfter`). The client never changes, so
every time the session is opened it gets the same connection (`IsLive`). A step therefore depends on
the steps before it only through whether they left the session open: then its requests lead behind
the base and carry the key, and otherwise it makes none (`Step.Obeys`).

Main statement: `takeAll_obeys`.
-/

namespace ProfileFilter

/-- One request was made, or its URL was refused. -/
def Run.IsSingle {α : Type} (run : Run α) : Prop :=
  (∃ request, run.requests = [request]) ∨ ∃ e, run = .stopped (.url e)

theorem Run.IsSingle.map {α β : Type} {run : Run α} (h : run.IsSingle) (f : α → β) :
    (run.map f).IsSingle := by
  rcases h with h | ⟨e, rfl⟩
  · exact .inl h
  · exact .inr ⟨e, rfl⟩

/-- A client opens with the base that its base URL leads to, and keeps its key. -/
theorem Client.exists_asBase_of_connect {client : Client} {connection : Connection}
    (h : client.connect = .ok connection) : ∃ base, Url.parse client.baseUrl = .ok base ∧
      base.asBase = .ok connection.base ∧ connection.key = client.key := by
  obtain ⟨base, hparse, hrest⟩ := bind_eq_ok.mp h
  obtain ⟨root, hroot, hopened⟩ := bind_eq_ok.mp hrest
  obtain rfl := Except.ok.inj hopened
  exact ⟨base, hparse, hroot, rfl⟩

namespace Connection

theorem execute_isSingle (connection : Connection) (service : Service)
    (started finished : Binary64) (encoded : Text) :
    (connection.execute service started finished encoded).IsSingle := by
  unfold execute
  split
  next e _ => exact .inr ⟨e, rfl⟩
  next request _ => exact .inl ⟨request, rfl⟩

theorem get_isSingle (connection : Connection) (service : Service) (path : Text)
    (parameters : Option (List (Text × Text))) :
    (connection.get service path parameters).IsSingle := by
  unfold get
  simp only
  split
  next e _ => exact .inr ⟨e, rfl⟩
  next request _ => exact .inl ⟨request, rfl⟩

/-- The request for a path, with parameters in place of its query if some are given. -/
def requestFor (connection : Connection) (path : Text) :
    Option (List (Text × Text)) → Except UrlError Request
  | some parameters => connection.requestWith path parameters
  | none => connection.requestTo path

/-- Every request carries the key of its connection. -/
theorem authorization_of_requestFor {connection : Connection} {path : Text}
    {parameters : Option (List (Text × Text))} {request : Request}
    (h : connection.requestFor path parameters = .ok request) :
    request.authorization = "App " ++ connection.key := by
  have hto : ∀ {made : Request}, connection.requestTo path = .ok made →
      made.authorization = "App " ++ connection.key := by
    intro made hmade
    obtain ⟨_, -, hrest⟩ := bind_eq_ok.mp hmade
    obtain ⟨_, -, hmade⟩ := bind_eq_ok.mp hrest
    obtain rfl := Except.ok.inj hmade
    rfl
  cases parameters with
  | none => exact hto h
  | some parameters =>
    obtain ⟨bare, hbare, hrest⟩ := bind_eq_ok.mp h
    split at hrest
    · obtain rfl := Except.ok.inj hrest
      have hkey := hto hbare
      exact hkey
    · cases hrest

/-- What is sent for a filter is the request for the path of the search. -/
theorem eq_ok_of_mem_execute {connection : Connection} {service : Service}
    {started finished : Binary64} {encoded : Text} {request : Request}
    (h : request ∈ (connection.execute service started finished encoded).requests) :
    connection.requestTo (Preview.requestPath encoded) = .ok request := by
  unfold execute at h
  split at h
  · exact absurd h List.not_mem_nil
  next made hmade =>
    rw [List.mem_singleton.mp h]
    exact hmade

/-- What is sent for a path is the request for it. -/
theorem eq_ok_of_mem_get {connection : Connection} {service : Service} {path : Text}
    {parameters : Option (List (Text × Text))} {request : Request}
    (h : request ∈ (connection.get service path parameters).requests) :
    connection.requestFor path parameters = .ok request := by
  unfold get at h
  simp only at h
  split at h
  · exact absurd h List.not_mem_nil
  next made hmade =>
    rw [List.mem_singleton.mp h]
    cases parameters <;> exact hmade

end Connection

namespace Session

/-! ## Steps -/

/-- Does the step open or close the session? -/
def Step.isSwitch : Step → Bool
  | .start | .stop => true
  | _ => false

/-- Does the step make one request and no more? -/
def Step.isSingle : Step → Bool
  | .execute _ _ | .get _ _ => true
  | _ => false

/-- Is the session open after these steps: was the last that opened or closed it one that opened
it? -/
def isOpenAfter (steps : List Step) : Bool :=
  (steps.filter Step.isSwitch).getLast? == some .start

/-- What a step requests: a path, and parameters that take the place of its query. -/
inductive Step.Asks : Step → Text → Option (List (Text × Text)) → Prop where
  /-- the search with an encoded filter -/
  | execute (seconds : Binary64) (encoded : Text) :
      Asks (.execute seconds encoded) (Preview.requestPath encoded) none
  /-- the path as it is given -/
  | get (path : Text) (parameters : Option (List (Text × Text))) :
      Asks (.get path parameters) path parameters
  /-- the probe of the standard fields -/
  | standard : Asks .standard Preview.personsPath (some [("limit", "1")])
  /-- a page of the attributes the account defined -/
  | custom (limit : Int) (number : Nat) :
      Asks (.custom limit) Directory.Listing.custom.path
        (some (Directory.pageParameters limit (number + 1)))
  /-- a page of the lists of the account -/
  | lists (limit : Int) (number : Nat) :
      Asks (.lists limit) Directory.Listing.lists.path
        (some (Directory.pageParameters limit (number + 1)))
  /-- the probe of the standard fields, as one of the sources -/
  | loadStandard (limit : Int) : Asks (.load limit) Preview.personsPath (some [("limit", "1")])
  /-- a page of one of the other sources -/
  | loadListing (limit : Int) (listing : Directory.Listing) (number : Nat) :
      Asks (.load limit) listing.path (some (Directory.pageParameters limit (number + 1)))

theorem isOpenAfter_append (steps : List Step) (step : Step) :
    isOpenAfter (steps ++ [step]) =
      if step.isSwitch then step == .start else isOpenAfter steps := by
  rw [isOpenAfter, isOpenAfter, List.filter_append]
  split
  next hswitch =>
    rw [List.filter_singleton, hswitch, cond_true, List.getLast?_concat]
    exact Option.some_beq_some
  next hswitch =>
    rw [List.filter_singleton, Bool.eq_false_iff.mpr hswitch, cond_false, List.append_nil]

/-- The path that is asked for starts with one slash. -/
def Step.HasPath (step : Step) : Prop :=
  ∀ path parameters, step = .get path parameters → Url.HasOneSlash path

theorem hasOneSlash_personsPath : Url.HasOneSlash Preview.personsPath :=
  ⟨"people/2/persons", rfl, by decide⟩

theorem hasOneSlash_listing (listing : Directory.Listing) : Url.HasOneSlash listing.path := by
  cases listing with
  | custom => exact ⟨"people/2/customAttributes", rfl, by decide⟩
  | lists => exact ⟨"people/3/lists", rfl, by decide⟩

/-- Only the paths of a caller may start with more than one slash. -/
theorem Step.Asks.hasOneSlash {step : Step} {path : Text}
    {parameters : Option (List (Text × Text))} (h : step.Asks path parameters)
    (hpath : step.HasPath) : Url.HasOneSlash path := by
  cases h with
  | execute seconds encoded => exact Url.hasOneSlash_requestPath encoded
  | get path parameters => exact hpath path parameters rfl
  | standard => exact hasOneSlash_personsPath
  | custom limit number => exact hasOneSlash_listing .custom
  | lists limit number => exact hasOneSlash_listing .lists
  | loadStandard limit => exact hasOneSlash_personsPath
  | loadListing limit listing number => exact hasOneSlash_listing listing

/-! ## Requests -/

/-- A request of what a step asks, over a connection. -/
def Step.Makes (connection : Connection) (step : Step) (request : Request) : Prop :=
  ∃ path parameters, step.Asks path parameters ∧
    connection.requestFor path parameters = .ok request

section Makes

variable {connection : Connection} {service : Service} {step : Step} {request : Request}

theorem Step.Makes.authorization (h : step.Makes connection request) :
    request.authorization = "App " ++ connection.key := by
  obtain ⟨_, _, -, hmade⟩ := h
  exact Connection.authorization_of_requestFor hmade

/-- The probe asks for the standard fields. -/
theorem makes_of_mem_fetchStandard
    (hasks : step.Asks Preview.personsPath (some [("limit", "1")]))
    (h : request ∈ (Directory.fetchStandard connection service).requests) :
    step.Makes connection request := by
  unfold Directory.fetchStandard at h
  split at h
  · exact absurd h List.not_mem_nil
  next made hmade =>
    rw [List.mem_singleton.mp h]
    exact ⟨_, _, hasks, hmade⟩

/-- A listing asks for its pages. -/
theorem makes_of_mem_list {limit : Int} {listing : Directory.Listing}
    (hasks : ∀ number, step.Asks listing.path
      (some (Directory.pageParameters limit (number + 1))))
    (h : request ∈ (Directory.list connection service limit listing).requests) :
    step.Makes connection request := by
  obtain ⟨number, -, hnumber⟩ := List.mem_filterMap.mp h
  have hmade : (connection.requestWith listing.path
      (Directory.pageParameters limit (number + 1))).toOption = some request := hnumber
  cases hrequest : connection.requestWith listing.path
      (Directory.pageParameters limit (number + 1)) with
  | error e =>
    rw [hrequest] at hmade
    cases hmade
  | ok made =>
    rw [hrequest] at hmade
    obtain rfl := Option.some.inj hmade
    exact ⟨_, _, hasks number, hrequest⟩

theorem makes_of_mem_execute (seconds : Binary64) {started finished : Binary64} {encoded : Text}
    (h : request ∈ (connection.execute service started finished encoded).requests) :
    (Step.execute seconds encoded).Makes connection request :=
  ⟨_, none, .execute seconds encoded, Connection.eq_ok_of_mem_execute h⟩

theorem makes_of_mem_get {path : Text} {parameters : Option (List (Text × Text))}
    (h : request ∈ (connection.get service path parameters).requests) :
    (Step.get path parameters).Makes connection request :=
  ⟨path, parameters, .get path parameters, Connection.eq_ok_of_mem_get h⟩

theorem makes_of_mem_load {limit : Int}
    (h : request ∈ (Directory.load connection service limit).requests) :
    (Step.load limit).Makes connection request := by
  have hlisting : ∀ listing : Directory.Listing,
      request ∈ (Directory.list connection service limit listing).requests →
        (Step.load limit).Makes connection request := fun listing =>
    makes_of_mem_list (.loadListing limit listing)
  rcases List.mem_append.mp h with h | h
  · rcases List.mem_append.mp h with h | h
    · exact makes_of_mem_fetchStandard (.loadStandard limit) h
    · exact hlisting .custom h
  · exact hlisting .lists h

end Makes

/-- A request of what a step asks, behind a base and with a key. -/
structure Step.IsAsked (base : Url) (key : Text) (step : Step) (request : Request) : Prop where
  /-- the key -/
  authorization : request.authorization = "App " ++ key
  /-- the path and the parameters, behind the base -/
  follows : ∃ path parameters, step.Asks path parameters ∧
    base.Follows path (Url.sentQuery path parameters) request.url

/-- What is asked for over a connection to a base is asked for behind the base. -/
theorem Step.Makes.isAsked {base : Url} {connection : Connection} {step : Step}
    {request : Request} (h : step.Makes connection request) (hbase : base.IsBase)
    (hroot : base.asBase = .ok connection.base) (hpath : step.HasPath) :
    step.IsAsked base connection.key request := by
  refine ⟨h.authorization, ?_⟩
  obtain ⟨path, parameters, hasks, hmade⟩ := h
  have hslash := hasks.hasOneSlash hpath
  refine ⟨path, parameters, hasks, ?_⟩
  cases parameters with
  | none => exact Connection.follows_of_requestTo hbase hroot hslash hmade
  | some parameters => exact Connection.follows_of_requestWith hbase hroot hslash hmade

/-! ## One step -/

/-- The session of a client is open or not, and if it is, with this connection. -/
structure IsLive (client : Client) (connection : Connection) (isOpen : Bool) (session : Session) :
    Prop where
  /-- the client -/
  client : session.client = client
  /-- its connection, if the session is open -/
  connection : session.connection = if isOpen then some connection else none

/-- What a step does in a session that is open or not. -/
structure Step.Obeys (base : Url) (key : Text) (isOpen : Bool) (step : Step) (run : Run Yield) :
    Prop where
  /-- only in an open session is anything requested -/
  notOpen : isOpen = false → step.isSwitch = false →
    run.requests = [] ∧ run.outcome = .error .notOpen
  /-- what is requested is what the step asks -/
  requests : ∀ request ∈ run.requests, isOpen = true ∧ step.IsAsked base key request
  /-- some steps request one thing and no more -/
  single : isOpen = true → step.isSingle = true → run.IsSingle

section Step

variable {client : Client} {connection : Connection} {isOpen : Bool} {session : Session}
  {service : Service} {step : Step}

/-- **A step leaves the client as it is**, and the connection is always the same one. -/
theorem IsLive.take (h : session.IsLive client connection isOpen)
    (hconnect : client.connect = .ok connection) :
    (session.take service step).1.IsLive client connection
      (if step.isSwitch then step == .start else isOpen) := by
  cases step with
  | start =>
    have hstart : session.start = .ok { session with connection := some connection } := by
      rw [start, h.client, hconnect]
    simp only [Session.take, hstart]
    exact ⟨h.client, rfl⟩
  | stop => exact ⟨h.client, rfl⟩
  | execute seconds encoded =>
    -- whether the clock moves depends on the run, but nothing else of the session does
    have hclock : ∀ (isStill : Bool) (clock : Binary64), IsLive client connection isOpen
        (if isStill then session else { session with clock }) := by
      intro isStill clock
      cases isStill with
      | false => exact ⟨h.client, h.connection⟩
      | true => exact h
    exact hclock _ _
  | get path parameters => exact h
  | load limit => exact h
  | standard => exact h
  | custom limit => exact h
  | lists limit => exact h

/-- Loading uses the connection, too: without one, every source stops for that reason, and so does
what is gathered from them. -/
theorem load_eq (session : Session) (service : Service) (limit : Int) :
    session.load service limit = session.withConnection fun c => Directory.load c service limit := by
  unfold load withConnection
  cases session.connection with
  | none => rfl
  | some connection => rfl

/-- A step that uses the connection obeys if its run of the connection does. -/
theorem IsLive.obeys_withConnection {α : Type} {base : Url} {run : Connection → Run α}
    (h : session.IsLive client connection isOpen) (f : α → Yield)
    (hrequests : ∀ request ∈ (run connection).requests, step.IsAsked base connection.key request)
    (hsingle : step.isSingle = true → (run connection).IsSingle) :
    step.Obeys base connection.key isOpen ((session.withConnection run).map f) := by
  have hconnection := h.connection
  unfold withConnection
  -- the connection of a session is known once it is known whether the session is open
  cases isOpen with
  | false =>
    rw [hconnection]
    exact ⟨fun _ _ => ⟨rfl, rfl⟩, fun _ hmem => absurd hmem List.not_mem_nil, nofun⟩
  | true =>
    rw [hconnection]
    exact ⟨nofun, fun request hmem => ⟨rfl, hrequests request hmem⟩,
      fun _ hstep => (hsingle hstep).map f⟩

/-- Opening and closing request nothing. -/
theorem obeys_of_isSwitch {base : Url} {key : Text} {run : Run Yield}
    (hswitch : step.isSwitch = true) (hrun : run.requests = []) :
    step.Obeys base key isOpen run where
  notOpen := fun _ hstep => absurd hswitch (Bool.eq_false_iff.mp hstep)
  requests := fun request hmem => absurd (hrun ▸ hmem) List.not_mem_nil
  single := fun _ hsingle => by
    cases step with
    | execute seconds encoded => cases hswitch
    | get path parameters => cases hswitch
    | _ => cases hsingle

/-- **Every step obeys.** -/
theorem IsLive.take_obeys {base : Url} (h : session.IsLive client connection isOpen)
    (hbase : base.IsBase) (hroot : base.asBase = .ok connection.base) (hpath : step.HasPath) :
    step.Obeys base connection.key isOpen (session.take service step).2 := by
  cases step with
  | start =>
    refine obeys_of_isSwitch rfl ?_
    cases hstart : session.start with
    | error why =>
      simp only [Session.take, hstart]
      rfl
    | ok opened =>
      simp only [Session.take, hstart]
      rfl
  | stop => exact obeys_of_isSwitch rfl rfl
  | execute seconds encoded =>
    exact h.obeys_withConnection .result
      (fun _ hmem => (makes_of_mem_execute seconds hmem).isAsked hbase hroot hpath)
      fun _ => connection.execute_isSingle service _ _ encoded
  | get path parameters =>
    exact h.obeys_withConnection .status
      (fun _ hmem => (makes_of_mem_get hmem).isAsked hbase hroot hpath)
      fun _ => connection.get_isSingle service path parameters
  | load limit =>
    rw [Session.take, load_eq]
    exact h.obeys_withConnection .load
      (fun _ hmem => (makes_of_mem_load hmem).isAsked hbase hroot hpath) nofun
  | standard =>
    exact h.obeys_withConnection .attributes
      (fun _ hmem => (makes_of_mem_fetchStandard .standard hmem).isAsked hbase hroot hpath) nofun
  | custom limit =>
    exact h.obeys_withConnection .attributes
      (fun _ hmem => (makes_of_mem_list (.custom limit) hmem).isAsked hbase hroot hpath) nofun
  | lists limit =>
    exact h.obeys_withConnection .attributes
      (fun _ hmem => (makes_of_mem_list (.lists limit) hmem).isAsked hbase hroot hpath) nofun

end Step

/-! ## Whole runs -/

/-- A session starts out closed. -/
theorem isLive_ofCredentials (baseUrl key : Text) (connection : Connection) :
    (ofCredentials baseUrl key).IsLive (.ofCredentials baseUrl key) connection
      (isOpenAfter []) := ⟨rfl, rfl⟩

section Run

variable {client : Client} {connection : Connection} {base : Url}
  (hconnect : client.connect = .ok connection) (hbase : base.IsBase)
  (hroot : base.asBase = .ok connection.base)

include hconnect

/-- What a run leaves behind depends on the steps only through the last that opened or closed. -/
theorem IsLive.takeAll {steps : List (Service × Step)} {before : List Step} {session : Session}
    (h : session.IsLive client connection (isOpenAfter before)) :
    (session.takeAll steps).1.IsLive client connection
      (isOpenAfter (before ++ steps.map Prod.snd)) := by
  -- the first step moves from the steps to come to those before, with the session it leaves
  induction steps generalizing before session with
  | nil =>
    rw [List.map_nil, List.append_nil]
    exact h
  | cons first rest ih =>
    obtain ⟨service, step⟩ := first
    have hnext : (session.take service step).1.IsLive client connection
        (isOpenAfter (before ++ [step])) := by
      rw [isOpenAfter_append]
      exact h.take hconnect
    have hrest := ih hnext
    rw [List.append_assoc] at hrest
    exact hrest

/-- Every step of a run obeys, given whether the steps before it left the session open. -/
theorem IsLive.obeys_of_getElem? (hbase : base.IsBase) (hroot : base.asBase = .ok connection.base)
    {steps : List (Service × Step)} {before : List Step} {session : Session}
    (h : session.IsLive client connection (isOpenAfter before))
    (hpaths : ∀ s ∈ steps, s.2.HasPath) {n : Nat} {service : Service} {step : Step}
    (hstep : steps[n]? = some (service, step)) :
    ∃ run, (session.takeAll steps).2[n]? = some run ∧ step.Obeys base connection.key
      (isOpenAfter (before ++ (steps.take n).map Prod.snd)) run := by
  induction steps generalizing before session n with
  | nil => cases hstep
  | cons first rest ih =>
    obtain ⟨hpath, hrest⟩ := List.forall_mem_cons.mp hpaths
    cases n with
    | zero =>
      obtain rfl := Option.some.inj hstep
      refine ⟨_, rfl, ?_⟩
      rw [List.take_zero, List.map_nil, List.append_nil]
      exact h.take_obeys hbase hroot hpath
    | succ n =>
      have hnext : (session.take first.1 first.2).1.IsLive client connection
          (isOpenAfter (before ++ [first.2])) := by
        rw [isOpenAfter_append]
        exact h.take hconnect
      obtain ⟨run, hrun, hobeys⟩ := ih hnext hrest hstep
      rw [List.append_assoc] at hobeys
      exact ⟨run, hrun, hobeys⟩

end Run

theorem length_takeAll (session : Session) (steps : List (Service × Step)) :
    (session.takeAll steps).2.length = steps.length := by
  induction steps generalizing session with
  | nil => rfl
  | cons first rest ih => exact congrArg (· + 1) (ih _)

/-- A service that accepts everything. -/
def acceptingService : Service := fun _ _ => .answer 200 []

/-- A session that is used too early, opened, used, closed, used too late and opened again. -/
def reopened : List (Service × Step) :=
  [(acceptingService, .load 10), (acceptingService, .start),
    (acceptingService, .execute .zero "%7B%7D"), (acceptingService, .stop),
    (acceptingService, .standard), (acceptingService, .start),
    (acceptingService, .get "/v2/persons?page=1" none)]

end Session

end ProfileFilter
