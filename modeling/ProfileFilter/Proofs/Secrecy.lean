import ProfileFilter.Proofs.Command.Files
import ProfileFilter.Proofs.EntryPoints
import ProfileFilter.Proofs.Service.Secrecy
import ProfileFilter.Proofs.Value.Lookup

/-!
# Keys stay secret

Two uses that differ in nothing but the key, where no key is blank, differ in nothing but the
authorization of the requests. This holds for the commands and the calls that use the service,
however they end. The settings are shown with a masked key, and settings with the same mask are
shown alike.

Main statement: `keys_stay_secret`.
-/

namespace ProfileFilter

/-! ## Credentials -/

/-- Only whether a key is blank can be wrong with it. -/
theorem Credentials.require_congr {key key' : Text} (url : Text) (h : key.trim ≠ [])
    (h' : key'.trim ≠ []) : require url key = require url key' := by
  have hfaults : ∀ {key : Text}, key.trim ≠ [] → keyFaults key = [] := fun h =>
    if_neg (by rwa [List.isEmpty_iff])
  rw [require, require, faults, faults, hfaults h, hfaults h']

/-- The base of the requests does not depend on the key. -/
theorem Client.connect_cases (url key key' : Text) :
    (∃ e, (ofCredentials url key).connect = .error e ∧
      (ofCredentials url key').connect = .error e) ∨
    ∃ connection connection', (ofCredentials url key).connect = .ok connection ∧
      (ofCredentials url key').connect = .ok connection' ∧
      connection.base = connection'.base := by
  simp only [connect, ofCredentials]
  cases Url.parse (Credentials.normalBaseUrl url) with
  | error e => exact .inl ⟨e, rfl, rfl⟩
  | ok url =>
    simp only [bind, Except.bind]
    cases url.asBase with
    | error e => exact .inl ⟨e, rfl, rfl⟩
    | ok base => exact .inr ⟨_, _, rfl, rfl, rfl⟩

/-- The settings differ in nothing but the key, and both keys are filled in. -/
structure ConnectionSettings.KeyedAlike (settings settings' : ConnectionSettings) : Prop where
  /-- all but the key is the same -/
  eq : { settings with apiKey := settings'.apiKey } = settings'
  /-- the key -/
  key : settings.apiKey.trim ≠ []
  /-- the other key -/
  key' : settings'.apiKey.trim ≠ []

namespace ConnectionSettings.KeyedAlike

variable {settings settings' : ConnectionSettings} (h : settings.KeyedAlike settings')
include h

theorem baseUrl_eq : settings.baseUrl = settings'.baseUrl := by
  rw [← h.eq]

theorem pageLimit_eq : settings.pageLimit = settings'.pageLimit := by
  rw [← h.eq]

/-- Another base URL may be put in place of both. -/
theorem override (baseUrl : Option Text) :
    (settings.override baseUrl none).KeyedAlike (settings'.override baseUrl none) where
  eq := by
    rw [← h.eq]
    rfl
  key := h.key
  key' := h.key'

end ConnectionSettings.KeyedAlike

/-- Other keys may be put in place. -/
theorem ConnectionSettings.keyedAlike_override (settings : ConnectionSettings)
    (baseUrl : Option Text) {key key' : Text} (h : key.trim ≠ []) (h' : key'.trim ≠ []) :
    (settings.override baseUrl (some key)).KeyedAlike (settings.override baseUrl (some key')) :=
  ⟨rfl, h, h'⟩

/-! ## Commands -/

/-- The outcome with anonymous requests. -/
def Outcome.anonymous (outcome : Outcome) : Outcome :=
  { outcome with requests := outcome.requests.map Request.anonymous }

namespace Outcome

/-- What is printed does not depend on the requests made before. -/
theorem print_withRequests (outcome : Outcome) (requests : List Request) (lines : List Text) :
    print { outcome with requests } lines = { print outcome lines with requests } := by
  induction lines generalizing outcome with
  | nil => rfl
  | cons line rest ih =>
    simp only [print]
    split
    · next t _ =>
      split_ifs
      · exact ih { outcome with stdout := outcome.stdout ++ t ++ "\n" }
      · rfl
    · rfl

theorem failed_eq (report : Report) (requests : List Request) :
    failed report requests = { failed report with requests } := by
  rw [failed, failed]
  split
  · exact print_withRequests { exitCode := 1 } requests _
  · rfl

theorem failed_anonymous (report : Report) (requests : List Request) :
    (failed report requests).anonymous = failed report (requests.map Request.anonymous) := by
  rw [failed_eq report requests, failed_eq report (requests.map Request.anonymous)]
  rfl

theorem shown_anonymous (exitCode : Nat) (requests : List Request)
    (output : Except Json.Unprintable Output) :
    (shown exitCode requests output).anonymous =
      shown exitCode (requests.map Request.anonymous) output := by
  cases output with
  | error why => rfl
  | ok output =>
    rw [shown, shown]
    cases obstacle? output <;> rfl

end Outcome

namespace Command

theorem stopped_anonymous (requests : List Request) (why : Stop) :
    (stopped requests why).anonymous = stopped (requests.map Request.anonymous) why := by
  cases why with
  | report report => exact Outcome.failed_anonymous report requests
  | _ => rfl

theorem withFilter_anonymous {world : World} {file known : Option Text}
    {go go' : FilterSet → List Attribute → Outcome}
    (hgo : ∀ filter attributes,
      (go filter attributes).anonymous = (go' filter attributes).anonymous) :
    (withFilter world file known go).anonymous = (withFilter world file known go').anonymous := by
  rw [withFilter_eq, withFilter_eq]
  split
  · rfl
  · split
    · rfl
    · exact hgo _ _

theorem withSettings_eq (world : World) (config own : Option Text) (go : Settings → Outcome) :
    withSettings world config own go =
      match Settings.load world.files world.environment (orElse own (config.getD [])) with
      | .ok settings => go settings
      | .error failure => withoutSettings world.report failure :=
  rfl

theorem withSettings_of_load {world : World} {config own : Option Text} {settings : Settings}
    (h : Settings.load world.files world.environment (orElse own (config.getD [])) = .ok settings)
    (go : Settings → Outcome) : withSettings world config own go = go settings := by
  rw [withSettings_eq, h]

theorem withSettings_anonymous {world : World} {config own : Option Text}
    {go go' : Settings → Outcome}
    (hgo : ∀ settings, (go settings).anonymous = (go' settings).anonymous) :
    (withSettings world config own go).anonymous =
      (withSettings world config own go').anonymous := by
  rw [withSettings_eq, withSettings_eq]
  split
  · exact hgo _
  · rfl

section Runs

variable {world world' : World} {settings settings' : ConnectionSettings}
  (hkeys : settings.KeyedAlike settings')
include hkeys

theorem withCredentials_anonymous {go go' : Unit → Outcome}
    (hgo : (go ()).anonymous = (go' ()).anonymous) :
    (withCredentials settings go).anonymous = (withCredentials settings' go').anonymous := by
  rw [withCredentials, withCredentials, hkeys.baseUrl_eq,
    Credentials.require_congr _ hkeys.key hkeys.key']
  cases Credentials.require settings'.baseUrl settings'.apiKey with
  | error why => rfl
  | ok => exact hgo

/-- What comes of a use of the service is told without the key. -/
theorem withRun_anonymous {α : Type} {run run' : Connection → Run α}
    {go : List Request → α → Outcome}
    (hrun : ∀ connection connection' : Connection, connection.base = connection'.base →
      (run connection).anonymous = (run' connection').anonymous)
    (hgo : ∀ requests a, (go requests a).anonymous = go (requests.map Request.anonymous) a) :
    (withRun settings run go).anonymous = (withRun settings' run' go).anonymous := by
  rw [withRun, withRun, hkeys.baseUrl_eq]
  obtain ⟨e, hconnect, hconnect'⟩ | ⟨connection, connection', hconnect, hconnect', hbase⟩ :=
    Client.connect_cases settings'.baseUrl settings.apiKey settings'.apiKey
  · rw [hconnect, hconnect']
  · have hsame := Run.mk.inj (hrun connection connection' hbase)
    simp only [hconnect, hconnect', hsame.2]
    split
    · rw [stopped_anonymous, stopped_anonymous, hsame.1]
    · rw [hgo, hgo, hsame.1]

variable (hservice : world.service.IgnoresKey) (hworlds : world.service = world'.service)
include hservice hworlds

/-- **Loading attributes tells nothing of the key.** -/
theorem runAttributes_anonymous (asJson : Bool) :
    (runAttributes world settings asJson).anonymous =
      (runAttributes world' settings' asJson).anonymous := by
  refine withCredentials_anonymous hkeys (withRun_anonymous hkeys (fun connection connection' h =>
    ?_) fun requests load => Outcome.shown_anonymous 0 requests _)
  rw [← hworlds, hkeys.pageLimit_eq]
  exact Directory.load_anonymous hservice h settings'.pageLimit

/-- **Running a filter tells nothing of the key.** -/
theorem runTest_anonymous (hseconds : world.seconds = world'.seconds) {file known : Option Text}
    (hfiles : ∀ path ∈ file.toList ++ known.toList,
      world.files (.working path) = world'.files (.working path)) (asJson : Bool) :
    (runTest world settings file known asJson).anonymous =
      (runTest world' settings' file known asJson).anonymous := by
  refine withCredentials_anonymous hkeys ?_
  rw [← withFilter_congr hfiles]
  refine withFilter_anonymous fun filter attributes => ?_
  cases compileFilter attributes filter with
  | error why => rfl
  | ok compiled =>
    refine withRun_anonymous hkeys (fun connection connection' h => ?_)
      fun requests result => Outcome.shown_anonymous _ requests _
    rw [← hworlds, hseconds]
    exact Connection.execute_anonymous hservice h _ _ compiled.encoded

end Runs

end Command

/-! ## Calls -/

namespace Api

/-- What is served, with anonymous requests. -/
def Served.anonymous (served : Served) : Served :=
  { served with requests := served.requests.map Request.anonymous }

/-- The reply with anonymous requests. -/
def Reply.anonymous (reply : Reply) : Reply :=
  { reply with requests := reply.requests.map Request.anonymous }

/-- The credentials differ in nothing but the key, and both keys are filled in. -/
structure CredentialOrder.KeyedAlike (order order' : CredentialOrder) : Prop where
  /-- the base URL is the same -/
  baseUrl : order.baseUrl = order'.baseUrl
  /-- the key -/
  key : order.apiKey.trim ≠ []
  /-- the other key -/
  key' : order'.apiKey.trim ≠ []

/-- Two calls whose bodies are objects that differ in nothing but a key. -/
structure Call.KeyedAlike (call call' : Call) (entries entries' : Entries) (key key' : Text) :
    Prop where
  /-- all but the body is the same -/
  eq : { call with body := call'.body } = call'
  /-- the body is an object -/
  content : call.content = .json (.mapping entries)
  /-- so is the other one -/
  content' : call'.content = .json (.mapping entries')
  /-- all other fields are the same -/
  others : ∀ name : Text, name ≠ "api_key" → Value.lookup? name entries = Value.lookup? name entries'
  /-- the field of the key -/
  lookup : Value.lookup? "api_key" entries = some (.text key)
  /-- the field of the other key -/
  lookup' : Value.lookup? "api_key" entries' = some (.text key')
  /-- the key is filled in -/
  filled : key.trim ≠ []
  /-- so is the other one -/
  filled' : key'.trim ≠ []

theorem stopped_anonymous (requests : List Request) (why : Stop) :
    (stopped requests why).map Served.anonymous =
      stopped (requests.map Request.anonymous) why := by
  cases why <;> rfl

section Runs

variable {order order' : CredentialOrder} (hkeys : order.KeyedAlike order')
include hkeys

theorem withCredentials_anonymous {go go' : Unit → Except Failure Served}
    (hgo : (go ()).map Served.anonymous = (go' ()).map Served.anonymous) :
    (withCredentials order go).map Served.anonymous =
      (withCredentials order' go').map Served.anonymous := by
  rw [withCredentials, withCredentials, hkeys.baseUrl,
    Credentials.require_congr _ hkeys.key hkeys.key']
  cases Credentials.require order'.baseUrl order'.apiKey with
  | error why => rfl
  | ok => exact hgo

/-- A use of the service is answered without the key. -/
theorem withRun_anonymous {α : Type} {run : Connection → Run α} (record : α → Value)
    (hrun : ∀ connection connection' : Connection, connection.base = connection'.base →
      (run connection).anonymous = (run connection').anonymous) :
    (withRun order run record).map Served.anonymous =
      (withRun order' run record).map Served.anonymous := by
  rw [withRun, withRun, hkeys.baseUrl]
  obtain ⟨e, hconnect, hconnect'⟩ | ⟨connection, connection', hconnect, hconnect', hbase⟩ :=
    Client.connect_cases order'.baseUrl order.apiKey order'.apiKey
  · rw [hconnect, hconnect']
  · have hsame := Run.mk.inj (hrun connection connection' hbase)
    simp only [hconnect, hconnect', hsame.2]
    split
    · rw [stopped_anonymous, stopped_anonymous, hsame.1]
    · exact congrArg (fun sent => Except.ok (Served.mk _ sent)) hsame.1

end Runs

theorem dispatch_load {host : Host} {call : Call} (hpath : call.path = "/api/v1/attributes/load")
    (hmethod : call.method = "POST") :
    dispatch host call = loadAttributes host.settings.connection host.service call := by
  rw [dispatch, hpath, show endpointAt? "/api/v1/attributes/load" =
    some ⟨"POST", fun host call => loadAttributes host.settings.connection host.service call⟩
    from rfl, hmethod]
  rfl

/-- What is served alike is answered alike. -/
theorem written_anonymous {served served' : Except Failure Served}
    (h : served.map Served.anonymous = served'.map Served.anonymous)
    (allowOrigin : Option Text) :
    Except.map Reply.anonymous (do
      let served ← served
      let answer ← served.answer.written
      return { answer, requests := served.requests, allowOrigin }) =
    Except.map Reply.anonymous (do
      let served ← served'
      let answer ← served.answer.written
      return { answer, requests := served.requests, allowOrigin }) := by
  cases served with
  | error failure =>
    cases served' with
    | error failure' =>
      obtain rfl := Except.error.inj h
      rfl
    | ok served' => cases h
  | ok served =>
    cases served' with
    | error failure' => cases h
    | ok served' =>
      obtain ⟨hanswer, hrequests⟩ := Served.mk.inj (Except.ok.inj h)
      simp only [bind, Except.bind, hanswer]
      cases served'.answer.written with
      | error failure => rfl
      | ok answer => exact congrArg (fun sent => Except.ok (Reply.mk answer sent _)) hrequests

/-! ### Bodies -/

/-- Two checks that refuse for the same issues, or pass what is related. -/
inductive Alike {α : Type} (R : α → α → Prop) : Validated α → Validated α → Prop where
  /-- both are refused -/
  | invalid (issues : List Issue) : Alike R (.invalid issues) (.invalid issues)
  /-- both pass -/
  | valid {a b : α} : R a b → Alike R (.valid a) (.valid b)

namespace Alike

variable {α β : Type} {R : α → α → Prop} {S : β → β → Prop}

theorem map {v w : Validated α} (h : Alike R v w) {f : α → β}
    (hf : ∀ a b, R a b → S (f a) (f b)) : Alike S (f <$> v) (f <$> w) := by
  cases h with
  | invalid issues => exact .invalid issues
  | valid hab => exact .valid (hf _ _ hab)

/-- The next field of both is the same. -/
theorem seq {R : (α → β) → (α → β) → Prop} {f g : Validated (α → β)} (h : Alike R f g)
    (hf : ∀ f g, R f g → ∀ a, S (f a) (g a)) (v : Validated α) : Alike S (f <*> v) (g <*> v) := by
  cases h with
  | invalid issues =>
    cases v with
    | invalid more => exact .invalid _
    | valid a => exact .invalid _
  | valid hfg =>
    cases v with
    | invalid more => exact .invalid _
    | valid a => exact .valid (hf _ _ hfg a)

end Alike

theorem optional_congr {α : Type} {name : Text} {entries entries' : Entries}
    (h : Value.lookup? name entries = Value.lookup? name entries') (default : α)
    (check : Value → Validated α) :
    Check.optional [name] default check entries = Check.optional [name] default check entries' := by
  simp only [Check.optional, Check.findField?, List.findSome?_cons, List.findSome?_nil, h]

section Bodies

variable {host : Host} {call call' : Call} {entries entries' : Entries} {key key' : Text}
  (hcalls : call.KeyedAlike call' entries entries' key key')
include hcalls

/-- Bodies that are checked alike are served alike. -/
theorem withBody_anonymous {α : Type} {R : α → α → Prop} {check : Value → Validated α}
    {go : α → Except Failure Served}
    (hcheck : Alike R (check (.mapping entries)) (check (.mapping entries')))
    (hgo : ∀ a b, R a b → (go a).map Served.anonymous = (go b).map Served.anonymous) :
    (withBody call check go).map Served.anonymous =
      (withBody call' check go).map Served.anonymous := by
  simp only [withBody, checkBody, hcalls.content, hcalls.content']
  generalize check (.mapping entries) = v, check (.mapping entries') = v' at hcheck
  cases hcheck with
  | invalid issues => rfl
  | valid h => exact hgo _ _ h

/-- The credentials in both bodies. -/
theorem credentials_alike : Alike CredentialOrder.KeyedAlike
    (CredentialOrder.mk <$> Check.optional ["base_url"] [] Check.text entries
      <*> Check.optional ["api_key"] [] Check.text entries)
    (CredentialOrder.mk <$> Check.optional ["base_url"] [] Check.text entries'
      <*> Check.optional ["api_key"] [] Check.text entries') := by
  have hkey : Check.optional ["api_key"] [] Check.text entries = .valid key :=
    optional_of_lookup? hcalls.lookup rfl
  have hkey' : Check.optional ["api_key"] [] Check.text entries' = .valid key' :=
    optional_of_lookup? hcalls.lookup' rfl
  rw [optional_congr (hcalls.others "base_url" (by decide)), hkey, hkey']
  cases Check.optional ["base_url"] [] Check.text entries' with
  | invalid issues => exact .invalid issues
  | valid url => exact .valid ⟨rfl, hcalls.filled, hcalls.filled'⟩

theorem credentialOrder_alike : Alike CredentialOrder.KeyedAlike
    (credentialOrder (.mapping entries)) (credentialOrder (.mapping entries')) :=
  credentials_alike hcalls

/-- Two orders to run a filter that differ in nothing but the key. -/
structure QueryOrder.KeyedAlike (order order' : QueryOrder) : Prop where
  /-- the credentials -/
  credentials : order.credentials.KeyedAlike order'.credentials
  /-- all else is the same -/
  eq : { order with credentials := order'.credentials } = order'

theorem queryOrder_alike : Alike QueryOrder.KeyedAlike
    (queryOrder (.mapping entries)) (queryOrder (.mapping entries')) := by
  simp only [queryOrder, Check.record]
  rw [optional_congr (hcalls.others "filter" (by decide)),
    optional_congr (hcalls.others "encoded_filter" (by decide)),
    optional_congr (hcalls.others "attributes" (by decide))]
  -- the credentials are related, and every further field is the same
  have hcredentials := (credentials_alike hcalls).map (f := QueryOrder.mk)
    (S := fun f g => ∀ filter encoded known,
      QueryOrder.KeyedAlike (f filter encoded known) (g filter encoded known))
    fun a b hab filter encoded known => ⟨hab, rfl⟩
  have hfilter := hcredentials.seq
    (S := fun f g => ∀ encoded known, QueryOrder.KeyedAlike (f encoded known) (g encoded known))
    (fun f g h filter => h filter)
    (Check.optional ["filter"] none (Check.nullable (Check.filterSet .body)) entries')
  have hencoded := hfilter.seq (S := fun f g => ∀ known, QueryOrder.KeyedAlike (f known) (g known))
    (fun f g h encoded => h encoded)
    (Check.optional ["encoded_filter"] none (Check.nullable Check.text) entries')
  exact hencoded.seq (fun f g h known => h known) _

variable (hservice : host.service.IgnoresKey)
include hservice

/-- **Loading attributes is answered without the key.** -/
theorem loadAttributes_anonymous (settings : ConnectionSettings) :
    (loadAttributes settings host.service call).map Served.anonymous =
      (loadAttributes settings host.service call').map Served.anonymous :=
  withBody_anonymous hcalls (credentialOrder_alike hcalls) fun _ _ hkeys =>
    withCredentials_anonymous hkeys (withRun_anonymous hkeys loadRecord fun _ _ h =>
      Directory.load_anonymous hservice h settings.pageLimit)

/-- **Running a filter is answered without the key.** -/
theorem testQuery_anonymous (seconds : Binary64) :
    (testQuery host.service seconds call).map Served.anonymous =
      (testQuery host.service seconds call').map Served.anonymous := by
  refine withBody_anonymous hcalls (queryOrder_alike hcalls) fun order order' horders => ?_
  refine withCredentials_anonymous horders.credentials ?_
  have hencoded : order.encodedFilter = order'.encodedFilter := by
    rw [← horders.eq]
    rfl
  rw [hencoded]
  cases order'.encodedFilter with
  | error failure => rfl
  | ok encoded =>
    exact withRun_anonymous horders.credentials (resultRecord encoded) fun _ _ h =>
      Connection.execute_anonymous hservice h _ _ encoded

/-- **A call is answered without the key.** -/
theorem handle_anonymous (hmethod : call.method = "POST")
    (hpath : call.path = "/api/v1/attributes/load" ∨ call.path = "/api/v1/query/test") :
    (handle host call).map Reply.anonymous = (handle host call').map Reply.anonymous := by
  have hserved : (dispatch host call).map Served.anonymous =
      (dispatch host call').map Served.anonymous := by
    have hmethod' : call'.method = "POST" := by rw [← hcalls.eq, ← hmethod]
    rcases hpath with hpath | hpath
    · have hpath' : call'.path = "/api/v1/attributes/load" := by rw [← hcalls.eq, ← hpath]
      rw [dispatch_load hpath hmethod, dispatch_load hpath' hmethod']
      exact loadAttributes_anonymous hcalls hservice host.settings.connection
    · have hpath' : call'.path = "/api/v1/query/test" := by rw [← hcalls.eq, ← hpath]
      rw [dispatch_query hpath hmethod, dispatch_query hpath' hmethod']
      exact testQuery_anonymous hcalls hservice host.seconds
  have hinquiry (origins : List Text) : inquiry? origins call = inquiry? origins call' := by
    rw [← hcalls.eq]
    rfl
  have hallow (origins : List Text) : allowOrigin origins call = allowOrigin origins call' := by
    rw [← hcalls.eq]
    rfl
  simp only [handle, hinquiry, hallow]
  split
  · rfl
  · split
    · rfl
    · exact written_anonymous hserved _

end Bodies

end Api

/-! ## Settings -/

namespace ConnectionSettings

/-- The keys are both short, or both long with the same end. -/
def SameMask (key key' : Text) : Prop :=
  (1 ≤ key.length ∧ key.length ≤ 4 ∧ 1 ≤ key'.length ∧ key'.length ≤ 4) ∨
    (4 < key.length ∧ 4 < key'.length ∧
      key.drop (key.length - 4) = key'.drop (key'.length - 4))

theorem SameMask.ne_nil {key key' : Text} (h : SameMask key key') : key ≠ [] ∧ key' ≠ [] := by
  constructor <;> rintro rfl <;> simp [SameMask] at h

/-- Keys with the same mask are shown alike. -/
theorem maskedKey_eq {settings settings' : ConnectionSettings}
    (h : SameMask settings.apiKey.trim settings'.apiKey.trim) :
    settings.maskedKey = settings'.maskedKey := by
  have hempty := h.ne_nil.imp List.isEmpty_eq_false_iff.mpr List.isEmpty_eq_false_iff.mpr
  simp only [maskedKey, hempty, Bool.false_eq_true, if_false]
  rcases h with ⟨-, hshort, -, hshort'⟩ | ⟨hlong, hlong', hend⟩
  · rw [if_neg (Nat.not_lt.mpr hshort), if_neg (Nat.not_lt.mpr hshort')]
  · rw [if_pos hlong, if_pos hlong', hend]

end ConnectionSettings

/-- The settings differ in nothing but keys with the same mask. -/
structure Settings.MaskedAlike (settings settings' : Settings) : Prop where
  /-- all but the key is the same -/
  eq : { settings with connection :=
    { settings.connection with apiKey := settings'.connection.apiKey } } = settings'
  /-- the keys have the same mask -/
  mask : ConnectionSettings.SameMask settings.connection.apiKey.trim
    settings'.connection.apiKey.trim

namespace Settings.MaskedAlike

variable {settings settings' : Settings} (h : settings.MaskedAlike settings')
include h

theorem server_eq : settings.server = settings'.server := by
  rw [← h.eq]

theorem connection_eq : { settings.connection with apiKey := settings'.connection.apiKey } =
    settings'.connection :=
  congrArg Settings.connection h.eq

theorem keyedAlike : settings.connection.KeyedAlike settings'.connection where
  eq := h.connection_eq
  key := h.mask.ne_nil.1
  key' := h.mask.ne_nil.2

/-- **Settings are shown with a masked key.** -/
theorem format_eq (asJson : Bool) : Format.settings asJson settings =
    Format.settings asJson settings' := by
  have hmask := ConnectionSettings.maskedKey_eq h.mask
  have htimeout : settings.connection.timeoutSeconds = settings'.connection.timeoutSeconds := by
    rw [← h.connection_eq]
  simp only [Format.settings, Format.settingSections, hmask, htimeout, h.server_eq,
    h.keyedAlike.baseUrl_eq, h.keyedAlike.pageLimit_eq]

/-- **Settings are checked without a word of the key.** -/
theorem runValidate_eq : Command.runValidate settings.connection =
    Command.runValidate settings'.connection := by
  rw [Command.runValidate, Command.runValidate, Command.withCredentials, Command.withCredentials,
    ConnectionSettings.maskedKey_eq h.mask, h.keyedAlike.baseUrl_eq,
    Credentials.require_congr _ h.keyedAlike.key h.keyedAlike.key']

end Settings.MaskedAlike

/-! ## Two runs -/

/-- **Keys stay secret.** Take a service that replies the same whatever the authorization of a
request is. All that differs between two runs with keys that are filled in is the authorization of
the requests:

* of a command that loads attributes or runs a filter, with two keys given for it,
* of such a command in two worlds whose settings differ in nothing but the key, and whose service,
  clock and files of filter and attributes are the same, and
* of a call that loads attributes or runs a filter, with two keys in its body.

Settings that differ in nothing but keys with the same mask are shown and checked alike, with
nothing different at all. -/
theorem keys_stay_secret :
    (∀ (world : World) (config baseUrl : Option Text) (key key' : Text),
      world.service.IgnoresKey → key.trim ≠ [] → key'.trim ≠ [] →
      (∀ asJson, (Command.run world config (.attributes baseUrl (some key) asJson)).anonymous =
        (Command.run world config (.attributes baseUrl (some key') asJson)).anonymous) ∧
      ∀ file known asJson,
        (Command.run world config (.test file known baseUrl (some key) asJson)).anonymous =
          (Command.run world config (.test file known baseUrl (some key') asJson)).anonymous) ∧
    (∀ (world world' : World) (config config' baseUrl : Option Text) (settings settings' : Settings),
      world.service.IgnoresKey → world.service = world'.service → world.seconds = world'.seconds →
      Settings.load world.files world.environment (config.getD []) = .ok settings →
      Settings.load world'.files world'.environment (config'.getD []) = .ok settings' →
      settings.connection.KeyedAlike settings'.connection →
      (∀ asJson, (Command.run world config (.attributes baseUrl none asJson)).anonymous =
        (Command.run world' config' (.attributes baseUrl none asJson)).anonymous) ∧
      ∀ file known asJson, (∀ path ∈ file.toList ++ known.toList,
          world.files (.working path) = world'.files (.working path)) →
        (Command.run world config (.test file known baseUrl none asJson)).anonymous =
          (Command.run world' config' (.test file known baseUrl none asJson)).anonymous) ∧
    (∀ (host : Api.Host) (call call' : Api.Call) (entries entries' : Entries) (key key' : Text),
      host.service.IgnoresKey → call.KeyedAlike call' entries entries' key key' →
      call.method = "POST" →
      call.path = "/api/v1/attributes/load" ∨ call.path = "/api/v1/query/test" →
      (Api.handle host call).map Api.Reply.anonymous =
        (Api.handle host call').map Api.Reply.anonymous) ∧
    ∀ (world world' : World) (config config' own own' : Option Text) (settings settings' : Settings),
      Settings.load world.files world.environment (Command.orElse own (config.getD [])) =
        .ok settings →
      Settings.load world'.files world'.environment (Command.orElse own' (config'.getD [])) =
        .ok settings' →
      settings.MaskedAlike settings' →
      (own = none → own' = none → ∀ asJson, Command.run world config (.configShow asJson) =
        Command.run world' config' (.configShow asJson)) ∧
      Command.run world config (.configValidate own) =
        Command.run world' config' (.configValidate own') := by
  refine ⟨fun world config baseUrl key key' hservice hkey hkey' => ?_,
    fun world world' config config' baseUrl settings settings' hservice hworlds hseconds hload hload'
      hkeys => ?_,
    fun host call call' entries entries' key key' hservice hcalls hmethod hpath =>
      Api.handle_anonymous hcalls hservice hmethod hpath,
    fun world world' config config' own own' settings settings' hload hload' hmask => ⟨?_, ?_⟩⟩
  · exact ⟨fun asJson => Command.withSettings_anonymous fun settings =>
        Command.runAttributes_anonymous (settings.connection.keyedAlike_override baseUrl hkey hkey')
          hservice rfl asJson,
      fun file known asJson => Command.withSettings_anonymous fun settings =>
        Command.runTest_anonymous (settings.connection.keyedAlike_override baseUrl hkey hkey')
          hservice rfl rfl (fun _ _ => rfl) asJson⟩
  · refine ⟨fun asJson => ?_, fun file known asJson hfiles => ?_⟩
    · rw [Command.run, Command.run, Command.withSettings_of_load hload,
        Command.withSettings_of_load hload']
      exact Command.runAttributes_anonymous (hkeys.override baseUrl) hservice hworlds asJson
    · rw [Command.run, Command.run, Command.withSettings_of_load hload,
        Command.withSettings_of_load hload']
      exact Command.runTest_anonymous (hkeys.override baseUrl) hservice hworlds hseconds hfiles asJson
  · rintro rfl rfl asJson
    rw [Command.run, Command.run, Command.withSettings_of_load hload,
      Command.withSettings_of_load hload', hmask.format_eq]
  · rw [Command.run, Command.run, Command.withSettings_of_load hload,
      Command.withSettings_of_load hload', hmask.runValidate_eq]

/-- A call with a key in its body. -/
def keyedBody (key : Text) : Entries :=
  [(.text "base_url", .text "https://api.example.com"), (.text "api_key", .text key)]

/-- A call to load attributes. -/
def keyedCall (key : Text) : Api.Call where
  method := "POST"
  path := "/api/v1/attributes/load"
  body := Directory.spelled (.mapping (keyedBody key))

/-- A world with a key in its environment. -/
def keyedWorld (key : Text) : World :=
  { sampleWorld with environment := [("PEOPLEFILTER_CONNECTION_API_KEY", key)] }

theorem keys_stay_secret_sample :
    (Command.run sampleWorld none
      (.attributes (some "https://api.example.com") (some "k") true)).anonymous =
        (Command.run sampleWorld none
          (.attributes (some "https://api.example.com") (some "another") true)).anonymous ∧
    (Command.run (keyedWorld "k") none (.test none none none none true)).anonymous =
      (Command.run (keyedWorld "another") none (.test none none none none true)).anonymous ∧
    (Api.handle sampleHost (keyedCall "k")).map Api.Reply.anonymous =
      (Api.handle sampleHost (keyedCall "another")).map Api.Reply.anonymous ∧
    Command.run (keyedWorld "one-abcd") none (.configShow true) =
      Command.run (keyedWorld "other-abcd") none (.configShow true) := by
  have hservice : sampleWorld.service.IgnoresKey := fun _ _ => rfl
  have hload (key : Text) : Settings.load (keyedWorld key).files (keyedWorld key).environment [] =
      .ok { connection := { apiKey := key } } := by rfl
  have hcontent (key : Text) (hkey : key = "k" ∨ key = "another") :
      (keyedCall key).content = .json (.mapping (keyedBody key)) := by
    rcases hkey with rfl | rfl
    · exact Api.content_of_parseBytes
        (show (Directory.spelled (.mapping (keyedBody "k"))).isEmpty = false by decide +kernel) rfl
        (show Json.parseBytes? (Directory.spelled (.mapping (keyedBody "k"))) = _ by decide +kernel)
    · exact Api.content_of_parseBytes
        (show (Directory.spelled (.mapping (keyedBody "another"))).isEmpty = false
          by decide +kernel) rfl
        (show Json.parseBytes? (Directory.spelled (.mapping (keyedBody "another"))) = _
          by decide +kernel)
  obtain ⟨hoptions, hworlds, hcalls, hsettings⟩ := keys_stay_secret
  refine ⟨(hoptions sampleWorld none _ _ _ hservice (by decide) (by decide)).1 true,
    (hworlds (keyedWorld "k") (keyedWorld "another") none none none _ _ hservice rfl rfl (hload "k")
      (hload "another") ⟨rfl, by decide, by decide⟩).2 none none true fun _ _ => rfl,
    hcalls sampleHost _ _ (keyedBody "k") (keyedBody "another") "k" "another" (fun _ _ => rfl)
      ⟨rfl, hcontent _ (.inl rfl), hcontent _ (.inr rfl), fun name hname => ?_, rfl, rfl,
        by decide, by decide⟩ rfl (.inl rfl),
    (hsettings (keyedWorld "one-abcd") (keyedWorld "other-abcd") none none none none _ _
      (hload "one-abcd") (hload "other-abcd") ⟨rfl, .inr (by decide)⟩).1 rfl rfl true⟩
  have hkey : Value.text "api_key" ≠ .text name := fun h => hname (Value.text.inj h).symm
  simp only [keyedBody, Value.lookup?_cons, if_neg hkey]

end ProfileFilter
