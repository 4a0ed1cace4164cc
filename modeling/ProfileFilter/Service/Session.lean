import ProfileFilter.Service.Directory

/-!
# Sessions

A session is a client over time: it is opened and closed, and a clock runs while it waits
for replies. Every use needs it open.
-/

namespace ProfileFilter

/-- A client, the connection while it is open, and the reading of the clock in seconds. -/
structure Session where
  /-- the client -/
  client : Client
  /-- the connection, while the client is open -/
  connection : Option Connection := none
  /-- the reading of the clock -/
  clock : Binary64 := .zero

namespace Session

/-- A session that is not open yet. -/
def ofCredentials (baseUrl key : Text) : Session := { client := .ofCredentials baseUrl key }

/-- Opens the session. -/
def start (session : Session) : Except Stop Session :=
  match session.client.connect with
  | .ok connection => .ok { session with connection := some connection }
  | .error e => .error (.url e)

/-- Closes the session. -/
def stop (session : Session) : Session := { session with connection := none }

/-- Uses the connection, if there is one. -/
def withConnection {α : Type} (session : Session) (run : Connection → Run α) : Run α :=
  match session.connection with
  | some connection => run connection
  | none => .stopped .notOpen

/-- Runs an encoded filter, which takes the given number of seconds if a request is made. -/
def execute (session : Session) (service : Service) (seconds : Binary64) (encoded : Text) :
    Session × Run QueryResult :=
  let finished := session.clock.add seconds
  let run := session.withConnection fun connection =>
    connection.execute service session.clock finished encoded
  (if run.requests.isEmpty then session else { session with clock := finished }, run)

/-- Loads all attributes. Every source uses the connection on its own, and all of them are
gathered, also if there is none. -/
def load (session : Session) (service : Service) (limit : Int) : Run Directory.Load :=
  Directory.gather (session.withConnection fun c => Directory.fetchStandard c service)
    (session.withConnection fun c => Directory.fetchCustom c service limit)
    (session.withConnection fun c => Directory.fetchLists c service limit)

/-! ## Steps -/

/-- One step in the life of a session. -/
inductive Step where
  /-- opens it -/
  | start
  /-- closes it -/
  | stop
  /-- runs an encoded filter, which takes the given number of seconds -/
  | execute (seconds : Binary64) (encoded : Text)
  /-- requests a path, with parameters in place of its query -/
  | get (path : Text) (parameters : Option (List (Text × Text)))
  /-- loads all attributes, in pages of the given size -/
  | load (limit : Int)
  /-- probes the standard fields -/
  | standard
  /-- lists the attributes the account defined -/
  | custom (limit : Int)
  /-- lists the lists of the account -/
  | lists (limit : Int)
deriving DecidableEq, Repr

/-- What a step that did not stop yields. -/
inductive Yield where
  /-- nothing but the new state of the session -/
  | done
  /-- what came of a filter -/
  | result (result : QueryResult)
  /-- the status of an answer -/
  | status (status : Nat)
  /-- all attributes -/
  | load (load : Directory.Load)
  /-- the attributes of one source -/
  | attributes (found : List Attribute)

/-- Takes a step. A session that cannot be opened stays as it is. -/
def take (session : Session) (service : Service) : Step → Session × Run Yield
  | .start =>
    match session.start with
    | .ok opened => (opened, .ended .done)
    | .error why => (session, .stopped why)
  | .stop => (session.stop, .ended .done)
  | .execute seconds encoded =>
    let (session, run) := session.execute service seconds encoded
    (session, run.map .result)
  | .get path parameters =>
    (session, (session.withConnection fun c => c.get service path parameters).map .status)
  | .load limit => (session, (session.load service limit).map .load)
  | .standard =>
    (session, (session.withConnection fun c => Directory.fetchStandard c service).map .attributes)
  | .custom limit =>
    (session,
      (session.withConnection fun c => Directory.fetchCustom c service limit).map .attributes)
  | .lists limit =>
    (session,
      (session.withConnection fun c => Directory.fetchLists c service limit).map .attributes)

/-- Takes steps in order, each with the service as it is then; what each step yields. -/
def takeAll (session : Session) : List (Service × Step) → Session × List (Run Yield)
  | [] => (session, [])
  | (service, step) :: rest =>
    let (next, run) := session.take service step
    let (last, runs) := next.takeAll rest
    (last, run :: runs)

end Session

end ProfileFilter
