import Mathlib.Algebra.Order.BigOperators.Group.List
import Mathlib.Logic.Function.Basic
import ProfileFilter.Proofs.Service.Malformed

/-!
# Loading the sources at the same time

The three sources are loaded at the same time: each makes its next request only after the
reply to the one before, but nothing orders the requests of different sources. This module cuts
each source at its requests (`Process`), lets the sources go on in any order (`Loading.play?`),
and shows that the order does not matter.

What carries the proof is a quantity that no event changes (`Loading.whole`): the requests a source
has made, followed by those it would still make on its own, and the way it would end. An event of
the source itself only moves a request from the second part to the first; an event of another
source changes neither, since it adds no request on the route.

Main statement: `Loading.gathered_of_play`.
-/

namespace ProfileFilter

/-! ## Processes -/

/-- A use of the service cut at its requests. -/
inductive Process (α : Type) where
  /-- it has ended -/
  | ended (outcome : Except Stop α)
  /-- it has a request to make, and goes on with the reply -/
  | asking (request : Request) (resume : Reply → Process α)

/-- The process on its own; `earlier` counts the requests made on its route before. -/
def Process.alone {α : Type} (service : Service) : (earlier : Nat) → Process α → Run α
  | _, .ended outcome => ⟨[], outcome⟩
  | earlier, .asking request resume =>
    let rest := alone service (earlier + 1) (resume (service request earlier))
    ⟨request :: rest.requests, rest.outcome⟩

namespace Directory

/-- The probe of the standard fields, cut at its request. -/
def probe (connection : Connection) : Process (List Attribute) :=
  match connection.requestWith Preview.personsPath [("limit", "1")] with
  | .error e => .ended (.error (.url e))
  | .ok request =>
    .asking request fun reply => .ended (fetchStandard connection fun _ _ => reply).outcome

/-- A listing from the page with the given number on, cut at its requests; `items` are those of
the pages before. -/
def pages (connection : Connection) (limit : Int) (listing : Listing) :
    (remaining number : Nat) → (items : List Entries) → Process (List Attribute)
  | 0, _, items => .ended (attributesOf listing.read items)
  | remaining + 1, number, items =>
    match connection.requestWith listing.path (pageParameters limit number) with
    | .error e => .ended (.error (.url e))
    | .ok request =>
      .asking request fun reply =>
        match Page.ofReply listing reply with
        | .absent => .ended (attributesOf listing.read items)
        | .stop why => .ended (.error why)
        | .items found =>
          if (found.length : Int) < limit then .ended (attributesOf listing.read (items ++ found))
          else pages connection limit listing remaining (number + 1) (items ++ found)

/-- The sources of the directory. -/
inductive Source where
  /-- the standard fields -/
  | standard
  /-- a source that is listed page by page -/
  | paged (listing : Listing)
deriving DecidableEq, Repr

namespace Source

/-- The sources in the order in which they are put together. -/
def all : List Source := [.standard, .paged .custom, .paged .lists]

/-- The name of a source in warnings. -/
def name : Source → Text
  | .standard => "Standard"
  | .paged listing => listing.name

/-- The route of a source. -/
def route : Source → Text
  | .standard => Preview.personsPath
  | .paged listing => listing.path

/-- Different sources use different routes. -/
theorem route_injective : Function.Injective route := by
  have hpaged : ∀ listing : Listing, Preview.personsPath ≠ listing.path := by
    intro listing
    cases listing <;> decide
  intro a b h
  cases a with
  | standard =>
    cases b with
    | standard => rfl
    | paged listing => exact absurd h (hpaged listing)
  | paged listing =>
    cases b with
    | standard => exact absurd h.symm (hpaged listing)
    | paged other =>
      cases listing <;> cases other
      all_goals first | rfl | exact absurd h (by decide)

/-- A source loaded on its own. -/
def fetch (connection : Connection) (service : Service) (limit : Int) :
    Source → Run (List Attribute)
  | .standard => fetchStandard connection service
  | .paged listing => listing.fetch connection service limit

/-- A source cut at its requests. -/
def process (connection : Connection) (limit : Int) : Source → Process (List Attribute)
  | .standard => probe connection
  | .paged listing => pages connection limit listing maxPages 1 []

end Source

/-! ## A source on its own -/

section Alone

variable {connection : Connection} {service : Service} {limit : Int} {listing : Listing}

theorem alone_probe : (probe connection).alone service 0 = fetchStandard connection service := by
  unfold probe fetchStandard
  cases connection.requestWith Preview.personsPath [("limit", "1")] <;> rfl

/-- The requests for a number of pages, from the page with the given number on. -/
def pageRequests (connection : Connection) (limit : Int) (listing : Listing) (count number : Nat) :
    List Request :=
  (List.range count).filterMap fun n =>
    (connection.requestWith listing.path (pageParameters limit (number + n))).toOption

theorem pageRequests_succ {request : Request} {count number : Nat}
    (h : connection.requestWith listing.path (pageParameters limit number) = .ok request) :
    pageRequests connection limit listing (count + 1) number =
      request :: pageRequests connection limit listing count (number + 1) := by
  rw [pageRequests, List.range_succ_eq_map, List.filterMap_cons, List.filterMap_map, Nat.add_zero, h]
  refine congrArg (request :: ·) (List.filterMap_congr fun n _ => ?_)
  rw [Function.comp_apply, Nat.succ_eq_add_one, Nat.add_assoc, Nat.add_comm 1 n]

/-- A listing cut at its requests makes the same requests and finds the same items as one that is
collected at once. -/
theorem alone_pages {remaining earlier : Nat} {items : List Entries} :
    (pages connection limit listing remaining (earlier + 1) items).alone service earlier =
      let collected := collect limit (pageAt connection service limit listing) remaining (earlier + 1)
      ⟨pageRequests connection limit listing collected.1 (earlier + 1),
        (collected.2.map (items ++ ·)).bind (attributesOf listing.read)⟩ := by
  -- the process carries the items found so far; collecting puts them in front afterwards
  induction remaining generalizing earlier items with
  | zero =>
    rw [pages, Process.alone, collect_zero]
    exact congrArg (Run.mk []) (congrArg _ (List.append_nil items).symm)
  | succ remaining ih =>
    cases hrequest : connection.requestWith listing.path (pageParameters limit (earlier + 1)) with
    | error e =>
      have hpage : pageAt connection service limit listing (earlier + 1) = .stop (.url e) := by
        rw [pageAt, hrequest]
      have hnone : pageRequests connection limit listing 1 (earlier + 1) = [] := by
        rw [pageRequests, List.range_one, List.filterMap_cons, Nat.add_zero, hrequest]
        rfl
      rw [collect_stop hpage]
      simp only [pages, hrequest, Process.alone, hnone]
      rfl
    | ok request =>
      have hpage : pageAt connection service limit listing (earlier + 1) =
          .ofReply listing (service request earlier) := pageAt_of_request hrequest
      have hone : pageRequests connection limit listing 1 (earlier + 1) = [request] :=
        pageRequests_succ hrequest
      simp only [pages, hrequest, Process.alone]
      cases hreply : Page.ofReply listing (service request earlier) with
      | absent =>
        rw [collect_absent (hpage.trans hreply), hone]
        simp [Process.alone, Except.map, Except.bind]
      | stop why =>
        rw [collect_stop (hpage.trans hreply), hone]
        simp [Process.alone, Except.map, Except.bind]
      | items found =>
        rcases lt_or_ge (found.length : Int) limit with hshort | hfull
        · rw [collect_short (hpage.trans hreply) hshort, hone]
          simp [Process.alone, hshort, Except.map, Except.bind]
        · rw [collect_full (hpage.trans hreply) hfull, pageRequests_succ hrequest]
          simp only [not_lt.mpr hfull, if_false, ih]
          refine congrArg (Run.mk _) ?_
          cases (collect limit (pageAt connection service limit listing) remaining
            (earlier + 1 + 1)).2 with
          | error why => rfl
          | ok more => exact congrArg (attributesOf listing.read) (List.append_assoc items found more)

/-- A source cut at its requests is the source. -/
theorem alone_process (source : Source) :
    (source.process connection limit).alone service 0 = source.fetch connection service limit := by
  cases source with
  | standard => exact alone_probe
  | paged listing =>
    have hrequests : (listing.fetch connection service limit).requests =
        pageRequests connection limit listing
          (collect limit (pageAt connection service limit listing) maxPages 1).1 1 := by
      rw [Listing.fetch_requests, list_requests]
      simp only [pageRequests, Nat.add_comm 1]
    have houtcome : (listing.fetch connection service limit).outcome =
        ((collect limit (pageAt connection service limit listing) maxPages 1).2.map ([] ++ ·)).bind
          (attributesOf listing.read) := by
      rw [Listing.fetch_outcome, list_outcome]
      cases (collect limit (pageAt connection service limit listing) maxPages 1).2 <;> rfl
    calc (pages connection limit listing maxPages (0 + 1) []).alone service 0
      _ = ⟨_, _⟩ := alone_pages
      _ = listing.fetch connection service limit := (congrArg₂ Run.mk hrequests houtcome).symm

end Alone

/-! ## The sources together -/

/-- What a source is doing. -/
inductive Activity where
  /-- it goes on with the process -/
  | running (process : Process (List Attribute))
  /-- it has made a request and goes on with the reply -/
  | waiting (request : Request) (resume : Reply → Process (List Attribute))

/-- A directory that is being loaded. -/
structure Loading where
  /-- the requests that were made, in order, with the sources that made them -/
  sent : List (Source × Request)
  /-- what each source is doing -/
  activity : Source → Activity

namespace Loading

/-- All sources before their first request. -/
def start (connection : Connection) (limit : Int) : Loading :=
  ⟨[], fun source => .running (source.process connection limit)⟩

/-- The requests that were made on a route, in order. -/
def requestsOn (state : Loading) (route : Text) : List Request :=
  (state.sent.filter fun r => r.1.route == route).map Prod.snd

/-- The next event of a source: it makes a request, or it gets the reply to the one it made, which
depends on the route and on the number of requests made there before. A source that has ended has
no next event. -/
def advance? (service : Service) (source : Source) (state : Loading) : Option Loading :=
  match state.activity source with
  | .running (.ended _) => none
  | .running (.asking request resume) =>
    some {
      sent := state.sent ++ [(source, request)]
      activity := Function.update state.activity source (.waiting request resume) }
  | .waiting request resume =>
    let reply := service request ((state.requestsOn source.route).length - 1)
    some { state with
      activity := Function.update state.activity source (.running (resume reply)) }

/-- The events of the sources in the order of a schedule; nothing if a source is scheduled that
has ended. -/
def play? (service : Service) : List Source → Loading → Option Loading
  | [], state => some state
  | source :: rest, state => (state.advance? service source).bind (play? service rest)

/-- No source has a next event. -/
def IsOver (service : Service) (state : Loading) : Prop :=
  ∀ source, state.advance? service source = none

/-- What came of a source, if it has ended. -/
def outcome? (state : Loading) (source : Source) : Option (Except Stop (List Attribute)) :=
  match state.activity source with
  | .running (.ended outcome) => some outcome
  | _ => none

/-- What came of all sources, put together by their position; nothing before all have ended. -/
def gathered? (state : Loading) : Option (Except Stop Load) :=
  (Source.all.mapM fun source => (state.outcome? source).map (source.name, ·)).map Load.ofSources

/-! ### One event -/

section Events

variable {service : Service} {source other : Source} {state next : Loading}

/-- The events there are. -/
theorem advance_cases (h : state.advance? service source = some next) :
    (∃ request resume, state.activity source = .running (.asking request resume) ∧
      next.sent = state.sent ++ [(source, request)] ∧
      next.activity = Function.update state.activity source (.waiting request resume)) ∨
    ∃ request resume, state.activity source = .waiting request resume ∧
      next.sent = state.sent ∧
      next.activity = Function.update state.activity source
        (.running (resume (service request ((state.requestsOn source.route).length - 1)))) := by
  unfold advance? at h
  split at h
  · cases h
  next request resume hactivity =>
    cases h
    exact .inl ⟨request, resume, hactivity, rfl, rfl⟩
  next request resume hactivity =>
    cases h
    exact .inr ⟨request, resume, hactivity, rfl, rfl⟩

/-- A source without a next event has ended. -/
theorem advance?_eq_none_iff :
    state.advance? service source = none ↔
      ∃ outcome, state.activity source = .running (.ended outcome) := by
  unfold advance?
  split <;> simp_all

/-- A request is made on the route of its source only. -/
theorem requestsOn_sent {request : Request} (h : next.sent = state.sent ++ [(source, request)]) :
    next.requestsOn other.route =
      if source = other then state.requestsOn other.route ++ [request]
      else state.requestsOn other.route := by
  rw [requestsOn, h, List.filter_append, List.map_append]
  split
  next heq => rw [heq, List.filter_singleton]; simp [requestsOn]
  next hne =>
    have hroute : source.route ≠ other.route := fun h => hne (Source.route_injective h)
    simp [requestsOn, hroute]

/-- An event of a source leaves what the others are doing as it is. -/
theorem activity_of_ne (h : state.advance? service source = some next) (hne : other ≠ source) :
    next.activity other = state.activity other := by
  rcases advance_cases h with ⟨request, resume, -, -, hactivity⟩ | ⟨request, resume, -, -, hactivity⟩
  all_goals rw [hactivity, Function.update_of_ne hne]

/-- An event of a source adds no request on the routes of the others. -/
theorem requestsOn_of_ne (h : state.advance? service source = some next) (hne : other ≠ source) :
    next.requestsOn other.route = state.requestsOn other.route := by
  rcases advance_cases h with ⟨request, resume, -, hsent, -⟩ | ⟨request, resume, -, hsent, -⟩
  · rw [requestsOn_sent hsent, if_neg hne.symm]
  · rw [requestsOn, hsent, requestsOn]

/-! ### What no event changes -/

variable (service source state)

/-- What a source would still do on its own. -/
def remaining : Run (List Attribute) :=
  let made := (state.requestsOn source.route).length
  match state.activity source with
  | .running process => process.alone service made
  | .waiting request resume => (resume (service request (made - 1))).alone service made

/-- The run of a source as a whole: what it did, and what it would still do on its own. -/
def whole : Run (List Attribute) :=
  ⟨state.requestsOn source.route ++ (state.remaining service source).requests,
    (state.remaining service source).outcome⟩

/-- The number of events that a source has before it: two for each request that is left, and the
reply it waits for. -/
def eventsLeft : Nat :=
  2 * (state.remaining service source).requests.length +
    match state.activity source with
    | .running _ => 0
    | .waiting _ _ => 1

variable {service source state}

/-- An event of a source leaves what the others would still do as it is. -/
theorem remaining_of_ne (h : state.advance? service source = some next) (hne : other ≠ source) :
    next.remaining service other = state.remaining service other := by
  rw [remaining, requestsOn_of_ne h hne, activity_of_ne h hne, remaining]

/-- **An event changes the run of no source as a whole**, neither of the one whose event it is nor
of another. -/
theorem whole_advance (h : state.advance? service source = some next) :
    next.whole service other = state.whole service other := by
  rcases eq_or_ne other source with rfl | hne
  · rcases advance_cases h with ⟨request, resume, hbefore, hsent, hactivity⟩ |
      ⟨request, resume, hbefore, hsent, hactivity⟩
    · -- the request moves from what is left to what is done
      have hmade : next.requestsOn other.route = state.requestsOn other.route ++ [request] := by
        rw [requestsOn_sent hsent, if_pos rfl]
      simp only [whole, remaining, hactivity, Function.update_self, hbefore, Process.alone, hmade,
        List.length_append, List.length_singleton, Nat.add_sub_cancel, List.append_assoc,
        List.singleton_append]
    · have hmade : next.requestsOn other.route = state.requestsOn other.route := by
        rw [requestsOn, hsent, requestsOn]
      simp only [whole, remaining, hactivity, Function.update_self, hbefore, hmade]
  · rw [whole, requestsOn_of_ne h hne, remaining_of_ne h hne, whole]

/-- An event takes one from the events that are left to its source, and none from the others. -/
theorem eventsLeft_advance (h : state.advance? service source = some next) :
    next.eventsLeft service other + (if source = other then 1 else 0) =
      state.eventsLeft service other := by
  split
  next heq =>
    subst heq
    rcases advance_cases h with ⟨request, resume, hbefore, hsent, hactivity⟩ |
      ⟨request, resume, hbefore, hsent, hactivity⟩
    · have hmade : (next.requestsOn source.route).length =
          (state.requestsOn source.route).length + 1 := by
        rw [requestsOn_sent hsent, if_pos rfl, List.length_append, List.length_singleton]
      simp only [eventsLeft, remaining, hactivity, Function.update_self, hbefore, Process.alone,
        hmade, Nat.add_sub_cancel, List.length_cons]
      omega
    · have hmade : next.requestsOn source.route = state.requestsOn source.route := by
        rw [requestsOn, hsent, requestsOn]
      simp only [eventsLeft, remaining, hactivity, Function.update_self, hbefore, hmade]
  next hne =>
    have hne : other ≠ source := fun h => hne h.symm
    rw [eventsLeft, remaining_of_ne h hne, activity_of_ne h hne, eventsLeft]
    omega

end Events

/-! ### Any schedule -/

section Schedules

variable {connection : Connection} {service : Service} {limit : Int} {schedule : List Source}
  {state final : Loading}

theorem whole_play (h : play? service schedule state = some final) (source : Source) :
    final.whole service source = state.whole service source := by
  induction schedule generalizing state with
  | nil => rw [Option.some.inj h]
  | cons first rest ih =>
    obtain ⟨next, hnext, hrest⟩ := Option.bind_eq_some_iff.mp h
    rw [ih hrest, whole_advance hnext]

theorem eventsLeft_play (h : play? service schedule state = some final) (source : Source) :
    schedule.count source + final.eventsLeft service source = state.eventsLeft service source := by
  induction schedule generalizing state with
  | nil => rw [List.count_nil, Nat.zero_add, Option.some.inj h]
  | cons first rest ih =>
    obtain ⟨next, hnext, hrest⟩ := Option.bind_eq_some_iff.mp h
    rw [← eventsLeft_advance hnext, ← ih hrest, List.count_cons]
    simp only [beq_iff_eq]
    omega

theorem whole_start (source : Source) :
    (start connection limit).whole service source = source.fetch connection service limit :=
  alone_process source

/-- A source that has ended made the requests it makes on its own, and ended as it does on its
own. -/
theorem fetch_of_ended {source : Source} {outcome : Except Stop (List Attribute)}
    (h : play? service schedule (start connection limit) = some state)
    (hended : state.activity source = .running (.ended outcome)) :
    ⟨state.requestsOn source.route, outcome⟩ = source.fetch connection service limit := by
  calc (⟨state.requestsOn source.route, outcome⟩ : Run (List Attribute))
    _ = state.whole service source := by
      simp only [whole, remaining, hended, Process.alone, List.append_nil]
    _ = source.fetch connection service limit := by rw [whole_play h, whole_start]

/-- No schedule has more events of a source than two for each of its requests. -/
theorem count_play_le (h : play? service schedule (start connection limit) = some state)
    (source : Source) :
    schedule.count source ≤ 2 * (source.fetch connection service limit).requests.length := by
  have hleft : (start connection limit).eventsLeft service source =
      2 * (source.fetch connection service limit).requests.length := by
    rw [← alone_process]
    rfl
  rw [← hleft, ← eventsLeft_play h source]
  exact Nat.le_add_right _ _

theorem play?_append {rest : List Source} :
    play? service (schedule ++ rest) state =
      (play? service schedule state).bind (play? service rest) := by
  induction schedule generalizing state with
  | nil => rfl
  | cons source schedule ih =>
    rw [List.cons_append, play?, play?, Option.bind_assoc]
    exact congrArg _ (funext fun next => ih)

theorem length_eq_sum_count (schedule : List Source) :
    schedule.length = (Source.all.map fun source => schedule.count source).sum := by
  induction schedule with
  | nil => rfl
  | cons source rest ih =>
    rw [List.length_cons, ih]
    rcases source with _ | _ | _ <;> simp [Source.all, List.count_cons] <;> omega

/-- Whatever happened so far, the sources can be taken to their ends. -/
theorem exists_play_isOver (h : play? service schedule (start connection limit) = some state) :
    ∃ rest final, play? service rest state = some final ∧ final.IsOver service := by
  -- as long as a source has a next event, its event makes the schedule longer, up to the bound
  let bound :=
    (Source.all.map fun source => 2 * (source.fetch connection service limit).requests.length).sum
  have hbound : ∀ {schedule : List Source} {state : Loading},
      play? service schedule (start connection limit) = some state → schedule.length ≤ bound := by
    intro schedule state h
    rw [length_eq_sum_count]
    exact List.sum_le_sum fun source _ => count_play_le h source
  induction hleft : bound - schedule.length using Nat.strong_induction_on
    generalizing schedule state with
  | _ left ih =>
    by_cases hover : state.IsOver service
    · exact ⟨[], state, rfl, hover⟩
    · obtain ⟨source, hsource⟩ := not_forall.mp hover
      obtain ⟨next, hnext⟩ := Option.ne_none_iff_exists'.mp hsource
      have hplay : play? service (schedule ++ [source]) (start connection limit) = some next := by
        rw [play?_append, h, Option.bind_some, play?, hnext]
        rfl
      have hlonger : (schedule ++ [source]).length = schedule.length + 1 := by simp
      have hlength := hbound hplay
      obtain ⟨rest, final, hrest, hfinal⟩ := ih (bound - (schedule ++ [source]).length)
        (by omega) hplay rfl
      exact ⟨source :: rest, final, by rw [play?, hnext]; exact hrest, hfinal⟩

/-- What came of the sources is put together by position, whichever ended first. -/
theorem gathered?_of_outcomes
    (h : ∀ source,
      state.outcome? source = some (source.fetch connection service limit).outcome) :
    state.gathered? = some (load connection service limit).outcome := by
  have hnamed : (fun source => (state.outcome? source).map (source.name, ·)) =
      fun source : Source =>
        pure (source.name, (source.fetch connection service limit).outcome) := by
    funext source
    rw [h]
    rfl
  rw [gathered?, hnamed, List.mapM_pure, load_outcome]
  rfl

/-- **The order of events does not matter.** Let the sources go on in any order, one event at a
time: an event is a request of a source, or the reply to it. Then the requests on each route are
the first of those that its source makes on its own; a source goes on until it has made all of
them and has ended as it does on its own, whatever came of the others, and it has no more events
than a request and a reply for each. From any point on the sources can be taken to their ends; and
when all have ended, what came of them is put together to what comes of loading them one after the
other. -/
theorem gathered_of_play (connection : Connection) (service : Service) (limit : Int)
    (schedule : List Source) (state : Loading)
    (h : play? service schedule (start connection limit) = some state) :
    (∀ source,
      state.requestsOn source.route <+: (source.fetch connection service limit).requests ∧
      schedule.count source ≤ 2 * (source.fetch connection service limit).requests.length ∧
      (state.advance? service source = none →
        state.requestsOn source.route = (source.fetch connection service limit).requests ∧
        state.outcome? source = some (source.fetch connection service limit).outcome)) ∧
    (∃ rest final, play? service rest state = some final ∧ final.IsOver service) ∧
    (state.IsOver service → state.gathered? = some (load connection service limit).outcome) := by
  have hended : ∀ source, state.advance? service source = none →
      state.requestsOn source.route = (source.fetch connection service limit).requests ∧
      state.outcome? source = some (source.fetch connection service limit).outcome := by
    intro source hnone
    obtain ⟨outcome, hactivity⟩ := advance?_eq_none_iff.mp hnone
    rw [← fetch_of_ended h hactivity]
    exact ⟨rfl, by rw [outcome?, hactivity]⟩
  refine ⟨fun source => ⟨?_, count_play_le h source, hended source⟩, exists_play_isOver h,
    fun hover => gathered?_of_outcomes fun source => (hended source (hover source)).2⟩
  have hwhole := whole_play h source
  rw [whole_start] at hwhole
  rw [← hwhole]
  exact List.prefix_append _ _

end Schedules

/-- A service where the probe breaks off, and where the attributes fill one page. -/
def brokenProbeService : Service := fun request earlier =>
  if request.url.path = Preview.personsPath then .failure ⟨.internal, "RuntimeError", "broken"⟩
  else twoItemService request earlier

/-- The probe breaks off first, while the attributes still have two pages to ask for and the lists
are not begun; all are taken to their ends nevertheless. -/
theorem gathered_of_play_brokenProbe :
    ∃ state, play? brokenProbeService
        [.paged .custom, .standard, .standard, .paged .lists, .paged .custom, .paged .custom,
          .paged .lists, .paged .custom] (start plainConnection 2) = some state ∧
      ((Source.paged .custom).fetch plainConnection brokenProbeService 2).requests.length = 2 ∧
      state.gathered? = some (load plainConnection brokenProbeService 2).outcome := by
  have hover : ((play? brokenProbeService
      [.paged .custom, .standard, .standard, .paged .lists, .paged .custom, .paged .custom,
        .paged .lists, .paged .custom] (start plainConnection 2)).map fun state =>
      (Source.all.all fun source => (state.advance? brokenProbeService source).isNone,
        (state.requestsOn (Source.paged .custom).route).length)) = some (true, 2) := by
    decide +kernel
  obtain ⟨state, hstate, hends⟩ := Option.map_eq_some_iff.mp hover
  obtain ⟨hnone, hcount⟩ := Prod.mk.inj hends
  have hnone : state.IsOver brokenProbeService := by
    intro source
    have hmem : source ∈ Source.all := by rcases source with _ | _ | _ <;> decide
    exact Option.isNone_iff_eq_none.mp (List.all_eq_true.mp hnone source hmem)
  obtain ⟨hsources, -, hgathered⟩ := gathered_of_play plainConnection brokenProbeService 2 _ state
    hstate
  refine ⟨state, hstate, ?_, hgathered hnone⟩
  rw [← ((hsources (.paged .custom)).2.2 (hnone _)).1]
  exact hcount

end Loading

end Directory

end ProfileFilter
