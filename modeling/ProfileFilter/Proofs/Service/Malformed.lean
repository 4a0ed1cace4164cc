import ProfileFilter.Proofs.Service.Merging
import ProfileFilter.Proofs.Validate.Grant

/-!
# Malformed answers

Which answers take the whole directory down. Most malformed answers are tolerated: a body that
is no JSON, a value that is no list, an entry that is no object or has no name count as nothing
there. Two shapes are not: a page that files a number or a truth value where its items should be,
and an item whose name is not a text. Either stops its source in a way that is not told, and so
it stops the other sources as well.

Nothing else does, as long as the requests can be made and every reply is an answer or a failed
exchange.

Main statement: `exists_isMalformed_iff`.
-/

namespace ProfileFilter

/-- The reply is an answer, or the exchange failed. -/
def Reply.IsExchange : Reply → Prop
  | .answer _ _ => True
  | .failure f => f.kind ≠ .internal

/-- A page cannot be listed, or an item is no attribute. -/
def Stop.IsMalformed : Stop → Prop
  | .notItems | .invalid _ => True
  | _ => False

/-- Of a malformed answer nothing is told. -/
theorem Stop.IsMalformed.warning?_eq_none {why : Stop} (h : why.IsMalformed) :
    why.warning? = none := by
  cases why <;> first | rfl | cases h

/-- A request can be made to each source. -/
structure Connection.ReachesSources (connection : Connection) : Prop where
  /-- to the standard fields -/
  persons : ∃ request, connection.requestTo Preview.personsPath = .ok request
  /-- to the sources that are listed -/
  listing : ∀ listing : Directory.Listing,
    ∃ request, connection.requestTo listing.path = .ok request

namespace Directory

/-! ## Pages -/

/-- What an object files for a source: the value under the key of the source, or the one under
`results` where the first is empty. -/
def filed (key : Text) (entries : Entries) : Value :=
  if (Value.get key entries).isTruthy then Value.get key entries else Value.get "results" entries

/-- The value can be gone through for items, though a text or an object holds none. -/
def HoldsItems : Value → Prop
  | .list _ | .text _ | .mapping _ => True
  | _ => False

/-- The body is an object, and what it files is neither empty nor something to go through. -/
def IsUnlistable (key : Text) : Value → Prop
  | .mapping entries => (filed key entries).isTruthy = true ∧ ¬ HoldsItems (filed key entries)
  | _ => False

theorem itemsOf?_mapping (key : Text) (entries : Entries) : itemsOf? key (.mapping entries) =
    if (filed key entries).isTruthy then
      match filed key entries with
      | .list values => some (mappings values)
      | .text _ | .mapping _ => some []
      | _ => none
    else some [] := rfl

theorem itemsOf?_eq_none_iff {key : Text} {body : Value} :
    itemsOf? key body = none ↔ IsUnlistable key body := by
  cases body with
  | mapping entries =>
    rw [itemsOf?_mapping, IsUnlistable]
    cases (filed key entries).isTruthy with
    | false => simp
    | true => cases filed key entries <;> simp [HoldsItems]
  | _ => simp [itemsOf?, IsUnlistable]

/-- The reply is a page whose body cannot be listed. -/
def IsUnlistableReply (listing : Listing) (reply : Reply) : Prop :=
  ∃ status bytes body, reply = .answer status bytes ∧ status ∉ listing.absentStatuses ∧
    Status.isSuccess status = true ∧ Json.parseBytes? bytes = some body ∧
      IsUnlistable listing.key body

theorem ofReply_eq_notItems {listing : Listing} {reply : Reply}
    (h : IsUnlistableReply listing reply) : Page.ofReply listing reply = .stop .notItems := by
  obtain ⟨status, bytes, body, rfl, habsent, hsuccess, hbody, hitems⟩ := h
  have hpresent : listing.absentStatuses.contains status = false := by
    rw [← Bool.not_eq_true, List.contains_iff_mem]
    exact habsent
  simp only [Page.ofReply, hpresent, hsuccess, hbody, Option.map_some,
    itemsOf?_eq_none_iff.mpr hitems, if_true, Bool.false_eq_true, if_false]

/-- A page of an exchange stops in a way that is told, or because it cannot be listed. -/
theorem ofReply_eq_stop {listing : Listing} {reply : Reply} {why : Stop}
    (hreply : reply.IsExchange) (h : Page.ofReply listing reply = .stop why) :
    Load.IsTold (.error why) ∨ why = .notItems ∧ IsUnlistableReply listing reply := by
  cases reply with
  | failure f =>
    cases h
    exact .inl hreply
  | answer status bytes =>
    simp only [Page.ofReply] at h
    split at h
    · cases h
    next hpresent =>
      split at h
      next hsuccess =>
        split at h
        · cases h
        · cases h
        next hitems =>
          cases h
          obtain ⟨body, hbody, hnone⟩ := Option.map_eq_some_iff.mp hitems
          exact .inr ⟨rfl, status, bytes, body, rfl,
            fun hmem => hpresent (List.contains_iff_mem.mpr hmem), hsuccess, hbody,
            itemsOf?_eq_none_iff.mp hnone⟩
      · cases h
        exact .inl trivial

/-! ## Items -/

/-- The item has a name that is not a text. -/
def IsMisnamed (item : Entries) : Prop :=
  isNamed item = true ∧ ∀ t, Value.get "name" item ≠ .text t

theorem exists_displayName_iff {item : Entries} :
    (∃ t, displayName item = .valid t) ↔ ∃ t, Value.get "name" item = .text t := by
  refine exists_congr fun t => ?_
  rw [displayName, Validated.under_eq_valid]
  cases Value.get "name" item <;> simp [Check.text, Validated.refuse]

/-- An item reads as an attribute exactly if its name is a text. -/
theorem exists_read_iff {listing : Listing} {item : Entries} :
    (∃ a, listing.read item = .valid a) ↔ ∃ t, Value.get "name" item = .text t := by
  rw [← exists_displayName_iff]
  cases listing <;>
    simp only [Listing.read, customAttribute, listAttribute, Validated.map_eq_valid] <;>
    exact ⟨fun ⟨_, t, ht, _⟩ => ⟨t, ht⟩, fun ⟨t, ht⟩ => ⟨_, t, ht, rfl⟩⟩

section Reading

variable {read : Entries → Validated Attribute} {item : Entries} {rest : List Entries}

/-- An item without a name is skipped. -/
theorem attributesOf_cons_unnamed (h : isNamed item = false) :
    attributesOf read (item :: rest) = attributesOf read rest := by
  rw [attributesOf, List.filter_cons_of_neg (by simp [h])]
  rfl

theorem attributesOf_cons_valid {a : Attribute} (hnamed : isNamed item = true)
    (h : read item = .valid a) :
    attributesOf read (item :: rest) = (attributesOf read rest).map (a :: ·) := by
  rw [attributesOf, List.filter_cons_of_pos hnamed, List.mapM_cons, h]
  rfl

/-- The first named item that is refused is the stop of the whole. -/
theorem attributesOf_cons_invalid {issues : List Issue} (hnamed : isNamed item = true)
    (h : read item = .invalid issues) :
    attributesOf read (item :: rest) = .error (.invalid issues) := by
  rw [attributesOf, List.filter_cons_of_pos hnamed, List.mapM_cons, h]
  rfl

end Reading

/-- Items without a misnamed one are attributes; otherwise they are refused with issues. -/
theorem attributesOf_outcome (listing : Listing) (items : List Entries) :
    ((∀ item ∈ items, ¬ IsMisnamed item) ∧
      ∃ found, attributesOf listing.read items = .ok found) ∨
    ((∃ item ∈ items, IsMisnamed item) ∧
      ∃ issues, attributesOf listing.read items = .error (.invalid issues)) := by
  induction items with
  | nil => exact .inl ⟨fun item hitem => absurd hitem List.not_mem_nil, [], rfl⟩
  | cons item rest ih =>
    rw [List.forall_mem_cons, List.exists_mem_cons_iff]
    cases hnamed : isNamed item with
    | false =>
      have hfine : ¬ IsMisnamed item := by
        intro h
        rw [h.1] at hnamed
        cases hnamed
      rw [attributesOf_cons_unnamed hnamed]
      exact ih.imp (fun h => ⟨⟨hfine, h.1⟩, h.2⟩) fun h => ⟨.inr h.1, h.2⟩
    | true =>
      cases hread : listing.read item with
      | valid a =>
        obtain ⟨t, ht⟩ := exists_read_iff.mp ⟨a, hread⟩
        have hfine : ¬ IsMisnamed item := fun h => h.2 t ht
        rw [attributesOf_cons_valid hnamed hread]
        rcases ih with ⟨hrest, found, hfound⟩ | ⟨hrest, issues, hissues⟩
        · exact .inl ⟨⟨hfine, hrest⟩, a :: found, by rw [hfound]; rfl⟩
        · exact .inr ⟨.inr hrest, issues, by rw [hissues]; rfl⟩
      | invalid issues =>
        refine .inr ⟨.inl ⟨hnamed, ?_⟩, issues, attributesOf_cons_invalid hnamed hread⟩
        -- a name that is a text would have been read
        intro t ht
        obtain ⟨a, ha⟩ := exists_read_iff.mpr ⟨t, ht⟩
        rw [hread] at ha
        cases ha

/-! ## Sources -/

section Sources

variable {connection : Connection} {service : Service} {limit : Int} {listing : Listing}

/-- The source is answered in one of the two shapes that are not tolerated. -/
inductive Listing.IsMalformed (connection : Connection) (service : Service) (limit : Int)
    (listing : Listing) : Prop where
  /-- after full pages comes a page whose body cannot be listed -/
  | page {pages : List (List Entries)} {request : Request} :
    AreFull limit (pageAt connection service limit listing) 1 pages → pages.length < maxPages →
    connection.requestWith listing.path (pageParameters limit (pages.length + 1)) = .ok request →
    IsUnlistableReply listing (service request pages.length) →
    IsMalformed connection service limit listing
  /-- the pages are listed, and one of the items is misnamed -/
  | item {items : List Entries} {item : Entries} :
    (list connection service limit listing).outcome = .ok items → item ∈ items →
    IsMisnamed item → IsMalformed connection service limit listing

theorem pageAt_of_request {request : Request} {number : Nat}
    (h : connection.requestWith listing.path (pageParameters limit (number + 1)) = .ok request) :
    pageAt connection service limit listing (number + 1) =
      .ofReply listing (service request number) := by
  rw [pageAt, h, Nat.add_sub_cancel]

variable (hreach : connection.ReachesSources)
  (hexchange : ∀ request earlier, (service request earlier).IsExchange)

include hexchange in
/-- The probe is told of if it fails. -/
theorem isTold_fetchStandard (hreach : connection.ReachesSources) :
    Load.IsTold (fetchStandard connection service).outcome := by
  have hencodable : ([("limit", "1")] : List (Text × Text)).all
      (fun p => p.1.isEncodable && p.2.isEncodable) = true := by decide
  obtain ⟨request, hrequest⟩ := Connection.exists_requestWith hreach.persons hencodable
  have hreply := hexchange request 0
  unfold fetchStandard
  rw [hrequest]
  cases hanswer : service request 0 with
  | failure f =>
    rw [hanswer] at hreply
    simp only [hanswer]
    exact hreply
  | answer status bytes =>
    simp only [hanswer]
    split
    · exact Load.isTold_ok _
    · trivial

include hreach hexchange in
/-- A listing that is not told of met a page that cannot be listed. -/
theorem list_untold {why : Stop}
    (h : (list connection service limit listing).outcome = .error why) :
    Load.IsTold (.error why) ∨
      why = .notItems ∧ listing.IsMalformed connection service limit := by
  rw [list_outcome] at h
  obtain ⟨pages, hpages, hlength, hstop⟩ := collect_eq_error_iff.mp h
  obtain ⟨request, hrequest⟩ := Connection.exists_requestWith (hreach.listing listing)
    (isEncodable_pageParameters limit (pages.length + 1))
  rw [Nat.add_comm, pageAt_of_request hrequest] at hstop
  refine (ofReply_eq_stop (hexchange _ _) hstop).imp_right ?_
  rintro ⟨hwhy, hreply⟩
  exact ⟨hwhy, .page hpages hlength hrequest hreply⟩

include hreach hexchange in
/-- A source is told of unless it is malformed. -/
theorem isTold_fetch_or (listing : Listing) :
    Load.IsTold (listing.fetch connection service limit).outcome ∨
      listing.IsMalformed connection service limit := by
  rw [Listing.fetch_outcome]
  cases houtcome : (list connection service limit listing).outcome with
  | error why => exact (list_untold hreach hexchange houtcome).imp_right And.right
  | ok items =>
    rcases attributesOf_outcome listing items with ⟨-, found, hfound⟩ | ⟨⟨item, hitem, hname⟩, -⟩
    · exact .inl (by simpa only [Except.bind, hfound] using Load.isTold_ok found)
    · exact .inr (.item houtcome hitem hname)

/-- A malformed source stops in a way that is not told. -/
theorem Listing.IsMalformed.fetch_outcome (h : listing.IsMalformed connection service limit) :
    ∃ why, (listing.fetch connection service limit).outcome = .error why ∧
      why.IsMalformed := by
  rw [Listing.fetch_outcome]
  cases h with
  | @page pages request hpages hlength hrequest hreply =>
    have hstop : pageAt connection service limit listing (1 + pages.length) = .stop .notItems := by
      rw [Nat.add_comm, pageAt_of_request hrequest, ofReply_eq_notItems hreply]
    refine ⟨.notItems, ?_, trivial⟩
    rw [list_outcome, collect_eq_error_iff.mpr ⟨pages, hpages, hlength, hstop⟩]
    rfl
  | @item items item houtcome hitem hname =>
    rcases attributesOf_outcome listing items with ⟨hfine, -⟩ | ⟨-, issues, hissues⟩
    · exact absurd hname (hfine item hitem)
    · exact ⟨.invalid issues, by rw [houtcome]; exact hissues, trivial⟩

/-- The sources are the probe and the two listings. -/
theorem forall_sources {P : Except Stop (List Attribute) → Prop} :
    (∀ s ∈ sources connection service limit, P s.2) ↔
      P (fetchStandard connection service).outcome ∧
        ∀ listing : Listing, P (listing.fetch connection service limit).outcome := by
  simp only [sources, List.forall_mem_cons]
  constructor
  · rintro ⟨hstandard, hcustom, hlists, -⟩
    exact ⟨hstandard, fun listing => by cases listing; exacts [hcustom, hlists]⟩
  · rintro ⟨hstandard, hlisting⟩
    exact ⟨hstandard, hlisting .custom, hlisting .lists, fun s hs => absurd hs List.not_mem_nil⟩

include hreach hexchange in
/-- A stop that is not told of is that of a malformed answer. -/
theorem isMalformed_of_untold : ∀ s ∈ sources connection service limit, ∀ why,
    s.2 = .error why → ¬ Load.IsTold (.error why) → why.IsMalformed := by
  refine (forall_sources (P := fun outcome => ∀ why, outcome = .error why →
    ¬ Load.IsTold (.error why) → why.IsMalformed)).mpr
      ⟨fun why hwhy huntold => ?_, fun listing why hwhy huntold => ?_⟩
  · exact absurd (hwhy ▸ isTold_fetchStandard hexchange hreach) huntold
  · rcases isTold_fetch_or hreach hexchange listing with htold | hmalformed
    · exact absurd (hwhy ▸ htold) huntold
    · obtain ⟨other, hother, hshape⟩ := hmalformed.fetch_outcome
      cases hwhy.symm.trans hother
      exact hshape

include hreach hexchange in
/-- A malformed listing stops the directory. -/
theorem Listing.IsMalformed.exists_load_eq_error
    (h : listing.IsMalformed connection service limit) :
    ∃ why, (load connection service limit).outcome = .error why ∧ why.IsMalformed := by
  obtain ⟨why, hwhy, hshape⟩ := h.fetch_outcome
  rw [load_outcome, Load.ofSources]
  cases hadd : Load.addAll {} (sources connection service limit) with
  | ok merged =>
    have htold := (forall_sources.mp (Load.isTold_of_addAll hadd)).2 listing
    rw [hwhy] at htold
    obtain ⟨message, hmessage⟩ := Load.isTold_error.mp htold
    cases hshape.warning?_eq_none.symm.trans hmessage
  | error other =>
    -- both listings may be malformed, and then it is the first that stops the directory
    obtain ⟨before, source, after, hsplit, -, hsilent⟩ := Load.addAll_eq_error_iff.mp hadd
    have hmem : (source, .error other) ∈ sources connection service limit :=
      hsplit ▸ List.mem_append_right before List.mem_cons_self
    refine ⟨other, rfl, isMalformed_of_untold hreach hexchange _ hmem other rfl fun htold => ?_⟩
    obtain ⟨message, hmessage⟩ := Load.isTold_error.mp htold
    cases hsilent.symm.trans hmessage

include hreach hexchange in
/-- Without a malformed listing the sources are merged. -/
theorem load_outcome_of_forall_not (h : ∀ listing : Listing,
      ¬ listing.IsMalformed connection service limit) :
    (load connection service limit).outcome =
      if Load.yielded (sources connection service limit) = [] then
        .error (.report (Load.failed ⟨[], Load.failures (sources connection service limit)⟩))
      else .ok ⟨Load.yielded (sources connection service limit),
        Load.failures (sources connection service limit)⟩ := by
  have htold : ∀ s ∈ sources connection service limit, Load.IsTold s.2 :=
    forall_sources.mpr ⟨isTold_fetchStandard hexchange hreach, fun listing =>
      (isTold_fetch_or hreach hexchange listing).resolve_right (h listing)⟩
  rw [load_outcome, Load.ofSources_of_told htold]

/-- **What takes the directory down.** Take a connection that reaches the sources, and a service
whose replies are answers or failed exchanges. Loading breaks off with something else than a
report exactly if one of the two listings is malformed: after full pages comes a page that files
something that is not empty and cannot be gone through, or an item of the listing has a name that
is not a text. Every other answer is tolerated: what the sources yield is put together and their
failures are the warnings, unless nothing is yielded, which is reported. -/
theorem exists_isMalformed_iff (connection : Connection) (service : Service) (limit : Int)
    (hreach : connection.ReachesSources)
    (hexchange : ∀ request earlier, (service request earlier).IsExchange) :
    ((∃ listing : Listing, listing.IsMalformed connection service limit) ↔
      ∃ why, (load connection service limit).outcome = .error why ∧
        why.IsMalformed) ∧
    ((∀ listing : Listing, ¬ listing.IsMalformed connection service limit) →
      (∃ merged, (load connection service limit).outcome = .ok merged ∧
        merged.attributes = Load.yielded (sources connection service limit) ∧
        merged.warnings = Load.failures (sources connection service limit)) ∨
      ∃ report, (load connection service limit).outcome = .error (.report report) ∧
        report.code = "E-4002") := by
  refine ⟨⟨?_, ?_⟩, fun hnone => ?_⟩
  · rintro ⟨listing, hmalformed⟩
    exact hmalformed.exists_load_eq_error hreach hexchange
  · rintro ⟨why, hwhy, hshape⟩
    by_contra hnone
    rw [load_outcome_of_forall_not hreach hexchange (not_exists.mp hnone)] at hwhy
    split_ifs at hwhy
    cases hwhy
    cases hshape
  · rw [load_outcome_of_forall_not hreach hexchange hnone]
    split_ifs
    · exact .inr ⟨_, rfl, rfl⟩
    · exact .inl ⟨_, rfl, rfl, rfl⟩

end Sources

/-! ## Services with one answer -/

/-- A service with the same answer to every request. -/
def constantService (status : Nat) (body : Value) : Service :=
  fun _ _ => .answer status (spelled body)

theorem reachesSources_plainConnection : plainConnection.ReachesSources :=
  ⟨⟨_, rfl⟩, exists_requestTo_plainConnection⟩

/-- A number in the place of the items takes the directory down, and a directory without
anything is reported. -/
theorem exists_isMalformed_iff_number :
    (∃ why, (load plainConnection
        (constantService 200 (.record [("customAttributes", .int 7)])) 1000).outcome = .error why ∧
      why.IsMalformed) ∧
    ((∃ merged, (load plainConnection (constantService 404 .null) 1000).outcome = .ok merged) ∨
      ∃ report, (load plainConnection (constantService 404 .null) 1000).outcome =
        .error (.report report) ∧ report.code = "E-4002") := by
  obtain ⟨first, hfirst⟩ := Connection.exists_requestWith
    (exists_requestTo_plainConnection .custom) (isEncodable_pageParameters (1000 : Nat) 1)
  constructor
  · refine (exists_isMalformed_iff plainConnection
      (constantService 200 (.record [("customAttributes", .int 7)])) 1000
      reachesSources_plainConnection fun _ _ => trivial).1.mp
        ⟨.custom, .page (show AreFull _ _ 1 [] from trivial) (by decide) hfirst ?_⟩
    exact ⟨200, _, .record [("customAttributes", .int 7)], rfl, by decide, by decide,
      by decide +kernel, rfl, id⟩
  · refine ((exists_isMalformed_iff plainConnection (constantService 404 .null) 1000
      reachesSources_plainConnection fun _ _ => trivial).2 fun listing hmalformed => ?_).imp_left
        fun ⟨merged, hmerged, _⟩ => ⟨merged, hmerged⟩
    have habsent : 404 ∈ listing.absentStatuses := by cases listing <;> decide
    obtain ⟨request, hrequest⟩ := Connection.exists_requestWith
      (reachesSources_plainConnection.listing listing) (isEncodable_pageParameters 1000 1)
    have houtcome : (list plainConnection (constantService 404 .null) 1000 listing).outcome =
        .ok [] := list_outcome_of_absent (show AreFull _ _ 1 [] from trivial) (by decide)
          hrequest rfl habsent
    cases hmalformed with
    | page hpages hlength hrequest hreply =>
      obtain ⟨status, bytes, body, hanswer, hstatus, -⟩ := hreply
      cases hanswer
      exact hstatus habsent
    | item hitems hitem hname =>
      cases houtcome.symm.trans hitems
      exact List.not_mem_nil hitem

/-- An attribute with a number for its name takes the directory down, though the probe was
answered well. -/
theorem load_outcome_misnamed : ¬ ∀ (connection : Connection) (service : Service) (limit : Int),
    connection.ReachesSources → (∀ request earlier, (service request earlier).IsExchange) →
      (∃ merged, (load connection service limit).outcome = .ok merged) ∨
        ∃ report, (load connection service limit).outcome = .error (.report report) ∧
          report.code = "E-4002" := by
  intro hclaim
  let item : Entries := [(.text "name", .int 5)]
  let service := constantService 200 (attributesBody [item])
  obtain ⟨first, hfirst⟩ := Connection.exists_requestWith
    (exists_requestTo_plainConnection .custom) (isEncodable_pageParameters (1000 : Nat) 1)
  have hpage : pageAt plainConnection service (1000 : Nat) .custom 1 = .items [item] :=
    (isBody_attributesBody _).pageAt_eq hfirst rfl (by decide +kernel)
  have hlist : (list plainConnection service (1000 : Nat) .custom).outcome = .ok [item] := by
    rw [list_outcome, maxPages, collect_short hpage (by decide)]
  obtain ⟨why, hwhy, hshape⟩ := Listing.IsMalformed.fetch_outcome
    (.item hlist List.mem_cons_self ⟨rfl, fun t h => by cases h⟩)
  have hload : (load plainConnection service (1000 : Nat)).outcome = .error why := by
    have hexchange : ∀ request earlier, (service request earlier).IsExchange :=
      fun _ _ => trivial
    rw [load_outcome, Load.ofSources, Load.addAll_eq_error_iff.mpr ⟨[("Standard", _)], "Custom",
      [("List", _)], by rw [← hwhy]; rfl, ?_, hshape.warning?_eq_none⟩]
    exact List.forall_mem_singleton.mpr
      (isTold_fetchStandard hexchange reachesSources_plainConnection)
  rcases hclaim plainConnection service (1000 : Nat) reachesSources_plainConnection
    fun _ _ => trivial with ⟨merged, hmerged⟩ | ⟨report, hreport, -⟩
  · cases hload.symm.trans hmerged
  · cases hload.symm.trans hreport
    exact hshape

end Directory

end ProfileFilter
