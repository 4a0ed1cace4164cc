import ProfileFilter.Proofs.Service.Malformed

/-!
# When a listing ends

The entries of a page are filtered before they are counted: a page is full if it holds as many
objects as were asked for, not if it was sent with as many entries. Most pages hold nothing but
objects, and then the two are the same. But a page that was sent full may hold too few objects: the
listing ends there, and what the pages after it hold is lost.

Which pages are asked for is told by what is taken for full (`GoesOnWhile`), whatever that is.
Fewer full pages never make a longer listing (`GoesOnWhile.le_of_imp`).

Main statement: `list_goesOnWhile`.
-/

namespace ProfileFilter

namespace Directory

/-! ## Going on while pages are full -/

/-- The pages from the first on, as many as the count, are those that are asked for: the first,
and each one up to the cap that comes after a full page. -/
structure GoesOnWhile (full : Nat → Prop) (cap first count : Nat) : Prop where
  /-- the first page is asked for -/
  pos : 0 < cap → 0 < count
  /-- no page beyond the cap is -/
  le_cap : count ≤ cap
  /-- a page is asked for exactly if the one before it was, and is full -/
  next_iff : ∀ index, index + 1 < cap → (index + 1 < count ↔ index < count ∧ full (first + index))

namespace GoesOnWhile

variable {full fuller : Nat → Prop} {cap first count other : Nat}

/-- The first page is the last one if it is not full. -/
theorem one (h : ¬ full first) : GoesOnWhile full (cap + 1) first 1 where
  pos _ := Nat.one_pos
  le_cap := Nat.succ_pos cap
  next_iff index _ := by
    refine iff_of_false (by omega) fun ⟨hindex, hfull⟩ => h ?_
    rwa [Nat.lt_one_iff.mp hindex, Nat.add_zero] at hfull

/-- A full first page is followed by the pages after it. -/
theorem cons (hfull : full first) (h : GoesOnWhile full cap (first + 1) count) :
    GoesOnWhile full (cap + 1) first (count + 1) where
  pos _ := Nat.succ_pos count
  le_cap := Nat.succ_le_succ h.le_cap
  next_iff index hindex := by
    cases index with
    | zero =>
      have hpos := h.pos (by omega)
      exact iff_of_true (by omega) ⟨Nat.succ_pos count, hfull⟩
    | succ index =>
      have hnext := h.next_iff index (by omega)
      rw [Nat.add_assoc, Nat.add_comm 1 index] at hnext
      rw [Nat.add_lt_add_iff_right, Nat.add_lt_add_iff_right, hnext]

/-- Something is asked for, whatever pages are full. -/
theorem exists_count (full : Nat → Prop) (cap first : Nat) :
    ∃ count, GoesOnWhile full cap first count := by
  induction cap generalizing first with
  | zero => exact ⟨0, id, le_refl 0, fun _ hindex => absurd hindex (Nat.not_lt_zero _)⟩
  | succ cap ih =>
    by_cases hfull : full first
    · obtain ⟨count, hcount⟩ := ih (first + 1)
      exact ⟨count + 1, hcount.cons hfull⟩
    · exact ⟨1, one hfull⟩

/-- **Fewer full pages never make a longer listing.** -/
theorem le_of_imp (h : GoesOnWhile full cap first count)
    (hother : GoesOnWhile fuller cap first other)
    (himp : ∀ index, index + 1 < cap → index < count → index < other → full (first + index) →
      fuller (first + index)) :
    count ≤ other := by
  -- every page that the shorter listing asks for is asked for by the longer one
  have hasked : ∀ index, index < count → index < other := by
    intro index
    induction index with
    | zero =>
      intro hpos
      exact hother.pos (hpos.trans_le h.le_cap)
    | succ index ih =>
      intro hindex
      have hcap : index + 1 < cap := hindex.trans_le h.le_cap
      obtain ⟨hprevious, hfull⟩ := (h.next_iff index hcap).mp hindex
      have hlt := ih hprevious
      exact (hother.next_iff index hcap).mpr ⟨hlt, himp index hcap hprevious hlt hfull⟩
  by_contra hlt
  exact lt_irrefl other (hasked other (Nat.lt_of_not_le hlt))

/-- Two rules ask for the same pages exactly if no page that is asked for, and could have another
one after it, is full by one of them only. -/
theorem eq_iff (h : GoesOnWhile full cap first count)
    (hother : GoesOnWhile fuller cap first other) (himp : ∀ number, full number → fuller number) :
    count = other ↔ ∀ index, index + 1 < cap → index < count → fuller (first + index) →
      full (first + index) := by
  constructor
  · rintro rfl index hcap hindex hfuller
    exact ((h.next_iff index hcap).mp ((hother.next_iff index hcap).mpr ⟨hindex, hfuller⟩)).2
  · intro hagree
    exact le_antisymm (h.le_of_imp hother fun index _ _ _ => himp _)
      (hother.le_of_imp h fun index hcap _ hlt => hagree index hcap hlt)

end GoesOnWhile

/-- **A listing of pages goes on while they hold as many items as were asked for**, and yields
the items of the pages it asked for. -/
theorem collect_items {limit : Int} {page : Nat → Page} {items : Nat → List Entries}
    {remaining number : Nat}
    (h : ∀ index < remaining, page (number + index) = .items (items (number + index))) :
    ∃ count, GoesOnWhile (fun n => limit ≤ ((items n).length : Int)) remaining number count ∧
      collect limit page remaining number =
        (count, .ok ((List.range' number count).flatMap items)) := by
  induction remaining generalizing number with
  | zero =>
    exact ⟨0, ⟨id, le_refl 0, fun _ hindex => absurd hindex (Nat.not_lt_zero _)⟩, rfl⟩
  | succ remaining ih =>
    have hpage : page number = .items (items number) := h 0 (Nat.succ_pos remaining)
    rcases lt_or_ge ((items number).length : Int) limit with hshort | hfull
    · refine ⟨1, .one (not_le.mpr hshort), ?_⟩
      rw [collect_short hpage hshort, List.range'_one, List.flatMap_singleton]
    · obtain ⟨count, hcount, hmore⟩ := @ih (number + 1) fun index hindex => by
        rw [Nat.add_assoc, Nat.add_comm 1 index]
        exact h (index + 1) (Nat.succ_lt_succ hindex)
      refine ⟨count + 1, hcount.cons hfull, ?_⟩
      rw [collect_full hpage hfull, hmore, List.range'_succ, List.flatMap_cons]
      rfl

/-! ## Entries of pages -/

/-- The body of a page sends these entries, whatever they are: as a bare list, or as the list that
an object files for the source. An object that files nothing sends none, and so does a body that
is neither, or no JSON. -/
inductive Listing.Sends (listing : Listing) : Option Value → List Value → Prop where
  /-- a bare list -/
  | bare {values : List Value} : Sends listing (some (.list values)) values
  /-- an object that files a list -/
  | filed {entries : Entries} {values : List Value} :
    filed listing.key entries = .list values → Sends listing (some (.mapping entries)) values
  /-- an object that files nothing -/
  | nothing {entries : Entries} :
    (filed listing.key entries).isTruthy = false → Sends listing (some (.mapping entries)) []
  /-- neither a list nor an object -/
  | other {body : Value} : (∀ values, body ≠ .list values) → (∀ entries, body ≠ .mapping entries) →
    Sends listing (some body) []
  /-- no JSON -/
  | unreadable : Sends listing none []

/-- Only the objects among the entries are items. -/
theorem Listing.Sends.itemsOf?_eq {listing : Listing} {body : Option Value} {values : List Value}
    (h : listing.Sends body values) :
    (body.map (itemsOf? listing.key)).getD (some []) = some (mappings values) := by
  cases h with
  | bare => rfl
  | filed hfiled =>
    rw [Option.map_some, Option.getD_some, itemsOf?_mapping, hfiled]
    cases values <;> rfl
  | nothing hfiled =>
    rw [Option.map_some, Option.getD_some, itemsOf?_mapping, if_neg (Bool.not_eq_true _ ▸ hfiled)]
    rfl
  | @other body hlist hmapping =>
    cases body with
    | list values => exact absurd rfl (hlist values)
    | mapping entries => exact absurd rfl (hmapping entries)
    | _ => rfl
  | unreadable => rfl

/-- **A page holds the objects among the entries that were sent.** -/
theorem Listing.Sends.ofReply_eq {listing : Listing} {values : List Value} {status : Nat}
    {bytes : List UInt8} (h : listing.Sends (Json.parseBytes? bytes) values)
    (hsuccess : Status.isSuccess status = true) :
    Page.ofReply listing (.answer status bytes) = .items (mappings values) := by
  have hpresent : listing.absentStatuses.contains status = false := by
    rw [← Bool.not_eq_true, List.contains_iff_mem]
    intro habsent
    have herror : ∀ status ∈ listing.absentStatuses, Status.isSuccess status = false := by
      cases listing <;> decide
    rw [herror status habsent] at hsuccess
    cases hsuccess
  have hitems := h.itemsOf?_eq
  simp only [Page.ofReply, hpresent, hsuccess, if_true, Bool.false_eq_true, if_false]
  generalize (Json.parseBytes? bytes).map (itemsOf? listing.key) = found at hitems ⊢
  cases found with
  | none => exact congrArg Page.items (Option.some.inj hitems)
  | some found =>
    rw [Option.getD_some] at hitems
    rw [hitems]

/-- The service answers the request for each page up to the cap with success, and sends these
entries on it. Pages are counted from one. -/
def Listing.IsAnswered (connection : Connection) (service : Service) (limit : Int)
    (listing : Listing) (sent : Nat → List Value) : Prop :=
  ∀ index < maxPages, ∃ request status bytes,
    connection.requestWith listing.path (pageParameters limit (index + 1)) = .ok request ∧
      service request index = .answer status bytes ∧ Status.isSuccess status = true ∧
      listing.Sends (Json.parseBytes? bytes) (sent (index + 1))

theorem Listing.IsAnswered.pageAt_eq {connection : Connection} {service : Service} {limit : Int}
    {listing : Listing} {sent : Nat → List Value}
    (h : listing.IsAnswered connection service limit sent) (index : Nat)
    (hindex : index < maxPages) :
    pageAt connection service limit listing (1 + index) = .items (mappings (sent (1 + index))) := by
  obtain ⟨request, status, bytes, hrequest, hanswer, hsuccess, hsends⟩ := h index hindex
  rw [Nat.add_comm 1 index, pageAt, hrequest]
  simp only [Nat.add_sub_cancel, hanswer]
  exact hsends.ofReply_eq hsuccess

theorem length_mappings_le (values : List Value) : (mappings values).length ≤ values.length :=
  List.length_filterMap_le _ _

/-- **A listing ends at the first page that holds too few objects.** If the service answers every
page with success, whatever the entries it sends, the listing asks for the pages in order, and
yields all objects of the pages it asked for. It goes on exactly after the pages that hold as many
objects as were asked for. So it never asks for more pages than it would if it went by the entries
that were sent; and it asks for as many exactly if no page, up to the one before the cap, was sent
full but holds too few objects. -/
theorem list_goesOnWhile {connection : Connection} {service : Service} {limit : Nat}
    {listing : Listing} {sent : Nat → List Value}
    (h : listing.IsAnswered connection service limit sent) :
    ∃ count bySent,
      (list connection service limit listing).requests.map Except.ok =
        (List.range' 1 count).map (fun number => connection.requestWith listing.path
          [("limit", Text.ofNat limit), ("page", Text.ofNat number)]) ∧
      (list connection service limit listing).outcome =
        .ok ((List.range' 1 count).flatMap fun number => mappings (sent number)) ∧
      GoesOnWhile (fun number => limit ≤ (mappings (sent number)).length) 100 1 count ∧
      GoesOnWhile (fun number => limit ≤ (sent number).length) 100 1 bySent ∧
      count ≤ bySent ∧
      (count = bySent ↔ ∀ number, 1 ≤ number → number < 100 → number ≤ count →
        limit ≤ (sent number).length → limit ≤ (mappings (sent number)).length) := by
  obtain ⟨count, hcount, hcollect⟩ := @collect_items limit
    (pageAt connection service limit listing) (fun number => mappings (sent number)) maxPages 1
    h.pageAt_eq
  obtain ⟨bySent, hbySent⟩ :=
    GoesOnWhile.exists_count (fun number => limit ≤ (sent number).length) 100 1
  simp only [Int.ofNat_le, maxPages] at hcount
  have himp : ∀ number, limit ≤ (mappings (sent number)).length → limit ≤ (sent number).length :=
    fun number hfull => hfull.trans (length_mappings_le (sent number))
  refine ⟨count, bySent, ?_, ?_, hcount, hbySent,
    hcount.le_of_imp hbySent fun index _ _ _ => himp _, ?_⟩
  · rw [list_requests, hcollect, map_ok_filterMap_toOption, List.range'_eq_map_range, List.map_map]
    · refine List.map_congr_left fun index _ => ?_
      rw [Function.comp_apply, Nat.add_comm]
      rfl
    · intro index hindex
      obtain ⟨request, -, -, hrequest, -⟩ :=
        h index ((List.mem_range.mp hindex).trans_le hcount.le_cap)
      exact ⟨request, hrequest⟩
  · rw [list_outcome, hcollect]
  · rw [hcount.eq_iff hbySent himp]
    constructor
    · intro hagree number hpos hcap hnumber
      obtain ⟨index, rfl⟩ := Nat.exists_eq_add_of_le hpos
      exact hagree index (by omega) (by omega)
    · intro hagree index hcap hindex
      exact hagree (1 + index) (by omega) (by omega) (by omega)

/-- The body of a page of attributes, with any entries. -/
def entriesBody (values : List Value) : Value := .record [("customAttributes", .list values)]

theorem sends_entriesBody (values : List Value) :
    Listing.custom.Sends (some (entriesBody values)) values := by
  cases values with
  | nil => exact .nothing rfl
  | cons v rest => exact .filed rfl

/-- A service that sends these entries on its pages. -/
def entriesService (sent : Nat → List Value) : Service := fun _ earlier =>
  .answer 200 (spelled (entriesBody (sent (earlier + 1))))

theorem isAnswered_entriesService {sent : Nat → List Value} (limit : Nat)
    (hparse : ∀ number, Json.parseBytes? (spelled (entriesBody (sent number))) =
      some (entriesBody (sent number))) :
    Listing.custom.IsAnswered plainConnection (entriesService sent) limit sent := by
  intro index _
  obtain ⟨request, hrequest⟩ := Connection.exists_requestWith
    (exists_requestTo_plainConnection .custom) (isEncodable_pageParameters limit (index + 1))
  refine ⟨request, 200, _, hrequest, rfl, rfl, ?_⟩
  rw [hparse]
  exact sends_entriesBody _

/-- Pages on which there is more than objects. -/
def mixedPages : Nat → List Value
  | 1 => [.mapping (namedItem "a"), .int 5, .mapping (namedItem "b")]
  | 2 => [.null]
  | _ => []

/-- Two objects are enough for a page of two to be full, whatever stands between them. -/
theorem list_goesOnWhile_mixed :
    Listing.custom.IsAnswered plainConnection (entriesService mixedPages) (2 : Nat) mixedPages ∧
      (list plainConnection (entriesService mixedPages) (2 : Nat) .custom).requests.length = 2 ∧
      (list plainConnection (entriesService mixedPages) (2 : Nat) .custom).outcome =
        .ok [namedItem "a", namedItem "b"] := by
  have hanswered : Listing.custom.IsAnswered plainConnection (entriesService mixedPages) (2 : Nat)
      mixedPages := isAnswered_entriesService 2 fun number =>
    match number with
    | 0 | 1 | 2 => by decide +kernel
    | _ + 3 => (by decide +kernel :
        Json.parseBytes? (spelled (entriesBody [])) = some (entriesBody []))
  obtain ⟨count, -, hrequests, houtcome, hcount, -⟩ := list_goesOnWhile hanswered
  have hpos := hcount.pos (by decide)
  have hfirst := (hcount.next_iff 0 (by decide)).mpr ⟨hpos, by decide⟩
  have hsecond : ¬ 2 < count := fun hlt =>
    absurd ((hcount.next_iff 1 (by decide)).mp hlt).2 (by decide)
  obtain rfl : count = 2 := by omega
  have hlength := congrArg List.length hrequests
  rw [List.length_map, List.length_map, List.length_range'] at hlength
  exact ⟨hanswered, hlength, houtcome⟩

/-- Pages of which the first is as long as was asked for, and does not hold as many objects. -/
def cutPages : Nat → List Value
  | 1 => [.mapping (namedItem "a"), .int 5]
  | 2 => [.mapping (namedItem "b")]
  | _ => []

/-- A page that was sent full ends the listing, and the object on the page after it is lost. -/
theorem list_cutPages :
    Listing.custom.IsAnswered plainConnection (entriesService cutPages) (2 : Nat) cutPages ∧
      2 ≤ (cutPages 1).length ∧
      (list plainConnection (entriesService cutPages) (2 : Nat) .custom).requests.length = 1 ∧
      (list plainConnection (entriesService cutPages) (2 : Nat) .custom).outcome =
        .ok [namedItem "a"] ∧
      namedItem "b" ∈ mappings (cutPages 2) := by
  have hanswered : Listing.custom.IsAnswered plainConnection (entriesService cutPages) (2 : Nat)
      cutPages := isAnswered_entriesService 2 fun number =>
    match number with
    | 0 | 1 | 2 => by decide +kernel
    | _ + 3 => (by decide +kernel :
        Json.parseBytes? (spelled (entriesBody [])) = some (entriesBody []))
  have hpage : pageAt plainConnection (entriesService cutPages) (2 : Nat) .custom 1 =
      .items [namedItem "a"] :=  hanswered.pageAt_eq 0 (by decide)
  have hcollect : collect (2 : Nat) (pageAt plainConnection (entriesService cutPages) (2 : Nat)
      .custom) maxPages 1 = (1, .ok [namedItem "a"]) := by
    rw [show maxPages = 99 + 1 from rfl]
    exact collect_short hpage (by decide)
  obtain ⟨request, -, -, hrequest, -⟩ := hanswered 0 (by decide)
  refine ⟨hanswered, by decide, ?_, ?_, List.mem_cons_self⟩
  · rw [list_requests, hcollect, List.range_one, List.filterMap_cons, hrequest]
    rfl
  · rw [list_outcome, hcollect]

end Directory

end ProfileFilter
