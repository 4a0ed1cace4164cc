import Mathlib.Algebra.Order.Ring.Nat
import Mathlib.Data.Int.Order.Basic
import ProfileFilter.Json.Print
import ProfileFilter.Proofs.Text.Encodable
import ProfileFilter.Service.Directory

/-!
# Listing page by page

A listing asks for one page after the other until a page is not full. One step of it is
told by the page that comes back (`collect_full`, `collect_short`, `collect_absent`,
`collect_stop`); a whole listing is a run of full pages and the page that ended it, or full
pages up to the cap (`collect_append`, `collect_eq_error_iff`).

If the service cuts a list into slices of the asked size, the slices put together are the
list again, up to the cap, and no page is asked for twice or in vain, except the empty one
that comes after a list of full pages.

Main statement: `list_isServed`.
-/

namespace ProfileFilter

/-! ## Requests with parameters -/

namespace Connection

variable {connection : Connection} {path : Text} {parameters : List (Text × Text)}

/-- Parameters that can be encoded never stand in the way of a request. -/
theorem exists_requestWith (hpath : ∃ request, connection.requestTo path = .ok request)
    (hparameters : parameters.all (fun p => p.1.isEncodable && p.2.isEncodable) = true) :
    ∃ request, connection.requestWith path parameters = .ok request := by
  obtain ⟨request, hrequest⟩ := hpath
  unfold requestWith
  rw [hrequest]
  simp only [bind, Except.bind, hparameters, if_true]
  exact ⟨_, rfl⟩

end Connection

namespace Directory

/-- The parameters of a page request are digits. -/
theorem isEncodable_pageParameters (limit : Int) (number : Nat) :
    (pageParameters limit number).all (fun p => p.1.isEncodable && p.2.isEncodable) = true := by
  simp [pageParameters]

/-! ## One step -/

section Steps

variable {limit : Int} {page : Nat → Page} {remaining number : Nat} {found : List Entries}

@[simp] theorem collect_zero : collect limit page 0 number = (0, .ok []) := rfl

theorem collect_absent (h : page number = .absent) :
    collect limit page (remaining + 1) number = (1, .ok []) := by
  rw [collect, h]

theorem collect_stop {why : Stop} (h : page number = .stop why) :
    collect limit page (remaining + 1) number = (1, .error why) := by
  rw [collect, h]

theorem collect_short (h : page number = .items found) (hshort : (found.length : Int) < limit) :
    collect limit page (remaining + 1) number = (1, .ok found) := by
  rw [collect, h]
  exact if_pos hshort

/-- A full page is followed by the pages after it. -/
theorem collect_full (h : page number = .items found) (hfull : limit ≤ (found.length : Int)) :
    collect limit page (remaining + 1) number =
      ((collect limit page remaining (number + 1)).1 + 1,
        (collect limit page remaining (number + 1)).2.map (found ++ ·)) := by
  rw [collect, h]
  exact if_neg (not_lt.mpr hfull)

/-! ## A run -/

/-- No more pages are asked for than are left. -/
theorem collect_fst_le : (collect limit page remaining number).1 ≤ remaining := by
  induction remaining generalizing number with
  | zero => exact le_refl 0
  | succ remaining ih =>
    cases hpage : page number with
    | absent => simp [collect_absent hpage]
    | stop why => simp [collect_stop hpage]
    | items found =>
      rcases lt_or_ge (found.length : Int) limit with hshort | hfull
      · simp [collect_short hpage hshort]
      · rw [collect_full hpage hfull]
        exact Nat.succ_le_succ ih

/-- The pages from the given number on are these, and all of them are full. -/
def AreFull (limit : Int) (page : Nat → Page) (number : Nat) : List (List Entries) → Prop
  | [] => True
  | found :: rest =>
    page number = .items found ∧ limit ≤ (found.length : Int) ∧ AreFull limit page (number + 1) rest

/-- **Full pages are put together**, and the listing goes on after them. -/
theorem collect_append {pages : List (List Entries)} (h : AreFull limit page number pages) :
    collect limit page (pages.length + remaining) number =
      ((collect limit page remaining (number + pages.length)).1 + pages.length,
        (collect limit page remaining (number + pages.length)).2.map (pages.flatten ++ ·)) := by
  -- over the full pages, whatever the number of the first
  induction pages generalizing number with
  | nil =>
    rw [List.length_nil, Nat.zero_add, Nat.add_zero, Nat.add_zero, List.flatten_nil]
    have hsame : ∀ outcome : Except Stop (List Entries), outcome.map ([] ++ ·) = outcome := by
      intro outcome
      cases outcome <;> rfl
    rw [hsame]
  | cons found rest ih =>
    obtain ⟨hpage, hfull, hrest⟩ := h
    have hlength : (found :: rest).length + remaining = rest.length + remaining + 1 := by
      rw [List.length_cons]
      omega
    have hnumber : number + 1 + rest.length = number + (found :: rest).length := by
      rw [List.length_cons]
      omega
    rw [hlength, collect_full hpage hfull, ih hrest, hnumber, List.length_cons, List.flatten_cons]
    refine Prod.ext (Nat.add_assoc _ _ _) ?_
    cases (collect limit page remaining (number + (rest.length + 1))).2 with
    | error why => rfl
    | ok more => exact congrArg Except.ok (List.append_assoc found rest.flatten more).symm

/-- **A listing is stopped by a page**, after full ones. -/
theorem collect_eq_error_iff {why : Stop} :
    (collect limit page remaining number).2 = .error why ↔
      ∃ pages, AreFull limit page number pages ∧ pages.length < remaining ∧
        page (number + pages.length) = .stop why := by
  constructor
  · intro h
    induction remaining generalizing number with
    | zero => cases h
    | succ remaining ih =>
      cases hpage : page number with
      | absent =>
        rw [collect_absent hpage] at h
        cases h
      | stop other =>
        rw [collect_stop hpage] at h
        cases h
        exact ⟨[], trivial, Nat.succ_pos remaining, hpage⟩
      | items found =>
        rcases lt_or_ge (found.length : Int) limit with hshort | hfull
        · rw [collect_short hpage hshort] at h
          cases h
        · rw [collect_full hpage hfull] at h
          have hrest : (collect limit page remaining (number + 1)).2 = .error why := by
            cases hmore : (collect limit page remaining (number + 1)).2 with
            | error other =>
              rw [hmore] at h
              exact h
            | ok more =>
              rw [hmore] at h
              cases h
          obtain ⟨pages, hpages, hlength, hstop⟩ := ih hrest
          refine ⟨found :: pages, ⟨hpage, hfull, hpages⟩, Nat.succ_lt_succ hlength, ?_⟩
          rw [← hstop, List.length_cons]
          congr 1
          omega
  · rintro ⟨pages, hpages, hlength, hstop⟩
    obtain ⟨rest, rfl⟩ := Nat.exists_eq_add_of_lt hlength
    rw [Nat.add_assoc, collect_append hpages, collect_stop hstop]
    rfl

end Steps

/-! ## Slices -/

/-- The part of a list that makes up the page at an index, counted from zero. -/
def slice {α : Type} (size : Nat) (items : List α) (index : Nat) : List α :=
  (items.drop (index * size)).take size

theorem slice_zero {α : Type} (size : Nat) (items : List α) :
    slice size items 0 = items.take size := by
  rw [slice, Nat.zero_mul, List.drop_zero]

theorem slice_succ {α : Type} (size : Nat) (items : List α) (index : Nat) :
    slice size items (index + 1) = slice size (items.drop size) index := by
  rw [slice, slice, List.drop_drop, Nat.succ_mul, Nat.add_comm]

/-- **Slices are put together again**, and only as many are asked for as there are, and one
more if the last one is full. -/
theorem collect_slices {size : Nat} (hsize : 0 < size) {page : Nat → Page}
    {remaining number : Nat} {items : List Entries}
    (h : ∀ index < remaining, page (number + index) = .items (slice size items index)) :
    collect size page remaining number =
      (min remaining (items.length / size + 1), .ok (items.take (remaining * size))) := by
  induction remaining generalizing number items with
  | zero => rw [collect_zero, Nat.zero_min, Nat.zero_mul, List.take_zero]
  | succ remaining ih =>
    have hpage : page number = .items (items.take size) := by
      rw [← slice_zero]
      exact h 0 (Nat.succ_pos remaining)
    rcases Nat.lt_or_ge items.length size with hshort | hfull
    · -- the last slice has all the items that are left
      have htake : ∀ count, items.length ≤ count → items.take count = items := fun count hcount =>
        List.take_of_length_le hcount
      have hall : items.length ≤ (remaining + 1) * size := by
        calc items.length ≤ 1 * size := by omega
          _ ≤ (remaining + 1) * size := Nat.mul_le_mul_right size (by omega)
      rw [htake size hshort.le] at hpage
      rw [collect_short hpage (Int.ofNat_lt.mpr hshort), htake _ hall,
        Nat.div_eq_of_lt hshort]
      congr 1
      omega
    · have hlength : (items.take size).length = size := List.length_take_of_le hfull
      rw [collect_full hpage (Int.ofNat_le.mpr hlength.ge), @ih _ (items.drop size)]
      · have hcount : items.length / size = (items.drop size).length / size + 1 := by
          rw [List.length_drop]
          exact Nat.div_eq_sub_div hsize hfull
        refine Prod.ext ?_ ?_
        · rw [hcount]
          omega
        · show Except.ok (items.take size ++ (items.drop size).take (remaining * size)) = _
          rw [← List.take_add, Nat.succ_mul, Nat.add_comm size]
      · intro index hindex
        rw [← slice_succ, ← h (index + 1) (Nat.succ_lt_succ hindex)]
        congr 1
        omega

/-! ## Bodies of pages -/

/-- Only mappings count as items. -/
theorem mappings_map (items : List Entries) : mappings (items.map .mapping) = items := by
  rw [mappings, List.filterMap_map]
  exact List.filterMap_some

/-- The body of a page is a bare list of its items, or an object that files them under the key of
the listing. The object may have other entries; only if there are no items, a list under
`results` would count, and there must be none. -/
inductive Listing.IsBody (listing : Listing) (items : List Entries) : Value → Prop where
  /-- a bare list -/
  | bare : IsBody listing items (.list (items.map .mapping))
  /-- a list under the key of the listing -/
  | keyed {entries : Entries} : Value.get listing.key entries = .list (items.map .mapping) →
    (items = [] → (Value.get "results" entries).isTruthy = false) →
    IsBody listing items (.mapping entries)

theorem Listing.IsBody.itemsOf?_eq {listing : Listing} {items : List Entries} {body : Value}
    (h : listing.IsBody items body) : itemsOf? listing.key body = some items := by
  cases h with
  | bare => exact congrArg some (mappings_map items)
  | @keyed entries hown hresults =>
    simp only [itemsOf?, hown]
    cases items with
    | nil =>
      have hempty : (Value.list (List.map Value.mapping [])).isTruthy = false := rfl
      simp only [hempty, hresults rfl, Bool.false_eq_true, if_false]
    | cons item rest =>
      have hfilled : (Value.list (List.map Value.mapping (item :: rest))).isTruthy = true := rfl
      simp only [hfilled, if_true, mappings_map]

/-! ## The listing of a service -/

section Listings

variable (connection : Connection) (service : Service) (limit : Int) (listing : Listing)

/-- The page with the given number, counted from one, as the service replies to the request for
it. -/
def pageAt (number : Nat) : Page :=
  match connection.requestWith listing.path (pageParameters limit number) with
  | .ok request => .ofReply listing (service request (number - 1))
  | .error e => .stop (.url e)

variable {connection service limit listing}

theorem list_outcome : (list connection service limit listing).outcome =
    (collect limit (pageAt connection service limit listing) maxPages 1).2 := by
  unfold list
  -- with the cap in place, both sides would be run a hundred pages deep
  generalize maxPages = cap
  rfl

theorem list_requests : (list connection service limit listing).requests =
    (List.range (collect limit (pageAt connection service limit listing) maxPages 1).1).filterMap
      fun n => (connection.requestWith listing.path (pageParameters limit (n + 1))).toOption := by
  unfold list
  generalize maxPages = cap
  rfl

/-- A page that is answered with a body of items holds these items. -/
theorem Listing.IsBody.pageAt_eq {items : List Entries} {body : Value} {number : Nat}
    {request : Request} {bytes : List UInt8} (hbody : listing.IsBody items body)
    (hrequest : connection.requestWith listing.path (pageParameters limit (number + 1)) =
      .ok request)
    (hanswer : service request number = .answer 200 bytes)
    (hparse : Json.parseBytes? bytes = some body) :
    pageAt connection service limit listing (number + 1) = .items items := by
  have hpresent : listing.absentStatuses.contains 200 = false := by
    cases listing <;> rfl
  have hsuccess : Status.isSuccess 200 = true := rfl
  rw [pageAt, hrequest]
  simp only [Nat.add_sub_cancel, hanswer, Page.ofReply, hpresent, hsuccess, hparse,
    Option.map_some, hbody.itemsOf?_eq, if_true, Bool.false_eq_true, if_false]

/-- Requests that can all be made are made in order. -/
theorem map_ok_filterMap_toOption {ε α β : Type} {f : α → Except ε β} {as : List α}
    (h : ∀ a ∈ as, ∃ b, f a = .ok b) :
    (as.filterMap fun a => (f a).toOption).map Except.ok = as.map f := by
  induction as with
  | nil => rfl
  | cons a rest ih =>
    obtain ⟨⟨b, hb⟩, hrest⟩ := List.forall_mem_cons.mp h
    rw [List.filterMap_cons, List.map_cons, hb, ← ih hrest]
    rfl

/-- The service answers the request for each page with the slice of the items for it. -/
def Listing.IsServed (connection : Connection) (service : Service) (size : Nat) (listing : Listing)
    (items : List Entries) : Prop :=
  ∀ index < maxPages, ∃ request bytes body,
    connection.requestWith listing.path (pageParameters size (index + 1)) = .ok request ∧
      service request index = .answer 200 bytes ∧ Json.parseBytes? bytes = some body ∧
      listing.IsBody (slice size items index) body

theorem Listing.IsServed.pageAt_eq {size : Nat} {items : List Entries}
    (h : listing.IsServed connection service size items) {index : Nat} (hindex : index < maxPages) :
    pageAt connection service size listing (1 + index) = .items (slice size items index) := by
  obtain ⟨request, bytes, body, hrequest, hanswer, hparse, hbody⟩ := h index hindex
  rw [Nat.add_comm]
  exact hbody.pageAt_eq hrequest hanswer hparse

/-- **A listing neither loses nor repeats nor reorders.** If the service answers each page with
its slice of a list of items, the listing asks for the pages 1, 2, … in order, all of the same
size, up to the first that is not full or the cap, and yields the items in order, up to the cap.
Whatever the service replies and whatever the size of the pages, it makes no more requests than
the cap. -/
theorem list_isServed :
    (∀ (connection : Connection) (service : Service) (size : Nat) (listing : Listing)
      (items : List Entries), 0 < size → listing.IsServed connection service size items →
        (list connection service size listing).requests.map Except.ok =
          (List.range' 1 (min 100 (items.length / size + 1))).map (fun number =>
            connection.requestWith listing.path
              [("limit", Text.ofNat size), ("page", Text.ofNat number)]) ∧
        (list connection service size listing).outcome =
          .ok (items.take (min items.length (100 * size)))) ∧
      ∀ (connection : Connection) (service : Service) (limit : Int) (listing : Listing),
        (list connection service limit listing).requests.length ≤ 100 := by
  refine ⟨fun connection service size listing items hsize h => ?_,
    fun connection service limit listing => ?_⟩
  · have hcollect := collect_slices hsize (fun index hindex => h.pageAt_eq hindex)
    refine ⟨?_, ?_⟩
    · rw [list_requests, hcollect, map_ok_filterMap_toOption, List.range'_eq_map_range,
        List.map_map]
      · refine List.map_congr_left fun index _ => ?_
        rw [Function.comp_apply, Nat.add_comm]
        rfl
      · intro index hindex
        have hlt : index < maxPages := lt_of_lt_of_le (List.mem_range.mp hindex) (min_le_left _ _)
        obtain ⟨request, -, -, hrequest, -⟩ := h index hlt
        exact ⟨request, hrequest⟩
    · rw [list_outcome, hcollect, min_comm items.length, ← List.take_eq_take_min]
      rfl
  · rw [list_requests]
    calc _ ≤ (List.range
            (collect limit (pageAt connection service limit listing) maxPages 1).1).length :=
          List.length_filterMap_le _ _
      _ ≤ 100 := by
          rw [List.length_range]
          exact collect_fst_le

end Listings

/-- A connection to a host without a path. -/
def plainConnection : Connection where
  base :=
    { scheme := "https", userinfo := [], host := "api.example.com", port := none, path := []
      query := none, fragment := none }
  key := "k"

/-- The connection to a plain host reaches the listings. -/
theorem exists_requestTo_plainConnection (listing : Listing) :
    ∃ request, plainConnection.requestTo listing.path = .ok request := by
  cases listing <;> exact ⟨_, rfl⟩

/-- The bytes of a value as JSON. -/
def spelled (v : Value) : List UInt8 :=
  ((Json.compact v).toOption.getD []).flatMap Utf8.encodeCodePoint

/-- An item with nothing but a name. -/
def namedItem (name : Text) : Entries := [(.text "name", .text name)]

/-- The body of a page of attributes. -/
def attributesBody (items : List Entries) : Value :=
  .record [("customAttributes", .list (items.map .mapping))]

theorem isBody_attributesBody (items : List Entries) :
    Listing.custom.IsBody items (attributesBody items) :=
  .keyed rfl fun _ => rfl

/-- A service whose first page of attributes is full with two items, and whose other pages are
empty. -/
def twoItemService : Service := fun _ earlier =>
  .answer 200 (spelled (attributesBody
    (if earlier = 0 then [namedItem "a", namedItem "b"] else [])))

/-- A full page is followed by one more request, though nothing is left. -/
theorem list_isServed_full : 0 < 2 ∧
    (list plainConnection twoItemService 2 .custom).requests.length = 2 ∧
    (list plainConnection twoItemService 2 .custom).outcome =
      .ok [namedItem "a", namedItem "b"] := by
  have hserved : Listing.custom.IsServed plainConnection twoItemService 2
      [namedItem "a", namedItem "b"] := by
    intro index _
    obtain ⟨request, hrequest⟩ := Connection.exists_requestWith
      (exists_requestTo_plainConnection .custom) (isEncodable_pageParameters (2 : Nat) (index + 1))
    match index with
    | 0 =>
      exact ⟨request, _, attributesBody [namedItem "a", namedItem "b"], hrequest, rfl,
        by decide +kernel, isBody_attributesBody _⟩
    | n + 1 =>
      have hslice : slice 2 [namedItem "a", namedItem "b"] (n + 1) = [] := by
        rw [slice, List.drop_of_length_le, List.take_nil]
        simp only [List.length_cons, List.length_nil]
        omega
      rw [hslice]
      exact ⟨request, spelled (attributesBody []), attributesBody [], hrequest, rfl,
        by decide +kernel, isBody_attributesBody _⟩
  obtain ⟨hrequests, houtcome⟩ := list_isServed.1 plainConnection twoItemService 2 .custom
    [namedItem "a", namedItem "b"] (by decide) hserved
  refine ⟨by decide, ?_, houtcome⟩
  have hlength := congrArg List.length hrequests
  rwa [List.length_map, List.length_map, List.length_range'] at hlength

end Directory

end ProfileFilter
