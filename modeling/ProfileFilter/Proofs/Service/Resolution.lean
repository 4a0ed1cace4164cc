import ProfileFilter.Proofs.Service.Origin

/-!
# Paths behind a base URL

Where a request goes whose path starts with one slash: to the place the base URL leads to, and there
to the path of the base with the path of the request behind it (`Follows`). A client opens with the
base as it is when a slash is put at its end (`IsBase.asBase_eq`), and a path is appended without
the slash it starts with, so exactly one slash stands between the two (`follows_of_resolve`).

A path that starts with two slashes is read as an authority with a path behind it, and the authority
is not kept; this is why one slash is asked for.

A search can be requested whenever its path can be requested without the filter, as long as it is
not too long (`Connection.exists_requestTo_requestPath`).
-/

namespace ProfileFilter

namespace Url

/-! ## Paths with one slash -/

/-- The path starts with a slash, and with no more than one. -/
def HasOneSlash (path : Text) : Prop :=
  ∃ rest : Text, path = ('/' : CodePoint) :: rest ∧ rest.head? ≠ some ('/' : CodePoint)

/-- An authority starts with two slashes. -/
theorem cutAuthority_of_hasOneSlash {path : Text} (h : HasOneSlash path) :
    cutAuthority path = ([], path) := by
  obtain ⟨rest, rfl, hrest⟩ := h
  have hnone : Text.afterHead? "//" (('/' : CodePoint) :: rest) = none := by
    cases rest with
    | nil => rfl
    | cons c others =>
      have hc : ¬ (('/' : CodePoint) == c) = true := by
        rw [beq_iff_eq]
        rintro rfl
        exact hrest rfl
      exact (if_pos (beq_self_eq_true _)).trans (if_neg hc)
  rw [cutAuthority, hnone]

section Slash

variable {path : Text} (h : HasOneSlash path)

include h

/-- Nothing before the path is a scheme or an authority. -/
theorem split_of_hasOneSlash : split path =
    { scheme := [], authority := []
      path := (Text.cut '?' (Text.cut '#' path).1).1
      query := (Text.cut '?' (Text.cut '#' path).1).2
      fragment := (Text.cut '#' path).2 } := by
  have hauthority := cutAuthority_of_hasOneSlash h
  obtain ⟨rest, rfl, -⟩ := h
  simp only [split, cutScheme_slash, hauthority]

theorem HasOneSlash.cut {sep : CodePoint} (hsep : sep ≠ ('/' : CodePoint)) :
    HasOneSlash (Text.cut sep path).1 := by
  obtain ⟨rest, rfl, hrest⟩ := h
  refine ⟨(Text.cut sep rest).1, ?_, ?_⟩
  · rw [Text.cut, if_neg (by simpa using hsep.symm)]
  · cases rest with
    | nil => exact hrest
    | cons c others =>
      rw [Text.cut]
      split
      · simp
      · exact hrest

/-- Slashes stand for themselves, and no escape starts with one. -/
theorem HasOneSlash.escapePart {literal : CodePoint → Bool} (hkeep : KeepsEscapes literal)
    (hslash : literal '/' = true) : HasOneSlash (escapePart literal path) := by
  obtain ⟨rest, rfl, hrest⟩ := h
  refine ⟨Url.escapePart literal rest, ?_, ?_⟩
  · have hone : escapePart.escapeOne literal '/' = [('/' : CodePoint)] := if_pos hslash
    rw [escapePart_eq_flatMap hkeep, List.flatMap_cons, hone, escapePart_eq_flatMap hkeep]
    rfl
  · rw [escapePart_eq_flatMap hkeep]
    cases rest with
    | nil => exact hrest
    | cons c others =>
      rw [List.flatMap_cons]
      rcases escapeOne_cases literal c with ⟨-, hone⟩ | ⟨digits, hone, -⟩
      · rw [hone]
        exact hrest
      · rw [hone]
        exact fun heq => absurd (Option.some.inj heq) (by decide)

end Slash

/-! ## Opening -/

/-- A path without a slash at its end. -/
def stem (path : Text) : Text := if Text.endsWith "/" path then path.dropLast else path

theorem stem_append_slash (path : Text) : stem (path ++ ("/" : Text)) = path := by
  have hends : Text.endsWith "/" (path ++ ("/" : Text)) = true :=
    List.isSuffixOf_iff_suffix.mpr (List.suffix_append path _)
  rw [stem, if_pos hends]
  exact List.dropLast_concat

theorem mem_of_mem_stem {path : Text} {c : CodePoint} (h : c ∈ stem path) : c ∈ path := by
  unfold stem at h
  split at h
  · exact List.mem_of_mem_dropLast h
  · exact h

/-- Without a query the target of a URL is its path, or a slash. -/
theorem target_of_query {url : Url} (h : url.query = none) :
    url.target = if url.path.isEmpty then ("/" : Text) else url.path := by
  rw [target, h, marked, List.append_nil]

/-- In the path of a normal form no question mark is left. -/
theorem IsNormal.mark_notMem {url : Url} (h : url.IsNormal) : ('?' : CodePoint) ∉ url.path :=
  fun hmem => absurd (h.path _ hmem) (by decide)

/-- A path in normal form stays as it is, also with a slash at its end. -/
theorem IsNormal.placed_append_slash {url : Url} (h : url.IsNormal) :
    url.placed (url.path ++ ("/" : Text)) = url.path ++ ("/" : Text) := by
  unfold placed
  split
  next hrooted => exact (h.noDots hrooted).append_slash.resolveDots_eq
  · rfl

/-- A slash at the end of the target is the one after the stem. -/
theorem target_of_endsWith {url : Url} (hquery : url.query = none)
    (h : Text.endsWith "/" url.target = true) : url.target = stem url.path ++ ("/" : Text) := by
  rw [target_of_query hquery] at h ⊢
  split
  next hempty =>
    rw [List.isEmpty_iff.mp hempty]
    rfl
  next hpath =>
    rw [if_neg hpath] at h
    obtain ⟨front, hfront⟩ := List.isSuffixOf_iff_suffix.mp h
    rw [← hfront, stem_append_slash]

/-- Otherwise the target is the path, which is its own stem. -/
theorem target_of_not_endsWith {url : Url} (hquery : url.query = none)
    (h : ¬ Text.endsWith "/" url.target = true) :
    url.target = url.path ∧ stem url.path = url.path := by
  rw [target_of_query hquery] at h ⊢
  split at h
  · exact absurd rfl h
  next hpath => exact ⟨if_neg hpath, if_neg h⟩

/-- A base for requests: a URL in normal form that has neither a query nor a fragment. -/
structure IsBase (base : Url) : Prop where
  /-- the base is in normal form -/
  normal : base.IsNormal
  /-- no query -/
  query : base.query = none
  /-- no fragment -/
  fragment : base.fragment = none

/-- What was read is a base if it has neither a query nor a fragment. -/
theorem isBase_of_parse {t : Text} {base : Url} (h : parse t = .ok base)
    (hquery : base.query = none) (hfragment : base.fragment = none) : base.IsBase := by
  unfold parse at h
  split_ifs at h
  exact ⟨(normalize_eq_ok_iff.mp h).isNormal, hquery, hfragment⟩

/-- A slash can be put at the end of the path of a base. -/
theorem IsBase.withTarget_slash {base root : Url} (h : base.IsBase)
    (hroot : base.withTarget (base.path ++ ("/" : Text)) = .ok root) :
    base.SameOrigin root ∧ root.IsNormal ∧ root.fragment = none ∧
      root.target = base.path ++ ("/" : Text) := by
  have hcut : Text.cut '?' (base.path ++ ("/" : Text)) = (base.path ++ ("/" : Text), none) := by
    refine Text.cut_of_notMem ?_
    rw [List.mem_append, not_or]
    exact ⟨h.normal.mark_notMem, by decide⟩
  have hliteral : ∀ c ∈ base.path ++ ("/" : Text), isLiteral pathEscapes c = true := by
    have hslash : isLiteral pathEscapes '/' = true := by decide
    exact List.forall_mem_append.mpr ⟨h.normal.path, List.forall_mem_singleton.mpr hslash⟩
  have hne : ¬ (base.path ++ ("/" : Text)).isEmpty = true := by
    rw [List.isEmpty_iff]
    exact List.append_ne_nil_of_right_ne_nil base.path (List.cons_ne_nil _ [])
  obtain ⟨horigin, hnormal, hrootPath, hrootQuery, hrootFragment⟩ := h.normal.withTarget hroot
  rw [hcut] at hrootPath hrootQuery
  rw [h.normal.placed_append_slash, escapePart_of_forall hliteral] at hrootPath
  rw [h.fragment] at hrootFragment
  refine ⟨horigin, hnormal, hrootFragment, ?_⟩
  rw [target_of_query hrootQuery, hrootPath, if_neg hne]

/-- **A client opens with the base as it is**, with exactly one slash at the end of its path. -/
theorem IsBase.asBase_eq {base root : Url} (h : base.IsBase) (hroot : base.asBase = .ok root) :
    base.SameOrigin root ∧ root.IsNormal ∧ root.fragment = none ∧
      root.target = stem base.path ++ ("/" : Text) := by
  unfold asBase at hroot
  split at hroot
  next hends =>
    obtain rfl := Except.ok.inj hroot
    exact ⟨.refl base, h.normal, h.fragment, target_of_endsWith h.query hends⟩
  next hends =>
    obtain ⟨htarget, hstem⟩ := target_of_not_endsWith h.query hends
    rw [htarget] at hroot
    rw [hstem]
    exact h.withTarget_slash hroot

/-! ## References -/

/-- The path of a reference, without its query and its fragment. -/
def pathOf (reference : Text) : Text := (Text.cut '?' (Text.cut '#' reference).1).1

/-- The query of a reference. -/
def queryOf (reference : Text) : Option Text := (Text.cut '?' (Text.cut '#' reference).1).2

/-- Resolving dot segments and escaping do not get in each other's way. -/
theorem placed_escapePart (url : Url) (path : Text) :
    url.placed (escapePart (isLiteral pathEscapes) path) =
      escapePart (isLiteral pathEscapes) (url.placed path) := by
  unfold placed
  split
  · exact resolveDots_escapePart keepsEscapes_path (by decide) (by decide) path
  · rfl

/-- A reference without scheme and authority is a bare path, escaped. -/
theorem IsNormalForm.reference {w : Written} {url : Url} (h : IsNormalForm w url)
    (hscheme : w.scheme = []) (hauthority : w.authority = []) :
    url.scheme = [] ∧ url.path = escapePart (isLiteral pathEscapes) w.path := by
  have huserinfo := h.userinfo
  have hhost := h.host
  have hport := h.port
  rw [hauthority] at huserinfo hhost hport
  rw [hscheme] at hport
  have hnoScheme : url.scheme = [] := by
    rw [h.scheme, hscheme]
    rfl
  have hrooted : url.isRooted = false := by
    have hnoHost : url.host = [] := (Option.some.inj hhost).symm
    have hnoPort : url.port = none := (Option.some.inj hport).symm
    rw [isRooted, hasAuthority, hnoScheme, huserinfo, hnoHost, hnoPort]
    rfl
  refine ⟨hnoScheme, ?_⟩
  rw [h.path, placed, hrooted]
  rfl

/-- A path with one slash is read as a reference with that path, escaped. -/
theorem reference_of_parse {path : Text} {reference : Url} (h : HasOneSlash path)
    (hparse : parse path = .ok reference) :
    reference.isAbsolute = false ∧ HasOneSlash reference.path ∧
      reference.path = escapePart (isLiteral pathEscapes) (pathOf path) ∧
      reference.query = (queryOf path).map (escapePart (isLiteral queryEscapes)) := by
  unfold parse at hparse
  split_ifs at hparse
  rw [split_of_hasOneSlash h, normalize_eq_ok_iff] at hparse
  obtain ⟨hscheme, hpath⟩ := hparse.reference rfl rfl
  refine ⟨?_, ?_, hpath, hparse.query⟩
  · rw [isAbsolute, hscheme]
    rfl
  · rw [hpath]
    exact ((h.cut (by decide)).cut (by decide)).escapePart keepsEscapes_path (by decide)

/-- The target of a reference without the slash it starts with. -/
theorem HasOneSlash.dropWhile_target {url : Url} (h : HasOneSlash url.path) :
    ("/" : Text) ++ url.target.dropWhile (fun c : CodePoint => c == '/') =
      url.path ++ marked "?" url.query := by
  obtain ⟨rest, hpath, hrest⟩ := h
  have htail : (rest ++ marked "?" url.query).dropWhile (fun c : CodePoint => c == '/') =
      rest ++ marked "?" url.query := by
    cases rest with
    | nil =>
      cases url.query with
      | none => rfl
      | some query => rfl
    | cons c others =>
      refine List.dropWhile_cons_of_neg (fun heq => hrest ?_)
      rw [beq_iff_eq.mp heq]
      rfl
  have htarget : url.target.dropWhile (fun c : CodePoint => c == '/') =
      (rest ++ marked "?" url.query).dropWhile fun c : CodePoint => c == '/' := by
    rw [target, hpath]
    rfl
  rw [htarget, htail, hpath]
  rfl

/-- A URL leads behind a base, with a query of its own. -/
structure Follows (base : Url) (path : Text) (query : Option Text) (url : Url) : Prop where
  /-- to the place the base leads to -/
  origin : base.SameOrigin url
  /-- there to the path of the base and this one behind it -/
  path : url.path = escapePart (isLiteral pathEscapes) (base.placed (stem base.path ++ pathOf path))
  /-- with this query -/
  query : url.query = query
  /-- and no fragment -/
  fragment : url.fragment = none

/-- **A path is put behind that of the base**, with its own query. -/
theorem follows_of_resolve {base root reference url : Url} {path : Text} (h : base.IsBase)
    (hroot : base.asBase = .ok root) (hpath : HasOneSlash path)
    (hparse : parse path = .ok reference) (hresolve : root.resolve reference = .ok url) :
    base.Follows path ((queryOf path).map (escapePart (isLiteral queryEscapes))) url := by
  obtain ⟨horigin, hnormal, hrootFragment, htarget⟩ := h.asBase_eq hroot
  obtain ⟨habsolute, hslash, hreference, hreferenceQuery⟩ := reference_of_parse hpath hparse
  rw [resolve, habsolute, if_neg Bool.false_ne_true, htarget, List.append_assoc,
    hslash.dropWhile_target, ← List.append_assoc] at hresolve
  -- both paths are escaped, so the first question mark is the one of the reference
  have hcut : Text.cut '?' (stem base.path ++ reference.path ++ marked "?" reference.query) =
      (stem base.path ++ reference.path, reference.query) := by
    have hmark : ('?' : CodePoint) ∉ stem base.path ++ reference.path := by
      rw [List.mem_append, not_or]
      refine ⟨fun hmem => h.normal.mark_notMem (mem_of_mem_stem hmem), fun hmem => ?_⟩
      rw [hreference] at hmem
      exact absurd (literal_of_mem_escapePart keepsEscapes_path _ hmem) (by decide)
    cases reference.query with
    | none => rw [marked, List.append_nil, Text.cut_of_notMem hmark]
    | some query => exact Text.cut_append_cons hmark
  have hstem : stem base.path = escapePart (isLiteral pathEscapes) (stem base.path) :=
    (escapePart_of_forall fun c hc => h.normal.path c (mem_of_mem_stem hc)).symm
  -- escaping the two paths once more, together, changes nothing
  obtain ⟨hmoved, -, hurlPath, hurlQuery, hurlFragment⟩ := hnormal.withTarget hresolve
  rw [hcut] at hurlPath hurlQuery
  refine ⟨horigin.trans hmoved, ?_, ?_, ?_⟩
  · rw [hurlPath, horigin.placed_eq, hreference, hstem, ← escapePart_append keepsEscapes_path,
      placed_escapePart, escapePart_escapePart keepsEscapes_path, ← hstem]
  · rw [hurlQuery, hreferenceQuery]
    cases queryOf path with
    | none => rfl
    | some query => exact congrArg some (escapePart_escapePart keepsEscapes_query)
  · rw [hurlFragment, hrootFragment]
    rfl

/-! ## Longer references -/

/-- With another query the parts stay in normal form. -/
theorem IsNormalForm.withQuery {w : Written} {url : Url} {query : Option Text}
    (h : IsNormalForm w url) (hquery : query.all Text.isEncodable = true) :
    IsNormalForm { w with query }
      { url with query := query.map (escapePart (isLiteral queryEscapes)) } where
  scheme := h.scheme
  encodable := h.encodable
  userinfo := h.userinfo
  host := h.host
  port := h.port
  inPlace := h.inPlace
  partsEncodable := by
    have hparts := h.partsEncodable
    simp only [Bool.and_eq_true] at hparts ⊢
    exact ⟨⟨hparts.1.1, hquery⟩, hparts.2⟩
  path := h.path
  query := rfl
  fragment := h.fragment

/-- A target to which a URL can be moved can be extended by a query. -/
theorem exists_withTarget_append {url moved : Url} {target query : Text}
    (h : url.withTarget target = .ok moved) (hquery : query.isEncodable = true) :
    ∃ extended, url.withTarget (target ++ ('?' : CodePoint) :: query) = .ok extended := by
  have hform : IsNormalForm ⟨url.scheme, url.authority, (Text.cut '?' target).1,
      (Text.cut '?' target).2, url.fragment⟩ moved := normalize_eq_ok_iff.mp h
  -- a target that has a query already gets a longer one
  obtain ⟨longer, hcut, hlonger⟩ : ∃ longer : Text,
      Text.cut '?' (target ++ ('?' : CodePoint) :: query) = ((Text.cut '?' target).1, some longer) ∧
        longer.isEncodable = true := by
    rcases hold : Text.cut '?' target with ⟨path, _ | own⟩
    · obtain ⟨rfl, hmark⟩ := Text.cut_eq_none_iff.mp hold
      exact ⟨query, Text.cut_append_cons hmark, hquery⟩
    · obtain ⟨rfl, hmark⟩ := Text.cut_eq_some_iff.mp hold
      have hparts := hform.partsEncodable
      rw [hold] at hparts
      simp only [Bool.and_eq_true] at hparts
      refine ⟨own ++ ('?' : CodePoint) :: query, ?_, ?_⟩
      · rw [List.append_assoc, List.cons_append]
        exact Text.cut_append_cons hmark
      · have hown : own.isEncodable = true := hparts.1.2
        rw [Text.isEncodable_iff] at hown hquery ⊢
        rw [List.forall_mem_append, List.forall_mem_cons]
        exact ⟨hown, by decide, hquery⟩
  have hall : (some longer : Option Text).all Text.isEncodable = true := hlonger
  rw [withTarget, hcut]
  exact ⟨_, normalize_eq_ok_iff.mpr (hform.withQuery hall)⟩

theorem hasOneSlash_requestPath (encoded : Text) : HasOneSlash (Preview.requestPath encoded) := by
  refine ⟨"people/2/persons" ++ ('?' : CodePoint) :: Preview.query encoded, ?_, ?_⟩
  · rw [Preview.requestPath_eq]
    rfl
  · have hhead : List.head? (("people/2/persons" : Text) ++
        ('?' : CodePoint) :: Preview.query encoded) = some ('p' : CodePoint) := rfl
    rw [hhead]
    decide

/-- The path of a search can be read, unless it is too long. -/
theorem parse_requestPath_of_length_le {encoded : Text}
    (h : ∀ c ∈ Preview.query encoded, isLiteral queryEscapes c = true)
    (hlength : (Preview.requestPath encoded).length ≤ maxLength) :
    parse (Preview.requestPath encoded) = .ok {
      scheme := [], userinfo := [], host := [], port := none, path := Preview.personsPath
      query := some (Preview.query encoded), fragment := none } := by
  have hcontrol : (Preview.requestPath encoded).any isControl = false := by
    have hquery : ∀ c ∈ Preview.query encoded, isControl c = false := by
      intro c hc
      have hc := h c hc
      simp only [isLiteral, Bool.and_eq_true, decide_eq_true_eq] at hc
      simp only [isControl, Bool.or_eq_false_iff, decide_eq_false_iff_not, beq_eq_false_iff_ne]
      omega
    have hpath : Preview.personsPath.any isControl = false := by decide +kernel
    rw [Preview.requestPath_eq, List.any_append, hpath, Bool.false_or]
    rw [List.any_eq_false]
    exact List.forall_mem_cons.mpr ⟨by decide, fun c hc => Bool.eq_false_iff.mp (hquery c hc)⟩
  have hread : ¬ ((Preview.requestPath encoded).length > maxLength ||
      (Preview.requestPath encoded).any isControl) = true := by
    rw [hcontrol, Bool.or_false, decide_eq_true_eq]
    omega
  rw [parse, if_neg hread, split_requestPath h]
  exact normalize_reference h

/-- The query of a request: its parameters, or the query of its path if none are given. -/
def sentQuery (path : Text) : Option (List (Text × Text)) → Option Text
  | some parameters => if parameters.isEmpty then none else some (formQuery parameters)
  | none => (queryOf path).map (escapePart (isLiteral queryEscapes))

end Url

/-! ## Requests -/

namespace Connection

section Follows

variable {base : Url} {connection : Connection} {path : Text} {request : Request}
  (h : base.IsBase) (hroot : base.asBase = .ok connection.base) (hpath : Url.HasOneSlash path)

include h hroot hpath

/-- **A request leads behind the base.** -/
theorem follows_of_requestTo (hrequest : connection.requestTo path = .ok request) :
    base.Follows path (Url.sentQuery path none) request.url := by
  obtain ⟨reference, hparse, hrest⟩ := bind_eq_ok.mp hrequest
  obtain ⟨url, hresolve, hmade⟩ := bind_eq_ok.mp hrest
  obtain rfl := Except.ok.inj hmade
  exact Url.follows_of_resolve h hroot hpath hparse hresolve

/-- Parameters take the place of the query of the path. -/
theorem follows_of_requestWith {parameters : List (Text × Text)}
    (hrequest : connection.requestWith path parameters = .ok request) :
    base.Follows path (Url.sentQuery path (some parameters)) request.url := by
  obtain ⟨bare, hbare, hrest⟩ := bind_eq_ok.mp hrequest
  have hfollows := follows_of_requestTo h hroot hpath hbare
  split at hrest
  · obtain rfl := Except.ok.inj hrest
    obtain ⟨hscheme, huserinfo, hhost, hport⟩ := hfollows.origin
    exact ⟨⟨hscheme, huserinfo, hhost, hport⟩, hfollows.path, rfl, hfollows.fragment⟩
  · cases hrest

end Follows

/-- **A search can be requested if its path can**, unless it is too long. -/
theorem exists_requestTo_requestPath {connection : Connection} {encoded : Text} {bare : Request}
    (hbare : connection.requestTo Preview.personsPath = .ok bare)
    (h : ∀ c ∈ Preview.query encoded, Url.isLiteral Url.queryEscapes c = true)
    (hlength : (Preview.requestPath encoded).length ≤ Url.maxLength) :
    ∃ request, connection.requestTo (Preview.requestPath encoded) = .ok request := by
  have hparse : Url.parse Preview.personsPath = .ok {
      scheme := [], userinfo := [], host := [], port := none, path := Preview.personsPath
      query := none, fragment := none } := by
    decide +kernel
  obtain ⟨reference, hread, hrest⟩ := bind_eq_ok.mp hbare
  obtain ⟨moved, hresolve, -⟩ := bind_eq_ok.mp hrest
  rw [hparse] at hread
  obtain rfl := Except.ok.inj hread
  have hmoved : connection.base.withTarget (connection.base.target ++ ("people/2/persons" : Text)) =
      .ok moved := hresolve
  obtain ⟨extended, hextended⟩ :=
    Url.exists_withTarget_append hmoved (Url.isEncodable_of_isLiteral h)
  rw [List.append_assoc] at hextended
  refine ⟨⟨extended, "App " ++ connection.key⟩, ?_⟩
  exact bind_eq_ok.mpr ⟨_, Url.parse_requestPath_of_length_le h hlength,
    bind_eq_ok.mpr ⟨extended, hextended, rfl⟩⟩

/-- A path that is too long cannot be requested. -/
theorem requestTo_of_length_gt {connection : Connection} {path : Text}
    (h : path.length > Url.maxLength) : connection.requestTo path = .error .malformed := by
  rw [requestTo, Url.parse, if_pos (by rw [decide_eq_true h, Bool.true_or])]
  rfl

end Connection

end ProfileFilter
