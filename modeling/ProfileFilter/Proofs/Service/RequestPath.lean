import ProfileFilter.Proofs.Compile.Told
import ProfileFilter.Proofs.Text.Pieces
import ProfileFilter.Service.Client

/-!
# The path of a request

The path under which a filter is sent reads back as what was sent. The encoded filter holds no
character that delimits anything in a query, so between the ampersands there is the flag that is
always sent and, unless it is empty, the filter, and each splits at one equals sign. For the same
reason the query reaches the service as it is: nothing in it needs an escape.

Main statement: `Preview.parameters_requestPath`.
-/

namespace ProfileFilter

/-! ## Encoded texts in a query -/

theorem Percent.notMem_encode {c : CodePoint} (hsafe : isSafe c = false)
    (hpercent : c ≠ ('%' : CodePoint)) (t : Text) : c ∉ encode t := by
  intro hmem
  rcases (isSpelling_encode t).forall_mem c hmem with h | h
  · rw [hsafe] at h
    cases h
  · exact hpercent h

/-- Only nothing is encoded as nothing. -/
theorem Percent.encode_eq_nil_iff {t : Text} (h : t.isEncodable = true) :
    encode t = [] ↔ t = [] := by
  constructor
  · intro hnil
    rw [← decode_encode h, hnil]
    rfl
  · rintro rfl
    rfl

namespace Preview

/-- The parameters in the query of a path: the pieces between its ampersands, each split at its
equals signs, the parts decoded. -/
def parameters (path : Text) : List (List Text) :=
  (((Text.cut '?' path).2.getD []).splitOn '&').map fun piece =>
    (Text.splitOn '=' piece).map Percent.decode

/-- The flag that is always sent. -/
def totalFlag : Text := "includeTotalCount=true"

/-- The filter as a parameter. -/
def filterParameter (encoded : Text) : Text := "filter" ++ ('=' : CodePoint) :: encoded

/-- The query of the search with an encoded filter. -/
def query (encoded : Text) : Text :=
  totalFlag ++ (if encoded.isEmpty then [] else ('&' : CodePoint) :: filterParameter encoded)

theorem requestPath_eq (encoded : Text) :
    requestPath encoded = personsPath ++ ('?' : CodePoint) :: query encoded := by
  simp only [requestPath, query]
  split_ifs <;> rfl

theorem cut_requestPath (encoded : Text) :
    Text.cut '?' (requestPath encoded) = (personsPath, some (query encoded)) := by
  rw [requestPath_eq, Text.cut_append_cons (by decide)]

/-- **A sent filter reads back**, next to the flag that is always sent. -/
theorem parameters_requestPath {raw : Text} (h : raw.isEncodable = true) :
    parameters (requestPath (Percent.encode raw)) =
      [("includeTotalCount" : Text), "true"] ::
        if raw = [] then [] else [[("filter" : Text), raw]] := by
  have hflag : (Text.splitOn '=' totalFlag).map Percent.decode =
      [("includeTotalCount" : Text), "true"] := by decide +kernel
  rw [parameters, cut_requestPath, Option.getD_some, query]
  rcases eq_or_ne raw [] with rfl | hraw
  · decide +kernel
  · have hencoded : (Percent.encode raw).isEmpty = false := by
      rw [← Bool.not_eq_true, List.isEmpty_iff, Percent.encode_eq_nil_iff h]
      exact hraw
    have hequals : ('=' : CodePoint) ∉ Percent.encode raw :=
      Percent.notMem_encode (by decide) (by decide) raw
    have hampersand : ('&' : CodePoint) ∉ filterParameter (Percent.encode raw) := by
      rw [filterParameter, List.mem_append, List.mem_cons, not_or, not_or]
      exact ⟨by decide, by decide, Percent.notMem_encode (by decide) (by decide) raw⟩
    have hfilter : (Text.splitOn '=' (filterParameter (Percent.encode raw))).map Percent.decode =
        [("filter" : Text), raw] := by
      rw [filterParameter, Text.splitOn_append_cons (by decide), Text.splitOn_of_notMem hequals,
        List.map_cons, List.map_singleton, Percent.decode_encode h]
      congr 1
    rw [hencoded, if_neg Bool.false_ne_true, if_neg hraw, Text.splitOn_append_cons (by decide),
      Text.splitOn_of_notMem hampersand, List.map_cons, List.map_singleton, hflag, hfilter]

/-- Nothing in the path opens a fragment or a scheme. -/
theorem notMem_requestPath {c : CodePoint} (hpath : c ∉ requestPath [])
    (hparameter : c ∉ ("&filter=" : Text)) (hsafe : Percent.isSafe c = false)
    (hpercent : c ≠ ('%' : CodePoint)) (raw : Text) :
    c ∉ requestPath (Percent.encode raw) := by
  have hstart : requestPath [] = personsPath ++ "?includeTotalCount=true" := rfl
  rw [hstart, List.mem_append, not_or] at hpath
  simp only [requestPath, List.mem_append, not_or]
  refine ⟨hpath, ?_⟩
  split_ifs
  · exact List.not_mem_nil
  · rw [List.mem_append, not_or]
    exact ⟨hparameter, Percent.notMem_encode hsafe hpercent raw⟩

end Preview

/-- A compiled filter is sent as the encoding of its text. -/
theorem CompiledFilter.encoded_eq {attributes : List Attribute} {filter : FilterSet}
    {compiled : CompiledFilter} (h : compileFilter attributes filter = .ok compiled) :
    compiled.encoded = Percent.encode compiled.raw := by
  obtain ⟨-, hassemble⟩ := compileFilter_eq_ok_iff.mp h
  unfold assemble at hassemble
  split_ifs at hassemble
  · obtain rfl := Except.ok.inj hassemble
    rfl
  · obtain ⟨raw, -, hrest⟩ := bind_eq_ok.mp hassemble
    obtain rfl := Except.ok.inj hrest
    rfl

/-! ## The request for a path -/

namespace Url

/-- A part in which everything may stand for itself stays as it is. -/
theorem escapePart_of_forall {literal : CodePoint → Bool} {t : Text}
    (h : ∀ c ∈ t, literal c = true) : escapePart literal t = t := by
  have hone : ∀ c ∈ t, escapePart.escapeOne literal c = [c] := fun c hc => if_pos (h c hc)
  induction t using escapePart.induct with
  | case1 => rfl
  | case2 p a b rest hescape ih =>
    -- an escape that is written already keeps its three characters
    simp only [List.forall_mem_cons] at h hone
    rw [escapePart, if_pos hescape, ih h.2.2.2 hone.2.2.2]
  | case3 p a b rest hplain ih =>
    rw [List.forall_mem_cons] at h hone
    rw [escapePart, if_neg hplain, hone.1, ih h.2 hone.2, List.singleton_append]
  | case4 p rest hshort ih =>
    rw [List.forall_mem_cons] at h hone
    rw [escapePart, hone.1, ih h.2 hone.2, List.singleton_append]
    exact hshort

/-- Path and query of a normal form are those that were written, the path perhaps without its dot
segments, and escaped where that is needed. -/
theorem parts_of_normalize {w : Written} {url : Url} (h : normalize w = .ok url) :
    (url.path = escapePart (isLiteral pathEscapes) w.path ∨
      url.path = escapePart (isLiteral pathEscapes) (resolveDots w.path)) ∧
    url.query = w.query.map (escapePart (isLiteral queryEscapes)) := by
  unfold normalize at h
  simp only at h
  -- however the authority is split, path and query are treated alike
  split at h
  all_goals
    split at h
    · cases h
    · split at h
      · split_ifs at h <;> cases h
        · exact ⟨.inr rfl, rfl⟩
        · exact ⟨.inl rfl, rfl⟩
      · cases h

/-- Safe characters may stand for themselves in a query. -/
theorem isLiteral_of_isSafe {c : CodePoint} (h : Percent.isSafe c = true) :
    isLiteral queryEscapes c = true := by
  -- safe characters are below 0x80, so they can be gone through
  have htable : ∀ n < 0x80, Percent.isSafe (Fin.ofNat _ n) = true →
      isLiteral queryEscapes (Fin.ofNat _ n) = true := by
    decide +kernel
  have hc := htable c.val (Percent.val_lt_of_isSafe h)
  rw [Fin.ofNat_val_eq_self] at hc
  exact hc h

/-- Nothing in the query of a search needs an escape. -/
theorem isLiteral_of_mem_query {encoded : Text} {bytes : List UInt8}
    (h : Percent.IsSpelling encoded bytes) :
    ∀ c ∈ Preview.query encoded, isLiteral queryEscapes c = true := by
  have hencoded : ∀ c ∈ encoded, isLiteral queryEscapes c = true := by
    intro c hc
    rcases h.forall_mem c hc with hsafe | rfl
    · exact isLiteral_of_isSafe hsafe
    · decide
  have hflag : Preview.totalFlag.all (isLiteral queryEscapes) = true := by decide
  have hname : List.all ("&filter=" : Text) (isLiteral queryEscapes) = true := by decide
  intro c hc
  rcases List.mem_append.mp hc with hc | hc
  · exact List.all_eq_true.mp hflag c hc
  · split_ifs at hc
    · exact absurd hc List.not_mem_nil
    · have hc : c ∈ ("&filter=" : Text) ++ encoded := hc
      exact (List.mem_append.mp hc).elim (List.all_eq_true.mp hname c) (hencoded c)

theorem isEncodable_of_isLiteral {t escaped : Text} (h : ∀ c ∈ t, isLiteral escaped c = true) :
    t.isEncodable = true := by
  rw [Text.isEncodable_iff]
  intro c hc
  have hc := h c hc
  simp only [isLiteral, Bool.and_eq_true, decide_eq_true_eq] at hc
  rw [CodePoint.isSurrogate_eq_false_iff]
  omega

/-- A path with a query that needs no escapes is a reference as it is. -/
theorem normalize_reference {query : Text} (h : ∀ c ∈ query, isLiteral queryEscapes c = true) :
    normalize ⟨[], [], Preview.personsPath, some query, none⟩ = .ok {
      scheme := [], userinfo := [], host := [], port := none, path := Preview.personsPath
      query := some query, fragment := none } := by
  have hencodable : query.isEncodable = true := isEncodable_of_isLiteral h
  have hquery : escapePart (isLiteral queryEscapes) query = query := escapePart_of_forall h
  have hpath : escapePart (isLiteral pathEscapes) Preview.personsPath = Preview.personsPath := by
    decide +kernel
  have hplace : isPathInPlace false false Preview.personsPath = true := by decide +kernel
  have hpathEncodable : Text.isEncodable Preview.personsPath = true := by decide +kernel
  have hauthority : Text.cutLast '@' [] = (none, []) := rfl
  have hhost : cutHost [] = ([], []) := rfl
  have hnone : normalHost? [] = some [] := rfl
  have hport : normalPort? [] [] = some none := rfl
  simp only [normalize, hauthority, hhost, hnone, hport, List.isEmpty_nil, Option.isSome_none,
    Bool.not_true, Bool.or_false, hplace, hpathEncodable, Option.all_some, hencodable,
    Option.all_none, Bool.and_self, Bool.false_eq_true, if_false, Option.map_some, hquery, hpath,
    Option.map_none]
  rfl

/-- No scheme starts with a slash. -/
theorem cutScheme_slash (rest : Text) :
    cutScheme (('/' : CodePoint) :: rest) = ([], ('/' : CodePoint) :: rest) := by
  unfold cutScheme
  rcases hcut : Text.cut ':' (('/' : CodePoint) :: rest) with ⟨before, _ | after⟩
  · rfl
  · obtain ⟨heq, -⟩ := Text.cut_eq_some_iff.mp hcut
    cases before with
    | nil => exact absurd (List.cons.inj heq).1 (by decide)
    | cons c others =>
      rw [← (List.cons.inj heq).1]
      rfl

/-- The path of a search has a path and a query, and no other parts. -/
theorem split_requestPath {encoded : Text}
    (h : ∀ c ∈ Preview.query encoded, isLiteral queryEscapes c = true) :
    split (Preview.requestPath encoded) =
      ⟨[], [], Preview.personsPath, some (Preview.query encoded), none⟩ := by
  have hscheme : cutScheme (Preview.requestPath encoded) = ([], Preview.requestPath encoded) :=
    cutScheme_slash _
  have hauthority : cutAuthority (Preview.requestPath encoded) =
      ([], Preview.requestPath encoded) := rfl
  have hnumber : ('#' : CodePoint) ∉ Preview.requestPath encoded := by
    rw [Preview.requestPath_eq, List.mem_append, List.mem_cons, not_or, not_or]
    exact ⟨by decide, by decide, fun hmem => absurd (h _ hmem) (by decide)⟩
  simp only [split, hscheme, hauthority, Text.cut_of_notMem hnumber, Preview.cut_requestPath]

/-- The path of a search as a reference. -/
theorem parse_requestPath {raw : Text} {reference : Url}
    (h : parse (Preview.requestPath (Percent.encode raw)) = .ok reference) :
    reference = {
      scheme := [], userinfo := [], host := [], port := none, path := Preview.personsPath
      query := some (Preview.query (Percent.encode raw)), fragment := none } := by
  have hliteral := isLiteral_of_mem_query (Percent.isSpelling_encode raw)
  unfold parse at h
  split_ifs at h
  rw [split_requestPath hliteral, normalize_reference hliteral] at h
  exact (Except.ok.inj h).symm

end Url

namespace Connection

variable {connection : Connection} {request : Request} {raw : Text}

/-- A search is requested by appending its path to that of the base. -/
theorem normalize_of_requestTo
    (h : connection.requestTo (Preview.requestPath (Percent.encode raw)) = .ok request)
    (hbase : ('?' : CodePoint) ∉ connection.base.target) :
    ∃ scheme authority fragment, Url.normalize {
      scheme, authority, path := connection.base.target ++ "people/2/persons"
      query := some (Preview.query (Percent.encode raw)), fragment } = .ok request.url := by
  obtain ⟨reference, hparse, hrest⟩ := bind_eq_ok.mp h
  obtain ⟨url, hresolve, hrequest⟩ := bind_eq_ok.mp hrest
  obtain rfl := Except.ok.inj hrequest
  rw [Url.parse_requestPath hparse] at hresolve
  have htarget : connection.base.target ++
      ("people/2/persons" ++ ('?' : CodePoint) :: Preview.query (Percent.encode raw)) =
        (connection.base.target ++ "people/2/persons") ++
          ('?' : CodePoint) :: Preview.query (Percent.encode raw) := by
    rw [List.append_assoc]
  have hstart : ('?' : CodePoint) ∉ connection.base.target ++ ("people/2/persons" : Text) := by
    rw [List.mem_append, not_or]
    exact ⟨hbase, by decide⟩
  have hresolved : connection.base.withTarget (connection.base.target ++
      ("people/2/persons" ++ ('?' : CodePoint) :: Preview.query (Percent.encode raw))) = .ok url :=
    hresolve
  rw [Url.withTarget, htarget, Text.cut_append_cons hstart] at hresolved
  exact ⟨_, _, _, hresolved⟩

/-- **The query reaches the service as it is**, unless the base has a query of its own. -/
theorem query_of_requestTo
    (h : connection.requestTo (Preview.requestPath (Percent.encode raw)) = .ok request)
    (hbase : ('?' : CodePoint) ∉ connection.base.target) :
    request.url.query = (Text.cut '?' (Preview.requestPath (Percent.encode raw))).2 := by
  obtain ⟨_, _, _, hnormal⟩ := normalize_of_requestTo h hbase
  rw [(Url.parts_of_normalize hnormal).2, Preview.cut_requestPath, Option.map_some,
    Url.escapePart_of_forall
      (Url.isLiteral_of_mem_query (Percent.isSpelling_encode raw))]

/-- **The path reaches the service as it is** if the base has none of its own. -/
theorem target_of_requestTo
    (h : connection.requestTo (Preview.requestPath (Percent.encode raw)) = .ok request)
    (hbase : connection.base.target = "/") :
    request.url.target = Preview.requestPath (Percent.encode raw) := by
  have hmark : ('?' : CodePoint) ∉ connection.base.target := by
    rw [hbase]
    decide
  have hquery := query_of_requestTo h hmark
  rw [Preview.cut_requestPath] at hquery
  obtain ⟨_, _, _, hnormal⟩ := normalize_of_requestTo h hmark
  have hpath : request.url.path = Preview.personsPath := by
    have hwritten : connection.base.target ++ ("people/2/persons" : Text) =
        Preview.personsPath := by
      rw [hbase]
      rfl
    have hplain : Url.escapePart (Url.isLiteral Url.pathEscapes) Preview.personsPath =
        Preview.personsPath := by decide +kernel
    have hdots : Url.resolveDots Preview.personsPath = Preview.personsPath := by decide +kernel
    rcases (Url.parts_of_normalize hnormal).1 with hpath | hpath
    · rw [hpath, hwritten, hplain]
    · rw [hpath, hwritten, hdots, hplain]
  rw [Url.target, hquery, hpath, Preview.requestPath_eq]
  rfl

end Connection

end ProfileFilter
