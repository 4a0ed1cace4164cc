import ProfileFilter.Proofs.Host.Ascii
import ProfileFilter.Proofs.Number.Integer
import ProfileFilter.Proofs.Service.NormalPath

/-!
# Origins

What stays when the path of a URL is changed: the scheme, what stands before the `@`, the host and
the port it leads to. A URL with another target is read once more from its parts, so the parts must
read back. The authority that is written for a URL in normal form is split where it was put
together (`cutUserinfo_authority`, `cutHost_shownHostport`), and each part is in normal form
already, but for two details: an escape in the host is now in small letters, and a port that is the
default of the scheme is now left out even if the scheme had been written in capitals.

Main statement: `IsNormal.withTarget`.
-/

namespace ProfileFilter

/-! ## Integers -/

theorem dropUnderscores?_of_notMem {t : Text} (h : ('_' : CodePoint) ∉ t) :
    dropUnderscores? t = some t := by
  have hne : ∀ c ∈ t, (c == ('_' : CodePoint)) = false := by
    intro c hc
    rw [beq_eq_false_iff_ne]
    rintro rfl
    exact h hc
  induction t using dropUnderscores?.induct with
  | case1 => rfl
  | case2 c heq => exact absurd heq (by simp [hne c List.mem_cons_self])
  | case3 c hc => rw [dropUnderscores?, if_neg hc]
  | case4 c d rest heq => exact absurd heq (by simp [hne c List.mem_cons_self])
  | case5 c d hc hd => exact absurd hd (by simp [hne d (by simp)])
  | case6 c d rest hc hd hrest ih => exact absurd hd (by simp [hne d (by simp)])
  | case7 c d rest hc hd ih =>
    unfold dropUnderscores?
    rw [if_neg hc, if_neg hd, ih (fun hmem => h (List.mem_cons_of_mem c hmem))
      fun e he => hne e (List.mem_cons_of_mem c he)]
    rfl

theorem readPositive?_ofNat {n m : Nat} (h : Url.readPositive? (Text.ofNat n) = some m) : m = n := by
  unfold Url.readPositive? at h
  split_ifs at h
  rw [Text.readDigits_eq (Text.allDigits_ofNat n)] at h
  rw [← Option.some.inj h]
  exact Text.digitsValue_ofNat n

namespace Url

/-! ## What a normal form is -/

/-- Splits off what stands before the last `@` of an authority. -/
def cutUserinfo (authority : Text) : Text × Text :=
  match Text.cutLast '@' authority with
  | (some userinfo, rest) => (userinfo, rest)
  | (none, rest) => ([], rest)

/-- Is there anything in the authority? -/
def hasAuthority (url : Url) : Bool := !url.userinfo.isEmpty || !url.host.isEmpty || url.port.isSome

/-- Are the dot segments of the path resolved? -/
def isRooted (url : Url) : Bool := !url.scheme.isEmpty || url.hasAuthority

/-- A path as it stands in the URL, without dot segments unless the URL is a bare path. -/
def placed (url : Url) (path : Text) : Text := if url.isRooted then resolveDots path else path

/-- The URL is the normal form of the parts. -/
structure IsNormalForm (w : Written) (url : Url) : Prop where
  /-- the scheme in small letters -/
  scheme : url.scheme = w.scheme.lower
  /-- the part before the `@` can be encoded -/
  encodable : (cutUserinfo w.authority).1.isEncodable = true
  /-- and is escaped -/
  userinfo : url.userinfo = escapePart (isLiteral userinfoEscapes) (cutUserinfo w.authority).1
  /-- the normal form of the host -/
  host : normalHost? (cutHost (cutUserinfo w.authority).2).1 = some url.host
  /-- the normal form of the port -/
  port : normalPort? w.scheme (cutHost (cutUserinfo w.authority).2).2 = some url.port
  /-- the path may follow -/
  inPlace : isPathInPlace (!url.scheme.isEmpty) url.hasAuthority w.path = true
  /-- the other parts can be encoded -/
  partsEncodable : (w.path.isEncodable && w.query.all Text.isEncodable &&
    w.fragment.all Text.isEncodable) = true
  /-- the path without dot segments, escaped -/
  path : url.path = escapePart (isLiteral pathEscapes) (url.placed w.path)
  /-- the query, escaped -/
  query : url.query = w.query.map (escapePart (isLiteral queryEscapes))
  /-- the fragment, escaped -/
  fragment : url.fragment = w.fragment.map (escapePart (isLiteral fragmentEscapes))

theorem isEmpty_escapePart {literal : CodePoint → Bool} (h : KeepsEscapes literal) (t : Text) :
    (escapePart literal t).isEmpty = t.isEmpty := by
  rw [Bool.eq_iff_iff, List.isEmpty_iff, List.isEmpty_iff, escapePart_eq_nil_iff h]

theorem isEmpty_lower (t : Text) : t.lower.isEmpty = t.isEmpty := List.isEmpty_map

/-- The normal form of parts whose authority is split and whose host and port are read. -/
def assembled (w : Written) (userinfo host : Text) (port : Option Int) : Url :=
  let rooted := !w.scheme.isEmpty || (!userinfo.isEmpty || !host.isEmpty || port.isSome)
  { scheme := w.scheme.lower
    userinfo := escapePart (isLiteral userinfoEscapes) userinfo
    host
    port
    path := escapePart (isLiteral pathEscapes) (if rooted then resolveDots w.path else w.path)
    query := w.query.map (escapePart (isLiteral queryEscapes))
    fragment := w.fragment.map (escapePart (isLiteral fragmentEscapes)) }

theorem normalize_eq {w : Written} {userinfo hostport host port : Text}
    (hcut : cutUserinfo w.authority = (userinfo, hostport))
    (hhost : cutHost hostport = (host, port)) : normalize w =
      if !userinfo.isEncodable then .error .unencodable
      else
        match normalHost? host, normalPort? w.scheme port with
        | some host, some port =>
          if !isPathInPlace (!w.scheme.isEmpty)
              (!userinfo.isEmpty || !host.isEmpty || port.isSome) w.path then .error .malformed
          else if !(w.path.isEncodable && w.query.all Text.isEncodable &&
              w.fragment.all Text.isEncodable) then .error .unencodable
          else .ok (assembled w userinfo host port)
        | _, _ => .error .malformed := by
  have hlast : Text.cutLast '@' w.authority = (some userinfo, hostport) ∨
      userinfo = [] ∧ Text.cutLast '@' w.authority = (none, hostport) := by
    unfold cutUserinfo at hcut
    split at hcut <;> cases hcut
    next hlast => exact .inl hlast
    next hlast => exact .inr ⟨rfl, hlast⟩
  unfold normalize
  rcases hlast with hlast | ⟨rfl, hlast⟩
  · simp only [hlast, hhost]
    rfl
  · simp only [hlast, hhost]
    rfl

theorem hasAuthority_assembled (w : Written) (userinfo host : Text) (port : Option Int) :
    (assembled w userinfo host port).hasAuthority =
      (!userinfo.isEmpty || !host.isEmpty || port.isSome) := by
  simp only [hasAuthority, assembled, isEmpty_escapePart keepsEscapes_userinfo]

theorem path_assembled (w : Written) (userinfo host : Text) (port : Option Int) :
    (assembled w userinfo host port).path =
      escapePart (isLiteral pathEscapes) ((assembled w userinfo host port).placed w.path) := by
  have hrooted : (assembled w userinfo host port).isRooted =
      (!w.scheme.isEmpty || (!userinfo.isEmpty || !host.isEmpty || port.isSome)) := by
    rw [isRooted, hasAuthority_assembled, ← isEmpty_lower w.scheme]
    rfl
  rw [placed, hrooted]
  rfl

/-- What is read is the normal form of the parts. -/
theorem isNormalForm_of_normalize {w : Written} {url : Url} (h : normalize w = .ok url) :
    IsNormalForm w url := by
  obtain ⟨userinfo, hostport, hcut⟩ : ∃ u h, cutUserinfo w.authority = (u, h) := ⟨_, _, rfl⟩
  obtain ⟨host, port, hhost⟩ : ∃ h p, cutHost hostport = (h, p) := ⟨_, _, rfl⟩
  rw [normalize_eq hcut hhost] at h
  split at h
  · cases h
  next hencodable =>
    split at h
    next host' port' hhost' hport' =>
      split at h
      · cases h
      next hplace =>
        split at h
        · cases h
        next hparts =>
          simp only [Bool.not_eq_true', Bool.not_eq_false] at hencodable hplace hparts
          obtain rfl := Except.ok.inj h
          refine ⟨rfl, ?_, ?_, ?_, ?_, ?_, hparts, ?_, rfl, rfl⟩
          · rw [hcut]
            exact hencodable
          · rw [hcut]
            rfl
          · rw [hcut, hhost]
            exact hhost'
          · rw [hcut, hhost]
            exact hport'
          · rw [hasAuthority_assembled]
            exact (congrArg (fun b => isPathInPlace (!b) _ w.path) (isEmpty_lower _)).trans hplace
          · exact path_assembled w userinfo host' port'
    · cases h

/-- Parts that have a normal form are read. -/
theorem IsNormalForm.normalize_eq_ok {w : Written} {url : Url} (h : IsNormalForm w url) :
    normalize w = .ok url := by
  obtain ⟨userinfo, hostport, hcut⟩ : ∃ u h, cutUserinfo w.authority = (u, h) := ⟨_, _, rfl⟩
  obtain ⟨host, port, hhost⟩ : ∃ h p, cutHost hostport = (h, p) := ⟨_, _, rfl⟩
  have hencodable := h.encodable
  have hnormalHost := h.host
  have hnormalPort := h.port
  have huserinfo := h.userinfo
  rw [hcut] at hencodable hnormalHost hnormalPort huserinfo
  rw [hhost] at hnormalHost hnormalPort
  have hauthority : url.hasAuthority =
      (!userinfo.isEmpty || !url.host.isEmpty || url.port.isSome) := by
    rw [hasAuthority, huserinfo, isEmpty_escapePart keepsEscapes_userinfo]
  have hplace := h.inPlace
  rw [hauthority, h.scheme, isEmpty_lower] at hplace
  have hpath := h.path
  rw [placed, isRooted, hauthority, h.scheme, isEmpty_lower] at hpath
  have hurl : assembled w userinfo url.host url.port = url := by
    rw [assembled, ← h.scheme, ← huserinfo, ← hpath, ← h.query, ← h.fragment]
  rw [normalize_eq hcut hhost, hnormalHost, hnormalPort]
  simp only [hencodable, hplace, h.partsEncodable, Bool.not_true, Bool.false_eq_true, if_false]
  exact congrArg Except.ok hurl

/-- Reading succeeds exactly with the normal form of the parts. -/
theorem normalize_eq_ok_iff {w : Written} {url : Url} :
    normalize w = .ok url ↔ IsNormalForm w url :=
  ⟨isNormalForm_of_normalize, IsNormalForm.normalize_eq_ok⟩

/-! ## Hosts in normal form -/

/-- A host in normal form: everything in it may stand for itself, or it is an address in groups,
which is written between brackets. -/
inductive IsNormalHost (host : Text) : Prop where
  /-- everything stands for itself -/
  | plain : (∀ c ∈ host, isHostLiteral c = true) → IsNormalHost host
  /-- an address in groups, with a zone that holds no `@` -/
  | grouped : Address.isGrouped host = true → ('@' : CodePoint) ∉ host → IsNormalHost host

theorem isHostLiteral_of_isAsciiDigit {c : CodePoint} (h : c.isAsciiDigit = true) :
    isHostLiteral c = true := by
  rw [isHostLiteral, h, Bool.or_true, Bool.true_or]

/-- The marks of hosts are below U+0080, so what may stand for itself can be gone through. -/
theorem isAscii_of_isHostLiteral {c : CodePoint} (h : isHostLiteral c = true) :
    c.isAscii = true := by
  have hmarks : ∀ c ∈ hostMarks, c.isAscii = true := by
    have hall : hostMarks.all CodePoint.isAscii = true := by decide
    exact List.all_eq_true.mp hall
  simp only [isHostLiteral, CodePoint.isAsciiLetter, CodePoint.isAsciiUpper,
    CodePoint.isAsciiLower, CodePoint.isAsciiDigit, Bool.or_eq_true, Bool.and_eq_true,
    decide_eq_true_eq, List.contains_iff_mem] at h
  rcases h with h | h
  · rw [CodePoint.isAscii, decide_eq_true_eq]
    omega
  · exact hmarks c h

theorem isHostLiteral_toLower {c : CodePoint} (h : isHostLiteral c = true) :
    isHostLiteral c.toLower = true := by
  have htable : ∀ n < 128, isHostLiteral (Fin.ofNat _ n) = true →
      isHostLiteral (CodePoint.toLower (Fin.ofNat _ n)) = true := by
    decide +kernel
  have hc := htable c.val (of_decide_eq_true (isAscii_of_isHostLiteral h))
  rw [Fin.ofNat_val_eq_self] at hc
  exact hc h

theorem isHostLiteral_of_mem_lower {host : Text} (h : ∀ c ∈ host, isHostLiteral c = true) :
    ∀ c ∈ host.lower, isHostLiteral c = true := by
  intro c hc
  obtain ⟨d, hd, rfl⟩ := List.mem_map.mp hc
  exact isHostLiteral_toLower (h d hd)

theorem toLower_toLower (c : CodePoint) : c.toLower.toLower = c.toLower := by
  unfold CodePoint.toLower
  split
  next h =>
    simp only [CodePoint.isAsciiUpper, Bool.and_eq_true, decide_eq_true_eq] at h
    have hval : (Fin.ofNat 0x110000 (c.val + 32)).val = c.val + 32 := Nat.mod_eq_of_lt (by omega)
    refine if_neg ?_
    simp only [CodePoint.isAsciiUpper, hval, Bool.and_eq_true, decide_eq_true_eq]
    omega
  · rfl

theorem lower_lower (t : Text) : t.lower.lower = t.lower := by
  rw [Text.lower, Text.lower, List.map_map]
  exact List.map_congr_left fun c _ => toLower_toLower c

/-- An address of four bytes is made of digits and dots. -/
theorem isHostLiteral_of_isFourBytes {host : Text} (h : Address.isFourBytes host = true) :
    ∀ c ∈ host, isHostLiteral c = true := by
  simp only [Address.isFourBytes, Bool.and_eq_true, List.all_eq_true] at h
  intro c hc
  rw [← Text.join_splitOn '.' host] at hc
  rcases Text.mem_join hc with hdot | ⟨part, hpart, hc⟩
  · rw [List.mem_singleton.mp hdot]
    decide
  · have hbyte := h.2 part hpart
    simp only [Address.isByte, Bool.and_eq_true, List.all_eq_true] at hbyte
    exact isHostLiteral_of_isAsciiDigit (hbyte.1.1.2 c hc)

theorem isHostLiteral_of_ascii? {host form : Text} (h : Host.ascii? host = some form) :
    ∀ c ∈ form, isHostLiteral c = true := by
  intro c hc
  rcases Host.forall_mem_ascii? h c hc with (hletter | hdigit | rfl) | rfl
  · rw [isHostLiteral, hletter, Bool.true_or, Bool.true_or]
  · exact isHostLiteral_of_isAsciiDigit hdigit
  · decide
  · decide

/-- The groups of an address stand between colons. -/
theorem colon_mem_of_isGrouped {host : Text} (h : Address.isGrouped host = true) :
    (':' : CodePoint) ∈ host := by
  by_contra hcolon
  have haddress : (':' : CodePoint) ∉ (Text.cut '%' host).1 := mt Text.mem_of_mem_cut hcolon
  have hnone : Address.groups? (Text.cut '%' host).1 = none := by
    simp only [Address.groups?, Text.splitOn_of_notMem haddress, List.length_singleton]
    exact if_pos (by decide)
  simp [Address.isGrouped, hnone] at h

/-- The normal form of a host is one, as long as no `@` is in the host. -/
theorem isNormalHost_of_normalHost? {written host : Text} (h : normalHost? written = some host)
    (hat : ('@' : CodePoint) ∉ written) : IsNormalHost host := by
  unfold normalHost? at h
  split_ifs at h with hempty hnumeric hbytes hbrackets
  · cases h
    exact .plain fun c hc => absurd hc List.not_mem_nil
  · cases h
    exact .plain (isHostLiteral_of_isFourBytes hbytes)
  · simp only at h
    split_ifs at h with hgrouped
    cases h
    refine .grouped hgrouped fun hmem => hat ?_
    exact List.mem_of_mem_drop (List.mem_of_mem_dropLast hmem)
  · cases h
    exact .plain (literal_of_mem_escapePart keepsEscapes_host)
  · exact .plain (isHostLiteral_of_ascii? h)

/-- A host as it is written in an authority. -/
def shownHost (host : Text) : Text := if host.contains ':' then "[" ++ host ++ "]" else host

theorem shownHost_of_forall {host : Text} (h : ∀ c ∈ host, isHostLiteral c = true) :
    shownHost host = host :=
  if_neg fun hcolon => absurd (h _ (List.contains_iff_mem.mp hcolon)) (by decide)

theorem shownHost_of_isGrouped {host : Text} (h : Address.isGrouped host = true) :
    shownHost host = ('[' : CodePoint) :: (host ++ ("]" : Text)) :=
  if_pos (List.contains_iff_mem.mpr (colon_mem_of_isGrouped h))

/-- A host in which everything stands for itself reads back. -/
theorem lower_of_normalHost? {host again : Text} (hliteral : ∀ c ∈ host, isHostLiteral c = true)
    (h : normalHost? host = some again) : again.lower = host.lower := by
  unfold normalHost? at h
  split_ifs at h with hempty hnumeric hbytes hbrackets hascii
  · cases h
    rw [List.isEmpty_iff.mp hempty]
  · cases h
    rfl
  · simp only [Bool.and_eq_true, beq_iff_eq] at hbrackets
    exact absurd (hliteral _ (List.mem_of_mem_head? hbrackets.1.1)) (by decide)
  · cases h
    rw [escapePart_of_forall (isHostLiteral_of_mem_lower hliteral), lower_lower]
  · exact absurd (List.all_eq_true.mpr fun c hc => isAscii_of_isHostLiteral (hliteral c hc)) hascii

/-- An address in groups reads back from between its brackets. -/
theorem normalHost?_of_isGrouped {host : Text} (h : Address.isGrouped host = true) :
    normalHost? (('[' : CodePoint) :: (host ++ ("]" : Text))) = some host := by
  have hnumeric : Address.looksNumeric 3 (('[' : CodePoint) :: (host ++ ("]" : Text))) = false :=
    rfl
  have hlast : (('[' : CodePoint) :: (host ++ ("]" : Text))).getLast? = some (']' : CodePoint) :=
    List.getLast?_concat (l := ('[' : CodePoint) :: host)
  have hlength : (('[' : CodePoint) :: (host ++ ("]" : Text))).length ≥ 2 := by
    rw [List.length_cons, List.length_append]
    exact Nat.le_add_left 2 host.length
  have hbrackets : ((('[' : CodePoint) :: (host ++ ("]" : Text))).head? ==
        some ('[' : CodePoint) &&
      (('[' : CodePoint) :: (host ++ ("]" : Text))).getLast? == some (']' : CodePoint) &&
      decide ((('[' : CodePoint) :: (host ++ ("]" : Text))).length ≥ 2)) = true := by
    rw [hlast, decide_eq_true hlength]
    simp
  have hinside : ((('[' : CodePoint) :: (host ++ ("]" : Text))).drop 1).dropLast = host :=
    List.dropLast_concat
  unfold normalHost?
  simp only [List.isEmpty_cons, hnumeric, Bool.false_eq_true, if_false, hinside, h, if_true]
  exact if_pos hbrackets

/-- **A host in normal form reads back**, perhaps with escapes in small letters. -/
theorem IsNormalHost.lower_eq {host again : Text} (h : IsNormalHost host)
    (hagain : normalHost? (shownHost host) = some again) : again.lower = host.lower := by
  cases h with
  | plain hliteral =>
    rw [shownHost_of_forall hliteral] at hagain
    exact lower_of_normalHost? hliteral hagain
  | grouped hgrouped _ =>
    rw [shownHost_of_isGrouped hgrouped, normalHost?_of_isGrouped hgrouped] at hagain
    rw [Option.some.inj hagain]

/-! ## Ports -/

/-- A port as it is written in an authority. -/
def shownPort : Option Int → Text
  | some n => ":" ++ Text.ofInt n
  | none => []

theorem notMem_shownPort {c : CodePoint} (hcolon : c ≠ (':' : CodePoint))
    (hdigit : c.isAsciiDigit = false) (hminus : c ≠ ('-' : CodePoint)) (port : Option Int) :
    c ∉ shownPort port := by
  cases port with
  | none => exact List.not_mem_nil
  | some n =>
    rw [shownPort, List.mem_append, not_or]
    exact ⟨fun hmem => hcolon (List.mem_singleton.mp hmem), notMem_ofInt hdigit hminus n⟩

/-- The digits of an integer read back, unless it is the default port of the scheme. -/
theorem normalPort?_ofInt {scheme : Text} {n : Int} {port : Option Int}
    (h : normalPort? scheme (Text.ofInt n) = some port) :
    port = if defaultPorts.lookup scheme == some n then none else some n := by
  have hmarks : ('_' : CodePoint) ∉ Text.ofNat n.natAbs := fun hmem =>
    absurd (Text.allDigits_ofNat _ _ hmem) (by decide)
  unfold normalPort? at h
  split_ifs at h with hempty
  · exact absurd (List.isEmpty_iff.mp hempty) (Text.ofInt_ne_nil n)
  · rw [trim_ofInt, splitSign_ofInt] at h
    simp only [dropUnderscores?_of_notMem hmarks, Option.bind_some] at h
    split at h
    next m hm =>
      rw [readPositive?_ofNat hm, signedInt_natAbs] at h
      exact (Option.some.inj h).symm
    · cases h

/-- The port a URL leads to: its own, or the default of its scheme. -/
def effectivePort (url : Url) : Option Int := url.port <|> defaultPorts.lookup url.scheme

/-! ## Authorities -/

/-- The last part of the authority of a URL, as it is written. -/
def shownHostport (url : Url) : Text := shownHost url.host ++ shownPort url.port

/-- Two URLs lead to the same place up to their paths. -/
structure SameOrigin (url other : Url) : Prop where
  /-- the same scheme -/
  scheme : other.scheme = url.scheme
  /-- the same before the `@` -/
  userinfo : other.userinfo = url.userinfo
  /-- the same host, up to the case of escapes -/
  host : other.host.lower = url.host.lower
  /-- the same port -/
  port : other.effectivePort = url.effectivePort

theorem authority_eq (url : Url) : url.authority =
    (if url.userinfo.isEmpty then [] else url.userinfo ++ ("@" : Text)) ++ url.shownHostport := by
  have hport : shownPort url.port = match url.port with
      | some n => ":" ++ Text.ofInt n
      | none => [] := by
    cases url.port <;> rfl
  rw [authority, shownHostport, hport, shownHost]
  exact List.append_assoc _ _ _

/-- A URL in normal form. -/
structure IsNormal (url : Url) : Prop where
  /-- the scheme is in small letters -/
  scheme : url.scheme.lower = url.scheme
  /-- nothing needs an escape before the `@` -/
  userinfo : ∀ c ∈ url.userinfo, isLiteral userinfoEscapes c = true
  /-- the host is in normal form -/
  host : IsNormalHost url.host
  /-- nothing needs an escape in the path -/
  path : ∀ c ∈ url.path, isLiteral pathEscapes c = true
  /-- the path has no dot segments, unless the URL is a bare path -/
  noDots : url.isRooted = true → NoDots url.path

theorem at_notMem_cutUserinfo (authority : Text) :
    ('@' : CodePoint) ∉ (cutUserinfo authority).2 := by
  unfold cutUserinfo
  split
  next hcut => exact (Text.cutLast_eq_some_iff.mp hcut).2
  next hcut =>
    obtain ⟨rfl, hat⟩ := Text.cutLast_eq_none_iff.mp hcut
    exact hat

/-- Splits the host off; brackets hide the colons between them. -/
def takeHost (t : Text) : Text × Text :=
  let plain : Text × Text :=
    (t.takeWhile fun (c : CodePoint) => c != ':' && c != '@',
      t.dropWhile fun (c : CodePoint) => c != ':' && c != '@')
  if t.head? == some '[' then
    match Text.cutLast ']' t with
    | (some inside, rest) => (inside ++ "]", rest)
    | (none, _) => plain
  else plain

/-- What follows a host without the colon it may start with. -/
def dropColon : Text → Text
  | c :: after => if c == ':' then after else c :: after
  | [] => []

theorem cutHost_eq (t : Text) : cutHost t = ((takeHost t).1, dropColon (takeHost t).2) := by
  have hcolon : ∀ p : Text × Text, (match p.2 with
      | c :: after => if c == ':' then (p.1, after) else (p.1, p.2)
      | [] => (p.1, [])) = (p.1, dropColon p.2) := by
    rintro ⟨host, _ | ⟨c, after⟩⟩
    · rfl
    · simp only [dropColon]
      split <;> rfl
  exact hcolon (takeHost t)

theorem append_takeHost (t : Text) : (takeHost t).1 ++ (takeHost t).2 = t := by
  simp only [takeHost]
  split
  · split
    next hcut =>
      rw [(Text.cutLast_eq_some_iff.mp hcut).1, List.append_assoc]
      rfl
    · exact List.takeWhile_append_dropWhile
  · exact List.takeWhile_append_dropWhile

theorem mem_of_mem_cutHost {t : Text} {c : CodePoint} (h : c ∈ (cutHost t).1) : c ∈ t := by
  rw [cutHost_eq] at h
  rw [← append_takeHost t]
  exact List.mem_append_left _ h

/-- What is read is in normal form. -/
theorem IsNormalForm.isNormal {w : Written} {url : Url} (h : IsNormalForm w url) :
    url.IsNormal where
  scheme := by rw [h.scheme, lower_lower]
  userinfo := by
    rw [h.userinfo]
    exact literal_of_mem_escapePart keepsEscapes_userinfo
  host := isNormalHost_of_normalHost? h.host
    fun hat => at_notMem_cutUserinfo w.authority (mem_of_mem_cutHost hat)
  path := by
    rw [h.path]
    exact literal_of_mem_escapePart keepsEscapes_path
  noDots := fun hrooted => by
    rw [h.path, placed, if_pos hrooted]
    exact (noDots_resolveDots w.path).escapePart keepsEscapes_path (by decide) (by decide)

/-- A host in which everything stands for itself ends at the first colon. -/
theorem takeHost_of_forall {host : Text} (hliteral : ∀ c ∈ host, isHostLiteral c = true)
    (port : Option Int) : takeHost (host ++ shownPort port) = (host, shownPort port) := by
  have hinside : ∀ c ∈ host, (c != ':' && c != '@') = true := by
    intro c hc
    rw [Bool.and_eq_true, bne_iff_ne, bne_iff_ne]
    constructor
    all_goals
      rintro rfl
      exact absurd (hliteral _ hc) (by decide)
  have hopen : ((host ++ shownPort port).head? == some ('[' : CodePoint)) = false := by
    cases host with
    | nil => cases port <;> rfl
    | cons c rest =>
      have hc : isHostLiteral c = true := hliteral c List.mem_cons_self
      refine beq_eq_false_iff_ne.mpr fun heq => ?_
      rw [Option.some.inj heq] at hc
      exact absurd hc (by decide)
  have hplain : takeHost (host ++ shownPort port) =
      ((host ++ shownPort port).takeWhile fun (c : CodePoint) => c != ':' && c != '@',
        (host ++ shownPort port).dropWhile fun (c : CodePoint) => c != ':' && c != '@') := by
    unfold takeHost
    exact if_neg (Bool.eq_false_iff.mp hopen)
  rw [hplain, List.takeWhile_append_of_pos hinside, List.dropWhile_append_of_pos hinside]
  cases port with
  | none => exact congrArg (·, []) (List.append_nil host)
  | some n => exact congrArg (·, _) (List.append_nil host)

/-- A host between brackets ends at the last one. -/
theorem takeHost_brackets (host : Text) (port : Option Int) :
    takeHost (('[' : CodePoint) :: (host ++ ("]" : Text)) ++ shownPort port) =
      (('[' : CodePoint) :: (host ++ ("]" : Text)), shownPort port) := by
  have hclose : (']' : CodePoint) ∉ shownPort port :=
    notMem_shownPort (by decide) (by decide) (by decide) port
  have hcut : Text.cutLast ']' (('[' : CodePoint) :: (host ++ ("]" : Text)) ++ shownPort port) =
      (some (('[' : CodePoint) :: host), shownPort port) := by
    have hsplit : ('[' : CodePoint) :: (host ++ ("]" : Text)) ++ shownPort port =
        (('[' : CodePoint) :: host) ++ (']' : CodePoint) :: shownPort port := by
      rw [List.cons_append, List.append_assoc]
      rfl
    rw [hsplit, Text.cutLast_append_cons hclose]
  unfold takeHost
  simp only [hcut]
  exact if_pos (beq_self_eq_true _)

section Authority

variable {url : Url} (h : url.IsNormal)

include h

theorem at_notMem_shownHostport : ('@' : CodePoint) ∉ url.shownHostport := by
  have hport : ('@' : CodePoint) ∉ shownPort url.port :=
    notMem_shownPort (by decide) (by decide) (by decide) url.port
  have hhost : ('@' : CodePoint) ∉ url.host := by
    cases h.host with
    | plain hliteral => exact fun hmem => absurd (hliteral _ hmem) (by decide)
    | grouped _ hat => exact hat
  rw [shownHostport, List.mem_append, not_or]
  refine ⟨?_, hport⟩
  unfold shownHost
  split
  · rw [List.mem_append, List.mem_append, not_or, not_or]
    exact ⟨⟨by decide, hhost⟩, by decide⟩
  · exact hhost

/-- The authority of a URL in normal form is split where it was put together. -/
theorem cutUserinfo_authority :
    cutUserinfo url.authority = (url.userinfo, url.shownHostport) := by
  have hat := at_notMem_shownHostport h
  rw [authority_eq]
  split
  next hempty =>
    rw [List.nil_append, cutUserinfo, Text.cutLast_of_notMem hat, List.isEmpty_iff.mp hempty]
  · rw [List.append_assoc, cutUserinfo]
    have hcut : Text.cutLast '@' (url.userinfo ++ (("@" : Text) ++ url.shownHostport)) =
        (some url.userinfo, url.shownHostport) :=
      Text.cutLast_append_cons hat
    rw [hcut]

theorem takeHost_shownHostport :
    takeHost url.shownHostport = (shownHost url.host, shownPort url.port) := by
  cases h.host with
  | plain hliteral =>
    rw [shownHostport, shownHost_of_forall hliteral]
    exact takeHost_of_forall hliteral url.port
  | grouped hgrouped _ =>
    rw [shownHostport, shownHost_of_isGrouped hgrouped]
    exact takeHost_brackets url.host url.port

theorem cutHost_shownHostport :
    cutHost url.shownHostport = (shownHost url.host, (shownPort url.port).drop 1) := by
  rw [cutHost_eq, takeHost_shownHostport h]
  cases url.port <;> rfl

end Authority

/-! ## Another target -/

/-- Without a scheme no port is the default one. -/
theorem SameOrigin.port_eq {url other : Url} (h : url.SameOrigin other) (hscheme : url.scheme = []) :
    other.port = url.port := by
  have hport := h.port
  have hnone : ∀ port : Option Int, (port <|> defaultPorts.lookup []) = port := by
    intro port
    cases port <;> rfl
  rwa [effectivePort, effectivePort, h.scheme, hscheme, hnone, hnone] at hport

theorem SameOrigin.isRooted_eq {url other : Url} (h : url.SameOrigin other) :
    other.isRooted = url.isRooted := by
  have hhost : other.host.isEmpty = url.host.isEmpty := by
    rw [← isEmpty_lower, h.host, isEmpty_lower]
  rw [isRooted, isRooted, hasAuthority, hasAuthority, h.scheme, h.userinfo, hhost]
  rcases eq_or_ne url.scheme [] with hscheme | hscheme
  · rw [h.port_eq hscheme]
  · rw [List.isEmpty_eq_false_iff.mpr hscheme]
    rfl

theorem SameOrigin.placed_eq {url other : Url} (h : url.SameOrigin other) (path : Text) :
    other.placed path = url.placed path := by
  rw [placed, placed, h.isRooted_eq]

theorem SameOrigin.trans {first second third : Url} (h : first.SameOrigin second)
    (h' : second.SameOrigin third) : first.SameOrigin third where
  scheme := h'.scheme.trans h.scheme
  userinfo := h'.userinfo.trans h.userinfo
  host := h'.host.trans h.host
  port := h'.port.trans h.port

theorem SameOrigin.refl (url : Url) : url.SameOrigin url := ⟨rfl, rfl, rfl, rfl⟩

/-- **With another target a URL stays at its origin.** Path and query are those of the target,
brought into normal form. -/
theorem IsNormal.withTarget {url moved : Url} {target : Text} (h : url.IsNormal)
    (hmoved : url.withTarget target = .ok moved) :
    url.SameOrigin moved ∧ moved.IsNormal ∧
      moved.path = escapePart (isLiteral pathEscapes) (url.placed (Text.cut '?' target).1) ∧
      moved.query = (Text.cut '?' target).2.map (escapePart (isLiteral queryEscapes)) ∧
      moved.fragment = url.fragment.map (escapePart (isLiteral fragmentEscapes)) := by
  have hform : IsNormalForm ⟨url.scheme, url.authority, (Text.cut '?' target).1,
      (Text.cut '?' target).2, url.fragment⟩ moved := normalize_eq_ok_iff.mp hmoved
  have hhost := hform.host
  have hport := hform.port
  rw [cutUserinfo_authority h, cutHost_shownHostport h] at hhost hport
  have hscheme : moved.scheme = url.scheme := hform.scheme.trans h.scheme
  have horigin : url.SameOrigin moved := by
    refine ⟨hscheme, ?_, h.host.lower_eq hhost, ?_⟩
    · rw [hform.userinfo, cutUserinfo_authority h]
      exact escapePart_of_forall h.userinfo
    · rw [effectivePort, effectivePort, hscheme]
      cases hown : url.port with
      | none =>
        rw [hown] at hport
        rw [← Option.some.inj (show some none = some moved.port from hport)]
      | some n =>
        rw [hown] at hport
        rw [normalPort?_ofInt (show normalPort? url.scheme (Text.ofInt n) = _ from hport)]
        split
        next hdefault => exact beq_iff_eq.mp hdefault
        · rfl
  refine ⟨horigin, hform.isNormal, ?_, hform.query, hform.fragment⟩
  rw [hform.path, horigin.placed_eq]

end Url

end ProfileFilter
