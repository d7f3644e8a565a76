import QueryGateway.Proofs.Routing.Selection

/-!
# The grammar of addresses

A text is an address exactly if it is rooted and each of its parts is a placeholder or has none
of the characters with a meaning in route paths. The route path of an address is the text with
its braces replaced, and the address can be read back from it, so different addresses never have
the same route path.
-/

namespace QueryGateway

/-- The library splits a text in the same way. -/
theorem Text.splitAt_eq_splitOn (sep : Char) (s : List Char) :
    Text.splitAt sep s = s.splitOn sep := by
  rw [Text.splitAt, List.splitOn]
  induction s with
  | nil => rfl
  | cons c s ih =>
    rw [Text.pieces, List.splitOnP_cons_eq_if_modifyHead, ← ih]
    split
    · rfl
    · obtain ⟨part, parts, hparts⟩ := List.exists_cons_of_ne_nil (Text.pieces_ne_nil (· == sep) s)
      rw [hparts]
      rfl

/-! ## What is an address -/

namespace Url

/-- The parts of addresses: the placeholders, which are names in braces, and the texts without
a character that has a meaning in route paths. -/
inductive IsPart : List Char → Prop
  | placeholder {name : List Char} (hne : name ≠ [])
    (hname : ∀ c ∈ name, c.isAlphanum = true ∨ c = '_') : IsPart ('\x7b' :: name ++ ['\x7d'])
  | plain {text : List Char}
    (htext : ∀ c ∈ text, c ≠ '\x7b' ∧ c ≠ '\x7d' ∧ c ≠ ':' ∧ c ≠ '*') : IsPart text

/-- Whether a text is an address: it is rooted, and what stands between slashes are parts. -/
def IsAddress (url : List Char) : Prop :=
  ∃ rest, url = '/' :: rest ∧ ∀ part ∈ rest.splitOn '/', IsPart part

end Url

namespace Segment

variable {s : Segment} {part name : List Char} {c : Char}

theorem isNameChar_iff : isNameChar c = true ↔ c.isAlphanum = true ∨ c = '_' := by
  have hupper : Text.isAsciiUpper c = c.isUpper := (Bool.decide_and _ _).symm
  have hlower : Text.isAsciiLower c = c.isLower := rfl
  have hdigit : Text.isAsciiDigit c = c.isDigit := rfl
  rw [isNameChar, Text.isAsciiAlphanumeric, hupper, hlower, hdigit, Bool.or_eq_true, beq_iff_eq]
  rfl

theorem isMark_eq_false_iff :
    isMark c = false ↔ c ≠ '\x7b' ∧ c ≠ '\x7d' ∧ c ≠ ':' ∧ c ≠ '*' := by
  simp [isMark, and_assoc]

theorem inBraces?_eq_some_iff : inBraces? part = some name ↔ part = '\x7b' :: name ++ ['\x7d'] := by
  simp [inBraces?, Option.bind_eq_some_iff, Text.dropPrefix?_eq_some_iff,
    Text.dropSuffix?_eq_some_iff]

/-- The parts that are read as segments are the texts of well-formed segments. -/
theorem parse_eq_ok_iff (hpart : '/' ∉ part) :
    parse part = .ok s ↔ s.WellFormed ∧ s.urlText = part := by
  constructor
  · intro h
    refine ⟨wellFormed_of_parse hpart h, ?_⟩
    rw [parse] at h
    split at h
    · next name hbraces =>
      split at h
      · obtain rfl := Except.ok.inj h
        exact (inBraces?_eq_some_iff.mp hbraces).symm
      · cases h
    · split at h
      · cases h
      · obtain rfl := Except.ok.inj h
        rfl
  · rintro ⟨hs, rfl⟩
    cases s with
    | literal text =>
      have hbraces : inBraces? text = none := by
        refine Option.eq_none_iff_forall_ne_some.mpr fun name hname => ?_
        have hbrace := hs.2 '\x7b' (by simp [inBraces?_eq_some_iff.mp hname])
        cases hbrace
      have hmarks : text.any isMark = false := by simpa using hs.2
      rw [urlText, parse, hbraces, hmarks]
      rfl
    | capture name =>
      have hname : (!name.isEmpty && name.all isNameChar) = true := by
        simpa using ⟨hs.1, hs.2⟩
      rw [urlText, parse, inBraces?_eq_some_iff.mpr rfl]
      exact if_pos hname

/-- A text between slashes is a part of an address exactly if it is read as a segment. -/
theorem exists_parse_iff (hpart : '/' ∉ part) :
    (∃ s, parse part = .ok s) ↔ Url.IsPart part := by
  simp only [parse_eq_ok_iff hpart]
  constructor
  · rintro ⟨s, hs, rfl⟩
    cases s with
    | literal text => exact .plain fun c hc => isMark_eq_false_iff.mp (hs.2 c hc)
    | capture name => exact .placeholder hs.1 fun c hc => isNameChar_iff.mp (hs.2 c hc)
  · intro h
    cases h with
    | placeholder hne hname =>
      exact ⟨capture _, ⟨hne, fun c hc => isNameChar_iff.mpr (hname c hc)⟩, rfl⟩
    | plain htext =>
      exact ⟨literal _, ⟨hpart, fun c hc => isMark_eq_false_iff.mpr (htext c hc)⟩, rfl⟩

end Segment

namespace Url

variable {url : List Char} {segments : List Segment}

/-- A text is read as an address exactly if it is one. -/
theorem exists_parse_iff : (∃ segments, parse url = .ok segments) ↔ IsAddress url := by
  unfold parse
  split
  · next rest =>
    rw [exists_mapM_eq_ok_iff]
    simp only [IsAddress, List.cons.injEq, true_and, exists_eq_left', ← Text.splitAt_eq_splitOn]
    exact forall₂_congr fun part hpart =>
      Segment.exists_parse_iff (Text.notMem_of_mem_splitAt hpart)
  · next hroot =>
    constructor
    · rintro ⟨segments, h⟩
      cases h
    · rintro ⟨rest, rfl, -⟩
      exact absurd rfl (hroot rest)

/-- Splitting the rest of a rooted path is undone by joining. -/
theorem joinPath_splitAt (rest : List Char) : joinPath (Text.splitAt '/' rest) = '/' :: rest := by
  induction rest with
  | nil => rfl
  | cons c rest ih =>
    by_cases hc : c = '/'
    · subst hc
      rw [Text.splitAt_cons_sep, joinPath, List.flatMap_cons, ← joinPath, ih]
      rfl
    · obtain ⟨part, parts, hsplit⟩ :=
        List.exists_cons_of_ne_nil (Text.pieces_ne_nil (· == '/') rest)
      have hparts : Text.splitAt '/' rest = part :: parts := hsplit
      rw [hparts, joinPath, List.flatMap_cons, List.cons_append, List.cons.injEq] at ih
      rw [Text.splitAt_cons_of_ne hc hparts, joinPath, List.flatMap_cons, ← ih.2]
      rfl

/-- An address is written as its segments are. -/
theorem eq_joinPath_of_parse (h : parse url = .ok segments) :
    url = joinPath (segments.map Segment.urlText) := by
  unfold parse at h
  split at h
  · next rest =>
    have hparts : segments.map Segment.urlText = Text.splitAt '/' rest := by
      refine map_eq_of_mapM h fun part hpart s hs => ?_
      exact ((Segment.parse_eq_ok_iff (Text.notMem_of_mem_splitAt hpart)).mp hs).2
    rw [hparts, joinPath_splitAt]
  · cases h

/-! ## Route paths -/

/-- An address with its braces replaced: the opening ones become colons, and the closing ones
are left out. -/
def withCaptures (url : List Char) : List Char :=
  (url.map fun c => if c = '\x7b' then ':' else c).filter (· ≠ '\x7d')

/-- What a part of a route path stands for: a colon begins the name of a placeholder, and any
other part stands for itself. -/
def standsFor : List Char → List Char
  | ':' :: name => '\x7b' :: name ++ ['\x7d']
  | part => part

/-- The address that is read back from a route path. -/
def addressOf (route : String) : String :=
  String.ofList (List.intercalate ['/'] ((route.toList.splitOn '/').map standsFor))

theorem withCaptures_append (s t : List Char) :
    withCaptures (s ++ t) = withCaptures s ++ withCaptures t := by
  simp [withCaptures]

/-- A text without braces stays as it is. -/
theorem withCaptures_eq_self (htext : ∀ c ∈ text, c ≠ '\x7b' ∧ c ≠ '\x7d') :
    withCaptures text = text := by
  have hmap : text.map (fun c => if c = '\x7b' then ':' else c) = text.map id :=
    List.map_congr_left fun c hc => if_neg (htext c hc).1
  rw [withCaptures, hmap, List.map_id, List.filter_eq_self]
  exact fun c hc => decide_eq_true (htext c hc).2

/-- The braces of a path are replaced part by part. -/
theorem withCaptures_joinPath (parts : List (List Char)) :
    withCaptures (joinPath parts) = joinPath (parts.map withCaptures) := by
  induction parts with
  | nil => rfl
  | cons part parts ih =>
    have hjoin (part : List Char) (parts : List (List Char)) :
        joinPath (part :: parts) = ['/'] ++ (part ++ joinPath parts) := rfl
    rw [hjoin, List.map_cons, hjoin, withCaptures_append, withCaptures_append, ih]
    rfl

end Url

namespace Segment

variable {s : Segment}

/-- The text of a well-formed segment in an address has no slash. -/
theorem WellFormed.notMem_urlText (hs : s.WellFormed) : '/' ∉ s.urlText := by
  cases s with
  | literal text => exact hs.1
  | capture name =>
    have hroute : '/' ∉ ':' :: name := hs.notMem_routeText
    simpa [urlText] using hroute

/-- The text of a well-formed segment in a route path has the braces replaced. -/
theorem WellFormed.withCaptures_urlText (hs : s.WellFormed) :
    Url.withCaptures s.urlText = s.routeText := by
  cases s with
  | literal text =>
    refine Url.withCaptures_eq_self fun c hc => ?_
    have hmark := isMark_eq_false_iff.mp (hs.2 c hc)
    exact ⟨hmark.1, hmark.2.1⟩
  | capture name =>
    have hname : Url.withCaptures name = name := by
      refine Url.withCaptures_eq_self fun c hc => ⟨?_, ?_⟩ <;>
        exact fun hbrace => absurd (hs.2 c hc) (hbrace ▸ by decide)
    calc Url.withCaptures (['\x7b'] ++ name ++ ['\x7d'])
        = [':'] ++ Url.withCaptures name ++ [] := by
          rw [Url.withCaptures_append, Url.withCaptures_append]
          rfl
      _ = ':' :: name := by rw [hname, List.append_nil, List.singleton_append]

/-- The text of a well-formed segment in a route path stands for the one in the address. -/
theorem WellFormed.standsFor_routeText (hs : s.WellFormed) :
    Url.standsFor s.routeText = s.urlText := by
  cases s with
  | literal text =>
    rw [routeText, Url.standsFor]
    · rfl
    · rintro name rfl
      have hcolon := hs.2 ':' List.mem_cons_self
      cases hcolon
  | capture name => rfl

end Segment

namespace Url

/-- What a route path says of the address that it is made from. -/
structure IsRouteOf (route url : String) : Prop where
  replaced : route.toList = withCaptures url.toList
  parts : (route.toList.splitOn '/').map standsFor = url.toList.splitOn '/'
  addressOf_eq : addressOf route = url

/-- The route path of what is read as an address says what the address is. -/
theorem isRouteOf_of_parse {url : String} {segments : List Segment}
    (h : parse url.toList = .ok segments) : IsRouteOf (routePath segments) url := by
  obtain ⟨-, hsegments⟩ := wellFormed_of_parse h
  have hurl := eq_joinPath_of_parse h
  have hroute : (routePath segments).toList = joinPath (segments.map Segment.routeText) :=
    String.toList_ofList
  have hsplit {text : Segment → List Char} (htext : ∀ s ∈ segments, '/' ∉ text s) :
      (joinPath (segments.map text)).splitOn '/' = [] :: segments.map text := by
    rw [← Text.splitAt_eq_splitOn]
    exact splitAt_joinPath (List.forall_mem_map.mpr htext)
  have hparts : ((routePath segments).toList.splitOn '/').map standsFor =
      url.toList.splitOn '/' := by
    rw [hroute, hurl, hsplit fun s hs => (hsegments s hs).notMem_routeText,
      hsplit fun s hs => (hsegments s hs).notMem_urlText, List.map_cons, List.map_map]
    exact congrArg _ (List.map_congr_left fun s hs => (hsegments s hs).standsFor_routeText)
  refine ⟨?_, hparts, ?_⟩
  · rw [hroute, hurl, withCaptures_joinPath, List.map_map]
    exact congrArg joinPath (List.map_congr_left fun s hs =>
      (hsegments s hs).withCaptures_urlText.symm)
  · rw [addressOf, hparts, List.intercalate_splitOn, String.ofList_toList]

end Url

namespace Endpoint

variable {d e : Endpoint}

/-- What is read from a configured address is read from its text. -/
theorem readUrl_eq_ok_iff {url : String} {segments : List Segment} :
    readUrl url = .ok segments ↔ Url.parse url.toList = .ok segments := by
  constructor
  · exact eq_ok_of_mapError
  · intro h
    rw [readUrl, h]
    rfl

/-- Built endpoints with the same route path have the same address. -/
theorem IsBuilt.url_eq (hd : d.IsBuilt) (he : e.IsBuilt) (h : d.routePath = e.routePath) :
    d.url = e.url := by
  have haddress {e : Endpoint} (he : e.IsBuilt) : Url.addressOf e.routePath = e.url := by
    obtain ⟨layout, v, hbuilt⟩ := he
    have hsegments := readUrl_eq_ok_iff.mp (builtFrom_of_ofView hbuilt).segments
    exact (Url.isRouteOf_of_parse hsegments).addressOf_eq
  rw [← haddress hd, h, haddress he]

/-- A configured text is taken exactly if it is an address. Its route path has its braces
replaced and can be read back part by part, so no other address has the same route path. -/
theorem routePath_reversible (url : String) :
    ((∃ segments, readUrl url = .ok segments) ↔ Url.IsAddress url.toList) ∧
      ∀ segments, readUrl url = .ok segments →
        Url.IsRouteOf (Url.routePath segments) url ∧
        ∀ other segments', readUrl other = .ok segments' →
          Url.routePath segments' = Url.routePath segments → other = url := by
  simp only [readUrl_eq_ok_iff]
  refine ⟨Url.exists_parse_iff, fun segments h => ?_⟩
  have hurl := Url.isRouteOf_of_parse h
  refine ⟨hurl, fun other segments' hother hsame => ?_⟩
  have hother := Url.isRouteOf_of_parse hother
  rw [← hurl.addressOf_eq, ← hother.addressOf_eq, hsame]

/-- An address with a placeholder between two texts. -/
theorem routePath_reversible_orders :
    Url.IsAddress "/users/\x7bid\x7d/orders".toList ∧
      Url.IsRouteOf "/users/:id/orders" "/users/\x7bid\x7d/orders" := by
  have h : readUrl "/users/\x7bid\x7d/orders" =
      .ok [.literal "users".toList, .capture "id".toList, .literal "orders".toList] := by
    decide +kernel
  obtain ⟨htaken, hroute⟩ := routePath_reversible "/users/\x7bid\x7d/orders"
  exact ⟨htaken.mp ⟨_, h⟩, (hroute _ h).1⟩

end Endpoint

end QueryGateway
