import DesignRules.Proofs.Numeral.Runs
import DesignRules.Proofs.Outcome
import DesignRules.Proofs.Server.Query
import DesignRules.Proofs.Text.Case
import DesignRules.Server.Access

/-! # What a guard lets through

A guard compares the shared token with the one a request presents: the last value of the query
under the name of the token, or else what the authorization header bears. It decides about every
request that has a URL, and about those only. What builds the URLs is left open; that a query
stands in a URL if it is UTF-8, and a path as it is if it has no mark of a URL, is assumed.
-/

namespace DesignRules.Server

open Outcome

variable {g : Guard} {r : Request} {name value token : String}

/-! ## The presented token -/

/-- The same up to the case of ASCII letters. -/
def SameLetters (s t : String) : Prop := s.toList.map Char.toLower = t.toList.map Char.toLower

namespace Request

/-- A header value that bears a token: the mark of the scheme, in any letter case, and the token
with any white space around it. -/
def Bears (value token : String) : Prop :=
  ∃ mark before after, value.toList = mark ++ (before ++ token.toList ++ after) ∧
    mark.map Char.toLower = bearerMark ∧
    (∀ c ∈ before, Text.isBlank c) ∧ (∀ c ∈ after, Text.isBlank c) ∧
    (∀ c ∈ token.toList.head?, Text.isBlank c = false) ∧
    ∀ c ∈ token.toList.getLast?, Text.isBlank c = false

/-- The first header with a name, in any letter case, has this value. -/
def FirstHeader (r : Request) (name value : String) : Prop :=
  ∃ before spelled after, r.headers = before ++ (spelled, value) :: after ∧
    SameLetters spelled name ∧ ∀ header ∈ before, ¬ SameLetters header.1 name

/-- The last token of the query, if it is not empty. -/
def QueryToken (r : Request) (token : String) : Prop :=
  token ≠ "" ∧ ∃ raw, Query.LastValue r.query "token" raw ∧ Query.unquote raw = token.toList

def HeaderToken (r : Request) (token : String) : Prop :=
  ∃ value, r.FirstHeader "authorization" value ∧ Bears value token

/-- The query comes before the header, and a request with neither presents the empty token. -/
inductive Presents (r : Request) : String → Prop
  | query {token : String} : r.QueryToken token → Presents r token
  | header {token : String} : (∀ t, ¬ r.QueryToken t) → r.HeaderToken token → Presents r token
  | nothing : (∀ t, ¬ r.QueryToken t) → (∀ t, ¬ r.HeaderToken t) → Presents r ""

theorem lower_eq_authorization_iff :
    Text.lower name = "authorization" ↔ SameLetters name "authorization" := by
  rw [Text.lower, ← String.toList_inj, String.toList_ofList, Text.lowerFrom_eq_iff (by simp)]
  rfl

theorem header?_eq_some_iff :
    r.header? "authorization" = some value ↔ r.FirstHeader "authorization" value := by
  rw [header?, Option.map_eq_some_iff]
  simp only [List.find?_eq_some_iff_append, beq_iff_eq, Bool.not_eq_true', beq_eq_false_iff_ne,
    lower_eq_authorization_iff, ne_eq]
  constructor
  · rintro ⟨⟨spelled, value⟩, ⟨hname, before, after, hheaders, hbefore⟩, rfl⟩
    exact ⟨before, spelled, after, hheaders, hname, hbefore⟩
  · rintro ⟨before, spelled, after, hheaders, hname, hbefore⟩
    exact ⟨(spelled, value), ⟨hname, before, after, hheaders, hbefore⟩, rfl⟩

theorem queryToken_iff :
    r.QueryToken token ↔ (Query.last? r.query "token").filter (· != "") = some token := by
  rw [Option.filter_eq_some_iff, Query.last?_eq_some_iff, bne_iff_ne]
  constructor
  · rintro ⟨hne, raw, hlast, hraw⟩
    exact ⟨⟨raw, hlast, by rw [hraw, String.ofList_toList]⟩, hne⟩
  · rintro ⟨⟨raw, hlast, rfl⟩, hne⟩
    exact ⟨hne, raw, hlast, String.toList_ofList.symm⟩

theorem isPrefixOf_bearerMark_iff : bearerMark.isPrefixOf (Text.lower value).toList ↔
    ∃ mark rest, value.toList = mark ++ rest ∧ mark.map Char.toLower = bearerMark := by
  rw [List.isPrefixOf_iff_prefix, Text.lower, String.toList_ofList,
    Text.isPrefix_lowerFrom_iff (by simp [bearerMark])]
  constructor
  · rintro ⟨rest, hrest⟩
    obtain ⟨mark, tail, hsplit, hmark, -⟩ := List.map_eq_append_iff.mp hrest.symm
    exact ⟨mark, tail, hsplit, hmark⟩
  · rintro ⟨mark, rest, hsplit, hmark⟩
    rw [hsplit, List.map_append, hmark]
    exact List.prefix_append _ _

theorem bearerToken_of_mark {mark rest : List Char} (hvalue : value.toList = mark ++ rest)
    (hmark : mark.map Char.toLower = bearerMark) :
    bearerToken value = String.ofList (Text.trimChars rest) := by
  have hlength : bearerMark.length = mark.length := by rw [← hmark, List.length_map]
  rw [bearerToken, if_pos (isPrefixOf_bearerMark_iff.mpr ⟨mark, rest, hvalue, hmark⟩), hvalue,
    hlength, List.drop_left]

theorem Bears.bearerToken_eq (h : Bears value token) : bearerToken value = token := by
  obtain ⟨mark, before, after, hvalue, hmark, hbefore, hafter, hfirst, hlast⟩ := h
  rw [bearerToken_of_mark hvalue hmark, Text.trimChars, Text.trimEnd,
    dropWhile_ends hbefore hafter hfirst hlast, String.ofList_toList]

theorem exists_bears {mark rest : List Char} (hvalue : value.toList = mark ++ rest)
    (hmark : mark.map Char.toLower = bearerMark) : Bears value (bearerToken value) := by
  obtain ⟨before, after, hbefore, hafter, hrest⟩ := exists_ends Text.isBlank rest
  obtain ⟨hfirst, hlast⟩ := ends_dropWhile Text.isBlank rest
  refine ⟨mark, before, after, ?_, hmark, hbefore, hafter, ?_⟩
  all_goals
    rw [bearerToken_of_mark hvalue hmark, String.toList_ofList, Text.trimChars, Text.trimEnd]
  · rw [← hrest, hvalue]
  · exact ⟨hfirst, hlast⟩

theorem bearerToken_of_forall_not_bears (h : ∀ token, ¬ Bears value token) :
    bearerToken value = "" := by
  rw [bearerToken, if_neg]
  rintro hmark
  obtain ⟨mark, rest, hvalue, hmark⟩ := isPrefixOf_bearerMark_iff.mp hmark
  exact h _ (exists_bears hvalue hmark)

theorem bearerToken_eq_of_headerToken (h : r.HeaderToken token) :
    bearerToken ((r.header? "authorization").getD "") = token := by
  obtain ⟨value, hvalue, hbears⟩ := h
  rw [header?_eq_some_iff.mpr hvalue, Option.getD_some, hbears.bearerToken_eq]

theorem bearerToken_eq_of_forall_not_headerToken (h : ∀ token, ¬ r.HeaderToken token) :
    bearerToken ((r.header? "authorization").getD "") = "" := by
  cases hvalue : r.header? "authorization" with
  | none => decide +kernel
  | some value =>
    exact bearerToken_of_forall_not_bears fun token hbears =>
      h token ⟨value, header?_eq_some_iff.mp hvalue, hbears⟩

theorem token_of_queryToken (h : r.QueryToken token) : r.token = token := by
  rw [Request.token, queryToken_iff.mp h]

theorem token_of_forall_not_queryToken (h : ∀ token, ¬ r.QueryToken token) :
    r.token = bearerToken ((r.header? "authorization").getD "") := by
  have hnone : (Query.last? r.query "token").filter (· != "") = none :=
    Option.eq_none_iff_forall_ne_some.mpr fun token htoken => h token (queryToken_iff.mpr htoken)
  rw [Request.token, hnone]

theorem Presents.token_eq (h : r.Presents token) : r.token = token := by
  cases h with
  | query hquery => exact token_of_queryToken hquery
  | header hnone hheader =>
    rw [token_of_forall_not_queryToken hnone, bearerToken_eq_of_headerToken hheader]
  | nothing hnone hbare =>
    rw [token_of_forall_not_queryToken hnone, bearerToken_eq_of_forall_not_headerToken hbare]

theorem exists_presents (r : Request) : ∃ token, r.Presents token := by
  by_cases hquery : ∃ token, r.QueryToken token
  · obtain ⟨token, htoken⟩ := hquery
    exact ⟨token, .query htoken⟩
  have hnone : ∀ token, ¬ r.QueryToken token := not_exists.mp hquery
  by_cases hheader : ∃ token, r.HeaderToken token
  · obtain ⟨token, htoken⟩ := hheader
    exact ⟨token, .header hnone htoken⟩
  · exact ⟨"", .nothing hnone (not_exists.mp hheader)⟩

theorem presents_iff : r.Presents token ↔ r.token = token := by
  constructor
  · exact Presents.token_eq
  · rintro rfl
    obtain ⟨token, htoken⟩ := r.exists_presents
    rwa [htoken.token_eq]

/-! ## The query and the path -/

/-- The octets of the query are those of a text. -/
def QueryIsText (r : Request) : Prop :=
  ∃ text, r.query.toList.map Char.toNat = Text.Utf8.encode text

theorem hasUrl_iff : r.hasUrl ↔ r.QueryIsText := Text.Utf8.isWhole_iff

/-- The headers for the host, if there are any, name one by letters, digits and a few marks. -/
def HasPlainHost (r : Request) : Prop :=
  ∀ header ∈ r.headers, SameLetters header.1 "host" →
    ∀ c ∈ header.2.toList, c.isAlphanum ∨ c ∈ ['.', '-', ':']

/-- A path from the root with none of the marks that a URL escapes or drops. -/
def IsPlain (r : Request) : Prop :=
  (∃ rest, r.path.toList = '/' :: rest) ∧
    ∀ c ∈ ['?', '#', '\\', '\t', '\r', '\n'], c ∉ r.path.toList

theorem location_of_isPlain (h : r.IsPlain) : r.location = r.path := by
  obtain ⟨⟨rest, hroot⟩, hplain⟩ := h
  simp only [List.forall_mem_cons, List.not_mem_nil, false_imp_iff, implies_true, and_true]
    at hplain
  obtain ⟨hquestion, hnumber, hslash, htab, hreturn, hfeed⟩ := hplain
  have hescape : r.path.toList.flatMap escapeMark = r.path.toList := by
    have hself : ∀ c ∈ r.path.toList, escapeMark c = [c] := by
      intro c hc
      unfold escapeMark
      split <;> first | contradiction | rfl
    rw [List.flatMap_congr hself, List.flatMap_singleton']
  have hkept : ∀ c ∈ r.path.toList, c != '\t' && c != '\r' && c != '\n' := by
    intro c hc
    simp only [Bool.and_eq_true, bne_iff_ne]
    exact ⟨⟨ne_of_mem_of_not_mem hc htab, ne_of_mem_of_not_mem hc hreturn⟩,
      ne_of_mem_of_not_mem hc hfeed⟩
  have hrooted : rooted r.path.toList = r.path.toList := by
    rw [hroot]
    rfl
  rw [location, hrooted, hescape, List.filter_eq_self.mpr hkept, String.ofList_toList]

end Request

/-- What is known of the URLs of requests: the query has to be UTF-8, and where the host is a plain
one that is enough, and a plain path stands in the URL as it is. -/
structure Urls.IsRegular [Urls] : Prop where
  queryIsText : ∀ r : Request, ∀ path ∈ Urls.path? r, r.QueryIsText
  exists_path : ∀ r : Request, r.HasPlainHost → r.QueryIsText → ∃ path, Urls.path? r = some path
  path_eq : ∀ r : Request, r.HasPlainHost → r.IsPlain → ∀ path ∈ Urls.path? r, path = r.path

theorem isRegular_plainUrls : Urls.IsRegular where
  queryIsText r path hpath := by
    obtain ⟨hurl, -⟩ := Option.ite_none_right_eq_some.mp hpath
    exact Request.hasUrl_iff.mp hurl
  exists_path r _ htext := ⟨r.location, if_pos (Request.hasUrl_iff.mpr htext)⟩
  path_eq r _ hplain path hpath := by
    obtain ⟨-, hlocation⟩ := Option.ite_none_right_eq_some.mp hpath
    rw [← Option.some.inj hlocation, Request.location_of_isPlain hplain]

/-! ## Decisions -/

namespace Guard

section Urls

variable [Urls]

/-- The request reaches the application, whichever it is, and its answer goes back. -/
def Forwards (g : Guard) (r : Request) : Prop :=
  ∀ application, g.respond application r = .ok (application r)

/-- The request is answered with status 401, whatever the application is. -/
def Denies (g : Guard) (r : Request) : Prop :=
  ∀ application, ∃ answer, g.respond application r = .ok answer ∧ answer.status = 401

theorem respond_eq_ok_iff {application : Request → Response} {answer : Response} :
    g.respond application r = .ok answer ↔ ∃ admitted, g.admits r = .ok admitted ∧
      (if admitted then application r else denial) = answer :=
  map_eq_ok_iff

theorem forwards_iff : g.Forwards r ↔ g.admits r = .ok true := by
  constructor
  · intro h
    obtain ⟨admitted, hadmits, hanswer⟩ := respond_eq_ok_iff.mp (h fun _ => ⟨200, "ok"⟩)
    cases admitted with
    | true => exact hadmits
    | false => cases hanswer
  · exact fun h application => respond_eq_ok_iff.mpr ⟨true, h, rfl⟩

theorem denies_iff : g.Denies r ↔ g.admits r = .ok false := by
  constructor
  · intro h
    obtain ⟨answer, hanswer, hstatus⟩ := h fun _ => ⟨200, "ok"⟩
    obtain ⟨admitted, hadmits, rfl⟩ := respond_eq_ok_iff.mp hanswer
    cases admitted with
    | true => cases hstatus
    | false => exact hadmits
  · exact fun h application => ⟨denial, respond_eq_ok_iff.mpr ⟨false, h, rfl⟩, rfl⟩

theorem admits_eq_ok_iff (configured : g.token ≠ "") {admitted : Bool} :
    g.admits r = .ok admitted ↔ ∃ path, Urls.path? r = some path ∧
      (path ∈ g.openPaths ∧ admitted = true ∨
        path ∉ g.openPaths ∧ Text.isBroken g.token = false ∧
          admitted = (r.token == g.token)) := by
  rw [admits, if_neg (by simpa using configured)]
  cases Urls.path? r with
  | none => simp
  | some path =>
    simp only [Option.some.injEq, exists_eq_left']
    by_cases hopen : path ∈ g.openPaths
    case pos =>
      rw [if_pos (by simpa using hopen)]
      simp [hopen, @eq_comm _ true]
    rw [if_neg (by simpa using hopen)]
    by_cases hbroken : Text.isBroken g.token
    case pos => simp [hopen, hbroken]
    rw [if_neg hbroken]
    simp only [hopen, hbroken, Except.ok.injEq, @eq_comm _ admitted, false_and, false_or,
      not_false_eq_true, true_and]

theorem forwards_iff_exists_path (g : Guard) (r : Request) (configured : g.token ≠ "") :
    g.Forwards r ↔ ∃ path, Urls.path? r = some path ∧
      (path ∈ g.openPaths ∨ Text.isBroken g.token = false ∧ r.Presents g.token) := by
  rw [forwards_iff, admits_eq_ok_iff configured, Request.presents_iff]
  refine exists_congr fun path => and_congr_right fun _ => ?_
  by_cases hopen : path ∈ g.openPaths <;> simp [hopen, @eq_comm _ true]

theorem denies_iff_exists_path (g : Guard) (r : Request) (configured : g.token ≠ "") :
    g.Denies r ↔ ∃ path, Urls.path? r = some path ∧
      path ∉ g.openPaths ∧ Text.isBroken g.token = false ∧ ¬ r.Presents g.token := by
  rw [denies_iff, admits_eq_ok_iff configured, Request.presents_iff]
  refine exists_congr fun path => and_congr_right fun _ => ?_
  by_cases hopen : path ∈ g.openPaths <;> simp [hopen, @eq_comm _ false]

/-- **A guard lets through the requests that present its token, and no others.** Every request
presents exactly one token, be it empty. If a request has a URL and the token of the guard is a
text, the request is forwarded if the path of its URL is open or it presents the token of the guard,
and in every other case it is denied with status 401. Without a token in the query and in the header
there is no way past the guard, and with a percent-encoding of its token as the last one in the
query there always is, whatever else the request holds. A query that is not UTF-8 gets no answer at
all, and a token that is no text opens nothing but the open paths. -/
theorem forwards_exact (hurls : Urls.IsRegular) (g : Guard) (r : Request)
    (configured : g.token ≠ "") :
    (∃! token, r.Presents token) ∧
    (g.Forwards r ↔ ∃ path, Urls.path? r = some path ∧
      (path ∈ g.openPaths ∨ Text.isBroken g.token = false ∧ r.Presents g.token)) ∧
    (g.Denies r ↔ ∃ path, Urls.path? r = some path ∧
      path ∉ g.openPaths ∧ Text.isBroken g.token = false ∧ ¬ r.Presents g.token) ∧
    ((∀ path ∈ Urls.path? r, path ∉ g.openPaths) → (∀ token, ¬ r.QueryToken token) →
      (∀ token, ¬ r.HeaderToken token) → ¬ g.Forwards r) ∧
    (∀ raw, Query.LastValue r.query "token" raw →
      Query.Encodes raw (Text.Utf8.encode g.token.toList) →
      r.Presents g.token ∧ (r.HasPlainHost → r.QueryIsText → Text.isBroken g.token = false →
        g.Forwards r)) ∧
    (¬ r.QueryIsText → ¬ g.Forwards r ∧ ¬ g.Denies r) ∧
    (r.HasPlainHost → r.QueryIsText → r.IsPlain → r.path ∉ g.openPaths →
      Text.isBroken g.token = false →
        (g.Forwards r ↔ r.Presents g.token) ∧ (g.Denies r ↔ ¬ r.Presents g.token)) := by
  have hforwards := g.forwards_iff_exists_path r configured
  have hdenies := g.denies_iff_exists_path r configured
  refine ⟨⟨r.token, Request.presents_iff.mpr rfl, fun _ h => h.token_eq.symm⟩, hforwards, hdenies,
    ?_, ?_, ?_, ?_⟩
  · intro hguarded hquery hheader hgranted
    have hempty : r.Presents "" := .nothing hquery hheader
    obtain ⟨path, hpath, hopen | ⟨-, hpresents⟩⟩ := hforwards.mp hgranted
    · exact hguarded path hpath hopen
    · exact configured (hpresents.token_eq.symm.trans hempty.token_eq)
  · intro raw hlast hencodes
    have hpresents : r.Presents g.token :=
      .query ⟨configured, raw, hlast, Query.unquote_of_encodes hencodes⟩
    refine ⟨hpresents, fun hhost hquery hwhole => ?_⟩
    obtain ⟨path, hpath⟩ := hurls.exists_path r hhost hquery
    exact hforwards.mpr ⟨path, hpath, .inr ⟨hwhole, hpresents⟩⟩
  · intro hquery
    constructor
    · intro hgranted
      obtain ⟨path, hpath, -⟩ := hforwards.mp hgranted
      exact hquery (hurls.queryIsText r path hpath)
    · intro hrefused
      obtain ⟨path, hpath, -⟩ := hdenies.mp hrefused
      exact hquery (hurls.queryIsText r path hpath)
  · intro hhost hquery hplain hguarded hwhole
    obtain ⟨path, hpath⟩ := hurls.exists_path r hhost hquery
    obtain rfl := hurls.path_eq r hhost hplain path hpath
    rw [hforwards, hdenies, hpath]
    simp [hguarded, hwhole]

end Urls

/-- A guard with the usual open paths. -/
def usual (token : String) : Guard where
  token := token
  openPaths := defaultOpenPaths

/-- A wrong token and then the right one, with one of its letters escaped. -/
def twoTokens : Request where
  path := "/mcp"
  query := "token=guess&token=s%65cret"
  headers := []

theorem forwards_twoTokens : Urls.IsRegular ∧ (usual "secret").token ≠ "" ∧
    (usual "secret").Forwards twoTokens := by
  have hlast : Query.LastValue twoTokens.query "token" "s%65cret".toList := by
    refine ⟨["token=guess".toList], "token=s%65cret".toList, [], "token".toList, by decide,
      by decide, ?_, by decide +kernel, by simp⟩
    have hpart : "token=s%65cret".toList = "token".toList ++ '=' :: "s%65cret".toList := by decide
    rw [hpart]
    exact .valued (by decide)
  have hencodes : Query.Encodes "s%65cret".toList (Text.Utf8.encode "secret".toList) := by
    have hhigh : Query.IsHexDigit '6' 6 := ⟨by decide, .inl rfl⟩
    have hlow : Query.IsHexDigit '5' 5 := ⟨by decide, .inl rfl⟩
    refine .plain (c := 's') (by decide) (by decide) (by decide) (.escape hhigh hlow ?_)
    iterate 4 refine .plain (by decide) (by decide) (by decide) ?_
    exact .nil
  have hquery : twoTokens.QueryIsText := Request.hasUrl_iff.mp (by decide +kernel)
  have configured : (usual "secret").token ≠ "" := by decide
  obtain ⟨-, -, -, -, hgranted, -⟩ :=
    forwards_exact isRegular_plainUrls (usual "secret") twoTokens configured
  have hhost : twoTokens.HasPlainHost := fun _ hheader => nomatch hheader
  exact ⟨isRegular_plainUrls, configured,
    (hgranted _ hlast hencodes).2 hhost hquery (by decide +kernel)⟩

/-- The token of the guard, and beside it an octet that is no character. -/
def strayOctet : Request where
  path := "/mcp"
  query := "token=secret&x=\u00e9"
  headers := []

/-- No token, and a tab in the path. -/
def tabbedPath : Request where
  path := "/hea\tlth"
  query := ""
  headers := []

/-- A request that presents the token is neither forwarded nor denied if its query is not UTF-8,
and a tab, which a URL has no room for, takes a path to an open one. -/
theorem strayOctet_undecided :
    strayOctet.path ∉ (usual "secret").openPaths ∧ strayOctet.Presents "secret" ∧
      ¬ (usual "secret").Forwards strayOctet ∧ ¬ (usual "secret").Denies strayOctet ∧
    tabbedPath.path ∉ (usual "secret").openPaths ∧ ¬ tabbedPath.Presents "secret" ∧
      (usual "secret").Forwards tabbedPath := by
  have hstray : (usual "secret").admits strayOctet = .error .noUrl := by decide +kernel
  have htabbed : (usual "secret").admits tabbedPath = .ok true := by decide +kernel
  refine ⟨by decide, Request.presents_iff.mpr (by decide +kernel), ?_, ?_, by decide, ?_,
    forwards_iff.mpr htabbed⟩
  · rw [forwards_iff, hstray]
    exact nofun
  · rw [denies_iff, hstray]
    exact nofun
  · rw [Request.presents_iff]
    decide +kernel

end Guard

end DesignRules.Server
