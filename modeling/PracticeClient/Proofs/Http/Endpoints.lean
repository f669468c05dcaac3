import PracticeClient.Http.Transport
import PracticeClient.Proofs.Url.Paths

namespace PracticeClient

namespace Url

variable {scheme text : List Char}

def goesOn (url : Url) : Bool := url.query.isSome || url.fragment.isSome

theorem goesOn_assemble {authority : Option Authority} {path : Path} {rest : List Char}
    (ends : ∀ c ∈ rest.head?, endsPath c = true) :
    goesOn (assemble scheme authority (path, rest)) = !rest.isEmpty := by
  cases rest with
  | nil => rfl
  | cons c rest =>
    have first := ends c rfl
    rw [endsPath, Bool.or_eq_true, beq_iff_eq, beq_iff_eq] at first
    rcases first with rfl | rfl <;> rfl

/-- What a slash behind the text of a URL makes of it. Whether it is behind the path as well
counts only for a URL that does not go on behind its path. -/
structure Slashed (own base : Url) (behind : Prop) : Prop where
  scheme : base.scheme = own.scheme
  authority : base.authority = own.authority
  goesOn_eq : base.goesOn = own.goesOn
  path : if own.goesOn then base.path = own.path
    else ∃ reached, base.path = .segments (reached ++ [[]]) ∧
      ∀ name, Path.segments (reached ++ [name]) = own.path.below name ↔ behind

theorem Slashed.congr {own base : Url} {behind other : Prop} (same : behind ↔ other)
    (slashed : Slashed own base behind) : Slashed own base other := by
  rwa [← propext same]

theorem Slashed.last {own base : Url} {behind : Prop} (slashed : Slashed own base behind)
    (stops : own.goesOn = false) : base.path.toSegments.getLast? = some [] := by
  have paths := slashed.path
  rw [stops, if_neg Bool.false_ne_true] at paths
  obtain ⟨reached, path, -⟩ := paths
  rw [path]
  exact List.getLast?_concat

theorem slashed_path {authority : Option Authority} {more : List Char}
    (edges : ∀ c ∈ more, isEdge c = true) :
    Slashed (assemble scheme authority (readPath .web [] text))
      (assemble scheme authority (readPath .web [] (text ++ (more ++ ['/']))))
      (more = [] ∧ ∃ c ∈ text.getLast?, isSlash .web c = false) := by
  have ends (text : List Char) : goesOn (assemble scheme authority (readPath .web [] text)) =
      !(readPath .web [] text).2.isEmpty := goesOn_assemble splitPath_rest
  cases rest : (readPath .web [] text).2 with
  | nil =>
    obtain ⟨reached, read, kept⟩ := readPath_slash rest edges
    refine ⟨rfl, rfl, ?_, ?_⟩
    · rw [ends, ends, rest, read]
    · rw [ends, rest]
      refine ⟨reached, ?_, kept⟩
      rw [read]
      rfl
  | cons c others =>
    have stops : (readPath .web [] text).2 ≠ [] := by simp [rest]
    have read := readPath_append_of_rest (more ++ ['/']) stops
    refine ⟨rfl, rfl, ?_, ?_⟩
    · rw [ends, ends, read, rest]
      rfl
    · rw [ends, rest, read]
      rfl

theorem slashed_root (authority : Option Authority) :
    Slashed (assemble scheme authority (readRootPath .web []))
      (assemble scheme authority (readRootPath .web ['/'])) True :=
  ⟨rfl, rfl, rfl, [], rfl, fun _ => iff_of_true rfl trivial⟩

theorem readAuthority_slash [Idna] (web : Family.ofScheme scheme = .web) {more : List Char}
    (edges : ∀ c ∈ more, isEdge c = true) {base : Url}
    (read : readAuthority scheme (text ++ (more ++ ['/'])) = .ok base) :
    ∃ own, readAuthority scheme text = .ok own ∧
      Slashed own base (more = [] ∧ ∃ c ∈ text.getLast?, isSlash .web c = false) := by
  obtain ⟨front, beyond, rfl, within, goes⟩ := exists_authority text
  have own := readAuthority_web web within goes
  cases beyond with
  | nil =>
    -- There is no path yet: what is added would belong to the authority, up to the slash.
    have slash : GoesBeyond ['/'] := by
      rintro _ ⟨⟩
      rfl
    rw [List.append_nil, ← List.append_assoc,
      readAuthority_web web (within_append_edges within edges) slash] at read
    cases found : authorityOf scheme (front ++ more) with
    | error error =>
      rw [found] at read
      cases read
    | ok authority =>
      obtain rfl := eq_nil_of_authorityOf within edges found
      rw [List.append_nil] at found
      rw [List.append_nil, found] at read
      cases read
      rw [found] at own
      refine ⟨_, own, (slashed_root _).congr (iff_of_true trivial ⟨rfl, ?_⟩)⟩
      rcases List.eq_nil_or_concat' front with rfl | ⟨early, c, rfl⟩
      · exact (authorityOf_nil authority found).elim
      · have last := within c (by simp)
        rw [endsAuthority, Bool.or_eq_false_iff] at last
        exact ⟨c, by simp, last.1⟩
  | cons e others =>
    have goes : GoesBeyond (e :: others ++ (more ++ ['/'])) := by
      rintro _ ⟨⟩
      exact goes _ rfl
    rw [List.append_assoc, readAuthority_web web within goes] at read
    cases found : authorityOf scheme front with
    | error error =>
      rw [found] at read
      cases read
    | ok authority =>
      rw [found] at read own
      cases read
      refine ⟨_, own, ?_⟩
      rw [readRootPath_web, readRootPath_web, pathBody_append]
      refine (slashed_path edges).congr (and_congr_right' ?_)
      rw [pathBody_last, List.getLast?_append, List.getLast?_cons, Option.some_or]

theorem readAuthority_edges [Idna] (web : Family.ofScheme scheme = .web) {more : List Char}
    (edges : ∀ c ∈ more, isEdge c = true) (base : Url) :
    readAuthority scheme ((more ++ ['/']).dropWhile (isSlash .web)) ≠ .ok base := by
  cases more with
  | nil => exact readAuthority_nil web base
  | cons c others =>
    intro read
    have plain := (isSlash_edge (edges c List.mem_cons_self)).2
    rw [List.cons_append, List.dropWhile_cons_of_neg (by simp [plain]), ← List.cons_append,
      ← List.nil_append (c :: others ++ _)] at read
    obtain ⟨own, none, -⟩ := readAuthority_slash web edges read
    exact readAuthority_nil web own none

theorem parse_slash [Idna] {address : String} {base : Url}
    (parsed : parse (address ++ "/") = .ok base) (web : Family.ofScheme base.scheme = .web) :
    ∃ own, parse address = .ok own ∧
      Slashed own base (trailing address.toList = [] ∧
        ∃ c ∈ (clean address.toList).getLast?, isSlash .web c = false) := by
  obtain ⟨scheme, rest, taken, web, read⟩ := parse_web.1 ⟨parsed, web⟩
  have slash : (address ++ "/").toList = address.toList ++ ['/'] := String.toList_append
  rw [slash] at taken
  cases blank : address.toList.all isEdge with
  | true =>
    rw [clean_slash_of_blank (List.all_eq_true.1 blank)] at taken
    cases taken
  | false =>
    rw [clean_slash (solid_of_all blank)] at taken
    have edges : ∀ c ∈ trailing address.toList, isEdge c = true :=
      fun c => isEdge_of_mem_trailing
    -- Nothing behind the address could end or go on with a scheme, so it has its own.
    have strange : ∀ c ∈ trailing address.toList ++ ['/'], c ≠ ':' ∧ isLetter c = false := by
      intro c member
      rcases List.mem_append.1 member with edge | slash
      · refine ⟨(refused_edge (edges c edge)).2.1, Bool.eq_false_iff.2 fun letter => ?_⟩
        have inner := (letter_plain letter).1
        rw [edges c edge] at inner
        cases inner
      · cases List.mem_singleton.1 slash
        exact ⟨by decide, rfl⟩
    obtain ⟨before, own, rfl⟩ := takeScheme?_append strange taken
    cases after : before.dropWhile (isSlash .web) with
    | nil =>
      rw [List.dropWhile_append, after, List.isEmpty_nil, if_pos rfl] at read
      exact (readAuthority_edges web edges base read).elim
    | cons c others =>
      rw [List.dropWhile_append, after] at read
      obtain ⟨url, read, slashed⟩ := readAuthority_slash web edges read
      rw [← after] at read slashed
      refine ⟨url, (parse_web.2 ⟨scheme, before, own, web, read⟩).1, slashed.congr ?_⟩
      obtain ⟨front, whole⟩ :=
        (List.dropWhile_suffix (isSlash .web)).trans (suffix_of_takeScheme? own)
      rw [← whole, after, List.getLast?_append, List.getLast?_cons, Option.some_or]

theorem join_below [Idna] {address endpoint : String} {base : Url}
    (parsed : parse address = .ok base) (web : Family.ofScheme base.scheme = .web)
    (letters : ∀ c ∈ endpoint.toList, isLetter c = true) :
    ∃ url, base.join endpoint = .ok url ∧ url.scheme = base.scheme ∧
      url.authority = base.authority ∧
      (url.path = base.path.below endpoint.toList ↔
        base.path.toSegments.getLast? = some []) := by
  obtain ⟨parts, filled, -, path⟩ := segments_of_parse parsed web
  rw [join_web path web letters]
  by_cases none : endpoint.toList = []
  · rw [none]
    refine ⟨_, rfl, rfl, rfl, ?_⟩
    dsimp only
    rw [path]
    exact below_nil_iff filled
  · rw [readRelative_name path web letters none]
    refine ⟨_, rfl, rfl, rfl, ?_⟩
    rw [path]
    exact below_eq_iff filled _

/-! ## Addresses of servers -/

/-- Whether a slash behind an address is one behind its path, for an address whose path is the last
of it: it is there already, or the path goes on to the very end of the address, without a slash. -/
def TakesSlash (address : List Char) : Prop :=
  address.getLast? = some '/' ∨
    trailing address = [] ∧ ∃ c ∈ (clean address).getLast?, isSlash .web c = false

end Url

namespace Http.Transport

open Url

theorem web_of_isWeb {url : Url} (web : isWeb url = true) : Family.ofScheme url.scheme = .web := by
  simp only [isWeb, Bool.or_eq_true, beq_iff_eq] at web
  rcases web with http | https
  · rw [http]
    rfl
  · rw [https]
    rfl

theorem parse_of_ofAddress [Idna] {address : String} {transport : Transport}
    (accepted : ofAddress address = .ok transport) :
    Url.parse (withSlash address) = .ok transport.base := by
  unfold ofAddress at accepted
  split at accepted
  · next base parsed =>
    cases accepted
    exact parsed
  · cases accepted

theorem endpointUrl_of_join [Idna] {transport : Transport} {endpoint : String} {url : Url}
    (joined : transport.base.join endpoint = .ok url) :
    transport.endpointUrl endpoint = .ok url := by
  rw [endpointUrl, joined]

/-- The scheme and the authority of an address are always those of its endpoints. Its path is found
again above them just if it goes on to the end of the address or ends in a slash. -/
theorem endpoint_below [Idna] {address endpoint : String} {transport : Transport}
    (accepted : ofAddress address = .ok transport) (web : isWeb transport.base = true)
    (letters : ∀ c ∈ endpoint.toList, isLetter c = true) :
    ∃ own url, Url.parse address = .ok own ∧ transport.endpointUrl endpoint = .ok url ∧
      url.scheme = own.scheme ∧ url.authority = own.authority ∧
      (own.path.below endpoint.toList).print =
        closeWithSlash own.path.print ++ endpoint.toList ∧
      (url.path = own.path.below endpoint.toList ↔
        if own.goesOn then own.path.toSegments.getLast? = some []
        else TakesSlash address.toList) := by
  have web := web_of_isWeb web
  have parsed := parse_of_ofAddress accepted
  by_cases slash : address.toList.getLast? = some '/'
  · -- The address is itself one with a slash at its end, and so what is said of such holds of it.
    rw [withSlash, if_pos slash] at parsed
    obtain ⟨early, whole⟩ := List.getLast?_eq_some_iff.1 slash
    have same : String.ofList early ++ "/" = address := by
      rw [← String.toList_inj, String.toList_append, String.toList_ofList, whole]
      rfl
    obtain ⟨own, -, slashed⟩ := parse_slash (same ▸ parsed) web
    obtain ⟨url, joined, scheme, authority, kept⟩ := join_below parsed web letters
    refine ⟨transport.base, url, parsed, endpointUrl_of_join joined, scheme, authority,
      print_below_of_parse parsed web _, ?_⟩
    rw [kept, slashed.goesOn_eq]
    cases goes : own.goesOn with
    | true => rfl
    | false => exact iff_of_true (slashed.last goes) (.inl slash)
  · rw [withSlash, if_neg slash] at parsed
    obtain ⟨own, alone, slashed⟩ := parse_slash parsed web
    obtain ⟨url, joined, scheme, authority, kept⟩ := join_below parsed web letters
    refine ⟨own, url, alone, endpointUrl_of_join joined, scheme.trans slashed.scheme,
      authority.trans slashed.authority, print_below_of_parse alone (slashed.scheme ▸ web) _, ?_⟩
    have paths := slashed.path
    cases goes : own.goesOn with
    | true =>
      rw [goes, if_pos rfl] at paths
      rw [← paths, kept]
      rfl
    | false =>
      rw [goes, if_neg Bool.false_ne_true] at paths
      obtain ⟨reached, based, behind⟩ := paths
      rw [kept.2 (slashed.last goes), based, below_of_slash, behind, if_neg Bool.false_ne_true]
      exact (or_iff_right slash).symm

section

open scoped Idna

def practice (segments : List String) (query : Option String) : Url :=
  ⟨"http".toList, some ⟨[], none, .name "localhost".toList, some 8891⟩,
    .segments (segments.map String.toList), query.map String.toList, none⟩

theorem login_below_practice :
    ∃ transport own url, ofAddress "http://localhost:8891/practice" = .ok transport ∧
      Url.parse "http://localhost:8891/practice" = .ok own ∧
      transport.endpointUrl "login" = .ok url ∧ url.authority = own.authority ∧
      own.path = .segments ["practice".toList] ∧
      url.path = .segments ["practice".toList, "login".toList] := by
  have accepted : ofAddress "http://localhost:8891/practice" =
      .ok ⟨practice ["practice", ""] none⟩ := by decide +kernel
  have alone : Url.parse "http://localhost:8891/practice" = .ok (practice ["practice"] none) := by
    decide +kernel
  have letters : ∀ c ∈ "login".toList, isLetter c = true := List.all_eq_true.1 rfl
  obtain ⟨own, url, parsed, joined, -, authority, -, kept⟩ := endpoint_below accepted rfl letters
  rw [alone] at parsed
  cases parsed
  have behind : TakesSlash "http://localhost:8891/practice".toList :=
    .inr ⟨by decide +kernel, 'e', by decide +kernel, rfl⟩
  exact ⟨_, _, url, accepted, alone, joined, authority, rfl, kept.2 behind⟩

/-- Behind a query the slash is lost, and the last segment of the path with it. -/
theorem login_beside_practice :
    ∃ transport own url, ofAddress "http://localhost:8891/practice?contest=1" = .ok transport ∧
      isWeb transport.base = true ∧
      Url.parse "http://localhost:8891/practice?contest=1" = .ok own ∧
      transport.endpointUrl "login" = .ok url ∧ url.path ≠ own.path.below "login".toList :=
  ⟨⟨practice ["practice"] (some "contest=1/")⟩, practice ["practice"] (some "contest=1"),
    practice ["login"] none, by decide +kernel, rfl, by decide +kernel, by decide +kernel,
    by decide +kernel⟩

end

end Http.Transport

end PracticeClient
