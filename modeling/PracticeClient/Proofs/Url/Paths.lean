import Mathlib.Data.List.Basic
import PracticeClient.Proofs.Url.Authorities

/-!
# Paths and what is written behind them

A path is cut at its slashes and walked along. What is written behind its text either makes its last
segment longer and opens a new one, or it is part of a query or a fragment.
-/

namespace PracticeClient.Url

variable {family : Family} {text : List Char}

/-! ## Cutting at the slashes -/

def lengthenFirst (c : Char) : List (List Char) → List (List Char)
  | first :: others => (c :: first) :: others
  | [] => [[c]]

theorem splitPath_cons {c : Char} (inner : endsPath c = false) (rest : List Char) :
    splitPath family (c :: rest) =
      (if isSlash family c then [] :: (splitPath family rest).1
        else lengthenFirst c (splitPath family rest).1, (splitPath family rest).2) := by
  rw [splitPath, if_neg (Bool.eq_false_iff.1 inner)]
  dsimp only
  split
  · rfl
  · cases (splitPath family rest).1 <;> rfl

theorem splitPath_ends {c : Char} (ends : endsPath c = true) (rest : List Char) :
    splitPath family (c :: rest) = ([[]], c :: rest) := by
  rw [splitPath, if_pos ends]

theorem exists_last_of_splitPath (family : Family) (text : List Char) :
    ∃ before last, (splitPath family text).1 = before ++ [last] := by
  have filled : (splitPath family text).1 ≠ [] := by
    cases text with
    | nil => exact List.cons_ne_nil _ _
    | cons c rest =>
      cases ends : endsPath c with
      | true =>
        rw [splitPath_ends ends]
        exact List.cons_ne_nil _ _
      | false =>
        rw [splitPath_cons ends]
        dsimp only
        split
        · exact List.cons_ne_nil _ _
        · cases (splitPath family rest).1 <;> exact List.cons_ne_nil _ _
  exact ⟨_, _, (List.dropLast_concat_getLast filled).symm⟩

theorem splitPath_rest {family : Family} :
    ∀ c ∈ (splitPath family text).2.head?, endsPath c = true := by
  induction text with
  | nil => exact nofun
  | cons d rest ih =>
    cases ends : endsPath d with
    | true =>
      rw [splitPath_ends ends]
      rintro _ ⟨⟩
      exact ends
    | false =>
      rw [splitPath_cons ends]
      exact ih

theorem splitPath_append_of_rest (more : List Char) (stops : (splitPath family text).2 ≠ []) :
    splitPath family (text ++ more) =
      ((splitPath family text).1, (splitPath family text).2 ++ more) := by
  induction text with
  | nil => exact (stops rfl).elim
  | cons c rest ih =>
    cases ends : endsPath c with
    | true => rw [List.cons_append, splitPath_ends ends, splitPath_ends ends, List.cons_append]
    | false =>
      rw [splitPath_cons ends] at stops
      rw [List.cons_append, splitPath_cons ends, splitPath_cons ends, ih stops]

theorem splitPath_concat {before : List (List Char)} {last : List Char}
    (cut : splitPath family text = (before ++ [last], [])) (c : Char) :
    splitPath family (text ++ [c]) =
      if endsPath c then (before ++ [last], [c])
      else if isSlash family c then (before ++ [last] ++ [[]], [])
      else (before ++ [last ++ [c]], []) := by
  -- The cut puts characters before the first segment, which is the last one only at the end.
  induction text generalizing before last with
  | nil =>
    obtain ⟨rfl, rfl⟩ := List.append_singleton_inj.1
      ((List.nil_append [[]]).trans (Prod.mk.inj cut).1)
    cases ends : endsPath c with
    | true => rw [List.nil_append, splitPath_ends ends]; rfl
    | false =>
      rw [List.nil_append, splitPath_cons ends]
      split <;> rfl
  | cons d rest ih =>
    cases ends : endsPath d with
    | true =>
      rw [splitPath_ends ends] at cut
      cases (Prod.mk.inj cut).2
    | false =>
      obtain ⟨begin, x, parts⟩ := exists_last_of_splitPath family rest
      rw [splitPath_cons ends, parts] at cut
      obtain ⟨whole, ended⟩ := Prod.mk.inj cut
      have ih := ih (Prod.ext parts ended)
      rw [List.cons_append, splitPath_cons ends, ih]
      cases slash : isSlash family d with
      | true =>
        rw [slash, if_pos rfl, ← List.cons_append] at whole
        obtain ⟨rfl, rfl⟩ := List.append_singleton_inj.1 whole
        cases endsPath c <;> cases isSlash family c <;> rfl
      | false =>
        rw [slash, if_neg Bool.false_ne_true] at whole
        cases begin with
        | nil =>
          obtain ⟨rfl, rfl⟩ := List.append_singleton_inj.1 ((List.nil_append _).trans whole)
          cases endsPath c <;> cases isSlash family c <;> rfl
        | cons first others =>
          rw [List.cons_append, lengthenFirst, ← List.cons_append] at whole
          obtain ⟨rfl, rfl⟩ := List.append_singleton_inj.1 whole
          cases endsPath c <;> cases isSlash family c <;> rfl

theorem splitPath_last {before : List (List Char)} {last : List Char}
    (cut : splitPath family text = (before ++ [last], [])) :
    last = [] ↔ ∀ c ∈ text.getLast?, isSlash family c = true := by
  rcases List.eq_nil_or_concat' text with rfl | ⟨early, c, rfl⟩
  · obtain ⟨-, rfl⟩ := List.append_singleton_inj.1
      ((List.nil_append [[]]).trans (Prod.mk.inj cut).1)
    simp
  · obtain ⟨begin, x, parts⟩ := exists_last_of_splitPath family early
    have ended : (splitPath family early).2 = [] := by
      refine Classical.byContradiction fun stops => ?_
      rw [splitPath_append_of_rest [c] stops] at cut
      simp at cut
    rw [splitPath_concat (Prod.ext parts ended)] at cut
    split at cut
    · cases (Prod.mk.inj cut).2
    · split at cut
      · next slash =>
        obtain ⟨-, rfl⟩ := List.append_singleton_inj.1 (Prod.mk.inj cut).1
        simp [slash]
      · next plain =>
        obtain ⟨-, rfl⟩ := List.append_singleton_inj.1 (Prod.mk.inj cut).1
        simp [plain]

theorem splitPath_slash {before : List (List Char)} {last : List Char}
    (cut : splitPath family text = (before ++ [last], [])) {more : List Char}
    (plain : ∀ c ∈ more, endsPath c = false ∧ isSlash family c = false) :
    splitPath family (text ++ (more ++ ['/'])) = (before ++ [last ++ more] ++ [[]], []) := by
  induction more generalizing text last with
  | nil =>
    rw [List.nil_append, splitPath_concat cut, List.append_nil]
    rfl
  | cons c more ih =>
    have here := plain c List.mem_cons_self
    have longer : splitPath family (text ++ [c]) = (before ++ [last ++ [c]], []) := by
      rw [splitPath_concat cut, here.1, here.2]
      rfl
    have ih := ih longer fun d member => plain d (List.mem_cons_of_mem _ member)
    simpa using ih

/-! ## Dots -/

theorem mem_foldDots {segment : List Char} {c : Char} (member : c ∈ segment) :
    c ∈ foldDots segment ∨ c ∈ ['%', '2', 'e', 'E'] := by
  fun_induction foldDots segment with
  | case1 rest ih | case2 rest ih =>
    simp only [List.mem_cons, List.not_mem_nil, or_false] at member ih ⊢
    grind
  | case3 d rest _ _ ih =>
    rcases List.mem_cons.1 member with rfl | member
    · exact .inl List.mem_cons_self
    · exact (ih member).imp_left (List.mem_cons_of_mem _)
  | case4 => cases member

def isDots (segment : List Char) : Bool := isParent segment || isHere segment

theorem isDots_eq_false {segment : List Char} {c : Char} (member : c ∈ segment)
    (other : c ∉ ['.', '%', '2', 'e', 'E']) : isDots segment = false := by
  have outside : c ≠ '.' ∧ c ∉ ['%', '2', 'e', 'E'] := by simpa using other
  have kept : c ∈ foldDots segment := (mem_foldDots member).resolve_right outside.2
  simp only [isDots, isParent, isHere, Bool.or_eq_false_iff, beq_eq_false_iff_ne]
  constructor
  · intro same
    simp [same, outside.1] at kept
  · intro same
    simp [same, outside.1] at kept

theorem foldDots_plain {segment : List Char} (plain : '%' ∉ segment) :
    foldDots segment = segment := by
  fun_induction foldDots segment with
  | case1 | case2 => exact (plain List.mem_cons_self).elim
  | case3 d rest _ _ ih => rw [ih fun member => plain (List.mem_cons_of_mem _ member)]
  | case4 => rfl

/-! ## Going along the segments -/

def stepInto (path : List (List Char)) (segment : List Char) : List (List Char) :=
  let segment := encode pathReserved segment
  if isParent segment then path.dropLast
  else if isHere segment then path
  else path ++ [segment]

theorem shorten_web (path : List (List Char)) : shorten .web path = path.dropLast := by
  unfold shorten
  split <;> rfl

theorem follow_web (path before : List (List Char)) (last : List Char) :
    follow .web path (before ++ [last]) =
      stepInto (before.foldl stepInto path) last ++
        if isDots (encode pathReserved last) then [[]] else [] := by
  induction before generalizing path with
  | nil =>
    simp only [List.nil_append, List.foldl_nil, follow, stepInto, shorten_web, addSegment, isDots,
      List.isEmpty_nil, if_true]
    by_cases parent : isParent (encode pathReserved last) = true
    · simp [parent]
    · by_cases here : isHere (encode pathReserved last) = true <;> simp [parent, here]
  | cons segment before ih =>
    rw [List.cons_append, follow, List.foldl_cons]
    have more : (before ++ [last]).isEmpty = false := by cases before <;> rfl
    simp only [more, shorten_web, addSegment, ih, stepInto]
    by_cases parent : isParent (encode pathReserved segment) = true
    · simp [parent]
    · by_cases here : isHere (encode pathReserved segment) = true <;> simp [parent, here]

theorem stepInto_plain {segment : List Char} (plain : isDots (encode pathReserved segment) = false)
    (path : List (List Char)) : stepInto path segment = path ++ [encode pathReserved segment] := by
  rw [isDots, Bool.or_eq_false_iff] at plain
  rw [stepInto, plain.1, plain.2]
  rfl

theorem length_stepInto_dots {segment : List Char}
    (dots : isDots (encode pathReserved segment) = true) (path : List (List Char)) :
    (stepInto path segment).length ≤ path.length := by
  rw [isDots, Bool.or_eq_true] at dots
  unfold stepInto
  dsimp only
  split
  · rw [List.length_dropLast]
    exact Nat.sub_le _ _
  · split
    · exact Nat.le_refl _
    · next parent here => exact (dots.elim parent here).elim

theorem encodeChar_ne_nil (c : Char) : encodeChar pathReserved c ≠ [] := by
  rw [encodeChar]
  split
  · exact List.cons_ne_nil _ _
  · intro none
    cases bytes : String.utf8EncodeChar c with
    | nil => exact String.utf8EncodeChar_ne_nil bytes
    | cons byte others =>
      rw [bytes] at none
      cases none

theorem encode_eq_nil {segment : List Char} : encode pathReserved segment = [] ↔ segment = [] := by
  cases segment with
  | nil => exact ⟨fun _ => rfl, fun _ => rfl⟩
  | cons c rest => simp [encode, encodeChar_ne_nil]

theorem isDots_edge {segment : List Char} {c : Char} (member : c ∈ segment)
    (edge : isEdge c = true) : isDots (encode pathReserved segment) = false := by
  have strange : (encodeChar pathReserved c).any
      (fun d => !List.contains ['.', '%', '2', 'e', 'E'] d) = true := by
    obtain ⟨n, rfl⟩ := exists_of_isEdge edge
    clear member edge
    revert n
    decide +kernel
  obtain ⟨d, inside, other⟩ := List.any_eq_true.1 strange
  exact isDots_eq_false (List.mem_flatMap.2 ⟨c, member, inside⟩) (by simpa using other)

/-! ## No slashes are left -/

abbrev NoSlash (parts : List (List Char)) : Prop := ∀ part ∈ parts, '/' ∉ part

theorem noSlash_cons {part : List Char} {parts : List (List Char)} :
    NoSlash (part :: parts) ↔ '/' ∉ part ∧ NoSlash parts := List.forall_mem_cons

theorem noSlash_concat {part : List Char} {parts : List (List Char)} :
    NoSlash (parts ++ [part]) ↔ NoSlash parts ∧ '/' ∉ part := by
  rw [NoSlash, List.forall_mem_append, List.forall_mem_singleton]

theorem splitPath_noSlash : NoSlash (splitPath family text).1 := by
  have bare : NoSlash [[]] := noSlash_cons.2 ⟨List.not_mem_nil, nofun⟩
  induction text with
  | nil => exact bare
  | cons c rest ih =>
    cases ends : endsPath c with
    | true =>
      rw [splitPath_ends ends]
      exact bare
    | false =>
      rw [splitPath_cons ends]
      cases slash : isSlash family c with
      | true => exact noSlash_cons.2 ⟨List.not_mem_nil, ih⟩
      | false =>
        have other : '/' ≠ c := by
          rintro rfl
          cases slash
        revert ih
        cases (splitPath family rest).1 with
        | nil => exact fun _ => noSlash_cons.2 ⟨by simp [other], nofun⟩
        | cons first others =>
          intro ih
          obtain ⟨first, others⟩ := noSlash_cons.1 ih
          exact noSlash_cons.2 ⟨by simp [other, first], others⟩

theorem encode_noSlash {segment : List Char} (plain : '/' ∉ segment) :
    '/' ∉ encode pathReserved segment := by
  intro member
  obtain ⟨c, inside, coded⟩ := List.mem_flatMap.1 member
  have digit : ∀ n : Fin 16, '/' ≠ Text.hexDigit n := by decide
  unfold encodeChar at coded
  split at coded
  · cases List.mem_singleton.1 coded
    exact plain inside
  · obtain ⟨byte, -, hex⟩ := List.mem_flatMap.1 coded
    have bound := byte.toNat_lt
    simp only [encodeByte, List.mem_cons, List.not_mem_nil, or_false] at hex
    rcases hex with sign | high | low
    · cases sign
    · exact digit ⟨byte.toNat / 16, by omega⟩ high
    · exact digit ⟨byte.toNat % 16, by omega⟩ low

theorem stepInto_noSlash {path : List (List Char)} {segment : List Char} (plain : NoSlash path)
    (inside : '/' ∉ segment) : NoSlash (stepInto path segment) := by
  unfold stepInto
  dsimp only
  split
  · exact fun part member => plain part (List.dropLast_subset _ member)
  · split
    · exact plain
    · exact noSlash_concat.2 ⟨plain, encode_noSlash inside⟩

theorem follow_noSlash {segments : List (List Char)} (plain : NoSlash segments) :
    NoSlash (follow .web [] segments) := by
  have walked {path segments : List (List Char)} (before : NoSlash path)
      (plain : NoSlash segments) : NoSlash (segments.foldl stepInto path) := by
    induction segments generalizing path with
    | nil => exact before
    | cons segment rest ih =>
      obtain ⟨inside, plain⟩ := noSlash_cons.1 plain
      exact ih (stepInto_noSlash before inside) plain
  rcases List.eq_nil_or_concat' segments with rfl | ⟨before, last, rfl⟩
  · rw [follow]
    exact nofun
  · obtain ⟨early, inside⟩ := noSlash_concat.1 plain
    have start : NoSlash [] := nofun
    have reached := stepInto_noSlash (walked start early) inside
    rw [follow_web]
    split
    · exact noSlash_concat.2 ⟨reached, List.not_mem_nil⟩
    · rwa [List.append_nil]

/-! ## A name below a path -/

def Path.below (path : Path) (name : List Char) : Path :=
  let parts := path.toSegments
  .segments ((if parts.getLast? = some [] then parts.dropLast else parts) ++ [name])

theorem below_of_slash (parts : List (List Char)) (name : List Char) :
    (Path.segments (parts ++ [[]])).below name = .segments (parts ++ [name]) := by
  simp [Path.below, Path.toSegments]

theorem below_of_name {last : List Char} (filled : last ≠ []) (parts : List (List Char))
    (name : List Char) :
    (Path.segments (parts ++ [last])).below name = .segments (parts ++ [last, name]) := by
  simp [Path.below, Path.toSegments, filled]

def closeWithSlash (text : List Char) : List Char :=
  if text.getLast? = some '/' then text else text ++ ['/']

theorem print_below {parts : List (List Char)} (plain : NoSlash parts) (name : List Char) :
    ((Path.segments parts).below name).print =
      closeWithSlash (Path.segments parts).print ++ name := by
  rcases List.eq_nil_or_concat' parts with rfl | ⟨before, last, rfl⟩
  · simp [Path.print, Path.below, Path.toSegments, closeWithSlash]
  · rcases List.eq_nil_or_concat' last with rfl | ⟨early, c, rfl⟩
    · rw [below_of_slash, closeWithSlash, if_pos (by simp [Path.print])]
      simp [Path.print]
    · have other : c ≠ '/' := by
        rintro rfl
        exact (noSlash_concat.1 plain).2 (by simp)
      have inner : (Path.segments (before ++ [early ++ [c]])).print.getLast? ≠ some '/' := by
        simp [Path.print, List.getLast?_cons, other]
      rw [below_of_name (by simp), closeWithSlash, if_neg inner]
      simp [Path.print]

theorem below_eq_iff {parts : List (List Char)} (filled : parts ≠ []) (name : List Char) :
    Path.segments (parts.dropLast ++ [name]) = (Path.segments parts).below name ↔
      parts.getLast? = some [] := by
  obtain ⟨before, last, rfl⟩ : ∃ before last, parts = before ++ [last] :=
    ⟨_, _, (List.dropLast_concat_getLast filled).symm⟩
  rw [List.dropLast_concat, List.getLast?_concat, Option.some_inj]
  by_cases slash : last = []
  · simp [slash, below_of_slash]
  · simp [slash, below_of_name slash]

theorem below_nil_iff {parts : List (List Char)} (filled : parts ≠ []) :
    Path.segments parts = (Path.segments parts).below [] ↔ parts.getLast? = some [] := by
  obtain ⟨before, last, rfl⟩ : ∃ before last, parts = before ++ [last] :=
    ⟨_, _, (List.dropLast_concat_getLast filled).symm⟩
  rw [List.getLast?_concat, Option.some_inj]
  by_cases slash : last = []
  · simp [slash, below_of_slash]
  · simp [slash, below_of_name slash]

theorem stepInto_below {last more : List Char} (edges : ∀ c ∈ more, isEdge c = true)
    (path : List (List Char)) (name : List Char) :
    Path.segments (stepInto path (last ++ more) ++ [name]) =
        (Path.segments (stepInto path last ++
          if isDots (encode pathReserved last) then [[]] else [])).below name ↔
      more = [] ∧ last ≠ [] := by
  cases more with
  | nil =>
    -- Both go on from the same segment, but an empty one is there twice.
    rw [List.append_nil]
    cases dots : isDots (encode pathReserved last) with
    | true =>
      have filled : last ≠ [] := by
        rintro rfl
        cases dots
      simp [below_of_slash, filled]
    | false =>
      by_cases none : last = []
      · subst none
        simp [stepInto_plain dots, encode, below_of_slash]
      · have filled := mt encode_eq_nil.1 none
        simp [stepInto_plain dots, below_of_name filled, none]
  | cons c more =>
    have edge := edges c List.mem_cons_self
    have plain : isDots (encode pathReserved (last ++ c :: more)) = false :=
      isDots_edge (List.mem_append_right _ List.mem_cons_self) edge
    -- The last segment has become another one, and it is kept even if it was dots before.
    rw [stepInto_plain plain]
    refine iff_of_false ?_ fun both => List.cons_ne_nil _ _ both.1
    cases dots : isDots (encode pathReserved last) with
    | true =>
      rw [if_pos rfl, below_of_slash, Path.segments.injEq]
      intro same
      have lengths := congrArg List.length same
      have short := length_stepInto_dots dots path
      simp at lengths
      omega
    | false =>
      rw [stepInto_plain dots]
      by_cases none : last = []
      · subst none
        simp [encode, below_of_slash]
      · have filled := mt encode_eq_nil.1 none
        simp [below_of_name filled, encode_append, encode_eq_nil]

/-! ## Reading a path -/

theorem readPath_web (path : List (List Char)) (text : List Char) :
    readPath .web path text =
      (.segments (follow .web path (splitPath .web text).1), (splitPath .web text).2) := rfl

theorem readPath_segments (text : List Char) :
    ∃ parts, parts ≠ [] ∧ NoSlash parts ∧ (readPath .web [] text).1 = .segments parts := by
  obtain ⟨before, last, cut⟩ := exists_last_of_splitPath .web text
  refine ⟨_, ?_, follow_noSlash splitPath_noSlash, rfl⟩
  rw [cut, follow_web]
  cases dots : isDots (encode pathReserved last) with
  | true => simp
  | false => simp [stepInto_plain dots]

theorem readPath_append_of_rest (more : List Char) (stops : (readPath .web [] text).2 ≠ []) :
    readPath .web [] (text ++ more) =
      ((readPath .web [] text).1, (readPath .web [] text).2 ++ more) := by
  rw [readPath_web, splitPath_append_of_rest more stops]
  rfl

theorem isSlash_edge {c : Char} (edge : isEdge c = true) :
    endsPath c = false ∧ isSlash .web c = false := by
  obtain ⟨n, rfl⟩ := exists_of_isEdge edge
  clear edge
  revert n
  decide +kernel

theorem readPath_slash (ended : (readPath .web [] text).2 = []) {more : List Char}
    (edges : ∀ c ∈ more, isEdge c = true) :
    ∃ reached, readPath .web [] (text ++ (more ++ ['/'])) = (.segments (reached ++ [[]]), []) ∧
      ∀ name, Path.segments (reached ++ [name]) = (readPath .web [] text).1.below name ↔
        more = [] ∧ ∃ c ∈ text.getLast?, isSlash .web c = false := by
  obtain ⟨before, last, cut⟩ := exists_last_of_splitPath .web text
  have cut : splitPath .web text = (before ++ [last], []) := Prod.ext cut ended
  have solid : last ≠ [] ↔ ∃ c ∈ text.getLast?, isSlash .web c = false := by
    rw [Ne, splitPath_last cut]
    simp
  have plain := fun c member => isSlash_edge (edges c member)
  have empty : isDots (encode pathReserved []) = false := rfl
  refine ⟨stepInto (before.foldl stepInto []) (last ++ more), ?_, fun name => ?_⟩
  · rw [readPath_web, splitPath_slash cut plain, List.append_assoc, ← List.append_assoc,
      follow_web, List.foldl_append, stepInto_plain empty, empty, if_neg Bool.false_ne_true,
      List.append_nil]
    rfl
  · rw [readPath_web, cut, follow_web, ← solid]
    exact stepInto_below edges _ name

def pathBody (text : List Char) : List Char :=
  match text with
  | [] => []
  | c :: rest => if isSlash .web c then rest else text

theorem readRootPath_web (text : List Char) :
    readRootPath .web text = readPath .web [] (pathBody text) := by
  cases text with
  | nil => rfl
  | cons c rest =>
    rw [readRootPath, pathBody]
    split
    · rfl
    · rfl

theorem pathBody_append {c : Char} {rest : List Char} (more : List Char) :
    pathBody (c :: rest ++ more) = pathBody (c :: rest) ++ more := by
  rw [List.cons_append, pathBody, pathBody]
  split <;> rfl

theorem pathBody_last :
    (∃ c ∈ (pathBody text).getLast?, isSlash .web c = false) ↔
      ∃ c ∈ text.getLast?, isSlash .web c = false := by
  cases text with
  | nil => rfl
  | cons c rest =>
    rw [pathBody]
    split
    · next slash => cases rest <;> simp [slash, List.getLast?_cons]
    · rfl

theorem segments_of_parse [Idna] {text : String} {url : Url} (parsed : parse text = .ok url)
    (web : Family.ofScheme url.scheme = .web) :
    ∃ parts, parts ≠ [] ∧ NoSlash parts ∧ url.path = .segments parts := by
  obtain ⟨scheme, rest, -, web, read⟩ := parse_web.1 ⟨parsed, web⟩
  obtain ⟨front, beyond, parts, within, goes⟩ := exists_authority (rest.dropWhile (isSlash .web))
  rw [parts, readAuthority_web web within goes, readRootPath_web] at read
  cases found : authorityOf scheme front with
  | error error =>
    rw [found] at read
    cases read
  | ok authority =>
    rw [found] at read
    cases read
    exact readPath_segments _

theorem print_below_of_parse [Idna] {address : String} {url : Url}
    (parsed : parse address = .ok url) (web : Family.ofScheme url.scheme = .web) (name : List Char) :
    (url.path.below name).print = closeWithSlash url.path.print ++ name := by
  obtain ⟨parts, -, plain, path⟩ := segments_of_parse parsed web
  rw [path]
  exact print_below plain name

/-! ## Names -/

theorem exists_of_isLetter {c : Char} (letter : isLetter c = true) :
    ∃ n : Fin 123, c = Char.ofNat n := by
  refine exists_of_toNat_le ?_
  simp only [isLetter, Bool.or_eq_true, Bool.and_eq_true, decide_eq_true_eq] at letter
  rcases letter with ⟨-, below⟩ | ⟨-, below⟩
  · exact UInt32.le_iff_toNat_le.1 below
  · exact Nat.le_trans (UInt32.le_iff_toNat_le.1 below) (by decide)

theorem letter_plain {c : Char} (letter : isLetter c = true) :
    isEdge c = false ∧ isIgnored c = false ∧ isSchemeChar c = true ∧ endsAuthority .web c = false ∧
      encodeChar pathReserved c = [c] ∧ c ≠ '%' ∧ c ≠ '.' := by
  obtain ⟨n, rfl⟩ := exists_of_isLetter letter
  revert n
  decide +kernel

variable {name : List Char}

theorem clean_letters (letters : ∀ c ∈ name, isLetter c = true) : clean name = name := by
  have edges {text : List Char} (same : ∀ c ∈ text, isLetter c = true) :
      text.dropWhile isEdge = text := by
    cases text with
    | nil => rfl
    | cons c rest =>
      refine List.dropWhile_cons_of_neg ?_
      simp [(letter_plain (same c List.mem_cons_self)).1]
  rw [clean_eq, edges letters, edges fun c member => letters c (List.mem_reverse.1 member),
    List.reverse_reverse, List.filter_eq_self]
  intro c member
  rw [(letter_plain (letters c member)).2.1]
  rfl

theorem takeScheme?_letters (letters : ∀ c ∈ name, isLetter c = true) :
    takeScheme? name = none := by
  have none : name.dropWhile isSchemeChar = [] := by
    rw [← List.append_nil name, List.dropWhile_append_of_pos
      fun c member => (letter_plain (letters c member)).2.2.1]
    rfl
  cases name with
  | nil => rfl
  | cons c rest => rw [takeScheme?, none, ite_self]

theorem splitPath_letters (letters : ∀ c ∈ name, isLetter c = true) :
    splitPath .web name = ([name], []) := by
  induction name with
  | nil => rfl
  | cons c rest ih =>
    have ends := (letter_plain (letters c List.mem_cons_self)).2.2.2.1
    rw [endsAuthority, Bool.or_eq_false_iff] at ends
    rw [splitPath_cons ends.2, ih fun d member => letters d (List.mem_cons_of_mem _ member),
      ends.1]
    rfl

theorem encode_letters (letters : ∀ c ∈ name, isLetter c = true) :
    encode pathReserved name = name := by
  induction name with
  | nil => rfl
  | cons c rest ih =>
    have here := (letter_plain (letters c List.mem_cons_self)).2.2.2.2.1
    rw [encode, List.flatMap_cons, here]
    exact congrArg (c :: ·) (ih fun d member => letters d (List.mem_cons_of_mem _ member))

theorem isDots_letters (letters : ∀ c ∈ name, isLetter c = true) : isDots name = false := by
  have sign : '%' ∉ name := fun member => (letter_plain (letters _ member)).2.2.2.2.2.1 rfl
  have dot : '.' ∉ name := fun member => (letter_plain (letters _ member)).2.2.2.2.2.2 rfl
  simp only [isDots, isParent, isHere, foldDots_plain sign, Bool.or_eq_false_iff,
    beq_eq_false_iff_ne]
  constructor <;>
  · rintro rfl
    exact dot List.mem_cons_self

theorem join_web [Idna] {base : Url} {parts : List (List Char)} {endpoint : String}
    (path : base.path = .segments parts) (web : Family.ofScheme base.scheme = .web)
    (letters : ∀ c ∈ endpoint.toList, isLetter c = true) :
    base.join endpoint = readRelative base endpoint.toList := by
  have rooted : isRootless base = false := by rw [isRootless, path]
  have sign : endpoint.toList.head? ≠ some '#' := by
    intro first
    have letter := letters _ (List.mem_of_mem_head? first)
    cases letter
  have other : Family.ofScheme base.scheme ≠ .file := by
    rw [web]
    exact nofun
  unfold join read
  simp only [clean_letters letters, takeScheme?_letters letters, rooted, if_neg sign, if_neg other,
    Bool.false_eq_true, if_false]

theorem readRelative_name [Idna] {base : Url} {parts : List (List Char)} {name : List Char}
    (path : base.path = .segments parts) (web : Family.ofScheme base.scheme = .web)
    (letters : ∀ c ∈ name, isLetter c = true) (filled : name ≠ []) :
    readRelative base name =
      .ok (assemble base.scheme base.authority (.segments (parts.dropLast ++ [name]), [])) := by
  have placed : readPath .web parts.dropLast name =
      (.segments (parts.dropLast ++ [name]), []) := by
    have dots := isDots_letters letters
    rw [← encode_letters letters] at dots
    rw [readPath_web, splitPath_letters letters, ← List.nil_append [name], follow_web,
      List.foldl_nil, stepInto_plain dots, dots, encode_letters letters]
    simp
  cases name with
  | nil => exact (filled rfl).elim
  | cons c rest =>
    have letter := letters c List.mem_cons_self
    have ends := (letter_plain letter).2.2.2.1
    simp only [endsAuthority, isSlash, Family.isSpecial, endsPath, Bool.true_and,
      Bool.or_eq_false_iff, beq_eq_false_iff_ne] at ends
    obtain ⟨⟨slash, back⟩, query, fragment⟩ := ends
    unfold readRelative
    split
    · next same => cases same
    · next same => exact (query (List.cons.inj same).1).elim
    · next same => exact (fragment (List.cons.inj same).1).elim
    · next same => exact (slash (List.cons.inj same).1).elim
    · next d others _ _ _ same =>
      cases same
      simp [slash, back, web, path, Path.toSegments, placed]

end PracticeClient.Url
