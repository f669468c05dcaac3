import PracticeClient.Proofs.Text.Utf8
import PracticeClient.Proofs.Url.Trimming

namespace PracticeClient.Url

def readPlace [Idna] (scheme text : List Char) : Except Error (Host × Option Nat × List Char) := do
  let (host, rest) ← readHost .web text
  match rest with
  | ':' :: rest => (readPort scheme rest).map (host, ·)
  | _ => pure (host, none, rest)

def authorityOf [Idna] (scheme text : List Char) : Except Error Authority :=
  let parts := ((splitLastAt text).map fun parts => (some parts.1, parts.2)).getD (none, text)
  let user := (parts.1.map readUser).getD ([], none)
  (readPlace scheme parts.2).bind fun read =>
    let result : Authority := ⟨user.1, user.2, read.1, read.2.1⟩
    if read.1.isEmpty && hasCredentials result then .error .emptyHost else .ok result

def GoesBeyond (text : List Char) : Prop :=
  ∀ c ∈ text.head?, endsAuthority .web c = true

abbrev Within (text : List Char) : Prop :=
  ∀ c ∈ text, endsAuthority .web c = false

variable {text beyond scheme : List Char}

theorem takeHost_append (within : Within text) (goes : GoesBeyond beyond) (inBrackets : Bool) :
    takeHost .web inBrackets (text ++ beyond) =
      ((takeHost .web inBrackets text).1, (takeHost .web inBrackets text).2 ++ beyond) := by
  induction text generalizing inBrackets with
  | nil =>
    cases beyond with
    | nil => rfl
    | cons c rest => simp [takeHost, goes c rfl]
  | cons c text ih =>
    have inside := within c List.mem_cons_self
    have ih := ih fun d member => within d (List.mem_cons_of_mem _ member)
    rw [List.cons_append, takeHost, takeHost, inside]
    by_cases colon : (c == ':' && !inBrackets) = true
    · simp [colon]
    · simp only [colon, Bool.false_or, Bool.false_eq_true, if_false, ih]

theorem takeHost_parts (inBrackets : Bool) :
    (takeHost .web inBrackets text).1 ++ (takeHost .web inBrackets text).2 = text := by
  induction text generalizing inBrackets with
  | nil => rfl
  | cons c text ih =>
    rw [takeHost]
    split
    · rfl
    · exact congrArg (c :: ·) (ih _)

theorem readHost_append [Idna] (within : Within text) (goes : GoesBeyond beyond) :
    readHost .web (text ++ beyond) =
      (readHost .web text).map fun read => (read.1, read.2 ++ beyond) := by
  simp only [readHost, takeHost_append within goes, Family.isSpecial, if_true]
  split
  · rfl
  · cases Host.parse (takeHost .web false text).1 <;> rfl

theorem endsAuthority_web (c : Char) :
    endsAuthority .web c = (c == '/' || c == '\\' || endsPath c) := rfl

theorem not_isDigit_of_ends {c : Char} (ends : endsAuthority .web c = true) :
    c.isDigit = false := by
  simp only [endsAuthority_web, endsPath, Bool.or_eq_true, beq_iff_eq] at ends
  rcases ends with (rfl | rfl) | rfl | rfl <;> rfl

def endsPort : List Char → Bool
  | [] => true
  | c :: _ => endsAuthority .web c

theorem readPort_eq (scheme text : List Char) :
    readPort scheme text =
      let port := Host.readNumber 10 (text.takeWhile Char.isDigit)
      let rest := text.dropWhile Char.isDigit
      if 65535 < port || !endsPort rest then .error .invalidPort
      else if (text.takeWhile Char.isDigit).isEmpty || usualPort? scheme = some port then
        .ok (none, rest)
      else .ok (some port, rest) := by
  unfold readPort
  cases text.dropWhile Char.isDigit <;> rfl

theorem readPort_append (goes : GoesBeyond beyond) :
    readPort scheme (text ++ beyond) =
      (readPort scheme text).map fun read => (read.1, read.2 ++ beyond) := by
  have none : beyond.takeWhile Char.isDigit = [] ∧ beyond.dropWhile Char.isDigit = beyond := by
    cases beyond with
    | nil => exact ⟨rfl, rfl⟩
    | cons c rest =>
      have other : ¬c.isDigit = true := by simp [not_isDigit_of_ends (goes c rfl)]
      exact ⟨List.takeWhile_cons_of_neg other, List.dropWhile_cons_of_neg other⟩
  have taken : (text ++ beyond).takeWhile Char.isDigit = text.takeWhile Char.isDigit := by
    rw [List.takeWhile_append, none.1, List.append_nil]
    split
    · next whole =>
      exact (List.IsPrefix.eq_of_length (List.takeWhile_prefix Char.isDigit) whole).symm
    · rfl
  have dropped : (text ++ beyond).dropWhile Char.isDigit =
      text.dropWhile Char.isDigit ++ beyond := by
    rw [List.dropWhile_append, none.2]
    split
    · next empty => rw [List.isEmpty_iff.1 empty, List.nil_append]
    · rfl
  have ends : endsPort (text.dropWhile Char.isDigit ++ beyond) =
      endsPort (text.dropWhile Char.isDigit) := by
    cases text.dropWhile Char.isDigit with
    | cons d rest => rfl
    | nil =>
      cases beyond with
      | nil => rfl
      | cons c rest => exact goes c rfl
  rw [readPort_eq, readPort_eq]
  simp only [taken, dropped, ends]
  split
  · rfl
  · split <;> rfl

theorem within_of_takeHost (within : Within text) (inBrackets : Bool) :
    Within (takeHost .web inBrackets text).2 := by
  intro c member
  refine within c ?_
  rw [← @takeHost_parts text inBrackets]
  exact List.mem_append_right _ member

theorem colon_of_takeHost (within : Within text) (inBrackets : Bool) :
    ∀ c ∈ (takeHost .web inBrackets text).2.head?, c = ':' := by
  induction text generalizing inBrackets with
  | nil => exact nofun
  | cons c text ih =>
    rw [takeHost, within c List.mem_cons_self]
    split
    · next colon =>
      rintro _ ⟨⟩
      simp only [Bool.false_or, Bool.and_eq_true, beq_iff_eq] at colon
      exact colon.1
    · exact ih (fun d member => within d (List.mem_cons_of_mem _ member)) _

theorem readHost_rest [Idna] {host : Host} {rest : List Char}
    (read : readHost .web text = .ok (host, rest)) : rest = (takeHost .web false text).2 := by
  simp only [readHost, Family.isSpecial, if_true] at read
  split at read
  · cases read
  · cases parsed : Host.parse (takeHost .web false text).1 with
    | error error =>
      rw [parsed] at read
      cases read
    | ok host =>
      rw [parsed] at read
      cases read
      rfl

theorem readPort_rest (within : Within text) {port : Option Nat} {rest : List Char}
    (read : readPort scheme text = .ok (port, rest)) :
    text.dropWhile Char.isDigit = [] ∧ rest = [] := by
  have ends : endsPort (text.dropWhile Char.isDigit) = true → text.dropWhile Char.isDigit = [] := by
    intro ends
    cases dropped : text.dropWhile Char.isDigit with
    | nil => rfl
    | cons c others =>
      have member : c ∈ text := (List.dropWhile_suffix Char.isDigit).subset (by
        rw [dropped]
        exact List.mem_cons_self)
      rw [dropped, endsPort, within c member] at ends
      cases ends
  rw [readPort_eq] at read
  dsimp only at read
  split at read
  · cases read
  · next fine =>
    simp only [Bool.or_eq_true, Bool.not_eq_true', not_or, Bool.not_eq_false] at fine
    have none := ends fine.2
    refine ⟨none, ?_⟩
    split at read <;>
    · cases read
      exact none

theorem readPlace_append [Idna] (within : Within text) (goes : GoesBeyond beyond) :
    readPlace scheme (text ++ beyond) =
      (readPlace scheme text).map fun read => (read.1, read.2.1, beyond) := by
  rw [readPlace, readPlace, readHost_append within goes]
  cases found : readHost .web text with
  | error error => rfl
  | ok read =>
    obtain ⟨host, rest⟩ := read
    have here := readHost_rest found
    have inside : Within rest := here ▸ within_of_takeHost within false
    have first : ∀ c ∈ rest.head?, c = ':' := here ▸ colon_of_takeHost within false
    cases rest with
    | nil =>
      cases beyond with
      | nil => rfl
      | cons c others =>
        have ends := goes c rfl
        by_cases colon : c = ':'
        · subst colon
          cases ends
        · simp [Except.map, bind, Except.bind, pure, Except.pure, colon]
    | cons c rest =>
      cases first c rfl
      have inside : Within rest := fun d member => inside d (List.mem_cons_of_mem _ member)
      simp only [Except.map, bind, Except.bind, List.cons_append, readPort_append goes]
      cases port : readPort scheme rest with
      | error error => rfl
      | ok read =>
        obtain ⟨port, last⟩ := read
        cases (readPort_rest inside port).2
        rfl

theorem within_of_splitLastAt {user place : List Char} (within : Within text)
    (split : splitLastAt text = some (user, place)) : Within place := by
  unfold splitLastAt at split
  split at split
  · cases split
    intro c member
    have inside := (List.takeWhile_prefix _).subset (List.mem_reverse.1 member)
    exact within c (List.mem_reverse.1 inside)
  · cases split

def partsOf (text beyond : List Char) : Option (List Char) × List Char :=
  ((splitLastAt text).map fun parts => (some parts.1, parts.2 ++ beyond)).getD
    (none, text ++ beyond)

theorem readAuthority_eq [Idna] (web : Family.ofScheme scheme = .web) (text : List Char) :
    readAuthority scheme text =
      let parts := partsOf (text.takeWhile (!endsAuthority .web ·))
        (text.dropWhile (!endsAuthority .web ·))
      let user := (parts.1.map readUser).getD ([], none)
      if parts.1 = some [] && lacksHost .web parts.2 then .error .emptyHost
      else (readPlace scheme parts.2).bind fun read =>
        let result : Authority := ⟨user.1, user.2, read.1, read.2.1⟩
        if read.1.isEmpty && hasCredentials result then .error .emptyHost
        else .ok (assemble scheme (some result) (readRootPath .web read.2.2)) := by
  have whole := @List.takeWhile_append_dropWhile _ (!endsAuthority .web ·) text
  unfold readAuthority
  simp only [web, partsOf, whole]
  cases splitLastAt (text.takeWhile (!endsAuthority .web ·)) <;>
  · dsimp only [Option.map_none, Option.map_some, Option.getD_none, Option.getD_some]
    split
    · rfl
    · rw [readPlace]
      generalize readHost .web _ = found
      rcases found with error | ⟨host, rest⟩
      · rfl
      · rcases rest with none | ⟨c, rest⟩
        · rfl
        · by_cases colon : c = ':'
          · subst colon
            simp only [bind, Except.bind]
            cases readPort scheme rest <;> rfl
          · simp [bind, Except.bind, pure, Except.pure, colon]

theorem readPlace_authority [Idna] (within : Within text) (goes : GoesBeyond beyond)
    (user : List Char × Option (List Char)) :
    ((readPlace scheme (text ++ beyond)).bind fun read =>
      let result : Authority := ⟨user.1, user.2, read.1, read.2.1⟩
      if read.1.isEmpty && hasCredentials result then .error .emptyHost
      else .ok (assemble scheme (some result) (readRootPath .web read.2.2))) =
    ((readPlace scheme text).bind fun read =>
      let result : Authority := ⟨user.1, user.2, read.1, read.2.1⟩
      if read.1.isEmpty && hasCredentials result then .error .emptyHost else .ok result).map
        fun authority => assemble scheme (some authority) (readRootPath .web beyond) := by
  rw [readPlace_append within goes]
  cases readPlace scheme text with
  | error error => rfl
  | ok read =>
    simp only [Except.map, Except.bind]
    split <;> rfl

theorem readAuthority_web [Idna] (web : Family.ofScheme scheme = .web) (within : Within text)
    (goes : GoesBeyond beyond) :
    readAuthority scheme (text ++ beyond) =
      (authorityOf scheme text).map fun authority =>
        assemble scheme (some authority) (readRootPath .web beyond) := by
  have inside : ∀ c ∈ text, (!endsAuthority .web c) = true := fun c member => by
    rw [within c member]
    rfl
  have none : beyond.takeWhile (!endsAuthority .web ·) = [] ∧
      beyond.dropWhile (!endsAuthority .web ·) = beyond := by
    cases beyond with
    | nil => exact ⟨rfl, rfl⟩
    | cons c rest =>
      have other : ¬(!endsAuthority .web c) = true := by simp [goes c rfl]
      exact ⟨List.takeWhile_cons_of_neg other, List.dropWhile_cons_of_neg other⟩
  rw [readAuthority_eq web, List.takeWhile_append_of_pos inside,
    List.dropWhile_append_of_pos inside, none.1, none.2, List.append_nil]
  unfold authorityOf partsOf
  cases found : splitLastAt text with
  | none => exact readPlace_authority within goes ([], Option.none)
  | some parts =>
    obtain ⟨user, placed⟩ := parts
    have within := within_of_splitLastAt within found
    dsimp only [Option.map_some, Option.getD_some]
    split
    · -- What stands after the last `@` ends no authority by itself, so it is empty.
      next empty =>
      simp only [Bool.and_eq_true] at empty
      have nothing : placed = [] := by
        cases placed with
        | nil => rfl
        | cons c rest =>
          have ends := empty.2
          rw [List.cons_append, lacksHost, within c List.mem_cons_self] at ends
          cases ends
      rw [nothing]
      rfl
    · exact readPlace_authority within goes (readUser user)

/-! ## Ends that are refused -/

theorem decode_concat {c : Char} (digit : Text.hexValue? c = none) (text : List Char) :
    ∃ bytes, decode (text ++ [c]) = bytes ++ String.utf8EncodeChar c := by
  -- After a percent sign the decoder looks two characters ahead, and may find `c` there.
  fun_induction decode text with
  | case1 => exact ⟨[], by simp [decode]⟩
  | case2 a b rest high low second first ih =>
    obtain ⟨bytes, same⟩ := ih
    refine ⟨UInt8.ofNat (high * 16 + low) :: bytes, ?_⟩
    rw [List.cons_append, List.cons_append, List.cons_append, decode]
    simp only [first, second, same, List.cons_append]
  | case3 a b rest unlike ih =>
    obtain ⟨bytes, same⟩ := ih
    refine ⟨String.utf8EncodeChar '%' ++ bytes, ?_⟩
    rw [List.append_assoc, ← same, List.cons_append, List.cons_append, List.cons_append, decode]
    split
    · next high low first second => exact (unlike _ _ first second).elim
    · rfl
  | case4 d rest other ih =>
    obtain ⟨bytes, same⟩ := ih
    refine ⟨String.utf8EncodeChar d ++ bytes, ?_⟩
    rw [List.append_assoc, ← same, List.cons_append]
    cases rest with
    | nil => rw [List.nil_append, decode]; exact nofun
    | cons a rest =>
      cases rest with
      | nil =>
        by_cases sign : d = '%'
        · subst sign
          rw [List.cons_append, List.nil_append, decode, digit]
          cases Text.hexValue? a <;> rfl
        · rw [decode]
          exact fun _ _ _ same _ => sign same
      | cons b rest =>
        rw [decode]
        rintro _ _ _ rfl -
        exact other a b rest rfl rfl

theorem refused_edge {c : Char} (edge : isEdge c = true) :
    c ≠ '@' ∧ c ≠ ':' ∧ c ≠ '[' ∧ c ≠ ']' ∧ c.isDigit = false ∧ Text.hexValue? c = none ∧
      endsAuthority .web c = false ∧
      ∃ byte < (0x80 : UInt8), String.utf8EncodeChar c = [byte] ∧
        (Host.isAscii (Char.ofNat byte.toNat).toLower &&
          !Host.isNameChar (Char.ofNat byte.toNat).toLower) = true := by
  obtain ⟨n, rfl⟩ := exists_of_isEdge edge
  have byte : ∀ n : Fin 33, String.utf8EncodeChar (Char.ofNat n) = [UInt8.ofNat n] := by
    decide +kernel
  have plain : ∀ n : Fin 33, Char.ofNat n ≠ '@' ∧ Char.ofNat n ≠ ':' ∧ Char.ofNat n ≠ '[' ∧
      Char.ofNat n ≠ ']' ∧ (Char.ofNat n).isDigit = false ∧
      Text.hexValue? (Char.ofNat n) = none ∧ endsAuthority .web (Char.ofNat n) = false := by
    decide +kernel
  have barred : ∀ n : Fin 33, UInt8.ofNat n < 0x80 ∧
      (Host.isAscii (Char.ofNat (UInt8.ofNat n).toNat).toLower &&
        !Host.isNameChar (Char.ofNat (UInt8.ofNat n).toNat).toLower) = true := by
    decide +kernel
  obtain ⟨at_sign, colon, opening, closing, digit, hex, inside⟩ := plain n
  exact ⟨at_sign, colon, opening, closing, digit, hex, inside, UInt8.ofNat n, (barred n).1, byte n,
    (barred n).2⟩

theorem asciiName?_edge [Idna] {c : Char} (edge : isEdge c = true) :
    Host.asciiName? (decode (text ++ [c])) = none := by
  obtain ⟨-, -, -, -, -, digit, -, byte, ascii, spelled, barred⟩ := refused_edge edge
  obtain ⟨bytes, same⟩ := decode_concat digit text
  unfold Host.asciiName?
  rw [same, spelled]
  cases decoded : Text.decode? (bytes ++ [byte]) with
  | none => rfl
  | some name =>
    have member := Text.mem_of_decode? ascii decoded
    have refused : (name.toList.map Char.toLower).any
        (fun c => Host.isAscii c && !Host.isNameChar c) = true :=
      List.any_eq_true.2 ⟨_, List.mem_map_of_mem member, barred⟩
    dsimp only
    rw [if_pos refused]

theorem host_edge [Idna] {c : Char} (edge : isEdge c = true) (host : Host) :
    Host.parse (text ++ [c]) ≠ .ok host := by
  intro parsed
  have closing := (refused_edge edge).2.2.2.1
  have bare : Host.bracketed? (text ++ [c]) ≠ some (.ok host) := by
    intro bracketed
    unfold Host.bracketed? at bracketed
    simp only [List.getLast?_concat, Option.some_inj, if_neg closing] at bracketed
    split at bracketed <;> cases bracketed
  rw [Host.parse] at parsed
  split at parsed
  · next result bracketed =>
    subst parsed
    exact bare bracketed
  · rw [asciiName?_edge edge] at parsed
    cases parsed

theorem within_append_edges (within : Within text) {edges : List Char}
    (all : ∀ c ∈ edges, isEdge c = true) : Within (text ++ edges) := by
  intro c member
  rcases List.mem_append.1 member with before | edge
  · exact within c before
  · exact (refused_edge (all c edge)).2.2.2.2.2.2.1

theorem readPlace_edge [Idna] (within : Within text) {c : Char} (edge : isEdge c = true)
    (read : Host × Option Nat × List Char) : readPlace scheme (text ++ [c]) ≠ .ok read := by
  intro placed
  obtain ⟨-, colon, -, -, digit, -⟩ := refused_edge edge
  have within := within_append_edges within (List.forall_mem_singleton.2 edge)
  have parts := @takeHost_parts (text ++ [c]) false
  have first := colon_of_takeHost within false
  have inside := within_of_takeHost within false
  -- The last character belongs to the host or to the port, and neither may hold it.
  rw [readPlace] at placed
  cases found : readHost .web (text ++ [c]) with
  | error error =>
    rw [found] at placed
    cases placed
  | ok reached =>
    obtain ⟨host, rest⟩ := reached
    have here := readHost_rest found
    rw [← here] at parts first inside
    cases rest with
    | nil =>
      rw [List.append_nil] at parts
      simp only [readHost, Family.isSpecial, if_true, parts] at found
      split at found
      · cases found
      · cases parsed : Host.parse (text ++ [c]) with
        | error error =>
          rw [parsed] at found
          cases found
        | ok host => exact host_edge edge host parsed
    | cons d rest =>
      cases first d rfl
      have last : (':' :: rest).getLast? = some c := by
        have whole := congrArg List.getLast? parts
        rw [List.getLast?_append, List.getLast?_concat] at whole
        simpa [List.getLast?_cons] using whole
      have member : c ∈ rest := by
        refine (List.mem_cons.1 (List.mem_of_getLast? last)).resolve_left colon
      rw [found] at placed
      simp only [bind, Except.bind] at placed
      cases port : readPort scheme rest with
      | error error =>
        rw [port] at placed
        cases placed
      | ok read =>
        have inside : Within rest := fun d member => inside d (List.mem_cons_of_mem _ member)
        rw [← @List.takeWhile_append_dropWhile _ Char.isDigit rest,
          (readPort_rest inside port).1, List.append_nil] at member
        have all := List.all_eq_true.1 List.all_takeWhile c member
        rw [digit] at all
        cases all

theorem splitLastAt_concat {c : Char} (other : c ≠ '@') :
    splitLastAt (text ++ [c]) =
      (splitLastAt text).map fun parts => (parts.1, parts.2 ++ [c]) := by
  have member : '@' ∈ text ++ [c] ↔ '@' ∈ text := by simp [Ne.symm other]
  unfold splitLastAt
  simp only [member, List.reverse_append, List.reverse_singleton, List.singleton_append]
  split
  · simp [other]
  · rfl

theorem authorityOf_edge [Idna] (within : Within text) {c : Char} (edge : isEdge c = true)
    (authority : Authority) : authorityOf scheme (text ++ [c]) ≠ .ok authority := by
  intro read
  have refused {place : List Char} (within : Within place)
      (result : Host × Option Nat × List Char → Except Error Authority) :
      (readPlace scheme (place ++ [c])).bind result ≠ .ok authority := by
    cases placed : readPlace scheme (place ++ [c]) with
    | error error => exact nofun
    | ok read => exact (readPlace_edge within edge read placed).elim
  unfold authorityOf at read
  rw [splitLastAt_concat (refused_edge edge).1] at read
  cases found : splitLastAt text with
  | none =>
    rw [found] at read
    exact refused within _ read
  | some parts =>
    obtain ⟨user, place⟩ := parts
    rw [found] at read
    exact refused (within_of_splitLastAt within found) _ read

theorem eq_nil_of_authorityOf [Idna] (within : Within text) {edges : List Char}
    (all : ∀ c ∈ edges, isEdge c = true) {authority : Authority}
    (read : authorityOf scheme (text ++ edges) = .ok authority) : edges = [] := by
  cases last : edges.getLast? with
  | none => exact List.getLast?_eq_none_iff.1 last
  | some c =>
    obtain ⟨early, rfl⟩ := List.getLast?_eq_some_iff.1 last
    obtain ⟨early, edge⟩ := List.forall_mem_append.1 all
    rw [← List.append_assoc] at read
    exact (authorityOf_edge (within_append_edges within early) (edge c List.mem_cons_self)
      authority read).elim

/-! ## Whole URLs -/

theorem ok_of_bind {α β : Type} {first : Except Error α} {next : α → Except Error β} {result : β}
    (both : first >>= next = .ok result) : ∃ a, first = .ok a ∧ next a = .ok result := by
  cases first with
  | error error => cases both
  | ok a => exact ⟨a, rfl, both⟩

theorem readAuthority_scheme [Idna] {url : Url} (read : readAuthority scheme text = .ok url) :
    url.scheme = scheme := by
  have finish {refused : Bool} {authority : Authority} {beyond : Path × List Char}
      (read : (if refused then .error Error.emptyHost
        else pure (assemble scheme (some authority) beyond)) = Except.ok url) :
      url.scheme = scheme := by
    split at read
    · cases read
    · cases read
      rfl
  unfold readAuthority at read
  dsimp only at read
  split at read <;>
  · split at read
    · cases read
    · obtain ⟨⟨host, rest⟩, -, read⟩ := ok_of_bind read
      dsimp only at read
      split at read <;>
      · obtain ⟨⟨port, rest⟩, -, read⟩ := ok_of_bind read
        exact finish read

theorem readFile_scheme [Idna] {url : Url} (read : readFile none text = .ok url) :
    url.scheme = fileScheme := by
  unfold readFile at read
  split at read
  · split at read
    · split at read
      · split at read
        · obtain ⟨⟨host, rest⟩, -, read⟩ := ok_of_bind read
          cases read
          rfl
        · cases read
          rfl
      · cases read
        rfl
    · cases read
      rfl
  · cases read
    rfl

theorem parse_web [Idna] {text : String} {url : Url} :
    parse text = .ok url ∧ Family.ofScheme url.scheme = .web ↔
      ∃ scheme rest, takeScheme? (clean text.toList) = some (scheme, rest) ∧
        Family.ofScheme scheme = .web ∧
        readAuthority scheme (rest.dropWhile (isSlash .web)) = .ok url := by
  constructor
  · rintro ⟨parsed, web⟩
    unfold parse read at parsed
    dsimp only at parsed
    split at parsed
    · next scheme rest taken =>
      refine ⟨scheme, rest, taken, ?_⟩
      unfold readAbsolute at parsed
      dsimp only at parsed
      split at parsed
      · rw [readFile_scheme parsed] at web
        cases web
      · next family => exact ⟨family, parsed⟩
      · next family =>
        split at parsed
        · rw [readAuthority_scheme parsed, family] at web
          cases web
        · cases parsed
          exact absurd (family.symm.trans web) nofun
        · cases parsed
          exact absurd (family.symm.trans web) nofun
    · cases parsed
  · rintro ⟨scheme, rest, taken, web, read⟩
    rw [readAuthority_scheme read]
    refine ⟨?_, web⟩
    unfold parse Url.read
    simp only [taken]
    unfold readAbsolute
    simp only [web]
    exact read

theorem exists_authority (text : List Char) :
    ∃ front beyond, text = front ++ beyond ∧ Within front ∧ GoesBeyond beyond := by
  refine ⟨text.takeWhile (!endsAuthority .web ·), text.dropWhile (!endsAuthority .web ·),
    List.takeWhile_append_dropWhile.symm, ?_, ?_⟩
  · intro c member
    simpa using List.all_eq_true.1 List.all_takeWhile c member
  · intro c first
    have stops := List.head?_dropWhile_not (!endsAuthority .web ·) text
    rw [first] at stops
    simpa using stops

theorem authorityOf_nil [Idna] (authority : Authority) :
    authorityOf scheme [] ≠ .ok authority :=
  nofun

theorem readAuthority_nil [Idna] (web : Family.ofScheme scheme = .web) (url : Url) :
    readAuthority scheme [] ≠ .ok url := by
  have empty : readAuthority scheme ([] ++ []) = _ := readAuthority_web web nofun nofun
  rw [List.append_nil] at empty
  rw [empty]
  exact nofun

end PracticeClient.Url
