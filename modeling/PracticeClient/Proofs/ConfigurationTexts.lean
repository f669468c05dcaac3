import PracticeClient.Config.Basic
import PracticeClient.Proofs.Json.Members

namespace PracticeClient.Config

open Json Grammar

/-! ## Spellings -/

inductive SpellsText : List Char → String → Prop
  | text {content : List Char} {text : String} (means : Means content text.toList) :
    SpellsText ('"' :: (content ++ ['"'])) text

inductive SpellsWord : List Char → UInt64 → Prop
  | word (number : UInt64) : SpellsWord (Nat.toDigits 10 number.toNat) number

/-- A kind of storage is a name, or an object whose only member has that name and is null. -/
inductive SpellsKind : List Char → StorageKind → Prop
  | name {spelling : List Char} {kind : StorageKind} (text : SpellsText spelling kind.name) :
    SpellsKind spelling kind
  | variant {content inside : List Char} {kind : StorageKind} (means : Means content kind.name.toList)
    (member : Derives (.members [(content, ['n', 'u', 'l', 'l'])]) inside) :
    SpellsKind ('\x7b' :: (inside ++ ['\x7d'])) kind

inductive SpellsUsername : List Char → Option String → Prop
  | null : SpellsUsername ['n', 'u', 'l', 'l'] none
  | text {spelling : List Char} {username : String} (text : SpellsText spelling username) :
    SpellsUsername spelling (some username)

inductive Named : List Entry → List (String × List Char) → Prop
  | nil : Named [] []
  | cons {content value : List Char} {name : String} {entries : List Entry}
    {members : List (String × List Char)} (means : Means content name.toList)
    (rest : Named entries members) : Named ((content, value) :: entries) ((name, value) :: members)

inductive Says {α : Type} (members : List (String × List Char)) (name : String)
    (spells : List Char → α → Prop) : Option α → Prop
  | nothing (absent : ∀ member ∈ members, member.1 ≠ name) : Says members name spells none
  | once {before after : List (String × List Char)} {spelling : List Char} {value : α}
    (whole : members = before ++ (name, spelling) :: after)
    (first : ∀ member ∈ before, member.1 ≠ name) (last : ∀ member ∈ after, member.1 ≠ name)
    (real : spells spelling value) : Says members name spells (some value)

structure Describes (members : List (String × List Char)) (draft : Draft) : Prop where
  baseUrl : Says members "base_url" SpellsText draft.baseUrl
  timeout : Says members "request_timeout_secs" SpellsWord draft.timeoutSeconds
  storage : Says members "storage" SpellsKind draft.storage
  lastUsername : Says members "last_username" SpellsUsername draft.lastUsername

/-! ## Member by member -/

/-- What members add to what there is already under a name. -/
def Adds {α : Type} (members : List (String × List Char)) (name : String)
    (spells : List Char → α → Prop) : Option α → Option α → Prop
  | none, after => Says members name spells after
  | some before, after => after = some before ∧ ∀ member ∈ members, member.1 ≠ name

section

variable {α : Type} {members : List (String × List Char)} {name other : String}
  {spells : List Char → α → Prop} {spelling : List Char} {before after : Option α}

theorem Adds.eq (adds : Adds [] name spells before after) : after = before := by
  cases before with
  | none =>
    cases adds with
    | nothing => rfl
    | once whole => simp at whole
  | some before => exact adds.1

theorem Adds.skip (adds : Adds ((other, spelling) :: members) name spells before after)
    (differ : other ≠ name) : Adds members name spells before after := by
  cases before with
  | none =>
    cases adds with
    | nothing absent => exact .nothing fun member there => absent member (List.mem_cons_of_mem _ there)
    | @once first _ _ _ whole absent last real =>
      cases first with
      | nil =>
        cases whole
        exact absurd rfl differ
      | cons entry first =>
        cases whole
        exact .once rfl (fun member there => absent member (List.mem_cons_of_mem _ there)) last real
  | some before => exact ⟨adds.1, fun member there => adds.2 member (List.mem_cons_of_mem _ there)⟩

theorem Adds.take (adds : Adds ((name, spelling) :: members) name spells before after) :
    before = none ∧ ∃ value, spells spelling value ∧
      Adds members name spells (some value) after := by
  cases before with
  | none =>
    refine ⟨rfl, ?_⟩
    cases adds with
    | nothing absent => exact absurd rfl (absent _ List.mem_cons_self)
    | @once first _ _ value whole absent last real =>
      cases first with
      | nil =>
        cases whole
        exact ⟨value, real, rfl, last⟩
      | cons entry first =>
        cases whole
        exact absurd rfl (absent _ List.mem_cons_self)
  | some before => exact absurd rfl (adds.2 _ List.mem_cons_self)

end

structure Completes (members : List (String × List Char)) (draft final : Draft) : Prop where
  baseUrl : Adds members "base_url" SpellsText draft.baseUrl final.baseUrl
  timeout : Adds members "request_timeout_secs" SpellsWord draft.timeoutSeconds
    final.timeoutSeconds
  storage : Adds members "storage" SpellsKind draft.storage final.storage
  lastUsername : Adds members "last_username" SpellsUsername draft.lastUsername final.lastUsername

/-! ## Values -/

section

variable {tree : Tree} {spelling : List Char}

theorem spells_text {text : String} (of : tree.Of spelling) (spells : SpellsText spelling text) :
    tree.Spells (.string text) := by
  cases spells with
  | text means => exact of.string means

theorem spells_word {number : UInt64} (of : tree.Of spelling) (spells : SpellsWord spelling number) :
    tree.Spells (.number (.integer number.toNat)) := by
  cases spells with
  | word => exact of.natural (Nat.le_sub_one_of_lt number.toNat_lt)

theorem spells_username {username : Option String} (of : tree.Of spelling)
    (spells : SpellsUsername spelling username) : tree.Spells (valueOf username) := by
  cases spells with
  | null => exact of.null
  | text text => exact spells_text of text

theorem choose_kind (kind : StorageKind) (place : Nat) :
    chooseName StorageKind.names kind.name place = .ok kind := by
  cases kind <;> rfl

theorem choice_of_spells {kind : StorageKind} (of : tree.Of spelling)
    (spells : SpellsKind spelling kind) : tree.choice StorageKind.names = .ok kind := by
  cases spells with
  | name text =>
    cases spells_text of text with
    | string read =>
      rw [Tree.choice, read]
      exact choose_kind kind _
  | variant means member =>
    obtain ⟨start, members, rfl, real⟩ := of.object member
    cases real with
    | member opening after named real rest =>
      cases rest
      have key := named.means means
      cases real.null with
      | null stop =>
        rw [Tree.choice, nameMember, key]
        simp only [bind, Except.bind, choose_kind]
        rfl

end

section

variable {tree : Tree} (draft : Draft)

theorem read_baseUrl {url : String} (spells : tree.Spells (.string url)) :
    baseUrlField.read tree draft = .ok { draft with baseUrl := some url } := by
  cases spells with
  | string read =>
    simp only [baseUrlField, Tree.fit, Tree.shape, read]
    rfl

theorem read_timeout {seconds : UInt64}
    (spells : tree.Spells (.number (.integer seconds.toNat))) :
    timeoutField.read tree draft = .ok { draft with timeoutSeconds := some seconds } := by
  cases spells with
  | number read =>
    have word : Shape.word (.number (.integer seconds.toNat)) = .ok seconds := by
      have small : seconds.toNat ≤ Nat.pow 2 64 - 1 := Nat.le_sub_one_of_lt seconds.toNat_lt
      change (Shape.natural (Nat.pow 2 64 - 1) "u64"
        (.number (.integer (.ofNat seconds.toNat)))).map UInt64.ofNat = _
      rw [Shape.natural, if_pos small]
      exact congrArg Except.ok (UInt64.ofNat_toNat)
    simp only [timeoutField, Tree.fit, Tree.shape, read, Except.map, bind, Except.bind, word]
    rfl

theorem read_storage {kind : StorageKind} (chosen : tree.choice StorageKind.names = .ok kind) :
    storageField.read tree draft = .ok { draft with storage := some kind } := by
  simp only [storageField, chosen, bind, Except.bind]
  rfl

theorem read_lastUsername {username : Option String}
    (spells : tree.Spells (valueOf username)) :
    lastUsernameField.read tree draft = .ok { draft with lastUsername := some username } := by
  cases username with
  | none =>
    cases spells
    rfl
  | some username =>
    cases spells with
    | string read =>
      simp only [lastUsernameField, Tree.fit, Tree.shape, read]
      rfl

end

/-! ## Texts -/

theorem find?_unknown {name : String} (baseUrl : name ≠ "base_url")
    (timeout : name ≠ "request_timeout_secs") (storage : name ≠ "storage")
    (lastUsername : name ≠ "last_username") :
    format.fields.find? (fun field => field.name == name) = none := by
  simp [format, baseUrlField, timeoutField, storageField, lastUsernameField, baseUrl.symm,
    timeout.symm, storage.symm, lastUsername.symm]

theorem readMembers_completes {tree : Json.Members} {entries : List Entry}
    {members : List (String × List Char)} {draft final : Draft} (of : tree.Of entries)
    (named : Named entries members) (completes : Completes members draft final) :
    format.readMembers tree draft = .ok final := by
  induction named generalizing tree draft with
  | nil =>
    cases of
    obtain ⟨baseUrl, timeout, storage, lastUsername⟩ := completes
    obtain ⟨_, _, _, _⟩ := final
    cases baseUrl.eq
    cases timeout.eq
    cases storage.eq
    cases lastUsername.eq
    rfl
  | @cons content value name entries members means rest ih =>
    cases of with
    | member opening after key real of =>
    have key := key.means means
    obtain ⟨baseUrl, timeout, storage, lastUsername⟩ := completes
    -- A known name fills its own field, which must be empty so far, and any other is skipped.
    by_cases first : name = "base_url"
    · subst first
      obtain ⟨fresh, url, spells, baseUrl⟩ := baseUrl.take
      rw [readMembers_field opening after key rfl (congrArg Option.isSome fresh)
        (read_baseUrl draft (spells_text real spells))]
      exact ih of ⟨baseUrl, timeout.skip (by decide), storage.skip (by decide),
        lastUsername.skip (by decide)⟩
    by_cases second : name = "request_timeout_secs"
    · subst second
      obtain ⟨fresh, seconds, spells, timeout⟩ := timeout.take
      rw [readMembers_field opening after key rfl (congrArg Option.isSome fresh)
        (read_timeout draft (spells_word real spells))]
      exact ih of ⟨baseUrl.skip first, timeout, storage.skip (by decide),
        lastUsername.skip (by decide)⟩
    by_cases third : name = "storage"
    · subst third
      obtain ⟨fresh, kind, spells, storage⟩ := storage.take
      rw [readMembers_field opening after key rfl (congrArg Option.isSome fresh)
        (read_storage draft (choice_of_spells real spells))]
      exact ih of ⟨baseUrl.skip first, timeout.skip second, storage, lastUsername.skip (by decide)⟩
    by_cases fourth : name = "last_username"
    · subst fourth
      obtain ⟨fresh, username, spells, lastUsername⟩ := lastUsername.take
      rw [readMembers_field opening after key rfl (congrArg Option.isSome fresh)
        (read_lastUsername draft (spells_username real spells))]
      exact ih of ⟨baseUrl.skip first, timeout.skip second, storage.skip third, lastUsername⟩
    · rw [readMembers_unknown _ draft opening after key (find?_unknown first second third fourth)
        real.skips]
      exact ih of ⟨baseUrl.skip first, timeout.skip second, storage.skip third,
        lastUsername.skip fourth⟩

theorem ofText_described {text : String} {entries : List Entry}
    {members : List (String × List Char)} {draft : Draft} (object : IsObject text.toList entries)
    (named : Named entries members) (describes : Describes members draft) :
    ofText text = .ok draft.settle := by
  obtain ⟨start, tree, document, of⟩ := ofText_of_isObject object
  have completes : Completes members .blank draft :=
    ⟨describes.baseUrl, describes.timeout, describes.storage, describes.lastUsername⟩
  rw [ofText, decode_of_ofText document, ofTree, RecordFormat.read]
  exact congrArg (Except.map Draft.settle) (readMembers_completes of named completes)

/-! ## Reading what was written -/

theorem isLeaf_members (config : Config) : ∀ entry ∈ config.members, entry.2.IsLeaf := by
  have small : config.timeoutSeconds.toNat ≤ Numeral.greatestWord :=
    Nat.le_sub_one_of_lt config.timeoutSeconds.toNat_lt
  intro entry member
  simp only [members, List.mem_cons, List.not_mem_nil, or_false] at member
  rcases member with rfl | rfl | rfl | rfl
  · exact .string _
  · exact .natural small
  · exact .string _
  · cases config.lastUsername with
    | none => exact .null
    | some username => exact .string username

theorem named_spelled (entries : List (String × Value)) :
    Named (entries.map spelled) (entries.map fun entry => (entry.1, entry.2.print)) := by
  induction entries with
  | nil => exact .nil
  | cons entry rest ih => exact .cons (means_escaped entry.1.toList) ih

def draft (config : Config) : Draft :=
  ⟨some config.baseUrl, some config.timeoutSeconds, some config.storage, some config.lastUsername⟩

theorem once_of_mem {α : Type} {members : List (String × List Char)} {name : String}
    {spells : List Char → α → Prop} {spelling : List Char} {value : α}
    (distinct : (members.map Prod.fst).Nodup) (there : (name, spelling) ∈ members)
    (real : spells spelling value) : Says members name spells (some value) := by
  obtain ⟨before, after, whole⟩ := List.append_of_mem there
  rw [whole, List.map_append, List.map_cons] at distinct
  obtain ⟨-, rest, apart⟩ := List.nodup_append.1 distinct
  refine .once whole ?_ ?_ real
  · intro member early
    exact apart _ (List.mem_map_of_mem early) _ List.mem_cons_self
  · intro member late same
    exact (List.nodup_cons.1 rest).1 (List.mem_map.2 ⟨member, late, same⟩)

theorem describes_members (config : Config) :
    Describes (config.members.map fun entry => (entry.1, entry.2.print)) config.draft := by
  have distinct : ((config.members.map fun entry => (entry.1, entry.2.print)).map
      Prod.fst).Nodup := by
    rw [List.map_map]
    exact (by decide :
      ["base_url", "request_timeout_secs", "storage", "last_username"].Nodup)
  have printed (text : String) : SpellsText (Value.string text).print text :=
    .text (means_escaped text.toList)
  constructor
  · exact once_of_mem distinct (.head _) (printed config.baseUrl)
  · exact once_of_mem distinct (.tail _ (.head _)) (.word config.timeoutSeconds)
  · exact once_of_mem distinct (.tail _ (.tail _ (.head _))) (.name (printed config.storage.name))
  · refine once_of_mem distinct (.tail _ (.tail _ (.tail _ (.head _)))) ?_
    cases config.lastUsername with
    | none => exact .null
    | some username => exact .text (printed username)

theorem ofText_text (config : Config) : ofText config.text = .ok config := by
  have object : IsObject config.text.toList (config.members.map spelled) := by
    rw [text, toValue, pretty_eq_ofList config.isLeaf_members, String.toList_ofList]
    exact isObject_print (.indented 0) config.isLeaf_members
  exact ofText_described object (named_spelled config.members) (describes_members config)

end PracticeClient.Config
