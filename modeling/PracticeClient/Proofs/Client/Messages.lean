import PracticeClient.Credentials
import PracticeClient.Proofs.Client.ResponseTexts

namespace PracticeClient

open Json

/-! ## Requests -/

namespace LoginRequest

/-- The username and the password of a request are what its body has, and nothing else. Its own text
and the text of the body are both read as the body. -/
structure ReadsBack (request : LoginRequest) : Prop where
  members : request.body =
    .object [("password", .string request.password), ("username", .string request.username)]
  own : parse request.toValue.compact = .ok request.body
  sent : parse request.body.compact = .ok request.body

theorem readsBack (request : LoginRequest) : request.ReadsBack where
  members := request.body_eq
  own := by
    have leaves : ∀ entry ∈ request.members, entry.2.IsLeaf := by
      simp [LoginRequest.members, Value.IsLeaf.string]
    exact parse_compact leaves
  sent := by
    rw [body_eq]
    have leaves : ∀ entry ∈ [("password", Value.string request.password),
        ("username", Value.string request.username)], entry.2.IsLeaf := by
      simp [Value.IsLeaf.string]
    have before : "password" < "username" := by decide
    rw [parse_compact leaves, Value.ofMembers_of_sorted (List.pairwise_pair.2 before)]

end LoginRequest

/-! ## Responses -/

namespace LoginResponse

theorem isLeaf_of_mem_members {response : LoginResponse} {entry : String × Value}
    (member : entry ∈ response.members) : entry.2.IsLeaf := by
  rw [members, List.mem_cons, Option.mem_toList, Option.map_eq_some_iff] at member
  rcases member with rfl | ⟨token, -, rfl⟩
  · have small : response.success.toNat ≤ 255 := Nat.le_of_lt_succ response.success.toNat_lt
    exact .natural (Nat.le_trans small (by decide))
  · exact .string token

theorem get?_success (response : LoginResponse) : Entries.get? "success" response.members =
    some (.number (.integer response.success.toNat)) := rfl

theorem get?_token (response : LoginResponse) :
    Entries.get? "token" response.members = response.token.map Value.string := by
  obtain ⟨success, token⟩ := response
  cases token <;> rfl

theorem sorted_members (response : LoginResponse) : Entries.Sorted response.members := by
  have before : "success" < "token" := by decide
  obtain ⟨success, token⟩ := response
  cases token with
  | none => exact List.pairwise_singleton ..
  | some token => exact List.pairwise_pair.2 before

theorem count_members_le (response : LoginResponse) (name : String) :
    (response.members.map Prod.fst).count name ≤ 1 :=
  List.nodup_iff_count.1 response.sorted_members.nodup name

theorem ofValue_toValue (response : LoginResponse) :
    ofValue response.toValue = .ok response := by
  rw [toValue]
  refine ofValue_eq_ok.2 (.object response.get?_success ?_)
  rw [get?_token]
  cases response.token <;> rfl

structure ReadsBack (response : LoginResponse) : Prop where
  value : parse response.toValue.compact = .ok response.toValue
  back : ofValue response.toValue = .ok response
  straight : decode ofTree response.toValue.compact = .ok response
  token : ∃ members, response.toValue = .object members ∧
    Entries.get? "token" members = response.token.map Value.string

theorem readsBack (response : LoginResponse) : response.ReadsBack := by
  have leaves : ∀ entry ∈ response.members, entry.2.IsLeaf := fun _ => isLeaf_of_mem_members
  obtain ⟨start, members, document, spell⟩ := document_of_compact leaves
  rw [← toValue] at document
  have decoded : (Tree.object start members).value greatestDepth = .ok response.toValue := by
    rw [spell.value, Value.ofMembers_of_sorted response.sorted_members, toValue]
  have once (name : String) : (Tree.object start members).names.count name ≤ 1 := by
    rw [Tree.names, members.names_of_values (spell.values 126)]
    exact response.count_members_le name
  have same : (ofTree (.object start members)).toOption = (ofValue response.toValue).toOption :=
    ofTree_eq_ofValue decoded (once "success") (once "token")
  constructor
  case value => rw [parse, decode_of_ofText document, decoded]
  case back => exact response.ofValue_toValue
  case straight =>
    rw [decode_of_ofText document, ← toOption_eq_some, same, ofValue_toValue]
    rfl
  case token => exact ⟨response.members, rfl, response.get?_token⟩

end LoginResponse

theorem messages_read_back : (∀ request : LoginRequest, request.ReadsBack) ∧
    ∀ response : LoginResponse, response.ReadsBack :=
  ⟨LoginRequest.readsBack, LoginResponse.readsBack⟩

end PracticeClient
