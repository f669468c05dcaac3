import PracticeClient.Proofs.Json.Texts
import PracticeClient.Text.Blank

namespace PracticeClient

namespace Json

def Tree.text? : Tree → Option String
  | .string quotation => quotation.text.toOption
  | _ => none

def Members.pairs? : Members → Option (List (String × String))
  | .close _ => some []
  | .member _ key _ value rest => do
    let key ← key.text.toOption
    let value ← value.text?
    let rest ← rest.pairs?
    pure ((key, value) :: rest)
  | .noKey _ _ _ => none
  | .broken _ _ => none

def Tree.pairs? : Tree → Option (List (String × String))
  | .object _ members => members.pairs?
  | _ => none

def Document.pairs? (document : Document) : Option (List (String × String)) :=
  if document.trailing.isNone then document.tree.pairs? else none

theorem fit_text (tree : Tree) : (tree.fit Shape.text).toOption = tree.text? := by
  cases tree with
  | number numeral =>
    simp only [Tree.fit, Tree.shape, Tree.text?]
    cases numeral.number <;> rfl
  | string quotation =>
    simp only [Tree.fit, Tree.shape, Tree.text?]
    cases quotation.text <;> rfl
  | _ => rfl

theorem texts_members (members : Members) (table : Table String) :
    (members.texts table).toOption = members.pairs?.map table.insertMany := by
  match members with
  | .close _ => rfl
  | .noKey _ _ _ => rfl
  | .broken _ _ => rfl
  | .member _ key _ value rest =>
    rw [Members.texts, Members.pairs?, ← fit_text]
    cases key.text with
    | error fault => rfl
    | ok key =>
      cases value.fit Shape.text with
      | error fault => rfl
      | ok value =>
        apply (texts_members rest (table.insert key value)).trans
        cases rest.pairs? <;> rfl

theorem texts_tree (tree : Tree) : tree.texts.toOption = tree.pairs?.map Table.ofList := by
  cases tree with
  | object start members => exact texts_members members .empty
  | number numeral =>
    simp only [Tree.texts, Tree.fit, Tree.shape, Tree.pairs?]
    cases numeral.number <;> rfl
  | string quotation =>
    simp only [Tree.texts, Tree.fit, Tree.shape, Tree.pairs?]
    cases quotation.text <;> rfl
  | _ => rfl

theorem decode_texts (text : String) :
    (decode Tree.texts text).toOption = (Document.ofText text).pairs?.map Table.ofList := by
  have tree := texts_tree (Document.ofText text).tree
  unfold decode Document.pairs?
  cases read : (Document.ofText text).tree.texts with
  | error fault =>
    rw [read] at tree
    simp only [read]
    cases (Document.ofText text).trailing with
    | none => exact tree
    | some position => rfl
  | ok table =>
    rw [read] at tree
    simp only [read]
    cases (Document.ofText text).trailing with
    | none => exact tree
    | some position => rfl

/-! ## Blank texts -/

theorem wordTree_ne_object (word : List Char) {tree : Nat → Tree}
    (plain : ∀ stop start members, tree stop ≠ .object start members) (cursor : Cursor)
    (start : Nat) (members : Members) : (wordTree word tree cursor).1 ≠ .object start members := by
  unfold wordTree
  cases readWord word cursor with
  | ok next => exact plain next.position start members
  | error fault => exact fun same => Tree.noConfusion same

theorem head?_of_object {fuel start : Nat} {members : Members} {cursor next : Cursor}
    (read : readTree fuel cursor = (.object start members, next)) :
    cursor.rest.head? = some '\x7b' := by
  cases fuel with
  | zero => cases read
  | succ fuel =>
    unfold readTree at read
    split at read
    · cases read
    · exact absurd (congrArg Prod.fst read) (wordTree_ne_object _ (by simp) _ _ _)
    · exact absurd (congrArg Prod.fst read) (wordTree_ne_object _ (by simp) _ _ _)
    · exact absurd (congrArg Prod.fst read) (wordTree_ne_object _ (by simp) _ _ _)
    · cases read
    · dsimp only at read
      split at read <;> cases read
    · next here => rw [here]; rfl
    · split at read <;> cases read

theorem pairs?_of_blank {text : String} (blank : text.toList.all Text.isBlank = true) :
    (Document.ofText text).pairs? = none := by
  have solid : Text.isBlank '\x7b' = false := by decide
  unfold Document.pairs?
  cases tree : (Document.ofText text).tree with
  | object start members =>
    have read := head?_of_object (show readTree (2 * text.toList.length + 2)
      (Cursor.mk text.toList 0).skipGap = (.object start members, _) from Prod.ext tree rfl)
    have member := List.mem_of_mem_head? read
    have inside := (List.dropWhile_sublist isGap).subset member
    rw [List.all_eq_true.1 blank _ inside] at solid
    cases solid
  | _ => simp [Tree.pairs?]

end Json

end PracticeClient
