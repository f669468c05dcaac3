import PracticeClient.Proofs.Json.Members

namespace PracticeClient.Json

def stringMembers (entries : List (String × String)) : List (String × Value) :=
  entries.map fun entry => (entry.1, .string entry.2)

theorem isLeaf_stringMembers {entries : List (String × String)} :
    ∀ entry ∈ stringMembers entries, entry.2.IsLeaf := by
  intro entry member
  obtain ⟨pair, -, rfl⟩ := List.mem_map.1 member
  exact .string pair.2

theorem texts_of_spell {entries : List (String × String)} {members : Members}
    (spell : members.Spell (stringMembers entries)) (table : Table String) :
    members.texts table = .ok (table.insertMany entries) := by
  induction entries generalizing members table with
  | nil =>
    cases spell
    rfl
  | cons entry rest ih =>
    cases spell with
    | member opening after key spells spell =>
      cases spells with
      | string value =>
        have fits := ih spell (table.insert entry.1 entry.2)
        simp only [Members.texts, key, Tree.fit, Tree.shape, value]
        exact fits

theorem decode_pretty (entries : List (String × String)) :
    decode Tree.texts (Value.object (stringMembers entries)).pretty =
      .ok (Table.empty.insertMany entries) := by
  obtain ⟨start, members, document, spell⟩ := ofText_printed (.indented 0) isLeaf_stringMembers
  rw [pretty_eq_ofList isLeaf_stringMembers, decode_of_ofText document]
  exact texts_of_spell spell .empty

end PracticeClient.Json
