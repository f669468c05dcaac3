import PracticeClient.Number.Notation
import PracticeClient.Table

namespace PracticeClient.Json

inductive Number where
  | integer (value : Int)
  | real (value : PracticeClient.Number.Binary64)
  deriving DecidableEq, Repr

inductive Value where
  | null
  | bool (value : Bool)
  | number (value : Number)
  | string (value : String)
  | array (items : List Value)
  | object (members : List (String × Value))
  deriving Repr

instance : Inhabited Value := ⟨.null⟩

def valueOf : Option String → Value
  | some text => .string text
  | none => .null

namespace Value

def ofMembers (members : List (String × Value)) : Value :=
  .object (Table.ofList members).entries

def empty : Value := .object []

theorem ofMembers_of_sorted {members : List (String × Value)} (sorted : Entries.Sorted members) :
    ofMembers members = .object members :=
  congrArg (fun table : Table Value => object table.entries)
    (Table.ofList_entries ⟨members, sorted⟩)

end Value

end PracticeClient.Json
