/-!
# Tables keyed by text

A table keeps one value for each key, in strictly increasing order of the keys. Two tables that
answer every look-up alike are equal (`Table.ext_get?`), so a table has one written form.
-/

namespace PracticeClient

variable {α : Type}

/-! ## Entries in a list -/

namespace Entries

def get? (key : String) (entries : List (String × α)) : Option α :=
  entries.lookup key

theorem get?_nil (key : String) : get? key ([] : List (String × α)) = none := rfl

theorem get?_cons (key : String) (entry : String × α) (rest : List (String × α)) :
    get? key (entry :: rest) = if entry.1 = key then some entry.2 else get? key rest := by
  rw [get?, List.lookup_cons]
  by_cases here : entry.1 = key
  · simp [here]
  · rw [if_neg here, beq_eq_false_iff_ne.2 (Ne.symm here)]
    rfl

def insert (key : String) (value : α) : List (String × α) → List (String × α)
  | [] => [(key, value)]
  | (k, v) :: rest =>
    if key < k then (key, value) :: (k, v) :: rest
    else if key = k then (key, value) :: rest
    else (k, v) :: insert key value rest

def erase (key : String) (entries : List (String × α)) : List (String × α) :=
  entries.filter fun entry => entry.1 ≠ key

def Sorted (entries : List (String × α)) : Prop :=
  entries.Pairwise fun a b => a.1 < b.1

theorem mem_insert {key : String} {value : α} {entries : List (String × α)} {entry : String × α}
    (h : entry ∈ insert key value entries) : entry = (key, value) ∨ entry ∈ entries := by
  fun_induction insert key value entries with
  | case1 => simpa using h
  | case2 => simpa using h
  | case3 v rest => simp only [List.mem_cons] at h ⊢; grind
  | case4 k v rest hlt hne ih => simp only [List.mem_cons] at h ⊢; grind

theorem lt_of_not_lt_of_ne {a b : String} (h : ¬a < b) (hne : ¬a = b) : b < a := by
  rcases Std.lt_trichotomy a b with h' | h' | h'
  · exact absurd h' h
  · exact absurd h' hne
  · exact h'

theorem Sorted.insert {entries : List (String × α)} (h : Sorted entries) (key : String)
    (value : α) : Sorted (insert key value entries) := by
  fun_induction Entries.insert key value entries with
  | case1 => simp [Sorted]
  | case2 k v rest hlt =>
    simp only [Sorted, List.pairwise_cons, List.mem_cons] at h ⊢
    refine ⟨fun entry hentry => ?_, h⟩
    rcases hentry with rfl | hentry
    · exact hlt
    · exact String.lt_trans hlt (h.1 entry hentry)
  | case3 v rest => simpa only [Sorted, List.pairwise_cons] using h
  | case4 k v rest hlt hne ih =>
    simp only [Sorted, List.pairwise_cons] at h ⊢
    refine ⟨fun entry hentry => ?_, ih h.2⟩
    rcases mem_insert hentry with rfl | hentry
    · exact lt_of_not_lt_of_ne hlt hne
    · exact h.1 entry hentry

theorem Sorted.erase {entries : List (String × α)} (h : Sorted entries) (key : String) :
    Sorted (erase key entries) :=
  List.Pairwise.filter _ h

theorem get?_insert (key key' : String) (value : α) (entries : List (String × α)) :
    get? key' (insert key value entries) =
      if key' = key then some value else get? key' entries := by
  fun_induction insert key value entries with
  | case1 => grind [get?_nil, get?_cons]
  | case2 => grind [get?_cons]
  | case3 => grind [get?_cons]
  | case4 => grind [get?_cons]

theorem get?_erase (key key' : String) (entries : List (String × α)) :
    get? key' (erase key entries) = if key' = key then none else get? key' entries := by
  induction entries with
  | nil => simp [erase, get?_nil]
  | cons entry rest ih =>
    simp only [erase] at ih
    simp only [erase, List.filter_cons]
    grind [get?_cons]

theorem get?_eq_none_of_lt {key : String} {entries : List (String × α)}
    (h : ∀ entry ∈ entries, key < entry.1) : get? key entries = none := by
  induction entries with
  | nil => rfl
  | cons entry rest ih =>
    have hlt : key < entry.1 := h entry (by simp)
    have hne : ¬entry.1 = key := fun heq => String.lt_irrefl key (heq ▸ hlt)
    rw [get?_cons, if_neg hne]
    exact ih fun e he => h e (by simp [he])

theorem Sorted.ext_get? {a b : List (String × α)} (ha : Sorted a) (hb : Sorted b)
    (h : ∀ key, get? key a = get? key b) : a = b := by
  induction a generalizing b with
  | nil =>
    cases b with
    | nil => rfl
    | cons entry rest => simpa [get?_nil, get?_cons] using h entry.1
  | cons x xs ih =>
    cases b with
    | nil => simpa [get?_nil, get?_cons] using h x.1
    | cons y ys =>
      simp only [Sorted, List.pairwise_cons] at ha hb
      have hx : get? x.1 xs = none := get?_eq_none_of_lt ha.1
      have hy : get? y.1 ys = none := get?_eq_none_of_lt hb.1
      have hkey : x.1 = y.1 := by
        rcases Std.lt_trichotomy x.1 y.1 with hlt | heq | hlt
        · have := h x.1
          rw [@get?_eq_none_of_lt α x.1 (y :: ys) (by
            simp only [List.mem_cons]
            rintro entry (rfl | hmem)
            · exact hlt
            · exact String.lt_trans hlt (hb.1 entry hmem))] at this
          simp [get?_cons] at this
        · exact heq
        · have := h y.1
          rw [@get?_eq_none_of_lt α y.1 (x :: xs) (by
            simp only [List.mem_cons]
            rintro entry (rfl | hmem)
            · exact hlt
            · exact String.lt_trans hlt (ha.1 entry hmem))] at this
          simp [get?_cons] at this
      have hvalue : x.2 = y.2 := by
        have := h x.1
        simpa [get?_cons, hkey] using this
      have hrest : xs = ys := ih ha.2 hb.2 fun key => by
        have := h key
        simp only [get?_cons, ← hkey] at this
        by_cases hk : x.1 = key
        · subst hk
          rw [hx, hkey, hy]
        · simpa [hk] using this
      rw [hrest, Prod.ext hkey hvalue]

theorem Sorted.nodup {entries : List (String × α)} (h : Sorted entries) :
    (entries.map Prod.fst).Nodup := by
  refine List.pairwise_map.2 (h.imp ?_)
  intro a b hlt heq
  rw [heq] at hlt
  exact String.lt_irrefl _ hlt

theorem lookup_reverse {entries : List (String × α)} {key : String}
    (h : (entries.map Prod.fst).count key ≤ 1) : entries.reverse.lookup key = get? key entries := by
  induction entries with
  | nil => rfl
  | cons entry rest ih =>
    rw [List.map_cons, List.count_cons] at h
    rw [List.reverse_cons, List.lookup_append, ih (by omega), get?_cons]
    change (get? key rest).or (get? key [entry]) = _
    rw [get?_cons, get?_nil]
    by_cases here : entry.1 = key
    · simp only [here, beq_self_eq_true, if_true] at h ⊢
      have absent : key ∉ rest.map Prod.fst := List.count_eq_zero.1 (by omega)
      have none : get? key rest = none := by
        rw [get?, List.lookup_eq_none_iff]
        intro other hmem
        exact bne_iff_ne.2 fun same => absent (List.mem_map.2 ⟨other, hmem, same.symm⟩)
      simp only [none, Option.none_or]
    · simp only [here, if_false, Option.or_none]

end Entries

/-! ## Tables -/

structure Table (α : Type) where
  entries : List (String × α)
  sorted : Entries.Sorted entries

namespace Table

def empty : Table α := ⟨[], List.Pairwise.nil⟩

instance : Inhabited (Table α) := ⟨empty⟩

instance [DecidableEq α] : DecidableEq (Table α) := fun a b =>
  decidable_of_iff (a.entries = b.entries) (by cases a; cases b; simp)

def get? (table : Table α) (key : String) : Option α :=
  Entries.get? key table.entries

def insert (table : Table α) (key : String) (value : α) : Table α :=
  ⟨Entries.insert key value table.entries, table.sorted.insert key value⟩

def erase (table : Table α) (key : String) : Table α :=
  ⟨Entries.erase key table.entries, table.sorted.erase key⟩

/-- Inserts entries from left to right, so the last of equal keys stays. -/
def insertMany (table : Table α) (entries : List (String × α)) : Table α :=
  entries.foldl (fun table entry => table.insert entry.1 entry.2) table

def eraseMany (table : Table α) (keys : List String) : Table α :=
  keys.foldl erase table

def ofList (entries : List (String × α)) : Table α :=
  empty.insertMany entries

def isEmpty (table : Table α) : Bool :=
  table.entries.isEmpty

@[simp] theorem get?_empty (key : String) : (empty : Table α).get? key = none := rfl

@[simp] theorem get?_insert (table : Table α) (key key' : String) (value : α) :
    (table.insert key value).get? key' = if key' = key then some value else table.get? key' :=
  Entries.get?_insert key key' value table.entries

@[simp] theorem get?_erase (table : Table α) (key key' : String) :
    (table.erase key).get? key' = if key' = key then none else table.get? key' :=
  Entries.get?_erase key key' table.entries

theorem get?_insertMany (table : Table α) (entries : List (String × α)) (key : String) :
    (table.insertMany entries).get? key = (entries.reverse.lookup key).or (table.get? key) := by
  induction entries generalizing table with
  | nil => rfl
  | cons entry rest ih =>
    change ((table.insert entry.1 entry.2).insertMany rest).get? key = _
    rw [ih, get?_insert, List.reverse_cons, List.lookup_append, Option.or_assoc]
    congr 1
    rw [List.lookup_cons]
    by_cases here : key = entry.1
    · simp [here]
    · simp [here, beq_eq_false_iff_ne.2 here]

theorem get?_eraseMany (table : Table α) (keys : List String) (key : String) :
    (table.eraseMany keys).get? key = if key ∈ keys then none else table.get? key := by
  induction keys generalizing table with
  | nil => simp [eraseMany]
  | cons first rest ih =>
    change ((table.erase first).eraseMany rest).get? key = _
    rw [ih, get?_erase]
    by_cases here : key = first <;> by_cases later : key ∈ rest <;> simp [here, later]

theorem get?_ofList (entries : List (String × α)) (key : String) :
    (ofList entries).get? key = entries.reverse.lookup key := by
  rw [ofList, get?_insertMany, get?_empty, Option.or_none]

theorem get?_ofList_of_count {entries : List (String × α)} {key : String}
    (h : (entries.map Prod.fst).count key ≤ 1) :
    (ofList entries).get? key = Entries.get? key entries := by
  rw [get?_ofList, Entries.lookup_reverse h]

theorem ext_get? {a b : Table α} (h : ∀ key, a.get? key = b.get? key) : a = b := by
  cases a
  cases b
  simp only [mk.injEq]
  exact Entries.Sorted.ext_get? ‹_› ‹_› h

theorem ofList_entries (table : Table α) : ofList table.entries = table :=
  ext_get? fun key => get?_ofList_of_count (List.nodup_iff_count.1 table.sorted.nodup key)

end Table

end PracticeClient
