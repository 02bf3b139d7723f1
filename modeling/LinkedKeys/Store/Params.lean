import LinkedKeys.Store.Call

namespace LinkedKeys.Store

structure Params where
  rows : List (String × String) := []
  deriving DecidableEq

namespace Params

def value? (p : Params) (key : String) : Option String :=
  p.rows.lookup key

def read (p : Params) (key : String) : String :=
  (p.value? key).getD ""

def erase (p : Params) (key : String) : Params :=
  ⟨p.rows.filter (·.1 != key)⟩

def insert (p : Params) (key value : String) : Params :=
  ⟨(key, value) :: (p.erase key).rows⟩

def ofList (rows : List (String × String)) : Params :=
  rows.foldl (fun p row => p.insert row.1 row.2) {}

theorem value?_erase (p : Params) (key : String) : (p.erase key).value? key = none := by
  simp only [value?, erase, List.lookup_eq_none_iff, List.mem_filter, bne_iff_ne]
  exact fun _ kept => kept.2.symm

theorem value?_erase_other (p : Params) {key other : String} (differ : other ≠ key) :
    (p.erase key).value? other = p.value? other := by
  obtain ⟨rows⟩ := p
  simp only [value?, erase]
  induction rows with
  | nil => rfl
  | cons row rest ih =>
      obtain ⟨k, v⟩ := row
      by_cases here : k = key
      · subst here
        simpa [List.lookup_cons, beq_false_of_ne differ] using ih
      · simp only [List.filter_cons, bne_iff_ne, ne_eq, here, not_false_eq_true, if_true,
          List.lookup_cons, ih]

theorem value?_insert (p : Params) (key value : String) :
    (p.insert key value).value? key = some value := by
  simp [value?, insert]

theorem value?_insert_other (p : Params) {key other : String} (value : String)
    (differ : other ≠ key) : (p.insert key value).value? other = p.value? other := by
  rw [← value?_erase_other p differ]
  simp [value?, insert, List.lookup_cons, beq_false_of_ne differ]

end Params

-- Refuses every write, or the writes to one key. Removals and reads always succeed.
structure Memory where
  params : Params := {}
  refuseAll : Bool := false
  refuseKey : Option String := none

def Memory.answer : (c : Call) → Memory → c.Answer × Memory
  | .get key, m => (.ok (m.params.read key), m)
  | .put key value, m =>
      if m.refuseAll ∨ m.refuseKey = some key then
        (.error (.unwritable key "memory" "read-only"), m)
      else (.ok (), { m with params := m.params.insert key value })
  | .remove key, m => (.ok (), { m with params := m.params.erase key })

end LinkedKeys.Store
