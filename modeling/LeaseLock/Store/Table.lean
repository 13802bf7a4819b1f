/-!
# Tables

A finite map from keys to values, as the list of its rows. Only `find?` looks into a table;
`find?_put` and `find?_drop` say what the two changes do to it.
-/

namespace LeaseLock

structure Table (α : Type) where
  rows : List (String × α)

namespace Table

variable {α : Type}

def empty : Table α := ⟨[]⟩

instance : Inhabited (Table α) := ⟨empty⟩

/-- The value of a key. -/
def find? (t : Table α) (key : String) : Option α := t.rows.lookup key

/-- Takes a key out. -/
def drop (t : Table α) (key : String) : Table α := ⟨t.rows.filter (·.1 != key)⟩

/-- Sets the value of a key. -/
def put (t : Table α) (key : String) (value : α) : Table α := ⟨(key, value) :: (t.drop key).rows⟩

@[simp] theorem find?_empty (key : String) : (empty : Table α).find? key = none := rfl

theorem find?_drop (t : Table α) (key k : String) :
    (t.drop key).find? k = if k = key then none else t.find? k := by
  obtain ⟨rows⟩ := t
  simp only [find?, drop]
  induction rows with
  | nil => simp
  | cons row rows ih =>
    obtain ⟨k', v⟩ := row
    by_cases h : k' = key
    · rw [List.filter_cons_of_neg (by simpa using h), ih]
      by_cases hk : k = key
      · simp [hk]
      · have hb : (k == k') = false := by simpa [h] using hk
        simp [hk, List.lookup_cons, hb]
    · rw [List.filter_cons_of_pos (by simpa using h), List.lookup_cons, List.lookup_cons, ih]
      by_cases hk : k = k'
      · simp [hk, h]
      · have hb : (k == k') = false := by simpa using hk
        simp [hb]

theorem find?_put (t : Table α) (key : String) (value : α) (k : String) :
    (t.put key value).find? k = if k = key then some value else t.find? k := by
  have hd := find?_drop t key k
  simp only [find?] at hd
  by_cases h : k = key
  · subst h
    simp [find?, put]
  · have hb : (k == key) = false := by simpa using h
    simp [find?, put, List.lookup_cons, hb, h, hd]

end Table
end LeaseLock
