import TokenPersistence.Bytes

/-!
# Tables of blobs

A table keeps one blob under each key. What a table means is given by `get?`: the
lemmas say what inserting and erasing do to it.
-/

namespace TokenPersistence

set_option autoImplicit false

structure Table where
  entries : List (String × Bytes)
  deriving DecidableEq, Repr

namespace Table

def empty : Table := ⟨[]⟩

instance : Inhabited Table := ⟨empty⟩

def get? (table : Table) (key : String) : Option Bytes :=
  (table.entries.find? fun entry => entry.1 == key).map Prod.snd

def erase (table : Table) (key : String) : Table :=
  ⟨table.entries.filter fun entry => entry.1 != key⟩

def insert (table : Table) (key : String) (bytes : Bytes) : Table :=
  ⟨(key, bytes) :: (table.erase key).entries⟩

def ofList (entries : List (String × Bytes)) : Table :=
  entries.foldl (fun table entry => table.insert entry.1 entry.2) empty

def size (table : Table) : Nat := table.entries.length

@[simp] theorem get_erase_self (table : Table) (key : String) :
    (table.erase key).get? key = none := by
  simp [get?, erase]

theorem get_erase_other (table : Table) {key other : String} (different : other ≠ key) :
    (table.erase key).get? other = table.get? other := by
  unfold get? erase
  congr 1
  induction table.entries with
  | nil => rfl
  | cons entry rest ih =>
      by_cases erased : entry.1 = key
      · have unequal : ¬ entry.1 = other := fun same => different (same.symm.trans erased)
        have dropped : (entry.1 != key) = false := by simp [erased]
        have skipped : (entry.1 == other) = false := by simp [unequal]
        simp only [List.filter_cons, dropped, List.find?_cons, skipped]
        exact ih
      · have kept : (entry.1 != key) = true := by simp [erased]
        simp only [List.filter_cons, kept, if_true, List.find?_cons]
        split
        · rfl
        · exact ih

@[simp] theorem get_insert_self (table : Table) (key : String) (bytes : Bytes) :
    (table.insert key bytes).get? key = some bytes := by
  simp [get?, insert]

theorem get_insert_other (table : Table) {key other : String} (bytes : Bytes)
    (different : other ≠ key) :
    (table.insert key bytes).get? other = table.get? other := by
  have skipped : (key == other) = false := by simp [Ne.symm different]
  rw [← get_erase_other table different]
  simp [get?, insert, skipped]

end Table

end TokenPersistence
