/-! # Sorted entries

The entries of a map as a list that is kept sorted by key, one entry for each key. -/

namespace BundleFinish

/-- Entries of a map. -/
abbrev Entries (α : Type) := List (String × α)

namespace Entries

variable {α : Type}

/-- The value of a key. -/
def get? (key : String) : Entries α → Option α
  | [] => none
  | (other, value) :: rest => if key = other then some value else get? key rest

/-- Put in an entry; an entry with the same key is replaced. -/
def insert (key : String) (value : α) : Entries α → Entries α
  | [] => [(key, value)]
  | (other, found) :: rest =>
    if key = other then (key, value) :: rest
    else if key < other then (key, value) :: (other, found) :: rest
    else (other, found) :: insert key value rest

/-- Put entries together; of two with the same key the later one stays. -/
def ofList (entries : List (String × α)) : Entries α :=
  entries.foldl (fun sorted entry => sorted.insert entry.1 entry.2) []

@[simp] theorem get?_insert_self (key : String) (value : α) (entries : Entries α) :
    get? key (insert key value entries) = some value := by
  fun_induction insert key value entries <;> simp_all [get?]

/-- An entry leaves those with other keys alone. -/
theorem get?_insert_of_ne {key other : String} (h : key ≠ other) (value : α)
    (entries : Entries α) : get? key (insert other value entries) = get? key entries := by
  fun_induction insert other value entries <;> simp_all [get?]

end Entries

end BundleFinish
