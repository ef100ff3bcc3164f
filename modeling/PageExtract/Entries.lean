/-!
Ordered entries: lists of keys with values, where the order in which keys came first is kept.
-/

set_option autoImplicit false

namespace PageExtract.Entries

universe u
variable {α : Type u}

/-- The value of the first entry with the key. -/
def get? (key : String) : List (String × α) → Option α
  | [] => none
  | (k, v) :: rest => if k = key then some v else get? key rest

/-- Replaces the value of the key where it stands, or appends a new entry. -/
def insert (key : String) (value : α) : List (String × α) → List (String × α)
  | [] => [(key, value)]
  | (k, v) :: rest => if k = key then (k, value) :: rest else (k, v) :: insert key value rest

def keys (es : List (String × α)) : List String :=
  es.map Prod.fst

def erase (key : String) (es : List (String × α)) : List (String × α) :=
  es.filter fun e => e.1 ≠ key

/-- Inserts the entries of `more` one after the other. -/
def extend (es more : List (String × α)) : List (String × α) :=
  more.foldl (fun acc e => insert e.1 e.2 acc) es

/-- Distinct keys, each at its first place with its last value. -/
def ofList (es : List (String × α)) : List (String × α) :=
  extend [] es

/-- Puts an entry into a list that is sorted by key, in the place of an entry with the same key. -/
def insertSorted (key : String) (value : α) : List (String × α) → List (String × α)
  | [] => [(key, value)]
  | (k, v) :: rest =>
    if key = k then (key, value) :: rest
    else if key < k then (key, value) :: (k, v) :: rest
    else (k, v) :: insertSorted key value rest

/-- Sorted by key, distinct keys, the last value of each. -/
def sorted (es : List (String × α)) : List (String × α) :=
  es.foldl (fun acc e => insertSorted e.1 e.2 acc) []

theorem get?_insert_self (key : String) (value : α) (es : List (String × α)) :
    get? key (insert key value es) = some value := by
  induction es with
  | nil => simp [insert, get?]
  | cons e rest ih =>
    obtain ⟨k, v⟩ := e
    by_cases same : k = key <;> simp [insert, get?, same, ih]

theorem get?_insert_of_ne {key other : String} (differs : other ≠ key) (value : α)
    (es : List (String × α)) : get? other (insert key value es) = get? other es := by
  induction es with
  | nil => simp [insert, get?, Ne.symm differs]
  | cons e rest ih =>
    obtain ⟨k, v⟩ := e
    by_cases same : k = key
    · simp [insert, get?, same, Ne.symm differs]
    · simp only [insert, same, if_false, get?, ih]

end PageExtract.Entries
