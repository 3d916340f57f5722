namespace TopicWiki

/-- A finite map from names to values, kept in the order of the names. -/
structure Dictionary (α : Type) where
  entries : List (String × α) := []
  deriving Repr

namespace Dictionary

variable {α β : Type}

instance : Inhabited (Dictionary α) := ⟨⟨[]⟩⟩

def find? (d : Dictionary α) (name : String) : Option α :=
  (d.entries.find? fun entry => entry.1 = name).map Prod.snd

def contains (d : Dictionary α) (name : String) : Bool :=
  (d.find? name).isSome

def insertEntry (name : String) (value : α) : List (String × α) → List (String × α)
  | [] => [(name, value)]
  | (key, old) :: rest =>
    if name = key then (key, value) :: rest
    else if name < key then (name, value) :: (key, old) :: rest
    else (key, old) :: insertEntry name value rest

def insert (d : Dictionary α) (name : String) (value : α) : Dictionary α :=
  ⟨insertEntry name value d.entries⟩

def erase (d : Dictionary α) (name : String) : Dictionary α :=
  ⟨d.entries.filter fun entry => entry.1 ≠ name⟩

def keys (d : Dictionary α) : List String :=
  d.entries.map Prod.fst

def values (d : Dictionary α) : List α :=
  d.entries.map Prod.snd

def size (d : Dictionary α) : Nat :=
  d.entries.length

def ofList (entries : List (String × α)) : Dictionary α :=
  entries.foldl (fun d entry => d.insert entry.1 entry.2) ⟨[]⟩

def map (f : α → β) (d : Dictionary α) : Dictionary β :=
  ⟨d.entries.map fun entry => (entry.1, f entry.2)⟩

theorem find?_insertEntry_self (name : String) (value : α) (entries : List (String × α)) :
    ((insertEntry name value entries).find? fun entry => entry.1 = name) = some (name, value) := by
  induction entries with
  | nil => simp [insertEntry]
  | cons entry rest ih =>
    obtain ⟨key, old⟩ := entry
    simp only [insertEntry]
    split
    · rename_i same
      simp [same]
    · split
      · simp
      · rename_i other _
        simp [Ne.symm other, ih]

theorem find?_insert_self (d : Dictionary α) (name : String) (value : α) :
    (d.insert name value).find? name = some value := by
  simp [find?, insert, find?_insertEntry_self]

theorem find?_insertEntry_of_ne {name other : String} (distinct : other ≠ name) (value : α)
    (entries : List (String × α)) :
    ((insertEntry name value entries).find? fun entry => entry.1 = other) =
      entries.find? fun entry => entry.1 = other := by
  induction entries with
  | nil => simp [insertEntry, Ne.symm distinct]
  | cons entry rest ih =>
    obtain ⟨key, old⟩ := entry
    simp only [insertEntry]
    split
    · rename_i same
      subst same
      simp [Ne.symm distinct]
    · split
      · simp [List.find?_cons, Ne.symm distinct]
      · simp only [List.find?_cons, ih]

theorem find?_insert_of_ne (d : Dictionary α) {name other : String} (distinct : other ≠ name)
    (value : α) : (d.insert name value).find? other = d.find? other := by
  simp [find?, insert, find?_insertEntry_of_ne distinct]

theorem find?_insert (d : Dictionary α) (name : String) (value : α) (other : String) :
    (d.insert name value).find? other = if name = other then some value else d.find? other := by
  split
  · rename_i same
    rw [← same, find?_insert_self]
  · rename_i distinct
    exact find?_insert_of_ne d (Ne.symm distinct) value

theorem find?_erase (d : Dictionary α) (name other : String) :
    (d.erase name).find? other = if name = other then none else d.find? other := by
  unfold find? erase
  rw [List.find?_filter]
  split
  · rename_i same
    subst same
    simp
  · rename_i distinct
    congr 2
    funext entry
    by_cases found : entry.1 = other
    · simp [found, Ne.symm distinct]
    · simp [found]

end Dictionary

end TopicWiki
