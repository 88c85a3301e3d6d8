import ConfigSchema.Keyed

/-! Maps from texts to values, kept in the order of their keys. Texts compare by code points, which is
also the order of their UTF-8 bytes. The order is part of the type, so two maps with the same entries
are equal. -/

namespace ConfigSchema

/-- Entries in strictly rising order of their keys. -/
structure SortedMap (α : Type) where
  entries : List (String × α)
  sorted : entries.Pairwise (fun first second => first.1 < second.1)

namespace SortedMap

variable {α : Type}

/-- Puts an entry in its place; an entry with the same key is replaced. -/
def place (key : String) (value : α) : List (String × α) → List (String × α)
  | [] => [(key, value)]
  | (other, old) :: rest =>
    if key < other then (key, value) :: (other, old) :: rest
    else if other = key then (key, value) :: rest
    else (other, old) :: place key value rest

theorem mem_place {key : String} {value : α} {entries : List (String × α)} {entry : String × α}
    (member : entry ∈ place key value entries) : entry = (key, value) ∨ entry ∈ entries := by
  induction entries with
  | nil => exact Or.inl (by simpa [place] using member)
  | cons head rest ih =>
    simp only [place] at member
    split at member
    · simpa using member
    · split at member
      · rcases List.mem_cons.mp member with same | later
        · exact Or.inl same
        · exact Or.inr (List.mem_cons_of_mem _ later)
      · rcases List.mem_cons.mp member with same | later
        · exact Or.inr (same ▸ List.mem_cons_self ..)
        · exact (ih later).imp_right (List.mem_cons_of_mem _)

theorem pairwise_place (key : String) (value : α) (entries : List (String × α))
    (sorted : entries.Pairwise (fun first second => first.1 < second.1)) :
    (place key value entries).Pairwise (fun first second => first.1 < second.1) := by
  induction entries with
  | nil => simp [place]
  | cons head rest ih =>
    have tail := List.pairwise_cons.mp sorted
    simp only [place]
    split
    · rename_i before
      refine List.pairwise_cons.mpr ⟨?_, sorted⟩
      intro entry member
      rcases List.mem_cons.mp member with same | later
      · exact same ▸ before
      · exact String.lt_trans before (tail.1 entry later)
    · split
      · rename_i same
        exact List.pairwise_cons.mpr ⟨fun entry member => same ▸ tail.1 entry member, tail.2⟩
      · rename_i after different
        refine List.pairwise_cons.mpr ⟨?_, ih tail.2⟩
        intro entry member
        rcases mem_place member with same | later
        · subst same
          exact String.not_le.mp fun order => different (String.le_antisymm (String.not_lt.mp after) order)
        · exact tail.1 entry later

def empty : SortedMap α := ⟨[], List.Pairwise.nil⟩

instance : Inhabited (SortedMap α) := ⟨empty⟩

def insert (map : SortedMap α) (key : String) (value : α) : SortedMap α :=
  ⟨place key value map.entries, pairwise_place key value map.entries map.sorted⟩

def ofList (entries : List (String × α)) : SortedMap α :=
  entries.foldl (fun map entry => map.insert entry.1 entry.2) empty

def keys (map : SortedMap α) : List String := Keyed.keys map.entries

def get? (map : SortedMap α) (key : String) : Option α := Keyed.find? key map.entries

def size (map : SortedMap α) : Nat := map.entries.length

def isEmpty (map : SortedMap α) : Bool := map.entries.isEmpty

theorem ext {first second : SortedMap α} (same : first.entries = second.entries) : first = second := by
  cases first
  cases second
  simp_all

instance [DecidableEq α] : DecidableEq (SortedMap α) := fun first second =>
  decidable_of_iff (first.entries = second.entries) ⟨ext, fun same => same ▸ rfl⟩

end SortedMap

end ConfigSchema
