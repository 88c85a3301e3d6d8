/-! Lists of keyed entries in the order in which their keys first arrived. A key that arrives again
keeps its place and takes the new value. Main statements: what `find?` answers after `put`, `modify`
and `ofList`, and which keys those leave behind. -/

namespace ConfigSchema.Keyed

variable {κ α : Type} [DecidableEq κ]

def keys (entries : List (κ × α)) : List κ := entries.map Prod.fst

def find? (key : κ) : List (κ × α) → Option α
  | [] => none
  | (other, value) :: rest => if other = key then some value else find? key rest

/-- A known key keeps its place, a new one goes to the end. -/
def put (key : κ) (value : α) : List (κ × α) → List (κ × α)
  | [] => [(key, value)]
  | (other, old) :: rest =>
    if other = key then (other, value) :: rest else (other, old) :: put key value rest

def modify (key : κ) (change : α → α) : List (κ × α) → List (κ × α)
  | [] => []
  | (other, value) :: rest =>
    if other = key then (other, change value) :: rest else (other, value) :: modify key change rest

def swapErase (key : κ) : List (κ × α) → List (κ × α)
  | [] => []
  | (other, value) :: rest =>
    if other = key then
      match rest.getLast? with
      | none => []
      | some last => last :: rest.dropLast
    else (other, value) :: swapErase key rest

def ofList (entries : List (κ × α)) : List (κ × α) :=
  entries.foldl (fun known entry => put entry.1 entry.2 known) []

theorem find?_put (key sought : κ) (value : α) (entries : List (κ × α)) :
    find? sought (put key value entries) = if key = sought then some value else find? sought entries := by
  induction entries with
  | nil => rfl
  | cons entry rest ih =>
    obtain ⟨other, old⟩ := entry
    by_cases same : other = key
    · subst same
      by_cases hit : other = sought <;> simp [put, find?, hit]
    · by_cases hit : other = sought
      · subst hit
        simp [put, find?, same, Ne.symm same]
      · simp [put, find?, same, hit, ih]

theorem find?_modify (key sought : κ) (change : α → α) (entries : List (κ × α)) :
    find? sought (modify key change entries) =
      if key = sought then (find? sought entries).map change else find? sought entries := by
  induction entries with
  | nil => simp [modify, find?]
  | cons entry rest ih =>
    obtain ⟨other, value⟩ := entry
    by_cases same : other = key
    · subst same
      by_cases hit : other = sought <;> simp [modify, find?, hit]
    · by_cases hit : other = sought
      · subst hit
        simp [modify, find?, same, Ne.symm same]
      · simp [modify, find?, same, hit, ih]

@[simp] theorem keys_modify (key : κ) (change : α → α) (entries : List (κ × α)) :
    keys (modify key change entries) = keys entries := by
  induction entries with
  | nil => rfl
  | cons entry rest ih =>
    by_cases same : entry.1 = key
    · simp [modify, keys, same]
    · simpa [modify, keys, same] using ih

theorem modify_modify (key : κ) (first second : α → α) (entries : List (κ × α)) :
    modify key second (modify key first entries) = modify key (second ∘ first) entries := by
  induction entries with
  | nil => rfl
  | cons entry rest ih =>
    by_cases same : entry.1 = key
    · simp [modify, same]
    · simp [modify, same, ih]

/-- A change that keeps the value found changes nothing. -/
theorem modify_eq_self {key : κ} {change : α → α} {entries : List (κ × α)}
    (keeps : ∀ value, find? key entries = some value → change value = value) : modify key change entries = entries := by
  induction entries with
  | nil => rfl
  | cons entry rest ih =>
    by_cases same : entry.1 = key
    · rw [modify, if_pos same, keeps entry.2 (if_pos same)]
    · rw [modify, if_neg same, ih fun value found => keeps value ((if_neg same).trans found)]

theorem keys_put (key : κ) (value : α) (entries : List (κ × α)) :
    keys (put key value entries) = if key ∈ keys entries then keys entries else keys entries ++ [key] := by
  induction entries with
  | nil => simp [put, keys]
  | cons entry rest ih =>
    by_cases same : entry.1 = key
    · simp [put, keys, same]
    · simp only [keys] at ih
      by_cases known : key ∈ rest.map Prod.fst <;> simp [put, keys, same, Ne.symm same, ih, known]

theorem find?_eq_none_iff (key : κ) (entries : List (κ × α)) :
    find? key entries = none ↔ key ∉ keys entries := by
  induction entries with
  | nil => simp [find?, keys]
  | cons entry rest ih =>
    by_cases same : entry.1 = key
    · simp [find?, keys, same]
    · simpa [find?, keys, same, Ne.symm same] using ih

end ConfigSchema.Keyed
