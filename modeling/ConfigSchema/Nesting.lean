import ConfigSchema.Json.Basic
import ConfigSchema.Path

/-! Values under dot paths, put together into one nested object. A later path replaces a value that stands where it
needs an object. Main statements: a value that was put stands at the end of its path with all that it holds, and there
are objects on the way to it. -/

namespace ConfigSchema.Json

def putAt (value : Json) : List String → List (String × Json) → List (String × Json)
  | [], members => members
  | [name], members => Keyed.put name value members
  | name :: rest, members =>
    let below := match Keyed.find? name members with
      | some (.object below) => below
      | _ => []
    Keyed.put name (.object (putAt value rest below)) members

def nested (values : List (String × Json)) : Json :=
  .object (values.foldl (fun members entry => putAt entry.2 (Path.segments entry.1) members) [])

/-- The value that names lead to, each of them the name of a member of the object before. -/
def follow? : List String → Json → Option Json
  | [], value => some value
  | name :: rest, value => (value.get? name).bind (follow? rest)

theorem follow?_cons (name : String) (rest : List String) (members : List (String × Json)) :
    (object members).follow? (name :: rest) = (Keyed.find? name members).bind (follow? rest) := rfl

def membersAt (name : String) (members : List (String × Json)) : List (String × Json) :=
  match Keyed.find? name members with
  | some (.object below) => below
  | _ => []

theorem putAt_cons {rest : List String} (further : rest ≠ []) (value : Json) (name : String)
    (members : List (String × Json)) : putAt value (name :: rest) members =
      Keyed.put name (.object (putAt value rest (membersAt name members))) members := by
  cases rest with
  | nil => exact absurd rfl further
  | cons next later => rfl

/-- Below a name nothing else is found than what the object there has. -/
theorem follow?_membersAt {rest : List String} (further : rest ≠ []) (name : String)
    (members : List (String × Json)) :
    (object (membersAt name members)).follow? rest = (object members).follow? (name :: rest) := by
  obtain ⟨next, later, rfl⟩ := List.exists_cons_of_ne_nil further
  rw [follow?_cons, follow?_cons, membersAt]
  cases Keyed.find? name members with
  | none => rfl
  | some value => cases value <;> rfl

variable (value : Json)

theorem follow?_putAt {names : List String} (some_name : names ≠ []) (rest : List String)
    (members : List (String × Json)) :
    (object (putAt value names members)).follow? (names ++ rest) = value.follow? rest := by
  induction names generalizing members with
  | nil => exact absurd rfl some_name
  | cons name later ih =>
    by_cases last : later = []
    · subst last
      rw [putAt, List.singleton_append, follow?_cons, Keyed.find?_put, if_pos rfl, Option.bind_some]
    · rw [putAt_cons last, List.cons_append, follow?_cons, Keyed.find?_put, if_pos rfl, Option.bind_some, ih last]

theorem putAt_ne_nil {names : List String} (some_name : names ≠ []) (members : List (String × Json)) :
    putAt value names members ≠ [] := by
  intro empty
  have found := follow?_putAt value some_name [] members
  obtain ⟨name, later, rfl⟩ := List.exists_cons_of_ne_nil some_name
  rw [empty] at found
  cases found

theorem follow?_putAt_above (above : List String) {rest : List String} (further : rest ≠ [])
    (members : List (String × Json)) : ∃ inner, inner ≠ [] ∧
      (object (putAt value (above ++ rest) members)).follow? above = some (.object inner) := by
  induction above generalizing members with
  | nil => exact ⟨_, putAt_ne_nil value further members, rfl⟩
  | cons name later ih =>
    have longer : later ++ rest ≠ [] := fun empty => further (List.append_eq_nil_iff.mp empty).2
    rw [List.cons_append, putAt_cons longer, follow?_cons, Keyed.find?_put, if_pos rfl, Option.bind_some]
    exact ih _

end ConfigSchema.Json
