import ConfigSchema.Proofs.Tree.Shown

/-! Edits of a forest, as recursive functions that look for an id. They know neither entries nor lists of ids: an edit
of one branch leaves the others alone, and takes along whatever is inside the branch. -/

namespace ConfigSchema.Branch

mutual
def size : Branch → Nat
  | mk _ children => forestSize children + 1

def forestSize : Forest → Nat
  | [] => 0
  | branch :: rest => branch.size + forestSize rest
end

mutual
def find? (id : FieldId) : Branch → Option Branch
  | mk field children => if field.id = id then some (mk field children) else findIn? id children

def findIn? (id : FieldId) : Forest → Option Branch
  | [] => none
  | branch :: rest => (branch.find? id).or (findIn? id rest)
end

mutual
def modify (id : FieldId) (change : Branch → Branch) : Branch → Branch
  | mk field children =>
    if field.id = id then change (mk field children) else mk field (modifyAll id change children)

def modifyAll (id : FieldId) (change : Branch → Branch) : Forest → Forest
  | [] => []
  | branch :: rest => branch.modify id change :: modifyAll id change rest
end

mutual
def prune (id : FieldId) : Branch → Branch
  | mk field children => mk field (pruneAll id children)

def pruneAll (id : FieldId) : Forest → Forest
  | [] => []
  | branch :: rest => if branch.field.id = id then pruneAll id rest else branch.prune id :: pruneAll id rest
end

/-- The branches just below a field, or the whole forest. -/
def listAt? (place : Option FieldId) (forest : Forest) : Option Forest :=
  match place with
  | none => some forest
  | some id => (findIn? id forest).map children

/-- Changes the branches just below a field, or the whole forest. -/
def modifyList (place : Option FieldId) (change : Forest → Forest) (forest : Forest) : Forest :=
  match place with
  | none => change forest
  | some id => modifyAll id (fun branch => mk branch.field (change branch.children)) forest

variable {id : FieldId} {forest : Forest}

mutual
theorem size_eq_length_ids : (branch : Branch) → branch.size = branch.ids.length
  | mk field children => by rw [size, ids, List.length_cons, forestSize_eq_length_forestIds children]

theorem forestSize_eq_length_forestIds : (forest : Forest) → forestSize forest = (forestIds forest).length
  | [] => rfl
  | branch :: rest => by
    rw [forestSize, forestIds, List.length_append, size_eq_length_ids branch, forestSize_eq_length_forestIds rest]
end

mutual
theorem find?_isSome_iff (id : FieldId) : (branch : Branch) → ((branch.find? id).isSome = true ↔ id ∈ branch.ids)
  | mk field children => by
    rw [find?, ids, List.mem_cons]
    by_cases here : field.id = id
    · simp [here]
    · simp [here, Ne.symm here, findIn?_isSome_iff id children]

theorem findIn?_isSome_iff (id : FieldId) :
    (forest : Forest) → ((findIn? id forest).isSome = true ↔ id ∈ forestIds forest)
  | [] => by simp [findIn?, forestIds]
  | branch :: rest => by
    rw [findIn?, forestIds, List.mem_append, Option.isSome_or, Bool.or_eq_true, find?_isSome_iff id branch,
      findIn?_isSome_iff id rest]
end

mutual
/-- Nothing is changed where the id does not occur. -/
theorem modify_of_not_mem {change : Branch → Branch} : (branch : Branch) → id ∉ branch.ids →
    branch.modify id change = branch
  | mk field children, absent => by
    rw [ids, List.mem_cons, not_or] at absent
    rw [modify, if_neg (Ne.symm absent.1), modifyAll_of_not_mem children absent.2]

theorem modifyAll_of_not_mem {change : Branch → Branch} : (forest : Forest) → id ∉ forestIds forest →
    modifyAll id change forest = forest
  | [], _ => rfl
  | branch :: rest, absent => by
    rw [forestIds, List.mem_append, not_or] at absent
    rw [modifyAll, modify_of_not_mem branch absent.1, modifyAll_of_not_mem rest absent.2]
end

mutual
theorem ids_prune_sublist (id : FieldId) : (branch : Branch) → (branch.prune id).ids.Sublist branch.ids
  | mk field children => (forestIds_pruneAll_sublist id children).cons_cons field.id

theorem forestIds_pruneAll_sublist (id : FieldId) :
    (forest : Forest) → (forestIds (pruneAll id forest)).Sublist (forestIds forest)
  | [] => .slnil
  | branch :: rest => by
    have later := forestIds_pruneAll_sublist id rest
    rw [pruneAll, forestIds]
    split
    · exact later.trans (List.sublist_append_right ..)
    · exact (ids_prune_sublist id branch).append later
end

mutual
theorem not_mem_ids_prune : (branch : Branch) → branch.field.id ≠ id → id ∉ (branch.prune id).ids
  | mk field children, other => by
    rw [prune, ids, List.mem_cons, not_or]
    exact ⟨Ne.symm other, not_mem_forestIds_pruneAll children⟩

theorem not_mem_forestIds_pruneAll : (forest : Forest) → id ∉ forestIds (pruneAll id forest)
  | [] => by simp [pruneAll, forestIds]
  | branch :: rest => by
    have later := not_mem_forestIds_pruneAll rest
    rw [pruneAll]
    split
    · exact later
    · rename_i other
      rw [forestIds, List.mem_append, not_or]
      exact ⟨not_mem_ids_prune branch other, later⟩
end

end ConfigSchema.Branch
