import ConfigSchema.Proofs.Program
import ConfigSchema.Proofs.Tree.Shown
import ConfigSchema.Tree.Edit
import Mathlib.Data.List.Perm.Basic

/-! What an edit leaves behind. Each edit that succeeds is described once, by the entries and lists of the tree
that it gives; that the tree stays well-formed follows from the description alone. -/

namespace ConfigSchema

theorem Keyed.find?_filter {κ α : Type} [DecidableEq κ] (keep : κ → Bool) (key : κ) (entries : List (κ × α)) :
    find? key (entries.filter fun entry => keep entry.1) = if keep key then find? key entries else none := by
  induction entries with
  | nil => simp [find?]
  | cons entry rest ih =>
    obtain ⟨other, value⟩ := entry
    by_cases same : other = key
    · subst same
      by_cases kept : keep other = true
      · simp [find?, kept]
      · simp only [List.filter_cons, kept, Bool.false_eq_true, if_false, ih]
    · by_cases kept : keep other = true
      · simp only [List.filter_cons, kept, if_true, find?, if_neg same, ih]
      · simp only [List.filter_cons, kept, Bool.false_eq_true, if_false, find?, if_neg same, ih]

section

variable {α : Type} {source target : Nat} {list : List α} (inside : source < list.length)
  (within : target < list.length)

include inside within

theorem le_length_eraseIdx : target ≤ (list.eraseIdx source).length := by
  rw [List.length_eraseIdx_of_lt inside]
  omega

theorem shiftElement_perm : (shiftElement source target list).Perm list := by
  rw [shiftElement, List.getElem?_eq_getElem inside]
  exact (List.perm_insertIdx list[source] (list.eraseIdx source) (le_length_eraseIdx inside within)).trans
    (List.getElem_cons_eraseIdx_perm inside)

theorem getElem?_shiftElement : (shiftElement source target list)[target]? = list[source]? := by
  rw [shiftElement, List.getElem?_eq_getElem inside]
  exact List.getElem?_insertIdx_self.trans (if_pos (le_length_eraseIdx inside within))

end

/-- Without the element that moves, the list is the same before and after. -/
theorem eraseIdx_shiftElement {α : Type} {source : Nat} (target : Nat) {list : List α}
    (inside : source < list.length) : (shiftElement source target list).eraseIdx target = list.eraseIdx source := by
  rw [shiftElement, List.getElem?_eq_getElem inside]
  exact List.eraseIdx_insertIdx_self _

def Attributes.completed (draft : Attributes) (name : String) : Attributes :=
  { draft with
    name := name
    description := descriptionOr draft.description name
    defaultValue := some (defaultOr draft.defaultValue draft.kind) }

def Attributes.nameOr (draft : Attributes) (fallback : String) : String :=
  if Text.isBlankText draft.name then fallback else draft.name

namespace SchemaTree

open Relation

variable {tree : SchemaTree}

def Numbered (tree : SchemaTree) : Prop :=
  ∀ id, tree.contains id = true → ∃ serial < tree.nextSerial, id = FieldId.ofSerial serial

theorem Numbered.not_contains_next (numbered : tree.Numbered) :
    ¬tree.contains (FieldId.ofSerial tree.nextSerial) = true := by
  intro stored
  obtain ⟨serial, below, same⟩ := numbered _ stored
  rw [FieldId.ofSerial_inj] at same
  omega

theorem Numbered.of_contains {other : SchemaTree} (numbered : tree.Numbered)
    (fewer : ∀ id, other.contains id = true → tree.contains id = true)
    (serial : other.nextSerial = tree.nextSerial) : other.Numbered := by
  intro id stored
  rw [serial]
  exact numbered id (fewer id stored)

theorem node?_modifyNode (id sought : FieldId) (change : Node → Node) :
    (tree.modifyNode id change).node? sought =
      if id = sought then (tree.node? sought).map change else tree.node? sought :=
  Keyed.find?_modify id sought change tree.nodes

def relist (tree : SchemaTree) (change : List FieldId → List FieldId) : Option FieldId → SchemaTree
  | none => { tree with roots := change tree.roots }
  | some above => tree.modifyNode above fun node => { node with children := change node.children }

theorem node?_relist (change : List FieldId → List FieldId) (place : Option FieldId) (sought : FieldId) :
    (tree.relist change place).node? sought = (tree.node? sought).map fun node =>
      { node with children := if place = some sought then change node.children else node.children } := by
  cases place with
  | none => cases found : tree.node? sought <;> simpa [relist, node?] using found
  | some above =>
    rw [relist, node?_modifyNode]
    by_cases here : above = sought
    · simp [here]
    · cases found : tree.node? sought <;> simp [here]

theorem roots_relist (change : List FieldId → List FieldId) (place : Option FieldId) :
    (tree.relist change place).roots = if place = none then change tree.roots else tree.roots := by
  cases place <;> rfl

theorem siblings?_relist (change : List FieldId → List FieldId) {place : Option FieldId} {siblings : List FieldId}
    (list : tree.siblings? place = some siblings) :
    (tree.relist change place).siblings? place = some (change siblings) := by
  cases place with
  | none =>
    cases list
    rfl
  | some above =>
    obtain ⟨node, found, rfl⟩ := Option.map_eq_some_iff.mp list
    rw [siblings?, node?_relist, found, Option.map_some, Option.map_some, if_pos rfl]

theorem siblings?_relist_of_ne (change : List FieldId → List FieldId) {place other : Option FieldId}
    (elsewhere : other ≠ place) : (tree.relist change place).siblings? other = tree.siblings? other := by
  cases other with
  | none => exact congrArg some ((roots_relist change place).trans (if_neg (Ne.symm elsewhere)))
  | some holder =>
    rw [siblings?, siblings?, node?_relist, Option.map_map]
    simp only [if_neg (Ne.symm elsewhere)]
    rfl

theorem get?_relist (change : List FieldId → List FieldId) (place : Option FieldId) (id : FieldId) :
    (tree.relist change place).get? id = tree.get? id := by
  rw [get?, node?_relist, Option.map_map, get?]
  rfl

theorem parent?_relist (change : List FieldId → List FieldId) (place : Option FieldId) (id : FieldId) :
    (tree.relist change place).parent? id = tree.parent? id := by
  rw [parent?, node?_relist, parent?, Option.bind_map]
  rfl

theorem relist_relist (first second : List FieldId → List FieldId) (place : Option FieldId) :
    (tree.relist first place).relist second place = tree.relist (second ∘ first) place := by
  cases place with
  | none => rfl
  | some above =>
    simp only [relist, modifyNode, Keyed.modify_modify]
    rfl

/-- A change that keeps the list at the place changes nothing. -/
theorem relist_eq_self {change : List FieldId → List FieldId} {place : Option FieldId} {siblings : List FieldId}
    (list : tree.siblings? place = some siblings) (keeps : change siblings = siblings) :
    tree.relist change place = tree := by
  cases place with
  | none =>
    cases list
    rw [relist, keeps]
  | some above =>
    obtain ⟨node, found, rfl⟩ := Option.map_eq_some_iff.mp list
    have unchanged : ∀ stored, tree.node? above = some stored →
        { stored with children := change stored.children } = stored := by
      intro stored again
      cases found.symm.trans again
      rw [keeps]
    rw [relist, modifyNode, Keyed.modify_eq_self unchanged]

/-- The second tree is the first one with one more field, the last one under its parent. -/
structure Entered (tree grown : SchemaTree) (id : FieldId) (parent : Option FieldId)
    (attributes : Attributes) : Prop where
  fresh : ¬tree.contains id = true
  keys : Keyed.keys grown.nodes = Keyed.keys tree.nodes ++ [id]
  node : ∀ sought, grown.node? sought =
    if sought = id then some ⟨attributes.withId id, parent, []⟩
    else (tree.node? sought).map fun node =>
      { node with children := node.children ++ if parent = some sought then [id] else [] }
  roots : grown.roots = tree.roots ++ if parent = none then [id] else []
  holder : ∀ above, parent = some above →
    ∃ node, tree.node? above = some node ∧ node.field.kind.holdsFields = true

theorem entered_of_insert (fresh : ¬tree.contains (FieldId.ofSerial tree.nextSerial) = true)
    {parent : Option FieldId} {attributes : Attributes} {id : FieldId} {grown : SchemaTree}
    (done : tree.insert parent attributes = .ok (id, grown)) :
    tree.Entered grown id parent attributes ∧ id = FieldId.ofSerial tree.nextSerial ∧
      grown.nextSerial = tree.nextSerial + 1 := by
  have absent : FieldId.ofSerial tree.nextSerial ∉ Keyed.keys tree.nodes :=
    fun member => fresh ((contains_iff_mem_keys _).mpr member)
  cases parent with
  | none =>
    simp only [insert, Except.ok.injEq, Prod.mk.injEq] at done
    obtain ⟨rfl, rfl⟩ := done
    refine ⟨⟨fresh, ?_, ?_, by simp, by simp⟩, rfl, rfl⟩
    · rw [Keyed.keys_put, if_neg absent]
    · intro sought
      rw [node?, Keyed.find?_put]
      by_cases same : sought = FieldId.ofSerial tree.nextSerial
      · rw [if_pos same.symm, if_pos same]
      · simp [Ne.symm same, same, node?]
  | some above =>
    cases found : tree.node? above with
    | none => simp [insert, found] at done
    | some holder =>
      cases holds : holder.field.kind.holdsFields with
      | false => simp [insert, found, holds] at done
      | true =>
        simp only [insert, found, holds, if_true, Except.ok.injEq, Prod.mk.injEq] at done
        obtain ⟨rfl, rfl⟩ := done
        refine ⟨⟨fresh, ?_, ?_, by simp, ?_⟩, rfl, rfl⟩
        · rw [Keyed.keys_put, Keyed.keys_modify, if_neg absent]
        · intro sought
          rw [node?, Keyed.find?_put]
          by_cases same : sought = FieldId.ofSerial tree.nextSerial
          · rw [if_pos same.symm, if_pos same]
          · rw [if_neg (Ne.symm same), if_neg same, Keyed.find?_modify]
            by_cases here : above = sought
            · simp [here, node?]
            · simp [here, node?]
        · intro other same
          cases same
          exact ⟨holder, found, holds⟩

namespace Entered

variable {grown : SchemaTree} {id : FieldId} {parent : Option FieldId} {attributes : Attributes}

theorem contains_iff (entered : tree.Entered grown id parent attributes) (sought : FieldId) :
    grown.contains sought = true ↔ sought = id ∨ tree.contains sought = true := by
  rw [contains, entered.node]
  by_cases same : sought = id <;> simp [same, contains]

theorem siblings? (entered : tree.Entered grown id parent attributes) (place : Option FieldId) :
    grown.siblings? place = if place = some id then some []
      else (tree.siblings? place).map fun ids => ids ++ if parent = place then [id] else [] := by
  cases place with
  | none => simp [SchemaTree.siblings?, entered.roots]
  | some holder =>
    rw [SchemaTree.siblings?, entered.node]
    by_cases same : holder = id <;> simp [same, SchemaTree.siblings?, Function.comp_def]

theorem parent? (entered : tree.Entered grown id parent attributes) (sought : FieldId) :
    grown.parent? sought = if sought = id then parent else tree.parent? sought := by
  rw [SchemaTree.parent?, entered.node]
  by_cases same : sought = id
  · simp [same]
  · cases found : tree.node? sought <;> simp [same, SchemaTree.parent?, found]

theorem node_cases (entered : tree.Entered grown id parent attributes) {sought : FieldId} {node : Node}
    (found : grown.node? sought = some node) :
    (sought = id ∧ node = ⟨attributes.withId id, parent, []⟩) ∨
      (sought ≠ id ∧ ∃ before, tree.node? sought = some before ∧
        node = { before with children := before.children ++ if parent = some sought then [id] else [] }) := by
  rw [entered.node] at found
  by_cases same : sought = id
  · rw [if_pos same, Option.some.injEq] at found
    exact .inl ⟨same, found.symm⟩
  · rw [if_neg same, Option.map_eq_some_iff] at found
    obtain ⟨before, stored, rfl⟩ := found
    exact .inr ⟨same, before, stored, rfl⟩

/-- A list of the grown tree is the one under the new field, which is empty, or an old one, at whose end the new
field may stand. -/
theorem siblings_cases (entered : tree.Entered grown id parent attributes) {place : Option FieldId}
    {ids : List FieldId} (list : grown.siblings? place = some ids) : (place = some id ∧ ids = []) ∨
      (place ≠ some id ∧ ∃ before, tree.siblings? place = some before ∧
        ids = before ++ if parent = place then [id] else []) := by
  rw [entered.siblings?] at list
  by_cases own : place = some id
  · rw [if_pos own, Option.some.injEq] at list
    exact .inl ⟨own, list.symm⟩
  · rw [if_neg own, Option.map_eq_some_iff] at list
    obtain ⟨before, stored, rfl⟩ := list
    exact .inr ⟨own, before, stored, rfl⟩

theorem not_listed (entered : tree.Entered grown id parent attributes) (old : tree.WellFormed)
    {place : Option FieldId} {ids : List FieldId} (list : tree.siblings? place = some ids) : id ∉ ids := by
  intro member
  obtain ⟨node, found, _⟩ := old.listed place ids list id member
  exact entered.fresh (contains_of_node found)

theorem contains_parent (entered : tree.Entered grown id parent attributes) {above : FieldId}
    (under : parent = some above) : tree.contains above = true := by
  obtain ⟨holder, stored, _⟩ := entered.holder above under
  exact contains_of_node stored

theorem exists_siblings (entered : tree.Entered grown id parent attributes) :
    ∃ ids, tree.siblings? parent = some ids := by
  cases parent with
  | none => exact ⟨tree.roots, rfl⟩
  | some above =>
    obtain ⟨holder, stored, _⟩ := entered.holder above rfl
    exact ⟨holder.children, siblings?_of_node stored⟩

theorem listed (entered : tree.Entered grown id parent attributes) (old : tree.WellFormed) {place : Option FieldId}
    {ids : List FieldId} (list : grown.siblings? place = some ids) {other : FieldId} (member : other ∈ ids) :
    ∃ node, grown.node? other = some node ∧ node.parent = place := by
  rw [entered.node]
  obtain ⟨_, rfl⟩ | ⟨_, before, stored, rfl⟩ := entered.siblings_cases list
  · cases member
  · rcases List.mem_append.mp member with early | late
    · have different : other ≠ id := fun same => entered.not_listed old stored (same ▸ early)
      obtain ⟨node, found, above⟩ := old.listed place before stored other early
      rw [if_neg different, found]
      exact ⟨_, rfl, above⟩
    · split at late
      · rename_i here
        exact ⟨_, if_pos (List.mem_singleton.mp late), here⟩
      · cases late

theorem placed (entered : tree.Entered grown id parent attributes) (old : tree.WellFormed) {sought : FieldId}
    {node : Node} (found : grown.node? sought = some node) :
    ∃ ids, grown.siblings? node.parent = some ids ∧ sought ∈ ids := by
  obtain ⟨rfl, rfl⟩ | ⟨_, before, stored, rfl⟩ := entered.node_cases found
  · obtain ⟨ids, list⟩ := entered.exists_siblings
    have other : parent ≠ some sought := fun under => entered.fresh (entered.contains_parent under)
    refine ⟨ids ++ [sought], ?_, by simp⟩
    rw [entered.siblings?, if_neg other, list]
    simp
  · obtain ⟨ids, list, member⟩ := old.placed sought before stored
    have other : before.parent ≠ some id := by
      intro above
      exact entered.fresh (old.contains_above ((rises_iff_of_node stored).mpr above))
    exact ⟨_, by rw [entered.siblings?, if_neg other, list, Option.map_some], List.mem_append_left _ member⟩

/-- The new field is one higher than its parent, and nothing lies below it. -/
theorem grounded (entered : tree.Entered grown id parent attributes) (old : tree.WellFormed) :
    ∃ height : FieldId → Nat, ∀ sought above, grown.parent? sought = some above → height above < height sought := by
  obtain ⟨height, falls⟩ := old.grounded
  refine ⟨fun sought => if sought = id then (parent.map height).getD 0 + 1 else height sought, ?_⟩
  intro sought above rises
  rw [entered.parent?] at rises
  by_cases same : sought = id
  · rw [if_pos same] at rises
    have different : above ≠ id := fun equal => entered.fresh (equal ▸ entered.contains_parent rises)
    simp [same, different, rises]
  · rw [if_neg same] at rises
    have different : above ≠ id := fun equal => entered.fresh (equal ▸ old.contains_above rises)
    simpa [same, different] using falls sought above rises

theorem wellFormed (entered : tree.Entered grown id parent attributes) (old : tree.WellFormed) :
    grown.WellFormed where
  distinct := by
    rw [entered.keys]
    refine List.nodup_append.mpr ⟨old.distinct, by simp, ?_⟩
    rintro key member other here rfl
    obtain rfl := List.mem_singleton.mp here
    exact entered.fresh ((contains_iff_mem_keys key).mpr member)
  keyed := by
    intro sought node found
    obtain ⟨rfl, rfl⟩ | ⟨_, before, stored, rfl⟩ := entered.node_cases found
    · rfl
    · exact old.keyed sought before stored
  once := by
    intro place ids list
    obtain ⟨_, rfl⟩ | ⟨_, before, stored, rfl⟩ := entered.siblings_cases list
    · exact List.nodup_nil
    · have absent := entered.not_listed old stored
      have distinct := old.once place before stored
      split
      · refine List.nodup_append.mpr ⟨distinct, by simp, ?_⟩
        rintro other member _ here rfl
        exact absent (List.mem_singleton.mp here ▸ member)
      · rwa [List.append_nil]
  listed := fun _ _ list _ member => entered.listed old list member
  placed := fun _ _ found => entered.placed old found
  contained := by
    intro sought node found filled
    obtain ⟨_, rfl⟩ | ⟨_, before, stored, rfl⟩ := entered.node_cases found
    · exact absurd rfl filled
    · by_cases above : parent = some sought
      · obtain ⟨holder, sits, holds⟩ := entered.holder sought above
        cases stored.symm.trans sits
        exact holds
      · exact old.contained sought before stored (by simpa [above] using filled)
  grounded := entered.grounded old

end Entered

theorem insert_of_add {millis : Nat} {parent : Option FieldId} {draft : Attributes} {id : FieldId}
    {grown : SchemaTree} (done : tree.add millis parent draft = .ok (id, grown)) :
    tree.insert parent (draft.completed (draft.nameOr (nameFromTime millis))) = .ok (id, grown) := by
  unfold Attributes.nameOr
  simp only [add] at done
  split at done
  · rename_i blank
    rw [if_pos blank]
    exact done
  · rename_i given
    rw [if_neg given]
    split at done
    · cases done
    · exact done

theorem insert_wellFormed (wellFormed : tree.WellFormed) (numbered : tree.Numbered) {parent : Option FieldId}
    {attributes : Attributes} {id : FieldId} {grown : SchemaTree}
    (done : tree.insert parent attributes = .ok (id, grown)) : grown.WellFormed ∧ grown.Numbered := by
  obtain ⟨entered, named, serial⟩ := entered_of_insert numbered.not_contains_next done
  refine ⟨entered.wellFormed wellFormed, fun sought stored => ?_⟩
  rw [serial]
  rcases (entered.contains_iff sought).mp stored with rfl | old
  · exact ⟨tree.nextSerial, Nat.lt_succ_self _, named⟩
  · obtain ⟨number, below, same⟩ := numbered sought old
    exact ⟨number, Nat.lt_succ_of_lt below, same⟩

structure Rearranged (tree other : SchemaTree) : Prop where
  keys : Keyed.keys other.nodes = Keyed.keys tree.nodes
  serial : other.nextSerial = tree.nextSerial
  roots : other.roots.Perm tree.roots
  node : ∀ id before after, tree.node? id = some before → other.node? id = some after →
    after.parent = before.parent ∧ after.field.id = before.field.id ∧ after.children.Perm before.children ∧
      (before.children ≠ [] → before.field.kind.holdsFields = true → after.field.kind.holdsFields = true)

namespace Rearranged

variable {other : SchemaTree}

theorem contains (same : tree.Rearranged other) (id : FieldId) : other.contains id = tree.contains id := by
  rw [Bool.eq_iff_iff, contains_iff_mem_keys, contains_iff_mem_keys, same.keys]

theorem node_before (same : tree.Rearranged other) {id : FieldId} {after : Node}
    (found : other.node? id = some after) : ∃ before, tree.node? id = some before :=
  exists_node_of_contains ((same.contains id).symm.trans (contains_of_node found))

theorem node_after (same : tree.Rearranged other) {id : FieldId} {before : Node}
    (found : tree.node? id = some before) : ∃ after, other.node? id = some after :=
  exists_node_of_contains ((same.contains id).trans (contains_of_node found))

theorem siblings_before (same : tree.Rearranged other) {place : Option FieldId} {ids : List FieldId}
    (list : other.siblings? place = some ids) :
    ∃ before, tree.siblings? place = some before ∧ ids.Perm before := by
  cases place with
  | none =>
    cases list
    exact ⟨tree.roots, rfl, same.roots⟩
  | some holder =>
    obtain ⟨after, found, rfl⟩ := Option.map_eq_some_iff.mp list
    obtain ⟨before, stored⟩ := same.node_before found
    exact ⟨before.children, siblings?_of_node stored,
      (same.node holder before after stored found).2.2.1⟩

theorem parent? (same : tree.Rearranged other) (id : FieldId) : other.parent? id = tree.parent? id := by
  cases found : other.node? id with
  | none =>
    cases stored : tree.node? id with
    | none => rw [SchemaTree.parent?, SchemaTree.parent?, found, stored]
    | some before =>
      obtain ⟨after, present⟩ := same.node_after stored
      rw [found] at present
      cases present
  | some after =>
    obtain ⟨before, stored⟩ := same.node_before found
    rw [parent?_of_node found, parent?_of_node stored, (same.node id before after stored found).1]

theorem wellFormed (same : tree.Rearranged other) (old : tree.WellFormed) : other.WellFormed where
  distinct := by
    rw [same.keys]
    exact old.distinct
  keyed := by
    intro id after found
    obtain ⟨before, stored⟩ := same.node_before found
    rw [(same.node id before after stored found).2.1, old.keyed id before stored]
  once := by
    intro place ids list
    obtain ⟨before, stored, perm⟩ := same.siblings_before list
    exact perm.nodup_iff.mpr (old.once place before stored)
  listed := by
    intro place ids list id member
    obtain ⟨before, stored, perm⟩ := same.siblings_before list
    obtain ⟨node, found, above⟩ := old.listed place before stored id (perm.mem_iff.mp member)
    obtain ⟨after, present⟩ := same.node_after found
    exact ⟨after, present, (same.node id node after found present).1.trans above⟩
  placed := by
    intro id after found
    obtain ⟨before, stored⟩ := same.node_before found
    obtain ⟨ids, list, member⟩ := old.placed id before stored
    rw [(same.node id before after stored found).1]
    cases place : before.parent with
    | none =>
      rw [place] at list
      cases list
      exact ⟨other.roots, rfl, same.roots.mem_iff.mpr member⟩
    | some holder =>
      rw [place] at list
      obtain ⟨node, sits, rfl⟩ := Option.map_eq_some_iff.mp list
      obtain ⟨later, present⟩ := same.node_after sits
      exact ⟨later.children, by rw [siblings?, present, Option.map_some],
        (same.node holder node later sits present).2.2.1.mem_iff.mpr member⟩
  contained := by
    intro id after found filled
    obtain ⟨before, stored⟩ := same.node_before found
    obtain ⟨_, _, perm, holds⟩ := same.node id before after stored found
    have nonempty : before.children ≠ [] := fun none => filled (List.perm_nil.mp (none ▸ perm))
    exact holds nonempty (old.contained id before stored nonempty)
  grounded := by
    obtain ⟨height, falls⟩ := old.grounded
    exact ⟨height, fun id above rises => falls id above ((same.parent? id).symm.trans rises)⟩

theorem numbered (same : tree.Rearranged other) (old : tree.Numbered) : other.Numbered :=
  old.of_contains (fun id stored => (same.contains id).symm.trans stored) same.serial

end Rearranged

theorem rearranged_modifyNode {id : FieldId} {change : Node → Node}
    (keeps : ∀ node, tree.node? id = some node → (change node).parent = node.parent ∧
      (change node).field.id = node.field.id ∧ (change node).children.Perm node.children ∧
      (node.children ≠ [] → node.field.kind.holdsFields = true → (change node).field.kind.holdsFields = true)) :
    tree.Rearranged (tree.modifyNode id change) where
  keys := Keyed.keys_modify id change tree.nodes
  serial := rfl
  roots := .refl _
  node := by
    intro sought before after stored found
    rw [node?_modifyNode] at found
    by_cases here : id = sought
    · rw [if_pos here, stored, Option.map_some, Option.some.injEq] at found
      rw [← found]
      exact keeps before (here ▸ stored)
    · rw [if_neg here, stored, Option.some.injEq] at found
      rw [← found]
      exact ⟨rfl, rfl, .refl _, fun _ holds => holds⟩

theorem update_eq_ok {id : FieldId} {draft : Attributes} {other : SchemaTree}
    (done : tree.update id draft = .ok other) : ∃ node, tree.node? id = some node ∧
      (node.children ≠ [] → draft.kind.holdsFields = true) ∧ other = tree.modifyNode id fun before =>
        { before with field := (draft.completed (draft.nameOr node.field.name)).withId id } := by
  unfold update at done
  split at done
  · cases done
  · rename_i node found
    refine ⟨node, found, ?_⟩
    simp only [] at done
    split at done
    · cases done
    · rename_i fits
      refine ⟨fun filled => by simpa [filled] using fits, ?_⟩
      unfold Attributes.nameOr
      split at done
      · rename_i blank
        cases done
        rw [if_pos blank]
        rfl
      · rename_i given
        rw [if_neg given]
        split at done
        · cases done
        · cases done
          rfl

theorem rearranged_of_update (wellFormed : tree.WellFormed) {id : FieldId} {draft : Attributes}
    {other : SchemaTree} (done : tree.update id draft = .ok other) : tree.Rearranged other := by
  obtain ⟨node, found, holds, rfl⟩ := update_eq_ok done
  refine rearranged_modifyNode fun stored sits => ⟨rfl, (wellFormed.keyed id stored sits).symm, .refl _, ?_⟩
  intro filled _
  cases found.symm.trans sits
  exact holds filled

theorem checkPlaces_eq_ok {source target count : Nat} {done : Unit}
    (checked : checkPlaces source target count = .ok done) : source < count ∧ target < count := by
  simp only [checkPlaces] at checked
  split at checked
  · cases checked
  · split at checked
    · cases checked
    · omega

theorem reorder_of_siblings {parent : Option FieldId} {siblings : List FieldId}
    (list : tree.siblings? parent = some siblings) (source target : Nat) : tree.reorder parent source target =
      (checkPlaces source target siblings.length).map fun _ => tree.relist (shiftElement source target) parent := by
  cases parent with
  | none =>
    cases list
    rfl
  | some above =>
    obtain ⟨node, found, rfl⟩ := Option.map_eq_some_iff.mp list
    simp only [reorder, found]
    rfl

theorem reorder_of_missing {above : FieldId} (missing : tree.contains above = false) (source target : Nat) :
    tree.reorder (some above) source target = .error (.fieldNotFound above) := by
  simp only [reorder, node?_of_missing missing]

/-- A reordering that succeeds finds both places in the list and shifts the element from one to the other. -/
theorem reorder_eq_ok {parent : Option FieldId} {source target : Nat} {other : SchemaTree}
    (done : tree.reorder parent source target = .ok other) : ∃ siblings, tree.siblings? parent = some siblings ∧
      source < siblings.length ∧ target < siblings.length ∧
        other = tree.relist (shiftElement source target) parent := by
  have listed : ∃ siblings, tree.siblings? parent = some siblings := by
    cases parent with
    | none => exact ⟨tree.roots, rfl⟩
    | some above =>
      cases found : tree.node? above with
      | none => simp [reorder, found] at done
      | some node => exact ⟨node.children, siblings?_of_node found⟩
  obtain ⟨siblings, list⟩ := listed
  rw [reorder_of_siblings list] at done
  obtain ⟨_, checked, rfl⟩ := Except.map_eq_ok_iff.mp done
  obtain ⟨inside, within⟩ := checkPlaces_eq_ok checked
  exact ⟨siblings, list, inside, within, rfl⟩

theorem reorder_of_places {parent : Option FieldId} {source target : Nat} {siblings : List FieldId}
    (list : tree.siblings? parent = some siblings) (inside : source < siblings.length)
    (within : target < siblings.length) :
    tree.reorder parent source target = .ok (tree.relist (shiftElement source target) parent) := by
  rw [reorder_of_siblings list, checkPlaces, if_neg (Nat.not_le.mpr inside), if_neg (Nat.not_le.mpr within)]
  rfl

/-- The first place that the list does not have is told. -/
theorem reorder_of_outside {parent : Option FieldId} {source target : Nat} {siblings : List FieldId}
    (list : tree.siblings? parent = some siblings)
    (outside : siblings.length ≤ source ∨ siblings.length ≤ target) : tree.reorder parent source target =
      .error (.indexOutOfRange (if siblings.length ≤ source then source else target) siblings.length) := by
  rw [reorder_of_siblings list, checkPlaces]
  by_cases early : siblings.length ≤ source
  · rw [if_pos early, if_pos early]
    rfl
  · rw [if_neg early, if_neg early, if_pos (outside.resolve_left early)]
    rfl

theorem rearranged_of_reorder {parent : Option FieldId} {source target : Nat} {other : SchemaTree}
    (done : tree.reorder parent source target = .ok other) : tree.Rearranged other := by
  obtain ⟨siblings, list, inside, within, rfl⟩ := reorder_eq_ok done
  cases parent with
  | none =>
    cases list
    refine ⟨rfl, rfl, shiftElement_perm inside within, ?_⟩
    intro id before after stored found
    cases stored.symm.trans found
    exact ⟨rfl, rfl, .refl _, fun _ holds => holds⟩
  | some above =>
    apply rearranged_modifyNode
    intro stored sits
    cases list.symm.trans (siblings?_of_node sits)
    exact ⟨rfl, rfl, shiftElement_perm inside within, fun _ holds => holds⟩

end SchemaTree

end ConfigSchema
