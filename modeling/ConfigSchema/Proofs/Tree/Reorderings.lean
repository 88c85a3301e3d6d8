import ConfigSchema.Proofs.Tree.InPlace
import ConfigSchema.Proofs.Tree.Reachable
import Mathlib.Data.List.InsertIdx

/-! Reorderings. When an element is taken out of a list and put in elsewhere, those between the two places go one place
toward the gap. Main statement: in every well-formed tree a reordering takes one sibling to its new place, keeps the
others in order and leaves everything beside their list alone, and the reordering with the places exchanged takes it
back; so does a run of reorderings, the last one first. -/

namespace ConfigSchema

/-- Where an element goes when the one at the first place is taken to the second. -/
def shiftedPlace (source target place : Nat) : Nat :=
  if place = source then target
  else if source < place ∧ place ≤ target then place - 1
  else if target ≤ place ∧ place < source then place + 1
  else place

theorem shiftedPlace_self (source target : Nat) : shiftedPlace source target source = target := if_pos rfl

theorem shiftedPlace_lt_iff {source place other : Nat} (target : Nat) (first : place ≠ source)
    (second : other ≠ source) :
    shiftedPlace source target place < shiftedPlace source target other ↔ place < other := by
  unfold shiftedPlace
  rw [if_neg first, if_neg second]
  split_ifs <;> omega

theorem idxOf?_of_nodup {α : Type} [DecidableEq α] {list : List α} (nodup : list.Nodup) {place : Nat} {element : α}
    (here : list[place]? = some element) : list.idxOf? element = some place := by
  obtain ⟨inside, rfl⟩ := List.getElem?_eq_some_iff.mp here
  refine List.idxOf?_eq_some_iff.mpr ⟨inside, rfl, fun earlier before same => ?_⟩
  have twice : list[earlier]? = list[place]? := by
    rw [here, List.getElem?_eq_getElem (Nat.lt_trans before inside), same]
  rw [List.getElem?_inj (Nat.lt_trans before inside) nodup] at twice
  omega

section

variable {α : Type} {source target : Nat} {list : List α} (inside : source < list.length)
  (within : target < list.length)

include inside within

theorem length_shiftElement : (shiftElement source target list).length = list.length :=
  (shiftElement_perm inside within).length_eq

theorem getElem?_shiftedPlace (place : Nat) :
    (shiftElement source target list)[shiftedPlace source target place]? = list[place]? := by
  by_cases moved : place = source
  · rw [moved, shiftedPlace_self, getElem?_shiftElement inside within]
  · have shifted : shiftElement source target list = (list.eraseIdx source).insertIdx target list[source] := by
      rw [shiftElement, List.getElem?_eq_getElem inside]
    rw [shifted, shiftedPlace, if_neg moved]
    by_cases down : source < place ∧ place ≤ target
    · have above : place - 1 + 1 = place := by omega
      rw [if_pos down, List.getElem?_insertIdx_of_lt (by omega), List.getElem?_eraseIdx_of_ge (by omega), above]
    · rw [if_neg down]
      by_cases up : target ≤ place ∧ place < source
      · rw [if_pos up, List.getElem?_insertIdx_of_gt (by omega), Nat.add_sub_cancel,
          List.getElem?_eraseIdx_of_lt up.2]
      · -- outside of the two places nothing moves: the gap and the new element lie on the same side
        rw [if_neg up]
        by_cases early : place < target
        · rw [List.getElem?_insertIdx_of_lt early, List.getElem?_eraseIdx_of_lt (by omega)]
        · have above : place - 1 + 1 = place := by omega
          rw [List.getElem?_insertIdx_of_gt (by omega), List.getElem?_eraseIdx_of_ge (by omega), above]

theorem shiftElement_back : shiftElement target source (shiftElement source target list) = list := by
  have arrived := getElem?_shiftElement inside within
  rw [List.getElem?_eq_getElem inside] at arrived
  rw [shiftElement, arrived]
  simp only [eraseIdx_shiftElement target inside]
  exact List.insertIdx_eraseIdx_getElem inside

variable [DecidableEq α] (nodup : list.Nodup)

include nodup

theorem idxOf?_shiftElement (element : α) :
    (shiftElement source target list).idxOf? element = (list.idxOf? element).map (shiftedPlace source target) := by
  have perm := shiftElement_perm inside within
  cases found : list.idxOf? element with
  | none =>
    have absent := List.idxOf?_eq_none_iff.mp found
    exact List.idxOf?_eq_none_iff.mpr fun member => absent (perm.mem_iff.mp member)
  | some place =>
    obtain ⟨bound, here, _⟩ := List.idxOf?_eq_some_iff.mp found
    apply idxOf?_of_nodup (perm.nodup_iff.mpr nodup)
    rw [getElem?_shiftedPlace inside within, List.getElem?_eq_getElem bound, here]

theorem idxOf_shiftElement {element : α} (member : element ∈ list) :
    (shiftElement source target list).idxOf element = shiftedPlace source target (list.idxOf element) := by
  have found := idxOf?_of_nodup nodup (List.getElem?_idxOf member)
  rw [List.idxOf_eq_getD_idxOf?, idxOf?_shiftElement inside within nodup, found]
  rfl

theorem idxOf_shiftElement_lt_iff {first second : α} (known : first ∈ list) (listed : second ∈ list)
    (aside : first ≠ list[source]) (beside : second ≠ list[source]) :
    (shiftElement source target list).idxOf first < (shiftElement source target list).idxOf second ↔
      list.idxOf first < list.idxOf second := by
  have elsewhere : ∀ element ∈ list, element ≠ list[source] → list.idxOf element ≠ source := by
    intro element member different same
    have here := List.getElem?_idxOf member
    rw [same, List.getElem?_eq_getElem inside, Option.some.injEq] at here
    exact different here.symm
  rw [idxOf_shiftElement inside within nodup known, idxOf_shiftElement inside within nodup listed]
  exact shiftedPlace_lt_iff target (elsewhere first known aside) (elsewhere second listed beside)

end

namespace SchemaTree

variable {tree : SchemaTree}

/-- But for one list the trees are the same. -/
structure SameBeside (tree other : SchemaTree) (parent : Option FieldId) : Prop where
  keys : Keyed.keys other.nodes = Keyed.keys tree.nodes
  serial : other.nextSerial = tree.nextSerial
  field : ∀ id, other.get? id = tree.get? id
  above : ∀ id, other.parent? id = tree.parent? id
  lists : ∀ place, place ≠ parent → other.siblings? place = tree.siblings? place

theorem sameBeside_relist (change : List FieldId → List FieldId) (parent : Option FieldId) :
    tree.SameBeside (tree.relist change parent) parent where
  keys := by
    cases parent with
    | none => rfl
    | some above => exact Keyed.keys_modify above _ tree.nodes
  serial := by cases parent <;> rfl
  field := get?_relist change parent
  above := parent?_relist change parent
  lists := fun _ elsewhere => siblings?_relist_of_ne change elsewhere

theorem index?_of_shift (wellFormed : tree.WellFormed) {parent : Option FieldId} {source target : Nat}
    {siblings : List FieldId} (list : tree.siblings? parent = some siblings) (inside : source < siblings.length)
    (within : target < siblings.length) (id : FieldId) :
    (tree.relist (shiftElement source target) parent).index? id =
      if tree.parent? id = parent then (tree.index? id).map (shiftedPlace source target) else tree.index? id := by
  cases found : tree.node? id with
  | none => simp [index?, node?_relist, found]
  | some node =>
    have before : tree.index? id = (tree.siblings? node.parent).bind fun siblings => siblings.idxOf? id := by
      rw [index?, found]
      rfl
    have after : (tree.relist (shiftElement source target) parent).index? id =
        ((tree.relist (shiftElement source target) parent).siblings? node.parent).bind
          fun siblings => siblings.idxOf? id := by
      rw [index?, node?_relist, found]
      rfl
    rw [before, after, parent?_of_node found]
    by_cases here : node.parent = parent
    · rw [if_pos here, here, siblings?_relist _ list, list, Option.bind_some, Option.bind_some]
      exact idxOf?_shiftElement inside within (wellFormed.once parent siblings list) id
    · rw [if_neg here, siblings?_relist_of_ne _ here]

/-- The reordering with the places exchanged is never refused, and gives the tree of before. -/
theorem reorder_back {parent : Option FieldId} {source target : Nat} {reordered : SchemaTree}
    (done : tree.reorder parent source target = .ok reordered) :
    reordered.reorder parent target source = .ok tree := by
  obtain ⟨siblings, list, inside, within, rfl⟩ := reorder_eq_ok done
  have again := siblings?_relist (shiftElement source target) list
  have length := length_shiftElement inside within
  rw [reorder_of_places again (length.symm ▸ within) (length.symm ▸ inside), relist_relist,
    relist_eq_self list (shiftElement_back inside within)]

theorem reorder_back_of_error {parent : Option FieldId} {source target : Nat} {reason : TreeError}
    (refused : tree.reorder parent source target = .error reason) :
    ∃ other, tree.reorder parent target source = .error other := by
  cases back : tree.reorder parent target source with
  | error other => exact ⟨other, rfl⟩
  | ok reordered =>
    obtain ⟨siblings, list, inside, within, _⟩ := reorder_eq_ok back
    rw [reorder_of_places list within inside] at refused
    cases refused

/-- A reordering takes one field of its list from the first place to the second and keeps the order of all others. No
field is lost or doubled, every other list, the data and the holders of all fields stay, and the reordering with the
places exchanged gives the old tree again. With a place that the list does not have, or for an unknown parent, it is
refused, and carried out in place it leaves the tree as it was. -/
theorem reorder_reversible (wellFormed : tree.WellFormed) (parent : Option FieldId) (source target : Nat) :
    (∀ siblings, tree.siblings? parent = some siblings → source < siblings.length → target < siblings.length →
      ∃ reordered shifted moved, tree.reorder parent source target = .ok reordered ∧
        reordered.siblings? parent = some shifted ∧ siblings[source]? = some moved ∧ shifted[target]? = some moved ∧
        shifted.eraseIdx target = siblings.eraseIdx source ∧
        (∀ first ∈ siblings, ∀ second ∈ siblings, first ≠ moved → second ≠ moved →
          (shifted.idxOf first < shifted.idxOf second ↔ siblings.idxOf first < siblings.idxOf second)) ∧
        shifted.Perm siblings ∧ shifted.Nodup ∧
        (∀ id, reordered.index? id =
          if tree.parent? id = parent then (tree.index? id).map (shiftedPlace source target) else tree.index? id) ∧
        tree.SameBeside reordered parent ∧ reordered.WellFormed ∧
        reordered.reorder parent target source = .ok tree) ∧
    (∀ siblings, tree.siblings? parent = some siblings → siblings.length ≤ source ∨ siblings.length ≤ target →
      tree.reorder parent source target =
        .error (.indexOutOfRange (if siblings.length ≤ source then source else target) siblings.length)) ∧
    (∀ above, parent = some above → tree.contains above = false →
      tree.reorder parent source target = .error (.fieldNotFound above)) ∧
    ∀ reason, tree.reorder parent source target = .error reason →
      Program.perform (InPlace.reorder parent source target) tree = (.error reason, tree) := by
  refine ⟨?_, ?_, ?_, ?_⟩
  · intro siblings list inside within
    have done := reorder_of_places list inside within
    have perm := shiftElement_perm inside within
    have nodup := wellFormed.once parent siblings list
    have here := List.getElem?_eq_getElem inside
    refine ⟨_, shiftElement source target siblings, siblings[source], done, siblings?_relist _ list, here,
      (getElem?_shiftElement inside within).trans here, eraseIdx_shiftElement target inside, ?_, perm,
      perm.nodup_iff.mpr nodup, index?_of_shift wellFormed list inside within, sameBeside_relist _ parent,
      (rearranged_of_reorder done).wellFormed wellFormed, reorder_back done⟩
    exact fun first known second listed => idxOf_shiftElement_lt_iff inside within nodup known listed
  · exact fun siblings list => reorder_of_outside list
  · rintro above rfl missing
    exact reorder_of_missing missing source target
  · intro reason refused
    rw [InPlace.perform_reorder, refused]
    rfl

def trioRun : List Edit :=
  let draft (name : String) (kind : Kind) : Attributes := ⟨name, kind, "", false, none⟩
  [.add 0 none (draft "group" .object), .add 0 (some (.ofSerial 0)) (draft "first" .boolean),
    .add 0 (some (.ofSerial 0)) (draft "second" .boolean), .add 0 (some (.ofSerial 0)) (draft "third" .boolean),
    .add 0 none (draft "other" .boolean)]

def trioTree : SchemaTree := trioRun.foldl Edit.apply empty

/-- The last field goes to the front and back, but neither behind the end nor into a list that does not exist. -/
theorem reorder_reversible_at_trioTree : trioTree.WellFormed ∧
    (∃ reordered, trioTree.reorder (some (.ofSerial 0)) 2 0 = .ok reordered ∧
      reordered.siblings? (some (.ofSerial 0)) = some ([3, 1, 2].map .ofSerial) ∧
      reordered.index? (.ofSerial 1) = some 1 ∧ reordered.index? (.ofSerial 4) = some 1 ∧
      reordered.reorder (some (.ofSerial 0)) 0 2 = .ok trioTree) ∧
    Program.perform (InPlace.reorder (some (.ofSerial 0)) 0 3) trioTree = (.error (.indexOutOfRange 3 3), trioTree) ∧
    Program.perform (InPlace.reorder (some (.ofSerial 9)) 0 0) trioTree =
      (.error (.fieldNotFound (.ofSerial 9)), trioTree) := by
  have wellFormed : trioTree.WellFormed := (Reachable.empty.run trioRun).wellFormed
  have list : trioTree.siblings? (some (.ofSerial 0)) = some ([1, 2, 3].map .ofSerial) := by decide
  refine ⟨wellFormed, ?_, ?_, ?_⟩
  · obtain ⟨reordered, shifted, moved, done, listed, here, there, others, _, _, _, places, _, _, back⟩ :=
      (reorder_reversible wellFormed (some (.ofSerial 0)) 2 0).1 _ list (by decide) (by decide)
    refine ⟨reordered, done, ?_, ?_, ?_, back⟩
    · cases shifted with
      | nil => cases there
      | cons head tail =>
        cases here
        cases there
        cases others
        exact listed
    · rw [places]
      decide
    · rw [places]
      decide
  · obtain ⟨_, outside, _, untouched⟩ := reorder_reversible wellFormed (some (.ofSerial 0)) 0 3
    exact untouched _ (outside _ list (.inr (by decide)))
  · obtain ⟨_, _, unknown, untouched⟩ := reorder_reversible wellFormed (some (.ofSerial 9)) 0 0
    exact untouched _ (unknown _ rfl (by decide))

structure Reordering where
  parent : Option FieldId
  source : Nat
  target : Nat

namespace Reordering

def back (reordering : Reordering) : Reordering := ⟨reordering.parent, reordering.target, reordering.source⟩

def apply (tree : SchemaTree) (reordering : Reordering) : SchemaTree :=
  (Edit.reorder reordering.parent reordering.source reordering.target).apply tree

theorem apply_of_ok {reordering : Reordering} {reordered : SchemaTree}
    (done : tree.reorder reordering.parent reordering.source reordering.target = .ok reordered) :
    apply tree reordering = reordered := by
  simp only [apply, Edit.apply, done]

theorem apply_of_error {reordering : Reordering} {reason : TreeError}
    (refused : tree.reorder reordering.parent reordering.source reordering.target = .error reason) :
    apply tree reordering = tree := by
  simp only [apply, Edit.apply, refused]

theorem apply_back (tree : SchemaTree) (reordering : Reordering) :
    apply (apply tree reordering) reordering.back = tree := by
  cases done : tree.reorder reordering.parent reordering.source reordering.target with
  | ok reordered =>
    rw [apply_of_ok done]
    exact apply_of_ok (reorder_back done)
  | error reason =>
    obtain ⟨other, again⟩ := reorder_back_of_error done
    rw [apply_of_error done]
    exact apply_of_error again

theorem perm_apply (tree : SchemaTree) (reordering : Reordering) {place : Option FieldId} {siblings : List FieldId}
    (list : tree.siblings? place = some siblings) :
    ∃ shuffled, (apply tree reordering).siblings? place = some shuffled ∧ shuffled.Perm siblings := by
  cases done : tree.reorder reordering.parent reordering.source reordering.target with
  | ok reordered =>
    rw [apply_of_ok done]
    obtain ⟨others, held, inside, within, rfl⟩ := reorder_eq_ok done
    by_cases here : place = reordering.parent
    · subst here
      cases list.symm.trans held
      exact ⟨_, siblings?_relist _ list, shiftElement_perm inside within⟩
    · exact ⟨siblings, (siblings?_relist_of_ne _ here).trans list, .refl _⟩
  | error reason =>
    rw [apply_of_error done]
    exact ⟨siblings, list, .refl _⟩

theorem run_back (tree : SchemaTree) (run : List Reordering) :
    (run.reverse.map back).foldl apply (run.foldl apply tree) = tree := by
  induction run generalizing tree with
  | nil => rfl
  | cons reordering rest ih =>
    rw [List.reverse_cons, List.map_append, List.foldl_append, List.foldl_cons, ih]
    exact apply_back tree reordering

theorem perm_run (tree : SchemaTree) (run : List Reordering) {place : Option FieldId} {siblings : List FieldId}
    (list : tree.siblings? place = some siblings) :
    ∃ shuffled, (run.foldl apply tree).siblings? place = some shuffled ∧ shuffled.Perm siblings := by
  induction run generalizing tree siblings with
  | nil => exact ⟨siblings, list, .refl _⟩
  | cons reordering rest ih =>
    obtain ⟨between, held, perm⟩ := perm_apply tree reordering list
    obtain ⟨shuffled, after, permAfter⟩ := ih (apply tree reordering) held
    exact ⟨shuffled, after, permAfter.trans perm⟩

end Reordering

end SchemaTree

end ConfigSchema
