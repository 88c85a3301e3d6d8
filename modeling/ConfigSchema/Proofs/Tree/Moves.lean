import ConfigSchema.Proofs.Tree.Reachable

/-! Which moves are possible. Whether a field lies above another one is asked upward, from holder to holder; what a
field has below it is listed downward, from list to list. Main statement: in every reachable tree the two agree on all
ids, stored or not, the way up takes fewer steps than the tree has fields, and a move is refused exactly where the
target is missing, holds no fields or lies in what is moved. -/

namespace ConfigSchema.SchemaTree

open Relation

variable {tree : SchemaTree}

/-- The way up as it is walked: one field after another, until the sought one is met or none is above. There is no
answer when the steps are used up before. -/
def meetsWithin (tree : SchemaTree) (sought : FieldId) : Nat → Option FieldId → Option Bool
  | _, none => some false
  | 0, some _ => none
  | steps + 1, some id => if id = sought then some true else tree.meetsWithin sought steps (tree.parent? id)

theorem meetsWithin_ancestors (wellFormed : tree.WellFormed) (sought : FieldId) {steps : Nat} {id : FieldId}
    (enough : (tree.ancestors id).length ≤ steps) :
    tree.meetsWithin sought steps (tree.parent? id) = some (tree.isAncestor sought id) := by
  induction steps generalizing id with
  | zero =>
    cases rises : tree.parent? id with
    | none => rw [isAncestor, ancestors_of_root rises]; rfl
    | some above =>
      rw [ancestors_of_rises wellFormed rises, List.length_cons] at enough
      omega
  | succ steps ih =>
    cases rises : tree.parent? id with
    | none => rw [isAncestor, ancestors_of_root rises]; rfl
    | some above =>
      rw [ancestors_of_rises wellFormed rises, List.length_cons] at enough
      have further : tree.meetsWithin sought steps (tree.parent? above) = some (tree.isAncestor sought above) := by
        apply ih
        omega
      by_cases met : above = sought
      · rw [meetsWithin, if_pos met, isAncestor, ancestors_of_rises wellFormed rises, met]
        simp
      · rw [meetsWithin, if_neg met, further, isAncestor, isAncestor, ancestors_of_rises wellFormed rises]
        simp [Ne.symm met]

def searchWithin (tree : SchemaTree) (sought : FieldId) : Nat → FieldId → Bool
  | 0, _ => false
  | depth + 1, id => (tree.children id).any fun child => child = sought || tree.searchWithin sought depth child

theorem transGen_of_searchWithin (wellFormed : tree.WellFormed) {sought : FieldId} {depth : Nat} {id : FieldId}
    (found : tree.searchWithin sought depth id = true) : TransGen tree.Rises sought id := by
  induction depth generalizing id with
  | zero => cases found
  | succ depth ih =>
    rw [searchWithin, List.any_eq_true] at found
    obtain ⟨child, member, here⟩ := found
    have rises := wellFormed.mem_children.mp member
    rcases Bool.or_eq_true_iff.mp here with same | deeper
    · exact of_decide_eq_true same ▸ .single rises
    · exact (ih deeper).tail rises

theorem searchWithin_of_transGen (wellFormed : tree.WellFormed) {sought : FieldId} {depth : Nat} {id : FieldId}
    (deep : tree.size ≤ depth + (tree.ancestors id).length) (way : TransGen tree.Rises sought id) :
    tree.searchWithin sought depth id = true := by
  induction depth generalizing id with
  | zero =>
    obtain ⟨child, _, rises⟩ := TransGen.tail'_iff.mp way
    have short := length_ancestors_lt wellFormed (wellFormed.contains_above rises)
    omega
  | succ depth ih =>
    obtain ⟨child, lower, rises⟩ := TransGen.tail'_iff.mp way
    rw [searchWithin, List.any_eq_true]
    refine ⟨child, wellFormed.mem_children.mpr rises, ?_⟩
    rw [Bool.or_eq_true_iff]
    rcases reflTransGen_iff_eq_or_transGen.mp lower with same | strict
    · exact .inl (decide_eq_true same)
    · refine .inr (ih ?_ strict)
      rw [ancestors_of_rises wellFormed rises, List.length_cons]
      omega

theorem searchWithin_eq_isAncestor (wellFormed : tree.WellFormed) (above below : FieldId) {depth : Nat}
    (deep : tree.size ≤ depth) : tree.searchWithin below depth above = tree.isAncestor above below := by
  rw [Bool.eq_iff_iff, isAncestor_iff wellFormed]
  constructor
  · exact transGen_of_searchWithin wellFormed
  · exact searchWithin_of_transGen wellFormed (Nat.le_add_right_of_le deep)

theorem mem_subtree_of_missing {top id : FieldId} (missing : tree.contains top = false)
    (member : id ∈ tree.subtree top) : id = top := by
  rw [subtree] at member
  cases size : tree.size with
  | zero => simp [size, walkWithin] at member
  | succ steps =>
    rw [size, walkWithin, children_of_missing missing] at member
    rcases List.mem_cons.mp member with same | later
    · exact same
    · cases steps <;> cases later

theorem isAncestor_iff_mem_subtree (wellFormed : tree.WellFormed) (above below : FieldId) :
    tree.isAncestor above below = true ↔ below ≠ above ∧ below ∈ tree.subtree above := by
  cases stored : tree.contains above with
  | true =>
    rw [isAncestor_iff wellFormed, mem_subtree_iff wellFormed stored, reflTransGen_iff_eq_or_transGen]
    constructor
    · intro way
      exact ⟨fun same => wellFormed.not_above_self above (same ▸ way), .inr way⟩
    · rintro ⟨different, same | way⟩
      · exact absurd same.symm different
      · exact way
  | false =>
    rw [isAncestor_iff wellFormed]
    constructor
    · intro way
      obtain ⟨_, _, rises⟩ := TransGen.tail'_iff.mp way
      rw [wellFormed.contains_above rises] at stored
      cases stored
    · rintro ⟨different, member⟩
      exact absurd (mem_subtree_of_missing stored member) different

theorem exists_meetsWithin (wellFormed : tree.WellFormed) (above below : FieldId) : ∃ steps,
    (tree.contains below = true → steps < tree.size) ∧ (tree.contains below = false → steps = 0) ∧
      tree.meetsWithin above steps (tree.parent? below) = some (tree.isAncestor above below) := by
  refine ⟨(tree.ancestors below).length, length_ancestors_lt wellFormed, ?_,
    meetsWithin_ancestors wellFormed above (Nat.le_refl _)⟩
  intro missing
  rw [ancestors_of_root (parent?_of_missing missing), List.length_nil]

theorem checkMove_iff_subtree (wellFormed : tree.WellFormed) (id : FieldId) (target : Option FieldId) :
    tree.checkMove id target = .ok () ↔ tree.contains id = true ∧ (target = none ∨ ∃ above holder,
      target = some above ∧ tree.get? above = some holder ∧ holder.kind.holdsFields = true ∧ above ≠ id ∧
        above ∉ tree.subtree id) := by
  rw [checkMove_eq_ok_iff]
  apply and_congr_right
  intro stored
  cases target with
  | none => simp
  | some above =>
    have outside : above ≠ id → (tree.isAncestor id above = false ↔ above ∉ tree.subtree id) := by
      intro different
      rw [Bool.eq_false_iff, ne_eq, isAncestor_iff_mem_subtree wellFormed, not_and, forall_prop_of_true different]
    constructor
    · intro allowed
      obtain ⟨different, node, found, aside, holds⟩ := allowed above rfl
      exact .inr ⟨above, node.field, rfl, get?_of_node found, holds, different, (outside different).mp aside⟩
    · rintro (top | ⟨_, holder, same, known, holds, different, aside⟩) other goal
      · cases top
      · cases same
        cases goal
        obtain ⟨node, found, rfl⟩ := Option.map_eq_some_iff.mp known
        exact ⟨different, node, found, (outside different).mpr aside, holds⟩

theorem exists_move_iff (id : FieldId) (target : Option FieldId) :
    (∃ moved, tree.move id target = .ok moved) ↔ tree.checkMove id target = .ok () := by
  unfold move
  cases tree.checkMove id target <;> simp

theorem move_eq_error_iff (id : FieldId) (target : Option FieldId) (reason : TreeError) :
    tree.move id target = .error reason ↔ tree.checkMove id target = .error reason := by
  unfold move
  cases tree.checkMove id target <;> simp

/-- A field can move to the top level, and under every stored container outside of its own subtree; nothing else can be
moved. The way up from a field meets another one exactly if the search downward from there finds the field, for all
pairs of ids, and it is over before it has taken as many steps as there are fields. A move succeeds where the check
does and gives its reason otherwise. -/
theorem possible_moves (reachable : tree.Reachable) :
    (∀ id target, tree.checkMove id target = .ok () ↔ tree.contains id = true ∧ (target = none ∨ ∃ above holder,
      target = some above ∧ tree.get? above = some holder ∧ holder.kind.holdsFields = true ∧ above ≠ id ∧
        above ∉ tree.subtree id)) ∧
    (∀ above below, tree.isAncestor above below = true ↔ below ≠ above ∧ below ∈ tree.subtree above) ∧
    (∀ above below depth, tree.size ≤ depth → tree.searchWithin below depth above = tree.isAncestor above below) ∧
    (∀ above below, ∃ steps, (tree.contains below = true → steps < tree.size) ∧
      (tree.contains below = false → steps = 0) ∧
      tree.meetsWithin above steps (tree.parent? below) = some (tree.isAncestor above below)) ∧
    (∀ id target, (∃ moved, tree.move id target = .ok moved) ↔ tree.checkMove id target = .ok ()) ∧
    ∀ id target reason, tree.move id target = .error reason ↔ tree.checkMove id target = .error reason := by
  have wellFormed := reachable.wellFormed
  refine ⟨?_, ?_, ?_, ?_, ?_, ?_⟩
  · exact checkMove_iff_subtree wellFormed
  · exact isAncestor_iff_mem_subtree wellFormed
  · exact fun above below depth deep => searchWithin_eq_isAncestor wellFormed above below deep
  · exact exists_meetsWithin wellFormed
  · exact exists_move_iff
  · exact move_eq_error_iff

def boxedRun : List Edit :=
  let draft (name : String) (kind : Kind) : Attributes := ⟨name, kind, "", false, none⟩
  [.add 0 none (draft "outer" .object), .add 0 (some (.ofSerial 0)) (draft "rows" (.array (some .object))),
    .add 0 (some (.ofSerial 1)) (draft "leaf" .boolean), .add 0 none (draft "other" .object)]

def boxedTree : SchemaTree := boxedRun.foldl Edit.apply empty

/-- The outer object moves into the other one, but neither into the array that it holds nor into the leaf there. -/
theorem possible_moves_of_boxedTree : boxedTree.Reachable ∧
    (∃ moved, boxedTree.move (.ofSerial 0) (some (.ofSerial 3)) = .ok moved) ∧
    boxedTree.isAncestor (.ofSerial 0) (.ofSerial 2) = true ∧ boxedTree.isAncestor (.ofSerial 7) (.ofSerial 2) = false ∧
    boxedTree.checkMove (.ofSerial 0) (some (.ofSerial 1)) ≠ .ok () ∧
    boxedTree.move (.ofSerial 0) (some (.ofSerial 2)) = .error (.cycle (.ofSerial 0) (.ofSerial 2)) ∧
    boxedTree.move (.ofSerial 3) (some (.ofSerial 2)) = .error (.notAContainer (.ofSerial 2)) := by
  have reachable : boxedTree.Reachable := Reachable.empty.run boxedRun
  obtain ⟨allowed, inside, search, _, succeeds, fails⟩ := possible_moves reachable
  refine ⟨reachable, ?_, ?_, ?_, ?_, ?_, ?_⟩
  · rw [succeeds, allowed]
    exact ⟨by decide, .inr ⟨_, _, rfl, rfl, by decide, by decide, by decide⟩⟩
  · rw [inside]
    decide
  · rw [← search _ _ boxedTree.size (Nat.le_refl _)]
    decide
  · rw [ne_eq, allowed]
    rintro ⟨_, top | ⟨above, _, same, _, _, _, outside⟩⟩
    · cases top
    · cases same
      exact outside (by decide)
  · rw [fails]
    decide
  · rw [fails]
    decide

end ConfigSchema.SchemaTree
