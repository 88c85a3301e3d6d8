import ConfigSchema.Proofs.Tree.Reachable

/-! What a plan promises. A plan is made on a tree, and as long as the tree stays the same it can be carried out: a
move that was planned is not refused, and neither is a reordering. Main statement: what the pointer is told over a
target is what a drop there does. -/

namespace ConfigSchema

def DropTarget.owner? : DropTarget → Option FieldId
  | .root => none
  | .nested owner => some owner
  | .row field => some field

def Drag.target? : Drag → Option DropTarget
  | .hovering _ target _ => some target
  | _ => none

namespace SchemaTree

variable {tree : SchemaTree}

theorem contains_of_checkMove {id : FieldId} {target : Option FieldId}
    (checked : tree.checkMove id target = .ok ()) :
    tree.contains id = true ∧ ∀ above, target = some above → tree.contains above = true := by
  obtain ⟨stored, allowed⟩ := checkMove_eq_ok_iff.mp checked
  refine ⟨stored, fun above goal => ?_⟩
  obtain ⟨_, node, found, _⟩ := allowed above goal
  exact contains_of_node found

theorem exists_siblings_of_index? {id : FieldId} {place : Nat} (found : tree.index? id = some place) :
    tree.contains id = true ∧
      ∃ siblings, tree.siblings? (tree.parent? id) = some siblings ∧ siblings[place]? = some id := by
  obtain ⟨node, stored, listed⟩ := Option.bind_eq_some_iff.mp found
  obtain ⟨siblings, list, position⟩ := Option.bind_eq_some_iff.mp listed
  obtain ⟨inside, same, _⟩ := List.idxOf?_eq_some_iff.mp position
  refine ⟨contains_of_node stored, siblings, ?_, List.getElem?_eq_some_iff.mpr ⟨inside, same⟩⟩
  rw [parent?_of_node stored, list]

structure Beside (tree : SchemaTree) (parent : Option FieldId) (source row : FieldId) (place other : Nat) : Prop where
  different : row ≠ source
  stored : tree.contains source = true ∧ tree.contains row = true
  above : tree.parent? source = parent ∧ tree.parent? row = parent
  listed : ∃ siblings, tree.siblings? parent = some siblings ∧ siblings[place]? = some source ∧
    siblings[other]? = some row

/-- The list under a parent has its element at one place moved to another, and the tree is the same otherwise. -/
theorem Beside.reorder {parent : Option FieldId} {source row : FieldId} {place other : Nat}
    (beside : tree.Beside parent source row place other) :
    tree.reorder parent place other = .ok (tree.relist (shiftElement place other) parent) := by
  obtain ⟨siblings, list, here, there⟩ := beside.listed
  obtain ⟨inside, _⟩ := List.getElem?_eq_some_iff.mp here
  obtain ⟨within, _⟩ := List.getElem?_eq_some_iff.mp there
  exact reorder_of_places list inside within

end SchemaTree

namespace DropPlan

variable {tree : SchemaTree} {source : FieldId} {target : DropTarget}

theorem ofMove_cases (tree : SchemaTree) (source : FieldId) (parent : Option FieldId) :
    (tree.checkMove source parent = .ok () ∧ ofMove tree source parent = .move parent) ∨
      ∃ reason, ofMove tree source parent = .refuse reason := by
  unfold ofMove
  split
  · exact .inl ⟨‹_›, rfl⟩
  · exact .inr ⟨_, rfl⟩

theorem ofSiblings_cases (tree : SchemaTree) {source row : FieldId} (different : row ≠ source) :
    (∃ parent place other, ofSiblings tree source row = .reorder parent place other ∧
        tree.Beside parent source row place other) ∨
      ofSiblings tree source row = .nothing := by
  unfold ofSiblings
  by_cases same : tree.parent? source = tree.parent? row
  · rw [if_pos same]
    split
    · rename_i place other here there
      obtain ⟨stored, siblings, list, first⟩ := SchemaTree.exists_siblings_of_index? here
      obtain ⟨held, others, sought, second⟩ := SchemaTree.exists_siblings_of_index? there
      rw [← same, list, Option.some.injEq] at sought
      exact .inl ⟨_, place, other, rfl, different, ⟨stored, held⟩, ⟨rfl, same.symm⟩, siblings, list, first,
        sought ▸ second⟩
    · exact .inr rfl
  · rw [if_neg same]
    exact .inr rfl

/-- All that can be planned. A move goes below the owner of the target and was checked; a reordering is among
siblings, and its target is a row. -/
theorem of_cases (tree : SchemaTree) (source : FieldId) (target : DropTarget) :
    (tree.checkMove source target.owner? = .ok () ∧ of tree source target = .move target.owner?) ∨
    (∃ row parent place other, target = .row row ∧ of tree source target = .reorder parent place other ∧
      tree.Beside parent source row place other) ∨
    (∃ reason, of tree source target = .refuse reason) ∨
    (of tree source target = .nothing ∧ target.isZone = false) := by
  cases target with
  | root => exact (ofMove_cases tree source none).imp_right fun refused => .inr (.inl refused)
  | nested owner => exact (ofMove_cases tree source (some owner)).imp_right fun refused => .inr (.inl refused)
  | row row =>
    by_cases own : row = source
    · exact .inr (.inr (.inr ⟨if_pos own, rfl⟩))
    · simp only [of, if_neg own]
      split
      · exact .inr (.inr (.inl ⟨_, rfl⟩))
      · split
        · exact (ofMove_cases tree source (some row)).imp_right fun refused => .inr (.inl refused)
        · rcases ofSiblings_cases tree own with ⟨parent, place, other, planned, beside⟩ | nothing
          · exact .inr (.inl ⟨row, parent, place, other, rfl, planned, beside⟩)
          · exact .inr (.inr (.inr ⟨nothing, rfl⟩))

def outcome (source : FieldId) : DropPlan → DropOutcome
  | move parent => .moved source parent
  | reorder parent place other => .reordered parent place other
  | refuse reason => .rejected reason
  | nothing => .ignored

theorem isAccepted_iff (source : FieldId) (plan : DropPlan) : plan.isAccepted = true ↔
    (∃ field parent, plan.outcome source = .moved field parent) ∨
      ∃ parent place other, plan.outcome source = .reordered parent place other := by
  cases plan <;> simp [isAccepted, outcome]

theorem rejected_iff (source : FieldId) {plan : DropPlan} (something : plan ≠ .nothing) :
    (∃ reason, plan.outcome source = .rejected reason) ↔ plan.isAccepted = false := by
  cases plan <;> simp [isAccepted, outcome] at something ⊢

theorem outcome_ne_ignored (source : FieldId) {plan : DropPlan} (something : plan ≠ .nothing) :
    plan.outcome source ≠ .ignored := by
  cases plan <;> simp [outcome] at something ⊢

theorem outcome_of_zone (zoned : target.isZone = true) :
    (of tree source target).outcome source = .moved source target.owner? ∨
      ∃ reason, (of tree source target).outcome source = .rejected reason := by
  rcases of_cases tree source target with
    ⟨_, planned⟩ | ⟨row, _, _, _, rfl, _, _⟩ | ⟨reason, planned⟩ | ⟨_, isRow⟩
  · exact .inl (by rw [planned, outcome])
  · cases zoned
  · exact .inr ⟨reason, by rw [planned, outcome]⟩
  · rw [zoned] at isRow
    cases isRow

end DropPlan

namespace Drag

variable {tree : SchemaTree} {source : FieldId}

theorem carryOut_move {parent : Option FieldId} (checked : tree.checkMove source parent = .ok ()) :
    ∃ moved, tree.move source parent = .ok moved ∧
      carryOut tree source (.move parent) = (.moved source parent, moved) := by
  cases done : tree.move source parent with
  | ok moved => exact ⟨moved, rfl, by simp only [carryOut, done]⟩
  | error reason => cases parent <;> simp [SchemaTree.move, checked] at done

theorem carryOut_reorder {row : FieldId} {parent : Option FieldId} {place other : Nat}
    (beside : tree.Beside parent source row place other) : carryOut tree source (.reorder parent place other) =
      (.reordered parent place other, tree.relist (shiftElement place other) parent) := by
  simp only [carryOut, beside.reorder]

theorem carryOut_of (tree : SchemaTree) (source : FieldId) (target : DropTarget) :
    (carryOut tree source (DropPlan.of tree source target)).1 = (DropPlan.of tree source target).outcome source := by
  rcases DropPlan.of_cases tree source target with
    ⟨checked, planned⟩ | ⟨row, parent, place, other, rfl, planned, beside⟩ | ⟨reason, planned⟩ | ⟨planned, _⟩
  · obtain ⟨moved, _, carried⟩ := carryOut_move checked
    rw [planned, carried, DropPlan.outcome]
  · rw [planned, carryOut_reorder beside, DropPlan.outcome]
  · rw [planned]
    rfl
  · rw [planned]
    rfl

/-- What the pointer is told in a gesture with this source, and what the gesture becomes: it is over nothing, or over
the target that counts with the verdict of the plan. -/
inductive Feedback (tree : SchemaTree) (source : FieldId) (hits : List DropTarget) : Bool × Drag → Prop
  | nowhere (nothing : ∀ target, DropTarget.resolve hits = some target → DropPlan.of tree source target = .nothing) :
    Feedback tree source hits (false, .dragging source)
  | upon {target : DropTarget} {plan : DropPlan} (counts : DropTarget.resolve hits = some target)
      (planned : DropPlan.of tree source target = plan) (something : plan ≠ .nothing) :
    Feedback tree source hits (plan.isAccepted, .hovering source target plan.isAccepted)

theorem feedback_moveOver {drag : Drag} (held : drag.source? = some source) (tree : SchemaTree)
    (hits : List DropTarget) : Feedback tree source hits (drag.moveOver tree hits) := by
  simp only [moveOver, held]
  cases counts : DropTarget.resolve hits with
  | none => exact .nowhere fun target under => nomatch counts.symm.trans under
  | some target =>
    simp only []
    split
    · rename_i planned
      exact .nowhere fun other under => Option.some.inj (counts.symm.trans under) ▸ planned
    · rename_i something
      exact .upon counts rfl something

theorem eq_idle_of_source? {drag : Drag} (free : drag.source? = none) : drag = .idle := by
  cases drag with
  | idle => rfl
  | dragging source | hovering source => cases free

namespace Feedback

variable {hits : List DropTarget} {told : Bool × Drag} (feedback : Feedback tree source hits told)

include feedback

theorem accepted_iff : told.1 = true ↔ (∃ field parent, (told.2.drop tree).1 = .moved field parent) ∨
    ∃ parent place other, (told.2.drop tree).1 = .reordered parent place other := by
  cases feedback with
  | nowhere nothing => simp [drop]
  | upon counts planned something =>
    subst planned
    rw [drop, carryOut_of]
    exact DropPlan.isAccepted_iff source _

theorem marked_iff : told.2.invalidTarget?.isSome = true ↔ ∃ reason, (told.2.drop tree).1 = .rejected reason := by
  cases feedback with
  | nowhere nothing => simp [drop, invalidTarget?]
  | upon counts planned something =>
    subst planned
    rw [drop, carryOut_of, DropPlan.rejected_iff source something]
    cases (DropPlan.of tree source _).isAccepted <;> simp [invalidTarget?]

theorem resolve_of_marked {target : DropTarget} (marked : told.2.invalidTarget? = some target) :
    DropTarget.resolve hits = some target := by
  cases feedback with
  | nowhere nothing => cases marked
  | @upon other plan counts planned something =>
    cases verdict : plan.isAccepted with
    | true => simp [invalidTarget?, verdict] at marked
    | false =>
      simp only [invalidTarget?, verdict, Option.some.injEq] at marked
      rw [counts, marked]

theorem ignored_iff : told.1 = false ∧ told.2.invalidTarget? = none ↔ (told.2.drop tree).1 = .ignored := by
  cases feedback with
  | nowhere nothing => simp [drop, invalidTarget?]
  | upon counts planned something =>
    subst planned
    rw [drop, carryOut_of]
    have done := DropPlan.outcome_ne_ignored source something
    cases (DropPlan.of tree source _).isAccepted <;> simp [invalidTarget?, done]

theorem outcome_of_zone {zone : DropTarget} (zoned : zone.isZone = true)
    (counts : DropTarget.resolve hits = some zone) :
    (told.2.drop tree).1 = .moved source zone.owner? ∨ ∃ reason, (told.2.drop tree).1 = .rejected reason := by
  have done : (DropPlan.of tree source zone).outcome source = .moved source zone.owner? ∨
      ∃ reason, (DropPlan.of tree source zone).outcome source = .rejected reason := DropPlan.outcome_of_zone zoned
  cases feedback with
  | nowhere nothing => simp [nothing zone counts, DropPlan.outcome] at done
  | upon under planned something =>
    subst planned
    cases under.symm.trans counts
    rwa [drop, carryOut_of]

end Feedback

end Drag

theorem DropTarget.exists_first_zone {hits : List DropTarget} (zoned : ∃ hit ∈ hits, hit.isZone = true) :
    ∃ zone, hits.find? isZone = some zone ∧ zone.isZone = true ∧ resolve hits = some zone := by
  obtain ⟨hit, member, isZone⟩ := zoned
  obtain ⟨zone, found⟩ := Option.isSome_iff_exists.mp (List.find?_isSome.mpr ⟨hit, member, isZone⟩)
  exact ⟨zone, found, List.find?_some found, by rw [resolve, found, Option.some_or]⟩

namespace Drag

/-- While the tree stays as it is, the pointer foretells the drop: it is told that the target accepts exactly if the
drop moves or reorders, the target that counts is marked exactly if the drop is rejected, and neither happens exactly
if the drop is ignored. Over a zone the dragged field moves into the first one or is rejected. -/
theorem pointer_foretells_drop (drag : Drag) (tree : SchemaTree) (hits : List DropTarget) :
    let feedback := drag.moveOver tree hits
    let outcome := (feedback.2.drop tree).1
    (feedback.1 = true ↔ (∃ field parent, outcome = .moved field parent) ∨
      ∃ parent place other, outcome = .reordered parent place other) ∧
    (feedback.2.invalidTarget?.isSome = true ↔ ∃ reason, outcome = .rejected reason) ∧
    (∀ target, feedback.2.invalidTarget? = some target → DropTarget.resolve hits = some target) ∧
    (feedback.1 = false ∧ feedback.2.invalidTarget? = none ↔ outcome = .ignored) ∧
    (drag.isDragging = true → (∃ hit ∈ hits, hit.isZone = true) →
      ∃ source zone, drag.source? = some source ∧ hits.find? DropTarget.isZone = some zone ∧
        (outcome = .moved source zone.owner? ∨ ∃ reason, outcome = .rejected reason)) := by
  intro feedback outcome
  cases held : drag.source? with
  | none =>
    obtain rfl := eq_idle_of_source? held
    simp [feedback, outcome, moveOver, source?, drop, invalidTarget?, isDragging]
  | some source =>
    have told : Feedback tree source hits feedback := feedback_moveOver held tree hits
    refine ⟨told.accepted_iff, told.marked_iff, fun target => told.resolve_of_marked, told.ignored_iff, ?_⟩
    intro _ zoned
    obtain ⟨zone, first, isZone, counts⟩ := DropTarget.exists_first_zone zoned
    exact ⟨source, zone, rfl, first, told.outcome_of_zone isZone counts⟩

def shelfTree : SchemaTree :=
  let draft (name : String) (kind : Kind) : Attributes := ⟨name, kind, "", false, none⟩
  [Edit.add 0 none (draft "outer" .object), .add 0 (some (.ofSerial 0)) (draft "inner" .object),
    .add 0 none (draft "on" .boolean), .add 0 none (draft "off" .boolean)].foldl Edit.apply .empty

theorem drop_foretold_on_shelfTree :
    let hits : List DropTarget := [.row (.ofSerial 3), .nested (.ofSerial 1)]
    (∃ field parent, (((dragging (.ofSerial 2)).moveOver shelfTree hits).2.drop shelfTree).1 = .moved field parent) ∧
      ((dragging (.ofSerial 0)).moveOver shelfTree hits).2.invalidTarget? = some (.nested (.ofSerial 1)) ∧
      ∃ reason, (((dragging (.ofSerial 0)).moveOver shelfTree hits).2.drop shelfTree).1 = .rejected reason := by
  intro hits
  have zoned : ∃ hit ∈ hits, hit.isZone = true := ⟨.nested (.ofSerial 1), by decide, rfl⟩
  obtain ⟨accepted, _, _, _, zones⟩ := pointer_foretells_drop (dragging (.ofSerial 2)) shelfTree hits
  obtain ⟨_, marked, _, _, _⟩ := pointer_foretells_drop (dragging (.ofSerial 0)) shelfTree hits
  have refused : ((dragging (.ofSerial 0)).moveOver shelfTree hits).2.invalidTarget? =
    some (.nested (.ofSerial 1)) := by decide +kernel
  refine ⟨?_, refused, marked.mp (Option.isSome_of_eq_some refused)⟩
  rcases accepted.mp (by decide +kernel) with moved | ⟨parent, place, other, reordered⟩
  · exact moved
  · obtain ⟨source, zone, _, _, done | ⟨reason, done⟩⟩ := zones rfl zoned
    · cases reordered.symm.trans done
    · cases reordered.symm.trans done

end Drag

end ConfigSchema
