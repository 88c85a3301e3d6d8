import ConfigSchema.Pattern.Reader
import ConfigSchema.Proofs.Drag.Plans
import ConfigSchema.Proofs.Session.Steps
import ConfigSchema.Proofs.Tree.Reorderings
import Mathlib.Data.List.Induction

/-! Drops amid edits. Between the start of a gesture and its drop anything can happen to the tree, and all that the
gesture keeps of what it saw is a source and a target. Main statement: after every run a drop does what it answers,
to the field that was started last, on the tree as it is then. -/

namespace ConfigSchema

namespace SchemaTree

/-- In the list under a parent the source has gone to the place of the row. The others keep their order, and nothing
else is touched. -/
structure Resorted (tree later : SchemaTree) (parent : Option FieldId) (source row : FieldId) (place other : Nat) :
    Prop where
  beside : tree.Beside parent source row place other
  relisted : later = tree.relist (shiftElement place other) parent
  lists : ∃ before after, tree.siblings? parent = some before ∧ later.siblings? parent = some after ∧
    after[other]? = some source ∧ after.eraseIdx other = before.eraseIdx place

variable {tree : SchemaTree}

theorem Beside.resorted {parent : Option FieldId} {source row : FieldId} {place other : Nat}
    (beside : tree.Beside parent source row place other) :
    tree.Resorted (tree.relist (shiftElement place other) parent) parent source row place other := by
  obtain ⟨before, list, here, there⟩ := beside.listed
  obtain ⟨inside, _⟩ := List.getElem?_eq_some_iff.mp here
  obtain ⟨within, _⟩ := List.getElem?_eq_some_iff.mp there
  exact ⟨beside, rfl, before, _, list, siblings?_relist _ list, (getElem?_shiftElement inside within).trans here,
    eraseIdx_shiftElement other inside⟩

end SchemaTree

namespace Drag

/-- What an answer says about the trees before and after the drop, when the gesture is one with this source and this
target. -/
def Explains (source : Option FieldId) (target : Option DropTarget) (tree : SchemaTree) :
    DropOutcome → SchemaTree → Prop
  | .moved field parent, later => source = some field ∧ (∃ aim, target = some aim ∧ aim.owner? = parent) ∧
      tree.checkMove field parent = .ok () ∧ tree.move field parent = .ok later
  | .reordered parent place other, later => ∃ field row, source = some field ∧ target = some (.row row) ∧
      tree.Resorted later parent field row place other
  | .rejected _, later | .ignored, later => later = tree

theorem explains_drop (drag : Drag) (tree : SchemaTree) :
    Explains drag.source? drag.target? tree (drag.drop tree).1 (drag.drop tree).2 := by
  cases drag with
  | idle => rfl
  | dragging source => rfl
  | hovering source target valid =>
    rw [drop]
    rcases DropPlan.of_cases tree source target with
      ⟨checked, planned⟩ | ⟨row, parent, place, other, rfl, planned, beside⟩ | ⟨reason, planned⟩ | ⟨planned, _⟩
    · obtain ⟨moved, done, carried⟩ := carryOut_move checked
      rw [planned, carried]
      exact ⟨rfl, ⟨target, rfl, rfl⟩, checked, done⟩
    · rw [planned, carryOut_reorder beside]
      exact ⟨source, row, rfl, rfl, beside.resorted⟩
    · rw [planned]
      rfl
    · rw [planned]
      rfl

theorem reorder_back_of_drop {drag : Drag} {tree : SchemaTree} {parent : Option FieldId} {place other : Nat}
    (told : (drag.drop tree).1 = .reordered parent place other) :
    (drag.drop tree).2.reorder parent other place = .ok tree := by
  have explained := explains_drop drag tree
  rw [told] at explained
  obtain ⟨field, row, _, _, resorted⟩ := explained
  have done := resorted.beside.reorder
  rw [← resorted.relisted] at done
  exact SchemaTree.reorder_back done

/-- A drop changes nothing when its source or the owner of its target is not in the tree. -/
theorem nowhere_of_missing {source : Option FieldId} {target : Option DropTarget} {tree later : SchemaTree}
    {outcome : DropOutcome} (explained : Explains source target tree outcome later) {id : FieldId}
    (meant : source = some id ∨ target.bind DropTarget.owner? = some id) (missing : tree.contains id = false) :
    outcome = .ignored ∨ ∃ reason, outcome = .rejected reason := by
  cases outcome with
  | moved field parent =>
    obtain ⟨rfl, ⟨aim, rfl, rfl⟩, checked, _⟩ := explained
    obtain ⟨stored, held⟩ := SchemaTree.contains_of_checkMove checked
    rcases meant with same | same
    · cases same
      rw [stored] at missing
      cases missing
    · rw [held id same] at missing
      cases missing
  | reordered parent place other =>
    obtain ⟨field, row, rfl, rfl, resorted⟩ := explained
    obtain ⟨stored, held⟩ := resorted.beside.stored
    rcases meant with same | same
    · cases same
      rw [stored] at missing
      cases missing
    · cases same
      rw [held] at missing
      cases missing
  | rejected reason => exact .inr ⟨reason, rfl⟩
  | ignored => exact .inl rfl

end Drag

namespace Session

open Program

/-- What can happen to a session: a step, or another tree that is put in the place of its own. -/
inductive Event where
  | step (step : Step)
  | exchange (tree : SchemaTree)

namespace Event

def started? : Event → Option FieldId
  | step (.dragStart source) => some source
  | _ => none

def hovered? : Event → Option (List DropTarget)
  | step (.dragOver hits) => some hits
  | _ => none

end Event

def happen [Pattern.Engine] (session : Session) : Event → Session
  | .step step => session.after step
  | .exchange tree => session.withTree tree

def live [Pattern.Engine] (session : Session) (events : List Event) : Session := events.foldl happen session

def lastStarted? (events : List Event) : Option FieldId := events.reverse.findSome? Event.started?

def lastTarget? (events : List Event) : Option DropTarget :=
  (events.reverse.findSome? Event.hovered?).bind DropTarget.resolve

theorem lastStarted?_append (events : List Event) (event : Event) :
    lastStarted? (events ++ [event]) = event.started?.or (lastStarted? events) := by
  cases started : event.started? <;> simp [lastStarted?, started]

theorem lastTarget?_append (events : List Event) (event : Event) : lastTarget? (events ++ [event]) =
    match event.hovered? with
    | some hits => DropTarget.resolve hits
    | none => lastTarget? events := by
  cases hovered : event.hovered? <;> simp [lastTarget?, hovered]

structure Recalls (session : Session) (events : List Event) : Prop where
  source : ∀ field, session.drag.source? = some field → lastStarted? events = some field
  target : ∀ target, session.drag.target? = some target → lastTarget? events = some target

namespace Recalls

variable {session : Session} {events : List Event}

theorem of_idle (free : session.drag = .idle) : session.Recalls events := by
  constructor <;> simp [free, Drag.source?, Drag.target?]

theorem of_same (recalls : session.Recalls events) {later : Session} (same : later.drag = session.drag) (event : Event)
    (quiet : event.started? = none ∧ event.hovered? = none) : later.Recalls (events ++ [event]) where
  source field held := by
    rw [lastStarted?_append, quiet.1, Option.none_or]
    exact recalls.source field (same ▸ held)
  target target under := by
    rw [lastTarget?_append, quiet.2]
    exact recalls.target target (same ▸ under)

theorem of_moveOver (recalls : session.Recalls events) (hits : List DropTarget) :
    (session.dragOver hits).2.Recalls (events ++ [.step (.dragOver hits)]) := by
  cases held : session.drag.source? with
  | none =>
    refine of_idle ?_
    rw [dragOver, Drag.eq_idle_of_source? held]
    rfl
  | some source =>
    have started : lastStarted? (events ++ [.step (.dragOver hits)]) = some source := by
      rw [lastStarted?_append]
      exact recalls.source source held
    have feedback := Drag.feedback_moveOver held session.tree hits
    rw [dragOver]
    generalize session.drag.moveOver session.tree hits = told at feedback
    cases feedback with
    | nowhere nothing =>
      refine ⟨?_, nofun⟩
      rintro field ⟨⟩
      exact started
    | upon counts planned something =>
      refine ⟨?_, ?_⟩
      · rintro field ⟨⟩
        exact started
      · rintro target ⟨⟩
        rw [lastTarget?_append]
        exact counts

theorem happen [Pattern.Engine] (recalls : session.Recalls events) (event : Event) :
    (session.happen event).Recalls (events ++ [event]) := by
  cases event with
  | exchange tree =>
    have gesture : (session.withTree tree).drag = session.drag := rfl
    exact recalls.of_same gesture (.exchange tree) ⟨rfl, rfl⟩
  | step step =>
    have gesture : (session.after step).drag = step.dragAfter session := congrArg Session.drag (session.after_eq step)
    cases step with
    | dragStart source =>
      refine ⟨?_, nofun⟩
      rintro field ⟨⟩
      rw [lastStarted?_append]
      rfl
    | dragOver hits => exact recalls.of_moveOver hits
    | dragDrop | dragCancel => exact of_idle gesture
    | _ => exact recalls.of_same gesture _ ⟨rfl, rfl⟩

end Recalls

theorem recalls_live [Pattern.Engine] (tree : SchemaTree) (events : List Event) :
    ((ofTree tree).live events).Recalls events := by
  induction events using List.reverseRecOn with
  | nil => exact .of_idle rfl
  | append_singleton events event ih =>
    have next : (ofTree tree).live (events ++ [event]) = ((ofTree tree).live events).happen event := by
      simp only [live, List.foldl_append, List.foldl_cons, List.foldl_nil]
    rw [next]
    exact ih.happen event

theorem Recalls.explains {session : Session} {events : List Event} (recalls : session.Recalls events)
    {tree later : SchemaTree} {outcome : DropOutcome}
    (explained : Drag.Explains session.drag.source? session.drag.target? tree outcome later) :
    Drag.Explains (lastStarted? events) (lastTarget? events) tree outcome later := by
  cases outcome with
  | moved field parent =>
    obtain ⟨started, ⟨aim, under, owner⟩, checked, done⟩ := explained
    exact ⟨recalls.source field started, ⟨aim, recalls.target aim under, owner⟩, checked, done⟩
  | reordered parent place other =>
    obtain ⟨field, row, started, under, resorted⟩ := explained
    exact ⟨field, row, recalls.source field started, recalls.target _ under, resorted⟩
  | rejected reason => exact explained
  | ignored => exact explained

/-- After whatever events, a drop ends the gesture and does what it answers: it moves the field that was started last
below the owner of the last target, which is allowed on the tree as it is then, or it brings that field to the place of
the last row among their siblings, or it leaves the tree alone. It leaves it alone in any case if the field or the
owner of the target has gone. -/
theorem drop_does_what_it_says [Pattern.Engine] (tree : SchemaTree) (events : List Event) :
    let session := (ofTree tree).live events
    ∃ outcome later,
      perform (execute .dragDrop) session =
        (.ok (.dropped outcome), { session with tree := later, drag := .idle }) ∧
      Drag.Explains (lastStarted? events) (lastTarget? events) session.tree outcome later ∧
      ∀ id, lastStarted? events = some id ∨ (lastTarget? events).bind DropTarget.owner? = some id →
        session.tree.contains id = false → outcome = .ignored ∨ ∃ reason, outcome = .rejected reason := by
  intro session
  have explained := (recalls_live tree events).explains (session.drag.explains_drop session.tree)
  exact ⟨_, _, session.perform_dragDrop, explained,
    fun id meant missing => Drag.nowhere_of_missing explained meant missing⟩

def crowdedRun : List Event :=
  [.step (.add 0 none ⟨"group", .object, "", false, none⟩),
    .step (.add 0 (some (.ofSerial 0)) ⟨"first", .boolean, "", false, none⟩),
    .step (.add 0 (some (.ofSerial 0)) ⟨"second", .boolean, "", false, none⟩),
    .step (.dragStart (.ofSerial 1)), .step (.dragOver [.row (.ofSerial 2)]),
    .step (.add 0 (some (.ofSerial 0)) ⟨"third", .boolean, "", false, none⟩),
    .step (.reorder (some (.ofSerial 0)) 2 0)]

def desertedRun : List Event := crowdedRun ++ [.exchange .empty]

theorem drop_after_crowdedRun :
    (∃ later, (empty.live crowdedRun).tree.Resorted later (some (.ofSerial 0)) (.ofSerial 1) (.ofSerial 2) 1 2) ∧
      ((empty.live crowdedRun).after .dragDrop).tree.children (.ofSerial 0) = [.ofSerial 3, .ofSerial 2, .ofSerial 1] ∧
      lastStarted? desertedRun = some (.ofSerial 1) ∧ (empty.live desertedRun).tree.contains (.ofSerial 1) = false ∧
      (empty.live desertedRun).after .dragDrop = (empty.live desertedRun).dragCancel := by
  have moved : (perform (execute .dragDrop) (empty.live crowdedRun)).1 =
      .ok (.dropped (.reordered (some (.ofSerial 0)) 1 2)) := by decide +kernel
  have started : lastStarted? desertedRun = some (.ofSerial 1) := by decide +kernel
  have missing : (empty.live desertedRun).tree.contains (.ofSerial 1) = false := by decide +kernel
  refine ⟨?_, by decide +kernel, started, missing, ?_⟩
  · obtain ⟨outcome, later, done, explained, _⟩ := drop_does_what_it_says .empty crowdedRun
    have told : outcome = .reordered (some (.ofSerial 0)) 1 2 := by
      simpa using (congrArg Prod.fst done).symm.trans moved
    subst told
    obtain ⟨field, row, first, last, resorted⟩ := explained
    have source : lastStarted? crowdedRun = some (.ofSerial 1) := by decide +kernel
    have target : lastTarget? crowdedRun = some (.row (.ofSerial 2)) := by decide +kernel
    cases first.symm.trans source
    cases last.symm.trans target
    exact ⟨later, resorted⟩
  · obtain ⟨outcome, later, done, explained, gone⟩ := drop_does_what_it_says .empty desertedRun
    have same : later = (empty.live desertedRun).tree := by
      rcases gone _ (.inl started) missing with rfl | ⟨reason, rfl⟩ <;> exact explained
    exact (congrArg Prod.snd done).trans (by rw [same]; rfl)

end Session

end ConfigSchema
