import ConfigSchema.Pattern.Reader
import ConfigSchema.Proofs.Session.Steps

/-! Steps that fail. An edit, a save or a document can be refused, and a drop can come to nothing. Main statement: such
a step leaves the tree and the saved state as they were, whatever it looked up, built or took down on the way. -/

namespace ConfigSchema.Session

open Program

def Failed : Except Refusal Answer → Prop
  | .error _ | .ok (.dropped (.rejected _)) | .ok (.dropped .ignored) => True
  | .ok _ => False

def Trace (session : Session) : Except Refusal Answer → Session → Prop
  | .error (.edit _), later | .error (.service _), later => later = session
  | .error (.document reason), later => later = { session with importError := some reason }
  | .ok (.dropped (.rejected _)), later | .ok (.dropped .ignored), later => later = session.dragCancel
  | .ok _, _ => True

/-- The tree and the saved state are the same, so that there is as much to save as before. -/
structure Untouched (before later : Session) : Prop where
  tree : later.tree = before.tree
  saved : later.saved = before.saved

namespace Untouched

variable {session middle later : Session}

theorem hasChanges (same : session.Untouched later) : later.hasChanges = session.hasChanges := by
  rw [Session.hasChanges, Session.hasChanges, same.tree, same.saved]

theorem refl (session : Session) : session.Untouched session := ⟨rfl, rfl⟩

theorem trans (first : session.Untouched middle) (second : middle.Untouched later) : session.Untouched later :=
  ⟨second.tree.trans first.tree, second.saved.trans first.saved⟩

theorem of_trace {answer : Except Refusal Answer} (failed : Failed answer) (trace : session.Trace answer later) :
    session.Untouched later := by
  match answer with
  | .error (.edit _) | .error (.service _) => exact trace ▸ .refl session
  | .error (.document _) | .ok (.dropped (.rejected _)) | .ok (.dropped .ignored) => exact trace ▸ ⟨rfl, rfl⟩
  | .ok (.dropped (.moved ..)) | .ok (.dropped (.reordered ..)) => exact failed.elim
  | .ok .done | .ok (.added _) | .ok (.removed _) | .ok (.accepted _) | .ok (.saved _) => exact failed.elim

end Untouched

variable (session : Session)

theorem trace_of_carryOut (source : FieldId) (plan : DropPlan) :
    session.Trace (.ok (.dropped (Drag.carryOut session.tree source plan).1))
      { session with tree := (Drag.carryOut session.tree source plan).2, drag := .idle } := by
  cases plan with
  | move parent =>
    simp only [Drag.carryOut]
    cases session.tree.move source parent with
    | ok moved => trivial
    | error reason => rfl
  | reorder parent place other =>
    simp only [Drag.carryOut]
    cases session.tree.reorder parent place other with
    | ok reordered => trivial
    | error reason => rfl
  | refuse reason => rfl
  | nothing => rfl

theorem trace_of_dragDrop : session.Trace (.ok (.dropped session.dragDrop.1)) session.dragDrop.2 := by
  simp only [dragDrop, Drag.drop]
  cases session.drag with
  | hovering source target valid => exact session.trace_of_carryOut source _
  | idle => rfl
  | dragging source => rfl

section

variable [Pattern.Engine]

theorem trace_of_step (step : Step) : session.Trace (perform (execute step) session).1 (session.after step) := by
  unfold after
  cases step with
  | add millis parent draft =>
    rw [perform_add]
    cases session.tree.add millis parent draft <;> trivial
  | update id draft =>
    rw [perform_update]
    cases session.tree.update id draft <;> trivial
  | delete id =>
    rw [perform_delete]
    cases session.tree.delete id <;> trivial
  | move id target =>
    rw [perform_move]
    cases session.tree.move id target <;> trivial
  | reorder parent source target =>
    rw [perform_reorder]
    cases session.tree.reorder parent source target <;> trivial
  | importDocument text =>
    rw [perform_importDocument, importDocument]
    cases readDocument session.tree.nextSerial text <;> trivial
  | dragDrop =>
    rw [perform_dragDrop]
    exact session.trace_of_dragDrop
  | save reply =>
    rw [perform_save]
    cases reply <;> trivial
  | _ => trivial

def AllFail (session : Session) : List Step → Prop
  | [] => True
  | step :: rest => Failed (perform (execute step) session).1 ∧ AllFail (session.after step) rest

theorem untouched_of_allFail {steps : List Step} (failed : session.AllFail steps) :
    session.Untouched (session.run steps) := by
  induction steps generalizing session with
  | nil => exact .refl session
  | cons step rest ih => exact (Untouched.of_trace failed.1 (session.trace_of_step step)).trans (ih _ failed.2)

/-- A refused edit and a refused save leave the session as it was, a drop that was rejected or ignored only ends the
gesture, and a document that cannot be read only leaves a note; so none of them touches the tree or what counts as a
change. A document that can be read replaces the tree and clears the note, and nothing else. -/
theorem refused_steps_leave_no_trace (step : Step) (later : Session) :
    (∀ reason, perform (execute step) session = (.error (.edit reason), later) → later = session) ∧
    (∀ reason, perform (execute step) session = (.error (.service reason), later) → later = session) ∧
    (∀ outcome, perform (execute step) session = (.ok (.dropped outcome), later) →
      outcome = .ignored ∨ (∃ reason, outcome = .rejected reason) →
        later = session.dragCancel ∧ later.tree = session.tree ∧ later.hasChanges = session.hasChanges) ∧
    (∀ reason, perform (execute step) session = (.error (.document reason), later) →
      later = { session with importError := some reason } ∧ later.hasChanges = session.hasChanges) ∧
    (∀ text, step = .importDocument text → perform (execute step) session = (.ok .done, later) →
      ∃ tree, readDocument session.tree.nextSerial text = .ok tree ∧
        later = { session with tree, importError := none }) := by
  have trace := session.trace_of_step step
  refine ⟨fun reason done => ?_, fun reason done => ?_, fun outcome done nowhere => ?_, fun reason done => ?_,
    fun text same done => ?_⟩
  · rw [after, done] at trace
    exact trace
  · rw [after, done] at trace
    exact trace
  · rw [after, done] at trace
    have failed : Failed (.ok (.dropped outcome)) := by
      rcases nowhere with rfl | ⟨reason, rfl⟩ <;> trivial
    have ended : later = session.dragCancel := by
      rcases nowhere with rfl | ⟨reason, rfl⟩ <;> exact trace
    have same := Untouched.of_trace failed trace
    exact ⟨ended, same.tree, same.hasChanges⟩
  · rw [after, done] at trace
    have noted : later = { session with importError := some reason } := trace
    have failed : Failed (.error (.document reason)) := trivial
    have same := Untouched.of_trace failed trace
    exact ⟨noted, same.hasChanges⟩
  · rw [same, perform_importDocument, importDocument] at done
    cases read : readDocument session.tree.nextSerial text with
    | error reason => simp [read] at done
    | ok tree =>
      rw [read] at done
      exact ⟨tree, rfl, (congrArg Prod.snd done).symm⟩

end

def staleRun : List Step :=
  [.add 0 none ⟨"outer", .object, "", false, none⟩, .add 0 (some (.ofSerial 0)) ⟨"inner", .object, "", false, none⟩,
    .dragStart (.ofSerial 1), .dragOver [.row (.ofSerial 0), .root],
    .importDocument "\x7b\"properties\":\x7b\"on\":\x7b\"type\":\"boolean\"\x7d\x7d\x7d"]

def staleSession : Session := empty.run staleRun

def brokenText : String :=
  "\x7b\"properties\":\x7b\"a\":\x7b\"type\":\"boolean\"\x7d,\"b\":\x7b\"type\":\"object\",\"properties\":\x7b\"c\":" ++
    "\x7b\"type\":\"date\"\x7d\x7d\x7d\x7d\x7d"

theorem refused_steps_of_staleSession :
    staleSession.drag = .hovering (.ofSerial 1) .root true ∧ staleSession.tree.roots = [.ofSerial 2] ∧
      staleSession.after .dragDrop = staleSession.dragCancel ∧
      staleSession.after (.delete (.ofSerial 0)) = staleSession ∧
      staleSession.after (.save (.error .timeout)) = staleSession ∧
      staleSession.after (.importDocument brokenText) =
        { staleSession with importError := some (.unsupportedType "b.c" "date") } ∧
      ∃ tree, readDocument staleSession.tree.nextSerial "\x7b\x7d" = .ok tree ∧
        staleSession.after (.importDocument "\x7b\x7d") = { staleSession with tree, importError := none } := by
  refine ⟨by decide +kernel, by decide +kernel, ?_, ?_, ?_, ?_, ?_⟩
  · exact ((refused_steps_leave_no_trace staleSession .dragDrop _).2.2.1 (.rejected (.fieldNotFound (.ofSerial 1)))
      (by decide +kernel) (.inr ⟨_, rfl⟩)).1
  · exact (refused_steps_leave_no_trace staleSession (.delete (.ofSerial 0)) _).1 (.fieldNotFound (.ofSerial 0))
      (by decide +kernel)
  · exact (refused_steps_leave_no_trace staleSession (.save (.error .timeout)) _).2.1 .timeout (by decide +kernel)
  · exact ((refused_steps_leave_no_trace staleSession (.importDocument brokenText) _).2.2.2.1
      (.unsupportedType "b.c" "date") (by decide +kernel)).1
  · exact (refused_steps_leave_no_trace staleSession (.importDocument "\x7b\x7d") _).2.2.2.2 "\x7b\x7d" rfl
      (by decide +kernel)

end ConfigSchema.Session
