import ConfigSchema.Pattern.Reader
import ConfigSchema.Proofs.Field.Forms
import ConfigSchema.Proofs.Session.Steps
import ConfigSchema.Proofs.Tree.Lookups

/-! What counts as a change. A session compares the written form of its tree with the one that was last saved. Main
statement: in every run that is the comparison of the forests themselves, so a session without changes since a save
would send what the service already has. -/

namespace ConfigSchema.Session

open Program

theorem hasChanges_eq_false_iff {session : Session} {forest : Forest}
    (saved : session.saved = Branch.forestJson forest) :
    session.hasChanges = false ↔ session.tree.forest = forest := by
  rw [hasChanges, saved, SchemaTree.toJson, bne_eq_false_iff_eq, Branch.forestJson_inj]

section

variable [Pattern.Engine]

structure Record where
  baseline : Forest
  bySave : Bool
  held : FlatMap

namespace Record

def start (session : Session) (held : FlatMap) : Record := ⟨session.tree.forest, false, held⟩

def note (record : Record) (session : Session) (step : Step) : Record :=
  match step, (perform (execute step) session).1 with
  | .markSaved, _ => ⟨session.tree.forest, false, record.held⟩
  | .save _, .ok (.saved sent) => ⟨session.tree.forest, true, sent.properties⟩
  | _, _ => record

end Record

/-- A run of steps that is written down. -/
def observe (session : Session) (record : Record) : List Step → Session × Record
  | [] => (session, record)
  | step :: rest => observe (session.after step) (record.note session step) rest

variable {session : Session} {record : Record}

theorem observe_fst (steps : List Step) : (session.observe record steps).1 = session.run steps := by
  induction steps generalizing session record with
  | nil => rfl
  | cons step rest ih => exact ih

structure Faithful (session : Session) (record : Record) : Prop where
  reachable : session.tree.Reachable
  saved : session.saved = Branch.forestJson record.baseline
  held : record.bySave = true → ∃ tree : SchemaTree, tree.WellFormed ∧ tree.forest = record.baseline ∧
    tree.toExport.properties = record.held

namespace Faithful

theorem start {tree : SchemaTree} (reachable : tree.Reachable) (held : FlatMap) :
    Faithful (ofTree tree) (.start (ofTree tree) held) := ⟨reachable, rfl, nofun⟩

theorem after (faithful : session.Faithful record) (step : Step) :
    (session.after step).Faithful (record.note session step) := by
  have reachable := reachable_after faithful.reachable step
  have saved := session.saved_after step
  by_cases settled : step.settles = true
  · rw [if_pos settled] at saved
    cases step with
    | markSaved => exact ⟨reachable, saved, nofun⟩
    | save reply =>
      cases reply with
      | ok map => exact ⟨reachable, saved, fun _ => ⟨session.tree, faithful.reachable.wellFormed, rfl, rfl⟩⟩
      | error reason => cases settled
    | _ => cases settled
  · rw [if_neg settled, faithful.saved] at saved
    have kept : record.note session step = record := by
      cases step with
      | markSaved => exact absurd rfl settled
      | save reply =>
        cases reply with
        | ok map => exact absurd rfl settled
        | error reason => rfl
      | _ => rfl
    rw [kept]
    exact ⟨reachable, saved, faithful.held⟩

theorem observe (faithful : session.Faithful record) (steps : List Step) :
    (session.observe record steps).1.Faithful (session.observe record steps).2 := by
  induction steps generalizing session record with
  | nil => exact faithful
  | cons step rest ih => exact ih (faithful.after step)

end Faithful

/-- After every run a session has no changes exactly if its forest is the one at the last point at which the tree
counted as saved; and if that was at a save, a save now would send what the service holds. -/
theorem no_changes_iff (opened : Opened session) (held : FlatMap) (steps : List Step) {later : Session}
    (observed : session.observe (.start session held) steps = (later, record)) :
    later = session.run steps ∧ (later.hasChanges = false ↔ later.tree.forest = record.baseline) ∧
      (record.bySave = true → later.hasChanges = false → later.submission.properties = record.held) := by
  obtain ⟨tree, reachable, rfl⟩ := opened.exists_tree
  have faithful := (Faithful.start reachable held).observe steps
  have same : ((ofTree tree).observe (.start (ofTree tree) held) steps).1 = (ofTree tree).run steps :=
    observe_fst steps
  rw [observed] at faithful same
  have exact_iff := hasChanges_eq_false_iff faithful.saved
  refine ⟨same, exact_iff, fun bySave unchanged => ?_⟩
  obtain ⟨sent, wellFormed, shown, properties⟩ := faithful.held bySave
  have forests : later.tree.forest = sent.forest := (exact_iff.mp unchanged).trans shown.symm
  rw [submission, faithful.reachable.wellFormed.toExport_congr wellFormed forests, properties]

end

def thereAndBack : List Step :=
  [.add 0 none ⟨"on", .boolean, "", true, none⟩, .add 0 none ⟨"group", .object, "", false, none⟩,
    .save (.ok .empty), .reorder none 0 1, .save (.error .timeout), .reorder none 1 0]

theorem no_changes_after_thereAndBack :
    (empty.run (thereAndBack.take 5)).hasChanges = true ∧ (empty.run thereAndBack).hasChanges = false ∧
      (empty.run thereAndBack).submission.properties = (empty.observe (.start empty .empty) thereAndBack).2.held ∧
      (empty.run thereAndBack).submission.properties.keys = ["group", "on"] := by
  obtain ⟨same, unchanged, held⟩ := no_changes_iff .empty .empty thereAndBack rfl
  rw [← same]
  have baseline := unchanged.mpr (by decide +kernel)
  exact ⟨by decide +kernel, baseline, held (by decide +kernel) baseline, by decide +kernel⟩

end ConfigSchema.Session
