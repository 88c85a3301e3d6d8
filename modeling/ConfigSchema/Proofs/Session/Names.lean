import ConfigSchema.Pattern.Reader
import ConfigSchema.Proofs.Session.Steps
import ConfigSchema.Proofs.Sketch.Documents
import ConfigSchema.Proofs.Sketch.Listed
import ConfigSchema.Proofs.Tree.Fields

/-! Names without dots. Nobody can enter a dot into the name of a field, and segments of paths have none; but a schema
may have one in the name of a property, and nothing stops it there. Main statement: as long as no schema that is read
declares such a name, no field has one, and the path of every field splits back into the names that lead to it. -/

namespace ConfigSchema

/-- No name that the document declares has a dot. -/
def Json.Dotless (document : Json) : Prop := ∀ name, document.Names name → Path.hasDot name = false

/-- No name that the schema of an entry declares has a dot. The segments of the paths have none anyway. -/
def FlatMap.Dotless (map : FlatMap) : Prop :=
  ∀ entry ∈ map.entries, ∀ name, entry.2.schema.Declares name → Path.hasDot name = false

namespace SchemaTree

variable {tree : SchemaTree}

theorem keptByDrafts_dotless : Attributes.KeptByDrafts fun attributes => Path.hasDot attributes.name = false where
  entered := fun _ _ _ dotless => dotless
  renamed := fun _ _ dotless => dotless

theorem Dotless.apply (dotless : tree.Dotless) (wellFormed : tree.WellFormed) (numbered : tree.Numbered) (edit : Edit)
    (imported : ∀ text, edit = .importDocument text → ∀ document,
      Session.readDocument tree.nextSerial text = .ok document → document.Dotless) : (edit.apply tree).Dotless :=
  dotless_iff.mpr <| All.apply keptByDrafts_dotless (dotless_iff.mp dotless) wellFormed numbered edit
    fun text same document done => dotless_iff.mp (imported text same document done)

theorem dotless_iff_of_document {serial : Nat} {document : Json} (done : ofDocumentFrom serial document = .ok tree) :
    tree.Dotless ↔ document.Dotless := by
  have named := (wellFormed_ofDocumentFrom done).1.everyOf_sketches_iff
    fun attributes => Path.hasDot attributes.name = false
  have declared := Sketch.everyOf_document_iff (fun name => Path.hasDot name = false) (sketches_of_ofDocumentFrom done)
  exact dotless_iff.trans (named.symm.trans declared)

theorem exists_document_of_read {serial : Nat} {text : String} (done : Session.readDocument serial text = .ok tree) :
    ∃ document, Json.read text = some document ∧ ofDocumentFrom serial document = .ok tree := by
  unfold Session.readDocument at done
  split at done
  · cases done
  · rename_i document read
    exact ⟨document, read, done⟩

theorem dotless_of_ofFlat {map : FlatMap} (dotless : map.Dotless) (done : ofFlat map = .ok tree) : tree.Dotless := by
  have brings : ∀ entry ∈ map.entries,
      entry.2.Brings entry.1 fun attributes => Path.hasDot attributes.name = false := by
    rintro ⟨path, entry⟩ member
    refine ⟨fun name listed => Path.hasDot_of_mem_segments listed, fun sketch read => ?_⟩
    have below := (Sketch.everyOf_children_iff (fun name => Path.hasDot name = false) sketch read).mpr
      (dotless (path, entry) member)
    have named := Sketch.name_of_read read
    cases sketch with
    | mk attributes children =>
      refine ⟨?_, below⟩
      obtain ⟨names, name, split⟩ := Path.exists_segments path
      rw [Sketch.name_mk, Path.lastSegment_of_split split] at named
      rw [Sketch.attributes_mk, named]
      have member : name ∈ Path.segments path := by simp [split]
      exact Path.hasDot_of_mem_segments member
  have start : ∀ id node, empty.node? id = some node → Path.hasDot node.field.name = false :=
    fun _ _ found => nomatch found
  exact dotless_iff.mpr (ofFlat_keeps (fields_keptByInsert _) brings
    ⟨⟨wellFormed_emptyFrom 0, numbered_emptyFrom 0⟩, start⟩ done).2

end SchemaTree

namespace Session

open Program

variable {session : Session}

/-- None of the texts that are imported on the way declares a name with a dot. -/
def ImportsDotless (steps : List Step) : Prop :=
  ∀ text, .importDocument text ∈ steps → ∀ document, Json.read text = some document → document.Dotless

theorem dotless_after [Pattern.Engine] (reachable : session.tree.Reachable) (dotless : session.tree.Dotless)
    {step : Step} (imports : ImportsDotless [step]) : (session.after step).tree.Dotless := by
  rw [tree_after]
  cases stands : step.edit? session with
  | none => exact dotless
  | some edit =>
    obtain ⟨wellFormed, numbered⟩ := reachable.invariant
    refine dotless.apply wellFormed numbered edit fun text same tree done => ?_
    obtain ⟨document, read, made⟩ := SchemaTree.exists_document_of_read done
    refine (SchemaTree.dotless_iff_of_document made).mpr (imports text ?_ document read)
    cases step with
    | importDocument other =>
      cases stands
      cases same
      exact List.mem_singleton_self _
    | _ => cases stands <;> cases same

theorem dotless_run [Pattern.Engine] (reachable : session.tree.Reachable) (dotless : session.tree.Dotless)
    {steps : List Step} (imports : ImportsDotless steps) : (session.run steps).tree.Dotless := by
  induction steps generalizing session with
  | nil => exact dotless
  | cons step rest ih =>
    have first : ImportsDotless [step] := fun text member => imports text (by simp_all)
    exact ih (reachable_after reachable step) (dotless_after reachable dotless first)
      fun text member => imports text (List.mem_cons_of_mem _ member)

/-- A session that begins empty or on a flat map whose schemas declare no name with a dot, and that imports no
document that declares one, has no field whose name has a dot, whatever is done in it; so the path of every field
splits into the names that lead to it. And at any time an import brings in such a field exactly if its document
declares such a name. -/
theorem names_without_dots [Pattern.Engine] (session : Session)
    (begun : session = empty ∨ ∃ map : FlatMap, Session.ofFlat map = .ok session ∧ map.Dotless) (steps : List Step)
    (imports : ImportsDotless steps) :
    (∀ id field, (session.run steps).tree.get? id = some field → Path.hasDot field.name = false) ∧
    (∀ id path, (session.run steps).tree.path? id = some path →
      (session.run steps).tree.Spells id (Path.segments path)) ∧
    ∀ text document tree, Json.read text = some document →
      readDocument (session.run steps).tree.nextSerial text = .ok tree →
        (((session.run steps).after (.importDocument text)).tree.Dotless ↔ document.Dotless) := by
  have start : session.tree.Reachable ∧ session.tree.Dotless := by
    rcases begun with rfl | ⟨map, read, dotless⟩
    · exact ⟨.empty, fun _ _ found => nomatch found⟩
    · obtain ⟨tree, done, rfl⟩ := Except.map_eq_ok_iff.mp read
      exact ⟨.flat done, SchemaTree.dotless_of_ofFlat dotless done⟩
  have reachable := reachable_run start.1 steps
  have dotless := dotless_run start.1 start.2 imports
  refine ⟨dotless, fun id path named => dotless.spells_segments reachable.wellFormed named, ?_⟩
  intro text document tree read done
  obtain ⟨other, again, made⟩ := SchemaTree.exists_document_of_read done
  cases read.symm.trans again
  have replaced : ((session.run steps).after (.importDocument text)).tree = tree := by
    rw [after, perform_importDocument, importDocument, done]
  rw [replaced]
  exact SchemaTree.dotless_iff_of_document made

def groupNode : Json :=
  .object [("type", .string "object"), ("properties", .object [("on", .object [("type", .string "boolean")])])]

def groupMap : FlatMap := .ofList [("app.group", ⟨"Group", .object [], groupNode⟩)]

def groupSession : Session := ofTree ((SchemaTree.ofFlat groupMap).toOption.getD .empty)

def switchText : String := "\x7b\"properties\":\x7b\"on\":\x7b\"type\":\"boolean\"\x7d\x7d\x7d"

def groupRun : List Step :=
  [.add 0 (some (.ofSerial 1)) ⟨"extra", .object, "", false, none⟩, .importDocument switchText]

theorem names_of_groupRun :
    groupMap.Dotless ∧ ImportsDotless groupRun ∧ (groupSession.run (groupRun.take 1)).tree.size = 4 ∧
      (∀ id path, (groupSession.run (groupRun.take 1)).tree.path? id = some path →
        (groupSession.run (groupRun.take 1)).tree.Spells id (Path.segments path)) ∧
      ∀ id field, (groupSession.run groupRun).tree.get? id = some field → Path.hasDot field.name = false := by
  have begun : Session.ofFlat groupMap = .ok groupSession := by decide +kernel
  have dotless : groupMap.Dotless := by
    intro entry member
    cases List.mem_singleton.mp member
    have read : Sketch.ofNode false "" "" ⟨false, none, none⟩ groupNode =
      .ok (.mk ⟨"", .object, "", false, none⟩ [.mk ⟨"on", .boolean, "", false, none⟩ []]) := rfl
    exact (Sketch.everyOf_children_iff (fun name => Path.hasDot name = false) _ read).mp ⟨⟨by decide, trivial⟩, trivial⟩
  have imports : ImportsDotless groupRun := by
    intro text member document read
    have same : text = switchText := by simpa [groupRun] using member
    have parsed : Json.read switchText =
      some (.object [("properties", .object [("on", .object [("type", .string "boolean")])])]) := by decide +kernel
    cases parsed.symm.trans (same ▸ read)
    have sketches : Sketch.ofDocument (.object [("properties", .object [("on", .object
      [("type", .string "boolean")])])]) = .ok [.mk ⟨"on", .boolean, "", false, none⟩ []] := rfl
    exact (Sketch.everyOf_document_iff (fun name => Path.hasDot name = false) sketches).mp
      ⟨⟨by decide, trivial⟩, trivial⟩
  have fewer : ImportsDotless (groupRun.take 1) := fun text member => imports text (List.mem_of_mem_take member)
  exact ⟨dotless, imports, by decide +kernel,
    (names_without_dots groupSession (.inr ⟨groupMap, begun, dotless⟩) (groupRun.take 1) fewer).2.1,
    (names_without_dots groupSession (.inr ⟨groupMap, begun, dotless⟩) groupRun imports).1⟩

def dottedText : String :=
  "\x7b\"properties\":\x7b\"a.b\":\x7b\"type\":\"boolean\",\"default\":true\x7d\x7d\x7d"

def dottedTree : SchemaTree := (empty.run [.importDocument dottedText]).tree

theorem dotted_name_imported :
    (perform (execute (.add 0 none ⟨"a.b", .boolean, "", false, some (.bool true)⟩)) empty).1 =
        .error (.edit (.invalidName "a.b")) ∧
      (dottedTree.get? (.ofSerial 0)).map (fun field => field.name) = some "a.b" ∧
      dottedTree.path? (.ofSerial 0) = some "a.b" ∧ ¬dottedTree.Spells (.ofSerial 0) (Path.segments "a.b") ∧
      dottedTree.findPath "a.b" = none ∧
      (dottedTree.toExport.properties.get? "a.b").map (fun entry => entry.defaultValue) = some (.bool false) := by
  refine ⟨by decide +kernel, by decide +kernel, by decide +kernel, fun spelt => ?_, by decide +kernel, by decide +kernel⟩
  have own : dottedTree.Spells (.ofSerial 0) ["a.b"] :=
    .root (show dottedTree.node? (.ofSerial 0) = some ⟨Attributes.withId
      ⟨"a.b", .boolean, "", false, some (.bool true)⟩ (.ofSerial 0), none, []⟩ by decide +kernel) rfl
  exact absurd (spelt.unique own) (by decide +kernel)

end Session

end ConfigSchema
