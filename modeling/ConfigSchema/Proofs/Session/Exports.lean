import ConfigSchema.Pattern.Reader
import ConfigSchema.Proofs.Session.Steps
import ConfigSchema.Proofs.Sketch.Depth
import ConfigSchema.Proofs.Sketch.Documents

/-! Exported documents that are imported. The writer knows no limit, but the reader opens no more than so many arrays
and objects at once. Main statement: exactly the documents within that limit come back, and then with the same fields
in the same places; every level of fields costs two or three of it. -/

namespace ConfigSchema

namespace SchemaTree

variable {tree : SchemaTree}

theorem WellFormed.readDocument_pretty (wellFormed : tree.WellFormed) (differ : tree.NamesDiffer)
    (distinct : tree.DefaultsDistinct) (back : ∀ x ∈ tree.document.reals, Json.ReadBack x) (serial : Nat) :
    Session.readDocument serial tree.document.pretty =
      if tree.document.depth ≤ Json.depthLimit then ofDocumentFrom serial tree.document else .error .invalidJson := by
  rw [Session.readDocument, Json.read, Json.readWithin_pretty (wellFormed.distinct_document differ distinct) back]
  by_cases shallow : tree.document.depth ≤ Json.depthLimit
  · rw [if_pos shallow, if_pos shallow]
  · rw [if_neg shallow, if_neg shallow]

end SchemaTree

namespace Session

open Program

variable {session : Session}

theorem import_of_shallow [Pattern.Engine] (wellFormed : session.tree.WellFormed) (differ : session.tree.NamesDiffer)
    (distinct : session.tree.DefaultsDistinct) (back : ∀ x ∈ session.tree.document.reals, Json.ReadBack x)
    (shallow : session.tree.document.depth ≤ Json.depthLimit) (other : Session) :
    ∃ again, perform (execute (.importDocument session.exportDocument)) other =
        (.ok .done, { other with tree := again, importError := none }) ∧
      again.sketches = Sketch.settledAll session.tree.sketches := by
  obtain ⟨again, read, same⟩ := wellFormed.exists_of_document differ other.tree.nextSerial
  have done : readDocument other.tree.nextSerial session.exportDocument = .ok again := by
    rw [exportDocument, wellFormed.readDocument_pretty differ distinct back, if_pos shallow, read]
  exact ⟨again, by rw [perform_importDocument, importDocument, done], same⟩

theorem import_of_deep [Pattern.Engine] (wellFormed : session.tree.WellFormed) (differ : session.tree.NamesDiffer)
    (distinct : session.tree.DefaultsDistinct) (back : ∀ x ∈ session.tree.document.reals, Json.ReadBack x)
    (deep : Json.depthLimit < session.tree.document.depth) (other : Session) :
    perform (execute (.importDocument session.exportDocument)) other =
      (.error (.document .invalidJson), { other with importError := some .invalidJson }) := by
  have refused : readDocument other.tree.nextSerial session.exportDocument = .error .invalidJson := by
    rw [exportDocument, wellFormed.readDocument_pretty differ distinct back, if_neg (Nat.not_le.mpr deep)]
  rw [perform_importDocument, importDocument, refused]

/-- In every session whose siblings have different names, the exported document can be imported, into this session or
another one, exactly if no more arrays and objects lie in each other than the reader opens; then all fields come back
in their places, and else the tree stays as it is. The document is more than twice as deep as the fields, and at most
three times as deep, apart from what default values add. Default values name each member of an object once, as all
values do that are read, and floating point numbers are taken to be read as they were printed. -/
theorem export_imported_within_limit [Pattern.Engine] {start : Session} (opened : Opened start) (steps : List Step)
    (ran : start.run steps = session) (differ : session.tree.NamesDiffer) (distinct : session.tree.DefaultsDistinct)
    (back : ∀ x ∈ session.tree.document.reals, Json.ReadBack x) (other : Session) :
    (session.tree.document.depth ≤ Json.depthLimit →
      ∃ again, perform (execute (.importDocument session.exportDocument)) other =
          (.ok .done, { other with tree := again, importError := none }) ∧
        again.sketches = Sketch.settledAll session.tree.sketches) ∧
    (Json.depthLimit < session.tree.document.depth →
      perform (execute (.importDocument session.exportDocument)) other =
        (.error (.document .invalidJson), { other with importError := some .invalidJson })) ∧
    2 * session.tree.levels < session.tree.document.depth ∧
    ∀ bound, (∀ id field, session.tree.get? id = some field → ∀ value ∈ field.defaultValue, value.depth ≤ bound) →
      session.tree.document.depth ≤ max 2 (3 * session.tree.levels + max 1 bound) := by
  obtain ⟨tree, reachable, rfl⟩ := opened.exists_tree
  have wellFormed : session.tree.WellFormed := ran ▸ (reachable_run reachable steps).wellFormed
  exact ⟨fun shallow => import_of_shallow wellFormed differ distinct back shallow other,
    fun deep => import_of_deep wellFormed differ distinct back deep other,
    wellFormed.two_mul_levels_lt differ, fun _ bounded => wellFormed.depth_document_le differ bounded⟩

def entriesRun : List Step :=
  [.add 0 none ⟨"entries", .array (some .object), "", false, none⟩,
    .add 0 (some (.ofSerial 0)) ⟨"name", .text ⟨none, some 8, some "", ["x", "y"]⟩, "", true, none⟩,
    .add 0 none ⟨"share", .number ⟨none, Number.ofLiteral? ['0', '.', '5']⟩, "", false, none⟩,
    .add 0 none ⟨"options", .object, "As they are", false, some (.object [("a", .null), ("b", .array [])])⟩]

theorem entries_imported_again :
    (empty.run entriesRun).tree.NamesDiffer ∧ (empty.run entriesRun).tree.DefaultsDistinct ∧
      (empty.run entriesRun).tree.document.reals.length = 1 ∧
      ∃ again, perform (execute (.importDocument (empty.run entriesRun).exportDocument)) empty =
          (.ok .done, { empty with tree := again, importError := none }) ∧ again.sketches =
        [.mk ⟨"entries", .array (some .object), "Entries", false, some (.array [])⟩
            [.mk ⟨"name", .text ⟨none, some 8, none, ["x", "y"]⟩, "Name", true, some (.string "x")⟩ []],
          .mk ⟨"share", .number ⟨none, Number.ofLiteral? ['0', '.', '5']⟩, "Share", false, some (.number .zero)⟩ [],
          .mk ⟨"options", .object, "As they are", false, some (.object [("a", .null), ("b", .array [])])⟩ []] := by
  have differ : (empty.run entriesRun).tree.NamesDiffer :=
    SchemaTree.namesDiffer_of_nodes (by decide +kernel) (by decide +kernel)
  have distinct : (empty.run entriesRun).tree.DefaultsDistinct := by
    have known : ∀ entry ∈ (empty.run entriesRun).tree.nodes, entry.2.field.defaultValue ∈ [some (.array []),
      some (.string "x"), some (.number .zero), some (.object [("a", .null), ("b", .array [])])] := by decide +kernel
    refine SchemaTree.defaultsDistinct_of_nodes fun entry listed value given => ?_
    have among := known entry listed
    rw [given] at among
    simp only [List.mem_cons, Option.some.injEq, List.not_mem_nil, or_false] at among
    rcases among with rfl | rfl | rfl | rfl
    · trivial
    · trivial
    · trivial
    · exact ⟨by decide, trivial, trivial, trivial⟩
  have back : ∀ x ∈ (empty.run entriesRun).tree.document.reals, Json.ReadBack x := by decide +kernel
  obtain ⟨imported, _⟩ := export_imported_within_limit .empty entriesRun rfl differ distinct back empty
  obtain ⟨again, done, same⟩ := imported (by decide +kernel)
  exact ⟨differ, distinct, by decide +kernel, again, done, same.trans (by rfl)⟩

def deepRun : List Step :=
  .add 0 none ⟨"a", .object, "", false, none⟩ ::
    (List.range 62).map fun above => .add 0 (some (.ofSerial above)) ⟨"a", .object, "", false, none⟩

theorem deep_export_refused : (empty.run deepRun).tree.levels = 63 ∧ (empty.run deepRun).tree.NamesDiffer ∧
    (empty.run deepRun).tree.DefaultsDistinct ∧ (empty.run deepRun).tree.document.reals = [] ∧
      perform (execute (.importDocument (empty.run deepRun).exportDocument)) (empty.run deepRun) =
        (.error (.document .invalidJson), { empty.run deepRun with importError := some .invalidJson }) := by
  -- one evaluation of the run for all that has to be known of its tree
  have known : (empty.run deepRun).tree.levels = 63 ∧ Json.depthLimit < (empty.run deepRun).tree.document.depth ∧
      (empty.run deepRun).tree.document.reals = [] ∧
      ((empty.run deepRun).tree.roots.map (empty.run deepRun).tree.name?).Nodup ∧
      ∀ entry ∈ (empty.run deepRun).tree.nodes, (entry.2.children.map (empty.run deepRun).tree.name?).Nodup ∧
        entry.2.field.defaultValue = some (.object []) := by decide +kernel
  obtain ⟨levels, deep, noReals, roots, below⟩ := known
  have wellFormed : (empty.run deepRun).tree.WellFormed := (reachable_run .empty deepRun).wellFormed
  have differ : (empty.run deepRun).tree.NamesDiffer :=
    SchemaTree.namesDiffer_of_nodes roots fun entry listed => (below entry listed).1
  have distinct : (empty.run deepRun).tree.DefaultsDistinct :=
    SchemaTree.defaultsDistinct_of_nodes fun entry listed value given => by
      cases (below entry listed).2.symm.trans given
      exact ⟨List.nodup_nil, trivial⟩
  have back : ∀ x ∈ (empty.run deepRun).tree.document.reals, Json.ReadBack x := by
    rw [noReals]
    exact List.forall_mem_nil _
  have refused := import_of_deep wellFormed differ distinct back deep (empty.run deepRun)
  exact ⟨levels, differ, distinct, noReals, refused⟩

end Session

end ConfigSchema
