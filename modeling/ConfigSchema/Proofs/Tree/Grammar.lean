import ConfigSchema.Proofs.Flat.Skips
import ConfigSchema.Proofs.Sketch.Documents
import ConfigSchema.Proofs.Sketch.Grammar
import ConfigSchema.Proofs.Tree.Building

/-! Trees of documents that follow the grammar. Main statement: a document has a tree exactly if it follows the grammar,
the tree has one field for each property of its containers, in their order, and neither here nor in a flat map is the
insertion of a field ever refused. -/

namespace ConfigSchema

open Json

def Json.opened (node : Json) : List (String × Json) := (node.container?.map Json.properties).getD []

/-- A forest has one field for each property, in order, with its name and the kind of its node, over the fields for
the properties that the node opens. -/
inductive Branch.Mirrors : List (String × Json) → Forest → Prop
  | nil : Mirrors [] []
  | cons {name : String} {node : Json} {rest : List (String × Json)} {field : Field} {below others : Forest}
      (named : field.name = name) (kind : Kind.ofNode node "" = .ok field.kind) (inside : Mirrors node.opened below)
      (beside : Mirrors rest others) : Mirrors ((name, node) :: rest) (.mk field below :: others)

theorem Kind.listed_eq_opened {node : Json} {path : String} {kind : Kind} (said : Kind.ofNode node path = .ok kind) :
    node.listed = node.opened := by
  rw [Kind.listed_eq said, Json.opened, Kind.container?_eq said, Kind.listed_eq_of_holding]

theorem Branch.mirrors_of_reads {properties : List (String × Json)} : (forest : Forest) →
    List.Forall₂ (Sketch.Reads false) properties (sketches forest) → Mirrors properties forest
  | [], reads => by
    cases reads
    exact .nil
  | .mk field below :: rest, reads => by
    cases reads with
    | cons here later =>
      have named := here.name
      obtain ⟨path, required, done⟩ := here
      have said := Sketch.kind_of_read done
      have inside := Sketch.reads_children done
      rw [Kind.listed_eq_opened said] at inside
      exact .cons named (Kind.ofNode_path said "") (mirrors_of_reads below inside) (mirrors_of_reads rest later)

namespace SchemaTree

theorem outcome_buildDocument (serial : Nat) (document : Json) :
    (Program.perform (InPlace.buildDocument document) (emptyFrom serial)).1 =
      (Sketch.ofDocument document).map fun _ => () := by
  have followed := InPlace.follows_document serial document
  cases read : Sketch.ofDocument document with
  | error reason =>
    rw [read] at followed
    obtain ⟨left, ran⟩ := followed
    rw [ran]
    rfl
  | ok sketches =>
    rw [read] at followed
    obtain ⟨tree, _, ran⟩ := followed
    rw [ran]
    rfl

theorem mirrors_forest {serial : Nat} {document : Json} {tree : SchemaTree}
    (done : ofDocumentFrom serial document = .ok tree) : Branch.Mirrors document.properties tree.forest :=
  Branch.mirrors_of_reads tree.forest (Sketch.reads_of_ofDocument (sketches_of_ofDocumentFrom done))

/-- A document has a tree exactly if it follows the grammar. The tree mirrors the properties of the document. Whether
there is a tree, and what the error is, is decided by reading the document or the entries of a map that are not passed
over: the insertion of a field is never refused. -/
theorem accepted_documents (serial : Nat) (document : Json) (map : FlatMap) :
    ((∃ tree, ofDocumentFrom serial document = .ok tree) ↔ document.FollowsGrammar) ∧
    (∀ tree, ofDocumentFrom serial document = .ok tree → Branch.Mirrors document.properties tree.forest) ∧
    (Program.perform (InPlace.buildDocument document) (emptyFrom serial)).1 =
      (Sketch.ofDocument document).map (fun _ => ()) ∧
    (ofFlat map).map (fun _ => ()) = (Planting.readAll (kept map).entries).map fun _ => () := by
  refine ⟨?_, fun tree => mirrors_forest, outcome_buildDocument serial document, outcome_ofFlat map⟩
  rw [← Sketch.exists_ofDocument_iff]
  constructor
  · rintro ⟨tree, done⟩
    exact ⟨_, sketches_of_ofDocumentFrom done⟩
  · rintro ⟨sketches, read⟩
    obtain ⟨tree, done, _⟩ := exists_ofDocumentFrom serial read
    exact ⟨tree, done⟩

def looseDocument (type : Json) : Json :=
  .object [("type", .bool true), ("properties", .object [("gap", .null),
    ("tags", .object [("type", .string "array"), ("items", .string "text")]),
    ("hosts", .object [("type", .string "array"), ("items", .object [("type", .string "object"),
      ("properties", .object [("name", .object [("type", type)])])])])])]

theorem accepted_documents_of_looseDocument :
    (looseDocument .null).FollowsGrammar ∧ ¬(looseDocument (.string "list")).FollowsGrammar := by
  have refused : ofDocumentFrom 0 (looseDocument (.string "list")) =
      .error (.unsupportedType "hosts.name" "list") := by rfl
  refine ⟨(accepted_documents 0 _ .empty).1.mp ⟨_, rfl⟩, fun fits => ?_⟩
  obtain ⟨tree, done⟩ := (accepted_documents 0 _ .empty).1.mpr fits
  rw [refused] at done
  cases done

end SchemaTree

end ConfigSchema
