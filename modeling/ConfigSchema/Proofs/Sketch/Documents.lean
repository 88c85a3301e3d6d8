import ConfigSchema.Proofs.Sketch.OfTree
import ConfigSchema.Proofs.Sketch.Reading
import ConfigSchema.Proofs.Tree.Plants
import ConfigSchema.Proofs.Tree.Reachable

/-! Documents of trees. The document of a tree whose siblings have different names is read as the fields of the tree
in their places, and whatever is read from a document is written and read again without a change: the two formats
say the same, ids apart. -/

namespace ConfigSchema

open Json

namespace Sketch

mutual
/-- The sketch with its kinds as they are read back, and everything else as it is. -/
def settled : Sketch → Sketch
  | mk attributes children => mk { attributes with kind := attributes.kind.settled } (settledAll children)

def settledAll : List Sketch → List Sketch
  | [] => []
  | sketch :: rest => sketch.settled :: settledAll rest
end

mutual
/-- A reader that makes nothing up changes nothing but the kinds. -/
theorem reread_false : (sketch : Sketch) → sketch.reread false = sketch.settled
  | mk attributes children => by
    rw [reread, settled, rereads_false children]
    rfl

theorem rereads_false : (sketches : List Sketch) → rereads false sketches = settledAll sketches
  | [] => rfl
  | sketch :: rest => by rw [rereads, settledAll, reread_false sketch, rereads_false rest]
end

mutual
theorem settled_eq_self : (sketch : Sketch) → (sketch.Every fun sketch => sketch.kind.settled = sketch.kind) →
    sketch.settled = sketch
  | mk attributes children, every => by
    have own : attributes.kind.settled = attributes.kind := every.here
    rw [settled, own, settledAll_eq_self children every.below]

theorem settledAll_eq_self : (sketches : List Sketch) →
    (∀ sketch ∈ sketches, sketch.Every fun sketch => sketch.kind.settled = sketch.kind) →
    settledAll sketches = sketches
  | [], _ => rfl
  | sketch :: rest, every => by
    rw [List.forall_mem_cons] at every
    rw [settledAll, settled_eq_self sketch every.1, settledAll_eq_self rest every.2]
end

theorem every_of_ofDocument {fit : Json → Prop} {property : Sketch → Prop} (inherited : Inherited fit)
    (held : HeldByReading false fit property) {document : Json} {sketches : List Sketch} (whole : fit document)
    (read : ofDocument document = .ok sketches) : ∀ sketch ∈ sketches, sketch.Every property := by
  cases document with
  | object members => exact everyOf_iff.mp (ofContainer_every inherited held members (inherited whole) read)
  | _ => cases read

theorem nodup_names_of_ofDocument {document : Json} {sketches : List Sketch} (distinct : document.Distinct)
    (read : ofDocument document = .ok sketches) : (sketches.map name).Nodup := by
  cases document with
  | object members => exact nodup_names_of_container distinct read
  | _ => cases read

end Sketch

namespace Branch

theorem document_congr {first second : Forest} (same : sketches first = sketches second) :
    document first = document second := by
  rw [document, document, nodes_eq, nodes_eq, required_eq, required_eq, same]

theorem ofDocument_document {forest : Forest} (sound : ∀ sketch ∈ sketches forest, sketch.Sound)
    (distinct : ∀ sketch ∈ sketches forest, sketch.Distinct)
    (differ : ((sketches forest).map Sketch.name).Nodup) :
    Sketch.ofDocument (document forest) = .ok (Sketch.settledAll (sketches forest)) := by
  have unchanged : Keyed.ofList (Sketch.nodes (sketches forest)) = Sketch.nodes (sketches forest) :=
    Keyed.ofList_of_nodup (Sketch.keys_nodes _ ▸ differ)
  have inside : Sketch.ofProperties false "" (Sketch.required (sketches forest)) (Sketch.nodes (sketches forest)) =
      .ok (Sketch.rereads false (sketches forest)) :=
    Sketch.ofProperties_nodes _ sound distinct differ "" _ fun sketch member => Sketch.contains_required differ member
  rw [document, Sketch.ofDocument, Sketch.ofContainer_eq, Sketch.requiredNames, nodes_eq, required_eq]
  simp only [Keyed.find?_append, Keyed.find?_cons, Keyed.find?_texts, String.reduceEq, if_false, if_true, true_and,
    ofMembers, unchanged, Option.some_or]
  simp only [Keyed.find?, Option.none_or, Option.or_none, texts_read]
  rw [inside, Sketch.rereads_false]

end Branch

namespace SchemaTree

variable {tree : SchemaTree}

theorem exists_ofDocumentFrom (serial : Nat) {document : Json} {sketches : List Sketch}
    (read : Sketch.ofDocument document = .ok sketches) :
    ∃ tree, ofDocumentFrom serial document = .ok tree ∧ tree.sketches = sketches := by
  have sound : ∀ sketch ∈ sketches, sketch.Sound :=
    Sketch.every_of_ofDocument Sketch.inherited_true (Sketch.sound_heldByReading false) trivial read
  have top : ∀ above, (none : Option FieldId) = some above →
      ∃ holder, (emptyFrom serial).node? above = some holder ∧ holder.field.kind.holdsFields = true :=
    fun _ same => nomatch same
  obtain ⟨ids, tree, forest, planted, inside, same⟩ := Sketch.exists_plantAll (wellFormed_emptyFrom serial)
    (numbered_emptyFrom serial) sketches (fun _ => top) sound ""
  have done : ofDocumentFrom serial document = .ok tree := by
    rw [ofDocumentFrom, read, Except.ok_bind, planted]
  have roots : tree.roots = ids := by
    rw [inside.roots]
    simp [emptyFrom]
  have shown : tree.Shows tree.roots forest := roots ▸ inside.shown
  refine ⟨tree, done, ?_⟩
  rw [SchemaTree.sketches, (shows_forest (wellFormed_ofDocumentFrom done).1).unique shown, same]

theorem sketches_of_ofDocumentFrom {serial : Nat} {document : Json} (done : ofDocumentFrom serial document = .ok tree) :
    Sketch.ofDocument document = .ok tree.sketches := by
  obtain ⟨sketches, read, _⟩ := Except.bind_eq_ok_iff.mp done
  obtain ⟨same, again, shows⟩ := exists_ofDocumentFrom serial read
  cases done.symm.trans again
  rw [read, shows]

theorem WellFormed.exists_of_document (wellFormed : tree.WellFormed) (differ : tree.NamesDiffer) (serial : Nat) :
    ∃ again, ofDocumentFrom serial tree.document = .ok again ∧ again.sketches = Sketch.settledAll tree.sketches :=
  exists_ofDocumentFrom serial (Branch.ofDocument_document wellFormed.sound_sketches
    (wellFormed.distinct_sketches differ) (wellFormed.nodup_names_sketches differ))

theorem exists_document_again {document : Json} {serial : Nat} {once : SchemaTree} (distinct : document.Distinct)
    (done : ofDocumentFrom serial document = .ok once) (later : Nat) :
    ∃ twice, ofDocumentFrom later once.document = .ok twice ∧ twice.document = once.document := by
  have read := sketches_of_ofDocumentFrom done
  have settled : Sketch.settledAll once.sketches = once.sketches := Sketch.settledAll_eq_self _
    (Sketch.every_of_ofDocument Sketch.inherited_true (Sketch.settled_heldByReading false) trivial read)
  obtain ⟨twice, again, same⟩ := exists_ofDocumentFrom later
    (Branch.ofDocument_document (wellFormed_ofDocumentFrom done).1.sound_sketches
      (Sketch.every_of_ofDocument Sketch.inherited_distinct (Sketch.distinct_heldByReading false) distinct read)
      (Sketch.nodup_names_of_ofDocument distinct read))
  exact ⟨twice, again, Branch.document_congr (same.trans settled)⟩

theorem document_again_of_readDocument {serial : Nat} {text : String} {once : SchemaTree}
    (done : Session.readDocument serial text = .ok once) (later : Nat) :
    ∃ twice, ofDocumentFrom later once.document = .ok twice ∧ twice.document = once.document := by
  unfold Session.readDocument at done
  split at done
  · cases done
  · rename_i document read
    exact exists_document_again (distinct_of_readWithin read) done later

/-- A tree whose siblings have different names, whatever these are, is read back from its document with the same
fields in the same places; and the document of a tree that was read from a document stays the same when it is read
and written again. -/
theorem document_read_back :
    (∀ (tree : SchemaTree) (serial : Nat), tree.WellFormed → tree.NamesDiffer →
      ∃ again, ofDocumentFrom serial tree.document = .ok again ∧
        again.sketches = Sketch.settledAll tree.sketches) ∧
    (∀ (document : Json) (serial later : Nat) (once : SchemaTree), document.Distinct →
      ofDocumentFrom serial document = .ok once →
        ∃ twice, ofDocumentFrom later once.document = .ok twice ∧ twice.document = once.document) :=
  ⟨fun _ serial wellFormed differ => wellFormed.exists_of_document differ serial,
    fun _ _ later _ distinct done => exists_document_again distinct done later⟩

def oddDocument : Json :=
  .object [("properties", .object [
    ("a.b", .object [("type", .string "number"), ("default", .null)]),
    ("", .object [("type", .string "array"), ("items", .object [
      ("properties", .object [("x.y", .object [("enum", .array [.string "", .string "z"])])]),
      ("required", .array [.string "x.y", .string "a.b"]), ("type", .string "object")])])])]

def oddTree : SchemaTree := (ofDocumentFrom 0 oddDocument).toOption.getD empty

def oddTreeGrown : SchemaTree :=
  (Edit.add 0 (some (.ofSerial 1)) ⟨"last", .text ⟨none, none, some "", []⟩, "", false, none⟩).apply oddTree

theorem document_read_back_of_oddTree :
    oddTreeGrown.WellFormed ∧ oddTreeGrown.NamesDiffer ∧ oddDocument.Distinct ∧
      ofDocumentFrom 0 oddDocument = .ok oddTree ∧
      (∃ again, ofDocumentFrom 7 oddTreeGrown.document = .ok again ∧ again.sketches =
        [.mk ⟨"a.b", .number .free, "", false, some .null⟩ [],
          .mk ⟨"", .array (some .object), "", false, none⟩
            [.mk ⟨"x.y", .text ⟨none, none, none, ["", "z"]⟩, "", true, none⟩ [],
              .mk ⟨"last", .text .free, "Last", false, some (.string "")⟩ []]]) ∧
      ∃ twice, ofDocumentFrom 7 oddTree.document = .ok twice ∧ twice.document = oddTree.document := by
  have read : ofDocumentFrom 0 oddDocument = .ok oddTree := by rfl
  have wellFormed : oddTreeGrown.WellFormed := (Reachable.edit _ (.document read)).wellFormed
  have differ : oddTreeGrown.NamesDiffer := namesDiffer_of_nodes (by decide) (by decide)
  have distinct : oddDocument.Distinct := by simp [oddDocument, Distinct, DistinctMembers, DistinctItems, Keyed.keys]
  obtain ⟨again, done, same⟩ := document_read_back.1 oddTreeGrown 7 wellFormed differ
  exact ⟨wellFormed, differ, distinct, read, ⟨again, done, same.trans (by rfl)⟩,
    document_read_back.2 oddDocument 0 7 oddTree distinct read⟩

end SchemaTree

end ConfigSchema
