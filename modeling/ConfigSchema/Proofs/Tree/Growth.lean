import ConfigSchema.Flat.Planting
import ConfigSchema.Proofs.Sketch.Basic
import ConfigSchema.Proofs.Tree.Edits

/-! Trees that come from documents and flat maps. They grow by one new field at a time, so what every insertion
keeps holds of the whole tree. -/

namespace ConfigSchema

def Sketch.All (property : Attributes → Prop) : Sketch → Prop := Every fun sketch => property sketch.attributes

def Sketch.AllOf (property : Attributes → Prop) : List Sketch → Prop :=
  EveryOf fun sketch => property sketch.attributes

/-- All that an entry can bring into a tree has the property: objects for its segments, and what is read from it. -/
structure Entry.Brings (entry : Entry) (path : String) (property : Attributes → Prop) : Prop where
  objects : ∀ name ∈ Path.segments path, property (Planting.container name)
  sketch : ∀ sketch, Sketch.ofNode true path (Path.lastSegment path) ⟨false, some entry.description,
    some entry.defaultValue⟩ entry.schema = .ok sketch → sketch.All property

def SchemaTree.KeptByInsert (claim : SchemaTree → Prop) (property : Attributes → Prop) : Prop :=
  ∀ ⦃tree grown : SchemaTree⦄ ⦃parent : Option FieldId⦄ ⦃attributes : Attributes⦄ ⦃id : FieldId⦄, claim tree →
    property attributes → tree.insert parent attributes = .ok (id, grown) → claim grown

theorem SchemaTree.wellFormed_keptByInsert (property : Attributes → Prop) :
    KeptByInsert (fun tree => tree.WellFormed ∧ tree.Numbered) property :=
  fun _ _ _ _ _ before _ done => insert_wellFormed before.1 before.2 done

/-- Where only attributes with a property are inserted, all fields have it. -/
theorem SchemaTree.fields_keptByInsert (property : Attributes → Prop) :
    KeptByInsert (fun tree => (tree.WellFormed ∧ tree.Numbered) ∧
      ∀ id node, tree.node? id = some node → property node.field.attributes) property := by
  intro tree grown parent attributes id before new done
  obtain ⟨entered, _⟩ := entered_of_insert before.1.2.not_contains_next done
  refine ⟨insert_wellFormed before.1.1 before.1.2 done, fun other node found => ?_⟩
  obtain ⟨_, rfl⟩ | ⟨_, old, stored, rfl⟩ := entered.node_cases found
  · exact new
  · exact before.2 other old stored

section

variable {claim : SchemaTree → Prop} {property : Attributes → Prop}

mutual
theorem Sketch.plant_keeps (kept : SchemaTree.KeptByInsert claim property) {tree grown : SchemaTree}
    {parent : Option FieldId} {path : String} {id : FieldId} :
    (sketch : Sketch) → sketch.All property → claim tree → sketch.plant tree parent path = .ok (id, grown) →
      claim grown
  | .mk attributes below, every, before, done => by
    unfold plant at done
    split at done
    · cases done
    · rename_i inserted entered
      obtain ⟨later, planted, same⟩ := Except.map_eq_ok_iff.mp done
      cases same
      exact plantAll_keeps kept below every.2 (kept before every.1 entered) planted

theorem Sketch.plantAll_keeps (kept : SchemaTree.KeptByInsert claim property) {tree grown : SchemaTree}
    {parent : Option FieldId} {path : String} :
    (sketches : List Sketch) → Sketch.AllOf property sketches → claim tree →
      Sketch.plantAll tree parent path sketches = .ok grown → claim grown
  | [], _, before, done => by
    cases done
    exact before
  | sketch :: rest, every, before, done => by
    unfold plantAll at done
    split at done
    · cases done
    · rename_i planted
      exact plantAll_keeps kept rest every.2 (plant_keeps kept sketch every.1 before planted) done
end

variable (kept : SchemaTree.KeptByInsert claim property)

include kept

theorem SchemaTree.ofDocumentFrom_keeps (everything : ∀ attributes, property attributes) {serial : Nat}
    {document : Json} {tree : SchemaTree} (start : claim (emptyFrom serial))
    (done : ofDocumentFrom serial document = .ok tree) : claim tree := by
  obtain ⟨sketches, _, planted⟩ := Except.bind_eq_ok_iff.mp done
  have every := Sketch.everyOf_of_forall (fun sketch => everything sketch.attributes) sketches
  exact Sketch.plantAll_keeps kept sketches every start planted

namespace Planting

theorem ensure_keeps {planting grown : Planting} {parent : Option FieldId} {path name : String} {id : FieldId}
    (made : property (container name)) (before : claim planting.tree)
    (done : planting.ensure parent path name = .ok (id, grown)) : claim grown.tree := by
  unfold ensure at done
  split at done
  · cases done
    exact before
  · split at done
    · cases done
    · rename_i inserted
      cases done
      exact kept before made inserted

theorem holder_keeps {planting grown : Planting} {parent : Option FieldId} {above : String}
    {names : List String} {found : Option (Option FieldId)} (made : ∀ name ∈ names, property (container name))
    (before : claim planting.tree) (done : planting.holder parent above names = .ok (found, grown)) :
    claim grown.tree := by
  induction names generalizing planting parent above with
  | nil =>
    cases done
    exact before
  | cons name rest ih =>
    rw [List.forall_mem_cons] at made
    obtain ⟨⟨id, wider⟩, ensured, later⟩ := Except.bind_eq_ok_iff.mp done
    have after := ensure_keeps kept made.1 before ensured
    simp only at later
    split at later
    · exact ih made.2 after later
    · cases later
      exact after

theorem enter_keeps {planting grown : Planting} {path : String} {entry : Entry} (brings : entry.Brings path property)
    (before : claim planting.tree) (done : planting.enter path entry = .ok grown) : claim grown.tree := by
  simp only [enter] at done
  split at done
  · cases done
    exact before
  · obtain ⟨⟨found, wider⟩, held, later⟩ := Except.bind_eq_ok_iff.mp done
    have after := holder_keeps kept (fun name member => brings.objects name (List.dropLast_subset _ member)) before held
    cases found with
    | none =>
      cases later
      exact after
    | some parent =>
      obtain ⟨sketch, read, later⟩ := Except.bind_eq_ok_iff.mp later
      obtain ⟨⟨id, tree⟩, planted, same⟩ := Except.bind_eq_ok_iff.mp later
      cases same
      exact Sketch.plant_keeps kept sketch (brings.sketch sketch read) after planted

theorem enterAll_keeps {planting grown : Planting} {entries : List (String × Entry)}
    (brings : ∀ entry ∈ entries, entry.2.Brings entry.1 property) (before : claim planting.tree)
    (done : planting.enterAll entries = .ok grown) : claim grown.tree := by
  induction entries generalizing planting with
  | nil =>
    cases done
    exact before
  | cons entry rest ih =>
    rw [List.forall_mem_cons] at brings
    obtain ⟨wider, entered, later⟩ := Except.bind_eq_ok_iff.mp done
    exact ih brings.2 (enter_keeps kept brings.1 before entered) later

end Planting

theorem SchemaTree.ofFlat_keeps {map : FlatMap} {tree : SchemaTree}
    (brings : ∀ entry ∈ map.entries, entry.2.Brings entry.1 property) (start : claim .empty)
    (done : ofFlat map = .ok tree) : claim tree := by
  obtain ⟨grown, entered, rfl⟩ := Except.map_eq_ok_iff.mp done
  exact Planting.enterAll_keeps kept brings start entered

end

namespace SchemaTree

theorem numbered_emptyFrom (serial : Nat) : (emptyFrom serial).Numbered := by
  intro id stored
  simp [emptyFrom, contains, node?, Keyed.find?] at stored

theorem wellFormed_ofDocumentFrom {serial : Nat} {document : Json} {tree : SchemaTree}
    (done : ofDocumentFrom serial document = .ok tree) : tree.WellFormed ∧ tree.Numbered :=
  ofDocumentFrom_keeps (wellFormed_keptByInsert fun _ => True) (fun _ => trivial)
    ⟨wellFormed_emptyFrom serial, numbered_emptyFrom serial⟩ done

theorem wellFormed_ofFlat {map : FlatMap} {tree : SchemaTree} (done : ofFlat map = .ok tree) :
    tree.WellFormed ∧ tree.Numbered :=
  ofFlat_keeps (wellFormed_keptByInsert fun _ => True)
    (fun _ _ => ⟨fun _ _ => trivial, fun sketch _ => sketch.every_of_forall fun _ => trivial⟩)
    ⟨wellFormed_emptyFrom 0, numbered_emptyFrom 0⟩ done

end SchemaTree

end ConfigSchema
