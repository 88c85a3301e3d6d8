import ConfigSchema.Proofs.Sketch.Reading
import ConfigSchema.Proofs.Tree.InPlace
import ConfigSchema.Proofs.Tree.Plants

/-! Building a tree in place. Here a document is read and its fields are entered in one pass, so that a node that
cannot be read leaves a tree with the fields before it. Main statement: the pass ends with the tree of the document,
or stops for the reason for which the document has no tree. -/

namespace ConfigSchema

namespace InPlace

open Json Program

abbrev Building (α : Type) := Program SchemaTree SchemaError α

def enter (parent : Option FieldId) (path : String) (attributes : Attributes) : Building FieldId :=
  ExceptT.mk fun tree =>
    let (outcome, grown) := perform (insert parent attributes) tree
    (outcome.mapError fun _ => .notAnObject path, grown)

mutual
def buildProperty (parent : Option FieldId) (path name : String) (required : Bool) : Json → Building Unit
  | .object members => do
    let kind ← MonadExcept.ofExcept (Kind.ofNode (.object members) path)
    let id ← enter parent path (Sketch.attributesOf false name ⟨required, none, none⟩ kind (.object members))
    match kind with
    | .object => buildContainer (some id) path (Sketch.requiredNames members) members
    | .array (some .object) => buildItems (some id) path members
    | _ => pure ()
  | node => do
    let kind ← MonadExcept.ofExcept (Kind.ofNode node path)
    let _ ← enter parent path (Sketch.attributesOf false name ⟨required, none, none⟩ kind node)
    pure ()

def buildContainer (parent : Option FieldId) (path : String) (required : List String) :
    List (String × Json) → Building Unit
  | [] => pure ()
  | (name, value) :: rest =>
    if name = "properties" then
      match value with
      | .object properties => buildProperties parent path required properties
      | _ => throw (.notAnObject (Path.join path "properties"))
    else buildContainer parent path required rest

def buildItems (parent : Option FieldId) (path : String) : List (String × Json) → Building Unit
  | [] => pure ()
  | (name, value) :: rest =>
    if name = "items" then
      match value with
      | .object items => buildContainer parent path (Sketch.requiredNames items) items
      | _ => pure ()
    else buildItems parent path rest

def buildProperties (parent : Option FieldId) (path : String) (required : List String) :
    List (String × Json) → Building Unit
  | [] => pure ()
  | (name, node) :: rest => do
    buildProperty parent (Path.join path name) name (required.contains name) node
    buildProperties parent path required rest
end

def buildDocument : Json → Building Unit
  | .object members => buildContainer none "" (Sketch.requiredNames members) members
  | _ => throw (.notAnObject "$")

/-- The program ends as planting what was read does, or stops for the reason for which nothing was read. -/
def Follows {α : Type} (program : Building Unit) (tree : SchemaTree) (read : Except SchemaError α)
    (plant : α → Except SchemaError SchemaTree) : Prop :=
  match read with
  | .ok found => ∃ grown, plant found = .ok grown ∧ perform program tree = (.ok (), grown)
  | .error reason => ∃ left, perform program tree = (.error reason, left)

theorem perform_enter {tree grown : SchemaTree} {parent : Option FieldId} {attributes : Attributes} {id : FieldId}
    (inserted : tree.insert parent attributes = .ok (id, grown)) (path : String) :
    perform (enter parent path attributes) tree = (.ok id, grown) := by
  have ran : perform (enter parent path attributes) tree =
      ((perform (insert parent attributes) tree).1.mapError fun _ => SchemaError.notAnObject path,
        (perform (insert parent attributes) tree).2) := rfl
  rw [ran, perform_insert, inserted]
  rfl

section

variable {tree : SchemaTree} {parent : Option FieldId}

theorem follows_field (wellFormed : tree.WellFormed) (numbered : tree.Numbered) (admits : tree.Admits parent)
    (path : String) (attributes : Attributes) (below : Except SchemaError (List Sketch))
    (inside : FieldId → Building Unit)
    (children : ∀ id grown, tree.insert parent attributes = .ok (id, grown) → grown.WellFormed → grown.Numbered →
      (attributes.kind.holdsFields = true → grown.Admits (some id)) →
        Follows (inside id) grown below fun sketches => Sketch.plantAll grown (some id) path sketches) :
    Follows (enter parent path attributes >>= inside) tree (below.map (Sketch.mk attributes)) fun sketch =>
      (sketch.plant tree parent path).map Prod.snd := by
  obtain ⟨id, grown, inserted⟩ := SchemaTree.exists_insert admits attributes
  obtain ⟨tidy, counted⟩ := SchemaTree.insert_wellFormed wellFormed numbered inserted
  obtain ⟨entered, _⟩ := SchemaTree.entered_of_insert numbered.not_contains_next inserted
  have opens : attributes.kind.holdsFields = true → grown.Admits (some id) := by
    rintro holds above same
    cases same
    exact ⟨_, by rw [entered.node, if_pos rfl], holds⟩
  have followed := children id grown inserted tidy counted opens
  cases below with
  | error reason =>
    obtain ⟨left, ran⟩ := followed
    exact ⟨left, by rw [perform_bind, perform_enter inserted]; exact ran⟩
  | ok sketches =>
    obtain ⟨whole, planted, ran⟩ := followed
    refine ⟨whole, ?_, by rw [perform_bind, perform_enter inserted]; exact ran⟩
    show (Sketch.plant tree parent path (.mk attributes sketches)).map Prod.snd = _
    rw [Sketch.plant, inserted]
    simp only [planted]
    rfl

theorem follows_nothing (path : String) :
    Follows (pure ()) tree (.ok []) fun sketches => Sketch.plantAll tree parent path sketches := ⟨tree, rfl, rfl⟩

/-- What was planted for a property leaves a tree in which the next one can be entered. -/
theorem planted_of_read (wellFormed : tree.WellFormed) (numbered : tree.Numbered) (admits : tree.Admits parent)
    {path below name : String} {given : Sketch.Given} {node : Json} {sketch : Sketch} {id : FieldId}
    {grown : SchemaTree} (read : Sketch.ofNode false path name given node = .ok sketch)
    (done : sketch.plant tree parent below = .ok (id, grown)) :
    grown.WellFormed ∧ grown.Numbered ∧ grown.Admits parent := by
  obtain ⟨tidy, counted, branch, planted, _⟩ :=
    Sketch.planted_of_plant wellFormed numbered admits (Sketch.sound_of_read read) done
  exact ⟨tidy, counted, planted.admits admits⟩

end

mutual
theorem follows_property {tree : SchemaTree} {parent : Option FieldId} (wellFormed : tree.WellFormed)
    (numbered : tree.Numbered) (admits : tree.Admits parent) (path name : String) (required : Bool) :
    (node : Json) → Follows (buildProperty parent path name required node) tree
      (Sketch.ofProperty false path name required node) fun sketch => (sketch.plant tree parent path).map Prod.snd
  | .object members => by
    rw [buildProperty, Sketch.ofProperty]
    cases said : Kind.ofNode (.object members) path with
    | error reason => exact ⟨tree, rfl⟩
    | ok kind =>
      have field := follows_field wellFormed numbered admits path
        (Sketch.attributesOf false name ⟨required, none, none⟩ kind (.object members))
      rcases kind with _ | _ | _ | (_ | _ | _ | _ | _) | _
      case ok.object =>
        exact field _ _ fun id grown _ tidy counted opens =>
          follows_container tidy counted (opens rfl) path (Sketch.requiredNames members) members
      case ok.array.some.object =>
        exact field _ _ fun id grown _ tidy counted opens => follows_items tidy counted (opens rfl) path members
      all_goals exact field (.ok []) (fun _ => pure ()) fun id grown _ _ _ _ => follows_nothing path
  | .null | .bool _ | .number _ | .string _ | .array _ => by
    simp only [buildProperty, Sketch.ofProperty]
    exact follows_field wellFormed numbered admits path _ (.ok []) (fun _ => pure ()) fun _ _ _ _ _ _ =>
      follows_nothing path

theorem follows_container {tree : SchemaTree} {parent : Option FieldId} (wellFormed : tree.WellFormed)
    (numbered : tree.Numbered) (admits : tree.Admits parent) (path : String) (required : List String) :
    (members : List (String × Json)) → Follows (buildContainer parent path required members) tree
      (Sketch.ofContainer false path required members) fun sketches => Sketch.plantAll tree parent path sketches
  | [] => follows_nothing path
  | (name, value) :: rest => by
    by_cases named : name = "properties"
    · cases value with
      | object properties =>
        simpa [buildContainer, Sketch.ofContainer, named] using
          follows_properties wellFormed numbered admits path required properties
      | _ =>
        simp only [buildContainer, Sketch.ofContainer, named, if_true]
        exact ⟨tree, rfl⟩
    · have later := follows_container wellFormed numbered admits path required rest
      cases value <;> simpa [buildContainer, Sketch.ofContainer, named] using later

theorem follows_items {tree : SchemaTree} {parent : Option FieldId} (wellFormed : tree.WellFormed)
    (numbered : tree.Numbered) (admits : tree.Admits parent) (path : String) :
    (members : List (String × Json)) → Follows (buildItems parent path members) tree
      (Sketch.ofItems false path members) fun sketches => Sketch.plantAll tree parent path sketches
  | [] => follows_nothing path
  | (name, value) :: rest => by
    by_cases named : name = "items"
    · cases value with
      | object items =>
        simpa [buildItems, Sketch.ofItems, named] using
          follows_container wellFormed numbered admits path (Sketch.requiredNames items) items
      | _ =>
        simp only [buildItems, Sketch.ofItems, named, if_true]
        exact follows_nothing path
    · have later := follows_items wellFormed numbered admits path rest
      cases value <;> simpa [buildItems, Sketch.ofItems, named] using later

theorem follows_properties {tree : SchemaTree} {parent : Option FieldId} (wellFormed : tree.WellFormed)
    (numbered : tree.Numbered) (admits : tree.Admits parent) (path : String) (required : List String) :
    (properties : List (String × Json)) → Follows (buildProperties parent path required properties) tree
      (Sketch.ofProperties false path required properties) fun sketches => Sketch.plantAll tree parent path sketches
  | [] => follows_nothing path
  | (name, node) :: rest => by
    rw [buildProperties, Sketch.ofProperties]
    have first := follows_property wellFormed numbered admits (Path.join path name) name (required.contains name) node
    cases read : Sketch.ofProperty false (Path.join path name) name (required.contains name) node with
    | error reason =>
      rw [read] at first
      obtain ⟨left, ran⟩ := first
      exact ⟨left, by rw [perform_bind, ran]⟩
    | ok sketch =>
      rw [read] at first
      obtain ⟨middle, done, ran⟩ := first
      obtain ⟨⟨id, grown⟩, planted, same⟩ := Except.map_eq_ok_iff.mp done
      cases same
      rw [Sketch.ofProperty_eq] at read
      obtain ⟨tidy, counted, still⟩ := planted_of_read wellFormed numbered admits read planted
      have named : sketch.attributes.name = name := Sketch.name_of_read read
      have later := follows_properties tidy counted still path required rest
      cases others : Sketch.ofProperties false path required rest with
      | error reason =>
        rw [others] at later
        obtain ⟨left, stopped⟩ := later
        exact ⟨left, by rw [perform_bind, ran]; exact stopped⟩
      | ok sketches =>
        rw [others] at later
        obtain ⟨whole, listed, ended⟩ := later
        refine ⟨whole, ?_, by rw [perform_bind, ran]; exact ended⟩
        show Sketch.plantAll tree parent path (sketch :: sketches) = .ok whole
        rw [Sketch.plantAll, named, planted]
        exact listed
end

theorem follows_document (serial : Nat) (document : Json) :
    Follows (buildDocument document) (SchemaTree.emptyFrom serial) (Sketch.ofDocument document) fun sketches =>
      Sketch.plantAll (SchemaTree.emptyFrom serial) none "" sketches := by
  cases document with
  | object members =>
    exact follows_container (SchemaTree.wellFormed_emptyFrom serial) (SchemaTree.numbered_emptyFrom serial)
      (fun _ same => by cases same) "" (Sketch.requiredNames members) members
  | _ => exact ⟨_, rfl⟩

theorem ofDocumentFrom_eq_built (serial : Nat) (document : Json) : SchemaTree.ofDocumentFrom serial document =
    match perform (buildDocument document) (SchemaTree.emptyFrom serial) with
    | (.ok (), tree) => .ok tree
    | (.error reason, _) => .error reason := by
  have followed := follows_document serial document
  rw [SchemaTree.ofDocumentFrom]
  cases read : Sketch.ofDocument document with
  | error reason =>
    rw [read] at followed
    obtain ⟨left, ran⟩ := followed
    rw [ran]
    rfl
  | ok sketches =>
    rw [read] at followed
    obtain ⟨tree, planted, ran⟩ := followed
    rw [ran]
    exact planted

end InPlace

end ConfigSchema
