import ConfigSchema.Proofs.Tree.Growth

/-! Planting sketches. Where fields may be entered, every sketch whose containers are containers can be planted; the
tree then shows it at the end of one list, and nothing else of the tree is touched. -/

namespace ConfigSchema

open SchemaTree

namespace SchemaTree

variable {tree middle grown : SchemaTree} {parent : Option FieldId} {ids : List FieldId} {forest : Forest}

def Admits (tree : SchemaTree) (parent : Option FieldId) : Prop :=
  ∀ above, parent = some above → ∃ node, tree.node? above = some node ∧ node.field.kind.holdsFields = true

theorem exists_insert (admits : tree.Admits parent) (attributes : Attributes) :
    ∃ id grown, tree.insert parent attributes = .ok (id, grown) := by
  cases parent with
  | none => exact ⟨_, _, rfl⟩
  | some above =>
    obtain ⟨node, found, holds⟩ := admits above rfl
    cases done : tree.insert (some above) attributes with
    | ok result => exact ⟨result.1, result.2, rfl⟩
    | error reason => simp [insert, found, holds] at done

structure Planted (tree grown : SchemaTree) (parent : Option FieldId) (ids : List FieldId) (forest : Forest) :
    Prop where
  node : ∀ id node, tree.node? id = some node →
    grown.node? id = some { node with children := node.children ++ if parent = some id then ids else [] }
  roots : grown.roots = tree.roots ++ if parent = none then ids else []
  shown : grown.Shows ids forest
  fresh : ∀ id ∈ Branch.forestIds forest, ¬tree.contains id = true
  stored : ∀ id, grown.contains id = true → tree.contains id = true ∨ id ∈ Branch.forestIds forest

namespace Planted

theorem nothing (tree : SchemaTree) (parent : Option FieldId) : tree.Planted tree parent [] [] where
  node := fun id node found => by simpa using found
  roots := by simp
  shown := .nil
  fresh := by simp [Branch.forestIds]
  stored := fun id stored => .inl stored

theorem contains (planted : tree.Planted grown parent ids forest) {id : FieldId}
    (stored : tree.contains id = true) : grown.contains id = true := by
  obtain ⟨node, found⟩ := exists_node_of_contains stored
  exact contains_of_node (planted.node id node found)

/-- Fields that admit no new ones under them stay as they are. -/
theorem node_of_ne (planted : tree.Planted grown parent ids forest) {id : FieldId} {node : Node}
    (found : tree.node? id = some node) (other : parent ≠ some id) : grown.node? id = some node := by
  have kept := planted.node id node found
  rwa [if_neg other, List.append_nil] at kept

theorem admits (planted : tree.Planted grown parent ids forest) {place : Option FieldId}
    (admits : tree.Admits place) : grown.Admits place := by
  intro above same
  obtain ⟨node, found, holds⟩ := admits above same
  exact ⟨_, planted.node above node found, holds⟩

theorem append {others : List FieldId} {more : Forest} (planted : tree.Planted middle parent ids forest)
    (again : middle.Planted grown parent others more) (wellFormed : middle.WellFormed) (admits : tree.Admits parent) :
    tree.Planted grown parent (ids ++ others) (forest ++ more) where
  node := by
    intro id node found
    rw [again.node id _ (planted.node id node found)]
    by_cases here : parent = some id <;> simp [here]
  roots := by
    rw [again.roots, planted.roots]
    by_cases top : parent = none <;> simp [top]
  shown := by
    refine Shows.append (planted.shown.transfer wellFormed.keyed fun id member => keeps_of_node ?_) again.shown
    refine fun node found => again.node_of_ne found fun same => planted.fresh id member ?_
    obtain ⟨holder, stored, _⟩ := admits id same
    exact contains_of_node stored
  fresh := by
    intro id member stored
    rcases List.mem_append.mp (Branch.forestIds_append _ _ ▸ member) with first | second
    · exact planted.fresh id first stored
    · exact again.fresh id second (planted.contains stored)
  stored := by
    intro id stored
    rw [Branch.forestIds_append, List.mem_append]
    rcases again.stored id stored with old | new
    · exact (planted.stored id old).imp_right .inl
    · exact .inr (.inr new)

theorem under {id : FieldId} {attributes : Attributes} (entered : tree.Entered middle id parent attributes)
    (inside : middle.Planted grown (some id) ids forest) :
    tree.Planted grown parent [id] [.mk (attributes.withId id) forest] where
  node := by
    intro sought node found
    have other : sought ≠ id := fun same => entered.fresh (same ▸ contains_of_node found)
    have before : middle.node? sought =
        some { node with children := node.children ++ if parent = some sought then [id] else [] } := by
      rw [entered.node, if_neg other, found, Option.map_some]
    exact inside.node_of_ne before fun same => other (Option.some.inj same).symm
  roots := by
    rw [inside.roots, entered.roots]
    simp
  shown := by
    have own : middle.node? id = some ⟨attributes.withId id, parent, []⟩ := by rw [entered.node, if_pos rfl]
    have now := inside.node id _ own
    rw [if_pos rfl, List.nil_append] at now
    exact .cons now inside.shown .nil
  fresh := by
    intro sought member stored
    simp only [Branch.forestIds, Branch.ids, List.append_nil, List.mem_cons] at member
    rcases member with rfl | below
    · exact entered.fresh stored
    · exact inside.fresh sought below ((entered.contains_iff sought).mpr (.inr stored))
  stored := by
    intro sought stored
    simp only [Branch.forestIds, Branch.ids, List.append_nil, List.mem_cons]
    rcases inside.stored sought stored with old | new
    · rcases (entered.contains_iff sought).mp old with same | older
      · exact .inr (.inl same)
      · exact .inl older
    · exact .inr (.inr new)

end Planted

end SchemaTree

namespace Sketch

mutual
theorem exists_plant {tree : SchemaTree} {parent : Option FieldId} (wellFormed : tree.WellFormed)
    (numbered : tree.Numbered) (admits : tree.Admits parent) : (sketch : Sketch) → sketch.Sound →
    ∀ path : String, ∃ id grown branch, sketch.plant tree parent path = .ok (id, grown) ∧
      tree.Planted grown parent [id] [branch] ∧ branch.sketch = sketch
  | mk attributes below, sound, path => by
    obtain ⟨id, middle, inserted⟩ := exists_insert admits attributes
    obtain ⟨tidy, counted⟩ := insert_wellFormed wellFormed numbered inserted
    obtain ⟨entered, _⟩ := entered_of_insert numbered.not_contains_next inserted
    have opens : below ≠ [] → middle.Admits (some id) := by
      rintro some_below above same
      cases same
      exact ⟨_, by rw [entered.node, if_pos rfl], sound.here some_below⟩
    obtain ⟨ids, grown, forest, done, planted, same⟩ :=
      exists_plantAll tidy counted below opens sound.below path
    refine ⟨id, grown, .mk (attributes.withId id) forest, ?_, .under entered planted, ?_⟩
    · rw [plant, inserted]
      simp only [done]
      rfl
    · rw [Branch.sketch, same]
      rfl

theorem exists_plantAll {tree : SchemaTree} {parent : Option FieldId} (wellFormed : tree.WellFormed)
    (numbered : tree.Numbered) : (sketches : List Sketch) → (sketches ≠ [] → tree.Admits parent) →
    (∀ sketch ∈ sketches, sketch.Sound) → ∀ path : String, ∃ ids grown forest,
      plantAll tree parent path sketches = .ok grown ∧ tree.Planted grown parent ids forest ∧
        Branch.sketches forest = sketches
  | [], _, _, _ => ⟨[], tree, [], rfl, .nothing tree parent, rfl⟩
  | sketch :: rest, opens, sound, path => by
    rw [List.forall_mem_cons] at sound
    have admits := opens (by simp)
    obtain ⟨id, middle, branch, first, planted, same⟩ :=
      exists_plant wellFormed numbered admits sketch sound.1 (Path.join path sketch.attributes.name)
    obtain ⟨tidy, counted⟩ := plant_keeps (wellFormed_keptByInsert fun _ => True) sketch
      (every_of_forall (fun _ => trivial) sketch) ⟨wellFormed, numbered⟩ first
    obtain ⟨ids, grown, forest, later, more, others⟩ :=
      exists_plantAll tidy counted rest (fun _ => planted.admits admits) sound.2 path
    refine ⟨id :: ids, grown, branch :: forest, ?_, planted.append more tidy admits, ?_⟩
    · rw [plantAll, first]
      exact later
    · rw [Branch.sketches, same, others]
end

theorem planted_of_plant {tree grown : SchemaTree} {parent : Option FieldId} (wellFormed : tree.WellFormed)
    (numbered : tree.Numbered) (admits : tree.Admits parent) {sketch : Sketch} (sound : sketch.Sound) {path : String}
    {id : FieldId} (done : sketch.plant tree parent path = .ok (id, grown)) : grown.WellFormed ∧ grown.Numbered ∧
      ∃ branch, tree.Planted grown parent [id] [branch] ∧ branch.sketch = sketch := by
  obtain ⟨tidy, counted⟩ := plant_keeps (wellFormed_keptByInsert fun _ => True) sketch
    (every_of_forall (fun _ => trivial) sketch) ⟨wellFormed, numbered⟩ done
  obtain ⟨_, _, branch, again, planted, same⟩ := exists_plant wellFormed numbered admits sketch sound path
  cases done.symm.trans again
  exact ⟨tidy, counted, branch, planted, same⟩

end Sketch

end ConfigSchema
