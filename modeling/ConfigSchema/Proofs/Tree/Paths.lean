import ConfigSchema.Proofs.Dotted
import ConfigSchema.Proofs.Entries
import ConfigSchema.Proofs.Tree.Ancestors

/-! Paths of fields. The names from the top down to a field are found by going upward, and in a well-formed tree
every field has them. -/

namespace ConfigSchema.SchemaTree

variable {tree : SchemaTree}

/-- These names lead from the top down to the field, its own as the last. -/
inductive Spells (tree : SchemaTree) : FieldId → List String → Prop
  | root {id : FieldId} {node : Node} (found : tree.node? id = some node) (top : node.parent = none) :
      Spells tree id [node.field.name]
  | child {id above : FieldId} {node : Node} {names : List String} (found : tree.node? id = some node)
      (under : node.parent = some above) (higher : Spells tree above names) :
      Spells tree id (names ++ [node.field.name])

namespace Spells

variable {id : FieldId} {names others : List String}

theorem ne_nil (spelt : tree.Spells id names) : names ≠ [] := by
  cases spelt <;> simp

theorem exists_node (spelt : tree.Spells id names) : ∃ node, tree.node? id = some node := by
  cases spelt with
  | root found _ => exact ⟨_, found⟩
  | child found _ _ => exact ⟨_, found⟩

theorem exists_last {node : Node} (spelt : tree.Spells id names) (found : tree.node? id = some node) :
    ∃ above, names = above ++ [node.field.name] := by
  cases spelt with
  | root sought _ =>
    cases found.symm.trans sought
    exact ⟨[], rfl⟩
  | child sought _ _ =>
    cases found.symm.trans sought
    exact ⟨_, rfl⟩

/-- A field that is spelt with several names lies under the one that is spelt with all but the last. -/
theorem exists_above {name : String} (spelt : tree.Spells id (names ++ [name])) (some_name : names ≠ []) :
    ∃ node holder, tree.node? id = some node ∧ node.parent = some holder ∧ node.field.name = name ∧
      tree.Spells holder names := by
  generalize whole : names ++ [name] = all at spelt
  cases spelt with
  | @root _ node _ _ =>
    have short : names = [] := (List.append_inj' (whole.trans (List.nil_append [node.field.name]).symm) rfl).1
    exact absurd short some_name
  | child found under higher =>
    obtain ⟨rfl, same⟩ := List.append_inj' whole rfl
    exact ⟨_, _, found, under, (List.singleton_inj.mp same).symm, higher⟩

theorem beside {other : FieldId} {node twin : Node} (spelt : tree.Spells id names) (found : tree.node? id = some node)
    (sought : tree.node? other = some twin) (siblings : node.parent = twin.parent)
    (same : node.field.name = twin.field.name) : tree.Spells other names := by
  cases spelt with
  | root here top =>
    cases found.symm.trans here
    exact same ▸ .root sought (siblings.symm.trans top)
  | child here under higher =>
    cases found.symm.trans here
    exact same ▸ .child sought (siblings.symm.trans under) higher

theorem unique (spelt : tree.Spells id names) (other : tree.Spells id others) : names = others := by
  induction spelt generalizing others with
  | root found top =>
    cases other with
    | root sought _ =>
      cases found.symm.trans sought
      rfl
    | child sought under _ =>
      cases found.symm.trans sought
      simp [top] at under
  | child found under _ ih =>
    cases other with
    | root sought top =>
      cases found.symm.trans sought
      simp [under] at top
    | child sought above higher =>
      cases found.symm.trans sought
      cases under.symm.trans above
      rw [ih higher]

theorem forall_names {fits : String → Prop} (fit : ∀ id node, tree.node? id = some node → fits node.field.name)
    (spelt : tree.Spells id names) : ∀ name ∈ names, fits name := by
  induction spelt with
  | root found _ => exact List.forall_mem_singleton.mpr (fit _ _ found)
  | child found _ _ ih => exact List.forall_mem_append.mpr ⟨ih, List.forall_mem_singleton.mpr (fit _ _ found)⟩

theorem exists_further {below : FieldId} (spelt : tree.Spells id names) (way : Relation.TransGen tree.Rises below id)
    (longer : tree.Spells below others) : ∃ more, more ≠ [] ∧ others = names ++ more := by
  induction way using Relation.TransGen.head_induction_on generalizing others with
  | single rises =>
    cases longer with
    | root found top =>
      rw [rises_iff_of_node found, top] at rises
      cases rises
    | child found under higher =>
      rw [rises_iff_of_node found, under] at rises
      cases rises
      exact ⟨_, List.cons_ne_nil _ _, by rw [higher.unique spelt]⟩
  | head rises _ ih =>
    cases longer with
    | root found top =>
      rw [rises_iff_of_node found, top] at rises
      cases rises
    | child found under higher =>
      rw [rises_iff_of_node found, under] at rises
      cases rises
      obtain ⟨more, _, rfl⟩ := ih higher
      exact ⟨_, List.append_ne_nil_of_right_ne_nil _ (List.cons_ne_nil _ _), List.append_assoc ..⟩

theorem mapM_name? (wellFormed : tree.WellFormed) (spelt : tree.Spells id names) :
    (id :: tree.ancestors id).mapM tree.name? = some names.reverse := by
  induction spelt with
  | @root id node found top =>
    have root : tree.parent? id = none := (parent?_of_node found).trans top
    simp [ancestors_of_root root, name?_of_node found]
  | @child id above node names found under _ ih =>
    have rises : tree.Rises id above := (rises_iff_of_node found).mpr under
    rw [ancestors_of_rises wellFormed rises, List.mapM_cons, ih, name?_of_node found]
    simp

end Spells

theorem exists_spells (wellFormed : tree.WellFormed) {id : FieldId} (stored : tree.contains id = true) :
    ∃ names, tree.Spells id names := by
  obtain ⟨height, falls⟩ := wellFormed.grounded
  induction high : height id using Nat.strongRecOn generalizing id with
  | _ bound ih =>
    obtain ⟨node, found⟩ := exists_node_of_contains stored
    cases parent : node.parent with
    | none => exact ⟨_, .root found parent⟩
    | some above =>
      have rises : tree.Rises id above := (rises_iff_of_node found).mpr parent
      obtain ⟨names, spelt⟩ :=
        ih (height above) (high ▸ falls id above rises) (wellFormed.contains_above rises) rfl
      exact ⟨_, .child found parent spelt⟩

theorem path?_eq_some_iff (wellFormed : tree.WellFormed) {id : FieldId} {path : String} :
    tree.path? id = some path ↔ ∃ names, tree.Spells id names ∧ path = Path.dotted names := by
  have spelt_path : ∀ {names}, tree.Spells id names → tree.path? id = some (Path.dotted names) := by
    intro names spelt
    rw [path?, spelt.mapM_name? wellFormed]
    simp
  constructor
  · intro found
    cases stored : tree.contains id with
    | false =>
      simp [path?, name?, get?, node?_of_missing stored] at found
    | true =>
      obtain ⟨names, spelt⟩ := exists_spells wellFormed stored
      rw [spelt_path spelt, Option.some.injEq] at found
      exact ⟨names, spelt, found.symm⟩
  · rintro ⟨names, spelt, rfl⟩
    exact spelt_path spelt

theorem exists_path (wellFormed : tree.WellFormed) {id : FieldId} (stored : tree.contains id = true) :
    ∃ path, tree.path? id = some path := by
  obtain ⟨names, spelt⟩ := exists_spells wellFormed stored
  exact ⟨_, (path?_eq_some_iff wellFormed).mpr ⟨names, spelt, rfl⟩⟩

theorem contains_of_path? (wellFormed : tree.WellFormed) {id : FieldId} {path : String}
    (known : tree.path? id = some path) : tree.contains id = true := by
  obtain ⟨names, spelt, _⟩ := (path?_eq_some_iff wellFormed).mp known
  obtain ⟨node, found⟩ := spelt.exists_node
  exact contains_of_node found

theorem path_ne_of_below (wellFormed : tree.WellFormed) {id below : FieldId}
    (way : Relation.TransGen tree.Rises below id) {path lower : String} (known : tree.path? id = some path)
    (longer : tree.path? below = some lower) : lower ≠ path := by
  rw [path?_eq_some_iff wellFormed] at known longer
  obtain ⟨names, spelt, rfl⟩ := known
  obtain ⟨others, spells, rfl⟩ := longer
  obtain ⟨more, some_more, rfl⟩ := spelt.exists_further way spells
  exact Path.dotted_append_ne spelt.ne_nil some_more

def Leads (tree : SchemaTree) (names : List String) : Option FieldId → Prop
  | none => names = []
  | some id => tree.Spells id names

theorem Leads.spells (wellFormed : tree.WellFormed) {place : Option FieldId} {names : List String}
    (led : tree.Leads names place) {siblings : List FieldId} (list : tree.siblings? place = some siblings)
    {id : FieldId} (member : id ∈ siblings) {name : String} (named : tree.name? id = some name) :
    tree.Spells id (names ++ [name]) := by
  obtain ⟨node, found, above⟩ := wellFormed.listed place siblings list id member
  obtain rfl := Option.some.inj ((name?_of_node found).symm.trans named)
  cases place with
  | none =>
    obtain rfl : names = [] := led
    exact .root found above
  | some holder => exact .child found above led

def HasKind (tree : SchemaTree) (path : String) (kind : Kind) : Prop :=
  ∃ id field, tree.get? id = some field ∧ tree.path? id = some path ∧ field.kind = kind

theorem forall_fields_of_nodes {fits : Field → Prop} (fit : ∀ entry ∈ tree.nodes, fits entry.2.field) (id : FieldId)
    (field : Field) (stored : tree.get? id = some field) : fits field := by
  obtain ⟨node, found, rfl⟩ := Option.map_eq_some_iff.mp stored
  exact fit _ (Keyed.mem_of_find? found)

def Dotless (tree : SchemaTree) : Prop := ∀ id field, tree.get? id = some field → Path.hasDot field.name = false

theorem dotless_iff : tree.Dotless ↔ ∀ id node, tree.node? id = some node → Path.hasDot node.field.name = false := by
  constructor
  · exact fun dotless id node found => dotless id node.field (get?_of_node found)
  · intro dotless id field stored
    obtain ⟨node, found, rfl⟩ := Option.map_eq_some_iff.mp stored
    exact dotless id node found

/-- Where no name has a dot, the segments of a path are the names that lead to its field. -/
theorem Dotless.spells_segments (dotless : tree.Dotless) (wellFormed : tree.WellFormed) {id : FieldId} {path : String}
    (named : tree.path? id = some path) : tree.Spells id (Path.segments path) := by
  obtain ⟨names, spelt, rfl⟩ := (path?_eq_some_iff wellFormed).mp named
  rwa [Path.segments_dotted spelt.ne_nil (spelt.forall_names (dotless_iff.mp dotless))]

end ConfigSchema.SchemaTree
