import ConfigSchema.Proofs.Flat.Plantings

/-! Places of a planting. A field of a tree that grows from a flat map either stands at the path of an entry or of a
segment, or it was read from the schema of an entry. Main statement: one more field at a new path leaves it so. -/

namespace ConfigSchema

namespace SchemaTree

variable {tree : SchemaTree} {ids : List FieldId} {forest : Forest} {id : FieldId}

/-- Siblings have different names exactly if one holder and one name make one field. -/
theorem WellFormed.namesDiffer_iff (wellFormed : tree.WellFormed) : tree.NamesDiffer ↔
    ∀ first second node other, tree.node? first = some node → tree.node? second = some other →
      node.parent = other.parent → node.field.name = other.field.name → first = second := by
  constructor
  · intro differ first second node other found sought beside same
    obtain ⟨siblings, list, here⟩ := wellFormed.placed first node found
    obtain ⟨others, again, there⟩ := wellFormed.placed second other sought
    rw [← beside, list, Option.some.injEq] at again
    refine List.inj_on_of_nodup_map (differ node.parent siblings list) here (again ▸ there) ?_
    rw [name?_of_node found, name?_of_node sought, same]
  · intro alone place siblings list
    refine (wellFormed.once place siblings list).map_on fun first here second there same => ?_
    obtain ⟨node, found, above⟩ := wellFormed.listed place siblings list first here
    obtain ⟨other, sought, beside⟩ := wellFormed.listed place siblings list second there
    rw [name?_of_node found, name?_of_node sought, Option.some.injEq] at same
    exact alone first second node other found sought (above.trans beside.symm) same

namespace Shows

/-- A field inside a forest that is not at its top has its holder inside. -/
theorem exists_holder (wellFormed : tree.WellFormed) (shown : tree.Shows ids forest)
    (member : id ∈ Branch.forestIds forest) (inner : id ∉ ids) :
    ∃ holder ∈ Branch.forestIds forest, tree.Rises id holder := by
  obtain ⟨top, listed, way⟩ := (shown.mem_forestIds_iff wellFormed).mp member
  rcases Relation.ReflTransGen.cases_head way with rfl | ⟨holder, rises, further⟩
  · exact absurd listed inner
  · exact ⟨holder, (shown.mem_forestIds_iff wellFormed).mpr ⟨top, listed, further⟩, rises⟩

theorem nodup_names_below (keyed : ∀ id node, tree.node? id = some node → node.field.id = id)
    (shown : tree.Shows ids forest) (distinct : ∀ sketch ∈ Branch.sketches forest, sketch.Distinct)
    (member : id ∈ Branch.forestIds forest) {node : Node} (found : tree.node? id = some node) :
    (node.children.map tree.name?).Nodup := by
  induction shown with
  | nil => cases member
  | @cons head top rest below others stored inside _ insideIh besideIh =>
    rw [Branch.sketches, List.forall_mem_cons] at distinct
    rw [Branch.forestIds, Branch.ids, keyed head top stored, List.mem_append, List.mem_cons] at member
    rcases member with (rfl | under) | beside
    · cases found.symm.trans stored
      have names : ((Branch.sketches below).map Sketch.name).Nodup := distinct.1.here
      rw [inside.map_name?]
      have apart := names.map (Option.some_injective String)
      rwa [List.map_map] at apart
    · exact insideIh distinct.1.below under
    · exact besideIh distinct.2 beside

end Shows

theorem Planted.parent_of_new {grown : SchemaTree} {parent : Option FieldId} {branch : Branch}
    (planted : tree.Planted grown parent [id] [branch]) (wellFormed : grown.WellFormed) (admits : tree.Admits parent) :
    grown.parent? id = parent := by
  cases parent with
  | none =>
    apply wellFormed.parent_eq_of_mem (show grown.siblings? none = some grown.roots from rfl)
    rw [planted.roots]
    simp
  | some holder =>
    obtain ⟨before, stored, _⟩ := admits holder rfl
    refine wellFormed.parent_eq_of_mem (siblings?_of_node (planted.node holder before stored)) ?_
    simp

end SchemaTree

open SchemaTree

structure Sketch.Fits (sketch : Sketch) (path : String) (met : List (String × Entry)) : Prop where
  entry : ∀ entry, (path, entry) ∈ met → entry.read path = .ok sketch
  object : (∀ entry, (path, entry) ∉ met) → sketch = .mk (Planting.container (Path.lastSegment path)) []

def Entry.Apart (path : String) (entry : Entry) : Prop := ∀ sketch, entry.read path = .ok sketch → sketch.Distinct

namespace Sketch.Fits

variable {sketch : Sketch} {path : String} {met : List (String × Entry)} (fits : sketch.Fits path met)

include fits

theorem names {entry : Entry} (member : (path, entry) ∈ met) :
    sketch.children.map Sketch.name = Keyed.keys entry.schema.listed :=
  Sketch.names_of_reads (Sketch.reads_children (fits.entry entry member))

theorem exists_entry {name : String} (named : name ∈ sketch.children.map Sketch.name) :
    ∃ entry, (path, entry) ∈ met := by
  by_contra never
  rw [fits.object (not_exists.mp never)] at named
  cases named

theorem distinct (apart : ∀ entry ∈ met, entry.2.Apart entry.1) : sketch.Distinct := by
  by_cases brought : ∃ entry, (path, entry) ∈ met
  · obtain ⟨entry, member⟩ := brought
    exact apart _ member sketch (fits.entry entry member)
  · rw [fits.object (not_exists.mp brought)]
    exact ⟨List.nodup_nil, trivial⟩

end Sketch.Fits

namespace Planting

def at? (planting : Planting) (path : String) : Option FieldId := Keyed.find? path planting.places

def Placed (planting : Planting) (id : FieldId) : Prop := ∃ path, planting.at? path = some id

/-- The tree is made of fields at paths, spelt with the segments of these, and of what was read from the entries that
were met. A field that stands at no path is known by its holder and, if entries keep names apart, by its name; and if its
holder stands at a path, the entry there lists it. -/
structure Rooted (planting : Planting) (met : List (String × Entry)) : Prop where
  wellFormed : planting.tree.WellFormed
  numbered : planting.tree.Numbered
  spelt : ∀ path id, planting.at? path = some id → planting.tree.Spells id (Path.segments path)
  above : ∀ id node holder, planting.Placed id → planting.tree.node? id = some node → node.parent = some holder →
    planting.Placed holder
  below : ∀ id node, ¬planting.Placed id → planting.tree.node? id = some node → ∃ holder, node.parent = some holder ∧
    (planting.Placed holder → ∃ path entry, planting.at? path = some holder ∧ (path, entry) ∈ met ∧
      node.field.name ∈ Keyed.keys entry.schema.listed)
  apart : (∀ entry ∈ met, entry.2.Apart entry.1) → ∀ first second node other, ¬planting.Placed first →
    ¬planting.Placed second → planting.tree.node? first = some node → planting.tree.node? second = some other →
      node.parent = other.parent → node.field.name = other.field.name → first = second
  known : ∀ path id node, planting.at? path = some id → planting.tree.node? id = some node →
    (∀ entry, (path, entry) ∈ met →
      ∃ sketch, entry.read path = .ok sketch ∧ sketch.attributes = node.field.attributes) ∧
    ((∀ entry, (path, entry) ∉ met) → node.field.attributes = container (Path.lastSegment path))
  listed : ∀ path entry id, (path, entry) ∈ met → planting.at? path = some id →
    ∀ name ∈ Keyed.keys entry.schema.listed, ∃ child node, ¬planting.Placed child ∧
      planting.tree.node? child = some node ∧ node.parent = some id ∧ node.field.name = name

structure Grafted (planting : Planting) (met : List (String × Entry)) : Prop extends Rooted planting met where
  distinct : ∀ entry ∈ met, entry.2.Apart entry.1

theorem not_placed_empty (id : FieldId) : ¬Placed ⟨.empty, []⟩ id := by
  rintro ⟨path, here⟩
  cases here

theorem rooted_empty : Rooted ⟨.empty, []⟩ [] where
  wellFormed := wellFormed_emptyFrom 0
  numbered := numbered_emptyFrom 0
  spelt := fun path id here => absurd ⟨path, here⟩ (not_placed_empty id)
  above := fun id _ _ placed _ _ => absurd placed (not_placed_empty id)
  below := by
    intro id node _ found
    cases found
  apart := by
    intro _ first second node other _ _ found
    cases found
  known := fun path id _ here => absurd ⟨path, here⟩ (not_placed_empty id)
  listed := fun path _ id _ here => absurd ⟨path, here⟩ (not_placed_empty id)

theorem grafted_empty : Grafted ⟨.empty, []⟩ [] where
  toRooted := rooted_empty
  distinct := nofun

theorem ne_of_missing {planting : Planting} {path other : String} {id : FieldId} (missing : planting.at? path = none)
    (here : planting.at? other = some id) : other ≠ path := by
  rintro rfl
  rw [missing] at here
  cases here

namespace Rooted

variable {planting : Planting} {met : List (String × Entry)} {path : String}

theorem contains (rooted : Rooted planting met) {id : FieldId} (placed : planting.Placed id) :
    planting.tree.contains id = true := by
  obtain ⟨path, here⟩ := placed
  obtain ⟨node, found⟩ := (rooted.spelt path id here).exists_node
  exact contains_of_node found

theorem at?_of_spells (rooted : Rooted planting met) {id : FieldId} (placed : planting.Placed id)
    (spelt : planting.tree.Spells id (Path.segments path)) : planting.at? path = some id := by
  obtain ⟨other, here⟩ := placed
  rwa [Path.segments_inj.mp (spelt.unique (rooted.spelt other id here))]

/-- A field at a path has the kind that the entry with the path says, and without such an entry it holds fields. -/
theorem kind (rooted : Rooted planting met) {id : FieldId} {node : Node} (here : planting.at? path = some id)
    (found : planting.tree.node? id = some node) :
    (∀ entry, (path, entry) ∈ met → Kind.ofNode entry.schema "" = .ok node.field.kind) ∧
      ((∀ entry, (path, entry) ∉ met) → node.field.kind.holdsFields = true) := by
  obtain ⟨known, free⟩ := rooted.known path id node here found
  constructor
  · intro entry member
    obtain ⟨sketch, read, same⟩ := known entry member
    have kind : sketch.kind = node.field.kind := congrArg Attributes.kind same
    exact kind ▸ Kind.ofNode_path (Sketch.kind_of_read read) ""
  · intro never
    have kind : node.field.kind = .object := congrArg Attributes.kind (free never)
    rw [kind]
    rfl

theorem meet (rooted : Rooted planting met) (entry : Entry) (missing : planting.at? path = none) :
    Rooted planting ((path, entry) :: met) where
  wellFormed := rooted.wellFormed
  numbered := rooted.numbered
  spelt := rooted.spelt
  above := rooted.above
  below := by
    intro id node aside found
    obtain ⟨holder, under, known⟩ := rooted.below id node aside found
    refine ⟨holder, under, fun placed => ?_⟩
    obtain ⟨other, brought, here, member, named⟩ := known placed
    exact ⟨other, brought, here, List.mem_cons_of_mem _ member, named⟩
  apart := fun distinct => rooted.apart (List.forall_mem_cons.mp distinct).2
  known := by
    intro other id node here found
    have elsewhere := ne_of_missing missing here
    obtain ⟨known, free⟩ := rooted.known other id node here found
    refine ⟨fun brought member => known brought ?_, fun never => free fun brought member => ?_⟩
    · exact (List.mem_cons.mp member).resolve_left fun same => elsewhere (congrArg Prod.fst same)
    · exact never brought (List.mem_cons_of_mem _ member)
  listed := by
    intro other brought id member here
    have elsewhere := ne_of_missing missing here
    refine rooted.listed other brought id ?_ here
    exact (List.mem_cons.mp member).resolve_left fun same => elsewhere (congrArg Prod.fst same)

end Rooted

section

variable {planting : Planting} {met : List (String × Entry)} {path : String} {tree : SchemaTree}
  {parent : Option FieldId} {id : FieldId} {branch : Branch}

def grow (planting : Planting) (tree : SchemaTree) (path : String) (id : FieldId) : Planting :=
  ⟨tree, (path, id) :: planting.places⟩

theorem at?_grow (other : String) :
    (planting.grow tree path id).at? other = if path = other then some id else planting.at? other :=
  Keyed.find?_cons other path id planting.places

theorem placed_grow (missing : planting.at? path = none) (sought : FieldId) :
    (planting.grow tree path id).Placed sought ↔ sought = id ∨ planting.Placed sought := by
  constructor
  · rintro ⟨other, here⟩
    rw [at?_grow] at here
    split at here
    · exact .inl (Option.some.inj here).symm
    · exact .inr ⟨other, here⟩
  · rintro (rfl | ⟨other, here⟩)
    · exact ⟨path, by rw [at?_grow, if_pos rfl]⟩
    · exact ⟨other, by rw [at?_grow, if_neg (ne_of_missing missing here).symm, here]⟩

structure Grown (planting : Planting) (tree : SchemaTree) (parent : Option FieldId) (id : FieldId) (branch : Branch) :
    Prop where
  wellFormed : tree.WellFormed
  planted : planting.tree.Planted tree parent [id] [branch]
  admits : planting.tree.Admits parent

namespace Grown

variable (grown : Grown planting tree parent id branch)

include grown

theorem fresh : ¬planting.tree.contains id = true := by
  refine grown.planted.fresh id ?_
  rw [(grown.planted.shown.mem_forestIds_iff grown.wellFormed)]
  exact ⟨id, List.mem_singleton_self id, .refl⟩

theorem exists_top : ∃ node, tree.node? id = some node ∧ node.field = branch.field ∧ node.parent = parent ∧
    tree.Shows node.children branch.children := by
  have above := grown.planted.parent_of_new grown.wellFormed grown.admits
  cases grown.planted.shown with
  | cons found inside _ => exact ⟨_, found, rfl, (parent?_of_node found).symm.trans above, inside⟩

theorem cases {sought : FieldId} {node : Node} (found : tree.node? sought = some node) :
    (∃ before, planting.tree.node? sought = some before ∧ node.field = before.field ∧ node.parent = before.parent) ∨
      sought = id ∨ (¬planting.tree.contains sought = true ∧ sought ≠ id ∧ ∃ holder, node.parent = some holder ∧
        ¬planting.tree.contains holder = true ∧
          (holder = id → node.field.name ∈ branch.sketch.children.map Sketch.name)) := by
  rcases grown.planted.stored sought (contains_of_node found) with old | new
  · obtain ⟨before, stored⟩ := exists_node_of_contains old
    have now := grown.planted.node sought before stored
    rw [found, Option.some.injEq] at now
    exact .inl ⟨before, stored, by rw [now], by rw [now]⟩
  · refine .inr (or_iff_not_imp_left.mpr fun inner => ⟨grown.planted.fresh sought new, inner, ?_⟩)
    obtain ⟨holder, inside, rises⟩ :=
      grown.planted.shown.exists_holder grown.wellFormed new (by simpa using inner)
    refine ⟨holder, (rises_iff_of_node found).mp rises, grown.planted.fresh holder inside, ?_⟩
    rintro rfl
    obtain ⟨top, stored, _, _, shown⟩ := grown.exists_top
    have listed := (grown.wellFormed.mem_children_iff stored).mpr rises
    have named : some node.field.name ∈ top.children.map tree.name? :=
      List.mem_map.mpr ⟨sought, listed, name?_of_node found⟩
    rw [shown.map_name?, List.mem_map] at named
    obtain ⟨sketch, member, same⟩ := named
    rw [branch.children_sketch]
    exact List.mem_map.mpr ⟨sketch, member, Option.some.inj same⟩

theorem alone (distinct : branch.sketch.Distinct) {first second holder : FieldId} {node other : Node}
    (new : ¬planting.tree.contains holder = true) (found : tree.node? first = some node)
    (sought : tree.node? second = some other) (under : node.parent = some holder) (beside : other.parent = some holder)
    (same : node.field.name = other.field.name) : first = second := by
  have rises : tree.Rises first holder := (rises_iff_of_node found).mpr under
  have stored := grown.wellFormed.contains_above rises
  obtain ⟨top, here⟩ := exists_node_of_contains stored
  have inside := (grown.planted.stored holder stored).resolve_left new
  have nodup := grown.planted.shown.nodup_names_below grown.wellFormed.keyed (by simpa [Branch.sketches] using distinct)
    inside here
  refine List.inj_on_of_nodup_map nodup ((grown.wellFormed.mem_children_iff here).mpr rises)
    ((grown.wellFormed.mem_children_iff here).mpr ((rises_iff_of_node sought).mpr beside)) ?_
  rw [name?_of_node found, name?_of_node sought, same]

end Grown

namespace Rooted

variable (rooted : Rooted planting met) (grown : Grown planting tree parent id branch)

include rooted grown

theorem before_of_placed {sought : FieldId} {node : Node} (placed : planting.Placed sought)
    (found : tree.node? sought = some node) :
    ∃ before, planting.tree.node? sought = some before ∧ node.field = before.field ∧ node.parent = before.parent := by
  have stored := rooted.contains placed
  exact (grown.cases found).resolve_right fun new =>
    new.elim (fun top => grown.fresh (top ▸ stored)) fun inner => inner.1 stored

variable (missing : planting.at? path = none)

include missing

theorem above_grow (led : ∀ holder, parent = some holder → planting.Placed holder) {sought holder : FieldId}
    {node : Node} (placed : (planting.grow tree path id).Placed sought) (found : tree.node? sought = some node)
    (under : node.parent = some holder) : (planting.grow tree path id).Placed holder := by
  rw [placed_grow missing] at placed ⊢
  right
  rcases placed with rfl | old
  · obtain ⟨top, stored, _, above, _⟩ := grown.exists_top
    cases found.symm.trans stored
    exact led holder (above.symm.trans under)
  · obtain ⟨before, stored, _, same⟩ := rooted.before_of_placed grown old found
    exact rooted.above sought before holder old stored (same ▸ under)

variable (fits : branch.sketch.Fits path met)

include fits

theorem below_grow {sought : FieldId} {node : Node} (aside : ¬(planting.grow tree path id).Placed sought)
    (found : tree.node? sought = some node) : ∃ holder, node.parent = some holder ∧
      ((planting.grow tree path id).Placed holder → ∃ other entry,
        (planting.grow tree path id).at? other = some holder ∧ (other, entry) ∈ met ∧
          node.field.name ∈ Keyed.keys entry.schema.listed) := by
  rw [placed_grow missing, not_or] at aside
  obtain ⟨before, stored, field, same⟩ | top | ⟨_, _, holder, under, new, inside⟩ := grown.cases found
  · obtain ⟨holder, under, known⟩ := rooted.below sought before aside.2 stored
    refine ⟨holder, same.trans under, fun placed => ?_⟩
    rw [placed_grow missing] at placed
    have older : planting.Placed holder := by
      refine placed.resolve_left fun top => grown.fresh (top ▸ ?_)
      exact rooted.wellFormed.contains_above ((rises_iff_of_node stored).mpr under)
    obtain ⟨other, entry, here, member, named⟩ := known older
    refine ⟨other, entry, ?_, member, field ▸ named⟩
    rw [at?_grow, if_neg (ne_of_missing missing here).symm, here]
  · exact absurd top aside.1
  · refine ⟨holder, under, fun placed => ?_⟩
    rw [placed_grow missing] at placed
    have top : holder = id := placed.resolve_right fun old => new (rooted.contains old)
    have named := inside top
    obtain ⟨entry, member⟩ := fits.exists_entry named
    refine ⟨path, entry, by rw [at?_grow, if_pos rfl, top], member, ?_⟩
    rwa [← fits.names member]

theorem alone_grow (distinct : ∀ entry ∈ met, entry.2.Apart entry.1) {first second : FieldId} {node other : Node}
    (aside : ¬(planting.grow tree path id).Placed first)
    (apart : ¬(planting.grow tree path id).Placed second) (found : tree.node? first = some node)
    (sought : tree.node? second = some other) (beside : node.parent = other.parent)
    (same : node.field.name = other.field.name) : first = second := by
  rw [placed_grow missing, not_or] at aside apart
  obtain ⟨before, stored, field, under⟩ | top | ⟨_, _, holder, under, new, _⟩ := grown.cases found
  · obtain ⟨holder, known, _⟩ := rooted.below first before aside.2 stored
    have old := rooted.wellFormed.contains_above ((rises_iff_of_node stored).mpr known)
    obtain ⟨others, here, named, above⟩ | top | ⟨_, _, above, there, new, _⟩ := grown.cases sought
    · exact rooted.apart distinct first second before others aside.2 apart.2 stored here
        (under.symm.trans (beside.trans above)) (field ▸ named ▸ same)
    · exact absurd top apart.1
    · rw [under, known, there, Option.some.injEq] at beside
      exact absurd (beside ▸ old) new
  · exact absurd top aside.1
  · exact grown.alone (fits.distinct distinct) new found sought under (beside.symm.trans under) same

omit missing in
theorem known_grow {other : String} {sought : FieldId} {node : Node}
    (here : (planting.grow tree path id).at? other = some sought) (found : tree.node? sought = some node) :
    (∀ entry, (other, entry) ∈ met →
      ∃ sketch, entry.read other = .ok sketch ∧ sketch.attributes = node.field.attributes) ∧
    ((∀ entry, (other, entry) ∉ met) → node.field.attributes = container (Path.lastSegment other)) := by
  rw [at?_grow] at here
  split at here
  · rename_i same
    cases here
    cases same
    obtain ⟨top, stored, field, _⟩ := grown.exists_top
    cases found.symm.trans stored
    rw [field, ← branch.attributes_sketch]
    exact ⟨fun entry member => ⟨_, fits.entry entry member, rfl⟩, fun never => congrArg _ (fits.object never)⟩
  · obtain ⟨before, stored, field, _⟩ := rooted.before_of_placed grown ⟨other, here⟩ found
    rw [field]
    exact rooted.known other sought before here stored

theorem listed_grow {other : String} {entry : Entry} {sought : FieldId} (member : (other, entry) ∈ met)
    (here : (planting.grow tree path id).at? other = some sought) {name : String}
    (named : name ∈ Keyed.keys entry.schema.listed) : ∃ child node, ¬(planting.grow tree path id).Placed child ∧
      tree.node? child = some node ∧ node.parent = some sought ∧ node.field.name = name := by
  rw [at?_grow] at here
  split at here
  · rename_i same
    cases here
    cases same
    obtain ⟨top, stored, _, _, shown⟩ := grown.exists_top
    rw [← fits.names member, branch.children_sketch] at named
    obtain ⟨child, listed, called⟩ := shown.exists_named named
    have rises := (grown.wellFormed.mem_children_iff stored).mp listed
    obtain ⟨node, found, under⟩ := rises.exists_node
    rw [name?_of_node found, Option.some.injEq] at called
    refine ⟨child, node, ?_, found, under, called⟩
    rw [placed_grow missing, not_or]
    constructor
    · rintro rfl
      exact grown.wellFormed.not_above_self _ (.single rises)
    · refine fun old => grown.planted.fresh child ?_ (rooted.contains old)
      exact (grown.planted.shown.mem_forestIds_iff grown.wellFormed).mpr ⟨id, List.mem_singleton_self id, .single rises⟩
  · obtain ⟨child, node, aside, found, under, called⟩ := rooted.listed other entry sought member here name named
    refine ⟨child, _, ?_, grown.planted.node child node found, under, called⟩
    rw [placed_grow missing, not_or]
    exact ⟨fun top => grown.fresh (top ▸ contains_of_node found), aside⟩

/-- A field at a new path, with what was read with it, leaves the tree as described. -/
theorem grow (numbered : tree.Numbered) (led : ∀ holder, parent = some holder → planting.Placed holder)
    (own : tree.Spells id (Path.segments path)) : Rooted (planting.grow tree path id) met where
  wellFormed := grown.wellFormed
  numbered := numbered
  spelt := by
    intro other sought here
    rw [at?_grow] at here
    split at here
    · rename_i same
      cases here
      exact same ▸ own
    · exact grown.planted.spells (rooted.spelt other sought here)
  above := fun _ _ _ placed found under => rooted.above_grow grown missing led placed found under
  below := fun _ _ aside found => rooted.below_grow grown missing fits aside found
  apart := fun distinct _ _ _ _ aside apart found sought beside same =>
    rooted.alone_grow grown missing fits distinct aside apart found sought beside same
  known := fun _ _ _ here found => rooted.known_grow grown fits here found
  listed := fun _ _ _ member here _ named => rooted.listed_grow grown missing fits member here named

end Rooted

end

end Planting

end ConfigSchema
