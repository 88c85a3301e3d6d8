import ConfigSchema.Proofs.Flat.Skips
import ConfigSchema.Proofs.Tree.Finding

/-! The tree that the keys of a flat map describe. Where no entry lists properties of its own, every field stands at a
path. Main statement: the paths of the tree are the keys that are not passed over and what these begin with, a key
carries what its entry says, any other path an empty object, and keys that are passed over might as well not be
there. -/

namespace ConfigSchema

open SchemaTree

namespace Entry

def fieldDescription (entry : Entry) (name : String) : String :=
  if Text.isBlankText entry.description then
    match entry.schema.get? "description" with
    | some (.string text) => if Text.isBlankText text then describe name else text
    | _ => describe name
  else entry.description

def fieldDefault (entry : Entry) (kind : Kind) : Json :=
  let chosen := if entry.defaultValue.isNull then entry.schema.get? "default" else some entry.defaultValue
  if chosen = none ∨ chosen = some .null ∨ chosen = some (.string "") then kind.defaultValue else chosen.getD .null

def fieldAttributes (entry : Entry) (name : String) (kind : Kind) : Attributes where
  name := name
  kind := kind
  description := entry.fieldDescription name
  required := false
  defaultValue := some (entry.fieldDefault kind)

theorem fieldDescription_eq (entry : Entry) (name : String) :
    descriptionOr ((((some entry.description).filter fun text => !Text.isBlankText text).or
      ((entry.schema.get? "description").bind Json.asString?)).getD "") name = entry.fieldDescription name := by
  have empty : Text.isBlankText "" = true := by decide
  cases blank : Text.isBlankText entry.description with
  | false => simp [fieldDescription, descriptionOr, Option.filter, blank]
  | true =>
    rcases said : entry.schema.get? "description" with _ | ⟨_ | _ | _ | _ | _ | _⟩ <;>
      simp [fieldDescription, descriptionOr, Option.filter, blank, said, Json.asString?, empty]

theorem fieldDefault_eq (entry : Entry) (kind : Kind) :
    defaultOr (((some entry.defaultValue).filter fun value => !value.isNull).or (entry.schema.get? "default")) kind =
      entry.fieldDefault kind := by
  have blank : ∀ value, isBlankValue value = true ↔
      value = none ∨ value = some .null ∨ value = some (.string "") := by
    intro value
    rcases value with _ | ⟨_ | _ | _ | _ | _ | _⟩ <;> simp [isBlankValue]
  simp only [fieldDefault, defaultOr, blank]
  cases null : entry.defaultValue.isNull <;> simp [Option.filter, null]

theorem attributes_of_read {entry : Entry} {path : String} {sketch : Sketch} (read : entry.read path = .ok sketch) :
    sketch.attributes = entry.fieldAttributes (Path.lastSegment path) sketch.kind := by
  obtain ⟨kind, _, later⟩ := Except.bind_eq_ok_iff.mp read
  obtain ⟨below, _, same⟩ := Except.bind_eq_ok_iff.mp later
  cases same
  rw [Sketch.attributes_mk, Sketch.kind_mk, Sketch.attributesOf]
  simp only [if_true, fieldDescription_eq, fieldDefault_eq]
  rfl

theorem apart_of_plain {entry : Entry} (plain : entry.schema.listed = []) (path : String) : entry.Apart path := by
  intro sketch read
  have names := Sketch.names_of_reads (Sketch.reads_children read)
  rw [plain] at names
  obtain ⟨attributes, children⟩ := sketch
  obtain rfl : children = [] := List.map_eq_nil_iff.mp names
  exact ⟨List.nodup_nil, trivial⟩

end Entry

namespace Planting

variable {planting : Planting} {entries : List (String × Entry)} {path : String} {id : FieldId}

theorem Rooted.of_mem_iff {others : List (String × Entry)} (same : ∀ entry, entry ∈ entries ↔ entry ∈ others)
    (rooted : Rooted planting entries) : Rooted planting others where
  wellFormed := rooted.wellFormed
  numbered := rooted.numbered
  spelt := rooted.spelt
  above := rooted.above
  below := by simpa only [same] using rooted.below
  apart := by simpa only [same] using rooted.apart
  known := by simpa only [same] using rooted.known
  listed := by simpa only [same] using rooted.listed

theorem Covers.of_mem_iff {others : List (String × Entry)} (same : ∀ entry, entry ∈ entries ↔ entry ∈ others)
    {walked : List String} (covers : Covers planting entries walked) : Covers planting others walked where
  enters := by simpa only [enters_iff_of_mem same] using covers.enters
  kept := by simpa only [same] using covers.kept
  reached := by simpa only [same, enters_iff_of_mem same] using covers.reached

/-- The paths at which fields stand are the paths of entries that are not passed over and what these begin with. -/
theorem Covers.placed_iff (covers : Covers planting entries []) : (∃ id, planting.at? path = some id) ↔
    ∃ entry ∈ entries, Enters entries entry.1 ∧ Path.segments path <+: Path.segments entry.1 := by
  constructor
  · rintro ⟨id, here⟩
    obtain ⟨entry, member, filled, start⟩ :=
      (covers.kept path id here).resolve_right fun empty => Path.segments_ne_nil path (List.prefix_nil.mp empty)
    by_cases enters : Enters entries entry.1
    · exact ⟨entry, member, enters, start⟩
    · -- The field was made on the way to an entry that was passed over, so it stands no lower than where that stops.
      obtain ⟨stop, listed, begins, _, leaf, free⟩ := exists_stop filled enters
      refine ⟨stop, listed, free, ?_⟩
      rcases List.prefix_or_prefix_of_prefix start begins with before | behind
      · exact before
      · by_cases same : stop.1 = path
        · exact same ▸ List.prefix_rfl
        · exact absurd ((covers.enters path id here).2 stop listed behind same) leaf
  · rintro ⟨entry, member, enters, start⟩
    exact covers.reached entry member enters.1 path start (enters.of_prefix start)

section

variable (rooted : Rooted planting entries) (plain : ∀ entry ∈ entries, entry.2.schema.listed = [])

include rooted plain

theorem Rooted.placed {names : List String} (spelt : planting.tree.Spells id names) : planting.Placed id := by
  induction spelt with
  | root found top =>
    by_contra aside
    obtain ⟨holder, under, _⟩ := rooted.below _ _ aside found
    rw [top] at under
    cases under
  | child found under _ ih =>
    by_contra aside
    obtain ⟨holder, above, known⟩ := rooted.below _ _ aside found
    cases under.symm.trans above
    obtain ⟨path, entry, _, member, named⟩ := known ih
    rw [plain _ member] at named
    cases named

theorem Rooted.path?_eq_some_iff : planting.tree.path? id = some path ↔ planting.at? path = some id := by
  rw [SchemaTree.path?_eq_some_iff rooted.wellFormed]
  constructor
  · rintro ⟨names, spelt, rfl⟩
    obtain ⟨other, here⟩ := rooted.placed plain spelt
    rwa [spelt.unique (rooted.spelt other id here), Path.dotted_segments]
  · exact fun here => ⟨_, rooted.spelt path id here, (Path.dotted_segments path).symm⟩

theorem Rooted.namesDiffer (covers : Covers planting entries []) : planting.tree.NamesDiffer := by
  have grafted : Grafted planting entries :=
    ⟨rooted, fun entry member => Entry.apart_of_plain (plain entry member) entry.1⟩
  refine (grafted.namesDiffer_iff covers).mpr ?_
  rintro ⟨entry, member, _, _, _, _, name, named, _⟩
  rw [plain entry member] at named
  cases named

end

end Planting

namespace SchemaTree

variable {map : FlatMap} {tree : SchemaTree}

theorem exists_planting (done : ofFlat map = .ok tree) : ∃ planting, planting.tree = tree ∧
    Planting.Rooted planting map.entries ∧ Planting.Covers planting map.entries [] := by
  obtain ⟨planting, entered, same⟩ := Except.map_eq_ok_iff.mp done
  obtain ⟨rooted, covers⟩ :=
    Planting.enterAll_rooted Planting.rooted_empty Planting.covers_empty nofun map.sorted entered
  have all : ∀ entry, entry ∈ map.entries.reverse ++ [] ↔ entry ∈ map.entries := by simp
  exact ⟨planting, same, rooted.of_mem_iff all, covers.of_mem_iff all⟩

/-- What is known of the field at a path: with an entry for the path what the entry says, and without one that it is an
empty object. -/
structure Stands (map : FlatMap) (tree : SchemaTree) (path : String) (id : FieldId) (field : Field) : Prop where
  stored : tree.get? id = some field
  found : tree.findPath path = some id
  entry : ∀ entry, map.get? path = some entry → ∃ kind, Kind.ofNode entry.schema path = .ok kind ∧
    field.attributes = entry.fieldAttributes (Path.lastSegment path) kind
  object : map.get? path = none → field.attributes =
    { name := Path.lastSegment path, kind := .object, description := describe (Path.lastSegment path)
      required := false, defaultValue := some (.object []) }

theorem exists_stands {planting : Planting} (rooted : planting.Rooted map.entries)
    (differ : planting.tree.NamesDiffer) {path : String} {id : FieldId} (here : planting.at? path = some id) :
    ∃ field, Stands map planting.tree path id field := by
  have spelt := rooted.spelt path id here
  obtain ⟨node, found⟩ := spelt.exists_node
  obtain ⟨known, free⟩ := rooted.known path id node here found
  refine ⟨node.field, get?_of_node found, spelt.findBelow_eq rooted.wellFormed differ, fun entry stored => ?_, ?_⟩
  · obtain ⟨sketch, read, same⟩ := known entry ((SortedMap.get?_eq_some_iff map).mp stored)
    exact ⟨sketch.kind, Sketch.kind_of_read read, same.symm.trans (Entry.attributes_of_read read)⟩
  · intro missing
    refine free fun entry member => ?_
    rw [← SortedMap.get?_eq_some_iff, missing] at member
    cases member

/-- If no entry lists properties, the fields of the tree stand one to one for the keys that are not passed over and for
what these begin with; each has what its entry says, or is an empty object if there is none; and the tree is that of the
map without the keys that are passed over. -/
theorem ofFlat_exact (plain : ∀ entry ∈ map.entries, entry.2.schema.listed = []) (done : ofFlat map = .ok tree) :
    (∀ path, (∃ id, tree.path? id = some path) ↔
      ∃ key ∈ map.keys, Enters map.entries key ∧ Path.segments path <+: Path.segments key) ∧
    (∀ id, tree.contains id = true → ∃ path, tree.path? id = some path) ∧
    (∀ first second path, tree.path? first = some path → tree.path? second = some path → first = second) ∧
    (∀ path id, tree.path? id = some path → ∃ field, Stands map tree path id field) ∧
    ofFlat (kept map) = .ok tree := by
  obtain ⟨planting, rfl, rooted, covers⟩ := exists_planting done
  have known : ∀ {id path}, planting.tree.path? id = some path ↔ planting.at? path = some id :=
    rooted.path?_eq_some_iff plain
  refine ⟨fun path => ?_, fun id stored => ?_, fun first second path one other => ?_, fun path id here => ?_, ?_⟩
  · simp only [known, covers.placed_iff, SortedMap.keys, Keyed.keys, List.mem_map, exists_exists_and_eq_and]
  · obtain ⟨names, spelt⟩ := exists_spells rooted.wellFormed stored
    exact ⟨_, (SchemaTree.path?_eq_some_iff rooted.wellFormed).mpr ⟨names, spelt, rfl⟩⟩
  · exact Option.some.inj ((known.mp one).symm.trans (known.mp other))
  · exact exists_stands rooted (rooted.namesDiffer plain covers) (known.mp here)
  · rw [ofFlat_kept, done]

def unevenMap : FlatMap := .ofList [
  ("net", ⟨" ", .null, .object [("type", .string "object")]⟩),
  ("net-on", ⟨"On", .bool true, .object [("type", .string "boolean")]⟩),
  ("net-on.by.whom", ⟨"Whom", .null, .object [("type", .string "string")]⟩),
  ("net.limits.max", ⟨"", .null, .object [("type", .string "string"), ("description", .string "Most")]⟩),
  ("net..min", ⟨"Least", .null, .object [("type", .string "string")]⟩)]

def unevenTree : SchemaTree := (ofFlat unevenMap).toOption.getD .empty

theorem ofFlat_exact_of_unevenMap : (∀ entry ∈ unevenMap.entries, entry.2.schema.listed = []) ∧
    ofFlat unevenMap = .ok unevenTree ∧ unevenTree.size = 4 ∧
    (∃ id, unevenTree.path? id = some "net.limits") ∧ (¬∃ id, unevenTree.path? id = some "net-on.by") ∧
    ∃ field, Stands unevenMap unevenTree "net.limits.max" (.ofSerial 3) field ∧ field.description = "Most" := by
  have plain : ∀ entry ∈ unevenMap.entries, entry.2.schema.listed = [] := by decide +kernel
  have done : ofFlat unevenMap = .ok unevenTree := by decide +kernel
  obtain ⟨paths, _, _, stands, _⟩ := ofFlat_exact plain done
  obtain ⟨field, here⟩ := stands "net.limits.max" (.ofSerial 3) (by decide +kernel)
  refine ⟨plain, done, by decide +kernel, (paths _).mpr (by decide +kernel), (paths _).not.mpr (by decide +kernel),
    field, here, ?_⟩
  have stored : (unevenTree.get? (.ofSerial 3)).map (fun field => field.description) = some "Most" := by decide +kernel
  rw [here.stored] at stored
  exact Option.some.inj stored

end SchemaTree

end ConfigSchema
