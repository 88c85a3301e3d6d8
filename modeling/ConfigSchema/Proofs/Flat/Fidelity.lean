import ConfigSchema.Pattern.Reader
import ConfigSchema.Proofs.Flat.Exports
import ConfigSchema.Proofs.Flat.Plantings

/-! Loading and saving. A flat map none of whose entries hides another one keeps its keys when its tree is saved,
and what is saved for an entry says what the entry said. -/

namespace ConfigSchema

open Json

def Json.hasProperties (node : Json) : Bool :=
  match node.get? "properties" with
  | some (.object properties) => !properties.isEmpty
  | _ => false

/-- No key has an empty segment or leads on to another key, and no entry is for an object with properties. -/
structure FlatMap.Plain (map : FlatMap) : Prop where
  filled : ∀ key ∈ map.keys, "" ∉ Path.segments key
  apart : ∀ first ∈ map.keys, ∀ second ∈ map.keys, Path.segments first <+: Path.segments second → first = second
  leaves : ∀ entry ∈ map.entries, entry.2.schema.get? "type" = some (.string "object") →
    entry.2.schema.hasProperties = false

/-- The leaf and the entry that are saved for an entry say its kind, and the saved entry has its description and its
default value unless these were blank or the kind does not accept the value. -/
structure Entry.SavedAs [Pattern.Engine] (entry : Entry) (path : String) (kind : Kind) (leaf : Json) (saved : Entry) :
    Prop where
  said : Kind.ofNode entry.schema path = .ok kind
  leaf : Kind.ofNode leaf path = .ok kind
  schema : Kind.ofNode saved.schema path = .ok kind
  description : Text.isBlankText entry.description = false → saved.description = entry.description
  defaultValue : entry.defaultValue ≠ .null → entry.defaultValue ≠ .string "" →
    (kind.report entry.defaultValue).isValid = true → saved.defaultValue = entry.defaultValue

theorem Kind.get?_type_of_object {node : Json} {path : String} (read : Kind.ofNode node path = .ok .object) :
    node.get? "type" = some (.string "object") := by
  have type : typeOfNode node path = .ok .object := by
    unfold ofNode at read
    split at read
    · cases read
    · cases read
    · cases read
    · cases read
    · obtain ⟨item, _, same⟩ := Except.map_eq_ok_iff.mp read
      cases same
    · assumption
  unfold typeOfNode at type
  split at type
  · cases type
  · cases type
  · rename_i value _ found
    split at type
    · rename_i word
      cases type
      obtain ⟨text, written, known⟩ := Option.bind_eq_some_iff.mp word
      have named : "object" = text := by simpa only [TypeName.text, beq_iff_eq] using List.find?_some known
      rw [found, named]
      cases value with
      | string other => rw [Option.some.inj written]
      | _ => cases written
    · cases type

theorem Sketch.properties_of_open {filled : Bool} {path name : String} {given : Given} {node : Json} {sketch : Sketch}
    (read : ofNode filled path name given node = .ok sketch) (opened : sketch.isOpen = true) :
    node.get? "type" = some (.string "object") ∧ node.hasProperties = true := by
  obtain ⟨object, some_below⟩ := isOpen_iff.mp opened
  obtain ⟨kind, said, inside⟩ := Except.bind_eq_ok_iff.mp read
  obtain ⟨below, listed, same⟩ := Except.bind_eq_ok_iff.mp inside
  cases same
  rw [kind_mk] at object
  rw [children_mk] at some_below
  obtain rfl : kind = .object := object
  refine ⟨Kind.get?_type_of_object said, ?_⟩
  cases node with
  | object members =>
    rw [ofNodeBelow, ofContainer_eq] at listed
    rw [hasProperties, get?]
    split at listed
    · cases listed
      exact absurd rfl some_below
    · rename_i properties found
      rw [found]
      cases properties with
      | nil =>
        cases listed
        exact absurd rfl some_below
      | cons property rest => rfl
    · cases listed
  | _ => cases Kind.get?_type_of_object said

theorem isBlankValue_eq_false {value : Json} (some_value : value ≠ .null) (some_text : value ≠ .string "") :
    isBlankValue (some value) = false := by
  cases value <;> simp_all [isBlankValue]

theorem descriptionOr_of_given {description : String} (given : Text.isBlankText description = false) (name : String) :
    descriptionOr description name = description := by
  rw [descriptionOr, given, if_neg Bool.false_ne_true]

section

variable {name : String} {given : Sketch.Given} {kind : Kind} {node : Json}

theorem Sketch.attributesOf_description {description : String} (own : given.description = some description)
    (filled : Text.isBlankText description = false) :
    (attributesOf true name given kind node).description = description := by
  rw [attributesOf, own]
  simp only [Option.filter, filled, Bool.not_false, if_true, Option.some_or, Option.getD_some]
  exact descriptionOr_of_given filled name

theorem Sketch.attributesOf_defaultValue {value : Json} (own : given.defaultValue = some value)
    (some_value : value.isNull = false) (filled : isBlankValue (some value) = false) :
    (attributesOf true name given kind node).defaultValue = some value := by
  rw [attributesOf, own]
  simp only [Option.filter, some_value, Bool.not_false, if_true, Option.some_or, defaultOr, filled,
    Bool.false_eq_true, if_false, Option.getD_some]

end

namespace FlatMap.Plain

variable {map : FlatMap} (plain : map.Plain)

include plain

theorem spread : Planting.Spread map.entries := by
  constructor
  · intro entry member name part
    have filled : (Path.segments entry.1).contains "" = false := by
      rw [← Bool.not_eq_true, List.contains_iff_mem]
      exact plain.filled entry.1 (List.mem_map_of_mem member)
    exact Path.isName_of_mem_segments filled part
  · apply map.sorted.imp_of_mem
    intro first second here there before
    have keys : first.1 ≠ second.1 := fun same => String.lt_irrefl _ (same ▸ before)
    have one : first.1 ∈ map.keys := List.mem_map_of_mem here
    have other : second.1 ∈ map.keys := List.mem_map_of_mem there
    exact ⟨fun start => keys (plain.apart _ one _ other start),
      fun start => keys (plain.apart _ other _ one start).symm⟩

theorem closed : ∀ entry ∈ map.entries, ∀ sketch, entry.2.read entry.1 = .ok sketch → sketch.isOpen = false := by
  intro entry member sketch read
  rw [← Bool.not_eq_true]
  intro opened
  obtain ⟨object, filled⟩ := Sketch.properties_of_open read opened
  exact Bool.false_ne_true ((plain.leaves entry member object).symm.trans filled)

end FlatMap.Plain

namespace Entry

variable {entry : Entry} {path : String} {sketch : Sketch}

theorem savedAs_of_read [Pattern.Engine] (read : entry.read path = .ok sketch) :
    entry.SavedAs path sketch.kind sketch.node.withoutDescription sketch.entry := by
  obtain ⟨kind, said, inside⟩ := Except.bind_eq_ok_iff.mp read
  obtain ⟨below, _, same⟩ := Except.bind_eq_ok_iff.mp inside
  obtain rfl := Except.ok.inj same
  have settled := Kind.settled_of_ofNode said
  constructor
  · exact said
  · rw [Sketch.ofNode_leaf, Sketch.kind_mk]
    exact congrArg Except.ok settled
  · rw [Sketch.ofNode_entry_schema]
    exact congrArg Except.ok settled
  · intro given
    rw [Sketch.entry_description, Sketch.attributes_mk, Sketch.attributesOf_description rfl given]
    exact descriptionOr_of_given given _
  · intro some_value some_text accepted
    have filled := isBlankValue_eq_false some_value some_text
    have present : entry.defaultValue.isNull = false := by
      cases value : entry.defaultValue <;> simp_all [isNull]
    have wanted : (Sketch.attributesOf true (Path.lastSegment path)
        ⟨false, some entry.description, some entry.defaultValue⟩ kind entry.schema).wanted = entry.defaultValue :=
      Attributes.wanted_of_some (Sketch.attributesOf_defaultValue rfl present filled) present
    rw [Sketch.entry_defaultValue, Sketch.attributes_mk, wanted]
    exact if_pos accepted

end Entry

namespace SchemaTree

variable {map : FlatMap} {tree : SchemaTree}

/-- Loading a plain map and saving it keeps the keys, and what the entries say. -/
theorem ofFlat_keeps_entries [Pattern.Engine] (plain : map.Plain) (done : ofFlat map = .ok tree) :
    tree.document.leafMap.keys = map.keys ∧ tree.toExport.properties.keys = map.keys ∧
      ∀ path entry, map.get? path = some entry → ∃ kind leaf saved, tree.document.leafMap.get? path = some leaf ∧
        tree.toExport.properties.get? path = some saved ∧ entry.SavedAs path kind leaf saved := by
  obtain ⟨read, reads, navigable, tips⟩ := reads_of_ofFlat plain.spread plain.closed done
  have wellFormed := (wellFormed_ofFlat done).1
  have leaves := (leaves_document navigable).trans (tips.map Sketch.leaf)
  have entries := (entries_toExport wellFormed navigable).trans (tips.map Sketch.tipEntry)
  have keys : read.map (fun tip => Path.dotted tip.1) = map.keys := by
    have same := Planting.map_dotted reads
    rw [same]
    rfl
  have leafKeys := leaves.map Prod.fst
  have exportKeys := entries.map Prod.fst
  rw [List.map_map] at leafKeys exportKeys
  refine ⟨SortedMap.keys_eq_of_perm (keys ▸ leafKeys), SortedMap.keys_eq_of_perm (keys ▸ exportKeys), ?_⟩
  intro path entry stored
  obtain ⟨tip, listed, own⟩ := exists_of_forall₂ reads _ ((SortedMap.get?_eq_some_iff map).mp stored)
  have named : Path.dotted tip.1 = path := own.dotted
  refine ⟨tip.2.kind, tip.2.node.withoutDescription, tip.2.entry, ?_, ?_, Entry.savedAs_of_read own.2⟩
  · rw [SortedMap.get?_eq_some_iff, leaves.mem_iff]
    exact List.mem_map.mpr ⟨tip, listed, by rw [Sketch.leaf, named]⟩
  · rw [SortedMap.get?_eq_some_iff, entries.mem_iff]
    exact List.mem_map.mpr ⟨tip, listed, by rw [Sketch.tipEntry, named]⟩

def plainMap : FlatMap := .ofList
  [("app.id", ⟨"", .null, .object [("type", .string "number")]⟩),
    ("app-id", ⟨"Who asks", .string "demo", .object [("type", .string "string"), ("pattern", .string "^d")]⟩),
    ("app.tags", ⟨"", .null, .object [("type", .string "object")]⟩)]

def plainTree : SchemaTree := (ofFlat plainMap).toOption.getD empty

theorem ofFlat_keeps_entries_of_plainMap : plainMap.Plain ∧ ofFlat plainMap = .ok plainTree ∧
    plainTree.toExport.properties.keys = ["app-id", "app.id", "app.tags"] ∧
      ∃ saved, plainTree.toExport.properties.get? "app-id" = some saved ∧ saved.description = "Who asks" := by
  have plain : plainMap.Plain := ⟨by decide, by decide, by decide⟩
  have done : ofFlat plainMap = .ok plainTree := by decide +kernel
  have listed : plainMap.keys = ["app-id", "app.id", "app.tags"] := by decide
  obtain ⟨_, keys, entries⟩ := ofFlat_keeps_entries plain done
  obtain ⟨_, _, saved, _, stored, same⟩ := entries "app-id" _ (by rfl)
  exact ⟨plain, done, keys.trans listed, saved, stored, same.description (by decide)⟩

end SchemaTree

end ConfigSchema
