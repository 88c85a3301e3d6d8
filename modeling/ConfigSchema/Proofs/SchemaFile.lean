import ConfigSchema.Pattern.Reader
import ConfigSchema.Proofs.Field.Forms
import ConfigSchema.Proofs.Sketch.Listed
import ConfigSchema.Proofs.Tree.Reachable
import ConfigSchema.SchemaFile

/-! Files that hold a document or a flat map. A document is told from a flat map by the members at its top, which no name
of a field reaches, and the entries of a map are read back as they were written. Main statements: every document and
every payload of a tree is taken for what it is, and a bare map is, unless one of its paths is the word `properties`. -/

namespace ConfigSchema

theorem Entry.exists_schema {members : List (String × Json)} {entry : Entry}
    (read : Entry.ofJson? (.object members) = some entry) : "schema" ∈ Keyed.keys members := by
  by_contra absent
  have unsaid := (Keyed.find?_eq_none_iff "schema" members).mpr absent
  rw [Entry.ofJson?, unsaid] at read
  cases described : Json.memberOr? Json.asString? "" "description" members <;> simp [described] at read

namespace FlatMap

theorem reads_of_ofMembers? {members : List (String × Json)} {entries : List (String × Entry)}
    (read : members.mapM (fun member => (Entry.ofJson? member.2).bind fun entry => some (member.1, entry)) =
      some entries) :
    List.Forall₂ (fun member entry => entry.1 = member.1 ∧ Entry.ofJson? member.2 = some entry.2) members entries := by
  induction members generalizing entries with
  | nil =>
    cases read
    exact .nil
  | cons member rest ih =>
    rw [List.mapM_cons] at read
    obtain ⟨first, here, later⟩ := Option.bind_eq_some_iff.mp read
    obtain ⟨entry, own, same⟩ := Option.bind_eq_some_iff.mp here
    obtain ⟨others, there, all⟩ := Option.bind_eq_some_iff.mp later
    cases same
    cases all
    exact .cons ⟨rfl, own⟩ (ih there)

variable {members : List (String × Json)} {map : FlatMap}

theorem exists_entry (read : ofMembers? members = some map) {member : String × Json} (listed : member ∈ members) :
    ∃ entry, Entry.ofJson? member.2 = some entry := by
  obtain ⟨entries, each, _⟩ := Option.bind_eq_some_iff.mp read
  obtain ⟨entry, _, _, own⟩ := exists_of_forall₂ (reads_of_ofMembers? each) member listed
  exact ⟨entry.2, own⟩

theorem mem_keys_iff_of_read (read : ofMembers? members = some map) {path : String} :
    path ∈ map.keys ↔ path ∈ Keyed.keys members := by
  obtain ⟨entries, each, made⟩ := Option.bind_eq_some_iff.mp read
  cases made
  have same : Keyed.keys members = Keyed.keys entries := by
    have pairs := reads_of_ofMembers? each
    clear read each
    induction pairs with
    | nil => rfl
    | cons first _ ih => exact congr (congrArg List.cons first.1.symm) ih
  rw [SortedMap.mem_keys_ofList, same]

end FlatMap

namespace SchemaFile

theorem looksFlat_toMembers (map : FlatMap) : looksFlat map.toMembers = !map.isEmpty := by
  have schemas : map.toMembers.all (fun member => member.2.isObject && (member.2.get? "schema").isSome) = true := by
    rw [FlatMap.toMembers, List.all_map]
    exact List.all_eq_true.mpr fun entry _ => rfl
  rw [looksFlat, schemas, Bool.and_true, FlatMap.toMembers, List.isEmpty_map]
  rfl

theorem detect_payload (map : FlatMap) :
    detect map.payload = .ok (if map.isEmpty then .document map.payload else .flat map) := by
  simp only [FlatMap.payload, FlatMap.toJson, detect, Keyed.find?_cons, if_true, List.length_singleton,
    decide_true, Bool.true_and, looksFlat_toMembers]
  cases map.isEmpty with
  | true => rfl
  | false =>
    simp [ofEntries]

theorem toTree_empty_payload : toTree (.document (FlatMap.payload .empty)) = SchemaTree.ofFlat .empty := rfl

theorem detect_document (tree : SchemaTree) : detect tree.document = .ok (.document tree.document) := by
  simp [SchemaTree.document, Branch.document, detect, Keyed.find?_cons, Json.ofMembers]

/-- The document of a tree is taken for that document and the payload of its export for the exported map, whatever
the fields are called; and the payload, also that without entries, has the tree of the map. -/
theorem own_output_recognised [Pattern.Engine] (tree : SchemaTree) :
    let map := tree.toExport.properties
    detect tree.document = .ok (.document tree.document) ∧
    (map.isEmpty = false → detect map.payload = .ok (.flat map)) ∧
    ∃ file, detect map.payload = .ok file ∧ file.toTree = SchemaTree.ofFlat map := by
  intro map
  refine ⟨detect_document tree, fun filled => ?_, _, detect_payload map, ?_⟩
  · rw [detect_payload, filled]
    rfl
  · cases filled : map.isEmpty with
    | false => rfl
    | true =>
      have nothing : map = .empty := SortedMap.ext (List.isEmpty_iff.mp filled)
      rw [nothing]
      exact toTree_empty_payload

def markedTree : SchemaTree :=
  [Edit.add 0 none ⟨"properties", .object, "", false, none⟩,
    .add 0 (some (.ofSerial 0)) ⟨"schema", .boolean, "", true, none⟩,
    .add 0 none ⟨"schema", .object, "", false, none⟩].foldl Edit.apply .empty

theorem own_output_recognised_of_markedTree :
    markedTree.toExport.properties.keys = ["properties.schema", "schema"] ∧
      detect markedTree.document = .ok (.document markedTree.document) ∧
      detect markedTree.toExport.properties.payload = .ok (.flat markedTree.toExport.properties) ∧
      ∃ file, detect SchemaTree.empty.toExport.properties.payload = .ok file ∧ file.toTree = .ok .empty := by
  obtain ⟨document, payload, _⟩ := own_output_recognised markedTree
  exact ⟨by decide +kernel, document, payload (by decide +kernel), (own_output_recognised .empty).2.2⟩

section

variable {members : List (String × Json)} {map : FlatMap}

theorem looksFlat_of_read (read : FlatMap.ofMembers? members = some map)
    (objects : ∀ member ∈ members, member.2.isObject = true) (filled : members ≠ []) : looksFlat members = true := by
  have entries : members.all (fun member => member.2.isObject && (member.2.get? "schema").isSome) = true := by
    refine List.all_eq_true.mpr fun member listed => ?_
    obtain ⟨name, value⟩ := member
    have object := objects _ listed
    obtain ⟨entry, own⟩ := FlatMap.exists_entry read listed
    cases value with
    | object inner =>
      have schema : Keyed.find? "schema" inner ≠ none :=
        fun unsaid => (Keyed.find?_eq_none_iff _ _).mp unsaid (Entry.exists_schema own)
      simpa [Json.isObject, Json.get?, Option.isSome_iff_ne_none] using schema
    | _ => cases object
  rw [looksFlat, entries, Bool.and_true, Bool.not_eq_true', List.isEmpty_eq_false_iff]
  exact filled

theorem ofEntries_of_read (read : FlatMap.ofMembers? members = some map) : ofEntries members = .ok (.flat map) := by
  rw [ofEntries, read]

theorem detect_ne_of_properties (read : FlatMap.ofMembers? members = some map)
    (objects : ∀ member ∈ members, member.2.isObject = true) (marked : "properties" ∈ Keyed.keys members) :
    detect (.object members) ≠ .ok (.flat map) := by
  obtain ⟨value, found⟩ : ∃ value, Keyed.find? "properties" members = some value :=
    Option.ne_none_iff_exists'.mp fun unsaid => (Keyed.find?_eq_none_iff _ _).mp unsaid marked
  have listed := Keyed.mem_of_find? found
  cases value with
  | object inner =>
    intro flat
    rw [detect, found] at flat
    dsimp only at flat
    split_ifs at flat with alone
    · rw [Bool.and_eq_true, decide_eq_true_eq] at alone
      unfold ofEntries at flat
      split at flat
      · rename_i other again
        cases flat
        -- The one path of the map is `properties`, but the members of its entry have a schema among them.
        obtain ⟨entry, own⟩ := FlatMap.exists_entry read listed
        have schema := (FlatMap.mem_keys_iff_of_read again).mpr (Entry.exists_schema own)
        obtain ⟨only, rfl⟩ := List.length_eq_one_iff.mp alone.1
        have first := (FlatMap.mem_keys_iff_of_read read).mp schema
        simp only [Keyed.keys, List.map_cons, List.map_nil, List.mem_singleton] at first marked
        exact absurd (marked.trans first.symm) (by decide)
      · cases flat
    · cases flat
  | _ => cases objects _ listed

/-- A bare map is recognised exactly if no entry has the path `properties`, whatever its other paths and its entries are,
while the same map in a payload always is. What the tool writes of a map with this path is taken for a document. -/
theorem bare_map_recognised_iff (read : FlatMap.ofMembers? members = some map)
    (objects : ∀ member ∈ members, member.2.isObject = true) (filled : members ≠ []) :
    detect (.object [("properties", .object members)]) = .ok (.flat map) ∧
    (detect (.object members) = .ok (.flat map) ↔ "properties" ∉ map.keys) ∧
    ("properties" ∈ map.keys → detect map.toJson = .ok (.document map.toJson)) := by
  have looks := looksFlat_of_read read objects filled
  refine ⟨?_, ⟨?_, ?_⟩, ?_⟩
  · simp only [detect, Keyed.find?_cons, if_true, List.length_singleton, decide_true, Bool.true_and, looks]
    exact ofEntries_of_read read
  · intro flat marked
    exact detect_ne_of_properties read objects ((FlatMap.mem_keys_iff_of_read read).mp marked) flat
  · intro unmarked
    have unsaid := (Keyed.find?_eq_none_iff "properties" members).mpr
      fun member => unmarked ((FlatMap.mem_keys_iff_of_read read).mpr member)
    rw [detect, unsaid]
    simp only [looks, if_true]
    exact ofEntries_of_read read
  · intro marked
    obtain ⟨⟨_, entry⟩, listed, rfl⟩ := List.mem_map.mp marked
    have distinct : (Keyed.keys map.toMembers).Nodup := by
      rw [Keyed.keys, FlatMap.toMembers, List.map_map]
      exact map.keys_nodup
    have found := (Keyed.find?_eq_some_iff distinct).mpr (List.mem_map.mpr ⟨_, listed, rfl⟩)
    have strange : looksFlat [("description", .string entry.description), ("default_value", entry.defaultValue),
      ("schema", entry.schema)] = false := rfl
    rw [FlatMap.toJson, detect, found]
    simp [Entry.toJson, strange]

end

def switchMap : FlatMap :=
  .ofList [("properties", ⟨"P", .bool true, .object [("type", .string "boolean")]⟩),
    ("x", ⟨"X", .bool false, .object [("type", .string "boolean")]⟩)]

theorem bare_map_misread : switchMap.isEmpty = false ∧ looksFlat switchMap.toMembers = true ∧
    detect switchMap.toJson = .ok (.document switchMap.toJson) ∧
    detect switchMap.toJson ≠ .ok (.flat switchMap) := by
  have looks : looksFlat switchMap.toMembers = true := by decide +kernel
  have taken : detect switchMap.toJson = .ok (.document switchMap.toJson) := by decide +kernel
  refine ⟨by decide +kernel, looks, taken, ?_⟩
  rw [taken]
  intro same
  cases same

/-- Entries that leave out what they may, at paths one of which begins with the word. -/
def sparseMembers : List (String × Json) :=
  [("properties.schema", .object [("schema", .object [("type", .string "number")])]),
    ("a..b", .object [("default_value", .null), ("schema", .null)])]

theorem bare_map_recognised_of_sparseMembers : ∃ map, FlatMap.ofMembers? sparseMembers = some map ∧
    map.keys = ["a..b", "properties.schema"] ∧ detect (.object sparseMembers) = .ok (.flat map) ∧
    (FlatMap.ofMembers? switchMap.toMembers = some switchMap ∧
      detect (.object [("properties", switchMap.toJson)]) = .ok (.flat switchMap)) := by
  have objects : ∀ member ∈ sparseMembers, member.2.isObject = true := by decide +kernel
  have others : ∀ member ∈ switchMap.toMembers, member.2.isObject = true := by decide +kernel
  obtain ⟨map, read⟩ : ∃ map, FlatMap.ofMembers? sparseMembers = some map :=
    Option.isSome_iff_exists.mp (by decide +kernel)
  have keys : map.keys = ["a..b", "properties.schema"] := by
    have listed : (FlatMap.ofMembers? sparseMembers).map SortedMap.keys = some ["a..b", "properties.schema"] := by
      decide +kernel
    rw [read] at listed
    exact Option.some.inj listed
  obtain ⟨_, recognised, _⟩ := bare_map_recognised_iff read objects (by decide)
  obtain ⟨wrapped, _⟩ := bare_map_recognised_iff (FlatMap.ofMembers?_toMembers switchMap) others (by decide +kernel)
  exact ⟨map, read, keys, recognised.mpr (by rw [keys]; decide), FlatMap.ofMembers?_toMembers switchMap, wrapped⟩

end SchemaFile

end ConfigSchema
