import ConfigSchema.Pattern.Reader
import ConfigSchema.Proofs.Flat.RoundTrip

/-! Default values of exports. An export puts the value of the kind in the place of one that the kind does not accept,
without asking whether the kind accepts its own value. So an entry is valid exactly if one of the two values is
accepted, and a second export has warnings exactly if what the first one gave is refused after it was filled again. -/

namespace ConfigSchema

namespace Sketch

variable [Pattern.Engine] (sketch : Sketch)

theorem entry_accepted_iff : (sketch.kind.report sketch.entry.defaultValue).isValid = true ↔
    (∃ value, sketch.attributes.defaultValue = some value ∧ value.isNull = false ∧
      (sketch.kind.report value).isValid = true) ∨
    (sketch.kind.report sketch.kind.defaultValue).isValid = true := by
  have chosen : (sketch.kind.report sketch.entry.defaultValue).isValid = true ↔
      (sketch.kind.report sketch.attributes.wanted).isValid = true ∨
        (sketch.kind.report sketch.kind.defaultValue).isValid = true := by
    rw [entry_defaultValue]
    split
    · rename_i accepted
      simp [accepted]
    · rename_i refused
      simp [refused]
  have own : sketch.attributes.kind = sketch.kind := rfl
  rw [chosen, Attributes.wanted, Attributes.origin, own]
  cases stored : sketch.attributes.defaultValue with
  | none => simp
  | some value => cases empty : value.isNull <;> simp [Option.filter, empty]

theorem exported_warning : sketch.exported.2 =
    if (sketch.kind.report sketch.attributes.wanted).isValid then none
    else some ("Field \"" ++ sketch.name ++ "\": " ++
      ", ".intercalate (sketch.kind.report sketch.attributes.wanted).errors) := by
  rw [← sketch.againstNode_leaf]
  rfl

theorem exported_warning_eq_none_iff :
    sketch.exported.2 = none ↔ (sketch.kind.report sketch.attributes.wanted).isValid = true := by
  rw [exported_warning]
  split <;> simp_all

theorem wanted_reloaded :
    sketch.reloaded.attributes.wanted = defaultOr (some sketch.entry.defaultValue) sketch.kind := by
  rw [← defaultOr_settled]
  exact Attributes.wanted_of_some rfl (defaultOr_isNull _ _)

theorem reloaded_warning_eq_none_iff : sketch.reloaded.exported.2 = none ↔
    (sketch.kind.report (defaultOr (some sketch.entry.defaultValue) sketch.kind)).isValid = true := by
  have kind : sketch.reloaded.kind = sketch.kind.settled := rfl
  rw [exported_warning_eq_none_iff, wanted_reloaded, kind, Kind.report_settled]

end Sketch

namespace SchemaTree

variable {tree : SchemaTree}

section

variable [Pattern.Engine]

theorem warnings_toExport (wellFormed : tree.WellFormed) (navigable : Sketch.NavigableAll tree.sketches) :
    tree.toExport.warnings.Perm ((Sketch.tipsOf [] tree.sketches).filterMap fun tip => tip.2.exported.2) := by
  have warnings := (leaves_document navigable).filterMap
    fun leaf => ((Export.Origin.ofTree tree leaf.1 leaf.2).entry leaf.2).2
  have made : ((Sketch.tipsOf [] tree.sketches).map Sketch.leaf).filterMap
      (fun leaf => ((Export.Origin.ofTree tree leaf.1 leaf.2).entry leaf.2).2) =
        (Sketch.tipsOf [] tree.sketches).filterMap fun tip => tip.2.exported.2 := by
    rw [List.filterMap_map]
    apply List.filterMap_congr
    intro tip member
    rw [Function.comp_apply, Sketch.leaf, origin_tip wellFormed navigable member]
    rfl
  rw [made] at warnings
  rw [toExport, Export.entries, List.filterMap_map]
  exact warnings

/-- The export of a tree has this entry at a path, and the path leads to this field. -/
structure Exports (tree : SchemaTree) (path : String) (entry : Entry) (field : Field) : Prop where
  entry : tree.toExport.properties.get? path = some entry
  field : (tree.findPath path).bind tree.get? = some field

theorem exports_iff (wellFormed : tree.WellFormed) (navigable : Sketch.NavigableAll tree.sketches) {path : String}
    {entry : Entry} {field : Field} : tree.Exports path entry field ↔
      (tree.findPath path).bind tree.get? = some field ∧ ∃ tip ∈ Sketch.tipsOf [] tree.sketches,
        Path.dotted tip.1 = path ∧ tip.2.entry = entry ∧ tip.2.attributes = field.attributes := by
  have listed : ∀ path entry, tree.toExport.properties.get? path = some entry ↔
      ∃ tip ∈ Sketch.tipsOf [] tree.sketches, Path.dotted tip.1 = path ∧ tip.2.entry = entry := by
    intro path entry
    rw [SortedMap.get?_eq_some_iff, (entries_toExport wellFormed navigable).mem_iff, List.mem_map]
    simp only [Sketch.tipEntry, Prod.mk.injEq]
  constructor
  · rintro ⟨stored, found⟩
    obtain ⟨tip, member, rfl, rfl⟩ := (listed path entry).mp stored
    obtain ⟨other, again, same⟩ := findPath_tip wellFormed navigable member
    cases found.symm.trans again
    exact ⟨found, tip, member, rfl, rfl, same.symm⟩
  · rintro ⟨found, tip, member, same, own, _⟩
    exact ⟨(listed path entry).mpr ⟨tip, member, same, own⟩, found⟩

theorem exists_exports (wellFormed : tree.WellFormed) (navigable : Sketch.NavigableAll tree.sketches)
    {path : String} {entry : Entry} (stored : tree.toExport.properties.get? path = some entry) :
    ∃ field, tree.Exports path entry field := by
  rw [SortedMap.get?_eq_some_iff, (entries_toExport wellFormed navigable).mem_iff] at stored
  obtain ⟨tip, member, same⟩ := List.mem_map.mp stored
  cases same
  obtain ⟨field, found, own⟩ := findPath_tip wellFormed navigable member
  exact ⟨field, (exports_iff wellFormed navigable).mpr ⟨found, tip, member, rfl, rfl, own.symm⟩⟩

theorem Exports.isValid_iff (wellFormed : tree.WellFormed) (navigable : Sketch.NavigableAll tree.sketches)
    {path : String} {entry : Entry} {field : Field} (exported : tree.Exports path entry field) :
    ((Report.againstNode entry.defaultValue entry.schema).isValid = true ↔
      (field.kind.report entry.defaultValue).isValid = true) ∧
    ((field.kind.report entry.defaultValue).isValid = true ↔
      (∃ value, field.defaultValue = some value ∧ value.isNull = false ∧ (field.kind.report value).isValid = true) ∨
        (field.kind.report field.kind.defaultValue).isValid = true) := by
  obtain ⟨_, tip, _, rfl, rfl, same⟩ := (exports_iff wellFormed navigable).mp exported
  have kind : tip.2.kind = field.kind := congrArg Attributes.kind same
  have value : tip.2.attributes.defaultValue = field.defaultValue := congrArg Attributes.defaultValue same
  have accepted := tip.2.entry_accepted_iff
  rw [kind, value] at accepted
  exact ⟨by rw [tip.2.againstNode_entry, kind], accepted⟩

theorem warnings_reloaded_iff {again : SchemaTree} (wellFormed : tree.WellFormed)
    (navigable : Sketch.NavigableAll tree.sketches) (later : again.WellFormed)
    (walkable : Sketch.NavigableAll again.sketches)
    (tips : (Sketch.tipsOf [] again.sketches).Perm ((Sketch.tipsOf [] tree.sketches).map tipReloaded)) :
    again.toExport.warnings = [] ↔ ∀ path entry field, tree.Exports path entry field →
      (field.kind.report (defaultOr (some entry.defaultValue) field.kind)).isValid = true := by
  have silent : again.toExport.warnings = [] ↔
      ∀ tip ∈ Sketch.tipsOf [] tree.sketches, tip.2.reloaded.exported.2 = none := by
    rw [List.eq_nil_iff_length_eq_zero, (warnings_toExport later walkable).length_eq, List.length_eq_zero_iff,
      List.filterMap_eq_nil_iff]
    simp only [tips.mem_iff, List.forall_mem_map, tipReloaded]
  rw [silent]
  constructor
  · intro every path entry field exported
    obtain ⟨_, tip, member, rfl, rfl, same⟩ := (exports_iff wellFormed navigable).mp exported
    have kind : tip.2.kind = field.kind := congrArg Attributes.kind same
    rw [← kind, ← tip.2.reloaded_warning_eq_none_iff]
    exact every tip member
  · intro every tip member
    obtain ⟨field, found, same⟩ := findPath_tip wellFormed navigable member
    have kind : tip.2.kind = field.kind := congrArg Attributes.kind same.symm
    rw [tip.2.reloaded_warning_eq_none_iff, kind]
    exact every _ _ field ((exports_iff wellFormed navigable).mpr ⟨found, tip, member, rfl, rfl, same.symm⟩)

/-- The default value of an entry satisfies the schema of the entry exactly if the kind of its field accepts the
stored value or its own; and exporting what was loaded again gives no warnings exactly if every kind accepts what it
then finds. Where every kind accepts its own value, all entries are valid and the second export has no warnings. -/
theorem exported_defaults (wellFormed : tree.WellFormed) (tidy : tree.Tidy) : ∃ again,
    ofFlat tree.toExport.properties = .ok again ∧
    (∀ path entry, tree.toExport.properties.get? path = some entry → ∃ field, tree.Exports path entry field ∧
      ((Report.againstNode entry.defaultValue entry.schema).isValid = true ↔
        (∃ value, field.defaultValue = some value ∧ value.isNull = false ∧
          (field.kind.report value).isValid = true) ∨
        (field.kind.report field.kind.defaultValue).isValid = true)) ∧
    (again.toExport.warnings = [] ↔ ∀ path entry field, tree.Exports path entry field →
      (field.kind.report (defaultOr (some entry.defaultValue) field.kind)).isValid = true) ∧
    ((∀ path entry field, tree.Exports path entry field →
        (field.kind.report field.kind.defaultValue).isValid = true) →
      (∀ path entry, tree.toExport.properties.get? path = some entry →
        (Report.againstNode entry.defaultValue entry.schema).isValid = true) ∧
      again.toExport.warnings = []) := by
  have navigable := wellFormed.navigable_sketches tidy
  obtain ⟨again, loaded, _, walkable, tips⟩ := exists_reloaded wellFormed tidy
  have warnings := warnings_reloaded_iff wellFormed navigable (wellFormed_ofFlat loaded).1 walkable tips
  refine ⟨again, loaded, ?_, warnings, fun own => ⟨?_, warnings.mpr ?_⟩⟩
  · intro path entry stored
    obtain ⟨field, exported⟩ := exists_exports wellFormed navigable stored
    obtain ⟨checked, accepted⟩ := exported.isValid_iff wellFormed navigable
    exact ⟨field, exported, checked.trans accepted⟩
  · intro path entry stored
    obtain ⟨field, exported⟩ := exists_exports wellFormed navigable stored
    obtain ⟨checked, accepted⟩ := exported.isValid_iff wellFormed navigable
    exact checked.mpr (accepted.mpr (.inr (own path entry field exported)))
  · intro path entry field exported
    obtain ⟨_, accepted⟩ := exported.isValid_iff wellFormed navigable
    unfold defaultOr
    split
    · exact own path entry field exported
    · exact accepted.mpr (.inr (own path entry field exported))

end

def levelDocument (remarks : List (String × Json)) : Json :=
  .object [("properties", .object [("level", .object (
    [("type", .string "string"), ("enum", .array [.string "a", .string "bcd"]), ("minLength", .ofLength 2)] ++
      remarks))])]

def levelTree (remarks : List (String × Json)) : SchemaTree :=
  (ofDocumentFrom 0 (levelDocument remarks)).toOption.getD empty

theorem exported_defaults_of_levelTree :
    (levelTree [("default", .string "bcd")]).WellFormed ∧ (levelTree [("default", .string "bcd")]).Tidy ∧
      ∃ entry, (levelTree [("default", .string "bcd")]).toExport.properties.get? "level" = some entry ∧
        (Report.againstNode entry.defaultValue entry.schema).isValid = true := by
  have read : ofDocumentFrom 0 (levelDocument [("default", .string "bcd")]) =
      .ok (levelTree [("default", .string "bcd")]) := by rfl
  have wellFormed := (wellFormed_ofDocumentFrom read).1
  have tidy : (levelTree [("default", .string "bcd")]).Tidy :=
    tidy_of_nodes (by decide +kernel) (by decide +kernel) (by decide +kernel)
  obtain ⟨entry, stored⟩ : ∃ entry,
    (levelTree [("default", .string "bcd")]).toExport.properties.get? "level" = some entry := ⟨_, rfl⟩
  obtain ⟨_, _, entries, _⟩ := exported_defaults wellFormed tidy
  obtain ⟨field, exported, valid⟩ := entries "level" entry stored
  have given : field.defaultValue = some (.string "bcd") ∧ field.kind = .text ⟨some 2, none, none, ["a", "bcd"]⟩ := by
    cases exported.field
    exact ⟨rfl, rfl⟩
  refine ⟨wellFormed, tidy, entry, stored, valid.mpr (.inl ⟨.string "bcd", given.1, rfl, ?_⟩)⟩
  rw [given.2]
  decide

/-- Nothing is stored, and the first choice is put in though the schema refuses it; the next export warns of it. -/
theorem exported_default_refused :
    (levelTree []).WellFormed ∧ (levelTree []).Tidy ∧
      (∃ entry, (levelTree []).toExport.properties.get? "level" = some entry ∧ entry.defaultValue = .string "a" ∧
        (Report.againstNode entry.defaultValue entry.schema).isValid = false) ∧
      ∃ again, ofFlat (levelTree []).toExport.properties = .ok again ∧ again.toExport.warnings =
        ["Field \"level\": String length 1 is less than minimum 2"] := by
  have read : ofDocumentFrom 0 (levelDocument []) = .ok (levelTree []) := by rfl
  have tidy : (levelTree []).Tidy := tidy_of_nodes (by decide +kernel) (by decide +kernel) (by decide +kernel)
  exact ⟨(wellFormed_ofDocumentFrom read).1, tidy, ⟨_, rfl, rfl, by decide +kernel⟩, _, rfl, by decide +kernel⟩

end SchemaTree

end ConfigSchema
