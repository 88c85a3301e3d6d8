import ConfigSchema.Pattern.Reader
import ConfigSchema.Proofs.Flat.Exports
import ConfigSchema.Proofs.Flat.Plantings
import ConfigSchema.Proofs.Tree.Reachable

/-! Saving and loading. The flat map of a tidy tree is read as a tree with the same tips, so nothing is lost on the
way through it, and a second export gives what the first one gave. -/

namespace ConfigSchema

open SchemaTree

def tipReloaded [Pattern.Engine] (tip : List String × Sketch) : List String × Sketch := (tip.1, tip.2.reloaded)

namespace SchemaTree

variable {tree : SchemaTree}

section

variable [Pattern.Engine]

theorem spread_toExport (wellFormed : tree.WellFormed) (navigable : Sketch.NavigableAll tree.sketches) :
    Planting.Spread tree.toExport.properties.entries := by
  have entries := entries_toExport wellFormed navigable
  constructor
  · intro entry member
    obtain ⟨tip, listed, rfl⟩ := List.mem_map.mp (entries.mem_iff.mp member)
    rw [Sketch.tipEntry, segments_tip navigable listed]
    exact Sketch.named_of_mem_tipsOf tree.sketches navigable [] (by simp) listed
  · refine (entries.pairwise_iff Path.Unrelated.symm).mpr (List.pairwise_map.mpr ?_)
    apply (Sketch.pairwise_tipsOf tree.sketches navigable []).imp_of_mem
    intro first second here there unrelated
    rw [Sketch.tipEntry, Sketch.tipEntry, segments_tip navigable here, segments_tip navigable there]
    exact unrelated

/-- The entry for a tip can be read, and gives the tip as it is reloaded. -/
theorem reads_tipEntry (wellFormed : tree.WellFormed) (tidy : tree.Tidy) {tip : List String × Sketch}
    (member : tip ∈ Sketch.tipsOf [] tree.sketches) : Planting.Reads (Sketch.tipEntry tip) (tipReloaded tip) := by
  have navigable := wellFormed.navigable_sketches tidy
  have sound : tip.2.Sound := Sketch.every_of_mem_tipsOf _ _ wellFormed.sound_sketches member
  have distinct : tip.2.Distinct :=
    Sketch.every_of_mem_tipsOf _ _ (wellFormed.distinct_sketches tidy.namesDiffer) member
  refine ⟨segments_tip navigable member, ?_⟩
  rw [Entry.read, Sketch.tipEntry, lastSegment_tip navigable member]
  exact Sketch.ofNode_entry sound distinct (Path.dotted tip.1)

theorem reads_toExport (wellFormed : tree.WellFormed) (tidy : tree.Tidy) : ∃ tips,
    List.Forall₂ Planting.Reads tree.toExport.properties.entries tips ∧
      tips.Perm ((Sketch.tipsOf [] tree.sketches).map tipReloaded) ∧ ∀ tip ∈ tips, tip.2.isOpen = false := by
  have entries := entries_toExport wellFormed (wellFormed.navigable_sketches tidy)
  have reads : List.Forall₂ Planting.Reads ((Sketch.tipsOf [] tree.sketches).map Sketch.tipEntry)
      ((Sketch.tipsOf [] tree.sketches).map tipReloaded) := by
    rw [List.forall₂_map_left_iff, List.forall₂_map_right_iff, List.forall₂_same]
    exact fun tip member => reads_tipEntry wellFormed tidy member
  obtain ⟨tips, read, same⟩ := List.perm_comp_forall₂ entries reads
  refine ⟨tips, read, same, fun tip member => ?_⟩
  obtain ⟨old, listed, rfl⟩ := List.mem_map.mp (same.mem_iff.mp member)
  rw [tipReloaded, Sketch.isOpen_reloaded]
  exact (Sketch.closed_of_mem_tipsOf _ _ listed).1

theorem exists_reloaded (wellFormed : tree.WellFormed) (tidy : tree.Tidy) : ∃ again,
    ofFlat tree.toExport.properties = .ok again ∧
      Planting.TakesAll ⟨.empty, []⟩ tree.toExport.properties.entries ∧ Sketch.NavigableAll again.sketches ∧
        (Sketch.tipsOf [] again.sketches).Perm ((Sketch.tipsOf [] tree.sketches).map tipReloaded) := by
  have spread := spread_toExport wellFormed (wellFormed.navigable_sketches tidy)
  obtain ⟨tips, read, same, closed⟩ := reads_toExport wellFormed tidy
  obtain ⟨again, done, takes, walkable, planted⟩ := ofFlat_of_reads spread read closed
  exact ⟨again, done, takes, walkable, planted.trans same⟩

theorem lenient_reloaded (wellFormed : tree.WellFormed) (tidy : tree.Tidy) {again : SchemaTree}
    (done : ofFlat tree.toExport.properties = .ok again) : Sketch.LenientAll again.sketches := by
  have spread := spread_toExport wellFormed (wellFormed.navigable_sketches tidy)
  obtain ⟨tips, read, _, closed⟩ := reads_toExport wellFormed tidy
  exact lenient_of_reads spread read closed done

theorem tipSpots_tipReloaded (tip : List String × Sketch) : Sketch.tipSpots (tipReloaded tip) =
    (tip.1, tip.2.reloaded.attributes) :: (Sketch.spotsOf tip.1 tip.2.children).map
      fun spot => (spot.1, spot.2.reread true) := by
  rw [← Sketch.spotsOf_rereads]
  rfl

theorem hasKind_tipReloaded (tip : List String × Sketch) (names : List String) (kind : Kind) :
    Sketch.HasKind (Sketch.tipSpots (tipReloaded tip)) names kind ↔
      ∃ old, Sketch.HasKind (Sketch.tipSpots tip) names old ∧ old.settled = kind := by
  rw [tipSpots_tipReloaded, Sketch.tipSpots, Sketch.hasKind_cons]
  simp only [Sketch.hasKind_cons, or_and_right, exists_or]
  refine or_congr ?_ ?_
  · constructor
    · rintro ⟨same, rfl⟩
      exact ⟨_, ⟨same, rfl⟩, rfl⟩
    · rintro ⟨_, ⟨same, rfl⟩, rfl⟩
      exact ⟨same, rfl⟩
  · constructor
    · rintro ⟨spot, member, same, rfl⟩
      obtain ⟨old, listed, rfl⟩ := List.mem_map.mp member
      exact ⟨_, ⟨old, listed, same, rfl⟩, rfl⟩
    · rintro ⟨_, ⟨old, listed, same, rfl⟩, rfl⟩
      exact ⟨_, List.mem_map.mpr ⟨old, listed, rfl⟩, same, rfl⟩

theorem onTheWay_reloaded {first second : List Sketch}
    (same : (Sketch.tipsOf [] second).Perm ((Sketch.tipsOf [] first).map tipReloaded)) (names : List String) :
    Sketch.OnTheWay (Sketch.tipsOf [] second) [] names ↔ Sketch.OnTheWay (Sketch.tipsOf [] first) [] names := by
  have mapped : Sketch.OnTheWay ((Sketch.tipsOf [] first).map tipReloaded) [] names ↔
      Sketch.OnTheWay (Sketch.tipsOf [] first) [] names := Sketch.onTheWay_map tipReloaded fun _ => rfl
  rw [← mapped]
  simp only [Sketch.OnTheWay, same.mem_iff]

theorem hasKind_reloaded {first second : List Sketch}
    (same : (Sketch.tipsOf [] second).Perm ((Sketch.tipsOf [] first).map tipReloaded)) (names : List String)
    (kind : Kind) : Sketch.HasKind (Sketch.spotsOf [] second) names kind ↔
      ∃ old, Sketch.HasKind (Sketch.spotsOf [] first) names old ∧ old.settled = kind := by
  have inside : (∃ tip ∈ Sketch.tipsOf [] second, Sketch.HasKind (Sketch.tipSpots tip) names kind) ↔
      ∃ tip ∈ Sketch.tipsOf [] first, ∃ old, Sketch.HasKind (Sketch.tipSpots tip) names old ∧ old.settled = kind := by
    simp only [same.mem_iff, List.mem_map, exists_exists_and_eq_and, hasKind_tipReloaded]
  rw [Sketch.hasKind_spotsOf_iff second, inside, onTheWay_reloaded same]
  simp only [Sketch.hasKind_spotsOf_iff first]
  constructor
  · rintro (⟨tip, member, old, held, rfl⟩ | ⟨rfl, between⟩)
    · exact ⟨old, .inl ⟨tip, member, held⟩, rfl⟩
    · exact ⟨.object, .inr ⟨rfl, between⟩, rfl⟩
  · rintro ⟨old, ⟨tip, member, held⟩ | ⟨rfl, between⟩, rfl⟩
    · exact .inl ⟨tip, member, old, held, rfl⟩
    · exact .inr ⟨rfl, between⟩

/-- Saving a tidy tree and loading it again passes no entry over, loses no field and changes no kind; only empty
patterns are gone. -/
theorem reload_keeps_kinds (wellFormed : tree.WellFormed) (tidy : tree.Tidy) : ∃ again,
    ofFlat tree.toExport.properties = .ok again ∧
      Planting.TakesAll ⟨.empty, []⟩ tree.toExport.properties.entries ∧
        ∀ path kind, again.HasKind path kind ↔ ∃ old, tree.HasKind path old ∧ old.settled = kind := by
  obtain ⟨again, loaded, takes, _, tips⟩ := exists_reloaded wellFormed tidy
  refine ⟨again, loaded, takes, fun path kind => ?_⟩
  simp only [(wellFormed_ofFlat loaded).1.hasKind_iff, wellFormed.hasKind_iff, hasKind_reloaded tips]
  constructor
  · rintro ⟨names, rfl, old, held, rfl⟩
    exact ⟨old, ⟨names, rfl, held⟩, rfl⟩
  · rintro ⟨old, ⟨names, rfl, held⟩, rfl⟩
    exact ⟨names, rfl, old, held, rfl⟩

end

def hostRun : List Edit :=
  let draft (name : String) (kind : Kind) : Attributes := ⟨name, kind, "", false, none⟩
  [.add 0 none (draft "app" .object), .add 0 (some (.ofSerial 0)) (draft "servers" (.array (some .object))),
    .add 0 (some (.ofSerial 1)) (draft "host" (.text ⟨none, none, some "", []⟩))]

def hostTree : SchemaTree := hostRun.foldl Edit.apply empty

theorem reload_keeps_kinds_of_hostTree : hostTree.WellFormed ∧ hostTree.Tidy ∧ ∃ again,
    ofFlat hostTree.toExport.properties = .ok again ∧
      again.HasKind "app.servers.host" (.text ⟨none, none, none, []⟩) := by
  have wellFormed : hostTree.WellFormed := (Reachable.empty.run hostRun).wellFormed
  have tidy : hostTree.Tidy := tidy_of_nodes (by decide) (by decide) (by decide)
  have held : hostTree.HasKind "app.servers.host" (.text ⟨none, none, some "", []⟩) :=
    ⟨.ofSerial 2, _, rfl, by decide, rfl⟩
  obtain ⟨again, loaded, _, kinds⟩ := reload_keeps_kinds wellFormed tidy
  exact ⟨wellFormed, tidy, again, loaded, (kinds _ _).mpr ⟨_, held, rfl⟩⟩

end SchemaTree

theorem Planting.filled_container (name : String) : (Planting.container name).Filled := by
  have made : descriptionOr "" name = describe name := if_pos (by decide)
  have filled := Attributes.filled_of_made name "" false (some (.object [])) (rfl : Kind.object.settled = .object)
  rw [made] at filled
  exact filled

namespace SchemaTree

structure FilledUp (tree : SchemaTree) : Prop where
  wellFormed : tree.WellFormed
  numbered : tree.Numbered
  filled : ∀ id node, tree.node? id = some node → node.field.attributes.Filled

theorem filledUp_keptByInsert : KeptByInsert FilledUp Attributes.Filled := by
  intro tree grown parent attributes id before new done
  obtain ⟨⟨wellFormed, numbered⟩, filled⟩ := fields_keptByInsert Attributes.Filled
    ⟨⟨before.wellFormed, before.numbered⟩, before.filled⟩ new done
  exact ⟨wellFormed, numbered, filled⟩

theorem filled_of_ofFlat {map : FlatMap} (done : ofFlat map = .ok tree) :
    ∀ sketch ∈ tree.sketches, sketch.Every fun sketch => sketch.attributes.Filled := by
  have start : FilledUp .empty :=
    ⟨wellFormed_emptyFrom 0, numbered_emptyFrom 0, fun _ _ found => nomatch found⟩
  have filledUp : FilledUp tree := ofFlat_keeps filledUp_keptByInsert
    (fun _ _ => ⟨fun name _ => Planting.filled_container name, fun _ read => Sketch.filled_of_read read⟩) start done
  apply (shows_forest filledUp.wellFormed).sketches_every
  intro id node below found _
  exact filledUp.filled id node found

/-- An export that is loaded and exported again stays the same. -/
theorem export_again [Pattern.Engine] {map : FlatMap} (done : ofFlat map = .ok tree) (tidy : tree.Tidy) : ∃ again,
    ofFlat tree.toExport.properties = .ok again ∧ again.toExport.properties = tree.toExport.properties := by
  have wellFormed := (wellFormed_ofFlat done).1
  have navigable := wellFormed.navigable_sketches tidy
  have filled := filled_of_ofFlat done
  obtain ⟨again, loaded, _, walkable, tips⟩ := exists_reloaded wellFormed tidy
  refine ⟨again, loaded, ?_⟩
  have entries : ((Sketch.tipsOf [] tree.sketches).map tipReloaded).map Sketch.tipEntry =
      (Sketch.tipsOf [] tree.sketches).map Sketch.tipEntry := by
    rw [List.map_map]
    apply List.map_congr_left
    intro tip member
    have same := Sketch.entry_reloaded (Sketch.every_of_mem_tipsOf _ _ filled member)
    rw [Function.comp_apply, tipReloaded, Sketch.tipEntry, Sketch.tipEntry, same]
  have perm := tips.map Sketch.tipEntry
  rw [entries] at perm
  rw [toExport_properties (wellFormed_ofFlat loaded).1 walkable, toExport_properties wellFormed navigable]
  exact SortedMap.ofList_eq_of_perm (Sketch.nodup_keys_tipsOf walkable Sketch.entry) perm

/-- Blank descriptions and default values, a default value that is refused, a keyword that is not known and an object
with properties. -/
def blankMap : FlatMap := .ofList
  [("app.rules", ⟨" ", .null, .object [("type", .string "array"), ("items", .object [("type", .string "object"),
      ("properties", .object [("limit", .object [("type", .string "number"), ("unit", .string "ms")])])])]⟩),
    ("app.level", ⟨"", .bool true, .object [("enum", .array [.string "low", .string "high"])]⟩),
    ("flags", ⟨"", .null, .object [("type", .string "object"),
      ("properties", .object [("ready", .object [("type", .string "boolean")])])]⟩)]

def blankTree : SchemaTree := (ofFlat blankMap).toOption.getD empty

theorem export_again_of_blankMap : ofFlat blankMap = .ok blankTree ∧ blankTree.Tidy ∧
    ∃ again, ofFlat blankTree.toExport.properties = .ok again ∧
      again.toExport.properties = blankTree.toExport.properties :=
  have done : ofFlat blankMap = .ok blankTree := by decide +kernel
  have tidy : blankTree.Tidy := tidy_of_nodes (by decide +kernel) (by decide +kernel) (by decide +kernel)
  ⟨done, tidy, export_again done tidy⟩

end SchemaTree

end ConfigSchema
