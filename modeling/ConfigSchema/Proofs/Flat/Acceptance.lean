import ConfigSchema.Pattern.Reader
import ConfigSchema.Proofs.Field.Kinds
import ConfigSchema.Proofs.Flat.RoundTrip

/-! What trees accept. A configuration is accepted if the value at the path of every field is fit for the field. A flat
map has no place for what is required, so a tree that was saved and loaded again accepts what the tree would accept
that was saved, did it require nothing outside of arrays. -/

namespace ConfigSchema

section

variable [Pattern.Engine]

def Kind.Permits (kind : Kind) (required : Bool) (value : Option Json) : Prop :=
  if isBlankValue value then required = false else kind.violations (value.getD .null) = []

def Attributes.Met (attributes : Attributes) (values : List (String × Json)) (names : List String) : Prop :=
  attributes.kind.Permits attributes.required (Keyed.find? (Path.dotted names) values)

theorem Kind.permits_settled {kind : Kind} {required : Bool} {value : Option Json} :
    kind.settled.Permits required value ↔ kind.Permits required value := by
  rw [Permits, Permits, violations_settled]

theorem Kind.Permits.free {kind : Kind} {required : Bool} {value : Option Json} (permits : kind.Permits required value) :
    kind.Permits false value := by
  unfold Permits at permits ⊢
  split
  · rfl
  · rename_i given
    rwa [if_neg given] at permits

theorem Field.issues_eq_nil_iff (field : Field) (path : String) (value : Option Json) :
    field.issues path value = [] ↔ field.kind.Permits field.required value := by
  rw [issues, Kind.Permits]
  split
  · cases field.required <;> simp
  · rw [List.map_eq_nil_iff]

end

namespace Branch

section

variable [Pattern.Engine] {values : List (String × Json)}

mutual
theorem issues_eq_nil_iff : (branch : Branch) → ∀ above : List String,
    (∀ spot ∈ branch.sketch.spots above, ∀ name ∈ spot.1, Path.IsName name) →
      (branch.issues values (Path.dotted above) = [] ↔
        ∀ spot ∈ branch.sketch.spots above, spot.2.Met values spot.1)
  | mk field children, above, named => by
    rw [sketch, Sketch.spots, List.forall_mem_cons] at named
    have path : Path.join (Path.dotted above) field.name = Path.dotted (above ++ [field.name]) :=
      Path.join_dotted (List.forall_mem_append.mp named.1).1 field.name
    simp only [issues, path, List.append_eq_nil_iff, field.issues_eq_nil_iff, sketch, Sketch.spots,
      List.forall_mem_cons]
    exact and_congr_right' (forestIssues_eq_nil_iff children (above ++ [field.name]) named.2)

theorem forestIssues_eq_nil_iff : (forest : Forest) → ∀ above : List String,
    (∀ spot ∈ Sketch.spotsOf above (sketches forest), ∀ name ∈ spot.1, Path.IsName name) →
      (forestIssues values (Path.dotted above) forest = [] ↔
        ∀ spot ∈ Sketch.spotsOf above (sketches forest), spot.2.Met values spot.1)
  | [], _, _ => by simp [forestIssues, sketches, Sketch.spotsOf]
  | branch :: rest, above, named => by
    rw [sketches, Sketch.spotsOf, List.forall_mem_append] at named
    rw [forestIssues, List.append_eq_nil_iff, sketches, Sketch.spotsOf, List.forall_mem_append,
      issues_eq_nil_iff branch above named.1, forestIssues_eq_nil_iff rest above named.2]
end

end

/-- Reports on a configuration of the fields of a forest. -/
def report [Pattern.Engine] (values : List (String × Json)) (forest : Forest) : Report :=
  ⟨(forestIssues values "" forest).map Issue.message⟩

theorem isValid_report_iff [Pattern.Engine] {values : List (String × Json)} {forest : Forest}
    (named : ∀ spot ∈ Sketch.spotsOf [] (sketches forest), ∀ name ∈ spot.1, Path.IsName name) :
    (report values forest).isValid = true ↔
      ∀ spot ∈ Sketch.spotsOf [] (sketches forest), spot.2.Met values spot.1 := by
  rw [← forestIssues_eq_nil_iff forest [] named, report, Report.isValid, List.isEmpty_iff, List.map_eq_nil_iff]
  rfl

mutual
/-- The branch with nothing required that is reached through objects. -/
def loosened : Branch → Branch
  | mk field children =>
    mk { field with required := false } (if field.kind = .object then loosenedAll children else children)

def loosenedAll : Forest → Forest
  | [] => []
  | branch :: rest => branch.loosened :: loosenedAll rest
end

mutual
theorem sketch_loosened : (branch : Branch) → branch.loosened.sketch = branch.sketch.loosened
  | mk field children => by
    have below : sketches (if field.kind = .object then loosenedAll children else children) =
        if field.kind = .object then Sketch.loosenedAll (sketches children) else sketches children := by
      rw [apply_ite sketches, sketches_loosenedAll children]
    rw [loosened, sketch, sketch, Sketch.loosened, below]
    rfl

theorem sketches_loosenedAll : (forest : Forest) → sketches (loosenedAll forest) = Sketch.loosenedAll (sketches forest)
  | [] => rfl
  | branch :: rest => by
    rw [loosenedAll, sketches, sketches, Sketch.loosenedAll, sketch_loosened branch, sketches_loosenedAll rest]
end

end Branch

namespace SchemaTree

variable {tree : SchemaTree} {values : List (String × Json)}

section

variable [Pattern.Engine]

theorem met_tipReloaded_iff (tip : List String × Sketch) :
    (∀ spot ∈ Sketch.tipSpots (tipReloaded tip), spot.2.Met values spot.1) ↔
      ∀ spot ∈ Sketch.tipSpots (Sketch.loosenedTip tip), spot.2.Met values spot.1 := by
  rw [tipSpots_tipReloaded, Sketch.tipSpots, List.forall_mem_cons, List.forall_mem_cons, List.forall_mem_map]
  refine and_congr ?_ (forall₂_congr fun spot _ => ?_)
  · exact Kind.permits_settled
  · exact Kind.permits_settled

theorem isValid_report_iff (wellFormed : tree.WellFormed) (tidy : tree.Tidy) :
    (tree.report values).isValid = true ↔
      ∀ spot ∈ Sketch.spotsOf [] tree.sketches, spot.2.Met values spot.1 :=
  Branch.isValid_report_iff (wellFormed.named_spots_sketches tidy)

theorem isValid_loosened_iff (wellFormed : tree.WellFormed) (tidy : tree.Tidy) :
    (Branch.report values (Branch.loosenedAll tree.forest)).isValid = true ↔
      ∀ spot ∈ Sketch.spotsOf [] (Sketch.loosenedAll tree.sketches), spot.2.Met values spot.1 := by
  rw [Branch.isValid_report_iff, Branch.sketches_loosenedAll]
  · rfl
  · rw [Branch.sketches_loosenedAll]
    intro spot member
    obtain ⟨old, listed, loosens⟩ := Sketch.exists_spot_of_loosenedAll tree.sketches [] spot member
    have named := wellFormed.named_spots_sketches tidy old listed
    rcases loosens with rfl | rfl <;> exact named

theorem isValid_loosened (wellFormed : tree.WellFormed) (tidy : tree.Tidy)
    (valid : (tree.report values).isValid = true) :
    (Branch.report values (Branch.loosenedAll tree.forest)).isValid = true := by
  rw [isValid_loosened_iff wellFormed tidy]
  intro spot member
  obtain ⟨old, listed, loosens⟩ := Sketch.exists_spot_of_loosenedAll tree.sketches [] spot member
  have met := (isValid_report_iff wellFormed tidy).mp valid old listed
  rcases loosens with rfl | rfl
  · exact met
  · exact Kind.Permits.free met

theorem isValid_reloaded_iff (wellFormed : tree.WellFormed) (tidy : tree.Tidy) {again : SchemaTree}
    (tips : (Sketch.tipsOf [] again.sketches).Perm ((Sketch.tipsOf [] tree.sketches).map tipReloaded)) :
    (again.report values).isValid = true ↔
      ∀ spot ∈ Sketch.spotsOf [] again.sketches, spot.2.Met values spot.1 := by
  refine Branch.isValid_report_iff fun spot member => ?_
  have kept : Sketch.HasKind (Sketch.spotsOf [] again.sketches) spot.1 spot.2.kind := ⟨spot, member, rfl, rfl⟩
  obtain ⟨_, ⟨old, listed, same, _⟩, _⟩ := (hasKind_reloaded tips _ _).mp kept
  rw [← same]
  exact wellFormed.named_spots_sketches tidy old listed

/-- Loading a saved tree loosens it: the tips and what is inside of them are as before, and so are the objects on the
way to them, but neither these nor the tips are required. -/
theorem isValid_reloaded (wellFormed : tree.WellFormed) (tidy : tree.Tidy) {again : SchemaTree}
    (loaded : ofFlat tree.toExport.properties = .ok again)
    (tips : (Sketch.tipsOf [] again.sketches).Perm ((Sketch.tipsOf [] tree.sketches).map tipReloaded)) :
    (again.report values).isValid = (Branch.report values (Branch.loosenedAll tree.forest)).isValid := by
  have plain : ∀ names (attributes : Attributes), attributes.kind = .object → attributes.required = false →
      (attributes.Met values names ↔ Kind.object.Permits false (Keyed.find? (Path.dotted names) values)) := by
    intro names attributes object free
    rw [Attributes.Met, object, free]
  -- both trees are lenient, so that their tips and the objects on the way to these say it all
  rw [Bool.eq_iff_iff, isValid_reloaded_iff wellFormed tidy tips, isValid_loosened_iff wellFormed tidy,
    Sketch.forall_spotsOf_iff plain again.sketches (lenient_reloaded wellFormed tidy loaded),
    Sketch.forall_spotsOf_iff plain _ (Sketch.lenientAll_loosenedAll tree.sketches), Sketch.tipsOf_loosenedAll]
  refine and_congr ?_ (forall_congr' fun names => ?_)
  · simp only [tips.mem_iff, List.forall_mem_map, met_tipReloaded_iff]
  · rw [onTheWay_reloaded tips, Sketch.onTheWay_map Sketch.loosenedTip fun _ => rfl]

/-- A saved tree that is loaded again accepts what the loosened tree accepts. That is all the tree itself accepts, and
no more if it required nothing outside of arrays. -/
theorem reload_keeps_acceptance (wellFormed : tree.WellFormed) (tidy : tree.Tidy) : ∃ again,
    ofFlat tree.toExport.properties = .ok again ∧ ∀ values : List (String × Json),
      (again.report values).isValid = (Branch.report values (Branch.loosenedAll tree.forest)).isValid ∧
      ((tree.report values).isValid = true → (again.report values).isValid = true) ∧
      (Sketch.LenientAll tree.sketches → (again.report values).isValid = (tree.report values).isValid) := by
  obtain ⟨again, loaded, _, _, tips⟩ := exists_reloaded wellFormed tidy
  refine ⟨again, loaded, fun values => ?_⟩
  have same : (again.report values).isValid = (Branch.report values (Branch.loosenedAll tree.forest)).isValid :=
    isValid_reloaded wellFormed tidy loaded tips
  refine ⟨same, fun valid => same.trans (isValid_loosened wellFormed tidy valid), fun lenient => ?_⟩
  rw [same, Bool.eq_iff_iff, isValid_loosened_iff wellFormed tidy, Sketch.loosenedAll_of_lenientAll _ lenient,
    isValid_report_iff wellFormed tidy]

end

def neededRun : List Edit :=
  let draft (name : String) (kind : Kind) : Attributes := ⟨name, kind, "", true, none⟩
  [.add 0 none (draft "net" .object), .add 0 (some (.ofSerial 0)) (draft "host" (.text ⟨none, none, some "", []⟩)),
    .add 0 none (draft "rows" (.array (some .object))),
    .add 0 (some (.ofSerial 2)) (draft "word" (.text ⟨none, none, none, []⟩))]

def neededTree : SchemaTree := neededRun.foldl Edit.apply empty

def neededValues : List (String × Json) :=
  [("net", .object []), ("net.host", .string "a"), ("rows", .array []), ("rows.word", .string "b")]

theorem reload_keeps_acceptance_of_neededTree : neededTree.WellFormed ∧ neededTree.Tidy ∧
    (neededTree.report neededValues).isValid = true ∧ ∃ again,
      ofFlat neededTree.toExport.properties = .ok again ∧ (again.report neededValues).isValid = true ∧
        (again.report [("rows.word", .string "b")]).isValid = true ∧ (again.report []).isValid = false := by
  have wellFormed : neededTree.WellFormed := (Reachable.empty.run neededRun).wellFormed
  have tidy : neededTree.Tidy := tidy_of_nodes (by decide) (by decide) (by decide)
  have accepted : (neededTree.report neededValues).isValid = true := by decide +kernel
  obtain ⟨again, loaded, verdict⟩ := reload_keeps_acceptance wellFormed tidy
  refine ⟨wellFormed, tidy, accepted, again, loaded, (verdict neededValues).2.1 accepted, ?_, ?_⟩
  · exact (verdict _).1.trans (by decide +kernel)
  · exact (verdict _).1.trans (by decide +kernel)

def singleTree : SchemaTree :=
  (Edit.add 0 none ⟨"x", .text ⟨none, none, none, []⟩, "", true, none⟩).apply empty

theorem required_lost_by_reload : singleTree.WellFormed ∧ singleTree.Tidy ∧ (singleTree.report []).isValid = false ∧
    ∃ again, ofFlat singleTree.toExport.properties = .ok again ∧ (again.report []).isValid = true := by
  have wellFormed : singleTree.WellFormed :=
    (Reachable.empty.run [.add 0 none ⟨"x", .text ⟨none, none, none, []⟩, "", true, none⟩]).wellFormed
  have tidy : singleTree.Tidy := tidy_of_nodes (by decide) (by decide) (by decide)
  exact ⟨wellFormed, tidy, by decide +kernel, _, rfl, by decide +kernel⟩

end SchemaTree

end ConfigSchema
