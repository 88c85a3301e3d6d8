import ConfigSchema.Proofs.Sketch.Rereading
import ConfigSchema.Proofs.Sketch.Tips

/-! All sketches inside sketches by the names that lead to them. Tips tell the kinds at all names: a kind stands
inside a tip, or it is that of an object on the way to one. -/

namespace ConfigSchema.Sketch

mutual
/-- The attributes of a sketch and of all sketches inside it, each with the names that lead there. -/
def spots (above : List String) : Sketch → List (List String × Attributes)
  | mk attributes children =>
    (above ++ [attributes.name], attributes) :: spotsOf (above ++ [attributes.name]) children

def spotsOf (above : List String) : List Sketch → List (List String × Attributes)
  | [] => []
  | sketch :: rest => sketch.spots above ++ spotsOf above rest
end

def tipSpots (tip : List String × Sketch) : List (List String × Attributes) :=
  (tip.1, tip.2.attributes) :: spotsOf tip.1 tip.2.children

def HasKind (spots : List (List String × Attributes)) (names : List String) (kind : Kind) : Prop :=
  ∃ spot ∈ spots, spot.1 = names ∧ spot.2.kind = kind

def OnTheWay (tips : List (List String × Sketch)) (above names : List String) : Prop :=
  ∃ tip ∈ tips, above <+: names ∧ above ≠ names ∧ names <+: tip.1 ∧ names ≠ tip.1

section

variable {names : List String}

theorem hasKind_cons {spot : List String × Attributes} {rest : List (List String × Attributes)} {kind : Kind} :
    HasKind (spot :: rest) names kind ↔ (spot.1 = names ∧ spot.2.kind = kind) ∨ HasKind rest names kind := by
  simp [HasKind]

theorem onTheWay_append {first second : List (List String × Sketch)} {above : List String} :
    OnTheWay (first ++ second) above names ↔ OnTheWay first above names ∨ OnTheWay second above names := by
  simp [OnTheWay, or_and_right, exists_or]

theorem onTheWay_map (change : List String × Sketch → List String × Sketch) (same : ∀ tip, (change tip).1 = tip.1)
    {tips : List (List String × Sketch)} {above : List String} :
    OnTheWay (tips.map change) above names ↔ OnTheWay tips above names := by
  simp only [OnTheWay, List.mem_map, exists_exists_and_eq_and, same]

/-- Nothing lies between two lists of names of which one has one name more. -/
theorem not_onTheWay_single {above : List String} {name : String} {sketch : Sketch} :
    ¬OnTheWay [(above ++ [name], sketch)] above names := by
  rintro ⟨tip, member, start, more, within, less⟩
  obtain rfl := List.mem_singleton.mp member
  have longer := Path.length_lt_of_prefix start more
  have shorter := Path.length_lt_of_prefix within less
  rw [List.length_append, List.length_singleton] at shorter
  omega

theorem onTheWay_iff_of_start {above : List String} {name : String} {tips : List (List String × Sketch)}
    (some_tip : tips ≠ []) (start : ∀ tip ∈ tips, above ++ [name] <+: tip.1 ∧ above ++ [name] ≠ tip.1) :
    OnTheWay tips above names ↔ above ++ [name] = names ∨ OnTheWay tips (above ++ [name]) names := by
  constructor
  · rintro ⟨tip, member, begins, more, within, less⟩
    have longer := Path.length_lt_of_prefix begins more
    have next : above ++ [name] <+: names :=
      List.prefix_of_prefix_length_le (start tip member).1 within (by simpa using Nat.succ_le_of_lt longer)
    by_cases here : above ++ [name] = names
    · exact .inl here
    · exact .inr ⟨tip, member, next, here, within, less⟩
  · rintro (rfl | ⟨tip, member, begins, more, within, less⟩)
    · obtain ⟨tip, member⟩ := List.exists_mem_of_ne_nil tips some_tip
      exact ⟨tip, member, List.prefix_append .., by simp, start tip member⟩
    · refine ⟨tip, member, (List.prefix_append ..).trans begins, ?_, within, less⟩
      rintro rfl
      have bound := begins.length_le
      rw [List.length_append, List.length_singleton] at bound
      omega

theorem onTheWay_tipsOf_iff {above : List String} {name : String} {children : List Sketch} (filled : children ≠ []) :
    OnTheWay (tipsOf (above ++ [name]) children) above names ↔
      above ++ [name] = names ∨ OnTheWay (tipsOf (above ++ [name]) children) (above ++ [name]) names := by
  obtain ⟨first, listed⟩ := exists_tipOf (above ++ [name]) children filled
  refine onTheWay_iff_of_start (List.ne_nil_of_mem listed) fun tip member => ?_
  obtain ⟨child, _, longer⟩ := prefix_of_mem_tipsOf children _ member
  refine ⟨(List.prefix_append ..).trans longer, fun same => ?_⟩
  have bound := longer.length_le
  rw [← same, List.length_append, List.length_singleton] at bound
  omega

end

mutual
def Along (fits : Attributes → Prop) : Sketch → Prop
  | mk attributes children => fits attributes ∧ (attributes.kind = .object → AlongAll fits children)

def AlongAll (fits : Attributes → Prop) : List Sketch → Prop
  | [] => True
  | sketch :: rest => sketch.Along fits ∧ AlongAll fits rest
end

mutual
theorem along_of_forall {fits : Attributes → Prop} (all : ∀ attributes, fits attributes) :
    (sketch : Sketch) → sketch.Along fits
  | mk attributes children => ⟨all attributes, fun _ => alongAll_of_forall all children⟩

theorem alongAll_of_forall {fits : Attributes → Prop} (all : ∀ attributes, fits attributes) :
    (sketches : List Sketch) → AlongAll fits sketches
  | [] => trivial
  | sketch :: rest => ⟨along_of_forall all sketch, alongAll_of_forall all rest⟩
end

section

variable {fits : Attributes → Prop} {property : List String → Attributes → Prop} {between : List String → Prop}

mutual
/-- What holds at all spots can be told from the tips, if at the objects on the way to them it depends on the names
alone. -/
theorem forall_spots_iff (plain : ∀ names attributes, attributes.kind = .object → fits attributes →
    (property names attributes ↔ between names)) : (sketch : Sketch) → sketch.Along fits → ∀ above : List String,
    ((∀ spot ∈ sketch.spots above, property spot.1 spot.2) ↔
      (∀ tip ∈ sketch.tips above, ∀ spot ∈ tipSpots tip, property spot.1 spot.2) ∧
        ∀ names, OnTheWay (sketch.tips above) above names → between names)
  | mk attributes children, along, above => by
    cases opened : (mk attributes children).isOpen with
    | false =>
      rw [tips_of_closed opened]
      simp only [not_onTheWay_single, false_implies, implies_true, and_true, List.forall_mem_singleton]
      rfl
    | true =>
      obtain ⟨object, filled⟩ := isOpen_iff.mp opened
      rw [children_mk] at filled
      rw [tips_of_open opened, spots, List.forall_mem_cons, forall_spotsOf_iff plain children (along.2 object),
        name_mk, children_mk]
      -- the sketch itself is the first place on the way to the tips below it
      simp only [onTheWay_tipsOf_iff filled]
      rw [plain _ attributes object along.1]
      constructor
      · rintro ⟨own, inside, way⟩
        exact ⟨inside, fun names => by rintro (rfl | further); exacts [own, way names further]⟩
      · rintro ⟨inside, way⟩
        exact ⟨way _ (.inl rfl), inside, fun names further => way names (.inr further)⟩

theorem forall_spotsOf_iff (plain : ∀ names attributes, attributes.kind = .object → fits attributes →
    (property names attributes ↔ between names)) : (sketches : List Sketch) → AlongAll fits sketches →
    ∀ above : List String, ((∀ spot ∈ spotsOf above sketches, property spot.1 spot.2) ↔
      (∀ tip ∈ tipsOf above sketches, ∀ spot ∈ tipSpots tip, property spot.1 spot.2) ∧
        ∀ names, OnTheWay (tipsOf above sketches) above names → between names)
  | [], _, above => by simp [OnTheWay, spotsOf, tipsOf]
  | sketch :: rest, along, above => by
    rw [spotsOf, tipsOf, List.forall_mem_append, List.forall_mem_append, forall_spots_iff plain sketch along.1,
      forall_spotsOf_iff plain rest along.2]
    simp only [onTheWay_append, or_imp, forall_and]
    exact and_and_and_comm
end

end

theorem hasKind_spotsOf_iff (sketches : List Sketch) (above names : List String) (kind : Kind) :
    HasKind (spotsOf above sketches) names kind ↔
      (∃ tip ∈ tipsOf above sketches, HasKind (tipSpots tip) names kind) ∨
        (kind = .object ∧ OnTheWay (tipsOf above sketches) above names) := by
  -- that nothing of this kind lies here is a property of all spots
  have plain : ∀ here (attributes : Attributes), attributes.kind = .object → True →
      (¬(here = names ∧ attributes.kind = kind) ↔ ¬(here = names ∧ .object = kind)) :=
    fun here attributes object _ => by rw [object]
  have nowhere := forall_spotsOf_iff plain sketches (alongAll_of_forall (fun _ => trivial) sketches) above
  constructor
  · intro kept
    by_contra missing
    rw [not_or] at missing
    obtain ⟨spot, member, there⟩ := kept
    refine nowhere.mpr ⟨fun tip listed spot inside there => ?_, ?_⟩ spot member there
    · exact missing.1 ⟨tip, listed, spot, inside, there⟩
    · rintro _ way ⟨rfl, rfl⟩
      exact missing.2 ⟨rfl, way⟩
  · intro shown
    by_contra missing
    obtain ⟨inside, way⟩ := nowhere.mp fun spot member there => missing ⟨spot, member, there⟩
    rcases shown with ⟨tip, listed, spot, member, there⟩ | ⟨rfl, further⟩
    · exact inside tip listed spot member there
    · exact way names further ⟨rfl, rfl⟩

mutual
theorem spots_reread (filled : Bool) : (sketch : Sketch) → ∀ above : List String,
    (sketch.reread filled).spots above =
      (sketch.spots above).map fun spot => (spot.1, spot.2.reread filled)
  | mk attributes children, above => by
    rw [reread, spots, spots, spotsOf_rereads filled children]
    rfl

theorem spotsOf_rereads (filled : Bool) : (sketches : List Sketch) → ∀ above : List String,
    spotsOf above (rereads filled sketches) =
      (spotsOf above sketches).map fun spot => (spot.1, spot.2.reread filled)
  | [], _ => rfl
  | sketch :: rest, above => by
    rw [rereads, spotsOf, spotsOf, spots_reread filled sketch, spotsOf_rereads filled rest, List.map_append]
end

end ConfigSchema.Sketch
