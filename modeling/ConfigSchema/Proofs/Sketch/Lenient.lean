import ConfigSchema.Proofs.Sketch.Grafting
import ConfigSchema.Proofs.Sketch.Spots

/-! Sketches in which nothing outside of arrays must be there. Only what is inside the items of an array can still be
required; everything above is a tip, whose kind is all that counts, or an object on the way to one. -/

namespace ConfigSchema.Sketch

/-- Neither the sketch nor anything that is reached from it through objects is required. -/
abbrev Lenient (sketch : Sketch) : Prop := sketch.Along fun attributes => attributes.required = false

abbrev LenientAll (sketches : List Sketch) : Prop := AlongAll (fun attributes => attributes.required = false) sketches

mutual
def loosened : Sketch → Sketch
  | mk attributes children =>
    mk { attributes with required := false } (if attributes.kind = .object then loosenedAll children else children)

def loosenedAll : List Sketch → List Sketch
  | [] => []
  | sketch :: rest => sketch.loosened :: loosenedAll rest
end

def loosenedTip (tip : List String × Sketch) : List String × Sketch :=
  (tip.1, mk { tip.2.attributes with required := false } tip.2.children)

mutual
theorem lenient_loosened : (sketch : Sketch) → sketch.loosened.Lenient
  | mk attributes children => by
    rw [loosened]
    refine ⟨rfl, fun object => ?_⟩
    rw [if_pos object]
    exact lenientAll_loosenedAll children

theorem lenientAll_loosenedAll : (sketches : List Sketch) → LenientAll (loosenedAll sketches)
  | [] => trivial
  | sketch :: rest => ⟨lenient_loosened sketch, lenientAll_loosenedAll rest⟩
end

theorem isEmpty_loosenedAll (sketches : List Sketch) : (loosenedAll sketches).isEmpty = sketches.isEmpty := by
  cases sketches <;> rfl

theorem isOpen_loosened (sketch : Sketch) : sketch.loosened.isOpen = sketch.isOpen := by
  obtain ⟨attributes, children⟩ := sketch
  rw [loosened, isOpen, isOpen, kind_mk, kind_mk, children_mk, children_mk]
  by_cases object : attributes.kind = .object <;> simp [object, isEmpty_loosenedAll]

mutual
theorem tips_loosened : (sketch : Sketch) → ∀ above : List String,
    sketch.loosened.tips above = (sketch.tips above).map loosenedTip
  | mk attributes children, above => by
    have same := isOpen_loosened (mk attributes children)
    cases opened : (mk attributes children).isOpen with
    | false =>
      rw [opened] at same
      rw [tips_of_closed same, tips_of_closed opened, List.map_singleton, loosenedTip, loosened]
      by_cases object : attributes.kind = .object
      · -- an object that is a tip is empty, so that nothing is loosened below it
        have empty : children = [] := by simpa [isOpen, object] using opened
        rw [if_pos object, empty]
        rfl
      · rw [if_neg object]
        rfl
    | true =>
      have object : attributes.kind = .object := (isOpen_iff.mp opened).1
      rw [opened] at same
      rw [tips_of_open same, tips_of_open opened, loosened, if_pos object]
      exact tipsOf_loosenedAll children (above ++ [attributes.name])

theorem tipsOf_loosenedAll : (sketches : List Sketch) → ∀ above : List String,
    tipsOf above (loosenedAll sketches) = (tipsOf above sketches).map loosenedTip
  | [], _ => rfl
  | sketch :: rest, above => by
    rw [loosenedAll, tipsOf, tipsOf, List.map_append, tips_loosened sketch, tipsOf_loosenedAll rest]
end

mutual
theorem loosened_of_lenient : (sketch : Sketch) → sketch.Lenient → sketch.loosened = sketch
  | mk attributes children, lenient => by
    have free : { attributes with required := false } = attributes := by rw [← lenient.1]
    rw [loosened, free]
    split
    · rename_i object
      rw [loosenedAll_of_lenientAll children (lenient.2 object)]
    · rfl

theorem loosenedAll_of_lenientAll : (sketches : List Sketch) → LenientAll sketches → loosenedAll sketches = sketches
  | [], _ => rfl
  | sketch :: rest, lenient => by
    rw [loosenedAll, loosened_of_lenient sketch lenient.1, loosenedAll_of_lenientAll rest lenient.2]
end

def Loosens (old spot : List String × Attributes) : Prop :=
  spot = old ∨ spot = (old.1, { old.2 with required := false })

mutual
theorem exists_spot_of_loosened : (sketch : Sketch) → ∀ above : List String,
    ∀ spot ∈ sketch.loosened.spots above, ∃ old ∈ sketch.spots above, Loosens old spot
  | mk attributes children, above => by
    rw [loosened, spots, spots, List.forall_mem_cons]
    refine ⟨⟨_, List.mem_cons_self .., .inr rfl⟩, fun spot member => ?_⟩
    split at member
    · obtain ⟨old, listed, loosens⟩ := exists_spot_of_loosenedAll children _ spot member
      exact ⟨old, List.mem_cons_of_mem _ listed, loosens⟩
    · exact ⟨spot, List.mem_cons_of_mem _ member, .inl rfl⟩

theorem exists_spot_of_loosenedAll : (sketches : List Sketch) → ∀ above : List String,
    ∀ spot ∈ spotsOf above (loosenedAll sketches), ∃ old ∈ spotsOf above sketches, Loosens old spot
  | [], _ => by simp [loosenedAll, spotsOf]
  | sketch :: rest, above => by
    rw [loosenedAll, spotsOf, spotsOf, List.forall_mem_append]
    constructor
    · intro spot member
      obtain ⟨old, listed, loosens⟩ := exists_spot_of_loosened sketch above spot member
      exact ⟨old, List.mem_append_left _ listed, loosens⟩
    · intro spot member
      obtain ⟨old, listed, loosens⟩ := exists_spot_of_loosenedAll rest above spot member
      exact ⟨old, List.mem_append_right _ listed, loosens⟩
end

theorem LenientAll.append_singleton {sketches : List Sketch} (lenient : LenientAll sketches) {sketch : Sketch}
    (last : sketch.Lenient) : LenientAll (sketches ++ [sketch]) := by
  induction sketches with
  | nil => exact ⟨last, trivial⟩
  | cons first rest ih => exact ⟨lenient.1, ih lenient.2⟩

theorem LenientAll.within {change : List Sketch → List Sketch}
    (keeps : ∀ sketches, LenientAll sketches → LenientAll (change sketches)) (name : String) {sketches : List Sketch}
    (lenient : LenientAll sketches) : LenientAll (Sketch.within name change sketches) := by
  induction sketches with
  | nil => exact ⟨⟨rfl, fun _ => keeps [] trivial⟩, trivial⟩
  | cons sketch rest ih =>
    obtain ⟨attributes, children⟩ := sketch
    rw [Sketch.within]
    split
    · exact ⟨⟨lenient.1.1, fun object => keeps children (lenient.1.2 object)⟩, lenient.2⟩
    · exact ⟨lenient.1, ih lenient.2⟩

/-- Grafting a lenient sketch makes nothing required, nor do the objects that it needs. -/
theorem LenientAll.graft {sketches : List Sketch} (lenient : LenientAll sketches) {leaf : Sketch}
    (last : leaf.Lenient) (names : List String) : LenientAll (Sketch.graft names leaf sketches) := by
  induction names generalizing sketches with
  | nil => exact lenient.append_singleton last
  | cons name rest ih =>
    rw [graft_cons]
    exact lenient.within (fun _ inside => ih inside) name

/-- A closed sketch that is not required is lenient. -/
theorem lenient_of_closed {sketch : Sketch} (closed : sketch.isOpen = false)
    (free : sketch.attributes.required = false) : sketch.Lenient := by
  obtain ⟨attributes, children⟩ := sketch
  refine ⟨free, fun object => ?_⟩
  have empty : children = [] := by simpa [isOpen, object] using closed
  rw [empty]
  trivial

end ConfigSchema.Sketch
