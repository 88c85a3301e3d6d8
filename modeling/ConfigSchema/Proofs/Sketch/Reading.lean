import ConfigSchema.Proofs.Json.Reading
import ConfigSchema.Proofs.Sketch.Rereading

/-! What holds of every sketch that is read from a node. Only containers have sketches below them, and attributes
that were filled while reading stay as they are when they are read again. -/

namespace ConfigSchema

open Json

/-- A default value that was made up stays as it is. -/
theorem defaultOr_defaultOr (value : Option Json) (kind : Kind) :
    defaultOr (some (defaultOr value kind)) kind = defaultOr value kind := by
  cases blank : isBlankValue value with
  | true => simp [defaultOr, blank]
  | false =>
    cases value with
    | none => simp [isBlankValue] at blank
    | some value => simp [defaultOr, blank]

theorem descriptionOr_descriptionOr (description name : String) :
    descriptionOr (descriptionOr description name) name = descriptionOr description name := by
  cases blank : Text.isBlankText description <;> simp [descriptionOr, blank]

theorem Kind.settled_of_ofNode {node : Json} {path : String} {kind : Kind}
    (read : Kind.ofNode node path = .ok kind) : kind.settled = kind := by
  unfold ofNode at read
  split at read
  · cases read
  · cases read
    simp [settled, textRulesOfNode, Option.filter_filter]
  · cases read
    rfl
  · cases read
    rfl
  · obtain ⟨item, _, rfl⟩ := Except.map_eq_ok_iff.mp read
    rfl
  · cases read
    rfl

/-- Reading with blanks made up changes nothing more. -/
def Attributes.Filled (attributes : Attributes) : Prop := attributes.reread true = attributes

theorem Attributes.filled_of_made (name description : String) (required : Bool) (value : Option Json) {kind : Kind}
    (settled : kind.settled = kind) : Filled
      { name, kind, description := descriptionOr description name, required
        defaultValue := some (defaultOr value kind) } := by
  simp [Filled, reread, settled, descriptionOr_descriptionOr, defaultOr_defaultOr]

namespace Sketch

variable {filled : Bool} {fit : Json → Prop} {property : Sketch → Prop}

def Inherited (fit : Json → Prop) : Prop :=
  ∀ ⦃members : List (String × Json)⦄, fit (.object members) → ∀ member ∈ members, fit member.2

theorem inherited_true : Inherited fun _ => True := fun _ _ _ _ => trivial

theorem inherited_distinct : Inherited Json.Distinct := fun _ distinct => Json.distinctMembers_iff.mp distinct.2

def HeldByReading (filled : Bool) (fit : Json → Prop) (property : Sketch → Prop) : Prop :=
  ∀ ⦃path name : String⦄ ⦃given : Given⦄ ⦃kind : Kind⦄ ⦃node : Json⦄ ⦃below : List Sketch⦄, fit node →
    Kind.ofNode node path = .ok kind → ofNodeBelow filled path kind node = .ok below →
      property (mk (attributesOf filled name given kind node) below)

mutual
theorem ofNodeBelow_every (inherited : Inherited fit) (held : HeldByReading filled fit property) {path : String}
    {kind : Kind} {below : List Sketch} :
    (node : Json) → fit node → ofNodeBelow filled path kind node = .ok below → EveryOf property below
  | .object members, whole, done => by
    rcases kind with _ | _ | _ | (_ | _ | _ | _ | _) | _
    case object => exact ofContainer_every inherited held members (inherited whole) done
    case array.some.object => exact ofItems_every inherited held members (inherited whole) done
    all_goals
      cases done
      trivial
  | .null, _, done | .bool _, _, done | .number _, _, done | .string _, _, done | .array _, _, done => by
    have leaf : below = [] := by
      rcases kind with _ | _ | _ | (_ | _ | _ | _ | _) | _ <;> cases done <;> rfl
    rw [leaf]
    trivial

theorem ofContainer_every (inherited : Inherited fit) (held : HeldByReading filled fit property) {path : String}
    {required : List String} {below : List Sketch} :
    (members : List (String × Json)) → (∀ member ∈ members, fit member.2) →
      ofContainer filled path required members = .ok below → EveryOf property below
  | [], _, done => by
    cases done
    trivial
  | (name, value) :: rest, whole, done => by
    rw [List.forall_mem_cons] at whole
    by_cases named : name = "properties"
    · cases value with
      | object properties =>
        have inside : ofProperties filled path required properties = .ok below := by
          simpa [ofContainer, named] using done
        exact ofProperties_every inherited held properties (inherited whole.1) inside
      | _ => simp [ofContainer, named, throw, throwThe, MonadExceptOf.throw] at done
    · have later : ofContainer filled path required rest = .ok below := by
        cases value <;> simpa [ofContainer, named] using done
      exact ofContainer_every inherited held rest whole.2 later

theorem ofItems_every (inherited : Inherited fit) (held : HeldByReading filled fit property) {path : String}
    {below : List Sketch} :
    (members : List (String × Json)) → (∀ member ∈ members, fit member.2) →
      ofItems filled path members = .ok below → EveryOf property below
  | [], _, done => by
    cases done
    trivial
  | (name, value) :: rest, whole, done => by
    rw [List.forall_mem_cons] at whole
    by_cases named : name = "items"
    · cases value with
      | object items =>
        have inside : ofContainer filled path (requiredNames items) items = .ok below := by
          simpa [ofItems, named] using done
        exact ofContainer_every inherited held items (inherited whole.1) inside
      | _ =>
        have leaf : below = [] := by simpa [ofItems, named, pure, Except.pure, eq_comm] using done
        rw [leaf]
        trivial
    · have later : ofItems filled path rest = .ok below := by
        cases value <;> simpa [ofItems, named] using done
      exact ofItems_every inherited held rest whole.2 later

theorem ofProperties_every (inherited : Inherited fit) (held : HeldByReading filled fit property) {path : String}
    {required : List String} {sketches : List Sketch} :
    (properties : List (String × Json)) → (∀ member ∈ properties, fit member.2) →
      ofProperties filled path required properties = .ok sketches → EveryOf property sketches
  | [], _, done => by
    cases done
    trivial
  | (name, node) :: rest, whole, done => by
    rw [List.forall_mem_cons] at whole
    rw [ofProperties] at done
    obtain ⟨first, here, later⟩ := Except.bind_eq_ok_iff.mp done
    obtain ⟨others, there, same⟩ := Except.bind_eq_ok_iff.mp later
    cases same
    rw [ofProperty_eq, ofNode] at here
    obtain ⟨kind, said, inside⟩ := Except.bind_eq_ok_iff.mp here
    obtain ⟨below, listed, same⟩ := Except.bind_eq_ok_iff.mp inside
    cases same
    exact ⟨⟨held whole.1 said listed, ofNodeBelow_every inherited held node whole.1 listed⟩,
      ofProperties_every inherited held rest whole.2 there⟩
end

theorem ofNode_every (inherited : Inherited fit) (held : HeldByReading filled fit property) {path name : String}
    {given : Given} {node : Json} {sketch : Sketch} (whole : fit node)
    (read : ofNode filled path name given node = .ok sketch) : sketch.Every property := by
  obtain ⟨kind, said, inside⟩ := Except.bind_eq_ok_iff.mp read
  obtain ⟨below, listed, same⟩ := Except.bind_eq_ok_iff.mp inside
  cases same
  exact ⟨held whole said listed, ofNodeBelow_every inherited held node whole listed⟩

theorem sound_heldByReading (filled : Bool) :
    HeldByReading filled (fun _ => True) fun sketch =>
      sketch.children ≠ [] → sketch.kind.holdsFields = true := by
  intro path name given kind node below _ _ inside some_below
  cases holds : kind.holdsFields with
  | true => exact holds
  | false =>
    rw [ofNodeBelow_leaf holds] at inside
    cases inside
    exact absurd rfl some_below

theorem filled_heldByReading : HeldByReading true (fun _ => True) fun sketch => sketch.attributes.Filled := by
  intro path name given kind node below _ said _
  exact Attributes.filled_of_made name _ given.required _ (Kind.settled_of_ofNode said)

theorem settled_heldByReading (filled : Bool) :
    HeldByReading filled (fun _ => True) fun sketch => sketch.kind.settled = sketch.kind := by
  intro path name given kind node below _ said _
  exact Kind.settled_of_ofNode said

theorem names_of_properties {path : String} {required : List String} {properties : List (String × Json)}
    {sketches : List Sketch} (done : ofProperties filled path required properties = .ok sketches) :
    sketches.map name = Keyed.keys properties := by
  induction properties generalizing sketches with
  | nil =>
    cases done
    rfl
  | cons property rest ih =>
    rw [ofProperties] at done
    obtain ⟨first, here, later⟩ := Except.bind_eq_ok_iff.mp done
    obtain ⟨others, there, same⟩ := Except.bind_eq_ok_iff.mp later
    cases same
    rw [ofProperty_eq, ofNode] at here
    obtain ⟨kind, _, inside⟩ := Except.bind_eq_ok_iff.mp here
    obtain ⟨below, _, same⟩ := Except.bind_eq_ok_iff.mp inside
    cases same
    rw [List.map_cons, ih there]
    rfl

theorem nodup_names_of_container {path : String} {required : List String} {members : List (String × Json)}
    {sketches : List Sketch} (distinct : (Json.object members).Distinct)
    (done : ofContainer filled path required members = .ok sketches) : (sketches.map name).Nodup := by
  rw [ofContainer_eq] at done
  split at done
  · cases done
    exact List.nodup_nil
  · rename_i properties found
    have inside : (Json.object properties).Distinct := inherited_distinct distinct _ (Keyed.mem_of_find? found)
    rw [names_of_properties done]
    exact inside.1
  · cases done

/-- Where objects name their members once, sketches that lie side by side have different names. -/
theorem distinct_heldByReading (filled : Bool) :
    HeldByReading filled Json.Distinct fun sketch => (sketch.children.map name).Nodup := by
  intro path name given kind node below distinct _ inside
  rw [children_mk]
  cases node with
  | object members =>
    rcases kind with _ | _ | _ | (_ | _ | _ | _ | _) | _
    case object.object => exact nodup_names_of_container distinct inside
    case object.array.some.object =>
      rw [ofNodeBelow, ofItems_eq] at inside
      split at inside
      · rename_i items found
        exact nodup_names_of_container (inherited_distinct distinct _ (Keyed.mem_of_find? found)) inside
      · cases inside
        exact List.nodup_nil
    all_goals
      cases inside
      exact List.nodup_nil
  | _ =>
    rcases kind with _ | _ | _ | (_ | _ | _ | _ | _) | _
    all_goals
      cases inside
      exact List.nodup_nil

theorem name_of_read {path name : String} {given : Given} {node : Json} {sketch : Sketch}
    (read : ofNode filled path name given node = .ok sketch) : sketch.name = name := by
  obtain ⟨kind, _, inside⟩ := Except.bind_eq_ok_iff.mp read
  obtain ⟨below, _, same⟩ := Except.bind_eq_ok_iff.mp inside
  cases same
  rfl

theorem kind_of_read {path name : String} {given : Given} {node : Json} {sketch : Sketch}
    (read : ofNode filled path name given node = .ok sketch) : Kind.ofNode node path = .ok sketch.kind := by
  obtain ⟨kind, said, inside⟩ := Except.bind_eq_ok_iff.mp read
  obtain ⟨below, _, same⟩ := Except.bind_eq_ok_iff.mp inside
  cases same
  exact said

theorem required_of_read {path name : String} {given : Given} {node : Json} {sketch : Sketch}
    (read : ofNode filled path name given node = .ok sketch) : sketch.attributes.required = given.required := by
  obtain ⟨kind, _, inside⟩ := Except.bind_eq_ok_iff.mp read
  obtain ⟨below, _, same⟩ := Except.bind_eq_ok_iff.mp inside
  cases same
  rfl

/-- Only containers have sketches below them, wherever they are read from. -/
theorem sound_of_read {path name : String} {given : Given} {node : Json} {sketch : Sketch}
    (read : ofNode filled path name given node = .ok sketch) : sketch.Sound :=
  ofNode_every inherited_true (sound_heldByReading filled) trivial read

theorem filled_of_read {path name : String} {given : Given} {node : Json} {sketch : Sketch}
    (read : ofNode true path name given node = .ok sketch) :
    sketch.Every fun sketch => sketch.attributes.Filled :=
  ofNode_every inherited_true filled_heldByReading trivial read

mutual
theorem reread_filled : (sketch : Sketch) → (sketch.Every fun sketch => sketch.attributes.Filled) →
    sketch.reread true = sketch
  | mk attributes children, every => by
    have own : attributes.reread true = attributes := every.here
    rw [reread, own, rereads_filled children every.below]

theorem rereads_filled : (sketches : List Sketch) →
    (∀ sketch ∈ sketches, sketch.Every fun sketch => sketch.attributes.Filled) →
    rereads true sketches = sketches
  | [], _ => rfl
  | sketch :: rest, every => by
    rw [List.forall_mem_cons] at every
    rw [rereads, reread_filled sketch every.1, rereads_filled rest every.2]
end

end Sketch

end ConfigSchema
