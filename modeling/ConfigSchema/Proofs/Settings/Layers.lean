import ConfigSchema.Proofs.Dotted
import ConfigSchema.Settings.Layers

/-! Layers of settings. A value is laid over the end of a path, and nothing is touched that stands at a path which parts
from that one. Main statement: entries that differ in one place still differ in that place only after the same layer is
laid over both, if its paths part from that of the place; and what stands there stays. -/

namespace ConfigSchema.Setting

/-- The entries of the table under a name; there are none if no table is there. -/
def inside (name : String) (entries : List (String × Setting)) : List (String × Setting) :=
  ((Keyed.find? name entries).map Setting.entries).getD []

theorem inside_put (name other : String) (value : Setting) (below : List (String × Setting)) :
    inside other (Keyed.put name value below) = if name = other then value.entries else inside other below := by
  rw [inside, Keyed.find?_put]
  split <;> rfl

theorem inside_of_find? {name : String} {entries : List (String × Setting)} {value : Setting}
    (found : Keyed.find? name entries = some value) : inside name entries = value.entries := by
  rw [inside, found]
  rfl

theorem overlay_of_closed {value : Setting} (closed : value.asTable? = none) (name : String)
    (below : List (String × Setting)) : overlay name below value = Keyed.put name value below := by
  cases value with
  | table _ => cases closed
  | _ => rfl

theorem overlayAt_cons_cons (value : Setting) (name next : String) (rest : List String)
    (below : List (String × Setting)) : overlayAt value (name :: next :: rest) below =
      Keyed.put name (table (overlayAt value (next :: rest) (inside name below))) below := rfl

/-- Only what stands under the first name of a path is replaced, and nothing else is looked at. -/
theorem exists_put (value : Setting) (name : String) (rest : List String) :
    ∃ laid : Option Setting → Setting, ∀ below,
      overlayAt value (name :: rest) below = Keyed.put name (laid (Keyed.find? name below)) below := by
  cases rest with
  | nil =>
    cases value with
    | table entries =>
      -- Only an empty table leaves what is there.
      refine ⟨fun found => found.elim (table (overlayAll [] entries)) fun old =>
        if entries.isEmpty then old else table (overlayAll old.entries entries), fun below => ?_⟩
      unfold overlayAt overlay
      cases Keyed.find? name below <;> cases entries <;> rfl
    | _ => exact ⟨fun _ => _, fun _ => rfl⟩
  | cons next rest =>
    exact ⟨fun found => table (overlayAt value (next :: rest) ((found.map Setting.entries).getD [])), fun _ => rfl⟩

structure SameBut (holder name : String) (first second : List (String × Setting)) : Prop where
  outside : ∀ other, other ≠ holder → Keyed.find? other second = Keyed.find? other first
  beside : ∀ other, other ≠ name →
    Keyed.find? other (inside holder second) = Keyed.find? other (inside holder first)

def Stands (holder name : String) (value : Setting) (entries : List (String × Setting)) : Prop :=
  ∃ within, Keyed.find? holder entries = some (table within) ∧ Keyed.find? name within = some value

variable {holder name : String} {value : Setting} {first second : List (String × Setting)}

theorem SameBut.refl (entries : List (String × Setting)) : SameBut holder name entries entries :=
  ⟨fun _ _ => rfl, fun _ _ => rfl⟩

theorem SameBut.symm (same : SameBut holder name first second) : SameBut holder name second first :=
  ⟨fun other elsewhere => (same.outside other elsewhere).symm, fun other elsewhere => (same.beside other elsewhere).symm⟩

theorem SameBut.overlayAt_place (same : SameBut holder name first second) (value : Setting) :
    SameBut holder name first (overlayAt value [holder, name] second) := by
  obtain ⟨laid, puts⟩ := exists_put value name []
  constructor
  · intro other elsewhere
    rw [overlayAt_cons_cons, Keyed.find?_put, if_neg (Ne.symm elsewhere), same.outside other elsewhere]
  · intro other elsewhere
    rw [overlayAt_cons_cons, inside_put, if_pos rfl, Setting.entries, puts, Keyed.find?_put,
      if_neg (Ne.symm elsewhere), same.beside other elsewhere]

theorem stands_overlayAt_place (closed : value.asTable? = none) (below : List (String × Setting)) :
    Stands holder name value (overlayAt value [holder, name] below) := by
  refine ⟨Keyed.put name value (inside holder below), ?_, ?_⟩
  · rw [overlayAt_cons_cons, overlayAt, overlay_of_closed closed, Keyed.find?_put, if_pos rfl]
  · rw [Keyed.find?_put, if_pos rfl]

section

variable {path : List String} (apart : Path.Unrelated path [holder, name])

include apart

theorem parts : (∃ top rest, path = top :: rest ∧ top ≠ holder) ∨
    ∃ next rest, path = holder :: next :: rest ∧ next ≠ name := by
  cases path with
  | nil => exact absurd List.nil_prefix apart.1
  | cons top rest =>
    by_cases under : top = holder
    · subst under
      cases rest with
      | nil => exact absurd (List.prefix_append [top] [name]) apart.1
      | cons next rest =>
        refine .inr ⟨next, rest, rfl, ?_⟩
        rintro rfl
        exact apart.2 (List.prefix_append [top, next] rest)
    · exact .inl ⟨top, rest, rfl, under⟩

theorem SameBut.overlayAt (same : SameBut holder name first second) (other : Setting) :
    SameBut holder name (overlayAt other path first) (overlayAt other path second) := by
  rcases parts apart with ⟨top, rest, rfl, elsewhere⟩ | ⟨next, rest, rfl, elsewhere⟩
  · obtain ⟨laid, puts⟩ := exists_put other top rest
    rw [puts, puts, same.outside top elsewhere]
    constructor
    · intro sought away
      rw [Keyed.find?_put, Keyed.find?_put, same.outside sought away]
    · intro sought away
      rw [inside_put, if_neg elsewhere, inside_put, if_neg elsewhere, same.beside sought away]
  · obtain ⟨laid, puts⟩ := exists_put other next rest
    rw [overlayAt_cons_cons, overlayAt_cons_cons, puts, puts, same.beside next elsewhere]
    constructor
    · intro sought away
      rw [Keyed.find?_put, if_neg (Ne.symm away), Keyed.find?_put, if_neg (Ne.symm away), same.outside sought away]
    · intro sought away
      rw [inside_put, if_pos rfl, inside_put, if_pos rfl, Setting.entries, Setting.entries, Keyed.find?_put,
        Keyed.find?_put, same.beside sought away]

theorem Stands.overlayAt (stands : Stands holder name value first) (other : Setting) :
    Stands holder name value (overlayAt other path first) := by
  obtain ⟨within, found, here⟩ := stands
  rcases parts apart with ⟨top, rest, rfl, elsewhere⟩ | ⟨next, rest, rfl, elsewhere⟩
  · obtain ⟨laid, puts⟩ := exists_put other top rest
    exact ⟨within, by rw [puts, Keyed.find?_put, if_neg elsewhere, found], here⟩
  · obtain ⟨laid, puts⟩ := exists_put other next rest
    refine ⟨_, by rw [overlayAt_cons_cons, Keyed.find?_put, if_pos rfl], ?_⟩
    rw [puts, Keyed.find?_put, if_neg elsewhere, inside_of_find? found]
    exact here

end

def PartsFrom (layer : List (String × Setting)) (holder name : String) : Prop :=
  ∀ entry ∈ layer, Path.Unrelated (keyPath entry.1) [holder, name]

theorem overlayEntries_append (below layer more : List (String × Setting)) :
    overlayEntries below (layer ++ more) = overlayEntries (overlayEntries below layer) more := List.foldl_append

theorem overlayEntries_cons (below : List (String × Setting)) (entry : String × Setting)
    (layer : List (String × Setting)) :
    overlayEntries below (entry :: layer) = overlayEntries (overlayAt entry.2 (keyPath entry.1) below) layer := rfl

theorem SameBut.overlayEntries (same : SameBut holder name first second) {layer : List (String × Setting)}
    (apart : PartsFrom layer holder name) :
    SameBut holder name (overlayEntries first layer) (overlayEntries second layer) := by
  induction layer generalizing first second with
  | nil => exact same
  | cons entry rest ih =>
    obtain ⟨here, later⟩ := List.forall_mem_cons.mp apart
    exact ih (same.overlayAt here entry.2) later

theorem SameBut.overlayEntries_place (same : SameBut holder name first second) {layer : List (String × Setting)}
    (places : ∀ entry ∈ layer, keyPath entry.1 = [holder, name]) :
    SameBut holder name first (Setting.overlayEntries second layer) := by
  induction layer generalizing second with
  | nil => exact same
  | cons entry rest ih =>
    obtain ⟨here, later⟩ := List.forall_mem_cons.mp places
    rw [overlayEntries_cons, here]
    exact ih (same.overlayAt_place entry.2) later

theorem Stands.overlayEntries (stands : Stands holder name value first) {layer : List (String × Setting)}
    (apart : PartsFrom layer holder name) : Stands holder name value (overlayEntries first layer) := by
  induction layer generalizing first with
  | nil => exact stands
  | cons entry rest ih =>
    obtain ⟨here, later⟩ := List.forall_mem_cons.mp apart
    exact ih (stands.overlayAt here entry.2) later

/-- Two layers that lead up to one place differently, and then go on in the same way apart from it, give entries that
differ in that place only; and there stands what the second one put. -/
theorem sameBut_of_layers (closed : value.asTable? = none) {key : String} (here : keyPath key = [holder, name])
    (below before : List (String × Setting)) {earlier after : List (String × Setting)}
    (places : ∀ entry ∈ earlier, keyPath entry.1 = [holder, name]) (apart : PartsFrom after holder name) :
    SameBut holder name (overlayEntries below (before ++ earlier ++ after))
        (overlayEntries below (before ++ (key, value) :: after)) ∧
      Stands holder name value (overlayEntries below (before ++ (key, value) :: after)) := by
  rw [overlayEntries_append, overlayEntries_append, overlayEntries_append, overlayEntries_cons, here]
  generalize overlayEntries below before = laid
  have stands : Stands holder name value (overlayAt value [holder, name] laid) := stands_overlayAt_place closed laid
  have same := ((SameBut.refl laid).overlayEntries_place places).symm.overlayAt_place value
  exact ⟨same.overlayEntries apart, stands.overlayEntries apart⟩

end ConfigSchema.Setting
