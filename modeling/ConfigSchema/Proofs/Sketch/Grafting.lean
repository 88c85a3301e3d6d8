import ConfigSchema.Flat.Planting
import ConfigSchema.Proofs.Sketch.Tips

/-! Grafting sketches. A sketch goes to the end of what lies under some names, and object fields are made for the
names that lead nowhere yet. A closed sketch whose place is unrelated to all tips becomes one more tip. -/

namespace ConfigSchema.Sketch

/-- Changes what lies below the first sketch of this name; if there is none, an object is put at the end. -/
def within (name : String) (change : List Sketch → List Sketch) : List Sketch → List Sketch
  | [] => [mk (Planting.container name) (change [])]
  | sketch :: rest =>
    if sketch.name = name then mk sketch.attributes (change sketch.children) :: rest
    else sketch :: within name change rest

def along : List String → (List Sketch → List Sketch) → List Sketch → List Sketch
  | [], change => change
  | name :: rest, change => within name (along rest change)

def pave (names : List String) : List Sketch → List Sketch := along names fun sketches => sketches

def graft (names : List String) (sketch : Sketch) : List Sketch → List Sketch :=
  along names fun sketches => sketches ++ [sketch]

section

variable {name : String} {names : List String} {change other : List Sketch → List Sketch} {sketches : List Sketch}

theorem along_append_singleton : along (names ++ [name]) change = along names (within name change) := by
  induction names with
  | nil => rfl
  | cons first rest ih => rw [List.cons_append, along, ih, along]

theorem within_within : within name change (within name other sketches) = within name (change ∘ other) sketches := by
  induction sketches with
  | nil =>
    have own : (mk (Planting.container name) (other [])).name = name := rfl
    rw [within, within, within, if_pos own]
    rfl
  | cons sketch rest ih =>
    by_cases named : sketch.name = name
    · have own : (mk sketch.attributes (other sketch.children)).name = name := named
      rw [within, within, if_pos named, if_pos named, within, if_pos own]
      rfl
    · rw [within, within, if_neg named, if_neg named, within, if_neg named, ih]

theorem along_along : along names change (along names other sketches) = along names (change ∘ other) sketches := by
  induction names generalizing change other sketches with
  | nil => rfl
  | cons name rest ih =>
    have inner : along rest change ∘ along rest other = along rest (change ∘ other) := by
      funext sketches
      exact ih
    rw [along, along, along, within_within, inner]

theorem pave_append_singleton : pave (names ++ [name]) (pave names sketches) = pave (names ++ [name]) sketches := by
  rw [pave, pave, along_append_singleton, along_along]
  rfl

theorem graft_pave {sketch : Sketch} : graft names sketch (pave names sketches) = graft names sketch sketches := by
  rw [graft, pave, along_along]
  rfl

theorem within_of_not_mem (absent : name ∉ sketches.map Sketch.name) :
    within name change sketches = sketches ++ [mk (Planting.container name) (change [])] := by
  induction sketches with
  | nil => rfl
  | cons sketch rest ih =>
    rw [List.map_cons, List.mem_cons, not_or] at absent
    rw [within, if_neg (Ne.symm absent.1), ih absent.2, List.cons_append]

theorem within_append {left right : List Sketch} {sketch : Sketch} (absent : name ∉ left.map Sketch.name)
    (named : sketch.name = name) : within name change (left ++ sketch :: right) =
      left ++ mk sketch.attributes (change sketch.children) :: right := by
  induction left with
  | nil => rw [List.nil_append, within, if_pos named, List.nil_append]
  | cons first rest ih =>
    rw [List.map_cons, List.mem_cons, not_or] at absent
    rw [List.cons_append, within, if_neg (Ne.symm absent.1), ih absent.2, List.cons_append]

/-- A name that leads somewhere leads to the first sketch that has it. -/
theorem exists_first_of_mem (member : name ∈ sketches.map Sketch.name) : ∃ left sketch right,
    sketches = left ++ sketch :: right ∧ sketch.name = name ∧ name ∉ left.map Sketch.name := by
  induction sketches with
  | nil => simp at member
  | cons sketch rest ih =>
    by_cases named : sketch.name = name
    · exact ⟨[], sketch, rest, rfl, named, by simp⟩
    · rw [List.map_cons, List.mem_cons] at member
      obtain ⟨left, found, right, rfl, same, absent⟩ := ih (member.resolve_left (Ne.symm named))
      refine ⟨sketch :: left, found, right, rfl, same, ?_⟩
      rw [List.map_cons, List.mem_cons, not_or]
      exact ⟨Ne.symm named, absent⟩

theorem graft_cons {sketch : Sketch} : graft (name :: names) sketch = within name (graft names sketch) := rfl

theorem graft_ne_nil {sketch : Sketch} : graft names sketch sketches ≠ [] := by
  cases names with
  | nil => simp [graft, along]
  | cons name rest =>
    rw [graft_cons]
    cases sketches with
    | nil => simp [within]
    | cons first later =>
      unfold within
      split <;> simp

end

theorem navigableAll_iff {sketches : List Sketch} :
    NavigableAll sketches ↔ (sketches.map name).Nodup ∧ ∀ sketch ∈ sketches, sketch.Navigable := by
  refine ⟨fun navigable => ⟨navigable.nodup, navigable.navigable⟩, ?_⟩
  induction sketches with
  | nil => exact fun _ => trivial
  | cons sketch rest ih =>
    rw [List.map_cons, List.nodup_cons, List.forall_mem_cons]
    exact fun both => ⟨both.1.1, both.2.1, ih ⟨both.1.2, both.2.2⟩⟩

theorem navigable_of_open {attributes : Attributes} {children : List Sketch} (named : Path.IsName attributes.name)
    (navigable : NavigableAll children) : (mk attributes children).Navigable := ⟨named, fun _ => navigable⟩

theorem navigable_of_closed {sketch : Sketch} (closed : sketch.isOpen = false) (named : Path.IsName sketch.name) :
    sketch.Navigable := by
  cases sketch
  exact ⟨named, fun opened => absurd opened (by rw [closed]; decide)⟩

theorem NavigableAll.append_singleton {sketches : List Sketch} (navigable : NavigableAll sketches) {sketch : Sketch}
    (own : sketch.Navigable) (fresh : sketch.name ∉ sketches.map name) : NavigableAll (sketches ++ [sketch]) := by
  rw [navigableAll_iff, List.map_append, List.map_singleton, ← List.concat_eq_append]
  exact ⟨navigable.nodup.concat fresh,
    List.forall_mem_append.mpr ⟨navigable.navigable, List.forall_mem_singleton.mpr own⟩⟩

/-- A sketch that takes the place of another one with its name. -/
theorem NavigableAll.replace {left right : List Sketch} {old new : Sketch}
    (navigable : NavigableAll (left ++ old :: right)) (same : new.name = old.name) (own : new.Navigable) :
    NavigableAll (left ++ new :: right) := by
  obtain ⟨distinct, each⟩ := navigableAll_iff.mp navigable
  rw [List.forall_mem_append, List.forall_mem_cons] at each
  rw [List.map_append, List.map_cons, ← same] at distinct
  rw [navigableAll_iff, List.map_append, List.map_cons, List.forall_mem_append, List.forall_mem_cons]
  exact ⟨distinct, each.1, own, each.2.2⟩

open scoped List in
theorem tipsOf_replace {left right : List Sketch} {old new : Sketch} {above : List String} {tip : List String × Sketch}
    (more : (new.tips above).Perm (old.tips above ++ [tip])) :
    (tipsOf above (left ++ new :: right)).Perm (tipsOf above (left ++ old :: right) ++ [tip]) := by
  have swapped : (new.tips above ++ tipsOf above right).Perm (old.tips above ++ (tipsOf above right ++ [tip])) :=
    calc new.tips above ++ tipsOf above right
      _ ~ old.tips above ++ [tip] ++ tipsOf above right := more.append_right _
      _ = old.tips above ++ ([tip] ++ tipsOf above right) := List.append_assoc ..
      _ ~ old.tips above ++ (tipsOf above right ++ [tip]) := List.perm_append_comm.append_left _
  rw [tipsOf_append, tipsOf, tipsOf_append, tipsOf, List.append_assoc, List.append_assoc]
  exact swapped.append_left _

theorem isOpen_of_unrelated {sketch : Sketch} {above more : List String}
    (apart : ∀ tip ∈ sketch.tips above, Path.Unrelated tip.1 (above ++ [sketch.name] ++ more)) :
    sketch.isOpen = true := by
  rw [← Bool.not_eq_false]
  intro closed
  rw [tips_of_closed closed, List.forall_mem_singleton] at apart
  exact apart.1 (List.prefix_append ..)

theorem exists_tip_of_mem_names {sketches : List Sketch} {name : String} (member : name ∈ sketches.map Sketch.name)
    (above : List String) : ∃ tip ∈ tipsOf above sketches, above ++ [name] <+: tip.1 := by
  obtain ⟨sketch, listed, rfl⟩ := List.mem_map.mp member
  obtain ⟨tip, inside⟩ := exists_tip above sketch
  rw [tipsOf_eq_flatMap]
  exact ⟨tip, List.mem_flatMap.mpr ⟨sketch, listed, inside⟩, prefix_of_mem_tips sketch above inside⟩

/-- A closed sketch that is grafted at a place unrelated to all tips becomes one more tip. -/
theorem tipsOf_graft {leaf : Sketch} (closed : leaf.isOpen = false) {names : List String}
    (named : ∀ name ∈ names ++ [leaf.name], Path.IsName name) {above : List String} {sketches : List Sketch}
    (navigable : NavigableAll sketches)
    (apart : ∀ tip ∈ tipsOf above sketches, Path.Unrelated tip.1 (above ++ (names ++ [leaf.name]))) :
    NavigableAll (graft names leaf sketches) ∧ (tipsOf above (graft names leaf sketches)).Perm
      (tipsOf above sketches ++ [(above ++ (names ++ [leaf.name]), leaf)]) := by
  induction names generalizing above sketches with
  | nil =>
    have fresh : leaf.name ∉ sketches.map name := by
      intro member
      obtain ⟨tip, listed, start⟩ := exists_tip_of_mem_names member above
      exact (apart tip listed).2 start
    refine ⟨navigable.append_singleton (navigable_of_closed closed (named leaf.name (by simp))) fresh, ?_⟩
    rw [graft, along, tipsOf_append, tipsOf, tips_of_closed closed]
    exact .refl _
  | cons first rest ih =>
    have own : Path.IsName first := named first (by simp)
    have further : ∀ name ∈ rest ++ [leaf.name], Path.IsName name :=
      fun name member => named name (List.mem_cons_of_mem _ member)
    have place : above ++ (first :: rest ++ [leaf.name]) = above ++ [first] ++ (rest ++ [leaf.name]) := by simp
    rw [place] at apart ⊢
    by_cases known : first ∈ sketches.map name
    · obtain ⟨left, sketch, right, rfl, rfl, absent⟩ := exists_first_of_mem known
      have here : ∀ tip ∈ sketch.tips above,
          Path.Unrelated tip.1 (above ++ [sketch.name] ++ (rest ++ [leaf.name])) := by
        intro tip member
        apply apart tip
        rw [tipsOf_append, tipsOf]
        exact List.mem_append_right _ (List.mem_append_left _ member)
      have opened := isOpen_of_unrelated here
      have below := (navigable.navigable sketch (by simp)).below opened
      rw [tips_of_open opened] at here
      obtain ⟨inside, more⟩ := ih further below here
      have widened : (mk sketch.attributes (graft rest leaf sketch.children)).isOpen = true :=
        isOpen_iff.mpr ⟨(isOpen_iff.mp opened).1, graft_ne_nil⟩
      rw [graft_cons, within_append absent rfl]
      refine ⟨navigable.replace rfl (navigable_of_open own inside), tipsOf_replace ?_⟩
      rw [tips_of_open widened, tips_of_open opened]
      exact more
    · rw [graft_cons, within_of_not_mem known]
      have empty : NavigableAll [] := trivial
      obtain ⟨inside, single⟩ := ih further empty (by simp [tipsOf])
      have opened : (mk (Planting.container first) (graft rest leaf [])).isOpen = true :=
        isOpen_iff.mpr ⟨rfl, graft_ne_nil⟩
      refine ⟨navigable.append_singleton (navigable_of_open own inside) known, ?_⟩
      rw [tipsOf_append, tipsOf, tips_of_open opened, tipsOf, List.append_nil]
      exact List.Perm.append_left _ single

end ConfigSchema.Sketch
