import ConfigSchema.Proofs.Sketch.Growing
import ConfigSchema.Proofs.Sketch.Lenient
import ConfigSchema.Proofs.Sketch.Listed

/-! Planting flat maps. As long as no path begins with another one, the objects on the way to an entry are made once
and found again, and every entry becomes one tip of the tree. Neither these objects nor the tips are required. -/

namespace ConfigSchema

/-- The sketch that a tree of flat maps takes from an entry. -/
def Entry.read (path : String) (entry : Entry) : Except SchemaError Sketch :=
  Sketch.ofNode true path (Path.lastSegment path) ⟨false, some entry.description, some entry.defaultValue⟩
    entry.schema

namespace Planting

def Takes (planting : Planting) (path : String) : Prop :=
  (Path.segments path).contains "" = false ∧
    ∃ parent grown, planting.holder none "" (Path.segments path).dropLast = .ok (some parent, grown)

/-- No entry of the list is passed over. -/
def TakesAll : Planting → List (String × Entry) → Prop
  | _, [] => True
  | planting, (path, entry) :: rest =>
    planting.Takes path ∧ ∀ grown, planting.enter path entry = .ok grown → grown.TakesAll rest

def Free (done : List (List String)) (names : List String) : Prop := ∀ key ∈ done, ¬key <+: names

theorem Free.of_prefix {done : List (List String)} {names part : List String} (free : Free done names)
    (start : part <+: names) : Free done part := fun key member longer => free key member (longer.trans start)

structure Mapped (planting : Planting) (done : List (List String)) : Prop where
  wellFormed : planting.tree.WellFormed
  numbered : planting.tree.Numbered
  spelt : ∀ names id, names ≠ [] → (∀ name ∈ names, Path.IsName name) → Free done names →
    Keyed.find? (Path.dotted names) planting.places = some id → planting.tree.Spells id names
  placed : ∀ names id, Free done names → planting.tree.Spells id names → (∀ name ∈ names, Path.IsName name) ∧
    Keyed.find? (Path.dotted names) planting.places = some id ∧
      ∃ node, planting.tree.node? id = some node ∧ node.field.kind = .object

variable {planting : Planting} {done : List (List String)}

theorem mapped_empty : Mapped ⟨.empty, []⟩ [] where
  wellFormed := SchemaTree.wellFormed_emptyFrom 0
  numbered := SchemaTree.numbered_emptyFrom 0
  spelt := fun _ _ _ _ _ found => nomatch found
  placed := by
    intro names id _ spelt
    obtain ⟨node, found⟩ := spelt.exists_node
    cases found

namespace Mapped

theorem alone (mapped : Mapped planting done) {names : List String} (free : Free done names) :
    ∀ part, part <+: names → ∀ first second, planting.tree.Spells first part → planting.tree.Spells second part →
      first = second := by
  intro part start first second one other
  have here := (mapped.placed part first (free.of_prefix start) one).2.1
  have there := (mapped.placed part second (free.of_prefix start) other).2.1
  exact Option.some.inj (here.symm.trans there)

variable {tree : SchemaTree} {parent : Option FieldId} {id : FieldId} {branch : Branch} {names : List String}

theorem spells_old (mapped : Mapped planting done) (planted : planting.tree.Planted tree parent [id] [branch])
    (wellFormed : tree.WellFormed) {key : List String} (own : tree.Spells id key) {other : FieldId}
    (elsewhere : ¬key <+: names) (spelt : tree.Spells other names) : planting.tree.Spells other names := by
  obtain ⟨node, found⟩ := spelt.exists_node
  rcases planted.stored other (SchemaTree.contains_of_node found) with old | new
  · exact planted.spells_of_stored mapped.wellFormed old spelt
  · exact absurd (planted.prefix_of_new wellFormed own new spelt) elsewhere

/-- After an entry was planted, what lies neither at its path nor below it is as before. -/
theorem entered (mapped : Mapped planting done) (planted : planting.tree.Planted tree parent [id] [branch])
    (wellFormed : tree.WellFormed) (numbered : tree.Numbered) {key : List String} (some_key : key ≠ [])
    (named : ∀ name ∈ key, Path.IsName name) (own : tree.Spells id key) :
    Mapped ⟨tree, (Path.dotted key, id) :: planting.places⟩ (key :: done) where
  wellFormed := wellFormed
  numbered := numbered
  spelt := by
    intro names other some_name fit free found
    rw [Free, List.forall_mem_cons] at free
    have different : Path.dotted key ≠ Path.dotted names := by
      intro same
      rw [Path.dotted_inj some_key some_name named fit same] at free
      exact free.1 List.prefix_rfl
    rw [Keyed.find?_cons, if_neg different] at found
    exact planted.spells (mapped.spelt names other some_name fit free.2 found)
  placed := by
    intro names other free spelt
    rw [Free, List.forall_mem_cons] at free
    have old := mapped.spells_old planted wellFormed own free.1 spelt
    obtain ⟨fit, found, node, stored, object⟩ := mapped.placed names other free.2 old
    have different : Path.dotted key ≠ Path.dotted names := by
      intro same
      rw [Path.dotted_inj some_key old.ne_nil named fit same] at free
      exact free.1 List.prefix_rfl
    refine ⟨fit, ?_, _, planted.node other node stored, object⟩
    rw [Keyed.find?_cons, if_neg different, found]

theorem opened (mapped : Mapped planting done) {attributes : Attributes} (object : attributes.kind = .object)
    (planted : planting.tree.Planted tree parent [id] [.mk (attributes.withId id) []])
    (wellFormed : tree.WellFormed) (numbered : tree.Numbered) {key : List String} (some_key : key ≠ [])
    (named : ∀ name ∈ key, Path.IsName name) (own : tree.Spells id key)
    (missing : Keyed.find? (Path.dotted key) planting.places = none) :
    Mapped ⟨tree, (Path.dotted key, id) :: planting.places⟩ done where
  wellFormed := wellFormed
  numbered := numbered
  spelt := by
    intro names other some_name fit free found
    rw [Keyed.find?_cons] at found
    split at found
    · rename_i same
      cases found
      rw [← Path.dotted_inj some_key some_name named fit same]
      exact own
    · exact planted.spells (mapped.spelt names other some_name fit free found)
  placed := by
    intro names other free spelt
    obtain ⟨node, found⟩ := spelt.exists_node
    rcases planted.stored other (SchemaTree.contains_of_node found) with old | new
    · have before := planted.spells_of_stored mapped.wellFormed old spelt
      obtain ⟨fit, place, kept, stored, kind⟩ := mapped.placed names other free before
      have different : Path.dotted key ≠ Path.dotted names := by
        intro same
        rw [same, place] at missing
        cases missing
      refine ⟨fit, ?_, _, planted.node other kept stored, kind⟩
      rw [Keyed.find?_cons, if_neg different, place]
    · have same : other = (attributes.withId id).id := by simpa [Branch.forestIds, Branch.ids] using new
      obtain rfl : other = id := same
      obtain rfl := own.unique spelt
      obtain ⟨made, stored, field⟩ := planted.exists_new
      exact ⟨named, by rw [Keyed.find?_cons, if_pos rfl], made, stored, by rw [field]; exact object⟩

structure Paved (planting grown : Planting) (done : List (List String)) (names : List String) (id : FieldId) :
    Prop where
  mapped : Mapped grown done
  spelt : grown.tree.Spells id names
  admits : grown.tree.Admits (some id)
  sketches : grown.tree.sketches = Sketch.pave names planting.tree.sketches

theorem paved_of_known (mapped : Mapped planting done) (named : ∀ part ∈ names, Path.IsName part)
    (some_name : names ≠ []) (free : Free done names)
    (known : Keyed.find? (Path.dotted names) planting.places = some id) : Paved planting planting done names id := by
  have spelt := mapped.spelt _ id some_name named free known
  obtain ⟨_, _, node, found, object⟩ := mapped.placed _ id free spelt
  obtain ⟨below, shown⟩ := SchemaTree.exists_shows mapped.wellFormed
    fun child => mapped.wellFormed.contains_of_mem_children found
  have unchanged : planting.tree.Reshaped planting.tree id fun sketches => sketches :=
    ⟨rfl, fun _ _ stored _ => stored, node, node, below, below, found, found, rfl, shown, shown, rfl⟩
  refine ⟨mapped, spelt, ?_,
    spelt.sketches_along mapped.wellFormed mapped.wellFormed (mapped.alone free) unchanged⟩
  rintro above same
  cases same
  exact ⟨node, found, by rw [object]; rfl⟩

theorem paved_of_insert (mapped : Mapped planting done) {name : String}
    (named : ∀ part ∈ names ++ [name], Path.IsName part) (free : Free done (names ++ [name]))
    (led : planting.tree.Leads names parent) (admits : planting.tree.Admits parent)
    (known : Keyed.find? (Path.dotted (names ++ [name])) planting.places = none)
    (inserted : planting.tree.insert parent (container name) = .ok (id, tree)) :
    Paved planting ⟨tree, (Path.dotted (names ++ [name]), id) :: planting.places⟩ done (names ++ [name]) id := by
  obtain ⟨wellFormed, numbered⟩ := SchemaTree.insert_wellFormed mapped.wellFormed mapped.numbered inserted
  obtain ⟨entered, _⟩ := SchemaTree.entered_of_insert mapped.numbered.not_contains_next inserted
  have planted := SchemaTree.Planted.under entered (.nothing tree (some id))
  have own : tree.Spells id (names ++ [name]) := planted.spells_new wellFormed admits led
  refine ⟨mapped.opened rfl planted wellFormed numbered (by simp) named own known, own, ?_, ?_⟩
  · rintro above same
    cases same
    exact ⟨_, by rw [entered.node, if_pos rfl], rfl⟩
  · rw [Sketch.pave, Sketch.along_append_singleton]
    refine planted.sketches_along mapped.wellFormed wellFormed led
      (fun part start => mapped.alone free part (start.trans (List.prefix_append ..)))
      fun siblings below list shown => ?_
    have absent : name ∉ (Branch.sketches below).map Sketch.name := by
      intro member
      obtain ⟨other, held, twin⟩ := shown.exists_named member
      have place := (mapped.placed _ other free (led.spells mapped.wellFormed list held twin)).2.1
      rw [known] at place
      cases place
    rw [Sketch.within_of_not_mem absent]
    rfl

/-- A segment on the way to an entry leads to an object, made if it was not there. -/
theorem ensure (mapped : Mapped planting done) {name : String} (named : ∀ part ∈ names ++ [name], Path.IsName part)
    (free : Free done (names ++ [name])) (led : planting.tree.Leads names parent)
    (admits : planting.tree.Admits parent) : ∃ id grown,
      planting.ensure parent (Path.dotted (names ++ [name])) name = .ok (id, grown) ∧
        Paved planting grown done (names ++ [name]) id := by
  cases known : Keyed.find? (Path.dotted (names ++ [name])) planting.places with
  | some id =>
    exact ⟨id, planting, by rw [Planting.ensure, known], mapped.paved_of_known named (by simp) free known⟩
  | none =>
    obtain ⟨id, tree, inserted⟩ := SchemaTree.exists_insert admits (container name)
    exact ⟨id, _, by rw [Planting.ensure, known]; simp only [inserted],
      mapped.paved_of_insert named free led admits known inserted⟩

theorem holder (mapped : Mapped planting done) {start : List Sketch} {above rest : List String}
    (named : ∀ part ∈ above ++ rest, Path.IsName part) (free : Free done (above ++ rest))
    (led : planting.tree.Leads above parent) (admits : planting.tree.Admits parent)
    (begun : planting.tree.sketches = Sketch.pave above start) : ∃ place grown,
      planting.holder parent (Path.dotted above) rest = .ok (some place, grown) ∧ Mapped grown done ∧
        grown.tree.Leads (above ++ rest) place ∧ grown.tree.Admits place ∧
          grown.tree.sketches = Sketch.pave (above ++ rest) start := by
  induction rest generalizing planting above parent with
  | nil =>
    rw [List.append_nil]
    exact ⟨parent, planting, rfl, mapped, led, admits, begun⟩
  | cons name rest ih =>
    rw [List.append_cons] at named free ⊢
    have early : ∀ part ∈ above, Path.IsName part := fun part member => named part (by simp [member])
    have next : ∀ part ∈ above ++ [name], Path.IsName part :=
      fun part member => named part (List.mem_append_left _ member)
    obtain ⟨id, wider, made, paved⟩ := mapped.ensure next (free.of_prefix (List.prefix_append ..)) led admits
    obtain ⟨node, found, holds⟩ := paved.admits id rfl
    have grew := paved.sketches
    rw [begun, Sketch.pave_append_singleton] at grew
    have further : wider.tree.Leads (above ++ [name]) (some id) := paved.spelt
    obtain ⟨place, grown, held, rest⟩ := ih paved.mapped named free further paved.admits grew
    refine ⟨place, grown, ?_, rest⟩
    rw [Planting.holder, Path.join_dotted early, made, Except.ok_bind]
    simp only [SchemaTree.get?_of_node found, Option.any_some, holds, if_true]
    exact held

theorem place (mapped : Mapped planting done) {path name : String} (split : Path.segments path = names ++ [name])
    (named : ∀ part ∈ names ++ [name], Path.IsName part) (free : Free done (names ++ [name])) : ∃ place wider,
      (Path.segments path).contains "" = false ∧
        planting.holder none "" (Path.segments path).dropLast = .ok (some place, wider) ∧ Mapped wider done ∧
          wider.tree.Leads names place ∧ wider.tree.Admits place ∧
            wider.tree.sketches = Sketch.pave names planting.tree.sketches := by
  have above : ∀ part ∈ [] ++ names, Path.IsName part := fun part member => named part (List.mem_append_left _ member)
  have top : planting.tree.Leads [] none := rfl
  obtain ⟨place, wider, held, after⟩ :=
    mapped.holder above (free.of_prefix (List.prefix_append ..)) top (fun _ same => nomatch same) rfl
  refine ⟨place, wider, ?_, ?_, after⟩
  · rw [split, ← Bool.not_eq_true, List.contains_iff_mem]
    exact fun member => (named "" member).nonempty rfl
  · rw [split, List.dropLast_concat]
    exact held

theorem takes (mapped : Mapped planting done) {path name : String} (split : Path.segments path = names ++ [name])
    (named : ∀ part ∈ names ++ [name], Path.IsName part) (free : Free done (names ++ [name])) :
    planting.Takes path := by
  obtain ⟨place, wider, filled, held, _⟩ := mapped.place split named free
  exact ⟨filled, place, wider, held⟩

theorem enter_eq (mapped : Mapped planting done) {path : String} (entry : Entry) {name : String}
    (split : Path.segments path = names ++ [name]) (named : ∀ part ∈ names ++ [name], Path.IsName part)
    (free : Free done (names ++ [name])) : ∃ place wider, Mapped wider done ∧ wider.tree.Leads names place ∧
      wider.tree.Admits place ∧ wider.tree.sketches = Sketch.pave names planting.tree.sketches ∧
        planting.enter path entry = (do
          let sketch ← entry.read path
          let (id, tree) ← sketch.plant wider.tree place path
          pure ⟨tree, (path, id) :: wider.places⟩) := by
  obtain ⟨place, wider, filled, held, after, led, admits, paved⟩ := mapped.place split named free
  refine ⟨place, wider, after, led, admits, paved, ?_⟩
  rw [Planting.enter]
  simp only [filled, Bool.false_eq_true, if_false, held, Except.ok_bind]
  rfl

theorem enter (mapped : Mapped planting done) {path : String} {entry : Entry} {name : String}
    (split : Path.segments path = names ++ [name]) (named : ∀ part ∈ names ++ [name], Path.IsName part)
    (free : Free done (names ++ [name])) {sketch : Sketch} (read : entry.read path = .ok sketch) : ∃ grown,
      planting.enter path entry = .ok grown ∧ Mapped grown ((names ++ [name]) :: done) ∧
        grown.tree.sketches = Sketch.graft names sketch planting.tree.sketches := by
  obtain ⟨place, wider, after, led, admits, paved, steps⟩ := mapped.enter_eq entry split named free
  have whole : Path.dotted (names ++ [name]) = path := by rw [← split, Path.dotted_segments]
  obtain ⟨id, tree, branch, planted, inside, same⟩ :=
    Sketch.exists_plant after.wellFormed after.numbered admits sketch (Sketch.sound_of_read read) path
  obtain ⟨wellFormed, numbered⟩ := Sketch.plant_keeps (SchemaTree.wellFormed_keptByInsert fun _ => True) sketch
    (sketch.every_of_forall fun _ => trivial) ⟨after.wellFormed, after.numbered⟩ planted
  have called : branch.field.name = name := by
    rw [← branch.name_sketch, same, Sketch.name_of_read read, Path.lastSegment_of_split split]
  have spelt : tree.Spells id (names ++ [name]) := called ▸ inside.spells_new wellFormed admits led
  have grew : tree.sketches = Sketch.graft names sketch wider.tree.sketches :=
    inside.sketches_along after.wellFormed wellFormed led (after.alone (free.of_prefix (List.prefix_append ..)))
      fun siblings below _ _ => by rw [Branch.sketches, same, Branch.sketches]
  refine ⟨⟨tree, (path, id) :: wider.places⟩, ?_, ?_, ?_⟩
  · rw [steps, read, Except.ok_bind, planted]
    rfl
  · exact whole ▸ after.entered inside wellFormed numbered (by simp) named spelt
  · rw [grew, paved, Sketch.graft_pave]

theorem read_of_enter (mapped : Mapped planting done) {path : String} {entry : Entry} {name : String}
    (split : Path.segments path = names ++ [name]) (named : ∀ part ∈ names ++ [name], Path.IsName part)
    (free : Free done (names ++ [name])) {grown : Planting} (entered : planting.enter path entry = .ok grown) :
    ∃ sketch, entry.read path = .ok sketch := by
  obtain ⟨place, wider, _, _, _, _, steps⟩ := mapped.enter_eq entry split named free
  rw [steps] at entered
  obtain ⟨sketch, read, _⟩ := Except.bind_eq_ok_iff.mp entered
  exact ⟨sketch, read⟩

end Mapped

open scoped List

structure Spread (entries : List (String × Entry)) : Prop where
  named : ∀ entry ∈ entries, ∀ name ∈ Path.segments entry.1, Path.IsName name
  apart : entries.Pairwise fun first second => Path.Unrelated (Path.segments first.1) (Path.segments second.1)

theorem Spread.tail {entry : String × Entry} {rest : List (String × Entry)} (spread : Spread (entry :: rest)) :
    Spread rest where
  named := (List.forall_mem_cons.mp spread.named).2
  apart := (List.pairwise_cons.mp spread.apart).2

theorem Spread.first {entry : String × Entry} {rest : List (String × Entry)} (spread : Spread (entry :: rest)) :
    (∀ name ∈ Path.segments entry.1, Path.IsName name) ∧
      ∀ other ∈ rest, Path.Unrelated (Path.segments entry.1) (Path.segments other.1) :=
  ⟨(List.forall_mem_cons.mp spread.named).1, (List.pairwise_cons.mp spread.apart).1⟩

def Reads (entry : String × Entry) (tip : List String × Sketch) : Prop :=
  Path.segments entry.1 = tip.1 ∧ entry.2.read entry.1 = .ok tip.2

theorem Reads.dotted {entry : String × Entry} {tip : List String × Sketch} (reads : Reads entry tip) :
    Path.dotted tip.1 = entry.1 := by
  rw [← reads.1, Path.dotted_segments]

theorem map_dotted {entries : List (String × Entry)} {tips : List (List String × Sketch)}
    (reads : List.Forall₂ Reads entries tips) : tips.map (fun tip => Path.dotted tip.1) = entries.map Prod.fst := by
  induction reads with
  | nil => rfl
  | cons own _ ih => rw [List.map_cons, List.map_cons, own.dotted, ih]

theorem segments_of_read {path : String} {entry : Entry} {sketch : Sketch} (read : entry.read path = .ok sketch) :
    ∃ names, Path.segments path = names ++ [sketch.name] := by
  obtain ⟨names, name, split⟩ := Path.exists_segments path
  refine ⟨names, ?_⟩
  rw [Sketch.name_of_read read, Path.lastSegment_of_split split, split]

structure Loaded (planting : Planting) (tips : List (List String × Sketch)) : Prop where
  mapped : Mapped planting (tips.map Prod.fst)
  navigable : Sketch.NavigableAll planting.tree.sketches
  lenient : Sketch.LenientAll planting.tree.sketches
  tips : (Sketch.tipsOf [] planting.tree.sketches).Perm tips

theorem loaded_empty : Loaded ⟨.empty, []⟩ [] where
  mapped := mapped_empty
  navigable := trivial
  lenient := trivial
  tips := .refl _

theorem Loaded.enter {tips : List (List String × Sketch)} (loaded : Loaded planting tips) {entry : String × Entry}
    {tip : List String × Sketch} (read : Reads entry tip) (closed : tip.2.isOpen = false)
    (named : ∀ name ∈ Path.segments entry.1, Path.IsName name)
    (apart : ∀ other ∈ tips, Path.Unrelated other.1 (Path.segments entry.1)) :
    planting.Takes entry.1 ∧
      ∃ grown, planting.enter entry.1 entry.2 = .ok grown ∧ Loaded grown (tip :: tips) := by
  obtain ⟨path, entry⟩ := entry
  obtain ⟨key, sketch⟩ := tip
  obtain ⟨rfl, read⟩ := read
  obtain ⟨names, split⟩ := segments_of_read read
  simp only [split] at named apart ⊢
  have free : Free (tips.map Prod.fst) (names ++ [sketch.name]) := by
    intro key member
    obtain ⟨other, listed, rfl⟩ := List.mem_map.mp member
    exact (apart other listed).1
  obtain ⟨grown, entered, mapped, grew⟩ := loaded.mapped.enter split named free read
  have beside : ∀ other ∈ Sketch.tipsOf [] planting.tree.sketches,
      Path.Unrelated other.1 ([] ++ (names ++ [sketch.name])) :=
    fun other member => apart other (loaded.tips.mem_iff.mp member)
  obtain ⟨navigable, more⟩ := Sketch.tipsOf_graft closed named loaded.navigable beside
  have lenient : sketch.Lenient := Sketch.lenient_of_closed closed (Sketch.required_of_read read)
  refine ⟨loaded.mapped.takes split named free, grown, entered, mapped, grew ▸ navigable,
    grew ▸ loaded.lenient.graft lenient names, ?_⟩
  rw [grew]
  calc Sketch.tipsOf [] (Sketch.graft names sketch planting.tree.sketches)
    _ ~ Sketch.tipsOf [] planting.tree.sketches ++ [(names ++ [sketch.name], sketch)] := more
    _ ~ tips ++ [(names ++ [sketch.name], sketch)] := loaded.tips.append_right _
    _ ~ (names ++ [sketch.name], sketch) :: tips := List.perm_append_comm

theorem Loaded.enterAll {tips more : List (List String × Sketch)} (loaded : Loaded planting tips)
    {entries : List (String × Entry)} (read : List.Forall₂ Reads entries more)
    (closed : ∀ tip ∈ more, tip.2.isOpen = false) (spread : Spread entries)
    (apart : ∀ entry ∈ entries, ∀ tip ∈ tips, Path.Unrelated tip.1 (Path.segments entry.1)) :
    planting.TakesAll entries ∧
      ∃ grown, planting.enterAll entries = .ok grown ∧ Loaded grown (more.reverse ++ tips) := by
  induction read generalizing planting tips with
  | nil => exact ⟨trivial, planting, rfl, loaded⟩
  | @cons entry tip rest later own _ ih =>
    rw [List.forall_mem_cons] at closed apart
    obtain ⟨named, before⟩ := spread.first
    obtain ⟨takes, middle, entered, next⟩ := loaded.enter own closed.1 named apart.1
    have further : ∀ other ∈ rest, ∀ known ∈ tip :: tips, Path.Unrelated known.1 (Path.segments other.1) := by
      intro other member
      rw [List.forall_mem_cons]
      exact ⟨own.1 ▸ before other member, apart.2 other member⟩
    obtain ⟨others, grown, done, all⟩ := ih next closed.2 spread.tail further
    refine ⟨⟨takes, fun wider same => ?_⟩, grown, ?_, ?_⟩
    · cases entered.symm.trans same
      exact others
    · rw [Planting.enterAll, entered, Except.ok_bind, done]
    · rwa [List.reverse_cons, List.append_assoc]

theorem Loaded.reads {tips : List (List String × Sketch)} (loaded : Loaded planting tips)
    {entries : List (String × Entry)} (spread : Spread entries)
    (closed : ∀ entry ∈ entries, ∀ sketch, entry.2.read entry.1 = .ok sketch → sketch.isOpen = false)
    (apart : ∀ entry ∈ entries, ∀ tip ∈ tips, Path.Unrelated tip.1 (Path.segments entry.1)) {grown : Planting}
    (done : planting.enterAll entries = .ok grown) : ∃ more, List.Forall₂ Reads entries more := by
  induction entries generalizing planting tips with
  | nil => exact ⟨[], .nil⟩
  | cons entry rest ih =>
    rw [List.forall_mem_cons] at closed apart
    obtain ⟨middle, entered, later⟩ := Except.bind_eq_ok_iff.mp done
    obtain ⟨named, before⟩ := spread.first
    obtain ⟨names, name, split⟩ := Path.exists_segments entry.1
    have free : Free (tips.map Prod.fst) (names ++ [name]) := by
      intro key member
      obtain ⟨tip, listed, rfl⟩ := List.mem_map.mp member
      exact split ▸ (apart.1 tip listed).1
    obtain ⟨sketch, read⟩ := loaded.mapped.read_of_enter split (split ▸ named) free entered
    have own : Reads entry (Path.segments entry.1, sketch) := ⟨rfl, read⟩
    obtain ⟨_, same, again, next⟩ := loaded.enter own (closed.1 sketch read) named apart.1
    cases entered.symm.trans again
    have further : ∀ other ∈ rest, ∀ tip ∈ (Path.segments entry.1, sketch) :: tips,
        Path.Unrelated tip.1 (Path.segments other.1) := by
      intro other member
      rw [List.forall_mem_cons]
      exact ⟨before other member, apart.2 other member⟩
    obtain ⟨more, reads⟩ := ih next spread.tail closed.2 further later
    exact ⟨_ :: more, .cons own reads⟩

end Planting

namespace SchemaTree

/-- A map whose entries can be read has a tree with one tip for each entry, and no entry is passed over. -/
theorem ofFlat_of_reads {map : FlatMap} (spread : Planting.Spread map.entries) {tips : List (List String × Sketch)}
    (read : List.Forall₂ Planting.Reads map.entries tips) (closed : ∀ tip ∈ tips, tip.2.isOpen = false) :
    ∃ tree, ofFlat map = .ok tree ∧ Planting.TakesAll ⟨.empty, []⟩ map.entries ∧
      Sketch.NavigableAll tree.sketches ∧ (Sketch.tipsOf [] tree.sketches).Perm tips := by
  obtain ⟨takes, grown, done, loaded⟩ := Planting.loaded_empty.enterAll read closed spread (by simp)
  refine ⟨grown.tree, by rw [ofFlat, done]; rfl, takes, loaded.navigable, ?_⟩
  have all := loaded.tips
  rw [List.append_nil] at all
  exact all.trans (List.reverse_perm tips)

/-- A map whose entries can be read has a tree in which only what is inside of arrays can be required. -/
theorem lenient_of_reads {map : FlatMap} (spread : Planting.Spread map.entries) {tips : List (List String × Sketch)}
    (read : List.Forall₂ Planting.Reads map.entries tips) (closed : ∀ tip ∈ tips, tip.2.isOpen = false)
    {tree : SchemaTree} (done : ofFlat map = .ok tree) : Sketch.LenientAll tree.sketches := by
  obtain ⟨_, grown, entered, loaded⟩ := Planting.loaded_empty.enterAll read closed spread (by simp)
  rw [ofFlat, entered] at done
  cases done
  exact loaded.lenient

theorem reads_of_ofFlat {map : FlatMap} (spread : Planting.Spread map.entries)
    (closed : ∀ entry ∈ map.entries, ∀ sketch, entry.2.read entry.1 = .ok sketch → sketch.isOpen = false)
    {tree : SchemaTree} (done : ofFlat map = .ok tree) : ∃ tips, List.Forall₂ Planting.Reads map.entries tips ∧
      Sketch.NavigableAll tree.sketches ∧ (Sketch.tipsOf [] tree.sketches).Perm tips := by
  obtain ⟨grown, entered, _⟩ := Except.map_eq_ok_iff.mp done
  obtain ⟨tips, reads⟩ := Planting.loaded_empty.reads spread closed (by simp) entered
  have shut : ∀ tip ∈ tips, tip.2.isOpen = false := by
    intro tip member
    obtain ⟨entry, listed, read⟩ := exists_of_forall₂ reads.flip tip member
    exact closed entry listed tip.2 read.2
  obtain ⟨same, again, _, tree⟩ := ofFlat_of_reads spread reads shut
  cases done.symm.trans again
  exact ⟨tips, reads, tree⟩

end SchemaTree

end ConfigSchema
