import ConfigSchema.Proofs.Flat.Places
import ConfigSchema.Proofs.Flat.Plantings

/-! Twins in the tree of a flat map: siblings with one name. A property that an entry lists and a longer path that goes
through the same name both make a field, and neither is told of the other. Main statement: there are no twins exactly
if no path goes through a name that the entry above it lists. -/

namespace ConfigSchema

open SchemaTree

namespace Entry

def Holds (entry : Entry) : Prop := ∃ kind, Kind.ofNode entry.schema "" = .ok kind ∧ kind.holdsFields = true

instance (entry : Entry) : Decidable entry.Holds :=
  match said : Kind.ofNode entry.schema "" with
  | .ok kind => decidable_of_iff (kind.holdsFields = true) (by simp [Holds, said])
  | .error _ => isFalse (by simp [Holds, said])

theorem holds_of_listed {entry : Entry} {name : String} (named : name ∈ Keyed.keys entry.schema.listed) :
    entry.Holds := by
  unfold Json.listed at named
  split at named
  · rename_i kind said
    exact ⟨kind, said, Kind.holdsFields_of_listed named⟩
  · cases named

end Entry

/-- A path that is not passed over: no segment is empty, and the entries above it hold fields. -/
def Enters (entries : List (String × Entry)) (path : String) : Prop :=
  "" ∉ Path.segments path ∧ ∀ entry ∈ entries, Path.segments entry.1 <+: Path.segments path → entry.1 ≠ path →
    entry.2.Holds

instance (entries : List (String × Entry)) (path : String) : Decidable (Enters entries path) :=
  inferInstanceAs (Decidable (_ ∧ _))

theorem Enters.below {entries : List (String × Entry)} {path longer name : String} (enters : Enters entries path)
    (split : Path.segments longer = Path.segments path ++ [name]) (filled : "" ∉ Path.segments longer)
    (holds : ∀ entry, (path, entry) ∈ entries → entry.Holds) : Enters entries longer := by
  refine ⟨filled, fun ⟨before, entry⟩ member begins different => ?_⟩
  have early := (Path.early_or_same split begins).resolve_right different
  by_cases same : before = path
  · exact holds entry (same ▸ member)
  · exact enters.2 (before, entry) member early same

/-- A path goes through a name that an entry above it lists, although neither the path nor the entry is passed over on
the way there. -/
def Overlaps (entries : List (String × Entry)) : Prop :=
  ∃ entry ∈ entries, Enters entries entry.1 ∧ ∃ longer ∈ entries, "" ∉ Path.segments longer.1 ∧
    ∃ name ∈ Keyed.keys entry.2.schema.listed, Path.segments entry.1 ++ [name] <+: Path.segments longer.1

instance (entries : List (String × Entry)) : Decidable (Overlaps entries) :=
  inferInstanceAs (Decidable (∃ entry ∈ entries, _))

theorem overlaps_iff_of_mem {first second : List (String × Entry)} (same : ∀ entry, entry ∈ first ↔ entry ∈ second) :
    Overlaps first ↔ Overlaps second := by
  simp only [Overlaps, Enters, same]

namespace Planting

/-- The paths at which fields stand are those that lead to entries that were met, or begin the way that is being walked.
They are not passed over, and no other such path to an entry is missing. -/
structure Covers (planting : Planting) (met : List (String × Entry)) (walked : List String) : Prop where
  enters : ∀ path id, planting.at? path = some id → Enters met path
  kept : ∀ path id, planting.at? path = some id →
    (∃ entry ∈ met, "" ∉ Path.segments entry.1 ∧ Path.segments path <+: Path.segments entry.1) ∨
      Path.segments path <+: walked
  reached : ∀ entry ∈ met, "" ∉ Path.segments entry.1 → ∀ part, Path.segments part <+: Path.segments entry.1 →
    Enters met part → ∃ id, planting.at? part = some id

namespace Covers

variable {planting : Planting} {met : List (String × Entry)} {walked : List String} {path : String}

theorem mono (covers : Covers planting met walked) {more : List String} (start : walked <+: more) :
    Covers planting met more where
  enters := covers.enters
  kept := fun other id here => (covers.kept other id here).imp_right fun begins => begins.trans start
  reached := covers.reached

theorem grow (covers : Covers planting met walked) {tree : SchemaTree} {id : FieldId} (enters : Enters met path)
    (begins : Path.segments path <+: walked) : Covers (planting.grow tree path id) met walked where
  enters := by
    intro other sought here
    rw [at?_grow] at here
    split at here
    · rename_i same
      exact same ▸ enters
    · exact covers.enters other sought here
  kept := by
    intro other sought here
    rw [at?_grow] at here
    split at here
    · rename_i same
      exact .inr (same ▸ begins)
    · exact covers.kept other sought here
  reached := by
    intro entry member filled part start free
    rw [at?_grow]
    split
    · exact ⟨_, rfl⟩
    · exact covers.reached entry member filled part start free

/-- An entry is met once there are fields on the way to it as far as this is not passed over. -/
theorem meet (covers : Covers planting met walked) (entry : Entry)
    (begins : walked ≠ [] → "" ∉ Path.segments path ∧ walked <+: Path.segments path)
    (beyond : ∀ other id, planting.at? other = some id → Path.segments path <+: Path.segments other → path = other)
    (stands : "" ∉ Path.segments path → ∀ part, Path.segments part <+: Path.segments path →
      Enters ((path, entry) :: met) part → ∃ id, planting.at? part = some id) :
    Covers planting ((path, entry) :: met) [] where
  enters := by
    intro other id here
    obtain ⟨filled, holds⟩ := covers.enters other id here
    refine ⟨filled, List.forall_mem_cons.mpr ⟨fun start different => ?_, holds⟩⟩
    exact absurd (beyond other id here start) different
  kept := by
    intro other id here
    left
    rcases covers.kept other id here with ⟨known, member, filled, start⟩ | start
    · exact ⟨known, List.mem_cons_of_mem _ member, filled, start⟩
    · have some_way : walked ≠ [] := by
        rintro rfl
        exact Path.segments_ne_nil other (List.prefix_nil.mp start)
      obtain ⟨filled, way⟩ := begins some_way
      exact ⟨(path, entry), List.mem_cons_self .., filled, start.trans way⟩
  reached := by
    intro known member filled part start free
    rcases List.mem_cons.mp member with rfl | older
    · exact stands filled part start free
    · exact covers.reached known older filled part start
        ⟨free.1, fun other listed => free.2 other (List.mem_cons_of_mem _ listed)⟩

end Covers

theorem covers_empty : Covers ⟨.empty, []⟩ [] [] where
  enters := fun path id here => absurd ⟨path, here⟩ (not_placed_empty id)
  kept := fun path id here => absurd ⟨path, here⟩ (not_placed_empty id)
  reached := nofun

structure Ready (planting : Planting) (met : List (String × Entry)) (names : List String) (holder : Option FieldId) :
    Prop where
  led : planting.tree.Leads names holder
  placed : ∀ id, holder = some id → planting.Placed id
  admits : planting.tree.Admits holder
  stands : ∀ part, Path.segments part <+: names → ∃ id, planting.at? part = some id
  holds : ∀ entry ∈ met, Path.segments entry.1 <+: names → entry.2.Holds

def Blocked (planting : Planting) (met : List (String × Entry)) (names : List String) : Prop :=
  ∃ entry ∈ met, Path.segments entry.1 <+: names ∧ ¬entry.2.Holds ∧
    ∀ part, Path.segments part <+: Path.segments entry.1 → ∃ id, planting.at? part = some id

theorem ready_top (planting : Planting) (met : List (String × Entry)) : Ready planting met [] none where
  led := rfl
  placed := nofun
  admits := nofun
  stands := fun part start => absurd (List.prefix_nil.mp start) (Path.segments_ne_nil part)
  holds := fun entry _ start => absurd (List.prefix_nil.mp start) (Path.segments_ne_nil entry.1)

variable {planting wider grown : Planting} {met : List (String × Entry)} {walked names : List String}
  {parent : Option FieldId} {id : FieldId} {name : String}

section

variable {path : String} (split : Path.segments path = names ++ [name])

include split

theorem Ready.enters (ready : Ready planting met names parent) (filled : "" ∉ Path.segments path) :
    Enters met path :=
  ⟨filled, fun entry member start different =>
    ready.holds entry member ((Path.early_or_same split start).resolve_right different)⟩

theorem opened_spec {tree : SchemaTree} (rooted : Rooted planting met) (covers : Covers planting met walked)
    (ready : Ready planting met names parent) (filled : "" ∉ Path.segments path)
    (begins : Path.segments path <+: walked) (missing : planting.at? path = none)
    (inserted : planting.tree.insert parent (container name) = .ok (id, tree)) :
    Rooted (planting.grow tree path id) met ∧ Covers (planting.grow tree path id) met walked := by
  obtain ⟨wellFormed, numbered⟩ := insert_wellFormed rooted.wellFormed rooted.numbered inserted
  obtain ⟨entered, _⟩ := entered_of_insert rooted.numbered.not_contains_next inserted
  have planted := Planted.under entered (.nothing tree (some id))
  have grown : Grown planting tree parent id (.mk ((container name).withId id) []) :=
    ⟨wellFormed, planted, ready.admits⟩
  have enters := ready.enters split filled
  have own : tree.Spells id (Path.segments path) := by
    rw [split]
    exact planted.spells_new wellFormed ready.admits ready.led
  have fits : (Branch.mk ((container name).withId id) []).sketch.Fits path met := by
    constructor
    · intro entry member
      -- An entry with this path would have been met, and its field would stand here.
      obtain ⟨other, here⟩ := covers.reached _ member filled path List.prefix_rfl enters
      rw [missing] at here
      cases here
    · intro _
      rw [Path.lastSegment_of_split split]
      rfl
  exact ⟨rooted.grow grown missing fits numbered ready.placed own, covers.grow enters begins⟩

/-- The next name of the way leads to a field at its path, made if there was none. -/
theorem ensure_spec (rooted : Rooted planting met) (covers : Covers planting met walked)
    (ready : Ready planting met names parent) (filled : "" ∉ Path.segments path)
    (begins : Path.segments path <+: walked) : ∃ id wider, planting.ensure parent path name = .ok (id, wider) ∧
      Rooted wider met ∧ Covers wider met walked ∧ wider.at? path = some id ∧
        ∀ other sought, planting.at? other = some sought → wider.at? other = some sought := by
  unfold ensure
  split
  · rename_i id known
    exact ⟨id, planting, rfl, rooted, covers, known, fun _ _ here => here⟩
  · rename_i missing
    obtain ⟨id, tree, inserted⟩ := exists_insert ready.admits (container name)
    obtain ⟨rooted, covers⟩ := opened_spec split rooted covers ready filled begins missing inserted
    rw [inserted]
    refine ⟨id, _, rfl, rooted, covers, (at?_grow path).trans (if_pos rfl), fun other sought here => ?_⟩
    exact (at?_grow other).trans ((if_neg (ne_of_missing missing here).symm).trans here)

namespace Ready

variable (ready : Ready planting met names parent) (rooted : Rooted wider met)
  (kept : ∀ other sought, planting.at? other = some sought → wider.at? other = some sought)
  (here : wider.at? path = some id) {node : Node} (found : wider.tree.node? id = some node)

include ready kept here

theorem stands_at {part : String} (start : Path.segments part <+: Path.segments path) :
    ∃ sought, wider.at? part = some sought := by
  rcases Path.early_or_same split start with early | rfl
  · obtain ⟨sought, before⟩ := ready.stands part early
    exact ⟨sought, kept part sought before⟩
  · exact ⟨id, here⟩

include rooted found

theorem further (holds : node.field.kind.holdsFields = true) : Ready wider met (names ++ [name]) (some id) := by
  rw [← split]
  refine ⟨rooted.spelt path id here, ?_, ?_, fun part => ready.stands_at split kept here, fun entry member start => ?_⟩
  · rintro _ ⟨⟩
    exact ⟨path, here⟩
  · rintro _ ⟨⟩
    exact ⟨node, found, holds⟩
  · rcases Path.early_or_same split start with early | rfl
    · exact ready.holds entry member early
    · exact ⟨_, (rooted.kind here found).1 entry.2 member, holds⟩

theorem blocked (leaf : node.field.kind.holdsFields = false) : Blocked wider met (names ++ [name]) := by
  obtain ⟨known, free⟩ := rooted.kind here found
  -- What is made for a segment holds fields, so this field was read from an entry.
  have brought : ∃ entry, (path, entry) ∈ met := by
    by_contra never
    exact absurd (free (not_exists.mp never)) (by simp [leaf])
  obtain ⟨entry, member⟩ := brought
  rw [← split]
  refine ⟨(path, entry), member, List.prefix_rfl, ?_, fun part => ready.stands_at split kept here⟩
  rintro ⟨kind, said, holds⟩
  rw [known entry member, Except.ok.injEq] at said
  rw [said, holds] at leaf
  cases leaf

end Ready

end

theorem holder_spec {rest : List String} (rooted : Rooted planting met) (covers : Covers planting met walked)
    (ready : Ready planting met names parent) (named : ∀ part ∈ names ++ rest, Path.IsName part)
    (begins : names ++ rest <+: walked) :
    ∃ found grown, planting.holder parent (Path.dotted names) rest = .ok (found, grown) ∧
      Rooted grown met ∧ Covers grown met walked ∧
        (∀ place, found = some place → Ready grown met (names ++ rest) place) ∧
          (found = none → Blocked grown met (names ++ rest)) := by
  induction rest generalizing planting names parent with
  | nil =>
    rw [List.append_nil]
    exact ⟨some parent, planting, rfl, rooted, covers, fun place same => Option.some.inj same ▸ ready,
      fun same => by cases same⟩
  | cons name rest ih =>
    rw [List.append_cons] at named begins ⊢
    have early : ∀ part ∈ names, Path.IsName part := fun part member => named part (by simp [member])
    have next : ∀ part ∈ names ++ [name], Path.IsName part :=
      fun part member => named part (List.mem_append_left _ member)
    have split := Path.segments_named (by simp) next
    have filled : "" ∉ names ++ [name] := fun member => (next "" member).nonempty rfl
    obtain ⟨id, wider, made, rooted, covers, here, kept⟩ := ensure_spec split rooted covers ready (by rwa [split])
      (by rw [split]; exact (List.prefix_append ..).trans begins)
    obtain ⟨node, stored⟩ := (rooted.spelt _ id here).exists_node
    rw [Planting.holder, Path.join_dotted early, made, Except.ok_bind]
    simp only [SchemaTree.get?_of_node stored, Option.any_some]
    cases holds : node.field.kind.holdsFields with
    | true => exact ih rooted covers (ready.further split rooted kept here stored holds) named begins
    | false =>
      obtain ⟨entry, member, start, stops⟩ := ready.blocked split rooted kept here stored holds
      exact ⟨none, wider, rfl, rooted, covers, (fun _ same => by cases same),
        fun _ => ⟨entry, member, start.trans (List.prefix_append ..), stops⟩⟩

theorem Covers.not_beyond {path : String} (covers : Covers planting met walked)
    (later : ∀ entry ∈ met, entry.1 < path) (short : ¬Path.segments path <+: walked) (other : String)
    (sought : FieldId) (here : planting.at? other = some sought) : ¬Path.segments path <+: Path.segments other := by
  intro start
  rcases covers.kept other sought here with ⟨entry, member, _, further⟩ | further
  · exact Path.not_lt_of_prefix (start.trans further) (later entry member)
  · exact short (start.trans further)

theorem Covers.missing {path : String} (covers : Covers planting met walked)
    (later : ∀ entry ∈ met, entry.1 < path) (short : ¬Path.segments path <+: walked) : planting.at? path = none := by
  cases here : planting.at? path with
  | none => rfl
  | some id => exact absurd List.prefix_rfl (covers.not_beyond later short path id here)

theorem apart_of_distinct {path : String} {entry : Entry} (distinct : entry.schema.Distinct) : entry.Apart path :=
  fun _ read => Sketch.ofNode_every Sketch.inherited_distinct (Sketch.distinct_heldByReading true) distinct read

theorem fits_of_read {path : String} {entry : Entry} {sketch : Sketch} (read : entry.read path = .ok sketch)
    (once : ∀ other, (path, other) ∈ met → other = entry) (member : (path, entry) ∈ met) : sketch.Fits path met where
  entry := by
    intro other again
    rwa [once other again]
  object := fun never => absurd member (never entry)

section

variable {path : String} (covers : Covers planting met names) (ready : Ready planting met names parent)
  (later : ∀ known ∈ met, known.1 < path) (split : Path.segments path = names ++ [name])

include covers ready later split

theorem rooted_of_plant {entry : Entry} {sketch : Sketch} {tree : SchemaTree} (rooted : Rooted planting met)
    (read : entry.read path = .ok sketch)
    (planted : sketch.plant planting.tree parent path = .ok (id, tree)) :
    Rooted (planting.grow tree path id) ((path, entry) :: met) := by
  have missing := covers.missing later (Path.not_prefix_of_split split)
  obtain ⟨wellFormed, numbered, branch, inside, same⟩ := Sketch.planted_of_plant rooted.wellFormed rooted.numbered
    ready.admits (Sketch.sound_of_read read) planted
  have grown : Grown planting tree parent id branch := ⟨wellFormed, inside, ready.admits⟩
  have called : branch.field.name = name := by
    rw [← branch.name_sketch, same, Sketch.name_of_read read, Path.lastSegment_of_split split]
  have own : tree.Spells id (Path.segments path) := by
    rw [split, ← called]
    exact inside.spells_new wellFormed ready.admits ready.led
  have once : ∀ other, (path, other) ∈ (path, entry) :: met → other = entry := by
    intro other member
    rcases List.mem_cons.mp member with again | older
    · exact congrArg Prod.snd again
    · exact absurd (later _ older) (String.lt_irrefl path)
  have fits : branch.sketch.Fits path ((path, entry) :: met) :=
    same ▸ fits_of_read read once (List.mem_cons_self ..)
  exact (rooted.meet entry missing).grow grown missing fits numbered ready.placed own

theorem covers_of_plant (tree : SchemaTree) (entry : Entry) (filled : "" ∉ Path.segments path) :
    Covers (planting.grow tree path id) ((path, entry) :: met) [] := by
  have way : names <+: Path.segments path := split ▸ List.prefix_append names [name]
  have wider : Covers (planting.grow tree path id) met (Path.segments path) :=
    (covers.mono way).grow (ready.enters split filled) List.prefix_rfl
  refine wider.meet entry (fun _ => ⟨filled, List.prefix_rfl⟩) ?_ fun _ part start _ => ?_
  · intro other sought here start
    rw [at?_grow] at here
    split at here
    · assumption
    · exact absurd start (covers.not_beyond later (Path.not_prefix_of_split split) other sought here)
  · rw [at?_grow]
    split
    · exact ⟨_, rfl⟩
    · rename_i other
      exact ready.stands part ((Path.early_or_same split start).resolve_right fun same => other same.symm)

end

theorem blocked_spec {path : String} {entry : Entry} (rooted : Rooted planting met)
    (covers : Covers planting met names) (blocked : Blocked planting met names)
    (later : ∀ known ∈ met, known.1 < path) (split : Path.segments path = names ++ [name])
    (filled : "" ∉ Path.segments path) :
    Rooted planting ((path, entry) :: met) ∧ Covers planting ((path, entry) :: met) [] := by
  have short : ¬Path.segments path <+: names := Path.not_prefix_of_split split
  have way : names <+: Path.segments path := split ▸ List.prefix_append names [name]
  refine ⟨rooted.meet entry (covers.missing later short), covers.meet entry (fun _ => ⟨filled, way⟩) ?_ ?_⟩
  · exact fun other sought here start => absurd start (covers.not_beyond later short other sought here)
  · intro _ part start free
    obtain ⟨known, member, begins, leaf, stands⟩ := blocked
    -- Up to the entry that blocks the way every path has its field, and beyond it paths are passed over.
    rcases List.prefix_or_prefix_of_prefix start (begins.trans way) with before | behind
    · exact stands part before
    · by_cases same : known.1 = part
      · exact stands part (same ▸ List.prefix_rfl)
      · exact absurd (free.2 known (List.mem_cons_of_mem _ member) behind same) leaf

theorem enter_spec {path : String} {entry : Entry} (rooted : Rooted planting met) (covers : Covers planting met [])
    (later : ∀ known ∈ met, known.1 < path) (done : planting.enter path entry = .ok grown) :
    Rooted grown ((path, entry) :: met) ∧ Covers grown ((path, entry) :: met) [] := by
  have short : ¬Path.segments path <+: [] := fun start => Path.segments_ne_nil path (List.prefix_nil.mp start)
  simp only [enter] at done
  split at done
  · rename_i empty
    cases done
    rw [List.contains_iff_mem] at empty
    refine ⟨rooted.meet entry (covers.missing later short), covers.meet entry (absurd rfl) ?_ (absurd empty)⟩
    exact fun other sought here start => absurd start (covers.not_beyond later short other sought here)
  · rename_i whole
    have filled : "" ∉ Path.segments path := by simpa using whole
    obtain ⟨names, name, split⟩ := Path.exists_segments path
    have named : ∀ part ∈ names, Path.IsName part := fun part member =>
      Path.isName_of_mem_segments (Bool.not_eq_true _ ▸ whole) (split ▸ List.mem_append_left _ member)
    -- The last segment is not walked, so that nothing stands at the path itself when its entry is planted.
    obtain ⟨found, wider, held, rooted, covers, ready, blocked⟩ := holder_spec rooted (covers.mono List.nil_prefix)
      (ready_top planting met) named List.prefix_rfl
    rw [split, List.dropLast_concat] at done
    obtain ⟨_, again, rest⟩ := Except.bind_eq_ok_iff.mp done
    cases held.symm.trans again
    cases found with
    | none =>
      cases rest
      exact blocked_spec rooted covers (blocked rfl) later split filled
    | some parent =>
      obtain ⟨sketch, read, last⟩ := Except.bind_eq_ok_iff.mp rest
      obtain ⟨⟨id, tree⟩, planted, same⟩ := Except.bind_eq_ok_iff.mp last
      cases same
      exact ⟨rooted_of_plant covers (ready parent rfl) later split rooted read planted,
        covers_of_plant covers (ready parent rfl) later split tree entry filled⟩

theorem enterAll_rooted {entries : List (String × Entry)} (rooted : Rooted planting met)
    (covers : Covers planting met []) (later : ∀ known ∈ met, ∀ entry ∈ entries, known.1 < entry.1)
    (sorted : entries.Pairwise fun first second => first.1 < second.1)
    (done : planting.enterAll entries = .ok grown) :
    Rooted grown (entries.reverse ++ met) ∧ Covers grown (entries.reverse ++ met) [] := by
  induction entries generalizing planting met with
  | nil =>
    cases done
    exact ⟨rooted, covers⟩
  | cons entry rest ih =>
    rw [List.pairwise_cons] at sorted
    obtain ⟨middle, entered, further⟩ := Except.bind_eq_ok_iff.mp done
    obtain ⟨rooted, covers⟩ := enter_spec rooted covers
      (fun known member => later known member entry (List.mem_cons_self ..)) entered
    rw [List.reverse_cons, List.append_assoc]
    have after : ∀ known ∈ entry :: met, ∀ other ∈ rest, known.1 < other.1 :=
      List.forall_mem_cons.mpr ⟨sorted.1, fun known member other listed =>
        later known member other (List.mem_cons_of_mem _ listed)⟩
    exact ih rooted covers after sorted.2 further

theorem enterAll_spec {entries : List (String × Entry)} (grafted : Grafted planting met)
    (covers : Covers planting met []) (later : ∀ known ∈ met, ∀ entry ∈ entries, known.1 < entry.1)
    (sorted : entries.Pairwise fun first second => first.1 < second.1)
    (distinct : ∀ entry ∈ entries, entry.2.schema.Distinct) (done : planting.enterAll entries = .ok grown) :
    Grafted grown (entries.reverse ++ met) ∧ Covers grown (entries.reverse ++ met) [] := by
  obtain ⟨rooted, covers⟩ := enterAll_rooted grafted.toRooted covers later sorted done
  refine ⟨⟨rooted, List.forall_mem_append.mpr ⟨fun entry member => ?_, grafted.distinct⟩⟩, covers⟩
  exact apart_of_distinct (distinct entry (List.mem_reverse.mp member))

namespace Grafted

variable {entries : List (String × Entry)} (grafted : Grafted planting entries) (covers : Covers planting entries [])

include grafted covers

/-- A field at a path and one that was read with an entry are twins only if the path goes through a name that the entry
lists. -/
theorem overlaps_of_beside {first second : FieldId} {node other : Node} (placed : planting.Placed first)
    (aside : ¬planting.Placed second) (found : planting.tree.node? first = some node)
    (sought : planting.tree.node? second = some other) (beside : node.parent = other.parent)
    (same : node.field.name = other.field.name) : Overlaps entries := by
  obtain ⟨holder, under, known⟩ := grafted.below second other aside sought
  have above : node.parent = some holder := beside.trans under
  obtain ⟨path, entry, here, member, named⟩ := known (grafted.above first node holder placed found above)
  obtain ⟨own, there⟩ := placed
  have spelt : Path.segments own = Path.segments path ++ [node.field.name] :=
    (grafted.spelt own first there).unique (.child found above (grafted.spelt path holder here))
  obtain ⟨longer, listed, filled, start⟩ :=
    (covers.kept own first there).resolve_right fun empty => Path.segments_ne_nil own (List.prefix_nil.mp empty)
  exact ⟨(path, entry), member, covers.enters path holder here, longer, listed, filled, _, named,
    same ▸ spelt ▸ start⟩

theorem exists_twins (overlaps : Overlaps entries) : ∃ first second node other, planting.tree.node? first = some node ∧
    planting.tree.node? second = some other ∧ node.parent = other.parent ∧ node.field.name = other.field.name ∧
      first ≠ second := by
  obtain ⟨⟨path, entry⟩, member, enters, ⟨longer, brought⟩, listed, filled, name, named, start⟩ := overlaps
  obtain ⟨through, split⟩ : ∃ through, Path.segments through = Path.segments path ++ [name] :=
    ⟨_, Path.segments_dotted (by simp) fun part inside => Path.hasDot_of_mem_segments (start.subset inside)⟩
  have begins : Path.segments through <+: Path.segments longer := split ▸ start
  obtain ⟨holder, here⟩ :=
    covers.reached _ listed filled path ((List.prefix_append ..).trans start) enters
  obtain ⟨top, stored⟩ := (grafted.spelt path holder here).exists_node
  -- One field stands for all entries with its path, so they have one kind.
  have known := (grafted.kind here stored).1
  have holds : ∀ other, (path, other) ∈ entries → other.Holds := by
    intro other again
    obtain ⟨kind, said, holds⟩ := Entry.holds_of_listed named
    rw [known entry member, Except.ok.injEq] at said
    exact ⟨_, known other again, said ▸ holds⟩
  have below := enters.below split (fun empty => filled (begins.subset empty)) holds
  obtain ⟨id, there⟩ := covers.reached _ listed filled through begins below
  have spelt : planting.tree.Spells id (Path.segments path ++ [name]) := split ▸ grafted.spelt _ id there
  obtain ⟨node, above, found, under, own, higher⟩ := spelt.exists_above (Path.segments_ne_nil path)
  have placed := grafted.above id node above ⟨_, there⟩ found under
  have same : holder = above := Option.some.inj (here.symm.trans (grafted.at?_of_spells placed higher))
  obtain ⟨child, other, aside, sought, beside, called⟩ := grafted.listed path entry holder member here name named
  refine ⟨id, child, node, other, found, sought, ?_, own.trans called.symm, ?_⟩
  · rw [under, beside, same]
  · rintro rfl
    exact aside ⟨_, there⟩

theorem namesDiffer_iff : planting.tree.NamesDiffer ↔ ¬Overlaps entries := by
  rw [grafted.wellFormed.namesDiffer_iff]
  constructor
  · intro alone overlaps
    obtain ⟨first, second, node, other, found, sought, beside, same, different⟩ :=
      grafted.exists_twins covers overlaps
    exact different (alone first second node other found sought beside same)
  · intro apart first second node other found sought beside same
    -- Fields at paths are told apart by these, fields that were read by their names; twins are one of either.
    by_cases placed : planting.Placed first <;> by_cases also : planting.Placed second
    · obtain ⟨path, here⟩ := placed
      have spelt := (grafted.spelt path first here).beside found sought beside same
      exact Option.some.inj (here.symm.trans (grafted.at?_of_spells also spelt))
    · exact absurd (grafted.overlaps_of_beside covers placed also found sought beside same) apart
    · exact absurd (grafted.overlaps_of_beside covers also placed sought found beside.symm same.symm) apart
    · exact grafted.apart grafted.distinct first second node other placed also found sought beside same

end Grafted

end Planting

namespace SchemaTree

/-- Siblings in the tree of a map have different names exactly if no path goes through a name that an entry above it
lists. -/
theorem ofFlat_namesDiffer_iff {map : FlatMap} (distinct : ∀ entry ∈ map.entries, entry.2.schema.Distinct)
    {tree : SchemaTree} (done : ofFlat map = .ok tree) : tree.NamesDiffer ↔ ¬Overlaps map.entries := by
  obtain ⟨grown, entered, rfl⟩ := Except.map_eq_ok_iff.mp done
  obtain ⟨grafted, covers⟩ := Planting.enterAll_spec Planting.grafted_empty Planting.covers_empty nofun map.sorted
    distinct entered
  rw [grafted.namesDiffer_iff covers, List.append_nil, overlaps_iff_of_mem fun _ => List.mem_reverse]

def listingGroup : Entry :=
  ⟨"A", .object [], .object [("type", .string "object"),
    ("properties", .object [("b", .object [("type", .string "object")])])]⟩

def switch : Entry := ⟨"C", .bool true, .object [("type", .string "boolean")]⟩

def besideMap : FlatMap := .ofList [("a", listingGroup), ("a.c.d", switch)]

theorem namesDiffer_of_besideMap : (∀ entry ∈ besideMap.entries, entry.2.schema.Distinct) ∧
    ∃ tree, ofFlat besideMap = .ok tree ∧ tree.size = 4 ∧ tree.NamesDiffer := by
  have entries : besideMap.entries = [("a", listingGroup), ("a.c.d", switch)] := by decide +kernel
  have distinct : ∀ entry ∈ besideMap.entries, entry.2.schema.Distinct := by
    rw [entries]
    simp [listingGroup, switch, Json.Distinct, Json.DistinctMembers, Keyed.keys]
  have done : ofFlat besideMap = .ok ((ofFlat besideMap).toOption.getD .empty) := by decide +kernel
  exact ⟨distinct, _, done, by decide +kernel, (ofFlat_namesDiffer_iff distinct done).mpr (by decide +kernel)⟩

def throughMap : FlatMap := .ofList [("a", listingGroup), ("a.b.c", switch)]

def throughTree : SchemaTree := (ofFlat throughMap).toOption.getD .empty

theorem twins_of_throughMap : ofFlat throughMap = .ok throughTree ∧
    throughTree.children (.ofSerial 0) = [.ofSerial 1, .ofSerial 2] ∧
    throughTree.path? (.ofSerial 1) = some "a.b" ∧ throughTree.path? (.ofSerial 2) = some "a.b" ∧
    ¬throughTree.NamesDiffer := by
  have list : throughTree.siblings? (some (.ofSerial 0)) = some [.ofSerial 1, .ofSerial 2] := by decide +kernel
  refine ⟨by decide +kernel, by decide +kernel, by decide +kernel, by decide +kernel, fun differ => ?_⟩
  exact absurd (differ _ _ list) (by decide +kernel)

end SchemaTree

end ConfigSchema
