import ConfigSchema.Proofs.Flat.Twins

/-! What becomes of one entry of a flat map. An entry that is passed over leaves the planting as it was, with no object
on its way; any other entry fails only where its schema cannot be read, for its field can always be inserted. Main
statements: a map is planted like the map of the entries that are not passed over, and its outcome is that of reading
these one after another. -/

namespace ConfigSchema

open SchemaTree

variable {entries : List (String × Entry)} {path : String}

theorem enters_iff_of_mem {others : List (String × Entry)} (same : ∀ entry, entry ∈ entries ↔ entry ∈ others) :
    Enters entries path ↔ Enters others path := by
  simp only [Enters, same]

namespace Enters

theorem of_prefix {part : String} (enters : Enters entries path) (start : Path.segments part <+: Path.segments path) :
    Enters entries part := by
  refine ⟨fun empty => enters.1 (start.subset empty), fun entry member begins different => ?_⟩
  refine enters.2 entry member (begins.trans start) ?_
  rintro rfl
  have same := start.eq_of_length (Nat.le_antisymm start.length_le begins.length_le)
  exact different (Path.segments_inj.mp same).symm

theorem iff_of_later {met later : List (String × Entry)}
    (split : ∀ entry, entry ∈ entries ↔ entry ∈ met ∨ entry ∈ later)
    (after : ∀ entry ∈ later, entry.1 = path ∨ path < entry.1) : Enters entries path ↔ Enters met path := by
  constructor
  · exact fun enters => ⟨enters.1, fun entry member => enters.2 entry ((split entry).mpr (.inl member))⟩
  · refine fun enters => ⟨enters.1, fun entry member start different => ?_⟩
    rcases (split entry).mp member with before | behind
    · exact enters.2 entry before start different
    · exact absurd ((after entry behind).resolve_left different) (Path.not_lt_of_prefix start)

end Enters

theorem exists_stop (filled : "" ∉ Path.segments path) (skipped : ¬Enters entries path) :
    ∃ entry ∈ entries, Path.segments entry.1 <+: Path.segments path ∧ entry.1 ≠ path ∧ ¬entry.2.Holds ∧
      Enters entries entry.1 := by
  induction long : (Path.segments path).length using Nat.strongRecOn generalizing path with
  | _ length ih =>
    obtain ⟨entry, member, start, different, leaf⟩ : ∃ entry ∈ entries,
        Path.segments entry.1 <+: Path.segments path ∧ entry.1 ≠ path ∧ ¬entry.2.Holds := by
      by_contra none_above
      refine skipped ⟨filled, fun entry member start different => ?_⟩
      by_contra leaf
      exact none_above ⟨entry, member, start, different, leaf⟩
    by_cases enters : Enters entries entry.1
    · exact ⟨entry, member, start, different, leaf, enters⟩
    · have shorter := Path.length_lt_of_prefix start (Path.segments_inj.not.mpr different)
      obtain ⟨first, listed, begins, _, stops, free⟩ :=
        ih _ (long ▸ shorter) (fun empty => filled (start.subset empty)) enters rfl
      refine ⟨first, listed, begins.trans start, ?_, stops, free⟩
      rintro rfl
      exact absurd begins.length_le (Nat.not_le.mpr shorter)

namespace Planting

variable {planting : Planting} {met : List (String × Entry)} {id : FieldId} {node : Node}

namespace Rooted

variable (rooted : Rooted planting met)

include rooted

theorem holdsFields (here : planting.at? path = some id) (found : planting.tree.node? id = some node)
    (holds : ∀ entry, (path, entry) ∈ met → entry.Holds) : node.field.kind.holdsFields = true := by
  obtain ⟨known, free⟩ := rooted.kind here found
  by_cases brought : ∃ entry, (path, entry) ∈ met
  · obtain ⟨entry, member⟩ := brought
    obtain ⟨kind, said, holds⟩ := holds entry member
    rw [known entry member, Except.ok.injEq] at said
    exact said ▸ holds
  · exact free (not_exists.mp brought)

theorem holdsFields_eq_false (here : planting.at? path = some id) (found : planting.tree.node? id = some node)
    {entry : Entry} (member : (path, entry) ∈ met) (leaf : ¬entry.Holds) : node.field.kind.holdsFields = false :=
  Bool.eq_false_iff.mpr fun holds => leaf ⟨_, (rooted.kind here found).1 entry member, holds⟩

theorem holder_stops {stop : String × Entry} (member : stop ∈ met) (enters : Enters met stop.1)
    (leaf : ¬stop.2.Holds)
    (stands : ∀ part, Path.segments part <+: Path.segments stop.1 → ∃ id, planting.at? part = some id)
    {rest way names : List String} (split : Path.segments stop.1 = names ++ way) (some_way : way ≠ [])
    (start : way <+: rest) (parent : Option FieldId) :
    planting.holder parent (Path.dotted names) rest = .ok (none, planting) := by
  induction rest generalizing way names parent with
  | nil => exact absurd (List.prefix_nil.mp start) some_way
  | cons name rest ih =>
    cases way with
    | nil => exact absurd rfl some_way
    | cons first way =>
      obtain ⟨rfl, further⟩ := List.cons_prefix_cons.mp start
      rw [List.append_cons] at split
      have begins : names ++ [first] <+: Path.segments stop.1 := split ▸ List.prefix_append ..
      have named : ∀ part ∈ names ++ [first], Path.IsName part := fun part inside =>
        Path.isName_of_mem_segments (by simpa using enters.1) (begins.subset inside)
      have early : ∀ part ∈ names, Path.IsName part := fun part inside => named part (List.mem_append_left _ inside)
      have own := Path.segments_named (by simp) named
      have onward : Path.segments (Path.dotted (names ++ [first])) <+: Path.segments stop.1 := by rwa [own]
      obtain ⟨id, here⟩ := stands _ onward
      obtain ⟨node, found⟩ := (rooted.spelt _ id here).exists_node
      have known : planting.ensure parent (Path.dotted (names ++ [first])) first = .ok (id, planting) := by
        have listed : Keyed.find? (Path.dotted (names ++ [first])) planting.places = some id := here
        rw [ensure, listed]
      rw [holder, Path.join_dotted early, known, Except.ok_bind]
      simp only [get?_of_node found, Option.any_some]
      cases way with
      | nil =>
        have same : Path.dotted (names ++ [first]) = stop.1 := by
          rw [← Path.dotted_segments stop.1, split, List.append_nil]
        rw [same] at here
        rw [rooted.holdsFields_eq_false here found member leaf]
        rfl
      | cons second later =>
        have holds : ∀ entry, (Path.dotted (names ++ [first]), entry) ∈ met → entry.Holds := by
          intro entry inside
          refine enters.2 _ inside onward fun same => ?_
          have whole := own.symm.trans (congrArg Path.segments same)
          simp [split] at whole
        rw [rooted.holdsFields here found holds]
        exact ih split (by simp) further (some id)

theorem enter_skipped (covers : Covers planting met []) (skipped : ¬Enters met path) (entry : Entry) :
    planting.enter path entry = .ok planting := by
  by_cases empty : "" ∈ Path.segments path
  · simp [enter, empty]
  · obtain ⟨stop, member, start, different, leaf, enters⟩ := exists_stop empty skipped
    obtain ⟨names, name, split⟩ := Path.exists_segments path
    have early := (Path.early_or_same split start).resolve_right different
    have stands := fun part (begins : Path.segments part <+: Path.segments stop.1) =>
      covers.reached stop member enters.1 part begins (enters.of_prefix begins)
    have stopped := rooted.holder_stops member enters leaf stands (List.nil_append _).symm
      (Path.segments_ne_nil stop.1) early none
    have held : planting.holder none "" (Path.segments path).dropLast = .ok (none, planting) := by
      rw [split, List.dropLast_concat]
      exact stopped
    simp only [enter, List.contains_eq_mem, empty, decide_false, Bool.false_eq_true, if_false, held, Except.ok_bind]
    rfl

/-- An entry that is not passed over is entered if and only if it can be read, with the reader's error where it
cannot. -/
theorem enter_outcome (covers : Covers planting met []) (enters : Enters met path) (entry : Entry) :
    (planting.enter path entry).map (fun _ => ()) = (entry.read path).map fun _ => () := by
  have whole : (Path.segments path).contains "" = false := by simpa using enters.1
  obtain ⟨names, name, split⟩ := Path.exists_segments path
  have named : ∀ part ∈ names, Path.IsName part := fun part member =>
    Path.isName_of_mem_segments whole (split ▸ List.mem_append_left _ member)
  obtain ⟨found, grown, held, rooted, _, ready, blocked⟩ := holder_spec rooted (covers.mono List.nil_prefix)
    (ready_top planting met) named List.prefix_rfl
  have led : planting.holder none "" (Path.segments path).dropLast = .ok (found, grown) := by
    rw [split, List.dropLast_concat]
    exact held
  cases found with
  | none =>
    obtain ⟨stop, member, start, leaf, _⟩ := blocked rfl
    refine absurd (enters.2 stop member ?_ ?_) leaf
    · exact start.trans (split ▸ List.prefix_append names [name])
    · rintro rfl
      exact Path.not_prefix_of_split split start
  | some parent =>
    simp only [enter, whole, Bool.false_eq_true, if_false, led, Except.ok_bind]
    show (entry.read path >>= _).map _ = _
    cases read : entry.read path with
    | error reason => rfl
    | ok sketch =>
      obtain ⟨id, tree, _, planted, _⟩ := Sketch.exists_plant rooted.wellFormed rooted.numbered
        (ready parent rfl).admits sketch (Sketch.sound_of_read read) path
      rw [Except.ok_bind, planted]
      rfl

end Rooted

structure Halfway (planting : Planting) (met rest all : List (String × Entry)) : Prop where
  rooted : Rooted planting met
  covers : Covers planting met []
  before : ∀ known ∈ met, ∀ entry ∈ rest, known.1 < entry.1
  sorted : rest.Pairwise fun first second => first.1 < second.1
  split : ∀ entry, entry ∈ all ↔ entry ∈ met ∨ entry ∈ rest

theorem halfway_empty (sorted : entries.Pairwise fun first second => first.1 < second.1) :
    Halfway ⟨.empty, []⟩ [] entries entries where
  rooted := rooted_empty
  covers := covers_empty
  before := nofun
  sorted := sorted
  split := by simp

namespace Halfway

variable {entry : Entry} {rest all : List (String × Entry)}
  (halfway : Halfway planting met ((path, entry) :: rest) all)

include halfway

theorem enters_iff : Enters all path ↔ Enters met path := by
  refine Enters.iff_of_later halfway.split (List.forall_mem_cons.mpr ⟨.inl rfl, fun other member => .inr ?_⟩)
  exact (List.pairwise_cons.mp halfway.sorted).1 other member

theorem next {grown : Planting} (done : planting.enter path entry = .ok grown) :
    Halfway grown ((path, entry) :: met) rest all := by
  have sorted := List.pairwise_cons.mp halfway.sorted
  obtain ⟨rooted, covers⟩ := enter_spec halfway.rooted halfway.covers
    (fun known member => halfway.before known member _ (List.mem_cons_self ..)) done
  refine ⟨rooted, covers, List.forall_mem_cons.mpr ⟨sorted.1, ?_⟩, sorted.2, fun other => ?_⟩
  · exact fun known member other listed => halfway.before known member other (List.mem_cons_of_mem _ listed)
  · rw [halfway.split, List.mem_cons, List.mem_cons, or_left_comm, or_assoc]

end Halfway

def readAll : List (String × Entry) → Except SchemaError (List Sketch)
  | [] => .ok []
  | (path, entry) :: rest => do
    let sketch ← entry.read path
    let others ← readAll rest
    pure (sketch :: others)

theorem enterAll_filter {all : List (String × Entry)} (halfway : Halfway planting met entries all) :
    planting.enterAll (entries.filter fun entry => Enters all entry.1) = planting.enterAll entries := by
  induction entries generalizing planting met with
  | nil => rfl
  | cons entry rest ih =>
    obtain ⟨path, entry⟩ := entry
    rw [List.filter_cons]
    by_cases enters : Enters all path
    · rw [if_pos (decide_eq_true enters), enterAll, enterAll]
      cases done : planting.enter path entry with
      | error reason => rfl
      | ok grown => exact ih (halfway.next done)
    · have skipped := halfway.rooted.enter_skipped halfway.covers (halfway.enters_iff.not.mp enters) entry
      rw [if_neg (by simpa using enters), ih (halfway.next skipped), enterAll, skipped, Except.ok_bind]

theorem outcome_enterAll {all : List (String × Entry)} (halfway : Halfway planting met entries all)
    (enters : ∀ entry ∈ entries, Enters all entry.1) :
    (planting.enterAll entries).map (fun _ => ()) = (readAll entries).map fun _ => () := by
  induction entries generalizing planting met with
  | nil => rfl
  | cons entry rest ih =>
    obtain ⟨path, entry⟩ := entry
    rw [List.forall_mem_cons] at enters
    have own := halfway.rooted.enter_outcome halfway.covers (halfway.enters_iff.mp enters.1) entry
    rw [readAll, enterAll]
    cases done : planting.enter path entry with
    | error reason =>
      rw [done] at own
      cases read : entry.read path with
      | error other =>
        rw [read] at own
        cases own
        rfl
      | ok sketch =>
        rw [read] at own
        cases own
    | ok grown =>
      rw [done] at own
      cases read : entry.read path with
      | error other =>
        rw [read] at own
        cases own
      | ok sketch =>
        have later := ih (halfway.next done) enters.2
        rw [Except.ok_bind, later, Except.ok_bind]
        cases readAll rest <;> rfl

end Planting

namespace SchemaTree

/-- The entries of a map that are not passed over. -/
def kept (map : FlatMap) : FlatMap :=
  ⟨map.entries.filter fun entry => Enters map.entries entry.1, map.sorted.filter _⟩

theorem ofFlat_kept (map : FlatMap) : ofFlat (kept map) = ofFlat map := by
  have same := Planting.enterAll_filter (Planting.halfway_empty map.sorted)
  rw [ofFlat, ofFlat, kept, same]

/-- A map is accepted if the entries that are not passed over can be read; else it has the error of the first of them
that cannot. -/
theorem outcome_ofFlat (map : FlatMap) :
    (ofFlat map).map (fun _ => ()) = (Planting.readAll (kept map).entries).map fun _ => () := by
  have enters : ∀ entry ∈ (kept map).entries, Enters (kept map).entries entry.1 := by
    intro entry member
    have free := of_decide_eq_true (List.mem_filter.mp member).2
    exact ⟨free.1, fun other listed => free.2 other (List.mem_filter.mp listed).1⟩
  have outcome := Planting.outcome_enterAll (Planting.halfway_empty (kept map).sorted) enters
  rw [← ofFlat_kept, ofFlat, ← outcome]
  cases Planting.enterAll ⟨.empty, []⟩ (kept map).entries <;> rfl

end SchemaTree

end ConfigSchema
