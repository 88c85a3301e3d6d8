import ConfigSchema.Nesting
import ConfigSchema.Proofs.Dotted
import ConfigSchema.Proofs.Json.Reading
import Mathlib.Data.List.Induction

/-! Nested objects of values under dot paths. One value is put at the end of its path, what lies beside the path stays,
and what lies above it becomes an object. Main statement: what is found at a path is the last value put there, nothing
is found that was not put, and paths of which none begins another one may be put in any order. -/

namespace ConfigSchema.Json

variable (value : Json)

theorem follow?_putAt_beside {names other : List String} (unrelated : Path.Unrelated names other)
    (members : List (String × Json)) :
    (object (putAt value names members)).follow? other = (object members).follow? other := by
  induction names generalizing other members with
  | nil => exact absurd List.nil_prefix unrelated.1
  | cons name rest ih =>
    cases other with
    | nil => exact absurd List.nil_prefix unrelated.2
    | cons sought later =>
      by_cases same : name = sought
      · subst same
        have apart : Path.Unrelated rest later :=
          ⟨fun start => unrelated.1 ((List.prefix_cons_inj name).mpr start),
            fun start => unrelated.2 ((List.prefix_cons_inj name).mpr start)⟩
        have further : rest ≠ [] := fun empty => apart.1 (empty ▸ List.nil_prefix)
        have deeper : later ≠ [] := fun empty => apart.2 (empty ▸ List.nil_prefix)
        rw [putAt_cons further, follow?_cons, Keyed.find?_put, if_pos rfl, Option.bind_some, ih apart,
          follow?_membersAt deeper]
      · have kept : ∀ below, (object (Keyed.put name below members)).follow? (sought :: later) =
            (object members).follow? (sought :: later) := by
          intro below
          rw [follow?_cons, follow?_cons, Keyed.find?_put, if_neg same]
        by_cases last : rest = []
        · subst last
          exact kept value
        · rw [putAt_cons last]
          exact kept _

theorem distinct_membersAt {members : List (String × Json)} (distinct : (object members).Distinct) (name : String) :
    (object (membersAt name members)).Distinct := by
  unfold membersAt
  split
  · rename_i below found
    exact distinctMembers_iff.mp distinct.2 _ (Keyed.mem_of_find? found)
  · exact ⟨List.nodup_nil, trivial⟩

theorem distinct_putAt {value : Json} (whole : value.Distinct) (names : List String) {members : List (String × Json)}
    (distinct : (object members).Distinct) : (object (putAt value names members)).Distinct := by
  induction names generalizing members with
  | nil => exact distinct
  | cons name rest ih =>
    by_cases last : rest = []
    · subst last
      exact distinct_object_put distinct name whole
    · rw [putAt_cons last]
      exact distinct_object_put distinct name (ih (distinct_membersAt distinct name))

def gathered (values : List (String × Json)) : List (String × Json) :=
  values.foldl (fun members entry => putAt entry.2 (Path.segments entry.1) members) []

theorem nested_concat (values : List (String × Json)) (entry : String × Json) :
    nested (values ++ [entry]) = .object (putAt entry.2 (Path.segments entry.1) (gathered values)) := by
  rw [nested, List.foldl_append]
  rfl

theorem distinct_nested {values : List (String × Json)} (whole : DistinctMembers values) :
    (nested values).Distinct := by
  rw [distinctMembers_iff] at whole
  induction values using List.reverseRecOn with
  | nil => exact ⟨List.nodup_nil, trivial⟩
  | append_singleton earlier last ih =>
    rw [List.forall_mem_append, List.forall_mem_singleton] at whole
    rw [nested_concat]
    exact distinct_putAt whole.2 _ (ih whole.1)

theorem follow?_nested {before after : List (String × Json)} {key : String} (value : Json)
    (beside : ∀ later ∈ after, Path.Unrelated (Path.segments later.1) (Path.segments key)) (rest : List String) :
    (nested (before ++ (key, value) :: after)).follow? (Path.segments key ++ rest) = value.follow? rest := by
  induction after using List.reverseRecOn with
  | nil =>
    rw [nested_concat, follow?_putAt value (Path.segments_ne_nil key)]
  | append_singleton earlier last ih =>
    rw [List.forall_mem_append, List.forall_mem_singleton] at beside
    rw [← ih beside.1, ← List.cons_append, ← List.append_assoc, nested_concat,
      follow?_putAt_beside _ (beside.2.append rest)]
    rfl

/-- The value is no object, or an empty one. -/
def Bare : Json → Prop
  | .object members => members = []
  | _ => True

theorem exists_entry_of_follow?_nested {values : List (String × Json)} {names : List String} {leaf : Json}
    (some_name : names ≠ []) (led : (nested values).follow? names = some leaf) (bare : leaf.Bare) :
    ∃ entry ∈ values, ∃ rest, Path.segments entry.1 ++ rest = names ∧ entry.2.follow? rest = some leaf := by
  induction values using List.reverseRecOn with
  | nil =>
    obtain ⟨name, rest, rfl⟩ := List.exists_cons_of_ne_nil some_name
    cases led
  | append_singleton earlier last ih =>
    rw [nested_concat] at led
    -- What is put last lies at or above the end of the way, below it, or beside it.
    by_cases below : Path.segments last.1 <+: names
    · obtain ⟨rest, rfl⟩ := below
      rw [follow?_putAt last.2 (Path.segments_ne_nil last.1)] at led
      exact ⟨last, List.mem_append_right _ (List.mem_singleton_self last), rest, rfl, led⟩
    by_cases above : names <+: Path.segments last.1
    · obtain ⟨rest, further, split⟩ := Path.exists_further above below
      obtain ⟨inner, filled, here⟩ := follow?_putAt_above last.2 names further (gathered earlier)
      rw [split, led] at here
      cases here
      exact absurd bare filled
    · rw [follow?_putAt_beside last.2 ⟨below, above⟩] at led
      obtain ⟨entry, member, rest, split, found⟩ := ih led
      exact ⟨entry, List.mem_append_left _ member, rest, split, found⟩

/-- Two values that differ in nothing but the order of the members of their objects. -/
inductive Reordered : Json → Json → Prop
  | same (value : Json) : Reordered value value
  | members {first second : List (String × Json)} (names : (Keyed.keys first).Perm (Keyed.keys second))
      (alike : ∀ name one other, Keyed.find? name first = some one → Keyed.find? name second = some other →
        Reordered one other) : Reordered (.object first) (.object second)

def shell : Json → Json
  | .object _ => .object []
  | value => value

theorem eq_of_shell {first second : Json} (plain : ∀ members, first ≠ .object members)
    (same : first.shell = second.shell) : first = second := by
  cases first with
  | object members => exact absurd rfl (plain members)
  | _ =>
    cases second with
    | object members => cases same
    | _ => exact same

theorem mem_keys_iff_isSome {members : List (String × Json)} {name : String} :
    name ∈ Keyed.keys members ↔ (Keyed.find? name members).isSome = true := by
  rw [← not_iff_not, ← Keyed.find?_eq_none_iff, Bool.not_eq_true, Option.isSome_eq_false_iff, Option.isNone_iff_eq_none]

theorem reordered_of_shells {first second : Json} (one : first.Distinct) (other : second.Distinct)
    (alike : ∀ names, (first.follow? names).map shell = (second.follow? names).map shell) :
    first.Reordered second := by
  induction size : sizeOf first using Nat.strongRecOn generalizing first second with
  | ind bound ih =>
    subst size
    have top : shell first = shell second := Option.some.inj (alike [])
    cases first with
    | object members =>
      cases second with
      | object others =>
        refine .members ((List.perm_ext_iff_of_nodup one.1 other.1).mpr fun name => ?_) ?_
        · have found := congrArg Option.isSome (alike [name])
          rw [follow?_cons, follow?_cons] at found
          simp only [mem_keys_iff_isSome]
          simpa [follow?] using found
        · intro name below beside here there
          refine ih _ (sizeOf_lt_of_find? here) (distinctMembers_iff.mp one.2 _ (Keyed.mem_of_find? here))
            (distinctMembers_iff.mp other.2 _ (Keyed.mem_of_find? there)) (fun names => ?_) rfl
          have found := alike (name :: names)
          rwa [follow?_cons, follow?_cons, here, there] at found
      | _ => cases top
    | _ =>
      obtain rfl := eq_of_shell (fun members => Json.noConfusion) top
      exact .same _

theorem exists_members_of_above {values : List (String × Json)} {names : List String}
    (free : ∀ entry ∈ values, ¬Path.segments entry.1 <+: names)
    (longer : ∃ entry ∈ values, names <+: Path.segments entry.1) :
    ∃ members, (nested values).follow? names = some (.object members) := by
  induction values using List.reverseRecOn with
  | nil => exact absurd longer (by simp)
  | append_singleton earlier last ih =>
    rw [List.forall_mem_append, List.forall_mem_singleton] at free
    rw [nested_concat]
    by_cases above : names <+: Path.segments last.1
    · obtain ⟨rest, further, split⟩ := Path.exists_further above free.2
      obtain ⟨inner, -, here⟩ := follow?_putAt_above last.2 names further (gathered earlier)
      exact ⟨inner, split ▸ here⟩
    · rw [follow?_putAt_beside last.2 ⟨free.2, above⟩]
      apply ih free.1
      obtain ⟨entry, member, start⟩ := longer
      rcases List.mem_append.mp member with early | late
      · exact ⟨entry, early, start⟩
      · exact absurd (List.mem_singleton.mp late ▸ start) above

theorem follow?_nested_beside {values : List (String × Json)} {names : List String} (some_name : names ≠ [])
    (beside : ∀ entry ∈ values, Path.Unrelated (Path.segments entry.1) names) :
    (nested values).follow? names = none := by
  induction values using List.reverseRecOn with
  | nil =>
    obtain ⟨name, rest, rfl⟩ := List.exists_cons_of_ne_nil some_name
    rfl
  | append_singleton earlier last ih =>
    rw [List.forall_mem_append, List.forall_mem_singleton] at beside
    rw [← ih beside.1, nested_concat, follow?_putAt_beside _ beside.2]
    rfl

/-- No key begins another one. -/
def PrefixFree (keys : List String) : Prop :=
  ∀ first ∈ keys, ∀ second ∈ keys, Path.segments first <+: Path.segments second → first = second

theorem PrefixFree.unrelated {keys : List String} (free : PrefixFree keys) {first second : String} (here : first ∈ keys)
    (there : second ∈ keys) (different : first ≠ second) :
    Path.Unrelated (Path.segments first) (Path.segments second) :=
  ⟨fun start => different (free first here second there start),
    fun start => different (free second there first here start).symm⟩

/-- Each value stands whole at its key if no key begins another one. -/
theorem follow?_nested_of_mem {values : List (String × Json)} (distinct : (Keyed.keys values).Nodup)
    (free : PrefixFree (Keyed.keys values)) {entry : String × Json} (member : entry ∈ values) (rest : List String) :
    (nested values).follow? (Path.segments entry.1 ++ rest) = entry.2.follow? rest := by
  obtain ⟨before, after, rfl⟩ := List.append_of_mem member
  obtain ⟨key, value⟩ := entry
  refine follow?_nested value (fun later follows => ?_) rest
  refine free.unrelated ?_ ?_ (Keyed.ne_of_mem_after distinct follows)
  · exact List.mem_map_of_mem (List.mem_append_right _ (List.mem_cons_of_mem _ follows))
  · exact List.mem_map_of_mem member

theorem shell_nested_perm {values other : List (String × Json)} (distinct : (Keyed.keys values).Nodup)
    (free : PrefixFree (Keyed.keys values)) (perm : other.Perm values) (names : List String) :
    ((nested other).follow? names).map shell = ((nested values).follow? names).map shell := by
  have keys_perm : (Keyed.keys other).Perm (Keyed.keys values) := perm.map Prod.fst
  -- Which of the cases holds is told by the values alone, whatever their order.
  by_cases below : ∃ entry ∈ values, Path.segments entry.1 <+: names
  · obtain ⟨entry, member, rest, rfl⟩ := below
    have free_other : PrefixFree (Keyed.keys other) := fun first here second there =>
      free first (keys_perm.mem_iff.mp here) second (keys_perm.mem_iff.mp there)
    rw [follow?_nested_of_mem distinct free member,
      follow?_nested_of_mem (keys_perm.nodup_iff.mpr distinct) free_other (perm.mem_iff.mpr member)]
  have none_below : ∀ entry ∈ values, ¬Path.segments entry.1 <+: names :=
    fun entry member start => below ⟨entry, member, start⟩
  by_cases above : ∃ entry ∈ values, names <+: Path.segments entry.1
  · obtain ⟨entry, member, start⟩ := above
    obtain ⟨members, here⟩ := exists_members_of_above none_below ⟨entry, member, start⟩
    obtain ⟨others, there⟩ := exists_members_of_above
      (fun entry member => none_below entry (perm.mem_iff.mp member)) ⟨entry, perm.mem_iff.mpr member, start⟩
    rw [here, there]
    rfl
  by_cases top : names = []
  · subst top
    rfl
  have beside : ∀ entry ∈ values, Path.Unrelated (Path.segments entry.1) names :=
    fun entry member => ⟨none_below entry member, fun start => above ⟨entry, member, start⟩⟩
  rw [follow?_nested_beside top beside,
    follow?_nested_beside top fun entry member => beside entry (perm.mem_iff.mp member)]

/-- Nesting loses and invents nothing. A value is found at its key unless a later key begins that key or goes on from
it; whatever is found at the end of a way belongs to one of the values; and if no key begins another one, every order
of the values gives the same result up to the order of members. -/
theorem nested_faithful {values : List (String × Json)} (distinct : (object values).Distinct) :
    (∀ before key value after, values = before ++ (key, value) :: after →
      (∀ later ∈ Keyed.keys after, Path.segments later <+: Path.segments key ∨
        Path.segments key <+: Path.segments later → later = key) →
      (nested values).follow? (Path.segments key) = some value) ∧
    (∀ names leaf, names ≠ [] → (nested values).follow? names = some leaf → leaf.Bare →
      ∃ entry ∈ values, ∃ rest, Path.segments entry.1 ++ rest = names ∧ entry.2.follow? rest = some leaf) ∧
    (PrefixFree (Keyed.keys values) → ∀ other : List (String × Json), other.Perm values →
      (nested other).Reordered (nested values)) := by
  refine ⟨?_, fun names leaf some_name led bare => exists_entry_of_follow?_nested some_name led bare, ?_⟩
  · rintro before key value after rfl alone
    have beside : ∀ later ∈ after, Path.Unrelated (Path.segments later.1) (Path.segments key) := by
      intro later member
      have listed : later.1 ∈ Keyed.keys after := List.mem_map_of_mem member
      have different : later.1 ≠ key := Keyed.ne_of_mem_after distinct.1 member
      exact ⟨fun start => different (alone _ listed (.inl start)),
        fun start => different (alone _ listed (.inr start))⟩
    have found : (nested (before ++ (key, value) :: after)).follow? (Path.segments key ++ []) = some value :=
      follow?_nested value beside []
    rwa [List.append_nil] at found
  · intro free other perm
    have whole : DistinctMembers other := distinctMembers_iff.mpr fun entry member =>
      distinctMembers_iff.mp distinct.2 entry (perm.mem_iff.mp member)
    exact reordered_of_shells (distinct_nested whole) (distinct_nested distinct.2)
      (shell_nested_perm distinct.1 free perm)

def crossing : List (String × Json) :=
  [("a", .bool true), ("a.b.c", .null), ("a.b", .object [("x", .bool false), ("y", .object [])]), ("d", .null)]

def abreast : List (String × Json) := [("a.b", .bool true), ("a.c", .object [("b", .null)]), ("d", .null)]

theorem nested_faithful_of_crossing :
    ((object crossing).Distinct ∧
      (nested crossing).follow? ["a", "b"] = some (.object [("x", .bool false), ("y", .object [])]) ∧
      ∃ entry ∈ crossing, ∃ rest, Path.segments entry.1 ++ rest = ["a", "b", "y"] ∧
        entry.2.follow? rest = some (.object [])) ∧
    (object abreast).Distinct ∧ PrefixFree (Keyed.keys abreast) ∧
      (nested abreast.reverse).Reordered (nested abreast) := by
  have distinct : (object crossing).Distinct := by
    simp [crossing, Distinct, DistinctMembers, Keyed.keys]
  have distinct_abreast : (object abreast).Distinct := by
    simp [abreast, Distinct, DistinctMembers, Keyed.keys]
  have free : PrefixFree (Keyed.keys abreast) := by
    unfold PrefixFree
    decide +kernel
  obtain ⟨kept, owned, -⟩ := nested_faithful distinct
  obtain ⟨-, -, reordered⟩ := nested_faithful distinct_abreast
  have keys : Path.segments "a.b" = ["a", "b"] := by decide +kernel
  refine ⟨⟨distinct, ?_, ?_⟩, distinct_abreast, free, reordered free _ abreast.reverse_perm⟩
  · rw [← keys]
    exact kept (crossing.take 2) "a.b" _ [("d", .null)] rfl (by decide +kernel)
  · exact owned ["a", "b", "y"] (.object []) (by simp) (by decide +kernel) rfl

end ConfigSchema.Json
