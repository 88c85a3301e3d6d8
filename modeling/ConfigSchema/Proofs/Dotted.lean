import ConfigSchema.Path

/-! Names and dot paths. A list of names without dots is the list of segments of its path, so names and paths
stand for one another. -/

namespace ConfigSchema.Path

/-- What can stand between two dots: a text that is not empty and has no dot in it. -/
structure IsName (name : String) : Prop where
  nonempty : name ≠ ""
  dotless : hasDot name = false

instance (name : String) : Decidable (IsName name) :=
  decidable_of_iff (name ≠ "" ∧ hasDot name = false)
    ⟨fun fit => ⟨fit.1, fit.2⟩, fun fit => ⟨fit.nonempty, fit.dotless⟩⟩

theorem length_lt_of_prefix {first second : List String} (start : first <+: second) (different : first ≠ second) :
    first.length < second.length :=
  Nat.lt_of_le_of_ne start.length_le fun same => different (start.eq_of_length same)

theorem exists_further {first second : List String} (start : first <+: second) (short : ¬second <+: first) :
    ∃ rest, rest ≠ [] ∧ first ++ rest = second := by
  obtain ⟨rest, rfl⟩ := start
  refine ⟨rest, ?_, rfl⟩
  rintro rfl
  exact short (by simp)

def Unrelated (first second : List String) : Prop := ¬first <+: second ∧ ¬second <+: first

theorem Unrelated.symm {first second : List String} (unrelated : Unrelated first second) :
    Unrelated second first := And.symm unrelated

theorem Unrelated.ne {first second : List String} (unrelated : Unrelated first second) : first ≠ second := by
  rintro rfl
  exact unrelated.1 List.prefix_rfl

theorem Unrelated.append {first second : List String} (unrelated : Unrelated first second) (more : List String) :
    Unrelated first (second ++ more) := by
  constructor
  · intro start
    exact (List.prefix_or_prefix_of_prefix start (List.prefix_append second more)).elim unrelated.1 unrelated.2
  · exact fun start => unrelated.2 ((List.prefix_append second more).trans start)

theorem unrelated_of_fork {above left right : List String} {first second : String} (part : first ≠ second)
    (here : above ++ [first] <+: left) (there : above ++ [second] <+: right) : Unrelated left right := by
  have apart : ∀ {first second : String} {longer : List String}, above ++ [first] <+: longer →
      above ++ [second] <+: longer → first = second := by
    intro first second longer one other
    have same := List.prefix_of_prefix_length_le one other (by simp)
    simpa using same.eq_of_length (by simp)
  exact ⟨fun start => part (apart (here.trans start) there), fun start => part (apart here (there.trans start))⟩

theorem splitDots_of_dotless {text : List Char} (dotless : '.' ∉ text) : splitDots text = [text] := by
  induction text with
  | nil => rfl
  | cons c rest ih =>
    rw [List.mem_cons, not_or] at dotless
    rw [splitDots, if_neg (Ne.symm dotless.1), ih dotless.2]

theorem splitDots_append (text later : List Char) :
    splitDots (text ++ '.' :: later) = splitDots text ++ splitDots later := by
  induction text with
  | nil => simp [splitDots]
  | cons c rest ih =>
    rw [List.cons_append, splitDots, splitDots, ih]
    split
    · rfl
    · cases split : splitDots rest with
      | nil => exact absurd split (splitDots_ne_nil rest)
      | cons segment segments => rfl

theorem joinDots_cons_cons (first second : List Char) (later : List (List Char)) :
    joinDots (first :: second :: later) = first ++ '.' :: joinDots (second :: later) := rfl

theorem splitDots_joinDots {parts : List (List Char)} (some_part : parts ≠ [])
    (dotless : ∀ part ∈ parts, '.' ∉ part) : splitDots (joinDots parts) = parts := by
  induction parts with
  | nil => exact absurd rfl some_part
  | cons part rest ih =>
    have first := dotless part (List.mem_cons_self ..)
    cases rest with
    | nil => exact splitDots_of_dotless first
    | cons next later =>
      rw [joinDots_cons_cons, splitDots_append, splitDots_of_dotless first, List.singleton_append, ih (by simp)]
      intro other member
      exact dotless other (List.mem_cons_of_mem _ member)

theorem dotless_of_mem_splitDots {text part : List Char} (member : part ∈ splitDots text) : '.' ∉ part := by
  induction text generalizing part with
  | nil => simp_all [splitDots]
  | cons c rest ih =>
    by_cases dot : c = '.'
    · rw [splitDots, if_pos dot, List.mem_cons] at member
      rcases member with rfl | later
      · simp
      · exact ih later
    · rw [splitDots, if_neg dot] at member
      cases found : splitDots rest with
      | nil => exact absurd found (splitDots_ne_nil rest)
      | cons segment later =>
        rw [found] at member ih
        rcases List.mem_cons.mp member with rfl | behind
        · exact fun inside => (List.mem_cons.mp inside).elim (fun same => dot same.symm)
            (ih (List.mem_cons_self ..))
        · exact ih (List.mem_cons_of_mem _ behind)

theorem segments_ne_nil (path : String) : segments path ≠ [] := by
  simpa [segments] using splitDots_ne_nil path.toList

theorem exists_segments (path : String) : ∃ names name, segments path = names ++ [name] := by
  rcases List.eq_nil_or_concat (segments path) with empty | ⟨names, name, split⟩
  · exact absurd empty (segments_ne_nil path)
  · exact ⟨names, name, split.trans (List.concat_eq_append ..)⟩

theorem hasDot_of_mem_segments {path name : String} (member : name ∈ segments path) : hasDot name = false := by
  obtain ⟨part, split, rfl⟩ := List.mem_map.mp member
  simpa [hasDot] using dotless_of_mem_splitDots split

theorem segments_dotted {names : List String} (some_name : names ≠ [])
    (dotless : ∀ name ∈ names, hasDot name = false) : segments (dotted names) = names := by
  have parts : splitDots (joinDots (names.map String.toList)) = names.map String.toList := by
    apply splitDots_joinDots (by simpa using some_name)
    intro part member
    obtain ⟨name, listed, rfl⟩ := List.mem_map.mp member
    simpa [hasDot] using dotless name listed
  rw [segments, dotted, String.toList_ofList, parts]
  simp [Function.comp_def]

theorem segments_named {names : List String} (some_name : names ≠ []) (named : ∀ name ∈ names, IsName name) :
    segments (dotted names) = names := segments_dotted some_name fun name member => (named name member).dotless

theorem lastSegment_of_split {path name : String} {names : List String} (split : segments path = names ++ [name]) :
    lastSegment path = name := by
  rw [lastSegment, split, List.getLast?_concat]
  rfl

/-- The last segment of the path of a name without dots is the name, whatever it is below. -/
theorem lastSegment_join (above : String) {name : String} (dotless : hasDot name = false) :
    lastSegment (join above name) = name := by
  have own : splitDots name.toList = [name.toList] := splitDots_of_dotless (by simpa [hasDot] using dotless)
  have split : ∃ names, segments (join above name) = names ++ [name] := by
    unfold join
    split
    · exact ⟨[], by rw [segments, own, List.map_singleton, String.ofList_toList, List.nil_append]⟩
    · refine ⟨segments above, ?_⟩
      have dot : (above ++ "." ++ name).toList = above.toList ++ '.' :: name.toList := by simp
      rw [segments, dot, splitDots_append, own, List.map_append, List.map_singleton, String.ofList_toList, segments]
  obtain ⟨names, split⟩ := split
  exact lastSegment_of_split split

theorem isName_of_mem_segments {path : String} (filled : (segments path).contains "" = false) {name : String}
    (member : name ∈ segments path) : IsName name where
  nonempty := by
    rintro rfl
    simp [member] at filled
  dotless := hasDot_of_mem_segments member

/-- Different lists of names have different paths. -/
theorem dotted_inj {first second : List String} (some_first : first ≠ []) (some_second : second ≠ [])
    (named : ∀ name ∈ first, IsName name) (others : ∀ name ∈ second, IsName name)
    (same : dotted first = dotted second) : first = second := by
  rw [← segments_named some_first named, same, segments_named some_second others]

theorem joinDots_prefix {parts others : List (List Char)} (start : parts <+: others) :
    joinDots parts <+: joinDots others := by
  induction parts generalizing others with
  | nil => exact List.nil_prefix
  | cons part rest ih =>
    obtain ⟨more, rfl⟩ := start
    cases rest with
    | nil =>
      cases more with
      | nil => exact List.prefix_rfl
      | cons next later => exact List.prefix_append part ('.' :: joinDots (next :: later))
    | cons next later =>
      rw [List.cons_append, List.cons_append, joinDots_cons_cons, joinDots_cons_cons]
      exact (List.prefix_append_right_inj part).mpr ((List.cons_prefix_cons).mpr ⟨rfl, ih (List.prefix_append _ more)⟩)

/-- A path comes before those that begin with its segments. -/
theorem not_lt_of_prefix {first second : String} (start : segments first <+: segments second) : ¬second < first := by
  have chars : splitDots first.toList <+: splitDots second.toList := by
    have parts := start.map String.toList
    simpa [segments, Function.comp_def] using parts
  have texts := joinDots_prefix chars
  rw [joinDots_splitDots, joinDots_splitDots] at texts
  rw [String.lt_iff]
  exact List.not_lt.mpr texts.le

theorem segments_inj {first second : String} : segments first = segments second ↔ first = second := by
  constructor
  · intro same
    rw [← dotted_segments first, same, dotted_segments]
  · exact congrArg segments

/-- A path that begins another one begins what is above that, or is the same. -/
theorem early_or_same {first second name : String} {names : List String} (split : segments second = names ++ [name])
    (start : segments first <+: segments second) : segments first <+: names ∨ first = second := by
  rw [split] at start
  rcases List.prefix_concat_iff.mp start with same | early
  · exact .inr (segments_inj.mp (same.trans split.symm))
  · exact .inl early

theorem not_prefix_of_split {path name : String} {names : List String} (split : segments path = names ++ [name]) :
    ¬segments path <+: names := by
  intro start
  have longer := start.length_le
  rw [split, List.length_append, List.length_singleton] at longer
  omega

theorem joinDots_append {parts others : List (List Char)} (some_part : parts ≠ []) (some_other : others ≠ []) :
    joinDots (parts ++ others) = joinDots parts ++ '.' :: joinDots others := by
  induction parts with
  | nil => exact absurd rfl some_part
  | cons part rest ih =>
    cases rest with
    | nil =>
      cases others with
      | nil => exact absurd rfl some_other
      | cons other later => rfl
    | cons next later =>
      have tail := ih (by simp)
      rw [List.cons_append] at tail
      rw [List.cons_append, List.cons_append, joinDots_cons_cons, tail, joinDots_cons_cons, List.append_assoc,
        List.cons_append]

theorem dotted_append {names others : List String} (some_name : names ≠ []) (some_other : others ≠ []) :
    dotted (names ++ others) = dotted names ++ "." ++ dotted others := by
  have parts : joinDots (names.map String.toList ++ others.map String.toList) =
      joinDots (names.map String.toList) ++ '.' :: joinDots (others.map String.toList) :=
    joinDots_append (by simpa using some_name) (by simpa using some_other)
  rw [dotted, List.map_append, parts]
  apply String.ext
  simp [dotted]

theorem dotted_append_ne {names others : List String} (some_name : names ≠ []) (some_other : others ≠ []) :
    dotted (names ++ others) ≠ dotted names := by
  intro same
  have lengths := congrArg String.length same
  rw [dotted_append some_name some_other, String.length_append, String.length_append] at lengths
  have dot : ".".length = 1 := rfl
  omega

theorem dotted_ne_empty {names : List String} (some_name : names ≠ []) (filled : ∀ name ∈ names, name ≠ "") :
    dotted names ≠ "" := by
  cases names with
  | nil => exact absurd rfl some_name
  | cons first rest =>
    have own : first ≠ "" := filled first (List.mem_cons_self ..)
    cases rest with
    | nil => simpa [dotted, joinDots] using own
    | cons next later =>
      intro empty
      have parts : dotted ([first] ++ next :: later) = dotted [first] ++ "." ++ dotted (next :: later) :=
        dotted_append (by simp) (by simp)
      have lengths := congrArg String.length parts
      rw [List.singleton_append, empty, String.length_append, String.length_append] at lengths
      have dot : ".".length = 1 := rfl
      have none_left : "".length = 0 := rfl
      omega

theorem join_dotted_of_filled {names : List String} (filled : ∀ name ∈ names, name ≠ "") (name : String) :
    join (dotted names) name = dotted (names ++ [name]) := by
  cases names with
  | nil => simp [join, dotted, joinDots]
  | cons first rest =>
    rw [join, if_neg (dotted_ne_empty (by simp) filled), dotted_append (by simp) (by simp)]
    simp [dotted, joinDots]

theorem join_dotted {names : List String} (named : ∀ name ∈ names, IsName name) (name : String) :
    join (dotted names) name = dotted (names ++ [name]) :=
  join_dotted_of_filled (fun part member => (named part member).nonempty) name

theorem lastSegment_dotted {names : List String} (named : ∀ name ∈ names, IsName name) (name : String)
    (last : IsName name) : lastSegment (dotted (names ++ [name])) = name := by
  have all : ∀ part ∈ names ++ [name], IsName part :=
    List.forall_mem_append.mpr ⟨named, List.forall_mem_singleton.mpr last⟩
  exact lastSegment_of_split (segments_named (by simp) all)

end ConfigSchema.Path
