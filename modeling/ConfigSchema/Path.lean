/-! Dot paths. A path is split at every dot, so it has at least one segment, and segments may be empty.
Main statement: joining the segments of a path gives the path back. -/

namespace ConfigSchema.Path

def splitDots : List Char → List (List Char)
  | [] => [[]]
  | c :: rest =>
    if c = '.' then [] :: splitDots rest
    else match splitDots rest with
      | [] => [[c]]
      | segment :: later => (c :: segment) :: later

def joinDots : List (List Char) → List Char
  | [] => []
  | [segment] => segment
  | segment :: later => segment ++ '.' :: joinDots later

def segments (path : String) : List String := (splitDots path.toList).map String.ofList

def dotted (names : List String) : String := String.ofList (joinDots (names.map String.toList))

/-- The path of a name below a path; the empty path stands for the top level. -/
def join (above name : String) : String := if above = "" then name else above ++ "." ++ name

def lastSegment (path : String) : String := ((segments path).getLast?).getD path

def hasDot (name : String) : Bool := name.toList.contains '.'

theorem splitDots_ne_nil (text : List Char) : splitDots text ≠ [] := by
  cases text with
  | nil => simp [splitDots]
  | cons c rest =>
    by_cases dot : c = '.'
    · simp [splitDots, dot]
    · simp only [splitDots, dot, if_false]
      split <;> simp

theorem joinDots_splitDots (text : List Char) : joinDots (splitDots text) = text := by
  induction text with
  | nil => rfl
  | cons c rest ih =>
    cases found : splitDots rest with
    | nil => exact absurd found (splitDots_ne_nil rest)
    | cons segment later =>
      rw [found] at ih
      by_cases dot : c = '.'
      · simp [splitDots, dot, found, joinDots, ih]
      · cases later with
        | nil => simpa [splitDots, dot, found, joinDots] using ih
        | cons next others => simpa [splitDots, dot, found, joinDots] using ih

theorem dotted_segments (path : String) : dotted (segments path) = path := by
  simp [dotted, segments, Function.comp_def, joinDots_splitDots]

end ConfigSchema.Path
