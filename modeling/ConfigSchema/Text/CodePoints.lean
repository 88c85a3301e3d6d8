/-! Sets of characters as runs of code points, and maps between characters that shift such runs. The long
tables of sets are written as texts of hexadecimal code points: a word such as `41-5a` stands for a run, and
`100-12e/2` for every second code point of one. -/

namespace ConfigSchema.CodePoints

structure Run where
  first : Nat
  last : Nat
  step : Nat

def Run.covers (run : Run) (code : Nat) : Bool :=
  decide (run.first ≤ code ∧ code ≤ run.last ∧ (code - run.first) % run.step = 0)

def Run.parts (run : Run) : Nat := if run.step = 1 then 1 else (run.last - run.first) / run.step + 1

/-- A run whose code points are all moved by the same distance. -/
structure Shift where
  run : Run
  distance : Int

def hexadecimal (text : String) : Nat :=
  text.toList.foldl (fun n c => n * 16 + (if c.isDigit then c.toNat - 48 else c.toNat - 87)) 0

def decimal (text : String) : Nat :=
  text.toList.foldl (fun n c => n * 10 + (c.toNat - 48)) 0

def readRun (word : String) : Run :=
  let (ends, step) := match word.splitOn "/" with
    | [ends, step] => (ends, decimal step)
    | _ => (word, 1)
  match ends.splitOn "-" with
  | [first, last] => ⟨hexadecimal first, hexadecimal last, step⟩
  | _ => ⟨hexadecimal ends, hexadecimal ends, step⟩

def readStart (word : String) : Nat × String :=
  match word.splitOn ":" with
  | [code, name] => (hexadecimal code, name)
  | _ => (0, "")

def words (table : String) : List String :=
  ((table.splitOn "\n").flatMap fun line => line.splitOn " ").filter fun word => word != ""

def runs (table : String) : List Run := (words table).map readRun

def starts (table : String) : List (Nat × String) := (words table).map readStart

def aliases (table : String) : List (String × String) :=
  (words table).filterMap fun word =>
    match word.splitOn ":" with
    | [short, long] => some (short, long)
    | _ => none

def covered (table : List Run) (c : Char) : Bool := table.any (·.covers c.toNat)

def parts (table : List Run) : Nat := table.foldl (fun count run => count + run.parts) 0

/-- The distance by which the table moves a code point, zero if it does not name it. -/
def distance (table : List Shift) (code : Nat) : Int :=
  match table.find? (·.run.covers code) with
  | some shift => shift.distance
  | none => 0

def shifted (table : List Shift) (code : Nat) : Nat := (code + distance table code : Int).toNat

/-- The name of the last start that is not beyond the code point. -/
def nameAt (table : List (Nat × String)) (code : Nat) : String :=
  table.foldl (fun name start => if start.1 ≤ code then start.2 else name) ""

def partsNamed (table : List (Nat × String)) (names : List String) : Nat :=
  let named := table.map fun start => names.contains start.2
  ((named.zip (false :: named)).filter fun (here, before) => here && !before).length

end ConfigSchema.CodePoints
