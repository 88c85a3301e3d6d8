import ConfigSchema.Proofs.Json.Reading
import ConfigSchema.Proofs.Json.Words

/-! Texts that are read as they were written. The indented text of a value is scanned as the words of the value, and
the machine over the words gives the value back if no more arrays and objects lie in each other than it may open. Main
statement: exactly then the value is read back from its text. -/

namespace ConfigSchema.Json

mutual
def words : Json → List Token
  | .array [] => [.openArray, .closeArray]
  | .array (item :: rest) => .openArray :: (words item ++ (itemWords rest ++ [.closeArray]))
  | .object [] => [.openObject, .closeObject]
  | .object ((name, value) :: rest) =>
    .openObject :: .string name :: .colon :: (words value ++ (memberWords rest ++ [.closeObject]))
  | .null => [.null]
  | .bool value => [.bool value]
  | .number n => [.number n]
  | .string text => [.string text]

def itemWords : List Json → List Token
  | [] => []
  | item :: rest => .comma :: (words item ++ itemWords rest)

def memberWords : List (String × Json) → List Token
  | [] => []
  | (name, value) :: rest => .comma :: .string name :: .colon :: (words value ++ memberWords rest)
end

mutual
/-- How many arrays and objects lie in each other. -/
def depth : Json → Nat
  | .array items => itemsDepth items + 1
  | .object members => membersDepth members + 1
  | _ => 0

def itemsDepth : List Json → Nat
  | [] => 0
  | item :: rest => max (depth item) (itemsDepth rest)

def membersDepth : List (String × Json) → Nat
  | [] => 0
  | (_, value) :: rest => max (depth value) (membersDepth rest)
end

mutual
/-- The floating point numbers of a value. -/
def reals : Json → List Binary64
  | .number (.real x) => [x]
  | .array items => itemReals items
  | .object members => memberReals members
  | _ => []

def itemReals : List Json → List Binary64
  | [] => []
  | item :: rest => reals item ++ itemReals rest

def memberReals : List (String × Json) → List Binary64
  | [] => []
  | (_, value) :: rest => reals value ++ memberReals rest
end

/-- The number is read from its text as the same number. -/
def ReadBack (x : Binary64) : Prop := Number.ofLiteral? (Number.real x).text.toList = some (.real x)

instance : DecidablePred ReadBack := fun x =>
  inferInstanceAs (Decidable (Number.ofLiteral? (Number.real x).text.toList = some (.real x)))

theorem ofLiteral?_of_readBack {n : Number} (back : ∀ x ∈ (number n).reals, ReadBack x) :
    Number.ofLiteral? n.text.toList = some n := by
  cases n with
  | integer value => exact Number.ofLiteral?_integer value
  | real x => exact back x (List.mem_singleton_self x)

namespace Token

theorem closes_blank : Closes [' '] [] := by
  have silent : start? ' ' = some ([], .between) := rfl
  exact closes_of_start? silent

theorem closes_indentation (level : Nat) : Closes (indentation level).toList [] := by
  have blanks : ∀ count, Closes (List.replicate count ' ') [] := by
    intro count
    induction count with
    | zero => exact closes_nil
    | succ count ih => exact closes_blank.append ih
  have line : start? '\n' = some ([], .between) := rfl
  rw [indentation, String.toList_ofList]
  exact (closes_of_start? line).append (blanks _)

theorem ends_indentation (level : Nat) (rest : List Char) : Ends ((indentation level).toList ++ rest) := by
  rw [indentation, String.toList_ofList]
  rintro c ⟨⟩
  decide

theorem ends_comma (rest : List Char) : Ends (',' :: rest) := by
  rintro c ⟨⟩
  decide

theorem ends_prettyItems {tail : List Char} (ends : ∀ more, Ends (tail ++ more)) (level : Nat) (items : List Json)
    (more : List Char) : Ends ((prettyItems level items).toList ++ tail ++ more) := by
  cases items with
  | nil => exact ends more
  | cons item rest =>
    simp only [prettyItems, String.toList_append, List.append_assoc]
    exact ends_comma _

theorem ends_prettyMembers {tail : List Char} (ends : ∀ more, Ends (tail ++ more)) (level : Nat)
    (members : List (String × Json)) (more : List Char) :
    Ends ((prettyMembers level members).toList ++ tail ++ more) := by
  cases members with
  | nil => exact ends more
  | cons member rest =>
    simp only [prettyMembers, String.toList_append, List.append_assoc]
    exact ends_comma _

theorem closes_name (name : String) : Closes ((quote name).toList ++ [':', ' ']) [.string name, .colon] := by
  have colon : start? ':' = some ([.colon], .between) := rfl
  exact (closes_quote name).append ((closes_of_start? colon).append closes_blank)

theorem closes_bracket {bracket : Char} {word : Token} (starts : start? bracket = some ([word], .between))
    (level : Nat) : Closes (bracket :: (indentation level).toList) [word] :=
  (closes_of_start? starts).append (closes_indentation level)

theorem closes_line {bracket : Char} {word : Token} (starts : start? bracket = some ([word], .between))
    (level : Nat) : Closes ((indentation level).toList ++ [bracket]) [word] :=
  (closes_indentation level).append (closes_of_start? starts)

theorem ends_line (level : Nat) (bracket : Char) (more : List Char) :
    Ends ((indentation level).toList ++ [bracket] ++ more) := by
  rw [List.append_assoc]
  exact ends_indentation level _

mutual
theorem scans_prettyAt : (value : Json) → (∀ x ∈ value.reals, ReadBack x) → ∀ level,
    Scans (prettyAt level value).toList (words value)
  | .null, _, _ => by
    have word : Scans ['n', 'u', 'l', 'l'] [.null] := scans_word rfl rfl rfl
    simpa [prettyAt, words] using word
  | .bool true, _, _ => by
    have word : Scans ['t', 'r', 'u', 'e'] [.bool true] := scans_word rfl rfl rfl
    simpa [prettyAt, words] using word
  | .bool false, _, _ => by
    have word : Scans ['f', 'a', 'l', 's', 'e'] [.bool false] := scans_word rfl rfl rfl
    simpa [prettyAt, words] using word
  | .number _, back, _ => scans_number (ofLiteral?_of_readBack back)
  | .string text, _, _ => (closes_quote text).scans
  | .array [], _, _ => by
    have opening : start? '[' = some ([.openArray], .between) := rfl
    have closing : start? ']' = some ([.closeArray], .between) := rfl
    have whole := ((closes_of_start? opening).append (closes_of_start? closing)).scans
    simpa [prettyAt, words] using whole
  | .array (item :: rest), back, level => by
    rw [reals, itemReals, List.forall_mem_append] at back
    have closed : Closes ((indentation level).toList ++ [']']) [.closeArray] := closes_line rfl level
    have ends := ends_line level ']'
    have inside := (scans_prettyAt item back.1 (level + 1)).append (ends_prettyItems ends (level + 1) rest)
      (closes_prettyItems rest back.2 (level + 1) ends closed)
    have opened : Closes ('[' :: (indentation (level + 1)).toList) [.openArray] := closes_bracket rfl (level + 1)
    have whole := (opened.append inside).scans
    simpa [prettyAt, words, String.toList_append] using whole
  | .object [], _, _ => by
    have opening : start? '{' = some ([.openObject], .between) := rfl
    have closing : start? '}' = some ([.closeObject], .between) := rfl
    have whole := ((closes_of_start? opening).append (closes_of_start? closing)).scans
    simpa [prettyAt, words] using whole
  | .object ((name, value) :: rest), back, level => by
    rw [reals, memberReals, List.forall_mem_append] at back
    have closed : Closes ((indentation level).toList ++ ['}']) [.closeObject] := closes_line rfl level
    have ends := ends_line level '}'
    have inside := (scans_prettyAt value back.1 (level + 1)).append (ends_prettyMembers ends (level + 1) rest)
      (closes_prettyMembers rest back.2 (level + 1) ends closed)
    have opened : Closes ('{' :: (indentation (level + 1)).toList) [.openObject] := closes_bracket rfl (level + 1)
    have whole := (opened.append ((closes_name name).append inside)).scans
    simpa [prettyAt, words, String.toList_append] using whole

/-- The items behind the first one, together with the line that closes the array: whatever item comes last, a comma or
the end of a line ends it. -/
theorem closes_prettyItems {tail : List Char} {closing : List Token} :
    (items : List Json) → (∀ x ∈ itemReals items, ReadBack x) → ∀ level, (∀ more, Ends (tail ++ more)) →
      Closes tail closing →
      Closes ((prettyItems level items).toList ++ tail) (itemWords items ++ closing)
  | [], _, _, _, closed => closed
  | item :: rest, back, level, ends, closed => by
    rw [itemReals, List.forall_mem_append] at back
    have inside := (scans_prettyAt item back.1 level).append (ends_prettyItems ends level rest)
      (closes_prettyItems rest back.2 level ends closed)
    have comma : Closes (',' :: (indentation level).toList) [.comma] := closes_bracket rfl level
    have whole := comma.append inside
    simpa [prettyItems, itemWords, String.toList_append] using whole

theorem closes_prettyMembers {tail : List Char} {closing : List Token} :
    (members : List (String × Json)) → (∀ x ∈ memberReals members, ReadBack x) → ∀ level,
      (∀ more, Ends (tail ++ more)) → Closes tail closing →
      Closes ((prettyMembers level members).toList ++ tail) (memberWords members ++ closing)
  | [], _, _, _, closed => closed
  | (name, value) :: rest, back, level, ends, closed => by
    rw [memberReals, List.forall_mem_append] at back
    have inside := (scans_prettyAt value back.1 level).append (ends_prettyMembers ends level rest)
      (closes_prettyMembers rest back.2 level ends closed)
    have comma : Closes (',' :: (indentation level).toList) [.comma] := closes_bracket rfl level
    have whole := comma.append ((closes_name name).append inside)
    simpa [prettyMembers, memberWords, String.toList_append] using whole
end

theorem scan_pretty {value : Json} (back : ∀ x ∈ value.reals, ReadBack x) :
    scan value.pretty.toList = some (words value) := by
  have scanned := scans_prettyAt value back 0 [] ends_nil
  rwa [List.append_nil, scanFrom, finish?, Option.map_some, List.append_nil] at scanned

end Token

namespace Reader

theorem run_of_step? {limit : Nat} {state next : State} {token : Token} (step : step? limit state token = some next)
    (rest : List Token) : run limit state (token :: rest) = run limit next rest := by
  rw [run, step, Option.bind_some]

theorem run_of_opening {limit : Nat} {frames : List Frame} {mayClose : Bool} {token : Token} {next : State}
    (step : step? limit (.value frames mayClose) token = if frames.length < limit then some next else none)
    (rest : List Token) : run limit (.value frames mayClose) (token :: rest) =
      if frames.length + 1 ≤ limit then run limit next rest else none := by
  rw [run, step]
  by_cases room : frames.length < limit
  · rw [if_pos room, if_pos (Nat.succ_le_of_lt room), Option.bind_some]
  · rw [if_neg room, if_neg (fun fits => room (Nat.lt_of_succ_le fits)), Option.bind_none]

section

variable {α : Type} (limit used : Nat) (outcome : Option α)

theorem ite_max_fits (first second : Nat) :
    (if used + first ≤ limit then (if used + second ≤ limit then outcome else none) else none) =
      if used + max first second ≤ limit then outcome else none := by
  have both : used + max first second ≤ limit ↔ used + first ≤ limit ∧ used + second ≤ limit := by omega
  simp only [both, ite_and]

theorem ite_succ_fits (inner : Nat) :
    (if used + 1 ≤ limit then (if used + 1 + inner ≤ limit then outcome else none) else none) =
      if used + (inner + 1) ≤ limit then outcome else none := by
  have both : used + (inner + 1) ≤ limit ↔ used + 1 ≤ limit ∧ used + 1 + inner ≤ limit := by omega
  simp only [both, ite_and]

end

theorem put_new {name : String} {value : Json} {before members : List (String × Json)}
    (nodup : (Keyed.keys (before ++ (name, value) :: members)).Nodup) :
    Keyed.put name value before = before ++ [(name, value)] := by
  rw [Keyed.keys_append] at nodup
  exact Keyed.put_of_not_mem value fun known =>
    (List.nodup_append.mp nodup).2.2 name known name (List.mem_cons_self ..) rfl

mutual
/-- The words of a value are read as the value if its arrays and objects fit the levels that are left, and not at all
if they do not. -/
theorem run_words {limit : Nat} : (value : Json) → value.Distinct → ∀ (frames : List Frame) (mayClose : Bool)
    (rest : List Token), frames.length ≤ limit → run limit (.value frames mayClose) (words value ++ rest) =
      if frames.length + depth value ≤ limit then run limit (.after value frames) rest else none
  | .null, _, _, _, _, room => (if_pos (show _ + depth .null ≤ limit from room)).symm
  | .bool value, _, _, _, _, room => (if_pos (show _ + depth (.bool value) ≤ limit from room)).symm
  | .number n, _, _, _, _, room => (if_pos (show _ + depth (.number n) ≤ limit from room)).symm
  | .string text, _, _, _, _, room => (if_pos (show _ + depth (.string text) ≤ limit from room)).symm
  | .array [], _, frames, mayClose, rest, _ => by
    have opening : step? limit (.value frames mayClose) .openArray =
      if frames.length < limit then some (.value (.item [] :: frames) true) else none := rfl
    exact run_of_opening opening _
  | .array (item :: items), distinct, frames, mayClose, rest, _ => by
    have opening : step? limit (.value frames mayClose) .openArray =
      if frames.length < limit then some (.value (.item [] :: frames) true) else none := rfl
    rw [words, List.cons_append, run_of_opening opening, depth, itemsDepth]
    refine Eq.trans (ite_congr rfl (fun room => ?_) fun _ => rfl) (ite_succ_fits limit frames.length _ _)
    have inside := run_words item distinct.1 (.item [] :: frames) true (itemWords items ++ .closeArray :: rest) room
    rw [List.length_cons] at inside
    rw [List.append_assoc, List.append_assoc, List.singleton_append, inside,
      run_itemWords items distinct.2 item [] frames rest room, ite_max_fits, List.reverse_singleton,
      List.singleton_append]
  | .object [], _, frames, mayClose, rest, _ => by
    have opening : step? limit (.value frames mayClose) .openObject =
      if frames.length < limit then some (.name [] frames true) else none := rfl
    exact run_of_opening opening _
  | .object ((name, value) :: members), distinct, frames, mayClose, rest, _ => by
    have opening : step? limit (.value frames mayClose) .openObject =
      if frames.length < limit then some (.name [] frames true) else none := rfl
    have named : step? limit (.name [] frames true) (.string name) = some (.colon [] name frames) := rfl
    have colon : step? limit (.colon [] name frames) .colon = some (.value (.member [] name :: frames) false) := rfl
    rw [words, List.cons_append, run_of_opening opening, depth, membersDepth]
    refine Eq.trans (ite_congr rfl (fun room => ?_) fun _ => rfl) (ite_succ_fits limit frames.length _ _)
    have inside := run_words value distinct.2.1 (.member [] name :: frames) false
      (memberWords members ++ .closeObject :: rest) room
    rw [List.length_cons] at inside
    rw [List.cons_append, run_of_step? named, List.cons_append, run_of_step? colon, List.append_assoc,
      List.append_assoc, List.singleton_append, inside,
      run_memberWords members distinct.2.2 name value [] frames rest distinct.1 room, ite_max_fits, List.nil_append]

theorem run_itemWords {limit : Nat} : (items : List Json) → DistinctItems items → ∀ (value : Json) (before : List Json)
    (frames : List Frame) (rest : List Token), frames.length + 1 ≤ limit →
      run limit (.after value (.item before :: frames)) (itemWords items ++ .closeArray :: rest) =
        if frames.length + 1 + itemsDepth items ≤ limit then
          run limit (.after (.array ((value :: before).reverse ++ items)) frames) rest
        else none
  | [], _, value, before, frames, rest, room => by
    have closing : step? limit (.after value (.item before :: frames)) .closeArray =
      some (.after (.array (value :: before).reverse) frames) := rfl
    rw [itemsDepth, if_pos room, List.append_nil, itemWords, List.nil_append, run_of_step? closing]
  | item :: items, distinct, value, before, frames, rest, room => by
    have comma : step? limit (.after value (.item before :: frames)) .comma =
      some (.value (.item (value :: before) :: frames) false) := rfl
    have inside := run_words item distinct.1 (.item (value :: before) :: frames) false
      (itemWords items ++ .closeArray :: rest) room
    rw [List.length_cons] at inside
    rw [itemWords, List.cons_append, run_of_step? comma, List.append_assoc, inside,
      run_itemWords items distinct.2 _ _ _ _ room, ite_max_fits, itemsDepth, List.reverse_cons, List.append_assoc,
      List.singleton_append]

theorem run_memberWords {limit : Nat} : (members : List (String × Json)) → DistinctMembers members →
    ∀ (name : String) (value : Json) (before : List (String × Json)) (frames : List Frame) (rest : List Token),
      (Keyed.keys (before ++ (name, value) :: members)).Nodup → frames.length + 1 ≤ limit →
        run limit (.after value (.member before name :: frames)) (memberWords members ++ .closeObject :: rest) =
          if frames.length + 1 + membersDepth members ≤ limit then
            run limit (.after (.object (before ++ (name, value) :: members)) frames) rest
          else none
  | [], _, name, value, before, frames, rest, nodup, room => by
    have closing : step? limit (.after value (.member before name :: frames)) .closeObject =
      some (.after (.object (Keyed.put name value before)) frames) := rfl
    rw [membersDepth, if_pos room, memberWords, List.nil_append, run_of_step? closing, put_new nodup]
  | (other, item) :: members, distinct, name, value, before, frames, rest, nodup, room => by
    have comma : step? limit (.after value (.member before name :: frames)) .comma =
      some (.name (Keyed.put name value before) frames false) := rfl
    have named : step? limit (.name (before ++ [(name, value)]) frames false) (.string other) =
      some (.colon (before ++ [(name, value)]) other frames) := rfl
    have colon : step? limit (.colon (before ++ [(name, value)]) other frames) .colon =
      some (.value (.member (before ++ [(name, value)]) other :: frames) false) := rfl
    have inside := run_words item distinct.1 (.member (before ++ [(name, value)]) other :: frames) false
      (memberWords members ++ .closeObject :: rest) room
    rw [List.length_cons] at inside
    rw [memberWords, List.cons_append, run_of_step? comma, put_new nodup, List.cons_append, run_of_step? named,
      List.cons_append, run_of_step? colon, List.append_assoc, inside]
    rw [List.append_cons before (name, value) (_ :: _)] at nodup ⊢
    rw [run_memberWords members distinct.2 other item _ frames rest nodup room, ite_max_fits, membersDepth]
end

end Reader

/-- A value is read back from its indented text exactly if the reader may open as many arrays and objects as lie in
each other. -/
theorem readWithin_pretty {limit : Nat} {value : Json} (distinct : value.Distinct)
    (back : ∀ x ∈ value.reals, ReadBack x) :
    readWithin limit value.pretty = if depth value ≤ limit then some value else none := by
  have ran := Reader.run_words value distinct [] false [] (Nat.zero_le limit)
  rw [List.append_nil, List.length_nil, Nat.zero_add] at ran
  rw [readWithin, Token.scan_pretty back, Option.bind_some, ran]
  rfl

end ConfigSchema.Json
