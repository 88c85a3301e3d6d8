import ConfigSchema.Json.Printer
import ConfigSchema.Json.Token
import Mathlib.Data.List.Basic
import Mathlib.Data.List.TakeWhile

/-! Words that are read as they were written. A quoted text and an integer give their values back, and the scanner
takes a word for itself as long as what follows does not prolong it. -/

namespace ConfigSchema

namespace Json

theorem hexValue?_hexDigit : ∀ n < 16, Token.hexValue? (hexDigit n) = some n := by decide

theorem hexDigit_plain : ∀ n < 16, hexDigit n ≠ '"' ∧ hexDigit n ≠ '\\' := by decide

inductive Escaped (c : Char) : List Char → Prop
  | letter (letter : Char) (other : letter ≠ 'u') (stands : Token.escaped? letter = some c) : Escaped c ['\\', letter]
  | number (high low : Nat) (small : high < 2) (digit : low < 16) (same : high * 16 + low = c.toNat) :
    Escaped c ['\\', 'u', '0', '0', hexDigit high, hexDigit low]
  | plain (noQuote : c ≠ '"') (noBackslash : c ≠ '\\') (great : 32 ≤ c.toNat) : Escaped c [c]

theorem escaped_escapeChar (c : Char) : Escaped c (escapeChar c) := by
  unfold escapeChar
  split
  · exact .letter _ (by decide) rfl
  · exact .letter _ (by decide) rfl
  · exact .letter _ (by decide) rfl
  · exact .letter _ (by decide) rfl
  · exact .letter _ (by decide) rfl
  · exact .letter _ (by decide) rfl
  · exact .letter _ (by decide) rfl
  · rename_i noQuote noBackslash _ _ _ _ _
    split
    · exact .number _ _ (by omega) (by omega) (by omega)
    · exact .plain noQuote noBackslash (by omega)

namespace Token

theorem unescape?_escaped {c : Char} {written : List Char} (escaped : Escaped c written) (rest : List Char) :
    unescape? (written ++ rest) = (unescape? rest).map (c :: ·) := by
  cases escaped with
  | letter letter other stands =>
    have noNumber : ∀ (a b c d : Char) (more : List Char), letter = 'u' → rest = a :: b :: c :: d :: more → False :=
      fun _ _ _ _ _ same _ => other same
    simp only [List.cons_append, List.nil_append]
    rw [unescape?.eq_3 letter rest noNumber, stands]
  | number high low small digit same =>
    have unit : hexUnit? '0' '0' (hexDigit high) (hexDigit low) = some c.toNat := by
      have zero : hexValue? '0' = some 0 := by decide
      simp only [hexUnit?, zero, hexValue?_hexDigit high (by omega), hexValue?_hexDigit low digit]
      simp [← same]
    have control : c.toNat < 32 := by omega
    simp only [List.cons_append, List.nil_append]
    rw [unescape?.eq_2, unit]
    simp only []
    rw [if_neg (by omega), if_neg (by omega), Char.ofNat_toNat]
  | plain noQuote noBackslash great =>
    simp only [List.cons_append, List.nil_append]
    rw [unescape?.eq_4 c rest (fun _ _ _ _ _ same _ => noBackslash same) (fun _ _ same _ => noBackslash same),
      if_neg (by simp [noBackslash, great])]

theorem unescape?_escapes (text : List Char) : unescape? (text.flatMap escapeChar) = some text := by
  induction text with
  | nil => rfl
  | cons c rest ih => rw [List.flatMap_cons, unescape?_escaped (escaped_escapeChar c), ih, Option.map_some]

end Token

end Json

namespace Number

structure Plain (digits : List Char) : Prop where
  some : digits ≠ []
  digit : ∀ c ∈ digits, c.isDigit = true
  led : ∀ c rest, digits ≠ '0' :: c :: rest

theorem eq_zero_of_head?_toDigits (n : Nat) (led : (Nat.toDigits 10 n).head? = some '0') : n = 0 := by
  induction n using Nat.strongRecOn with
  | ind n ih =>
    by_cases small : n < 10
    · rw [Nat.toDigits_of_lt_base small] at led
      have digit : ∀ n < 10, n.digitChar = '0' → n = 0 := by decide
      exact digit n small (by simpa using led)
    · rw [Nat.toDigits_of_base_le (by decide) (Nat.not_lt.mp small),
        List.head?_append_of_ne_nil _ Nat.toDigits_ne_nil] at led
      have := ih (n / 10) (by omega) led
      omega

theorem plain_toDigits (n : Nat) : Plain (Nat.toDigits 10 n) where
  some := Nat.toDigits_ne_nil
  digit _ := Nat.isDigit_of_mem_toDigits (by decide) (by decide)
  led c rest same := by
    have zero := eq_zero_of_head?_toDigits n (by rw [same]; rfl)
    rw [zero] at same
    cases same

theorem foldl_toDigits (n : Nat) :
    (Nat.toDigits 10 n).foldl (fun size c => size * 10 + digitValue c) 0 = n := by
  have same : (fun size c => size * 10 + digitValue c) = fun size c => 10 * size + (c.toNat - '0'.toNat) := by
    funext size c
    rw [Nat.mul_comm]
    rfl
  rw [same]
  exact Nat.ofDigitChars_ten_toDigits

/-- A literal that is nothing but digits, behind a minus or not, is an integer if anything. -/
theorem ofTail?_digits {digits : List Char} (plain : Plain digits) (negative : Bool) :
    (match digits.takeWhile Char.isDigit with
      | [] => none
      | '0' :: _ :: _ => none
      | _ => ofTail? negative (digits.takeWhile Char.isDigit) (digits.dropWhile Char.isDigit)) =
      integer? negative digits := by
  rw [List.takeWhile_eq_self_iff.mpr plain.digit, List.dropWhile_eq_nil_iff.mpr plain.digit]
  split
  · exact absurd rfl plain.some
  · exact absurd rfl (plain.led _ _)
  · rfl

theorem ofLiteral?_minus {digits : List Char} (plain : Plain digits) :
    ofLiteral? ('-' :: digits) = integer? true digits := ofTail?_digits plain true

theorem ofLiteral?_digits {digits : List Char} (plain : Plain digits) :
    ofLiteral? digits = integer? false digits := by
  rw [← ofTail?_digits plain false]
  unfold ofLiteral?
  split
  rename_i negative size same
  split at same
  · exact absurd (plain.digit '-' (List.mem_cons_self ..)) (by decide)
  · cases same
    rfl

theorem ofInt?_value (n : Integer64) : Integer64.ofInt? n.value = some n := dif_pos n.inRange

/-- An integer is written in digits, behind a minus if it is negative, and read as itself. -/
theorem ofLiteral?_integer (n : Integer64) : ofLiteral? (text (.integer n)).toList = some (.integer n) := by
  have shown : (text (.integer n)).toList =
      if 0 ≤ n.value then Nat.toDigits 10 n.value.toNat else '-' :: Nat.toDigits 10 (-n.value).toNat := by
    have repr : text (.integer n) = n.value.repr := rfl
    rw [repr, Int.repr_eq_if]
    split
    · exact Nat.toList_repr
    · rw [String.toList_append, Nat.toList_repr]
      rfl
  rw [shown]
  split
  · have same : (n.value.toNat : Int) = n.value := by omega
    rw [ofLiteral?_digits (plain_toDigits _), integer?, foldl_toDigits]
    simp only [Bool.false_eq_true, if_false, same, ofInt?_value]
  · have same : -((-n.value).toNat : Int) = n.value := by omega
    have negative : ¬(-n.value).toNat = 0 := by omega
    rw [ofLiteral?_minus (plain_toDigits _), integer?, foldl_toDigits]
    simp only [if_true, if_neg negative, same, ofInt?_value]

open Json.Token (isNumeric)

theorem isNumeric_of_isDigit {c : Char} (digit : c.isDigit = true) : isNumeric c = true := by simp [isNumeric, digit]

theorem numeric_of_power? {text : List Char} {power : Int} (read : power? text = some power) :
    ∀ c ∈ text, isNumeric c = true := by
  have digits : ∀ {rest : List Char}, ¬(rest.isEmpty || !rest.all Char.isDigit) = true →
      ∀ c ∈ rest, isNumeric c = true := by
    intro rest given c member
    rw [Bool.not_eq_true, Bool.or_eq_false_iff, Bool.not_eq_false'] at given
    exact isNumeric_of_isDigit (List.all_eq_true.mp given.2 c member)
  unfold power? at read
  split at read
  rename_i negative rest same
  split at read
  · cases read
  · rename_i given
    split at same
    · cases same
      exact List.forall_mem_cons.mpr ⟨by decide, digits given⟩
    · cases same
      exact List.forall_mem_cons.mpr ⟨by decide, digits given⟩
    · cases same
      exact digits given

theorem numeric_of_exponent {mark : Char} {tail : List Char} {next : Int → Option Number} {n : Number}
    (marked : mark = 'e' ∨ mark = 'E') (read : (power? tail).bind next = some n) :
    ∀ c ∈ mark :: tail, isNumeric c = true := by
  obtain ⟨power, known, _⟩ := Option.bind_eq_some_iff.mp read
  exact List.forall_mem_cons.mpr ⟨by rcases marked with rfl | rfl <;> decide, numeric_of_power? known⟩

theorem numeric_of_ofTail? {negative : Bool} {whole tail : List Char} {n : Number}
    (read : ofTail? negative whole tail = some n) : ∀ c ∈ tail, isNumeric c = true := by
  unfold ofTail? at read
  split at read
  · simp
  · rename_i c rest
    split at read
    · rename_i point
      have fraction : ∀ c ∈ rest.takeWhile Char.isDigit, isNumeric c = true := fun c member =>
        isNumeric_of_isDigit (List.all_eq_true.mp List.all_takeWhile c member)
      have further : ∀ c ∈ rest.dropWhile Char.isDigit, isNumeric c = true := by
        dsimp only at read
        split at read
        · cases read
        · rename_i nothing _
          simp [nothing]
        · rename_i mark exponent goes_on _
          obtain ⟨marked, known⟩ := Option.ite_none_right_eq_some.mp read
          rw [goes_on]
          exact numeric_of_exponent marked known
      rw [List.forall_mem_cons, ← List.takeWhile_append_dropWhile (p := Char.isDigit) (l := rest)]
      exact ⟨by rw [point]; decide, List.forall_mem_append.mpr ⟨fraction, further⟩⟩
    · obtain ⟨marked, known⟩ := Option.ite_none_right_eq_some.mp read
      exact numeric_of_exponent marked known

/-- What can be read as a number begins with a digit or a minus and goes on with characters of numbers. -/
theorem numeric_of_ofLiteral? {text : List Char} {n : Number} (read : ofLiteral? text = some n) :
    (∃ c rest, text = c :: rest ∧ (c.isDigit || c == '-') = true) ∧ ∀ c ∈ text, isNumeric c = true := by
  have parts : ∀ {negative : Bool} {size : List Char}, (match size.takeWhile Char.isDigit with
      | [] => none
      | '0' :: _ :: _ => none
      | _ => ofTail? negative (size.takeWhile Char.isDigit) (size.dropWhile Char.isDigit)) = some n →
      (∃ c rest, size = c :: rest ∧ c.isDigit = true) ∧ ∀ c ∈ size, isNumeric c = true := by
    intro negative size done
    have digits : ∀ c ∈ size.takeWhile Char.isDigit, c.isDigit = true := List.all_eq_true.mp List.all_takeWhile
    have tail : ∀ c ∈ size.dropWhile Char.isDigit, isNumeric c = true := by
      split at done
      · cases done
      · cases done
      · exact numeric_of_ofTail? done
    have split_ : size.takeWhile Char.isDigit ++ size.dropWhile Char.isDigit = size := List.takeWhile_append_dropWhile
    refine ⟨?_, ?_⟩
    · cases whole : size.takeWhile Char.isDigit with
      | nil => simp [whole] at done
      | cons c rest =>
        rw [whole] at split_ digits
        exact ⟨c, _, split_.symm, digits c (List.mem_cons_self ..)⟩
    · rw [← split_]
      exact List.forall_mem_append.mpr ⟨fun c member => isNumeric_of_isDigit (digits c member), tail⟩
  unfold ofLiteral? at read
  split at read
  rename_i negative size same
  obtain ⟨⟨c, rest, first, digit⟩, numeric⟩ := parts read
  split at same
  · cases same
    exact ⟨⟨'-', _, rfl, by decide⟩, List.forall_mem_cons.mpr ⟨by decide, numeric⟩⟩
  · cases same
    exact ⟨⟨c, rest, first, by rw [digit, Bool.true_or]⟩, numeric⟩

end Number

namespace Json.Token

def Ends (rest : List Char) : Prop := ∀ c ∈ rest.head?, c.isLower = false ∧ isNumeric c = false

theorem ends_nil : Ends [] := nofun

/-- The text is scanned as these words whatever follows, as long as that does not prolong the last one. -/
def Scans (text : List Char) (words : List Token) : Prop :=
  ∀ rest, Ends rest → scanFrom .between (text ++ rest) = (scanFrom .between rest).map (words ++ ·)

def Closes (text : List Char) (words : List Token) : Prop :=
  ∀ rest, scanFrom .between (text ++ rest) = (scanFrom .between rest).map (words ++ ·)

theorem Closes.scans {text : List Char} {words : List Token} (closes : Closes text words) : Scans text words :=
  fun rest _ => closes rest

theorem closes_nil : Closes [] [] := fun rest => by
  have same : (fun words : List Token => [] ++ words) = id := rfl
  rw [List.nil_append, same, Option.map_id, id]

theorem Closes.append {text more : List Char} {words others : List Token} (closes : Closes text words)
    (further : Closes more others) : Closes (text ++ more) (words ++ others) := by
  intro rest
  rw [List.append_assoc, closes, further, Option.map_map]
  simp only [Function.comp_def, List.append_assoc]

theorem Scans.append {text more : List Char} {words others : List Token} (scans : Scans text words)
    (ends : ∀ rest, Ends (more ++ rest)) (further : Closes more others) : Closes (text ++ more) (words ++ others) := by
  intro rest
  rw [List.append_assoc, scans _ (ends rest), further, Option.map_map]
  simp only [Function.comp_def, List.append_assoc]

theorem scanFrom_cons (mode : Mode) (c : Char) (rest : List Char) : scanFrom mode (c :: rest) =
    (step? mode c).bind fun next => (scanFrom next.2 rest).map (next.1 ++ ·) := by
  rw [scanFrom, Option.bind_eq_bind]
  congr 1
  funext ⟨words, next⟩
  dsimp only
  cases scanFrom next rest <;> rfl

theorem scanFrom_of_step? {mode next : Mode} {c : Char} {words : List Token} (taken : step? mode c = some (words, next))
    (rest : List Char) : scanFrom mode (c :: rest) = (scanFrom next rest).map (words ++ ·) := by
  rw [scanFrom_cons, taken, Option.bind_some]

/-- A character that completes no word is only taken in. -/
theorem scanFrom_silent {mode next : Mode} {c : Char} (taken : step? mode c = some ([], next)) (rest : List Char) :
    scanFrom mode (c :: rest) = scanFrom next rest := by
  have same : (fun words : List Token => [] ++ words) = id := rfl
  rw [scanFrom_of_step? taken, same, Option.map_id, id]

theorem closes_of_start? {c : Char} {words : List Token} (starts : start? c = some (words, .between)) :
    Closes [c] words := scanFrom_of_step? starts

/-- A word or a number is complete when it ends, and what follows is scanned as after a blank. -/
theorem scanFrom_complete {mode : Mode} {done : Option Token} {rest : List Char}
    (finished : finish? mode = done.map ([·])) (left : ∀ c ∈ rest.head?, step? mode c = startAfter? done c) :
    scanFrom mode rest = done.bind fun token => (scanFrom .between rest).map (token :: ·) := by
  cases rest with
  | nil =>
    rw [scanFrom, finished]
    cases done <;> rfl
  | cons c rest =>
    rw [scanFrom_cons, left c rfl, scanFrom_cons]
    cases done with
    | none => rfl
    | some token =>
      rw [startAfter?, step?]
      cases start? c with
      | none => rfl
      | some started =>
        simp only [Option.bind_eq_bind, Option.bind_some, Option.map_map]
        rfl

theorem scanFrom_word {read rest : List Char} (ends : Ends rest) : scanFrom (.word read) rest =
    (ofWord? read).bind fun token => (scanFrom .between rest).map (token :: ·) :=
  scanFrom_complete rfl fun c first => if_neg (by simp [(ends c first).1])

theorem scanFrom_digits {read rest : List Char} (ends : Ends rest) : scanFrom (.digits read) rest =
    (ofDigits? read).bind fun token => (scanFrom .between rest).map (token :: ·) :=
  scanFrom_complete rfl fun c first => if_neg (by simp [(ends c first).2])

theorem scanFrom_gathered {mode : List Char → Mode} {text : List Char}
    (taken : ∀ c ∈ text, ∀ read, step? (mode read) c = some ([], mode (c :: read))) (read rest : List Char) :
    scanFrom (mode read) (text ++ rest) = scanFrom (mode (text.reverse ++ read)) rest := by
  induction text generalizing read with
  | nil => rfl
  | cons c text ih =>
    rw [List.forall_mem_cons] at taken
    rw [List.cons_append, scanFrom_silent (taken.1 read), ih taken.2, List.reverse_cons, List.append_assoc,
      List.singleton_append]

theorem scans_word {c : Char} {letters : List Char} {token : Token} (begun : step? .between c = some ([], .word [c]))
    (lower : letters.all Char.isLower = true) (known : ofWord? (letters.reverse ++ [c]) = some token) :
    Scans (c :: letters) [token] := by
  have taken : ∀ c ∈ letters, ∀ read, step? (.word read) c = some ([], .word (c :: read)) :=
    fun c member read => if_pos (List.all_eq_true.mp lower c member)
  intro rest ends
  rw [List.cons_append, scanFrom_silent begun, scanFrom_gathered taken, scanFrom_word ends, known]
  rfl

theorem scans_number {text : List Char} {n : Number} (read : Number.ofLiteral? text = some n) :
    Scans text [.number n] := by
  obtain ⟨⟨c, more, rfl, first⟩, numeric⟩ := Number.numeric_of_ofLiteral? read
  rw [List.forall_mem_cons] at numeric
  have blank : ¬isBlank c = true := by
    intro blank
    simp only [isBlank, Bool.or_eq_true, beq_iff_eq, or_assoc] at blank
    rcases blank with rfl | rfl | rfl | rfl <;> cases first
  have begun : step? .between c = some ([], .digits [c]) := (if_neg blank).trans (if_pos first)
  have taken : ∀ c ∈ more, ∀ read, step? (.digits read) c = some ([], .digits (c :: read)) :=
    fun c member read => if_pos (numeric.2 c member)
  have whole : ofDigits? (more.reverse ++ [c]) = some (.number n) := by
    rw [ofDigits?, List.reverse_append, List.reverse_reverse]
    exact congrArg (Option.map Token.number) read
  intro rest ends
  rw [List.cons_append, scanFrom_silent begun, scanFrom_gathered taken, scanFrom_digits ends, whole]
  rfl

theorem scanFrom_escaped {c : Char} {written : List Char} (escaped : Escaped c written) (read rest : List Char) :
    scanFrom (.quoted read) (written ++ rest) = scanFrom (.quoted (written.reverse ++ read)) rest := by
  have plain : ∀ (c : Char) (read rest : List Char), c ≠ '"' → c ≠ '\\' →
      scanFrom (.quoted read) (c :: rest) = scanFrom (.quoted (c :: read)) rest := by
    intro c read rest noQuote noBackslash
    have taken : step? (.quoted read) c = some ([], .quoted (c :: read)) := by
      rw [step?, if_neg noQuote, if_neg noBackslash]
    exact scanFrom_silent taken rest
  have letter : ∀ (letter : Char) (read rest : List Char), scanFrom (.quoted read) ('\\' :: letter :: rest) =
      scanFrom (.quoted (letter :: '\\' :: read)) rest := by
    intro letter read rest
    have backslash : step? (.quoted read) '\\' = some ([], .escape read) := rfl
    rw [scanFrom_silent backslash, scanFrom_silent rfl]
  cases escaped with
  | letter stands => exact letter _ read rest
  | number high low small digit same =>
    obtain ⟨highQuote, highBackslash⟩ := hexDigit_plain high (by omega)
    obtain ⟨lowQuote, lowBackslash⟩ := hexDigit_plain low digit
    simp only [List.cons_append, List.nil_append]
    rw [letter, plain '0' _ _ (by decide) (by decide), plain '0' _ _ (by decide) (by decide),
      plain _ _ _ highQuote highBackslash, plain _ _ _ lowQuote lowBackslash]
    rfl
  | plain noQuote noBackslash great => exact plain c read rest noQuote noBackslash

theorem scanFrom_escapes (text read rest : List Char) :
    scanFrom (.quoted read) (text.flatMap escapeChar ++ rest) =
      scanFrom (.quoted ((text.flatMap escapeChar).reverse ++ read)) rest := by
  induction text generalizing read with
  | nil => rfl
  | cons c text ih =>
    rw [List.flatMap_cons, List.append_assoc, scanFrom_escaped (escaped_escapeChar c), ih, List.reverse_append,
      List.append_assoc]

theorem closes_quote (text : String) : Closes (quote text).toList [.string text] := by
  intro rest
  have opened : step? .between '"' = some ([], .quoted []) := rfl
  have closed : step? (.quoted (text.toList.flatMap escapeChar).reverse) '"' = some ([.string text], .between) := by
    rw [step?, if_pos rfl, ofQuoted?, List.reverse_reverse, unescape?_escapes, Option.map_some, Option.map_some,
      String.ofList_toList]
  rw [quote, String.toList_ofList, List.cons_append, List.cons_append, List.append_assoc, scanFrom_silent opened,
    scanFrom_escapes, List.append_nil, List.singleton_append, scanFrom_of_step? closed]

end Json.Token

end ConfigSchema
