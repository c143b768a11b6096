import Mathlib.Data.List.TakeWhile
import Mathlib.Data.Int.Init

namespace AirDump
namespace Foundation
namespace NumberText

/-!
# Numbers as text, and back

A reader takes the longest run of digits at the front of a text, with a minus
sign before it if there is one.  It finds the number again that the text was
made from, and the rest of the text, whenever the rest does not go on with a
digit.  A list of integers, printed between brackets with commas, is read in
the same way, so its text determines it.
-/

/-- The rest of a text does not continue a number. -/
def Stops (rest : List Char) : Prop :=
  forall next, rest.head? = some next -> next.isDigit = false

def readNat (text : List Char) : Nat × List Char :=
  (Nat.ofDigitChars 10 (text.takeWhile Char.isDigit) 0, text.dropWhile Char.isDigit)

def readInt : List Char -> Int × List Char
  | '-' :: text => (-((readNat text).1 : Int), (readNat text).2)
  | text => (((readNat text).1 : Int), (readNat text).2)

theorem isDigit_of_mem_toDigits {number : Nat} {digit : Char}
    (member : digit ∈ Nat.toDigits 10 number) : digit.isDigit = true :=
  Nat.isDigit_of_mem_toDigits (by decide) (by decide) member

theorem readNat_toDigits (number : Nat) {rest : List Char} (stops : Stops rest) :
    readNat (Nat.toDigits 10 number ++ rest) = (number, rest) := by
  have digits : forall digit, digit ∈ Nat.toDigits 10 number -> digit.isDigit = true :=
    fun _ member => isDigit_of_mem_toDigits member
  have front : rest.takeWhile Char.isDigit = [] ∧ rest.dropWhile Char.isDigit = rest := by
    cases rest with
    | nil => exact ⟨rfl, rfl⟩
    | cons next later =>
        have stopped := stops next rfl
        exact ⟨List.takeWhile_cons_of_neg (Bool.eq_false_iff.mp stopped),
          List.dropWhile_cons_of_neg (Bool.eq_false_iff.mp stopped)⟩
  rw [readNat, List.takeWhile_append_of_pos digits, List.dropWhile_append_of_pos digits, front.1,
    front.2, List.append_nil, Nat.ofDigitChars_ten_toDigits]

/-- The text of a natural number is no minus sign. -/
theorem readInt_toDigits (number : Nat) {rest : List Char} (stops : Stops rest) :
    readInt (Nat.toDigits 10 number ++ rest) = ((number : Int), rest) := by
  have read := readNat_toDigits number stops
  cases digits : Nat.toDigits 10 number with
  | nil => exact absurd digits Nat.toDigits_ne_nil
  | cons first later =>
      rw [digits] at read
      have digit : first.isDigit = true := by
        have member : first ∈ Nat.toDigits 10 number := by
          rw [digits]
          exact List.mem_cons_self
        exact isDigit_of_mem_toDigits member
      have unsigned : first ≠ '-' := by
        intro same
        rw [same] at digit
        exact absurd digit (by decide)
      rw [List.cons_append] at read ⊢
      unfold readInt
      split
      · rename_i text same
        exact absurd (List.cons.inj same).1 unsigned
      · rw [read]

theorem readInt_minus (number : Nat) {rest : List Char} (stops : Stops rest) :
    readInt ('-' :: (Nat.toDigits 10 number ++ rest)) = (-(number : Int), rest) := by
  rw [readInt, readNat_toDigits number stops]

/-- Reading finds a printed integer again. -/
theorem readInt_toString (number : Int) {rest : List Char} (stops : Stops rest) :
    readInt ((toString number).toList ++ rest) = (number, rest) := by
  cases number with
  | ofNat magnitude =>
      change readInt (magnitude.repr.toList ++ rest) = _
      rw [Nat.toList_repr]
      exact readInt_toDigits magnitude stops
  | negSucc magnitude =>
      change readInt (("-" ++ (magnitude + 1).repr).toList ++ rest) = _
      rw [String.toList_append, Nat.toList_repr, List.append_assoc]
      exact readInt_minus (magnitude + 1) stops

/-! ## Lists of integers -/

/-- What follows the first number of a list. -/
def listRest : List Int -> List Char
  | [] => [']']
  | number :: later => ',' :: ' ' :: ((toString number).toList ++ listRest later)

theorem stops_listRest (numbers : List Int) : Stops (listRest numbers) := by
  intro next first
  cases numbers with
  | nil =>
      rw [← Option.some.inj first]
      decide
  | cons number later =>
      rw [← Option.some.inj first]
      decide

theorem toList_toString_cons (number : Int) (later : List Int) :
    (toString (number :: later)).toList =
      '[' :: ((toString number).toList ++ listRest later) := by
  have fold : forall (numbers : List Int) (earlier : String),
      (numbers.foldl (fun text item => text ++ ", " ++ toString item) earlier).toList ++ [']'] =
        earlier.toList ++ listRest numbers := by
    intro numbers
    induction numbers with
    | nil => exact fun _ => rfl
    | cons item rest inductionHypothesis =>
        intro earlier
        rw [List.foldl_cons, inductionHypothesis, String.toList_append, String.toList_append,
          List.append_assoc, List.append_assoc]
        rfl
  cases later with
  | nil =>
      change ("[" ++ toString number ++ "]").toList = _
      rw [String.toList_append, String.toList_append]
      rfl
  | cons second rest =>
      change (String.push ((second :: rest).foldl (fun text item => text ++ ", " ++ toString item)
        ("[" ++ toString number)) ']').toList = _
      rw [String.toList_push, fold, String.toList_append]
      rfl

theorem listRest_injective {first second : List Int} (same : listRest first = listRest second) :
    first = second := by
  induction first generalizing second with
  | nil =>
      cases second with
      | nil => rfl
      | cons number later => exact absurd (List.cons.inj same).1 (by decide)
  | cons number later inductionHypothesis =>
      cases second with
      | nil => exact absurd (List.cons.inj same).1 (by decide)
      | cons other rest =>
          have texts := (List.cons.inj (List.cons.inj same).2).2
          have read := congrArg readInt texts
          rw [readInt_toString number (stops_listRest later),
            readInt_toString other (stops_listRest rest)] at read
          have parts := Prod.mk.inj read
          rw [parts.1, inductionHypothesis parts.2]

/-- The text of a list that is not empty is longer than two brackets. -/
theorem two_lt_length_toString_cons (number : Int) (later : List Int) :
    2 < (toString (number :: later)).toList.length := by
  have digits : 0 < (toString number).toList.length := by
    cases number with
    | ofNat magnitude =>
        change 0 < magnitude.repr.toList.length
        rw [Nat.toList_repr]
        exact Nat.length_toDigits_pos
    | negSucc magnitude =>
        change 0 < ("-" ++ (magnitude + 1).repr).toList.length
        rw [String.toList_append, List.length_append]
        exact Nat.add_pos_left (by decide) _
  have bracket : 0 < (listRest later).length := by
    cases later <;> exact Nat.succ_pos _
  rw [toList_toString_cons, List.length_cons, List.length_append]
  omega

/-- The text of a list determines the list. -/
theorem toString_list_injective {first second : List Int}
    (same : toString first = toString second) : first = second := by
  have texts := congrArg String.toList same
  have brackets : (toString ([] : List Int)).toList.length = 2 := rfl
  cases first with
  | nil =>
      cases second with
      | nil => rfl
      | cons number later =>
          have long := two_lt_length_toString_cons number later
          rw [← texts, brackets] at long
          exact absurd long (Nat.lt_irrefl 2)
  | cons number later =>
      cases second with
      | nil =>
          have long := two_lt_length_toString_cons number later
          rw [texts, brackets] at long
          exact absurd long (Nat.lt_irrefl 2)
      | cons other rest =>
          rw [toList_toString_cons, toList_toString_cons] at texts
          have read := congrArg readInt (List.cons.inj texts).2
          rw [readInt_toString number (stops_listRest later),
            readInt_toString other (stops_listRest rest)] at read
          have parts := Prod.mk.inj read
          rw [parts.1, listRest_injective parts.2]

end NumberText
end Foundation
end AirDump
