import AirDump.Foundation.NumberText
import AirDump.Telemetry.Ending

namespace AirDump
namespace Telemetry

open Foundation Connection

/-!
# What the receiving program prints

The lines on the screen are all that a user sees of the receiving program.
They are made of the status line and of the whole list after every byte, as
text.  The text of a list determines the list, so the screen shows everything
that the program knows: two programs that print the same have the same list,
wherever they are in whatever lives.
-/

namespace Program

def stdout : Program -> List String
  | .looping receiver => receiver.stdout
  | _ => []

/-- The loop was entered. -/
def entered : Program -> Bool
  | .looping _ => true
  | _ => false

end Program

namespace Receiver

/-- The lines of a list show the list itself last. -/
theorem lines_injective {first second : List Int}
    (same : first.inits.tail.map toString = second.inits.tail.map toString) :
    first = second := by
  have nonempty : forall (numbers : List Int) (number : Int),
      (numbers ++ [number]).inits.tail.map toString ≠ [] := by
    intro numbers number
    rw [tail_inits_snoc, List.map_append]
    exact List.append_ne_nil_of_right_ne_nil _ (List.cons_ne_nil _ _)
  cases first using List.reverseRecOn with
  | nil =>
      cases second using List.reverseRecOn with
      | nil => rfl
      | append_singleton numbers number => exact absurd same.symm (nonempty numbers number)
  | append_singleton numbers number =>
      cases second using List.reverseRecOn with
      | nil => exact absurd same (nonempty numbers number)
      | append_singleton others other =>
          rw [tail_inits_snoc, tail_inits_snoc, List.map_append, List.map_append] at same
          have last := List.append_inj_right' same rfl
          exact NumberText.toString_list_injective (List.cons.inj last).1

end Receiver

/-- Two programs with their lists on the screen print the same exactly when
they know the same. -/
theorem Program.stdout_eq_iff {first second : Program} (shown : first.Printed)
    (shows : second.Printed) :
    first.stdout = second.stdout ↔
      first.entered = second.entered ∧ first.listaa = second.listaa := by
  have silent : forall receiver : Receiver, receiver.Printed -> receiver.stdout ≠ [] := by
    intro receiver printed nothing
    rw [Receiver.Printed, nothing] at printed
    cases printed
  cases first with
  | looping receiver =>
      cases second with
      | looping other =>
          have lines : receiver.Printed := shown
          have others : other.Printed := shows
          unfold Receiver.Printed at lines others
          change receiver.stdout = other.stdout ↔ true = true ∧ receiver.listaa = other.listaa
          rw [lines, others]
          constructor
          · intro same
            exact ⟨rfl, Receiver.lines_injective (List.cons.inj same).2⟩
          · intro same
            rw [same.2]
      | _ => exact iff_of_false (silent receiver shown) (fun same => by cases same.1)
  | _ =>
      cases second with
      | looping other =>
          exact iff_of_false (fun same => silent other shows same.symm)
            (fun same => by cases same.1)
      | _ => exact iff_of_true rfl ⟨rfl, rfl⟩

/-- At any moments of any two lives, the two programs have printed the same
exactly when both have entered their loop or neither has, and their lists are
the same. -/
theorem transcript_eq_iff (first second : Environment) (answers others : Answers)
    (events happenings : List Event) :
    ((first.lifecycle answers).run events).program.stdout =
        ((second.lifecycle others).run happenings).program.stdout ↔
      ((first.lifecycle answers).run events).program.entered =
          ((second.lifecycle others).run happenings).program.entered ∧
        ((first.lifecycle answers).run events).program.listaa =
          ((second.lifecycle others).run happenings).program.listaa := by
  have printed : forall (environment : Environment) (answers : Answers) (events : List Event),
      ((environment.lifecycle answers).run events).program.Printed :=
    fun environment answers events =>
      Environment.printed_of_course ((environment.lifecycle_course answers).run events).2
  exact Program.stdout_eq_iff (printed first answers events) (printed second others happenings)

end Telemetry
end AirDump
