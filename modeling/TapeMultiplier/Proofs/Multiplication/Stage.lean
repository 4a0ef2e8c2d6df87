/-
Module: TapeMultiplier.Proofs.Multiplication.Stage
Layer: Proofs
Purpose: Where the multiplication program can be in its work.  A stage counts the cells that are marked,
  passed and still to come; it fixes the state and the whole tape of the machine, and how many steps are
  left.  One step of the machine is one step from stage to stage.
Main exports: Stage, Stage.Reached, Stage.tape, Stage.next, Stage.remaining, Stage.reached_next,
  Stage.apply_next
-/
import TapeMultiplier.Machine
import TapeMultiplier.Proofs.Multiplication.Program
import TapeMultiplier.Proofs.Tape
import Mathlib.Tactic.Linarith
import Mathlib.Tactic.Ring

namespace TapeMultiplier

namespace Multiplication

/-!
The program marks the zeros of the first factor one by one.  For each of them it makes a round over the
second factor, in which it tallies the zeros one by one, and for each tally it goes to the end of the
product, adds a zero, and comes back.  All sweeps are over runs of equal cells, so a stage needs nothing
but counts: in a sweep, the cells passed so far and those still ahead.
-/

/-- A run of zeros. -/
def zeros (count : Nat) : List Char :=
  List.replicate count Symbol.number.char

/-- A run of marked zeros of the first factor. -/
def marks (count : Nat) : List Char :=
  List.replicate count Symbol.replacedZero.char

/-- A run of tallied zeros of the second factor. -/
def tallies (count : Nat) : List Char :=
  List.replicate count Symbol.replacedOne.char

/-- What stands before the zeros of the first factor that come next, nearest first: zeros that were
passed, marked zeros, and the blank at the left end. -/
def firstFactor (marked passed : Nat) : List Char :=
  zeros passed ++ (marks marked ++ [Symbol.blank.char])

/-- The second factor without tallies, and the product behind it. -/
def secondFactor (factor product : Nat) : List Char :=
  Symbol.calculation.char :: (zeros factor ++ Symbol.blank.char :: zeros product)

/-- What stands before the zeros of the second factor that come next, nearest first: zeros that were
passed, tallies, and the first factor with `todo` zeros that are not marked. -/
def tallied (marked todo tally passed : Nat) : List Char :=
  zeros passed ++ (tallies tally ++ Symbol.calculation.char :: firstFactor marked todo)

/-- A stage of the work.  In all stages `done` counts the rounds that are behind and `todo` those still to
come after the present one; `tally` counts the tallies of the present round before the present one. -/
inductive Stage where
  /-- At the next zero of the first factor, or at the end of the work. -/
  | choose (done todo : Nat)
  /-- On the way to the second factor. -/
  | cross (done passed todo : Nat)
  /-- At the next zero of the second factor, or at the end of the round. -/
  | pick (done todo tally left : Nat)
  /-- On the way to the end of the second factor. -/
  | seek (done todo tally passed left : Nat)
  /-- On the way to the end of the product. -/
  | extend (done todo tally left passed ahead : Nat)
  /-- On the way back through the product. -/
  | retreat (done todo tally left ahead passed : Nat)
  /-- On the way back to the tallies. -/
  | recross (done todo tally ahead passed : Nat)
  /-- Taking the tallies back. -/
  | restore (done todo ahead passed : Nat)
  /-- On the way back to the marked zeros. -/
  | rewind (done ahead passed : Nat)

namespace Stage

/-- The counts of a stage add up to the factors `a` and `b`. -/
def Reached (a b : Nat) : Stage → Prop
  | choose done todo => done + todo = a
  | cross done passed todo => done + 1 + (passed + todo) = a
  | pick done todo tally left => done + 1 + todo = a ∧ tally + left = b
  | seek done todo tally passed left => done + 1 + todo = a ∧ tally + 1 + (passed + left) = b
  | extend done todo tally left passed ahead =>
      done + 1 + todo = a ∧ tally + 1 + left = b ∧ passed + ahead = done * b + tally
  | retreat done todo tally left ahead passed =>
      done + 1 + todo = a ∧ tally + 1 + left = b ∧ ahead + passed = done * b + tally
  | recross done todo tally ahead passed =>
      done + 1 + todo = a ∧ tally + 1 + (ahead + passed) = b
  | restore done todo ahead passed => done + 1 + todo = a ∧ ahead + passed = b
  | rewind done ahead passed => done + 1 + (ahead + passed) = a

/-- The state of the machine. -/
def state : Stage → String
  | choose .. => "q0"
  | cross .. => "q1"
  | pick .. => "q2"
  | seek .. => "q3"
  | extend .. => "q4"
  | retreat .. => "q5"
  | recross .. => "q5"
  | restore .. => "q6"
  | rewind .. => "q7"

/-- The tape of the machine, when the second factor is `b`. -/
def tape (b : Nat) : Stage → Tape
  | choose done todo =>
      .facing (firstFactor done 0) (zeros todo ++ secondFactor b (done * b))
  | cross done passed todo =>
      .facing (firstFactor (done + 1) passed) (zeros todo ++ secondFactor b (done * b))
  | pick done todo tally left =>
      .facing (tallied (done + 1) todo tally 0)
        (zeros left ++ Symbol.blank.char :: zeros (done * b + tally))
  | seek done todo tally passed left =>
      .facing (tallied (done + 1) todo (tally + 1) passed)
        (zeros left ++ Symbol.blank.char :: zeros (done * b + tally))
  | extend done todo tally left passed ahead =>
      .facing (zeros passed ++ Symbol.blank.char :: tallied (done + 1) todo (tally + 1) left)
        (zeros ahead)
  | retreat done todo tally left ahead passed =>
      .lookingBack (zeros ahead ++ Symbol.blank.char :: tallied (done + 1) todo (tally + 1) left)
        (zeros (passed + 1))
  | recross done todo tally ahead passed =>
      .lookingBack (tallied (done + 1) todo (tally + 1) ahead)
        (zeros passed ++ Symbol.blank.char :: zeros (done * b + tally + 1))
  | restore done todo ahead passed =>
      .lookingBack (tallied (done + 1) todo ahead 0)
        (zeros passed ++ Symbol.blank.char :: zeros ((done + 1) * b))
  | rewind done ahead passed =>
      .lookingBack (firstFactor (done + 1) ahead) (zeros passed ++ secondFactor b ((done + 1) * b))

/-- The stage after one step, when the second factor is `b`; the work ends when no zero of the first
factor is left to choose. -/
def next (b : Nat) : Stage → Option Stage
  | choose _ 0 => none
  | choose done (todo + 1) => some (cross done 0 todo)
  | cross done passed 0 => some (pick done passed 0 b)
  | cross done passed (todo + 1) => some (cross done (passed + 1) todo)
  | pick done todo tally 0 => some (restore done todo tally 0)
  | pick done todo tally (left + 1) => some (seek done todo tally 0 left)
  | seek done todo tally passed 0 => some (extend done todo tally passed 0 (done * b + tally))
  | seek done todo tally passed (left + 1) => some (seek done todo tally (passed + 1) left)
  | extend done todo tally left passed 0 => some (retreat done todo tally left passed 0)
  | extend done todo tally left passed (ahead + 1) =>
      some (extend done todo tally left (passed + 1) ahead)
  | retreat done todo tally left 0 _ => some (recross done todo tally left 0)
  | retreat done todo tally left (ahead + 1) passed =>
      some (retreat done todo tally left ahead (passed + 1))
  | recross done todo tally 0 passed => some (pick done todo (tally + 1) passed)
  | recross done todo tally (ahead + 1) passed => some (recross done todo tally ahead (passed + 1))
  | restore done todo 0 _ => some (rewind done todo 0)
  | restore done todo (ahead + 1) passed => some (restore done todo ahead (passed + 1))
  | rewind done 0 passed => some (choose (done + 1) passed)
  | rewind done (ahead + 1) passed => some (rewind done ahead (passed + 1))

/-- The steps of all rounds from the one after `done` rounds on, when `todo` rounds are left. -/
def roundSteps (b done todo : Nat) : Nat :=
  todo * todo + 4 * todo + 4 * b * todo + b * b * todo * (2 * done + todo + 1)

/-- The steps from the next zero of the second factor to the end of the work.  A tally takes the same
number of steps wherever it stands in its round: what the way through the product gains, the way through
the factor loses. -/
def pickSteps (b done todo left : Nat) : Nat :=
  left * (2 * b * (done + 1) + 3) + (b + todo + 3) + roundSteps b (done + 1) todo

/-- The number of steps that are left. -/
def remaining (b : Nat) : Stage → Nat
  | choose done todo => roundSteps b done todo
  | cross done passed todo => todo + 1 + pickSteps b done (passed + todo) b
  | pick done todo _ left => pickSteps b done todo left
  | seek done todo tally passed left =>
      left + 1 + (2 * (done * b + tally) + 3 + (passed + left) + pickSteps b done todo (passed + left))
  | extend done todo tally left _ ahead =>
      ahead + 1 + (done * b + tally + 1 + (left + 1) + pickSteps b done todo left)
  | retreat done todo _ left ahead _ => ahead + 1 + (left + 1) + pickSteps b done todo left
  | recross done todo _ ahead passed => ahead + 1 + pickSteps b done todo (ahead + passed)
  | restore done todo ahead _ => ahead + 1 + (todo + 1) + roundSteps b (done + 1) todo
  | rewind done ahead passed => ahead + 1 + roundSteps b (done + 1) (ahead + passed)

/-! ### The machine follows the stages -/

section

variable {a b : Nat} {stage after : Stage}

/-- The counts still add up after a step. -/
theorem reached_next (reached : stage.Reached a b) (moves : stage.next b = some after) :
    after.Reached a b := by
  fun_cases next b stage <;> simp only [next, Option.some.injEq, reduceCtorEq] at moves <;>
    subst moves <;> simp only [Reached] at reached ⊢ <;> omega

/-- A step is one of those that are left. -/
theorem remaining_next (reached : stage.Reached a b) (moves : stage.next b = some after) :
    stage.remaining b = after.remaining b + 1 := by
  fun_cases next b stage <;> simp only [next, Option.some.injEq, reduceCtorEq] at moves <;>
    subst moves <;> simp only [Reached, Nat.succ_eq_add_one] at reached <;>
    simp only [remaining, pickSteps, roundSteps, Nat.succ_eq_add_one]
  -- Inside a sweep the two sides agree as polynomials.  Where a round ends, where a tally begins and
  -- where the product is extended, the length of the next sweep comes from the counts.
  case case5 done todo tally =>
      obtain ⟨-, rfl⟩ := reached
      ring
  case case6 done todo tally left =>
      have factor : 2 * b = 2 * tally + 2 * left + 2 := by omega
      linarith
  case case9 done todo tally left passed =>
      have product : passed = done * b + tally := by omega
      linarith
  all_goals ring

/-- The work ends when every zero of the first factor is marked. -/
theorem eq_choose_of_next_none (reached : stage.Reached a b) (ends : stage.next b = none) :
    stage = choose a 0 := by
  fun_cases next b stage <;> simp_all [next, Reached]

/-- Every step from stage to stage is a transition of the program. -/
theorem apply_next (reached : stage.Reached a b) (moves : stage.next b = some after) :
    ∃ t, multiplicationTable.lookup stage.state (stage.tape b).current = some t ∧
      t.target = after.state ∧
      ((stage.tape b).write t.write.char).move t.move = after.tape b := by
  fun_cases next b stage <;> simp only [next, Option.some.injEq, reduceCtorEq] at moves <;>
    subst moves <;> refine ⟨_, rfl, rfl, ?_⟩ <;>
    simp only [Tape.write_move_right, Tape.write_move_left] <;> simp only [Reached] at reached
  -- Passing a cell moves it from one run to the next.  Three sweeps end with a count in another form.
  case case5 done todo tally =>
      have product : done * b + tally = (done + 1) * b := by
        rw [Nat.succ_mul]
        omega
      simp only [tape, product]
      rfl
  case case11 done todo tally left passed =>
      have product : passed = done * b + tally := by omega
      simp only [tape, ← product]
      rfl
  case case15 done todo passed =>
      have factor : passed = b := by omega
      subst factor
      rfl
  all_goals rfl

end

/-- Where the work ends, no transition is found. -/
theorem lookup_choose_done (a b : Nat) :
    multiplicationTable.lookup (choose a 0).state ((choose a 0).tape b).current = none :=
  rfl

end Stage

end Multiplication

end TapeMultiplier
