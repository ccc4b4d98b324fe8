import PushGoals.Proofs.Knowledge

/-!
# Counting in a scope

Values of a scope are set and counted up in any order, under any keys.  A `Tally` tells
of one key, from the calls alone, what it was last set to and how often it was counted
up since.  From the integer `n` that it was set to, or from 0, the increment number `j`
answers `n + j` and leaves that integer under its key, as long as the count can be
written with 64 bits and a sign; past that it cannot.

An integer without a sign that is greater is such a count from the start: it is not
seen as an integer, and counting begins again at 1.
-/

namespace PushGoals

/-- A call on the values of a scope. -/
inductive ScopeCall where
  | set (key : String) (v : Value)
  | increment (key : String)

/-- The integer under a key, whatever its size.  Other values and none count as 0. -/
def Value.countOf : Option Value → Int
  | some (.number (.int n)) => n
  | _ => 0

/-- The integer that counting goes on from. -/
def Value.signedOf (v : Option Value) : Int := (v.bind signed?).getD 0

namespace ScopeCall

/-- An increment answers with the new count. -/
def run : ScopeCall → Probe (Option Int)
  | .set key v => do
      Probe.set key v
      return none
  | .increment key => do
      let n ← Probe.increment key
      return some n

def runAll : List ScopeCall → Probe (List (Option Int))
  | [] => return []
  | call :: rest => do
      let answer ← call.run
      let answers ← runAll rest
      return answer :: answers

end ScopeCall

/-- What a key was last set to, and how often it was counted up since. -/
structure Tally where
  last : Option Value
  increments : Nat := 0

namespace Tally

/-- The tally of `key` after a call. -/
def after (key : String) (t : Tally) : ScopeCall → Tally
  | .set k v => if k = key then { last := some v } else t
  | .increment k => if k = key then { t with increments := t.increments + 1 } else t

/-- The tally of `key`, which begins with the value `first`, after calls in order. -/
def ofCalls (key : String) (first : Option Value) (calls : List ScopeCall) : Tally :=
  calls.foldl (after key) { last := first }

def count (t : Tally) : Int := Int.bmod (Value.signedOf t.last + t.increments) integerCount

/-- What the tally says is found under the key. -/
def value (t : Tally) : Option Value :=
  if t.increments = 0 then t.last else some (.ofInt t.count)

end Tally

/-! ## Integers of 64 bits -/

namespace Value

theorem minSigned_le_bmod (n : Int) : minSigned ≤ Int.bmod n integerCount := by
  have hlow : -((integerCount : Int) / 2) ≤ Int.bmod n integerCount :=
    Int.le_bmod (by decide)
  exact hlow

theorem bmod_le_maxSigned (n : Int) : Int.bmod n integerCount ≤ maxSigned := by
  have hhigh : Int.bmod n integerCount < ((integerCount : Int) + 1) / 2 :=
    Int.bmod_lt (by decide)
  exact Int.le_of_lt_add_one hhigh

theorem bmod_eq_self_iff {n : Int} (hlow : minSigned ≤ n) :
    Int.bmod n integerCount = n ↔ n ≤ maxSigned := by
  constructor
  · intro hself
    rw [← hself]
    exact bmod_le_maxSigned n
  · intro hhigh
    exact Int.bmod_eq_of_le hlow (Int.lt_add_one_of_le hhigh)

theorem signedOf_ofInt_bmod (n : Int) :
    signedOf (some (.ofInt (Int.bmod n integerCount))) = Int.bmod n integerCount := by
  simp only [signedOf, ofInt, Option.bind_some, signed?]
  rw [if_pos ⟨minSigned_le_bmod n, bmod_le_maxSigned n⟩]
  rfl

/-- Counting goes on from the integer under a key, unless that does not fit. -/
theorem signedOf_eq (v : Option Value) :
    signedOf v = if minSigned ≤ countOf v ∧ countOf v ≤ maxSigned then countOf v else 0 := by
  have hzero : (if minSigned ≤ 0 ∧ 0 ≤ maxSigned then (0 : Int) else 0) = 0 := ite_self _
  cases v with
  | none => exact hzero.symm
  | some v =>
      cases v with
      | number n =>
          cases n with
          | int n =>
              by_cases hfits : minSigned ≤ n ∧ n ≤ maxSigned
              · simp [signedOf, countOf, signed?, hfits]
              · simp [signedOf, countOf, signed?, hfits]
          | decimal negative mantissa exponent => exact hzero.symm
      | _ => exact hzero.symm

theorem signedOf_bounds (v : Option Value) :
    minSigned ≤ signedOf v ∧ signedOf v ≤ maxSigned := by
  rw [signedOf_eq]
  split
  · assumption
  · decide

end Value

/-! ## One call -/

namespace ScopeCall

def apply (values : ScopeValues) : ScopeCall → ScopeValues
  | .set key v => values.set key v
  | .increment key => values.increment key

def answer (values : ScopeValues) : ScopeCall → Option Int
  | .set _ _ => none
  | .increment key => some (values.successor key)

theorem run_eq (call : ScopeCall) (s : Scratch) :
    call.run.run s = (.ok (call.answer s.values), { s with values := call.apply s.values }) := by
  cases call <;> rfl

end ScopeCall

theorem ScopeValues.successor_eq (values : ScopeValues) (key : String) :
    values.successor key = Int.bmod (Value.signedOf (values.get? key) + 1) integerCount := rfl

namespace Tally

variable {t : Tally}

theorem signedOf_value (t : Tally) : Value.signedOf t.value = t.count := by
  unfold value
  by_cases hfirst : t.increments = 0
  · obtain ⟨hlow, hhigh⟩ := Value.signedOf_bounds t.last
    rw [if_pos hfirst, count, hfirst, Int.natCast_zero, Int.add_zero,
      (Value.bmod_eq_self_iff hlow).mpr hhigh]
  · rw [if_neg hfirst, count, Value.signedOf_ofInt_bmod]

theorem successor_of_tally {values : ScopeValues} {key : String}
    (hvalue : values.get? key = t.value) :
    values.successor key = (t.after key (.increment key)).count := by
  have hafter : t.after key (.increment key) = { t with increments := t.increments + 1 } :=
    if_pos rfl
  rw [ScopeValues.successor_eq, hvalue, signedOf_value, hafter, count, count, Int.bmod_add_bmod,
    Int.natCast_succ, Int.add_assoc]

/-- A call leaves under a key what the tally of the key says. -/
theorem get?_apply {values : ScopeValues} {key : String} (hvalue : values.get? key = t.value)
    (call : ScopeCall) : (call.apply values).get? key = (t.after key call).value := by
  cases call with
  | set k v =>
      by_cases hkey : k = key
      · subst hkey
        have hafter : t.after k (.set k v) = { last := some v } := if_pos rfl
        rw [hafter]
        exact values.get?_set_self k v
      · have hafter : t.after key (.set k v) = t := if_neg hkey
        rw [hafter, ← hvalue]
        exact ScopeValues.get?_set_of_ne (Ne.symm hkey) values v
  | increment k =>
      by_cases hkey : k = key
      · subst hkey
        have hafter : t.after k (.increment k) = { t with increments := t.increments + 1 } :=
          if_pos rfl
        have hcounted : (t.after k (.increment k)).increments ≠ 0 := by
          rw [hafter]
          exact Nat.succ_ne_zero t.increments
        rw [value, if_neg hcounted, ← successor_of_tally hvalue]
        exact values.get?_set_self k _
      · have hafter : t.after key (.increment k) = t := if_neg hkey
        rw [hafter, ← hvalue]
        exact ScopeValues.get?_set_of_ne (Ne.symm hkey) values _

theorem get?_applyAll (values : ScopeValues) (key : String) (calls : List ScopeCall) :
    (calls.foldl ScopeCall.apply values).get? key =
      (ofCalls key (values.get? key) calls).value := by
  have hrun : ∀ (t : Tally) (values : ScopeValues), values.get? key = t.value →
      (calls.foldl ScopeCall.apply values).get? key = (calls.foldl (after key) t).value := by
    -- the values and the tally of the key go through the calls side by side
    induction calls with
    | nil => exact fun t values hvalue => hvalue
    | cons call rest ih => exact fun t values hvalue => ih _ _ (get?_apply hvalue call)
  exact hrun { last := values.get? key } values rfl

/-- The count is what was added up exactly as long as that fits. -/
theorem count_eq_iff (hlow : minSigned ≤ Value.countOf t.last) :
    t.count = Value.countOf t.last + t.increments ↔
      Value.countOf t.last + t.increments ≤ maxSigned := by
  unfold count
  have hlowCount : minSigned ≤ Value.countOf t.last + t.increments := by omega
  by_cases hhigh : Value.countOf t.last ≤ maxSigned
  · rw [Value.signedOf_eq, if_pos ⟨hlow, hhigh⟩]
    exact Value.bmod_eq_self_iff hlowCount
  · have hgreat : ¬ Value.countOf t.last + t.increments ≤ maxSigned := by omega
    refine iff_of_false ?_ hgreat
    intro hself
    rw [← hself] at hgreat
    exact hgreat (Value.bmod_le_maxSigned _)

end Tally

/-! ## Calls in order -/

namespace ScopeCall

theorem runAll_eq (calls : List ScopeCall) (s : Scratch) :
    ∃ answers, (runAll calls).run s =
      (.ok answers, { s with values := calls.foldl apply s.values }) := by
  induction calls generalizing s with
  | nil => exact ⟨[], rfl⟩
  | cons call rest ih =>
      obtain ⟨answers, hrest⟩ := ih { s with values := call.apply s.values }
      refine ⟨call.answer s.values :: answers, ?_⟩
      rw [runAll, Probe.run_bind, call.run_eq]
      change (runAll rest >>= fun answers => pure (call.answer s.values :: answers)).run
        { s with values := call.apply s.values } = _
      rw [Probe.run_bind, hrest]
      rfl

/-- Counters count.  After any calls, on this key and on others, an increment of a key
gives an answer and leaves it under the key, and nothing else changes.  Say that since the
key was last set to a value, or since the start, this is increment number `j`, and that the
value is the integer `n`, or none, which counts as 0: then the answer is `n + j` exactly as
long as that is at most the greatest integer of 64 bits with a sign. -/
theorem increments_count (calls : List ScopeCall) (key : String) (s : Scratch)
    (hlow : minSigned ≤ Value.countOf (Tally.ofCalls key (s.values.get? key) calls).last) :
    let t := Tally.ofCalls key (s.values.get? key) calls
    ∃ answers earlier answer later,
      (runAll calls).run s = (.ok answers, earlier) ∧
        (Probe.increment key).run earlier = (.ok answer, later) ∧
        later.values.get? key = some (.ofInt answer) ∧
        (∀ other, other ≠ key → later.values.get? other = earlier.values.get? other) ∧
        later.journal = earlier.journal ∧
        (answer = Value.countOf t.last + (t.increments + 1) ↔
          Value.countOf t.last + (t.increments + 1) ≤ maxSigned) := by
  intro t
  obtain ⟨answers, hanswers⟩ := runAll_eq calls s
  have hfound := Tally.get?_applyAll s.values key calls
  have hanswer := Tally.successor_of_tally hfound
  have hafter : t.after key (.increment key) = { t with increments := t.increments + 1 } :=
    if_pos rfl
  rw [hafter] at hanswer
  refine ⟨answers, _, _, _, hanswers, rfl, ScopeValues.get?_set_self _ _ _,
    fun other hother => ScopeValues.get?_set_of_ne hother _ _, rfl, ?_⟩
  rw [hanswer]
  exact Tally.count_eq_iff hlow

/-- Two calls on another key and one count lie between setting the key to two less than
the greatest signed integer and the count that reaches it. -/
def nearlyFull : List ScopeCall :=
  [.set "visits" (.ofInt 9223372036854775805), .increment "other", .increment "visits",
   .set "other" (.string "busy")]

theorem nearlyFull_counts :
    minSigned ≤ Value.countOf (Tally.ofCalls "visits" none nearlyFull).last ∧
      ∃ answers earlier later,
        (runAll nearlyFull).run {} = (.ok answers, earlier) ∧
          (Probe.increment "visits").run earlier = (.ok maxSigned, later) ∧
          later.values.get? "visits" = some (.ofInt maxSigned) ∧
          later.values.get? "other" = earlier.values.get? "other" := by
  have hlow : minSigned ≤ Value.countOf (Tally.ofCalls "visits" none nearlyFull).last := by
    decide
  obtain ⟨answers, earlier, answer, later, hrun, hincrement, hstored, hothers, _, hanswer⟩ :=
    increments_count nearlyFull "visits" {} hlow
  obtain rfl : answer = maxSigned := hanswer.mpr (by decide)
  exact ⟨hlow, answers, earlier, later, hrun, hincrement, hstored, hothers "other" (by decide)⟩

/-- Counting does not go on from an integer that is great enough to need all 64 bits for
itself: it starts over, and the count is lower than what was there. -/
theorem unsigned_count_starts_over :
    let great : Value := .ofInt 9223372036854775808
    let counting := (runAll [.set "visits" great, .increment "visits"]).run {}
    Value.countOf (Tally.ofCalls "visits" none [.set "visits" great]).last + 1 =
        9223372036854775809 ∧
      counting.1 = .ok [none, some 1] ∧
      counting.2.values.get? "visits" = some (.ofInt 1) :=
  ⟨rfl, rfl, rfl⟩

end ScopeCall

end PushGoals
