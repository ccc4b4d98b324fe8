import PushGoals.Proofs.Bookkeeping
import PushGoals.Proofs.Rule.Isolation

/-!
# What rules enter in the books

`Rule.consulted` lists the memoized guards that are evaluated for a known push in the
evaluation of a rule from a given pass.  A sequence gets to its next rule when the one
before it did not match, an enriched rule to its extension when the base is neither
locked nor in error, and a decision node to its children when its guard has passed and
its hook has run.
-/

namespace PushGoals.Rule

variable {V : Type} [Contribution V] {plain : Prop} (ctx : Context)

mutual

/-- The memoized guards that are evaluated for a known push when a rule is evaluated from
`p`, in order. -/
def consulted : Rule V → Pass → List Guard
  | .fixed guard _ _, p => guard.consulted ctx p
  | .halting guard _, p => guard.consulted ctx p
  | .computed _ guard _ _, p => guard.consulted ctx p
  | .firstMatch _ rules, p => consultedFirst rules p
  | .allMatches _ contributors, p => consultedEach contributors p
  | .enriched _ base extension, p =>
      consulted base p ++
        (supervise base (eval ctx base)).following
          (fun given q => if closed given.value? then [] else consulted extension q) p
  | .leaf _ guard _ _, p => guard.consulted ctx p
  | .branch _ guard hook children, p =>
      guard.consulted ctx p ++
        (enters ctx guard hook).following
          (fun entered q => if entered then consultedFirst children q else []) p
  | .mapped _ inner, p => consulted inner p
  | .custom .., _ => []

def consultedFirst : List (Rule V) → Pass → List Guard
  | [], _ => []
  | rule :: rest, p =>
      consulted rule p ++
        (supervise rule (eval ctx rule)).following
          (fun outcome q =>
            match outcome with
            | .noMatch => consultedFirst rest q
            | .matched _ | .halt => []) p

def consultedEach : List (Rule V) → Pass → List Guard
  | [], _ => []
  | rule :: rest, p =>
      consulted rule p ++
        consultedEach rest ((supervise rule (eval ctx rule)).run.run p).2

end

variable {ctx}

theorem supervise_books {rule : Rule V} (hrule : Eval.Books plain (rule.consulted ctx) (rule.eval ctx)) :
    Eval.Books plain (rule.consulted ctx) (supervise rule (eval ctx rule)) :=
  Eval.Books.supervised (fun _ => rfl) hrule

omit [Contribution V] in
theorem runHook_books {hook : Option Hook}
    (hplain : plain → ∀ work, hook = some work → RecordsNothing work) (ctx : Context) :
    Eval.Books plain nothingConsulted (runHook hook ctx) := by
  cases hook with
  | none => exact .ok ()
  | some work => exact .ofProbe (fun h => hplain h work rfl) ctx

theorem enters_books {guard : Guard} {hook : Option Hook}
    (hguard : plain → guard.Every RecordsNothing)
    (hhook : plain → ∀ work, hook = some work → RecordsNothing work) :
    Eval.Books plain (guard.consulted ctx) (enters ctx guard hook) := by
  refine (Guard.passes_books ctx hguard).bind_none fun passed => ?_
  cases passed with
  | true => exact (runHook_books hhook ctx).bind_none fun _ => .ok true
  | false => exact .ok false

/-- A decision node is entered or not, and then gives what its children give. -/
theorem branch_eq_enters (name : String) (guard : Guard) (hook : Option Hook)
    (children : List (Rule V)) :
    eval ctx (.branch name guard hook children) =
      enters ctx guard hook >>= fun entered =>
        if entered then evalFirst ctx children else pure .noMatch := by
  rw [eval, enters, bind_assoc]
  refine congrArg _ (funext fun passed => ?_)
  cases passed with
  | true =>
      simp only [if_true, bind_assoc, pure_bind]
  | false => rfl

theorem evalFirst_books {rules : List (Rule V)}
    (hrules : ∀ rule ∈ rules, Eval.Books plain (rule.consulted ctx) (rule.eval ctx)) :
    Eval.Books plain (consultedFirst ctx rules) (evalFirst ctx rules) := by
  induction rules with
  | nil => exact .ok (.noMatch : Outcome V)
  | cons rule rest ih =>
      obtain ⟨hrule, hrest⟩ := List.forall_mem_cons.mp hrules
      refine (supervise_books hrule).bind
        (fun outcome q =>
          match outcome with
          | .noMatch => consultedFirst ctx rest q
          | .matched _ | .halt => [])
        fun outcome => ?_
      cases outcome with
      | matched value => exact .ok _
      | noMatch => exact ih hrest
      | halt => exact fun p => ⟨_, .emit (e := .ruleHalted _) trivial rfl p⟩

theorem superviseEach_books {rules : List (Rule V)}
    (hrules : ∀ rule ∈ rules, Eval.Books plain (rule.consulted ctx) (rule.eval ctx)) :
    Work.Books plain (consultedEach ctx rules) (Eval.settle (superviseEach ctx rules)) := by
  induction rules with
  | nil => exact .pure []
  | cons rule rest ih =>
      obtain ⟨hrule, hrest⟩ := List.forall_mem_cons.mp hrules
      exact (supervise_books hrule).settle_cons (ih hrest)

theorem eval_books (ctx : Context) {rule : Rule V} (hplain : plain → rule.Every RecordsNothing) :
    Eval.Books plain (rule.consulted ctx) (rule.eval ctx) := by
  have hguarded {guard : Guard} (hplain : plain → guard.Every RecordsNothing)
      {value other : Outcome V} :
      Eval.Books plain (guard.consulted ctx)
        (do if ← guard.passes ctx then return value else return other) := by
    refine (Guard.passes_books ctx hplain).bind_none fun passed => ?_
    cases passed <;> exact .ok _
  have hmembers {rules : List (Rule V)}
      (ih : ∀ rule ∈ rules, (plain → rule.Every RecordsNothing) →
        Eval.Books plain (rule.consulted ctx) (rule.eval ctx))
      (hplain : plain → EveryAmong RecordsNothing rules) :
      ∀ rule ∈ rules, Eval.Books plain (rule.consulted ctx) (rule.eval ctx) :=
    fun rule hrule => ih rule hrule fun h => everyAmong_iff.mp (hplain h) rule hrule
  induction rule using Rule.induct with
  | fixed guard reason value => exact hguarded hplain
  | halting guard reason => exact hguarded hplain
  | computed key guard reason compute =>
      refine (Guard.passes_books ctx fun h => (hplain h).1).bind_none fun passed => ?_
      cases passed with
      | true =>
          refine (Eval.Books.ofProbe (fun h => (hplain h).2 _) ctx).bind_none
            fun (name, value) => ?_
          exact (Eval.Books.learn key name).bind_none fun _ => .ok _
      | false => exact .ok _
  | firstMatch name rules ih => exact evalFirst_books (hmembers ih hplain)
  | allMatches name contributors ih =>
      exact (Eval.Books.allSettled (superviseEach_books (hmembers ih hplain))).map _
  | enriched name base extension ihBase ihExtension =>
      refine (supervise_books (ihBase fun h => (hplain h).1)).bind
        (fun given q => if closed given.value? then [] else extension.consulted ctx q)
        fun given => ?_
      cases closed given.value? with
      | true => exact .ok _
      | false => exact (supervise_books (ihExtension fun h => (hplain h).2)).map _
  | leaf name guard hook value =>
      refine (Guard.passes_books ctx fun h => (hplain h).1).bind_none fun passed => ?_
      cases passed with
      | true => exact (runHook_books (fun h => (hplain h).2) ctx).bind_none fun _ => .ok _
      | false => exact .ok _
  | branch name guard hook children ih =>
      rw [branch_eq_enters]
      refine (enters_books (fun h => (hplain h).1) fun h => (hplain h).2.1).bind
        (fun entered q => if entered then consultedFirst ctx children q else [])
        fun entered => ?_
      cases entered with
      | true => exact evalFirst_books (hmembers ih fun h => (hplain h).2.2)
      | false => exact .ok _
  | mapped f inner ih => exact (ih hplain).map _
  | custom name cost run => exact .ofProbe hplain ctx

end PushGoals.Rule
