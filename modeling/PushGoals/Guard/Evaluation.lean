import PushGoals.Guard.Basic
import PushGoals.Engine

/-!
# Evaluating guards

All parts of a formula are evaluated, in order and without a short cut, even
after one has failed or settled the answer.  A failure of a part is then a
failure of the formula, the first one counting; otherwise a part that does not
apply or halts counts as false.

Without a push identity there is nothing to file an answer under: such an
evaluation neither reads nor fills a cache.
-/

namespace PushGoals

namespace Eval

/-- Look an answer up, counting a hit or a miss. -/
def lookUp (ref : CacheRef) (key : CacheKey) : Work (Option Bool) := do
  let p ← get
  let (hit, cache) := (p.engine.caches.get ref).get key
  let engine := { p.engine with caches := p.engine.caches.set ref cache }
  set { p with engine := engine.count (if hit.isSome then .cacheHits else .cacheMisses) }
  return hit

def remember (ref : CacheRef) (key : CacheKey) (v : Bool) : Work Unit :=
  modify fun p =>
    let cache := (p.engine.caches.get ref).insert key v
    { p with engine := { p.engine with caches := p.engine.caches.set ref cache } }

/-- A step whose matches are remembered for the push of `ctx`. -/
def memoized (ctx : Context) (ref : CacheRef) (name : String) (step : Eval (Outcome Bool)) :
    Eval (Outcome Bool) :=
  match ctx.id with
  | none => step
  | some id => do
      match ← lookUp ref ⟨id, name⟩ with
      | some v => return .matched v
      | none =>
          let outcome ← step
          match outcome with
          | .matched v => remember ref ⟨id, name⟩ v
          | _ => pure ()
          return outcome

end Eval

namespace Guard

mutual

def eval (ctx : Context) : Guard → Eval (Outcome Bool)
  | .test t => do
      let answer ← Eval.ofProbe (t.run ctx)
      return .matched answer
  | .custom _ _ run => Eval.ofProbe (run ctx)
  | .all parts => do
      let answers ← Eval.allSettled (evalEach ctx parts)
      return .matched (answers.all Outcome.passes)
  | .any parts => do
      let answers ← Eval.allSettled (evalEach ctx parts)
      return .matched (answers.any Outcome.passes)
  | .negation inner => do
      let answer ← eval ctx inner
      return .matched (!answer.passes)
  | .memo cache inner => Eval.memoized ctx cache inner.name (eval ctx inner)
  | .prepared preparations inner => do
      Eval.ofProbe (modify (Preparation.runAll preparations))
      eval ctx inner
  | .mapped f inner => do
      let answer ← eval ctx inner
      return answer.map f

/-- The evaluations of guards, not yet run. -/
def evalEach (ctx : Context) : List Guard → List (Eval (Outcome Bool))
  | [] => []
  | g :: rest => eval ctx g :: evalEach ctx rest

end

def passes (guard : Guard) (ctx : Context) : Eval Bool := do
  let answer ← guard.eval ctx
  return answer.passes

end Guard

end PushGoals
