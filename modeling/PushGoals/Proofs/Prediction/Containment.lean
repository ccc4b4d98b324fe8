import PushGoals.Proofs.Prediction.Walk

/-!
# Predictions over shared scopes

Nodes may write to the scope, and rules may ask for what they have written.  A node
whose guard lacks data is looked behind all the same, and its hook has then run in the
pass that predicts, though no later pass need ever come to it.  So predictions come
true if nodes are contained: what is written where an evaluation may fail is seen by
what stands behind the same hook and by nothing else.

Without that a later chain is predicted by what the hook of an undecided node has
left: as definite, although the node may turn out not to apply.
-/

namespace PushGoals

variable {keys : Set String} {ctx later : Context} {policy : FailurePolicy}

namespace Decider

variable {decider : Decider}

/-- What predictions for `ctx` ask of rules that share a scope: each is contained, what
it writes where it may fail is not among `keys`, and remembered tests keep off the
scope. -/
structure Sealed (decider : Decider) (ctx : Context) (keys : Set String) : Prop where
  contained : ∀ rule ∈ decider.chains, rule.Contained ctx keys
  discreet : ∀ rule ∈ decider.chains, rule.Discreet (NeverFails ctx) keys
  detached : ∀ guard ∈ decider.chains.flatMap Rule.remembered, guard.Every Detached
  stable : ∀ guard ∈ decider.chains.flatMap Rule.remembered, guard.Every Stable
  sameNamed : Guard.SameNamed (decider.chains.flatMap Rule.remembered)

theorem Sealed.dependable (hrules : decider.Sealed ctx keys) :
    Guard.Dependable (decider.chains.flatMap Rule.remembered) where
  detached := hrules.detached
  stable := hrules.stable
  sameNamed := hrules.sameNamed
  within := Rule.remembered_within

theorem Sealed.foreseen (hrules : decider.Sealed ctx keys) (hmore : ctx.ExtendedBy later) :
    ∀ rule ∈ decider.chains, rule.Foreseen ctx later
      (decider.chains.flatMap Rule.remembered) policy keys := by
  intro rule hrule
  have hmem : rule.remembered ⊆ decider.chains.flatMap Rule.remembered :=
    fun guard hguard => List.mem_flatMap_of_mem hrule hguard
  have hcontained := hrules.contained rule hrule
  refine ⟨hmem, hcontained, hrules.discreet rule hrule, ?_⟩
  intro e p q hpq hfails
  exact Rule.classifyFailed_foretells hrules.dependable hmore hmem hcontained
    ((hrules.discreet rule hrule).leaves_of_fails hfails) e p q hpq hfails

/-- A chain that leaves a value for the last one, and a node whose guard asks for the
branch and whose hook is seen behind it only. -/
def announcing : Decider where
  chains :=
    [.leaf "announce" (.test .onAnyPush) (some fun _ => Probe.set "announced" (.bool true))
      ⟨"announce", [.ofName "announce"], false⟩,
     .branch "release" (.test (.toBranch "main")) (some fun _ => Probe.set "ready" (.bool true))
      [.fixed (.test (.scopeHolds "ready" (.bool true))) none
        ⟨"release", [.ofName "release"], false⟩],
     .fixed (.test (.scopeHolds "announced" (.bool true))) none
      ⟨"deliver", [.ofName "deploy"], false⟩]

theorem announcing_sealed : announcing.Sealed .empty {"announced"} where
  contained := by
    have hreads {keys : Set String} {key : String} (hkey : key ∈ keys) (v : Value) :
        (Guard.test (.scopeHolds key v)).ShowsAhead .empty keys keys :=
      fun _ _ => ⟨le_refl _, (PushTest.scopeHolds_shows hkey v).of_same fun _ => SuccessKept.rfl⟩
    have hwrites {keys : Set String} (key : String) (v : Value) :
        Rule.HookForeruns .empty keys (insert key keys) (some fun _ => Probe.set key v) := by
      intro _ _ s t hagree a ha
      obtain ⟨hanswer, hthen⟩ := Probe.Shows.set key v s t hagree
      exact ⟨hanswer.symm.trans ha, hthen⟩
    have hbranch : (Guard.test (.toBranch "main")).ShowsAhead .empty {"announced"}
        {"announced"} :=
      fun later hmore => ⟨le_refl _, .of_detached (PushTest.toBranch_detached "main")
        ((PushTest.toBranch_lasting "main").stable .empty later hmore).success⟩
    apply Rule.containedAmong_iff.mp
    refine ⟨?_, ?_, ?_, trivial⟩
    · refine ⟨{"announced"}, fun _ _ => ⟨le_refl _, ?_⟩, ?_⟩
      · exact (Probe.Shows.pure true).of_same fun _ => SuccessKept.rfl
      · have hwritten : Rule.HookForeruns .empty {"announced"} (insert "announced" {"announced"})
            (some fun _ => Probe.set "announced" (.bool true)) := hwrites _ _
        rwa [Set.insert_eq_of_mem (Set.mem_singleton _)] at hwritten
    · refine ⟨{"announced"}, {"ready", "announced"}, Set.subset_insert _ _, hbranch,
        hwrites "ready" (.bool true), ⟨⟨_, hreads (Set.mem_insert _ _) _⟩, trivial⟩, .inr ?_⟩
      exact ⟨PushTest.scopeHolds_leaves _ _, trivial⟩
    · exact ⟨_, hreads (Set.mem_singleton _) _⟩
  discreet := by
    have hother : "ready" ∉ ({"announced"} : Set String) := by
      rw [Set.mem_singleton_iff]
      decide
    refine List.forall_mem_cons.mpr ⟨.inl ?_, List.forall_mem_cons.mpr ⟨.inr ?_,
      List.forall_mem_singleton.mpr (.inr (PushTest.scopeHolds_leaves _ _))⟩⟩
    · refine ⟨fun _ => ⟨true, rfl⟩, ?_⟩
      rintro _ ⟨⟩ scratch
      exact ⟨(), rfl⟩
    · refine ⟨PushTest.toBranch_leaves _, ?_, PushTest.scopeHolds_leaves _ _, trivial⟩
      rintro _ ⟨⟩
      exact Leaves.set hother _
  detached _ hguard := nomatch hguard
  stable _ hguard := nomatch hguard
  sameNamed _ hguard := nomatch hguard

/-- A node with an undecided guard, and a chain that asks for what its hook writes. -/
def leaking : Decider where
  chains :=
    [.leaf "release" (.test (.toBranch "main")) (some fun _ => Probe.set "ready" (.bool true))
      ⟨"release", [.ofName "release"], false⟩,
     .fixed (.test (.scopeHolds "ready" (.bool true))) none
      ⟨"deliver", [.ofName "deploy"], false⟩]

end Decider

end PushGoals
