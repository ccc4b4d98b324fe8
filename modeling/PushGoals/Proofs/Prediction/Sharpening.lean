import Mathlib.Data.List.Forall2
import PushGoals.Proofs.Prediction.Observers

/-!
# Sharper forecasts

One forecast is sharpened by another when nothing that it promises is taken back:
what is definite stays definite, a certain lock stays certain, and where no road
was unknown there comes up no new road and no new name.  A possible lock may
vanish but not appear, and an empty forecast stays empty.

Everything that forecasts are put together with keeps this order.  The forecast
of a known result is the sharpest of all, so the order also says when a forecast
comes true.
-/

namespace PushGoals
namespace Forecast

/-- `g` comes from knowing more than what led to `f`. -/
structure SharpenedBy (f g : Forecast) : Prop where
  definite : ∀ name ∈ f.definiteNames, name ∈ g.definiteNames
  locks : f.locks = true → g.locks = true
  mayLock : g.mayLock = true → f.mayLock = true
  known : f.unknown = [] → g.unknown = []
  named : f.unknown = [] → ∀ name ∈ g.names, name ∈ f.names
  empty : f.isEmpty = true → g.isEmpty = true

namespace SharpenedBy

variable {f f' g g' h : Forecast}

theorem refl (f : Forecast) : f.SharpenedBy f :=
  ⟨fun _ hn => hn, id, id, id, fun _ _ hn => hn, id⟩

theorem trans (hfg : f.SharpenedBy g) (hgh : g.SharpenedBy h) : f.SharpenedBy h where
  definite name hname := hgh.definite name (hfg.definite name hname)
  locks hlocks := hgh.locks (hfg.locks hlocks)
  mayLock hmay := hfg.mayLock (hgh.mayLock hmay)
  known hknown := hgh.known (hfg.known hknown)
  named hknown name hname := hfg.named hknown name (hgh.named (hfg.known hknown) name hname)
  empty hempty := hgh.empty (hfg.empty hempty)

theorem merge (hf : f.SharpenedBy f') (hg : g.SharpenedBy g') :
    (f.merge g).SharpenedBy (f'.merge g') where
  definite name hname := by
    rw [mem_definiteNames_merge] at hname ⊢
    exact hname.imp (hf.definite name) (hg.definite name)
  locks hlocks := by
    rw [locks_merge, Bool.or_eq_true] at hlocks ⊢
    exact hlocks.imp hf.locks hg.locks
  mayLock hmay := by
    rw [mayLock_merge, Bool.or_eq_true] at hmay ⊢
    exact hmay.imp hf.mayLock hg.mayLock
  known hknown := by
    rw [unknown_merge, List.append_eq_nil_iff] at hknown ⊢
    exact ⟨hf.known hknown.1, hg.known hknown.2⟩
  named hknown name hname := by
    rw [unknown_merge, List.append_eq_nil_iff] at hknown
    rw [mem_names_merge] at hname ⊢
    exact hname.imp (hf.named hknown.1 name) (hg.named hknown.2 name)
  empty hempty := by
    rw [isEmpty_merge, Bool.and_eq_true] at hempty ⊢
    exact ⟨hf.empty hempty.1, hg.empty hempty.2⟩

theorem of_definite_nil (hdefinite : f.definite = [])
    (hmayLock : g.mayLock = true → f.mayLock = true)
    (hknown : f.unknown = [] → g.unknown = [])
    (hnamed : f.unknown = [] → ∀ name ∈ g.names, name ∈ f.names)
    (hempty : f.isEmpty = true → g.isEmpty = true) : f.SharpenedBy g where
  definite name hname := by
    unfold definiteNames at hname
    rw [hdefinite] at hname
    cases hname
  locks hlocks := by
    unfold Forecast.locks at hlocks
    rw [hdefinite] at hlocks
    cases hlocks
  mayLock := hmayLock
  known := hknown
  named := hnamed
  empty := hempty

theorem demote_left (hf : f.SharpenedBy g) : f.demote.SharpenedBy g := by
  refine of_definite_nil rfl ?_ hf.known ?_ ?_
  · intro hmay
    rw [mayLock_demote]
    exact hf.mayLock hmay
  · intro hknown name hname
    exact mem_names_demote.mpr (hf.named hknown name hname)
  · intro hempty
    rw [isEmpty_demote] at hempty
    exact hf.empty hempty

theorem demote (hf : f.SharpenedBy g) : f.demote.SharpenedBy g.demote := by
  refine of_definite_nil rfl ?_ hf.known ?_ ?_
  · intro hmay
    rw [mayLock_demote] at hmay ⊢
    exact hf.mayLock hmay
  · intro hknown name hname
    exact mem_names_demote.mpr (hf.named hknown name (mem_names_demote.mp hname))
  · intro hempty
    rw [isEmpty_demote] at hempty ⊢
    exact hf.empty hempty

theorem nothing (hdefinite : f.definite = []) : f.SharpenedBy nothing := by
  refine of_definite_nil hdefinite ?_ (fun _ => rfl) ?_ (fun _ => rfl)
  · intro hmay
    cases hmay
  · intro _ name hname
    cases hname

/-- Where a road is unknown and nothing definite, anything may turn out. -/
theorem of_unknown (hdefinite : f.definite = []) (hunknown : f.unknown ≠ []) :
    f.SharpenedBy g := by
  refine of_definite_nil hdefinite ?_ (fun hknown => absurd hknown hunknown)
    (fun hknown => absurd hknown hunknown) ?_
  · intro _
    simp [Forecast.mayLock, hunknown]
  · intro hempty
    simp [isEmpty, hunknown] at hempty

theorem road (name reason : String) : (Forecast.road name reason).SharpenedBy g :=
  of_unknown rfl (List.cons_ne_nil _ _)

theorem withRoad (f : Forecast) (name reason : String) :
    (f.demote.withRoad name reason).SharpenedBy g := by
  apply of_unknown rfl
  simp [Forecast.withRoad]

/-! ## A head that may match -/

theorem orElse_tail (head : Forecast) (htail : f.SharpenedBy g) :
    (head.orElse f).SharpenedBy g := by
  by_cases hhead : head.isEmpty = true
  · rw [orElse_of_isEmpty hhead]
    exact htail
  · rw [Bool.not_eq_true] at hhead
    refine of_definite_nil (definite_orElse hhead f) ?_ ?_ ?_ ?_
    · intro hmay
      rw [mayLock_orElse hhead, htail.mayLock hmay, Bool.or_true]
    · intro hknown
      rw [unknown_orElse hhead, List.append_eq_nil_iff] at hknown
      exact htail.known hknown.2
    · intro hknown name hname
      rw [unknown_orElse hhead, List.append_eq_nil_iff] at hknown
      exact (mem_names_orElse hhead f).mpr (.inr (htail.named hknown.2 name hname))
    · intro hempty
      rw [isEmpty_orElse hhead] at hempty
      cases hempty

theorem stands (hf : f.SharpenedBy g) (hstands : g.isEmpty = false) : f.isEmpty = false := by
  by_contra hempty
  rw [Bool.not_eq_false] at hempty
  rw [hf.empty hempty] at hstands
  cases hstands

theorem orElse_head (hhead : f.SharpenedBy g) (hstands : g.isEmpty = false) (tail : Forecast) :
    (f.orElse tail).SharpenedBy g := by
  have hf : f.isEmpty = false := hhead.stands hstands
  refine of_definite_nil (definite_orElse hf tail) ?_ ?_ ?_ ?_
  · intro hmay
    rw [mayLock_orElse hf, hhead.mayLock hmay, Bool.true_or]
  · intro hknown
    rw [unknown_orElse hf, List.append_eq_nil_iff] at hknown
    exact hhead.known hknown.1
  · intro hknown name hname
    rw [unknown_orElse hf, List.append_eq_nil_iff] at hknown
    exact (mem_names_orElse hf tail).mpr (.inl (hhead.named hknown.1 name hname))
  · intro hempty
    rw [isEmpty_orElse hf] at hempty
    cases hempty

theorem orElse (hhead : f.SharpenedBy f') (htail : g.SharpenedBy g') :
    (f.orElse g).SharpenedBy (f'.orElse g') := by
  by_cases hempty : f'.isEmpty = true
  · rw [orElse_of_isEmpty hempty]
    exact htail.orElse_tail f
  · rw [Bool.not_eq_true] at hempty
    have hf : f.isEmpty = false := hhead.stands hempty
    refine of_definite_nil (definite_orElse hf g) ?_ ?_ ?_ ?_
    · intro hmay
      rw [mayLock_orElse hempty, Bool.or_eq_true] at hmay
      rw [mayLock_orElse hf, Bool.or_eq_true]
      exact hmay.imp hhead.mayLock htail.mayLock
    · intro hknown
      rw [unknown_orElse hf, List.append_eq_nil_iff] at hknown
      rw [unknown_orElse hempty, List.append_eq_nil_iff]
      exact ⟨hhead.known hknown.1, htail.known hknown.2⟩
    · intro hknown name hname
      rw [unknown_orElse hf, List.append_eq_nil_iff] at hknown
      rw [mem_names_orElse hempty] at hname
      rw [mem_names_orElse hf]
      exact hname.imp (hhead.named hknown.1 name) (htail.named hknown.2 name)
    · intro hempty
      rw [isEmpty_orElse hf] at hempty
      cases hempty

/-! ## Contributions in order -/

/-- After a possible lock the later contributions add nothing definite, so the
forecast made before them is one that they may be cut down to. -/
theorem addUp_after_lock (f : Forecast) (rest : List Forecast) :
    (f.addUp true rest).SharpenedBy f := by
  induction rest generalizing f with
  | nil => exact refl f
  | cons next rest ih =>
      have hmerge : (f.merge next.demote).SharpenedBy f := {
        definite := fun name hname => by
          rw [mem_definiteNames_merge] at hname
          exact hname.resolve_right List.not_mem_nil
        locks := fun hlocks => by
          rw [locks_merge, locks_demote, Bool.or_false] at hlocks
          exact hlocks
        mayLock := fun hmay => by
          rw [mayLock_merge, hmay, Bool.true_or]
        known := fun hknown => by
          rw [unknown_merge, List.append_eq_nil_iff] at hknown
          exact hknown.1
        named := fun _ name hname => mem_names_merge.mpr (.inl hname)
        empty := fun hempty => by
          rw [isEmpty_merge, Bool.and_eq_true] at hempty
          exact hempty.1 }
      exact (ih (f.merge next.demote)).trans hmerge

/-- Contributions that are sharpened one by one are sharpened together.  The
sharper merge may end earlier, but only after a lock that was possible before. -/
theorem addUp {fs gs : List Forecast} (heach : List.Forall₂ SharpenedBy fs gs)
    (hf : f.SharpenedBy g) {fLock gLock : Bool} (hlock : gLock = true → fLock = true) :
    (f.addUp fLock fs).SharpenedBy (g.addUp gLock gs) := by
  induction heach generalizing f g fLock gLock with
  | nil => exact hf
  | @cons next next' fs gs hnext _ ih =>
      have hcounted : SharpenedBy (if fLock then next.demote else next)
          (if gLock then next'.demote else next') := by
        cases gLock with
        | true =>
            rw [hlock rfl]
            exact hnext.demote
        | false =>
            cases fLock with
            | true => exact hnext.demote_left
            | false => exact hnext
      simp only [Forecast.addUp]
      generalize (if fLock then next.demote else next) = counted at hcounted ⊢
      generalize (if gLock then next'.demote else next') = counted' at hcounted ⊢
      have hmerged : (f.merge counted).SharpenedBy (g.merge counted') := hf.merge hcounted
      by_cases hlocks : counted.locks = true
      · rw [if_pos hlocks, if_pos (hcounted.locks hlocks)]
        exact hmerged
      · rw [if_neg hlocks]
        by_cases hlocks' : counted'.locks = true
        · rw [if_pos hlocks', hcounted.mayLock (mayLock_of_locks hlocks'), Bool.or_true]
          exact (addUp_after_lock (f.merge counted) fs).trans hmerged
        · rw [if_neg hlocks']
          apply ih hmerged
          intro hmay
          rw [Bool.or_eq_true] at hmay ⊢
          exact hmay.imp hlock hcounted.mayLock

/-! ## Known results -/

theorem of_joins {sets : List GoalSet} {given : Option GoalSet}
    (hjoins : GoalSet.Joins sets given) :
    SharpenedBy { definite := union [] (GoalSet.untilLocked sets) } (settled given) := by
  have hnames (name : String) :
      name ∈ (union [] (GoalSet.untilLocked sets)).flatMap GoalSet.uniqueNames ↔
        name ∈ GoalSet.namesOf given := by
    rw [mem_names_union, hjoins.names]
    simp
  have hlocks : (union [] (GoalSet.untilLocked sets)).any (·.locked) = Rule.closed given := by
    rw [any_locked_union, GoalSet.any_locked_untilLocked, hjoins.closed]
    rfl
  refine ⟨?_, ?_, ?_, ?_, ?_, ?_⟩
  · intro name hname
    rw [definiteNames_settled]
    exact (hnames name).mp hname
  · intro hcertain
    rw [locks_settled, ← hlocks]
    exact hcertain
  · intro hmay
    rw [mayLock_settled, ← hlocks] at hmay
    exact mayLock_of_locks hmay
  · exact fun _ => unknown_settled given
  · intro _ name hname
    rw [names_settled] at hname
    simp only [names, List.append_nil]
    exact (hnames name).mpr hname
  · intro hempty
    have hunion : (union [] (GoalSet.untilLocked sets)).isEmpty = true := by
      simp only [isEmpty, Bool.and_eq_true] at hempty
      exact hempty.1.1
    rw [isEmpty_union, List.isEmpty_nil, Bool.true_and, List.isEmpty_iff] at hunion
    rw [hjoins.none (GoalSet.untilLocked_eq_nil_iff.mp hunion)]
    rfl

/-- Forecasts of contributions add up to one that the joint result sharpens. -/
theorem addUp_joined {fs : List Forecast} {results : List (Option GoalSet)}
    (heach : List.Forall₂ SharpenedBy fs (results.map settled)) {given : Option GoalSet}
    (hjoins : GoalSet.Joins (results.filterMap id) given) :
    (Forecast.nothing.addUp false fs).SharpenedBy (settled given) := by
  have htogether : (Forecast.nothing.addUp false fs).SharpenedBy
      (Forecast.nothing.addUp false (results.map settled)) :=
    addUp heach (refl Forecast.nothing) id
  rw [addUp_settled] at htogether
  exact htogether.trans (of_joins hjoins)

theorem addUp_closed {given : Option GoalSet} (hf : f.SharpenedBy (settled given))
    (hclosed : Rule.closed given = true) (fs : List Forecast) :
    (Forecast.nothing.addUp false (f :: fs)).SharpenedBy (settled given) := by
  have htogether : (Forecast.nothing.addUp false (f :: fs)).SharpenedBy
      (Forecast.nothing.addUp false (settled given :: fs)) :=
    addUp (.cons hf (List.forall₂_same.mpr fun next _ => refl next)) (refl Forecast.nothing) id
  have hends : Forecast.nothing.addUp false (settled given :: fs) =
      Forecast.nothing.addUp false ([given].map settled) := by
    simp [Forecast.addUp, hclosed]
  rw [hends, addUp_settled] at htogether
  exact htogether.trans (of_joins (GoalSet.joins_self given))

end SharpenedBy
end Forecast
end PushGoals
