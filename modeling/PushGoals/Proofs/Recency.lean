import Mathlib.Data.List.Dedup
import PushGoals.Proofs.Guard.Memory

/-!
# The cache keeps what was used last

A run of accesses on a fresh cache leaves a mark for each access, the newest first.
The marks alone tell what an unbounded table would hold, the most recently used
entry first; the cache holds the front of that table, as much of it as there is room
for.  So a key is found exactly when it was stored since the cache was last cleared
and fewer other keys than there is room for were used since the key was.
-/

namespace PushGoals
namespace PushTestCache

/-- A call on a cache. -/
inductive Access where
  | get (key : CacheKey)
  | insert (key : CacheKey) (v : Bool)
  | clear

/-- What an access came to. -/
inductive Mark where
  | stored (key : CacheKey) (v : Bool)
  | hit (key : CacheKey) (v : Bool)
  | missed (key : CacheKey)
  | cleared
deriving DecidableEq

namespace Mark

/-- The key that was stored or found. -/
def used? : Mark → Option CacheKey
  | stored key _ => some key
  | hit key _ => some key
  | missed _ => none
  | cleared => none

/-- The value that was stored under a key. -/
def storedAt? (key : CacheKey) : Mark → Option Bool
  | stored other v => if other = key then some v else none
  | hit _ _ => none
  | missed _ => none
  | cleared => none

end Mark

/-- The cache that an access leaves and what the access came to. -/
def access (cache : PushTestCache) : Access → PushTestCache × Mark
  | .get key =>
      match (cache.get key).1 with
      | some v => ((cache.get key).2, .hit key v)
      | none => ((cache.get key).2, .missed key)
  | .insert key v => (cache.insert key v, .stored key v)
  | .clear => (cache.clear, .cleared)

/-- One more access, its mark put in front of the earlier ones. -/
def step (state : PushTestCache × List Mark) (call : Access) : PushTestCache × List Mark :=
  ((state.1.access call).1, (state.1.access call).2 :: state.2)

/-- A fresh cache after a run of accesses, and the marks of these, newest first. -/
def run (capacity : Nat) (calls : List Access) : PushTestCache × List Mark :=
  calls.foldl step (ofCapacity capacity, [])

/-! ## What the marks tell -/

/-- The value stored last under the key since the cache was last cleared. -/
def lastStored? (marks : List Mark) (key : CacheKey) : Option Bool :=
  (marks.takeWhile (· != .cleared)).findSome? (Mark.storedAt? key)

/-- The keys stored or found since this one was, newest first. -/
def usedSince (marks : List Mark) (key : CacheKey) : List CacheKey :=
  (marks.filterMap Mark.used?).takeWhile (· != key)

/-- The table that a cache without bounds holds, the most recently used entry
first. -/
def recent : List Mark → List (CacheKey × Bool)
  | [] => []
  | .stored key v :: earlier => (key, v) :: without key (recent earlier)
  | .hit key v :: earlier => (key, v) :: without key (recent earlier)
  | .missed _ :: earlier => recent earlier
  | .cleared :: _ => []

/-- What was found is what had been stored. -/
def Warranted : List Mark → Prop
  | [] => True
  | .hit key v :: earlier => lastStored? earlier key = some v ∧ Warranted earlier
  | .stored _ _ :: earlier => Warranted earlier
  | .missed _ :: earlier => Warranted earlier
  | .cleared :: earlier => Warranted earlier

section Marks

variable {key other : CacheKey} {v w : Bool} {earlier marks : List Mark}

theorem lastStored?_stored :
    lastStored? (.stored other w :: earlier) key =
      if other = key then some w else lastStored? earlier key := by
  by_cases hkey : other = key <;> simp [lastStored?, Mark.storedAt?, hkey]

theorem lastStored?_hit :
    lastStored? (.hit other w :: earlier) key = lastStored? earlier key := by
  simp [lastStored?, List.findSome?_cons, Mark.storedAt?]

theorem lastStored?_missed :
    lastStored? (.missed other :: earlier) key = lastStored? earlier key := by
  simp [lastStored?, List.findSome?_cons, Mark.storedAt?]

theorem lastStored?_cleared : lastStored? (.cleared :: earlier) key = none := by
  simp [lastStored?]

theorem mem_without {entries : List (CacheKey × Bool)} {entry : CacheKey × Bool} :
    entry ∈ without key entries ↔ entry ∈ entries ∧ entry.1 ≠ key := by
  simp [without]

theorem nodup_without {entries : List (CacheKey × Bool)} (hkeys : (entries.map (·.1)).Nodup) :
    ((without key entries).map (·.1)).Nodup :=
  hkeys.sublist (List.filter_sublist.map _)

theorem without_eq_self {entries : List (CacheKey × Bool)}
    (hkey : key ∉ entries.map (·.1)) : without key entries = entries := by
  apply List.filter_eq_self.mpr
  intro entry hentry
  have hne : entry.1 ≠ key := fun heq => hkey (heq ▸ List.mem_map_of_mem hentry)
  simpa using hne

theorem not_mem_keys_without {entries : List (CacheKey × Bool)} :
    key ∉ (without key entries).map (·.1) := by
  intro hmem
  obtain ⟨entry, hentry, heq⟩ := List.mem_map.mp hmem
  exact (mem_without.mp hentry).2 heq

theorem nodup_recent (marks : List Mark) : ((recent marks).map (·.1)).Nodup := by
  induction marks with
  | nil => exact .nil
  | cons mark earlier ih =>
      cases mark with
      | stored key v => exact List.nodup_cons.mpr ⟨not_mem_keys_without, nodup_without ih⟩
      | hit key v => exact List.nodup_cons.mpr ⟨not_mem_keys_without, nodup_without ih⟩
      | missed key => exact ih
      | cleared => exact .nil

theorem mem_recent_iff (hwarranted : Warranted marks) :
    (key, v) ∈ recent marks ↔ lastStored? marks key = some v := by
  induction marks with
  | nil => simp [recent, lastStored?]
  | cons mark earlier ih =>
      cases mark with
      | stored other w =>
          rw [recent, List.mem_cons, mem_without, ih hwarranted, lastStored?_stored]
          by_cases hkey : other = key
          · simp [hkey, eq_comm]
          · simp [hkey, Ne.symm hkey]
      | hit other w =>
          rw [recent, List.mem_cons, mem_without, ih hwarranted.2, lastStored?_hit]
          by_cases hkey : other = key
          · subst other
            simp [hwarranted.1, eq_comm]
          · simp [Ne.symm hkey]
      | missed other => rw [recent, lastStored?_missed, ih hwarranted]
      | cleared => simp [recent, lastStored?_cleared]

theorem keys_without (used : CacheKey) (entries : List (CacheKey × Bool)) :
    (without used entries).map (·.1) = (entries.map (·.1)).filter (· != used) := by
  rw [without, List.filter_map]
  rfl

/-- Moving a key to the front of a table puts it ahead of every other key and
changes nothing else in front of them. -/
theorem mem_ahead_cons {used : CacheKey} {table later : List CacheKey}
    (hothers : used ≠ key →
      (other ∈ table.takeWhile (· != key) ↔ other ∈ later.takeWhile (· != key))) :
    other ∈ (used :: table.filter (· != used)).takeWhile (· != key) ↔
      other ∈ (used :: later).takeWhile (· != key) := by
  by_cases hkey : used = key
  · simp [hkey]
  · have hfilter : (table.filter (· != used)).takeWhile (· != key) =
        (table.takeWhile (· != key)).filter (· != used) := by
      rw [List.takeWhile_filter]
      congr 2
      funext a
      by_cases ha : a = used <;> simp [ha, hkey]
    have hfront : (used != key) = true := by simpa using hkey
    simp only [List.takeWhile_cons, hfront, if_true]
    rw [hfilter, List.mem_cons, List.mem_cons, List.mem_filter, hothers hkey]
    by_cases hother : other = used <;> simp [hother]

/-- In front of a key in the table stand the keys used since. -/
theorem mem_ahead_iff (hwarranted : Warranted marks) (hkey : key ∈ (recent marks).map (·.1)) :
    other ∈ ((recent marks).map (·.1)).takeWhile (· != key) ↔ other ∈ usedSince marks key := by
  have hearlier {used : CacheKey} {entries : List (CacheKey × Bool)} (hne : used ≠ key)
      (hmem : key ∈ used :: (without used entries).map (·.1)) : key ∈ entries.map (·.1) := by
    rw [keys_without] at hmem
    rcases List.mem_cons.mp hmem with heq | hrest
    · exact absurd heq.symm hne
    · exact List.mem_of_mem_filter hrest
  induction marks with
  | nil => cases hkey
  | cons mark earlier ih =>
      cases mark with
      | stored used w =>
          rw [recent, List.map_cons, keys_without]
          exact mem_ahead_cons fun hne => ih hwarranted (hearlier hne hkey)
      | hit used w =>
          rw [recent, List.map_cons, keys_without]
          exact mem_ahead_cons fun hne => ih hwarranted.2 (hearlier hne hkey)
      | missed used => exact ih hwarranted hkey
      | cleared => cases hkey

/-- As many keys stand in front of a key as other ones were used since. -/
theorem length_ahead (hwarranted : Warranted marks) (hkey : key ∈ (recent marks).map (·.1)) :
    (((recent marks).map (·.1)).takeWhile (· != key)).length =
      (usedSince marks key).dedup.length := by
  apply List.Perm.length_eq
  apply (List.perm_ext_iff_of_nodup _ (List.nodup_dedup _)).mpr
  · intro other
    rw [List.mem_dedup, mem_ahead_iff hwarranted hkey]
  · exact (nodup_recent marks).sublist (List.takeWhile_sublist _)

end Marks

/-! ## The front of a table -/

section Front

variable {key : CacheKey} {v : Bool} {table : List (CacheKey × Bool)}

theorem mem_take_iff (hkeys : (table.map (·.1)).Nodup) (n : Nat) :
    (key, v) ∈ table.take n ↔
      (key, v) ∈ table ∧ ((table.map (·.1)).takeWhile (· != key)).length < n := by
  induction table generalizing n with
  | nil => simp
  | cons entry rest ih =>
      obtain ⟨hnew, hrest⟩ := List.nodup_cons.mp hkeys
      cases n with
      | zero => simp
      | succ n =>
          rw [List.take_succ_cons, List.mem_cons, List.mem_cons, ih hrest, List.map_cons]
          by_cases hentry : entry.1 = key
          · have hlater : (key, v) ∉ rest := by
              intro hmem
              apply hnew
              simp only [hentry]
              exact List.mem_map_of_mem hmem
            simp [hentry, hlater]
          · have hother : (key, v) ≠ entry := fun heq => hentry (congrArg Prod.fst heq).symm
            simp [hentry, hother]

/-- A key is taken out of the front of a table or out of the whole, with one entry
less to be kept. -/
theorem take_without_take (hkeys : (table.map (·.1)).Nodup) (key : CacheKey) (n : Nat) :
    (without key (table.take (n + 1))).take n = (without key table).take n := by
  induction table generalizing n with
  | nil => rfl
  | cons entry rest ih =>
      obtain ⟨hnew, hrest⟩ := List.nodup_cons.mp hkeys
      rw [List.take_succ_cons]
      by_cases hentry : entry.1 = key
      · subst key
        have hfront : entry.1 ∉ (rest.take n).map (·.1) :=
          fun hmem => hnew ((List.take_sublist n rest).map _ |>.subset hmem)
        simp only [without, List.filter_cons, bne_self_eq_false, Bool.false_eq_true, if_false]
        rw [← without, ← without, without_eq_self hnew, without_eq_self hfront, List.take_take,
          Nat.min_self]
      · have hkeep : (entry.1 != key) = true := by simpa using hentry
        simp only [without, List.filter_cons, hkeep, if_true]
        cases n with
        | zero => rfl
        | succ n =>
            rw [List.take_succ_cons, List.take_succ_cons]
            exact congrArg (entry :: ·) (ih hrest n)

/-- Using a key in the front of a table or in the whole leaves the same front. -/
theorem take_cons_without_take (hkeys : (table.map (·.1)).Nodup) {n : Nat} (hn : 0 < n) :
    ((key, v) :: without key (table.take n)).take n = ((key, v) :: without key table).take n := by
  obtain ⟨m, rfl⟩ := Nat.exists_eq_succ_of_ne_zero (Nat.ne_of_gt hn)
  rw [List.take_succ_cons, List.take_succ_cons, take_without_take hkeys]

theorem length_without_lt (hmem : (key, v) ∈ table) : (without key table).length < table.length :=
  List.length_filter_lt_length_iff_exists.mpr ⟨(key, v), hmem, by simp⟩

theorem peek?_eq_some_iff {cache : PushTestCache} (hkeys : (cache.entries.map (·.1)).Nodup) :
    cache.peek? key = some v ↔ (key, v) ∈ cache.entries := by
  constructor
  · exact mem_of_peek?_eq_some
  · intro hmem
    obtain ⟨before, after, hsplit⟩ := List.append_of_mem hmem
    apply List.lookup_eq_some_iff.mpr
    refine ⟨before, after, hsplit, fun entry hentry => ?_⟩
    rw [hsplit, List.map_append, List.map_cons] at hkeys
    have hapart := (List.nodup_append.mp hkeys).2.2 entry.1 (List.mem_map_of_mem hentry) key
      List.mem_cons_self
    simpa using hapart.symm

end Front

/-! ## Runs -/

/-- A cache with its marks: the cache holds the front of the table that the marks
tell of. -/
structure Tracks (room : Nat) (state : PushTestCache × List Mark) : Prop where
  capacity : state.1.capacity = room
  entries : state.1.entries = ((recent state.2).take room).reverse
  warranted : Warranted state.2

namespace Tracks

variable {room : Nat} {state : PushTestCache × List Mark}

theorem nodup_keys (htracks : Tracks room state) : (state.1.entries.map (·.1)).Nodup := by
  rw [htracks.entries, List.map_reverse, List.nodup_reverse]
  exact (nodup_recent state.2).sublist ((List.take_sublist _ _).map _)

theorem size_le (htracks : Tracks room state) : state.1.size ≤ room := by
  rw [size, htracks.entries, List.length_reverse]
  exact List.length_take_le _ _

theorem peek?_iff (htracks : Tracks room state) (key : CacheKey) (v : Bool) :
    state.1.peek? key = some v ↔
      lastStored? state.2 key = some v ∧ (usedSince state.2 key).dedup.length < room := by
  rw [peek?_eq_some_iff htracks.nodup_keys, htracks.entries, List.mem_reverse,
    mem_take_iff (nodup_recent _), ← mem_recent_iff htracks.warranted]
  apply and_congr_right
  intro hmem
  rw [length_ahead htracks.warranted (List.mem_map_of_mem hmem)]

/-- The entries with one of them moved, or a new one put, to the most recently used
place. -/
theorem used_entries (htracks : Tracks room state) (key : CacheKey) (v : Bool) :
    without key state.1.entries ++ [(key, v)] =
      ((key, v) :: without key ((recent state.2).take room)).reverse := by
  rw [htracks.entries, List.reverse_cons, without, without, List.filter_reverse]

theorem step (hroom : 0 < room) (htracks : Tracks room state) (call : Access) :
    Tracks room (step state call) := by
  have hnodup := nodup_recent state.2
  cases call with
  | get key =>
      cases hpeek : state.1.peek? key with
      | none =>
          have hstep : PushTestCache.step state (.get key) = (state.1, .missed key :: state.2) := by
            simp [PushTestCache.step, access, get, hpeek]
          rw [hstep]
          exact ⟨htracks.capacity, htracks.entries, htracks.warranted⟩
      | some v =>
          have hstep : PushTestCache.step state (.get key) =
              ({ state.1 with entries := without key state.1.entries ++ [(key, v)] },
                .hit key v :: state.2) := by
            simp [PushTestCache.step, access, get, hpeek]
          have hfound : (key, v) ∈ (recent state.2).take room := by
            rw [← List.mem_reverse, ← htracks.entries]
            exact mem_of_peek?_eq_some hpeek
          have hshort : ((key, v) :: without key ((recent state.2).take room)).length ≤ room := by
            have hless := length_without_lt hfound
            have htake := List.length_take_le room (recent state.2)
            rw [List.length_cons]
            omega
          rw [hstep]
          refine ⟨htracks.capacity, ?_, ?_, htracks.warranted⟩
          · rw [htracks.used_entries, ← List.take_of_length_le hshort,
              take_cons_without_take hnodup hroom]
            rfl
          · exact (htracks.peek?_iff key v).mp hpeek |>.1
  | insert key v =>
      refine ⟨htracks.capacity, ?_, htracks.warranted⟩
      have hfront : ((key, v) :: without key ((recent state.2).take room)).take room =
          ((key, v) :: without key (recent state.2)).take room :=
        take_cons_without_take hnodup hroom
      simp only [PushTestCache.step, access, insert, recent]
      rw [htracks.used_entries, htracks.capacity, List.length_reverse, ← List.reverse_take, hfront]
  | clear => exact ⟨htracks.capacity, by simp [PushTestCache.step, access, clear, recent],
      htracks.warranted⟩

end Tracks

theorem run_tracks (capacity : Nat) (calls : List Access) :
    Tracks (max capacity 1) (run capacity calls) := by
  have hrun (state : PushTestCache × List Mark) (hstate : Tracks (max capacity 1) state) :
      Tracks (max capacity 1) (calls.foldl step state) := by
    induction calls generalizing state with
    | nil => exact hstate
    | cons call rest ih => exact ih _ (hstate.step (by omega) call)
  exact hrun _ ⟨rfl, by simp [ofCapacity, recent], trivial⟩

/-- After every run the cache is within its bound, holds no key twice and finds a key
with just the value stored last since it was last cleared, as long as fewer other keys
than there is room for were used since; a look-up that finds nothing leaves it as it
is. -/
theorem keeps_most_recently_used (capacity : Nat) (calls : List Access) (key : CacheKey) :
    let cache := (run capacity calls).1
    let marks := (run capacity calls).2
    cache.size ≤ max capacity 1 ∧ (cache.entries.map (·.1)).Nodup ∧
      (∀ v, (cache.get key).1 = some v ↔
        lastStored? marks key = some v ∧
          (usedSince marks key).dedup.length < max capacity 1) ∧
      ((cache.get key).1 = none → (cache.get key).2 = cache) := by
  have htracks := run_tracks capacity calls
  refine ⟨htracks.size_le, htracks.nodup_keys, fun v => ?_, fun hmissed => ?_⟩
  · rw [get_fst]
    exact htracks.peek?_iff key v
  · rw [get_fst] at hmissed
    rw [get, hmissed]

end PushTestCache
end PushGoals
