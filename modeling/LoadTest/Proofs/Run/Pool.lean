/-
**The pool of users, operation by operation.**

Active users stand in the order of their numbers, are not retired and not gone; draining users are
retired. A signal does not change who a user is, and only a retired user comes to its end by itself,
so the active users change only where the pool is told how many there are to be: it takes the newest
away, or adds users with numbers that were never used.

* `Pool.Sound`: what every operation keeps;
* `Pool.Follows`: no number comes back from one pool to a later one;
* `Pool.Told`, `Pool.setTarget_told`: the pool is told how many there are to be;
* `User.advance_frame`: a signal leaves a user who it is.
-/

import Mathlib.Data.List.Basic
import Mathlib.Order.Nat
import LoadTest.Run.Basic

namespace LoadTest

/-! ### A user and its signals -/

namespace User

variable {setup : Setup} {now began : Duration} {user : User} {journal : Journal}

/-- A user in an iteration is the same user, and not gone. -/
theorem proceed_frame (activity : Activity) :
    (user.proceed setup now began activity journal).1.id = user.id ∧
      (user.proceed setup now began activity journal).1.retired = user.retired ∧
        (user.proceed setup now began activity journal).1.isGone = false := by
  have pauses : ∀ pauses : Bool, (if pauses then Life.pausing else .ready).isGone = false := by
    intro pauses
    cases pauses <;> rfl
  unfold proceed
  dsimp only
  split
  · exact ⟨rfl, rfl, pauses _⟩
  · exact ⟨rfl, rfl, rfl⟩
  · exact ⟨rfl, rfl, rfl⟩

/-- Between two iterations only a retired user leaves, unless iterations are dropped. -/
theorem arrive_frame (aborting : Bool) :
    (user.arrive setup now aborting journal).1.id = user.id ∧
      (user.arrive setup now aborting journal).1.retired = user.retired ∧
        ((user.arrive setup now aborting journal).1.isGone = true →
          user.retired = true ∨ aborting = true) := by
  unfold arrive
  by_cases retired : user.retired = true
  · rw [if_pos retired]
    exact ⟨rfl, rfl, fun _ => .inl retired⟩
  · rw [if_neg retired]
    by_cases dropping : aborting = true
    · rw [if_pos dropping]
      exact ⟨rfl, rfl, fun _ => .inr dropping⟩
    · rw [if_neg dropping]
      obtain ⟨sameId, sameMark, stays⟩ := @proceed_frame setup now now
        { user with iteration := user.iteration + 1, step := none }
        (journal.add (.began user.id (user.iteration + 1) now))
        (setup.scenario user.id (user.iteration + 1))
      refine ⟨sameId, sameMark, fun gone => ?_⟩
      have never : false = true := stays.symm.trans gone
      contradiction

/-- **A signal leaves a user who it is**, and only a retired one comes to its end by it. -/
theorem advance_frame (signal : Signal) :
    (user.advance setup now false signal journal).1.id = user.id ∧
      (user.advance setup now false signal journal).1.retired = user.retired ∧
        ((user.advance setup now false signal journal).1.isGone = true →
          user.isGone = true ∨ user.retired = true) := by
  have arrives : (user.arrive setup now false journal).1.id = user.id ∧
      (user.arrive setup now false journal).1.retired = user.retired ∧
        ((user.arrive setup now false journal).1.isGone = true →
          user.isGone = true ∨ user.retired = true) := by
    obtain ⟨sameId, sameMark, leaves⟩ := @arrive_frame setup now user journal false
    refine ⟨sameId, sameMark, fun gone => ?_⟩
    rcases leaves gone with retired | dropping
    · exact .inr retired
    · contradiction
  have proceeds : ∀ began next later, (user.proceed setup now began next later).1.id = user.id ∧
      (user.proceed setup now began next later).1.retired = user.retired ∧
        ((user.proceed setup now began next later).1.isGone = true →
          user.isGone = true ∨ user.retired = true) := by
    intro began next later
    obtain ⟨sameId, sameMark, stays⟩ := @proceed_frame setup now began user later next
    refine ⟨sameId, sameMark, fun gone => ?_⟩
    have never : false = true := stays.symm.trans gone
    contradiction
  have unchanged : user.id = user.id ∧ user.retired = user.retired ∧
      (user.isGone = true → user.isGone = true ∨ user.retired = true) := ⟨rfl, rfl, .inl⟩
  unfold advance
  cases life : user.life with
  | gone _ => exact unchanged
  | ready => exact arrives
  | pausing =>
    cases signal with
    | wake => exact arrives
    | reply _ => exact unchanged
  | busy began activity =>
    dsimp only
    rw [if_neg Bool.false_ne_true]
    cases activity.receive signal with
    | none => exact unchanged
    | some next => exact proceeds _ _ _

end User

/-! ### Sound pools -/

namespace Pool

/-- The numbers of the active users. -/
def activeIds (pool : Pool) : List Nat := pool.active.map User.id

/-- The numbers of the draining users. -/
def drainingIds (pool : Pool) : List Nat := pool.draining.map User.id

/-- The numbers of all users. -/
def ids (pool : Pool) : List Nat := pool.activeIds ++ pool.drainingIds

/-- **What every operation keeps.** -/
structure Sound (pool : Pool) : Prop where
  /-- Active users stand in the order of their numbers. -/
  increasing : pool.activeIds.Pairwise (· < ·)
  /-- No draining user has the number of an active one. -/
  apart : ∀ id ∈ pool.activeIds, id ∉ pool.drainingIds
  /-- No two draining users have the same number. -/
  distinct : pool.drainingIds.Nodup
  /-- The next number is a new one. -/
  below : ∀ id ∈ pool.ids, id < pool.nextId
  /-- Active users are neither retired nor gone. -/
  staying : ∀ user ∈ pool.active, user.retired = false ∧ user.isGone = false
  /-- Draining users are retired. -/
  leaving : ∀ user ∈ pool.draining, user.retired = true
  /-- There never were fewer users at the peak than now. -/
  counted : pool.size ≤ pool.peak

/-- **No number comes back from one pool to a later one**: what is there later was there before, or
is new. -/
structure Follows (before after : Pool) : Prop where
  next : before.nextId ≤ after.nextId
  active : ∀ id ∈ after.activeIds, id ∈ before.activeIds ∨ before.nextId ≤ id
  any : ∀ id ∈ after.ids, id ∈ before.ids ∨ before.nextId ≤ id
  peak : before.peak ≤ after.peak

variable {pool middle after : Pool}

theorem mem_ids {id : Nat} : id ∈ pool.ids ↔ id ∈ pool.activeIds ∨ id ∈ pool.drainingIds :=
  List.mem_append

theorem Sound.nodup_ids (sound : pool.Sound) : pool.ids.Nodup := by
  rw [ids, List.nodup_append]
  refine ⟨sound.increasing.imp fun before => Nat.ne_of_lt before, sound.distinct, ?_⟩
  rintro id active other draining rfl
  exact sound.apart id active draining

theorem size_eq (pool : Pool) : pool.size = pool.activeIds.length + pool.drainingIds.length := by
  simp [size, users, activeIds, drainingIds]

theorem live_eq (pool : Pool) : pool.live = pool.activeIds.length := by
  simp [live, activeIds]

theorem Follows.refl (pool : Pool) : pool.Follows pool :=
  ⟨le_rfl, fun _ member => .inl member, fun _ member => .inl member, le_rfl⟩

theorem Follows.trans (first : pool.Follows middle) (second : middle.Follows after) :
    pool.Follows after where
  next := first.next.trans second.next
  active id member := by
    rcases second.active id member with old | new
    · exact first.active id old
    · exact .inr (first.next.trans new)
  any id member := by
    rcases second.any id member with old | new
    · exact first.any id old
    · exact .inr (first.next.trans new)
  peak := first.peak.trans second.peak

/-- The pool before any user is there. -/
theorem sound_empty : Pool.empty.Sound where
  increasing := List.Pairwise.nil
  apart _ member := absurd member List.not_mem_nil
  distinct := List.nodup_nil
  below _ member := absurd member List.not_mem_nil
  staying _ member := absurd member List.not_mem_nil
  leaving _ member := absurd member List.not_mem_nil
  counted := le_rfl

/-! ### Signals -/

/-- A pool with a user replaced by what it is after a signal. -/
structure Signalled (pool after : Pool) : Prop where
  activeIds : after.activeIds = pool.activeIds
  drainingIds : after.drainingIds = pool.drainingIds
  nextId : after.nextId = pool.nextId
  peak : after.peak = pool.peak

theorem Signalled.refl (pool : Pool) : pool.Signalled pool := ⟨rfl, rfl, rfl, rfl⟩

theorem Signalled.follows (signalled : pool.Signalled after) : pool.Follows after where
  next := signalled.nextId.ge
  active id member := .inl (signalled.activeIds ▸ member)
  any id member := by
    rw [ids, signalled.activeIds, signalled.drainingIds] at member
    exact .inl member
  peak := signalled.peak.ge

/-- **Replacing a user by what it is after a signal keeps a pool sound.** -/
theorem replace_sound {user changed : User} (sound : pool.Sound) (member : user ∈ pool.users)
    (sameId : changed.id = user.id) (sameMark : changed.retired = user.retired)
    (leaves : changed.isGone = true → user.isGone = true ∨ user.retired = true) :
    (pool.replace changed).Sound ∧ pool.Signalled (pool.replace changed) := by
  have keepsId : ∀ other : User,
      (if other.id = changed.id then changed else other).id = other.id := by
    intro other
    split_ifs with same
    · exact same.symm
    · rfl
  have signalled : pool.Signalled (pool.replace changed) := by
    refine ⟨?_, ?_, rfl, rfl⟩
    · show (pool.active.map _).map User.id = pool.active.map User.id
      rw [List.map_map]
      exact List.map_congr_left fun other _ => keepsId other
    · show (pool.draining.map _).map User.id = pool.draining.map User.id
      rw [List.map_map]
      exact List.map_congr_left fun other _ => keepsId other
  refine ⟨?_, signalled⟩
  refine ⟨?_, ?_, ?_, ?_, ?_, ?_, ?_⟩
  · rw [signalled.activeIds]
    exact sound.increasing
  · rw [signalled.activeIds, signalled.drainingIds]
    exact sound.apart
  · rw [signalled.drainingIds]
    exact sound.distinct
  · rw [ids, signalled.activeIds, signalled.drainingIds, signalled.nextId]
    exact sound.below
  · -- An active user with the number of the changed one is not draining, so it was not retired.
    intro other inside
    obtain ⟨old, oldMember, rfl⟩ := List.mem_map.mp inside
    split_ifs with same
    · have active : user ∈ pool.active := by
        rcases List.mem_append.mp member with active | draining
        · exact active
        · have shared : old.id ∈ pool.drainingIds := by
            rw [same, sameId]
            exact List.mem_map_of_mem draining
          exact absurd shared (sound.apart _ (List.mem_map_of_mem oldMember))
      obtain ⟨notRetired, notGone⟩ := sound.staying user active
      refine ⟨sameMark.trans notRetired, ?_⟩
      by_contra gone
      rcases leaves (by simpa using gone) with wasGone | wasRetired
      · simp [wasGone] at notGone
      · simp [wasRetired] at notRetired
    · exact sound.staying old oldMember
  · intro other inside
    obtain ⟨old, oldMember, rfl⟩ := List.mem_map.mp inside
    split_ifs with same
    · have draining : user ∈ pool.draining := by
        rcases List.mem_append.mp member with active | draining
        · have shared : user.id ∈ pool.drainingIds := by
            rw [← sameId, ← same]
            exact List.mem_map_of_mem oldMember
          exact absurd shared (sound.apart _ (List.mem_map_of_mem active))
        · exact draining
      exact sameMark.trans (sound.leaving user draining)
    · exact sound.leaving old oldMember
  · rw [size_eq, signalled.activeIds, signalled.drainingIds, signalled.peak, ← size_eq]
    exact sound.counted

/-! ### Reaping -/

/-- Reaping takes no active user away. -/
theorem reap_active (sound : pool.Sound) : pool.reap.active = pool.active := by
  apply List.filter_eq_self.mpr
  intro user member
  rw [(sound.staying user member).2]
  rfl

theorem reap_drainingIds (pool : Pool) : pool.reap.drainingIds.Sublist pool.drainingIds :=
  List.filter_sublist.map _

theorem reap_sound (sound : pool.Sound) : pool.reap.Sound where
  increasing := by
    rw [activeIds, reap_active sound]
    exact sound.increasing
  apart id member := by
    rw [activeIds, reap_active sound] at member
    exact fun shared => sound.apart id member (pool.reap_drainingIds.subset shared)
  distinct := sound.distinct.sublist pool.reap_drainingIds
  below id member := by
    rw [ids, activeIds, reap_active sound] at member
    refine sound.below id ?_
    rcases List.mem_append.mp member with active | draining
    · exact mem_ids.mpr (.inl active)
    · exact mem_ids.mpr (.inr (pool.reap_drainingIds.subset draining))
  staying user member := by
    rw [reap_active sound] at member
    exact sound.staying user member
  leaving user member := sound.leaving user (List.mem_of_mem_filter member)
  counted := by
    have fewer : pool.reap.draining.length ≤ pool.draining.length := List.length_filter_le _ _
    have bound := sound.counted
    rw [size, users, List.length_append] at bound ⊢
    rw [reap_active sound]
    show pool.active.length + pool.reap.draining.length ≤ pool.peak
    omega

theorem reap_follows (sound : pool.Sound) : pool.Follows pool.reap where
  next := le_rfl
  active id member := by
    rw [activeIds, reap_active sound] at member
    exact .inl member
  any id member := by
    rw [ids, activeIds, reap_active sound] at member
    rcases List.mem_append.mp member with active | draining
    · exact .inl (mem_ids.mpr (.inl active))
    · exact .inl (mem_ids.mpr (.inr (pool.reap_drainingIds.subset draining)))
  peak := le_rfl

/-! ### Growing and shrinking -/

theorem grow_activeIds (pool : Pool) (now : Duration) (count : Nat) :
    (pool.grow now count).activeIds = pool.activeIds ++ List.range' pool.nextId count := by
  have fresh : User.id ∘ User.fresh now = id := rfl
  simp [grow, activeIds, fresh]

/-- New users keep a pool sound but for its peak. -/
theorem grow_sound (sound : pool.Sound) (now : Duration) (count : Nat) :
    (pool.grow now count).notePeak.Sound where
  increasing := by
    show (pool.grow now count).activeIds.Pairwise (· < ·)
    rw [grow_activeIds, List.pairwise_append]
    refine ⟨sound.increasing, List.pairwise_lt_range', fun old member new fresh => ?_⟩
    have before := sound.below old (mem_ids.mpr (.inl member))
    have after := (List.mem_range'_1.mp fresh).1
    omega
  apart id member := by
    show id ∉ pool.drainingIds
    change id ∈ (pool.grow now count).activeIds at member
    rw [grow_activeIds] at member
    rcases List.mem_append.mp member with old | fresh
    · exact sound.apart id old
    · intro shared
      have before := sound.below id (mem_ids.mpr (.inr shared))
      have after := (List.mem_range'_1.mp fresh).1
      omega
  distinct := sound.distinct
  below id member := by
    show id < pool.nextId + count
    change id ∈ (pool.grow now count).activeIds ++ pool.drainingIds at member
    rw [grow_activeIds] at member
    rcases List.mem_append.mp member with active | draining
    · rcases List.mem_append.mp active with old | fresh
      · have before := sound.below id (mem_ids.mpr (.inl old))
        omega
      · exact (List.mem_range'_1.mp fresh).2
    · have before := sound.below id (mem_ids.mpr (.inr draining))
      omega
  staying user member := by
    rcases List.mem_append.mp member with old | fresh
    · exact sound.staying user old
    · obtain ⟨id, -, rfl⟩ := List.mem_map.mp fresh
      exact ⟨rfl, rfl⟩
  leaving := sound.leaving
  counted := Nat.le_max_right _ _

theorem grow_follows (pool : Pool) (now : Duration) (count : Nat) :
    pool.Follows (pool.grow now count).notePeak where
  next := Nat.le_add_right _ _
  active id member := by
    change id ∈ (pool.grow now count).activeIds at member
    rw [grow_activeIds] at member
    rcases List.mem_append.mp member with old | fresh
    · exact .inl old
    · exact .inr (List.mem_range'_1.mp fresh).1
  any id member := by
    change id ∈ (pool.grow now count).activeIds ++ pool.drainingIds at member
    rw [grow_activeIds] at member
    rcases List.mem_append.mp member with active | draining
    · rcases List.mem_append.mp active with old | fresh
      · exact .inl (mem_ids.mpr (.inl old))
      · exact .inr (List.mem_range'_1.mp fresh).1
    · exact .inl (mem_ids.mpr (.inr draining))
  peak := Nat.le_max_left _ _

theorem shrink_activeIds (pool : Pool) (target : Nat) :
    (pool.shrink target).activeIds = pool.activeIds.take target := List.map_take

theorem shrink_drainingIds (pool : Pool) (target : Nat) :
    (pool.shrink target).drainingIds = pool.drainingIds ++ pool.activeIds.drop target := by
  have same : User.id ∘ User.retire = User.id := rfl
  simp [shrink, drainingIds, activeIds, same, List.map_drop]

/-- The users that are taken away are newer than those that stay. -/
theorem shrink_newest (sound : pool.Sound) {target old new : Nat}
    (stays : old ∈ pool.activeIds.take target) (leaves : new ∈ pool.activeIds.drop target) :
    old < new := by
  have parts := sound.increasing
  rw [← List.take_append_drop target pool.activeIds, List.pairwise_append] at parts
  exact parts.2.2 old stays new leaves

theorem shrink_sound (sound : pool.Sound) (target : Nat) : (pool.shrink target).notePeak.Sound where
  increasing := by
    show (pool.shrink target).activeIds.Pairwise (· < ·)
    rw [shrink_activeIds]
    exact sound.increasing.sublist (List.take_sublist _ _)
  apart id member := by
    change id ∈ (pool.shrink target).activeIds at member
    show id ∉ (pool.shrink target).drainingIds
    rw [shrink_activeIds] at member
    rw [shrink_drainingIds]
    intro shared
    rcases List.mem_append.mp shared with draining | leaves
    · exact sound.apart id (List.mem_of_mem_take member) draining
    · exact Nat.lt_irrefl _ (shrink_newest sound member leaves)
  distinct := by
    show (pool.shrink target).drainingIds.Nodup
    rw [shrink_drainingIds, List.nodup_append]
    refine ⟨sound.distinct, ?_, ?_⟩
    · have order := sound.increasing.sublist (List.drop_sublist target pool.activeIds)
      exact order.imp fun before => Nat.ne_of_lt before
    · rintro id draining other leaves rfl
      exact sound.apart id (List.mem_of_mem_drop leaves) draining
  below id member := by
    change id ∈ (pool.shrink target).activeIds ++ (pool.shrink target).drainingIds at member
    rw [shrink_activeIds, shrink_drainingIds] at member
    refine sound.below id (mem_ids.mpr ?_)
    rcases List.mem_append.mp member with active | other
    · exact .inl (List.mem_of_mem_take active)
    · rcases List.mem_append.mp other with draining | leaves
      · exact .inr draining
      · exact .inl (List.mem_of_mem_drop leaves)
  staying user member := sound.staying user (List.mem_of_mem_take member)
  leaving user member := by
    rcases List.mem_append.mp member with draining | leaves
    · exact sound.leaving user draining
    · obtain ⟨old, -, rfl⟩ := List.mem_map.mp leaves
      rfl
  counted := Nat.le_max_right _ _

theorem shrink_follows (target : Nat) : pool.Follows (pool.shrink target).notePeak where
  next := le_rfl
  active id member := by
    change id ∈ (pool.shrink target).activeIds at member
    rw [shrink_activeIds] at member
    exact .inl (List.mem_of_mem_take member)
  any id member := by
    change id ∈ (pool.shrink target).activeIds ++ (pool.shrink target).drainingIds at member
    rw [shrink_activeIds, shrink_drainingIds] at member
    refine .inl (mem_ids.mpr ?_)
    rcases List.mem_append.mp member with active | other
    · exact .inl (List.mem_of_mem_take active)
    · rcases List.mem_append.mp other with draining | leaves
      · exact .inr draining
      · exact .inl (List.mem_of_mem_drop leaves)
  peak := Nat.le_max_left _ _

/-! ### Setting the target -/

/-- A pool that was told how many users there are to be. -/
structure Told (pool after : Pool) (target : Nat) : Prop where
  sound : after.Sound
  follows : pool.Follows after
  /-- There are as many active users as were asked for. -/
  live : after.live = target
  /-- Those that are taken away drain, and are newer than those that stay. -/
  newest : ∀ id ∈ pool.activeIds, id ∉ after.activeIds →
    id ∈ after.drainingIds ∧ ∀ other ∈ after.activeIds, other < id
  /-- None is taken away when there are to be no fewer. -/
  kept : pool.live ≤ target → pool.activeIds ⊆ after.activeIds ∧ after.drainingIds ⊆ pool.drainingIds
  /-- The peak is that from before, or what there is now. -/
  peak : after.peak = max pool.peak after.size

/-- **A sound pool that is told how many users there are to be has so many**, as long as they are
allowed. -/
theorem setTarget_told (sound : pool.Sound) (now : Duration) {cap target : Nat}
    (allowed : target ≤ cap) :
    ∃ after, pool.setTarget now cap target = .ok after ∧ pool.Told after target := by
  unfold setTarget
  rw [if_neg allowed.not_gt]
  by_cases same : pool.live = target
  · rw [if_pos same]
    refine ⟨pool, rfl, sound, .refl pool, same, fun id member left => absurd member left, ?_, ?_⟩
    · exact fun _ => ⟨List.Subset.refl _, List.Subset.refl _⟩
    · exact (max_eq_left sound.counted).symm
  · rw [if_neg same]
    by_cases fewer : target < pool.live
    · rw [if_pos fewer]
      refine ⟨_, rfl, shrink_sound sound target, shrink_follows target, ?_, ?_, ?_, rfl⟩
      · show (pool.active.take target).length = target
        exact List.length_take_of_le fewer.le
      · intro id member left
        change id ∉ (pool.shrink target).activeIds at left
        rw [shrink_activeIds] at left
        have leaves : id ∈ pool.activeIds.drop target := by
          rw [← List.take_append_drop target pool.activeIds] at member
          exact (List.mem_append.mp member).resolve_left left
        constructor
        · show id ∈ (pool.shrink target).drainingIds
          rw [shrink_drainingIds]
          exact List.mem_append_right _ leaves
        · intro other stays
          change other ∈ (pool.shrink target).activeIds at stays
          rw [shrink_activeIds] at stays
          exact shrink_newest sound stays leaves
      · intro noFewer
        omega
    · rw [if_neg fewer]
      refine ⟨_, rfl, grow_sound sound now _, pool.grow_follows now _, ?_, ?_, ?_, rfl⟩
      · rw [live_eq]
        show (pool.grow now (target - pool.live)).activeIds.length = target
        rw [grow_activeIds, List.length_append, List.length_range', ← live_eq]
        omega
      · intro id member left
        change id ∉ (pool.grow now (target - pool.live)).activeIds at left
        rw [grow_activeIds] at left
        exact absurd (List.mem_append_left _ member) left
      · intro _
        refine ⟨?_, List.Subset.refl _⟩
        show pool.activeIds ⊆ (pool.grow now (target - pool.live)).activeIds
        rw [grow_activeIds]
        exact List.subset_append_left _ _

end Pool

end LoadTest
