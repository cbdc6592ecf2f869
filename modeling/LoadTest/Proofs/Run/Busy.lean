/-
**How many users are in an iteration.**

Only a signal brings a user into an iteration or out of it: the pool adds users that have not begun,
takes users away that are gone, and retires users where they stand. No two users have the same
number, in any phase of a run, so a signal changes one user at most.

* `Pool.busy`: how many users are in an iteration;
* `Pool.Apart`: no two users have the same number;
* `Pool.busy_replace`: a user in the place of another one;
* `Pool.setTarget_spec`: the pool is told how many users there are to be.
-/

import LoadTest.Proofs.Run.Pool

namespace LoadTest

/-- Whether the user is in an iteration. -/
def Life.isBusy : Life → Bool
  | busy .. => true
  | _ => false

/-- Whether the user is in an iteration. -/
def User.isBusy (user : User) : Bool := user.life.isBusy

theorem User.countP_busy (user : User) (rest : List User) :
    (user :: rest).countP isBusy = rest.countP isBusy + user.isBusy.toNat := by
  rw [List.countP_cons]
  cases user.isBusy <;> rfl

namespace Pool

/-- **How many users are in an iteration.** -/
def busy (pool : Pool) : ℕ := pool.users.countP User.isBusy

/-- **No two users have the same number**, and the next one gets a new one. -/
structure Apart (pool : Pool) : Prop where
  nodup : pool.ids.Nodup
  below : ∀ id ∈ pool.ids, id < pool.nextId

variable {pool after : Pool}

theorem ids_eq (pool : Pool) : pool.ids = pool.users.map User.id := List.map_append.symm

theorem apart_empty : Pool.empty.Apart :=
  ⟨List.nodup_nil, fun _ member => absurd member List.not_mem_nil⟩

/-! ### Users that are changed -/

theorem users_map (f : User → User) (pool : Pool) : (pool.map f).users = pool.users.map f :=
  List.map_append.symm

theorem mem_map {f : User → User} {user : User} (member : user ∈ (pool.map f).users) :
    ∃ before ∈ pool.users, f before = user := by
  rw [users_map] at member
  exact List.mem_map.mp member

theorem mem_replace {changed user : User} (member : user ∈ (pool.replace changed).users) :
    user = changed ∨ user ∈ pool.users := by
  obtain ⟨before, inside, rfl⟩ := mem_map member
  by_cases same : before.id = changed.id
  · rw [if_pos same]
    exact .inl rfl
  · rw [if_neg same]
    exact .inr inside

theorem Apart.map (apart : pool.Apart) {f : User → User} (same : ∀ user, (f user).id = user.id) :
    (pool.map f).Apart := by
  have ids : (pool.map f).ids = pool.ids := by
    rw [ids_eq, ids_eq, users_map, List.map_map]
    exact List.map_congr_left fun user _ => same user
  refine ⟨?_, ?_⟩
  · rw [ids]
    exact apart.nodup
  · rw [ids]
    exact apart.below

theorem retireAll_busy (pool : Pool) : pool.retireAll.busy = pool.busy := by
  unfold busy retireAll
  rw [users_map, List.countP_map]
  rfl

/-- Whatever takes the place of a user, the other ones stand where they stood. -/
theorem others_of_nodup {users : List User} {user : User} (nodup : (users.map User.id).Nodup)
    (member : user ∈ users) : ∃ others, users.countP User.isBusy = others + user.isBusy.toNat ∧
      ∀ changed : User, changed.id = user.id →
        (users.map fun other => if other.id = changed.id then changed else other).countP
          User.isBusy = others + changed.isBusy.toNat := by
  induction users with
  | nil => exact absurd member List.not_mem_nil
  | cons head rest ih =>
    rw [List.map_cons, List.nodup_cons] at nodup
    rcases List.mem_cons.mp member with rfl | inside
    · refine ⟨rest.countP User.isBusy, User.countP_busy _ _, fun changed same => ?_⟩
      -- No user behind this one has its number.
      have kept :
          (rest.map fun other => if other.id = changed.id then changed else other) = rest := by
        refine (List.map_congr_left fun other there => if_neg fun shared => ?_).trans rest.map_id
        apply nodup.1
        rw [← same, ← shared]
        exact List.mem_map_of_mem there
      rw [List.map_cons, User.countP_busy, kept, if_pos same.symm]
    · obtain ⟨others, whole, replaced⟩ := ih nodup.2 inside
      have apart : head.id ≠ user.id := by
        intro shared
        apply nodup.1
        rw [shared]
        exact List.mem_map_of_mem inside
      refine ⟨others + head.isBusy.toNat, ?_, fun changed same => ?_⟩
      · rw [User.countP_busy, whole]
        omega
      · rw [List.map_cons, User.countP_busy, replaced changed same, if_neg (same ▸ apart)]
        omega

/-- **A user in the place of another one** changes the count by these two only. -/
theorem busy_replace (apart : pool.Apart) {user : User} (member : user ∈ pool.users) :
    ∃ others, pool.busy = others + user.isBusy.toNat ∧
      ∀ changed : User, changed.id = user.id →
        (pool.replace changed).busy = others + changed.isBusy.toNat := by
  have nodup : (pool.users.map User.id).Nodup := by
    rw [← ids_eq]
    exact apart.nodup
  obtain ⟨others, whole, replaced⟩ := others_of_nodup nodup member
  refine ⟨others, whole, fun changed same => ?_⟩
  unfold busy replace
  rw [users_map]
  exact replaced changed same

theorem Apart.replace (apart : pool.Apart) (changed : User) : (pool.replace changed).Apart := by
  refine apart.map fun other => ?_
  split_ifs with same
  · exact same.symm
  · rfl

/-! ### Users that come and go -/

theorem users_reap (pool : Pool) : pool.reap.users = pool.users.filter fun user => !user.isGone :=
  (List.filter_append ..).symm

theorem mem_reap {user : User} (member : user ∈ pool.reap.users) : user ∈ pool.users := by
  rw [users_reap] at member
  exact (List.mem_filter.mp member).1

theorem Apart.reap (apart : pool.Apart) : pool.reap.Apart := by
  have fewer : pool.reap.ids.Sublist pool.ids := by
    rw [ids_eq, ids_eq, users_reap]
    exact List.filter_sublist.map _
  exact ⟨apart.nodup.sublist fewer, fun id member => apart.below id (fewer.subset member)⟩

/-- Users that are gone are in no iteration. -/
theorem reap_busy (pool : Pool) : pool.reap.busy = pool.busy := by
  have stays : ∀ user : User, (user.isBusy && !user.isGone) = user.isBusy := by
    intro user
    unfold User.isBusy User.isGone Life.isBusy Life.isGone
    cases user.life <;> rfl
  unfold busy
  rw [users_reap, List.countP_filter]
  exact congrArg (fun p => pool.users.countP p) (funext stays)

theorem Apart.grow (apart : pool.Apart) (now : Duration) (count : ℕ) :
    (pool.grow now count).Apart := by
  have perm : (pool.grow now count).ids.Perm (pool.ids ++ List.range' pool.nextId count) := by
    unfold ids
    rw [grow_activeIds, List.append_assoc, List.append_assoc]
    exact List.perm_append_comm.append_left _
  have new : ∀ id ∈ List.range' pool.nextId count, pool.nextId ≤ id ∧ id < pool.nextId + count :=
    fun id fresh => List.mem_range'_1.mp fresh
  refine ⟨perm.nodup_iff.mpr (List.nodup_append.mpr ⟨apart.nodup, List.nodup_range', ?_⟩), ?_⟩
  · rintro id old other fresh rfl
    have before := apart.below id old
    have after := new id fresh
    omega
  · intro id member
    show id < pool.nextId + count
    rcases List.mem_append.mp (perm.subset member) with old | fresh
    · have before := apart.below id old
      omega
    · exact (new id fresh).2

theorem grow_busy (pool : Pool) (now : Duration) (count : ℕ) :
    (pool.grow now count).busy = pool.busy := by
  have idle : ((List.range' pool.nextId count).map (User.fresh now)).countP User.isBusy = 0 := by
    rw [List.countP_map]
    exact List.countP_eq_zero.mpr fun _ _ => Bool.false_ne_true
  show (pool.active ++ _ ++ pool.draining).countP User.isBusy =
    (pool.active ++ pool.draining).countP User.isBusy
  rw [List.countP_append, List.countP_append, List.countP_append, idle, Nat.add_zero]

/-- Retired users stand where they stood. -/
theorem shrink_perm (pool : Pool) (target : ℕ) : (pool.shrink target).users.Perm
    (pool.active.take target ++ (pool.active.drop target).map User.retire ++ pool.draining) := by
  unfold users shrink
  rw [List.append_assoc]
  exact List.perm_append_comm.append_left _

theorem Apart.shrink (apart : pool.Apart) (target : ℕ) : (pool.shrink target).Apart := by
  have perm : (pool.shrink target).ids.Perm pool.ids := by
    have sameIds : User.id ∘ User.retire = User.id := rfl
    rw [ids_eq, ids_eq]
    refine ((shrink_perm pool target).map User.id).trans ?_
    rw [List.map_append, List.map_append, List.map_map, sameIds, ← List.map_append,
      List.take_append_drop, ← List.map_append]
    exact List.Perm.refl _
  exact ⟨perm.nodup_iff.mpr apart.nodup, fun id member => apart.below id (perm.subset member)⟩

theorem shrink_busy (pool : Pool) (target : ℕ) : (pool.shrink target).busy = pool.busy := by
  have sameLife : User.isBusy ∘ User.retire = User.isBusy := rfl
  unfold busy
  rw [(shrink_perm pool target).countP_eq, List.countP_append, List.countP_append, List.countP_map,
    sameLife, ← List.countP_append, List.take_append_drop, ← List.countP_append]
  rfl

/-- **Telling a pool how many users there are to be** keeps them apart and leaves them where they
stand; new ones have not begun. -/
theorem setTarget_spec (apart : pool.Apart) {now : Duration} {cap target : ℕ}
    (told : pool.setTarget now cap target = .ok after) :
    after.Apart ∧ after.busy = pool.busy ∧ ∀ user ∈ after.users,
      user.life = .ready ∨ ∃ before ∈ pool.users, user.life = before.life := by
  unfold setTarget at told
  split_ifs at told
  · obtain rfl := Except.ok.inj told
    exact ⟨apart, rfl, fun user member => .inr ⟨user, member, rfl⟩⟩
  · obtain rfl := Except.ok.inj told
    have shrunk := apart.shrink target
    refine ⟨⟨shrunk.nodup, shrunk.below⟩, pool.shrink_busy target, fun user member => .inr ?_⟩
    rcases List.mem_append.mp member with kept | drained
    · exact ⟨user, List.mem_append_left _ (List.mem_of_mem_take kept), rfl⟩
    · rcases List.mem_append.mp drained with old | taken
      · exact ⟨user, List.mem_append_right _ old, rfl⟩
      · obtain ⟨before, inside, rfl⟩ := List.mem_map.mp taken
        exact ⟨before, List.mem_append_left _ (List.mem_of_mem_drop inside), rfl⟩
  · obtain rfl := Except.ok.inj told
    have grown := apart.grow now (target - pool.live)
    refine ⟨⟨grown.nodup, grown.below⟩, pool.grow_busy now _, fun user member => ?_⟩
    rcases List.mem_append.mp member with active | old
    · rcases List.mem_append.mp active with old | new
      · exact .inr ⟨user, List.mem_append_left _ old, rfl⟩
      · obtain ⟨id, -, rfl⟩ := List.mem_map.mp new
        exact .inl rfl
    · exact .inr ⟨user, List.mem_append_right _ old, rfl⟩

end Pool

end LoadTest
