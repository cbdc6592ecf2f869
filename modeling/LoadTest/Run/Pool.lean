/-
**The users of a run.**

The pool has as many active users as the schedule asks for. It grows by users that are new; when it
shrinks, the newest users are retired and drain away, each after its iteration. A retired user is
never active again, and no number is used twice.

* `Pool.setTarget`: the pool with as many active users as are asked for;
* `Pool.reap`: the pool without the users that are gone;
* `Pool.retireAll`: the pool of a run that stops.
-/

import LoadTest.Run.User

namespace LoadTest

/-- The users of a run. -/
structure Pool where
  /-- The users that the schedule asks for, the oldest first. -/
  active : List User
  /-- The users that are retired. -/
  draining : List User
  /-- The number of the next user. -/
  nextId : Nat
  /-- The most users that there were at the same time. -/
  peak : Nat

namespace Pool

/-- The pool of a run that begins. -/
def empty : Pool := ⟨[], [], 1, 0⟩

/-- How many users are active. -/
def live (pool : Pool) : Nat := pool.active.length

/-- All users, the active ones first. -/
def users (pool : Pool) : List User := pool.active ++ pool.draining

/-- How many users there are. -/
def size (pool : Pool) : Nat := pool.users.length

/-- The pool with more users. -/
def grow (pool : Pool) (now : Duration) (count : Nat) : Pool :=
  { pool with
    active := pool.active ++ (List.range' pool.nextId count).map (User.fresh now)
    nextId := pool.nextId + count }

/-- The pool with so many active users left; the newest are retired. -/
def shrink (pool : Pool) (target : Nat) : Pool :=
  { pool with
    active := pool.active.take target
    draining := pool.draining ++ (pool.active.drop target).map User.retire }

/-- The pool after a change, which may have been its largest. -/
def notePeak (pool : Pool) : Pool := { pool with peak := max pool.peak pool.size }

/-- **The pool with as many active users as are asked for**, unless they are more than allowed. -/
def setTarget (pool : Pool) (now : Duration) (cap target : Nat) : Except PlanFault Pool :=
  if cap < target then .error (.userCap 0 target cap)
  else if pool.live = target then .ok pool
  else if target < pool.live then .ok (pool.shrink target).notePeak
  else .ok (pool.grow now (target - pool.live)).notePeak

/-- The pool without the users that are gone. -/
def reap (pool : Pool) : Pool :=
  { pool with
    active := pool.active.filter fun user => !user.isGone
    draining := pool.draining.filter fun user => !user.isGone }

/-- The pool with every user changed. -/
def map (f : User → User) (pool : Pool) : Pool :=
  { pool with active := pool.active.map f, draining := pool.draining.map f }

/-- The pool of a run that stops. -/
def retireAll (pool : Pool) : Pool := pool.map User.retire

/-- The user with a number. -/
def find? (pool : Pool) (id : Nat) : Option User := pool.users.find? fun user => user.id = id

/-- The pool with a user in the place of the one of its number. -/
def replace (pool : Pool) (user : User) : Pool :=
  pool.map fun other => if other.id = user.id then user else other

/-- Whether all users are gone. -/
def isQuiet (pool : Pool) : Bool := pool.users.all User.isGone

end Pool

end LoadTest
