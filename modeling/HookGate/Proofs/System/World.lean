import Mathlib
import HookGate.Settings.Path
import HookGate.System.Host

/-!
# Runs in a world

A host of `StateM W` answers from a state of the world and may change it. The laws here take a
run apart, step by step.

A relation between worlds says what matters of them. A computation leaves that as it was if the
relation holds between the worlds before and after it, and computations put together do if each
part does.
-/

namespace HookGate

variable {W L α β : Type}

/-- What a computation gives in a world, with the world that it leaves. -/
def runIn (x : StateM W α) (w : W) : α × W := Id.run (x.run w)

@[simp] theorem runIn_pure (a : α) (w : W) : runIn (pure a) w = (a, w) := rfl

@[simp] theorem runIn_bind (x : StateM W α) (f : α → StateM W β) (w : W) :
    runIn (x >>= f) w = runIn (f (runIn x w).1) (runIn x w).2 := rfl

@[simp] theorem runIn_map (f : α → β) (x : StateM W α) (w : W) :
    runIn (f <$> x) w = (f (runIn x w).1, (runIn x w).2) := rfl

@[simp] theorem runIn_get (w : W) : runIn (get : StateM W W) w = (w, w) := rfl

@[simp] theorem runIn_set (w w' : W) : runIn (set w' : StateM W PUnit) w = (⟨⟩, w') := rfl

/-- A world that never changes: every path leads to a file of this text, and no program is there. -/
def Host.holding (text : String) : Host (StateM Unit) where
  isThere _ := pure true
  isFile _ := pure true
  listing? _ := pure none
  readText _ := pure (.ok text)
  makeDirectories _ := pure (.error (.os .alreadyThere))
  writeText _ _ := pure (.error (.os .denied))
  removeFile _ := pure (.error (.os .denied))
  launch l := pure (.error (.missing l.program))
  openLog? _ := pure none
  timestamp := pure "2026-01-01T00:00:00Z"

/-! ## What is left as it was -/

/-- The world that a computation ends in is related to the one that it began in. -/
def Leaves (R : W → W → Prop) (x : StateM W α) : Prop := ∀ w, R w (runIn x w).2

/-- Relations for which leaving things as they were adds up. -/
class Persists (R : W → W → Prop) : Prop where
  refl : ∀ w, R w w
  trans : ∀ {a b c}, R a b → R b c → R a c

section

variable {R : W → W → Prop} [Persists R]

theorem leaves_pure (a : α) : Leaves R (pure a) := fun w => Persists.refl w

theorem Leaves.bind {x : StateM W α} {f : α → StateM W β} (hx : Leaves R x)
    (hf : ∀ a, Leaves R (f a)) : Leaves R (x >>= f) :=
  fun w => Persists.trans (hx w) (hf _ _)

/-- What follows a computation does not matter if all it does is to give a value. -/
theorem Leaves.andReturn {x : StateM W α} (f : α → β) (hx : Leaves R x) :
    Leaves R (x >>= fun a => pure (f a)) :=
  hx.bind fun a => leaves_pure (f a)

end

namespace Host

/-- To ask the host about files and time leaves things as they were. -/
structure AsksOnly (R : W → W → Prop) (host : Host (StateM W)) : Prop where
  isThere : ∀ path, Leaves R (host.isThere path)
  isFile : ∀ path, Leaves R (host.isFile path)
  listing : ∀ path, Leaves R (host.listing? path)
  readText : ∀ path, Leaves R (host.readText path)
  timestamp : Leaves R host.timestamp

/-- So does to make, write and remove a file at this path. -/
structure SparedAt (R : W → W → Prop) (host : Host (StateM W)) (path : String) : Prop where
  makeDirectories : ∀ above, Path.parent? path = some above → Leaves R (host.makeDirectories above)
  writeText : ∀ text, Leaves R (host.writeText path text)
  removeFile : Leaves R (host.removeFile path)

end Host

/-! ## Worlds with something beside them -/

/-- The same computation in a world that has something beside it. -/
def aside (x : StateM W α) : StateM (W × L) α := fun p => ((runIn x p.1).1, ((runIn x p.1).2, p.2))

theorem runIn_aside (x : StateM W α) (w : W) (l : L) :
    runIn (aside x) (w, l) = ((runIn x w).1, ((runIn x w).2, l)) :=
  rfl

theorem aside_bind (x : StateM W α) (f : α → StateM W β) :
    aside (L := L) (x >>= f) = aside x >>= fun a => aside (f a) :=
  rfl

/-- Nothing has changed beside the world. -/
def SameBeside (p q : W × L) : Prop := q.2 = p.2

instance : Persists (SameBeside (W := W) (L := L)) where
  refl _ := rfl
  trans h₁ h₂ := h₂.trans h₁

theorem leaves_aside (x : StateM W α) : Leaves (SameBeside (L := L)) (aside x) := fun _ => rfl

namespace Host

/-- A host for a world with something beside it that it knows nothing of. -/
def beside (L : Type) (host : Host (StateM W)) : Host (StateM (W × L)) := host.map aside

theorem asksOnly_beside (host : Host (StateM W)) : AsksOnly SameBeside (host.beside L) where
  isThere _ := leaves_aside _
  isFile _ := leaves_aside _
  listing _ := leaves_aside _
  readText _ := leaves_aside _
  timestamp := leaves_aside _

theorem sparedAt_beside (host : Host (StateM W)) (path : String) :
    SparedAt SameBeside (host.beside L) path where
  makeDirectories _ _ := leaves_aside _
  writeText _ := leaves_aside _
  removeFile := leaves_aside _

theorem leaves_launch_beside (host : Host (StateM W)) (l : Launch) :
    Leaves SameBeside ((host.beside L).launch l) :=
  leaves_aside _

end Host

end HookGate
