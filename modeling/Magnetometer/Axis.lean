/-!
# Axes and triples

The three measurement axes and values given per axis.  A `Triple` is the one
shape of everything that comes in x, y, z order: samples, offsets, fuse bytes
and stored calibration.  `get_set_same` and `get_set_other` say that setting
one axis changes that axis and no other.
-/

namespace Magnetometer

/-- A measurement axis. -/
inductive Axis where
  | x
  | y
  | z
deriving DecidableEq, Repr

namespace Axis

/-- All axes in x, y, z order. -/
def all : List Axis := [x, y, z]

/-- Position of an axis in x, y, z order. -/
def index : Axis → Nat
  | x => 0
  | y => 1
  | z => 2

/-- The lower-case letter that names an axis in text. -/
def letter : Axis → Char
  | x => 'x'
  | y => 'y'
  | z => 'z'

/-- The axis that a lower-case letter names. -/
def ofLetter? : Char → Option Axis
  | 'x' => some x
  | 'y' => some y
  | 'z' => some z
  | _ => none

@[simp]
theorem ofLetter?_letter (axis : Axis) : ofLetter? axis.letter = some axis := by
  cases axis <;> rfl

end Axis

/-- A value on each axis. -/
@[ext]
structure Triple (α : Type) where
  x : α
  y : α
  z : α
deriving DecidableEq, Repr

namespace Triple

variable {α β γ : Type}

/-- The same value on every axis. -/
def replicate (value : α) : Triple α := ⟨value, value, value⟩

/-- The triple with a given value on each axis. -/
def ofFn (f : Axis → α) : Triple α := ⟨f .x, f .y, f .z⟩

/-- Value on one axis. -/
def get (t : Triple α) : Axis → α
  | .x => t.x
  | .y => t.y
  | .z => t.z

/-- Replace the value on one axis. -/
def set (t : Triple α) (axis : Axis) (value : α) : Triple α :=
  match axis with
  | .x => { t with x := value }
  | .y => { t with y := value }
  | .z => { t with z := value }

/-- Apply a function on every axis. -/
def map (f : α → β) (t : Triple α) : Triple β := ⟨f t.x, f t.y, f t.z⟩

/-- Combine two triples axis by axis. -/
def zipWith (f : α → β → γ) (s : Triple α) (t : Triple β) : Triple γ :=
  ⟨f s.x t.x, f s.y t.y, f s.z t.z⟩

/-- The values in x, y, z order. -/
def toList (t : Triple α) : List α := [t.x, t.y, t.z]

/-- The triple of exactly three values in x, y, z order. -/
def ofList? : List α → Option (Triple α)
  | [a, b, c] => some ⟨a, b, c⟩
  | _ => none

@[simp]
theorem get_replicate (value : α) (axis : Axis) : (replicate value).get axis = value := by
  cases axis <;> rfl

@[simp]
theorem get_ofFn (f : Axis → α) (axis : Axis) : (ofFn f).get axis = f axis := by
  cases axis <;> rfl

@[simp]
theorem get_map (f : α → β) (t : Triple α) (axis : Axis) :
    (t.map f).get axis = f (t.get axis) := by
  cases axis <;> rfl

@[simp]
theorem get_zipWith (f : α → β → γ) (s : Triple α) (t : Triple β) (axis : Axis) :
    (zipWith f s t).get axis = f (s.get axis) (t.get axis) := by
  cases axis <;> rfl

@[simp]
theorem get_set_same (t : Triple α) (axis : Axis) (value : α) :
    (t.set axis value).get axis = value := by
  cases axis <;> rfl

theorem get_set_other (t : Triple α) {axis other : Axis} (value : α) (h : other ≠ axis) :
    (t.set axis value).get other = t.get other := by
  cases axis <;> cases other <;> first | rfl | exact absurd rfl h

/-- Two triples that agree on every axis are equal. -/
theorem ext_get {s t : Triple α} (h : ∀ axis, s.get axis = t.get axis) : s = t :=
  Triple.ext (h .x) (h .y) (h .z)

theorem get_mem_toList (t : Triple α) (axis : Axis) : t.get axis ∈ t.toList := by
  cases axis <;> simp [get, toList]

@[simp]
theorem ofList?_toList (t : Triple α) : ofList? t.toList = some t := rfl

end Triple

end Magnetometer
