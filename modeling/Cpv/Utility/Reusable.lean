import Mathlib.Data.Finset.Basic
import Cpv.Core.Machine
import Cpv.Core.Slots

namespace cpv

/-- What is being executed, inside which more operations on handles can happen -/
inductive ReusableFrame
  /-- `freeResources` of an object, in the deleter that has read a size -/
  | freeing (object size : Nat)
  /-- The destructor of an object -/
  | destroying
  /-- A move assignment, in the deleter of what its target owned -/
  | assigning (target other : Nat)
  /-- `reset` of an object, in `makeReusable`, whose local handle owns it -/
  | resetting (object : Nat)
deriving DecidableEq

namespace ReusableFrame

/-- The object that a local variable owns -/
def object : ReusableFrame → Option Nat
  | .freeing object _ => some object
  | .resetting object => some object
  | _ => none

/-- The size that the deleter has read -/
def savedSize : ReusableFrame → Option Nat
  | .freeing _ size => some size
  | _ => none

end ReusableFrame

/-- The handles of a type, the storage of the type and what is being executed. A handle that was destroyed stays in the
    list as one that owns nothing. The objects that were made and not destroyed yet are `alive`. -/
structure ReusableState where
  handles : List (Option Nat) := []
  freeList : List (Option Nat)
  size : Nat := 0
  frames : List ReusableFrame := []
  alive : Finset Nat := ∅
  made : Nat := 0

/-- What can happen next. The destructor of a handle does the same as its `reset`. -/
inductive ReusableLabel
  | makeReusable (constructed : Bool)
  | resetReturns
  | resetThrows
  | moveConstruct (handle : Nat)
  | moveAssign (target other : Nat)
  | cast (handle : Nat) (sameAddress : Bool)
  | reset (handle : Nat)
  | freeResourcesReturns
  | freeResourcesThrows
  | destructorReturns
deriving DecidableEq

namespace ReusableState

/-- The storage at the beginning -/
def start (Capacity : Nat) : ReusableState := { freeList := List.replicate Capacity none }

/-- Neither `freeResources` nor a destructor is being executed. These do nothing but to release other objects. -/
def running (state : ReusableState) : Bool :=
  match state.frames with
  | [] => true
  | .resetting _ :: _ => true
  | _ => false

/-- The deleter of an object, up to `freeResources` or to the destructor -/
def deleter (state : ReusableState) (object : Nat) : ReusableState :=
  if state.size < state.freeList.length then { state with frames := .freeing object state.size :: state.frames }
  else { state with frames := .destroying :: state.frames, alive := state.alive.erase object }

/-- The target takes what the other handle owns. -/
def moveInto (state : ReusableState) (target other : Nat) : ReusableState :=
  { state with handles := (state.handles.set target (state.handles.getD other none)).set other none }

/-- What comes after a deleter: the rest of the move assignment that has called it. -/
def resume (state : ReusableState) : ReusableState :=
  match state.frames with
  | .assigning target other :: frames => { state with frames }.moveInto target other
  | _ => state

/-- Allocate reusable object, up to its `reset`. A new one is not there where its constructor throws. -/
def makeReusable (state : ReusableState) (constructed : Bool) : Option ReusableState :=
  if state.size = 0 then
    if constructed then
      some
        { state with
          frames := .resetting state.made :: state.frames
          alive := insert state.made state.alive
          made := state.made + 1 }
    else some state
  else
    (state.freeList.getD (state.size - 1) none).map fun object =>
      { state with
        freeList := state.freeList.set (state.size - 1) none
        size := state.size - 1
        frames := .resetting object :: state.frames }

/-- Delete pointer or move pointer to free list -/
def reset (state : ReusableState) (handle : Nat) : Option ReusableState :=
  state.handles[handle]?.map fun ptr => ptr.elim state fun object =>
    deleter { state with handles := state.handles.set handle none } object

/-- Move constructor. The new handle is the last one. -/
def moveConstruct (state : ReusableState) (handle : Nat) : Option ReusableState :=
  state.handles[handle]?.map fun ptr => { state with handles := state.handles.set handle none ++ [ptr] }

/-- Move assignment -/
def moveAssign (state : ReusableState) (target other : Nat) : Option ReusableState :=
  if target = other then some state
  else if other < state.handles.length then
    state.handles[target]?.map fun ptr => ptr.elim (state.moveInto target other) fun object =>
      deleter { state with handles := state.handles.set target none, frames := .assigning target other :: state.frames }
        object
  else none

/-- The rest of the deleter: the object goes to the slot of the size that was read, and what was there is destroyed. It
    holds no handle, as its own `freeResources` has left none. -/
def freeResourcesReturns (state : ReusableState) : Option ReusableState :=
  match state.frames with
  | .freeing object size :: frames =>
    some (resume
      { state with
        freeList := state.freeList.set size (some object)
        size := size + 1
        frames
        alive := (state.freeList.getD size none).elim state.alive state.alive.erase })
  | _ => none

/-- The rest of the deleter after an exception: the object is destroyed. -/
def freeResourcesThrows (state : ReusableState) : Option ReusableState :=
  match state.frames with
  | .freeing object _ :: frames =>
    some { state with frames := .destroying :: frames, alive := state.alive.erase object }
  | _ => none

def step (state : ReusableState) : ReusableLabel → Option ReusableState
  | .makeReusable constructed => if state.running then state.makeReusable constructed else none
  | .resetReturns =>
    match state.frames with
    | .resetting object :: frames => some { state with frames, handles := state.handles ++ [some object] }
    | _ => none
  | .resetThrows =>
    match state.frames with
    | .resetting object :: frames => some (deleter { state with frames } object)
    | _ => none
  | .moveConstruct handle => if state.running then state.moveConstruct handle else none
  | .moveAssign target other => if state.running then state.moveAssign target other else none
  | .cast handle sameAddress =>
    if state.running then if sameAddress then state.moveConstruct handle else some state else none
  | .reset handle => state.reset handle
  | .freeResourcesReturns => state.freeResourcesReturns
  | .freeResourcesThrows => state.freeResourcesThrows
  | .destructorReturns =>
    match state.frames with
    | .destroying :: frames => some (resume { state with frames })
    | _ => none

/-- How many handles, slots and local variables own an object -/
def owners (state : ReusableState) (object : Nat) : Nat :=
  state.handles.count (some object) + state.freeList.count (some object) +
    (state.frames.map ReusableFrame.object).count (some object)

end ReusableState

end cpv
