/-
Module: LogLens.Filter.Registry
Purpose: The filters in force, in the order in which they were added, and which places have to be
  evaluated anew because their filter changed.
Main exports: Registry, Registry.nextSlot, Registry.checkPlaces, Registry.install,
  Registry.addPattern, Registry.delete?, Registry.replacePattern, Registry.enabledMasks,
  Registry.script
-/
import LogLens.Filter.Basic
import LogLens.Filter.Error

namespace LogLens

/-- The filters in force. -/
structure Registry where
  filters : List Installed := []
  /-- The places whose filter was added, changed or deleted since they were last taken. -/
  dirty : Mask := 0
deriving Repr, Inhabited

namespace Registry

def size (registry : Registry) : Nat := registry.filters.length

def isEmpty (registry : Registry) : Bool := registry.filters.isEmpty

def isFull (registry : Registry) : Bool := registry.size == maxFilters

def find? (registry : Registry) (id : String) : Option Installed :=
  registry.filters.find? (·.id == id)

def atIndex? (registry : Registry) (index : Nat) : Option Installed :=
  registry.filters.find? (·.index.val == index)

/-- The places of all filters. -/
def usedMask (registry : Registry) : Mask :=
  registry.filters.foldl (fun mask filter => mask ||| filter.index.bit) 0

/-- The places of the enabled filters of one kind. -/
def enabledMask (registry : Registry) (kind : FilterKind) : Mask :=
  (registry.filters.filter fun f => f.enabled && f.kind == kind).foldl
    (fun mask filter => mask ||| filter.index.bit) 0

/-- The places of the enabled filters that keep and of those that hide. -/
def enabledMasks (registry : Registry) : Mask × Mask :=
  (registry.enabledMask .keep, registry.enabledMask .hide)

/-- Note the places of filters.  No place may be noted twice. -/
def notePlaces (used : Mask) : List Installed → Except Fault Mask
  | [] => .ok used
  | filter :: rest =>
    if used.has filter.index then .error (.placeTwice filter.index.val)
    else notePlaces (used ||| filter.index.bit) rest

/-- What is taken for granted where the first free place is looked for: that no two filters have one
place. -/
def checkPlaces (registry : Registry) : Except Fault Unit :=
  if registry.isFull then .ok () else (notePlaces 0 registry.filters).map fun _ => ()

/-- The first free place. -/
def nextSlot (registry : Registry) : Except FilterError Slot :=
  if registry.isFull then .error .tooManyFilters
  else match Slot.all.find? fun slot => registry.filters.all (·.index != slot) with
    | some slot => .ok slot
    | none => .error .tooManyFilters

/-- Note that the filter of a place changed. -/
def touch (registry : Registry) (slot : Slot) : Registry :=
  { registry with dirty := registry.dirty ||| slot.bit }

/-- Install a filter at the place it names, if place and name are free. -/
def install (registry : Registry) (filter : Filter Nat) : Except FilterError Registry :=
  if registry.isFull then .error .tooManyFilters
  else if (registry.find? filter.id).isSome then .error (.duplicateFilter filter.id)
  else if h : filter.index < maxFilters then
    let slot : Slot := ⟨filter.index, h⟩
    if registry.usedMask.has slot then .error (.indexInUse filter.index)
    else .ok ({ registry with filters := registry.filters ++ [filter.moveTo slot] }.touch slot)
  else .error (.indexInUse filter.index)

/-- Compile a pattern and install a filter for it at the first free place. -/
def addPattern [PatternCompiler] (registry : Registry) (kind : FilterKind) (source : String)
    (caseSensitive : Bool) : Except FilterError (Slot × Registry) := do
  let slot ← registry.nextSlot
  let pattern ← Pattern.compile source caseSensitive
  let registry ← registry.install (.new kind slot.val pattern)
  return (slot, registry)

/-- Remove the filter of the given name; none if there is no such filter. -/
def delete? (registry : Registry) (id : String) : Option Registry :=
  (registry.find? id).map fun filter =>
    { registry with filters := registry.filters.eraseP (·.id == id) }.touch filter.index

/-- Change the first filter that satisfies a test. -/
def modifyFirst (test : Installed → Bool) (change : Installed → Installed) :
    List Installed → List Installed
  | [] => []
  | f :: rest => if test f then change f :: rest else f :: modifyFirst test change rest

/-- Change the filter of the given name; none if there is no such filter. -/
def modify? (registry : Registry) (id : String) (change : Installed → Installed) :
    Option Registry :=
  if (registry.find? id).isSome then
    some { registry with filters := modifyFirst (·.id == id) change registry.filters }
  else none

/-- Turn a filter on or off.  Its place and its decisions are kept. -/
def setEnabled? (registry : Registry) (id : String) (enabled : Bool) : Option Registry :=
  registry.modify? id (·.setEnabled enabled)

/-- Change the kind of a filter.  Its place and its decisions are kept. -/
def setKind? (registry : Registry) (id : String) (kind : FilterKind) : Option Registry :=
  registry.modify? id (·.setKind kind)

/-- Give a filter another pattern.  It keeps its place in the masks and in the order. -/
def replacePattern (registry : Registry) (id : String) (pattern : Pattern) :
    Except FilterError (Slot × Registry) :=
  if id ≠ pattern.source ∧ (registry.find? pattern.source).isSome then
    .error (.duplicateFilter pattern.source)
  else match registry.find? id with
    | none => .error (.unknownFilter id)
    | some filter =>
      let filters := modifyFirst (·.id == id) (·.replacePattern pattern) registry.filters
      .ok (filter.index, { registry with filters }.touch filter.index)

/-- The places to be evaluated anew, which are taken from the registry. -/
def takeDirty (registry : Registry) : Mask × Registry :=
  (registry.dirty, { registry with dirty := 0 })

/-- The commands that create the filters again; one that is off is turned off by a second one. -/
def script (registry : Registry) : List String :=
  registry.filters.flatMap fun filter =>
    filter.render :: if filter.enabled then [] else ["disable-filter " ++ filter.id]

end Registry

end LogLens
