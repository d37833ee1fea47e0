/-
Module: LogLens.Proofs.Showing
Purpose: What a settled view shows, as a function of the messages of its lines and of how its filters
  are set.  The places of the filters show in the masks alone.
Main exports: Pattern.meets, Registry.maskOn, shows, shownIn, Shows,
  LogView.Settled.masks_eq, LogView.Settled.visible_eq, LogView.Settled.hits_eq
-/
import LogLens.Proofs.Commanding

namespace LogLens

/-- Whether a pattern matches a line of a message. -/
def Pattern.meets (pattern : Pattern) (message : List RawLine) : Bool :=
  message.any fun line => pattern.isMatch line.bytes

namespace Registry

/-- The places of the filters that match a line of a message. -/
def maskOn (registry : Registry) (message : List RawLine) : Mask :=
  (registry.filters.filter (·.pattern.meets message)).foldl
    (fun mask filter => mask ||| filter.index.bit) 0

/-- A message's mask holds the places of the filters that match one of its lines. -/
theorem has_maskOn (registry : Registry) (message : List RawLine) (slot : Slot) :
    (registry.maskOn message).has slot = true ↔
      ∃ filter ∈ registry.filters, filter.index = slot ∧ filter.pattern.meets message = true := by
  rw [maskOn, has_foldl_bit, Mask.has_zero, Bool.false_or]
  simp [and_comm]

/-! What the filters have read does not show in how they are set. -/

@[simp] theorem settings_unread (registry : Registry) :
    registry.unread.settings = registry.settings := by
  simp only [settings, unread, List.map_map]
  rfl

@[simp] theorem patterns_unread (registry : Registry) :
    registry.unread.filters.map Filter.pattern = registry.filters.map Filter.pattern := by
  simp only [unread, List.map_map]
  rfl

@[simp] theorem maskOn_unread (registry : Registry) : registry.unread.maskOn = registry.maskOn := by
  funext message
  simp only [maskOn, unread, List.filter_map, List.foldl_map]
  rfl

end Registry

/-- Whether filters that are set in some way let a message be seen: an enabled one keeps it, or there
is none that keeps, and no enabled one hides it. -/
def shows (settings : List (FilterKind × Pattern × Bool)) (message : List RawLine) : Bool :=
  let acting (kind : FilterKind) := settings.filter fun setting => setting.2.2 && setting.1 == kind
  let meets (kind : FilterKind) := (acting kind).any fun setting => setting.2.1.meets message
  ((acting .keep).isEmpty || meets .keep) && !meets .hide

/-- Whether a line is admitted depends on the settings and on its message only. -/
theorem Registry.admits_eq (registry : Registry) (lines : List RawLine) (line : Nat) :
    registry.admits lines line = shows registry.settings (messageOf lines line) := by
  have acting : ∀ kind, (registry.settings.filter fun setting =>
      setting.2.2 && setting.1 == kind) = (registry.acting kind).map Filter.setting := by
    intro kind
    rw [settings, List.filter_map]
    rfl
  simp only [shows, acting, List.any_map, List.isEmpty_map]
  rfl

/-- The numbers of the lines whose message filters let be seen that are set in some way. -/
def shownIn (settings : List (FilterKind × Pattern × Bool)) (lines : List RawLine) : List Nat :=
  (List.range lines.length).filter fun line => shows settings (messageOf lines line)

/-- Lines that begin a message of their own are seen behind others as they are seen alone. -/
theorem shownIn_append (settings : List (FilterKind × Pattern × Bool)) {closed rest : List RawLine}
    (begins : closed = [] ∨ ∀ line ∈ rest.head?, line.starts = true) :
    shownIn settings (closed ++ rest) =
      shownIn settings closed ++ (shownIn settings rest).map (closed.length + ·) := by
  rw [shownIn, List.length_append, List.range_add, List.filter_append, List.filter_map]
  congr 1
  · apply List.filter_congr
    intro line inClosed
    rw [messageOf_append_left begins (List.mem_range.1 inClosed)]
  · apply congrArg
    apply List.filter_congr
    intro line inRest
    rw [Function.comp_apply, messageOf_append_right begins (List.mem_range.1 inRest)]

/-! ### A settled view -/

namespace LogView

variable {view : LogView}

/-- The mask of each line names the filters that match its message. -/
theorem Settled.masks_eq (settled : view.Settled) :
    view.engine.state.masks.toList =
      (messages view.buffer.source.lines).map view.filters.maskOn := by
  have evaluated := settled.evaluated
  have length : view.engine.state.length = view.lineCount :=
    settled.length_eq.trans view.length_source
  rw [FilterState.toList_masks, length, messages, List.map_map, length_source]
  apply List.map_congr_left
  intro line inLines
  apply Mask.ext_has
  intro slot
  rw [Bool.eq_iff_iff, evaluated.marked line (List.mem_range.1 inLines) slot]
  exact (view.filters.has_maskOn (messageOf view.buffer.source.lines line) slot).symm

/-- Those lines are seen whose message the filters let be seen. -/
theorem Settled.visible_eq (settled : view.Settled) :
    view.visibleLines = shownIn view.filters.settings view.buffer.source.lines := by
  rw [settled.evaluated.seen, shownIn, length_source]
  apply List.filter_congr
  intro line _
  exact view.filters.admits_eq view.buffer.source.lines line

/-- The hits of a filter are the lines whose message its pattern matches. -/
theorem Settled.hits_eq (settled : view.Settled) (id : String) :
    view.hits? id = ((view.filters.filters.map Filter.pattern).find? (·.source == id)).map
      fun pattern => (messages view.buffer.source.lines).countP pattern.meets := by
  have named : (fun pattern : Pattern => pattern.source == id) ∘ Filter.pattern =
      fun filter : Installed => filter.id == id := by
    funext filter
    rw [filter.named]
    rfl
  have finds : view.filters.find? id = view.filters.filters.find? (·.id == id) := rfl
  rw [List.find?_map, named, Option.map_map, hits?, ← finds]
  cases found : view.filters.find? id with
  | none => rfl
  | some filter =>
      have member := List.mem_of_find?_eq_some found
      have column := ((settled.reads filter member).stands_closed
        (settled.allClosed filter member)).column_eq
      rw [Option.map_some, ← FilterState.hits_column, column, Column.extend, Nat.zero_add,
        decisions_eq, List.count_eq_countP, List.countP_map]
      apply congrArg some
      apply List.countP_congr
      intro message _
      rw [Function.comp_apply, beq_true]
      rfl

end LogView

/-- A view is settled and shows filters as commands make them, and the lines of its logs. -/
structure Shows (registry : Registry) (view : LogView) (lines : List RawLine) : Prop where
  settled : view.Settled
  unread : view.filters.unread = registry.unread
  lines_eq : view.buffer.source.lines = lines

section Shows

variable {registry : Registry} {view after : LogView} {lines : List RawLine}

/-- A settled view shows the lines and the filters that are in its outline. -/
theorem shows_of_outline (settled : after.Settled)
    (same : after.outline = (view.withFilters registry.unread).outline) :
    Shows registry after view.buffer.source.lines := by
  have buffer : after.outline.buffer = (view.withFilters registry.unread).outline.buffer :=
    congrArg LogView.buffer same
  have sameBuffer : after.buffer = view.buffer := buffer
  refine ⟨settled, (LogView.unread_of_outline same).trans registry.unread_unread, ?_⟩
  rw [sameBuffer]

theorem Shows.settings (shown : Shows registry view lines) :
    view.filters.settings = registry.settings := by
  rw [← Registry.settings_unread, shown.unread, Registry.settings_unread]

/-- The masks are those of the messages, line by line. -/
theorem Shows.masks_eq (shown : Shows registry view lines) :
    view.engine.state.masks.toList = (messages lines).map registry.maskOn := by
  rw [shown.settled.masks_eq, shown.lines_eq, ← Registry.maskOn_unread, shown.unread,
    Registry.maskOn_unread]

/-- The visible lines are those that the settings show. -/
theorem Shows.visible_eq (shown : Shows registry view lines) :
    view.visibleLines = shownIn registry.settings lines := by
  rw [shown.settled.visible_eq, shown.lines_eq, shown.settings]

/-- The hits of a filter are the lines whose message its pattern meets. -/
theorem Shows.hits_eq (shown : Shows registry view lines) (id : String) :
    view.hits? id = ((registry.filters.map Filter.pattern).find? (·.source == id)).map
      fun pattern => (messages lines).countP pattern.meets := by
  rw [shown.settled.hits_eq, shown.lines_eq, ← Registry.patterns_unread, shown.unread,
    Registry.patterns_unread]

end Shows

end LogLens
