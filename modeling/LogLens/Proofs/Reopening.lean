/-
Module: LogLens.Proofs.Reopening
Purpose: A message that ended is opened again whole, however long ago it ended.  As long as its lines
  are not cleared, its end may as well come later: all that is done with other filters and with the
  state comes to the same in front of it and behind it.  So to open the message again, to read on and
  to end it is to end it once.
Main exports: FilterState.Stamps, FilterState.TakesBack, Bench.Ahead, Bench.Ahead.run, Bench.Reopens,
  Bench.Sound.reopens, Bench.run_reopen
-/
import LogLens.Proofs.Separation
import LogLens.Proofs.SteppingBack

namespace LogLens

open FilterState (Alters)

/-! ### A message on the state -/

namespace FilterState

/-- The one state becomes the other when a message is stamped at a place. -/
def Stamps (slot : Slot) (message : Message) (before after : FilterState) : Prop :=
  Alters slot ((before.column slot).stamp message.lines message.matched)
    (max before.length (before.count slot + message.lines)) before after

/-- The last stamps of a place are taken back, together with the hits among them, and nothing else is
changed. -/
structure TakesBack (slot : Slot) (lines : Nat) (before after : FilterState) : Prop where
  logfile : after.logfile = before.logfile
  length : after.length = before.length
  count : after.count slot + lines = before.count slot
  hits : after.hits slot + (List.range' (after.count slot) lines).countP
    (fun line => (before.mask line).has slot) = before.hits slot
  bits : ∀ line other, (after.mask line).has other =
    if other = slot ∧ after.count slot ≤ line ∧ line < before.count slot then false
    else (before.mask line).has other
  others : ∀ other, other ≠ slot →
    after.count other = before.count other ∧ after.hits other = before.hits other

variable {slot : Slot} {message : Message} {before after next next' : FilterState}

namespace Stamps

/-- What is stamped is known from what it is stamped on. -/
theorem unique (stamps : Stamps slot message before after) (stamps' : Stamps slot message before next) :
    after = next := by
  apply ext_columns stamps.bounded stamps'.bounded
  · exact stamps.logfile.trans stamps'.logfile.symm
  · exact stamps.length_eq.trans stamps'.length_eq.symm
  · intro other
    by_cases own : other = slot
    · rw [own, stamps.own, stamps'.own]
    · rw [stamps.other other own, stamps'.other other own]

/-- What changes both states alike, and not at the place, may as well be done first. -/
theorem congr (stamps : Stamps slot message before after) (bounded : next'.Bounded)
    (logfile : next'.logfile = next.logfile)
    (length : next'.length = max next.length (next.count slot + message.lines))
    (own : next.column slot = before.column slot) (own' : next'.column slot = after.column slot)
    (others : ∀ other, other ≠ slot → next'.column other = next.column other) :
    Stamps slot message next next' where
  bounded := bounded
  logfile := logfile
  length_eq := length
  own := by rw [own', stamps.own, own]
  other := others

theorem resize (stamps : Stamps slot message before after) (room : Nat) :
    Stamps slot message (before.resize room) (after.resize room) := by
  apply stamps.congr (stamps.bounded.resize room)
  · exact stamps.logfile
  · rw [length_resize, length_resize, count_resize, stamps.length_eq]
    omega
  · exact column_resize before room slot
  · exact column_resize after room slot
  · intro other apart
    rw [column_resize, column_resize, stamps.other other apart]

theorem attach (stamps : Stamps slot message before after) (logfile : String) :
    Stamps slot message (before.attach logfile) (after.attach logfile) :=
  stamps.congr ⟨stamps.bounded.count_le, stamps.bounded.blank⟩ rfl stamps.length_eq rfl rfl
    stamps.other

theorem forget (stamps : Stamps slot message before after) {places : Mask}
    (kept : places.has slot = false) :
    Stamps slot message (before.forget places) (after.forget places) := by
  apply stamps.congr (stamps.bounded.forget places)
  · exact stamps.logfile
  · rw [length_forget, length_forget, count_forget, kept]
    exact stamps.length_eq
  · rw [column_forget, kept]
    rfl
  · rw [column_forget, kept]
    rfl
  · intro other apart
    rw [column_forget, column_forget, stamps.other other apart]

/-- Another filter does the same on both states. -/
theorem beside (stamps : Stamps slot message before after) {other : Slot} (apart : other ≠ slot)
    {column : Column} {room : Nat}
    (alters : Alters other column (max before.length room) before next)
    (alters' : Alters other column (max after.length room) after next') :
    Stamps slot message next next' := by
  have own := alters.other slot (Ne.symm apart)
  apply stamps.congr alters'.bounded
  · exact alters'.logfile.trans (stamps.logfile.trans alters.logfile.symm)
  · rw [alters'.length_eq, alters.length_eq, stamps.length_eq, ← count_column next, own, count_column]
    omega
  · exact own
  · exact alters'.other slot (Ne.symm apart)
  · intro third apart'
    by_cases here : third = other
    · rw [here, alters.own, alters'.own]
    · rw [alters.other third here, alters'.other third here, stamps.other third apart']

/-- The lines of the message bear its decision. -/
theorem marks_stamped (stamps : Stamps slot message before after) {line : Nat}
    (behind : before.count slot ≤ line) (within : line < before.count slot + message.lines) :
    (after.mask line).has slot = message.matched := by
  rw [stamps.bounded.has_mask, stamps.own, Column.marked_stamp, count_column,
    if_neg (Nat.not_lt.2 behind)]
  simp [within]

/-- The hits gained by a stamp are the bits it set. -/
theorem hits_stamped (stamps : Stamps slot message before after) :
    before.hits slot + (List.range' (before.count slot) message.lines).countP
      (fun line => (after.mask line).has slot) = after.hits slot := by
  have hits : after.hits slot = before.hits slot + if message.matched then message.lines else 0 :=
    congrArg Column.hits stamps.own
  have marks : ∀ line ∈ List.range' (before.count slot) message.lines,
      (after.mask line).has slot = message.matched := by
    intro line member
    obtain ⟨behind, within⟩ := List.mem_range'_1.1 member
    exact stamps.marks_stamped behind within
  rw [hits]
  cases matched : message.matched with
  | true =>
      rw [List.countP_eq_length.2 fun line member => (marks line member).trans matched,
        List.length_range']
      rfl
  | false =>
      rw [List.countP_eq_zero.2 fun line member => by simp [marks line member, matched]]
      rfl

/-- What was stamped last is what is taken back. -/
theorem takesBack (stamps : Stamps slot message before after) (bounded : before.Bounded) :
    TakesBack slot message.lines after (before.resize after.length) := by
  have counted : before.count slot + message.lines = after.count slot := by
    rw [← count_column after, stamps.own, Column.count_stamp, count_column]
  refine ⟨stamps.logfile.symm, ?_, counted, ?_, ?_, ?_⟩
  · have length := stamps.length_eq
    rw [length_resize]
    omega
  · exact stamps.hits_stamped
  · intro line other
    rw [mask_resize, count_resize, ← counted]
    by_cases own : other = slot
    · subst own
      rcases Nat.lt_or_ge line (before.count other) with front | behind
      · have kept : (after.mask line).has other = (before.mask line).has other := by
          rw [stamps.bounded.has_mask, stamps.own, Column.marked_stamp, count_column, if_pos front,
            bounded.has_mask]
        simp [kept, front]
      · rw [bounded.blank other line behind]
        by_cases within : line < before.count other + message.lines
        · simp [behind, within]
        · rw [if_neg (by tauto), stamps.bounded.blank other line (by omega)]
    · rw [if_neg (fun here => own here.1), bounded.has_mask, stamps.bounded.has_mask,
        stamps.other other own]
  · intro other apart
    have same := stamps.other other apart
    rw [count_resize, ← count_column before, ← count_column after, same]
    exact ⟨rfl, congrArg Column.hits same.symm⟩

end Stamps

end FilterState

open FilterState (Stamps TakesBack)

/-- Ending a message stamps what the filter has pending. -/
theorem Filter.endMessage_stamps (filter : Installed) {state : FilterState}
    (bounded : state.Bounded) :
    ∃ after, filter.endMessage state = .ok (filter.ended, after) ∧
      Stamps filter.index filter.pending state after :=
  filter.endMessage_alters bounded

/-- A message can be opened again once only. -/
theorem Filter.last_of_reopen {filter opened : Installed} {state next : FilterState} {lines : Nat}
    (reopens : filter.reopen state = .ok (lines, opened, next)) : opened.last = none := by
  cases last : filter.last with
  | none =>
      rw [reopen_none last] at reopens
      cases reopens
      exact last
  | some message =>
      simp only [reopen, last] at reopens
      obtain ⟨_, _, opens⟩ := ok_of_bind reopens
      cases opens
      rfl

/-- A message that was taken back cannot be taken back again. -/
theorem Filter.last_of_stepBack {filter opened : Installed} {state next : FilterState}
    (steps : filter.stepBack state = .ok (opened, next)) : opened.last = none := by
  obtain ⟨⟨lines, whole, between⟩, reopens, steps⟩ := ok_of_bind steps
  have last := last_of_reopen reopens
  dsimp only at steps
  split at steps <;> cases steps <;> exact last

namespace Bench

/-! ### Actions behind the end of a message -/

/-- Whether the filter of a number reads a line by an action, or leaves unread what it has read. -/
def Action.reads (number : Nat) : Action → Bool
  | .addLine own _ | .discardPending own => own == number
  | _ => false

theorem Action.reads_of_ne {action : Action} {number : Nat} (other : action.number? ≠ some number) :
    action.reads number = false := by
  cases action with
  | addLine own line => exact beq_false_of_ne fun here => other (congrArg some here)
  | discardPending own => exact beq_false_of_ne fun here => other (congrArg some here)
  | _ => rfl

/-- Whether an action clears what was found at a place. -/
def Action.clears (slot : Slot) : Action → Bool
  | .clear => true
  | .forget places => places.has slot
  | .retain used => !used.has slot
  | _ => false

/-- On the one bench the filter of a number still has a message open that has ended on the other one.
Since then it may have read other lines there; all else is the same on both. -/
structure Ahead (number : Nat) (filter : Installed) (pending : Message) (opened ended : Bench) :
    Prop where
  bounded : opened.state.Bounded
  distinct : (opened.filters.map Filter.index).Nodup
  isFilter : opened.filters[number]? = some filter
  filters : ended.filters = opened.filters.set number { filter.ended with pending }
  stamps : Stamps filter.index filter.pending opened.state ended.state
  /-- What was read since is nothing if it has no lines. -/
  closed : pending.lines = 0 → pending = {}

/-- What comes of the open message where the other bench takes a step. -/
def Ahead.Catches (number : Nat) (filter : Installed) (step : Except Fault Bench) (after : Bench) :
    Prop :=
  ∃ filter' pending' next, step = .ok next ∧ filter'.index = filter.index ∧
    filter'.pending = filter.pending ∧ Ahead number filter' pending' next after

namespace Ahead

variable {number : Nat} {filter : Installed} {pending : Message} {opened ended after : Bench}

/-- On the bench that is ahead the message has ended. -/
theorem isEnded (ahead : Ahead number filter pending opened ended) :
    ended.filters[number]? = some { filter.ended with pending } := by
  obtain ⟨inRange, _⟩ := List.getElem?_eq_some_iff.1 ahead.isFilter
  rw [ahead.filters, List.getElem?_set_self inRange]

theorem getElem?_ne (ahead : Ahead number filter pending opened ended) {own : Nat}
    (apart : own ≠ number) : ended.filters[own]? = opened.filters[own]? := by
  rw [ahead.filters, List.getElem?_set_ne apart.symm]

/-- The message of a filter ends. -/
theorem of_endMessage (bounded : opened.state.Bounded)
    (distinct : (opened.filters.map Filter.index).Nodup)
    (isFilter : opened.filters[number]? = some filter)
    (ends : opened.perform (.endMessage number) = .ok ended) :
    Ahead number filter {} opened ended := by
  obtain ⟨state, endsOwn, stamps⟩ := filter.endMessage_stamps bounded
  rw [perform, drive_of_getElem? isFilter, endsOwn] at ends
  cases ends
  exact ⟨bounded, distinct, isFilter, rfl, stamps, fun _ => rfl⟩

/-- Where nothing was read since, the message may end now. -/
theorem endMessage (ahead : Ahead number filter {} opened ended) :
    filter.endMessage opened.state = .ok (filter.ended, ended.state) ∧
      opened.perform (.endMessage number) = .ok ended := by
  obtain ⟨state, ends, stamps⟩ := filter.endMessage_stamps ahead.bounded
  rw [stamps.unique ahead.stamps] at ends
  refine ⟨ends, ?_⟩
  rw [perform, drive_of_getElem? ahead.isFilter, ends]
  exact congrArg (fun filters => Except.ok (Bench.mk filters ended.state)) ahead.filters.symm

/-- The state is changed in the same way on both benches. -/
theorem restate (ahead : Ahead number filter pending opened ended) {state state' : FilterState}
    (bounded : state.Bounded) (stamps : Stamps filter.index filter.pending state state') :
    Ahead number filter pending { opened with state } { ended with state := state' } :=
  ⟨bounded, ahead.distinct, ahead.isFilter, ahead.filters, stamps, ahead.closed⟩

/-- The filter reads on where its message has ended. -/
theorem read (ahead : Ahead number filter pending opened ended) {update : Installed → Installed}
    (changes : ended.change number update = .ok after) {pending' : Message}
    (updated : update { filter.ended with pending } = { filter.ended with pending := pending' })
    (closed : pending'.lines = 0 → pending' = {}) : Catches number filter (.ok opened) after := by
  obtain ⟨_, _, acts, rfl⟩ := of_drive_eq_ok ahead.isEnded changes
  cases acts
  refine ⟨filter, pending', opened, rfl, rfl, rfl, ?_⟩
  refine ⟨ahead.bounded, ahead.distinct, ahead.isFilter, ?_, ahead.stamps, closed⟩
  dsimp only
  rw [ahead.filters, List.set_set, updated]

/-- The filter is changed in the same way on both benches. -/
theorem change (ahead : Ahead number filter pending opened ended) {update : Installed → Installed}
    (changes : ended.change number update = .ok after)
    (place : (update filter).index = filter.index)
    (message : (update filter).pending = filter.pending)
    (same : update { filter.ended with pending } = { (update filter).ended with pending }) :
    Catches number filter (opened.change number update) after := by
  obtain ⟨_, _, acts, rfl⟩ := of_drive_eq_ok ahead.isEnded changes
  cases acts
  have changesOpened : opened.change number update =
      .ok ⟨opened.filters.set number (update filter), opened.state⟩ :=
    drive_of_getElem? ahead.isFilter _
  refine ⟨update filter, pending, _, changesOpened, place, message, ?_⟩
  obtain ⟨inRange, _⟩ := List.getElem?_eq_some_iff.1 ahead.isFilter
  constructor
  case bounded => exact ahead.bounded
  case distinct => exact map_index_set ahead.isFilter place ▸ ahead.distinct
  case isFilter => exact List.getElem?_set_self inRange
  case filters =>
    dsimp only
    rw [ahead.filters, List.set_set, List.set_set, same]
  case stamps =>
    rw [place, message]
    exact ahead.stamps
  case closed => exact ahead.closed

/-- Another filter takes the same turn on both benches. -/
theorem turn (ahead : Ahead number filter pending opened ended) {own : Nat} (apart : own ≠ number)
    {action : Action} (isOwn : action.number? = some own) (performs : ended.perform action = .ok after) :
    Catches number filter (opened.perform action) after := by
  obtain ⟨act, drives, tells⟩ := isTurn_of_number isOwn
  rw [drives] at performs ⊢
  cases isOther : opened.filters[own]? with
  | none =>
      simp only [Bench.drive, ahead.getElem?_ne apart, isOther] at performs ⊢
      cases performs
      exact ⟨filter, pending, opened, rfl, rfl, rfl, ahead⟩
  | some other =>
      have isOtherEnded := (ahead.getElem?_ne apart).trans isOther
      have place : other.index ≠ filter.index :=
        index_ne_of_ne ahead.distinct ahead.isFilter isOther apart.symm
      -- Both states hold the same for the other filter, so it does the same on both.
      let lane : Lane := { filter := other, column := opened.state.column other.index }
      obtain ⟨placeAfter, _, acts⟩ := tells lane
      obtain ⟨state, actsOpened, alters⟩ := acts opened.state ahead.bounded (Nat.zero_le _) rfl
      obtain ⟨state', actsEnded, alters'⟩ := acts ended.state ahead.stamps.bounded (Nat.zero_le _)
        (ahead.stamps.other other.index place)
      rw [drive_of_getElem? isOther, actsOpened]
      rw [drive_of_getElem? isOtherEnded, actsEnded] at performs
      cases performs
      refine ⟨filter, pending, _, rfl, rfl, rfl, ?_⟩
      constructor
      case bounded => exact alters.bounded
      case distinct => exact map_index_set isOther placeAfter ▸ ahead.distinct
      case isFilter => exact (List.getElem?_set_ne apart).trans ahead.isFilter
      case filters =>
        dsimp only
        rw [ahead.filters, List.set_comm _ _ apart.symm]
      case stamps => exact ahead.stamps.beside place alters alters'
      case closed => exact ahead.closed

/-- A filter that gives up its last decision has none to take back any more. -/
theorem spent (ahead : Ahead number filter pending opened ended)
    {act : Installed → FilterState → Except Fault (Installed × FilterState)}
    (drives : ended.drive number act = .ok after)
    (givesUp : ∀ filter state filter' state', act filter state = .ok (filter', state') →
      filter'.last = none) : after.Spent number := by
  obtain ⟨filter', state, acts, rfl⟩ := of_drive_eq_ok ahead.isEnded drives
  obtain ⟨inRange, _⟩ := List.getElem?_eq_some_iff.1 ahead.isEnded
  exact ⟨filter', List.getElem?_set_self inRange, givesUp _ _ _ _ acts⟩

/-- The filter itself reads on, gives its last decision up or is set otherwise. -/
theorem ownTurn (ahead : Ahead number filter pending opened ended) {action : Action}
    (isOwn : action.number? = some number) (notEnd : action ≠ .endMessage number)
    (performs : ended.perform action = .ok after) :
    after.Spent number ∨
      Catches number filter (if action.reads number then .ok opened else opened.perform action)
        after := by
  cases action with
  | addLine own line =>
      cases isOwn
      rw [Action.reads, beq_self_eq_true]
      exact Or.inr (ahead.read performs rfl fun none => absurd none (Nat.succ_ne_zero _))
  | discardPending own =>
      cases isOwn
      rw [Action.reads, beq_self_eq_true]
      exact Or.inr (ahead.read performs rfl fun _ => rfl)
  | endMessage own =>
      cases isOwn
      exact absurd rfl notEnd
  | stepBack own =>
      cases isOwn
      exact Or.inl (ahead.spent performs fun _ _ _ _ => Filter.last_of_stepBack)
  | reopen own =>
      cases isOwn
      have drives : ended.drive number (fun filter state => (filter.reopen state).map Prod.snd) =
        .ok after := performs
      refine Or.inl (ahead.spent drives ?_)
      intro filter state filter' state' reopens
      obtain ⟨⟨lines, opened, next⟩, reopens, same⟩ := ok_of_map reopens
      cases same
      exact Filter.last_of_reopen reopens
  | reset own =>
      cases isOwn
      have drives : ended.drive number (fun filter state => .ok (filter.reset, state)) = .ok after :=
        performs
      refine Or.inl (ahead.spent drives ?_)
      rintro filter state _ _ ⟨⟩
      rfl
  | setEnabled own enabled =>
      cases isOwn
      exact Or.inr (ahead.change performs rfl rfl rfl)
  | setKind own kind =>
      cases isOwn
      exact Or.inr (ahead.change performs rfl rfl rfl)
  | resize _ | reserve _ | clear | attach _ | forget _ | retain _ => cases isOwn

/-- What is done to the state and does not clear the place is done on both benches. -/
theorem onState (ahead : Ahead number filter pending opened ended) {action : Action}
    (noTurn : action.number? = none) (kept : action.clears filter.index = false)
    (performs : ended.perform action = .ok after) :
    Catches number filter (opened.perform action) after := by
  have catches : ∀ state state' : FilterState, state.Bounded →
      Stamps filter.index filter.pending state state' →
      Catches number filter (.ok { opened with state }) { ended with state := state' } :=
    fun _ _ bounded stamps => ⟨filter, pending, _, rfl, rfl, rfl, ahead.restate bounded stamps⟩
  have bounded := ahead.bounded
  have stamps := ahead.stamps
  cases action with
  | resize length =>
      obtain ⟨fits, rfl⟩ := perform_resize.1 performs
      rw [perform_resize.2 ⟨fits, rfl⟩]
      exact catches _ _ (bounded.resize length) (stamps.resize length)
  | reserve length =>
      obtain ⟨fits, rfl⟩ := perform_reserve.1 performs
      rw [perform_reserve.2 ⟨fits, rfl⟩]
      exact catches _ _ bounded stamps
  | clear => cases kept
  | attach logfile =>
      cases performs
      exact catches _ _ ⟨bounded.count_le, bounded.blank⟩ (stamps.attach logfile)
  | forget places =>
      cases performs
      exact catches _ _ (bounded.forget places) (stamps.forget kept)
  | retain used =>
      cases performs
      have others : (~~~used).has filter.index = false := (Mask.has_not used filter.index).trans kept
      exact catches _ _ (bounded.retain used) (stamps.forget others)
  | addLine _ _ | endMessage _ | stepBack _ | reopen _ | discardPending _ | reset _ | setEnabled _ _
  | setKind _ _ => cases noTurn

/-- What is done behind the end of the message is done in front of it as well, but for what the filter
reads since.  Only where the last decision is given up there is nothing to compare. -/
theorem perform (ahead : Ahead number filter pending opened ended) {action : Action}
    (notEnd : action ≠ .endMessage number) (kept : action.clears filter.index = false)
    (performs : ended.perform action = .ok after) :
    after.Spent number ∨
      Catches number filter (if action.reads number then .ok opened else opened.perform action)
        after := by
  by_cases isOwn : action.number? = some number
  · exact ahead.ownTurn isOwn notEnd performs
  · have unread : action.reads number = false := Action.reads_of_ne isOwn
    rw [unread]
    cases turn : action.number? with
    | none => exact Or.inr (ahead.onState turn kept performs)
    | some own =>
        have apart : own ≠ number := fun here => isOwn (here ▸ turn)
        exact Or.inr (ahead.turn apart turn performs)

/-- However long ago the message ended, it may as well end now. -/
theorem run (ahead : Ahead number filter pending opened ended) {since : List Action}
    (isLast : Action.endMessage number ∉ since)
    (kept : ∀ action ∈ since, action.clears filter.index = false)
    (runs : ended.run since = .ok after) (notSpent : ¬after.Spent number) :
    Catches number filter (opened.run (since.filter fun action => !action.reads number)) after := by
  induction since generalizing filter pending opened ended with
  | nil =>
      cases runs
      exact ⟨filter, pending, opened, rfl, rfl, rfl, ahead⟩
  | cons action rest ih =>
      rw [List.mem_cons, not_or] at isLast
      rw [List.forall_mem_cons] at kept
      obtain ⟨next, performs, runsRest⟩ := ok_of_bind runs
      rcases ahead.perform (Ne.symm isLast.1) kept.1 performs with spent | catches
      · exact absurd (spent.run isLast.2 runsRest) notSpent
      · obtain ⟨filter', pending', middle, steps, place, message, aheadNext⟩ := catches
        rw [← place] at kept
        obtain ⟨filter'', pending'', last, runsOpened, place', message', aheadLast⟩ :=
          ih aheadNext isLast.2 kept.2 runsRest
        refine ⟨filter'', pending'', last, ?_, place'.trans place, message'.trans message, aheadLast⟩
        cases reads : action.reads number with
        | true =>
            rw [reads] at steps
            cases steps
            simp only [List.filter_cons, reads, Bool.not_true, Bool.false_eq_true, if_false]
            exact runsOpened
        | false =>
            rw [reads] at steps
            simp only [List.filter_cons, reads, Bool.not_false, if_true, Bench.run, List.foldlM_cons]
            rw [show opened.perform action = .ok middle from steps]
            exact runsOpened

end Ahead

/-! ### Places -/

variable {bench after : Bench}

/-- Every filter keeps its place. -/
theorem places_perform (sound : bench.Sound) {action : Action}
    (performs : bench.perform action = .ok after) :
    after.filters.map Filter.index = bench.filters.map Filter.index := by
  cases turn : action.number? with
  | none =>
      cases action with
      | resize length =>
          obtain ⟨_, rfl⟩ := perform_resize.1 performs
          rfl
      | reserve length =>
          obtain ⟨_, rfl⟩ := perform_reserve.1 performs
          rfl
      | clear | attach _ | forget _ | retain _ =>
          cases performs
          rfl
      | addLine _ _ | endMessage _ | stepBack _ | reopen _ | discardPending _ | reset _
      | setEnabled _ _ | setKind _ _ => cases turn
  | some own =>
      have isTurn : action.number?.isSome := Option.isSome_of_eq_some turn
      obtain ⟨_, performs', follows⟩ := (follows_lanes sound.bounded sound.distinct).perform isTurn
      cases performs.symm.trans performs'
      exact follows.places

/-- No action moves a filter to another place. -/
theorem places_run (sound : bench.Sound) {actions : List Action}
    (runs : bench.run actions = .ok after) :
    after.filters.map Filter.index = bench.filters.map Filter.index := by
  let Good (next : Bench) : Prop :=
    next.Sound ∧ next.filters.map Filter.index = bench.filters.map Filter.index
  have good : Good bench := ⟨sound, rfl⟩
  have kept : Good after := by
    apply foldlM_keeps _ good runs
    rintro action _ middle next ⟨sound, places⟩ performs
    exact ⟨sound.perform performs, (places_perform sound performs).trans places⟩
  exact kept.2

/-! ### The message that is opened again -/

theorem not_spent_of_last {number : Nat} {filter : Installed} {message : Message}
    (isFilter : bench.filters[number]? = some filter) (last : filter.last = some message) :
    ¬bench.Spent number := by
  rintro ⟨_, isSpent, none⟩
  cases isFilter.symm.trans isSpent
  exact nomatch last.symm.trans none

/-- A filter reads lines and ends its message. -/
theorem run_message {filters : List Installed} {number : Nat} (inRange : number < filters.length)
    {filter ended : Installed} {state next : FilterState} {lines : List Bytes}
    (ends : (lines.foldl Filter.addLine filter).endMessage state = .ok (ended, next)) :
    (Bench.mk (filters.set number filter) state).run
      (lines.map (.addLine number) ++ [.endMessage number]) = .ok ⟨filters.set number ended, next⟩ := by
  rw [run_append, run_addLine inRange filter state lines]
  refine (bind_pure _).trans ((drive_set inRange _ state Filter.endMessage).trans ?_)
  rw [ends]
  rfl

namespace Ahead

variable {number : Nat} {filter : Installed} {opened : Bench}

/-- The bench on which the message is opened again. -/
def reopened (number : Nat) (filter : Installed) (opened bench : Bench) : Bench where
  filters := bench.filters.set number { filter with last := none }
  state := opened.state.resize bench.state.length

/-- The message is opened again as it was when it ended. -/
theorem reopen (ahead : Ahead number filter {} opened bench) (hasLines : 0 < filter.pending.lines) :
    filter.ended.reopen bench.state = .ok (filter.pending.lines, { filter with last := none },
        (reopened number filter opened bench).state) ∧
      bench.perform (.reopen number) = .ok (reopened number filter opened bench) := by
  have reopens := Filter.reopen_endMessage ahead.bounded hasLines ahead.endMessage.1
  refine ⟨reopens, ?_⟩
  have isEnded : bench.filters[number]? = some filter.ended := ahead.isEnded
  rw [Bench.perform, drive_of_getElem? isEnded, reopens]
  rfl

/-- To read on and to end the message comes to the same, whether it was opened again or never ended. -/
theorem run_reopened (ahead : Ahead number filter {} opened bench) (more : List Bytes) :
    ∃ after, (reopened number filter opened bench).run
        (more.map (.addLine number) ++ [.endMessage number]) = .ok after ∧
      opened.run (more.map (.addLine number) ++ [.endMessage number]) = .ok after := by
  obtain ⟨inRange, atNumber⟩ := List.getElem?_eq_some_iff.1 ahead.isFilter
  have inRangeEnded : number < bench.filters.length := by
    rwa [ahead.filters, List.length_set]
  let read := more.foldl Filter.addLine filter
  have isRead : read = _ := filter.foldl_addLine_eq more
  obtain ⟨state, ends, _⟩ := read.endMessage_stamps ahead.bounded
  -- There is not more room than the message needs with the lines that are read on.
  have enough : bench.state.length ≤ max opened.state.length (read.position opened.state) := by
    have fits := ahead.stamps.length_eq
    simp only [isRead, Filter.position]
    omega
  have endsReopened : (more.foldl Filter.addLine { filter with last := none }).endMessage
      (reopened number filter opened bench).state = .ok (read.ended, state) := by
    rw [Filter.foldl_addLine_eq]
    rw [isRead] at ends enough ⊢
    exact (Filter.endMessage_roomy _ enough).trans ends
  refine ⟨⟨opened.filters.set number read.ended, state⟩, ?_, ?_⟩
  · have filters : bench.filters.set number read.ended = opened.filters.set number read.ended := by
      rw [ahead.filters, List.set_set]
    rw [← filters]
    exact run_message inRangeEnded endsReopened
  · have runs := run_message inRange ends
    rw [← atNumber, List.set_getElem_self] at runs
    exact runs

/-- The message ends again as it did. -/
theorem endMessage_reopened (ahead : Ahead number filter {} opened bench) :
    (reopened number filter opened bench).perform (.endMessage number) = .ok bench := by
  obtain ⟨after, runs, runsOpened⟩ := ahead.run_reopened []
  have ends : opened.perform (.endMessage number) = .ok after := (bind_pure _).symm.trans runsOpened
  cases ahead.endMessage.2.symm.trans ends
  exact (bind_pure _).symm.trans runs

end Ahead

/-- The message that a filter ended is opened again.  On the one bench it is still open, and on the other
one it has ended and actions were taken since. -/
structure Reopens (number : Nat) (filter : Installed) (message : Message) (since : List Action)
    (opened bench reopened : Bench) : Prop where
  wasOpen : opened.filters[number]?.map Filter.pending = some message
  /-- The filter gets back the lines of the message. -/
  reopens : filter.reopen bench.state =
    .ok (message.lines, { filter with pending := message, last := none }, reopened.state)
  performs : bench.perform (.reopen number) = .ok reopened
  takesBack : TakesBack filter.index message.lines bench.state reopened.state
  /-- If the message ends at once, nothing has happened. -/
  restores : reopened.perform (.endMessage number) = .ok bench
  /-- If more lines are read before it ends, it is as if it had not ended before. -/
  continues : ∀ more : List Bytes, ∃ after,
    reopened.run (more.map (.addLine number) ++ [.endMessage number]) = .ok after ∧
      opened.run (since.filter (fun action => !action.reads number) ++
        (more.map (.addLine number) ++ [.endMessage number])) = .ok after

/-- The message that a filter stamped last, however long ago, is opened again as it was and can be ended
or continued. -/
theorem Sound.reopens {opened ended bench : Bench} (sound : opened.Sound) {number : Nat}
    {since : List Action} {filter : Installed} {message : Message}
    (ends : opened.perform (.endMessage number) = .ok ended) (runs : ended.run since = .ok bench)
    (isLast : Action.endMessage number ∉ since) (isFilter : bench.filters[number]? = some filter)
    (closed : filter.pending.lines = 0) (last : filter.last = some message)
    (hasLines : 0 < message.lines)
    (uncleared : ∀ action ∈ since, action.clears filter.index = false) :
    ∃ reopened, Reopens number filter message since opened bench reopened := by
  have soundEnded := sound.perform ends
  -- The filter has stood at its place since before the message ended.
  have places : bench.filters.map Filter.index = opened.filters.map Filter.index :=
    (places_run soundEnded runs).trans (places_perform sound ends)
  obtain ⟨start, isStart, place⟩ : ∃ start, opened.filters[number]? = some start ∧
      start.index = filter.index := by
    have atNumber := congrArg (fun indexes => indexes[number]?) places
    simp only [List.getElem?_map, isFilter] at atNumber
    exact Option.map_eq_some_iff.1 atNumber.symm
  rw [← place] at uncleared
  obtain ⟨source, pending, later, runsOpened, _, sameMessage, ahead⟩ :=
    (Ahead.of_endMessage sound.bounded sound.distinct isStart ends).run isLast uncleared runs
      (not_spent_of_last isFilter last)
  -- What was read since is left out, so that the filter is as it was when the message ended.
  cases isFilter.symm.trans ahead.isEnded
  cases ahead.closed closed
  cases last
  obtain ⟨reopens, performs⟩ := ahead.reopen hasLines
  refine ⟨Ahead.reopened number source later bench, ?_⟩
  constructor
  case wasOpen =>
    rw [isStart]
    exact congrArg some sameMessage.symm
  case reopens => exact reopens
  case performs => exact performs
  case takesBack => exact ahead.stamps.takesBack ahead.bounded
  case restores => exact ahead.endMessage_reopened
  case continues =>
    intro more
    obtain ⟨after, runsReopened, runsMore⟩ := ahead.run_reopened more
    refine ⟨after, runsReopened, ?_⟩
    rw [run_append, runsOpened]
    exact runsMore

/-- A filter that has a decision to take back has ended a message, and a last one. -/
theorem exists_lastEnd {bench after : Bench} (sound : bench.Sound)
    (unused : ∀ filter ∈ bench.filters, filter.last = none) {actions : List Action} {number : Nat}
    (runs : bench.run actions = .ok after) {filter : Installed} {message : Message}
    (isFilter : after.filters[number]? = some filter) (last : filter.last = some message) :
    ∃ before since, actions = before ++ .endMessage number :: since ∧
      Action.endMessage number ∉ since := by
  have ends : Action.endMessage number ∈ actions := by
    by_contra noEnd
    obtain ⟨inRange, _⟩ := List.getElem?_eq_some_iff.1 isFilter
    have inRangeBefore : number < bench.filters.length := by
      have places := congrArg List.length (places_run sound runs)
      rw [List.length_map, List.length_map] at places
      rwa [← places]
    have spent : bench.Spent number :=
      ⟨_, List.getElem?_eq_getElem inRangeBefore, unused _ (List.getElem_mem inRangeBefore)⟩
    exact not_spent_of_last isFilter last (spent.run noEnd runs)
  obtain ⟨behind, front, split, isLast⟩ := List.eq_append_cons_of_mem (List.mem_reverse.2 ends)
  refine ⟨front.reverse, behind.reverse, ?_, by rwa [List.mem_reverse]⟩
  rw [← List.reverse_reverse actions, split]
  simp

/-- A filter has no message open, and the message it stamped last, however long ago, has lines that were
not cleared since.  To open it again gives back its lines, takes back their stamps and the hits among
them and nothing else; to end it at once restores the filter and the state, and to read more lines and
end it then leaves all as if it had not ended before. -/
theorem run_reopen {filters : List Installed} (fresh : ∀ filter ∈ filters, filter.Fresh)
    (distinct : (filters.map Filter.index).Nodup) {logfile : String} {actions : List Action}
    {bench : Bench} (reached : (Bench.mk filters (FilterState.new logfile)).run actions = .ok bench)
    {number : Nat} {filter : Installed} (isFilter : bench.filters[number]? = some filter)
    (closed : filter.pending.lines = 0) {message : Message} (last : filter.last = some message)
    (hasLines : 0 < message.lines)
    (uncleared : ∀ before since, actions = before ++ .endMessage number :: since →
      Action.endMessage number ∉ since → ∀ action ∈ since, action.clears filter.index = false) :
    ∃ before since opened reopened,
      actions = before ++ .endMessage number :: since ∧ Action.endMessage number ∉ since ∧
      (Bench.mk filters (FilterState.new logfile)).run before = .ok opened ∧
      Reopens number filter message since opened bench reopened := by
  have sound := sound_of_fresh fresh distinct logfile
  obtain ⟨before, since, rfl, isLast⟩ :=
    exists_lastEnd sound (fun filter member => (fresh filter member).last) reached isFilter last
  rw [run_append] at reached
  obtain ⟨opened, runsBefore, runs⟩ := ok_of_bind reached
  have soundOpened := sound.run runsBefore
  obtain ⟨ended, ends, runsSince⟩ := ok_of_bind runs
  obtain ⟨reopened, reopens⟩ := soundOpened.reopens ends runsSince isLast isFilter closed last hasLines
    (uncleared before since rfl isLast)
  exact ⟨before, since, opened, reopened, rfl, isLast, runsBefore, reopens⟩

/-- A message of two lines is opened again after another filter has stamped a line and was cleared, the
state has grown, and a line that the filter itself has read was left. -/
theorem run_reopen_continued :
    let filters := [Filter.sample .keep 0, Filter.sample .hide 1]
    let before := [.addLine 1 [97], .endMessage 1, .addLine 0 [98], .addLine 0 [97]]
    let since := [.addLine 1 [98], .endMessage 1, .addLine 0 [98], .discardPending 0,
      .forget (Slot.bit 1), .resize 5]
    ∃ opened bench reopened filter,
      (Bench.mk filters (FilterState.new "a.log")).run before = .ok opened ∧
      (Bench.mk filters (FilterState.new "a.log")).run (before ++ .endMessage 0 :: since) = .ok bench ∧
      filter.index = 0 ∧ Reopens 0 filter ⟨true, 2⟩ since opened bench reopened := by
  intro filters before since
  have fresh : ∀ filter ∈ filters, filter.Fresh := by
    intro filter member
    rcases List.mem_pair.1 member with rfl | rfl <;> exact Filter.fresh_sample _ _
  have distinct : (filters.map Filter.index).Nodup := by decide
  have stamped : ((Bench.mk filters (FilterState.new "a.log")).run
      (before ++ .endMessage 0 :: since)).toOption.bind (fun bench => bench.filters[0]?.map
        fun filter => (filter.index, filter.pending, filter.last)) =
      some (0, ⟨false, 0⟩, some ⟨true, 2⟩) := by
    decide +kernel
  obtain ⟨bench, reached, held⟩ := Option.bind_eq_some_iff.1 stamped
  obtain ⟨filter, isFilter, held⟩ := Option.map_eq_some_iff.1 held
  obtain ⟨place, closed, last⟩ : filter.index = 0 ∧ filter.pending = ⟨false, 0⟩ ∧
      filter.last = some ⟨true, 2⟩ := by
    simpa using held
  have unclearing : ∀ action ∈ before ++ .endMessage 0 :: since, action.clears filter.index = false := by
    rw [place]
    decide
  obtain ⟨before', since', opened, reopened, split, _, runsBefore, reopens⟩ :=
    run_reopen fresh distinct (ok_of_toOption reached) isFilter (congrArg Message.lines closed) last
      (by decide) fun front behind split _ action member =>
        unclearing action (split ▸ by simp [member])
  have once : Action.endMessage 0 ∉ before ∧ Action.endMessage 0 ∉ since := by simp [before, since]
  obtain ⟨rfl, _, rfl⟩ := (List.append_cons_inj_of_notMem once.1 once.2).1 split
  exact ⟨opened, bench, reopened, filter, runsBefore, ok_of_toOption reached, place, reopens⟩

end Bench

end LogLens
