/-
Module: LogLens.Proofs.Correcting
Purpose: A last message whose lines have changed their texts.  Filters that have read a log from its
  first line on, in whatever pieces and by whatever calls, decide anew on its last message as its
  lines read now, one filter at a time, and nothing else changes; a filter that cannot be revised
  changes nothing at all.
Main exports: Rewritten, Engine.Driven, Engine.reviseInPlace, Engine.Corrects,
  Engine.revise_last_message
-/
import LogLens.Proofs.InPlace
import LogLens.Proofs.Operating
import LogLens.Regex.Compile

namespace LogLens

open InPlace (ofResult ofStep)

/-! ### Lines that have changed -/

/-- A line as it may once have read in a log: its part in the message is the one it has now, and in
front of the given number the line is as it was. -/
def ReadAs (lines : List RawLine) (first number : Nat) (line : RawLine) : Prop :=
  ∃ now, lines[number]? = some now ∧ line.starts = now.starts ∧ (number < first → line = now)

/-- The first lines of a log, as they may once have read. -/
def Rewritten (lines : List RawLine) (first : Nat) (old : List RawLine) : Prop :=
  ∀ number line, old[number]? = some line → ReadAs lines first number line

namespace Rewritten

variable {lines old : List RawLine} {first : Nat}

theorem nil (lines : List RawLine) (first : Nat) : Rewritten lines first [] := by
  intro number line isLine
  cases isLine

theorem length_le (rewritten : Rewritten lines first old) : old.length ≤ lines.length := by
  by_contra longer
  have inOld : lines.length < old.length := Nat.lt_of_not_le longer
  obtain ⟨now, isNow, _⟩ :=
    rewritten lines.length old[lines.length] (List.getElem?_eq_getElem inOld)
  rw [List.getElem?_eq_none (Nat.le_refl _)] at isNow
  cases isNow

/-- Lines behind others take other texts. -/
theorem of_append (front : List RawLine) {message message' : List RawLine}
    (starts : message'.map RawLine.starts = message.map RawLine.starts) :
    Rewritten (front ++ message) front.length (front ++ message') := by
  intro number line isLine
  by_cases inFront : number < front.length
  · rw [List.getElem?_append_left inFront] at isLine
    exact ⟨line, by rw [List.getElem?_append_left inFront, isLine], rfl, fun _ => rfl⟩
  · have behind : front.length ≤ number := Nat.le_of_not_lt inFront
    rw [List.getElem?_append_right behind] at isLine
    have flags : (message.map RawLine.starts)[number - front.length]? = some line.starts := by
      rw [← starts, List.getElem?_map, isLine]
      rfl
    rw [List.getElem?_map, Option.map_eq_some_iff] at flags
    obtain ⟨now, isNow, same⟩ := flags
    refine ⟨now, ?_, same.symm, fun before => absurd before inFront⟩
    rw [List.getElem?_append_right behind, isNow]

/-- Further lines may once have read otherwise, too. -/
theorem append (rewritten : Rewritten lines first old) {more : List RawLine}
    (further : ∀ number line, more[number]? = some line →
      ReadAs lines first (old.length + number) line) : Rewritten lines first (old ++ more) := by
  intro number line isLine
  by_cases inOld : number < old.length
  · rw [List.getElem?_append_left inOld] at isLine
    exact rewritten number line isLine
  · have behind : old.length ≤ number := Nat.le_of_not_lt inOld
    rw [List.getElem?_append_right behind] at isLine
    have readAs := further (number - old.length) line isLine
    rw [Nat.add_sub_cancel' behind] at readAs
    exact readAs

theorem starts_eq (rewritten : Rewritten lines first old) :
    (lines.take old.length).map RawLine.starts = old.map RawLine.starts := by
  apply List.ext_getElem?
  intro number
  rw [List.getElem?_map, List.getElem?_map]
  by_cases inOld : number < old.length
  · obtain ⟨now, isNow, starts, _⟩ := rewritten number old[number] (List.getElem?_eq_getElem inOld)
    rw [List.getElem?_take_of_lt inOld, isNow, List.getElem?_eq_getElem inOld, Option.map_some,
      Option.map_some, starts]
  · have behind : old.length ≤ number := Nat.le_of_not_lt inOld
    rw [List.getElem?_eq_none behind, List.getElem?_eq_none (by rw [List.length_take]; omega)]

theorem lastStart_eq (rewritten : Rewritten lines first old) :
    lastStart old = lastStart (lines.take old.length) := (lastStart_congr rewritten.starts_eq).symm

/-- Of two texts of the lines neither begins a message where the other does not. -/
theorem starts_agree (rewritten : Rewritten lines first old) {other : List RawLine}
    (otherwise : Rewritten lines first other) (longer : old.length ≤ other.length) :
    (other.take old.length).map RawLine.starts = old.map RawLine.starts := by
  rw [← rewritten.starts_eq, List.map_take, ← otherwise.starts_eq, ← List.map_take, List.take_take,
    Nat.min_eq_left longer]

/-- In front of the given number the lines are as they were. -/
theorem take_eq (rewritten : Rewritten lines first old) :
    old.take first = (lines.take old.length).take first := by
  apply List.ext_getElem?
  intro number
  by_cases inFront : number < first
  · rw [List.getElem?_take_of_lt inFront, List.getElem?_take_of_lt inFront]
    by_cases inOld : number < old.length
    · obtain ⟨now, isNow, _, same⟩ :=
        rewritten number old[number] (List.getElem?_eq_getElem inOld)
      rw [List.getElem?_take_of_lt inOld, isNow, List.getElem?_eq_getElem inOld, same inFront]
    · have behind : old.length ≤ number := Nat.le_of_not_lt inOld
      rw [List.getElem?_eq_none behind, List.getElem?_eq_none (by rw [List.length_take]; omega)]
  · rw [List.getElem?_eq_none (by rw [List.length_take]; omega),
      List.getElem?_eq_none (by rw [List.length_take]; omega)]

/-- Two texts of the lines may be pieced together at any place. -/
theorem reread (rewritten : Rewritten lines first old) {other : List RawLine}
    (otherwise : Rewritten lines first other) (longer : old.length ≤ other.length) :
    Rewritten lines first (reread old other) := by
  intro number line isLine
  have inOld : lastStart old ≤ old.length := lastStart_le old
  have length : (old.take (lastStart old)).length = lastStart old := by
    rw [List.length_take]
    omega
  by_cases inFront : number < lastStart old
  · rw [LogLens.reread, List.getElem?_append_left (by omega), List.getElem?_take_of_lt inFront]
      at isLine
    exact rewritten number line isLine
  · have behind : lastStart old ≤ number := Nat.le_of_not_lt inFront
    rw [LogLens.reread, List.getElem?_append_right (by omega), length, List.getElem?_drop,
      Nat.add_sub_cancel' behind] at isLine
    have inTaken : number < old.length := by
      have inRange := (List.getElem?_eq_some_iff.1 isLine).1
      rw [List.length_take] at inRange
      omega
    rw [List.getElem?_take_of_lt inTaken] at isLine
    exact otherwise number line isLine

/-- Where only the last message may have changed, it is read anew as it reads now. -/
theorem reread_eq {position : Nat} (length : old.length = position)
    (rewritten : Rewritten lines (lastStart (lines.take position)) old) :
    LogLens.reread old lines = lines.take position := by
  subst length
  rw [LogLens.reread, rewritten.lastStart_eq, rewritten.take_eq, List.take_append_drop]

end Rewritten

namespace Engine

/-! ### Filters that are driven over a log -/

/-- An operation delivers lines of a log as they may once have read, or revises a filter on them.  A
filter is revised on lines that include all that were read. -/
def Operation.OnLog (lines : List RawLine) (first : Nat) (engine : Engine) : Operation → Prop
  | .observe number line => ReadAs lines first number line
  | .newLines source _ _ => Rewritten lines first source.lines
  | .endOfFile => True
  | .revise _ source => Rewritten lines first source.lines ∧
    ∀ filter ∈ engine.registry.filters, filter.position engine.state ≤ source.lines.length
  | _ => False

/-- The filter of a place goes on from one engine to another as it is, with all that it has read and
found. -/
def Stands (slot : Slot) (engine next : Engine) : Prop :=
  ∃ filter ∈ engine.registry.filters, filter.index = slot ∧
    ∃ filter' ∈ next.registry.filters, filter.Keeps filter' ∧
      next.state.column slot = engine.state.column slot

/-- The filter of a place has been driven over a log, the texts of which may have changed from a line
on.  It began with no line read: when it came to a place where nothing was stamped, or when its column
was emptied while it had no message open. -/
inductive Driven [PatternCompiler] (lines : List RawLine) (first : Nat) (slot : Slot) :
    Engine → Prop where
  | begins {engine : Engine} {filter : Installed} (ordered : engine.Ordered)
      (member : filter ∈ engine.registry.filters) (place : filter.index = slot)
      (pending : filter.pending = {})
      (empty : engine.state.count slot = 0 ∧ engine.state.hits slot = 0) :
      Driven lines first slot engine
  | reads {engine next : Engine} {operation : Operation} (driven : Driven lines first slot engine)
      (onLog : operation.OnLog lines first engine) (performs : engine.perform operation = .ok next) :
      Driven lines first slot next
  | stands {engine next : Engine} {operation : Operation} (driven : Driven lines first slot engine)
      (performs : engine.perform operation = .ok next) (stands : Stands slot engine next) :
      Driven lines first slot next

/-- The filter of a place has read the first lines of a log, as they may once have read. -/
def HasHeard (lines : List RawLine) (first : Nat) (slot : Slot) (engine : Engine) : Prop :=
  ∃ filter ∈ engine.registry.filters, filter.index = slot ∧
    ∃ heard, Rewritten lines first heard ∧ filter.Reads {} (engine.state.column slot) heard

variable {engine next : Engine} {lines : List RawLine} {first : Nat} {slot : Slot}

theorem Operation.OnLog.readAs {operation : Operation} (onLog : operation.OnLog lines first engine)
    (position number : Nat) (line : RawLine)
    (isLine : (operation.further position)[number]? = some line) :
    ReadAs lines first (position + number) line := by
  cases operation with
  | observe at_ delivered =>
      simp only [Operation.further] at isLine
      split at isLine
      next isNext =>
        cases number with
        | zero =>
            cases isLine
            rw [Nat.add_zero, ← isNext]
            exact onLog
        | succ number => cases isLine
      next => cases isLine
  | newLines source start stop =>
      simp only [Operation.further] at isLine
      split at isLine
      next => cases isLine
      next notBefore =>
        rw [List.getElem?_drop, List.getElem?_take] at isLine
        split at isLine
        next =>
          rw [List.getElem?_drop] at isLine
          have isNumber : start + (position - start + number) = position + number := by omega
          rw [isNumber] at isLine
          exact onLog _ line isLine
        next => cases isLine
  | endOfFile | change _ | sync | room _ | rebuild _ | revise _ _ | reset _ => cases isLine

/-- What is delivered, a filter reads behind what it has heard. -/
theorem HasHeard.delivers [PatternCompiler] (hasHeard : HasHeard lines first slot engine)
    (ordered : engine.Ordered) {operation : Operation} (delivers : operation.Delivers)
    (onLog : operation.OnLog lines first engine) (performs : engine.perform operation = .ok next) :
    HasHeard lines first slot next := by
  obtain ⟨filter, member, rfl, heard, rewritten, reads⟩ := hasHeard
  obtain ⟨room, drives⟩ := ordered.delivers delivers performs
  obtain ⟨filter', isNext, alike, readsOn⟩ := exists_right_of_forall₂ drives.filters member
  have readsNext := readsOn {} heard reads
  rw [Column.count_empty, Nat.zero_add] at readsNext
  exact ⟨filter', isNext, alike.index, heard ++ operation.further heard.length,
    rewritten.append (onLog.readAs heard.length), readsNext⟩

/-- A filter that is revised has its last message pieced in as it reads in the source; the other
filters have heard what they had. -/
theorem HasHeard.revise (hasHeard : HasHeard lines first slot engine) (ordered : engine.Ordered)
    {id : String} {source : Source} (rewrittenSource : Rewritten lines first source.lines)
    (enough : ∀ filter ∈ engine.registry.filters,
      filter.position engine.state ≤ source.lines.length)
    (revises : engine.revise id source = .ok (.ok next)) : HasHeard lines first slot next := by
  obtain ⟨aligned, filter, found⟩ := of_revise_eq_ok revises
  obtain ⟨_, _, _, named, _⟩ := Registry.between_of_find? found
  have member : filter ∈ engine.registry.filters := List.mem_of_find?_eq_some found
  obtain ⟨front, back, filter', column, _, state, whole, revisesSame, alike, alters, _, _, _,
    rereads⟩ := ordered.revise_alters source member aligned
  rw [named, revises] at revisesSame
  cases revisesSame
  obtain ⟨reader, isReader, rfl, heard, rewritten, reads⟩ := hasHeard
  by_cases same : reader.index = filter.index
  · have isRevised : reader = filter :=
      List.inj_on_of_nodup_map ordered.wellFormed.places isReader member same
    subst isRevised
    have longer : heard.length ≤ source.lines.length := by
      have inSource := enough reader member
      rw [reads.position_of, Column.count_empty, Nat.zero_add] at inSource
      exact inSource
    refine ⟨filter', List.mem_append_right front (List.mem_cons_self ..), alike.index,
      reread heard source.lines, rewritten.reread rewrittenSource longer, ?_⟩
    change filter'.Reads {} (state.column reader.index) _
    rw [alters.own]
    exact rereads heard reads (rewritten.starts_agree rewrittenSource longer)
  · rw [whole] at isReader
    have inRest : reader ∈ front ++ filter' :: back := by
      simp only [List.mem_append, List.mem_cons] at isReader ⊢
      rcases isReader with inFront | rfl | inBack
      · exact Or.inl inFront
      · exact absurd rfl same
      · exact Or.inr (Or.inr inBack)
    refine ⟨reader, inRest, rfl, heard, rewritten, ?_⟩
    change reader.Reads {} (state.column reader.index) _
    rw [alters.other reader.index same]
    exact reads

/-- One operation over the lines of a log. -/
theorem HasHeard.perform [PatternCompiler] (hasHeard : HasHeard lines first slot engine)
    (ordered : engine.Ordered) {operation : Operation} (onLog : operation.OnLog lines first engine)
    (performs : engine.perform operation = .ok next) : HasHeard lines first slot next := by
  have delivered : operation.Delivers → HasHeard lines first slot next :=
    fun delivers => hasHeard.delivers ordered delivers onLog performs
  cases operation with
  | observe _ _ | newLines _ _ _ | endOfFile => exact delivered trivial
  | revise id source =>
      obtain ⟨result, revises, rfl⟩ := ok_of_map performs
      cases result with
      | error e => exact hasHeard
      | ok next => exact hasHeard.revise ordered onLog.1 onLog.2 revises
  | change _ | sync | room _ | rebuild _ | reset _ => exact onLog.elim

/-- A filter that goes on as it is has heard what it had. -/
theorem HasHeard.stands (hasHeard : HasHeard lines first slot engine) (ordered : engine.Ordered)
    (stands : Stands slot engine next) : HasHeard lines first slot next := by
  obtain ⟨filter, member, place, filter', isNext, keeps, sameColumn⟩ := stands
  obtain ⟨reader, isReader, own, heard, rewritten, reads⟩ := hasHeard
  have same : reader = filter :=
    List.inj_on_of_nodup_map ordered.wellFormed.places isReader member (own.trans place.symm)
  subst same
  rw [← sameColumn] at reads
  exact ⟨filter', isNext, keeps.index.trans own, heard, rewritten,
    reads.congr keeps.pattern keeps.pending keeps.last⟩

/-- Where nothing is stamped and nothing is open, no line has been heard. -/
theorem hasHeard_nothing {filter : Installed} (member : filter ∈ engine.registry.filters)
    (pending : filter.pending = {})
    (empty : engine.state.count filter.index = 0 ∧ engine.state.hits filter.index = 0) :
    HasHeard lines first filter.index engine := by
  refine ⟨filter, member, rfl, [], Rewritten.nil lines first, [], [], rfl, ?_, pending,
    LastMessage.nil [], fun _ => Or.inl ⟨rfl, Or.inr rfl⟩⟩
  rw [FilterState.column, empty.1, empty.2, Column.extend_nil]
  rfl

/-- What is delivered from the log drives a filter on. -/
theorem Driven.run [PatternCompiler] {operations : List Operation}
    (driven : Driven lines first slot engine)
    (onLog : ∀ operation ∈ operations, ∀ engine, operation.OnLog lines first engine)
    (runs : operations.foldlM Engine.perform engine = .ok next) : Driven lines first slot next :=
  foldlM_keeps (fun operation member engine _ driven performs =>
    .reads driven (onLog operation member engine) performs) driven runs

/-- A filter that has been driven over a log has heard its first lines, as they may once have
read. -/
theorem Driven.hasHeard [PatternCompiler] (driven : Driven lines first slot engine) :
    engine.Ordered ∧ HasHeard lines first slot engine := by
  induction driven with
  | begins ordered member place pending empty =>
      subst place
      exact ⟨ordered, hasHeard_nothing member pending empty⟩
  | reads _ onLog performs ih => exact ⟨ih.1.perform performs, ih.2.perform ih.1 onLog performs⟩
  | stands _ performs stands ih => exact ⟨ih.1.perform performs, ih.2.stands ih.1 stands⟩

/-! ### One filter in place -/

/-- Revise the last message of one filter: it is checked that no filter is behind the others and that
the filter is there; the filter then acts where it stands, and the lines that are seen are found
anew. -/
def reviseInPlace (id : String) (source : Source) : InPlace Engine Unit := do
  let engine ← get
  ofResult engine.checkAligned
  let filter ← ofResult (Registry.orUnknown id (engine.registry.find? id))
  ofStep fun engine => do
    let (revised, state) ← filter.revise source engine.state
    let filters := Registry.modifyFirst (·.id == id) (fun _ => revised) engine.registry.filters
    return ((), engine.put filters state)
  modify (·.rebuild source.lines.length)

theorem reviseInPlace_carriesOut (engine : Engine) (id : String) (source : Source) :
    (reviseInPlace id source).CarriesOut engine
      ((engine.revise id source).map fun result => result.map fun after => ((), after)) := by
  unfold InPlace.CarriesOut reviseInPlace revise
  simp only [InPlace.exec_bind, InPlace.exec_get, InPlace.exec_ofResult, InPlace.exec_ofStep]
  cases engine.checkAligned with
  | error e => rfl
  | ok _ =>
      cases engine.registry.find? id with
      | none => rfl
      | some filter =>
          simp only [Registry.orUnknown, bind, Except.bind]
          cases filter.revise source engine.state <;> rfl

/-- A revision is refused where some filter is behind the others, and else where there is no filter
of the name. -/
theorem of_revise_eq_error {id : String} {source : Source} {e : FilterError}
    (refuses : engine.revise id source = .ok (.error e)) :
    engine.diverged ≠ [] ∧ e = .divergentCounters engine.diverged ∨
      engine.registry.find? id = none ∧ e = .unknownFilter id := by
  unfold revise at refuses
  split at refuses
  next unaligned =>
    cases refuses
    rw [checkAligned] at unaligned
    split at unaligned
    · cases unaligned
    next behind =>
      cases unaligned
      rw [List.isEmpty_iff] at behind
      exact Or.inl ⟨behind, rfl⟩
  next missing =>
    cases refuses
    exact Or.inr ⟨missing, rfl⟩
  next filter _ _ =>
    cases revises : filter.revise source engine.state <;> rw [revises] at refuses <;> cases refuses

/-! ### The last message as it now reads -/

/-- One filter has decided anew on the last message in front of a position, as its lines now read, and
all else is as it was. -/
structure Corrects (engine after : Engine) (source : Source) (position : Nat) (filter : Installed) :
    Prop where
  /-- The filter is marked on all lines of the message if it matches one of them. -/
  decided : ∀ line, lastStart (source.lines.take position) ≤ line → line < position →
    (after.state.mask line).has filter.index =
      ((source.lines.take position).drop (lastStart (source.lines.take position))).any
        fun member => filter.isMatch member.bytes
  /-- No other bit of a mask has changed. -/
  kept : ∀ line slot,
    (slot = filter.index → line < lastStart (source.lines.take position) ∨ position ≤ line) →
      (after.state.mask line).has slot = (engine.state.mask line).has slot
  counted : after.state.count filter.index = position
  /-- The hits change with the bits: as before, they are the lines on which the filter is marked. -/
  hits : engine.state.hits filter.index = engine.state.masks.countP (·.has filter.index) ∧
    after.state.hits filter.index = after.state.masks.countP (·.has filter.index)
  others : ∀ slot, slot ≠ filter.index → after.state.count slot = engine.state.count slot ∧
    after.state.hits slot = engine.state.hits slot
  length_eq : after.state.length = max engine.state.length position
  logfile : after.state.logfile = engine.state.logfile
  /-- All other filters stand where they stood, and the filter has the settings that it had. -/
  registry : ∃ front back revised, engine.registry.filters = front ++ filter :: back ∧
    after.registry = { engine.registry with filters := front ++ revised :: back } ∧
    filter.Alike revised ∧ revised.pending.lines = 0
  aligned : after.checkAligned = .ok ()
  seen : after.visible = (List.range source.lines.length).filter after.sees

section Correcting

variable {source : Source} {position : Nat} {filter : Installed}

/-- The filter of a place has heard as many lines as its position says. -/
theorem HasHeard.reads (hasHeard : HasHeard lines first filter.index engine)
    (ordered : engine.Ordered) (member : filter ∈ engine.registry.filters) :
    ∃ heard, heard.length = filter.position engine.state ∧ Rewritten lines first heard ∧
      filter.Reads {} (engine.state.column filter.index) heard := by
  obtain ⟨reader, isReader, same, heard, rewritten, reads⟩ := hasHeard
  have isFilter : reader = filter :=
    List.inj_on_of_nodup_map ordered.wellFormed.places isReader member same
  subst isFilter
  exact ⟨heard, by rw [reads.position_of, Column.count_empty, Nat.zero_add], rewritten, reads⟩

/-- In front of the last message a filter is marked by what the lines there still say. -/
theorem HasHeard.marked_eq
    (hasHeard : HasHeard lines (lastStart (lines.take position)) filter.index engine)
    (ordered : engine.Ordered) (member : filter ∈ engine.registry.filters)
    (isPosition : filter.position engine.state = position) {line : Nat}
    (inFront : line < lastStart (lines.take position)) :
    (engine.state.mask line).has filter.index =
      decision filter.isMatch (lines.take position) line := by
  obtain ⟨heard, length, rewritten, reads⟩ := hasHeard.reads ordered member
  rw [isPosition] at length
  have start := rewritten.lastStart_eq
  rw [length] at start
  have inRange := inFront.trans_le (lastStart_le _)
  rw [ordered.bounded.has_mask, reads.marked_eq (start ▸ inFront), start, rewritten.take_eq, length,
    decision_of_lt_lastStart filter.isMatch inFront inRange]

/-- Whether or not its last message is open, a filter counts the lines on which it is marked. -/
theorem HasHeard.hits_eq (hasHeard : HasHeard lines first filter.index engine)
    (ordered : engine.Ordered) (member : filter ∈ engine.registry.filters) :
    engine.state.hits filter.index = engine.state.masks.countP (·.has filter.index) := by
  obtain ⟨heard, _, _, closed, opened, _, stands⟩ := hasHeard.reads ordered member
  exact ordered.bounded.hits_extend stands.column_eq

/-- A filter that has heard a log up to a position decides anew on the log as it reads now. -/
theorem HasHeard.revises
    (hasHeard : HasHeard source.lines (lastStart (source.lines.take position)) filter.index engine)
    (ordered : engine.Ordered) (member : filter ∈ engine.registry.filters)
    (aligned : engine.checkAligned = .ok ()) (isPosition : filter.position engine.state = position) :
    (source.lines.take position).length = position ∧
      ∃ before behind revised column length state,
        engine.registry.filters = before ++ filter :: behind ∧
        engine.revise filter.id source = .ok (.ok
          ((engine.put (before ++ revised :: behind) state).rebuild source.lines.length)) ∧
        filter.Alike revised ∧ revised.pending.lines = 0 ∧
        FilterState.Alters filter.index column length engine.state state ∧
        state.length = max engine.state.length position ∧
        state.Decides filter (source.lines.take position) := by
  obtain ⟨heard, length, rewritten, reads⟩ := hasHeard.reads ordered member
  rw [isPosition] at length
  have lengthTaken : (source.lines.take position).length = position := by
    have inSource := rewritten.length_le
    rw [List.length_take]
    omega
  obtain ⟨before, behind, revised, column, room, state, whole, revises, alike, alters, grows, fits,
    closed, rereads⟩ := ordered.revise_alters source member aligned
  have readsNow := rereads heard reads rewritten.starts_eq
  rw [rewritten.reread_eq length] at readsNow
  have decides : state.Decides filter (source.lines.take position) := by
    apply alters.bounded.decides
    rw [alters.own, (readsNow.stands_closed closed).column_eq, alike.isMatch_eq]
  refine ⟨lengthTaken, before, behind, revised, column, room, state, whole, revises, alike, closed,
    alters, ?_, decides⟩
  have enough := alters.bounded.count_le filter.index
  rw [decides.count_eq, lengthTaken, alters.length_eq] at enough
  rw [isPosition] at fits
  exact alters.length_eq.trans (Nat.le_antisymm fits (Nat.max_le.2 ⟨grows, enough⟩))

/-- A filter acts in its column and comes back to the position of the others. -/
theorem checkAligned_put {front back : List Installed} {filter' : Installed} {column : Column}
    {length : Nat} {state : FilterState}
    (places : ((front ++ filter :: back).map Filter.index).Nodup)
    (alters : FilterState.Alters filter.index column length engine.state state)
    (positions : ∀ other ∈ front ++ back, other.position engine.state = position)
    (moved : filter'.position state = position) :
    (engine.put (front ++ filter' :: back) state).checkAligned = .ok () := by
  have stands : ∀ other ∈ front ++ back, other.position state = position := by
    intro other inRest
    have apart := Registry.ne_of_nodup Filter.index places inRest
    rw [Filter.position_eq_count, alters.other other.index apart, ← Filter.position_eq_count]
    exact positions other inRest
  apply checkAligned_ok
  intro other isAfter
  rcases List.mem_append.1 isAfter with inFront | isAfter
  · exact stands other (List.mem_append_left back inFront)
  rcases List.mem_cons.1 isAfter with rfl | inBack
  · exact moved
  · exact stands other (List.mem_append_right front inBack)

/-- Where all filters are at one position, each of them that has heard the log is corrected. -/
theorem HasHeard.corrects
    (hasHeard : HasHeard source.lines (lastStart (source.lines.take position)) filter.index engine)
    (ordered : engine.Ordered) (member : filter ∈ engine.registry.filters)
    (positions : ∀ filter ∈ engine.registry.filters, filter.position engine.state = position) :
    ∃ after, engine.revise filter.id source = .ok (.ok after) ∧
      engine.Corrects after source position filter := by
  have isPosition := positions filter member
  obtain ⟨lengthTaken, before, behind, revised, column, _, state, whole, revises, alike, closed,
    alters, length, decides⟩ := hasHeard.revises ordered member (checkAligned_ok positions) isPosition
  have counted : state.count filter.index = position := decides.count_eq.trans lengthTaken
  refine ⟨_, revises, ?_⟩
  constructor
  case decided =>
    intro line inLast inRange
    rw [← decision_of_lastStart_le filter.isMatch inLast (lengthTaken.symm ▸ inRange)]
    exact decides.decided line (lengthTaken.symm ▸ inRange)
  case kept =>
    intro line slot outside
    by_cases own : slot = filter.index
    · subst own
      rcases outside rfl with inFront | beyond
      · rw [hasHeard.marked_eq ordered member isPosition inFront]
        exact decides.decided line (inFront.trans_le (lastStart_le _))
      · have blank := decides.blank line (lengthTaken.symm ▸ beyond)
        have stamped : engine.state.count filter.index ≤ line :=
          (Nat.le_add_right _ _).trans (isPosition.symm ▸ beyond)
        exact blank.trans (ordered.bounded.blank filter.index line stamped).symm
    · change (state.mask line).has slot = _
      rw [alters.bounded.has_mask, ordered.bounded.has_mask, alters.other slot own]
  case counted => exact counted
  case hits => exact ⟨hasHeard.hits_eq ordered member, decides.hits_eq⟩
  case others =>
    intro slot apart
    have same := alters.other slot apart
    rw [← FilterState.count_column, ← FilterState.count_column]
    exact ⟨congrArg Column.count same, congrArg Column.hits same⟩
  case length_eq => exact length
  case logfile => exact alters.logfile
  case registry => exact ⟨before, behind, revised, whole, rfl, alike, closed⟩
  case aligned =>
    have places := ordered.wellFormed.places
    rw [whole] at places
    have moved : revised.position state = position := by
      rw [Filter.position, alike.index, counted, closed, Nat.add_zero]
    exact checkAligned_put places alters
      (fun other inRest => positions other (whole ▸ Registry.mem_around filter inRest)) moved
  case seen => rfl

end Correcting

/-- A revision that is refused leaves the filters, what they have found and the lines that are seen as
they were; it is refused only if a filter is behind the others or if there is none of the name.  If
every filter has been driven over a log, with no line read before and up to one position, and only
lines of the last message in front of it read otherwise since, then each filter can be revised, and it
then decides on that message as its lines now read; nothing else changes. -/
theorem revise_last_message [PatternCompiler] :
    (∀ (engine after : Engine) (id : String) (source : Source) (e : FilterError),
      (reviseInPlace id source).exec engine = .ok (.error e, after) → after = engine ∧
        (engine.diverged ≠ [] ∧ e = .divergentCounters engine.diverged ∨
          engine.registry.find? id = none ∧ e = .unknownFilter id)) ∧
    ∀ (engine : Engine) (source : Source) (position : Nat),
      (∀ filter ∈ engine.registry.filters,
        Driven source.lines (lastStart (source.lines.take position)) filter.index engine ∧
          filter.position engine.state = position) →
      ∀ filter ∈ engine.registry.filters, ∃ after,
        engine.revise filter.id source = .ok (.ok after) ∧
        (reviseInPlace filter.id source).exec engine = .ok (.ok (), after) ∧
        engine.Corrects after source position filter := by
  constructor
  · intro engine after id source e executes
    rw [reviseInPlace_carriesOut engine id source] at executes
    obtain ⟨answered, maps, isLeft⟩ := ok_of_map executes
    obtain ⟨result, revises, rfl⟩ := ok_of_map maps
    cases result with
    | ok next => cases isLeft
    | error cause =>
        cases isLeft
        exact ⟨rfl, of_revise_eq_error revises⟩
  · intro engine source position driven filter member
    obtain ⟨ordered, hasHeard⟩ := (driven filter member).1.hasHeard
    obtain ⟨after, revises, corrects⟩ :=
      hasHeard.corrects ordered member fun other isFilter => (driven other isFilter).2
    refine ⟨after, revises, ?_, corrects⟩
    rw [reviseInPlace_carriesOut engine filter.id source, revises]
    rfl

/-- The last line of a message takes another text, and a filter that matched it does so no longer.
There is no filter of another name. -/
theorem revise_last_message_changed :
    let before : Source := ⟨"a.log", [⟨[98], true⟩, ⟨[97], true⟩, ⟨[98], false⟩]⟩
    let source : Source := ⟨"a.log", [⟨[98], true⟩, ⟨[97], true⟩, ⟨[97], false⟩]⟩
    let other : Installed := (Filter.sample .hide 1).replacePattern (.octet "a" 97)
    let start : Engine :=
      { registry := { filters := [Filter.sample .keep 3, other] }, state := FilterState.new "a.log" }
    ∃ engine after, [.newLines before 0 3, .endOfFile].foldlM perform start = .ok engine ∧
      engine.revise "b" source = .ok (.ok after) ∧
      (∀ line, 1 ≤ line → line < 3 → (after.state.mask line).has 3 = false) ∧
      ∃ left, (reviseInPlace "c" source).exec start = .ok (.error (.unknownFilter "c"), left) ∧
        left = start := by
  intro before source other start
  let operations : List Operation := [.newLines before 0 3, .endOfFile]
  have ordered : start.Ordered := ⟨FilterState.bounded_new "a.log", by decide, by decide⟩
  have onLog : ∀ operation ∈ operations, ∀ engine, operation.OnLog source.lines 1 engine := by
    intro operation member engine
    rcases List.mem_pair.1 member with rfl | rfl
    · exact Rewritten.of_append [⟨[98], true⟩] rfl
    · trivial
  have begun : ∀ slot ∈ [3, 1], Driven source.lines 1 slot start := by
    intro slot member
    rcases List.mem_pair.1 member with rfl | rfl
    · exact .begins ordered (List.mem_cons_self ..) rfl rfl ⟨rfl, rfl⟩
    · exact .begins ordered (List.mem_cons_of_mem _ (List.mem_cons_self ..)) rfl rfl ⟨rfl, rfl⟩
  have standing : (operations.foldlM perform start).toOption.map (fun engine =>
      engine.registry.filters.map fun filter =>
        (filter.id, filter.index, filter.position engine.state, filter.isMatch [97])) =
      some [("b", 3, 3, false), ("a", 1, 3, true)] := by
    decide +kernel
  cases runs : operations.foldlM perform start with
  | error fault =>
      rw [runs] at standing
      cases standing
  | ok engine =>
      rw [runs] at standing
      obtain ⟨first, rest, whole, isFirst, more⟩ := List.map_eq_cons_iff.1 (Option.some.inj standing)
      obtain ⟨second, none, rfl, isSecond, nothing⟩ := List.map_eq_cons_iff.1 more
      cases List.map_eq_nil_iff.1 nothing
      simp only [Prod.mk.injEq] at isFirst isSecond
      obtain ⟨named, placeFirst, positionFirst, unmatched⟩ := isFirst
      obtain ⟨_, placeSecond, positionSecond, _⟩ := isSecond
      have driven : ∀ filter ∈ engine.registry.filters,
          Driven source.lines (lastStart (source.lines.take 3)) filter.index engine ∧
            filter.position engine.state = 3 := by
        intro filter member
        rw [whole] at member
        rcases List.mem_pair.1 member with rfl | rfl
        · exact ⟨placeFirst ▸ (begun 3 (by decide)).run onLog runs, positionFirst⟩
        · exact ⟨placeSecond ▸ (begun 1 (by decide)).run onLog runs, positionSecond⟩
      have member : first ∈ engine.registry.filters := whole ▸ List.mem_cons_self ..
      obtain ⟨after, revises, _, corrects⟩ :=
        revise_last_message.2 engine source 3 driven first member
      have refused : (reviseInPlace "c" source).exec start =
          .ok (.error (.unknownFilter "c"), start) := rfl
      obtain ⟨same, _⟩ := revise_last_message.1 start start "c" source _ refused
      refine ⟨engine, after, rfl, named ▸ revises, ?_, start, refused, same⟩
      intro line inLast inRange
      have decided := corrects.decided line inLast inRange
      rw [placeFirst] at decided
      rw [decided]
      change ([⟨[97], true⟩, ⟨[97], false⟩] : List RawLine).any
        (fun line => first.isMatch line.bytes) = false
      simp [unmatched]

/-- A filter has to begin with nothing stamped and nothing open.  One takes a place at which another
has stamped a line, and reads on behind that line; the column of one is emptied while it holds two
lines open, which then count as the first two of the log.  Both are revised on a message of which they
match no line, and are marked on it all the same. -/
theorem revise_last_message_stale :
    let source : Source := ⟨"a.log", [⟨[97], true⟩, ⟨[97], false⟩]⟩
    let log : Source :=
      ⟨"a.log", [⟨[98], true⟩, ⟨[97], true⟩, ⟨[97], false⟩, ⟨[97], true⟩, ⟨[97], false⟩]⟩
    let taken : List Operation := [.change (.addPattern .keep "a" false), .newLines source 0 1,
      .endOfFile, .change (.delete "a"), .change (.addPattern .keep "b" false),
      .newLines source 1 2, .revise "b" source]
    let emptied : List Operation := [.change (.addPattern .keep "b" false), .newLines log 0 5, .sync,
      .observe 2 ⟨[97], false⟩, .revise "b" log]
    let positions := fun engine : Engine => engine.registry.filters.map fun filter =>
      (filter.id, filter.position engine.state)
    let found := fun (engine : Engine) (source : Source) => engine.registry.filters.map fun filter =>
      source.lines.map fun line => filter.isMatch line.bytes
    let marks := fun engine : Engine => (List.range 3).map fun line => (engine.state.mask line).has 0
    (taken.foldlM perform (Engine.new "a.log")).toOption.map (fun after =>
        (positions after, found after source, marks after)) =
      some ([("b", 2)], [[false, false]], [true, false, false]) ∧
    (emptied.foldlM perform (Engine.new "a.log")).toOption.map (fun after =>
        (positions after, found after log, marks after)) =
      some ([("b", 3)], [[true, false, false, false, false]], [true, true, true]) := by
  decide +kernel

end Engine

end LogLens
