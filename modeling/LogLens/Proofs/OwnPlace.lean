/-
Module: LogLens.Proofs.OwnPlace
Purpose: A filter acts on the results at its own place only, and no action of a filter can fail.  What
  all filters do in turn is therefore what each of them does alone.
Main exports: Filter.Fresh, Filter.Alike, Filter.Leads, Filter.endMessage_alters, Filter.reopen_alters,
  driveAll_idle, driveAll_leads
-/
import Mathlib.Data.List.Forall2
import LogLens.Filter.Engine
import LogLens.Proofs.Stamping
import LogLens.Proofs.Steps

namespace LogLens

open FilterState (Alters)

/-! ### Lists side by side -/

theorem forall₂_comp {α β γ : Type} {R : α → β → Prop} {S : β → γ → Prop} {T : α → γ → Prop}
    (compose : ∀ a b c, R a b → S b c → T a c) {first : List α} {middle : List β} {last : List γ}
    (one : List.Forall₂ R first middle) (two : List.Forall₂ S middle last) :
    List.Forall₂ T first last := by
  induction one generalizing last with
  | nil =>
      cases two
      exact .nil
  | cons related _ ih =>
      cases two with
      | cons relatedNext rest => exact .cons (compose _ _ _ related relatedNext) (ih rest)

theorem exists_left_of_forall₂ {α β : Type} {R : α → β → Prop} {first : List α} {last : List β}
    (all : List.Forall₂ R first last) {b : β} (member : b ∈ last) : ∃ a ∈ first, R a b := by
  induction all with
  | nil => cases member
  | cons related _ ih =>
      rcases List.mem_cons.1 member with rfl | inRest
      · exact ⟨_, List.mem_cons_self .., related⟩
      · obtain ⟨a, inFirst, relatedRest⟩ := ih inRest
        exact ⟨a, List.mem_cons_of_mem _ inFirst, relatedRest⟩

theorem exists_right_of_forall₂ {α β : Type} {R : α → β → Prop} {first : List α} {last : List β}
    (all : List.Forall₂ R first last) {a : α} (member : a ∈ first) : ∃ b ∈ last, R a b := by
  obtain ⟨b, inLast, related⟩ := exists_left_of_forall₂ all.flip member
  exact ⟨b, inLast, related⟩

/-! ### Filters that act -/

/-- A pattern that is found wherever an octet stands. -/
def Pattern.octet (source : String) (octet : UInt8) : Pattern where
  source
  matcher.isMatch bytes := bytes.contains octet
  matcher.findAll bytes :=
    let starts := (List.range bytes.length).filter (bytes[·]? == some octet)
    starts.map fun start => (start, start + 1)

namespace Filter

/-- A filter that has read nothing. -/
structure Fresh (filter : Installed) : Prop where
  pending : filter.pending = {}
  last : filter.last = none

/-- A fresh filter for the letter `b`. -/
def sample (kind : FilterKind) (slot : Slot) : Installed :=
  .new kind slot (.octet "b" 98)

theorem fresh_sample (kind : FilterKind) (slot : Slot) : (sample kind slot).Fresh := ⟨rfl, rfl⟩

/-- Filters that differ at most in the messages they read. -/
structure Alike (filter other : Installed) : Prop where
  kind : other.kind = filter.kind
  index : other.index = filter.index
  pattern : other.pattern = filter.pattern
  enabled : other.enabled = filter.enabled

theorem Alike.refl (filter : Installed) : filter.Alike filter := ⟨rfl, rfl, rfl, rfl⟩

theorem Alike.trans {first second third : Installed} (one : first.Alike second)
    (two : second.Alike third) : first.Alike third :=
  ⟨two.kind.trans one.kind, two.index.trans one.index, two.pattern.trans one.pattern,
    two.enabled.trans one.enabled⟩

theorem Alike.id_eq {filter other : Installed} (alike : filter.Alike other) :
    other.id = filter.id :=
  id_eq_of_pattern alike.pattern

theorem Alike.isMatch_eq {filter other : Installed} (alike : filter.Alike other) :
    other.isMatch = filter.isMatch := by
  funext line
  rw [isMatch, isMatch, alike.pattern]

/-- Reading a line leaves the kind, the place, the pattern and the switch of a filter as they are. -/
theorem alike_addLine (filter : Installed) (line : Bytes) : filter.Alike (filter.addLine line) :=
  ⟨rfl, rfl, rfl, rfl⟩

theorem alike_reset (filter : Installed) : filter.Alike filter.reset := ⟨rfl, rfl, rfl, rfl⟩

theorem fresh_reset (filter : Installed) : filter.reset.Fresh := ⟨rfl, rfl⟩

/-- What is common to related filters is listed alike. -/
theorem map_eq_of_forall₂ {α : Type} (name : Installed → α) {R : Installed → Installed → Prop}
    (same : ∀ filter other, R filter other → name other = name filter)
    {filters others : List Installed} (related : List.Forall₂ R filters others) :
    others.map name = filters.map name := by
  induction related with
  | nil => rfl
  | cons related _ ih => rw [List.map_cons, List.map_cons, same _ _ related, ih]

/-- What is read off kind, place, pattern and switch is the same for lists of alike filters. -/
theorem map_eq_of_alike {α : Type} {name : Installed → α}
    (same : ∀ {filter other : Installed}, filter.Alike other → name other = name filter)
    {filters others : List Installed} (alike : List.Forall₂ Alike filters others) :
    others.map name = filters.map name :=
  map_eq_of_forall₂ name (fun _ _ => same) alike

/-- An action of a filter succeeds.  It changes nothing but the messages of the filter, its own
column and the room for lines, of which `room` is enough, and leaves what is told. -/
def Leads (filter : Installed) (before : FilterState) (room : Nat)
    (result : Except Fault (Installed × FilterState)) (told : Installed → Column → Prop) : Prop :=
  ∃ filter' column length after, result = .ok (filter', after) ∧ filter.Alike filter' ∧
    Alters filter.index column length before after ∧ before.length ≤ length ∧
    length ≤ max before.length room ∧ told filter' column

theorem Leads.mono {filter : Installed} {before : FilterState} {room : Nat}
    {result : Except Fault (Installed × FilterState)} {told more : Installed → Column → Prop}
    (leads : filter.Leads before room result told)
    (implies : ∀ filter' column, filter.Alike filter' → told filter' column → more filter' column) :
    filter.Leads before room result more := by
  obtain ⟨filter', column, length, after, succeeds, alike, alters, grows, fits, holds⟩ := leads
  exact ⟨filter', column, length, after, succeeds, alike, alters, grows, fits,
    implies filter' column alike holds⟩

/-- A filter that does nothing. -/
theorem Leads.refl {filter : Installed} {before : FilterState} {room : Nat}
    {told : Installed → Column → Prop} (bounded : before.Bounded)
    (holds : told filter (before.column filter.index)) :
    filter.Leads before room (.ok (filter, before)) told :=
  ⟨filter, _, _, before, rfl, Alike.refl filter, bounded.alters_refl filter.index, Nat.le_refl _,
    Nat.le_max_left _ _, holds⟩

/-- A filter stands behind the lines it has stamped and the lines it holds pending. -/
theorem position_eq_count (filter : Installed) (state : FilterState) :
    filter.position state = (state.column filter.index).count + filter.pending.lines := by
  rw [FilterState.count_column]
  rfl

/-- The message ends and its decision is stamped on its lines. -/
theorem endMessage_alters (filter : Installed) {before : FilterState} (bounded : before.Bounded) :
    ∃ after, filter.endMessage before =
        .ok ({ filter with pending := {}, last := some filter.pending }, after) ∧
      Alters filter.index
        ((before.column filter.index).stamp filter.pending.lines filter.pending.matched)
        (max before.length (filter.position before)) before after := by
  have resized := bounded.alters_resize filter.index (filter.position before)
  have room : (before.resize (filter.position before)).count filter.index + filter.pending.lines ≤
      (before.resize (filter.position before)).length := by
    rw [FilterState.count_resize, FilterState.length_resize]
    exact Nat.le_max_right _ _
  obtain ⟨after, stamps, alters⟩ := FilterState.stampLines_alters resized.bounded
    filter.pending.matched filter.pending.lines room
  refine ⟨after, ?_, ?_⟩
  · simp only [endMessage, bind, Except.bind]
    rw [show before.count filter.index + filter.pending.lines = filter.position before from rfl,
      stamps]
    rfl
  · have all := resized.trans alters
    rw [FilterState.column_resize, FilterState.length_resize] at all
    exact all

/-- The last decision is taken back and its message opened again. -/
theorem reopen_alters {filter : Installed} {message : Message} (last : filter.last = some message)
    {before : FilterState} (bounded : before.Bounded) :
    let lines := min message.lines (before.count filter.index)
    ∃ after, filter.reopen before =
        .ok (lines, { filter with pending := ⟨message.matched && lines > 0, lines⟩, last := none },
          after) ∧
      Alters filter.index
        ((before.column filter.index).unstamp message.lines message.matched)
        before.length before after := by
  obtain ⟨after, takes, alters⟩ :=
    FilterState.takeBack_alters bounded filter.index message.matched message.lines
  refine ⟨after, ?_, alters⟩
  simp only [reopen, last, takes, bind, Except.bind]
  rfl

/-- Without a last message there is nothing to reopen. -/
theorem reopen_none {filter : Installed} (last : filter.last = none) (before : FilterState) :
    filter.reopen before = .ok (0, filter, before) := by
  simp only [reopen, last]

end Filter

/-- Where no filter has anything to do, nothing changes. -/
theorem driveAll_idle {act : Installed → FilterState → Except Fault (Installed × FilterState)}
    {filters : List Installed} {state : FilterState}
    (idle : ∀ filter ∈ filters, act filter state = .ok (filter, state)) :
    driveAll act filters state = .ok (filters, state) := by
  induction filters with
  | nil => rfl
  | cons filter rest ih =>
      have restIdle := ih fun other inRest => idle other (List.mem_cons_of_mem _ inRest)
      simp only [driveAll, idle filter (List.mem_cons_self ..), restIdle, bind, Except.bind, pure,
        Except.pure]

/-- Filters at different places act as each of them would alone. -/
theorem driveAll_leads {act : Installed → FilterState → Except Fault (Installed × FilterState)}
    {filters : List Installed} {before : FilterState} {room : Nat}
    (told : Installed → Installed → Column → Prop) (bounded : before.Bounded)
    (distinct : (filters.map Filter.index).Nodup)
    (each : ∀ filter ∈ filters, ∀ state : FilterState, state.Bounded →
      before.length ≤ state.length → state.length ≤ max before.length room →
      state.column filter.index = before.column filter.index →
      filter.Leads state room (act filter state) (told filter)) :
    ∃ filters' after, driveAll act filters before = .ok (filters', after) ∧ after.Bounded ∧
      after.logfile = before.logfile ∧ before.length ≤ after.length ∧
      after.length ≤ max before.length room ∧
      List.Forall₂ (fun filter filter' => filter.Alike filter' ∧
        told filter filter' (after.column filter.index)) filters filters' ∧
      ∀ slot, slot ∉ filters.map Filter.index → after.column slot = before.column slot := by
  induction filters generalizing before with
  | nil =>
      exact ⟨[], before, rfl, bounded, rfl, Nat.le_refl _, Nat.le_max_left _ _, .nil,
        fun _ _ => rfl⟩
  | cons filter rest ih =>
      rw [List.map_cons, List.nodup_cons] at distinct
      obtain ⟨apart, distinctRest⟩ := distinct
      obtain ⟨filter', column, length, next, acts, alike, alters, grows, fits, holds⟩ :=
        each filter (List.mem_cons_self ..) before bounded (Nat.le_refl _) (Nat.le_max_left _ _) rfl
      have lengthNext : next.length = length := alters.length_eq
      -- The first filter leaves the columns of the rest alone, so the rest may act on what it leaves.
      have otherPlace : ∀ other ∈ rest, other.index ≠ filter.index := by
        intro other member same
        exact apart (same ▸ List.mem_map_of_mem member)
      obtain ⟨rest', after, drives, boundedAfter, logfile, growsRest, fitsRest, all, untouched⟩ :=
        ih alters.bounded distinctRest (by
          intro other member state boundedState growsState fitsState own
          refine each other (List.mem_cons_of_mem _ member) state boundedState (by omega)
            (by omega) ?_
          rw [own, alters.other other.index (otherPlace other member)])
      refine ⟨filter' :: rest', after, ?_, boundedAfter, logfile.trans alters.logfile, by omega,
        by omega, .cons ⟨alike, ?_⟩ all, ?_⟩
      · simp only [driveAll, acts, drives, bind, Except.bind, pure, Except.pure]
      · rw [untouched filter.index apart, alters.own]
        exact holds
      · intro slot unused
        rw [List.map_cons, List.mem_cons, not_or] at unused
        rw [untouched slot unused.2, alters.other slot unused.1]

end LogLens
