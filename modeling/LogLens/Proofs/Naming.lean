/-
Module: LogLens.Proofs.Naming
Purpose: The names of categories.  However names are spelled when they are registered, no two of them
  differ in letter case alone, so that the first category whose name fits is the only one.  A category
  keeps the name under which it was handed out, and with it its marks.
Main exports: SameLetter, SameButCase, CategoryRegistry.Distinct, CategoryRegistry.registerAll,
  CategoryRegistry.Distinct.find?_eq_some_iff, CategoryRegistry.registerAll_names
-/
import LogLens.Proofs.Searching

namespace LogLens

/-! ### Letter case -/

/-- Two characters that are the same, or of which one is a capital ASCII letter and the other its small
letter. -/
inductive SameLetter : Char → Char → Prop where
  | same (c : Char) : SameLetter c c
  | small {c d : Char} (capital : 65 ≤ c.toNat ∧ c.toNat ≤ 90) (isSmall : d.toNat = c.toNat + 32) :
      SameLetter c d
  | capital {c d : Char} (capital : 65 ≤ d.toNat ∧ d.toNat ≤ 90)
      (isSmall : c.toNat = d.toNat + 32) : SameLetter c d

/-- Two texts that differ at most in the case of ASCII letters. -/
def SameButCase (a b : String) : Prop := List.Forall₂ SameLetter a.toList b.toList

/-- The small letters of ASCII stand 32 places behind the capital ones. -/
theorem toNat_toLower (c : Char) :
    c.toLower.toNat = if 65 ≤ c.toNat ∧ c.toNat ≤ 90 then c.toNat + 32 else c.toNat := by
  unfold Char.toLower
  split
  next capital =>
    have bounds : 65 ≤ c.toNat ∧ c.toNat ≤ 90 := capital
    rw [if_pos bounds]
    have last : c.val.toNat ≤ 90 := bounds.2
    have sum : (c.val + 32).toNat = (c.val.toNat + 32) % 2 ^ 32 := UInt32.toNat_add c.val 32
    exact sum.trans (Nat.mod_eq_of_lt (by omega))
  next other =>
    have noCapital : ¬(65 ≤ c.toNat ∧ c.toNat ≤ 90) := other
    rw [if_neg noCapital]

/-- Lower-case forms agree exactly for the same letter in either case. -/
theorem toLower_eq_iff (c d : Char) : c.toLower = d.toLower ↔ SameLetter c d := by
  rw [← Char.toNat_inj, toNat_toLower, toNat_toLower]
  constructor
  · intro same
    split at same
    next capital =>
      split at same
      next _ =>
        obtain rfl : c = d := Char.toNat_inj.1 (Nat.add_right_cancel same)
        exact .same c
      next _ => exact .small capital same.symm
    next _ =>
      split at same
      next capital => exact .capital capital same
      next _ =>
        obtain rfl : c = d := Char.toNat_inj.1 same
        exact .same c
  · rintro (_ | ⟨capital, isSmall⟩ | ⟨capital, isSmall⟩)
    · rfl
    · rw [if_pos capital, if_neg (by omega), isSmall]
    · rw [if_pos capital, if_neg (by omega), isSmall]

theorem sameButCase_iff (a b : String) :
    SameButCase a b ↔ a.toList.map Char.toLower = b.toList.map Char.toLower := by
  rw [← List.forall₂_eq_eq_eq, List.forall₂_map_left_iff, List.forall₂_map_right_iff]
  simp only [toLower_eq_iff]
  rfl

namespace SameButCase

variable {a b c : String}

theorem refl (a : String) : SameButCase a a := (sameButCase_iff a a).2 rfl

theorem symm (same : SameButCase a b) : SameButCase b a :=
  (sameButCase_iff b a).2 ((sameButCase_iff a b).1 same).symm

theorem trans (first : SameButCase a b) (second : SameButCase b c) : SameButCase a c :=
  (sameButCase_iff a c).2 (((sameButCase_iff a b).1 first).trans ((sameButCase_iff b c).1 second))

end SameButCase

namespace CategoryRegistry

/-! ### Names that are apart -/

/-- The comparison of names that the registry makes ignores the case of ASCII letters only. -/
theorem sameName_iff (a b : String) : sameName a b = true ↔ SameButCase a b := by
  rw [sameName, beq_iff_eq, sameButCase_iff]

instance (a b : String) : Decidable (SameButCase a b) :=
  decidable_of_iff (sameName a b = true) (sameName_iff a b)

/-- Letter case counts outside ASCII, and the sign for Kelvin is no letter of ASCII. -/
example : SameButCase "eRRor" "Error" ∧ ¬SameButCase "Äpfel" "äpfel" ∧ ¬SameButCase "K" "\u212a" := by
  decide +kernel

/-- No two names differ in letter case alone. -/
def Distinct (registry : CategoryRegistry) : Prop :=
  registry.names.Pairwise fun a b => ¬SameButCase a b

/-- Register several names, one after the other. -/
def registerAll (registry : CategoryRegistry) (names : List String) : CategoryRegistry :=
  names.foldl (fun registry name => (registry.register name).2) registry

variable {registry : CategoryRegistry}

theorem distinct_empty : Distinct {} := List.Pairwise.nil

theorem Distinct.nodup (distinct : registry.Distinct) : registry.names.Nodup := by
  apply distinct.imp
  rintro a b apart rfl
  exact apart (.refl a)

/-- A lookup fails exactly when no stored name agrees up to case. -/
theorem find?_eq_none_iff {name : String} :
    registry.find? name = none ↔ ∀ stored ∈ registry.names, ¬SameButCase stored name := by
  rw [find?, Option.map_eq_none_iff, List.findIdx?_eq_none_iff]
  simp only [← sameName_iff, Bool.not_eq_true]

/-- What is found is a category whose name fits. -/
theorem named_of_find? {name : String} {id : CategoryId} (found : registry.find? name = some id) :
    ∃ stored, registry.name? id = some stored ∧ SameButCase stored name := by
  obtain ⟨number, isFirst, rfl⟩ := Option.map_eq_some_iff.1 found
  obtain ⟨inRange, fits, _⟩ := List.findIdx?_eq_some_iff_getElem.1 isFirst
  exact ⟨registry.names[number], List.getElem?_eq_getElem inRange, (sameName_iff _ _).1 fits⟩

/-- Where no two names differ in letter case alone, a category whose name fits is the one that is
found. -/
theorem Distinct.find?_eq_some_iff (distinct : registry.Distinct) {name : String} {id : CategoryId} :
    registry.find? name = some id ↔
      ∃ stored, registry.name? id = some stored ∧ SameButCase stored name := by
  refine ⟨named_of_find?, ?_⟩
  rintro ⟨stored, named, fits⟩
  obtain ⟨inRange, isStored⟩ := List.getElem?_eq_some_iff.1 named
  apply Option.map_eq_some_iff.2
  refine ⟨id.number, List.findIdx?_eq_some_iff_getElem.2 ⟨inRange, ?_, ?_⟩, rfl⟩
  · rw [isStored]
    exact (sameName_iff _ _).2 fits
  · intro earlier before fitsEarlier
    -- Two names that both fit would differ in letter case alone.
    have inRangeEarlier : earlier < registry.names.length := Nat.lt_trans before inRange
    have apart := List.pairwise_iff_getElem.1 distinct earlier id.number inRangeEarlier inRange before
    rw [isStored] at apart
    exact apart (((sameName_iff _ _).1 fitsEarlier).trans fits.symm)

/-! ### Names that are registered -/

/-- A known name keeps its id, and the registry is left as it is. -/
theorem register_known {name : String} {id : CategoryId} (found : registry.find? name = some id) :
    registry.register name = (id, registry) := by
  simp only [register, found]

/-- An unknown name is stored at the end and gets the next id. -/
theorem register_new {name : String} (unknown : registry.find? name = none) :
    registry.register name = (⟨registry.names.length⟩, ⟨registry.names ++ [name]⟩) := by
  simp only [register, unknown]

/-- A name that was registered resolves to a spelling of it. -/
theorem register_named (registry : CategoryRegistry) (name : String) :
    ∃ stored, (registry.register name).2.name? (registry.register name).1 = some stored ∧
      SameButCase stored name := by
  cases found : registry.find? name with
  | some id =>
      rw [register_known found]
      exact named_of_find? found
  | none =>
      rw [register_new found]
      exact ⟨name, List.getElem?_concat_length, .refl name⟩

theorem names_prefix_register (registry : CategoryRegistry) (name : String) :
    registry.names <+: (registry.register name).2.names := by
  cases found : registry.find? name with
  | some id => rw [register_known found]
  | none =>
      rw [register_new found]
      exact List.prefix_append _ _

/-- Registering a name keeps the stored names distinct up to case. -/
theorem Distinct.register (distinct : registry.Distinct) (name : String) :
    (registry.register name).2.Distinct := by
  cases found : registry.find? name with
  | some id =>
      rw [register_known found]
      exact distinct
  | none =>
      rw [register_new found]
      have apart := find?_eq_none_iff.1 found
      refine List.pairwise_append.2 ⟨distinct, List.pairwise_singleton _ _, ?_⟩
      intro stored member other isName
      rw [List.mem_singleton.1 isName]
      exact apart stored member

/-- Names are only added behind those that are there. -/
theorem names_prefix_registerAll (registry : CategoryRegistry) (names : List String) :
    registry.names <+: (registry.registerAll names).names := by
  induction names generalizing registry with
  | nil => exact List.prefix_refl _
  | cons name rest ih => exact (names_prefix_register registry name).trans (ih _)

theorem Distinct.registerAll (distinct : registry.Distinct) (names : List String) :
    (registry.registerAll names).Distinct := by
  induction names generalizing registry with
  | nil => exact distinct
  | cons name rest ih => exact ih (distinct.register name)

theorem distinct_withDefaults : withDefaults.Distinct :=
  distinct_empty.registerAll [user, search, "query", "meta"]

/-- Whatever names are registered, in an empty registry or in one with the categories that every view
has, no two of them differ in letter case alone.  A category is found by a name if and only if its own
name is a spelling of it; such a name is not registered again, and any other one gets the next number.
A category that was handed out has a spelling of the name it was asked for.  It keeps its name whatever
is registered later, and the lines that bear this name are the lines that are marked in it. -/
theorem registerAll_names {start : CategoryRegistry} (isStart : start = {} ∨ start = withDefaults)
    (names : List String) :
    let registry := start.registerAll names
    registry.names.Pairwise (fun a b => ¬SameButCase a b) ∧
      (∀ name id, registry.find? name = some id ↔
        ∃ stored, registry.name? id = some stored ∧ SameButCase stored name) ∧
      (∀ name id, registry.find? name = some id → registry.register name = (id, registry)) ∧
      (∀ name, registry.find? name = none →
        registry.register name = (⟨registry.names.length⟩, ⟨registry.names ++ [name]⟩)) ∧
      (∀ name, ∃ stored, SameButCase stored name ∧
        (registry.register name).2.name? (registry.register name).1 = some stored) ∧
      ∀ id stored, registry.name? id = some stored → ∀ more,
        (registry.registerAll more).name? id = some stored ∧
          ∀ view : LogView, view.categories = registry.registerAll more → ∀ line,
            stored ∈ view.marksFor line ↔ line ∈ (view.bookmarks.index id).values := by
  intro registry
  have distinct : registry.Distinct := by
    rcases isStart with rfl | rfl
    · exact distinct_empty.registerAll names
    · exact distinct_withDefaults.registerAll names
  refine ⟨distinct, fun _ _ => distinct.find?_eq_some_iff, fun _ _ => register_known,
    fun _ => register_new, ?_, ?_⟩
  · intro name
    obtain ⟨stored, named, fits⟩ := register_named registry name
    exact ⟨stored, fits, named⟩
  · intro id stored named more
    have kept := name?_of_prefix (names_prefix_registerAll registry more) named
    refine ⟨kept, ?_⟩
    intro view categories line
    have distinctLater := (distinct.registerAll more).nodup
    rw [← categories] at kept distinctLater
    exact LogView.mem_marksFor_of_distinct distinctLater kept line

/-- Names that are registered again in other spellings, and two that differ in a letter outside
ASCII. -/
theorem registerAll_names_respelled :
    let registry := withDefaults.registerAll ["Errors", "ERRORS", "Äpfel", "äpfel", "Search"]
    registry.names = ["user", "search", "query", "meta", "Errors", "Äpfel", "äpfel"] ∧
      registry.find? "errorS" = some ⟨4⟩ ∧ registry.register "SEARCH" = (⟨1⟩, registry) ∧
      registry.register "Warnings" = (⟨7⟩, ⟨registry.names ++ ["Warnings"]⟩) ∧
      ∀ more, (registry.registerAll more).name? ⟨4⟩ = some "Errors" := by
  intro registry
  obtain ⟨_, found, known, new, _, kept⟩ :=
    registerAll_names (Or.inr rfl) ["Errors", "ERRORS", "Äpfel", "äpfel", "Search"]
  have errors : registry.name? ⟨4⟩ = some "Errors" := by decide +kernel
  have search : registry.name? ⟨1⟩ = some "search" := by decide +kernel
  refine ⟨by decide +kernel, ?_, ?_, ?_, fun more => (kept _ _ errors more).1⟩
  · exact (found "errorS" ⟨4⟩).2 ⟨"Errors", errors, by decide +kernel⟩
  · exact known "SEARCH" ⟨1⟩ ((found "SEARCH" ⟨1⟩).2 ⟨"search", search, by decide +kernel⟩)
  · exact new "Warnings" (by decide +kernel)

end CategoryRegistry

end LogLens
