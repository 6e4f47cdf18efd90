import Mathlib.Data.Option.Basic
import Mathlib.Order.Nat

/-!
# Cells with a version

A writer replaces what it finds in a cell if the version is still the one it read.  `Follows` says
that the cell is empty or has not fallen behind what a writer knows; under it an equal version is an
equal value (`Follows.eq_of_version`).  It is lost when an emptied cell is filled again.
-/

namespace VersionedCell

variable {α : Type*} (version : α → ℕ)

def hasVersion (cell : Option α) (expected : ℕ) : Bool :=
  cell.any fun now => version now == expected

def admits (cell : Option α) (expected : ℕ) : Bool :=
  match cell with
  | none => expected == 0
  | some now => version now == expected

def Follows (cell : Option α) (known : α) : Prop :=
  ∀ now ∈ cell, now = known ∨ version known < version now

variable {version} {cell : Option α} {known now next : α} {expected : ℕ}

lemma hasVersion_eq_true (h : hasVersion version cell expected = true) :
    ∃ now, cell = some now ∧ version now = expected := by
  cases cell with
  | none => cases h
  | some now => exact ⟨now, rfl, by simpa [hasVersion] using h⟩

lemma admits_eq_true (h : admits version cell expected = true) :
    cell = none ∧ expected = 0 ∨ hasVersion version cell expected = true := by
  cases cell with
  | none => exact .inl ⟨rfl, by simpa [admits] using h⟩
  | some => exact .inr h

lemma Follows.refl (now : α) : Follows version (some now) now := by
  rintro _ ⟨⟩
  exact .inl rfl

lemma follows_none : Follows version none known := by
  rintro _ ⟨⟩

section

variable (h : Follows version (some now) known)
include h

lemma Follows.version_le : version known ≤ version now := by
  rcases h now rfl with rfl | hlt
  · exact le_rfl
  · exact hlt.le

lemma Follows.write (hlt : version now < version next) : Follows version (some next) known := by
  rintro _ ⟨⟩
  exact .inr (h.version_le.trans_lt hlt)

lemma Follows.ne_of_lt (hlt : version now < version next) : some next ≠ some known := by
  rintro ⟨⟩
  exact absurd hlt h.version_le.not_gt

end

lemma Follows.eq_of_version (h : Follows version cell known)
    (hver : hasVersion version cell (version known) = true) : cell = some known := by
  obtain ⟨now, rfl, heq⟩ := hasVersion_eq_true hver
  rcases h now rfl with rfl | hlt
  · rfl
  · exact absurd heq hlt.ne'

end VersionedCell
