import QuoteLint.Collect
import Mathlib.Data.List.Lex
import Mathlib.Order.Basic

/-! The order of paths, and lists of paths in it. Paths are compared component by component, and
names by their bytes. Paths that are neither before nor behind one another are alike, so that in a
sorted list all paths that are alike stand side by side. -/

namespace QuoteLint

namespace Component

/-- The root comes first, then the two kinds of dots, then names by their bytes. -/
def IsBefore (a b : Component) : Prop := a.rank < b.rank ∨ a.rank = b.rank ∧ a.label < b.label

theorem before_iff (a b : Component) : a.before b = true ↔ a.IsBefore b := by
  simp [before, IsBefore]

theorem eq_of_label {a b : Component} (rank : a.rank = b.rank) (label : a.label = b.label) :
    a = b := by
  cases a <;> cases b <;> simp_all [Component.rank, Component.label, Name.ext_iff]

instance : IsTrans Component IsBefore where
  trans a b c := by
    intro first second
    rcases first with less | ⟨same, lower⟩
    · rcases second with more | ⟨same, -⟩
      · exact .inl (less.trans more)
      · exact .inl (same ▸ less)
    · rcases second with more | ⟨equal, higher⟩
      · exact .inl (same ▸ more)
      · exact .inr ⟨same.trans equal, List.lt_trans lower higher⟩

instance : Std.Asymm IsBefore where
  asymm a b := by
    intro first second
    rcases first with less | ⟨same, lower⟩
    · rcases second with more | ⟨same, -⟩ <;> omega
    · rcases second with more | ⟨-, higher⟩
      · omega
      · exact List.lt_asymm lower higher

instance : Std.Trichotomous IsBefore where
  trichotomous a b := by
    intro notBefore notBehind
    have rank : a.rank = b.rank := by
      apply Nat.le_antisymm
      · exact Nat.le_of_not_lt fun more => notBehind (.inl more)
      · exact Nat.le_of_not_lt fun less => notBefore (.inl less)
    apply eq_of_label rank
    apply List.le_antisymm
    · exact List.not_lt.mp fun more => notBehind (.inr ⟨rank.symm, more⟩)
    · exact List.not_lt.mp fun less => notBefore (.inr ⟨rank, less⟩)

end Component

theorem lex_trans {a b c : List Component} (first : List.Lex Component.IsBefore a b)
    (second : List.Lex Component.IsBefore b c) : List.Lex Component.IsBefore a c := by
  induction first generalizing c with
  | nil => cases second <;> exact .nil
  | rel less =>
      cases second with
      | rel more => exact .rel (IsTrans.trans _ _ _ less more)
      | cons _ => exact .rel less
  | cons _ ih =>
      cases second with
      | rel more => exact .rel more
      | cons rest => exact .cons (ih rest)

namespace Path

def Before (a b : Path) : Prop := List.Lex Component.IsBefore a.components b.components

theorem alike_iff (a b : Path) : a.alike b = true ↔ a.components = b.components := by
  simp [alike]

theorem componentsLe_iff (as bs : List Component) :
    componentsLe as bs = true ↔ List.Lex Component.IsBefore as bs ∨ as = bs := by
  induction as generalizing bs with
  | nil =>
      cases bs with
      | nil => simp [componentsLe]
      | cons b bs => exact iff_of_true rfl (.inl .nil)
  | cons a as ih =>
      cases bs with
      | nil => simp [componentsLe, List.not_lex_nil]
      | cons b bs =>
          simp only [componentsLe, Bool.or_eq_true, Bool.and_eq_true, beq_iff_eq,
            Component.before_iff, ih, List.cons_lex_cons_iff, List.cons.injEq]
          constructor
          · intro ordered
            rcases ordered with less | ⟨same, less | equal⟩
            · exact .inl (.inl less)
            · exact .inl (.inr ⟨same, less⟩)
            · exact .inr ⟨same, equal⟩
          · intro ordered
            rcases ordered with (less | ⟨same, less⟩) | ⟨same, equal⟩
            · exact .inl less
            · exact .inr ⟨same, .inl less⟩
            · exact .inr ⟨same, .inr equal⟩

theorem le_iff (a b : Path) : le a b = true ↔ Before a b ∨ a.components = b.components :=
  componentsLe_iff a.components b.components

theorem Before.trans {a b c : Path} (first : Before a b) (second : Before b c) : Before a c :=
  lex_trans first second

theorem alike_of_before {a b : Path} (first : Before a b) : a.alike b = false := by
  apply Bool.eq_false_iff.mpr
  intro same
  rw [Before, (alike_iff a b).mp same] at first
  exact Std.Asymm.asymm _ _ first first

theorem le_trans (a b c : Path) (first : le a b = true) (second : le b c = true) :
    le a c = true := by
  rw [le_iff] at first second ⊢
  rcases first with less | same
  · rcases second with more | equal
    · exact .inl (less.trans more)
    · exact .inl (by rw [Before, ← equal]; exact less)
  · rw [Before, same]
    exact second

theorem le_total (a b : Path) : (le a b || le b a) = true := by
  rw [Bool.or_eq_true, le_iff, le_iff]
  by_cases less : Before a b
  · exact .inl (.inl less)
  · by_cases more : Before b a
    · exact .inr (.inl more)
    · exact .inl (.inr (Std.Trichotomous.trichotomous _ _ less more))

end Path

theorem sorted_mergeSort (files : List Path) :
    (files.mergeSort Path.le).Pairwise fun a b => Path.le a b = true :=
  List.pairwise_mergeSort Path.le_trans Path.le_total files

theorem dropAlike_sublist (last : Path) (files : List Path) :
    (dropAlike last files).Sublist files := by
  induction files generalizing last with
  | nil => exact .slnil
  | cons path rest ih =>
      rw [dropAlike]
      split
      · exact (ih last).cons path
      · exact (ih path).cons_cons path

theorem dropAlike_before (last : Path) (files : List Path)
    (sorted : (last :: files).Pairwise fun a b => Path.le a b = true) :
    (last :: dropAlike last files).Pairwise Path.Before := by
  induction files generalizing last with
  | nil => exact List.pairwise_singleton _ _
  | cons path rest ih =>
      rcases List.pairwise_cons.mp sorted with ⟨above, tail⟩
      rw [dropAlike]
      split
      · apply ih
        exact sorted.sublist (.cons_cons last (.cons path (List.Sublist.refl rest)))
      · next differ =>
          rw [Path.alike_iff] at differ
          have strict := ih path tail
          have first : Path.Before last path := by
            rcases (Path.le_iff last path).mp (above path List.mem_cons_self) with less | same
            · exact less
            · exact absurd same.symm differ
          refine List.pairwise_cons.mpr ⟨?_, strict⟩
          intro later member
          rcases List.mem_cons.mp member with rfl | member
          · exact first
          · exact first.trans ((List.pairwise_cons.mp strict).1 later member)

theorem alike_of_dropAlike (last : Path) (files : List Path) (path : Path)
    (member : path ∈ last :: files) :
    ∃ kept ∈ last :: dropAlike last files, kept.components = path.components := by
  induction files generalizing last with
  | nil => exact ⟨path, member, rfl⟩
  | cons next rest ih =>
      rw [dropAlike]
      split
      · next same =>
          rw [Path.alike_iff] at same
          rcases List.mem_cons.mp member with rfl | member
          · exact ih path List.mem_cons_self
          · rcases List.mem_cons.mp member with rfl | member
            · exact ⟨last, List.mem_cons_self, same.symm⟩
            · exact ih last (List.mem_cons_of_mem _ member)
      · rcases List.mem_cons.mp member with rfl | member
        · exact ⟨path, List.mem_cons_self, rfl⟩
        · rcases ih next member with ⟨kept, present, same⟩
          exact ⟨kept, List.mem_cons_of_mem _ present, same⟩

section DropRepeats

variable {files : List Path}

theorem dropRepeats_before (sorted : files.Pairwise fun a b => Path.le a b = true) :
    (dropRepeats files).Pairwise Path.Before := by
  cases files with
  | nil => exact .nil
  | cons path rest => exact dropAlike_before path rest sorted

theorem mem_of_mem_dropRepeats {path : Path} (member : path ∈ dropRepeats files) :
    path ∈ files := by
  cases files with
  | nil => exact member
  | cons first rest => exact ((dropAlike_sublist first rest).cons_cons first).subset member

theorem alike_of_mem {path : Path} (member : path ∈ files) :
    ∃ kept ∈ dropRepeats files, kept.components = path.components := by
  cases files with
  | nil => cases member
  | cons first rest => exact alike_of_dropAlike first rest path member

end DropRepeats

end QuoteLint
