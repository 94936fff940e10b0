import Mathlib.Data.List.GetD
import Mathlib.Data.List.Nodup
import Mathlib.Data.List.Perm.Basic
import Mathlib.Data.Nat.Basic
import Mathlib.Order.Basic

/-!
# Tables of descriptors

A process names its open files by numbers.  A new file gets the lowest one that is free, so
a number that was closed is soon the name of another file.  `Allotted` says that the holders
of numbers still have the files that they were given.
-/

set_option autoImplicit false

namespace EasyRtmp.Lib

structure DescriptorTable where
  files : List (Option Nat)
  /-- The next file that is opened. -/
  next : Nat
  fresh : ∀ file, some file ∈ files → file < next

namespace DescriptorTable

variable (table : DescriptorTable) (descriptor : Nat)

def file : Option Nat := table.files.getD descriptor none

def free : Nat := table.files.idxOf none

def count : Nat := table.files.countP Option.isSome

def install : DescriptorTable where
  files := if table.free < table.files.length then table.files.set table.free (some table.next)
    else table.files ++ [some table.next]
  next := table.next + 1
  fresh := by
    intro file member
    split at member
    · rcases List.mem_or_eq_of_mem_set member with kept | same
      · exact (table.fresh file kept).trans (Nat.lt_succ_self _)
      · exact Nat.lt_succ_of_le (Option.some.inj same).le
    · rcases List.mem_append.mp member with kept | same
      · exact (table.fresh file kept).trans (Nat.lt_succ_self _)
      · exact Nat.lt_succ_of_le (Option.some.inj (List.mem_singleton.mp same)).le

def close : DescriptorTable where
  files := table.files.set descriptor none
  next := table.next
  fresh := by
    intro file member
    rcases List.mem_or_eq_of_mem_set member with kept | same
    · exact table.fresh file kept
    · cases same

theorem free_le : table.free ≤ table.files.length := List.idxOf_le_length

theorem file_free : table.file table.free = none := by
  unfold file
  rcases table.free_le.lt_or_eq with inside | outside
  · rw [List.getD_eq_getElem _ _ inside]
    exact List.getElem_idxOf inside
  · rw [outside]
    exact List.getD_eq_default _ _ le_rfl

theorem file_install : table.install.file descriptor =
    if descriptor = table.free then some table.next else table.file descriptor := by
  unfold file install
  simp only [List.getD_eq_getElem?_getD]
  rcases table.free_le.lt_or_eq with inside | outside
  · rw [if_pos inside, List.getElem?_set]
    by_cases same : descriptor = table.free
    · rw [if_pos same.symm, if_pos inside, if_pos same, Option.getD_some]
    · rw [if_neg (Ne.symm same), if_neg same]
  · rw [if_neg outside.not_lt, outside]
    by_cases same : descriptor = table.files.length
    · rw [if_pos same, same, List.getElem?_concat_length, Option.getD_some]
    · rw [if_neg same, List.getElem?_append]
      split
      · rfl
      · rename_i beyond
        have isNone : table.files[descriptor]? = none := by
          rw [List.getElem?_eq_none_iff]
          omega
        have alsoNone : [some table.next][descriptor - table.files.length]? = none := by
          rw [List.getElem?_eq_none_iff, List.length_singleton]
          omega
        rw [isNone, alsoNone]

theorem file_close (closed : Nat) : (table.close closed).file descriptor =
    if descriptor = closed then none else table.file descriptor := by
  unfold file close
  simp only [List.getD_eq_getElem?_getD, List.getElem?_set]
  by_cases same : closed = descriptor
  · rw [if_pos same, if_pos same.symm]
    split <;> rfl
  · rw [if_neg same, if_neg (Ne.symm same)]

variable {table} {descriptor}

theorem file_mem {file : Nat} (isFile : table.file descriptor = some file) :
    some file ∈ table.files := by
  unfold DescriptorTable.file at isFile
  rw [List.getD_eq_getElem?_getD] at isFile
  cases found : table.files[descriptor]? with
  | none =>
      rw [found] at isFile
      cases isFile
  | some entry =>
      rw [found] at isFile
      exact isFile ▸ List.mem_of_getElem? found

theorem file_lt {file : Nat} (isFile : table.file descriptor = some file) : file < table.next :=
  table.fresh file (file_mem isFile)

/-- Closing what is not open. -/
theorem close_of_none (closed : table.file descriptor = none) : table.close descriptor = table := by
  have same : table.files.set descriptor none = table.files := by
    unfold file at closed
    rw [List.getD_eq_getElem?_getD] at closed
    refine List.ext_getElem? fun other => ?_
    rw [List.getElem?_set]
    split
    · rename_i isOther
      subst isOther
      split
      · rename_i inside
        rw [List.getElem?_eq_getElem inside] at closed ⊢
        exact congrArg some closed.symm
      · rename_i outside
        exact (List.getElem?_eq_none_iff.mpr (not_lt.mp outside)).symm
    · rfl
  obtain ⟨files, next, fresh⟩ := table
  simp only [close] at same ⊢
  congr

/-! ### How many files are open -/

theorem countP_set {entries : List (Option Nat)} (index : Nat) {entry written : Option Nat}
    (found : entries[index]? = some entry) :
    (entries.set index written).countP Option.isSome + (if entry.isSome then 1 else 0) =
      entries.countP Option.isSome + (if written.isSome then 1 else 0) := by
  induction entries generalizing index with
  | nil => cases found
  | cons first rest ih =>
      cases index with
      | zero =>
          cases found
          rw [List.set_cons_zero, List.countP_cons, List.countP_cons]
          omega
      | succ index =>
          have kept := ih index found
          rw [List.set_cons_succ, List.countP_cons, List.countP_cons]
          omega

theorem count_install (table : DescriptorTable) : table.install.count = table.count + 1 := by
  unfold count install
  dsimp only
  rcases table.free_le.lt_or_eq with inside | outside
  · rw [if_pos inside]
    have found : table.files[table.free]? = some none := by
      rw [List.getElem?_eq_getElem inside]
      exact congrArg some (List.getElem_idxOf inside)
    exact countP_set table.free found
  · rw [if_neg outside.not_lt, List.countP_append]
    rfl

theorem count_close {file : Nat} (isFile : table.file descriptor = some file) :
    (table.close descriptor).count + 1 = table.count := by
  unfold DescriptorTable.file at isFile
  rw [List.getD_eq_getElem?_getD] at isFile
  have found : table.files[descriptor]? = some (some file) := by
    cases entry : table.files[descriptor]? with
    | none =>
        rw [entry] at isFile
        cases isFile
    | some held =>
        rw [entry] at isFile
        exact congrArg some isFile
  exact countP_set descriptor found

end DescriptorTable

/-! ## Holders of descriptors -/

/-- The `holdings` are descriptors with the files that their holders were given.  Each is
still the name of its file, nobody was given the file behind descriptor 0, and `others`
files are open besides. -/
structure Allotted (table : DescriptorTable) (holdings : List (Nat × Nat)) (others : Nat) :
    Prop where
  standard : ∃ file, table.file 0 = some file ∧ file ∉ holdings.map Prod.snd
  behind : ∀ holding ∈ holdings, table.file holding.1 = some holding.2
  distinct : (holdings.map Prod.snd).Nodup
  count : table.count = others + holdings.length

namespace Allotted

variable {table : DescriptorTable} {holdings holdings' : List (Nat × Nat)} {others : Nat}
  {descriptor file : Nat}

theorem perm (allotted : Allotted table holdings others) (same : holdings.Perm holdings') :
    Allotted table holdings' others := by
  obtain ⟨standard, behind, distinct, count⟩ := allotted
  refine ⟨?_, fun holding member => behind holding (same.mem_iff.mpr member),
    (same.map Prod.snd).nodup_iff.mp distinct, by rw [count, same.length_eq]⟩
  obtain ⟨first, isFirst, unheld⟩ := standard
  exact ⟨first, isFirst, fun member => unheld ((same.map Prod.snd).mem_iff.mpr member)⟩

theorem nonzero (allotted : Allotted table ((descriptor, file) :: holdings) others) :
    descriptor ≠ 0 := by
  rintro rfl
  obtain ⟨first, isFirst, unheld⟩ := allotted.standard
  have same : some file = some first :=
    (allotted.behind _ List.mem_cons_self).symm.trans isFirst
  cases same
  exact unheld (List.mem_map_of_mem List.mem_cons_self)

/-- A new file is given to a holder. -/
theorem install (allotted : Allotted table holdings others) :
    Allotted table.install ((table.free, table.next) :: holdings) others := by
  have given : ∀ {other held : Nat}, table.file other = some held →
      table.install.file other = some held := by
    intro other held isHeld
    rw [DescriptorTable.file_install, if_neg]
    · exact isHeld
    · rintro rfl
      rw [DescriptorTable.file_free] at isHeld
      cases isHeld
  have unheld : table.next ∉ holdings.map Prod.snd := by
    intro member
    obtain ⟨holding, member, isNext⟩ := List.mem_map.mp member
    exact (DescriptorTable.file_lt (allotted.behind holding member)).ne isNext
  obtain ⟨first, isFirst, free⟩ := allotted.standard
  refine ⟨⟨first, given isFirst, ?_⟩, ?_, ?_, ?_⟩
  · rw [List.map_cons, List.mem_cons, not_or]
    exact ⟨(DescriptorTable.file_lt isFirst).ne, free⟩
  · intro holding member
    rcases List.mem_cons.mp member with rfl | member
    · rw [DescriptorTable.file_install, if_pos rfl]
    · exact given (allotted.behind holding member)
  · rw [List.map_cons, List.nodup_cons]
    exact ⟨unheld, allotted.distinct⟩
  · rw [DescriptorTable.count_install, allotted.count, List.length_cons]
    omega

/-- A holder that goes without closing leaves its file open. -/
theorem leak (allotted : Allotted table ((descriptor, file) :: holdings) others) :
    Allotted table holdings (others + 1) := by
  obtain ⟨first, isFirst, free⟩ := allotted.standard
  refine ⟨⟨first, isFirst, ?_⟩, ?_, ?_, ?_⟩
  · exact fun member => free (List.mem_cons_of_mem _ member)
  · exact fun holding member => allotted.behind holding (List.mem_cons_of_mem _ member)
  · exact (List.nodup_cons.mp allotted.distinct).2
  · rw [allotted.count, List.length_cons]
    omega

theorem close (allotted : Allotted table ((descriptor, file) :: holdings) others) :
    Allotted (table.close descriptor) holdings others := by
  have isFile : table.file descriptor = some file := allotted.behind _ List.mem_cons_self
  obtain ⟨unheld, distinct⟩ := List.nodup_cons.mp allotted.distinct
  obtain ⟨first, isFirst, free⟩ := allotted.standard
  have given : ∀ {other held : Nat}, table.file other = some held → held ≠ file →
      (table.close descriptor).file other = some held := by
    intro other held isHeld differs
    rw [DescriptorTable.file_close, if_neg]
    · exact isHeld
    · rintro rfl
      exact differs (Option.some.inj (isHeld.symm.trans isFile))
  refine ⟨⟨first, given isFirst ?_, ?_⟩, ?_, distinct, ?_⟩
  · rintro rfl
    exact free (List.mem_map_of_mem List.mem_cons_self)
  · exact fun member => free (List.mem_cons_of_mem _ member)
  · intro holding member
    refine given (allotted.behind holding (List.mem_cons_of_mem _ member)) fun same => unheld ?_
    exact List.mem_map.mpr ⟨holding, member, same⟩
  · have count := DescriptorTable.count_close isFile
    rw [allotted.count, List.length_cons] at count
    omega

end Allotted

end EasyRtmp.Lib
