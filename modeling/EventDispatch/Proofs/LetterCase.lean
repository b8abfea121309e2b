import EventDispatch.Text.LetterCase
import Mathlib.Data.List.Basic

/-!
# Lower case, once and for all

Writing a capital in lower case leaves no capital behind, unless the capital has no lower
case at all and stays as it is (`settled_of_mem_lowercase`).  So there is nothing to do for
a second conversion.  Nor does it bring in a mark: whatever is not beyond the underscore is
the lower case of nothing but itself (`eq_of_mem_lowercase`).

Both are read off the table of capitals.  Of a run with a lower case, the lower cases form a
run themselves, and `CapitalRun.misses` compares it with each run of capitals by their ends,
and by their parity where both go over every second character.
-/

namespace EventDispatch.Text.LetterCase

/-! ## Looking up a run -/

theorem mem_of_findRun {runs : List CapitalRun} {point : Nat} {run : CapitalRun}
    (hfind : findRun runs point = some run) : run ∈ runs ∧ run.contains point = true := by
  induction runs with
  | nil => cases hfind
  | cons first rest ih =>
      unfold findRun at hfind
      split at hfind
      · cases hfind
      split at hfind
      · rename_i hcontains
        cases hfind
        exact ⟨List.mem_cons_self, hcontains⟩
      · obtain ⟨hmem, hcontains⟩ := ih hfind
        exact ⟨List.mem_cons_of_mem first hmem, hcontains⟩

theorem contains_iff {run : CapitalRun} {point : Nat} : run.contains point = true ↔
    run.first ≤ point ∧ point ≤ run.last ∧ (point - run.first) % run.step = 0 := by
  simp [CapitalRun.contains, and_assoc]

/-- What becomes of a character: the dotted capital gives two, a capital of a run goes as far
as the run says, and all others stay. -/
theorem lowercase_cases (c : Char) :
    (c = dottedCapitalI ∧ lowercase c = ['i', '\u0307']) ∨
      (∃ run ∈ capitalRuns, run.contains c.toNat = true ∧
        lowercase c = [Char.ofNat (c.toNat + run.shift).toNat]) ∨
      (isUppercase c = false ∧ lowercase c = [c]) := by
  by_cases hdotted : c = dottedCapitalI
  · exact .inl ⟨hdotted, if_pos hdotted⟩
  cases hfind : findRun capitalRuns c.toNat with
  | none =>
      have hplain : isUppercase c = false := by
        simp [isUppercase, hdotted, hfind]
      exact .inr (.inr ⟨hplain, lowercase_of_not_isUppercase hplain⟩)
  | some run =>
      obtain ⟨hrun, hcontains⟩ := mem_of_findRun hfind
      exact .inr (.inl ⟨run, hrun, hcontains, by simp [lowercase, hdotted, hfind]⟩)

theorem lowercase_ne_nil (c : Char) : lowercase c ≠ [] := by
  rcases lowercase_cases c with ⟨_, hlower⟩ | ⟨_, _, _, hlower⟩ | ⟨_, hlower⟩ <;> simp [hlower]

/-! ## Marks -/

theorem toNat_ofNat_of_isValidChar {point : Nat} (hvalid : point.isValidChar) :
    (Char.ofNat point).toNat = point := by
  rw [Char.ofNat, dif_pos hvalid]
  rfl

/-- A number that is no code point gives the character zero. -/
theorem ofNat_eq_zero {point : Nat} (hvalid : ¬ point.isValidChar) : Char.ofNat point = '\x00' := by
  rw [Char.ofNat, dif_neg hvalid]
  rfl

/-- All lower cases of capitals lie beyond the underscore. -/
theorem underscore_lt_of_mem_capitalRuns :
    ∀ run ∈ capitalRuns, '_'.toNat < run.first + run.shift := by
  decide +kernel

/-- A character up to the underscore is the lower case of nothing but itself. -/
theorem eq_of_mem_lowercase {c d : Char} (hnonzero : d.toNat ≠ 0) (hle : d.toNat ≤ '_'.toNat)
    (hmem : d ∈ lowercase c) : c = d := by
  rcases lowercase_cases c with ⟨_, hlower⟩ | ⟨run, hrun, hcontains, hlower⟩ | ⟨_, hlower⟩
  · rw [hlower] at hmem
    rcases List.mem_cons.mp hmem with rfl | hmem
    · exact absurd hle (by decide)
    · rw [List.mem_singleton.mp hmem] at hle
      exact absurd hle (by decide)
  · rw [hlower, List.mem_singleton] at hmem
    have hbound := underscore_lt_of_mem_capitalRuns run hrun
    have hfirst := (contains_iff.mp hcontains).1
    by_cases hvalid : (c.toNat + run.shift).toNat.isValidChar
    · rw [hmem, toNat_ofNat_of_isValidChar hvalid] at hle
      omega
    · rw [hmem, ofNat_eq_zero hvalid] at hnonzero
      exact absurd rfl hnonzero
  · rw [hlower, List.mem_singleton] at hmem
    exact hmem.symm

theorem isUppercase_underscore : isUppercase '_' = false := by
  decide +kernel

/-- No capital is an underscore in lower case, nor ends in one. -/
theorem underscore_notMem_lowercase {c : Char} (hupper : isUppercase c = true) :
    '_' ∉ lowercase c := by
  intro hmem
  obtain rfl : c = '_' := eq_of_mem_lowercase (by decide) (Nat.le_refl _) hmem
  rw [isUppercase_underscore] at hupper
  cases hupper

/-! ## Capitals in lower case -/

/-- The run of the capital that no other run holds. -/
def dottedRun : CapitalRun := ⟨0x130, 0x130, 1, 0⟩

/-- The lower cases of a run, which is not empty, and the capitals of another one are told
apart by their ends or by their parity. -/
def CapitalRun.misses (run other : CapitalRun) : Bool :=
  let first := (run.first + run.shift).toNat
  let last := (run.last + run.shift).toNat
  last.blt other.first || other.last.blt first ||
    (run.step == 2 && other.step == 2 && (first + other.first) % 2 == 1)

/-- No lower case of a capital is a capital. -/
theorem misses_of_mem_capitalRuns : (capitalRuns.all fun run =>
    run.shift == 0 || (dottedRun :: capitalRuns).all run.misses) = true := by
  decide +kernel

theorem contains_eq_false_of_misses {run other : CapitalRun} (hmisses : run.misses other = true)
    {point : Nat} (hcontains : run.contains point = true) (hpositive : 0 ≤ run.first + run.shift) :
    other.contains (point + run.shift).toNat = false := by
  rw [← Bool.not_eq_true, contains_iff]
  rintro ⟨hfirst, hlast, hparity⟩
  obtain ⟨hrunFirst, hrunLast, hrunParity⟩ := contains_iff.mp hcontains
  simp only [CapitalRun.misses, Bool.or_eq_true, Bool.and_eq_true, Nat.blt_eq, beq_iff_eq] at hmisses
  rcases hmisses with (hbefore | hbehind) | ⟨⟨hstep, hother⟩, hodd⟩
  · omega
  · omega
  · rw [hstep] at hrunParity
    rw [hother] at hparity
    omega

theorem isUppercase_ofNat_eq_false {point : Nat}
    (hnone : ∀ run ∈ dottedRun :: capitalRuns, run.contains point = false) :
    isUppercase (Char.ofNat point) = false := by
  by_cases hvalid : point.isValidChar
  · have htoNat := toNat_ofNat_of_isValidChar hvalid
    rw [List.forall_mem_cons] at hnone
    have hdotted : Char.ofNat point ≠ dottedCapitalI := by
      intro heq
      have hpoint : point = 0x130 := by
        rw [← htoNat, heq]
        rfl
      rw [hpoint] at hnone
      exact absurd hnone.1 (by decide)
    have hfind : findRun capitalRuns point = none := by
      cases hfind : findRun capitalRuns point with
      | none => rfl
      | some run =>
          obtain ⟨hrun, hcontains⟩ := mem_of_findRun hfind
          rw [hnone.2 run hrun] at hcontains
          cases hcontains
    simp [isUppercase, hdotted, htoNat, hfind]
  · -- A number that is no code point stands for the zero character.
    rw [ofNat_eq_zero hvalid]
    decide +kernel

/-- In the lower case of a character nothing is a capital, unless it has none and stays. -/
theorem settled_of_mem_lowercase {c d : Char} (hmem : d ∈ lowercase c) :
    isUppercase d = false ∨ lowercase c = [c] := by
  -- The dotted capital has two characters for its lower case, the others of a run one.
  rcases lowercase_cases c with ⟨_, hlower⟩ | ⟨run, hrun, hcontains, hlower⟩ | ⟨_, hlower⟩
  · rw [hlower] at hmem
    refine .inl ?_
    rcases List.mem_cons.mp hmem with rfl | hmem
    · decide +kernel
    · rw [List.mem_singleton.mp hmem]
      decide +kernel
  · have hmisses := List.all_eq_true.mp misses_of_mem_capitalRuns run hrun
    rw [Bool.or_eq_true, beq_iff_eq] at hmisses
    rcases hmisses with hshift | hmisses
    · right
      rw [hlower, hshift, Int.add_zero, Int.toNat_natCast, Char.ofNat_toNat]
    · left
      rw [hlower, List.mem_singleton] at hmem
      have hbound := underscore_lt_of_mem_capitalRuns run hrun
      rw [hmem]
      refine isUppercase_ofNat_eq_false fun other hother => ?_
      exact contains_eq_false_of_misses (List.all_eq_true.mp hmisses other hother) hcontains
        (by omega)
  · exact .inr hlower

end EventDispatch.Text.LetterCase
