import Mathlib
import BargeIn.Folder

/-!
# What was written is found again

Putting a file where no folder stands leaves every way through the folders as it was, so whoever
looks under the same path afterwards arrives at the file (`look_write`).
-/

namespace BargeIn.Folder

variable {f f' : Folder} {cs : List String} {content : ByteArray}

/-- A way that leads through folders is not changed by a node where there was no folder. -/
theorem walk_put (hcs : f.node? cs ≠ some .folder) (n : Node) {above names arrival : List String}
    (h : f.walk above names = .ok arrival) : (f.put cs n).walk above names = .ok arrival := by
  induction names generalizing above with
  | nil => exact h
  | cons c names ih =>
    unfold walk at h ⊢
    by_cases hdot : c = "."
    · rw [if_pos hdot] at h ⊢
      exact ih h
    rw [if_neg hdot] at h ⊢
    by_cases hdots : c = ".."
    · rw [if_pos hdots] at h ⊢
      exact ih h
    rw [if_neg hdots] at h ⊢
    by_cases hsize : maxNameSize < c.utf8ByteSize
    · simp [entry, hsize] at h
    simp only [entry, if_neg hsize] at h ⊢
    cases hnode : f.node? (above ++ [c]) with
    | none => simp [hnode] at h
    | some node =>
      cases node with
      | file content => simp [hnode] at h
      | folder =>
        have hne : above ++ [c] ≠ cs := by
          rintro rfl
          exact hcs hnode
        rw [node?_put_of_ne f n hne, hnode]
        rw [hnode] at h
        exact ih h

/-- Where a file can be put, the name is not too long and no folder stands. -/
theorem entry_put (content : ByteArray) {above : List String} {name : String}
    (h : (∃ old, f.entry above name = .ok (.file old)) ∨ f.entry above name = .error .notFound) :
    f.node? (above ++ [name]) ≠ some .folder ∧
      (f.put (above ++ [name]) (.file content)).entry above name = .ok (.file content) := by
  unfold entry at h ⊢
  by_cases hsize : maxNameSize < name.utf8ByteSize
  · simp [hsize] at h
  simp only [if_neg hsize, node?_put_self] at h ⊢
  refine ⟨fun hnode => ?_, trivial⟩
  rw [hnode] at h
  simp at h

theorem look_place {path : String} (h : f.place path content = .ok f') :
    f'.look path = .ok content := by
  unfold place at h
  unfold look
  cases hcheck : checkPath path with
  | error fault => simp [hcheck, bind, Except.bind] at h
  | ok u =>
    cases hwalk : f.walk [] (aim path).1 with
    | error fault => simp [hcheck, hwalk, bind, Except.bind] at h
    | ok above =>
      cases haim : (aim path).2 with
      | none => simp [hcheck, hwalk, haim, bind, Except.bind] at h
      | some name =>
        by_cases hslash : endsInSlash path = true
        · simp [hcheck, hwalk, haim, hslash, bind, Except.bind] at h
        · have hput : ((∃ old, f.entry above name = .ok (.file old)) ∨
              f.entry above name = .error .notFound) ∧
              f' = f.put (above ++ [name]) (.file content) := by
            simp only [hcheck, hwalk, haim, if_neg hslash, bind, Except.bind] at h
            split at h
            · simp at h
            · next old he => exact ⟨Or.inl ⟨old, he⟩, (Except.ok.inj h).symm⟩
            · next he => exact ⟨Or.inr he, (Except.ok.inj h).symm⟩
            · simp at h
          obtain ⟨hentry, rfl⟩ := hput
          obtain ⟨hfree, hfound⟩ := entry_put content hentry
          simp [bind, Except.bind, walk_put hfree _ hwalk, hfound, hslash]

/-- A file that was written without a fault is found under its path. -/
theorem look_write {path : String} (h : f.write path content = (f', none)) :
    f'.look path = .ok content := by
  unfold write at h
  cases hmake : f.makeFolders (parent path) with
  | mk made fault =>
    rw [hmake] at h
    cases fault with
    | some fault => simp at h
    | none =>
      simp only at h
      cases hplace : made.place path content with
      | error fault => simp [hplace] at h
      | ok placed =>
        rw [hplace] at h
        obtain rfl : placed = f' := (Prod.mk.inj h).1
        exact look_place hplace

end BargeIn.Folder
