import VibeScript.CommandLine
import VibeScript.Proofs.Outcome

/-!
Where the operands of a command come from. What is read of an option leaves the operands of its side
as they are (`operands_readLong`, `operands_readShort`), and one more argument adds nothing to them
but itself (`State.Among.step`). So the file that a command is about is one of the arguments
(`file_mem_of_read`).
-/

namespace VibeScript

namespace Arguments

variable {place : Place} {s s' : Side} {o : Valued} {v : Option Text} {arg : Text}
  {args : List Text}

/-! ### Options -/

theorem operands_setValue {v : Text} (h : setValue place s o v = .ok s') :
    s'.operands = s.operands := by
  unfold setValue at h
  split at h <;> split at h <;> cases h <;> rfl

theorem operands_setOrAwait (h : setOrAwait place s o v = .ok s') :
    s'.operands = s.operands := by
  unfold setOrAwait at h
  split at h
  · exact operands_setValue h
  · cases h
    rfl

theorem operands_setVerbose (h : setVerbose s = .ok s') : s'.operands = s.operands := by
  unfold setVerbose at h
  split at h <;> cases h
  rfl

theorem operands_readLong {name : Text} (h : readLong place s name v = .ok s') :
    s'.operands = s.operands := by
  unfold readLong at h
  split at h
  · exact operands_setOrAwait h
  split at h
  · exact operands_setOrAwait h
  split at h
  · cases h
  split at h
  · exact operands_setVerbose h
  split at h
  · cases h
  split at h <;> cases h

theorem operands_readShort {letters : Text} (h : readShort place s letters = .ok s') :
    s'.operands = s.operands := by
  induction letters generalizing s with
  | nil => cases h; rfl
  | cons c t ih =>
    unfold readShort at h
    split at h
    · obtain ⟨switched, hswitched, h⟩ := exists_of_bind_ok h
      rw [ih h, operands_setVerbose hswitched]
    split at h
    · cases h
    split at h
    · cases h
    split at h
    · exact operands_setOrAwait h
    · cases h

/-! ### Arguments -/

/-- One more argument on a side is its operand or leaves its operands as they are. -/
theorem operands_feed {operand : Side → Except Interruption Side}
    (h : feed place operand s arg = .ok s') : operand s = .ok s' ∨ s'.operands = s.operands := by
  unfold feed at h
  split at h
  · split at h
    · cases h
    · exact .inr (operands_setValue h)
  · split at h
    · exact .inl h
    · split at h
      · cases h
        exact .inr rfl
      · exact .inr (operands_readLong h)
      · exact .inr (operands_readShort h)

theorem operands_keep (h : keep arg s = .ok s') : s'.operands = [arg] := by
  unfold keep at h
  split at h <;> cases h
  rfl

/-- Whether the operands behind the name of the command are among some arguments. -/
def State.Among (args : List Text) (s : State) : Prop :=
  ∀ verb side, s.after = some (verb, side) → side.operands ⊆ args

theorem State.Among.step {s s' : State} (hs : s.Among args) (harg : arg ∈ args)
    (h : step s arg = .ok s') : s'.Among args := by
  intro verb side hside
  unfold Arguments.step at h
  split at h
  case h_1 before hafter =>
    cases h
    cases hside
    exact List.append_subset.2 ⟨hs _ _ hafter, List.cons_subset.2 ⟨harg, List.nil_subset _⟩⟩
  case h_2 verb' before hafter =>
    obtain ⟨fed, hfed, h⟩ := exists_of_bind_ok h
    cases h
    cases hside
    rcases operands_feed hfed with hkept | hsame
    · rw [operands_keep hkept]
      exact List.cons_subset.2 ⟨harg, List.nil_subset _⟩
    · rw [hsame]
      exact hs _ _ hafter
  case h_3 hafter =>
    split at h
    · split at h <;> cases h
      cases hside
      exact List.nil_subset _
    · obtain ⟨before, _, h⟩ := exists_of_bind_ok h
      cases h
      exact absurd hside (by simp [hafter])

theorem State.Among.foldlM {s s' : State} (hs : s.Among args) {more : List Text}
    (hmore : more ⊆ args) (h : more.foldlM Arguments.step s = .ok s') : s'.Among args := by
  induction more generalizing s with
  | nil => cases h; exact hs
  | cons arg more ih =>
    obtain ⟨harg, hmore⟩ := List.cons_subset.1 hmore
    obtain ⟨next, hnext, h⟩ := exists_of_bind_ok h
    exact ih (hs.step harg hnext) hmore h

/-! ### Commands -/

theorem mem_of_required {operand : Text} (h : required s = .ok operand) :
    operand ∈ s.operands := by
  unfold required at h
  split at h <;> cases h
  rename_i hone
  rw [hone]
  exact List.mem_singleton_self _

theorem mem_of_command {verb : Verb} {c : Command} (h : command verb s = .ok c) {file : Text}
    (hfile : CommandLine.Command.file? c = some file) : file ∈ s.operands := by
  cases verb <;> simp only [command] at h
  case run | check | tokens | highlight =>
    obtain ⟨operand, hoperand, h⟩ := exists_of_bind_ok h
    cases h
    cases hfile
    exact mem_of_required hoperand
  case guide | examples =>
    cases h
    cases hfile
  case help =>
    split at h <;> cases h

/-- The file that a command is about is one of the arguments. -/
theorem file_mem_of_read {i : Invocation} (h : read args = .ok i) {file : Text}
    (hfile : CommandLine.Command.file? i.command = some file) : file ∈ args := by
  obtain ⟨s, hs, h⟩ := exists_of_bind_ok h
  have hstart : State.Among args ⟨.blank, none⟩ := fun _ _ h => by cases h
  have hamong := hstart.foldlM (List.Subset.refl args) hs
  split at h
  · cases h
  · rename_i verb side hafter
    split at h
    · cases h
    · obtain ⟨c, hc, h⟩ := exists_of_bind_ok h
      cases h
      exact hamong verb side hafter (mem_of_command hc hfile)

end Arguments

end VibeScript
