import VibeScript.Text

/-!
Where a run of characters ends. A text may begin with a run of characters that satisfy `p`; the run
ends where `p` stops (`Stops`), at a character that fails it or at the end of the text. So a text is
cut behind its first run in one way only (`run_append_inj`), and both `takeWhile` and `dropWhile`
cut it there (`takeWhile_run`, `dropWhile_run`).

Which classes of characters exclude each other is read off their code points (`toNat_of_isAlpha`,
`toNat_of_isWordChar`).
-/

namespace VibeScript

namespace Text

/-- Whether no run of `p` goes on at the start of a text. -/
def Stops (p : Char → Bool) (t : Text) : Prop := ∀ c ∈ t.head?, p c = false

variable {p : Char → Bool} {s s' t t' : Text}

@[simp] theorem stops_cons {c : Char} : Stops p (c :: t) ↔ p c = false := by simp [Stops]

/-- What is behind the first run begins with a character that fails `p`, if with any. -/
theorem stops_dropWhile (p : Char → Bool) (t : Text) : Stops p (t.dropWhile p) := by
  intro c hc
  have h := List.head?_dropWhile_not p t
  rw [hc] at h
  exact h

theorem Stops.takeWhile_eq_nil (ht : Stops p t) : t.takeWhile p = [] := by
  cases t with
  | nil => rfl
  | cons c t => rw [stops_cons] at ht; simp [ht]

theorem Stops.dropWhile_eq_self (ht : Stops p t) : t.dropWhile p = t := by
  cases t with
  | nil => rfl
  | cons c t => rw [stops_cons] at ht; simp [ht]

theorem takeWhile_run (hs : ∀ c ∈ s, p c = true) (ht : Stops p t) : (s ++ t).takeWhile p = s := by
  rw [List.takeWhile_append_of_pos hs, ht.takeWhile_eq_nil, List.append_nil]

theorem dropWhile_run (hs : ∀ c ∈ s, p c = true) (ht : Stops p t) : (s ++ t).dropWhile p = t := by
  rw [List.dropWhile_append_of_pos hs, ht.dropWhile_eq_self]

/-- Two ways to cut a text behind its first run are the same. -/
theorem run_append_inj (hs : ∀ c ∈ s, p c = true) (ht : Stops p t) (hs' : ∀ c ∈ s', p c = true)
    (ht' : Stops p t') (h : s ++ t = s' ++ t') : s = s' ∧ t = t' := by
  have hfirst := takeWhile_run hs ht
  rw [h, takeWhile_run hs' ht'] at hfirst
  have hrest := dropWhile_run hs ht
  rw [h, dropWhile_run hs' ht'] at hrest
  exact ⟨hfirst.symm, hrest.symm⟩

/-- A run at the start of a text is part of the first run. -/
theorem length_le_takeWhile (hs : ∀ c ∈ s, p c = true) (h : s <+: t) :
    s.length ≤ (t.takeWhile p).length := by
  obtain ⟨rest, rfl⟩ := h
  rw [List.takeWhile_append_of_pos hs, List.length_append]
  exact Nat.le_add_right ..

/-- A text without a character is a run of others. -/
theorem not_mem_iff_all_ne {mark : Char} {t : Text} :
    mark ∉ t ↔ ∀ c ∈ t, (c != mark) = true := by
  constructor
  · intro h c hc
    rw [bne_iff_ne]
    rintro rfl
    exact h hc
  · intro h hmem
    exact bne_iff_ne.1 (h _ hmem) rfl

/-! ### Code points -/

theorem toNat_of_isAlpha {c : Char} (h : c.isAlpha = true) :
    (65 ≤ c.toNat ∧ c.toNat ≤ 90) ∨ (97 ≤ c.toNat ∧ c.toNat ≤ 122) := by
  have hval : (decide (65 ≤ c.val ∧ c.val ≤ 90) ||
      decide (97 ≤ c.val) && decide (c.val ≤ 122)) = true := h
  simp only [Bool.or_eq_true, Bool.and_eq_true, decide_eq_true_eq, UInt32.le_iff_toNat_le] at hval
  exact hval

theorem toNat_of_isDigit {c : Char} (h : c.isDigit = true) : 48 ≤ c.toNat ∧ c.toNat ≤ 57 := by
  have hval : (decide (48 ≤ c.val) && decide (c.val ≤ 57)) = true := h
  simp only [Bool.and_eq_true, decide_eq_true_eq, UInt32.le_iff_toNat_le] at hval
  exact hval

theorem toNat_of_isWordChar {c : Char} (h : isWordChar c = true) :
    48 ≤ c.toNat ∧ c.toNat ≤ 122 := by
  rw [isWordChar, Char.isAlphanum, Bool.or_eq_true, Bool.or_eq_true, beq_iff_eq] at h
  rcases h with (h | h) | rfl
  · have := toNat_of_isAlpha h
    omega
  · have := toNat_of_isDigit h
    omega
  · decide

end Text

end VibeScript
