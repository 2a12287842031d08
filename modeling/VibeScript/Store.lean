import VibeScript.Value

/-!
The store of a run: which names have a value, and which one. A store is listed in ascending order
of the names, each once, so two stores that answer every look-up alike are equal
(`eq_of_get?_eq`). Binding a name changes that name only (`get?_bind`).
-/

namespace VibeScript

/-- A name and its value. -/
structure Binding where
  name : Text
  value : Value
  deriving DecidableEq, Repr

/-- Bindings in ascending order of their names, each name once. -/
def Ascending (bs : List Binding) : Prop :=
  bs.Pairwise fun a b => Text.precedes a.name b.name

/-- No name comes before itself. -/
theorem not_precedes_self (name : Text) : ¬ Text.precedes name name = true := by
  simp [Text.not_precedes_self]

/-- The bindings of a run, in ascending order of their names. -/
structure Store where
  bindings : List Binding
  sorted : Ascending bindings

namespace Store

/-- The store without bindings. -/
def empty : Store := ⟨[], .nil⟩

/-- The value that a list binds to a name. -/
def find? (bindings : List Binding) (name : Text) : Option Value :=
  (bindings.find? fun b => b.name == name).map Binding.value

/-- The value of a name. -/
def get? (s : Store) (name : Text) : Option Value := find? s.bindings name

/-- Puts a binding in its place, over an earlier one of the same name. -/
def insert (new : Binding) : List Binding → List Binding
  | [] => [new]
  | b :: bs =>
    if Text.precedes new.name b.name then new :: b :: bs
    else if new.name = b.name then new :: bs
    else b :: insert new bs

/-- What stands in a list after `insert` is new or stood there before. -/
theorem eq_or_mem_of_mem_insert {new b : Binding} {bs : List Binding} (h : b ∈ insert new bs) :
    b = new ∨ b ∈ bs := by
  induction bs with
  | nil => simp_all [insert]
  | cons c cs ih =>
    simp only [insert] at h
    split at h
    · simpa using h
    · split at h
      · rcases List.mem_cons.1 h with h | h
        · exact .inl h
        · exact .inr (List.mem_cons_of_mem _ h)
      · rcases List.mem_cons.1 h with h | h
        · exact .inr (h ▸ List.mem_cons_self)
        · rcases ih h with h | h
          · exact .inl h
          · exact .inr (List.mem_cons_of_mem _ h)

/-- A sorted list stays sorted. -/
theorem sorted_insert {new : Binding} {bs : List Binding}
    (h : Ascending bs) :
    Ascending (insert new bs) := by
  induction bs with
  | nil => simp [insert, Ascending]
  | cons c cs ih =>
    obtain ⟨hc, hcs⟩ := List.pairwise_cons.1 h
    simp only [insert]
    split
    case isTrue hlt =>
      refine List.pairwise_cons.2 ⟨fun b hb => ?_, h⟩
      rcases List.mem_cons.1 hb with rfl | hb
      · exact hlt
      · exact Text.precedes_trans hlt (hc b hb)
    case isFalse hlt =>
      split
      case isTrue heq => exact List.pairwise_cons.2 ⟨fun b hb => heq ▸ hc b hb, hcs⟩
      case isFalse hne =>
        refine List.pairwise_cons.2 ⟨fun b hb => ?_, ih hcs⟩
        rcases eq_or_mem_of_mem_insert hb with rfl | hb
        · exact Text.precedes_of_not_precedes (by simpa using hlt) hne
        · exact hc b hb

/-- Gives a name a value, instead of the one it had. -/
def bind (s : Store) (name : Text) (value : Value) : Store :=
  ⟨insert ⟨name, value⟩ s.bindings, sorted_insert s.sorted⟩

/-- The bindings of a list of names and values, a later one over an earlier one. -/
def ofList (pairs : List (Text × Value)) : Store :=
  pairs.foldl (fun s pair => s.bind pair.1 pair.2) empty

/-! ### Look-ups -/

@[simp] theorem get?_empty (name : Text) : empty.get? name = none := rfl

/-- After `insert` the new name is found with the new value and every other name as before. -/
theorem find?_insert {new : Binding} {bs : List Binding} (name : Text)
    (h : Ascending bs) :
    find? (insert new bs) name = if name = new.name then some new.value else find? bs name := by
  have hsymm : ¬ new.name = name → ¬ name = new.name := fun hn e => hn e.symm
  induction bs with
  | nil => by_cases hn : new.name = name <;> simp [insert, find?, hn, hsymm]
  | cons c cs ih =>
    obtain ⟨hc, hcs⟩ := List.pairwise_cons.1 h
    simp only [insert]
    split
    case isTrue hlt => by_cases hn : new.name = name <;> simp [find?, hn, hsymm]
    case isFalse hlt =>
      split
      case isTrue heq =>
        by_cases hn : new.name = name
        · simp [find?, hn]
        · have hnc : ¬ c.name = name := fun e => hn (heq.trans e)
          simp [find?, hn, hnc, hsymm hn]
      case isFalse hne =>
        have ih := ih hcs
        by_cases hn : c.name = name
        · have hnn : ¬ name = new.name := fun e => hne (e.symm.trans hn.symm)
          simp [find?, hn, hnn]
        · simpa [find?, hn] using ih

/-- Binding a name changes the value of that name and of no other. -/
theorem get?_bind (s : Store) (name : Text) (value : Value) (other : Text) :
    (s.bind name value).get? other = if other = name then some value else s.get? other :=
  find?_insert other s.sorted

/-- A name is bound when it is the name of a binding. -/
theorem get?_eq_some_iff (s : Store) (name : Text) (value : Value) :
    s.get? name = some value ↔ ⟨name, value⟩ ∈ s.bindings := by
  obtain ⟨bs, hs⟩ := s
  simp only [get?]
  induction bs with
  | nil => simp [find?]
  | cons c cs ih =>
    obtain ⟨hc, hcs⟩ := List.pairwise_cons.1 hs
    obtain ⟨cname, cvalue⟩ := c
    by_cases hn : cname = name
    · subst hn
      simp only [find?, List.find?_cons_of_pos, beq_self_eq_true, Option.map_some,
        Option.some.injEq, List.mem_cons, Binding.mk.injEq, true_and]
      constructor
      · exact fun h => .inl h.symm
      · rintro (h | h)
        · exact h.symm
        · exact absurd (hc _ h) (not_precedes_self _)
    · have := ih hcs
      simp only [find?] at this ⊢
      rw [List.find?_cons_of_neg (by simpa using hn), this]
      simp [Ne.symm hn]

/-! ### Equality -/

/-- Sorted lists of the same bindings are equal. -/
theorem eq_of_mem_iff {as bs : List Binding} (ha : Ascending as) (hb : Ascending bs)
    (h : ∀ c, c ∈ as ↔ c ∈ bs) : as = bs := by
  induction as generalizing bs with
  | nil =>
    cases bs with
    | nil => rfl
    | cons b bs => exact absurd ((h b).2 List.mem_cons_self) List.not_mem_nil
  | cons a as ih =>
    cases bs with
    | nil => exact absurd ((h a).1 List.mem_cons_self) List.not_mem_nil
    | cons b bs =>
      obtain ⟨haa, has⟩ := List.pairwise_cons.1 ha
      obtain ⟨hbb, hbs⟩ := List.pairwise_cons.1 hb
      have hab : a = b := by
        rcases List.mem_cons.1 ((h a).1 List.mem_cons_self) with e | hm
        · exact e
        · rcases List.mem_cons.1 ((h b).2 List.mem_cons_self) with e | hm'
          · exact e.symm
          · exact absurd (Text.precedes_trans (hbb a hm) (haa b hm')) (not_precedes_self _)
      subst hab
      congr 1
      refine ih has hbs fun c => ?_
      have hc := h c
      simp only [List.mem_cons] at hc
      constructor
      · intro hm
        rcases hc.1 (.inr hm) with e | hm'
        · exact absurd (e ▸ haa c hm : Text.precedes a.name a.name = true) (not_precedes_self _)
        · exact hm'
      · intro hm
        rcases hc.2 (.inr hm) with e | hm'
        · exact absurd (e ▸ hbb c hm : Text.precedes a.name a.name = true) (not_precedes_self _)
        · exact hm'

/-- Stores that answer every look-up alike are equal. -/
theorem eq_of_get?_eq {s t : Store} (h : ∀ name, s.get? name = t.get? name) : s = t := by
  have hb : s.bindings = t.bindings := eq_of_mem_iff s.sorted t.sorted fun ⟨name, value⟩ => by
    rw [← get?_eq_some_iff, ← get?_eq_some_iff, h]
  obtain ⟨bs, hs⟩ := s
  obtain ⟨cs, ht⟩ := t
  cases hb
  rfl

end Store

end VibeScript
