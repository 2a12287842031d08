import VibeScript.Text

/-!
The order of texts is the order of their bytes in UTF-8. A character of a smaller code point has
smaller bytes, whatever follows in either text: they differ before either of the two encodings ends
(`lex_utf8`). So a text that comes before another has the smaller bytes (`lex_bytes`).
-/

namespace VibeScript

/-- The order of lists of bytes: by the first bytes that differ, and a list that ends is smaller. -/
abbrev ByteLess : List Nat → List Nat → Prop := List.Lex fun a b => a < b

namespace Text

/-- The bytes in UTF-8 of the character of a code point. -/
def utf8 (v : Nat) : List Nat :=
  if v ≤ 0x7f then [v]
  else if v ≤ 0x7ff then [v / 64 + 0xc0, v % 64 + 0x80]
  else if v ≤ 0xffff then [v / 4096 + 0xe0, v / 64 % 64 + 0x80, v % 64 + 0x80]
  else [v / 262144 + 0xf0, v / 4096 % 64 + 0x80, v / 64 % 64 + 0x80, v % 64 + 0x80]

/-- The bytes of a text. -/
def bytes (t : Text) : List Nat :=
  t.flatMap fun c => (String.utf8EncodeChar c).map UInt8.toNat

/-- The library encodes a character by its code point. -/
theorem utf8EncodeChar_eq_utf8 (c : Char) :
    (String.utf8EncodeChar c).map UInt8.toNat = utf8 c.toNat := by
  have hmax : c.toNat < 0x110000 := by
    have h := c.valid
    simp only [UInt32.isValidChar, Nat.isValidChar, Char.toNat] at h ⊢
    omega
  have hv : c.val.toNat = c.toNat := rfl
  simp only [String.utf8EncodeChar, utf8, hv]
  split
  · simp only [List.map_cons, List.map_nil, UInt8.toNat_ofNat', List.cons.injEq, and_true]
    omega
  · split
    · simp only [List.map_cons, List.map_nil, UInt8.toNat_ofNat', List.cons.injEq, and_true]
      omega
    · split <;> simp only [List.map_cons, List.map_nil, UInt8.toNat_ofNat', List.cons.injEq,
        and_true] <;> omega

/-- Lists are in order when their first bytes are, and those behind are where the first agree. -/
theorem lex_cons_of_le {a b : Nat} {s t : List Nat} (hab : a ≤ b) (h : a = b → ByteLess s t) :
    ByteLess (a :: s) (b :: t) := by
  rcases Nat.lt_or_eq_of_le hab with hlt | rfl
  · exact .rel hlt
  · exact .cons (h rfl)

/-- A smaller code point has smaller bytes, whatever stands behind. -/
theorem lex_utf8 {v w : Nat} (h : v < w) (s t : List Nat) :
    ByteLess (utf8 v ++ s) (utf8 w ++ t) := by
  unfold utf8
  split
  · split
    · exact .rel h
    · split
      · exact .rel (by omega)
      · split <;> exact .rel (by omega)
  · rw [if_neg (show ¬ w ≤ 0x7f by omega)]
    split
    · split
      · exact lex_cons_of_le (by omega) fun _ => .rel (by omega)
      · split <;> exact .rel (by omega)
    · rw [if_neg (show ¬ w ≤ 0x7ff by omega)]
      split
      · split
        · exact lex_cons_of_le (by omega) fun _ => lex_cons_of_le (by omega) fun _ =>
            .rel (by omega)
        · exact .rel (by omega)
      · rw [if_neg (show ¬ w ≤ 0xffff by omega)]
        exact lex_cons_of_le (by omega) fun _ => lex_cons_of_le (by omega) fun _ =>
          lex_cons_of_le (by omega) fun _ => .rel (by omega)

/-- The bytes behind a common beginning decide. -/
theorem lex_append_left {s t : List Nat} (h : ByteLess s t) (r : List Nat) :
    ByteLess (r ++ s) (r ++ t) := by
  induction r with
  | nil => exact h
  | cons a r ih => exact .cons ih

/-- A text that comes before another has the smaller bytes. -/
theorem lex_bytes {s t : Text} (h : precedes s t = true) : ByteLess (bytes s) (bytes t) := by
  induction s generalizing t with
  | nil =>
    cases t with
    | nil => cases h
    | cons d t =>
      have hd : (String.utf8EncodeChar d).map UInt8.toNat ≠ [] := by
        intro hnil
        have hlen := congrArg List.length hnil
        rw [List.length_map, String.length_utf8EncodeChar] at hlen
        have := Char.utf8Size_pos d
        simp at hlen
        omega
      obtain ⟨a, as, has⟩ := List.exists_cons_of_ne_nil hd
      rw [bytes, bytes, List.flatMap_cons, has]
      exact .nil
  | cons c s ih =>
    cases t with
    | nil => cases h
    | cons d t =>
      simp only [precedes, Bool.or_eq_true, Bool.and_eq_true, decide_eq_true_eq, beq_iff_eq] at h
      rw [bytes, bytes, List.flatMap_cons, List.flatMap_cons]
      rcases h with hlt | ⟨rfl, hst⟩
      · rw [utf8EncodeChar_eq_utf8, utf8EncodeChar_eq_utf8]
        exact lex_utf8 hlt _ _
      · exact lex_append_left (ih hst) _

end Text

end VibeScript
