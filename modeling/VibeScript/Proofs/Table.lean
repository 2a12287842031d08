import VibeScript.Proofs.Bindings
import VibeScript.Proofs.ByteOrder

/-!
A run whose names are kept in a hash table. A table is only known up to the order in which it goes
through its entries, and that order may change with every entry put in; nothing that a run computes
or prints depends on it. Table and store go along with each other (`represents_of_runs`), so every
look-up has the same answer, every entry has the name of its binding as key, and the bindings sorted
by name are those of the store (`sorted_eq`).

The state that a run comes to, after any number of lines, is described by `Settled`
(`settled_of_run`).
-/

namespace VibeScript

/-- An entry of a table: a binding, and the key under which it was put in. -/
structure Entry where
  key : Text
  binding : Binding

/-- A hash table: its entries, in the order in which it goes through them. -/
structure Table where
  entries : List Entry

namespace Text

/-- Of two texts one does not come before the other. -/
theorem not_precedes_total (s t : Text) : precedes s t = false ∨ precedes t s = false := by
  cases hst : precedes s t with
  | false => exact .inl rfl
  | true =>
    refine .inr (Bool.eq_false_iff.2 fun hts => ?_)
    have hself := precedes_trans hst hts
    rw [not_precedes_self] at hself
    cases hself

/-- If one text does not come before another, nor a third before the first, then neither does the
third come before the second. -/
theorem not_precedes_trans {s t u : Text} (hts : precedes t s = false)
    (hut : precedes u t = false) : precedes u s = false := by
  refine Bool.eq_false_iff.2 fun hus => ?_
  by_cases he : t = s
  · rw [he, hus] at hut
    cases hut
  · rw [precedes_trans hus (precedes_of_not_precedes hts he)] at hut
    cases hut

end Text

namespace Table

/-- The table without entries. -/
def empty : Table := ⟨[]⟩

/-- The value under a key. -/
def get? (t : Table) : Scope := fun name =>
  (t.entries.find? fun e => e.key == name).map fun e => e.binding.value

/-- Whether `u` may be the table `t` after a binding is put in under its name: an entry with that
key gives way, and the entries may come in another order. -/
def Puts (t : Table) (b : Binding) (u : Table) : Prop :=
  u.entries.Perm (⟨b.name, b⟩ :: t.entries.filter fun e => e.key != b.name)

/-- Whether `u` may be the table `t` after a statement that binds no more than this. -/
def Takes (t : Table) : Option Binding → Table → Prop
  | some b, u => t.Puts b u
  | none, u => u = t

/-- The bindings of a table, sorted by their names. -/
def sorted (t : Table) : List Binding :=
  (t.entries.map Entry.binding).mergeSort fun a b => !Text.precedes b.name a.name

/-- Whether lines that all succeed may lead from one table to another and print this. -/
inductive Runs : Table → List SourceLine → Table → List Text → Prop where
  | nil (t : Table) : Runs t [] t []
  | cons {t u v : Table} {l : SourceLine} {ls : List SourceLine} {st : Statement} {o : Outcome}
      {out : List Text} (hp : Statement.parse l.text = .ok st) (ho : st.outcome t.get? = .ok o)
      (hu : t.Takes o.binding u) (hv : Runs u ls v out) : Runs t (l :: ls) v (o.printed ++ out)

/-! ### Tables and stores -/

/-- A table that stands for a store: its keys are the names of its bindings, no two of them the
same, and its bindings are those of the store. -/
structure Represents (t : Table) (s : Store) : Prop where
  key_eq : ∀ e ∈ t.entries, e.key = e.binding.name
  nodup : (t.entries.map Entry.key).Nodup
  mem_iff : ∀ b, (∃ e ∈ t.entries, e.binding = b) ↔ b ∈ s.bindings

theorem represents_empty : Represents empty Store.empty where
  key_eq _ h := by cases h
  nodup := .nil
  mem_iff b := by simp [empty, Store.empty]

variable {t u : Table} {s : Store}

/-- A table answers as the store that it stands for. -/
theorem Represents.get?_eq (h : Represents t s) : t.get? = s.get? := by
  funext name
  rw [get?]
  cases hfind : t.entries.find? fun e => e.key == name with
  | some e =>
    have hmem := List.mem_of_find?_eq_some hfind
    have hkey : e.key = name := by simpa using List.find?_some hfind
    have hbinding : (⟨name, e.binding.value⟩ : Binding) = e.binding := by
      rw [← hkey, h.key_eq e hmem]
    exact ((s.get?_eq_some_iff name _).2 ((h.mem_iff _).1 ⟨e, hmem, hbinding.symm⟩)).symm
  | none =>
    cases hs : s.get? name with
    | none => rfl
    | some v =>
      obtain ⟨e, hmem, he⟩ := (h.mem_iff _).2 ((s.get?_eq_some_iff name v).1 hs)
      have hkey : e.key = name := by rw [h.key_eq e hmem, he]
      exact absurd hkey (by simpa using List.find?_eq_none.1 hfind e hmem)

/-- A binding put in stands for the name bound in the store. -/
theorem Represents.puts (h : Represents t s) {b : Binding} (hu : t.Puts b u) :
    Represents u (s.bind b.name b.value) := by
  have hmem : ∀ e, e ∈ u.entries ↔ e = ⟨b.name, b⟩ ∨ e ∈ t.entries ∧ e.key ≠ b.name := by
    intro e
    rw [hu.mem_iff, List.mem_cons, List.mem_filter, bne_iff_ne]
  refine ⟨fun e he => ?_, ?_, fun c => ?_⟩
  · rcases (hmem e).1 he with rfl | ⟨he, _⟩
    · rfl
    · exact h.key_eq e he
  · rw [(hu.map Entry.key).nodup_iff, List.map_cons, List.nodup_cons]
    refine ⟨fun hb => ?_, (List.filter_sublist.map Entry.key).nodup h.nodup⟩
    obtain ⟨e, he, hkey⟩ := List.mem_map.1 hb
    exact absurd hkey (by simpa using (List.mem_filter.1 he).2)
  · obtain ⟨name, v⟩ := c
    rw [← Store.get?_eq_some_iff, Store.get?_bind]
    constructor
    · rintro ⟨e, he, hc⟩
      rcases (hmem e).1 he with rfl | ⟨he, hne⟩
      · cases hc
        rw [if_pos rfl]
      · rw [h.key_eq e he, hc] at hne
        rw [if_neg hne, Store.get?_eq_some_iff]
        exact (h.mem_iff _).1 ⟨e, he, hc⟩
    · intro hv
      by_cases hn : name = b.name
      · rw [if_pos hn] at hv
        cases hv
        exact ⟨⟨b.name, b⟩, (hmem _).2 (.inl rfl), by rw [hn]⟩
      · rw [if_neg hn, Store.get?_eq_some_iff] at hv
        obtain ⟨e, he, hc⟩ := (h.mem_iff _).2 hv
        exact ⟨e, (hmem e).2 (.inr ⟨he, by rw [h.key_eq e he, hc]; exact hn⟩), hc⟩

/-- In whatever order a table goes through its entries, sorting leads to the order of the store. -/
theorem Represents.sorted_eq (h : Represents t s) : t.sorted = s.bindings := by
  have hperm : t.sorted.Perm (t.entries.map Entry.binding) := List.mergeSort_perm ..
  have hnames : (t.sorted.map Binding.name).Nodup := by
    rw [(hperm.map Binding.name).nodup_iff, List.map_map]
    have hkeys : t.entries.map (Binding.name ∘ Entry.binding) = t.entries.map Entry.key :=
      List.map_congr_left fun e he => (h.key_eq e he).symm
    rw [hkeys]
    exact h.nodup
  have hle : t.sorted.Pairwise fun a b => (!Text.precedes b.name a.name) = true := by
    refine List.pairwise_mergeSort (fun a b c hab hbc => ?_) (fun a b => ?_) _
    · rw [Bool.not_eq_true'] at hab hbc ⊢
      exact Text.not_precedes_trans hab hbc
    · rw [Bool.or_eq_true, Bool.not_eq_true', Bool.not_eq_true']
      exact Text.not_precedes_total b.name a.name
  -- Entries in order whose names differ are in strict order.
  have hstrict : Ascending t.sorted := by
    refine (hle.and (List.pairwise_map.1 hnames)).imp fun {a b} hab => ?_
    rw [Bool.not_eq_true'] at hab
    exact Text.precedes_of_not_precedes hab.1 (Ne.symm hab.2)
  refine Store.eq_of_mem_iff hstrict s.sorted fun b => ?_
  rw [hperm.mem_iff, ← h.mem_iff, List.mem_map]

/-! ### Runs -/

theorem Represents.takes (h : Represents t s) {o : Outcome} (hu : t.Takes o.binding u) :
    Represents u (o.effect s).store := by
  obtain ⟨binding, printed⟩ := o
  cases binding with
  | none => cases hu; exact h
  | some b => exact h.puts hu

/-- There is a table for every statement that succeeds. -/
theorem exists_takes (t : Table) (binding : Option Binding) : ∃ u, t.Takes binding u := by
  cases binding with
  | none => exact ⟨t, rfl⟩
  | some b => exact ⟨⟨⟨b.name, b⟩ :: t.entries.filter fun e => e.key != b.name⟩, .refl _⟩

/-- A run on a table goes along with the run on the store that the table stands for. -/
theorem represents_of_runs {c : Context} (hc : c.failure = none) (h : Represents t c.store)
    {ls : List SourceLine} {out : List Text} (hr : Runs t ls u out) :
    Represents u (c.runFrom ls).store ∧ (c.runFrom ls).output = c.output ++ out := by
  induction hr generalizing c with
  | nil t => exact ⟨h, (List.append_nil _).symm⟩
  | cons hp ho hu _ ih =>
    rw [h.get?_eq] at ho
    have hstep := Context.step_ok hc (Context.carryOut_eq_ok hp ho)
    rw [Context.runFrom_cons, hstep, ← List.append_assoc]
    exact ih rfl (h.takes hu)

/-- Lines that run without failure on a store run on a table that stands for it. -/
theorem exists_runs {c : Context} {ls : List SourceLine} (hok : (c.runFrom ls).failure = none)
    (h : Represents t c.store) : ∃ u out, Runs t ls u out := by
  induction ls generalizing c t with
  | nil => exact ⟨t, [], .nil t⟩
  | cons l ls ih =>
    obtain ⟨hc, effect, hl⟩ := Context.exists_effect_cons hok
    obtain ⟨st, o, hp, ho, rfl, _, _⟩ := Context.exists_outcome_of_carryOut hl
    obtain ⟨u, hu⟩ := exists_takes t o.binding
    have hstep := Context.step_ok hc hl
    rw [Context.runFrom_cons, hstep] at hok
    obtain ⟨v, out, hv⟩ := ih hok (h.takes hu)
    exact ⟨v, o.printed ++ out, .cons hp (by rw [h.get?_eq]; exact ho) hu hv⟩

end Table

/-! ### The state of a run -/

/-- What holds of the store and the output after lines that are carried out from the start. -/
structure Settled (done : List SourceLine) (s : Store) (output : List Text) : Prop where
  /-- The lines run on a table as well. -/
  exists_table : ∃ t out, Table.Runs .empty done t out
  /-- Each table that they may lead to has the names of its bindings as keys, answers as the store
  does, and lists the bindings of the store, in whatever order it goes through its entries. -/
  table : ∀ t out, Table.Runs .empty done t out →
    (∀ e ∈ t.entries, e.key = e.binding.name) ∧ (t.entries.map Entry.key).Nodup ∧
      t.get? = s.get? ∧ t.sorted = s.bindings ∧ out = output
  /-- The bound names are the targets of the lines. -/
  bound : ∀ name, (s.get? name).isSome ↔ ∃ l ∈ done, l.target? = some name
  /-- What is bound after some of the lines stays bound. -/
  kept : ∀ before after, done = before ++ after → ∀ name,
    ((Context.start.runFrom before).store.get? name).isSome → (s.get? name).isSome
  /-- The value of a name is the one that the last line with this target has computed. -/
  last : ∀ name v, s.get? name = some v ↔ ∃ before l after, done = before ++ l :: after ∧
    l.binding? (Context.start.runFrom before).store.get? = some ⟨name, v⟩ ∧
    ∀ m ∈ after, m.target? ≠ some name
  /-- All names are words. -/
  words : ∀ b ∈ s.bindings, Text.isWord b.name = true
  /-- No string holds a line break. -/
  strings : ∀ b ∈ s.bindings, ∀ t, b.value = .string t → '\n' ∉ t
  /-- No printed line holds a line break. -/
  printed : ∀ line ∈ output, '\n' ∉ line
  /-- Each bound name is listed once, and no other name is. -/
  listed : ∀ name, (s.bindings.map Binding.name).count name =
    if (s.get? name).isSome then 1 else 0
  /-- The names are listed in the strict order of their bytes. -/
  ascending : s.bindings.Pairwise fun a b => ByteLess (Text.bytes a.name) (Text.bytes b.name)

/-- The bindings of a store list each bound name once. -/
theorem Store.count_name (s : Store) (name : Text) :
    (s.bindings.map Binding.name).count name = if (s.get? name).isSome then 1 else 0 := by
  have hnodup : (s.bindings.map Binding.name).Nodup := by
    refine List.pairwise_map.2 (s.sorted.imp fun {a b} hab he => ?_)
    rw [he] at hab
    exact not_precedes_self _ hab
  have hmem : name ∈ s.bindings.map Binding.name ↔ (s.get? name).isSome := by
    rw [List.mem_map, Option.isSome_iff_exists]
    constructor
    · rintro ⟨b, hb, rfl⟩
      exact ⟨b.value, (s.get?_eq_some_iff ..).2 hb⟩
    · rintro ⟨v, hv⟩
      exact ⟨_, (s.get?_eq_some_iff ..).1 hv, rfl⟩
  rw [hnodup.count]
  simp only [hmem]

/-- Lines that all succeed lead to a settled state. -/
theorem settled_of_failure_eq_none {ls : List SourceLine}
    (hok : (Context.start.runFrom ls).failure = none) :
    Settled ls (Context.start.runFrom ls).store (Context.start.runFrom ls).output := by
  have htidy := Context.tidy_start.runFrom ls
  exact {
    exists_table := Table.exists_runs hok Table.represents_empty
    table := by
      intro t out ht
      obtain ⟨h, hout⟩ := Table.represents_of_runs (c := .start) rfl Table.represents_empty ht
      exact ⟨h.key_eq, h.nodup, h.get?_eq, h.sorted_eq, hout.symm⟩
    bound := Context.isSome_get?_start_iff hok
    kept := by
      rintro before after rfl name hname
      rw [Context.runFrom_append] at hok ⊢
      exact (Context.isSome_get?_iff hok name).2 (.inr hname)
    last := by
      intro name v
      rw [Context.get?_runFrom_iff hok name v]
      refine or_iff_left fun h => ?_
      cases h.1
    words := fun b hb => htidy.isWord_name _ _ ((Store.get?_eq_some_iff ..).2 hb)
    strings := by
      intro b hb t ht
      have hvalue := htidy.oneLine_value _ _ ((Store.get?_eq_some_iff ..).2 hb)
      rw [ht] at hvalue
      exact hvalue
    printed := htidy.oneLine_output
    listed := Store.count_name _
    ascending := (Store.sorted _).imp Text.lex_bytes }

/-- After any number of lines of any source, the state of a run is what the lines carried out so far
have made of it: their targets are bound, to the values computed last, and are words; strings and
printed lines hold no line break; and in whatever order a hash table goes through its entries, its
bindings are listed once each, in the strict order of the bytes of their names. -/
theorem settled_of_run (source : Text) (n : Nat) :
    Settled (Context.start.carried ((Source.statementLines source).take n))
      (Context.start.runFrom ((Source.statementLines source).take n)).store
      (Context.start.runFrom ((Source.statementLines source).take n)).output := by
  have hrun := Context.runFrom_carried (c := .start) rfl ((Source.statementLines source).take n)
  have h := settled_of_failure_eq_none (by rw [hrun])
  rw [hrun] at h
  exact h

end VibeScript
