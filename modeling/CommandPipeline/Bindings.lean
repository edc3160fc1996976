/-! Finite maps from names to texts, kept in the order of the names. Two bindings with the same
value under every name are equal. -/
namespace CommandPipeline

structure Bindings where
  entries : List (String × String)
  sorted : entries.Pairwise (fun a b => a.1 < b.1)
  deriving DecidableEq

namespace Bindings

def empty : Bindings := ⟨[], .nil⟩

instance : Inhabited Bindings := ⟨empty⟩

def names (b : Bindings) : List String := b.entries.map Prod.fst

def size (b : Bindings) : Nat := b.entries.length

/-- The value under a name in a list of entries. -/
def valueOf (name : String) : List (String × String) → Option String
  | [] => none
  | e :: rest => if name = e.1 then some e.2 else valueOf name rest

def get? (b : Bindings) (name : String) : Option String := valueOf name b.entries

def contains (b : Bindings) (name : String) : Bool := (b.get? name).isSome

/-! ### Insertion -/

/-- The entries with `value` under `name`, which replaces an older value. -/
def insertEntry (name value : String) : List (String × String) → List (String × String)
  | [] => [(name, value)]
  | e :: rest =>
    if name < e.1 then (name, value) :: e :: rest
    else if e.1 < name then e :: insertEntry name value rest
    else (name, value) :: rest

theorem mem_insertEntry {name value : String} {l : List (String × String)} {e : String × String}
    (h : e ∈ insertEntry name value l) : e = (name, value) ∨ e ∈ l := by
  induction l with
  | nil => simpa [insertEntry] using h
  | cons a l ih =>
    unfold insertEntry at h
    split at h
    · simpa using h
    · split at h
      · rcases List.mem_cons.1 h with rfl | h
        · simp
        · rcases ih h with h | h <;> simp [h]
      · rcases List.mem_cons.1 h with h | h <;> simp [h]

theorem eq_of_not_lt {a b : String} (hab : ¬ a < b) (hba : ¬ b < a) : a = b :=
  String.le_antisymm (String.not_lt.1 hba) (String.not_lt.1 hab)

theorem insertEntry_sorted (name value : String) {l : List (String × String)}
    (h : l.Pairwise (fun a b => a.1 < b.1)) :
    (insertEntry name value l).Pairwise (fun a b => a.1 < b.1) := by
  induction l with
  | nil => simp [insertEntry]
  | cons e l ih =>
    have hl := List.pairwise_cons.1 h
    unfold insertEntry
    split
    · rename_i hlt
      refine List.pairwise_cons.2 ⟨fun a ha => ?_, h⟩
      rcases List.mem_cons.1 ha with rfl | ha
      · exact hlt
      · exact String.lt_trans hlt (hl.1 a ha)
    · split
      · rename_i hgt
        refine List.pairwise_cons.2 ⟨fun a ha => ?_, ih hl.2⟩
        rcases mem_insertEntry ha with rfl | ha
        · exact hgt
        · exact hl.1 a ha
      · rename_i h₁ h₂
        refine List.pairwise_cons.2 ⟨fun a ha => ?_, hl.2⟩
        have := hl.1 a ha
        rwa [← eq_of_not_lt h₁ h₂] at this

def insert (b : Bindings) (name value : String) : Bindings :=
  ⟨insertEntry name value b.entries, insertEntry_sorted name value b.sorted⟩

/-- The bindings of the pairs, of which a later one replaces an earlier one of the same name. -/
def ofList (pairs : List (String × String)) : Bindings :=
  pairs.foldl (fun b e => b.insert e.1 e.2) empty

theorem valueOf_insertEntry (name value other : String) (l : List (String × String)) :
    valueOf other (insertEntry name value l) = if other = name then some value else valueOf other l := by
  induction l with
  | nil => simp [insertEntry, valueOf]
  | cons e l ih =>
    unfold insertEntry
    split
    · simp [valueOf]
    · split
      · rename_i hlt
        have hne : name ≠ e.1 := fun he => String.lt_irrefl _ (he ▸ hlt)
        by_cases h : other = e.1
        · simp [valueOf, h, hne.symm]
        · simp [valueOf, h, ih]
      · rename_i h₁ h₂
        have he : name = e.1 := eq_of_not_lt h₁ h₂
        by_cases h : other = name <;> simp [valueOf, h, ← he]

theorem get?_empty (name : String) : empty.get? name = none := rfl

theorem get?_insert (b : Bindings) (name value other : String) :
    (b.insert name value).get? other = if other = name then some value else b.get? other :=
  valueOf_insertEntry name value other b.entries

theorem get?_insert_self (b : Bindings) (name value : String) :
    (b.insert name value).get? name = some value := by
  simp [get?_insert]

theorem get?_insert_of_ne (b : Bindings) {name other : String} (value : String) (h : other ≠ name) :
    (b.insert name value).get? other = b.get? other := by
  simp [get?_insert, h]

/-! ### Extensionality -/

theorem valueOf_eq_none_of_lt {name : String} {l : List (String × String)}
    (h : ∀ e ∈ l, name < e.1) : valueOf name l = none := by
  induction l with
  | nil => rfl
  | cons e l ih =>
    have hne : name ≠ e.1 := fun he => String.lt_irrefl _ (he ▸ h e (by simp))
    simp only [valueOf, hne, if_false]
    exact ih fun a ha => h a (by simp [ha])

theorem valueOf_isSome_of_mem {e : String × String} {l : List (String × String)} (h : e ∈ l) :
    (valueOf e.1 l).isSome := by
  induction l with
  | nil => simp at h
  | cons a l ih =>
    unfold valueOf
    split
    · rfl
    · rename_i hne
      rcases List.mem_cons.1 h with rfl | h
      · exact absurd rfl hne
      · exact ih h

theorem mem_of_valueOf {name value : String} {l : List (String × String)}
    (h : valueOf name l = some value) : (name, value) ∈ l := by
  induction l with
  | nil => simp [valueOf] at h
  | cons e l ih =>
    unfold valueOf at h
    split at h
    · rename_i he
      have : e = (name, value) := Prod.ext he.symm (Option.some.inj h)
      simp [this]
    · exact List.mem_cons_of_mem _ (ih h)

/-- Two sorted lists with the same values start with the same name. -/
theorem not_head_lt {e f : String × String} {l m : List (String × String)}
    (hm : (f :: m).Pairwise (fun a b => a.1 < b.1))
    (h : valueOf e.1 (e :: l) = valueOf e.1 (f :: m)) : ¬ e.1 < f.1 := by
  intro hlt
  rw [valueOf_eq_none_of_lt (l := f :: m)] at h
  · simp [valueOf] at h
  · intro a ha
    rcases List.mem_cons.1 ha with rfl | ha
    · exact hlt
    · exact String.lt_trans hlt ((List.pairwise_cons.1 hm).1 a ha)

theorem entries_ext : {l m : List (String × String)} → l.Pairwise (fun a b => a.1 < b.1) →
    m.Pairwise (fun a b => a.1 < b.1) → (∀ name, valueOf name l = valueOf name m) → l = m
  | [], [], _, _, _ => rfl
  | [], e :: m, _, _, h => by have := h e.1; simp [valueOf] at this
  | e :: l, [], _, _, h => by have := h e.1; simp [valueOf] at this
  | e :: l, f :: m, hl, hm, h => by
    have hef : e.1 = f.1 := eq_of_not_lt (not_head_lt hm (h e.1)) (not_head_lt hl (h f.1).symm)
    have heq : e = f := by
      have h₁ := h e.1
      simp only [valueOf, hef, if_true, Option.some.injEq] at h₁
      exact Prod.ext hef h₁
    subst heq
    have hl' := List.pairwise_cons.1 hl
    have hm' := List.pairwise_cons.1 hm
    congr 1
    refine entries_ext hl'.2 hm'.2 fun name => ?_
    by_cases hn : name = e.1
    · subst hn
      rw [valueOf_eq_none_of_lt hl'.1, valueOf_eq_none_of_lt hm'.1]
    · have h₁ := h name
      simpa only [valueOf, hn, if_false] using h₁

theorem ext_get? {a b : Bindings} (h : ∀ name, a.get? name = b.get? name) : a = b := by
  obtain ⟨l, hl⟩ := a
  obtain ⟨m, hm⟩ := b
  congr 1
  exact entries_ext hl hm h

theorem insert_comm (b : Bindings) {name other : String} (h : name ≠ other) {value value' : String} :
    (b.insert other value').insert name value = (b.insert name value).insert other value' := by
  refine ext_get? fun n => ?_
  simp only [get?_insert]
  by_cases hn : n = name
  · simp [hn, h]
  · simp [hn]

/-! ### Names -/

theorem contains_insert (b : Bindings) (name value other : String) :
    (b.insert name value).contains other = (decide (other = name) || b.contains other) := by
  by_cases h : other = name <;> simp [contains, get?_insert, h]

/-- Another value for a variable brings no variable into being. -/
theorem contains_insert_of_contains {b : Bindings} {name : String} (h : b.contains name = true)
    (value other : String) : (b.insert name value).contains other = b.contains other := by
  rw [contains_insert]
  by_cases hother : other = name <;> simp [hother, h]

theorem mem_names_iff (b : Bindings) (name : String) : name ∈ b.names ↔ b.contains name = true := by
  constructor
  · intro h
    obtain ⟨e, he, rfl⟩ := List.mem_map.1 h
    exact valueOf_isSome_of_mem he
  · intro h
    obtain ⟨v, hv⟩ := Option.isSome_iff_exists.1 h
    exact List.mem_map.2 ⟨(name, v), mem_of_valueOf hv, rfl⟩

end Bindings

end CommandPipeline
