import CommandPipeline.Interpolation
import Mathlib.Data.Set.Basic
import Mathlib.Tactic.SplitIfs

/-! Tokens of a command: single characters and variables. At a dollar sign the longest bound name that follows
is a variable. Names that are tried from the longest in bytes on are found in this way, since of two names that
both begin a text the one with more characters has more bytes. -/
namespace CommandPipeline

inductive Token where
  | literal (c : Char)
  | var (name : List Char)
  deriving DecidableEq, Repr

/-- The longer of two names. The first one wins a tie. -/
def longer (best : Option (List Char)) (name : List Char) : Option (List Char) :=
  match best with
  | none => some name
  | some b => if b.length < name.length then some name else some b

/-- The longest name that is not empty and begins the text. -/
def longestName? (names : List (List Char)) (cs : List Char) : Option (List Char) :=
  (names.filter fun name => !name.isEmpty && name.isPrefixOf cs).foldl longer none

/-- The tokens of a text whose first `skip` characters belong to a name that has been read. -/
def tokensFrom (names : List (List Char)) : (skip : Nat) → List Char → List Token
  | _, [] => []
  | skip + 1, _ :: cs => tokensFrom names skip cs
  | 0, c :: cs =>
    if c = '$' then
      match longestName? names cs with
      | some name => .var name :: tokensFrom names name.length cs
      | none => .literal '$' :: tokensFrom names 0 cs
    else .literal c :: tokensFrom names 0 cs

def tokens (names : List (List Char)) (cs : List Char) : List Token :=
  tokensFrom names 0 cs

/-- The text that a token was read from. -/
def Token.spelling : Token → List Char
  | .literal c => [c]
  | .var name => '$' :: name

def Token.render (b : Bindings) : Token → List Char
  | .literal c => [c]
  | .var name => ((b.get? (String.ofList name)).getD "").toList

/-! ### The longest name -/

/-- A name from `K` that is not empty begins the text. -/
def Begins (K : Set (List Char)) (cs name : List Char) : Prop :=
  name ∈ K ∧ name ≠ [] ∧ name <+: cs

def Longest (K : Set (List Char)) (cs name : List Char) : Prop :=
  Begins K cs name ∧ ∀ other, Begins K cs other → other.length ≤ name.length

theorem Longest.unique {K : Set (List Char)} {cs m n : List Char} (hm : Longest K cs m)
    (hn : Longest K cs n) : m = n := by
  have hlength : m.length = n.length := Nat.le_antisymm (hn.2 m hm.1) (hm.2 n hn.1)
  exact List.IsPrefix.eq_of_length (List.prefix_of_prefix_length_le hm.1.2.2 hn.1.2.2 hlength.le)
    hlength

/-- The longer of two names is picked over a whole list. -/
theorem foldl_longer (best : List Char) (l : List (List Char)) :
    ∃ name, l.foldl longer (some best) = some name ∧ (name = best ∨ name ∈ l) ∧
      best.length ≤ name.length ∧ ∀ other ∈ l, other.length ≤ name.length := by
  induction l generalizing best with
  | nil => exact ⟨best, rfl, .inl rfl, le_rfl, by simp⟩
  | cons a l ih =>
    by_cases h : best.length < a.length
    · obtain ⟨name, hname, hmem, hle, hall⟩ := ih a
      refine ⟨name, by simpa [longer, h] using hname, ?_, by omega, by simpa using ⟨hle, hall⟩⟩
      rcases hmem with rfl | hmem <;> simp [*]
    · obtain ⟨name, hname, hmem, hle, hall⟩ := ih best
      refine ⟨name, by simpa [longer, h] using hname, ?_, hle, by simpa using ⟨by omega, hall⟩⟩
      rcases hmem with rfl | hmem <;> simp [*]

section LongestName

variable {names : List (List Char)} {cs name : List Char}

theorem mem_filter_begins :
    (name ∈ names.filter fun n => !n.isEmpty && n.isPrefixOf cs) ↔
      Begins {n | n ∈ names} cs name := by
  simp [Begins, List.mem_filter, List.isPrefixOf_iff_prefix]

theorem longestName?_eq_none_iff :
    longestName? names cs = none ↔ ∀ name, ¬ Begins {n | n ∈ names} cs name := by
  simp only [← mem_filter_begins, ← List.eq_nil_iff_forall_not_mem, longestName?]
  cases names.filter fun n => !n.isEmpty && n.isPrefixOf cs with
  | nil => simp
  | cons a l =>
    obtain ⟨name, hname, -⟩ := foldl_longer a l
    simp [longer, hname]

theorem longest_of_longestName? (h : longestName? names cs = some name) :
    Longest {n | n ∈ names} cs name := by
  simp only [Longest, ← mem_filter_begins]
  unfold longestName? at h
  cases hl : names.filter fun n => !n.isEmpty && n.isPrefixOf cs with
  | nil => simp [hl] at h
  | cons a l =>
    obtain ⟨best, hbest, hmem, hle, hall⟩ := foldl_longer a l
    obtain rfl : best = name := by simpa [hl, longer, hbest] using h
    exact ⟨by simpa using hmem, by simpa using ⟨hle, hall⟩⟩

theorem longestName?_eq_some_iff :
    longestName? names cs = some name ↔ Longest {n | n ∈ names} cs name := by
  refine ⟨longest_of_longestName?, fun h => ?_⟩
  cases hl : longestName? names cs with
  | none => exact absurd h.1 (longestName?_eq_none_iff.1 hl name)
  | some other => rw [(longest_of_longestName? hl).unique h]

end LongestName

theorem utf8ByteSize_lt_of_prefix {m n : String} (h : n.toList <+: m.toList)
    (hlt : n.toList.length < m.toList.length) : n.utf8ByteSize < m.utf8ByteSize := by
  obtain ⟨r, hr⟩ := h
  have hm : m = n ++ String.ofList r := by simp [← String.toList_inj, hr]
  have hne : String.ofList r ≠ "" := by
    rintro he
    simp [hm, he] at hlt
  have := String.utf8ByteSize_eq_zero_iff.not.2 hne
  rw [hm, String.utf8ByteSize_append]
  omega

/-! ### Names in the order of trial -/

theorem isNameOf_iff {names : List String} {text : List Char} {name : String} (hname : name ∈ names) :
    isNameOf text name = true ↔ Begins {n | n ∈ names.map String.toList} text name.toList := by
  have hmem : name.toList ∈ {n | n ∈ names.map String.toList} := List.mem_map_of_mem hname
  simp only [isNameOf, Begins, hmem, true_and, Bool.and_eq_true, bne_iff_ne, ne_eq,
    String.toList_eq_nil_iff, List.isPrefixOf_iff_prefix]

/-- Of names that are tried from the longest in bytes on, the first that begins the text is the longest
name. -/
theorem find?_eq_longestName? {names : List String}
    (h : names.Pairwise fun m n => n.utf8ByteSize ≤ m.utf8ByteSize) (cs : List Char) :
    names.find? (isNameOf cs) = (longestName? (names.map String.toList) cs).map String.ofList := by
  cases hf : names.find? (isNameOf cs) with
  | none =>
    have hnone : longestName? (names.map String.toList) cs = none := by
      rw [longestName?_eq_none_iff]
      intro name hname
      obtain ⟨n, hn, rfl⟩ := List.mem_map.1 hname.1
      exact List.find?_eq_none.1 hf n hn ((isNameOf_iff hn).2 hname)
    simp [hnone]
  | some n =>
    obtain ⟨hp, before, after, rfl, hbefore⟩ := List.find?_eq_some_iff_append.1 hf
    have hmem : n ∈ before ++ n :: after := List.mem_append_right before List.mem_cons_self
    have hbegins := (isNameOf_iff hmem).1 hp
    have hlongest : Longest {m | m ∈ (before ++ n :: after).map String.toList} cs n.toList := by
      refine ⟨hbegins, fun other hother => ?_⟩
      obtain ⟨m, hm, rfl⟩ := List.mem_map.1 hother.1
      by_contra hlt
      have hprefix : n.toList <+: m.toList :=
        List.prefix_of_prefix_length_le hbegins.2.2 hother.2.2 (by omega)
      have hsize := utf8ByteSize_lt_of_prefix hprefix (by omega)
      -- a longer name that matches has more bytes, so it would have been tried before
      rcases List.mem_append.1 hm with hm' | hm'
      · simpa [(isNameOf_iff hm).2 hother] using hbefore m hm'
      · rcases List.mem_cons.1 hm' with rfl | hm'
        · omega
        · have := (List.pairwise_cons.1 (List.pairwise_append.1 h).2.1).1 m hm'
          omega
    rw [longestName?_eq_some_iff.2 hlongest, Option.map_some, String.ofList_toList]

theorem triedBefore_iff {m n : String} : triedBefore m n = true ↔
    n.utf8ByteSize < m.utf8ByteSize ∨ (m.utf8ByteSize = n.utf8ByteSize ∧ m ≤ n) := by
  simp only [triedBefore, Bool.or_eq_true, Bool.and_eq_true, decide_eq_true_eq, beq_iff_eq]

namespace Bindings

/-- The names with more bytes are tried first. -/
theorem pairwise_triedNames (b : Bindings) :
    b.triedNames.Pairwise fun m n => n.utf8ByteSize ≤ m.utf8ByteSize := by
  have htrans : ∀ l m n, triedBefore l m = true → triedBefore m n = true → triedBefore l n = true := by
    intro l m n hlm hmn
    rw [triedBefore_iff] at hlm hmn ⊢
    rcases hlm with hlm | ⟨hlm, hle⟩ <;> rcases hmn with hmn | ⟨hmn, hle'⟩
    · exact .inl (by omega)
    · exact .inl (by omega)
    · exact .inl (by omega)
    · exact .inr ⟨by omega, String.le_trans hle hle'⟩
  have htotal : ∀ m n, (triedBefore m n || triedBefore n m) = true := by
    intro m n
    rw [Bool.or_eq_true, triedBefore_iff, triedBefore_iff]
    rcases Nat.lt_trichotomy m.utf8ByteSize n.utf8ByteSize with hlt | heq | hlt
    · exact .inr (.inl hlt)
    · exact (String.le_total m n).imp (fun hle => .inr ⟨heq, hle⟩) fun hle => .inr ⟨heq.symm, hle⟩
    · exact .inl (.inl hlt)
  refine (List.pairwise_mergeSort htrans htotal b.names).imp fun {m n} h => ?_
  rw [triedBefore_iff] at h
  omega

theorem mem_triedNames {b : Bindings} {name : String} : name ∈ b.triedNames ↔ name ∈ b.names :=
  List.mem_mergeSort

end Bindings

end CommandPipeline
