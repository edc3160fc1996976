import CommandPipeline.Proofs.Interpolation.Scan
import Mathlib.Data.List.Basic
import Mathlib.Data.Set.Insert

/-! What a command becomes depends on little: on the names that follow its dollar signs, and on the values
of those that the scan takes. -/
namespace CommandPipeline

section Names

variable {K : Set (List Char)} {cs n name : List Char} {ts : List Token}

/-- A name that does not begin a text plays no part in what begins it. -/
theorem begins_insert_iff (hn : ¬ n <+: cs) : Begins (insert n K) cs name ↔ Begins K cs name := by
  constructor
  · rintro ⟨rfl | hmem, hne, hprefix⟩
    · exact absurd hprefix hn
    · exact ⟨hmem, hne, hprefix⟩
  · exact fun ⟨hmem, hne, hprefix⟩ => ⟨.inr hmem, hne, hprefix⟩

/-- A further name leaves the scan of a text as it is if it follows no dollar sign there. -/
theorem Scan.insert (h : Scan K cs ts) (hn : ¬ ('$' :: n) <:+: cs) : Scan (insert n K) cs ts := by
  induction h with
  | nil => exact .nil
  | @literal c cs ts hc _ ih =>
    refine .literal (fun hd name hname => ?_) (ih fun h => hn (List.infix_cons h))
    subst hd
    have hnot : ¬ n <+: cs := fun h => hn (List.cons_prefix_cons.2 ⟨rfl, h⟩).isInfix
    exact hc rfl name ((begins_insert_iff hnot).1 hname)
  | @var name cs ts hname _ ih =>
    have hnot : ¬ n <+: cs := fun h => hn (List.cons_prefix_cons.2 ⟨rfl, h⟩).isInfix
    have hrest : ¬ ('$' :: n) <:+: cs.drop name.length := fun h =>
      hn (List.infix_cons (h.trans (List.drop_suffix _ _).isInfix))
    refine .var ⟨(begins_insert_iff hnot).2 hname.1, fun other hother => ?_⟩ (ih hrest)
    exact hname.2 other ((begins_insert_iff hnot).1 hother)

theorem Scan.infix_of_var (h : Scan K cs ts) (hname : .var name ∈ ts) : ('$' :: name) <:+: cs := by
  rw [← h.spelling, List.flatMap_def]
  exact List.infix_of_mem_flatten (List.mem_map_of_mem hname)

/-- A variable of the scan is the longest name at one of the dollar signs of the text. -/
theorem Scan.longest_of_var (h : Scan K cs ts) (hname : .var name ∈ ts) :
    ∃ rest, ('$' :: rest) <:+ cs ∧ Longest K rest name := by
  induction h with
  | nil => simp at hname
  | literal _ _ ih =>
    obtain ⟨rest, hrest, hlongest⟩ := ih (by simpa using hname)
    exact ⟨rest, hrest.trans (List.suffix_cons _ _), hlongest⟩
  | @var other cs ts hother _ ih =>
    rcases List.mem_cons.1 hname with hname | hname
    · injection hname with hname
      exact ⟨cs, List.suffix_rfl, hname ▸ hother⟩
    · obtain ⟨rest, hrest, hlongest⟩ := ih hname
      exact ⟨rest, (hrest.trans (List.drop_suffix _ _)).trans (List.suffix_cons _ _), hlongest⟩

end Names

namespace Bindings

variable {a b : Bindings} {command : String} {ts : List Token}

theorem mem_nameTexts_iff {n : List Char} :
    n ∈ b.nameTexts ↔ b.contains (String.ofList n) = true :=
  b.mem_names_iff _

theorem contains_eq_of_nameTexts_eq (h : a.nameTexts = b.nameTexts) (name : String) :
    a.contains name = b.contains name := by
  have hname : name.toList ∈ a.nameTexts ↔ name.toList ∈ b.nameTexts := by rw [h]
  rw [mem_nameTexts_iff, mem_nameTexts_iff, String.ofList_toList] at hname
  exact Bool.eq_iff_iff.2 hname

/-- A value for a name that is bound leaves the names as they are. -/
theorem nameTexts_insert {name : String} (h : b.contains name = true) (value : String) :
    (b.insert name value).nameTexts = b.nameTexts := by
  ext n
  rw [mem_nameTexts_iff, mem_nameTexts_iff, contains_insert]
  by_cases hn : String.ofList n = name <;> simp [hn, h]

theorem nameTexts_insert_eq (name value : String) :
    (b.insert name value).nameTexts = Insert.insert name.toList b.nameTexts := by
  ext n
  rw [Set.mem_insert_iff, mem_nameTexts_iff, mem_nameTexts_iff, contains_insert, Bool.or_eq_true,
    decide_eq_true_eq, ← String.toList_inj, String.toList_ofList]

/-- A command becomes the same under two choices of variables if its scan takes the same variables and
these have the same values. -/
theorem interpolate_congr (ha : Scan a.nameTexts command.toList ts)
    (hb : Scan b.nameTexts command.toList ts)
    (hvars : ∀ name, .var name ∈ ts → a.get? (String.ofList name) = b.get? (String.ofList name)) :
    a.interpolate command = b.interpolate command := by
  rw [interpolate_of_scan ha, interpolate_of_scan hb]
  congr 1
  refine List.flatMap_congr fun t ht => ?_
  cases t with
  | literal c => rfl
  | var name => simp only [Token.render, hvars name ht]

/-- A variable whose name follows no dollar sign of a command makes no difference to it. -/
theorem interpolate_insert {name : String} (h : ¬ ('$' :: name.toList) <:+: command.toList)
    (value : String) : (b.insert name value).interpolate command = b.interpolate command := by
  have hscan := b.scan_tokens command.toList
  refine interpolate_congr (nameTexts_insert_eq name value ▸ hscan.insert h) hscan fun n hn => ?_
  refine b.get?_insert_of_ne value fun he => h ?_
  rw [← he, String.toList_ofList]
  exact hscan.infix_of_var hn

end Bindings

end CommandPipeline
