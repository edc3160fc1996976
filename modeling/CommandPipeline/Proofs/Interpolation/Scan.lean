import CommandPipeline.Proofs.Interpolation.Token
import CommandPipeline.Proofs.Text.Cut

/-! Interpolation as one scan from left to right. At a dollar sign the longest bound name that follows
is taken as a whole; every other character stands for itself. The scan reads the text and the set of
bound names only, so that values neither are read again nor run into the text behind them. -/
namespace CommandPipeline

/-! ### The scan -/

/-- `Scan K cs ts`: with the names in `K` the text `cs` is cut into the tokens `ts`. -/
inductive Scan (K : Set (List Char)) : List Char → List Token → Prop where
  | nil : Scan K [] []
  | literal {c : Char} {cs : List Char} {ts : List Token} :
      (c = '$' → ∀ name, ¬ Begins K cs name) → Scan K cs ts → Scan K (c :: cs) (.literal c :: ts)
  | var {name cs : List Char} {ts : List Token} :
      Longest K cs name → Scan K (cs.drop name.length) ts → Scan K ('$' :: cs) (.var name :: ts)

namespace Scan

variable {K : Set (List Char)} {cs : List Char} {ts us : List Token}

theorem unique (ht : Scan K cs ts) (hu : Scan K cs us) : ts = us := by
  induction ht generalizing us with
  | nil => cases hu; rfl
  | literal hc _ ih =>
    cases hu with
    | literal _ hu => rw [ih hu]
    | var hname _ => exact absurd hname.1 (hc rfl _)
  | var hname _ ih =>
    cases hu with
    | literal hc _ => exact absurd hname.1 (hc rfl _)
    | var hother hu =>
      obtain rfl := hname.unique hother
      rw [ih hu]

/-- Nothing of the text is lost. -/
theorem spelling (h : Scan K cs ts) : ts.flatMap Token.spelling = cs := by
  induction h with
  | nil => rfl
  | literal _ _ ih => simp [Token.spelling, ih]
  | var hname _ ih =>
    simp only [List.flatMap_cons, Token.spelling, ih, List.cons_append]
    rw [List.prefix_iff_eq_append.1 hname.1.2.2]

theorem length_le (h : Scan K cs ts) : ts.length ≤ cs.length := by
  induction h with
  | nil => exact le_rfl
  | literal _ _ ih => simpa using ih
  | var _ _ ih =>
    simp only [List.length_drop, List.length_cons] at ih ⊢
    omega

/-- Text without dollar signs is scanned character by character. -/
theorem exists_of_append {front rest : List Char} (hfront : ∀ c ∈ front, c ≠ '$')
    (h : Scan K (front ++ rest) ts) : ∃ us, ts = front.map .literal ++ us ∧ Scan K rest us := by
  induction front generalizing ts with
  | nil => exact ⟨ts, rfl, h⟩
  | cons c front ih =>
    obtain ⟨hc, hrest⟩ := List.forall_mem_cons.1 hfront
    cases h with
    | literal _ hscan =>
      obtain ⟨us, rfl, hus⟩ := ih hrest hscan
      exact ⟨us, rfl, hus⟩
    | var => contradiction

theorem mem_of_var {name : List Char} (h : Scan K cs ts) (hv : .var name ∈ ts) : name ∈ K := by
  induction h with
  | nil => simp at hv
  | literal _ _ ih => exact ih (by simpa using hv)
  | var hname _ ih =>
    rcases List.mem_cons.1 hv with hv | hv
    · injection hv with hv
      exact hv ▸ hname.1.1
    · exact ih hv

end Scan

/-- The tokens of a text, of which the first `skip` characters have been read, are those of a scan. -/
theorem scan_tokensFrom (names : List (List Char)) (skip : Nat) (cs : List Char) :
    Scan {n | n ∈ names} (cs.drop skip) (tokensFrom names skip cs) := by
  induction cs generalizing skip with
  | nil => simpa [tokensFrom] using Scan.nil
  | cons c cs ih =>
    cases skip with
    | succ skip => exact ih skip
    | zero =>
      unfold tokensFrom
      split_ifs with hc
      · subst hc
        cases hname : longestName? names cs with
        | some name => exact .var (longestName?_eq_some_iff.1 hname) (ih name.length)
        | none => exact .literal (fun _ => longestName?_eq_none_iff.1 hname) (ih 0)
      · exact .literal (fun h => absurd h hc) (ih 0)

/-! ### Interpolation -/

namespace Bindings

/-- The names of some variables, as texts. -/
def nameTexts (b : Bindings) : Set (List Char) := {n | String.ofList n ∈ b.names}

theorem setOf_mem_map_toList {b : Bindings} {names : List String} (h : ∀ n, n ∈ names ↔ n ∈ b.names) :
    {n | n ∈ names.map String.toList} = b.nameTexts := by
  ext n
  simp only [nameTexts, Set.mem_ofPred_eq, List.mem_map, h]
  constructor
  · rintro ⟨name, h, rfl⟩
    simpa using h
  · exact fun h => ⟨_, h, by simp⟩

theorem scan_tokens (b : Bindings) (cs : List Char) :
    Scan b.nameTexts cs (tokens (b.names.map String.toList) cs) := by
  rw [← setOf_mem_map_toList fun _ => Iff.rfl]
  exact scan_tokensFrom (b.names.map String.toList) 0 cs

/-- The loop over the dollar signs renders a scan, if it tries the names from the longest in bytes on. -/
theorem interpolateRest_of_scan (b : Bindings) {names : List String}
    (hsorted : names.Pairwise fun m n => n.utf8ByteSize ≤ m.utf8ByteSize) {rest : List Char}
    {ts : List Token} (h : Scan {n | n ∈ names.map String.toList} rest ts) :
    b.interpolateRest names rest = ts.flatMap (Token.render b) := by
  have hliteral : ∀ front : List Char, (front.map Token.literal).flatMap (Token.render b) = front :=
    fun front => (List.flatMap_map _ _ front).trans (List.flatMap_singleton' front)
  fun_induction b.interpolateRest names rest generalizing ts with
  | case1 rest hnone =>
    obtain ⟨hrest, hplain, -⟩ := Text.takeWhile_dropWhile_iff.1 ⟨rfl, hnone⟩
    rw [hrest] at h
    obtain ⟨us, rfl, hus⟩ := h.exists_of_append (by simpa using hplain)
    cases hus
    rw [List.append_nil, hliteral, ← List.append_nil (rest.takeWhile _), ← hrest]
  | case2 rest c after hafter _ ihname ihnone =>
    obtain ⟨hrest, hplain, hdollar⟩ := Text.takeWhile_dropWhile_iff.1 ⟨rfl, hafter⟩
    obtain rfl : c = '$' := by simpa using hdollar c rfl
    rw [hrest] at h
    obtain ⟨us, rfl, hus⟩ := h.exists_of_append (by simpa using hplain)
    rw [List.flatMap_append, hliteral, find?_eq_longestName? hsorted]
    congr 1
    cases hus with
    | literal hno hscan =>
      rw [longestName?_eq_none_iff.2 (hno rfl), ihnone hscan]
      rfl
    | @var name _ us hlongest hscan =>
      rw [longestName?_eq_some_iff.2 hlongest]
      show _ ++ b.interpolateRest names (after.drop (String.ofList name).length) = _
      rw [ihname _ (String.length_ofList ▸ hscan)]
      rfl

/-- What a text becomes as a command, or as a part of one. -/
def interpolateText (b : Bindings) (cs : List Char) : List Char := b.interpolateRest b.triedNames cs

theorem toList_interpolate (b : Bindings) (command : String) :
    (b.interpolate command).toList = b.interpolateText command.toList := by
  rw [interpolate, String.toList_ofList, interpolateText]

/-- A scan with the bound names renders to what interpolation gives. -/
theorem interpolateText_of_scan {b : Bindings} {cs : List Char} {ts : List Token}
    (h : Scan b.nameTexts cs ts) : b.interpolateText cs = ts.flatMap (Token.render b) := by
  rw [← setOf_mem_map_toList fun _ => mem_triedNames] at h
  exact b.interpolateRest_of_scan b.pairwise_triedNames h

theorem interpolate_of_scan {b : Bindings} {command : String} {ts : List Token}
    (h : Scan b.nameTexts command.toList ts) :
    b.interpolate command = String.ofList (ts.flatMap (Token.render b)) := by
  rw [← interpolateText_of_scan h, ← toList_interpolate, String.ofList_toList]

/-- The tokens of a command render to what interpolation gives. -/
theorem interpolate_eq_tokens (b : Bindings) (command : String) :
    b.interpolate command =
      String.ofList ((tokens (b.names.map String.toList) command.toList).flatMap (Token.render b)) :=
  interpolate_of_scan (b.scan_tokens command.toList)

theorem render_var {b : Bindings} {name : List Char} (h : name ∈ b.nameTexts) :
    ∃ value, b.get? (String.ofList name) = some value ∧
      Token.render b (.var name) = value.toList := by
  obtain ⟨value, hvalue⟩ := Option.isSome_iff_exists.1 ((b.mem_names_iff _).1 h)
  exact ⟨value, hvalue, by simp [Token.render, hvalue]⟩

/-- A command has one cut into tokens that the bound names decide. Under every choice of values for
these names the command becomes the tokens with the values in place of the variables. -/
theorem interpolate_eq_render_scan (b : Bindings) (command : String) :
    ∃ ts : List Token, (∀ us, Scan b.nameTexts command.toList us ↔ us = ts) ∧
      ts.flatMap Token.spelling = command.toList ∧ ts.length ≤ command.length ∧
      ∀ c : Bindings, (∀ name, name ∈ c.names ↔ name ∈ b.names) →
        c.interpolate command = String.ofList (ts.flatMap (Token.render c)) ∧
        ∀ name, .var name ∈ ts → ∃ value, c.get? (String.ofList name) = some value ∧
          Token.render c (.var name) = value.toList := by
  have hscan := b.scan_tokens command.toList
  refine ⟨_, fun us => ⟨fun h => h.unique hscan, fun h => h ▸ hscan⟩, hscan.spelling, ?_, ?_⟩
  · simpa only [String.length_toList] using hscan.length_le
  · intro c hc
    have hnames : c.nameTexts = b.nameTexts := Set.ext fun n => hc (String.ofList n)
    rw [← hnames] at hscan
    exact ⟨interpolate_of_scan hscan, fun name hname => render_var (hscan.mem_of_var hname)⟩

end Bindings

end CommandPipeline
