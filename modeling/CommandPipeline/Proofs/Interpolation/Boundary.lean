import CommandPipeline.Proofs.Interpolation.Scan
import CommandPipeline.Proofs.Language.Form

/-! Commands that are cut where no name runs across the cut. The scan never takes a name across it, so that
the parts of the command become what they become by themselves. A character of no name makes such a cut. -/
namespace CommandPipeline

section Cut

variable {K : Set (List Char)} {cs rest name : List Char} {ts us : List Token}

/-- No name ends in a text that begins `rest`, so that none runs across from what is in front of it. -/
def Cut (K : Set (List Char)) (rest : List Char) : Prop :=
  ∀ name ∈ K, ∀ t, t <:+ name → t <+: rest → t = []

/-- No name goes on with the first character of the text. -/
def Breaks (K : Set (List Char)) (rest : List Char) : Prop :=
  ∀ c ∈ rest.head?, ∀ name ∈ K, c ∉ name

theorem Breaks.cut (h : Breaks K rest) : Cut K rest := by
  intro name hname t hend hbegin
  cases t with
  | nil => rfl
  | cons c t =>
    obtain ⟨u, rfl⟩ := hbegin
    exact absurd (hend.subset List.mem_cons_self) (h c rfl name hname)

theorem begins_append_iff (h : Cut K rest) : Begins K (cs ++ rest) name ↔ Begins K cs name := by
  constructor
  · rintro ⟨hmem, hne, hprefix⟩
    refine ⟨hmem, hne, ?_⟩
    rcases Nat.le_total name.length cs.length with hle | hle
    · exact List.prefix_of_prefix_length_le hprefix (List.prefix_append cs rest) hle
    · obtain ⟨t, rfl⟩ := List.prefix_of_prefix_length_le (List.prefix_append cs rest) hprefix hle
      -- what the name has behind the text begins the rest
      have hbegin : t <+: rest := (List.prefix_append_right_inj cs).1 hprefix
      obtain rfl : t = [] := h _ hmem t (List.suffix_append cs t) hbegin
      simp
  · rintro ⟨hmem, hne, hprefix⟩
    exact ⟨hmem, hne, hprefix.trans (List.prefix_append cs rest)⟩

/-- The scan of a text goes on behind a cut as if it started there. -/
theorem Scan.append (h : Cut K rest) (ht : Scan K cs ts) (hu : Scan K rest us) :
    Scan K (cs ++ rest) (ts ++ us) := by
  induction ht with
  | nil => exact hu
  | literal hc _ ih =>
    exact .literal (fun hd name hname => hc hd name ((begins_append_iff h).1 hname)) ih
  | @var name cs ts hname _ ih =>
    have hdrop : (cs ++ rest).drop name.length = cs.drop name.length ++ rest :=
      List.drop_append_of_le_length hname.1.2.2.length_le
    refine .var ⟨(begins_append_iff h).2 hname.1, fun other hother => ?_⟩ (hdrop ▸ ih)
    exact hname.2 other ((begins_append_iff h).1 hother)

/-- Behind a dollar sign and the front of a name, the scan cannot start anew where the name goes on. -/
theorem not_scan_append {front t : List Char} (hname : front ++ t ∈ K) (hne : t ≠ []) (hbegin : t <+: rest)
    (ht : Scan K ('$' :: front) ts) : ¬ Scan K ('$' :: front ++ rest) (ts ++ us) := by
  intro hall
  have hbegins : Begins K (front ++ rest) (front ++ t) :=
    ⟨hname, by simp [hne], (List.prefix_append_right_inj front).2 hbegin⟩
  cases ht with
  | literal _ _ =>
    cases hall with
    | literal hc _ => exact hc rfl _ hbegins
  | var hshort _ =>
    cases hall with
    | var hlong _ =>
      have hle := hlong.2 _ hbegins
      have hfront := hshort.1.2.2.length_le
      have hpos := List.length_pos_iff.2 hne
      rw [List.length_append] at hle
      omega

end Cut

/-! ### What the parts become -/

namespace Bindings

variable {b : Bindings} {cs rest : List Char} {ts : List Token}

/-- A text can be scanned apart from all that may stand in front of it exactly if no name runs into it. -/
theorem tokens_append_iff :
    (∀ cs, tokens (b.names.map String.toList) (cs ++ rest) =
      tokens (b.names.map String.toList) cs ++ tokens (b.names.map String.toList) rest) ↔
      Cut b.nameTexts rest := by
  constructor
  · intro h name hname t ⟨front, hfront⟩ hbegin
    by_contra hne
    subst hfront
    have hall := b.scan_tokens ('$' :: front ++ rest)
    rw [h] at hall
    exact not_scan_append hname hne hbegin (b.scan_tokens _) hall
  · intro h cs
    exact (b.scan_tokens _).unique ((b.scan_tokens cs).append h (b.scan_tokens rest))

theorem interpolateText_append (h : Cut b.nameTexts rest) (cs : List Char) :
    b.interpolateText (cs ++ rest) = b.interpolateText cs ++ b.interpolateText rest := by
  rw [interpolateText_of_scan (b.scan_tokens cs), interpolateText_of_scan (b.scan_tokens rest),
    interpolateText_of_scan ((b.scan_tokens cs).append h (b.scan_tokens rest)), List.flatMap_append]

/-- Names as the language has them break off at any other character. -/
theorem breaks_of_isName (hnames : ∀ name ∈ b.names, Language.isName name.toList = true)
    (hhead : ∀ c ∈ rest.head?, Language.isNameChar c = false) : Breaks b.nameTexts rest := by
  intro c hc n hn hmem
  have hname := hnames (String.ofList n) hn
  rw [String.toList_ofList] at hname
  have hchar := (Language.isName_iff.1 hname).2 c hmem
  rw [hhead c hc] at hchar
  contradiction

/-- A command that is put together from two texts becomes what the two become, if the second is empty or
begins with a character of no name. With names as the language has them, that is any character other than a
letter, a digit or an underscore: a blank, or another dollar sign. -/
theorem interpolate_append (b : Bindings) (t : String) :
    ((∀ c ∈ t.toList.head?, ∀ name ∈ b.names, c ∉ name.toList) →
      ∀ s, b.interpolate (s ++ t) = b.interpolate s ++ b.interpolate t) ∧
    ((∀ name ∈ b.names, Language.isName name.toList = true) →
      (∀ c ∈ t.toList.head?, Language.isNameChar c = false) →
      ∀ s, b.interpolate (s ++ t) = b.interpolate s ++ b.interpolate t) := by
  have hcut : Breaks b.nameTexts t.toList →
      ∀ s, b.interpolate (s ++ t) = b.interpolate s ++ b.interpolate t := by
    intro h s
    rw [← String.toList_inj, String.toList_append, toList_interpolate, toList_interpolate,
      toList_interpolate, String.toList_append, interpolateText_append h.cut]
  constructor
  · intro h
    refine hcut fun c hc n hn => ?_
    have hmem := h c hc (String.ofList n) hn
    rwa [String.toList_ofList] at hmem
  · exact fun hnames hhead => hcut (breaks_of_isName hnames hhead)

/-- Neither name has a `c` in it, and no name of the language has a dollar sign in it. -/
theorem interpolate_append_dollar :
    let b := ofList [("a", "x"), ("ab", "$a")]
    ((∀ c ∈ "c$abc".toList.head?, ∀ name ∈ b.names, c ∉ name.toList) ∧
      ∀ s, b.interpolate (s ++ "c$abc") = b.interpolate s ++ "c$ac") ∧
    (∀ name ∈ b.names, Language.isName name.toList = true) ∧
      (∀ c ∈ "$abc".toList.head?, Language.isNameChar c = false) ∧
      ∀ s, b.interpolate (s ++ "$abc") = b.interpolate s ++ "$ac" := by
  intro b
  have hletter : ∀ c ∈ "c$abc".toList.head?, ∀ name ∈ b.names, c ∉ name.toList := by
    have hnames : ∀ name ∈ b.names, 'c' ∉ name.toList := by decide
    simpa using hnames
  have hnames : ∀ name ∈ b.names, Language.isName name.toList = true := by decide
  have hdollar : ∀ c ∈ "$abc".toList.head?, Language.isNameChar c = false := by
    simp [Language.isNameChar]
  have hshort : b.interpolate "$abc" = "$ac" := by
    rw [interpolate_eq_tokens]
    decide
  have hlong : b.interpolate "c$abc" = "c$ac" := by
    rw [interpolate_eq_tokens]
    decide
  refine ⟨⟨hletter, fun s => ?_⟩, hnames, hdollar, fun s => ?_⟩
  · rw [(interpolate_append b "c$abc").1 hletter s, hlong]
  · rw [(interpolate_append b "$abc").2 hnames hdollar s, hshort]

end Bindings

end CommandPipeline
