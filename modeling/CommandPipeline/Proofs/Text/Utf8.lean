import CommandPipeline.Text.Octets
import Mathlib.Tactic.SplitIfs
import Mathlib.Data.List.Infix

/-! UTF-8 as it is read and as it is written. A character stands at the front of a byte string exactly if the
bytes of the character do, so that strict decoding finds a text exactly for the bytes of that text. Lossy
decoding puts one replacement character in place of each piece of a byte string that no character explains,
and such a piece is as long as it can be while it may still be the beginning of a character. -/
namespace CommandPipeline.Text

open String (utf8EncodeChar)

theorem utf8_eq_flatMap (s : String) : utf8 s = s.toList.flatMap utf8EncodeChar := by
  conv_lhs => rw [← String.ofList_toList (s := s)]
  rw [utf8, String.toUTF8, String.toByteArray_ofList, List.utf8Encode]
  simp

theorem utf8_append (s t : String) : utf8 (s ++ t) = utf8 s ++ utf8 t := by
  simp only [utf8, String.toUTF8, String.toByteArray_append, ByteArray.data_append, Array.toList_append]

namespace Utf8

/-! ### The front of a byte string -/

section Follow

variable {owed low high bits taken n : Nat} {b : UInt8} {c : Char} {bytes rest : List UInt8}

theorem follow_eq_char_iff :
    follow (owed + 1) low high bits taken bytes = .char c rest ↔
      ∃ b bytes', bytes = b :: bytes' ∧ (low ≤ b.toNat ∧ b.toNat ≤ high) ∧
        follow owed 0x80 0xBF (bits * 64 + b.toNat % 64) (taken + 1) bytes' = .char c rest := by
  cases bytes with
  | nil => simp [follow]
  | cons b bytes =>
    rw [follow]
    split_ifs with h
    · simp [h]
    · simp [h]

end Follow

theorem lead?_two {b : Nat} (h : 0xC2 ≤ b ∧ b ≤ 0xDF) : lead? b = some ⟨1, 0x80, 0xBF, b - 0xC0⟩ := if_pos h

theorem lead?_three {b : Nat} (h : 0xE0 ≤ b ∧ b ≤ 0xEF) :
    lead? b = some ⟨2, if b = 0xE0 then 0xA0 else 0x80, if b = 0xED then 0x9F else 0xBF, b - 0xE0⟩ := by
  unfold lead?
  split_ifs <;> first | omega | simp_all

theorem lead?_four {b : Nat} (h : 0xF0 ≤ b ∧ b ≤ 0xF4) :
    lead? b = some ⟨3, if b = 0xF0 then 0x90 else 0x80, if b = 0xF4 then 0x8F else 0xBF, b - 0xF0⟩ := by
  unfold lead?
  split_ifs <;> first | omega | simp_all

theorem lead?_none {b : Nat} (h : b < 0xC2 ∨ 0xF4 < b) : lead? b = none := by
  unfold lead?
  split_ifs <;> first | omega | rfl

/-! ### Characters and their bytes -/

theorem ofNat_eq_of_toNat {n : Nat} {b : UInt8} (h : n = b.toNat) : UInt8.ofNat n = b := by
  rw [h, UInt8.ofNat_toNat]

theorem toNat_ofNat_byte {n : Nat} (h : n < 256) : (UInt8.ofNat n).toNat = n :=
  UInt8.toNat_ofNat_of_lt' h

/-- The code points of characters are those up to U+10FFFF that are no surrogates. -/
theorem toNat_valid (c : Char) : c.toNat < 0xD800 ∨ 0xDFFF < c.toNat ∧ c.toNat < 0x110000 := c.valid

theorem toNat_ofNat_of_valid {v : Nat} (h : v < 0xD800 ∨ 0xDFFF < v ∧ v < 0x110000) :
    (Char.ofNat v).toNat = v := by
  rw [Char.ofNat, dif_pos h]
  rfl

theorem ofNat_eq_char {v : Nat} {c : Char} (h : v = c.toNat) : Char.ofNat v = c := by
  rw [h, Char.ofNat_toNat]

theorem utf8EncodeChar_one {c : Char} (h : c.toNat < 0x80) : utf8EncodeChar c = [UInt8.ofNat c.toNat] :=
  if_pos (Nat.le_of_lt_succ h)

theorem utf8EncodeChar_two {c : Char} (h : 0x80 ≤ c.toNat) (h' : c.toNat < 0x800) :
    utf8EncodeChar c = [UInt8.ofNat (c.toNat / 64 % 32 + 192), UInt8.ofNat (c.toNat % 64 + 128)] := by
  unfold utf8EncodeChar
  rw [if_neg (by change ¬ c.toNat ≤ _; omega), if_pos (by change c.toNat ≤ _; omega)]
  rfl

theorem utf8EncodeChar_three {c : Char} (h : 0x800 ≤ c.toNat) (h' : c.toNat < 0x10000) :
    utf8EncodeChar c = [UInt8.ofNat (c.toNat / 4096 % 16 + 224), UInt8.ofNat (c.toNat / 64 % 64 + 128),
      UInt8.ofNat (c.toNat % 64 + 128)] := by
  unfold utf8EncodeChar
  rw [if_neg (by change ¬ c.toNat ≤ _; omega), if_neg (by change ¬ c.toNat ≤ _; omega),
    if_pos (by change c.toNat ≤ _; omega)]
  rfl

theorem utf8EncodeChar_four {c : Char} (h : 0x10000 ≤ c.toNat) :
    utf8EncodeChar c = [UInt8.ofNat (c.toNat / 262144 % 8 + 240), UInt8.ofNat (c.toNat / 4096 % 64 + 128),
      UInt8.ofNat (c.toNat / 64 % 64 + 128), UInt8.ofNat (c.toNat % 64 + 128)] := by
  unfold utf8EncodeChar
  rw [if_neg (by change ¬ c.toNat ≤ _; omega), if_neg (by change ¬ c.toNat ≤ _; omega),
    if_neg (by change ¬ c.toNat ≤ _; omega)]
  rfl

section Front

variable {b : UInt8} {c : Char} {bytes rest : List UInt8}

theorem front_ascii (h : b.toNat < 0x80) : front b bytes = .char (Char.ofNat b.toNat) bytes := if_pos h

theorem front_lead {l : Lead} (h : 0x80 ≤ b.toNat) (hlead : lead? b.toNat = some l) :
    front b bytes = follow l.owed l.low l.high l.bits 1 bytes := by
  rw [front, if_neg (by omega), hlead]

theorem front_stray (h : 0x80 ≤ b.toNat) (hlead : lead? b.toNat = none) : front b bytes = .bad 1 bytes := by
  rw [front, if_neg (by omega), hlead]

/-- The first byte of a character says how many bytes it has, and its bounds on the second byte keep away the
code points that would be shorter otherwise, the surrogates and what lies above U+10FFFF. -/
theorem eq_utf8EncodeChar_of_front (h : front b bytes = .char c rest) :
    b :: bytes = utf8EncodeChar c ++ rest := by
  by_cases hascii : b.toNat < 0x80
  · rw [front_ascii hascii] at h
    obtain ⟨rfl, rfl⟩ := Front.char.inj h
    have hv := toNat_ofNat_of_valid (v := b.toNat) (by omega)
    rw [utf8EncodeChar_one (by omega), hv, UInt8.ofNat_toNat]
    rfl
  have hb : 0x80 ≤ b.toNat := Nat.le_of_not_lt hascii
  by_cases htwo : 0xC2 ≤ b.toNat ∧ b.toNat ≤ 0xDF
  · rw [front_lead hb (lead?_two htwo)] at h
    simp only [follow_eq_char_iff] at h
    obtain ⟨x, _, rfl, hx, hc⟩ := h
    obtain ⟨rfl, rfl⟩ := Front.char.inj hc
    have hv := toNat_ofNat_of_valid (v := (b.toNat - 0xC0) * 64 + x.toNat % 64) (by omega)
    rw [utf8EncodeChar_two (by omega) (by omega), hv, ofNat_eq_of_toNat (b := b) (by omega),
      ofNat_eq_of_toNat (b := x) (by omega)]
    rfl
  by_cases hthree : 0xE0 ≤ b.toNat ∧ b.toNat ≤ 0xEF
  · rw [front_lead hb (lead?_three hthree)] at h
    simp only [follow_eq_char_iff] at h
    obtain ⟨x, _, rfl, hx, y, _, rfl, hy, hc⟩ := h
    obtain ⟨rfl, rfl⟩ := Front.char.inj hc
    have hv := toNat_ofNat_of_valid (v := ((b.toNat - 0xE0) * 64 + x.toNat % 64) * 64 + y.toNat % 64)
      (by split_ifs at hx <;> omega)
    rw [utf8EncodeChar_three (by split_ifs at hx <;> omega) (by omega), hv,
      ofNat_eq_of_toNat (b := b) (by omega), ofNat_eq_of_toNat (b := x) (by split_ifs at hx <;> omega),
      ofNat_eq_of_toNat (b := y) (by omega)]
    rfl
  by_cases hfour : 0xF0 ≤ b.toNat ∧ b.toNat ≤ 0xF4
  · rw [front_lead hb (lead?_four hfour)] at h
    simp only [follow_eq_char_iff] at h
    obtain ⟨x, _, rfl, hx, y, _, rfl, hy, z, _, rfl, hz, hc⟩ := h
    obtain ⟨rfl, rfl⟩ := Front.char.inj hc
    have hv := toNat_ofNat_of_valid
      (v := (((b.toNat - 0xF0) * 64 + x.toNat % 64) * 64 + y.toNat % 64) * 64 + z.toNat % 64)
      (by split_ifs at hx <;> omega)
    rw [utf8EncodeChar_four (by split_ifs at hx <;> omega), hv, ofNat_eq_of_toNat (b := b) (by omega),
      ofNat_eq_of_toNat (b := x) (by split_ifs at hx <;> omega), ofNat_eq_of_toNat (b := y) (by omega),
      ofNat_eq_of_toNat (b := z) (by omega)]
    rfl
  · rw [front_stray hb (lead?_none (by omega))] at h
    contradiction

theorem front_of_eq_utf8EncodeChar (h : b :: bytes = utf8EncodeChar c ++ rest) :
    front b bytes = .char c rest := by
  have hvalid := toNat_valid c
  by_cases hone : c.toNat < 0x80
  · rw [utf8EncodeChar_one hone] at h
    obtain ⟨rfl, rfl⟩ := List.cons.inj h
    have hb := toNat_ofNat_byte (n := c.toNat) (by omega)
    rw [front_ascii (by omega), ofNat_eq_char hb]
  by_cases htwo : c.toNat < 0x800
  · rw [utf8EncodeChar_two (by omega) htwo] at h
    obtain ⟨rfl, rfl⟩ := List.cons.inj h
    have hb := toNat_ofNat_byte (n := c.toNat / 64 % 32 + 192) (by omega)
    have hx := toNat_ofNat_byte (n := c.toNat % 64 + 128) (by omega)
    rw [front_lead (by omega) (lead?_two (by omega))]
    simp only [follow_eq_char_iff]
    refine ⟨_, _, rfl, by omega, ?_⟩
    rw [follow, ofNat_eq_char (c := c) (by omega)]
    rfl
  by_cases hthree : c.toNat < 0x10000
  · rw [utf8EncodeChar_three (by omega) hthree] at h
    obtain ⟨rfl, rfl⟩ := List.cons.inj h
    have hb := toNat_ofNat_byte (n := c.toNat / 4096 % 16 + 224) (by omega)
    have hx := toNat_ofNat_byte (n := c.toNat / 64 % 64 + 128) (by omega)
    have hy := toNat_ofNat_byte (n := c.toNat % 64 + 128) (by omega)
    rw [front_lead (by omega) (lead?_three (by omega))]
    simp only [follow_eq_char_iff]
    refine ⟨_, _, rfl, by split_ifs <;> omega, _, _, rfl, by omega, ?_⟩
    rw [follow, ofNat_eq_char (c := c) (by omega)]
    rfl
  · rw [utf8EncodeChar_four (by omega)] at h
    obtain ⟨rfl, rfl⟩ := List.cons.inj h
    have hb := toNat_ofNat_byte (n := c.toNat / 262144 % 8 + 240) (by omega)
    have hx := toNat_ofNat_byte (n := c.toNat / 4096 % 64 + 128) (by omega)
    have hy := toNat_ofNat_byte (n := c.toNat / 64 % 64 + 128) (by omega)
    have hz := toNat_ofNat_byte (n := c.toNat % 64 + 128) (by omega)
    rw [front_lead (by omega) (lead?_four (by omega))]
    simp only [follow_eq_char_iff]
    refine ⟨_, _, rfl, by split_ifs <;> omega, _, _, rfl, by omega, _, _, rfl, by omega, ?_⟩
    rw [follow, ofNat_eq_char (c := c) (by omega)]
    rfl

theorem front_eq_char_iff : front b bytes = .char c rest ↔ b :: bytes = utf8EncodeChar c ++ rest :=
  ⟨eq_utf8EncodeChar_of_front, front_of_eq_utf8EncodeChar⟩

end Front

/-! ### Strict decoding -/

/-- The bytes of a text begin with those of its first character. -/
theorem flatMap_eq_cons_iff {cs : List Char} {b : UInt8} {bytes : List UInt8} :
    cs.flatMap utf8EncodeChar = b :: bytes ↔
      ∃ c cs', cs = c :: cs' ∧ front b bytes = .char c (cs'.flatMap utf8EncodeChar) := by
  simp only [front_eq_char_iff]
  constructor
  · intro h
    cases cs with
    | nil => contradiction
    | cons c cs => exact ⟨c, cs, rfl, by rw [← h, List.flatMap_cons]⟩
  · rintro ⟨c, cs', rfl, h⟩
    rw [h, List.flatMap_cons]

theorem flatMap_eq_nil_iff {cs : List Char} : cs.flatMap utf8EncodeChar = [] ↔ cs = [] := by
  simp only [List.flatMap_eq_nil_iff, String.utf8EncodeChar_ne_nil, imp_false]
  exact List.eq_nil_iff_forall_not_mem.symm

theorem decodeFrom_eq_ok_iff (index : Nat) {bytes : List UInt8} {cs : List Char} :
    decodeFrom index bytes = .ok cs ↔ cs.flatMap utf8EncodeChar = bytes := by
  fun_induction decodeFrom index bytes generalizing cs with
  | case1 => rw [flatMap_eq_nil_iff, Except.ok.injEq, eq_comm]
  | case2 index b bytes _ c rest hfront _ ih =>
    simp only [flatMap_eq_cons_iff, hfront, Front.char.injEq]
    constructor
    · intro h
      cases htail : decodeFrom (index + c.utf8Size) rest with
      | error fault => simp [htail, bind, Except.bind] at h
      | ok tail =>
        rw [htail] at h
        obtain rfl := Except.ok.inj h
        exact ⟨c, tail, rfl, rfl, (ih.1 htail).symm⟩
    · rintro ⟨_, tail, rfl, rfl, htail⟩
      rw [ih.2 htail.symm]
      rfl
  | case3 _ _ _ _ _ _ hfront => simp [flatMap_eq_cons_iff, hfront]
  | case4 _ _ _ _ hfront => simp [flatMap_eq_cons_iff, hfront]

/-- Bytes are decoded to a text exactly if they are the bytes of the text. -/
theorem decode_eq_ok_iff {bytes : List UInt8} {s : String} : decode bytes = .ok s ↔ utf8 s = bytes := by
  rw [utf8_eq_flatMap, ← decodeFrom_eq_ok_iff 0, decode]
  cases decodeFrom 0 bytes with
  | error fault => simp [Except.map]
  | ok cs =>
    simp only [Except.map, Except.ok.injEq]
    exact ⟨fun h => h ▸ String.toList_ofList.symm, fun h => h ▸ String.ofList_toList⟩

theorem exists_fault_iff {bytes : List UInt8} :
    (∃ fault, decode bytes = .error fault) ↔ ∀ s, utf8 s ≠ bytes := by
  simp only [ne_eq, ← decode_eq_ok_iff]
  cases decode bytes <;> simp

/-! ### Lossy decoding -/

/-- `Broken bad rest`: no character stands at the front of `bad ++ rest`, and `bad` is the piece of it that is
given up: a single byte, or else all that may still be the beginning of a character. -/
structure Broken (bad rest : List UInt8) : Prop where
  ne_nil : bad ≠ []
  unexplained : ∀ c, ¬ utf8EncodeChar c <+: bad ++ rest
  begins : bad.length = 1 ∨ ∃ c, bad <+: utf8EncodeChar c
  longest : ∀ p, p <+: bad ++ rest → bad.length < p.length → ∀ c, ¬ p <+: utf8EncodeChar c

/-- `Lossy bytes cs`: the bytes are those of the characters, where U+FFFD may also stand for a broken piece. -/
inductive Lossy : List UInt8 → List Char → Prop where
  | nil : Lossy [] []
  | char {c : Char} {bytes : List UInt8} {cs : List Char} : Lossy bytes cs →
      Lossy (utf8EncodeChar c ++ bytes) (c :: cs)
  | broken {bad rest : List UInt8} {cs : List Char} : Broken bad rest → Lossy rest cs →
      Lossy (bad ++ rest) (Char.ofNat 0xFFFD :: cs)

section Follow

variable {owed low high bits taken n : Nat} {bytes rest : List UInt8}

/-- What is missing of a character can always be supplied. -/
theorem exists_follow_eq_char (hlow : low ≤ high) (hhigh : high < 256) (bits taken : Nat) :
    ∃ post c, follow owed low high bits taken post = .char c [] := by
  induction owed generalizing low high bits taken with
  | zero => exact ⟨[], _, rfl⟩
  | succ owed ih =>
    obtain ⟨post, c, hpost⟩ := ih (show 0x80 ≤ 0xBF by decide) (by decide)
      (bits * 64 + low % 64) (taken + 1)
    have hbyte := toNat_ofNat_byte (n := low) (by omega)
    refine ⟨UInt8.ofNat low :: post, c, follow_eq_char_iff.2 ⟨_, post, rfl, by omega, ?_⟩⟩
    rw [hbyte, hpost]

theorem exists_of_follow_eq_bad (hlow : low ≤ high) (hhigh : high < 256)
    (h : follow owed low high bits taken bytes = .bad n rest) :
    ∃ pre x rest', bytes = pre ++ rest ∧ rest = x :: rest' ∧
      (∀ more, follow owed low high bits taken (pre ++ x :: more) = .bad n (x :: more)) ∧
      ∃ post c, follow owed low high bits taken (pre ++ post) = .char c [] := by
  fun_induction follow owed low high bits taken bytes with
  | case1 => contradiction
  | case2 => contradiction
  | case3 owed low high bits taken b bytes hb ih =>
    obtain ⟨pre, x, rest', rfl, rfl, hbad, post, c, hpost⟩ := ih (by decide) (by decide) h
    refine ⟨b :: pre, x, rest', rfl, rfl, fun more => ?_, post, c, ?_⟩
    · rw [List.cons_append, follow, if_pos hb, hbad]
    · exact follow_eq_char_iff.2 ⟨b, _, rfl, hb, hpost⟩
  | case4 owed low high bits taken b bytes hb =>
    obtain ⟨rfl, rfl⟩ := Front.bad.inj h
    refine ⟨[], b, bytes, rfl, rfl, fun more => ?_, exists_follow_eq_char hlow hhigh _ _⟩
    rw [List.nil_append, follow, if_neg hb]

theorem exists_of_follow_eq_cut (hlow : low ≤ high) (hhigh : high < 256)
    (h : follow owed low high bits taken bytes = .cut) :
    ∃ post c, follow owed low high bits taken (bytes ++ post) = .char c [] := by
  fun_induction follow owed low high bits taken bytes with
  | case1 => contradiction
  | case2 => exact exists_follow_eq_char hlow hhigh _ _
  | case3 owed low high bits taken b bytes hb ih =>
    obtain ⟨post, c, hpost⟩ := ih (by decide) (by decide) h
    exact ⟨post, c, follow_eq_char_iff.2 ⟨b, _, rfl, hb, hpost⟩⟩
  | case4 => contradiction

end Follow

theorem lead?_bounds {b : Nat} {l : Lead} (h : lead? b = some l) : l.low ≤ l.high ∧ l.high < 256 := by
  unfold lead? at h
  split_ifs at h <;> first | contradiction | (obtain rfl := Option.some.inj h; simp)

section Broken

variable {b : UInt8} {n : Nat} {bytes rest pre : List UInt8}

theorem front_of_prefix {c : Char} (h : utf8EncodeChar c <+: b :: bytes) :
    ∃ rest, front b bytes = .char c rest := by
  obtain ⟨rest, hrest⟩ := h
  exact ⟨rest, front_eq_char_iff.2 hrest.symm⟩

/-- A piece is broken if what follows it rules every character out, but no part of the piece does. -/
theorem broken_of_front (hfront : ∀ c r, front b (pre ++ rest) ≠ .char c r)
    (hbegins : pre = [] ∨ ∃ post c, front b (pre ++ post) = .char c [])
    (hstops : ∀ x ∈ rest.head?, ∀ more c r, front b (pre ++ x :: more) ≠ .char c r) :
    Broken (b :: pre) rest := by
  refine ⟨List.cons_ne_nil b pre, fun c hc => ?_, ?_, fun p hp hlt c hc => ?_⟩
  · obtain ⟨r, hr⟩ := front_of_prefix hc
    exact hfront c r hr
  · rcases hbegins with rfl | ⟨post, c, hpost⟩
    · exact .inl rfl
    · exact .inr ⟨c, post, (front_eq_char_iff.1 hpost).trans (List.append_nil _)⟩
  · obtain ⟨t, rfl⟩ := List.prefix_of_prefix_length_le (List.prefix_append (b :: pre) rest) hp hlt.le
    rw [List.prefix_append_right_inj] at hp
    cases t with
    | nil => simp at hlt
    | cons x t =>
      obtain ⟨t', rfl⟩ := hp
      obtain ⟨q, hq⟩ := hc
      have hchar : front b (pre ++ x :: (t ++ q)) = .char c [] := by
        rw [front_eq_char_iff, List.append_nil, ← hq]
        simp
      exact hstops x rfl _ c [] hchar

theorem le_toNat_of_front (bytes : List UInt8) (h : ∀ c r, front b bytes ≠ .char c r) : 0x80 ≤ b.toNat := by
  by_contra hlt
  exact h _ _ (front_ascii (Nat.lt_of_not_le hlt))

theorem broken_of_front_eq_bad (h : front b bytes = .bad n rest) :
    ∃ pre, bytes = pre ++ rest ∧ Broken (b :: pre) rest := by
  have hb : 0x80 ≤ b.toNat := le_toNat_of_front bytes (by simp [h])
  cases hlead : lead? b.toNat with
  | none =>
    have hstray : ∀ more, front b more = .bad 1 more := fun more => front_stray hb hlead
    obtain ⟨rfl, rfl⟩ := Front.bad.inj ((hstray bytes).symm.trans h)
    refine ⟨[], rfl, broken_of_front (fun c r => ?_) (.inl rfl) fun x _ more c r => ?_⟩
    · rw [hstray]
      exact nofun
    · rw [hstray]
      exact nofun
  | some l =>
    obtain ⟨hlow, hhigh⟩ := lead?_bounds hlead
    rw [front_lead hb hlead] at h
    obtain ⟨pre, x, rest', rfl, rfl, hbad, hpost⟩ := exists_of_follow_eq_bad hlow hhigh h
    simp only [← front_lead hb hlead] at hbad hpost
    refine ⟨pre, rfl, broken_of_front (fun c r => ?_) (.inr hpost) fun y hy more c r => ?_⟩
    · rw [hbad]
      exact nofun
    · obtain rfl : x = y := by simpa using hy
      rw [hbad]
      exact nofun

theorem broken_of_front_eq_cut (h : front b bytes = .cut) : Broken (b :: bytes) [] := by
  have hb : 0x80 ≤ b.toNat := le_toNat_of_front bytes (by simp [h])
  cases hlead : lead? b.toNat with
  | none => simp [front_stray hb hlead] at h
  | some l =>
    obtain ⟨hlow, hhigh⟩ := lead?_bounds hlead
    have hpost : ∃ post c, front b (bytes ++ post) = .char c [] := by
      simp only [front_lead hb hlead] at h ⊢
      exact exists_of_follow_eq_cut hlow hhigh h
    refine broken_of_front (fun c r => ?_) (.inr hpost) nofun
    rw [List.append_nil, h]
    exact nofun

end Broken

/-- A byte string has one broken piece at its front at most. -/
theorem Broken.unique {bad bad' rest rest' : List UInt8} (h : Broken bad rest) (h' : Broken bad' rest')
    (heq : bad ++ rest = bad' ++ rest') : bad = bad' := by
  have hle : ∀ {bad bad' rest rest' : List UInt8}, Broken bad rest → Broken bad' rest' →
      bad ++ rest = bad' ++ rest' → bad'.length ≤ bad.length := by
    intro bad bad' rest rest' h h' heq
    by_contra hlt
    have hpos := List.length_pos_iff.2 h.ne_nil
    obtain ⟨c, hc⟩ := h'.begins.resolve_left (by omega)
    exact h.longest bad' (heq ▸ List.prefix_append bad' rest') (by omega) c hc
  exact List.append_inj_left heq (Nat.le_antisymm (hle h' h heq.symm) (hle h h' heq))

theorem lossy_lossyChars (bytes : List UInt8) : Lossy bytes (lossyChars bytes) := by
  fun_induction lossyChars bytes with
  | case1 => exact .nil
  | case2 b bytes _ c rest hfront _ ih =>
    rw [front_eq_char_iff.1 hfront]
    exact .char ih
  | case3 b bytes _ n rest hfront _ ih =>
    obtain ⟨pre, rfl, hbroken⟩ := broken_of_front_eq_bad hfront
    exact .broken hbroken ih
  | case4 b bytes _ hfront =>
    have hlossy := Lossy.broken (broken_of_front_eq_cut hfront) .nil
    rwa [List.append_nil] at hlossy

theorem Lossy.lossyChars_eq {bytes : List UInt8} {cs : List Char} (h : Lossy bytes cs) :
    lossyChars bytes = cs := by
  induction h with
  | nil => rw [lossyChars]
  | @char c bytes cs _ ih =>
    obtain ⟨b, tail, htail⟩ := List.exists_cons_of_ne_nil
      (List.append_ne_nil_of_left_ne_nil (String.utf8EncodeChar_ne_nil (c := c)) bytes)
    have hfront := front_eq_char_iff.2 htail.symm
    rw [htail, lossyChars]
    split <;> simp_all
  | @broken bad rest cs hbroken _ ih =>
    obtain ⟨b, pre, rfl⟩ := List.exists_cons_of_ne_nil hbroken.ne_nil
    rw [List.cons_append, lossyChars]
    split
    · next c r hfront => exact absurd ⟨r, (front_eq_char_iff.1 hfront).symm⟩ (hbroken.unexplained c)
    · next n r hfront =>
      obtain ⟨pre', hpre, hbroken'⟩ := broken_of_front_eq_bad hfront
      have hsame := hbroken.unique hbroken' (congrArg (b :: ·) hpre)
      obtain rfl := (List.cons.inj hsame).2
      obtain rfl := List.append_cancel_left hpre
      exact congrArg _ ih
    · next hfront =>
      have hsame := hbroken.unique (broken_of_front_eq_cut hfront) (List.append_nil _).symm
      have hrest : rest = [] := by simpa using hsame
      subst hrest
      rw [lossyChars] at ih
      rw [← ih]

/-- Every byte string has one lossy reading. -/
theorem lossy_iff {bytes : List UInt8} {cs : List Char} :
    Lossy bytes cs ↔ (decodeLossy bytes).toList = cs := by
  rw [decodeLossy, String.toList_ofList]
  exact ⟨Lossy.lossyChars_eq, fun h => h ▸ lossy_lossyChars bytes⟩

end Utf8

/-! ### Words of bytes -/

theorem length_le_flatMap (cs : List Char) : cs.length ≤ (cs.flatMap utf8EncodeChar).length := by
  induction cs with
  | nil => exact Nat.le_refl 0
  | cons c cs ih =>
    have hpos : 0 < (utf8EncodeChar c).length := by simp [Char.utf8Size_pos]
    rw [List.flatMap_cons, List.length_append, List.length_cons]
    omega

/-- A text with as many bytes as characters has the code of each character as a byte. -/
theorem flatMap_eq_map {cs : List Char} (h : (cs.flatMap utf8EncodeChar).length = cs.length) :
    cs.flatMap utf8EncodeChar = cs.map fun c => c.toNat.toUInt8 := by
  induction cs with
  | nil => rfl
  | cons c cs ih =>
    have hrest := length_le_flatMap cs
    have hpos : 0 < (utf8EncodeChar c).length := by simp [Char.utf8Size_pos]
    rw [List.flatMap_cons, List.length_append, List.length_cons] at h
    have hsize : c.utf8Size = 1 := by
      rw [← String.length_utf8EncodeChar]
      omega
    have hascii : c.toNat < 0x80 := Nat.lt_succ_of_le (Char.utf8Size_eq_one_iff.1 hsize)
    rw [List.flatMap_cons, List.map_cons, ih (by omega), Utf8.utf8EncodeChar_one hascii]
    rfl

namespace Octets

/-- The bytes of a text as a word are its bytes in UTF-8. -/
theorem toBytes_ofText (s : String) : toBytes (ofText s) = utf8 s := by
  unfold ofText
  split_ifs with hascii
  · have hlength : (s.toList.flatMap utf8EncodeChar).length = s.toList.length := by
      rw [← utf8_eq_flatMap, String.length_toList, ← hascii]
      rfl
    rw [utf8_eq_flatMap, flatMap_eq_map hlength]
    rfl
  · have hbyte : ∀ b : UInt8, ((Char.ofNat b.toNat).toNat).toUInt8 = b := by
      intro b
      have hb := b.toNat_lt
      rw [Utf8.toNat_ofNat_of_valid (by omega)]
      exact UInt8.ofNat_toNat
    rw [ofBytes, toBytes, String.toList_ofList, List.map_map]
    exact List.map_id'' hbyte (utf8 s)

theorem toBytes_append (s t : Octets) : toBytes (s ++ t) = toBytes s ++ toBytes t := by
  rw [toBytes, String.toList_append, List.map_append]
  rfl

/-- Words with an ASCII separator between them have the bytes of their texts with it between them. -/
theorem toBytes_intercalate (words : List String) :
    toBytes (" ".intercalate (words.map ofText)) = utf8 (" ".intercalate words) := by
  induction words with
  | nil => rfl
  | cons word rest ih =>
    cases rest with
    | nil => simp [toBytes_ofText]
    | cons next rest =>
      have hblank : toBytes " " = utf8 " " := by decide
      simp only [List.map_cons, String.intercalate_cons_cons] at ih ⊢
      rw [toBytes_append, toBytes_append, toBytes_ofText, ih, hblank, utf8_append, utf8_append]

end Octets

end CommandPipeline.Text
