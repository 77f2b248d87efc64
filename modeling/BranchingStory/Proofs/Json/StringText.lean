import BranchingStory.Json.Reader
import BranchingStory.Json.Writer
import Mathlib.Tactic.SplitIfs

/-!
# Strings of JSON read back

A string that is written with its escapes is read as the same string, with whatever stands
behind it left.  A half of a surrogate pair is read where halves are kept, and as long as the
other half of its pair does not stand right behind it: the reader would join the two.
-/

namespace BranchingStory

/-! ### Hexadecimal digits -/

/-- A hexadecimal digit is read back. -/
theorem hexValue?_hexDigit {d : Nat} (h : d < 16) :
  hexValue? (hexDigit d) = some d
  := by
  revert d
  decide

/-- Four hexadecimal digits of a number. -/
theorem hexText_four (n : Nat) :
  hexText 4 n
    = [hexDigit (n / 16 / 16 / 16 % 16), hexDigit (n / 16 / 16 % 16), hexDigit (n / 16 % 16),
        hexDigit (n % 16)]
  := rfl

/-! ### Proper strings -/

/-- Whether a string begins with the second half of a pair. -/
def Str.opensWithSecond : Str → Bool
  | .half [] h _ => !h.isFirst
  | _ => false

/-- A string in which no two halves that make a pair stand next to each other. -/
def Str.IsProper : Str → Prop
  | .text _ => True
  | .half _ h rest => (h.isFirst = true → rest.opensWithSecond = false) ∧ rest.IsProper

/-- Whether a string is proper can be decided. -/
def Str.decideProper : (s : Str) → Decidable s.IsProper
  | .text _ => .isTrue trivial
  | .half _ h rest =>
    have := rest.decideProper
    inferInstanceAs
      (Decidable ((h.isFirst = true → rest.opensWithSecond = false) ∧ rest.IsProper))

instance : DecidablePred Str.IsProper :=
  Str.decideProper

/-- Every text is proper. -/
theorem Str.isProper_of_hasHalf {s : Str} (h : s.hasHalf = false) :
  s.IsProper
  := by
  cases s with
  | text t => trivial
  | half lead h' rest => exact nomatch h

/-- A half is read back from its code. -/
theorem Half.ofCode?_code (h : Half) :
  ofCode? h.code = some h
  := dif_pos h.isSurrogate

/-- The code of a character is that of no half. -/
theorem Half.ofCode?_toNat (c : Char) :
  ofCode? c.toNat = none
  := by
  have hc : c.toNat < 0xD800 ∨ 0xDFFF < c.toNat ∧ c.toNat < 0x110000 := c.valid
  apply dif_neg
  omega

namespace Json

/-- A string that is read back within limits: it is proper, and a text unless halves are
kept. -/
structure Limits.Keeps (limits : Limits) (s : Str) : Prop where
  isProper : s.IsProper
  halves : limits.keepsHalves = true ∨ s.hasHalf = false

/-- Texts are read back within any limits. -/
theorem Limits.keeps_of_hasHalf (limits : Limits) {s : Str} (h : s.hasHalf = false) :
  limits.Keeps s
  := ⟨s.isProper_of_hasHalf h, Or.inr h⟩

namespace Reader

/-- Four hexadecimal digits that more follows are read. -/
theorem takeUnit?_hexText {n : Nat} (h : n < 65536) (c : Char) (t : Text) :
  takeUnit? (hexText 4 n ++ c :: t) = some (n, c :: t)
  := by
  have hd (m : Nat) : hexValue? (hexDigit (m % 16)) = some (m % 16) :=
    hexValue?_hexDigit (Nat.mod_lt m (by decide))
  rw [hexText_four]
  simp only [List.cons_append, List.nil_append, takeUnit?, hexValue4?, hd, Option.bind_eq_bind,
    Option.bind_some, Option.pure_def, Option.map_some]
  congr 2
  omega

/-! ### Characters -/

variable (limits : Limits) (start : Text)

/-- A character that stands for itself is read. -/
theorem string_cons {c : Char} (hq : c ≠ '"') (hb : c ≠ '\\') (hc : ¬ c.toNat < 32) (t : Text) :
  string limits start (c :: t) = prepend c (string limits start t)
  := by
  rw [string.eq_def]
  split
  · next h => simp at h
  · next h => exact absurd (List.cons.inj h).1 hq
  · next h => exact absurd (List.cons.inj h).1 hb
  · next h => exact absurd (List.cons.inj h).1 hb
  · next h => exact absurd (List.cons.inj h).1 hb
  · next h =>
    obtain ⟨rfl, rfl⟩ := List.cons.inj h
    rw [if_neg hc]

/-- An escape of one letter is read. -/
theorem string_escaped {c e : Char} (hu : c ≠ 'u') (he : escaped? c = some e) (t : Text) :
  string limits start ('\\' :: c :: t) = prepend e (string limits start t)
  := by
  rw [string.eq_def]
  split
  · next h => simp at h
  · next h => simp at h
  · next h => exact absurd (List.cons.inj (List.cons.inj h).2).1 hu
  · next h => simp at h
  · next h =>
    obtain ⟨rfl, rfl⟩ := List.cons.inj (List.cons.inj h).2
    rw [he]
  · next hn h => exact absurd (List.cons.inj h).2.symm (hn _ _ (List.cons.inj h).1.symm)

/-- An escape of a code that is no half of a pair is read. -/
theorem string_unicodeEscape {n : Nat} (hn : n < 65536) (hh : Half.ofCode? n = none) (c : Char)
    (t : Text) :
  string limits start (unicodeEscape n ++ c :: t)
    = prepend (Char.ofNat n) (string limits start (c :: t))
  := by
  rw [unicodeEscape, List.cons_append, List.cons_append, string]
  split
  · next h => simp [takeUnit?_hexText hn] at h
  · next m rest h =>
    rw [takeUnit?_hexText hn] at h
    obtain ⟨rfl, rfl⟩ := Prod.mk.inj (Option.some.inj h)
    rw [hh]

/-- An escape of a code that is no half makes no pair with a half in front of it. -/
theorem follower_unicodeEscape {first : Half} (hfirst : first.isFirst = true) {n : Nat}
    (hn : n < 65536) (hh : Half.ofCode? n = none) (c : Char) (t : Text) :
  follower first (unicodeEscape n ++ c :: t) = .none
  := by
  rw [follower, if_pos hfirst, unicodeEscape, List.cons_append, List.cons_append]
  simp only [behindEscape?, takeUnit?_hexText hn, hh]

/-- The escape of a half makes a pair with a first half in front of it when it is a second
one. -/
theorem follower_half {first : Half} (hfirst : first.isFirst = true) (h : Half) (c : Char)
    (t : Text) :
  follower first (unicodeEscape h.code ++ c :: t)
    = if h.isFirst then .none else .second h (c :: t)
  := by
  have hn : h.code < 65536 := Nat.lt_trans h.isSurrogate.2 (by decide)
  rw [follower, if_pos hfirst, unicodeEscape, List.cons_append, List.cons_append]
  simp only [behindEscape?, takeUnit?_hexText hn, Half.ofCode?_code]

/-- Nothing but an escape of a code makes anything of a half in front of it. -/
theorem follower_of_behindEscape? (first : Half) {t : Text} (h : behindEscape? t = none) :
  follower first t = .none
  := by
  rw [follower, h, ite_self]

/-- The escape of a half is read as the half or as a part of its pair, by what follows it. -/
theorem string_half (h : Half) (c : Char) (t : Text) :
  string limits start (unicodeEscape h.code ++ c :: t)
    = match follower h (c :: t) with
      | .none =>
        prependHalf limits ('u' :: (hexText 4 h.code ++ c :: t)) h (string limits start (c :: t))
      | .second h' rest => prepend (h.join h') (string limits start rest)
      | .faulty t => stopAt t
  := by
  have hn : h.code < 65536 := Nat.lt_trans h.isSurrogate.2 (by decide)
  rw [unicodeEscape, List.cons_append, List.cons_append, string]
  split
  · next he => simp [takeUnit?_hexText hn] at he
  · next m rest he =>
    rw [takeUnit?_hexText hn] at he
    obtain ⟨rfl, rfl⟩ := Prod.mk.inj (Option.some.inj he)
    rw [Half.ofCode?_code]
    dsimp only
    split <;> rename_i hs <;> rw [hs]

/-- Two escapes of the halves of a pair are read as one character. -/
theorem string_pair {n : Nat} (hn : n < 1048576) (c : Char) (t : Text) :
  string limits start
      (unicodeEscape (0xD800 + n / 1024) ++ (unicodeEscape (0xDC00 + n % 1024) ++ c :: t))
    = prepend (Char.ofNat (0x10000 + n)) (string limits start (c :: t))
  := by
  let first : Half := ⟨0xD800 + n / 1024, by omega⟩
  let second : Half := ⟨0xDC00 + n % 1024, by omega⟩
  have hfirst : first.isFirst = true := decide_eq_true (by dsimp only [first]; omega)
  have hsecond : second.isFirst = false := decide_eq_false (by dsimp only [second]; omega)
  have hjoin : first.join second = Char.ofNat (0x10000 + n) := by
    rw [Half.join]
    apply congrArg Char.ofNat
    dsimp only [first, second]
    omega
  have hfollower : follower first (unicodeEscape second.code ++ c :: t)
      = .second second (c :: t) := by
    rw [follower_half hfirst, hsecond]
    rfl
  have hread : string limits start
        (unicodeEscape first.code ++ (unicodeEscape second.code ++ c :: t))
      = prepend (first.join second) (string limits start (c :: t)) := by
    rw [unicodeEscape.eq_def second.code, List.cons_append, List.cons_append] at hfollower ⊢
    rw [string_half, hfollower]
  rwa [hjoin] at hread

/-- A character that is written with its escapes is read. -/
theorem string_stringChar (asciiOnly : Bool) (c d : Char) (t : Text) :
  string limits start (stringChar asciiOnly c ++ d :: t)
    = prepend c (string limits start (d :: t))
  := by
  have hof (n : Nat) (h : c.toNat = n) : Char.ofNat n = c := by
    rw [← h, Char.ofNat_toNat]
  have hh := Half.ofCode?_toNat c
  unfold stringChar
  split_ifs with h₁ h₂ h₃ h₄ h₅ h₆ h₇ h₈ h₉ h₁₀
  · rw [h₁]
    apply string_escaped limits start (by decide) rfl
  · rw [h₂]
    apply string_escaped limits start (by decide) rfl
  · rw [h₃]
    apply string_escaped limits start (by decide) rfl
  · rw [h₄]
    apply string_escaped limits start (by decide) rfl
  · rw [h₅]
    apply string_escaped limits start (by decide) rfl
  · rw [← hof 8 h₆]
    apply string_escaped limits start (by decide) rfl
  · rw [← hof 12 h₇]
    apply string_escaped limits start (by decide) rfl
  · rw [string_unicodeEscape limits start (by omega) hh, Char.ofNat_toNat]
  · apply string_cons limits start h₁ h₂ h₈
  · rw [string_unicodeEscape limits start h₁₀ hh, Char.ofNat_toNat]
  · have hv : c.toNat < 0x110000 := by
      have hc : c.toNat < 0xD800 ∨ 0xDFFF < c.toNat ∧ c.toNat < 0x110000 := c.valid
      omega
    dsimp only
    rw [List.append_assoc, string_pair limits start (by omega), Nat.add_sub_cancel' (by omega),
      Char.ofNat_toNat]

/-- A written character makes no pair with a half in front of it. -/
theorem follower_stringChar (first : Half) (asciiOnly : Bool) (c d : Char) (t : Text) :
  follower first (stringChar asciiOnly c ++ d :: t) = .none
  := by
  have hh := Half.ofCode?_toNat c
  cases hfirst : first.isFirst with
  | false =>
      rw [follower, hfirst]
      rfl
  | true =>
      unfold stringChar
      split_ifs with h₁ h₂ h₃ h₄ h₅ h₆ h₇ h₈ h₉ h₁₀
      · exact follower_of_behindEscape? first rfl
      · exact follower_of_behindEscape? first rfl
      · exact follower_of_behindEscape? first rfl
      · exact follower_of_behindEscape? first rfl
      · exact follower_of_behindEscape? first rfl
      · exact follower_of_behindEscape? first rfl
      · exact follower_of_behindEscape? first rfl
      · exact follower_unicodeEscape hfirst (by omega) hh d t
      · apply follower_of_behindEscape?
        unfold behindEscape?
        split
        · next he => exact absurd (List.cons.inj he).1 h₂
        · rfl
      · exact follower_unicodeEscape hfirst h₁₀ hh d t
      · have hv : c.toNat < 0x110000 := by
          have hc : c.toNat < 0xD800 ∨ 0xDFFF < c.toNat ∧ c.toNat < 0x110000 := c.valid
          omega
        -- the first of the two escapes is that of a first half itself
        let h : Half := ⟨0xD800 + (c.toNat - 65536) / 1024, by omega⟩
        have hh : h.isFirst = true := decide_eq_true (by dsimp only [h]; omega)
        dsimp only
        rw [List.append_assoc, unicodeEscape.eq_def (0xDC00 + _), List.cons_append]
        exact (follower_half hfirst h _ _).trans (if_pos hh)

/-! ### Strings -/

/-- The text of a string between its quotes. -/
abbrev inner (asciiOnly : Bool) (s : Str) : Text :=
  s.render (stringChar asciiOnly) fun h => unicodeEscape h.code

theorem inner_text (asciiOnly : Bool) (t : Text) :
  inner asciiOnly (.text t) = t.flatMap (stringChar asciiOnly)
  := rfl

/-- The text in front of a half is written, then its escape and what stands behind. -/
theorem inner_half (asciiOnly : Bool) (lead : Text) (h : Half) (s : Str) :
  inner asciiOnly (.half lead h s)
    = lead.flatMap (stringChar asciiOnly) ++ (unicodeEscape h.code ++ inner asciiOnly s)
  := by
  rw [inner, Str.render, List.append_assoc]

/-- Written characters are read up to what stands behind them. -/
theorem string_flatMap (asciiOnly : Bool) (t : Text) (d : Char) (u : Text) :
  string limits start (t.flatMap (stringChar asciiOnly) ++ d :: u)
    = t.foldr prepend (string limits start (d :: u))
  := by
  induction t with
  | nil => rfl
  | cons c t ih =>
      obtain ⟨d', u', hd⟩ : ∃ d' u', t.flatMap (stringChar asciiOnly) ++ d :: u = d' :: u' :=
        List.exists_cons_of_ne_nil (by simp)
      rw [List.flatMap_cons, List.append_assoc, hd, string_stringChar, ← hd, ih, List.foldr_cons]

/-- The characters of a text, put in front of a string one by one. -/
theorem foldr_prepend (t : Text) (s : Str) (rest : Text) :
  t.foldr prepend (.ok (s, rest)) = .ok (t.foldr Str.cons s, rest)
  := by
  induction t with
  | nil => rfl
  | cons c t ih => rw [List.foldr_cons, ih, List.foldr_cons, prepend]

/-- Characters in front of a text make a longer text. -/
theorem foldr_cons_text (t u : Text) :
  t.foldr Str.cons (.text u) = .text (t ++ u)
  := by
  induction t with
  | nil => rfl
  | cons c t ih => rw [List.foldr_cons, ih, Str.cons, List.cons_append]

/-- Characters in front of a string go to the text in front of its first half. -/
theorem foldr_cons_half (t lead : Text) (h : Half) (s : Str) :
  t.foldr Str.cons (.half lead h s) = .half (t ++ lead) h s
  := by
  induction t with
  | nil => rfl
  | cons c t ih => rw [List.foldr_cons, ih, Str.cons, List.cons_append]

/-- A half makes no pair with a string that does not begin with the second half of one. -/
theorem follower_inner (asciiOnly : Bool) {h : Half} {s : Str}
    (hs : h.isFirst = true → s.opensWithSecond = false) (t : Text) :
  follower h (inner asciiOnly s ++ '"' :: t) = .none
  := by
  match s with
  | .text [] => exact follower_of_behindEscape? h rfl
  | .text (c :: u) =>
      obtain ⟨d, w, hd⟩ : ∃ d w, u.flatMap (stringChar asciiOnly) ++ '"' :: t = d :: w :=
        List.exists_cons_of_ne_nil (by simp)
      rw [inner_text, List.flatMap_cons, List.append_assoc, hd, follower_stringChar]
  | .half (c :: u) h' rest =>
      obtain ⟨d, w, hd⟩ : ∃ d w, u.flatMap (stringChar asciiOnly)
          ++ (unicodeEscape h'.code ++ (inner asciiOnly rest ++ '"' :: t)) = d :: w :=
        List.exists_cons_of_ne_nil (by simp)
      rw [inner_half, List.flatMap_cons, List.append_assoc, List.append_assoc, List.append_assoc, hd,
        follower_stringChar]
  | .half [] h' rest =>
      obtain ⟨d, w, hd⟩ : ∃ d w, inner asciiOnly rest ++ '"' :: t = d :: w :=
        List.exists_cons_of_ne_nil (by simp)
      cases hfirst : h.isFirst with
      | false =>
          rw [follower, hfirst]
          rfl
      | true =>
          have hsecond : h'.isFirst = true := by
            simpa [Str.opensWithSecond] using hs hfirst
          rw [inner_half, List.flatMap_nil, List.nil_append, List.append_assoc, hd,
            follower_half hfirst, if_pos hsecond]

/-- A string that is written with its escapes is read up to its closing quote. -/
theorem string_inner (asciiOnly : Bool) {s : Str} (hs : limits.Keeps s) (t : Text) :
  string limits start (inner asciiOnly s ++ '"' :: t) = .ok (s, t)
  := by
  induction s with
  | text u =>
      have hquote : string limits start ('"' :: t) = .ok (.text [], t) := by
        rw [string]
      rw [inner_text, string_flatMap, hquote, foldr_prepend, foldr_cons_text, List.append_nil]
  | half lead h rest ih =>
      obtain ⟨hproper, hhalves⟩ := hs
      have hkeeps : limits.keepsHalves = true := hhalves.resolve_right (by simp [Str.hasHalf])
      have hrest := ih ⟨hproper.2, Or.inl hkeeps⟩
      have hfollower := follower_inner asciiOnly hproper.1 t
      obtain ⟨d, u, hd⟩ : ∃ d u, inner asciiOnly rest ++ '"' :: t = d :: u :=
        List.exists_cons_of_ne_nil (by simp)
      have hhalf : string limits start (unicodeEscape h.code ++ (inner asciiOnly rest ++ '"' :: t))
          = .ok (.half [] h rest, t) := by
        rw [hd] at hrest hfollower ⊢
        rw [string_half, hfollower, hrest]
        exact if_pos hkeeps
      obtain ⟨e, w, he⟩ :
          ∃ e w, unicodeEscape h.code ++ (inner asciiOnly rest ++ '"' :: t) = e :: w :=
        List.exists_cons_of_ne_nil (by simp)
      rw [inner_half, List.append_assoc, List.append_assoc, he, string_flatMap, ← he, hhalf,
        foldr_prepend, foldr_cons_half, List.append_nil]

end Reader

/-- The characters of a written string with text behind it. -/
theorem stringText_append (asciiOnly : Bool) (s : Str) (t : Text) :
  stringText asciiOnly s ++ t = '"' :: (Reader.inner asciiOnly s ++ '"' :: t)
  := by
  simp [stringText]

end Json

end BranchingStory
