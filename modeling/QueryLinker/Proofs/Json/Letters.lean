import QueryLinker.Json.Printer
import QueryLinker.Json.Reader
import QueryLinker.Proofs.Text.Utf8
import Mathlib.Data.List.Chain

/-!
This module contains that strings in JSON texts are read as the strings that were written. Two
escapes in a row that are a surrogate pair are read as one character, so a text in which two halves
stand next to each other as a pair would not be read back; no text that is read is such a text.
-/

namespace QueryLinker

def Letter.Apart : Letter → Letter → Prop
  | .half n, .half m => Text.isLeadingSurrogate n → Text.isTrailingSurrogate m = false
  | _, _ => True

def Letter.Sound : Letter → Prop
  | .char _ => True
  | .half n => Text.isSurrogate n

structure LooseText.Paired (t : LooseText) : Prop where
  sound : ∀ l ∈ t.letters, l.Sound
  apart : t.letters.IsChain Letter.Apart

theorem LooseText.paired_ofString (s : String) : (LooseText.ofString s).Paired where
  sound := by
    intro l hl
    simp only [ofString, List.mem_map] at hl
    rcases hl with ⟨c, _, rfl⟩
    trivial
  apart := by
    simp only [ofString]
    induction s.toList with
    | nil => exact .nil
    | cons c cs ih =>
      cases cs with
      | nil => exact .singleton _
      | cons d ds => exact .cons_cons trivial ih

namespace Json

theorem hexValue?_hexDigit {n : Nat} (hn : n < 16) : hexValue? (hexDigit n) = some n := by
  have h : ∀ n : Fin 16, hexValue? (hexDigit n) = some n.val := by decide
  exact h ⟨n, hn⟩

theorem unit?_hexDigit {n : Nat} (hn : n < 0x10000) :
    unit? (hexDigit (n / 4096 % 16)) (hexDigit (n / 256 % 16)) (hexDigit (n / 16 % 16))
      (hexDigit (n % 16)) = some n := by
  unfold unit?
  rw [hexValue?_hexDigit (by omega), hexValue?_hexDigit (by omega), hexValue?_hexDigit (by omega),
    hexValue?_hexDigit (by omega)]
  simp only [Option.pure_def, Option.bind_eq_bind, Option.bind_some, Option.some.injEq]
  omega

def NoTrailing (cs : List Char) : Prop :=
  ∀ e f g h i rest, cs = '\\' :: 'u' :: e :: f :: g :: h :: i :: rest →
    ∃ m, unit? e f g h = some m ∧ Text.isTrailingSurrogate m = false

variable {start offset n m : Nat} {acc : List Letter} {cs rest : List Char}

theorem readString_unit (hn : n < 0x10000) (hcs : cs ≠ [])
    (h : Text.isLeadingSurrogate n → NoTrailing cs) :
    readString start acc (escapeUnit n ++ cs) offset =
      readString start (Letter.ofUnit n :: acc) cs (offset + 6) := by
  have hunit := unit?_hexDigit hn
  rcases List.exists_cons_of_ne_nil hcs with ⟨c, later, rfl⟩
  change readString start acc ('\\' :: 'u' :: _ :: _ :: _ :: _ :: c :: later) offset = _
  by_cases hform : ∃ e f g h i rest, c :: later = '\\' :: 'u' :: e :: f :: g :: h :: i :: rest
  . rcases hform with ⟨e, f, g, h', i, rest, heq⟩
    cases heq
    rw [readString.eq_4, hunit]
    dsimp only
    split
    next hleading =>
      rcases h hleading _ _ _ _ _ _ rfl with ⟨m, hm, htrailing⟩
      rw [hm]
      dsimp only
      rw [if_neg (by simp [htrailing])]
    next => rfl
  . rw [readString.eq_5, hunit]
    rintro e f g h' i rest rfl rfl
    exact hform ⟨e, f, g, h', i, rest, rfl⟩

theorem readString_pair (hn : n < 0x10000) (hm : m < 0x10000) (hcs : cs ≠ [])
    (hleading : Text.isLeadingSurrogate n) (htrailing : Text.isTrailingSurrogate m) :
    readString start acc (escapeUnit n ++ (escapeUnit m ++ cs)) offset =
      readString start (.char (Text.charOfPair n m) :: acc) cs (offset + 12) := by
  rcases List.exists_cons_of_ne_nil hcs with ⟨c, later, rfl⟩
  change readString start acc ('\\' :: 'u' :: _ :: _ :: _ :: _ :: '\\' :: 'u' :: _ :: _ :: _ :: _ ::
    c :: later) offset = _
  rw [readString.eq_4, unit?_hexDigit hn]
  dsimp only
  rw [if_pos hleading, unit?_hexDigit hm]
  dsimp only
  rw [if_pos htrailing]

theorem readString_simple {c e : Char} (hc : c ≠ 'u') (he : simpleEscape? c = some e) :
    readString start acc ('\\' :: c :: cs) offset =
      readString start (.char e :: acc) cs (offset + 2) := by
  rw [readString.eq_7, he]
  all_goals
    intros
    exact hc ‹_›

theorem readString_plain {c : Char} (hquote : c ≠ '"') (hback : c ≠ '\\') (hc : 0x20 ≤ c.toNat) :
    readString start acc (c :: cs) offset = readString start (.char c :: acc) cs (offset + 1) := by
  rw [readString.eq_8, if_neg (by omega)]
  all_goals
    intros
    first | exact hquote ‹_› | exact hback ‹_›

theorem toNat_range (c : Char) : c.toNat < 0xd800 ∨ 0xdfff < c.toNat ∧ c.toNat < 0x110000 := by
  have hvalid := c.valid
  rcases hvalid with h | h
  . exact .inl h
  . exact .inr h

theorem isSurrogate_toNat (c : Char) : Text.isSurrogate c.toNat = false := by
  have := toNat_range c
  simp [Text.isSurrogate, Text.isLeadingSurrogate, Text.isTrailingSurrogate]
  omega

theorem ofUnit_toNat (c : Char) : Letter.ofUnit c.toNat = .char c := by
  rw [Letter.ofUnit, isSurrogate_toNat, if_neg (by simp), Char.ofNat_toNat]

theorem ofUnit_half (h : (Letter.half n).Sound) : Letter.ofUnit n = .half n := by
  have hn : Text.isSurrogate n := h
  rw [Letter.ofUnit, if_pos hn]

theorem half_lt (h : (Letter.half n).Sound) : n < 0x10000 := by
  simp [Letter.Sound, Text.isSurrogate, Text.isLeadingSurrogate, Text.isTrailingSurrogate] at h
  omega

theorem charOfPair_units {c : Char} (hc : 0x10000 ≤ c.toNat) :
    Text.charOfPair (0xd800 + (c.toNat - 0x10000) / 0x400) (0xdc00 + (c.toNat - 0x10000) % 0x400) =
      c := by
  unfold Text.charOfPair
  rw [show 0x10000 + (0xd800 + (c.toNat - 0x10000) / 0x400 - 0xd800) * 0x400 +
    (0xdc00 + (c.toNat - 0x10000) % 0x400 - 0xdc00) = c.toNat by omega, Char.ofNat_toNat]

inductive Escaped (c : Char) : List Char → Prop where
  | simple (d : Char) (hd : d ≠ 'u') (h : simpleEscape? d = some c) : Escaped c ['\\', d]
  | plain (hquote : c ≠ '"') (hback : c ≠ '\\') (hc : 0x20 ≤ c.toNat ∧ c.toNat ≤ 0x7e) :
    Escaped c [c]
  | unit (hc : c.toNat < 0x10000) : Escaped c (escapeUnit c.toNat)
  | pair {n m : Nat} (hleading : Text.isLeadingSurrogate n)
    (htrailing : Text.isTrailingSurrogate m) (h : Text.charOfPair n m = c) :
    Escaped c (escapeUnit n ++ escapeUnit m)

theorem escaped_simple {c e d : Char} (hc : (c == e) = true) (hd : d ≠ 'u')
    (h : simpleEscape? d = some e) : Escaped c ['\\', d] :=
  .simple d hd (eq_of_beq hc ▸ h)

theorem escaped (c : Char) : Escaped c (escapeChar c) := by
  unfold escapeChar
  split
  next h => exact escaped_simple h (by decide) rfl
  next hquote =>
    split
    next h => exact escaped_simple h (by decide) rfl
    next hback =>
      repeat' split
      case isTrue h => exact escaped_simple h (by decide) rfl
      case isTrue h => exact escaped_simple h (by decide) rfl
      case isTrue h => exact escaped_simple h (by decide) rfl
      case isTrue h => exact escaped_simple h (by decide) rfl
      case isTrue h => exact escaped_simple h (by decide) rfl
      case isTrue h =>
        simp at h
        exact .plain (by simpa using hquote) (by simpa using hback) h
      case isTrue h => exact .unit h
      case isFalse h =>
        have := toNat_range c
        refine .pair ?_ ?_ (charOfPair_units (by omega))
        . simp [Text.isLeadingSurrogate]
          omega
        . simp [Text.isTrailingSurrogate]
          omega

theorem noTrailing_unit (hn : n < 0x10000) (h : Text.isTrailingSurrogate n = false) :
    NoTrailing (escapeUnit n ++ cs) := by
  intro e f g h' i rest heq
  cases heq
  exact ⟨n, unit?_hexDigit hn, h⟩

theorem leading_lt (h : Text.isLeadingSurrogate n) :
    n < 0x10000 ∧ Text.isTrailingSurrogate n = false := by
  simp [Text.isLeadingSurrogate, Text.isTrailingSurrogate] at *
  omega

theorem trailing_lt (h : Text.isTrailingSurrogate n) : n < 0x10000 := by
  simp [Text.isTrailingSurrogate] at h
  omega

theorem noTrailing_letter {l : Letter} (hl : l.Sound)
    (h : ∀ n, l = .half n → Text.isTrailingSurrogate n = false) :
    NoTrailing (escapeLetter l ++ cs) := by
  cases l with
  | half n => exact noTrailing_unit (half_lt hl) (h n rfl)
  | char c =>
    change NoTrailing (escapeChar c ++ cs)
    have hescaped := escaped c
    generalize escapeChar c = text at hescaped ⊢
    cases hescaped with
    | simple d hd _ =>
      rintro e f g h i rest heq
      cases heq
      exact absurd rfl hd
    | plain _ hback _ =>
      rintro e f g h i rest heq
      cases heq
      exact absurd rfl hback
    | unit hc =>
      have hnone := isSurrogate_toNat c
      rw [Text.isSurrogate, Bool.or_eq_false_iff] at hnone
      exact noTrailing_unit hc hnone.2
    | pair hleading _ _ =>
      rw [List.append_assoc]
      exact noTrailing_unit (leading_lt hleading).1 (leading_lt hleading).2

theorem readString_letter (start offset : Nat) (acc : List Letter) {l : Letter} (hl : l.Sound)
    (hcs : cs ≠ [])
    (h : ∀ n, l = .half n → Text.isLeadingSurrogate n → NoTrailing cs) :
    ∃ later, readString start acc (escapeLetter l ++ cs) offset =
      readString start (l :: acc) cs later := by
  cases l with
  | half n =>
    exact ⟨_, ofUnit_half hl ▸ readString_unit (half_lt hl) hcs (h n rfl)⟩
  | char c =>
    change ∃ later, readString start acc (escapeChar c ++ cs) offset = _
    have hescaped := escaped c
    generalize escapeChar c = text at hescaped ⊢
    cases hescaped with
    | simple d hd hvalue => exact ⟨_, readString_simple hd hvalue⟩
    | plain hquote hback hc => exact ⟨_, readString_plain hquote hback hc.1⟩
    | unit hc =>
      have hnone := isSurrogate_toNat c
      rw [Text.isSurrogate, Bool.or_eq_false_iff] at hnone
      refine ⟨_, (readString_unit hc hcs fun hleading => ?_).trans (by rw [ofUnit_toNat])⟩
      rw [hnone.1] at hleading
      cases hleading
    | pair hleading htrailing hpair =>
      rw [List.append_assoc]
      exact ⟨_, (readString_pair (leading_lt hleading).1 (trailing_lt htrailing) hcs hleading
        htrailing).trans (by rw [hpair])⟩

theorem readString_letters (start offset : Nat) (acc : List Letter) (rest : List Char)
    {ls : List Letter} (hsound : ∀ l ∈ ls, l.Sound)
    (hapart : ls.IsChain Letter.Apart) :
    ∃ later, readString start acc (ls.flatMap escapeLetter ++ '"' :: rest) offset =
      .ok ⟨⟨acc.reverse ++ ls⟩, rest, later⟩ := by
  induction ls generalizing acc offset with
  | nil => exact ⟨_, by rw [List.flatMap_nil, List.nil_append, readString, List.append_nil]⟩
  | cons l ls ih =>
    have hnext : ∀ n, l = .half n → Text.isLeadingSurrogate n →
        NoTrailing (ls.flatMap escapeLetter ++ '"' :: rest) := by
      rintro n rfl hleading
      cases ls with
      | nil =>
        rintro e f g h i later heq
        cases heq
      | cons next ls =>
        rw [List.flatMap_cons, List.append_assoc]
        apply noTrailing_letter (hsound next (by simp))
        rintro m rfl
        exact hapart.rel hleading
    rcases readString_letter start offset acc (hsound l (by simp)) (by simp) hnext with
      ⟨between, hfirst⟩
    rcases ih between (l :: acc) (fun l hl => hsound l (by simp [hl])) hapart.tail with
      ⟨later, hrest⟩
    refine ⟨later, ?_⟩
    rw [List.flatMap_cons, List.append_assoc, hfirst, hrest, List.reverse_cons, List.append_assoc,
      List.singleton_append]

theorem readString_stringText {t : LooseText} (ht : t.Paired) (start offset : Nat)
    (rest : List Char) :
    ∃ later, readString start [] (t.letters.flatMap escapeLetter ++ '"' :: rest) offset =
      .ok ⟨t, rest, later⟩ :=
  readString_letters start offset [] rest ht.sound ht.apart

def Plain (cs : List Char) : Prop :=
  ∀ c ∈ cs, Text.isAscii c ∧ c ≠ '\r'

@[simp]
theorem plain_nil : Plain [] := by
  simp [Plain]

@[simp]
theorem plain_cons {c : Char} : Plain (c :: cs) ↔ (Text.isAscii c ∧ c ≠ '\r') ∧ Plain cs := by
  simp [Plain]

@[simp]
theorem plain_append : Plain (cs ++ rest) ↔ Plain cs ∧ Plain rest :=
  List.forall_mem_append

theorem plain_hexDigit (hn : n < 16) : Text.isAscii (hexDigit n) ∧ hexDigit n ≠ '\r' := by
  have h : ∀ n : Fin 16, Text.isAscii (hexDigit n) ∧ hexDigit n ≠ '\r' := by decide
  exact h ⟨n, hn⟩

theorem plain_escapeUnit (n : Nat) : Plain (escapeUnit n) := by
  have hmod (k : Nat) := plain_hexDigit (Nat.mod_lt k (show 0 < 16 by omega))
  unfold escapeUnit
  rw [plain_cons, plain_cons, plain_cons, plain_cons, plain_cons, plain_cons]
  exact ⟨by decide, by decide, hmod _, hmod _, hmod _, hmod _, plain_nil⟩

theorem plain_simpleEscape {c e : Char} (h : simpleEscape? c = some e) :
    Text.isAscii c ∧ c ≠ '\r' := by
  unfold simpleEscape? at h
  repeat' split at h
  all_goals
    first
    | cases h; done
    | rename_i hc
      rw [eq_of_beq hc]
      decide

theorem plain_escapeLetter (l : Letter) : Plain (escapeLetter l) := by
  cases l with
  | half n => exact plain_escapeUnit n
  | char c =>
    change Plain (escapeChar c)
    have hescaped := escaped c
    generalize escapeChar c = text at hescaped ⊢
    cases hescaped with
    | simple d _ h =>
      rw [plain_cons, plain_cons]
      exact ⟨by decide, plain_simpleEscape h, plain_nil⟩
    | plain _ _ hc =>
      rw [plain_cons]
      refine ⟨⟨by simp [Text.isAscii]; omega, ?_⟩, plain_nil⟩
      rintro rfl
      simp at hc
    | unit _ => exact plain_escapeUnit _
    | pair _ _ _ => exact plain_append.mpr ⟨plain_escapeUnit _, plain_escapeUnit _⟩

theorem plain_stringText (t : LooseText) : Plain (stringText t) := by
  unfold stringText
  rw [plain_append, plain_cons]
  refine ⟨⟨by decide, fun c hc => ?_⟩, by simp; decide⟩
  rcases List.mem_flatMap.mp hc with ⟨l, _, hl⟩
  exact plain_escapeLetter l c hl

structure SoFar (acc : List Letter) (cs : List Char) : Prop where
  sound : ∀ l ∈ acc, l.Sound
  apart : acc.IsChain fun l earlier => earlier.Apart l
  next : ∀ n, acc.head? = some (.half n) → Text.isLeadingSurrogate n → NoTrailing cs

theorem SoFar.char {c : Char} {later : List Char} (h : SoFar acc cs) :
    SoFar (.char c :: acc) later where
  sound := by
    rintro l (_ | ⟨_, hl⟩)
    . trivial
    . exact h.sound l hl
  apart := by
    rw [List.isChain_cons]
    refine ⟨fun l _ => ?_, h.apart⟩
    cases l <;> trivial
  next := by
    intro n hn
    cases hn

theorem SoFar.unit {later : List Char} (h : SoFar acc cs)
    (hcs : ∃ a b c d e rest, cs = '\\' :: 'u' :: a :: b :: c :: d :: e :: rest ∧
      unit? a b c d = some n)
    (hlater : Text.isLeadingSurrogate n → NoTrailing later) :
    SoFar (Letter.ofUnit n :: acc) later := by
  unfold Letter.ofUnit
  split
  next hn =>
    refine ⟨?_, ?_, ?_⟩
    . rintro l (_ | ⟨_, hl⟩)
      . exact hn
      . exact h.sound l hl
    . rw [List.isChain_cons]
      refine ⟨fun l hl => ?_, h.apart⟩
      cases l with
      | char _ => trivial
      | half m =>
        intro hleading
        rcases hcs with ⟨a, b, c, d, e, rest, heq, hunit⟩
        rcases h.next m hl hleading a b c d e rest heq with ⟨n', hn', htrailing⟩
        rw [hunit] at hn'
        cases hn'
        exact htrailing
    . intro m hm
      cases hm
      exact hlater
  next => exact h.char

theorem paired_of_soFar (h : SoFar acc cs) : LooseText.Paired ⟨acc.reverse⟩ where
  sound := by
    intro l hl
    exact h.sound l (List.mem_reverse.mp hl)
  apart := List.isChain_reverse.mpr h.apart

theorem paired_of_readString {r : Reading LooseText} (hsofar : SoFar acc cs)
    (h : readString start acc cs offset = .ok r) : r.value.Paired := by
  fun_induction readString start acc cs offset with
  | case1 | case3 | case4 | case5 | case9 | case11 | case13 | case14 => cases h
  | case2 acc cs offset =>
    cases h
    exact paired_of_soFar hsofar
  | case6 acc a b c d e f g h' i cs offset n hn hleading m hm htrailing ih => exact ih hsofar.char h
  | case7 acc a b c d e f g h' i cs offset n hn hleading m hm htrailing ih =>
    refine ih (hsofar.unit ⟨a, b, c, d, _, _, rfl, hn⟩ fun _ => ?_) h
    rintro e f g h' i rest heq
    cases heq
    exact ⟨m, hm, by simpa using htrailing⟩
  | case8 acc a b c d e f g h' i cs offset n hn hleading ih =>
    exact ih (hsofar.unit ⟨a, b, c, d, _, _, rfl, hn⟩ fun h => absurd h hleading) h
  | case10 acc a b c d e cs offset hform n hn ih =>
    refine ih (hsofar.unit ⟨a, b, c, d, _, _, rfl, hn⟩ fun _ => ?_) h
    rintro e f g h' i rest heq
    cases heq
    exact (hform _ _ _ _ _ _ rfl rfl).elim
  | case12 acc c cs offset _ _ _ e he ih => exact ih hsofar.char h
  | case15 acc c cs offset _ _ _ _ _ _ _ ih => exact ih hsofar.char h

end Json

end QueryLinker
