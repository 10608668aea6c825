import QueryLinker.Json.Fingerprint
import QueryLinker.Proofs.Json.RoundTrip
import Mathlib.Data.List.Sort

/-!
This module contains that the canonical text of a JSON value tells everything of the value but the
order of members: two values have the same text if and only if they are alike. The text of a value
on one line is the text of no other value, and it tells where it ends, so that values that stand
next to each other are told apart. Integers of any size are included, also those that are too long
to be read.
-/

namespace QueryLinker

namespace Json

open Number

inductive WellFormed : Json → Prop where
  | null : WellFormed .null
  | bool (b : Bool) : WellFormed (.bool b)
  | int (n : Int) : WellFormed (.int n)
  | real {x : Number.Real} (h : x.Read) : WellFormed (.real x)
  | str {s : LooseText} (h : s.Paired) : WellFormed (.str s)
  | arr {items : List Json} (h : ∀ v ∈ items, WellFormed v) : WellFormed (.arr items)
  | obj {members : List (LooseText × Json)} (hnodup : (members.map Prod.fst).Nodup)
    (hkeys : ∀ m ∈ members, m.1.Paired) (hvalues : ∀ m ∈ members, WellFormed m.2) :
    WellFormed (.obj members)

variable {v a b : Json} {rest rest' : List Char}

theorem Readable.wellFormed (h : Readable v) : WellFormed v := by
  induction h with
  | null => exact .null
  | bool b => exact .bool b
  | int => exact .int _
  | real h => exact .real h
  | str h => exact .str h
  | arr _ ih => exact .arr ih
  | obj hnodup hkeys _ ih => exact .obj hnodup hkeys ih

/-! Numbers. -/

theorem head?_digits_append {ds : List Char} (hds : ds.all Char.isDigit) (hne : ds ≠ []) :
    (ds ++ rest).head? ≠ some '-' := by
  rcases List.exists_cons_of_ne_nil hne with ⟨d, later, rfl⟩
  rintro heq
  cases heq
  simp at hds

theorem int_append_inj {n m : Int} (hrest : EndsNumber rest) (hrest' : EndsNumber rest')
    (h : (toString n).toList ++ rest = (toString m).toList ++ rest') : n = m ∧ rest = rest' := by
  have hsplit := congrArg splitMinus h
  have hne (k : Nat) : Nat.toDigits 10 k ≠ [] := Nat.toDigits_ne_nil
  rw [toString_int, toString_int, List.append_assoc, List.append_assoc,
    splitMinus_chars (head?_digits_append (isDigit_toDigits _) (hne _)),
    splitMinus_chars (head?_digits_append (isDigit_toDigits _) (hne _)), Prod.mk.injEq] at hsplit
  rcases hsplit with ⟨hsign, hdigits⟩
  -- The digits of either number end where its rest begins, as no rest goes on with a digit.
  have hn := digits_append (isDigit_toDigits n.natAbs) hrest.head?
  have hm := digits_append (isDigit_toDigits m.natAbs) hrest'.head?
  have hvalue : Nat.toDigits 10 n.natAbs = Nat.toDigits 10 m.natAbs := by
    rw [← hn.1, hdigits, hm.1]
  have habs : n.natAbs = m.natAbs := by
    rw [← digitsValue_toDigits n.natAbs, hvalue, digitsValue_toDigits]
  rw [decide_eq_decide] at hsign
  exact ⟨by omega, by rw [← hn.2, hdigits, hm.2]⟩

theorem digits_append_ne_spells {ds text : List Char} {d : Decimal} (hds : ds.all Char.isDigit)
    (hrest : EndsNumber rest) (h : Spells text d) : ds ++ rest ≠ text ++ rest' := by
  rcases h with ⟨whole, fraction, exponent?, rfl, hwhole, -, -, hne, -⟩
  have htail : ∃ c cs, fractionChars fraction ++ exponentChars exponent? ++ rest' = c :: cs ∧
      (c = '.' ∨ c = 'e') := by
    by_cases hempty : fraction = []
    . cases exponent? with
      | none => exact absurd hempty (hne rfl)
      | some x =>
        rw [hempty]
        exact ⟨'e', _, rfl, .inr rfl⟩
    . rw [fractionChars, if_neg hempty]
      exact ⟨'.', _, rfl, .inl rfl⟩
  rcases htail with ⟨c, cs, htail, hc⟩
  intro heq
  rw [List.append_assoc, htail] at heq
  have hdrop := congrArg (List.dropWhile Char.isDigit) heq
  have hhead : (c :: cs).head?.all fun c => !c.isDigit := by
    rcases hc with rfl | rfl <;> rfl
  rw [(digits_append hds hrest.head?).2, (digits_append hwhole.digits hhead).2] at hdrop
  rw [hdrop] at hrest
  rcases hc with rfl | rfl
  . exact hrest.2.1 rfl
  . exact hrest.2.2.1 rfl

theorem spells_zero : Spells ['0', '.', '0'] ⟨0, 0⟩ := by
  refine ⟨['0'], ['0'], none, rfl, ⟨rfl, .inl rfl⟩, rfl, by simp, by simp, ?_⟩
  have hdigits : digitsValue (['0'] ++ ['0']) = 0 := rfl
  rw [hdigits]
  simp [Decimal.value]

structure NotWhole (body : List Char) : Prop where
  head?_ne : ∀ rest, (body ++ rest).head? ≠ some '-'
  ne : ∀ {ds rest} rest', ds.all Char.isDigit → ds ≠ [] → EndsNumber rest →
    ds ++ rest ≠ body ++ rest'

theorem notWhole_cons {c : Char} (cs : List Char) (hminus : c ≠ '-') (hc : c.isDigit = false) :
    NotWhole (c :: cs) where
  head?_ne := by simpa using hminus
  ne := by
    rintro (_ | ⟨d, ds⟩) rest rest' hds hne - heq
    . exact hne rfl
    . rw [List.cons_append, List.cons_append, List.cons.injEq] at heq
      rw [heq.1] at hds
      simp [hc] at hds

theorem Spells.notWhole {text : List Char} {d : Decimal} (h : Spells text d) : NotWhole text where
  head?_ne := by
    intro rest
    rcases spells_exists_cons h with ⟨c, later, rfl, hc⟩
    rintro heq
    cases heq
    simp at hc
  ne := fun _ hds _ hrest => digits_append_ne_spells hds hrest h

theorem exists_notWhole {x : Number.Real} (hx : x.Read) : ∃ negative body,
    (x.toText Real.jsonLayout).toList = signChars negative ++ body ∧ NotWhole body := by
  cases hx with
  | nan => exact ⟨false, ['N', 'a', 'N'], rfl, notWhole_cons _ (by decide) rfl⟩
  | infinite negative =>
    refine ⟨negative, ['I', 'n', 'f', 'i', 'n', 'i', 't', 'y'], ?_,
      notWhole_cons _ (by decide) rfl⟩
    cases negative <;> rfl
  | zero negative => exact ⟨negative, _, toText_finite _ _ _, spells_zero.notWhole⟩
  | finite negative hy =>
    exact ⟨negative, _, toText_finite _ _ _, (spells_decimalText (pos_shortest hy)).notWhole⟩

theorem int_append_ne_real {n : Int} {x : Number.Real} (hx : x.Read) (hrest : EndsNumber rest) :
    (toString n).toList ++ rest ≠ (x.toText Real.jsonLayout).toList ++ rest' := by
  rcases exists_notWhole hx with ⟨negative, body, htext, hbody⟩
  have hne : Nat.toDigits 10 n.natAbs ≠ [] := Nat.toDigits_ne_nil
  intro heq
  have hsplit := congrArg splitMinus heq
  rw [toString_int, htext, List.append_assoc, List.append_assoc,
    splitMinus_chars (head?_digits_append (isDigit_toDigits _) hne),
    splitMinus_chars (hbody.head?_ne rest'), Prod.mk.injEq] at hsplit
  exact hbody.ne rest' (isDigit_toDigits _) hne hrest hsplit.2

theorem ReadsAs.append_inj {text text' : List Char} (h : ReadsAs text a) (h' : ReadsAs text' b)
    (hrest : EndsNumber rest) (hrest' : EndsNumber rest') (heq : text ++ rest = text' ++ rest') :
    a = b ∧ rest = rest' := by
  let fuel := max text.length text'.length + 1
  let room := max a.levels b.levels
  rcases h.read fuel room 0 hrest (by omega) (Nat.le_max_left _ _) with ⟨later, hread⟩
  rcases h'.read fuel room 0 hrest' (by omega) (Nat.le_max_right _ _) with ⟨later', hread'⟩
  rw [heq, hread'] at hread
  cases hread
  exact ⟨rfl, rfl⟩

/-! The first character of a text. -/

inductive Kind where
  | null
  | bool (b : Bool)
  | number
  | text
  | array
  | object

def kind : Json → Kind
  | .null => .null
  | .bool b => .bool b
  | .int _ | .real _ => .number
  | .str _ => .text
  | .arr _ => .array
  | .obj _ => .object

def kindOf? (c : Char) : Option Kind :=
  match c with
  | 'n' => some .null
  | 't' => some (.bool true)
  | 'f' => some (.bool false)
  | '"' => some .text
  | '[' => some .array
  | '{' => some .object
  | '-' | 'N' | 'I' => some .number
  | c => if c.isDigit then some .number else none

theorem kindOf?_digit {c : Char} (hc : c.isDigit) : kindOf? c = some .number := by
  unfold kindOf?
  split <;> simp_all

theorem exists_signed {negative : Bool} {text : List Char}
    (h : ∃ c later, text = c :: later ∧ c.isDigit) :
    ∃ c cs, signChars negative ++ text = c :: cs ∧ kindOf? c = some .number := by
  rcases h with ⟨c, later, rfl, hc⟩
  cases negative with
  | true => exact ⟨'-', _, rfl, rfl⟩
  | false => exact ⟨c, later, rfl, kindOf?_digit hc⟩

theorem exists_real {x : Number.Real} (hx : x.Read) :
    ∃ c cs, (x.toText Real.jsonLayout).toList = c :: cs ∧ kindOf? c = some .number := by
  cases hx with
  | nan => exact ⟨'N', _, rfl, rfl⟩
  | infinite negative => cases negative <;> exact ⟨_, _, rfl, rfl⟩
  | zero negative =>
    rw [toText_finite]
    exact exists_signed (spells_exists_cons spells_zero)
  | finite negative hy =>
    rw [toText_finite]
    exact exists_signed (spells_exists_cons (spells_decimalText (pos_shortest hy)))

theorem exists_compact (h : WellFormed v) :
    ∃ c cs, compact v = c :: cs ∧ kindOf? c = some v.kind := by
  cases h with
  | null => exact ⟨'n', _, rfl, rfl⟩
  | bool b => cases b <;> exact ⟨_, _, rfl, rfl⟩
  | int n =>
    have htext : compact (.int n) = (toString n).toList := rfl
    rw [htext, toString_int]
    exact exists_signed (whole_toDigits _).exists_cons
  | real hx => exact exists_real hx
  | str h => exact ⟨'"', _, rfl, rfl⟩
  | arr h =>
    rename_i items
    cases items <;> exact ⟨'[', _, rfl, rfl⟩
  | obj hnodup hkeys hvalues =>
    rename_i members
    cases members <;> exact ⟨_, _, rfl, rfl⟩

theorem opens_compact (v : Json) (h : WellFormed v) : ∃ c cs, compact v = c :: cs ∧ c ≠ ']' := by
  rcases exists_compact h with ⟨c, cs, htext, hkind⟩
  refine ⟨c, cs, htext, ?_⟩
  rintro rfl
  cases hkind

theorem kind_eq_of_append (ha : WellFormed a) (hb : WellFormed b)
    (h : compact a ++ rest = compact b ++ rest') : a.kind = b.kind := by
  rcases exists_compact ha with ⟨c, cs, htext, hkind⟩
  rcases exists_compact hb with ⟨d, ds, htext', hkind'⟩
  rw [htext, htext', List.cons_append, List.cons_append, List.cons.injEq] at h
  rw [h.1, hkind'] at hkind
  exact (Option.some.inj hkind).symm

/-! Several texts in brackets. -/

section

variable {α : Type} {P : α → Prop} {text : α → List Char} {x : α} {xs ys : List α} {close : Char}

/-- The text of `x` is that of nothing else with the property, and it tells where it ends. -/
def Definite (P : α → Prop) (text : α → List Char) (x : α) : Prop :=
  ∀ {y rest rest'}, P y → EndsNumber rest → EndsNumber rest' →
    text x ++ rest = text y ++ rest' → x = y ∧ rest = rest'

def following (text : α → List Char) (xs : List α) : List Char :=
  xs.flatMap fun x => ',' :: ' ' :: text x

def listing (text : α → List Char) : List α → List Char
  | [] => []
  | x :: xs => text x ++ following text xs

theorem following_cons_append (x : α) (xs : List α) (rest : List Char) :
    following text (x :: xs) ++ rest = ',' :: ' ' :: (text x ++ (following text xs ++ rest)) := by
  simp [following]

theorem endsNumber_following (hclose : EndsNumber [close]) (xs : List α) (rest : List Char) :
    EndsNumber (following text xs ++ close :: rest) := by
  cases xs with
  | nil => exact hclose
  | cons x xs =>
    rw [following_cons_append]
    exact endsNumber_comma

theorem following_append_inj (hclose : EndsNumber [close]) (hcomma : close ≠ ',')
    (hxs : ∀ x ∈ xs, Definite P text x) (hys : ∀ y ∈ ys, P y)
    (h : following text xs ++ close :: rest = following text ys ++ close :: rest') :
    xs = ys ∧ rest = rest' := by
  induction xs generalizing ys with
  | nil =>
    cases ys with
    | nil =>
      cases h
      exact ⟨rfl, rfl⟩
    | cons y ys =>
      rw [following_cons_append] at h
      cases h
      exact absurd rfl hcomma
  | cons x xs ih =>
    cases ys with
    | nil =>
      rw [following_cons_append] at h
      cases h
      exact absurd rfl hcomma
    | cons y ys =>
      rw [following_cons_append, following_cons_append, List.cons.injEq, List.cons.injEq] at h
      rcases hxs x (by simp) (hys y (by simp)) (endsNumber_following hclose xs rest)
        (endsNumber_following hclose ys rest') h.2.2 with ⟨rfl, hfollowing⟩
      rcases ih (fun x hx => hxs x (by simp [hx])) (fun y hy => hys y (by simp [hy])) hfollowing
        with ⟨rfl, hrest⟩
      exact ⟨rfl, hrest⟩

theorem listing_append_inj (hclose : EndsNumber [close]) (hcomma : close ≠ ',')
    (hopen : ∀ x, P x → ∃ c cs, text x = c :: cs ∧ c ≠ close)
    (hxs : ∀ x ∈ xs, P x ∧ Definite P text x) (hys : ∀ y ∈ ys, P y)
    (h : listing text xs ++ close :: rest = listing text ys ++ close :: rest') :
    xs = ys ∧ rest = rest' := by
  cases xs with
  | nil =>
    cases ys with
    | nil =>
      cases h
      exact ⟨rfl, rfl⟩
    | cons y ys =>
      rcases hopen y (hys y (by simp)) with ⟨c, cs, htext, hc⟩
      rw [listing, listing, htext] at h
      cases h
      exact absurd rfl hc
  | cons x xs =>
    cases ys with
    | nil =>
      rcases hopen x (hxs x (by simp)).1 with ⟨c, cs, htext, hc⟩
      rw [listing, listing, htext] at h
      cases h
      exact absurd rfl hc
    | cons y ys =>
      rw [listing, listing, List.append_assoc, List.append_assoc] at h
      rcases (hxs x (by simp)).2 (hys y (by simp)) (endsNumber_following hclose xs rest)
        (endsNumber_following hclose ys rest') h with ⟨rfl, hfollowing⟩
      rcases following_append_inj hclose hcomma (fun x hx => (hxs x (by simp [hx])).2)
        (fun y hy => hys y (by simp [hy])) hfollowing with ⟨rfl, hrest⟩
      exact ⟨rfl, hrest⟩

end

theorem compactItems_eq (items : List Json) : compactItems items = following compact items := by
  induction items with
  | nil => rfl
  | cons item items ih => simp [compactItems, ih, following]

theorem compactMembers_eq (members : List (LooseText × Json)) :
    compactMembers members = following compactMember members := by
  induction members with
  | nil => rfl
  | cons member members ih => simp [compactMembers, ih, following]

theorem compact_arr (items : List Json) :
    compact (.arr items) = '[' :: (listing compact items ++ [']']) := by
  cases items with
  | nil => rfl
  | cons item items => simp [compact, listing, compactItems_eq]

theorem compact_obj (members : List (LooseText × Json)) :
    compact (.obj members) = '{' :: (listing compactMember members ++ ['}']) := by
  cases members with
  | nil => rfl
  | cons member members => simp [compact, listing, compactMembers_eq]

def WellFormedMember (m : LooseText × Json) : Prop :=
  m.1.Paired ∧ WellFormed m.2

theorem opens_member (m : LooseText × Json) (_ : WellFormedMember m) :
    ∃ c cs, compactMember m = c :: cs ∧ c ≠ '}' := by
  rcases m with ⟨key, value⟩
  exact ⟨'"', _, rfl, by decide⟩

theorem stringText_append_inj {s t : LooseText} (hs : s.Paired) (ht : t.Paired)
    (h : stringText s ++ rest = stringText t ++ rest') : s = t ∧ rest = rest' := by
  rw [stringText_append, stringText_append, List.cons.injEq] at h
  rcases readString_stringText hs 0 0 rest with ⟨later, hread⟩
  rcases readString_stringText ht 0 0 rest' with ⟨later', hread'⟩
  rw [h.2, hread'] at hread
  cases hread
  exact ⟨rfl, rfl⟩

theorem definite_member {m : LooseText × Json} (hkey : m.1.Paired)
    (hvalue : Definite WellFormed compact m.2) : Definite WellFormedMember compactMember m := by
  rcases m with ⟨key, value⟩
  rintro ⟨key', value'⟩ rest rest' hm hrest hrest' h
  rw [compactMember, compactMember, List.append_assoc, List.append_assoc, List.append_assoc,
    List.append_assoc] at h
  rcases stringText_append_inj hkey hm.1 h with ⟨rfl, htext⟩
  rw [List.append_cancel_left_eq] at htext
  rcases hvalue hm.2 hrest hrest' htext with ⟨heq, hrest⟩
  exact ⟨by rw [show value = value' from heq], hrest⟩

-- In each case the first character leaves only values of the same kind to be told apart.

theorem definite_null : Definite WellFormed compact .null := by
  intro b rest rest' hb _ _ heq
  have hkind := kind_eq_of_append .null hb heq
  cases hb <;> cases hkind
  exact ⟨rfl, List.append_cancel_left heq⟩

theorem definite_bool (c : Bool) : Definite WellFormed compact (.bool c) := by
  intro b rest rest' hb _ _ heq
  have hkind := kind_eq_of_append (.bool c) hb heq
  cases hb <;> cases hkind
  exact ⟨rfl, List.append_cancel_left heq⟩

theorem definite_int (n : Int) : Definite WellFormed compact (.int n) := by
  intro b rest rest' hb hrest hrest' heq
  have hkind := kind_eq_of_append (.int n) hb heq
  cases hb with
  | int m =>
    rcases int_append_inj hrest hrest' heq with ⟨rfl, hrests⟩
    exact ⟨rfl, hrests⟩
  | real hy => exact absurd heq (int_append_ne_real hy hrest)
  | _ => cases hkind

theorem definite_real {x : Number.Real} (hx : x.Read) :
    Definite WellFormed compact (.real x) := by
  intro b rest rest' hb hrest hrest' heq
  have hkind := kind_eq_of_append (.real hx) hb heq
  cases hb with
  | int m => exact absurd heq.symm (int_append_ne_real hx hrest')
  | real hy => exact (readsAs_real hx).append_inj (readsAs_real hy) hrest hrest' heq
  | _ => cases hkind

theorem definite_str {s : LooseText} (hs : s.Paired) : Definite WellFormed compact (.str s) := by
  intro b rest rest' hb _ _ heq
  have hkind := kind_eq_of_append (.str hs) hb heq
  cases hb with
  | str ht =>
    rcases stringText_append_inj hs ht heq with ⟨rfl, hrests⟩
    exact ⟨rfl, hrests⟩
  | _ => cases hkind

theorem definite_arr {items : List Json} (hitems : ∀ v ∈ items, WellFormed v)
    (h : ∀ v ∈ items, Definite WellFormed compact v) :
    Definite WellFormed compact (.arr items) := by
  intro b rest rest' hb _ _ heq
  have hkind := kind_eq_of_append (.arr hitems) hb heq
  cases hb with
  | arr hothers =>
    rw [compact_arr, compact_arr, List.cons_append, List.cons_append, List.append_assoc,
      List.append_assoc, List.cons.injEq] at heq
    have hclose : EndsNumber [']'] := ⟨rfl, by decide, by decide, by decide⟩
    rcases listing_append_inj hclose (by decide) opens_compact
      (fun v hv => ⟨hitems v hv, h v hv⟩) hothers heq.2 with ⟨rfl, hrests⟩
    exact ⟨rfl, hrests⟩
  | _ => cases hkind

theorem definite_obj {members : List (LooseText × Json)} (hmembers : WellFormed (.obj members))
    (h : ∀ m ∈ members, WellFormedMember m ∧ Definite WellFormed compact m.2) :
    Definite WellFormed compact (.obj members) := by
  intro b rest rest' hb _ _ heq
  have hkind := kind_eq_of_append hmembers hb heq
  cases hb with
  | obj hnodup' hkeys' hvalues' =>
    rw [compact_obj, compact_obj, List.cons_append, List.cons_append, List.append_assoc,
      List.append_assoc, List.cons.injEq] at heq
    have hclose : EndsNumber ['}'] := ⟨rfl, by decide, by decide, by decide⟩
    rcases listing_append_inj hclose (by decide) opens_member
      (fun m hm => ⟨(h m hm).1, definite_member (h m hm).1.1 (h m hm).2⟩)
      (fun m hm => ⟨hkeys' m hm, hvalues' m hm⟩) heq.2 with ⟨rfl, hrests⟩
    exact ⟨rfl, hrests⟩
  | _ => cases hkind

theorem definite_compact (ha : WellFormed a) : Definite WellFormed compact a := by
  induction ha with
  | null => exact definite_null
  | bool c => exact definite_bool c
  | int n => exact definite_int n
  | real hx => exact definite_real hx
  | str hs => exact definite_str hs
  | arr hitems ih => exact definite_arr hitems ih
  | obj hnodup hkeys hvalues ih =>
    exact definite_obj (.obj hnodup hkeys hvalues) fun m hm =>
      ⟨⟨hkeys m hm, hvalues m hm⟩, ih m hm⟩

theorem compact_inj (ha : WellFormed a) (hb : WellFormed b) (h : compact a = compact b) :
    a = b := by
  have hends : EndsNumber [] := trivial
  have htext : compact a ++ [] = compact b ++ [] := by rw [h]
  exact (definite_compact ha hb hends hends htext).1

end Json

/-! The order of keys. -/

theorem Letter.listLe_iff (as bs : List Letter) :
    listLe as bs ↔ as.map codePoint ≤ bs.map codePoint := by
  induction as generalizing bs with
  | nil => cases bs <;> simp [listLe, le_iff_lt_or_eq]
  | cons a as ih =>
    cases bs with
    | nil => simp [listLe]
    | cons b bs =>
      simp only [listLe, Bool.or_eq_true, decide_eq_true_eq, Bool.and_eq_true, beq_iff_eq, ih,
        List.map_cons, le_iff_lt_or_eq, List.cons_lt_cons_iff, List.cons.injEq]
      tauto

theorem Letter.eq_of_codePoint {l m : Letter} (hl : l.Sound) (hm : m.Sound)
    (h : l.codePoint = m.codePoint) : l = m := by
  cases l with
  | char c =>
    cases m with
    | char d => rw [Char.toNat_inj.mp h]
    | half n =>
      have hsurrogate := Json.isSurrogate_toNat c
      rw [show c.toNat = n from h] at hsurrogate
      exact absurd hm (by rw [Letter.Sound, hsurrogate]; simp)
  | half n =>
    cases m with
    | char d =>
      have hsurrogate := Json.isSurrogate_toNat d
      rw [show d.toNat = n from h.symm] at hsurrogate
      exact absurd hl (by rw [Letter.Sound, hsurrogate]; simp)
    | half k => rw [show n = k from h]

namespace LooseText

variable {s t u : LooseText}

theorem total_le (s t : LooseText) : (s.le t || t.le s) = true := by
  rw [Bool.or_eq_true, le, le, Letter.listLe_iff, Letter.listLe_iff]
  exact le_total _ _

theorem trans_le (h : s.le t) (h' : t.le u) : s.le u := by
  rw [le, Letter.listLe_iff] at *
  exact h.trans h'

theorem eq_of_le (hs : s.Paired) (ht : t.Paired) (h : s.le t) (h' : t.le s) : s = t := by
  rw [le, Letter.listLe_iff] at h h'
  have hpoints := h.antisymm h'
  rcases s with ⟨ls⟩
  rcases t with ⟨ms⟩
  have hls : ∀ l ∈ ls, l.Sound := hs.sound
  have hms : ∀ m ∈ ms, m.Sound := ht.sound
  congr
  clear hs ht h h'
  induction ls generalizing ms with
  | nil => simpa using hpoints.symm
  | cons l ls ih =>
    cases ms with
    | nil => simp at hpoints
    | cons m ms =>
      rw [List.map_cons, List.map_cons, List.cons.injEq] at hpoints
      rw [List.forall_mem_cons] at hls hms
      rw [Letter.eq_of_codePoint hls.1 hms.1 hpoints.1, ih ms hpoints.2 hls.2 hms.2]

end LooseText

namespace Json

/-- Values that differ in the order of members alone, at every level. -/
inductive Alike : Json → Json → Prop where
  | null : Alike .null .null
  | bool (b : Bool) : Alike (.bool b) (.bool b)
  | int (n : Int) : Alike (.int n) (.int n)
  | real (x : Number.Real) : Alike (.real x) (.real x)
  | str (s : LooseText) : Alike (.str s) (.str s)
  | arr {items others : List Json} (hlength : items.length = others.length)
    (h : ∀ v w, (v, w) ∈ items.zip others → Alike v w) : Alike (.arr items) (.arr others)
  | obj {members others : List (LooseText × Json)}
    (hkeys : (members.map Prod.fst).Perm (others.map Prod.fst))
    (h : ∀ key v w, (key, v) ∈ members → (key, w) ∈ others → Alike v w) :
    Alike (.obj members) (.obj others)

variable {a b v : Json} {items others : List Json} {members : List (LooseText × Json)}

theorem sortedItems_eq (items : List Json) : sortedItems items = items.map sorted := by
  induction items with
  | nil => rfl
  | cons item items ih => rw [sortedItems, ih, List.map_cons]

theorem sortedMembers_eq (members : List (LooseText × Json)) :
    sortedMembers members = members.map sortedMember := by
  induction members with
  | nil => rfl
  | cons member members ih => rw [sortedMembers, ih, List.map_cons]

theorem sorted_arr (items : List Json) : sorted (.arr items) = .arr (items.map sorted) := by
  rw [sorted, sortedItems_eq]

theorem sorted_obj (members : List (LooseText × Json)) :
    sorted (.obj members) = .obj (sortMembers (members.map sortedMember)) := by
  rw [sorted, sortedMembers_eq]

theorem sortedMember_eq (m : LooseText × Json) : sortedMember m = (m.1, m.2.sorted) := by
  rcases m with ⟨key, value⟩
  rfl

theorem map_fst_sortedMember (members : List (LooseText × Json)) :
    (members.map sortedMember).map Prod.fst = members.map Prod.fst := by
  rw [List.map_map]
  exact List.map_congr_left fun m _ => by rw [Function.comp, sortedMember_eq]

theorem sortMembers_perm (members : List (LooseText × Json)) :
    (sortMembers members).Perm members :=
  List.mergeSort_perm _ _

theorem sortMembers_eq_iff {members others : List (LooseText × Json)}
    (hnodup : (members.map Prod.fst).Nodup) (hkeys : ∀ m ∈ members, m.1.Paired) :
    sortMembers members = sortMembers others ↔ members.Perm others := by
  constructor
  . intro h
    exact (sortMembers_perm members).symm.trans (h ▸ sortMembers_perm others)
  . intro h
    have htrans (m n k : LooseText × Json) : m.1.le n.1 → n.1.le k.1 → m.1.le k.1 :=
      LooseText.trans_le
    have htotal (m n : LooseText × Json) : (m.1.le n.1 || n.1.le m.1) = true :=
      LooseText.total_le m.1 n.1
    have hsorted (ms : List (LooseText × Json)) :
        (sortMembers ms).Pairwise fun m n => m.1.le n.1 :=
      List.pairwise_mergeSort htrans htotal ms
    refine List.Perm.eq_of_pairwise ?_ (hsorted members) (hsorted others)
      ((sortMembers_perm members).trans (h.trans (sortMembers_perm others).symm))
    intro m n hm hn hle hge
    have hm' := (sortMembers_perm members).mem_iff.mp hm
    have hn' := h.mem_iff.mpr ((sortMembers_perm others).mem_iff.mp hn)
    exact List.inj_on_of_nodup_map hnodup hm' hn'
      (LooseText.eq_of_le (hkeys m hm') (hkeys n hn') hle hge)

theorem WellFormed.sorted (h : WellFormed v) : WellFormed v.sorted := by
  induction h with
  | null => exact .null
  | bool b => exact .bool b
  | int n => exact .int n
  | real hx => exact .real hx
  | str hs => exact .str hs
  | arr _ ih =>
    rw [sorted_arr]
    exact .arr (List.forall_mem_map.mpr ih)
  | @obj members hnodup hkeys _ ih =>
    rw [sorted_obj]
    have hperm := sortMembers_perm (members.map sortedMember)
    have hall (p : LooseText × Json → Prop) (hp : ∀ m ∈ members, p (sortedMember m)) :
        ∀ m ∈ sortMembers (members.map sortedMember), p m := by
      intro m hm
      exact List.forall_mem_map.mpr hp m (hperm.mem_iff.mp hm)
    refine .obj ?_ (hall _ ?_) (hall _ ?_)
    . rw [(hperm.map _).nodup_iff, map_fst_sortedMember]
      exact hnodup
    . simpa only [sortedMember_eq] using hkeys
    . simpa only [sortedMember_eq] using ih

theorem eq_of_mem_members {key : LooseText} {v w : Json} (hnodup : (members.map Prod.fst).Nodup)
    (hv : (key, v) ∈ members) (hw : (key, w) ∈ members) : v = w :=
  congrArg Prod.snd (List.inj_on_of_nodup_map hnodup hv hw rfl)

theorem mem_sortedMembers {others : List (LooseText × Json)} {m : LooseText × Json}
    (hkeys : (members.map Prod.fst).Perm (others.map Prod.fst))
    (h : ∀ key v w, (key, v) ∈ members → (key, w) ∈ others → v.sorted = w.sorted)
    (hm : m ∈ members.map sortedMember) : m ∈ others.map sortedMember := by
  rcases List.mem_map.mp hm with ⟨⟨key, v⟩, hv, rfl⟩
  rcases List.mem_map.mp (hkeys.mem_iff.mp (List.mem_map_of_mem hv)) with ⟨⟨_, w⟩, hw, rfl⟩
  refine List.mem_map.mpr ⟨_, hw, ?_⟩
  rw [sortedMember_eq, sortedMember_eq, h _ v w hv hw]

theorem nodup_map_sortedMember (hnodup : (members.map Prod.fst).Nodup) :
    ((members.map sortedMember).map Prod.fst).Nodup := by
  rw [map_fst_sortedMember]
  exact hnodup

theorem paired_map_sortedMember (hkeys : ∀ m ∈ members, m.1.Paired) :
    ∀ m ∈ members.map sortedMember, m.1.Paired := by
  simpa only [List.forall_mem_map, sortedMember_eq] using hkeys

theorem map_sorted_eq_iff : items.map sorted = others.map sorted ↔
    items.length = others.length ∧ ∀ v w, (v, w) ∈ items.zip others → v.sorted = w.sorted := by
  rw [← List.forall₂_eq_eq_eq, List.forall₂_map_left_iff, List.forall₂_map_right_iff,
    List.forall₂_iff_zip]

theorem sorted_eq_of_alike (hab : Alike a b) (ha : WellFormed a) (hb : WellFormed b) :
    a.sorted = b.sorted := by
  induction hab with
  | null | bool | int | real | str => rfl
  | @arr items others hlength _ ih =>
    rcases ha with _ | _ | _ | _ | _ | hitems | _
    rcases hb with _ | _ | _ | _ | _ | hothers | _
    rw [sorted_arr, sorted_arr, Json.arr.injEq, map_sorted_eq_iff]
    refine ⟨hlength, fun v w hzip => ih v w hzip ?_ ?_⟩
    . exact hitems v (List.of_mem_zip hzip).1
    . exact hothers w (List.of_mem_zip hzip).2
  | @obj members others hkeys _ ih =>
    rcases ha with _ | _ | _ | _ | _ | _ | ⟨hnodup, hpaired, hvalues⟩
    rcases hb with _ | _ | _ | _ | _ | _ | ⟨hnodup', hpaired', hvalues'⟩
    have hsame (key : LooseText) (v w : Json) (hv : (key, v) ∈ members) (hw : (key, w) ∈ others) :
        v.sorted = w.sorted :=
      ih key v w hv hw (hvalues _ hv) (hvalues' _ hw)
    -- As no key is repeated, it is enough that the sorted values have the same members.
    rw [sorted_obj, sorted_obj, Json.obj.injEq,
      sortMembers_eq_iff (nodup_map_sortedMember hnodup) (paired_map_sortedMember hpaired),
      List.perm_ext_iff_of_nodup (nodup_map_sortedMember hnodup).of_map
        (nodup_map_sortedMember hnodup').of_map]
    intro m
    exact ⟨mem_sortedMembers hkeys hsame, mem_sortedMembers hkeys.symm fun key w v hw hv =>
      (hsame key v w hv hw).symm⟩

theorem kind_sorted (v : Json) : v.sorted.kind = v.kind := by
  cases v with
  | arr items => rw [sorted_arr]; rfl
  | obj members => rw [sorted_obj]; rfl
  | _ => rfl

theorem kind_eq_of_sorted (h : a.sorted = b.sorted) : a.kind = b.kind := by
  rw [← kind_sorted, h, kind_sorted]

theorem alike_of_sorted_eq (ha : WellFormed a) (hb : WellFormed b) (h : a.sorted = b.sorted) :
    Alike a b := by
  induction ha generalizing b with
  | null =>
    have hkind := kind_eq_of_sorted h
    cases hb <;> cases hkind
    exact .null
  | bool c =>
    have hkind := kind_eq_of_sorted h
    cases hb <;> cases hkind
    exact .bool c
  | int n =>
    have hkind := kind_eq_of_sorted h
    cases hb <;> cases hkind <;> cases h
    exact .int n
  | real hx =>
    have hkind := kind_eq_of_sorted h
    cases hb <;> cases hkind <;> cases h
    exact .real _
  | str hs =>
    have hkind := kind_eq_of_sorted h
    cases hb <;> cases hkind
    cases h
    exact .str _
  | arr hitems ih =>
    have hkind := kind_eq_of_sorted h
    cases hb with
    | arr hothers =>
      rw [sorted_arr, sorted_arr, Json.arr.injEq, map_sorted_eq_iff] at h
      refine .arr h.1 fun v w hzip => ih v ?_ ?_ (h.2 v w hzip)
      . exact (List.of_mem_zip hzip).1
      . exact hothers w (List.of_mem_zip hzip).2
    | _ => cases hkind
  | @obj members hnodup hkeys hvalues ih =>
    have hkind := kind_eq_of_sorted h
    cases hb with
    | obj hnodup' hkeys' hvalues' =>
      rw [sorted_obj, sorted_obj, Json.obj.injEq,
        sortMembers_eq_iff (nodup_map_sortedMember hnodup) (paired_map_sortedMember hkeys)] at h
      have hperm := h.map Prod.fst
      rw [map_fst_sortedMember, map_fst_sortedMember] at hperm
      refine .obj hperm fun key v w hv hw => ?_
      rcases List.mem_map.mp (h.mem_iff.mp (List.mem_map_of_mem hv)) with ⟨⟨key', u⟩, hu, heq⟩
      rw [sortedMember_eq, sortedMember_eq, Prod.mk.injEq] at heq
      rcases heq with ⟨rfl, hsorted⟩
      rw [eq_of_mem_members hnodup' hu hw] at hsorted
      exact ih (key', v) hv (hvalues' _ hw) hsorted.symm
    | _ => cases hkind

theorem canonicalText_eq_iff (ha : WellFormed a) (hb : WellFormed b) :
    a.canonicalText = b.canonicalText ↔ Alike a b := by
  rw [canonicalText, canonicalText, String.ofList_inj]
  constructor
  . intro h
    exact alike_of_sorted_eq ha hb (compact_inj ha.sorted hb.sorted h)
  . intro h
    rw [sorted_eq_of_alike h ha hb]

/-! Digests. -/

def shortDigest (text : String) : String :=
  String.ofList ((Digest.sha256 text.toUTF8.toList).toList.take fingerprintSize)

/-- Different texts that the beginnings of their digests do not tell apart. -/
def Collide (s t : String) : Prop :=
  s ≠ t ∧ shortDigest s = shortDigest t

theorem fingerprint_eq_iff (ha : WellFormed a) (hb : WellFormed b) :
    a.fingerprint = b.fingerprint ↔ Alike a b ∨ Collide a.canonicalText b.canonicalText := by
  rw [← canonicalText_eq_iff ha hb]
  change shortDigest a.canonicalText = shortDigest b.canonicalText ↔ _
  constructor
  . intro h
    by_cases htexts : a.canonicalText = b.canonicalText
    . exact .inl htexts
    . exact .inr ⟨htexts, h⟩
  . rintro (h | h)
    . rw [h]
    . exact h.2

theorem wellFormed_ofStrings (texts : List String) : WellFormed (ofStrings texts) := by
  refine .arr (List.forall_mem_map.mpr fun text _ => ?_)
  exact .str (LooseText.paired_ofString text)

theorem ofString_inj {s t : String} (h : LooseText.ofString s = LooseText.ofString t) : s = t := by
  have hstring := LooseText.string?_ofString s
  rw [h, LooseText.string?_ofString] at hstring
  exact (Option.some.inj hstring).symm

theorem alike_ofStrings_iff {xs ys : List String} :
    Alike (ofStrings xs) (ofStrings ys) ↔ xs = ys := by
  rw [← canonicalText_eq_iff (wellFormed_ofStrings xs) (wellFormed_ofStrings ys), canonicalText,
    canonicalText, String.ofList_inj]
  have hsorted (zs : List String) : (ofStrings zs).sorted = ofStrings zs := by
    rw [ofStrings, sorted_arr, List.map_map]
    rfl
  rw [hsorted, hsorted]
  constructor
  . intro h
    have hsame := compact_inj (wellFormed_ofStrings xs) (wellFormed_ofStrings ys) h
    rw [ofStrings, ofStrings, Json.arr.injEq] at hsame
    exact List.map_injective_iff.mpr (fun s t hst => ofString_inj (Json.str.inj hst)) hsame
  . intro h
    rw [h]

end Json

end QueryLinker
