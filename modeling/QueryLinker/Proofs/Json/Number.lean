import QueryLinker.Json.Printer
import QueryLinker.Json.Reader
import QueryLinker.Proofs.Number.Binary64

/-!
This module contains that numbers in JSON texts are read as the numbers that were written. A number
is a sign, digits, a fraction and an exponent, of which the parts that are missing are empty.
-/

namespace QueryLinker.Json

open Number

def EndsNumber : List Char → Prop
  | [] => True
  | c :: _ => c.isDigit = false ∧ c ≠ '.' ∧ c ≠ 'e' ∧ c ≠ 'E'

def signChars (negative : Bool) : List Char :=
  if negative then ['-'] else []

def fractionChars (fraction : List Char) : List Char :=
  if fraction = [] then [] else '.' :: fraction

def exponentChars : Option (Bool × List Char) → List Char
  | none => []
  | some (negative, ds) => 'e' :: (if negative then '-' else '+') :: ds

structure Whole (whole : List Char) : Prop where
  digits : whole.all Char.isDigit
  head : whole = ['0'] ∨ ∃ c cs, whole = c :: cs ∧ c ≠ '0'

variable {whole fraction rest : List Char} {exponent? : Option (Bool × List Char)}

theorem takeWhile_append {p : Char → Bool} {ds : List Char} (hds : ds.all p)
    (hrest : rest.head?.all fun c => !p c) :
    (ds ++ rest).takeWhile p = ds ∧ (ds ++ rest).dropWhile p = rest := by
  have hall : ∀ c ∈ ds, p c := List.all_eq_true.mp hds
  rw [List.takeWhile_append_of_pos hall, List.dropWhile_append_of_pos hall]
  cases rest with
  | nil => simp
  | cons c cs =>
    have hc : p c = false := by simpa using hrest
    simp [hc]

theorem digits_append {ds : List Char} (hds : ds.all Char.isDigit)
    (hrest : rest.head?.all fun c => !c.isDigit) :
    (ds ++ rest).takeWhile Char.isDigit = ds ∧ (ds ++ rest).dropWhile Char.isDigit = rest :=
  takeWhile_append hds hrest

theorem EndsNumber.head? (h : EndsNumber rest) : rest.head?.all fun c => !c.isDigit := by
  cases rest with
  | nil => rfl
  | cons c cs => simp [h.1]

theorem exponentPart?_chars {negative : Bool} {ds : List Char} (hds : ds.all Char.isDigit)
    (hne : ds ≠ []) (hrest : EndsNumber rest) :
    exponentPart? ((if negative then '-' else '+') :: (ds ++ rest)) =
      some (if negative then -(digitsValue ds : Int) else digitsValue ds, rest) := by
  rcases digits_append hds hrest.head? with ⟨htake, hdrop⟩
  rcases List.exists_cons_of_ne_nil hne with ⟨d, later, heq⟩
  cases negative with
  | true =>
    simp only [exponentPart?, if_true, htake, hdrop]
  | false =>
    simp only [exponentPart?, Bool.false_eq_true, if_false, htake, hdrop]

theorem exponentChars_head (h : EndsNumber rest) :
    (exponentChars exponent? ++ rest).head?.all fun c => !c.isDigit := by
  cases exponent? with
  | none => exact h.head?
  | some _ => rfl

theorem tail_head (hrest : EndsNumber rest) :
    (fractionChars fraction ++ (exponentChars exponent? ++ rest)).head?.all
      fun c => !c.isDigit := by
  unfold fractionChars
  split
  . exact exponentChars_head hrest
  . rfl

def numberValue (negative : Bool) (whole fraction : List Char) :
    Option (Bool × List Char) → Json
  | some (below, ds) =>
    .real (.ofDecimal negative (digitsValue (whole ++ fraction))
      ((if below then -(digitsValue ds : Int) else digitsValue ds) - fraction.length))
  | none =>
    if fraction = [] then .int (if negative then -(digitsValue whole : Int) else digitsValue whole)
    else .real (.ofDecimal negative (digitsValue (whole ++ fraction)) (0 - fraction.length))

theorem splitMinus_chars {negative : Bool} {cs : List Char} (hcs : cs.head? ≠ some '-') :
    splitMinus (signChars negative ++ cs) = (negative, cs) := by
  cases negative with
  | true => rfl
  | false =>
    change splitMinus cs = _
    unfold splitMinus
    split
    . exact absurd rfl hcs
    . rfl

theorem wholePart?_chars (hwhole : Whole whole) (hrest : rest.head?.all fun c => !c.isDigit) :
    wholePart? (whole ++ rest) = some whole := by
  have htake := (digits_append hwhole.digits hrest).1
  rcases hwhole.head with rfl | ⟨c, cs, rfl, hc⟩
  . rfl
  . unfold wholePart?
    split
    next heq =>
      cases heq
      exact absurd rfl hc
    next => rw [htake]

theorem fractionPart_chars (hfraction : fraction.all Char.isDigit)
    (hrest : rest.head?.all fun c => !c.isDigit && c != '.') :
    fractionPart (fractionChars fraction ++ rest) = (fraction, rest) := by
  have hhead : rest.head?.all fun c => !c.isDigit := by
    cases rest with
    | nil => rfl
    | cons c cs =>
      simp at hrest
      simp [hrest.1]
  cases fraction with
  | nil =>
    change fractionPart rest = _
    unfold fractionPart
    split
    . simp at hrest
    . rfl
  | cons d ds =>
    rcases digits_append hfraction hhead with ⟨htake, hdrop⟩
    have hd : d.isDigit := by
      simp at hfraction
      exact hfraction.1
    change fractionPart ('.' :: d :: (ds ++ rest)) = _
    rw [fractionPart, if_pos hd]
    exact Prod.ext htake hdrop

theorem exponent?_chars (hexponent : ∀ x ∈ exponent?, x.2.all Char.isDigit ∧ x.2 ≠ [])
    (hrest : EndsNumber rest) :
    Json.exponent? (exponentChars exponent? ++ rest) = exponent?.map fun x =>
      ((if x.1 then -(digitsValue x.2 : Int) else digitsValue x.2), rest) := by
  cases exponent? with
  | some x =>
    rcases hexponent x rfl with ⟨hds, hne⟩
    exact exponentPart?_chars hds hne hrest
  | none =>
    change Json.exponent? rest = none
    unfold Json.exponent?
    split
    . exact absurd rfl hrest.2.2.1
    . exact absurd rfl hrest.2.2.2
    . rfl

theorem readNumber_chars (start : Nat) (negative : Bool)
    (exponent? : Option (Bool × List Char)) (hwhole : Whole whole)
    (hlength : exponent? = none → fraction = [] → whole.length ≤ maxIntegerDigits)
    (hfraction : fraction.all Char.isDigit)
    (hexponent : ∀ x ∈ exponent?, x.2.all Char.isDigit ∧ x.2 ≠ []) (hrest : EndsNumber rest) :
    ∃ offset, readNumber start (signChars negative ++ (whole ++ (fractionChars fraction ++
      (exponentChars exponent? ++ rest)))) =
      .ok ⟨numberValue negative whole fraction exponent?, rest, offset⟩ := by
  have hdash : (whole ++ (fractionChars fraction ++ (exponentChars exponent? ++ rest))).head? ≠
      some '-' := by
    intro h
    rcases hwhole.head with rfl | ⟨c, later, rfl, _⟩
    . cases h
    . cases h
      have := hwhole.digits
      simp at this
  have hhead : (exponentChars exponent? ++ rest).head?.all fun c => !c.isDigit && c != '.' := by
    cases exponent? with
    | some _ => rfl
    | none =>
      cases rest with
      | nil => rfl
      | cons c cs => simp [exponentChars, hrest.1, hrest.2.1]
  unfold readNumber
  rw [splitMinus_chars hdash]
  dsimp only
  rw [wholePart?_chars hwhole (tail_head hrest)]
  dsimp only
  rw [List.drop_left, fractionPart_chars hfraction hhead]
  dsimp only
  rw [exponent?_chars hexponent hrest]
  cases exponent? with
  | some x => cases fraction <;> exact ⟨_, rfl⟩
  | none =>
    dsimp only [Option.map_none, exponentChars, List.nil_append]
    cases fraction with
    | nil =>
      dsimp only
      rw [if_neg (Nat.not_lt.mpr (hlength rfl rfl))]
      exact ⟨_, rfl⟩
    | cons d ds => exact ⟨_, rfl⟩

theorem digitsValue_eq (cs : List Char) : digitsValue cs = Nat.ofDigitChars 10 cs 0 := by
  unfold digitsValue Nat.ofDigitChars
  congr 1
  funext n c
  rw [Nat.mul_comm]
  rfl

theorem digitsValue_append (cs ds : List Char) :
    digitsValue (cs ++ ds) = digitsValue cs * 10 ^ ds.length + digitsValue ds := by
  rw [digitsValue_eq, digitsValue_eq, digitsValue_eq, Nat.ofDigitChars_append,
    Nat.ofDigitChars_eq_ofDigitChars_zero, Nat.mul_comm]

theorem digitsValue_toDigits (n : Nat) : digitsValue (Nat.toDigits 10 n) = n := by
  rw [digitsValue_eq, Nat.ofDigitChars_ten_toDigits]

theorem digitsValue_zeros (n : Nat) : digitsValue (List.replicate n '0') = 0 := by
  rw [digitsValue_eq, Nat.ofDigitChars_replicate_zero, Nat.mul_zero]

theorem isDigit_toDigits (n : Nat) : (Nat.toDigits 10 n).all Char.isDigit :=
  List.all_eq_true.mpr fun _ hc => Nat.isDigit_of_mem_toDigits (by omega) (by omega) hc

theorem isDigit_zeros (n : Nat) : (List.replicate n '0').all Char.isDigit := by
  simp

theorem exists_toDigits {n : Nat} (hn : 0 < n) :
    ∃ c cs, Nat.toDigits 10 n = c :: cs ∧ c ≠ '0' := by
  induction n using Nat.strongRecOn with
  | ind n ih =>
    rw [Nat.toDigits_eq_if (by omega)]
    split
    next hlt =>
      exact ⟨_, [], rfl, by simp; omega⟩
    next hge =>
      rcases ih (n / 10) (by omega) (by omega) with ⟨c, cs, heq, hc⟩
      rw [heq]
      exact ⟨c, _, rfl, hc⟩

theorem whole_toDigits (n : Nat) : Whole (Nat.toDigits 10 n) where
  digits := isDigit_toDigits n
  head := by
    rcases Nat.eq_zero_or_pos n with rfl | hn
    . exact .inl (Nat.toDigits_zero 10)
    . exact .inr (exists_toDigits hn)

def Spells (text : List Char) (d : Decimal) : Prop :=
  ∃ whole fraction, ∃ exponent? : Option (Bool × List Char),
    text = whole ++ (fractionChars fraction ++ exponentChars exponent?) ∧ Whole whole ∧
    fraction.all Char.isDigit ∧ (∀ x ∈ exponent?, x.2.all Char.isDigit ∧ x.2 ≠ []) ∧
    (exponent? = none → fraction ≠ []) ∧
    Decimal.value ⟨digitsValue (whole ++ fraction), (exponent?.elim 0 fun x =>
      if x.1 then -(digitsValue x.2 : Int) else digitsValue x.2) - fraction.length⟩ = d.value

theorem digitsValue_zeros_append (n : Nat) (ds : List Char) :
    digitsValue (List.replicate n '0' ++ ds) = digitsValue ds := by
  rw [digitsValue_append, digitsValue_zeros, Nat.zero_mul, Nat.zero_add]

theorem spells_small {d : Decimal} {k : Nat}
    (h : (Nat.toDigits 10 d.digits).length + d.exponent = -(k : Int)) :
    Spells ('0' :: '.' :: (List.replicate k '0' ++ Nat.toDigits 10 d.digits)) d := by
  have hne : List.replicate k '0' ++ Nat.toDigits 10 d.digits ≠ [] := by simp
  refine ⟨['0'], List.replicate k '0' ++ Nat.toDigits 10 d.digits, none, ?_,
    ⟨rfl, .inl rfl⟩, ?_, by simp, fun _ => hne, ?_⟩
  . rw [fractionChars, if_neg hne, exponentChars, List.append_nil]
    rfl
  . rw [List.all_append, isDigit_zeros, isDigit_toDigits]
    rfl
  . have hvalue : digitsValue (['0'] ++ (List.replicate k '0' ++ Nat.toDigits 10 d.digits)) =
        d.digits := by
      rw [digitsValue_append, digitsValue_zeros_append, digitsValue_toDigits,
        show digitsValue ['0'] = 0 from rfl, Nat.zero_mul, Nat.zero_add]
    rw [hvalue, List.length_append, List.length_replicate, Option.elim_none]
    congr 2
    omega

theorem spells_large {d : Decimal} {k : Nat} (hd : 0 < d.digits) (h : d.exponent = k) :
    Spells (Nat.toDigits 10 d.digits ++ List.replicate k '0' ++ ['.', '0']) d := by
  rcases exists_toDigits hd with ⟨c, cs, hdigits, hc⟩
  refine ⟨Nat.toDigits 10 d.digits ++ List.replicate k '0', ['0'], none, ?_, ⟨?_, .inr ?_⟩,
    rfl, by simp, by simp, ?_⟩
  . simp [fractionChars, exponentChars]
  . rw [List.all_append, isDigit_zeros, isDigit_toDigits]
    rfl
  . rw [hdigits]
    exact ⟨c, _, rfl, hc⟩
  . rw [digitsValue_append, digitsValue_append, digitsValue_zeros, digitsValue_toDigits,
      List.length_replicate, Option.elim_none]
    unfold Decimal.value
    rw [h]
    have hone : digitsValue ['0'] = 0 := rfl
    rw [hone]
    push_cast
    norm_num
    ring

theorem spells_between {d : Decimal} {k : Nat} (hd : 0 < d.digits) (hk : 0 < k)
    (hlt : k < (Nat.toDigits 10 d.digits).length)
    (h : (Nat.toDigits 10 d.digits).length + d.exponent = k) :
    Spells ((Nat.toDigits 10 d.digits).take k ++
      '.' :: (Nat.toDigits 10 d.digits).drop k) d := by
  rcases exists_toDigits hd with ⟨c, cs, hdigits, hc⟩
  have hall := isDigit_toDigits d.digits
  have hne : (Nat.toDigits 10 d.digits).drop k ≠ [] := by
    rw [Ne, List.drop_eq_nil_iff]
    omega
  rw [← List.take_append_drop k (Nat.toDigits 10 d.digits), List.all_append,
    Bool.and_eq_true] at hall
  refine ⟨(Nat.toDigits 10 d.digits).take k, (Nat.toDigits 10 d.digits).drop k, none, ?_,
    ⟨hall.1, .inr ?_⟩, hall.2, by simp, fun _ => hne, ?_⟩
  . rw [fractionChars, if_neg hne, exponentChars, List.append_nil]
  . rcases Nat.exists_eq_add_of_lt hk with ⟨j, rfl⟩
    rw [hdigits]
    exact ⟨c, _, rfl, hc⟩
  . rw [List.take_append_drop, digitsValue_toDigits, List.length_drop, Option.elim_none]
    congr 2
    omega

theorem spells_exponent {d : Decimal} {c : Char} {cs ds : List Char} (below : Bool)
    (hdigits : Nat.toDigits 10 d.digits = c :: cs) (hc : c ≠ '0')
    (hds : ds.all Char.isDigit) (hne : ds ≠ [])
    (h : (cs.length : Int) + d.exponent =
      if below then -(digitsValue ds : Int) else digitsValue ds) :
    Spells (c :: (fractionChars cs ++ 'e' :: (if below then '-' else '+') :: ds)) d := by
  have hall := isDigit_toDigits d.digits
  rw [hdigits, List.all_cons, Bool.and_eq_true] at hall
  refine ⟨[c], cs, some (below, ds), rfl, ⟨by simp [hall.1], .inr ⟨c, [], rfl, hc⟩⟩, hall.2,
    ?_, by simp, ?_⟩
  . rintro x hx
    cases hx
    exact ⟨hds, hne⟩
  . have hvalue : digitsValue ([c] ++ cs) = d.digits := by
      rw [List.singleton_append, ← hdigits, digitsValue_toDigits]
    rw [hvalue, Option.elim_some]
    dsimp only
    rw [← h, add_sub_cancel_left]

theorem exponentText_toList (width : Nat) (e : Int) :
    ∃ ds, (Real.exponentText width e).toList = (if decide (e < 0) then '-' else '+') :: ds ∧
      ds.all Char.isDigit ∧ ds ≠ [] ∧ digitsValue ds = e.natAbs := by
  refine ⟨List.replicate (width - (Nat.toDigits 10 e.natAbs).length) '0' ++
    Nat.toDigits 10 e.natAbs, ?_, ?_, ?_, ?_⟩
  . unfold Real.exponentText
    simp only [String.toList_ofList, decide_eq_true_eq]
  . rw [List.all_append, isDigit_zeros, isDigit_toDigits]
    rfl
  . simp
  . rw [digitsValue_zeros_append, digitsValue_toDigits]

theorem spells_decimalText {d : Decimal} (hd : 0 < d.digits) :
    Spells (Real.decimalText Real.jsonLayout d).toList d := by
  have hlength : 0 < (Nat.toDigits 10 d.digits).length := Nat.length_toDigits_pos
  unfold Real.decimalText
  dsimp only
  rw [if_neg hd.ne']
  split
  next hrange =>
    split
    next hle =>
      rw [String.toList_append, String.toList_ofList, String.toList_ofList, List.cons_append,
        List.cons_append, List.nil_append]
      exact spells_small (by omega)
    next hgt =>
      split
      next hlong =>
        rw [String.toList_append, String.toList_ofList]
        exact spells_large hd (by omega)
      next hshort =>
        simp only [String.toList_append, String.toList_ofList, List.append_assoc]
        change Spells (_ ++ '.' :: _) d
        exact spells_between hd (by omega) (by omega) (by omega)
  next =>
    rcases exists_toDigits hd with ⟨c, cs, hdigits, hc⟩
    rcases exponentText_toList Real.jsonLayout.exponentDigits
      ((Nat.toDigits 10 d.digits).length + d.exponent - 1) with ⟨ds, htext, hds, hne, hvalue⟩
    have hspells := spells_exponent (d := d)
      (decide (((Nat.toDigits 10 d.digits).length : Int) + d.exponent - 1 < 0))
      hdigits hc hds hne (by
        rw [hvalue, hdigits, List.length_cons]
        split <;> rename_i h <;> simp at h <;> omega)
    rw [String.toList_append, String.toList_append, htext]
    cases cs <;> simpa [hdigits, fractionChars] using hspells

theorem readNumber_spells (start : Nat) (negative : Bool) {text : List Char} {d : Decimal}
    (h : Spells text d) (hrest : EndsNumber rest) :
    ∃ offset, ∃ e : Decimal, e.value = d.value ∧
      readNumber start (signChars negative ++ (text ++ rest)) =
        .ok ⟨.real (.ofDecimal negative e.digits e.exponent), rest, offset⟩ := by
  rcases h with ⟨whole, fraction, exponent?, rfl, hwhole, hfraction, hexponent, hne, hvalue⟩
  rcases readNumber_chars start negative exponent? hwhole
    (fun hnone hempty => absurd hempty (hne hnone)) hfraction hexponent hrest with ⟨offset, hread⟩
  refine ⟨offset, _, hvalue, ?_⟩
  rw [List.append_assoc, List.append_assoc, hread]
  cases exponent? with
  | none => rw [numberValue, if_neg (hne rfl), Option.elim_none]
  | some x => rfl

theorem pos_shortest {y : Binary64} (hy : y.Canonical) : 0 < y.shortest.stripZeros.digits := by
  by_contra hzero
  have hnear := Binary64.near_shortest hy
  rw [← Decimal.value_stripZeros, Decimal.value, Nat.eq_zero_of_not_pos hzero, Nat.cast_zero,
    zero_mul] at hnear
  exact absurd (hy.bounds hnear).1 (not_le.mpr (by positivity))

theorem readNumber_finite (start : Nat) (negative : Bool) {y : Binary64} (hy : y.Canonical)
    (hrest : EndsNumber rest) :
    ∃ offset, readNumber start (signChars negative ++
      ((Real.decimalText Real.jsonLayout y.shortest.stripZeros).toList ++ rest)) =
        .ok ⟨.real (.finite negative y.shortest.stripZeros), rest, offset⟩ := by
  have hvalue := Decimal.value_stripZeros y.shortest
  rcases readNumber_spells start negative (spells_decimalText (pos_shortest hy)) hrest with
    ⟨offset, e, he, hread⟩
  exact ⟨offset, hread.trans (by rw [Real.ofDecimal_shortest hy negative (he.trans hvalue)])⟩

theorem readNumber_zero (start : Nat) (negative : Bool) (hrest : EndsNumber rest) :
    ∃ offset, readNumber start (signChars negative ++
      ((Real.decimalText Real.jsonLayout ⟨0, 0⟩).toList ++ rest)) =
        .ok ⟨.real (.finite negative ⟨0, 0⟩), rest, offset⟩ := by
  have hzero : Whole ['0'] := ⟨rfl, .inl rfl⟩
  have hdigits : ['0'].all Char.isDigit := rfl
  rcases readNumber_chars start negative none hzero (by simp) hdigits (by simp) hrest with
    ⟨offset, hread⟩
  exact ⟨offset, hread⟩

theorem toString_int (n : Int) :
    (toString n).toList = signChars (decide (n < 0)) ++ Nat.toDigits 10 n.natAbs := by
  rw [Int.toString_eq_repr, Int.repr_eq_if]
  split
  next hpos =>
    rw [Nat.toList_repr, decide_eq_false (by omega), show n.toNat = n.natAbs by omega]
    rfl
  next hneg =>
    rw [String.toList_append, Nat.toList_repr, decide_eq_true (by omega),
      show (-n).toNat = n.natAbs by omega]
    rfl

theorem readNumber_int (start : Nat) {n : Int}
    (hn : (Nat.toDigits 10 n.natAbs).length ≤ maxIntegerDigits) (hrest : EndsNumber rest) :
    ∃ offset, readNumber start ((toString n).toList ++ rest) = .ok ⟨.int n, rest, offset⟩ := by
  have hempty : ([] : List Char).all Char.isDigit := rfl
  rcases readNumber_chars start (decide (n < 0)) none (whole_toDigits n.natAbs) (fun _ _ => hn)
    hempty (by simp) hrest with ⟨offset, hread⟩
  refine ⟨offset, ?_⟩
  rw [toString_int, List.append_assoc]
  refine hread.trans ?_
  rw [numberValue, if_pos rfl, digitsValue_toDigits]
  congr 3
  split <;> rename_i h <;> simp at h <;> omega

end QueryLinker.Json
