import QueryLinker.Proofs.Json.Number
import QueryLinker.Time.Timestamp

/-!
This module contains that times of the calendar in universal time are read from the text that they
are written as.
-/

namespace QueryLinker.Timestamp

open Json (digitsValue digitsValue_append digitsValue_toDigits digitsValue_zeros_append
  isDigit_toDigits isDigit_zeros)

structure Utc (t : Timestamp) : Prop where
  date : checkDate t.year t.month t.day = .ok ()
  clock : checkClock t.hour t.minute t.second = .ok ()
  micros : t.micros < 1000000
  offset? : t.offset? = some 0

theorem Utc.year_lt {t : Timestamp} (h : t.Utc) : t.year < 10000 := by
  have hdate := h.date
  unfold checkDate at hdate
  split at hdate
  . cases hdate
  next hyear =>
    simp at hyear
    omega

theorem Utc.month_lt {t : Timestamp} (h : t.Utc) : t.month < 100 := by
  have hdate := h.date
  unfold checkDate at hdate
  repeat' split at hdate
  all_goals
    first
    | cases hdate; done
    | rename_i hmonth _
      simp at hmonth
      omega

theorem Utc.day_lt {t : Timestamp} (h : t.Utc) : t.day < 100 := by
  have hdate := h.date
  have hdays : daysInMonth t.year t.month ≤ 31 := by
    unfold daysInMonth
    repeat' split
    all_goals omega
  unfold checkDate at hdate
  repeat' split at hdate
  all_goals
    first
    | cases hdate; done
    | rename_i hday
      simp at hday
      omega

theorem Utc.clock_lt {t : Timestamp} (h : t.Utc) :
    t.hour < 100 ∧ t.minute < 100 ∧ t.second < 100 := by
  have hclock := h.clock
  unfold checkClock at hclock
  repeat' split at hclock
  all_goals
    first
    | cases hclock; done
    | omega

theorem padded_spec {width n : Nat} (hwidth : 0 < width) (hn : n < 10 ^ width) :
    (padded width n).toList.length = width ∧ (padded width n).toList.all Char.isDigit ∧
      digitsValue (padded width n).toList = n := by
  have hlength : (Nat.toDigits 10 n).length ≤ width :=
    (Nat.length_toDigits_le_iff (by omega) hwidth).mpr hn
  have htext : (padded width n).toList =
      List.replicate (width - (Nat.toDigits 10 n).length) '0' ++ Nat.toDigits 10 n := by
    unfold padded
    simp [← String.length_toList, Nat.toList_repr]
  rw [htext]
  refine ⟨?_, ?_, ?_⟩
  . rw [List.length_append, List.length_replicate]
    omega
  . rw [List.all_append, isDigit_zeros, isDigit_toDigits]
    rfl
  . rw [digitsValue_zeros_append, digitsValue_toDigits]

theorem digits_append {ds : List Char} (h : ds.all Char.isDigit) (value : Nat) (rest : List Char) :
    digits ds.length value (ds ++ rest) = some (value * 10 ^ ds.length + digitsValue ds, rest) := by
  induction ds generalizing value with
  | nil => simp [digits, digitsValue]
  | cons d ds ih =>
    rw [List.all_cons, Bool.and_eq_true] at h
    have hvalue := digitsValue_append [d] ds
    rw [List.singleton_append] at hvalue
    rw [List.length_cons, List.cons_append, digits, if_pos h.1, ih h.2, hvalue]
    have hd : digitsValue [d] = d.toNat - '0'.toNat := by
      simp [digitsValue]
    rw [hd, pow_succ]
    congr 2
    ring

theorem digits_padded {width n : Nat} (hwidth : 0 < width) (hn : n < 10 ^ width)
    (rest : List Char) : digits width 0 ((padded width n).toList ++ rest) = some (n, rest) := by
  rcases padded_spec hwidth hn with ⟨hlength, hdigits, hvalue⟩
  have h := digits_append hdigits 0 rest
  rw [hlength, hvalue, Nat.zero_mul, Nat.zero_add] at h
  exact h

theorem padded_two {n : Nat} (hn : n < 100) :
    ∃ a b, (padded 2 n).toList = [a, b] ∧ a.isDigit ∧ b.isDigit ∧
      ∀ rest, digits 2 0 (a :: b :: rest) = some (n, rest) := by
  rcases padded_spec (show 0 < 2 by omega) hn with ⟨hlength, hdigits, -⟩
  have hread := digits_padded (show 0 < 2 by omega) hn
  generalize (padded 2 n).toList = cs at *
  match cs, hlength with
  | [a, b], _ =>
    simp at hdigits
    exact ⟨a, b, rfl, hdigits.1, hdigits.2, hread⟩

theorem padded_four {n : Nat} (hn : n < 10000) :
    ∃ a b c d, (padded 4 n).toList = [a, b, c, d] ∧
      ∀ rest, digits 4 0 (a :: b :: c :: d :: rest) = some (n, rest) := by
  have hlength := (padded_spec (show 0 < 4 by omega) hn).1
  have hread := digits_padded (show 0 < 4 by omega) hn
  generalize (padded 4 n).toList = cs at *
  match cs, hlength with
  | [a, b, c, d], _ => exact ⟨a, b, c, d, rfl, hread⟩

theorem readDate_written {a b c d m m' e e' : Char} {year month day : Nat}
    (hyear : ∀ rest, digits 4 0 (a :: b :: c :: d :: rest) = some (year, rest))
    (hm : m.isDigit) (hmonth : ∀ rest, digits 2 0 (m :: m' :: rest) = some (month, rest))
    (hday : ∀ rest, digits 2 0 (e :: e' :: rest) = some (day, rest)) :
    readDate [a, b, c, d, '-', m, m', '-', e, e'] = some (year, month, day) := by
  have hne : m ≠ 'W' := by
    rintro rfl
    simp at hm
  unfold readDate
  rw [hyear]
  simp [hne, hmonth, hday]

theorem dateSize_written {a b c d m m' e e' : Char} {rest : List Char} (hm : m.isDigit) :
    dateSize (a :: b :: c :: d :: '-' :: m :: m' :: '-' :: e :: e' :: rest) = some 10 := by
  have hne : m ≠ 'W' := by
    rintro rfl
    simp at hm
  unfold dateSize
  simp [hne]

theorem clockOf_written {h h' i i' s s' : Char} {hour minute second micros : Nat}
    (hhour : ∀ rest, digits 2 0 (h :: h' :: rest) = some (hour, rest))
    (hminute : ∀ rest, digits 2 0 (i :: i' :: rest) = some (minute, rest))
    (hsecond : ∀ rest, digits 2 0 (s :: s' :: rest) = some (second, rest))
    (hmicros : micros < 1000000) :
    clockOf (h :: h' :: ':' :: i :: i' :: ':' :: s :: s' :: (fractionText micros).toList) =
      some ⟨[hour, minute, second], micros, false⟩ := by
  unfold fractionText
  split
  next hzero =>
    simp [clockOf, readClock, hhour, hminute, hsecond, hzero]
  next =>
    rcases padded_spec (show 0 < 6 by omega) hmicros with ⟨hlength, -, -⟩
    have hread := digits_padded (show 0 < 6 by omega) hmicros []
    rw [List.append_nil] at hread
    have hne : (padded 6 micros).toList ≠ [] := by
      intro hnil
      rw [hnil] at hlength
      cases hlength
    rw [String.toList_append]
    simp [clockOf, readClock, hhour, hminute, hsecond, hne, readFraction, hlength, hread, isEnd]

def inClock (c : Char) : Bool :=
  !(c == '+' || c == '-' || c == 'Z')

theorem inClock_of_isDigit {c : Char} (h : c.isDigit) : inClock c := by
  unfold inClock
  rw [Bool.not_eq_true', Bool.or_eq_false_iff, Bool.or_eq_false_iff]
  refine ⟨⟨beq_eq_false_iff_ne.mpr ?_, beq_eq_false_iff_ne.mpr ?_⟩, beq_eq_false_iff_ne.mpr ?_⟩
  all_goals
    rintro rfl
    simp at h

theorem all_inClock_fractionText {micros : Nat} (h : micros < 1000000) :
    (fractionText micros).toList.all inClock := by
  unfold fractionText
  split
  . rfl
  . rw [String.toList_append, List.all_append, Bool.and_eq_true]
    refine ⟨rfl, List.all_eq_true.mpr fun c hc => inClock_of_isDigit ?_⟩
    exact List.all_eq_true.mp (padded_spec (show 0 < 6 by omega) h).2.1 c hc

theorem readTime_written (date : Nat × Nat × Nat) {cs : List Char} {clock : ClockReading}
    (hcs : cs.all inClock) (hclock : clockOf cs = some clock) :
    readTime date (cs ++ (offsetText 0).toList) = some ⟨date, clock, some (0, 0)⟩ := by
  have hoffset : (offsetText 0).toList = ['+', '0', '0', ':', '0', '0'] := by decide
  have hhead : (offsetText 0).toList.head?.all fun c => !inClock c := by
    rw [hoffset]
    rfl
  rcases Json.takeWhile_append hcs hhead with ⟨htake, hdrop⟩
  have hzero : readOffset false ['0', '0', ':', '0', '0'] = some (0, 0) := by decide
  have hsigns : (fun c => !(c == '+' || c == '-' || c == 'Z')) = inClock := rfl
  unfold readTime
  dsimp only
  rw [hsigns, htake, hclock, hdrop, hoffset]
  rw [Option.bind_eq_bind, Option.bind_some]
  change (readOffset ('+' == '-') ['0', '0', ':', '0', '0']).bind _ = _
  rw [show ('+' == '-') = false from rfl, hzero]
  rfl

theorem characters?_ofString (s : String) : characters? (LooseText.ofString s) = some s := by
  have hnone : separatorPlaces.find? (fun place =>
      (LooseText.ofString s).letters[place]?.any fun letter => letter.char?.isNone) = none := by
    rw [List.find?_eq_none]
    intro place _
    rw [LooseText.ofString, List.getElem?_map]
    cases s.toList[place]? <;> simp [Letter.char?]
  unfold characters?
  dsimp only
  rw [hnone, LooseText.string?_ofString]

theorem Utc.check {t : Timestamp} (h : t.Utc) : t.check = .ok t := by
  unfold Timestamp.check
  rw [h.date, h.clock]
  rfl

theorem ofText_text {t : Timestamp} (h : t.Utc) : ofText (.ofString t.text) = .ok t := by
  rcases padded_four h.year_lt with ⟨a, b, c, d, hyear, hreadYear⟩
  rcases padded_two h.month_lt with ⟨m, m', hmonth, hm, -, hreadMonth⟩
  rcases padded_two h.day_lt with ⟨e, e', hday, -, -, hreadDay⟩
  rcases h.clock_lt with ⟨hhour_lt, hminute_lt, hsecond_lt⟩
  rcases padded_two hhour_lt with ⟨k, k', hhour, hk, hk', hreadHour⟩
  rcases padded_two hminute_lt with ⟨i, i', hminute, hi, hi', hreadMinute⟩
  rcases padded_two hsecond_lt with ⟨s, s', hsecond, hs, hs', hreadSecond⟩
  have hclock := clockOf_written hreadHour hreadMinute hreadSecond h.micros
  have hin : (k :: k' :: ':' :: i :: i' :: ':' :: s :: s' ::
      (fractionText t.micros).toList).all inClock := by
    simp only [List.all_cons, Bool.and_eq_true]
    exact ⟨inClock_of_isDigit hk, inClock_of_isDigit hk', rfl, inClock_of_isDigit hi,
      inClock_of_isDigit hi', rfl, inClock_of_isDigit hs, inClock_of_isDigit hs',
      all_inClock_fractionText h.micros⟩
  have htext : t.text.toList = a :: b :: c :: d :: '-' :: m :: m' :: '-' :: e :: e' :: 'T' ::
      (k :: k' :: ':' :: i :: i' :: ':' :: s :: s' :: (fractionText t.micros).toList ++
        (offsetText 0).toList) := by
    unfold text
    rw [h.offset?]
    simp only [String.toList_append, hyear, hmonth, hday, hhour, hminute, hsecond]
    simp
  have hread : read? t.text = some ⟨(t.year, t.month, t.day),
      ⟨[t.hour, t.minute, t.second], t.micros, false⟩, some (0, 0)⟩ := by
    unfold read?
    dsimp only
    rw [htext, if_neg (by simp), dateSize_written hm]
    change (readDate [a, b, c, d, '-', m, m', '-', e, e']).bind _ = _
    rw [readDate_written hreadYear hm hreadMonth hreadDay, Option.bind_some, if_neg (by simp)]
    exact readTime_written _ hin hclock
  unfold ofText
  rw [characters?_ofString, Option.bind_some, hread]
  have hcheck := h.check
  cases t
  cases h.offset?
  exact hcheck

end QueryLinker.Timestamp
