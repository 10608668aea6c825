import QueryLinker.Proofs.Except
import QueryLinker.Proofs.Json.Letters
import QueryLinker.Proofs.Json.Number

/-!
This module contains that JSON values are read from the text that they are written as, for all
values that some text is read as. The text is plain, so this also holds through a file.
-/

namespace QueryLinker.Json

open Number

inductive Readable : Json → Prop where
  | null : Readable .null
  | bool (b : Bool) : Readable (.bool b)
  | int {n : Int} (h : (Nat.toDigits 10 n.natAbs).length ≤ maxIntegerDigits) : Readable (.int n)
  | real {x : Number.Real} (h : x.Read) : Readable (.real x)
  | str {s : LooseText} (h : s.Paired) : Readable (.str s)
  | arr {items : List Json} (h : ∀ v ∈ items, Readable v) : Readable (.arr items)
  | obj {members : List (LooseText × Json)} (hnodup : (members.map Prod.fst).Nodup)
    (hkeys : ∀ m ∈ members, m.1.Paired) (hvalues : ∀ m ∈ members, Readable m.2) :
    Readable (.obj members)

variable {cs rest : List Char} {offset fuel room depth : Nat}

theorem digitsValue_lt {ds : List Char} (h : ds.all Char.isDigit) :
    digitsValue ds < 10 ^ ds.length := by
  induction ds using List.reverseRecOn with
  | nil => simp [digitsValue]
  | append_singleton ds d ih =>
    rw [List.all_append, Bool.and_eq_true] at h
    have hd : digitsValue [d] < 10 := by
      have hdigit := h.2
      simp [Char.isDigit, UInt32.le_iff_toNat_le] at hdigit
      rw [digitsValue, List.foldl_cons, List.foldl_nil]
      omega
    have hds := ih h.1
    rw [digitsValue_append, List.length_append, List.length_singleton, Nat.pow_one, Nat.pow_succ]
    omega

theorem wholePart?_spec {whole : List Char} (h : wholePart? cs = some whole) :
    whole ≠ [] ∧ whole.all Char.isDigit := by
  unfold wholePart? at h
  split at h
  . cases h
    exact ⟨by simp, rfl⟩
  . split at h
    . cases h
    next ds hds =>
      cases h
      exact ⟨hds, List.all_takeWhile⟩

theorem readable_readNumber {r : Reading Json} (h : readNumber offset cs = .ok r) :
    Readable r.value := by
  unfold readNumber at h
  dsimp only at h
  split at h
  . cases h
  next whole hwhole =>
    split at h
    . split at h
      . cases h
      next hlength =>
        cases h
        rcases wholePart?_spec hwhole with ⟨hne, hdigits⟩
        refine .int ?_
        refine le_trans ?_ (Nat.not_lt.mp hlength)
        rw [Nat.length_toDigits_le_iff (by omega) (List.length_pos_iff.mpr hne)]
        refine lt_of_eq_of_lt ?_ (digitsValue_lt hdigits)
        split <;> simp
    . cases h
      exact .real (Real.read_ofDecimal _ _ _)

theorem levels_readNumber {r : Reading Json} (h : readNumber offset cs = .ok r) :
    r.value.levels = 0 := by
  unfold readNumber at h
  dsimp only at h
  split at h
  . cases h
  . split at h
    . split at h <;> cases h
      rfl
    . cases h
      rfl

theorem mem_setMember {key : LooseText} {value : Json} {members : List (LooseText × Json)}
    {m : LooseText × Json} (h : m ∈ setMember key value members) :
    m = (key, value) ∨ m ∈ members := by
  induction members with
  | nil => exact .inl (List.mem_singleton.mp h)
  | cons first members ih =>
    rw [setMember] at h
    split at h
    next hkey =>
      rcases List.mem_cons.mp h with rfl | hm
      . exact .inl (by rw [eq_of_beq hkey])
      . exact .inr (List.mem_cons_of_mem _ hm)
    next =>
      rcases List.mem_cons.mp h with rfl | hm
      . exact .inr (by simp)
      . exact (ih hm).imp_right (List.mem_cons_of_mem _)

theorem setMember_of_not_mem {key : LooseText} (value : Json) {members : List (LooseText × Json)}
    (h : key ∉ members.map Prod.fst) : setMember key value members = members ++ [(key, value)] := by
  induction members with
  | nil => rfl
  | cons first members ih =>
    rw [List.map_cons, List.mem_cons, not_or] at h
    rw [setMember, if_neg (by simpa using fun heq => h.1 heq.symm), ih h.2, List.cons_append]

theorem itemsLevels_le_iff {items : List Json} :
    itemsLevels items ≤ room ↔ ∀ v ∈ items, v.levels ≤ room := by
  induction items with
  | nil => simp [itemsLevels]
  | cons item items ih => rw [itemsLevels, Nat.max_le, ih, List.forall_mem_cons]

theorem membersLevels_le_iff {members : List (LooseText × Json)} :
    membersLevels members ≤ room ↔ ∀ m ∈ members, m.2.levels ≤ room := by
  induction members with
  | nil => simp [membersLevels]
  | cons member members ih =>
    rcases member with ⟨key, value⟩
    rw [membersLevels, memberLevels, Nat.max_le, ih, List.forall_mem_cons]

structure ReadableIn (room : Nat) (v : Json) : Prop where
  readable : Readable v
  levels_le : v.levels ≤ room

theorem ReadableIn.arr {items : List Json} (h : ∀ v ∈ items, ReadableIn room v) :
    ReadableIn (room + 1) (.arr items) where
  readable := .arr fun v hv => (h v hv).readable
  levels_le := Nat.succ_le_succ (itemsLevels_le_iff.mpr fun v hv => (h v hv).levels_le)

structure ReadableMembers (room : Nat) (members : List (LooseText × Json)) : Prop where
  nodup : (members.map Prod.fst).Nodup
  keys : ∀ m ∈ members, m.1.Paired
  values : ∀ m ∈ members, ReadableIn room m.2

theorem ReadableMembers.obj {members : List (LooseText × Json)} (h : ReadableMembers room members) :
    ReadableIn (room + 1) (.obj members) where
  readable := .obj h.nodup h.keys fun m hm => (h.values m hm).readable
  levels_le := Nat.succ_le_succ (membersLevels_le_iff.mpr fun m hm => (h.values m hm).levels_le)

theorem nodup_setMember {key : LooseText} {value : Json} {members : List (LooseText × Json)}
    (h : (members.map Prod.fst).Nodup) : ((setMember key value members).map Prod.fst).Nodup := by
  induction members with
  | nil => simp [setMember]
  | cons first members ih =>
    rw [List.map_cons, List.nodup_cons] at h
    rw [setMember]
    split
    . exact List.nodup_cons.mpr h
    next hkey =>
      rw [List.map_cons, List.nodup_cons]
      refine ⟨fun hmem => ?_, ih h.2⟩
      rcases List.mem_map.mp hmem with ⟨m, hm, heq⟩
      rcases mem_setMember hm with rfl | hold
      . exact hkey (beq_iff_eq.mpr heq.symm)
      . exact h.1 (List.mem_map.mpr ⟨m, hold, heq⟩)

theorem ReadableMembers.setMember {key : LooseText} {value : Json}
    {members : List (LooseText × Json)} (h : ReadableMembers room members) (hkey : key.Paired)
    (hvalue : ReadableIn room value) : ReadableMembers room (setMember key value members) where
  nodup := nodup_setMember h.nodup
  keys := by
    intro m hm
    rcases mem_setMember hm with rfl | hold
    . exact hkey
    . exact h.keys m hold
  values := by
    intro m hm
    rcases mem_setMember hm with rfl | hold
    . exact hvalue
    . exact h.values m hold

theorem paired_readString {start : Nat} {r : Reading LooseText}
    (h : readString start [] cs offset = .ok r) : r.value.Paired :=
  paired_of_readString ⟨by simp, .nil, by simp⟩ h

structure ReadsWell (fuel : Nat) : Prop where
  value : ∀ {room cs offset r}, readValue fuel room cs offset = .ok r → ReadableIn room r.value
  items : ∀ {room acc cs offset r}, (∀ v ∈ acc, ReadableIn room v) →
    readItems fuel room acc cs offset = .ok r → ReadableIn (room + 1) r.value
  members : ∀ {room acc cs offset r}, ReadableMembers room acc →
    readMembers fuel room acc cs offset = .ok r → ReadableIn (room + 1) r.value

variable {r : Reading Json}

theorem ReadsWell.readValue (ih : ReadsWell fuel)
    (h : readValue (fuel + 1) room cs offset = .ok r) : ReadableIn room r.value := by
  have hscalar {v : Json} (hv : Readable v) (hlevels : v.levels = 0) : ReadableIn room v :=
    ⟨hv, by omega⟩
  rw [readValue.eq_def] at h
  dsimp only at h
  split at h
  next =>
    rcases bind_eq_ok_iff.mp h with ⟨s, hs, hr⟩
    cases hr
    exact hscalar (.str (paired_readString hs)) rfl
  next =>
    split at h
    . cases h
    next hroom =>
      rw [← Nat.sub_add_cancel (Nat.pos_of_ne_zero hroom)]
      split at h
      . cases h
        exact ReadableMembers.obj ⟨by simp, by simp, by simp⟩
      . exact ih.members ⟨by simp, by simp, by simp⟩ h
  next =>
    split at h
    . cases h
    next hroom =>
      rw [← Nat.sub_add_cancel (Nat.pos_of_ne_zero hroom)]
      split at h
      . cases h
        exact .arr (by simp)
      . exact ih.items (by simp) h
  next => cases h; exact hscalar .null rfl
  next => cases h; exact hscalar (.bool true) rfl
  next => cases h; exact hscalar (.bool false) rfl
  next => cases h; exact hscalar (.real .nan) rfl
  next => cases h; exact hscalar (.real (.infinite false)) rfl
  next => cases h; exact hscalar (.real (.infinite true)) rfl
  next => exact hscalar (readable_readNumber h) (levels_readNumber h)

theorem ReadsWell.readItems (ih : ReadsWell fuel) {acc : List Json}
    (hacc : ∀ v ∈ acc, ReadableIn room v)
    (h : readItems (fuel + 1) room acc cs offset = .ok r) : ReadableIn (room + 1) r.value := by
  rw [Json.readItems] at h
  rcases bind_eq_ok_iff.mp h with ⟨item, hitem, hrest⟩
  have hitems : ∀ v ∈ item.value :: acc, ReadableIn room v :=
    List.forall_mem_cons.mpr ⟨ih.value hitem, hacc⟩
  dsimp only at hrest
  split at hrest
  . cases hrest
    exact .arr fun v hv => hitems v (List.mem_reverse.mp hv)
  . exact ih.items hitems hrest
  . cases hrest

theorem ReadsWell.readMembers (ih : ReadsWell fuel) {acc : List (LooseText × Json)}
    (hacc : ReadableMembers room acc) (h : readMembers (fuel + 1) room acc cs offset = .ok r) :
    ReadableIn (room + 1) r.value := by
  rw [readMembers.eq_def] at h
  dsimp only at h
  split at h
  next =>
    rcases bind_eq_ok_iff.mp h with ⟨key, hkey, hrest⟩
    split at hrest
    next =>
      rcases bind_eq_ok_iff.mp hrest with ⟨value, hvalue, hend⟩
      have hmembers := hacc.setMember (paired_readString hkey) (ih.value hvalue)
      split at hend
      . cases hend
        exact hmembers.obj
      . exact ih.members hmembers hend
      . cases hend
    next => cases hrest
  next => cases h

theorem readsWell (fuel : Nat) : ReadsWell fuel := by
  induction fuel with
  | zero => exact ⟨(nomatch ·), fun _ => (nomatch ·), fun _ => (nomatch ·)⟩
  | succ fuel ih => exact ⟨ih.readValue, ih.readItems, ih.readMembers⟩

theorem readableIn_of_read {text : String} {v : Json} (h : Json.read text room = .ok v) :
    ReadableIn room v := by
  unfold Json.read at h
  split at h
  . cases h
  . rcases bind_eq_ok_iff.mp h with ⟨value, hvalue, hend⟩
    split at hend
    . cases hend
      exact (readsWell _).value hvalue
    . cases hend

/-! Reading back. -/

def Opens (text : List Char) : Prop :=
  ∃ c later, text = c :: later ∧ isJsonBlank c = false ∧ c ≠ ']' ∧ c ≠ '}'

structure ReadsAs (text : List Char) (v : Json) : Prop where
  opens : Opens text
  plain : Plain text
  read : ∀ {rest} fuel room offset, EndsNumber rest → text.length < fuel → v.levels ≤ room →
    ∃ later, readValue fuel room (text ++ rest) offset = .ok ⟨v, rest, later⟩

theorem readValue_number {negative : Bool} {c : Char} (hc : c.isDigit) :
    readValue (fuel + 1) room (signChars negative ++ c :: cs) offset =
      readNumber offset (signChars negative ++ c :: cs) := by
  cases negative with
  | false =>
    change readValue (fuel + 1) room (c :: cs) offset = readNumber offset (c :: cs)
    rw [readValue.eq_def]
    dsimp only
    split
    case h_10 => rfl
    all_goals
      rename_i heq
      cases heq
      simp at hc
  | true =>
    change readValue (fuel + 1) room ('-' :: c :: cs) offset =
      readNumber offset ('-' :: c :: cs)
    rw [readValue.eq_def]
    dsimp only
    split
    case h_10 => rfl
    case h_9 heq =>
      cases heq
      simp at hc
    all_goals
      rename_i heq
      cases heq

theorem plain_digits {ds : List Char} (h : ds.all Char.isDigit) : Plain ds := by
  intro c hc
  have hdigit := List.all_eq_true.mp h c hc
  simp [Char.isDigit, UInt32.le_iff_toNat_le] at hdigit
  refine ⟨by simp [Text.isAscii]; omega, ?_⟩
  rintro rfl
  simp at hdigit

theorem plain_signChars (negative : Bool) : Plain (signChars negative) := by
  cases negative with
  | false => exact plain_nil
  | true => exact plain_cons.mpr ⟨by decide, plain_nil⟩

theorem plain_spells {text : List Char} {d : Decimal} (h : Spells text d) : Plain text := by
  rcases h with ⟨whole, fraction, exponent?, rfl, hwhole, hfraction, hexponent, -⟩
  rw [plain_append, plain_append]
  refine ⟨plain_digits hwhole.digits, ?_, ?_⟩
  . unfold fractionChars
    split
    . exact plain_nil
    . exact plain_cons.mpr ⟨by decide, plain_digits hfraction⟩
  . cases exponent? with
    | none => exact plain_nil
    | some x =>
      rcases x with ⟨below, ds⟩
      refine plain_cons.mpr ⟨by decide, plain_cons.mpr ⟨?_, plain_digits (hexponent _ rfl).1⟩⟩
      cases below <;> decide

theorem Whole.exists_cons {whole : List Char} (h : Whole whole) :
    ∃ c later, whole = c :: later ∧ c.isDigit := by
  have hdigits := h.digits
  rcases h.head with rfl | ⟨c, later, rfl, -⟩
  . exact ⟨_, _, rfl, rfl⟩
  . rw [List.all_cons, Bool.and_eq_true] at hdigits
    exact ⟨c, later, rfl, hdigits.1⟩

theorem spells_exists_cons {text : List Char} {d : Decimal} (h : Spells text d) :
    ∃ c later, text = c :: later ∧ c.isDigit := by
  rcases h with ⟨whole, fraction, exponent?, rfl, hwhole, -⟩
  rcases hwhole.exists_cons with ⟨c, later, rfl, hc⟩
  exact ⟨c, _, rfl, hc⟩

theorem opens_number {negative : Bool} {c : Char} {later : List Char} (hc : c.isDigit) :
    Opens (signChars negative ++ c :: later) := by
  cases negative with
  | true => exact ⟨'-', c :: later, rfl, by decide⟩
  | false =>
    refine ⟨c, later, rfl, ?_, ?_, ?_⟩
    . cases hblank : isJsonBlank c with
      | false => rfl
      | true =>
        simp [isJsonBlank] at hblank
        rcases hblank with ((rfl | rfl) | rfl) | rfl <;> simp at hc
    all_goals
      rintro rfl
      simp at hc

theorem readsAs_number {negative : Bool} {text : List Char} {v : Json}
    (htext : ∃ c later, text = c :: later ∧ c.isDigit) (hplain : Plain text)
    (h : ∀ {rest} start, EndsNumber rest →
      ∃ later, readNumber start (signChars negative ++ (text ++ rest)) = .ok ⟨v, rest, later⟩) :
    ReadsAs (signChars negative ++ text) v := by
  rcases htext with ⟨c, later, rfl, hc⟩
  refine ⟨opens_number hc, plain_append.mpr ⟨plain_signChars negative, hplain⟩, ?_⟩
  intro rest fuel room offset hrest hfuel _
  rcases h offset hrest with ⟨later', hread⟩
  refine ⟨later', ?_⟩
  cases fuel with
  | zero => omega
  | succ fuel => rw [List.append_assoc, List.cons_append, readValue_number hc]; exact hread

theorem readsAs_int {n : Int} (h : (Nat.toDigits 10 n.natAbs).length ≤ maxIntegerDigits) :
    ReadsAs (toString n).toList (.int n) := by
  rw [toString_int]
  refine readsAs_number (whole_toDigits _).exists_cons (plain_digits (isDigit_toDigits _)) ?_
  intro rest start hrest
  rcases readNumber_int start h hrest with ⟨later, hread⟩
  rw [toString_int, List.append_assoc] at hread
  exact ⟨later, hread⟩

theorem toText_finite (layout : RealLayout) (negative : Bool) (d : Decimal) :
    (Real.toText layout (.finite negative d)).toList =
      signChars negative ++ (Real.decimalText layout d).toList := by
  cases negative <;> simp [Real.toText, signChars]

theorem readsAs_zero (negative : Bool) :
    ReadsAs (Real.toText Real.jsonLayout (.finite negative ⟨0, 0⟩)).toList
      (.real (.finite negative ⟨0, 0⟩)) := by
  rw [toText_finite]
  refine readsAs_number ⟨'0', ['.', '0'], rfl, rfl⟩ ?_ fun start hrest =>
    readNumber_zero start negative hrest
  change Plain ['0', '.', '0']
  simp
  decide

theorem readsAs_finite (negative : Bool) {y : Binary64} (hy : y.Canonical) :
    ReadsAs (Real.toText Real.jsonLayout (.finite negative y.shortest.stripZeros)).toList
      (.real (.finite negative y.shortest.stripZeros)) := by
  have hspells := spells_decimalText (pos_shortest hy)
  rw [toText_finite]
  exact readsAs_number (spells_exists_cons hspells) (plain_spells hspells) fun start hrest =>
    readNumber_finite start negative hy hrest

theorem readsAs_word {text : List Char} {v : Json} (hopens : Opens text) (hplain : Plain text)
    (h : ∀ rest fuel room offset, v.levels ≤ room → ∃ later,
      readValue (fuel + 1) room (text ++ rest) offset = .ok ⟨v, rest, later⟩) : ReadsAs text v where
  opens := hopens
  plain := hplain
  read := by
    intro rest fuel room offset _ hfuel hroom
    cases fuel with
    | zero => omega
    | succ fuel => exact h rest fuel room offset hroom

theorem readsAs_real {x : Number.Real} (h : x.Read) :
    ReadsAs (x.toText Real.jsonLayout).toList (.real x) := by
  cases h with
  | nan =>
    refine readsAs_word ⟨'N', _, rfl, by decide⟩ ?_ fun rest fuel room offset _ => ⟨_, rfl⟩
    change Plain ['N', 'a', 'N']
    simp
    decide
  | infinite negative =>
    cases negative with
    | false =>
      refine readsAs_word ⟨'I', _, rfl, by decide⟩ ?_ fun rest fuel room offset _ => ⟨_, rfl⟩
      change Plain ['I', 'n', 'f', 'i', 'n', 'i', 't', 'y']
      simp
      decide
    | true =>
      refine readsAs_word ⟨'-', _, rfl, by decide⟩ ?_ fun rest fuel room offset _ => ⟨_, rfl⟩
      change Plain ['-', 'I', 'n', 'f', 'i', 'n', 'i', 't', 'y']
      simp
      decide
  | zero negative => exact readsAs_zero negative
  | finite negative hy => exact readsAs_finite negative hy

theorem readValue_quote (cs : List Char) : readValue (fuel + 1) room ('"' :: cs) offset =
    readString offset [] cs (offset + 1) >>= fun s => pure ⟨.str s.value, s.rest, s.offset⟩ :=
  rfl

theorem stringText_append (s : LooseText) (rest : List Char) :
    stringText s ++ rest = '"' :: (s.letters.flatMap escapeLetter ++ '"' :: rest) := by
  simp [stringText]

theorem readsAs_str {s : LooseText} (h : s.Paired) : ReadsAs (stringText s) (.str s) := by
  refine readsAs_word ⟨'"', _, rfl, by decide⟩ (plain_stringText s)
    fun rest fuel room offset _ => ?_
  rcases readString_stringText h offset (offset + 1) rest with ⟨later, hread⟩
  exact ⟨later, by rw [stringText_append, readValue_quote, hread]; rfl⟩

theorem skipBlanks_blanks (count offset : Nat) {c : Char} (hc : isJsonBlank c = false) :
    ∃ later, skipBlanks (List.replicate count ' ' ++ c :: cs) offset = (c :: cs, later) := by
  induction count generalizing offset with
  | zero => exact ⟨offset, by rw [List.replicate_zero, List.nil_append, skipBlanks, hc]; rfl⟩
  | succ count ih =>
    rcases ih (offset + 1) with ⟨later, h⟩
    exact ⟨later, h⟩

theorem skipBlanks_lineStart (depth offset : Nat) (cs : List Char) {c : Char}
    (hc : isJsonBlank c = false) :
    ∃ later, skipBlanks (lineStart depth ++ c :: cs) offset = (c :: cs, later) :=
  skipBlanks_blanks (2 * depth) (offset + 1) hc

theorem skipBlanks_of_opens (depth offset : Nat) (rest : List Char) {text : List Char}
    (h : Opens text) :
    ∃ later, skipBlanks (lineStart depth ++ (text ++ rest)) offset = (text ++ rest, later) := by
  rcases h with ⟨c, cs, rfl, hc, -⟩
  exact skipBlanks_lineStart depth offset (cs ++ rest) hc

theorem skipBlanks_space (offset : Nat) (rest : List Char) {text : List Char} (h : Opens text) :
    ∃ later, skipBlanks (' ' :: (text ++ rest)) offset = (text ++ rest, later) := by
  rcases h with ⟨c, cs, rfl, hc, -⟩
  exact skipBlanks_blanks 1 offset hc

theorem plain_lineStart (depth : Nat) : Plain (lineStart depth) := by
  refine plain_cons.mpr ⟨by decide, fun c hc => ?_⟩
  rw [List.eq_of_mem_replicate hc]
  decide

theorem endsNumber_lineStart : EndsNumber (lineStart depth ++ rest) :=
  ⟨rfl, by decide, by decide, by decide⟩

theorem endsNumber_comma : EndsNumber (',' :: rest) :=
  ⟨rfl, by decide, by decide, by decide⟩

def itemsTail (depth : Nat) (items : List Json) (rest : List Char) : List Char :=
  indentedItems (depth + 1) items ++ (lineStart depth ++ ']' :: rest)

theorem itemsTail_nil : itemsTail depth [] rest = lineStart depth ++ ']' :: rest :=
  rfl

theorem itemsTail_cons (item : Json) (items : List Json) :
    itemsTail depth (item :: items) rest =
      ',' :: (lineStart (depth + 1) ++
        (indented (depth + 1) item ++ itemsTail depth items rest)) := by
  simp [itemsTail, indentedItems]

theorem endsNumber_itemsTail (items : List Json) (rest : List Char) :
    EndsNumber (itemsTail depth items rest) := by
  cases items with
  | nil => exact endsNumber_lineStart
  | cons item items => exact itemsTail_cons item items ▸ endsNumber_comma

theorem readItems_succ (acc : List Json) {item : Json} {later : Nat}
    (h : readValue fuel room cs offset = .ok ⟨item, rest, later⟩) :
    readItems (fuel + 1) room acc cs offset =
      match skipBlanks rest later with
      | (']' :: cs, offset) => .ok ⟨.arr (item :: acc).reverse, cs, offset + 1⟩
      | (',' :: cs, offset) =>
        readItems fuel room (item :: acc) (skipBlanks cs (offset + 1)).1
          (skipBlanks cs (offset + 1)).2
      | (_, offset) => .error ⟨.noComma, offset⟩ := by
  rw [Json.readItems, h]
  rfl

theorem readItems_indented (offset : Nat) (acc : List Json) (rest : List Char) {item : Json}
    {items : List Json}
    (h : ∀ v ∈ item :: items, ReadsAs (indented (depth + 1) v) v)
    (hroom : ∀ v ∈ item :: items, v.levels ≤ room)
    (hfuel : (indented (depth + 1) item ++ itemsTail depth items []).length < fuel) :
    ∃ later, Json.readItems fuel room acc (indented (depth + 1) item ++ itemsTail depth items rest)
      offset = .ok ⟨.arr (acc.reverse ++ item :: items), rest, later⟩ := by
  induction items generalizing item acc fuel offset with
  | nil =>
    cases fuel with
    | zero => omega
    | succ fuel =>
      rw [List.length_append, itemsTail_nil, List.length_append, List.length_singleton] at hfuel
      rcases (h item (by simp)).read fuel room offset (endsNumber_itemsTail [] rest) (by omega)
        (hroom item (by simp)) with ⟨next, hread⟩
      rcases skipBlanks_lineStart depth next rest (show isJsonBlank ']' = false from rfl) with
        ⟨later, hskip⟩
      refine ⟨later + 1, ?_⟩
      rw [readItems_succ acc hread, itemsTail_nil, hskip]
      simp
  | cons second items ih =>
    cases fuel with
    | zero => omega
    | succ fuel =>
      rw [List.length_append, itemsTail_cons, List.length_cons, List.length_append] at hfuel
      have hsecond : (indented (depth + 1) second ++ itemsTail depth items []).length < fuel := by
        omega
      rcases (h item (by simp)).read fuel room offset (endsNumber_itemsTail (second :: items) rest)
        (by omega) (hroom item (by simp)) with ⟨next, hread⟩
      rcases skipBlanks_of_opens (depth + 1) (next + 1) (itemsTail depth items rest)
        (h second (by simp)).opens with ⟨start, hskip⟩
      rcases ih start (item :: acc) (fun v hv => h v (List.mem_cons_of_mem _ hv))
        (fun v hv => hroom v (List.mem_cons_of_mem _ hv)) hsecond with ⟨later, hlater⟩
      refine ⟨later, ?_⟩
      rw [readItems_succ acc hread, itemsTail_cons]
      change Json.readItems fuel room (item :: acc) (skipBlanks _ (next + 1)).1
        (skipBlanks _ (next + 1)).2 = _
      rw [hskip, hlater, List.reverse_cons, List.append_assoc, List.singleton_append]

def membersTail (depth : Nat) (members : List (LooseText × Json)) (rest : List Char) : List Char :=
  indentedMembers (depth + 1) members ++ (lineStart depth ++ '}' :: rest)

theorem membersTail_nil : membersTail depth [] rest = lineStart depth ++ '}' :: rest :=
  rfl

theorem indentedMember_append (key : LooseText) (value : Json) :
    indentedMember depth (key, value) ++ rest =
      stringText key ++ (':' :: ' ' :: (indented depth value ++ rest)) := by
  simp [indentedMember]

theorem membersTail_cons (member : LooseText × Json) (members : List (LooseText × Json)) :
    membersTail depth (member :: members) rest =
      ',' :: (lineStart (depth + 1) ++
        (indentedMember (depth + 1) member ++ membersTail depth members rest)) := by
  simp [membersTail, indentedMembers]

theorem endsNumber_membersTail (members : List (LooseText × Json)) (rest : List Char) :
    EndsNumber (membersTail depth members rest) := by
  cases members with
  | nil => exact endsNumber_lineStart
  | cons member members => exact membersTail_cons member members ▸ endsNumber_comma

theorem length_value_lt (depth : Nat) (member : LooseText × Json) :
    (indented depth member.2).length < (indentedMember depth member).length := by
  rcases member with ⟨key, value⟩
  simp [indentedMember]
  omega

theorem readMembers_succ (offset : Nat) (acc : List (LooseText × Json))
    {member : LooseText × Json} (hkey : member.1.Paired)
    (hvalue : ReadsAs (indented depth member.2) member.2) (hroom : member.2.levels ≤ room)
    (hends : EndsNumber rest) (hfuel : (indentedMember depth member).length ≤ fuel) :
    ∃ later, Json.readMembers (fuel + 1) room acc (indentedMember depth member ++ rest) offset =
      match skipBlanks rest later with
      | ('}' :: cs, offset) => .ok ⟨.obj (setMember member.1 member.2 acc), cs, offset + 1⟩
      | (',' :: cs, offset) =>
        Json.readMembers fuel room (setMember member.1 member.2 acc) (skipBlanks cs (offset + 1)).1
          (skipBlanks cs (offset + 1)).2
      | (_, offset) => .error ⟨.noComma, offset⟩ := by
  rcases member with ⟨key, value⟩
  rcases readString_stringText hkey offset (offset + 1)
    (':' :: ' ' :: (indented depth value ++ rest)) with ⟨next, hname⟩
  rcases skipBlanks_space (next + 1) rest hvalue.opens with ⟨start, hskip⟩
  rcases hvalue.read fuel room start hends ((length_value_lt depth _).trans_le hfuel) hroom with
    ⟨later, hread⟩
  refine ⟨later, ?_⟩
  rw [indentedMember_append, stringText_append, Json.readMembers, hname]
  change (do
    let value ← Json.readValue fuel room (skipBlanks (' ' :: _) (next + 1)).1
      (skipBlanks (' ' :: _) (next + 1)).2
    _) = _
  rw [hskip, hread]
  rfl

theorem opens_indentedMember (depth : Nat) (member : LooseText × Json) :
    Opens (indentedMember depth member) := by
  rcases member with ⟨key, value⟩
  exact ⟨'"', _, rfl, by decide⟩

theorem setMember_of_nodup {member : LooseText × Json} {acc members : List (LooseText × Json)}
    (h : ((acc ++ member :: members).map Prod.fst).Nodup) :
    setMember member.1 member.2 acc = acc ++ [member] := by
  apply setMember_of_not_mem
  rw [List.map_append, List.map_cons] at h
  exact fun hmem => (List.nodup_append.mp h).2.2 _ hmem _ (by simp) rfl

theorem readMembers_indented (offset : Nat) (acc : List (LooseText × Json)) (rest : List Char)
    {member : LooseText × Json} {members : List (LooseText × Json)}
    (hnodup : ((acc ++ member :: members).map Prod.fst).Nodup)
    (hkeys : ∀ m ∈ member :: members, m.1.Paired)
    (hvalues : ∀ m ∈ member :: members, ReadsAs (indented (depth + 1) m.2) m.2)
    (hroom : ∀ m ∈ member :: members, m.2.levels ≤ room)
    (hfuel : (indentedMember (depth + 1) member ++ membersTail depth members []).length < fuel) :
    ∃ later, Json.readMembers fuel room acc
      (indentedMember (depth + 1) member ++ membersTail depth members rest) offset =
        .ok ⟨.obj (acc ++ member :: members), rest, later⟩ := by
  induction members generalizing member acc fuel offset with
  | nil =>
    cases fuel with
    | zero => omega
    | succ fuel =>
      rw [List.length_append] at hfuel
      have hlength : (indentedMember (depth + 1) member).length ≤ fuel := by omega
      rcases readMembers_succ offset acc (hkeys member (by simp)) (hvalues member (by simp))
        (hroom member (by simp)) (endsNumber_membersTail [] rest) hlength with ⟨next, hread⟩
      rcases skipBlanks_lineStart depth next rest (show isJsonBlank '}' = false from rfl) with
        ⟨later, hskip⟩
      refine ⟨later + 1, ?_⟩
      rw [hread, membersTail_nil, hskip, setMember_of_nodup hnodup]
      rfl
  | cons second members ih =>
    cases fuel with
    | zero => omega
    | succ fuel =>
      rw [List.length_append, membersTail_cons, List.length_cons, List.length_append] at hfuel
      have hlength : (indentedMember (depth + 1) member).length ≤ fuel := by omega
      have hsecond :
          (indentedMember (depth + 1) second ++ membersTail depth members []).length < fuel := by
        omega
      rcases readMembers_succ offset acc (hkeys member (by simp)) (hvalues member (by simp))
        (hroom member (by simp)) (endsNumber_membersTail (second :: members) rest) hlength with
        ⟨next, hread⟩
      rcases skipBlanks_of_opens (depth + 1) (next + 1) (membersTail depth members rest)
        (opens_indentedMember _ second) with ⟨start, hskip⟩
      rcases ih start (acc ++ [member]) (List.append_cons acc member _ ▸ hnodup)
        (fun m hm => hkeys m (List.mem_cons_of_mem _ hm))
        (fun m hm => hvalues m (List.mem_cons_of_mem _ hm))
        (fun m hm => hroom m (List.mem_cons_of_mem _ hm)) hsecond with ⟨later, hend⟩
      refine ⟨later, ?_⟩
      rw [hread, membersTail_cons, setMember_of_nodup hnodup]
      change Json.readMembers fuel room (acc ++ [member]) (skipBlanks _ (next + 1)).1
        (skipBlanks _ (next + 1)).2 = _
      rw [hskip, hend, List.append_assoc, List.singleton_append]

theorem indented_arr (depth : Nat) (item : Json) (items : List Json) (rest : List Char) :
    indented depth (.arr (item :: items)) ++ rest =
      '[' :: (lineStart (depth + 1) ++
        (indented (depth + 1) item ++ itemsTail depth items rest)) := by
  simp [indented, itemsTail]

theorem indented_obj (depth : Nat) (member : LooseText × Json)
    (members : List (LooseText × Json)) (rest : List Char) :
    indented depth (.obj (member :: members)) ++ rest =
      '{' :: (lineStart (depth + 1) ++
        (indentedMember (depth + 1) member ++ membersTail depth members rest)) := by
  simp [indented, membersTail]

theorem plain_itemsTail {items : List Json} (h : ∀ v ∈ items, Plain (indented (depth + 1) v)) :
    Plain (itemsTail depth items []) := by
  induction items with
  | nil =>
    rw [itemsTail_nil, plain_append]
    exact ⟨plain_lineStart depth, plain_cons.mpr ⟨by decide, plain_nil⟩⟩
  | cons item items ih =>
    rw [itemsTail_cons, plain_cons, plain_append, plain_append]
    exact ⟨by decide, plain_lineStart _, h item (by simp),
      ih fun v hv => h v (List.mem_cons_of_mem _ hv)⟩

theorem plain_indentedMember {member : LooseText × Json} (h : Plain (indented depth member.2)) :
    Plain (indentedMember depth member) := by
  rcases member with ⟨key, value⟩
  rw [indentedMember, plain_append, plain_append]
  exact ⟨⟨plain_stringText key, by simp; decide⟩, h⟩

theorem plain_membersTail {members : List (LooseText × Json)}
    (h : ∀ m ∈ members, Plain (indented (depth + 1) m.2)) :
    Plain (membersTail depth members []) := by
  induction members with
  | nil =>
    rw [membersTail_nil, plain_append]
    exact ⟨plain_lineStart depth, plain_cons.mpr ⟨by decide, plain_nil⟩⟩
  | cons member members ih =>
    rw [membersTail_cons, plain_cons, plain_append, plain_append]
    exact ⟨by decide, plain_lineStart _, plain_indentedMember (h member (by simp)),
      ih fun m hm => h m (List.mem_cons_of_mem _ hm)⟩

theorem readValue_bracket_eq (cs : List Char) (fuel offset : Nat) :
    Json.readValue (fuel + 1) (room + 1) ('[' :: cs) offset =
      match skipBlanks cs (offset + 1) with
      | (']' :: cs, offset) => .ok ⟨.arr [], cs, offset + 1⟩
      | (cs, offset) => Json.readItems fuel room [] cs offset :=
  rfl

theorem readValue_bracket {text : List Char} {later : Nat} (htext : Opens text)
    (h : skipBlanks cs (offset + 1) = (text ++ rest, later)) :
    Json.readValue (fuel + 1) (room + 1) ('[' :: cs) offset =
      Json.readItems fuel room [] (text ++ rest) later := by
  rcases htext with ⟨c, more, rfl, -, hc, -⟩
  rw [readValue_bracket_eq, h]
  split
  next heq =>
    cases heq
    exact absurd rfl hc
  next heq =>
    cases heq
    rfl

theorem readValue_brace_eq (cs : List Char) (fuel offset : Nat) :
    Json.readValue (fuel + 1) (room + 1) ('{' :: cs) offset =
      match skipBlanks cs (offset + 1) with
      | ('}' :: cs, offset) => .ok ⟨.obj [], cs, offset + 1⟩
      | (cs, offset) => Json.readMembers fuel room [] cs offset :=
  rfl

theorem readValue_brace {text : List Char} {later : Nat} (htext : Opens text)
    (h : skipBlanks cs (offset + 1) = (text ++ rest, later)) :
    Json.readValue (fuel + 1) (room + 1) ('{' :: cs) offset =
      Json.readMembers fuel room [] (text ++ rest) later := by
  rcases htext with ⟨c, more, rfl, -, -, hc⟩
  rw [readValue_brace_eq, h]
  split
  next heq =>
    cases heq
    exact absurd rfl hc
  next heq =>
    cases heq
    rfl

theorem readsAs_arr {items : List Json}
    (h : ∀ v ∈ items, ∀ depth, ReadsAs (indented depth v) v) :
    ReadsAs (indented depth (.arr items)) (.arr items) := by
  cases items with
  | nil =>
    refine readsAs_word ⟨'[', _, rfl, by decide⟩ ?_ fun rest fuel room offset hroom => ?_
    . exact plain_cons.mpr ⟨by decide, plain_cons.mpr ⟨by decide, plain_nil⟩⟩
    . cases room with
      | zero => cases hroom
      | succ room => exact ⟨_, rfl⟩
  | cons item items =>
    have htext := indented_arr depth item items
    have hown := htext []
    rw [List.append_nil] at hown
    have hitem := h item (by simp) (depth + 1)
    refine ⟨⟨'[', _, hown, by decide⟩, ?_, fun {rest} fuel room offset _ hfuel hroom => ?_⟩
    . rw [hown, plain_cons, plain_append, plain_append]
      exact ⟨by decide, plain_lineStart _, hitem.plain,
        plain_itemsTail fun v hv => (h v (List.mem_cons_of_mem _ hv) _).plain⟩
    . cases room with
      | zero => cases hroom
      | succ room =>
      cases fuel with
      | zero => omega
      | succ fuel =>
        have hitems : ∀ v ∈ item :: items, v.levels ≤ room :=
          itemsLevels_le_iff.mp (Nat.le_of_succ_le_succ hroom)
        rw [hown, List.length_cons, List.length_append] at hfuel
        have hlength : (indented (depth + 1) item ++ itemsTail depth items []).length < fuel := by
          omega
        rcases skipBlanks_of_opens (depth + 1) (offset + 1) (itemsTail depth items rest)
          hitem.opens with ⟨start, hskip⟩
        rcases readItems_indented start [] rest (fun v hv => h v hv (depth + 1)) hitems
          hlength with ⟨later, hread⟩
        exact ⟨later, by rw [htext, readValue_bracket hitem.opens hskip]; exact hread⟩

theorem readsAs_obj {members : List (LooseText × Json)} (hnodup : (members.map Prod.fst).Nodup)
    (hkeys : ∀ m ∈ members, m.1.Paired)
    (h : ∀ m ∈ members, ∀ depth, ReadsAs (indented depth m.2) m.2) :
    ReadsAs (indented depth (.obj members)) (.obj members) := by
  cases members with
  | nil =>
    refine readsAs_word ⟨'{', _, rfl, by decide⟩ ?_ fun rest fuel room offset hroom => ?_
    . exact plain_cons.mpr ⟨by decide, plain_cons.mpr ⟨by decide, plain_nil⟩⟩
    . cases room with
      | zero => cases hroom
      | succ room => exact ⟨_, rfl⟩
  | cons member members =>
    have htext := indented_obj depth member members
    have hown := htext []
    rw [List.append_nil] at hown
    have hmember := h member (by simp) (depth + 1)
    refine ⟨⟨'{', _, hown, by decide⟩, ?_, fun {rest} fuel room offset _ hfuel hroom => ?_⟩
    . rw [hown, plain_cons, plain_append, plain_append]
      exact ⟨by decide, plain_lineStart _, plain_indentedMember hmember.plain,
        plain_membersTail fun m hm => (h m (List.mem_cons_of_mem _ hm) _).plain⟩
    . cases room with
      | zero => cases hroom
      | succ room =>
      cases fuel with
      | zero => omega
      | succ fuel =>
        have hmembers : ∀ m ∈ member :: members, m.2.levels ≤ room :=
          membersLevels_le_iff.mp (Nat.le_of_succ_le_succ hroom)
        rw [hown, List.length_cons, List.length_append] at hfuel
        have hlength :
            (indentedMember (depth + 1) member ++ membersTail depth members []).length < fuel := by
          omega
        have hopens := opens_indentedMember (depth + 1) member
        rcases skipBlanks_of_opens (depth + 1) (offset + 1) (membersTail depth members rest)
          hopens with ⟨start, hskip⟩
        rcases readMembers_indented start [] rest hnodup hkeys (fun m hm => h m hm (depth + 1))
          hmembers hlength with ⟨later, hread⟩
        exact ⟨later, by rw [htext, readValue_brace hopens hskip]; exact hread⟩

theorem readsAs_indented {v : Json} (h : Readable v) (depth : Nat) :
    ReadsAs (indented depth v) v := by
  induction h generalizing depth with
  | null =>
    refine readsAs_word ⟨'n', _, rfl, by decide⟩ ?_ fun rest fuel room offset _ => ⟨_, rfl⟩
    change Plain ['n', 'u', 'l', 'l']
    simp
    decide
  | bool b =>
    cases b with
    | false =>
      refine readsAs_word ⟨'f', _, rfl, by decide⟩ ?_ fun rest fuel room offset _ => ⟨_, rfl⟩
      change Plain ['f', 'a', 'l', 's', 'e']
      simp
      decide
    | true =>
      refine readsAs_word ⟨'t', _, rfl, by decide⟩ ?_ fun rest fuel room offset _ => ⟨_, rfl⟩
      change Plain ['t', 'r', 'u', 'e']
      simp
      decide
  | int h => exact readsAs_int h
  | real h => exact readsAs_real h
  | str h => exact readsAs_str h
  | arr _ ih => exact readsAs_arr ih
  | obj hnodup hkeys _ ih => exact readsAs_obj hnodup hkeys ih

theorem read_pretty {v : Json} (h : Readable v) (hroom : v.levels ≤ room) :
    Json.read v.pretty room = .ok v := by
  have hreads := readsAs_indented h 0
  rcases hreads.opens with ⟨c, cs, hhead, hc, -⟩
  have hends : EndsNumber [] := trivial
  rcases hreads.read ((indented 0 v).length + 1) room 0 hends (by omega) hroom with
    ⟨later, hread⟩
  rw [List.append_nil] at hread
  have hskip : skipBlanks (indented 0 v) 0 = (indented 0 v, 0) := by
    rw [hhead, skipBlanks, hc]
    rfl
  have hmark : ∀ more, indented 0 v ≠ '\ufeff' :: more := by
    intro more heq
    have := (hreads.plain _ (heq ▸ List.mem_cons_self)).1
    cases this
  unfold Json.read
  rw [pretty, String.toList_ofList]
  split
  next more heq => exact absurd heq (hmark more)
  next =>
    rw [hskip]
    dsimp only
    rw [hread]
    rfl

theorem textOfBytes_pretty {v : Json} (h : Readable v) :
    textOfBytes v.pretty.toUTF8 = .ok v.pretty := by
  have hplain := (readsAs_indented h 0).plain
  apply textOfBytes_toUTF8
  . rw [pretty, String.toList_ofList]
    exact List.all_eq_true.mpr fun c hc => (hplain c hc).1
  . rw [pretty, String.toList_ofList]
    exact fun hmem => (hplain _ hmem).2 rfl

end QueryLinker.Json
