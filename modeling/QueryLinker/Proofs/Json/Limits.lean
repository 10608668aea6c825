import QueryLinker.Proofs.Json.Canonical

/-!
This module contains how far JSON values can be written and read. A value is written to its end iff
no integer in it is too long and there is room for the calls that its writing takes. The text is
read again iff there also is room for the arrays and objects that are inside one another.
-/

namespace QueryLinker.Json

open Number

variable {v : Json} {nesting depth : Nat}

mutual

/-- The calls inside one another that the writing of a value takes. Empty values take none. -/
def calls : Json → Nat
  | .real _ => 1
  | .arr (item :: items) => max (calls item) (itemsCalls items) + 1
  | .obj (member :: members) => max (memberCalls member) (membersCalls members) + 1
  | _ => 0
termination_by structural value => value

def itemsCalls : List Json → Nat
  | [] => 0
  | item :: items => max (calls item) (itemsCalls items)
termination_by structural items => items

def membersCalls : List (LooseText × Json) → Nat
  | [] => 0
  | member :: members => max (memberCalls member) (membersCalls members)
termination_by structural members => members

def memberCalls : LooseText × Json → Nat
  | (_, value) => calls value
termination_by structural member => member

end

mutual

theorem calls_le : ∀ v : Json, v.calls ≤ v.levels + 1
  | .null | .bool _ | .int _ | .str _ | .arr [] | .obj [] => Nat.zero_le _
  | .real _ => Nat.le_refl 1
  | .arr (item :: items) => Nat.succ_le_succ (itemsCalls_le (item :: items))
  | .obj (member :: members) => Nat.succ_le_succ (membersCalls_le (member :: members))
termination_by structural v => v

theorem itemsCalls_le : ∀ items : List Json, itemsCalls items ≤ itemsLevels items + 1
  | [] => Nat.zero_le _
  | item :: items => by
    have hitem := calls_le item
    have hitems := itemsCalls_le items
    rw [itemsCalls, itemsLevels]
    omega
termination_by structural items => items

theorem membersCalls_le :
    ∀ members : List (LooseText × Json), membersCalls members ≤ membersLevels members + 1
  | [] => Nat.zero_le _
  | member :: members => by
    have hmember := memberCalls_le member
    have hmembers := membersCalls_le members
    rw [membersCalls, membersLevels]
    omega
termination_by structural members => members

theorem memberCalls_le : ∀ member : LooseText × Json, memberCalls member ≤ memberLevels member + 1
  | (_, value) => calls_le value
termination_by structural member => member

end

theorem membersCalls_le_iff {members : List (LooseText × Json)} {n : Nat} :
    membersCalls members ≤ n ↔ ∀ m ∈ members, m.2.calls ≤ n := by
  induction members with
  | nil => simp [membersCalls]
  | cons member members ih =>
    rcases member with ⟨key, value⟩
    rw [membersCalls, memberCalls, Nat.max_le, ih, List.forall_mem_cons]

theorem calls_obj_le_iff {members : List (LooseText × Json)} {n : Nat} :
    (obj members).calls ≤ n + 1 ↔ ∀ m ∈ members, m.2.calls ≤ n := by
  rw [← membersCalls_le_iff]
  cases members with
  | nil => simp [calls, membersCalls]
  | cons member members => rw [calls, membersCalls, Nat.succ_le_succ_iff]

mutual

def ShortIntegers : Json → Prop
  | .int n => (Nat.toDigits 10 n.natAbs).length ≤ maxIntegerDigits
  | .arr items => ItemsShort items
  | .obj members => MembersShort members
  | _ => True
termination_by structural value => value

def ItemsShort : List Json → Prop
  | [] => True
  | item :: items => ShortIntegers item ∧ ItemsShort items
termination_by structural items => items

def MembersShort : List (LooseText × Json) → Prop
  | [] => True
  | member :: members => MemberShort member ∧ MembersShort members
termination_by structural members => members

def MemberShort : LooseText × Json → Prop
  | (_, value) => ShortIntegers value
termination_by structural member => member

end

theorem itemsShort_iff {items : List Json} : ItemsShort items ↔ ∀ v ∈ items, v.ShortIntegers := by
  induction items with
  | nil => simp [ItemsShort]
  | cons item items ih => rw [ItemsShort, ih, List.forall_mem_cons]

theorem membersShort_iff {members : List (LooseText × Json)} :
    MembersShort members ↔ ∀ m ∈ members, m.2.ShortIntegers := by
  induction members with
  | nil => simp [MembersShort]
  | cons member members ih =>
    rcases member with ⟨key, value⟩
    rw [MembersShort, MemberShort, ih, List.forall_mem_cons]

theorem readable_iff : Readable v ↔ WellFormed v ∧ v.ShortIntegers := by
  constructor
  . intro h
    refine ⟨h.wellFormed, ?_⟩
    induction h with
    | int h => exact h
    | arr _ ih => exact itemsShort_iff.mpr ih
    | obj _ _ _ ih => exact membersShort_iff.mpr ih
    | _ => trivial
  . rintro ⟨h, hshort⟩
    induction h with
    | null => exact .null
    | bool b => exact .bool b
    | int => exact .int hshort
    | real h => exact .real h
    | str h => exact .str h
    | arr _ ih => exact .arr fun v hv => ih v hv (itemsShort_iff.mp hshort v hv)
    | obj hnodup hkeys _ ih =>
      exact .obj hnodup hkeys fun m hm => ih m hm (membersShort_iff.mp hshort m hm)

/-! Writing. -/

namespace Written

def IsText (short fits : Prop) (text : List Char) (w : Written) : Prop :=
  match w.flaw? with
  | none => w.text = text ∧ short ∧ fits
  | some .integerTooLong => ¬ short
  | some .tooDeep => ¬ fits

variable {short short' fits fits' : Prop} {text text' : List Char} {w w' : Written}

theorem isText_ofText (text : List Char) : IsText True True text (.ofText text) :=
  ⟨rfl, trivial, trivial⟩

theorem IsText.append (h : IsText short fits text w) (h' : IsText short' fits' text' w') :
    IsText (short ∧ short') (fits ∧ fits') (text ++ text') (w ++ w') := by
  rcases w with ⟨_, _ | _ | _⟩
  . rcases h with ⟨rfl, hshort, hfits⟩
    rcases w' with ⟨_, _ | _ | _⟩
    . rcases h' with ⟨rfl, hshort', hfits'⟩
      exact ⟨rfl, ⟨hshort, hshort'⟩, hfits, hfits'⟩
    . exact fun hboth => h' hboth.2
    . exact fun hboth => h' hboth.2
  . exact fun hboth => h hboth.1
  . exact fun hboth => h hboth.1

theorem IsText.inside (nesting depth : Nat) (h : IsText short fits text w) :
    IsText short (depth < nesting ∧ fits) text (writtenInside nesting depth w) := by
  unfold writtenInside
  split
  next hdepth => simpa only [hdepth, true_and] using h
  next hdepth => exact fun hboth => hdepth hboth.1

theorem succ_le_room {n : Nat} :
    n + 1 ≤ nesting - depth ↔ depth < nesting ∧ n ≤ nesting - (depth + 1) := by
  omega

theorem IsText.level {n : Nat}
    (h : IsText short (n ≤ nesting - (depth + 1)) text w) (front : List Char) :
    IsText short (n + 1 ≤ nesting - depth) (front ++ text)
      (.ofText front ++ writtenInside nesting depth w) := by
  have hinside := (isText_ofText front).append (h.inside nesting depth)
  rwa [true_and, true_and, ← succ_le_room] at hinside

end Written

open Written

theorem lt_length_toDigits_pow {size : Nat} (h : 0 < size) :
    size < (Nat.toDigits 10 (Int.natAbs (10 ^ size))).length := by
  have habs : Int.natAbs (10 ^ size) = 10 ^ size := Int.natAbs_pow 10 size
  rw [habs, ← Nat.not_le, Nat.length_toDigits_le_iff (by decide) h]
  exact Nat.lt_irrefl _

theorem written_of_long {n : Int} (h : maxIntegerDigits < (Nat.toDigits 10 n.natAbs).length)
    (nesting depth : Nat) (front : List Char) :
    written nesting depth front (.int n) = .ofFlaw .integerTooLong := by
  change writtenScalar nesting depth front (.int n) = _
  unfold writtenScalar scalarFlaw?
  dsimp only
  rw [if_pos h]

theorem isText_int (front : List Char) (n : Int) :
    IsText (ShortIntegers (.int n)) (calls (.int n) ≤ nesting - depth)
      (front ++ indented depth (.int n)) (written nesting depth front (.int n)) := by
  by_cases hlong : maxIntegerDigits < (Nat.toDigits 10 n.natAbs).length
  . rw [written_of_long hlong]
    exact Nat.not_le.mpr hlong
  . change IsText _ _ _ (writtenScalar nesting depth front (.int n))
    unfold writtenScalar scalarFlaw?
    dsimp only
    rw [if_neg hlong]
    exact ⟨rfl, Nat.not_lt.mp hlong, Nat.zero_le _⟩

theorem isText_real (front : List Char) (x : Number.Real) :
    IsText (ShortIntegers (.real x)) (calls (.real x) ≤ nesting - depth)
      (front ++ indented depth (.real x)) (written nesting depth front (.real x)) := by
  change IsText True (1 ≤ nesting - depth) _ (writtenScalar nesting depth front (.real x))
  unfold writtenScalar scalarFlaw?
  dsimp only
  by_cases hdepth : depth < nesting
  . rw [if_pos hdepth]
    exact ⟨rfl, trivial, by omega⟩
  . rw [if_neg hdepth]
    change ¬ 1 ≤ nesting - depth
    omega

mutual

theorem isText_written (depth : Nat) (front : List Char) : ∀ v : Json,
    IsText v.ShortIntegers (v.calls ≤ nesting - depth) (front ++ indented depth v)
      (written nesting depth front v)
  | .null | .bool _ | .str _ | .arr [] | .obj [] => ⟨rfl, trivial, Nat.zero_le _⟩
  | .int n => isText_int front n
  | .real x => isText_real front x
  | .arr (item :: items) => by
    have hitem := isText_written (depth + 1) ('[' :: lineStart (depth + 1)) item
    have hall := (hitem.append (isText_writtenItems (depth + 1) items)).append
      (isText_ofText (lineStart depth ++ [']']))
    rw [and_true, and_true, ← Nat.max_le] at hall
    have htext : front ++ indented depth (.arr (item :: items)) =
        front ++ ('[' :: lineStart (depth + 1) ++ indented (depth + 1) item ++
          indentedItems (depth + 1) items ++ (lineStart depth ++ [']'])) := by
      simp [indented]
    rw [htext]
    exact hall.level front
  | .obj (member :: members) => by
    have hmember := (isText_ofText ('{' :: lineStart (depth + 1))).append
      (isText_writtenMember (depth + 1) member)
    have hall := (hmember.append (isText_writtenMembers (depth + 1) members)).append
      (isText_ofText (lineStart depth ++ ['}']))
    rw [true_and, true_and, and_true, and_true, ← Nat.max_le] at hall
    have htext : front ++ indented depth (.obj (member :: members)) =
        front ++ ('{' :: lineStart (depth + 1) ++ indentedMember (depth + 1) member ++
          indentedMembers (depth + 1) members ++ (lineStart depth ++ ['}'])) := by
      simp [indented]
    rw [htext]
    exact hall.level front
termination_by structural v => v

theorem isText_writtenItems (depth : Nat) : ∀ items : List Json,
    IsText (ItemsShort items) (itemsCalls items ≤ nesting - depth) (indentedItems depth items)
      (writtenItems nesting depth items)
  | [] => ⟨rfl, trivial, Nat.zero_le _⟩
  | item :: items => by
    have hitem := isText_written depth (',' :: lineStart depth) item
    rw [itemsCalls, Nat.max_le]
    exact hitem.append (isText_writtenItems depth items)
termination_by structural items => items

theorem isText_writtenMembers (depth : Nat) : ∀ members : List (LooseText × Json),
    IsText (MembersShort members) (membersCalls members ≤ nesting - depth)
      (indentedMembers depth members) (writtenMembers nesting depth members)
  | [] => ⟨rfl, trivial, Nat.zero_le _⟩
  | member :: members => by
    have hmember := (isText_ofText (',' :: lineStart depth)).append
      (isText_writtenMember depth member)
    rw [true_and, true_and] at hmember
    rw [membersCalls, Nat.max_le]
    exact hmember.append (isText_writtenMembers depth members)
termination_by structural members => members

theorem isText_writtenMember (depth : Nat) : ∀ member : LooseText × Json,
    IsText (MemberShort member) (memberCalls member ≤ nesting - depth)
      (indentedMember depth member) (writtenMember nesting depth member)
  | (key, value) => by
    have hmember := (isText_ofText (stringText key ++ [':', ' '])).append
      (isText_written depth [] value)
    rw [true_and, true_and] at hmember
    exact hmember
termination_by structural member => member

end

theorem text_eq_error_iff {flaw : WriteFlaw} :
    v.text nesting = .error flaw ↔ (v.written nesting 0 []).flaw? = some flaw := by
  unfold text
  dsimp only
  cases (v.written nesting 0 []).flaw? <;> simp

theorem written_of_text {text : String} (h : v.text nesting = .ok text) :
    v.written nesting 0 [] = .ofText text.toList := by
  unfold Json.text at h
  dsimp only at h
  generalize v.written nesting 0 [] = w at h
  rcases w with ⟨text, _ | flaw⟩
  . cases h
    rw [String.toList_ofList]
    rfl
  . cases h

theorem text_spec (v : Json) (nesting : Nat) :
    match v.text nesting with
    | .ok text => text = v.pretty ∧ v.ShortIntegers ∧ v.calls ≤ nesting
    | .error .integerTooLong => ¬ v.ShortIntegers
    | .error .tooDeep => ¬ v.calls ≤ nesting := by
  have hwritten : IsText v.ShortIntegers (v.calls ≤ nesting) (indented 0 v)
    (written nesting 0 [] v) := isText_written 0 [] v
  unfold text
  dsimp only
  generalize written nesting 0 [] v = w at hwritten
  rcases w with ⟨_, _ | _ | _⟩
  . exact ⟨congrArg String.ofList hwritten.1, hwritten.2⟩
  . exact hwritten
  . exact hwritten

theorem text_eq_ok_iff {text : String} :
    v.text nesting = .ok text ↔ text = v.pretty ∧ v.ShortIntegers ∧ v.calls ≤ nesting := by
  have hspec := text_spec v nesting
  constructor
  . intro htext
    rwa [htext] at hspec
  . rintro ⟨rfl, hshort, hcalls⟩
    split at hspec
    next htext => rw [htext, hspec.1]
    next => exact absurd hshort hspec
    next => exact absurd hcalls hspec

/-! Reading. -/

def ReadError.IsDeep (e : ReadError) : Prop :=
  e.flaw = .arrayTooDeep ∨ e.flaw = .objectTooDeep

/-- The same is read, unless there is no room. -/
def SameUnlessDeep {α : Type} (first second : Except ReadError α) : Prop :=
  first = second ∨ ∃ e : ReadError, first = .error e ∧ e.IsDeep

theorem SameUnlessDeep.bind {α β : Type} {first second : Except ReadError α}
    {f g : α → Except ReadError β} (h : SameUnlessDeep first second)
    (hnext : ∀ a, SameUnlessDeep (f a) (g a)) : SameUnlessDeep (first >>= f) (second >>= g) := by
  rcases h with rfl | ⟨e, rfl, he⟩
  . cases first with
    | ok a => exact hnext a
    | error e => exact .inl rfl
  . exact .inr ⟨e, rfl, he⟩

structure ReadsAlike (fuel : Nat) : Prop where
  value : ∀ {room more cs offset}, room ≤ more →
    SameUnlessDeep (readValue fuel room cs offset) (readValue fuel more cs offset)
  items : ∀ {room more acc cs offset}, room ≤ more →
    SameUnlessDeep (readItems fuel room acc cs offset) (readItems fuel more acc cs offset)
  members : ∀ {room more acc cs offset}, room ≤ more →
    SameUnlessDeep (readMembers fuel room acc cs offset) (readMembers fuel more acc cs offset)

variable {fuel room more offset : Nat} {cs : List Char}

theorem ReadsAlike.readValue (ih : ReadsAlike fuel) (h : room ≤ more) :
    SameUnlessDeep (readValue (fuel + 1) room cs offset) (readValue (fuel + 1) more cs offset) := by
  rw [readValue.eq_def, readValue.eq_def (fuel + 1) more]
  dsimp only
  split
  case h_2 =>
    by_cases hroom : room = 0
    . rw [if_pos hroom]
      exact .inr ⟨_, rfl, .inr rfl⟩
    . rw [if_neg hroom, if_neg (by omega)]
      split
      . exact .inl rfl
      . exact ih.members (by omega)
  case h_3 =>
    by_cases hroom : room = 0
    . rw [if_pos hroom]
      exact .inr ⟨_, rfl, .inl rfl⟩
    . rw [if_neg hroom, if_neg (by omega)]
      split
      . exact .inl rfl
      . exact ih.items (by omega)
  all_goals exact .inl rfl

theorem ReadsAlike.readItems (ih : ReadsAlike fuel) (h : room ≤ more) {acc : List Json} :
    SameUnlessDeep (readItems (fuel + 1) room acc cs offset)
      (readItems (fuel + 1) more acc cs offset) := by
  rw [Json.readItems, Json.readItems]
  refine (ih.value h).bind fun item => ?_
  split
  . exact .inl rfl
  . exact ih.items h
  . exact .inl rfl

theorem ReadsAlike.readMembers (ih : ReadsAlike fuel) (h : room ≤ more)
    {acc : List (LooseText × Json)} :
    SameUnlessDeep (readMembers (fuel + 1) room acc cs offset)
      (readMembers (fuel + 1) more acc cs offset) := by
  rw [readMembers.eq_def, readMembers.eq_def (fuel + 1) more]
  dsimp only
  split
  . refine SameUnlessDeep.bind (.inl rfl) fun key => ?_
    split
    . refine (ih.value h).bind fun value => ?_
      split
      . exact .inl rfl
      . exact ih.members h
      . exact .inl rfl
    . exact .inl rfl
  . exact .inl rfl

theorem readsAlike (fuel : Nat) : ReadsAlike fuel := by
  induction fuel with
  | zero => exact ⟨fun _ => .inl rfl, fun _ => .inl rfl, fun _ => .inl rfl⟩
  | succ fuel ih => exact ⟨ih.readValue, fun h => ih.readItems h, fun h => ih.readMembers h⟩

theorem read_sameUnlessDeep (text : String) (h : room ≤ more) :
    SameUnlessDeep (Json.read text room) (Json.read text more) := by
  unfold Json.read
  split
  . exact .inl rfl
  . exact ((readsAlike _).value h).bind fun _ => .inl rfl

theorem read_pretty_of_deep (h : v.Readable) (hroom : room < v.levels) :
    ∃ e : ReadError, Json.read v.pretty room = .error e ∧ e.IsDeep := by
  have hsame := read_sameUnlessDeep v.pretty (Nat.le_of_lt hroom)
  rw [read_pretty h (Nat.le_refl _)] at hsame
  rcases hsame with hread | hdeep
  . exact absurd (readableIn_of_read hread).levels_le (Nat.not_le.mpr hroom)
  . exact hdeep

end QueryLinker.Json
