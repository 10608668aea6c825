import Mathlib.Data.List.Basic
import Mathlib.Data.List.TakeWhile
import QueryLinker.Proofs.Text.Utf8
import QueryLinker.Text.Words

/-!
This module contains a grammar of words and that texts are cut by it: `IsWords` says which words a
text has without saying how they are found. From this it follows what kebab case keeps of a text,
which is everything but the case and the characters between the words.
-/

namespace QueryLinker.Text

section Grammar

/-- The piece in front of `rest` is of the kind, and no longer one is. -/
def Longest (IsPiece : List Char → List Char → Prop) (piece rest : List Char) : Prop :=
  IsPiece piece rest ∧
    ∀ more rest', rest = more ++ rest' → IsPiece (piece ++ more) rest' → more = []

def IsRun (isMember : Char → Bool) (run _rest : List Char) : Prop :=
  run ≠ [] ∧ ∀ c ∈ run, isMember c

def IsAcronym (token rest : List Char) : Prop :=
  token ≠ [] ∧ (∀ c ∈ token, isUpper c) ∧ ∀ c ∈ rest.head?, isUpper c

def IsCapitalized (token _rest : List Char) : Prop :=
  ∃ capital small, token = capital ++ small ∧ capital.length ≤ 1 ∧ (∀ c ∈ capital, isUpper c) ∧
    small ≠ [] ∧ ∀ c ∈ small, isUpper c = false

inductive IsToken (token rest : List Char) : Prop where
  | acronym (htoken : Longest IsAcronym token rest)
  | capitalized
      (hnone : ∀ token' rest', token' ++ rest' = token ++ rest → ¬IsAcronym token' rest')
      (htoken : Longest IsCapitalized token rest)

inductive IsTokens : List Char → List (List Char) → Prop where
  | nil : IsTokens [] []
  | cons {token rest : List Char} {tokens : List (List Char)} (htoken : IsToken token rest)
      (hrest : IsTokens rest tokens) : IsTokens (token ++ rest) (token :: tokens)

/-- The words of a text: its runs of digits, and the tokens of its runs of letters. -/
inductive IsWords : List Char → List (List Char) → Prop where
  | nil : IsWords [] []
  | separator {c : Char} {rest : List Char} {ws : List (List Char)}
      (hc : isAlphanumeric c = false) (hrest : IsWords rest ws) : IsWords (c :: rest) ws
  | digits {run rest : List Char} {ws : List (List Char)}
      (hrun : Longest (IsRun isDigit) run rest) (hrest : IsWords rest ws) :
      IsWords (run ++ rest) (run :: ws)
  | letters {run rest : List Char} {tokens ws : List (List Char)}
      (hrun : Longest (IsRun isLetter) run rest) (htokens : IsTokens run tokens)
      (hrest : IsWords rest ws) : IsWords (run ++ rest) (tokens ++ ws)

end Grammar

section Classes

variable {c : Char}

-- The tables are compared with `Nat.ble`, which the kernel evaluates in one step.
theorem inRanges_mono {small large : List (Nat × Nat)}
    (h : small.all fun r => large.any fun r' => r'.1.ble r.1 && r.2.ble r'.2)
    (hc : inRanges small c) : inRanges large c := by
  simp only [inRanges, List.any_eq_true, List.all_eq_true, Bool.and_eq_true, Nat.ble_eq,
    decide_eq_true_eq] at h hc ⊢
  rcases hc with ⟨r, hr, hfirst, hlast⟩
  rcases h r hr with ⟨r', hr', hfirst', hlast'⟩
  exact ⟨r', hr', by omega, by omega⟩

theorem inSteppedRanges_eq_false {ranges : List (Nat × Nat)} {stepped : List SteppedRange}
    (h : ranges.all fun r => stepped.all fun r' => r.2.succ.ble r'.first || r'.last.succ.ble r.1)
    (hc : inRanges ranges c) : inSteppedRanges stepped c = false := by
  simp only [inRanges, List.any_eq_true, List.all_eq_true, Bool.and_eq_true, Bool.or_eq_true,
    Nat.ble_eq, decide_eq_true_eq] at h hc
  rcases hc with ⟨r, hr, hfirst, hlast⟩
  simp only [inSteppedRanges, List.any_eq_false, SteppedRange.contains, Bool.and_eq_true,
    decide_eq_true_eq]
  intro r' hr'
  have := h r hr r' hr'
  omega

theorem isAlphanumeric_of_isDigit (h : isDigit c) : isAlphanumeric c :=
  inRanges_mono (by decide +kernel) h

theorem isUpper_eq_false_of_isDigit (h : isDigit c) : isUpper c = false :=
  inSteppedRanges_eq_false (by decide +kernel) h

theorem isAlphanumeric_of_isLetter (h : isLetter c) : isAlphanumeric c := by
  simp only [isLetter, Bool.and_eq_true] at h
  exact h.1

theorem isDigit_eq_false_of_isLetter (h : isLetter c) : isDigit c = false := by
  simp only [isLetter, Bool.and_eq_true, Bool.not_eq_true'] at h
  exact h.2

theorem isAlphanumeric_eq_false_iff :
    isAlphanumeric c = false ↔ isDigit c = false ∧ isLetter c = false := by
  constructor
  . intro h
    refine ⟨?_, by simp [isLetter, h]⟩
    rw [← Bool.not_eq_true]
    intro hdigit
    simp [isAlphanumeric_of_isDigit hdigit] at h
  . rintro ⟨hdigit, hletter⟩
    simpa [isLetter, hdigit] using hletter

end Classes

section Runs

variable {isMember : Char → Bool} {c d : Char} {cs run rest : List Char}

theorem Longest.not_longer {IsPiece : List Char → List Char → Prop} {piece : List Char}
    (h : Longest IsPiece piece (d :: rest)) : ¬IsPiece (piece ++ [d]) rest := by
  intro hlonger
  have := h.2 [d] rest rfl hlonger
  simp at this

theorem longest_run (hc : isMember c) (cs : List Char) :
    Longest (IsRun isMember) (c :: cs.takeWhile isMember) (cs.dropWhile isMember) := by
  refine ⟨⟨by simp, ?_⟩, ?_⟩
  . intro d hd
    rcases List.mem_cons.mp hd with rfl | hd
    . exact hc
    . exact List.mem_takeWhile_imp hd
  . intro more rest' hrest hlonger
    cases more with
    | nil => rfl
    | cons d more =>
      have hd := List.head?_dropWhile_not isMember cs
      simp [hrest, hlonger.2 d (by simp)] at hd

theorem eq_cons_of_longest_run (h : Longest (IsRun isMember) run rest) :
    ∃ c cs, run = c :: cs ∧ isMember c ∧ (cs ++ rest).takeWhile isMember = cs ∧
      (cs ++ rest).dropWhile isMember = rest := by
  rcases List.exists_cons_of_ne_nil h.1.1 with ⟨c, cs, rfl⟩
  have hmembers : ∀ d ∈ cs, isMember d := fun d hd => h.1.2 d (List.mem_cons_of_mem c hd)
  refine ⟨c, cs, rfl, h.1.2 c (by simp), ?_⟩
  rw [List.takeWhile_append_of_pos hmembers, List.dropWhile_append_of_pos hmembers]
  cases rest with
  | nil => simp
  | cons d rest =>
    have hd : isMember d = false := by
      rw [← Bool.not_eq_true]
      intro hd
      have hmembers := List.forall_mem_append.mpr ⟨h.1.2, List.forall_mem_singleton.mpr hd⟩
      exact h.not_longer ⟨by simp, hmembers⟩
    simp [hd]

theorem runs_separator (hc : isAlphanumeric c = false) : runs (c :: cs) = runs cs := by
  rcases isAlphanumeric_eq_false_iff.mp hc with ⟨hdigit, hletter⟩
  rw [runs, if_neg (by simp [hdigit]), if_neg (by simp [hletter])]

theorem runs_digits (h : Longest (IsRun isDigit) run rest) :
    runs (run ++ rest) = run :: runs rest := by
  rcases eq_cons_of_longest_run h with ⟨c, cs, rfl, hc, htake, hdrop⟩
  rw [List.cons_append, runs, if_pos hc, htake, hdrop]

theorem runs_letters (h : Longest (IsRun isLetter) run rest) :
    runs (run ++ rest) = run :: runs rest := by
  rcases eq_cons_of_longest_run h with ⟨c, cs, rfl, hc, htake, hdrop⟩
  rw [List.cons_append, runs, if_neg (by simp [isDigit_eq_false_of_isLetter hc]), if_pos hc, htake,
    hdrop]

end Runs

section Tokens

variable {word token mid rest : List Char} {previous : Char}

def StartsAfter (previous : Char) (rest : List Char) : Prop :=
  ∀ d rest', rest = d :: rest' → startsWord previous d rest'

theorem go_of_startsAfter (h : StartsAfter previous rest) :
    splitCase.go word previous rest = word.reverse :: splitCase rest := by
  cases rest with
  | nil => rfl
  | cons d rest => rw [splitCase.go, if_pos (h d rest rfl), splitCase]

theorem go_uppers (hprevious : isUpper previous) (hmid : ∀ c ∈ mid, isUpper c)
    (hrest : ∀ c ∈ rest.head?, isUpper c)
    (hstarts : ∀ last, isUpper last → StartsAfter last rest) :
    splitCase.go word previous (mid ++ rest) = (word.reverse ++ mid) :: splitCase rest := by
  induction mid generalizing word previous with
  | nil => rw [List.nil_append, go_of_startsAfter (hstarts previous hprevious), List.append_nil]
  | cons c mid ih =>
    have hnext : ∀ d ∈ (mid ++ rest).head?, isUpper d := by
      cases mid with
      | nil => exact hrest
      | cons d mid => simpa using hmid d (by simp)
    have hstays : startsWord previous c (mid ++ rest) = false := by
      unfold startsWord
      cases hhead : (mid ++ rest).head? with
      | none => simp [hprevious]
      | some d => simp [hprevious, hnext d hhead]
    rw [List.cons_append, splitCase.go, hstays, if_neg (by simp),
      ih (hmid c (by simp)) (fun d hd => hmid d (List.mem_cons_of_mem c hd))]
    simp

theorem go_smalls (hprevious : isUpper previous = false) (hmid : ∀ c ∈ mid, isUpper c = false)
    (hstarts : ∀ last, isUpper last = false → StartsAfter last rest) :
    splitCase.go word previous (mid ++ rest) = (word.reverse ++ mid) :: splitCase rest := by
  induction mid generalizing word previous with
  | nil => rw [List.nil_append, go_of_startsAfter (hstarts previous hprevious), List.append_nil]
  | cons c mid ih =>
    have hc := hmid c (by simp)
    rw [List.cons_append, splitCase.go, startsWord, hc, if_neg (by simp),
      ih hc (fun d hd => hmid d (List.mem_cons_of_mem c hd))]
    simp

theorem splitCase_acronym (h : Longest IsAcronym token rest) :
    splitCase (token ++ rest) = token :: splitCase rest := by
  rcases h.1 with ⟨hne, huppers, hhead⟩
  rcases List.exists_cons_of_ne_nil hne with ⟨c, mid, rfl⟩
  rw [List.cons_append, splitCase, go_uppers (huppers c (by simp)) _ hhead _]
  . simp
  . intro d hd
    exact huppers d (List.mem_cons_of_mem c hd)
  . rintro last hlast d rest rfl
    have hd : isUpper d := hhead d (by simp)
    -- The token would be longer if the character after `d` were not a small one.
    have hsmall : ¬∀ e ∈ rest.head?, isUpper e := by
      intro hrest
      have hmembers := List.forall_mem_append.mpr ⟨huppers, List.forall_mem_singleton.mpr hd⟩
      exact h.not_longer ⟨by simp, hmembers, hrest⟩
    cases rest with
    | nil => simp at hsmall
    | cons e rest =>
      simp only [List.head?_cons, Option.mem_def, Option.some.injEq, forall_eq'] at hsmall
      simp [startsWord, hd, hsmall]

theorem splitCase_capitalized (h : Longest IsCapitalized token rest) :
    splitCase (token ++ rest) = token :: splitCase rest := by
  rcases h.1 with ⟨capital, small, rfl, hlength, hcapital, hne, hsmall⟩
  have hstarts (last : Char) (hlast : isUpper last = false) : StartsAfter last rest := by
    rintro d rest rfl
    have hd : isUpper d := by
      rw [← Bool.not_eq_false]
      intro hd
      have hmembers := List.forall_mem_append.mpr ⟨hsmall, List.forall_mem_singleton.mpr hd⟩
      exact h.not_longer ⟨capital, small ++ [d], by simp, hlength, hcapital, by simp, hmembers⟩
    simp [startsWord, hd, hlast]
  rcases List.exists_cons_of_ne_nil hne with ⟨s, small, rfl⟩
  have hs := hsmall s (by simp)
  have hrest : ∀ c ∈ small, isUpper c = false := fun c hc => hsmall c (List.mem_cons_of_mem s hc)
  match capital with
  | [] =>
    rw [List.nil_append, List.cons_append, splitCase, go_smalls hs hrest hstarts]
    simp
  | [c] =>
    rw [List.append_assoc, List.singleton_append, List.cons_append, splitCase, splitCase.go,
      startsWord, hs, if_neg (by simp), go_smalls hs hrest hstarts]
    simp
  | c :: d :: capital => simp at hlength

theorem splitCase_token (h : IsToken token rest) :
    splitCase (token ++ rest) = token :: splitCase rest := by
  cases h with
  | acronym htoken => exact splitCase_acronym htoken
  | capitalized _ htoken => exact splitCase_capitalized htoken

theorem IsTokens.splitCase_eq {run : List Char} {tokens : List (List Char)}
    (h : IsTokens run tokens) : splitCase run = tokens := by
  induction h with
  | nil => rfl
  | cons htoken _ ih => rw [splitCase_token htoken, ih]

theorem splitCase_digits {run : List Char} (h : IsRun isDigit run rest) :
    splitCase run = [run] := by
  rcases List.exists_cons_of_ne_nil h.1 with ⟨c, cs, rfl⟩
  have hsmall : ∀ d ∈ c :: cs, isUpper d = false :=
    fun d hd => isUpper_eq_false_of_isDigit (h.2 d hd)
  have hgo : splitCase.go [c] c (cs ++ []) = ([c].reverse ++ cs) :: splitCase [] :=
    go_smalls (hsmall c (by simp)) (fun d hd => hsmall d (List.mem_cons_of_mem c hd))
      (by simp [StartsAfter])
  simpa [splitCase] using hgo

theorem IsAcronym.length_lt {uppers : List Char} {s : Char} {rest' : List Char}
    (h : IsAcronym token rest') (htext : token ++ rest' = uppers ++ s :: rest)
    (hs : isUpper s = false) : token.length < uppers.length := by
  rcases h with ⟨_, htoken, hhead⟩
  rcases List.append_eq_append_iff.mp htext with ⟨more, rfl, rfl⟩ | ⟨more, rfl, hmore⟩
  . cases more with
    | nil => simp [hs] at hhead
    | cons d more => simp
  . cases more with
    | nil =>
      simp only [List.nil_append] at hmore
      simp [← hmore, hs] at hhead
    | cons d more =>
      simp only [List.cons_append, List.cons.injEq] at hmore
      have := htoken d (by simp)
      simp [← hmore.1, hs] at this

theorem IsCapitalized.small_of_mem_tail (h : IsCapitalized token rest) :
    ∀ c ∈ token.tail, isUpper c = false := by
  rcases h with ⟨capital, small, rfl, hlength, _, _, hsmall⟩
  intro c hc
  apply hsmall
  match capital with
  | [] => exact List.mem_of_mem_tail hc
  | [_] => exact hc
  | _ :: _ :: _ => simp at hlength

theorem longest_capitalized {capital : List Char} {s : Char} (hlength : capital.length ≤ 1)
    (hcapital : ∀ c ∈ capital, isUpper c) (hs : isUpper s = false) (cs : List Char) :
    Longest IsCapitalized (capital ++ s :: cs.takeWhile fun c => !isUpper c)
      (cs.dropWhile fun c => !isUpper c) := by
  constructor
  . refine ⟨capital, _, rfl, hlength, hcapital, by simp, ?_⟩
    intro c hc
    rcases List.mem_cons.mp hc with rfl | hc
    . exact hs
    . simpa using List.mem_takeWhile_imp hc
  . intro more rest' hrest hlonger
    cases more with
    | nil => rfl
    | cons d more =>
      have hd := List.head?_dropWhile_not (fun c => !isUpper c) cs
      have hsmall := hlonger.small_of_mem_tail d
      rw [List.tail_append_of_ne_nil (by simp)] at hsmall
      simp [hrest, hsmall] at hd

theorem longest_acronym {front : List Char} {last s : Char} (hne : front ≠ [])
    (huppers : ∀ c ∈ front ++ [last], isUpper c) (hs : isUpper s = false) (rest : List Char) :
    Longest IsAcronym front (last :: s :: rest) := by
  refine ⟨⟨hne, ?_, ?_⟩, ?_⟩
  . intro c hc
    exact huppers c (List.mem_append_left [last] hc)
  . simpa using huppers last (by simp)
  . intro more rest' hrest hlonger
    have htext : (front ++ more) ++ rest' = (front ++ [last]) ++ s :: rest := by
      rw [List.append_assoc, ← hrest]
      simp
    have := hlonger.length_lt htext hs
    rw [List.length_append, List.length_append, List.length_singleton] at this
    rw [← List.length_eq_zero_iff]
    omega

theorem exists_token {cs : List Char} (hne : cs ≠ []) :
    ∃ token rest, cs = token ++ rest ∧ IsToken token rest := by
  have huppers : ∀ c ∈ cs.takeWhile isUpper, isUpper c := fun c hc => List.mem_takeWhile_imp hc
  have hhead := List.head?_dropWhile_not isUpper cs
  rw [← List.takeWhile_append_dropWhile (p := isUpper) (l := cs)] at hne ⊢
  generalize cs.takeWhile isUpper = uppers at huppers hne ⊢
  generalize cs.dropWhile isUpper = rest at hhead hne ⊢
  cases rest with
  | nil =>
    rw [List.append_nil] at hne
    refine ⟨uppers, [], rfl, .acronym ⟨⟨hne, huppers, by simp⟩, ?_⟩⟩
    intro more rest' hrest _
    exact (List.append_eq_nil_iff.mp hrest.symm).1
  | cons s rest =>
    have hs : isUpper s = false := by simpa using hhead
    by_cases hlength : uppers.length ≤ 1
    . refine ⟨_, _, ?_, .capitalized ?_ (longest_capitalized hlength huppers hs rest)⟩
      . simp
      . intro token rest' htext hacronym
        have := hacronym.length_lt (by simpa using htext) hs
        have := List.length_pos_iff_ne_nil.mpr hacronym.1
        omega
    . rcases List.eq_nil_or_concat' uppers with rfl | ⟨front, last, rfl⟩
      . simp at hlength
      . have hfront : front ≠ [] := by
          rintro rfl
          simp at hlength
        exact ⟨front, _, by simp, .acronym (longest_acronym hfront huppers hs rest)⟩

theorem IsToken.ne_nil (h : IsToken token rest) : token ≠ [] := by
  cases h with
  | acronym htoken => exact htoken.1.1
  | capitalized _ htoken =>
    rcases htoken.1 with ⟨capital, small, rfl, _, _, hsmall, _⟩
    simp [hsmall]

theorem exists_isTokens (run : List Char) : ∃ tokens, IsTokens run tokens := by
  by_cases hne : run = []
  . exact ⟨[], hne ▸ .nil⟩
  . rcases exists_token hne with ⟨token, rest, rfl, htoken⟩
    have hshorter : rest.length < (token ++ rest).length := by
      have := List.length_pos_iff_ne_nil.mpr htoken.ne_nil
      rw [List.length_append]
      omega
    rcases exists_isTokens rest with ⟨tokens, hrest⟩
    exact ⟨token :: tokens, .cons htoken hrest⟩
termination_by run.length

end Tokens

section Words

variable {c : Char} {cs : List Char} {ws vs : List (List Char)}

theorem words_separator (hc : isAlphanumeric c = false) : words (c :: cs) = words cs := by
  rw [words, runs_separator hc, words]

theorem IsWords.words_eq (h : IsWords cs ws) : words cs = ws := by
  induction h with
  | nil => simp [words, runs]
  | separator hc _ ih => rwa [words_separator hc]
  | digits hrun _ ih =>
    rw [words, runs_digits hrun, List.flatMap_cons, splitCase_digits hrun.1, List.singleton_append]
    exact congrArg _ ih
  | letters hrun htokens _ ih =>
    rw [words, runs_letters hrun, List.flatMap_cons, htokens.splitCase_eq]
    exact congrArg _ ih

theorem exists_isWords (cs : List Char) : ∃ ws, IsWords cs ws := by
  fun_induction runs cs with
  | case1 => exact ⟨[], .nil⟩
  | case2 c cs hdigit ih =>
    rcases ih with ⟨ws, hws⟩
    have hwords := IsWords.digits (longest_run hdigit cs) hws
    rw [List.cons_append, List.takeWhile_append_dropWhile] at hwords
    exact ⟨_, hwords⟩
  | case3 c cs _ hletter ih =>
    rcases ih with ⟨ws, hws⟩
    rcases exists_isTokens (c :: cs.takeWhile isLetter) with ⟨tokens, htokens⟩
    have hwords := IsWords.letters (longest_run hletter cs) htokens hws
    rw [List.cons_append, List.takeWhile_append_dropWhile] at hwords
    exact ⟨_, hwords⟩
  | case4 c cs hdigit hletter ih =>
    rcases ih with ⟨ws, hws⟩
    rw [Bool.not_eq_true] at hdigit hletter
    exact ⟨ws, .separator (isAlphanumeric_eq_false_iff.mpr ⟨hdigit, hletter⟩) hws⟩

theorem isWords_iff : IsWords cs ws ↔ words cs = ws := by
  constructor
  . exact IsWords.words_eq
  . rintro rfl
    rcases exists_isWords cs with ⟨ws, hws⟩
    rwa [hws.words_eq]

theorem IsTokens.ne_nil {run : List Char} (h : IsTokens run ws) : ∀ w ∈ ws, w ≠ [] := by
  induction h with
  | nil => simp
  | cons htoken _ ih => exact List.forall_mem_cons.mpr ⟨htoken.ne_nil, ih⟩

theorem IsTokens.flatten_eq {run : List Char} (h : IsTokens run ws) : ws.flatten = run := by
  induction h with
  | nil => rfl
  | cons _ _ ih => rw [List.flatten_cons, ih]

theorem IsWords.ne_nil (h : IsWords cs ws) : ∀ w ∈ ws, w ≠ [] := by
  induction h with
  | nil => simp
  | separator _ _ ih => exact ih
  | digits hrun _ ih => exact List.forall_mem_cons.mpr ⟨hrun.1.1, ih⟩
  | letters _ htokens _ ih => exact List.forall_mem_append.mpr ⟨htokens.ne_nil, ih⟩

theorem IsWords.flatten_eq (h : IsWords cs ws) : ws.flatten = cs.filter isAlphanumeric := by
  induction h with
  | nil => rfl
  | separator hc _ ih => rw [ih, List.filter_cons_of_neg (by simp [hc])]
  | digits hrun _ ih =>
    have hmembers : ∀ c ∈ _, isAlphanumeric c :=
      fun c hc => isAlphanumeric_of_isDigit (hrun.1.2 c hc)
    rw [List.flatten_cons, ih, List.filter_append, List.filter_eq_self.mpr hmembers]
  | letters hrun htokens _ ih =>
    have hmembers : ∀ c ∈ _, isAlphanumeric c :=
      fun c hc => isAlphanumeric_of_isLetter (hrun.1.2 c hc)
    rw [List.flatten_append, htokens.flatten_eq, ih, List.filter_append,
      List.filter_eq_self.mpr hmembers]

theorem IsWords.isAlphanumeric_of_mem (h : IsWords cs ws) :
    ∀ w ∈ ws, ∀ c ∈ w, isAlphanumeric c := by
  intro w hw c hc
  have hmem : c ∈ ws.flatten := List.mem_flatten_of_mem hw hc
  rw [h.flatten_eq] at hmem
  exact List.of_mem_filter hmem

end Words

section LowerCase

variable {c : Char} {cs before : List Char}

theorem toNat_ofNat_eq (n : Nat) : (Char.ofNat n).toNat = n ∨ (Char.ofNat n).toNat = 0 := by
  by_cases h : n.isValidChar
  . have heq : Char.ofNat n = Char.ofNatAux n h := dif_pos h
    exact .inl (congrArg Char.toNat heq)
  . have heq : Char.ofNat n = '\x00' := dif_neg h
    exact .inr (congrArg Char.toNat heq)

theorem exists_of_shift {ranges : List ShiftedRange} (h : shift ranges c = d) (hd : d.toNat ≠ 0) :
    c = d ∨ ∃ r ∈ ranges, r.first ≤ c.toNat ∧ c.toNat ≤ r.last ∧
      (c.toNat : Int) + r.offset = d.toNat := by
  unfold shift at h
  split at h
  next r hfind =>
    refine .inr ⟨r, List.mem_of_find?_eq_some hfind, ?_⟩
    have hcontains : r.contains c := by simpa using List.find?_some hfind
    simp only [ShiftedRange.contains, SteppedRange.contains, Bool.and_eq_true,
      decide_eq_true_eq] at hcontains
    refine ⟨hcontains.1.1, hcontains.1.2, ?_⟩
    have hvalue := congrArg Char.toNat h
    rcases toNat_ofNat_eq (Int.toNat (c.toNat + r.offset)) with hvalid | hzero <;> omega
  next => exact .inl h

theorem shift_ne_hyphen {ranges : List ShiftedRange}
    (h : ranges.all fun range => 45 < range.first + range.offset) (hc : c ≠ '-') :
    shift ranges c ≠ '-' := by
  intro heq
  rcases exists_of_shift heq (by decide) with hsame | ⟨range, hrange, hfirst, -, hsum⟩
  . exact hc hsame
  . have hafter : (45 : Int) < range.first + range.offset := by
      simpa using List.all_eq_true.mp h range hrange
    change (c.toNat : Int) + range.offset = 45 at hsum
    omega

theorem hyphen_not_mem_lowerChar (hc : isAlphanumeric c) : '-' ∉ lowerChar c := by
  have hne : c ≠ '-' := by
    rintro rfl
    revert hc
    decide +kernel
  unfold lowerChar
  split
  . decide
  . simpa using (shift_ne_hyphen (by decide +kernel) hne).symm

theorem hyphen_not_mem_lowerFrom (h : ∀ c ∈ cs, isAlphanumeric c) :
    '-' ∉ lowerFrom before cs := by
  induction cs generalizing before with
  | nil => simp [lowerFrom]
  | cons c cs ih =>
    rw [List.forall_mem_cons] at h
    rw [lowerFrom, List.mem_append, not_or]
    refine ⟨?_, ih h.2⟩
    split
    . split <;> decide
    . exact hyphen_not_mem_lowerChar h.1

theorem lowerList_ne_nil (hne : cs ≠ []) : lowerList cs ≠ [] := by
  rcases List.exists_cons_of_ne_nil hne with ⟨c, cs, rfl⟩
  rw [lowerList, lowerFrom]
  intro hnil
  have hlowered := (List.append_eq_nil_iff.mp hnil).1
  revert hlowered
  split
  . split <;> simp
  . unfold lowerChar
    split <;> simp

end LowerCase

theorem intercalate_inj {joint : Char} {xs ys : List (List Char)}
    (hxs : ∀ x ∈ xs, x ≠ [] ∧ joint ∉ x) (hys : ∀ y ∈ ys, y ≠ [] ∧ joint ∉ y) :
    [joint].intercalate xs = [joint].intercalate ys ↔ xs = ys := by
  have hempty {zs : List (List Char)} (hzs : ∀ z ∈ zs, z ≠ [] ∧ joint ∉ z)
      (hnil : [joint].intercalate zs = []) : zs = [] := by
    rcases zs with _ | ⟨z, _ | ⟨z', zs⟩⟩
    . rfl
    . simp at hnil
      exact absurd hnil (hzs z (by simp)).1
    . simp at hnil
  constructor
  . intro heq
    by_cases hnil : xs = [] ∨ ys = []
    . rcases hnil with rfl | rfl
      . exact (hempty hys heq.symm).symm
      . exact hempty hxs heq
    . rw [not_or] at hnil
      have hsplit := congrArg (List.splitOn joint) heq
      rwa [List.splitOn_intercalate joint (fun x hx => (hxs x hx).2) hnil.1,
        List.splitOn_intercalate joint (fun y hy => (hys y hy).2) hnil.2] at hsplit
  . rintro rfl
    rfl

theorem toList_kebabCase (s : String) :
    (kebabCase s).toList = ['-'].intercalate ((words s.toList).map lowerList) := by
  rw [kebabCase, String.toList_intercalate, List.map_map]
  congr 1
  simp [Function.comp_def]

/--
Each text has one list of words, and kebab case joins them in lower case. It keeps of a text what
the words are in lower case, and nothing more.
-/
theorem kebabCase_joins_words :
    (∀ cs, ∃! ws, IsWords cs ws) ∧
    ∀ s ws, IsWords s.toList ws →
      kebabCase s = "-".intercalate (ws.map fun word => String.ofList (lowerList word)) ∧
      (∀ w ∈ ws, w ≠ []) ∧
      ws.flatten = s.toList.filter isAlphanumeric ∧
      ∀ t vs, IsWords t.toList vs →
        (kebabCase s = kebabCase t ↔ ws.map lowerList = vs.map lowerList) := by
  refine ⟨fun cs => ⟨words cs, isWords_iff.mpr rfl, fun ws hws => hws.words_eq.symm⟩, ?_⟩
  intro s ws hws
  refine ⟨?_, hws.ne_nil, hws.flatten_eq, ?_⟩
  . rw [kebabCase, hws.words_eq]
  . intro t vs hvs
    have hlowered {cs : List Char} {us : List (List Char)} (hus : IsWords cs us) :
        ∀ u ∈ us.map lowerList, u ≠ [] ∧ '-' ∉ u := by
      rw [List.forall_mem_map]
      intro w hw
      exact ⟨lowerList_ne_nil (hus.ne_nil w hw),
        hyphen_not_mem_lowerFrom (hus.isAlphanumeric_of_mem w hw)⟩
    rw [← String.toList_inj, toList_kebabCase, toList_kebabCase, hws.words_eq, hvs.words_eq,
      intercalate_inj (hlowered hws) (hlowered hvs)]

example : kebabCase "src/XMLHttpThing2.js" = "src-xml-http-thing-2-js" := by decide +kernel

/-!
What kebab case keeps of the single letters of a text is which letters they are up to their case. So
two texts whose letters are different ones at some place stay different, as long as the letters are
beyond ASCII wherever the texts differ.
-/

section Letters

def isForeignLetter (c : Char) : Bool :=
  isLetter c && !isAscii c

def Exchangeable (c d : Char) : Prop :=
  c = d ∨ isForeignLetter c ∧ isForeignLetter d

def caseless (c : Char) : List Char :=
  if c == 'ς' then ['σ'] else lowerChar c

variable {c d : Char}

theorem isAscii_eq_false_of_isForeignLetter (h : isForeignLetter c) : isAscii c = false := by
  simp only [isForeignLetter, Bool.and_eq_true, Bool.not_eq_true'] at h
  exact h.2

theorem Exchangeable.eq_iff {e : Char} (h : Exchangeable c d) (he : isAscii e) :
    c = e ↔ d = e := by
  rcases h with rfl | ⟨hc, hd⟩
  . rfl
  . have hne {x : Char} (hx : isForeignLetter x) : x ≠ e := by
      rintro rfl
      rw [isAscii_eq_false_of_isForeignLetter hx] at he
      cases he
    exact ⟨fun heq => absurd heq (hne hc), fun heq => absurd heq (hne hd)⟩

theorem shift_ne_final (hc : c ≠ 'ς') : shift lowerOffsets c ≠ 'ς' := by
  have htable : lowerOffsets.all fun r => 962 - r.offset < r.first || r.last < 962 - r.offset := by
    decide +kernel
  intro h
  rcases exists_of_shift h (by decide) with heq | ⟨r, hr, hfirst, hlast, hsum⟩
  . exact hc heq
  . have hrange := List.all_eq_true.mp htable r hr
    change (c.toNat : Int) + r.offset = 962 at hsum
    simp only [Bool.or_eq_true, decide_eq_true_eq] at hrange
    omega

theorem shift_ne_dotted (hc : isAscii c = false) : shift lowerOffsets c ≠ 'i' := by
  have htable : lowerOffsets.all fun r =>
      105 - r.offset < r.first || r.last < 105 - r.offset || 105 - r.offset < 128 := by
    decide +kernel
  simp only [isAscii, decide_eq_false_iff_not, Nat.not_lt] at hc
  intro h
  rcases exists_of_shift h (by decide) with rfl | ⟨r, hr, hfirst, hlast, hsum⟩
  . simp at hc
  . have hrange := List.all_eq_true.mp htable r hr
    change (c.toNat : Int) + r.offset = 105 at hsum
    simp only [Bool.or_eq_true, decide_eq_true_eq] at hrange
    omega

theorem caseless_cases (hc : isAscii c = false) :
    (c = 'İ' ∧ caseless c = ['i', '\u0307']) ∨ ∃ d, caseless c = [d] ∧ d ≠ 'i' := by
  unfold caseless lowerChar
  split
  next => exact .inr ⟨'σ', rfl, by decide⟩
  next =>
    split
    next h => exact .inl ⟨eq_of_beq h, rfl⟩
    next => exact .inr ⟨_, rfl, shift_ne_dotted hc⟩

theorem caseless_append_inj {cs ds : List Char} (hc : isForeignLetter c) (hd : isForeignLetter d)
    (h : caseless c ++ cs = caseless d ++ ds) : caseless c = caseless d ∧ cs = ds := by
  rcases caseless_cases (isAscii_eq_false_of_isForeignLetter hc) with ⟨rfl, hcs⟩ | ⟨c', hcs, hc'⟩
  . rcases caseless_cases (isAscii_eq_false_of_isForeignLetter hd) with ⟨rfl, _⟩ | ⟨d', hds, hd'⟩
    . exact ⟨rfl, List.append_cancel_left h⟩
    . simp only [hcs, hds, List.cons_append, List.nil_append, List.cons.injEq] at h
      exact absurd h.1.symm hd'
  . rcases caseless_cases (isAscii_eq_false_of_isForeignLetter hd) with ⟨rfl, hds⟩ | ⟨d', hds, hd'⟩
    . simp only [hcs, hds, List.cons_append, List.nil_append, List.cons.injEq] at h
      exact absurd h.1 hc'
    . simp only [hcs, hds, List.cons_append, List.nil_append, List.cons.injEq] at h
      exact ⟨by rw [hcs, hds, h.1], h.2⟩

end Letters

section Texts

variable {c d : Char} {cs ds before : List Char}

def plainSigma (c : Char) : Char :=
  if c == 'ς' then 'σ' else c

theorem map_plainSigma_lowerChar (c : Char) : (lowerChar c).map plainSigma = caseless c := by
  unfold caseless
  split
  next h =>
    rw [eq_of_beq h]
    decide +kernel
  next h =>
    unfold lowerChar
    split
    next => rfl
    next =>
      have hshift : shift lowerOffsets c ≠ 'ς' := shift_ne_final (by simpa using h)
      simp [plainSigma, hshift]

theorem map_plainSigma_lowerFrom (before cs : List Char) :
    (lowerFrom before cs).map plainSigma = cs.flatMap caseless := by
  induction cs generalizing before with
  | nil => rfl
  | cons c cs ih =>
    rw [lowerFrom, List.map_append, ih, List.flatMap_cons]
    congr 1
    split
    next h =>
      rw [eq_of_beq h]
      split <;> decide +kernel
    next => exact map_plainSigma_lowerChar c

theorem flatMap_caseless_filter (cs : List Char) :
    (cs.filter isAlphanumeric).flatMap caseless =
      ((words cs).map lowerList).flatten.map plainSigma := by
  have hlower (word : List Char) : (lowerList word).map plainSigma = word.flatMap caseless :=
    map_plainSigma_lowerFrom [] word
  rw [← (isWords_iff.mpr rfl : IsWords cs (words cs)).flatten_eq]
  induction words cs with
  | nil => rfl
  | cons word ws ih =>
    rw [List.flatten_cons, List.flatMap_append, ih, List.map_cons, List.flatten_cons,
      List.map_append, hlower]

theorem isAlphanumeric_of_isForeignLetter (h : isForeignLetter c) : isAlphanumeric c := by
  simp only [isForeignLetter, Bool.and_eq_true] at h
  exact isAlphanumeric_of_isLetter h.1

theorem forall₂_caseless (h : List.Forall₂ Exchangeable cs ds)
    (hwords : (words cs).map lowerList = (words ds).map lowerList) :
    List.Forall₂ (fun c d => caseless c = caseless d) cs ds := by
  have heq : (cs.filter isAlphanumeric).flatMap caseless =
      (ds.filter isAlphanumeric).flatMap caseless := by
    rw [flatMap_caseless_filter, flatMap_caseless_filter, hwords]
  clear hwords
  -- The induction is on the pairs; the letters that are left are the same up to their case.
  induction h with
  | nil => exact .nil
  | @cons c d cs ds hcd hrest ih =>
    rcases hcd with rfl | ⟨hc, hd⟩
    . refine .cons rfl (ih ?_)
      cases hc : isAlphanumeric c with
      | false => simpa [List.filter_cons_of_neg, hc] using heq
      | true => simpa [List.filter_cons_of_pos, hc] using heq
    . rw [List.filter_cons_of_pos (isAlphanumeric_of_isForeignLetter hc),
        List.filter_cons_of_pos (isAlphanumeric_of_isForeignLetter hd), List.flatMap_cons,
        List.flatMap_cons] at heq
      rcases caseless_append_inj hc hd heq with ⟨hletter, hlater⟩
      exact .cons hletter (ih hlater)

theorem kebabCase_eq_iff {s t : String} : kebabCase s = kebabCase t ↔
    (words s.toList).map lowerList = (words t.toList).map lowerList := by
  have hlowered (cs : List Char) : ∀ word ∈ (words cs).map lowerList, word ≠ [] ∧ '-' ∉ word := by
    have hwords : IsWords cs (words cs) := isWords_iff.mpr rfl
    rw [List.forall_mem_map]
    intro word hword
    exact ⟨lowerList_ne_nil (hwords.ne_nil word hword),
      hyphen_not_mem_lowerFrom (hwords.isAlphanumeric_of_mem word hword)⟩
  rw [← String.toList_inj, toList_kebabCase, toList_kebabCase,
    intercalate_inj (hlowered s.toList) (hlowered t.toList)]

end Texts

end QueryLinker.Text
