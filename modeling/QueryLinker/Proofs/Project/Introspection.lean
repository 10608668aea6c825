import QueryLinker.Project.Introspection
import QueryLinker.Proofs.Except
import QueryLinker.Proofs.Project.Session

/-!
This module contains when the question for the types of an endpoint fails, and when that is said to
be the fault of the endpoint, as it should be.
-/

namespace QueryLinker

theorem exists_of_mapM_eq_error {ε α β : Type} {f : α → Except ε β} {as : List α} {e : ε}
    (h : as.mapM f = .error e) : ∃ a ∈ as, f a = .error e := by
  induction as with
  | nil => cases h
  | cons a as ih =>
    rw [List.mapM_cons] at h
    cases ha : f a with
    | error e' =>
      rw [ha] at h
      cases h
      exact ⟨a, by simp, ha⟩
    | ok b =>
      rw [ha] at h
      change (as.mapM f >>= fun bs => pure (b :: bs)) = _ at h
      cases has : as.mapM f with
      | error e' =>
        rw [has] at h
        cases h
        rcases ih has with ⟨a', ha', hf⟩
        exact ⟨a', List.mem_cons_of_mem _ ha', hf⟩
      | ok bs =>
        rw [has] at h
        cases h

namespace Introspection

def Reports (payload errors : Json) : Prop :=
  payload.get? "errors" = some errors ∧ errors.isPresent = true

inductive Fails : Http.Outcome → Prop where
  | unreachable (text : String) : Fails (.unreachable text)
  | refused {r : Http.Response} (h : r.status ≠ success) : Fails (.response r)
  | unreadable {r : Http.Response} {e : Json.ReadError} (h : r.json = .error e) :
    Fails (.response r)
  | reports {r : Http.Response} {payload errors : Json} (hjson : r.json = .ok payload)
    (hreports : Reports payload errors) : Fails (.response r)

def AreObjects (errors : Json) : Prop :=
  ∃ items, errors = .arr items ∧ ∀ item ∈ items, ∃ members, item = .obj members

/--
An answer without surprises: if its status is the right one, it holds no integer that is too long to
be read, and the errors that it reports are an array of objects.
-/
def Regular : Http.Outcome → Prop
  | .unreachable _ => True
  | .response r => r.status = success →
    (∀ e, r.json = .error e → e.isLimit = false) ∧
      ∀ payload errors, r.json = .ok payload → Reports payload errors → AreObjects errors

theorem errorText_obj (members : List (LooseText × Json)) :
    ∃ text, errorText (.obj members) = .ok text :=
  ⟨_, rfl⟩

theorem errorText_of_ne {v : Json} (h : ∀ members, v ≠ .obj members) :
    errorText v = .error (.noAttribute v.sortText "get") := by
  cases v with
  | obj members => exact absurd rfl (h members)
  | _ => rfl

theorem exists_errorText_iff {v : Json} :
    (∃ text, errorText v = .ok text) ↔ ∃ members, v = .obj members := by
  constructor
  . rintro ⟨text, htext⟩
    by_contra hne
    rw [errorText_of_ne (not_exists.mp hne)] at htext
    cases htext
  . rintro ⟨members, rfl⟩
    exact errorText_obj members

theorem exists_text_of_elements {errors : Json} {items : List Json}
    (hpresent : errors.isPresent = true) (harray : ∀ items, errors ≠ .arr items)
    (h : elements errors = .ok items) : ∃ text, .str text ∈ items := by
  cases errors with
  | arr items => exact absurd rfl (harray items)
  | obj members =>
    cases h
    cases members with
    | nil => cases hpresent
    | cons member members => exact ⟨member.1, by simp⟩
  | str text =>
    cases h
    rcases text with ⟨_ | ⟨letter, letters⟩⟩
    . cases hpresent
    . exact ⟨⟨[letter]⟩, by simp [LooseText.pieces]⟩
  | _ => cases h

theorem exists_texts_iff {errors : Json} (hpresent : errors.isPresent = true) :
    (∃ items texts, elements errors = .ok items ∧ items.mapM errorText = .ok texts) ↔
      AreObjects errors := by
  constructor
  . rintro ⟨items, texts, hitems, htexts⟩
    have hobjects := exists_forall₂_iff.mp ⟨texts, mapM_eq_ok_iff.mp htexts⟩
    simp only [exists_errorText_iff] at hobjects
    by_cases harray : ∃ items, errors = .arr items
    . rcases harray with ⟨items', rfl⟩
      cases hitems
      exact ⟨items, rfl, hobjects⟩
    . rcases exists_text_of_elements hpresent (not_exists.mp harray) hitems with ⟨text, htext⟩
      rcases hobjects _ htext with ⟨_, hmembers⟩
      cases hmembers
  . rintro ⟨items, rfl, hobjects⟩
    rcases exists_forall₂_iff.mpr fun item hitem => exists_errorText_iff.mpr (hobjects item hitem)
      with ⟨texts, htexts⟩
    exact ⟨items, texts, rfl, mapM_eq_ok_iff.mpr htexts⟩

theorem not_endpoint_of_elements {errors : Json} {f : RunFailure} (h : elements errors = .error f)
    (message : String) : f ≠ .endpoint message := by
  unfold elements at h
  split at h
  . cases h
  . cases h
    nofun

theorem not_endpoint_of_errorText {v : Json} {f : RunFailure} (h : errorText v = .error f)
    (message : String) : f ≠ .endpoint message := by
  cases v <;> cases h <;> nofun

theorem data_eq_of_reports {payload errors : Json} (h : Reports payload errors) :
    data payload = (elements errors >>= fun items => items.mapM errorText >>= fun texts =>
      throw (.endpoint ("Introspection errors: " ++ "; ".intercalate texts))) := by
  rcases h with ⟨herrors, hpresent⟩
  cases payload with
  | obj members =>
    unfold data
    dsimp only
    rw [herrors, Option.getD_some, if_pos hpresent]
    rfl
  | _ => cases herrors

theorem data_of_reports {payload errors : Json} (h : Reports payload errors) :
    ∃ f, data payload = .error f ∧ ((∃ message, f = .endpoint message) ↔ AreObjects errors) := by
  rw [data_eq_of_reports h, ← exists_texts_iff h.2]
  cases hitems : elements errors with
  | error f =>
    refine ⟨f, rfl, ?_⟩
    simp [not_endpoint_of_elements hitems]
  | ok items =>
    cases htexts : items.mapM errorText with
    | error f =>
      rcases exists_of_mapM_eq_error htexts with ⟨item, _, hitem⟩
      refine ⟨f, by simp only [bind, Except.bind, htexts], ?_⟩
      simp [not_endpoint_of_errorText hitem, htexts]
    | ok texts =>
      refine ⟨_, by simp only [bind, Except.bind, htexts]; rfl, ?_⟩
      simp [htexts]

theorem data_eq_ok_iff {payload found : Json} :
    data payload = .ok found ↔
      (∀ errors, ¬ Reports payload errors) ∧ payload.get? "data" = some found := by
  by_cases hreports : ∃ errors, Reports payload errors
  . rcases hreports with ⟨errors, hreports⟩
    rcases data_of_reports hreports with ⟨f, hf, _⟩
    rw [hf]
    exact ⟨nofun, fun h => absurd hreports (h.1 errors)⟩
  . rw [not_exists] at hreports
    cases payload with
    | obj members =>
      have habsent : ((Json.get? "errors" (.obj members)).getD .null).isPresent ≠ true := by
        cases herrors : Json.get? "errors" (.obj members) with
        | none => simp [Json.isPresent]
        | some errors => exact fun hpresent => hreports errors ⟨herrors, hpresent⟩
      unfold data
      dsimp only
      rw [if_neg habsent]
      cases Json.get? "data" (.obj members) with
      | none => simp [throw, throwThe, MonadExceptOf.throw]
      | some found' => simp [pure, Except.pure, hreports]
    | _ => simp [data, Json.get?]

section

variable {url : String} {r : Http.Response}

theorem ofOutcome_of_refused (url : String) (h : r.status ≠ success) :
    ∃ message, ofOutcome url (.response r) = .error (.endpoint message) := by
  unfold ofOutcome
  dsimp only
  rw [if_pos (by rw [bne_iff_ne]; exact h)]
  exact ⟨_, rfl⟩

theorem ofOutcome_of_unreadable {e : Json.ReadError} (hstatus : r.status = success)
    (h : r.json = .error e) :
    ∃ f, ofOutcome url (.response r) = .error f ∧
      ((∃ message, f = .endpoint message) ↔ e.isLimit = false) := by
  unfold ofOutcome
  dsimp only
  rw [if_neg (by simp [hstatus]), h]
  dsimp only
  split
  next hlimit => exact ⟨_, rfl, by simp [hlimit]⟩
  next hlimit => exact ⟨_, rfl, by simp [hlimit]⟩

theorem ofOutcome_of_json {payload : Json} (hstatus : r.status = success)
    (h : r.json = .ok payload) : ofOutcome url (.response r) = data payload := by
  unfold ofOutcome
  dsimp only
  rw [if_neg (by simp [hstatus]), h]

theorem ofOutcome_of_fails (url : String) {outcome : Http.Outcome} (h : Fails outcome) :
    ∃ f, ofOutcome url outcome = .error f ∧
      ((∃ message, f = .endpoint message) ↔ Regular outcome) := by
  cases outcome with
  | unreachable text => exact ⟨_, rfl, fun _ => trivial, fun _ => ⟨_, rfl⟩⟩
  | response r =>
    by_cases hstatus : r.status = success
    . cases hjson : r.json with
      | error e =>
        rcases ofOutcome_of_unreadable hstatus hjson with ⟨f, hf, hiff⟩
        refine ⟨f, hf, hiff.trans ?_⟩
        simp [Regular, hstatus, hjson]
      | ok payload =>
        have hreports : ∃ errors, Reports payload errors := by
          cases h with
          | refused hrefused => exact absurd hstatus hrefused
          | unreadable herror => cases hjson.symm.trans herror
          | reports hok hreports =>
            cases hjson.symm.trans hok
            exact ⟨_, hreports⟩
        rcases hreports with ⟨errors, hreports⟩
        rcases data_of_reports hreports with ⟨f, hf, hiff⟩
        refine ⟨f, (ofOutcome_of_json hstatus hjson).trans hf, hiff.trans ?_⟩
        constructor
        . intro hobjects _
          constructor
          . intro e he
            cases hjson.symm.trans he
          intro payload' errors' hok hreports'
          cases hjson.symm.trans hok
          cases hreports.1.symm.trans hreports'.1
          exact hobjects
        . exact fun hregular => (hregular hstatus).2 payload errors hjson hreports
    . rcases ofOutcome_of_refused url hstatus with ⟨message, hmessage⟩
      exact ⟨_, hmessage, fun _ hsuccess => absurd hsuccess hstatus, fun _ => ⟨message, rfl⟩⟩

theorem ofOutcome_eq_ok_iff {outcome : Http.Outcome} {found : Json} :
    ofOutcome url outcome = .ok found ↔
      ¬ Fails outcome ∧ ∃ r payload, outcome = .response r ∧ r.json = .ok payload ∧
        payload.get? "data" = some found := by
  constructor
  . intro h
    have hfails : ¬ Fails outcome := by
      intro hfails
      rcases ofOutcome_of_fails url hfails with ⟨f, hf, _⟩
      cases hf.symm.trans h
    refine ⟨hfails, ?_⟩
    cases outcome with
    | unreachable text => exact absurd (.unreachable text) hfails
    | response r =>
      have hstatus : r.status = success := by
        by_contra hrefused
        exact hfails (.refused hrefused)
      cases hjson : r.json with
      | error e => exact absurd (.unreadable hjson) hfails
      | ok payload =>
        rw [ofOutcome_of_json hstatus hjson, data_eq_ok_iff] at h
        exact ⟨r, payload, rfl, hjson, h.2⟩
  . rintro ⟨hfails, r, payload, rfl, hjson, hdata⟩
    have hstatus : r.status = success := by
      by_contra hrefused
      exact hfails (.refused hrefused)
    rw [ofOutcome_of_json hstatus hjson, data_eq_ok_iff]
    exact ⟨fun errors hreports => hfails (.reports hjson hreports), hdata⟩

end

theorem fails_ofServer_iff {url : String} {outcome : Http.Outcome} :
    Fails (outcome.ofServer url) ↔ Fails outcome := by
  cases outcome with
  | unreachable text => exact Iff.rfl
  | response r =>
    constructor
    . intro h
      cases h with
      | refused hstatus => exact .refused (r := r) hstatus
      | unreadable hjson => exact .unreadable (r := r) hjson
      | reports hjson hreports => exact .reports (r := r) hjson hreports
    . intro h
      cases h with
      | refused hstatus => exact .refused hstatus
      | unreadable hjson => exact .unreadable hjson
      | reports hjson hreports => exact .reports hjson hreports

theorem regular_ofServer_iff {url : String} {outcome : Http.Outcome} :
    Regular (outcome.ofServer url) ↔ Regular outcome := by
  cases outcome <;> exact Iff.rfl

/--
One question is asked. If it fails, its failure is reported as one of the endpoint exactly if the
answer is regular; only what does not fail has data, and it gives those of the answer.
-/
theorem run_reports_failures (url : String) (token? : Option String) (outcome : Http.Outcome)
    (outcomes : List Http.Outcome) (s : Session) :
    ∃ result, (run url token?).run { s with outcomes := outcome :: outcomes } =
        (result, { s with outcomes, requests := s.requests ++ [request url token?] }) ∧
      (Fails outcome → ∃ f, result = .error f ∧
        ((∃ message, f = .endpoint message) ↔ Regular outcome)) ∧
      ∀ found, result = .ok found ↔ ¬ Fails outcome ∧ ∃ r payload, outcome = .response r ∧
        r.json = .ok payload ∧ payload.get? "data" = some found := by
  refine ⟨ofOutcome url (outcome.ofServer url), ?_, ?_, ?_⟩
  . have hpost := Session.run_post (request url token?)
      { s with outcomes := outcome :: outcomes }
    unfold run
    rw [Work.run_bind_ok hpost]
    exact Work.run_lift _ _
  . intro hfails
    rcases ofOutcome_of_fails url (fails_ofServer_iff.mpr hfails) with ⟨f, hf, hiff⟩
    exact ⟨f, hf, hiff.trans regular_ofServer_iff⟩
  . intro found
    rw [ofOutcome_eq_ok_iff, fails_ofServer_iff]
    apply and_congr_right
    intro _
    cases outcome with
    | unreachable text => exact ⟨nofun, nofun⟩
    | response r =>
      constructor
      . rintro ⟨_, payload, ⟨⟩, hjson, hdata⟩
        exact ⟨r, payload, rfl, hjson, hdata⟩
      . rintro ⟨_, payload, ⟨⟩, hjson, hdata⟩
        exact ⟨_, payload, rfl, hjson, hdata⟩

def textError : Http.Response where
  url := "http://e/graphql/"
  body := "\x7b\"errors\": [\"boom\"]\x7d"

def textErrorValue : Json :=
  .obj [(.ofString "errors", .arr [.str (.ofString "boom")])]

theorem json_textError : textError.json = .ok textErrorValue := by
  unfold textError Http.Response.json
  cbv

theorem reports_textError : Reports textErrorValue (.arr [.str (.ofString "boom")]) := by
  constructor
  . rw [textErrorValue, Json.get?, List.lookup_cons_self]
  . rfl

/-- A text among the errors of an answer is asked for its message, and the failure is another. -/
theorem run_misreports_text : ∃ f, Fails (.response textError) ∧
    (∀ s : Session, ((run textError.url none).run
      { s with outcomes := [.response textError] }).1 = .error f) ∧
    f.message? = some "'str' object has no attribute 'get'" ∧
    ∀ message, f ≠ .endpoint message := by
  refine ⟨.noAttribute "str" "get", .reports json_textError reports_textError, ?_,
    by decide +kernel, nofun⟩
  intro s
  have hpost := Session.run_post (request textError.url none)
    { s with outcomes := [.response textError] }
  unfold run
  rw [Work.run_bind_ok hpost, Work.run_lift]
  dsimp only
  exact (ofOutcome_of_json rfl json_textError).trans (data_eq_of_reports reports_textError)

end Introspection

end QueryLinker
