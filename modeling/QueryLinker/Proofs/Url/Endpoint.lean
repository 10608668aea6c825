import Mathlib.Data.List.DropRight
import QueryLinker.Proofs.Path.Basic
import QueryLinker.Url.Basic

/-!
This module contains that the address of a query endpoint is its own base address, and that slashes
at the end of a base address make no difference to it.
-/

namespace QueryLinker.Url

def slashes (n : Nat) : String :=
  String.ofList (List.replicate n '/')

theorem trimSlashes_append_slashes (url : String) (n : Nat) :
    trimSlashes (url ++ slashes n) = trimSlashes url := by
  unfold trimSlashes slashes
  rw [String.toList_append, String.toList_ofList, List.reverse_append, List.reverse_replicate]
  congr 2
  induction n with
  | zero => rfl
  | succ n ih => rw [List.replicate_succ, List.cons_append, List.dropWhile_cons_of_pos rfl, ih]

theorem trimSlashes_of_getLast? {url : String} (h : url.toList.getLast? ≠ some '/') :
    trimSlashes url = url := by
  unfold trimSlashes
  have hfront : url.toList.reverse.dropWhile (· == '/') = url.toList.reverse := by
    rw [List.getLast?_eq_head?_reverse] at h
    cases hchars : url.toList.reverse with
    | nil => rfl
    | cons c cs =>
      rw [hchars, List.head?_cons, Ne, Option.some.injEq] at h
      exact List.dropWhile_cons_of_neg (by simpa using h)
  rw [hfront, List.reverse_reverse, String.ofList_toList]

theorem trimSlashes_trimSlashes (url : String) :
    trimSlashes (trimSlashes url) = trimSlashes url := by
  unfold trimSlashes
  rw [String.toList_ofList, List.reverse_reverse, List.dropWhile_idempotent]

theorem endpoint_append_slashes (url : String) (n : Nat) :
    endpoint (url ++ slashes n) = endpoint url := by
  unfold endpoint
  rw [trimSlashes_append_slashes]

theorem exists_endpoint_eq (url : String) : ∃ address, endpoint url = address ++ slashes 1 ∧
    trimSlashes address = address ∧ address.endsWith "/graphql" := by
  unfold endpoint
  dsimp only
  split
  next hends => exact ⟨_, rfl, trimSlashes_trimSlashes url, hends⟩
  next =>
    refine ⟨trimSlashes url ++ "/graphql", ?_, ?_, ?_⟩
    . rw [String.append_assoc]
      rfl
    . apply trimSlashes_of_getLast?
      rw [String.toList_append]
      simp
    . rw [Text.endsWith_iff, String.toList_append]
      exact List.suffix_append _ _

theorem endpoint_endpoint (url : String) : endpoint (endpoint url) = endpoint url := by
  rcases exists_endpoint_eq url with ⟨address, heq, htrim, hends⟩
  rw [heq, endpoint_append_slashes, endpoint, htrim, if_pos hends]
  rfl

theorem endpoint_ne_empty (url : String) : endpoint url ≠ "" := by
  rcases exists_endpoint_eq url with ⟨address, heq, _⟩
  rw [heq]
  simp [slashes]

end QueryLinker.Url
